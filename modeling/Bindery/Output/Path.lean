/-!
# Paths

Paths are texts whose parts are separated by slashes. Joining an absolute path replaces what stood
before it; a part goes behind a single slash; nothing stands in front of the first part.
-/

namespace Bindery.Output

/-- Whether a path starts at the root. -/
def isAbsolute (path : String) : Bool :=
  path.toList.head? == some '/'

/-- Whether a path ends with a separator. -/
def endsWithSlash (path : String) : Bool :=
  path.toList.getLast? == some '/'

/-- The path `part` seen from `base`. -/
def join (base part : String) : String :=
  if isAbsolute part then part
  else if base = "" ∨ endsWithSlash base then base ++ part
  else base ++ "/" ++ part

/-- The parts joined one after the other onto `base`. -/
def joinAll (base : String) (parts : List String) : String :=
  parts.foldl join base

end Bindery.Output
