/-!
# Generation options

One option is shared by all binders of a run: the package that holds the runtime classes.
-/

namespace Bindery

/-- The options of a run. -/
structure Options where
  /-- The package of the base class and of the exception, empty for the default package. -/
  runtimePackage : String := "me.oriley.shiv"
  deriving DecidableEq, Repr, Inhabited

namespace Options

/-- The qualified name of a runtime class. -/
def runtimeClass (options : Options) (name : String) : String :=
  if options.runtimePackage = "" then name else options.runtimePackage ++ "." ++ name

/-- The base class of every binder. -/
def binderClass (options : Options) : String :=
  options.runtimeClass "Binder"

/-- The exception thrown when a required value is missing. -/
def exceptionClass (options : Options) : String :=
  options.runtimeClass "ShivException"

end Options

end Bindery
