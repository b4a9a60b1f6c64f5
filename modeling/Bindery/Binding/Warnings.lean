import Bindery.Class.Spec
import Bindery.Text.Basic

/-!
# Suppressed warnings

The set of compiler warnings that generated source suppresses. The set keeps the order in which its
tokens first came in, because that order is printed.

## Main definitions

* `Warnings.insert`, `Warnings.insertNew`, `Warnings.merge`: the ordered set operations
* `Warnings.value`, `Warnings.suppression?`: the set as an annotation argument and as an annotation
-/

namespace Bindery

/-- A set of warning tokens in the order of first insertion. -/
structure Warnings where
  /-- The tokens, oldest first. -/
  tokens : List String := []
  deriving DecidableEq, Repr, Inhabited

namespace Warnings

/-- The set without tokens. -/
def empty : Warnings := {}

/-- Whether `token` is in the set. -/
def contains (ws : Warnings) (token : String) : Bool :=
  ws.tokens.contains token

/-- The set with `token`, which goes to the end if it is new. -/
def insert (ws : Warnings) (token : String) : Warnings :=
  if ws.contains token then ws else { tokens := ws.tokens ++ [token] }

/-- Insert `token` and tell whether it was new. -/
def insertNew (ws : Warnings) (token : String) : Bool × Warnings :=
  if ws.contains token then (false, ws) else (true, { tokens := ws.tokens ++ [token] })

/-- The set with the tokens of `ts` inserted one after the other. -/
def insertAll (ws : Warnings) (ts : List String) : Warnings :=
  ts.foldl insert ws

/-- The set with every token of `other`, in its order. -/
def merge (ws other : Warnings) : Warnings :=
  ws.insertAll other.tokens

/-- The set as an array of string literals. -/
def value (ws : Warnings) : String :=
  "\x7b" ++ Text.join ", " (ws.tokens.map fun t => "\"" ++ t ++ "\"") ++ "\x7d"

/-- The annotation that suppresses the warnings; no warnings need none. -/
def suppression? (ws : Warnings) : Option AnnotationSpec :=
  if ws.tokens.isEmpty then none
  else some { name := "java.lang.SuppressWarnings", members := [("value", ws.value)] }

end Warnings

end Bindery
