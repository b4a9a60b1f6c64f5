import Bindery.Binding.Error
import Bindery.Category.Method

/-!
# Preference bindings

A preference field is read from the shared preferences of the host if they hold its key, with the
getter of its type. Only the types that preferences can store are supported.
-/

namespace Bindery.Category.Preference

/-- How a value of a type is read from preferences. -/
structure Accessor where
  /-- The method that reads a value. -/
  getter : String
  /-- Its second argument, the value of an absent preference. -/
  default : String
  deriving DecidableEq, Repr, Inhabited

/-- The type of a set of texts. -/
def stringSet : String := "java.util.Set<java.lang.String>"

/-- The types that preferences store, with their accessors. -/
def accessors : List (String × Accessor) :=
  [("boolean", ⟨"getBoolean", "false"⟩), ("java.lang.Boolean", ⟨"getBoolean", "false"⟩),
   ("int", ⟨"getInt", "0"⟩), ("java.lang.Integer", ⟨"getInt", "0"⟩),
   ("long", ⟨"getLong", "0L"⟩), ("java.lang.Long", ⟨"getLong", "0L"⟩),
   ("float", ⟨"getFloat", "0f"⟩), ("java.lang.Float", ⟨"getFloat", "0f"⟩),
   ("java.lang.String", ⟨"getString", "null"⟩),
   (stringSet, ⟨"getStringSet", "null"⟩)]

/-- The accessor for a type, if preferences can store it. -/
def accessor? (type : String) : Option Accessor :=
  accessors.lookup type

/-- A preference field needs a key and a type that preferences can store. -/
def check (f : Field) : Except Rejection Unit :=
  if f.explicitKey.isNone then .error .missingKey
  else if (accessor? f.type).isNone then .error (.unsupportedType f.type)
  else .ok ()

/-- The warnings that binding `f` causes: a set is read without a check of its elements. -/
def warnings (f : Field) : List String :=
  if f.type = stringSet then ["unchecked"] else []

/-- Every host can read preferences. -/
def supports (_kind : HostKind) : Bool := true

/-- The guarded read of one preference; accepted fields have an accessor and a key. -/
def bindStatements (f : Field) : List Statement :=
  match accessor? f.type with
  | none => []
  | some accessor =>
    let key := Target.literal (f.explicitKey.getD f.name)
    [.branch ("preferences.contains(" ++ key ++ ")")
      [assignStatement f
        ("preferences." ++ accessor.getter ++ "(" ++ key ++ ", " ++ accessor.default ++ ")")]]

/-- The statement that opens the preferences of the host. -/
def openStatement : Statement :=
  .expr "android.content.SharedPreferences preferences = getPreferences(target)"

/-- The members for the accepted fields. -/
def members (host : Host) (fields : List Field) : List Member :=
  [bindingMethod host "bindPreferences" [] (openStatement :: fields.flatMap bindStatements)]

end Bindery.Category.Preference
