import Bindery.Manifest.Schema
import Bindery.Target.Identifier

/-!
# Manifest errors

Why a text is not accepted as a manifest. An error names its cause and the places in the text that
it is about; the wording is in `ManifestFault.message`, `ManifestFault.help` and
`ManifestFault.labels`.
-/

namespace Bindery

open Text (Span)

/-- What a name is the name of. -/
inductive NameRole where
  | host
  /-- A field of the host of the given name. -/
  | fieldOf (owner : String)
  deriving DecidableEq, Repr, Inhabited

/-- The wording of a role. -/
def NameRole.text : NameRole → String
  | host => "host"
  | fieldOf owner => "field in '" ++ owner ++ "'"

/-- Why a text is not accepted as a manifest. -/
inductive ManifestFault where
  /-- The file cannot be read. -/
  | unreadable (path : String)
  /-- The text is no document. -/
  | notADocument
  /-- The document has the wrong shape. -/
  | badShape (error : SchemaError)
  /-- Two hosts have one name. -/
  | duplicateHost (name : String) (first second : Option Span)
  /-- A name, or a segment of it, is a reserved word. -/
  | reservedWord (name : String) (role : NameRole) (span : Option Span)
  /-- A name is not well formed. -/
  | invalidIdentifier (name : String) (role : NameRole) (fault : Target.IdentifierFault)
      (span : Option Span)
  /-- The package is not in front of the host's name. -/
  | packageMismatch (package host : String) (span : Option Span)
  /-- A field has a blank type. -/
  | blankType (field host : String) (span : Option Span)
  deriving DecidableEq, Repr, Inhabited

/-- An error and the file it is in. -/
structure ManifestError where
  /-- The cause. -/
  fault : ManifestFault
  /-- The name of the file. -/
  file : String
  deriving DecidableEq, Repr, Inhabited

/-- A remark on a place of the text. -/
structure Label where
  /-- The remark. -/
  text : String
  /-- The place. -/
  span : Span
  deriving DecidableEq, Repr, Inhabited

namespace ManifestFault

/-- The wording of a fault. -/
def message : ManifestFault → String
  | unreadable path => "failed to read '" ++ path ++ "'"
  | notADocument => "failed to parse shiv.toml"
  | badShape _ => "failed to parse shiv.toml"
  | duplicateHost name _ _ => "host '" ++ name ++ "' is declared more than once"
  | reservedWord name _ _ => "'" ++ name ++ "' is a Java reserved keyword"
  | invalidIdentifier name role _ _ => "invalid " ++ role.text ++ " name '" ++ name ++ "'"
  | packageMismatch package host _ =>
    "package '" ++ package ++ "' does not enclose host '" ++ host ++ "'"
  | blankType field host _ => "field '" ++ field ++ "' in '" ++ host ++ "' has an empty type"

/-- The diagnostic code of a fault, if it has one. -/
def code : ManifestFault → Option String
  | unreadable _ => none
  | notADocument => some "shiv::parse_error"
  | badShape _ => some "shiv::parse_error"
  | duplicateHost .. => some "shiv::duplicate_host"
  | reservedWord .. => none
  | invalidIdentifier .. => none
  | packageMismatch .. => some "shiv::manifest_error"
  | blankType .. => some "shiv::manifest_error"

/-- Advice on how to mend the manifest, if there is any. -/
def help : ManifestFault → Option String
  | unreadable _ => some "pass the manifest location with --config"
  | notADocument => none
  | badShape _ => none
  | duplicateHost .. => some "merge the fields of both declarations into one [[host]] table"
  | reservedWord _ role _ =>
    some ("rename the " ++ role.text ++ " in the Java source and in shiv.toml")
  | invalidIdentifier _ _ fault _ =>
    some (fault.message
      ++ ". Use only letters, digits, '_' and '$', not starting with a digit.")
  | packageMismatch .. => none
  | blankType .. => none

/-- The remarks of a fault with their places, if these are known. -/
def remarks (fault : ManifestFault) : List (String × Option Span) :=
  match fault with
  | unreadable _ => []
  | notADocument => []
  | badShape error => [("parse error here", error.span)]
  | duplicateHost _ first second =>
    [("first declared here", first), ("declared again here", second)]
  | reservedWord _ _ span => [("reserved keyword used here", span)]
  | invalidIdentifier _ _ _ span => [("invalid identifier", span)]
  | packageMismatch _ _ span => [(fault.message, span)]
  | blankType _ _ span => [(fault.message, span)]

/-- The remarks whose place is known. -/
def labels (fault : ManifestFault) : List Label :=
  fault.remarks.filterMap fun r => r.2.map fun span => { text := r.1, span }

end ManifestFault

end Bindery
