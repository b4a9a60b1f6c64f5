import Bindery.Decimal.Shortest
import Bindery.Document.Node
import Bindery.Manifest.Declaration
import Bindery.Text.Escaped

/-!
# The manifest schema

Which documents are manifests, and the declarations they hold. The entries of a table are read in
ascending order of their keys and the items of an array in order; the first fault ends the reading.
A fault is placed at the smallest part of the document that is known to be at fault.

Where a record is expected, an array is read as the values of its fields in the order of their
declaration.

## Main definitions

* `SchemaFault`, `SchemaFault.message`: how a document misses the schema
* `Manifest.ofEntries`: the manifest that a document denotes
-/

namespace Bindery

open Text (Span)
open Document (Node Key Entries)

/-- A record that the schema knows. -/
structure RecordShape where
  /-- The name of the record in messages. -/
  name : String
  /-- The names of its fields, in order of declaration, each with whether it can be left out of an
  array. -/
  fields : List (String × Bool)
  deriving DecidableEq, Repr, Inhabited

/-- How a document misses the schema. -/
inductive SchemaFault where
  /-- The key names no field of the record. -/
  | unknownField (name : String) (expected : List String)
  /-- The field has to be there. -/
  | missingField (name : String)
  /-- The value is of another type. -/
  | wrongType (found expected : String)
  /-- The value is of the right type but out of range. -/
  | wrongValue (found expected : String)
  /-- The text names no variant. -/
  | unknownVariant (name : String) (expected : List String)
  /-- A variant is a text, or a table with one key. -/
  | noVariant
  /-- The table has no key to name a variant. -/
  | emptyVariantTable
  /-- The table has more than one key. -/
  | crowdedVariantTable
  /-- The value of the variant's key is an array with items. -/
  | filledVariantArray
  /-- The value of the variant's key is a table with entries. -/
  | filledVariantTable
  /-- The value of the variant's key is neither. -/
  | badVariantValue (found : String)
  /-- The array ends in front of a field that has to be there. -/
  | tooShort (length : Nat) (record : String) (size : Nat)
  /-- The integer fits no machine word. -/
  | integerOverflow
  /-- The number is too large for its format. -/
  | floatOverflow
  deriving DecidableEq, Repr, Inhabited

/-- A list of alternatives in a message. -/
def alternatives (names : List String) : String :=
  match names.map fun n => "`" ++ n ++ "`" with
  | [a] => a
  | [a, b] => a ++ " or " ++ b
  | quoted => "one of " ++ Text.join ", " quoted

/-- The wording of a fault. -/
def SchemaFault.message : SchemaFault → String
  | unknownField name expected =>
    "unknown field `" ++ name ++ "`, expected " ++ alternatives expected
  | missingField name => "missing field `" ++ name ++ "`"
  | wrongType found expected => "invalid type: " ++ found ++ ", expected " ++ expected
  | wrongValue found expected => "invalid value: " ++ found ++ ", expected " ++ expected
  | unknownVariant name expected =>
    "unknown variant `" ++ name ++ "`, expected " ++ alternatives expected
  | noVariant => "wanted string or table"
  | emptyVariantTable => "wanted exactly 1 element, found 0 elements"
  | crowdedVariantTable => "wanted exactly 1 element, more than 1 element"
  | filledVariantArray => "expected empty array"
  | filledVariantTable => "expected empty table"
  | badVariantValue found => "expected table, found " ++ found
  | tooShort length record size =>
    "invalid length " ++ toString length ++ ", expected struct " ++ record ++ " with "
      ++ toString size ++ (if size = 1 then " element" else " elements")
  | integerOverflow => "integer number overflowed"
  | floatOverflow => "floating-point number overflowed"

/-- A fault with its place, once it is known. -/
structure SchemaError where
  /-- What is wrong. -/
  fault : SchemaFault
  /-- Where it is wrong. -/
  span : Option Span := none
  deriving DecidableEq, Repr, Inhabited

namespace Schema

/-- A reading that may end in a fault. -/
abbrev Result (α : Type) := Except SchemaError α

/-- A fault without a place. -/
def fail {α : Type} (fault : SchemaFault) : Result α :=
  .error { fault }

/-- Place a fault at `span`, unless a smaller part of the document is at fault. -/
def within {α : Type} (span : Span) : Result α → Result α
  | .error { fault, span := none } => .error { fault, span := some span }
  | r => r

/-- Whether an integer fits a word of the given number of bits, one of them for the sign. -/
def fitsSigned (bits : Nat) (n : Int) : Bool :=
  -(Nat.pow 2 (bits - 1) : Int) ≤ n && n < (Nat.pow 2 (bits - 1) : Int)

/-- Whether an integer fits a word of the given number of bits without a sign. -/
def fitsUnsigned (bits : Nat) (n : Int) : Bool :=
  0 ≤ n && n < (Nat.pow 2 bits : Int)

/-! ## Single values -/

/-- What an integer is called, which depends on the smallest machine word that holds it. -/
def describeInteger (n : Int) : Except SchemaFault String :=
  let text := "integer `" ++ toString n ++ "`"
  if fitsSigned 64 n || fitsUnsigned 64 n then .ok text
  else if fitsSigned 128 n then .ok (text ++ " as i128")
  else if fitsUnsigned 128 n then .ok (text ++ " as u128")
  else .error .integerOverflow

/-- What a value is called where another one was expected. What is written as an integer but is no
number fits no machine word. -/
def describe : Node → Except SchemaFault String
  | .string _ text => .ok ("string " ++ Text.escaped text)
  | .integer _ (some n) => describeInteger n
  | .integer _ none => .error .integerOverflow
  | .float _ x =>
    match x.shortestText? with
    | some text => .ok ("floating point `" ++ text ++ "`")
    | none => .error .floatOverflow
  | .boolean _ b => .ok (if b then "boolean `true`" else "boolean `false`")
  | .array .. => .ok "sequence"
  | .table .. => .ok "map"
  | .datetime _ => .ok "map"

/-- The word for a type of value. -/
def typeName : Node → String
  | .string .. => "string"
  | .integer .. => "integer"
  | .float .. => "float"
  | .boolean .. => "boolean"
  | .datetime _ => "datetime"
  | .array .. => "array"
  | .table .. => "table"

/-- The fault of a value that is none of the expected ones. -/
def mismatch {α : Type} (node : Node) (expected : String) : Result α :=
  match describe node with
  | .ok found => fail (.wrongType found expected)
  | .error fault => fail fault

/-- A text. -/
def string (node : Node) : Result String :=
  within node.span <|
    match node with
    | .string _ text => .ok text
    | node => mismatch node "a string"

/-- A truth value. -/
def boolean (node : Node) : Result Bool :=
  within node.span <|
    match node with
    | .boolean _ b => .ok b
    | node => mismatch node "a boolean"

/-- An integer of 64 bits, sign included. -/
def integer64 (node : Node) : Result Int :=
  within node.span <|
    match node with
    | .integer _ (some n) =>
      if fitsSigned 64 n then .ok n
      else if fitsUnsigned 64 n then
        fail (.wrongValue ("integer `" ++ toString n ++ "`") "i64")
      else mismatch node "i64"
    | node => mismatch node "i64"

/-- A list whose items are read by `item`. -/
def listOf {α : Type} (item : Node → Result α) (node : Node) : Result (List α) :=
  within node.span <|
    match node with
    | .array _ _ items => items.mapM item
    | node => mismatch node "a sequence"

/-- The value of a variant's key: it has to be empty. -/
def emptyValue (node : Node) : Result Unit :=
  within node.span <|
    match node with
    | .array _ _ [] => .ok ()
    | .array .. => fail .filledVariantArray
    | .table _ _ [] => .ok ()
    | .table .. => fail .filledVariantTable
    | node => fail (.badVariantValue (typeName node))

/-! ## Variants -/

/-- One of some variants, given by its name or by a table whose one key is its name. -/
def variant {α : Type} (all : List α) (name : α → String) (node : Node) : Result α :=
  let named (text : String) : Result α :=
    match all.find? fun a => name a == text with
    | some a => .ok a
    | none => fail (.unknownVariant text (all.map name))
  within node.span <|
    match node with
    | .string _ text => named text
    | .table _ _ [] => fail .emptyVariantTable
    | .table _ _ [(key, value)] => do
      let a ← within key.span (named key.text)
      emptyValue value
      return a
    | .table .. => fail .crowdedVariantTable
    | _ => fail .noVariant

/-- The key that stands for a date or a time where a record is expected. -/
def datetimeKey : String := "$__toml_private_datetime"

/-! ## Records -/

/-- A record: `entry` reads the value of a field into a draft, and `finish` completes the draft. -/
def record {δ α : Type} (shape : RecordShape) (draft : δ)
    (entry : δ → String → Node → Result δ) (finish : δ → Result α) (node : Node) : Result α :=
  let names := shape.fields.map Prod.fst
  within node.span <|
    match node with
    | .table _ _ entries => do
      let draft ← entries.foldlM (fun d (key, value) =>
        if names.contains key.text then entry d key.text value
        else within key.span (fail (.unknownField key.text names))) draft
      finish draft
    | .array _ _ items => do
      let draft ← (names.zip items).foldlM (fun d (name, value) => entry d name value) draft
      match ((shape.fields.drop items.length).map Prod.snd).idxOf? false with
      | some i => fail (.tooShort (items.length + i) shape.name shape.fields.length)
      | none => finish draft
    | .datetime _ => fail (.unknownField datetimeKey names)
    | node => mismatch node ("struct " ++ shape.name)

/-- A field that has to be there. -/
def required {α : Type} (name : String) : Option α → Result α
  | some a => .ok a
  | none => fail (.missingField name)

/-! ## Declarations -/

/-- What is known of a field declaration while it is read. -/
structure FieldDraft where
  name : Option String := none
  type : Option String := none
  bind : Option String := none
  id : Option Int := none
  key : Option String := none
  optional : Bool := false
  modifiers : List FieldModifier := []

/-- The record of a field declaration. -/
def fieldShape : RecordShape where
  name := "FieldDecl"
  fields :=
    [("name", false), ("type", false), ("bind", false), ("id", false), ("key", false),
     ("optional", true), ("modifiers", true)]

/-- The draft after one more entry of a field declaration. -/
def FieldDraft.entry (d : FieldDraft) (name : String) (value : Node) : Result FieldDraft :=
  match name with
  | "name" => return { d with name := some (← string value) }
  | "type" => return { d with type := some (← string value) }
  | "bind" => return { d with bind := some (← string value) }
  | "id" => return { d with id := some (← integer64 value) }
  | "key" => return { d with key := some (← string value) }
  | "optional" => return { d with optional := ← boolean value }
  | "modifiers" =>
    return { d with
      modifiers := ← listOf (variant FieldModifier.all FieldModifier.name) value }
  | _ => return d

/-- The complete declaration. -/
def FieldDraft.finish (d : FieldDraft) : Result FieldDecl :=
  return {
    name := ← required "name" d.name
    type := ← required "type" d.type
    bind := ← required "bind" d.bind
    id := d.id
    key := d.key
    optional := d.optional
    modifiers := d.modifiers }

/-- A field declaration. -/
def fieldDecl : Node → Result FieldDecl :=
  record fieldShape {} FieldDraft.entry FieldDraft.finish

/-- What is known of a host declaration while it is read. -/
structure HostDraft where
  name : Option String := none
  kind : HostKind := .other
  package : Option String := none
  fields : List FieldDecl := []

/-- The record of a host declaration. -/
def hostShape : RecordShape where
  name := "HostDecl"
  fields := [("name", false), ("kind", true), ("package", false), ("field", true)]

/-- The draft after one more entry of a host declaration. -/
def HostDraft.entry (d : HostDraft) (name : String) (value : Node) : Result HostDraft :=
  match name with
  | "name" => return { d with name := some (← string value) }
  | "kind" => return { d with kind := ← variant HostKind.all HostKind.name value }
  | "package" => return { d with package := some (← string value) }
  | "field" => return { d with fields := ← listOf fieldDecl value }
  | _ => return d

/-- The complete declaration. -/
def HostDraft.finish (d : HostDraft) : Result HostDecl :=
  return {
    name := ← required "name" d.name
    kind := d.kind
    package := d.package
    fields := d.fields }

/-- A host declaration. -/
def hostDecl : Node → Result HostDecl :=
  record hostShape {} HostDraft.entry HostDraft.finish

/-- The record of the options. -/
def optionsShape : RecordShape where
  name := "CodegenOptions"
  fields := [("runtime_package", true)]

/-- The options after one more entry. -/
def optionsEntry (o : Options) (name : String) (value : Node) : Result Options :=
  match name with
  | "runtime_package" => return { o with runtimePackage := ← string value }
  | _ => return o

/-- The options. -/
def options : Node → Result Options :=
  record optionsShape {} optionsEntry .ok

/-- The names of the entries of a manifest, in order of declaration. -/
def manifestFields : List String := ["options", "host"]

/-- The manifest after one more entry. -/
def manifestEntry (m : Manifest) (key : Key) (value : Node) : Result Manifest :=
  match key.text with
  | "options" => return { m with options := ← options value }
  | "host" => return { m with hosts := ← listOf hostDecl value }
  | name => within key.span (fail (.unknownField name manifestFields))

end Schema

/-- The manifest that the entries of a document denote. -/
def Manifest.ofEntries (entries : Entries) : Except SchemaError Manifest :=
  entries.foldlM (fun m (key, value) => Schema.manifestEntry m key value) {}

end Bindery
