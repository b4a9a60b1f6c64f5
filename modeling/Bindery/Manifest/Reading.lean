import Bindery.Document.Grammar
import Bindery.Manifest.Validation

/-!
# Reading manifests

From a text to a manifest: the text is a document, the document has the shape of a manifest, and the
manifest keeps its rules.
-/

namespace Bindery.Manifest

/-- The name of a manifest file, where no other is given. -/
def defaultFile : String := "shiv.toml"

/-- The manifest of a text, or the first fault. -/
def ofText (text : String) : Except ManifestFault Manifest := do
  let some entries := Document.parse? text | .error .notADocument
  match Manifest.ofEntries entries with
  | .error error => .error (.badShape error)
  | .ok m =>
    m.check text
    return m

/-- The manifest in a text that comes from `file`. -/
def read (text file : String) : Except ManifestError Manifest :=
  (ofText text).mapError fun fault => { fault, file }

end Bindery.Manifest
