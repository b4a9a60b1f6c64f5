import Bindery.Class.Source
import Bindery.Class.Spec
import Bindery.Output.Path
import Bindery.Source.Buffer
import Bindery.Text.Basic

/-!
# Source files

A source file holds one class. It lives in the directory of its package, is named after its class,
and opens with a comment that marks it as generated.

## Main definitions

* `SourceFile.relativePath`, `SourceFile.pathIn`: where the file goes
* `SourceFile.content`: what is in it
-/

namespace Bindery.Output

/-- What happens to a file that is already there. -/
inductive Overwrite where
  /-- It is replaced. -/
  | always
  /-- It stays, and nothing is written. -/
  | ifMissing
  deriving DecidableEq, Repr, Inhabited

/-- The word for a rule. -/
def Overwrite.name : Overwrite → String
  | always => "always"
  | ifMissing => "if_missing"

/-- A generated source file. -/
structure SourceFile where
  /-- The package of the class, empty for the default package. -/
  package : String
  /-- The class. -/
  spec : ClassSpec
  /-- The indentation style of the text. -/
  indent : Source.Indent := .standard
  deriving Repr, Inhabited, BEq

namespace SourceFile

/-- The first line of every generated file. -/
def header : String := "// Generated by Shiv. Do not modify!"

/-- Generated files replace what was there. -/
def overwrite : Overwrite := .always

/-- The directories of a package: its segments, empty ones left out. -/
def directories (package : String) : List String :=
  (Text.segments package).filter fun segment => segment != ""

/-- The name of the file. -/
def fileName (file : SourceFile) : String := file.spec.name ++ ".java"

/-- The path of the file below the source root. -/
def relativePath (file : SourceFile) : String :=
  joinAll "" (directories file.package ++ [file.fileName])

/-- The path of the file for a source root at `base`. -/
def pathIn (file : SourceFile) (base : String) : String :=
  join base file.relativePath

/-- The fragments in front of the class: the comment and the package line, each followed by a blank
line. -/
def preamble (file : SourceFile) : List Source.Fragment :=
  [.line header, .blank] ++
    if file.package = "" then [] else [.line ("package " ++ file.package ++ ";"), .blank]

/-- The text of the file. -/
def content (file : SourceFile) : String :=
  Source.textOf file.indent (file.preamble ++ file.spec.fragments)

end SourceFile

end Bindery.Output
