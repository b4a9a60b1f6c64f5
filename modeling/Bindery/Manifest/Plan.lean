import Bindery.Binding.HostBindings
import Bindery.Manifest.Declaration
import Bindery.Output.Files
import Bindery.Output.SourceFile

/-!
# Plans

What a manifest leads to: a source file for each host whose bindings are in order, and a failure for
each other host. Hosts do not influence one another. A plan can be looked at, or carried out.

## Main definitions

* `HostDecl.outcome`: the file or the failure of one host
* `Manifest.plan`: the files and failures of all hosts
* `Plan.previews`: the paths and texts of the files
* `Plan.write`: write the files below a directory
* `Plan.carryOut`: write the files and hand the failures on
-/

namespace Bindery

open Output (SourceFile Files)

/-- A host without a binder, and why it has none. -/
structure HostFailure where
  /-- The declared name. -/
  host : String
  /-- The first error. -/
  error : BindingError
  deriving DecidableEq, Repr, Inhabited

/-- A file that cannot be written. -/
structure WriteError where
  /-- The path of the file. -/
  path : String
  deriving DecidableEq, Repr, Inhabited

/-- The wording of a failure to write. -/
def WriteError.message (e : WriteError) : String :=
  "failed to write binder " ++ e.path

/-- What carrying a plan out has led to. -/
structure Generated where
  /-- The relative paths of the files that were written. -/
  written : List String
  /-- The hosts without a file. -/
  failures : List HostFailure
  deriving DecidableEq, Repr, Inhabited

/-- The files to write and the hosts that failed, both in the order of declaration. -/
structure Plan where
  /-- The files. -/
  files : List SourceFile := []
  /-- The failures. -/
  failures : List HostFailure := []
  deriving Repr, Inhabited, BEq

/-- The file of a declared host, or its failure. -/
def HostDecl.outcome (options : Options) (indent : Source.Indent) (d : HostDecl) :
    Except HostFailure SourceFile :=
  match binderOf options d.host d.bindings with
  | .ok spec => .ok { package := d.host.package, spec, indent }
  | .error error => .error { host := d.name, error }

/-- The plan with one more outcome in front. -/
def Plan.cons (outcome : Except HostFailure SourceFile) (p : Plan) : Plan :=
  match outcome with
  | .ok file => { p with files := file :: p.files }
  | .error failure => { p with failures := failure :: p.failures }

/-- The plan for some hosts. -/
def Plan.ofHosts (options : Options) (indent : Source.Indent) : List HostDecl → Plan
  | [] => {}
  | d :: ds => .cons (d.outcome options indent) (ofHosts options indent ds)

/-- The plan for a manifest. -/
def Manifest.plan (m : Manifest) (indent : Source.Indent := .standard) : Plan :=
  .ofHosts m.options indent m.hosts

namespace Plan

/-- The paths and texts of the files, without writing any. -/
def previews (p : Plan) : List (String × String) :=
  p.files.map fun file => (file.relativePath, file.content)

/-- Write files below `output` one after the other. The relative paths of all, or the first
file that cannot be written. -/
def writeFiles {m : Type → Type} [Monad m] [Files m] (output : String) :
    List SourceFile → m (Except WriteError (List String))
  | [] => return .ok []
  | file :: files => do
    if ← Files.write (file.pathIn output) file.content then
      return (← writeFiles output files).map (file.relativePath :: ·)
    else
      return .error { path := file.pathIn output }

/-- Write the files of a plan below `output`. -/
def write {m : Type → Type} [Monad m] [Files m] (p : Plan) (output : String) :
    m (Except WriteError (List String)) :=
  writeFiles output p.files

/-- Write the files of a plan below `output` and report them beside the failures. -/
def carryOut {m : Type → Type} [Monad m] [Files m] (p : Plan) (output : String) :
    m (Except WriteError Generated) := do
  match ← p.write output with
  | .error e => return .error e
  | .ok written => return .ok { written, failures := p.failures }

end Plan

end Bindery
