import Bindery.Command.Line
import Bindery.Manifest.Plan
import Bindery.Output.FileTree

/-!
# Running commands

What a command does and prints. Files are reached through `Output.Files`, so that a command runs on
a file tree as well as on the real file system.

## Main definitions

* `Outcome`: the exit code, the output, and the report of failures
* `Invocation.run`, `run`: the effect of a command and of a command line
-/

namespace Bindery.Command

open Output (Files FileTree)

/-- What a run leaves behind besides files. -/
structure Outcome where
  /-- The exit code. -/
  exitCode : Nat := 0
  /-- The standard output. -/
  output : String := ""
  /-- The lines that report hosts without a binder. -/
  report : List String := []
  deriving DecidableEq, Repr, Inhabited

/-! ## Texts -/

/-- The version of the program. -/
def versionText : String := "shiv 0.3.0\n"

/-- Lines one below the other. -/
def lines (ls : List String) : String :=
  String.join (ls.map (· ++ "\n"))

/-- The help texts. -/
def helpText : Topic → String
  | .program => lines
    ["Generate Android field binders from TOML declarations",
     "",
     "Usage: shiv [OPTIONS] <COMMAND>",
     "",
     "Commands:",
     "  generate  Generate binder sources from shiv.toml",
     "  check     Validate shiv.toml and every host without writing files",
     "  help      Print this message or the help of the given subcommand(s)",
     "",
     "Options:",
     "  -v, --verbose  Enable debug logging",
     "  -h, --help     Print help",
     "  -V, --version  Print version"]
  | .generate => lines
    ["Generate binder sources from shiv.toml",
     "",
     "Usage: shiv generate [OPTIONS]",
     "",
     "Options:",
     "  -c, --config <CONFIG>  Path to shiv.toml (defaults to ./shiv.toml) [default: shiv.toml]",
     "  -v, --verbose          Enable debug logging",
     "  -o, --output <OUTPUT>  Source root the binders are written under [default: .]",
     "      --dry-run          Print generated sources without writing to disk",
     "  -h, --help             Print help"]
  | .check => lines
    ["Validate shiv.toml and every host without writing files",
     "",
     "Usage: shiv check [OPTIONS]",
     "",
     "Options:",
     "  -c, --config <CONFIG>  Path to shiv.toml (defaults to ./shiv.toml) [default: shiv.toml]",
     "  -v, --verbose          Enable debug logging",
     "  -h, --help             Print help"]
  | .help => lines
    ["Print this message or the help of the given subcommand(s)",
     "",
     "Usage: shiv help [COMMAND]...",
     "",
     "Arguments:",
     "  [COMMAND]...  Print help for the subcommand(s)"]

/-- A count with its noun, which takes an `s` unless the count is one. -/
def counted (n : Nat) (noun : String) : String :=
  toString n ++ " " ++ noun ++ if n = 1 then "" else "s"

/-- The line that reports a failed host. -/
def skippedLine (failure : HostFailure) : String :=
  "error: host " ++ failure.host ++ " was skipped"

/-- The outcome of a run that got to the end: failed hosts make it a failure. -/
def finished (output : String) (failures : List HostFailure) : Outcome :=
  { exitCode := if failures.isEmpty then 0 else 1
    output
    report := failures.map skippedLine }

/-- The outcome of a run that stopped. -/
def stopped : Outcome := { exitCode := 1 }

/-! ## Commands -/

/-- The manifest in a file, or why there is none. -/
def openManifest {m : Type → Type} [Monad m] [Files m] (path : String) :
    m (Except ManifestError (String × Manifest)) := do
  match ← Files.read? path with
  | none => return .error { fault := .unreadable path, file := path }
  | some text => return (Manifest.read text path).map fun manifest => (text, manifest)

/-- Print the files of a plan. -/
def printed (plan : Plan) : String :=
  String.join (plan.previews.map fun f => "// " ++ f.1 ++ "\n" ++ f.2 ++ "\n")

/-- The list of the files that were written. -/
def writtenText (output : String) (written : List String) : String :=
  lines (("Generated " ++ counted written.length "binder" ++ " in " ++ output)
    :: written.map ("  " ++ ·))

/-- Write the binders of a manifest, or print them. -/
def generate {m : Type → Type} [Monad m] [Files m] (config output : String) (dryRun : Bool) :
    m Outcome := do
  match ← openManifest config with
  | .error _ => return stopped
  | .ok (_, manifest) =>
    let plan := manifest.plan
    if dryRun then return finished (printed plan) plan.failures
    else match ← plan.carryOut output with
      | .error _ => return stopped
      | .ok result => return finished (writtenText output result.written) result.failures

/-- The line about a host that has a binder. -/
def hostLine (d : HostDecl) (path : String) : String :=
  "    " ++ d.name ++ " (" ++ d.kind.name ++ ", " ++ counted d.fields.length "field" ++ ") -> "
    ++ path

/-- The text about a manifest that is in order. -/
def validText (config : String) (manifest : Manifest) (paths : List String) : String :=
  lines (["✓ " ++ config ++ " is valid", "", "  " ++ counted manifest.hosts.length "host" ++ ":"]
    ++ (manifest.hosts.zip paths).map fun x => hostLine x.1 x.2)

/-- The line that counts the failed hosts. -/
def failedLine (failed total : Nat) : String :=
  toString failed ++ " of " ++ counted total "host" ++ " failed"

/-- See whether the binders of a manifest can be made. -/
def check {m : Type → Type} [Monad m] [Files m] (config : String) : m Outcome := do
  match ← openManifest config with
  | .error _ => return stopped
  | .ok (_, manifest) =>
    let plan := manifest.plan
    if plan.failures.isEmpty then
      return { output := validText config manifest (plan.previews.map Prod.fst) }
    else
      let total := failedLine plan.failures.length manifest.hosts.length
      return { exitCode := 1, report := plan.failures.map skippedLine ++ [total] }

/-- Do what a command line asks for. -/
def Invocation.run {m : Type → Type} [Monad m] [Files m] : Invocation → m Outcome
  | .version => return { output := versionText }
  | .help topic => return { output := helpText topic }
  | .generate config output dryRun => Command.generate config output dryRun
  | .check config => Command.check config

/-- Run a command line; a wrong one is told by its exit code. -/
def run {m : Type → Type} [Monad m] [Files m] (words : List String) : m Outcome :=
  match Invocation.parse? words with
  | some invocation => invocation.run
  | none => return { exitCode := 2 }

/-- Run a command line on a file tree. -/
def runOn (tree : FileTree) (words : List String) : Outcome × FileTree :=
  (run words : StateM FileTree Outcome).run tree

end Bindery.Command
