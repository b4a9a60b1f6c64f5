import Bindery.Manifest.Reading

/-!
# Command lines

The words of a command line and what they ask for. Options come in a long form, with their value in
the same or in the next word, and in a short form, which can be clustered behind one dash. An option
is given at most once, and a value is not empty.

## Main definitions

* `Invocation`: what a command line asks for
* `Invocation.parse?`: the reading of a command line; none if it is wrong
-/

namespace Bindery.Command

/-- What a help text is about. -/
inductive Topic where
  | program
  | generate
  | check
  | help
  deriving DecidableEq, Repr, Inhabited

/-- What a command line asks for. -/
inductive Invocation where
  /-- Print the version. -/
  | version
  /-- Print a help text. -/
  | help (topic : Topic)
  /-- Write the binders, or print them. -/
  | generate (config output : String) (dryRun : Bool)
  /-- See whether the binders can be made. -/
  | check (config : String)
  deriving DecidableEq, Repr, Inhabited

/-- The options of a command that are given. -/
structure Settings where
  /-- The place of the manifest. -/
  config : Option String := none
  /-- The directory to write to. -/
  output : Option String := none
  /-- Whether files are printed and not written. -/
  dryRun : Bool := false
  /-- Whether more is logged. -/
  verbose : Bool := false
  deriving DecidableEq, Repr, Inhabited

/-- An option of a command. -/
inductive Flag where
  | config
  | output
  | dryRun
  | verbose
  | help
  deriving DecidableEq, Repr, Inhabited

/-- Whether an option is followed by a value. -/
def Flag.takesValue : Flag → Bool
  | config | output => true
  | dryRun | verbose | help => false

/-- What is known after some words of a command. -/
inductive Progress where
  /-- Reading goes on. -/
  | going (settings : Settings)
  /-- Help is asked for, and the words that follow do not matter. -/
  | helpAsked
  deriving DecidableEq, Repr, Inhabited

/-! ## Options -/

/-- The option with a long name; only one command writes files. -/
def longFlag? (writes : Bool) : String → Option Flag
  | "config" => some .config
  | "output" => if writes then some .output else none
  | "dry-run" => if writes then some .dryRun else none
  | "verbose" => some .verbose
  | "help" => some .help
  | _ => none

/-- The option with a short name. -/
def shortFlag? (writes : Bool) : Char → Option Flag
  | 'c' => some .config
  | 'o' => if writes then some .output else none
  | 'v' => some .verbose
  | 'h' => some .help
  | _ => none

namespace Settings

/-- The settings with a value given to an option; none if it has one or the value is empty. -/
def give? (s : Settings) (flag : Flag) (value : String) : Option Settings :=
  if value = "" then none
  else match flag with
    | .config => if s.config.isSome then none else some { s with config := some value }
    | .output => if s.output.isSome then none else some { s with output := some value }
    | _ => none

/-- What is known after an option without a value; none if it was given before. -/
def raise? (s : Settings) (flag : Flag) : Option Progress :=
  match flag with
  | .dryRun => if s.dryRun then none else some (.going { s with dryRun := true })
  | .verbose => if s.verbose then none else some (.going { s with verbose := true })
  | .help => some .helpAsked
  | _ => none

end Settings

/-- What a cluster of short options leads to: options may still have to be read, or a value is due.
-/
inductive ClusterEnd where
  | done (progress : Progress)
  /-- The value of an option is the next word. -/
  | valueDue (settings : Settings) (flag : Flag)
  deriving DecidableEq, Repr, Inhabited

/-- Read a cluster of short options. What follows an option with a value is its value. -/
def cluster? (writes : Bool) (s : Settings) : List Char → Option ClusterEnd
  | [] => some (.done (.going s))
  | c :: cs => do
    let flag ← shortFlag? writes c
    if flag.takesValue then
      match cs with
      | [] => return .valueDue s flag
      | '=' :: value => return .done (.going (← s.give? flag (String.ofList value)))
      | value => return .done (.going (← s.give? flag (String.ofList value)))
    else
      match ← s.raise? flag with
      | .helpAsked => return .done .helpAsked
      | .going s => cluster? writes s cs

/-- A long option and the value behind an equals sign, if there is one. -/
def splitLong (cs : List Char) : String × Option String :=
  (String.ofList (cs.takeWhile (· != '=')),
    match cs.dropWhile (· != '=') with
    | [] => none
    | _ :: value => some (String.ofList value))

/-- Whether a word can be the value of the option before it: it does not look like an option. -/
def isValueWord (word : String) : Bool :=
  match word.toList with
  | '-' :: _ :: _ => false
  | _ => true

/-! ## The words of a command -/

/-- Read the words of a command. Behind two dashes nothing may follow, for no command takes
operands. -/
def words? (writes : Bool) : Settings → (due : Option Flag) → List String → Option Progress
  | s, none, [] => some (.going s)
  | _, some _, [] => none
  | s, some flag, word :: words => do
    if isValueWord word then words? writes (← s.give? flag word) none words else none
  | s, none, word :: words =>
    match word.toList with
    | ['-', '-'] => if words.isEmpty then some (.going s) else none
    | '-' :: '-' :: cs => do
      let (name, value) := splitLong cs
      let flag ← longFlag? writes name
      match value with
      | some value => words? writes (← s.give? flag value) none words
      | none =>
        if flag.takesValue then words? writes s (some flag) words
        else match ← s.raise? flag with
          | .helpAsked => return .helpAsked
          | .going s => words? writes s none words
    | '-' :: c :: cs => do
      match ← cluster? writes s (c :: cs) with
      | .done .helpAsked => return .helpAsked
      | .done (.going s) => words? writes s none words
      | .valueDue s flag => words? writes s (some flag) words
    | _ => none

namespace Invocation

/-- Read the words behind a command that writes files. -/
def generate? (words : List String) : Option Invocation := do
  match ← words? true {} none words with
  | .helpAsked => return .help .generate
  | .going s =>
    return .generate (s.config.getD Manifest.defaultFile) (s.output.getD ".") s.dryRun

/-- Read the words behind a command that writes nothing. -/
def check? (words : List String) : Option Invocation := do
  match ← words? false {} none words with
  | .helpAsked => return .help .check
  | .going s => return .check (s.config.getD Manifest.defaultFile)

/-- Read the words behind the request for help. -/
def help? : List String → Option Invocation
  | [] => some (.help .program)
  | ["generate"] => some (.help .generate)
  | ["check"] => some (.help .check)
  | ["help"] => some (.help .help)
  | _ => none

/-! ## Command lines -/

/-- A cluster of short options in front of the command. Either it asks for something at once, or it
is known whether more is logged. -/
def leadingCluster? : (verbose : Bool) → List Char → Option (Invocation ⊕ Bool)
  | verbose, [] => some (.inr verbose)
  | _, 'h' :: _ => some (.inl (.help .program))
  | _, 'V' :: _ => some (.inl .version)
  | verbose, 'v' :: cs => if verbose then none else leadingCluster? true cs
  | _, _ :: _ => none

/-- Read a command line behind options in front of the command. -/
def parseFrom? : (verbose : Bool) → List String → Option Invocation
  | _, [] => none
  | _, "--help" :: _ => some (.help .program)
  | _, "--version" :: _ => some .version
  | verbose, "--verbose" :: words => if verbose then none else parseFrom? true words
  | _, "generate" :: words => generate? words
  | _, "check" :: words => check? words
  | _, "help" :: words => help? words
  | verbose, word :: words =>
    match word.toList with
    | '-' :: c :: cs => do
      match ← leadingCluster? verbose (c :: cs) with
      | .inl invocation => return invocation
      | .inr verbose => parseFrom? verbose words
    | _ => none

/-- What a command line asks for; none if it is wrong. -/
def parse? (words : List String) : Option Invocation :=
  parseFrom? false words

end Invocation

end Bindery.Command
