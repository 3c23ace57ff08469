import Scaffold.Command.Arguments

/-!
The commands and their arguments: `list`, `show` and `render`, with switches for all of them in
front. A value of which nothing is left is kept as such: a command fails only where it needs it.
-/

namespace Scaffold.Command

/-- What a command line demands. -/
inductive Demand where
  /-- To name the known skeletons. -/
  | list
  /-- To describe a skeleton. -/
  | show (kind : Text) (name : Option Text)
  /-- To render the project in a description. The directory is the root of the project if one is
  given, the tags are skipped in addition to its own. -/
  | render (description : Text) (directory : Option (Option Text)) (skips : List (Option Text))

/-- The switches in front of a command. -/
structure Common where
  /-- The directory with the skeletons of the installation, if one is given. -/
  shareDir : Option (Option Text) := none
  /-- How often more output was asked for. -/
  verbosity : Option Nat := none

/-- How a command line ends that demands nothing. -/
inductive Refusal where
  /-- Help was asked for. -/
  | help
  /-- The arguments make no sense. -/
  | usage
  deriving DecidableEq

/-- The exit status of a refusal. -/
def Refusal.status : Refusal → Nat
  | help => 0
  | usage => 2

/-- The keys of switches. -/
inductive SwitchKey where
  | help
  | shareDir
  | verbose
  | directory
  | skip
  | git
  deriving DecidableEq

/-- The switch that all commands share. -/
def helpSwitch : Switch SwitchKey := { key := .help, names := ["-h", "--help"] }

/-- The switches in front of a command. -/
def commonSwitches : List (Switch SwitchKey) :=
  [
    helpSwitch, { key := .shareDir, names := ["--share-dir"], takesValue := true },
    { key := .verbose, names := ["-v", "--verbose"] }]

/-- The switches of `render`. The last one asks for a step that is not taken here. -/
def renderSwitches : List (Switch SwitchKey) :=
  [
    helpSwitch, { key := .directory, names := ["-d", "--directory"], takesValue := true },
    { key := .skip, names := ["--skip"], takesValue := true }, { key := .git, names := ["--git"] }]

/-- What has been read of the arguments of a command. -/
structure Reading where
  /-- The positional arguments. -/
  positionals : List (Option Text) := []
  /-- The last given directory. -/
  directory : Option (Option Text) := none
  /-- The given tags. -/
  skips : List (Option Text) := []
  /-- Whether all arguments had their place. -/
  complete : Bool := true

/-- Reads what one argument of a command demands. The first positional argument must be one of
`choices`, unless that list is empty. -/
def Reading.next (choices : List String) (r : Reading) : Event SwitchKey → Except Refusal Reading
  | .switch .help _ => .error .help
  | .switch .directory value => .ok { r with directory := some value }
  | .switch .skip value => .ok { r with skips := r.skips ++ [value] }
  | .switch _ _ => .ok r
  | .positional t =>
      if r.positionals = [] ∧ choices ≠ [] ∧ t ∉ choices.map (some <| Text.ofString ·) then
        .error .usage
      else .ok { r with positionals := r.positionals ++ [t] }
  | .unrecognized => .ok { r with complete := false }
  | .rest _ => .error .usage
  | .fault => .error .usage

/-- Reads the arguments of a command. -/
def Reading.ofArguments (switches : List (Switch SwitchKey)) (count : Nat) (choices : List String)
    (arguments : List Text) : Except Refusal Reading :=
  (read switches (.count count) arguments).foldlM (Reading.next choices) {}

/-- The kinds of skeletons that can be shown. -/
def shownKinds : List String := ["project", "package"]

/-- Reads a command with its arguments, and whether all of them had their place. -/
def demandOf (command : Text) (arguments : List Text) : Except Refusal (Demand × Bool) :=
  if command = "list" then do
    let r ← Reading.ofArguments [helpSwitch] 0 [] arguments
    pure (.list, r.complete)
  else if command = "show" then do
    let r ← Reading.ofArguments [helpSwitch] 2 shownKinds arguments
    match r.positionals with
    | [some kind, name] => pure (.show kind name, r.complete)
    | _ => throw .usage
  else if command = "render" then do
    let r ← Reading.ofArguments renderSwitches 1 [] arguments
    match r.positionals with
    | [some description] => pure (.render description r.directory r.skips, r.complete)
    | _ => throw .usage
  else throw .usage

/-- What has been read of a command line. -/
structure LineReading where
  /-- The switches in front of the command. -/
  common : Common := {}
  /-- The command. -/
  demand : Option Demand := none
  /-- Whether all arguments had their place. -/
  complete : Bool := true

/-- Reads what one argument of a command line demands. -/
def LineReading.next (r : LineReading) : Event SwitchKey → Except Refusal LineReading
  | .switch .help _ => .error .help
  | .switch .shareDir value => .ok { r with common := { r.common with shareDir := some value } }
  | .switch .verbose _ =>
      .ok { r with common := { r.common with verbosity := some (r.common.verbosity.getD 0 + 1) } }
  | .switch _ _ => .ok r
  | .rest (command :: arguments) => do
      let (demand, complete) ← demandOf command arguments
      pure { r with demand := some demand, complete := r.complete && complete }
  | .unrecognized => .ok { r with complete := false }
  | .rest [] => .error .usage
  | .positional _ => .error .usage
  | .fault => .error .usage

/-- What a command line demands. -/
def demand (arguments : List Text) : Except Refusal (Common × Demand) := do
  let r ← (read commonSwitches .rest arguments).foldlM LineReading.next {}
  match r.demand with
  | some demand => if r.complete then pure (r.common, demand) else throw .usage
  | none => throw .usage

end Scaffold.Command
