import Scaffold.Command.Demand
import Scaffold.Project.Checked
import Scaffold.Writer

/-!
What the commands do. A command works on a disk and ends with a text for the output, or with a
failure.
-/

namespace Scaffold.Command

/-- How a command ends. -/
structure Outcome where
  /-- The disk afterwards. -/
  disk : Disk
  /-- The warnings. -/
  warnings : List Warning
  /-- The text for the output. -/
  result : Except Failure Text

/-- Whether a failure is to be shown as a message. All other ones are faults of the demand or of
the environment. -/
def isMessage : Failure → Bool
  | .skeleton _ _ => true
  | .template _ => true
  | .invalid _ _ => true
  | .foreign .malformed => true
  | .disk _ _ => true
  | _ => false

/-- The project in the bytes of a description. -/
def parseProject (description : Location) (bytes : Bytes) : Except Failure Project :=
  match Toml.read bytes with
  | .error .undecodable => .error (.foreign .undecodable)
  | .error .malformed => .error (.foreign .malformed)
  | .error (.tooManyDigits count) => .error (.misuse (.tooManyDigits count))
  | .ok entries =>
      match entries.get? "project" with
      | none => .error (.skeleton none (.missingProject description.toText))
      | some project => Project.ofData project

/-- The project in a description. -/
def loadProject (d : Disk) (description : Location) : Except Failure Project := do
  parseProject description (← d.read description)

/-- One line about a file of a skeleton. -/
def fileLine (file : SkeletonFile) : Text :=
  "  " ++ Text.octal 4 file.permissions.toNat ++ " " ++ file.path ++ "\n"

/-- Describes a skeleton and its files. -/
def describe (config : Config) (kind name : Text) : Running Ledger Text := do
  let s ← Run.lookup config kind name
  pure (s.describe ++ s.files.flatMap fileLine)

/-- Values that must all be there. -/
def allGiven (values : List (Option Text)) : Except Failure (List Text) :=
  match values.mapM id with
  | some given => .ok given
  | none => .error (.foreign .unsupported)

/-- Renders the project in a description below a directory. -/
def render (config : Config) (description : Location) (directory : Option Location)
    (skips : List (Option Text)) : Running Ledger Text := do
  let declared ← loadProject (← get).disk description
  match directory with
  | none => throw (.foreign .noDirectory)
  | some directory =>
      Run.onDisk (Disk.makeDirectories directory)
      let d := (← get).disk
      let writer ← Writer.ofLocation d directory []
      let project := { declared with skip := declared.skip ++ (← allGiven skips) }
      let job : Job := {
        config := { config with stateDir := directory.under config.stateDir }
        project := project }
      Run.renderFiles job (Writer.write { writer with activeSkips := project.skip })
      let ledger := (← get).sink
      pure ("Generated " ++ Text.ofNat ledger.written.length ++ " files in "
        ++ writer.root.toText ++ " (" ++ Text.ofNat ledger.skipped.length ++ " skipped)\n")

/-- The configuration that an environment and the switches in front of a command ask for. -/
def configOf (env : Environment) (common : Common) : Except Failure Config := do
  let verbosity ← match common.verbosity with
    | some n => pure (Int.ofNat n)
    | none => Config.verbosityOf env
  match common.shareDir with
  | some none => throw (.foreign .unsupported)
  | some (some shareDir) => Config.ofEnvironment env (some shareDir) none (some verbosity)
  | none => Config.ofEnvironment env none none (some verbosity)

/-- Does what is demanded. -/
def perform (env : Environment) (common : Common) (demand : Demand) : Running Ledger Text := do
  let config ← configOf env common
  match demand with
  | .list => Run.known config
  | .show kind (some name) => describe config kind name
  | .show kind none => do
      let _ ← Run.catalog config kind
      throw (.foreign .unsupported)
  | .render description directory skips =>
      let directory := match directory with
        | some given => given.map Location.ofText
        | none => some env.current
      render config (Location.ofText description) directory skips

/-- Does on a disk what is demanded. -/
def run (env : Environment) (d : Disk) (common : Common) (demand : Demand) : Outcome :=
  match (perform env common demand).run { disk := d, sink := {} } with
  | .ok t run => { disk := run.disk, warnings := run.warnings, result := .ok t }
  | .error failure run => { disk := run.disk, warnings := run.warnings, result := .error failure }

end Scaffold.Command
