import Scaffold.Failure
import Scaffold.Location
import Scaffold.Number.Numeral

/-!
The configuration: where skeletons and state are kept, and how much is reported. Each value is
given, or taken from a variable of the environment, or a default.
-/

namespace Scaffold

/-- Where skeletons and state are kept, and how much is reported. -/
structure Config where
  /-- The directory with the skeletons of the installation. -/
  shareDir : Location
  /-- The directory for the state of a project. -/
  stateDir : Location
  /-- How much is reported. -/
  verbosity : Int
  deriving DecidableEq

/-- What surrounds a run: the variables and two directories. -/
structure Environment where
  /-- The variables. -/
  values : Entries Text
  /-- The path of the home directory. -/
  home : Text
  /-- The current directory. -/
  current : Location

namespace Config

/-- The value of a variable, unless it is empty. -/
def setting? (env : Environment) (name : String) : Option Text :=
  Text.nonempty? (env.values.get? name)

/-- The verbosity that the environment asks for. -/
def verbosityOf (env : Environment) : Except Failure Int :=
  match (((env.values.get? "TRELLIS_VERBOSITY").getD "0").strip : Text) with
  | [] => .ok 0
  | c :: rest =>
      match Numeral.decimal? (c :: rest) with
      | some n => .ok n
      | none => .error (.misuse (.invalidVerbosity (c :: rest)))

/-- The location of the home directory with the given path, which is the root if the path names
nothing. -/
def homeLocation (home : Text) : Location :=
  .ofText (if home.all (· = Location.slash) then [Location.slash] else home)

/-- A location with the path `home` in place of a tilde that a relative location starts with. The
home directories of other users are not known. -/
def expandHome (home : Text) (l : Location) : Except Failure Location :=
  match l.names with
  | (.char '~' :: user) :: rest =>
      if l.isAbsolute then .ok l
      else if user ≠ [] ∨ home.head? = some (.char '~') then .error (.foreign .noHome)
      else
        let base := homeLocation home
        .ok { base with names := base.names ++ rest }
  | _ => .ok l

/-- The configuration in an environment. What is given counts more than the variables. -/
def ofEnvironment (env : Environment) (shareDir stateDir : Option Text) (verbosity : Option Int) :
    Except Failure Config := do
  let share := match shareDir.or (setting? env "TRELLIS_SHARE_DIR") with
    | some t => Location.ofText t
    | none => env.current
  let state := stateDir.getD ((setting? env "TRELLIS_STATE_DIR").getD ".trellis")
  let verbosity ← match verbosity with
    | some n => pure n
    | none => verbosityOf env
  let shareDir ← expandHome env.home share
  let stateDir ← expandHome env.home (Location.ofText state)
  pure { shareDir := shareDir, stateDir := stateDir, verbosity := verbosity }

/-- Whether more than the necessary is reported. -/
def verbose (c : Config) : Bool := 0 < c.verbosity

/-- The directory with copies of the sources of rendered files. -/
def backupDir (c : Config) : Location := c.stateDir.child "skeleton"

/-- The directory with the skeletons of a kind. -/
def skeletonDir (c : Config) (kind : Text) : Location :=
  (c.shareDir.child "skeletons").child (kind ++ "s")

end Config

end Scaffold
