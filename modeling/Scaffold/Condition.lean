import Scaffold.Failure
import Scaffold.Project

/-!
Conditions. A condition is a list of tokens, such as `ci`, `github`. Conditions about a project and
about a package share the ones about skip tags and the two constants; the others differ.
-/

namespace Scaffold.Condition

/-- Whether a table has a field of that name, and with the value that the tokens spell if there are
any. -/
def fieldHolds (fields : Entries Text) (name : Text) (value : List Text) : Bool :=
  match value with
  | [] => (fields.get? name).isSome
  | tokens => fields.get? name = some (Text.join ":" tokens)

/-- The conditions that do not depend on whom they are about; `none` for all other ones. -/
def shared? (skip : List Text) : List Text → Option Bool
  | [word] => if word = "true" then some true else if word = "false" then some false else none
  | [word, tag] =>
      if word = "skip" then some (tag ∈ skip)
      else if word = "gen" then some (tag ∉ skip)
      else none
  | _ => none

/-- The attributes of a project whose presence can be asked for. -/
def attributes : List (String × (Project → Option Text)) :=
  [
    ("github-organization", Project.githubOrganization), ("homepage", Project.homepageUrl),
    ("copyright", Project.copyright), ("bug-reports", Project.bugReportsUrl),
    ("dev-repo", Project.devRepoUrl), ("doc-gen", Project.docGenUrl),
    ("doc-api", Project.docApiUrl), ("sphinx-target", Project.sphinxTarget),
    ("profile", Project.profile)]

/-- The attribute of that name. -/
def attribute? (name : Text) : Option (Project → Option Text) :=
  (attributes.find? fun entry => name = (entry.1 : Text)).map Prod.snd

/-- The conditions about a project that are not shared and no negation. -/
def ownOfProject? (p : Project) : List Text → Option Bool
  | [word] =>
      if word = "min-edition" then some (p.minEdition ≠ p.edition)
      else (attribute? word).map fun value => (value p).isSome
  | [word, argument] =>
      if word = "ci" then some (argument ∈ p.ciSystems)
      else if word = "field" then some (fieldHolds p.fields argument [])
      else none
  | word :: first :: second :: more =>
      if word = "skeleton" ∧ first = "is" ∧ more = [] then some (p.skeletonName = second)
      else if word = "field" then some (fieldHolds p.fields first (second :: more))
      else none
  | [] => none

/-- Whether a condition about a project holds. -/
def ofProject (p : Project) : List Text → Except Failure Bool
  | [] => .error (.skeleton none (.unknownCondition .project []))
  | word :: rest =>
      match shared? p.skip (word :: rest) with
      | some holds => .ok holds
      | none =>
          if word = "not" then (ofProject p rest).map Bool.not
          else
            match ownOfProject? p (word :: rest) with
            | some holds => .ok holds
            | none => .error (.skeleton none (.unknownCondition .project (word :: rest)))

/-- The conditions about a package that are not shared, no negation and not about the project. -/
def ownOfPackage? (p : Package) : List Text → Option Bool
  | [word] => if word = "pack" then some p.packModules else none
  | [word, argument] => if word = "field" then some (fieldHolds p.fields argument []) else none
  | word :: first :: second :: more =>
      if word = "skeleton" ∧ first = "is" ∧ more = [] then some (p.skeletonName = second)
      else if word = "kind" ∧ first = "is" ∧ more = [] then some ((p.kind.word : Text) = second)
      else if word = "field" then some (fieldHolds p.fields first (second :: more))
      else none
  | [] => none

/-- Whether a condition about a package of a project holds. The skip tags are those of the
project. -/
def ofPackage (p : Package) (project : Project) : List Text → Except Failure Bool
  | [] => .error (.skeleton none (.unknownCondition .package []))
  | word :: rest =>
      match shared? project.skip (word :: rest) with
      | some holds => .ok holds
      | none =>
          if word = "not" then (ofPackage p project rest).map Bool.not
          else if word = "project" then ofProject project rest
          else
            match ownOfPackage? p (word :: rest) with
            | some holds => .ok holds
            | none => .error (.skeleton none (.unknownCondition .package (word :: rest)))

end Scaffold.Condition
