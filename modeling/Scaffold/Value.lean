import Scaffold.Change
import Scaffold.Number.Binary64
import Scaffold.Project.Shown

/-!
The values that templates insert, and how they are written. A text is inserted as it is; a value
inside of a list or a table is shown, which puts quotes around texts.
-/

namespace Scaffold

/-- A value that a template can insert or look into. -/
inductive Value where
  | null
  | bool (b : Bool)
  | int (n : Int)
  | float (x : Binary64)
  | text (t : Text)
  /-- A list; `id` names it if several look-ups can come to it. -/
  | list (id : Option ListId) (items : List Value)
  | table (entries : List (Text × Value))
  | kind (kind : PackageKind)
  /-- A project; `n` tells projects apart whose lists can change. -/
  | project (n : Nat) (p : Project)
  | package (p : Package)
  /-- A value that is worked out when it is asked for. -/
  | computed (result : Value)
  /-- A value that is not available yet. -/
  | pending
  deriving Inhabited

namespace Value

mutual

/-- How a value is shown inside of another one. -/
def display : Value → Text
  | null => "None"
  | bool b => Text.shownBool b
  | int n => Text.ofInt n
  | float x => x.toText
  | text t => t.quoted
  | list _ items => Text.shownList (displayAll items)
  | table entries => Text.shownTable (displayEntries entries)
  | kind k => k.shown
  | project _ p => p.shown
  | package p => p.shown
  | computed result => display result
  | pending => "pending"

/-- How the elements of a list are shown. -/
def displayAll : List Value → List Text
  | [] => []
  | item :: rest => display item :: displayAll rest

/-- How the entries of a table are shown. -/
def displayEntries : List (Text × Value) → List (Text × Text)
  | [] => []
  | (key, value) :: rest => (key, display value) :: displayEntries rest

end

/-- The text that a template inserts for a value. -/
def inserted : Value → Text
  | text t => t
  | kind k => k.qualified
  | project _ p => insertedRecord p.shownFields
  | package p => insertedRecord p.shownFields
  | v => v.display

/-- The text in a value that is one, or that is as good as one. -/
def text? : Value → Option Text
  | text t => some t
  | kind k => some k.word
  | _ => none

/-- An optional text as a value. -/
def ofOption : Option Text → Value
  | some t => text t
  | none => null

/-- A list of texts as a value. -/
def ofTexts (ts : List Text) (id : Option ListId := none) : Value := list id (ts.map text)

/-- A table of texts as a value. -/
def ofFields (fields : Entries Text) : Value :=
  table (fields.map fun entry => (entry.1, text entry.2))

end Value

/-- What templates of packages may insert of a package. -/
def Package.context (p : Package) : Entries Value :=
  [
    ("name", .text p.name), ("dir", .text p.dir), ("kind", .text p.kind.word),
    ("skeleton", .text p.skeletonName), ("synopsis", .text p.synopsis),
    ("fields", .ofFields p.fields)]

/-- What templates may insert of a project. Absent texts are empty. -/
def Project.context (p : Project) : Entries Value :=
  [
    ("name", .text p.name), ("version", .text p.version), ("synopsis", .text p.synopsis),
    ("skeleton", .text p.skeletonName), ("authors", .text (Text.join ", " p.authors)),
    ("license", .text (p.license.getD [])),
    ("github_organization", .text (p.githubOrganization.getD [])),
    ("homepage", .text (p.homepageUrl.getD [])), ("copyright", .text (p.copyright.getD [])),
    ("bug_reports", .text (p.bugReportsUrl.getD [])), ("dev_repo", .text (p.devRepoUrl.getD [])),
    ("doc_gen", .text (p.docGenUrl.getD [])), ("doc_api", .text (p.docApiUrl.getD [])),
    ("edition", .text p.edition), ("min_edition", .text p.minEdition),
    ("fields", .ofFields p.fields)]

end Scaffold
