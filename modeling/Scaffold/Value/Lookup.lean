import Scaffold.Failure
import Scaffold.Text.Blank
import Scaffold.Text.Casing
import Scaffold.Text.Digit
import Scaffold.Text.Printable
import Scaffold.Value.Change

/-!
Finding a value by a dotted path. Each segment of the path is a key of a table or an attribute of
another value. A value that has to be worked out is worked out on the way, once for each segment, and
a method is called; some methods of lists change their list, which later look-ups see.
-/

namespace Scaffold

/-- An attribute of a value that has no others in it, if it is there. -/
abbrev Attribute := Except Failure (Option Value)

/-- A step of looking values up, after some changes of lists. Its own changes stay if it fails. -/
abbrev Looking := EStateM Failure Changes

namespace Value

/-- An attribute that is there. -/
def found (v : Value) : Attribute := .ok (some v)

/-- An attribute that is not there. -/
def absent : Attribute := .ok none

/-- An attribute of a value that has some attributes, or methods to call, of known values, and some
methods that work on further values and cannot be called alone. -/
def attributeAmong (attributes : Entries Value) (operations : List Text) (name : Text) :
    Attribute :=
  match attributes.get? name with
  | some v => found v
  | none => if name ∈ operations then .error (.foreign .unsupported) else absent

/-- What the methods of a text give that can be called alone. -/
def textMethods (t : Text) : Entries Value :=
  [
    ("upper", text t.upper), ("lower", text t.lower), ("title", text t.title),
    ("capitalize", text t.capitalize), ("strip", text t.strip), ("lstrip", text t.stripStart),
    ("rstrip", text t.stripEnd), ("expandtabs", text (t.expandTabs 0)),
    ("split", ofTexts t.words), ("rsplit", ofTexts t.words),
    ("splitlines", ofTexts t.splitLines), ("isdigit", bool t.isDigits),
    ("isdecimal", bool t.isDecimal), ("isspace", bool t.isSpace),
    ("isascii", bool (t.all (Letter.holds fun c => c.toNat < 0x80))),
    ("isprintable", bool (t.all (Letter.holds isPrintable)))]

/-- The methods of a text that cannot be called alone. -/
def textOperations : List Text :=
  [
    "center", "count", "endswith", "find", "format_map", "index", "join", "ljust", "maketrans",
    "partition", "removeprefix", "removesuffix", "replace", "rfind", "rindex", "rjust",
    "rpartition", "startswith", "translate", "zfill"]

/-- The attributes of a text. -/
def textAttribute (t : Text) (name : Text) : Attribute :=
  attributeAmong (textMethods t) textOperations name

/-- The attributes of an integer, and what its methods give. -/
def numberAttributes (n : Int) : Entries Value :=
  [
    ("real", int n), ("imag", int 0), ("numerator", int n), ("denominator", int 1),
    ("conjugate", int n), ("bit_length", int (if n = 0 then 0 else n.natAbs.log2 + 1)),
    ("bit_count", int ((Nat.toDigits 2 n.natAbs).count '1'))]

/-- The attributes of an integer. -/
def numberAttribute (n : Int) (name : Text) : Attribute :=
  attributeAmong (numberAttributes n) ["from_bytes"] name

/-- The attributes of a kind of packages. -/
def kindAttribute (k : PackageKind) (name : Text) : Attribute :=
  if name = "value" then found (text k.word)
  else if name = "name" then found (text k.constant)
  else textAttribute k.word name

/-- The methods that a record and its fields as a table have from the class of all records. A copy
of a record shares its lists. -/
def recordMethods (record : Value) (fields : Entries Value) : Entries Value :=
  [
    ("model_copy", record), ("copy", record), ("model_dump", table fields),
    ("dict", table fields)]

/-- The fields of a package. -/
def packageFields (p : Package) : Entries Value :=
  [
    ("name", text p.name), ("dir", text p.dir), ("kind", kind p.kind),
    ("skeleton", ofOption p.skeleton), ("pack_modules", bool p.packModules),
    ("synopsis", text p.synopsis), ("fields", ofFields p.fields)]

/-- What is worked out from a package. -/
def packageMethods (p : Package) : Entries Value :=
  [("skeleton_name", text p.skeletonName), ("context", table p.context)]

/-- The attributes of a package, which templates may ask for by name. -/
def packageAttributes (p : Package) : Entries Value :=
  packageFields p ++ packageMethods p ++ recordMethods (package p) (packageFields p)

/-- The fields of a project whose lists have the given names, with values for its packages. -/
def projectFields (id : ProjectList → Option ListId) (ofPackage : Package → Value) (p : Project) :
    Entries Value :=
  [
    ("name", text p.name), ("version", text p.version), ("synopsis", text p.synopsis),
    ("skeleton", ofOption p.skeleton), ("skip", ofTexts p.skip (id .skip)),
    ("ci_systems", ofTexts p.ciSystems (id .ciSystems)),
    ("authors", ofTexts p.authors (id .authors)),
    ("license", ofOption p.license), ("github_organization", ofOption p.githubOrganization),
    ("homepage", ofOption p.homepage), ("copyright", ofOption p.copyright),
    ("bug_reports", ofOption p.bugReports), ("dev_repo", ofOption p.devRepo),
    ("doc_gen", ofOption p.docGen), ("doc_api", ofOption p.docApi),
    ("sphinx_target", ofOption p.sphinxTarget), ("profile", ofOption p.profile),
    ("edition", text p.edition), ("min_edition", text p.minEdition),
    ("fields", ofFields p.fields),
    ("packages", list (id .packages) (p.packages.map ofPackage))]

/-- What is worked out from a project. -/
def projectMethods (p : Project) : Entries Value :=
  [
    ("skeleton_name", text p.skeletonName), ("_github_pages", ofOption p.githubPages),
    ("homepage_url", ofOption p.homepageUrl), ("bug_reports_url", ofOption p.bugReportsUrl),
    ("dev_repo_url", ofOption p.devRepoUrl), ("doc_gen_url", ofOption p.docGenUrl),
    ("doc_api_url", ofOption p.docApiUrl), ("context", table p.context)]

/-- The attributes of the project `n`. A table of its fields has lists of its own. -/
def projectAttributes (n : Nat) (p : Project) : Entries Value :=
  projectFields (fun field => some (.ofProject n field)) package p ++ projectMethods p ++
    recordMethods (project n p)
      (projectFields (fun _ => none) (fun q => table (packageFields q)) p)

/-- A value that has to be worked out is worked out, any other one is taken as it is. -/
def force : Value → Except Failure Value
  | computed result => .ok result
  | pending => .error (.foreign .postponed)
  | v => .ok v

/-- The method of lists of that name. To initialize a list again clears it. -/
def methodNamed? (name : Text) : Option ListMethod :=
  if name = "clear" ∨ name = "__init__" then some .clear
  else if name = "pop" then some .pop
  else if name = "reverse" then some .reverse
  else if name = "sort" then some .sort
  else none

/-- What a method of a list gives: the item that is taken away, or nothing. -/
def methodResult (items : List Value) : ListMethod → Except Failure Value
  | .clear => .ok null
  | .pop =>
      match items.getLast? with
      | some item => .ok item
      | none => .error (.foreign .emptyList)
  | .reverse => .ok null
  | .sort => if areComparable items then .ok null else .error (.foreign .unsupported)

/-- Notes a change of a list. Nobody can see it if only this look-up can come to the list. -/
def note (id : Option ListId) (method : ListMethod) : Looking Unit :=
  match id with
  | none => pure ()
  | some changed => modify (· ++ [⟨changed, method⟩])

/-- The attributes of a list. The ones that work on further values cannot be asked for alone. -/
def listAttribute (id : Option ListId) (items : List Value) (name : Text) :
    Looking (Option Value) :=
  match methodNamed? name with
  | some method => do
      let result ← methodResult items method
      note id method
      pure (some result)
  | none =>
      attributeAmong [("copy", list none items)]
        ["append", "extend", "insert", "remove", "index", "count"] name

/-- The value behind one segment of a path. -/
def step (v : Value) (segment : Text) : Looking (Option Value) :=
  match v with
  | table entries =>
      match Keyed.get? entries segment with
      | some inner => inner.force.map some
      | none => absent
  | text t => textAttribute t segment
  | int n => numberAttribute n segment
  | bool b => numberAttribute b.toInt segment
  | kind k => kindAttribute k segment
  | list id items => listAttribute id items segment
  | project n p => pure (Keyed.get? (projectAttributes n p) segment)
  | package p => pure (Keyed.get? (packageAttributes p) segment)
  | _ => absent

/-- The value at the end of the segments of a path. -/
def follow (v : Value) : List Text → Looking (Option Value)
  | [] => pure (some v)
  | segment :: rest => do
      match ← step v segment with
      | some inner => follow inner rest
      | none => pure none

/-- The value that a dotted path leads to in a context, whose lists are as the changes so far have
left them. -/
def lookup (context : Entries Value) (path : Text) : Looking (Option Value) := do
  follow ((table context).after (← get)) (path.splitOn (.char '.'))

end Value

end Scaffold
