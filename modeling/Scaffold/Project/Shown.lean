import Scaffold.Project
import Scaffold.Text.Quoted

/-!
How projects and packages are shown. Texts are quoted wherever they stand; a record is shown as its
declared fields in their order.
-/

namespace Scaffold

namespace Text

/-- How a truth value is shown. -/
def shownBool (b : Bool) : Text := if b then "True" else "False"

/-- How an optional text is shown. -/
def shownOption (t : Option Text) : Text := (t.map quoted).getD "None"

/-- How items that are shown already are shown as a list. -/
def shownList (items : List Text) : Text := "[" ++ join ", " items ++ "]"

/-- How entries that are shown already are shown as a table. -/
def shownTable (entries : Entries Text) : Text :=
  "\x7b" ++ join ", " (entries.map fun entry => entry.1.quoted ++ ": " ++ entry.2) ++ "\x7d"

/-- How a table of texts is shown. -/
def shownFields (fields : Entries Text) : Text :=
  shownTable (fields.map fun field => (field.1, field.2.quoted))

end Text

namespace PackageKind

/-- The qualified name of the member of the enumeration of kinds. -/
def qualified (kind : PackageKind) : Text := "PackageKind." ++ kind.constant

/-- How a kind is shown. -/
def shown (kind : PackageKind) : Text :=
  "<" ++ kind.qualified ++ ": " ++ Text.quoted kind.word ++ ">"

end PackageKind

/-- Shown fields after the name of the record to which they belong. -/
def shownRecord (title : String) (fields : Entries Text) : Text :=
  title ++ "(" ++ Text.join ", " (fields.map fun field => field.1 ++ "=" ++ field.2) ++ ")"

/-- Shown fields without the name of the record. -/
def insertedRecord (fields : Entries Text) : Text :=
  Text.join " " (fields.map fun field => field.1 ++ "=" ++ field.2)

/-- Shown fields, one a line, as pairs. -/
def recordLines (fields : Entries Text) : Text :=
  Text.join "\n" (fields.map fun field => "(" ++ field.1.quoted ++ ", " ++ field.2 ++ ")")

namespace Package

/-- The fields of a package as they are shown. -/
def shownFields (p : Package) : Entries Text :=
  [
    ("name", p.name.quoted), ("dir", p.dir.quoted), ("kind", p.kind.shown),
    ("skeleton", Text.shownOption p.skeleton), ("pack_modules", Text.shownBool p.packModules),
    ("synopsis", p.synopsis.quoted), ("fields", Text.shownFields p.fields)]

/-- How a package is shown. -/
def shown (p : Package) : Text := shownRecord "Package" p.shownFields

end Package

namespace Project

/-- The fields of a project as they are shown. -/
def shownFields (p : Project) : Entries Text :=
  let texts := fun (ts : List Text) => Text.shownList (ts.map Text.quoted)
  [
    ("name", p.name.quoted), ("version", p.version.quoted), ("synopsis", p.synopsis.quoted),
    ("skeleton", Text.shownOption p.skeleton), ("skip", texts p.skip),
    ("ci_systems", texts p.ciSystems), ("authors", texts p.authors),
    ("license", Text.shownOption p.license),
    ("github_organization", Text.shownOption p.githubOrganization),
    ("homepage", Text.shownOption p.homepage), ("copyright", Text.shownOption p.copyright),
    ("bug_reports", Text.shownOption p.bugReports), ("dev_repo", Text.shownOption p.devRepo),
    ("doc_gen", Text.shownOption p.docGen), ("doc_api", Text.shownOption p.docApi),
    ("sphinx_target", Text.shownOption p.sphinxTarget), ("profile", Text.shownOption p.profile),
    ("edition", p.edition.quoted), ("min_edition", p.minEdition.quoted),
    ("fields", Text.shownFields p.fields),
    ("packages", Text.shownList (p.packages.map Package.shown))]

/-- How a project is shown. -/
def shown (p : Project) : Text := shownRecord "Project" p.shownFields

end Project

end Scaffold
