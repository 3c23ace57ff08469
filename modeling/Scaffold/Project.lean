import Scaffold.Keyed

/-!
Projects and their packages, as far as skeletons may ask about them. The addresses of a project are
those that it declares, or else follow from its organization on GitHub.
-/

namespace Scaffold

/-- What a package builds. -/
inductive PackageKind where
  /-- A library. -/
  | library
  /-- A program. -/
  | program
  /-- Nothing of its own. -/
  | virtual
  deriving DecidableEq

/-- The word for a kind of packages. -/
def PackageKind.word : PackageKind → String
  | library => "library"
  | program => "program"
  | virtual => "virtual"

/-- The name of the member of the enumeration of kinds. -/
def PackageKind.constant : PackageKind → String
  | library => "LIBRARY"
  | program => "PROGRAM"
  | virtual => "VIRTUAL"

/-- All kinds of packages. -/
def PackageKind.all : List PackageKind := [library, program, virtual]

/-- The kind that a word stands for. -/
def PackageKind.ofWord? (word : Text) : Option PackageKind :=
  all.find? fun kind => word = (kind.word : Text)

/-- A package of a project. -/
structure Package where
  /-- The name. -/
  name : Text
  /-- The directory below the root of the project. -/
  dir : Text
  /-- What the package builds. -/
  kind : PackageKind := .library
  /-- The name of the skeleton, if it is declared. -/
  skeleton : Option Text := none
  /-- Whether modules are packed under the name of the package. -/
  packModules : Bool := true
  /-- A summary of one line. -/
  synopsis : Text := []
  /-- Further texts for templates. -/
  fields : Entries Text := []
  deriving DecidableEq

/-- The edition that a project has unless it declares another one. -/
def defaultEdition : Text := "3.11"

/-- The name of the skeleton that a project has unless it declares another one. -/
def defaultSkeleton : Text := "program"

/-- A project. -/
structure Project where
  /-- The name. -/
  name : Text
  /-- The version. -/
  version : Text := "0.1.0"
  /-- A summary of one line. -/
  synopsis : Text := []
  /-- The name of the skeleton, if it is declared. -/
  skeleton : Option Text := none
  /-- The active skip tags. -/
  skip : List Text := []
  /-- The systems of continuous integration in use. -/
  ciSystems : List Text := []
  /-- The authors. -/
  authors : List Text := []
  /-- The licence. -/
  license : Option Text := none
  /-- The organization on GitHub. -/
  githubOrganization : Option Text := none
  /-- The declared address of the home page. -/
  homepage : Option Text := none
  /-- The holder of the rights. -/
  copyright : Option Text := none
  /-- The declared address for bug reports. -/
  bugReports : Option Text := none
  /-- The declared address of the development repository. -/
  devRepo : Option Text := none
  /-- The declared address of the general documentation. -/
  docGen : Option Text := none
  /-- The declared address of the documentation of the interface. -/
  docApi : Option Text := none
  /-- The directory of the documentation. -/
  sphinxTarget : Option Text := none
  /-- The profile. -/
  profile : Option Text := none
  /-- The edition that is developed with. -/
  edition : Text := defaultEdition
  /-- The oldest supported edition. -/
  minEdition : Text := defaultEdition
  /-- Further texts for templates. -/
  fields : Entries Text := []
  /-- The packages. -/
  packages : List Package := []
  deriving DecidableEq

namespace Package

/-- The name of the skeleton of a package. -/
def skeletonName (p : Package) : Text := (Text.nonempty? p.skeleton).getD p.kind.word

end Package

namespace Project

/-- The name of the skeleton of a project. -/
def skeletonName (p : Project) : Text := (Text.nonempty? p.skeleton).getD defaultSkeleton

/-- The address of a page of the project on GitHub. -/
def githubPages (p : Project) (page : Text := []) : Option Text :=
  p.githubOrganization.map fun organization =>
    "https://" ++ organization ++ ".github.io/" ++ p.name ++ page

/-- The address of the home page. -/
def homepageUrl (p : Project) : Option Text := (Text.nonempty? p.homepage).or p.githubPages

/-- The address for bug reports. -/
def bugReportsUrl (p : Project) : Option Text :=
  p.bugReports.or <| p.githubOrganization.map fun organization =>
    "https://github.com/" ++ organization ++ "/" ++ p.name ++ "/issues"

/-- The address of the development repository. -/
def devRepoUrl (p : Project) : Option Text :=
  p.devRepo.or <| p.githubOrganization.map fun organization =>
    "git+https://github.com/" ++ organization ++ "/" ++ p.name ++ ".git"

/-- The address of the general documentation. -/
def docGenUrl (p : Project) : Option Text := (Text.nonempty? p.docGen).or (p.githubPages "/sphinx")

/-- The address of the documentation of the interface. -/
def docApiUrl (p : Project) : Option Text := (Text.nonempty? p.docApi).or (p.githubPages "/doc")

end Project

end Scaffold
