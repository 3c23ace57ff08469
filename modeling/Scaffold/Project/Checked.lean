import Scaffold.Data
import Scaffold.Failure
import Scaffold.Project

/-!
Reading projects and packages from data. All defects are collected: those of the known keys in the
order in which a record lists them, then one for each unknown key.
-/

namespace Scaffold

/-- A value that was read from data, or what is wrong with the data. -/
inductive Checked (α : Type) where
  /-- The value. -/
  | fit (a : α)
  /-- The defects, which are at least one. -/
  | unfit (defects : List Defect)

namespace Checked

variable {α β : Type}

/-- A single defect right here. -/
def defect (kind : DefectKind) : Checked α := unfit [⟨[], kind⟩]

/-- Applies a function to a value. -/
def map (f : α → β) : Checked α → Checked β
  | fit a => fit (f a)
  | unfit defects => unfit defects

/-- A function applied to a value, with the defects of both. -/
def ap (f : Checked (α → β)) (a : Checked α) : Checked β :=
  match f, a with
  | fit f, fit a => fit (f a)
  | fit _, unfit defects => unfit defects
  | unfit defects, fit _ => unfit defects
  | unfit first, unfit second => unfit (first ++ second)

/-- A value that was read inside of another one. -/
def within (step : Step) : Checked α → Checked α
  | fit a => fit a
  | unfit defects => unfit (defects.map (Defect.within step))

/-- The values of all elements, the first of which has the index `start`. -/
def all (read : Data → Checked α) (start : Nat) : List Data → Checked (List α)
  | [] => fit []
  | d :: ds => (((read d).within (.index start)).map List.cons).ap (all read (start + 1) ds)

/-- The values of all entries. -/
def allEntries (read : Data → Checked α) : Entries Data → Checked (Entries α)
  | [] => fit []
  | (key, d) :: rest =>
      (((read d).within (.key key)).map fun a => List.cons (key, a)).ap (allEntries read rest)

/-- A text. -/
def text : Data → Checked Text
  | .text t => fit t
  | _ => defect .notText

/-- A value that may be absent. -/
def optional (read : Data → Checked α) : Data → Checked (Option α)
  | .null => fit none
  | d => (read d).map some

/-- A list. -/
def list (read : Data → Checked α) : Data → Checked (List α)
  | .list ds => all read 0 ds
  | _ => defect .notList

/-- A table with values of one type. -/
def table (read : Data → Checked α) : Data → Checked (Entries α)
  | .table entries => allEntries read entries
  | _ => defect .notTable

/-- The words that stand for a truth value. -/
def truthWords (b : Bool) : List Text :=
  if b then ["1", "on", "t", "true", "y", "yes"] else ["0", "off", "f", "false", "n", "no"]

/-- A text with its ASCII capitals made small. -/
def asciiLower (t : Text) : Text :=
  t.map fun
    | .char c => .char c.toLower
    | c => c

/-- The truth value of an integer. -/
def boolOfInt (n : Int) : Checked Bool :=
  if n = 0 then fit false else if n = 1 then fit true else defect .unreadableBool

/-- Whether an integer fits into 64 bits. -/
def isShort (n : Int) : Bool := -0x8000000000000000 ≤ n && n < 0x8000000000000000

/-- Whether an integer that was written as a floating point number is taken for one of 64 bits. The
least one of them is not. -/
def isShortFloat (n : Int) : Bool := -0x8000000000000000 < n && n < 0x8000000000000000

/-- A truth value, or a number or a word that stands for one. -/
def bool : Data → Checked Bool
  | .bool b => fit b
  | .int n => if isShort n then boolOfInt n else defect .notBool
  | .float x =>
      match x.toInt? with
      | some n => if isShortFloat n then boolOfInt n else defect .notBool
      | none => defect .notBool
  | .text t =>
      let word := asciiLower t
      if word ∈ truthWords true then fit true
      else if word ∈ truthWords false then fit false
      else defect .unreadableBool
  | _ => defect .notBool

/-- A kind of packages. -/
def packageKind : Data → Checked PackageKind
  | .text t =>
      match PackageKind.ofWord? t with
      | some kind => fit kind
      | none => defect .notMember
  | _ => defect .notMember

/-- The value of a key that must be present. -/
def required (entries : Entries Data) (key : String) (read : Data → Checked α) : Checked α :=
  (match entries.get? key with
    | some d => read d
    | none => defect .missing).within (.key key)

/-- The value of a key, or a default if it is absent. -/
def withDefault (entries : Entries Data) (key : String) (value : α) (read : Data → Checked α) :
    Checked α :=
  match entries.get? key with
  | some d => (read d).within (.key key)
  | none => fit value

/-- A record whose data have no keys but the known ones. -/
def closed (entries : Entries Data) (known : List String) (a : Checked α) : Checked α :=
  let unknown := entries.keys.filter fun key => key ∉ known.map Text.ofString
  if unknown.isEmpty then a
  else ((a.map fun a (_ : Unit) => a).ap
    (unfit (unknown.map fun key => ⟨[.key key], .unknownKey⟩)))

/-- The keys of a package. -/
def packageKeys : List String :=
  ["name", "dir", "kind", "skeleton", "pack_modules", "synopsis", "fields"]

/-- A package. -/
def package : Data → Checked Package
  | .table es =>
      closed es packageKeys <|
        ((required es "name" text).map Package.mk).ap (required es "dir" text)
          |>.ap (withDefault es "kind" .library packageKind)
          |>.ap (withDefault es "skeleton" none (optional text))
          |>.ap (withDefault es "pack_modules" true bool)
          |>.ap (withDefault es "synopsis" [] text)
          |>.ap (withDefault es "fields" [] (table text))
  | _ => defect .notRecord

/-- The keys of a project. -/
def projectKeys : List String :=
  [
    "name", "version", "synopsis", "skeleton", "skip", "ci_systems", "authors", "license",
    "github_organization", "homepage", "copyright", "bug_reports", "dev_repo", "doc_gen", "doc_api",
    "sphinx_target", "profile", "edition", "min_edition", "fields", "packages"]

/-- A project. -/
def project : Data → Checked Project
  | .table es =>
      let optionalText := fun key => withDefault es key none (optional text)
      closed es projectKeys <|
        ((required es "name" text).map Project.mk)
          |>.ap (withDefault es "version" "0.1.0" text)
          |>.ap (withDefault es "synopsis" [] text)
          |>.ap (optionalText "skeleton")
          |>.ap (withDefault es "skip" [] (list text))
          |>.ap (withDefault es "ci_systems" [] (list text))
          |>.ap (withDefault es "authors" [] (list text))
          |>.ap (optionalText "license")
          |>.ap (optionalText "github_organization")
          |>.ap (optionalText "homepage")
          |>.ap (optionalText "copyright")
          |>.ap (optionalText "bug_reports")
          |>.ap (optionalText "dev_repo")
          |>.ap (optionalText "doc_gen")
          |>.ap (optionalText "doc_api")
          |>.ap (optionalText "sphinx_target")
          |>.ap (optionalText "profile")
          |>.ap (withDefault es "edition" defaultEdition text)
          |>.ap (withDefault es "min_edition" defaultEdition text)
          |>.ap (withDefault es "fields" [] (table text))
          |>.ap (withDefault es "packages" [] (list package))
  | _ => defect .notRecord

/-- The value, or the failure that lists the defects. -/
def result (record : RecordKind) : Checked α → Except Failure α
  | fit a => .ok a
  | unfit defects => .error (.invalid record defects)

end Checked

/-- The project that data describe. -/
def Project.ofData (d : Data) : Except Failure Project := (Checked.project d).result .project

/-- The package that data describe. -/
def Package.ofData (d : Data) : Except Failure Package := (Checked.package d).result .package

end Scaffold
