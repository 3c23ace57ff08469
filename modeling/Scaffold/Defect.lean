import Scaffold.Text

/-!
What can be wrong with the data of a record, and where in the data it is.
-/

namespace Scaffold

/-- One step from a value to a value inside of it. -/
inductive Step where
  /-- To the value of a key. -/
  | key (name : Text)
  /-- To an element of a list. -/
  | index (n : Nat)
  deriving DecidableEq

/-- The ways in which a value does not fit. -/
inductive DefectKind where
  /-- A required key is absent. -/
  | missing
  /-- The record has no such key. -/
  | unknownKey
  /-- The value is no text. -/
  | notText
  /-- The value is no list. -/
  | notList
  /-- The value is no table. -/
  | notTable
  /-- The value is no table that could be a record. -/
  | notRecord
  /-- The value is none of the members of an enumeration. -/
  | notMember
  /-- The value is no truth value. -/
  | notBool
  /-- The value is of a type that can stand for a truth value, but stands for none. -/
  | unreadableBool
  deriving DecidableEq

/-- A defect and the steps that lead to it. -/
structure Defect where
  /-- The steps from the whole data, outermost first. -/
  location : List Step
  /-- What is wrong there. -/
  kind : DefectKind
  deriving DecidableEq

/-- A defect of a value inside of another one, located from there. -/
def Defect.within (step : Step) (d : Defect) : Defect := { d with location := step :: d.location }

/-- The records that are checked. -/
inductive RecordKind where
  /-- The description of a project. -/
  | project
  /-- The description of a package. -/
  | package
  deriving DecidableEq

/-- The name of a record in messages. -/
def RecordKind.title : RecordKind → String
  | project => "Project"
  | package => "Package"

end Scaffold
