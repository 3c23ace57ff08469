import Scaffold.Data

/-!
The tables that the statements of a TOML document build up. A table that was declared under a
header, or by dotted keys of an earlier section, is sealed: no header or dotted key may open it
again. Values are never opened.
-/

namespace Scaffold.Toml

/-- What stands under a key while a document is read. -/
inductive Item where
  /-- A value that was assigned, complete in itself. -/
  | value (d : Data)
  /-- A table, sealed from a section on if it is sealed at all. -/
  | table (sealedFrom : Option Nat) (entries : List (Text × Item))
  /-- The tables declared under a header in double brackets. The last one is the current one. -/
  | tables (elements : List (List (Text × Item)))

/-- Whether a table that is sealed from `sealedFrom` on is sealed in `section`. -/
def isSealed (sealedFrom : Option Nat) (current : Nat) : Bool :=
  match sealedFrom with
  | some start => start ≤ current
  | none => false

/-- Applies a change to the last element of a list. -/
def changeLast {α : Type} (change : α → Option α) : List α → Option (List α)
  | [] => none
  | [last] => (change last).map ([·])
  | first :: second :: rest => (changeLast change (second :: rest)).map (first :: ·)

/-- Applies a change to the table behind the path of a header, which opens the tables it needs. -/
def changeAt (change : Entries Item → Option (Entries Item)) :
    List Text → Entries Item → Option (Entries Item)
  | [], entries => change entries
  | key :: path, entries =>
      match Keyed.get? entries key with
      | none => (changeAt change path []).map fun inner => entries.insert key (.table none inner)
      | some (.table sealedFrom inner) =>
          (changeAt change path inner).map fun inner => entries.insert key (.table sealedFrom inner)
      | some (.tables elements) =>
          (changeLast (changeAt change path) elements).map fun elements =>
            entries.insert key (.tables elements)
      | some (.value _) => none

/-- Assigns a value under a dotted key in section `current`. The tables on the way are sealed for
later sections. -/
def assign (current : Nat) (d : Data) : List Text → Entries Item → Option (Entries Item)
  | [], _ => none
  | [key], entries =>
      match Keyed.get? entries key with
      | none => some (entries.insert key (.value d))
      | some _ => none
  | key :: path, entries =>
      match Keyed.get? entries key with
      | none =>
          (assign current d path []).map fun inner =>
            entries.insert key (.table (some (current + 1)) inner)
      | some (.table sealedFrom inner) =>
          if isSealed sealedFrom current then none
          else
            (assign current d path inner).map fun inner =>
              entries.insert key (.table (some (sealedFrom.getD (current + 1))) inner)
      | some _ => none

/-- Declares a table in section `current`. -/
def declareTable (current : Nat) (key : Text) (entries : Entries Item) : Option (Entries Item) :=
  match Keyed.get? entries key with
  | none => some (entries.insert key (.table (some 0) []))
  | some (.table sealedFrom inner) =>
      if isSealed sealedFrom current then none
      else some (entries.insert key (.table (some 0) inner))
  | some _ => none

/-- Declares one more table of a sequence of tables. -/
def declareElement (key : Text) (entries : Entries Item) : Option (Entries Item) :=
  match Keyed.get? entries key with
  | none => some (entries.insert key (.tables [[]]))
  | some (.tables elements) => some (entries.insert key (.tables (elements ++ [[]])))
  | some _ => none

mutual

/-- The value that an item stands for. -/
def Item.toData : Item → Data
  | .value d => d
  | .table _ entries => .table (entriesToData entries)
  | .tables elements => .list (elementsToData elements)

/-- The values under all keys of a table. -/
def entriesToData : List (Text × Item) → List (Text × Data)
  | [] => []
  | (key, item) :: rest => (key, item.toData) :: entriesToData rest

/-- The tables of a sequence. -/
def elementsToData : List (List (Text × Item)) → List Data
  | [] => []
  | entries :: rest => .table (entriesToData entries) :: elementsToData rest

end

end Scaffold.Toml
