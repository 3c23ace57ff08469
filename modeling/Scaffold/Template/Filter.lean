import Scaffold.Failure
import Scaffold.Text.Blank
import Scaffold.Text.Casing
import Scaffold.Value

/-!
Filters, which change a value before it is inserted.
-/

namespace Scaffold

/-- A change of a value, which may not suit every value. -/
abbrev Filter := Value → Except Failure Value

/-- Filters by their names. -/
abbrev Filters := Entries Filter

namespace Filter

/-- The filter that changes the inserted text. -/
def ofText (change : Text → Text) : Filter := fun v => .ok (.text (change v.inserted))

/-- Whether a letter may stand in an identifier. -/
def isIdentifier (c : Letter) : Bool := c.holds fun c => c.isAlphanum || c = '_'

/-- A text with an underscore in place of each longest block of letters that may not stand in an
identifier; `inBlock` says whether the letter before was one of these. -/
def joinIdentifiers (inBlock : Bool) : Text → Text
  | [] => []
  | c :: rest =>
      if isIdentifier c then c :: joinIdentifiers false rest
      else if inBlock then joinIdentifiers true rest
      else .char '_' :: joinIdentifiers true rest

/-- The name of a module that is named like a text. -/
def moduleName (t : Text) : Text :=
  ((joinIdentifiers false t).trim (· = .char '_')).lower

/-- The items of a value, one a line. The items of a text are its letters, those of a table are its
keys and those of a record are its fields. -/
def lines : Filter
  | .list _ items => .ok (.text (Text.join "\n" (items.map Value.inserted)))
  | .table entries => .ok (.text (Text.join "\n" (entries.map Prod.fst)))
  | .project _ p => .ok (.text (recordLines p.shownFields))
  | .package p => .ok (.text (recordLines p.shownFields))
  | v =>
      match v.text? with
      | some t => .ok (.text (Text.join "\n" (t.map ([·]))))
      | none => .error (.foreign .unsupported)

/-- The filters that are used unless others are given. -/
def standard : Filters :=
  [
    ("upper", ofText Text.upper), ("lower", ofText Text.lower), ("title", ofText Text.title),
    ("capitalize", ofText Text.capitalize), ("module", ofText moduleName),
    ("repr", fun v => .ok (.text v.display)), ("strip", ofText Text.strip), ("lines", lines)]

/-- A value after the filters of the given names, one after the other. -/
def applyAll (filters : Filters) (v : Value) : List Text → Except Failure Value
  | [] => .ok v
  | name :: rest =>
      match filters.get? name with
      | none => .error (.template (.unknownFilter name))
      | some filter => (filter v).bind fun v => applyAll filters v rest

end Filter

end Scaffold
