import Scaffold.Value.Order

/-!
Values after changes of lists. A list that is changed is the same list wherever it stands in a
value.
-/

namespace Scaffold

namespace Value

mutual

/-- A value after a change of a list. -/
def changed (c : Change) : Value → Value
  | list id items =>
      if id = some c.list then list id (c.method.apply atMost (changedItems c items))
      else list id (changedItems c items)
  | table entries => table (changedEntries c entries)
  | project n p => project n (p.changed n c)
  | computed result => computed (changed c result)
  | v => v

/-- The items of a list after a change of another list. -/
def changedItems (c : Change) : List Value → List Value
  | [] => []
  | item :: rest => changed c item :: changedItems c rest

/-- The entries of a table after a change of a list. -/
def changedEntries (c : Change) : List (Text × Value) → List (Text × Value)
  | [] => []
  | (key, value) :: rest => (key, changed c value) :: changedEntries c rest

end

/-- A value after changes. -/
def after (v : Value) (changes : Changes) : Value := changes.foldl (fun v c => v.changed c) v

end Value

end Scaffold
