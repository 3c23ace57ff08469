import Scaffold.Skeleton

/-!
Catalogs of skeletons, and the resolution of inheritance in them. The skeletons from a name up to
its root form a walk; a walk that comes back to one of its names is an error.
-/

namespace Scaffold

/-- Skeletons by the names under which they are found. -/
abbrev Catalog := Entries Skeleton

namespace Catalog

/-- The names of a catalog that a walk has not visited. -/
def unvisited (catalog : Catalog) (walk : List Text) : List Text :=
  catalog.keys.filter (· ∉ walk)

theorem length_unvisited_lt (catalog : Catalog) (walk : List Text) {name : Text}
    (hname : name ∈ catalog.keys) (hwalk : name ∉ walk) :
    (catalog.unvisited (walk ++ [name])).length < (catalog.unvisited walk).length := by
  have hsplit : catalog.unvisited (walk ++ [name]) =
      (catalog.unvisited walk).filter (· ≠ name) := by
    simp only [unvisited, List.filter_filter]
    apply List.filter_congr
    intro key _
    simp [not_or, and_comm]
  rw [hsplit]
  apply List.length_filter_lt_length_iff_exists.2
  exact ⟨name, by simp [unvisited, hname, hwalk], by simp⟩

/-- The skeleton of a name with everything that it inherits. The names in `walk` lead to it. -/
def resolve (catalog : Catalog) (walk : List Text) (name : Text) : Except Failure Skeleton :=
  if _hwalk : name ∈ walk then .error (.skeleton none (.inheritanceCycle (walk ++ [name])))
  else
    match _hown : catalog.get? name with
    | none => .error (.skeleton none (.missingSkeleton name))
    | some own =>
        match own.inherits with
        | none => .ok own
        | some parent => (resolve catalog (walk ++ [name]) parent).map (Skeleton.extend name own)
termination_by (catalog.unvisited walk).length
decreasing_by exact length_unvisited_lt catalog walk (Keyed.mem_keys_of_get? _hown) _hwalk

/-- The skeleton of a name with everything that it inherits. -/
def lookup (catalog : Catalog) (name : Text) : Except Failure Skeleton := catalog.resolve [] name

/-- The skeletons in the order of their names. -/
def sortedSkeletons (catalog : Catalog) : List Skeleton :=
  (Text.sorted catalog.keys).filterMap catalog.get?

end Catalog

end Scaffold
