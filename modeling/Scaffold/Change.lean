import Scaffold.Project

/-!
Changes of lists. A list that several look-ups can come to is changed for all of them; so what is
done to such lists is kept in the order in which it was done. The lists of a project are changed
by the changes so far, one after the other.
-/

namespace Scaffold

/-- The methods that change a list. -/
inductive ListMethod where
  /-- Nothing is left. -/
  | clear
  /-- The last item is taken away. -/
  | pop
  | reverse
  | sort
  deriving DecidableEq

/-- The items of a list after a method; `atMost` is the order in which items are sorted. -/
def ListMethod.apply {α : Type} (atMost : α → α → Bool) : ListMethod → List α → List α
  | clear, _ => []
  | pop, items => items.dropLast
  | reverse, items => items.reverse
  | sort, items => items.mergeSort atMost

/-- The lists of a project. -/
inductive ProjectList where
  | skip
  | ciSystems
  | authors
  | packages
  deriving DecidableEq

/-- A list that several look-ups can come to. -/
inductive ListId where
  /-- A list that belongs to no project. -/
  | own (n : Nat)
  /-- A list of a project; `project` tells projects apart. -/
  | ofProject (project : Nat) (list : ProjectList)
  deriving DecidableEq

/-- A change of a list. -/
structure Change where
  list : ListId
  method : ListMethod
  deriving DecidableEq

/-- Changes, the first one first. -/
abbrev Changes := List Change

namespace Project

/-- The project `n` after a method of one of its lists. Packages have no order, so only a list with
at most one of them can be sorted. -/
def withMethod (p : Project) (method : ListMethod) : ProjectList → Project
  | .skip => { p with skip := method.apply Text.atMost p.skip }
  | .ciSystems => { p with ciSystems := method.apply Text.atMost p.ciSystems }
  | .authors => { p with authors := method.apply Text.atMost p.authors }
  | .packages => { p with packages := method.apply (fun _ _ => true) p.packages }

/-- The project `n` after a change. -/
def changed (n : Nat) (p : Project) (c : Change) : Project :=
  match c.list with
  | .own _ => p
  | .ofProject project list => if project = n then p.withMethod c.method list else p

/-- The project of a run after changes. -/
def after (p : Project) (changes : Changes) : Project := changes.foldl (changed 0) p

end Project

end Scaffold
