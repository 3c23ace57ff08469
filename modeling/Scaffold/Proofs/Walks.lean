import Mathlib.Data.List.Infix
import Scaffold.Proofs.Extension

/-!
Walks in parts. A walk goes through the place to which its first names lead. If its names lead down
and it meets no link on them, it ends at the path that they spell.
-/

namespace Scaffold

/-- A name leads from a directory to something in it. -/
def LeadsDown (name : Bytes) : Prop := staysHere name = false ∧ leadsUp name = false

instance (name : Bytes) : Decidable (LeadsDown name) :=
  inferInstanceAs (Decidable (staysHere name = false ∧ leadsUp name = false))

namespace Disk

open Step (except_bind_eq_ok_iff)

/-- Names lead down from a path, and no link stands on the way as far as names may be looked up. -/
def IsStraight (d : Disk) (here : Path) (names : Route) : Prop :=
  (∀ name ∈ names, LeadsDown name) ∧
    ∀ front, front ≠ [] → front <+: names → ∀ target, d.get? (here ++ front) = some (.link target) →
      ∃ before, before <+: front ∧ d.isShut (here ++ before) = true

section

variable {d d' : Disk} {touched : Path → Prop} {last : LastName} {links : Nat} {place next : Place}
  {here p : Path} {name : Bytes} {names front rest : Route} {l : Location} {entry : Entry}
  {follow follow' : Path → Route → Except DiskFault Place}

theorem walk_nil (last : LastName) (place : Place) : d.walk last place [] = .ok place := by
  obtain ⟨here, links⟩ := place
  cases links with
  | zero => rfl
  | succ links => rfl

/-- What keeps a walk from a name is told by the entry where it has come to. -/
theorem obstacle?_congr (h : d'.get? here = d.get? here) (name : Bytes) :
    d'.obstacle? here name = d.obstacle? here name := by
  rw [obstacle?, obstacle?, h]

theorem isShut_congr (h : d'.get? p = d.get? p) : d'.isShut p = d.isShut p := by
  rw [isShut, isShut, h]

theorem isDirectory_of_obstacle? (h : d.obstacle? here name = none) :
    d.isDirectory here = true := by
  unfold obstacle? at h
  split at h
  · rename_i mode hentry
    rw [isDirectory, hentry]
  · cases h

theorem isShut_of_obstacle? (hname : LeadsDown name) (h : d.obstacle? here name = none) :
    d.isShut here = false := by
  unfold obstacle? at h
  split at h
  · rename_i mode hentry
    split at h
    · rename_i hopen
      have hne : name ≠ [] := by
        rintro rfl
        exact absurd hname.1 (by decide)
      simp [isShut, hentry, hopen.resolve_left hne]
    · cases h
  · cases h

theorem walk_of_obstacle? {fault : DiskFault} (h : d.obstacle? place.path name = some fault)
    (last : LastName) (rest : Route) : d.walk last place (name :: rest) = .error fault := by
  obtain ⟨here, links⟩ := place
  dsimp only at h
  cases links with
  | zero => rw [walk, walkFrom, walkNames, h]
  | succ links => rw [walk, walkFrom, walkNames, h]

theorem obstacle?_of_walk (h : d.walk last place (name :: rest) = .ok next) :
    d.obstacle? place.path name = none := by
  cases hname : d.obstacle? place.path name with
  | none => rfl
  | some fault => cases (walk_of_obstacle? hname last rest).symm.trans h

theorem obstacle?_of_missing (h : d.walk last place (name :: rest) = .error .missing) :
    d.obstacle? place.path name = none := by
  cases hname : d.obstacle? place.path name with
  | none => rfl
  | some fault =>
      cases (walk_of_obstacle? hname last rest).symm.trans h
      unfold obstacle? at hname
      split at hname
      · split at hname <;> cases hname
      · cases hname

theorem isDirectory_of_walk (h : d.walk last place (name :: rest) = .ok next) :
    d.isDirectory place.path = true :=
  isDirectory_of_obstacle? (obstacle?_of_walk h)

theorem walkNames_append (hrest : rest ≠ [])
    (hfollow : ∀ here names, follow here (names ++ rest) =
      follow' here names >>= fun place => d.walk last place rest)
    (hend : ∀ here, d.walkNames last links follow here rest = d.walk last ⟨here, links⟩ rest)
    (here : Path) (front : Route) :
    d.walkNames last links follow here (front ++ rest) =
      d.walkNames .follow links follow' here front >>= fun place => d.walk last place rest := by
  induction front generalizing here with
  | nil => exact hend here
  | cons name more ih =>
      have hmore : (more ++ rest).isEmpty = false := by simp [hrest]
      rw [List.cons_append, walkNames, walkNames]
      split
      · rfl
      split
      · exact ih here
      split
      · exact ih here.dropLast
      split
      · rfl
      split
      · simp [hmore]
        rfl
      · simp only [hmore, Bool.false_eq_true, false_and, if_false, reduceCtorEq, and_false]
        rw [← List.append_assoc, hfollow]
      · exact ih (here ++ [name])

theorem walkFrom_append (hrest : rest ≠ []) (links : Nat) (here : Path) (front : Route) :
    d.walkFrom last links here (front ++ rest) =
      d.walkFrom .follow links here front >>= fun place => d.walk last place rest := by
  induction links generalizing here front with
  | zero => exact walkNames_append hrest (fun _ _ => rfl) (fun _ => rfl) here front
  | succ links ih => exact walkNames_append hrest ih (fun _ => rfl) here front

/-- A walk goes on from the place to which its first names lead. -/
theorem walk_append (hrest : rest ≠ []) (start : Place) (front : Route) :
    d.walk last start (front ++ rest) =
      d.walk .follow start front >>= fun place => d.walk last place rest :=
  walkFrom_append hrest start.links start.path front

theorem walk_cons (start : Place) (name : Bytes) (rest : Route) :
    d.walk .follow start (name :: rest) =
      d.walk .follow start [name] >>= fun place => d.walk .follow place rest := by
  by_cases hrest : rest = []
  · subst hrest
    cases d.walk .follow start [name] with
    | error fault => rfl
    | ok place => exact (walk_nil .follow place).symm
  · exact walk_append hrest start [name]

theorem walkNames_create (hfollow : ∀ here names, follow here names = .ok place →
      follow' here names = .ok place)
    (h : d.walkNames .follow links follow here names = .ok place) :
    d.walkNames .create links follow' here names = .ok place := by
  induction names generalizing here with
  | nil => exact h
  | cons name rest ih =>
      unfold walkNames at h ⊢
      cases hname : d.obstacle? here name with
      | some fault => simp [hname] at h
      | none =>
      rw [hname] at h
      dsimp only at h ⊢
      by_cases hstays : staysHere name = true
      · rw [if_pos hstays] at h ⊢
        exact ih h
      rw [if_neg hstays] at h ⊢
      by_cases hup : leadsUp name = true
      · rw [if_pos hup] at h ⊢
        exact ih h
      rw [if_neg hup] at h ⊢
      by_cases hlong : maximalNameLength < name.length
      · simp [hlong] at h
      rw [if_neg hlong] at h ⊢
      split at h
      · simp at h
      · rw [if_neg (by simp)] at h ⊢
        exact hfollow _ _ h
      · exact ih h

theorem walkFrom_create (h : d.walkFrom .follow links here names = .ok place) :
    d.walkFrom .create links here names = .ok place := by
  induction links generalizing here names with
  | zero => exact walkNames_create (fun _ _ hfollow => hfollow) h
  | succ links ih => exact walkNames_create (fun _ _ => ih) h

/-- What is found is also where something would be created. -/
theorem locate_create_of_find (h : d.find l = .ok (p, entry)) : d.locate .create l = .ok p := by
  obtain ⟨hspelling, links, hwalk⟩ := locate_eq_ok_iff.mp (find_eq_ok_iff.mp h).1
  exact locate_eq_ok_iff.mpr ⟨hspelling, links, walkFrom_create hwalk⟩

/-- No link is met by the first name that may be looked up. -/
theorem IsStraight.ne_link (h : d.IsStraight here (name :: rest)) (hopen : d.isShut here = false)
    (target : Bytes) : d.get? (here ++ [name]) ≠ some (.link target) := by
  intro hlink
  obtain ⟨before, hbefore, hshut⟩ := h.2 [name] (by simp) (by simp) target hlink
  rcases List.prefix_cons_iff.mp hbefore with rfl | ⟨more, rfl, hmore⟩
  · rw [List.append_nil, hopen] at hshut
    cases hshut
  · rw [List.prefix_nil.mp hmore, isShut, hlink] at hshut
    cases hshut

theorem IsStraight.tail (h : d.IsStraight here (name :: rest)) (hopen : d.isShut here = false) :
    d.IsStraight (here ++ [name]) rest := by
  refine ⟨fun other hother => h.1 other (List.mem_cons_of_mem _ hother), ?_⟩
  intro front _ hbegins target hlink
  rw [List.append_assoc] at hlink
  obtain ⟨before, hbefore, hshut⟩ :=
    h.2 (name :: front) (by simp) (List.cons_prefix_cons.mpr ⟨rfl, hbegins⟩) target hlink
  rcases List.prefix_cons_iff.mp hbefore with rfl | ⟨more, rfl, hmore⟩
  · rw [List.append_nil, hopen] at hshut
    cases hshut
  · exact ⟨more, hmore, by rwa [List.append_assoc]⟩

theorem IsStraight.of_isPrefix (h : d.IsStraight here names) (hbegins : front <+: names) :
    d.IsStraight here front := by
  refine ⟨fun name hname => h.1 name (hbegins.subset hname), ?_⟩
  intro before hne hbefore
  exact h.2 before hne (hbefore.trans hbegins)

/-- A walk along names that lead down, with no link on the way, ends at the path they spell. -/
theorem IsStraight.walkNames_eq (h : d.IsStraight here names)
    (hwalk : d.walkNames last links follow here names = .ok place) :
    place = ⟨here ++ names, links⟩ := by
  induction names generalizing here with
  | nil =>
      cases hwalk
      rw [List.append_nil]
  | cons name rest ih =>
      have hdown := h.1 name List.mem_cons_self
      have hpath : here ++ name :: rest = here ++ [name] ++ rest := by simp
      unfold walkNames at hwalk
      split at hwalk
      · cases hwalk
      rename_i hname
      have hopen := isShut_of_obstacle? hdown hname
      simp only [hdown.1, hdown.2, Bool.false_eq_true, if_false] at hwalk
      split at hwalk
      · cases hwalk
      split at hwalk
      · split at hwalk
        · rename_i hend
          cases hwalk
          rw [List.isEmpty_iff.mp hend.1]
        · cases hwalk
      · rename_i target htarget
        exact absurd htarget (h.ne_link hopen target)
      · rw [hpath]
        exact ih (h.tail hopen) hwalk

theorem IsStraight.walk_eq (h : d.IsStraight place.path names)
    (hwalk : d.walk last place names = .ok next) : next = ⟨place.path ++ names, place.links⟩ := by
  obtain ⟨here, links⟩ := place
  cases links with
  | zero => exact h.walkNames_eq hwalk
  | succ links => exact h.walkNames_eq hwalk

/-- A walk that goes straight on gets past the directories on its way only if names may be looked up
in them. -/
theorem IsStraight.isShut_of_walk (h : d.IsStraight place.path names)
    (hwalk : d.walk last place names = .ok next) (hbegins : front ++ [name] <+: names) :
    d.isShut (place.path ++ front) = false := by
  obtain ⟨rest, rfl⟩ := hbegins
  have hdown : LeadsDown name := h.1 name (by simp)
  have hfront : front <+: front ++ [name] ++ rest := by simp
  rw [List.append_assoc, List.singleton_append, walk_append (by simp)] at hwalk
  obtain ⟨middle, hmiddle, hrest⟩ := Step.except_bind_eq_ok_iff.mp hwalk
  cases (h.of_isPrefix hfront).walk_eq hmiddle
  exact isShut_of_obstacle? hdown (obstacle?_of_walk hrest)

/-- What leads to a path leads there too after a change, if directories are still directories. -/
theorem walk_of_extends (h : d.Extends touched d') (hdirectory : d.isDirectory next.path = true)
    (hwalk : d.walk .follow place names = .ok next) : d'.walk .follow place names = .ok next := by
  unfold isDirectory at hdirectory
  split at hdirectory
  · rename_i mode hentry
    obtain ⟨entry', hentry', hbecomes⟩ := h.becomes _ _ hentry
    cases hbecomes with
    | directory =>
        exact walkFrom_of_extends h (by simp) hentry' (by rintro target ⟨⟩) hwalk
  · cases hdirectory

theorem isDirectory_of_find {mode : Nat} (h : d.find l = .ok (p, .directory mode)) :
    d.isDirectory p = true := by
  rw [isDirectory, (find_eq_ok_iff.mp h).2]

end

end Disk

end Scaffold
