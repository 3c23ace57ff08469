import Scaffold.Disk.Lookup
import Scaffold.Proofs.Steps

/-!
Disks that extend others. What stood on a disk still stands: directories and links as they were, and
files with their contents, except for those that were touched. So a location goes on to lead to the
same path.
-/

namespace Scaffold

/-- What an entry may have become. Only where something is touched may a file have a new content, and
a directory in which names could be looked up still permits it. -/
inductive Entry.Becomes (touched : Prop) : Entry → Entry → Prop
  | file {content content' : Bytes} {mode mode' : Nat} (hcontent : content' = content ∨ touched) :
      Becomes touched (.file content mode) (.file content' mode')
  | directory {mode mode' : Nat}
      (hsearch : ownerSearches mode = true → ownerSearches mode' = true) :
      Becomes touched (.directory mode) (.directory mode')
  | link {target : Bytes} : Becomes touched (.link target) (.link target)

namespace Disk

/-- A disk on which everything that stood on another one still stands, with new contents of files
only where something was touched. -/
structure Extends (touched : Path → Prop) (d d' : Disk) : Prop where
  current_eq : d'.current = d.current
  becomes : ∀ p entry, d.get? p = some entry →
    ∃ entry', d'.get? p = some entry' ∧ entry.Becomes (touched p) entry'

/-- A location leads to a file with that content. -/
def HoldsAt (d : Disk) (l : Location) (content : Bytes) : Prop :=
  ∃ p mode, d.find l = .ok (p, .file content mode)

end Disk

namespace Entry.Becomes

variable {touched touched' : Prop} {entry entry' entry'' : Entry}

theorem refl (entry : Entry) : entry.Becomes touched entry := by
  cases entry with
  | file content mode => exact .file (.inl rfl)
  | directory mode => exact .directory id
  | link target => exact .link

theorem trans (h : entry.Becomes touched entry') (h' : entry'.Becomes touched entry'') :
    entry.Becomes touched entry'' := by
  cases h with
  | file hcontent =>
      cases h' with
      | file hcontent' =>
          refine .file ?_
          rcases hcontent' with rfl | htouched
          · exact hcontent
          · exact .inr htouched
  | directory hsearch =>
      cases h' with
      | directory hsearch' => exact .directory (hsearch' ∘ hsearch)
  | link =>
      cases h'
      exact .link

theorem imp (h : entry.Becomes touched entry') (himp : touched → touched') :
    entry.Becomes touched' entry' := by
  cases h with
  | file hcontent => exact .file (hcontent.imp_right himp)
  | directory hsearch => exact .directory hsearch
  | link => exact .link

end Entry.Becomes

namespace Disk

variable {touched touched' : Path → Prop} {d d' d'' : Disk} {p : Path} {l : Location}

namespace Extends

theorem refl (d : Disk) : d.Extends touched d :=
  ⟨rfl, fun _ entry h => ⟨entry, h, .refl entry⟩⟩

theorem trans (h : d.Extends touched d') (h' : d'.Extends touched d'') :
    d.Extends touched d'' := by
  refine ⟨h'.current_eq.trans h.current_eq, fun p entry hentry => ?_⟩
  obtain ⟨entry', hentry', hbecomes⟩ := h.becomes p entry hentry
  obtain ⟨entry'', hentry'', hbecomes'⟩ := h'.becomes p entry' hentry'
  exact ⟨entry'', hentry'', hbecomes.trans hbecomes'⟩

theorem imp (h : d.Extends touched d') (himp : ∀ p, touched p → touched' p) :
    d.Extends touched' d' := by
  refine ⟨h.current_eq, fun p entry hentry => ?_⟩
  obtain ⟨entry', hentry', hbecomes⟩ := h.becomes p entry hentry
  exact ⟨entry', hentry', hbecomes.imp (himp p)⟩

theorem put_new {entry : Entry} (hnone : d.get? p = none) :
    d.Extends touched (d.put p entry) := by
  refine ⟨rfl, fun q old hold => ?_⟩
  have hne : q ≠ p := by
    rintro rfl
    rw [hnone] at hold
    cases hold
  exact ⟨old, by rw [get?_put, if_neg hne, hold], .refl old⟩

theorem isDirectory (h : d.Extends touched d') (hd : d.isDirectory p = true) :
    d'.isDirectory p = true := by
  unfold Disk.isDirectory at hd
  split at hd
  · rename_i mode hentry
    obtain ⟨entry', hentry', hbecomes⟩ := h.becomes p _ hentry
    cases hbecomes
    rw [Disk.isDirectory, hentry']
  · cases hd

/-- What a walk could follow it can still follow. -/
theorem obstacle?_eq_none (h : d.Extends touched d') {name : Bytes}
    (hname : d.obstacle? p name = none) : d'.obstacle? p name = none := by
  unfold obstacle? at hname
  split at hname
  · rename_i mode hentry
    obtain ⟨entry', hentry', hbecomes⟩ := h.becomes p _ hentry
    cases hbecomes with
    | directory hsearch =>
        split at hname
        · rename_i hopen
          rw [obstacle?, hentry']
          exact if_pos (hopen.imp_right hsearch)
        · cases hname
  · cases hname

end Extends

/-- A walk comes to the same place again if what it led to is there now and is no link. -/
theorem walkNames_of_extends {last : LastName} {links : Nat} {place : Place} {entry : Entry}
    {follow follow' : Path → Route → Except DiskFault Place} {here : Path} {names : Route}
    (h : d.Extends touched d') (hlast : last ≠ .keep)
    (hentry : d'.get? place.path = some entry) (hlink : ∀ target, entry ≠ .link target)
    (hfollow : ∀ here names, follow here names = .ok place → follow' here names = .ok place)
    (hwalk : d.walkNames last links follow here names = .ok place) :
    d'.walkNames .follow links follow' here names = .ok place := by
  induction names generalizing here with
  | nil => exact hwalk
  | cons name rest ih =>
      unfold walkNames at hwalk ⊢
      cases hname : d.obstacle? here name with
      | some fault => simp [hname] at hwalk
      | none =>
        rw [hname] at hwalk
        rw [h.obstacle?_eq_none hname]
        dsimp only at hwalk ⊢
        by_cases hstays : staysHere name = true
        · rw [if_pos hstays] at hwalk ⊢
          exact ih hwalk
        rw [if_neg hstays] at hwalk ⊢
        by_cases hup : leadsUp name = true
        · rw [if_pos hup] at hwalk ⊢
          exact ih hwalk
        rw [if_neg hup] at hwalk ⊢
        by_cases hlong : maximalNameLength < name.length
        · rw [if_pos hlong] at hwalk
          cases hwalk
        rw [if_neg hlong] at hwalk ⊢
        cases hold : d.get? (here ++ [name]) with
        | none =>
            -- Only here the walk may end where nothing stood.
            rw [hold] at hwalk
            dsimp only at hwalk
            split at hwalk
            · rename_i hend
              cases hwalk
              rw [hentry, List.isEmpty_iff.mp hend.1]
              cases entry with
              | link target => exact absurd rfl (hlink target)
              | file content mode => rfl
              | directory mode => rfl
            · cases hwalk
        | some old =>
            obtain ⟨entry', hentry', hbecomes⟩ := h.becomes _ old hold
            rw [hold] at hwalk
            rw [hentry']
            cases hbecomes with
            | file => exact ih hwalk
            | directory => exact ih hwalk
            | link =>
                dsimp only at hwalk ⊢
                rw [if_neg (by simp [hlast])] at hwalk
                rw [if_neg (by simp)]
                exact hfollow _ _ hwalk

theorem walkFrom_of_extends {last : LastName} {links : Nat} {place : Place} {entry : Entry}
    {here : Path} {names : Route} (h : d.Extends touched d') (hlast : last ≠ .keep)
    (hentry : d'.get? place.path = some entry) (hlink : ∀ target, entry ≠ .link target)
    (hwalk : d.walkFrom last links here names = .ok place) :
    d'.walkFrom .follow links here names = .ok place := by
  induction links generalizing here names with
  | zero => exact walkNames_of_extends h hlast hentry hlink (fun _ _ hfollow => hfollow) hwalk
  | succ links ih => exact walkNames_of_extends h hlast hentry hlink (fun _ _ => ih) hwalk

theorem locate_eq_ok_iff {last : LastName} :
    d.locate last l = .ok p ↔
      checkSpelling l = .ok () ∧ ∃ links,
        d.walk last (d.start l) (l.names.map Text.encode) = .ok ⟨p, links⟩ := by
  unfold locate
  rw [Step.except_bind_eq_ok_iff]
  constructor
  · rintro ⟨_, hspelling, hplace⟩
    cases hwalk : d.walk last (d.start l) (l.names.map Text.encode) with
    | error fault =>
        rw [hwalk] at hplace
        cases hplace
    | ok place =>
        rw [hwalk] at hplace
        cases hplace
        exact ⟨hspelling, place.links, rfl⟩
  · rintro ⟨hspelling, links, hwalk⟩
    exact ⟨(), hspelling, by rw [hwalk]; rfl⟩

theorem find_eq_ok_iff {entry : Entry} :
    d.find l = .ok (p, entry) ↔ d.locate .follow l = .ok p ∧ d.get? p = some entry := by
  unfold find entryAt
  rw [Step.except_bind_eq_ok_iff]
  constructor
  · rintro ⟨q, hlocate, hget⟩
    cases hentry : d.get? q with
    | none =>
        rw [hentry] at hget
        cases hget
    | some found =>
        rw [hentry] at hget
        cases hget
        exact ⟨hlocate, hentry⟩
  · rintro ⟨hlocate, hentry⟩
    exact ⟨p, hlocate, by rw [hentry]; rfl⟩

theorem exists_find_of_read {bytes : Bytes} (h : d.read l = .ok bytes) :
    ∃ p mode, d.find l = .ok (p, .file bytes mode) := by
  obtain ⟨⟨p, entry⟩, hfind, hread⟩ := Step.except_bind_eq_ok_iff.mp h
  cases entry with
  | file content mode =>
      dsimp only at hread
      split at hread <;> cases hread
      exact ⟨p, mode, hfind⟩
  | directory mode => cases hread
  | link target => cases hread

theorem read_of_find {bytes : Bytes} {mode : Nat} (hfind : d.find l = .ok (p, .file bytes mode))
    (hmode : ownerReads mode = true) : d.read l = .ok bytes := by
  rw [read, hfind]
  exact if_pos hmode

theorem exists_find_of_probe {entry : Entry} (h : d.probe l = .ok (some entry)) :
    ∃ p, d.find l = .ok (p, entry) := by
  unfold probe at h
  cases hfind : d.find l with
  | ok found =>
      rw [hfind] at h
      cases h
      exact ⟨found.1, rfl⟩
  | error failure => by_cases hmeans : meansNothing failure = true <;> simp [hfind, hmeans] at h

theorem find_of_locate {last : LastName} {entry : Entry} (h : d.Extends touched d')
    (hlast : last ≠ .keep) (hlocate : d.locate last l = .ok p) (hentry : d'.get? p = some entry)
    (hlink : ∀ target, entry ≠ .link target) : d'.find l = .ok (p, entry) := by
  obtain ⟨hspelling, links, hwalk⟩ := locate_eq_ok_iff.mp hlocate
  have hstart : d'.start l = d.start l := by rw [start, start, h.current_eq]
  refine find_eq_ok_iff.mpr ⟨locate_eq_ok_iff.mpr ⟨hspelling, links, ?_⟩, hentry⟩
  rw [hstart]
  exact walkFrom_of_extends h hlast hentry hlink hwalk

/-- A file that was found is found at the same path, and is the same unless it was touched. -/
theorem find_of_extends {content : Bytes} {mode : Nat} (h : d.Extends touched d')
    (hfind : d.find l = .ok (p, .file content mode)) :
    ∃ content' mode', d'.find l = .ok (p, .file content' mode') ∧
      (content' = content ∨ touched p) := by
  obtain ⟨hlocate, hentry⟩ := find_eq_ok_iff.mp hfind
  obtain ⟨entry', hentry', hbecomes⟩ := h.becomes p _ hentry
  cases hbecomes with
  | @file _ content' _ mode' hcontent =>
      exact ⟨content', mode',
        find_of_locate h (by simp) hlocate hentry' (by rintro target ⟨⟩), hcontent⟩

end Disk

end Scaffold
