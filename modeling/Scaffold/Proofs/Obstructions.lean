import Scaffold.Proofs.Failures
import Scaffold.Proofs.Mirror

/-!
What stands in the way of a file. A file that is placed below a directory needs a directory for each
name on the way to it. As long as nothing else stands there, placing the file may fail, but not
because something else stands where a directory is needed.
-/

namespace Scaffold

/-- The failures that tell that something else stands where a directory is needed. -/
inductive Failure.IsObstruction : Failure → Prop where
  | occupied (path : Text) : IsObstruction (.disk .occupied path)
  | notDirectory (path : Text) : IsObstruction (.disk .notDirectory path)

namespace Disk

open Failure (IsObstruction)
open Step (Refuses bind_eq_ok_iff bind_eq_error_iff lift_eq_ok_iff lift_eq_error_iff)

/-- Nothing but directories stands on the way from a path along names. -/
def IsFree (d : Disk) (here : Path) (names : Route) : Prop :=
  ∀ front, front ≠ [] → front <+: names →
    d.get? (here ++ front) = none ∨ d.isDirectory (here ++ front) = true

section

variable {d d' made : Disk} {place : Place} {base l : Location} {b p : Path} {name : Bytes}
  {names rest : Route} {mode : Nat} {content : Bytes} {bits : Int} {failure : Failure}
  {entry : Entry}

theorem IsFree.tail {here : Path} (h : d.IsFree here (name :: rest)) :
    d.IsFree (here ++ [name]) rest := by
  intro front _ hbegins
  rw [List.append_assoc]
  exact h (name :: front) (by simp) (List.cons_prefix_cons.mpr ⟨rfl, hbegins⟩)

/-- A directory that is made is not in the way of what comes below it. -/
theorem IsFree.put (h : d.IsFree p names) (entry : Entry) : (d.put p entry).IsFree p names := by
  intro front hne hbegins
  have hother : p ++ front ≠ p := by simpa using hne
  rw [isDirectory, get?_put, if_neg hother]
  exact h front hne hbegins

theorem IsFree.ne_link {here : Path} (h : d.IsFree here names) {front : Route} (hne : front ≠ [])
    (hbegins : front <+: names) (target : Bytes) : d.get? (here ++ front) ≠ some (.link target) := by
  intro hlink
  rcases h front hne hbegins with hnone | hdirectory
  · cases hnone.symm.trans hlink
  · obtain ⟨mode, hmode⟩ := isDirectory_iff.mp hdirectory
    cases hmode.symm.trans hlink

theorem IsFree.isStraight {here : Path} (h : d.IsFree here names)
    (hdown : ∀ name ∈ names, LeadsDown name) : d.IsStraight here names :=
  ⟨hdown, fun _ hne hbegins target hlink => absurd hlink (h.ne_link hne hbegins target)⟩

theorem obstacle?_of_isDirectory {here : Path} (h : d.isDirectory here = true) (name : Bytes) :
    d.obstacle? here name = some .denied ∨ d.obstacle? here name = none := by
  obtain ⟨mode, hentry⟩ := isDirectory_iff.mp h
  rw [obstacle?, hentry]
  dsimp only
  split
  · exact .inr rfl
  · exact .inl rfl

/-- One step of a walk from a directory, to where no link stands. -/
theorem walk_step (last : LastName) (hdirectory : d.isDirectory place.path = true)
    (hname : LeadsDown name)
    (hlink : ∀ target, d.get? (place.path ++ [name]) ≠ some (.link target)) :
    d.walk last place [name] = .error .denied ∨ d.walk last place [name] = .error .nameTooLong ∨
      (d.get? (place.path ++ [name]) = none ∧ last ≠ .create ∧
        d.walk last place [name] = .error .missing) ∨
      ((d.get? (place.path ++ [name]) = none → last = .create) ∧
        d.walk last place [name] = .ok { place with path := place.path ++ [name] }) := by
  rcases obstacle?_of_isDirectory hdirectory name with hdenied | hopen
  · exact .inl (walk_of_obstacle? hdenied last [])
  right
  obtain ⟨here, links⟩ := place
  have hnames (follow : Path → Route → Except DiskFault Place) :
      d.walkNames last links follow here [name] = .error .nameTooLong ∨
        (d.get? (here ++ [name]) = none ∧ last ≠ .create ∧
          d.walkNames last links follow here [name] = .error .missing) ∨
        ((d.get? (here ++ [name]) = none → last = .create) ∧
          d.walkNames last links follow here [name] = .ok ⟨here ++ [name], links⟩) := by
    rw [walkNames, hopen]
    dsimp only
    rw [if_neg (by simp [hname.1]), if_neg (by simp [hname.2])]
    split
    · exact .inl rfl
    split
    · rename_i hnone
      by_cases hlast : last = .create
      · exact .inr (.inr ⟨fun _ => hlast, if_pos ⟨rfl, hlast⟩⟩)
      · exact .inr (.inl ⟨hnone, hlast, if_neg fun h => hlast h.2⟩)
    · rename_i target hentry
      exact absurd hentry (hlink target)
    · rename_i hentry
      exact .inr (.inr ⟨fun hnone => absurd (hnone.symm.trans hentry) (by simp), rfl⟩)
  cases links with
  | zero => exact hnames _
  | succ links => exact hnames _

/-- Where nothing else stands in the way, making directories does not fail because of that. -/
theorem makeNames_unobstructed (hdirectory : d.isDirectory place.path = true)
    (hdown : ∀ name ∈ names, LeadsDown name) (hfree : d.IsFree place.path names)
    (h : makeNames l place names d = .error failure d') : ¬ IsObstruction failure := by
  induction names generalizing place d with
  | nil => cases h
  | cons name rest ih =>
      obtain ⟨hname, hrest⟩ := List.forall_mem_cons.mp hdown
      have hlink := hfree.ne_link (List.cons_ne_nil name []) (by simp)
      rw [makeNames, Step.get_bind] at h
      rcases walk_step .follow hdirectory hname hlink with
        hwalk | hwalk | ⟨hnone, -, hwalk⟩ | ⟨hsome, hwalk⟩
      · rw [hwalk] at h
        dsimp only at h
        rw [if_neg (by simp)] at h
        cases h
        rintro ⟨⟩
      · rw [hwalk] at h
        dsimp only at h
        rw [if_neg (by simp)] at h
        cases h
        rintro ⟨⟩
      · rw [hwalk] at h
        dsimp only at h
        rw [if_neg (by simp [hnone])] at h
        split at h
        · exact ih (isDirectory_iff.mpr ⟨_, by rw [get?_put, if_pos rfl]⟩) hrest
            (hfree.tail.put _) h
        · cases h
          rintro ⟨⟩
      · have hnext : d.isDirectory (place.path ++ [name]) = true :=
          (hfree [name] (by simp) (by simp)).resolve_left fun hnone => by cases hsome hnone
        rw [hwalk] at h
        dsimp only at h
        rw [if_pos hnext] at h
        exact ih hnext hrest hfree.tail h

/-- The directories that are made are found one after the other. -/
theorem walk_of_makeNames (hdirectory : d.isDirectory place.path = true)
    (h : makeNames l place names d = .ok () d') :
    ∃ next, d'.walk .follow place names = .ok next ∧ d'.isDirectory next.path = true := by
  induction names generalizing place d with
  | nil =>
      cases h
      exact ⟨place, walk_nil _ _, hdirectory⟩
  | cons name rest ih =>
      rcases makeNames_cases l place name rest d with ⟨failure, hmake⟩ |
        ⟨next, hwalk, hnext, hmake⟩ | ⟨-, hnone, hwalk, hmake⟩
      · cases hmake.symm.trans h
      · have hmore := hmake.symm.trans h
        obtain ⟨last, hlast, hend⟩ := ih hnext hmore
        have hstands := ((grows_makeNames l next rest).of_ok hmore).1.stands
        refine ⟨last, ?_, hend⟩
        rw [walk_cons, walk_of_extends hstands hnext hwalk]
        exact hlast
      · have hmore := hmake.symm.trans h
        have hmade : (d.put (place.path ++ [name]) (.directory newDirectoryMode)).isDirectory
            (place.path ++ [name]) = true := isDirectory_iff.mpr ⟨_, by rw [get?_put, if_pos rfl]⟩
        obtain ⟨last, hlast, hend⟩ := ih hmade hmore
        have hstands := ((grows_makeNames l _ rest).of_ok hmore).1.stands
        refine ⟨last, ?_, hend⟩
        rw [walk_cons, walk_of_extends hstands hmade (walk_put_directory hwalk hnone)]
        exact hlast

theorem refuses_checkSpelling_unobstructed (l : Location) :
    Refuses (¬ IsObstruction ·) (checkSpelling l) := by
  unfold checkSpelling
  exact Step.refuses_ite (Step.refuses_error (by rintro ⟨⟩)) (Step.refuses_ite
    (Step.refuses_error (by rintro ⟨⟩)) (Step.refuses_ok ()))

theorem writeContent_unobstructed (hlocate : Refuses (¬ IsObstruction ·) (d.locate .create l))
    (h : writeContent l content d = .error failure d') : ¬ IsObstruction failure := by
  rw [writeContent, Step.get_bind, Step.bind_apply, Step.lift_apply] at h
  cases hp : d.locate .create l with
  | error other =>
      rw [hp] at h
      cases h
      exact hlocate hp
  | ok p =>
      rw [hp] at h
      dsimp only at h
      cases hentry : d.get? p with
      | none =>
          rw [hentry] at h
          dsimp only at h
          split at h <;> cases h
          rintro ⟨⟩
      | some entry =>
          rw [hentry] at h
          cases entry with
          | file old mode =>
              dsimp only at h
              split at h <;> cases h
              rintro ⟨⟩
          | directory mode =>
              cases h
              rintro ⟨⟩
          | link target =>
              cases h
              rintro ⟨⟩

theorem changeMode_of_find (hfind : d.find l = .ok (p, entry)) (mode : Nat → Nat) :
    changeMode l mode d = .ok () (d.put p (withMode mode entry)) := by
  rw [changeMode, Step.get_bind, Step.bind_of_ok (lift_eq_ok_iff.mpr ⟨hfind, rfl⟩)]
  rfl

theorem exists_find_of_present (h : d.present l = .ok true) :
    ∃ p entry, d.find l = .ok (p, entry) := by
  obtain ⟨found, hprobe, hsome⟩ := Step.map_eq_ok_iff.mp h
  obtain ⟨entry, rfl⟩ := Option.isSome_iff_exists.mp hsome
  obtain ⟨p, hfind⟩ := exists_find_of_probe hprobe
  exact ⟨p, entry, hfind⟩

/-- If the place of a file can be told, writing it does not fail because of what is in the way. -/
theorem writeFile_unobstructed (hlocate : Refuses (¬ IsObstruction ·) (d.locate .create l))
    (h : writeFile l content bits d = .error failure d') : ¬ IsObstruction failure := by
  have hwrite {d₁ : Disk} (hlocate₁ : Refuses (¬ IsObstruction ·) (d₁.locate .create l))
      (h : (do
        writeContent l content
        let mode ← modeOf bits
        changeMode l fun _ => mode : OnDisk Unit) d₁ = .error failure d') :
      ¬ IsObstruction failure := by
    rcases bind_eq_error_iff.mp h with hfails | ⟨_, d₂, hcontent, hmode⟩
    · exact writeContent_unobstructed hlocate₁ hfails
    obtain ⟨p, old, -, -, hfind⟩ := find_of_writeContent hcontent
    rcases bind_eq_error_iff.mp hmode with hfails | ⟨mode, _, hbits, hchange⟩
    · have hrange := (lift_eq_error_iff.mp hfails).1
      unfold modeOf at hrange
      split at hrange <;> cases hrange
      rintro ⟨⟩
    · obtain ⟨-, rfl⟩ := lift_eq_ok_iff.mp hbits
      cases (changeMode_of_find hfind _).symm.trans hchange
  rw [writeFile, Step.get_bind] at h
  rcases bind_eq_error_iff.mp h with hfails | ⟨found, _, hpresent, hrest⟩
  · rcases (refuses_probe_blocked d l).map Option.isSome (lift_eq_error_iff.mp hfails).1 with
      rfl | rfl
    · rintro ⟨⟩
    · rintro ⟨⟩
  obtain ⟨hfound, rfl⟩ := lift_eq_ok_iff.mp hpresent
  cases found with
  | false => exact hwrite hlocate hrest
  | true =>
      obtain ⟨p, entry, hfind⟩ := exists_find_of_present hfound
      rcases bind_eq_error_iff.mp hrest with hfails | ⟨_, d₁, hchange, hrest⟩
      · cases (changeMode_of_find hfind _).symm.trans hfails
      · cases (changeMode_of_find hfind _).symm.trans hchange
        have hshape := SameShape.put (find_eq_ok_iff.mp hfind).2
          (entry.kind_withMode ownerSearches_or_ownerWrite)
        exact hwrite (hshape.locate_eq .create l ▸ hlocate) hrest

/-- If only directories stand on the way from a directory to a file, placing the file there does not
fail because of what stands in the way. -/
theorem placeFile_unobstructed {front : Route} (hbase : d.find base = .ok (b, .directory mode))
    (hdown : ∀ other ∈ front ++ [name], LeadsDown other) (hfree : d.IsFree b front)
    (hlink : ∀ target, d.get? (b ++ (front ++ [name])) ≠ some (.link target))
    (h : placeFile (base.descend (front ++ [name])) content bits d = .error failure d') :
    ¬ IsObstruction failure := by
  obtain ⟨-, links, hwalk⟩ := locate_eq_ok_iff.mp (find_eq_ok_iff.mp hbase).1
  have hb : d.isDirectory (⟨b, links⟩ : Place).path = true := isDirectory_of_find hbase
  obtain ⟨hfront, hname⟩ := List.forall_mem_append.mp hdown
  have hparent : (base.descend (front ++ [name])).parent = base.descend front := by
    rw [Location.parent_descend base (by simp), List.dropLast_concat]
  rw [placeFile, hparent] at h
  rcases bind_eq_error_iff.mp h with hfails | ⟨_, made, hmake, hwrite⟩
  · rcases bind_eq_error_iff.mp hfails with hspelling | ⟨_, _, hspelling, hnames⟩
    · exact refuses_checkSpelling_unobstructed _ (lift_eq_error_iff.mp hspelling).1
    · obtain ⟨-, rfl⟩ := lift_eq_ok_iff.mp hspelling
      rw [Step.get_bind, start_descend, Location.encode_descend,
        makeNames_of_walk _ _ hwalk hb] at hnames
      exact makeNames_unobstructed hb hfront hfree hnames
  obtain ⟨_, _, hspelling, hnames⟩ := bind_eq_ok_iff.mp hmake
  obtain ⟨-, rfl⟩ := lift_eq_ok_iff.mp hspelling
  rw [Step.get_bind, start_descend, Location.encode_descend,
    makeNames_of_walk _ _ hwalk hb] at hnames
  have hgrows := ((grows_makeNames _ _ _).of_ok hnames).1
  obtain ⟨next, hnext, hdirectory⟩ := walk_of_makeNames hb hnames
  have hstraight : d.IsStraight (⟨b, links⟩ : Place).path front := hfree.isStraight hfront
  cases (hgrows.isStraight hstraight).walk_eq hnext
  -- The way to the file is found now, so only its last name has to be looked at.
  have hway : made.walk .create (made.start base) ((base.descend (front ++ [name])).names.map
      Text.encode) = made.walk .create ⟨b ++ front, links⟩ [name] := by
    have hstart : made.start base = d.start base := by rw [start, start, hgrows.current_eq]
    rw [hstart, Location.encode_descend, walk_append (by simp),
      walk_of_extends hgrows.stands hb hwalk]
    change made.walk .create ⟨b, links⟩ (front ++ [name]) = _
    rw [walk_append (by simp), hnext]
    rfl
  refine writeFile_unobstructed ((refuses_checkSpelling_unobstructed _).bind fun _ => ?_) hwrite
  have hlast : ∀ target, made.get? (b ++ front ++ [name]) ≠ some (.link target) := by
    intro target hentry
    rw [List.append_assoc] at hentry
    rcases hgrows.get?_eq (b ++ (front ++ [name])) with hsame | ⟨-, -, hnew⟩
    · exact hlink target (hsame.symm.trans hentry)
    · cases hnew.symm.trans hentry
  rw [start_descend, hway]
  rcases walk_step .create hdirectory (by simpa using hname) hlast with
    hdenied | hlong | ⟨-, hcreate, -⟩ | ⟨-, hend⟩
  · rw [hdenied]
    exact Step.refuses_error (by rintro ⟨⟩)
  · rw [hlong]
    exact Step.refuses_error (by rintro ⟨⟩)
  · exact absurd rfl hcreate
  · rw [hend]
    exact Step.refuses_ok _

/-- Where nothing is mirrored, nothing stands in the way. -/
theorem Mirrors.isFree {sources : Text → Option SkeletonFile} (h : d.Mirrors b sources)
    (hclear : ∀ front, front ≠ [] → front <+: names → sources (Path.relativeText front) = none) :
    d.IsFree b names := by
  intro front hne hbegins
  cases hentry : d.get? (b ++ front) with
  | none => exact .inl rfl
  | some entry =>
      cases entry with
      | file content mode =>
          obtain ⟨file, hfile, -⟩ := h.only front content mode hne hentry
          cases (hclear front hne hbegins).symm.trans hfile
      | directory mode => exact .inr (isDirectory_iff.mpr ⟨mode, hentry⟩)
      | link target => exact absurd hentry (h.linkless front target)

/-- Nothing is in the way of a file in a backup if no file is mirrored on the way to it. -/
theorem IsBackup.unobstructed {sources : Text → Option SkeletonFile} {names : Path} {path : Text}
    (h : d.IsBackup l b sources) (hnames : names.Spells path)
    (hclear : ∀ front, front ≠ [] → front <+: names.dropLast →
      sources (Path.relativeText front) = none)
    (hplace : placeFile (l.descend names) content bits d = .error failure d') :
    ¬ IsObstruction failure := by
  obtain ⟨made, mode, hmake, htree, hfind⟩ := h.opens
  have hmirrors := h.mirrors.grows ((grows_makeDirectories l).of_ok hmake).1
  rcases placeFile_of_made hmake hnames.ne_nil content bits with ⟨other, hspelling, hfails⟩ | hsame
  · cases hfails.symm.trans hplace
    exact refuses_checkSpelling_unobstructed _ hspelling
  · rw [hsame] at hplace
    obtain ⟨front, name, rfl⟩ := (List.eq_nil_or_concat' names).resolve_left hnames.ne_nil
    rw [List.dropLast_concat] at hclear
    exact placeFile_unobstructed hfind hnames.down (hmirrors.isFree hclear)
      (hmirrors.linkless (front ++ [name])) hplace

end

end Disk

end Scaffold
