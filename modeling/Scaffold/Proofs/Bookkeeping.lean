import Scaffold.Proofs.Containment

/-!
The books of a writer. What is noted about a call is what has become of it: it is skipped, or an
existing file is kept, or a file is written, or it fails. A file that is written holds what was
demanded until another call writes to the same place, and a file that was there before is left alone
by calls that are to create it only once. As long as no call gets past a circle of links, two calls
write to the same place exactly if their paths resolve to the same location.
-/

namespace Scaffold

namespace Disk

open Step (state bind_eq_ok_iff lift_eq_ok_iff)

section

variable {d d' : Disk} {place : Place} {p : Path} {names : Route} {l target : Location}
  {content : Bytes} {mode : Nat}

/-- Nothing is made, or names that lead to a directory in which nothing has the next name. -/
theorem makeNames_split (h : makeNames l place names d = .ok () d') :
    d' = d ∨ ∃ front name back next, names = front ++ name :: back ∧
      d.walk .follow place front = .ok next ∧ d.isDirectory next.path = true ∧
      d.get? (next.path ++ [name]) = none := by
  induction names generalizing place with
  | nil =>
      cases h
      exact .inl rfl
  | cons name rest ih =>
      rcases makeNames_cases l place name rest d with ⟨failure, hmake⟩ |
        ⟨next, hwalk, -, hmake⟩ | ⟨htakes, hnone, -, -⟩
      · cases hmake.symm.trans h
      · refine (ih (hmake.symm.trans h)).imp_right ?_
        rintro ⟨front, other, back, last, rfl, hfront, hlast⟩
        refine ⟨name :: front, other, back, last, rfl, ?_, hlast⟩
        rw [walk_cons, hwalk]
        exact hfront
      · exact .inr ⟨[], name, rest, place, rfl, walk_nil _ _,
          isDirectory_of_takesEntries htakes, hnone⟩

/-- The directories that are made on the way to a location do not make it lead to what stood
before. -/
theorem locate_of_makeDirectories (hd : d.IsGrounded)
    (hdown : ∀ name ∈ target.names, LeadsDown name.encode)
    (hmake : makeDirectories target.parent d = .ok () d') (hold : d.get? p ≠ none)
    (hlocate : d'.locate .create target = .ok p) : d.locate .create target = .ok p := by
  have hgrows := ((grows_makeDirectories target.parent).of_ok hmake).1
  obtain ⟨_, _, hspelling, hnames⟩ := bind_eq_ok_iff.mp hmake
  obtain ⟨-, rfl⟩ := lift_eq_ok_iff.mp hspelling
  rw [Step.get_bind] at hnames
  rcases makeNames_split hnames with rfl |
    ⟨front, name, back, next, hsplit, hfront, hdirectory, hnone⟩
  · exact hlocate
  -- The way to the location goes on in a directory that was made, and nothing stood there.
  obtain ⟨init, last, hall⟩ : ∃ init last, target.names = init ++ [last] := by
    refine ((List.eq_nil_or_concat target.names).resolve_left fun hnil => ?_).imp fun _ => ?_
    · simp [Location.parent, hnil] at hsplit
    · rintro ⟨last, h⟩
      exact ⟨last, by simpa using h⟩
  have hparent : target.parent.names = init := by simp [Location.parent, hall]
  rw [hparent] at hsplit
  have hstart : d'.start target = d.start target.parent := by
    rw [start, start, hgrows.current_eq]
    rfl
  obtain ⟨-, links, hwalk⟩ := locate_eq_ok_iff.mp hlocate
  have hway : target.names.map Text.encode = front ++ ([name] ++ (back ++ [last.encode])) := by
    simp [hall, hsplit]
  rw [hstart, hway, walk_append (by simp), walk_of_extends hgrows.stands hdirectory hfront] at hwalk
  have hbelow (names : Route) : d.get? (next.path ++ ([name] ++ names)) = none := by
    rw [← List.append_assoc]
    exact hd.get?_append hnone names
  have hstraight : d'.IsStraight next.path ([name] ++ (back ++ [last.encode])) := by
    refine ⟨fun other hother => ?_, fun way hne hbegins link hlink => ?_⟩
    · have hmem : other ∈ target.names.map Text.encode := hway ▸ List.mem_append_right front hother
      obtain ⟨text, htext, rfl⟩ := List.mem_map.mp hmem
      exact hdown text htext
    · obtain ⟨first, more, rfl⟩ := List.exists_cons_of_ne_nil hne
      obtain ⟨rfl, -⟩ := List.cons_prefix_cons.mp hbegins
      rcases hgrows.get?_eq (next.path ++ first :: more) with hsame | ⟨-, -, hnew⟩
      · cases (hsame.symm.trans hlink).symm.trans (hbelow more)
      · cases hnew.symm.trans hlink
  cases hstraight.walk_eq hwalk
  exact absurd (hbelow _) hold

/-- A file to which a location does not lead stays as it is when a file is placed there, whether
that succeeds or fails. -/
theorem get?_placeFile (hd : d.IsGrounded) (hdown : ∀ name ∈ target.names, LeadsDown name.encode)
    (hfile : d.get? p = some (.file content mode))
    (haway : ∀ entry, d.find target ≠ .ok (p, entry)) (written : Bytes) (bits : Int) :
    (state (placeFile target written bits d)).get? p = some (.file content mode) := by
  have hmade : (state (makeDirectories target.parent d)).get? p = some (.file content mode) := by
    rcases (grows_makeDirectories target.parent d).1.get?_eq p with hsame | ⟨-, hnone, -⟩
    · exact hsame.trans hfile
    · cases hnone.symm.trans hfile
  rw [placeFile, Step.bind_apply]
  cases hmake : makeDirectories target.parent d with
  | error failure d₁ =>
      rw [hmake] at hmade
      exact hmade
  | ok _ d₁ =>
      rw [hmake] at hmade
      refine ((confined_writeFile target written bits d₁).changesOnly.get?_eq p ?_).trans hmade
      intro hlocate
      have hself : d.Extends (fun _ => False) d := .refl d
      exact haway _ (find_of_locate hself (by simp)
        (locate_of_makeDirectories hd hdown hmake (by simp [hfile]) hlocate) hfile
        (by rintro link ⟨⟩))

/-- Valid permission bits are the mode that they stand for. -/
theorem modeOf_of_valid {bits : Int} (hlow : 0 ≤ bits) (hhigh : bits < modeRange) :
    modeOf bits = .ok bits.toNat := by
  have hrange : (modeRange : Int) = 4096 := rfl
  rw [hrange] at hhigh
  rw [modeOf, if_pos (by omega), hrange, Int.emod_eq_of_lt hlow hhigh]

/-- New directories do not uncover what no look-up gets to. -/
theorem Grows.isHidden {made : Path → Prop} (h : d.Grows made d') (hhidden : d.isHidden p = true) :
    d'.isHidden p = true := by
  obtain ⟨front, name, hbegins, hshut⟩ := isHidden_iff.mp hhidden
  exact isHidden_iff.mpr ⟨front, name, hbegins, h.isShut hshut⟩

/-- New directories leave a resolved path resolved. -/
theorem IsResolved.grows {made : Path → Prop} (h : d.IsResolved p) (hgrows : d.Grows made d') :
    d'.IsResolved p := by
  intro front name hbegins
  obtain ⟨hdown, hlink⟩ := h front name hbegins
  refine ⟨hdown, ?_⟩
  unfold linkAt? at hlink ⊢
  split
  · rfl
  · rename_i hfound
    have hfound' : ¬ (maximalPathLength < (Path.toText (front ++ [name])).encode.length ∨
        d.isHidden (front ++ [name]) = true) := fun h => hfound (h.imp_right hgrows.isHidden)
    rw [if_neg hfound'] at hlink
    rcases hgrows.get?_eq (front ++ [name]) with hsame | ⟨-, -, hnew⟩
    · rw [hsame]
      exact hlink
    · rw [hnew]

/-- What is placed at a resolved path stands there. -/
theorem IsResolved.path_of_placeFile {bits : Int} {entry : Entry} {q : Path}
    (h : d.IsResolved q) (hplace : placeFile q.location content bits d = .ok () d')
    (hfind : d'.find q.location = .ok (p, entry)) : p = q := by
  obtain ⟨_, made, hmake, hwrite⟩ := bind_eq_ok_iff.mp hplace
  obtain ⟨p', mode, -, hlocate, hfind'⟩ := find_of_writeFile hwrite
  cases hfind.symm.trans hfind'
  exact ((h.grows ((grows_makeDirectories _).of_ok hmake).1).leads hlocate).1

/-- A file that stays as it is goes on to be found. -/
theorem find_of_get? {touched : Path → Prop} (h : d.Extends touched d')
    (hfind : d.find target = .ok (p, .file content mode))
    (hsame : d'.get? p = some (.file content mode)) :
    d'.find target = .ok (p, .file content mode) := by
  obtain ⟨content', mode', hfind', -⟩ := find_of_extends h hfind
  cases (find_eq_ok_iff.mp hfind').2.symm.trans hsame
  exact hfind'

end

end Disk

/-- What has become of a call of a writer. -/
inductive Writer.Verdict where
  | skipped
  /-- A file that is to be created only once exists. -/
  | kept
  | written
  | failed (failure : Failure)
  deriving DecidableEq

/-- A ledger after a call with a verdict. -/
def Ledger.note (ledger : Ledger) (request : Request) : Writer.Verdict → Ledger
  | .skipped => { ledger with skipped := ledger.skipped ++ [request.path] }
  | .written =>
      { ledger with
        written := ledger.written ++ [request.path]
        recorded := if request.record then ledger.recorded ++ [request.path] else ledger.recorded }
  | .kept | .failed _ => ledger

namespace Writer

open Step (state)

/-- What has become of a call, by its result. -/
def verdictOf (w : Writer) (request : Request) (d : Disk) :
    EStateM.Result Failure (Disk × Ledger) Unit → Verdict
  | .error failure _ => .failed failure
  | .ok _ _ =>
      if w.skips request then .skipped
      else if w.leaves (d, request) then .kept
      else .written

/-- What becomes of a call. -/
def verdict (w : Writer) (request : Request) (both : Disk × Ledger) : Verdict :=
  w.verdictOf request both.1 (w.write request both)

/-- The path of a demand leads to an entry. -/
def LeadsTo (w : Writer) (d : Disk) (request : Request) (p : Path) : Prop :=
  ∃ target entry, w.destination d request.path = .ok target ∧ d.find target = .ok (p, entry)

/-- A call that leads to an entry is skipped, or keeps it. -/
def Spares (w : Writer) (p : Path) (request : Request) (both : Disk × Ledger) : Prop :=
  w.LeadsTo both.1 request p →
    w.verdict request both = .skipped ∨ w.verdict request both = .kept

/-- None of the calls writes to an entry. -/
def SpareAll (w : Writer) (p : Path) (requests : List Request) (both : Disk × Ledger) : Prop :=
  ∀ before request later, requests = before ++ request :: later →
    w.Spares p request (w.serve before both)

/-- None of the calls whose paths resolve to a location writes there. -/
def SpareTarget (w : Writer) (target : Location) (requests : List Request) (both : Disk × Ledger) :
    Prop :=
  ∀ before request later, requests = before ++ request :: later →
    w.destination (w.serve before both).1 request.path = .ok target →
      w.verdict request (w.serve before both) = .skipped ∨
        w.verdict request (w.serve before both) = .kept

/-- None of the calls gets past a circle of links, unless it is skipped. -/
def StopAtCircles (w : Writer) (requests : List Request) (both : Disk × Ledger) : Prop :=
  ∀ before request later, requests = before ++ request :: later → w.skips request = false →
    w.StopsAtCircles (w.serve before both).1 request.path

section

variable {w : Writer} {d : Disk} {ledger : Ledger} {both : Disk × Ledger} {request : Request}
  {requests : List Request} {target : Location} {p : Path} {content : Bytes} {mode : Nat}
  {result : EStateM.Result Failure (Disk × Ledger) Unit}

theorem skips_iff : w.skips request = true ↔
    request.skip = true ∨ ∃ tag ∈ request.skipTags, tag ∈ w.activeSkips := by
  simp [skips]

theorem keeps_eq_ok_true_iff : keeps request d target = .ok true ↔
    request.createOnce = true ∧ ∃ p entry, d.find target = .ok (p, entry) := by
  have hpresent : d.present target = .ok true ↔ ∃ p entry, d.find target = .ok (p, entry) := by
    rw [Disk.present, Step.map_eq_ok_iff, Disk.probe]
    cases hfind : d.find target with
    | ok found =>
        obtain ⟨p, entry⟩ := found
        simp
    | error failure => by_cases hmeans : Disk.meansNothing failure = true <;> simp [hmeans]
  unfold keeps
  cases request.createOnce with
  | true => simpa using hpresent
  | false => simp

/-- Where calls do not get past a circle of links, a path leads to the entry at the path that it
resolves to, and to no other one. -/
theorem destination_of_leadsTo (hstops : w.StopsAtCircles d request.path)
    (hleads : w.LeadsTo d request p) : w.destination d request.path = .ok p.location := by
  obtain ⟨target, entry, hdestination, hfind⟩ := hleads
  obtain ⟨hresolve, hanchor, -⟩ := destination_eq_ok hdestination
  rcases Disk.resolve_eq_ok hresolve with ⟨hcircle, -⟩ | ⟨q, rfl, hq⟩
  · obtain ⟨failure, hfailure⟩ := hstops hcircle
    cases hfailure.symm.trans hdestination
  · have hroot : w.root.isAbsolute = true := by simp [Location.isAbsolute, ← hanchor, Path.location]
    obtain ⟨rfl, -⟩ := (hq (isAbsolute_child hroot request.path)).leads
      (Disk.find_eq_ok_iff.mp hfind).1
    exact hdestination

/-- What a call does to the ledger and to the disk is what its verdict says. -/
theorem Writes.noted (h : w.Writes request d ledger result) :
    (state result).2 = ledger.note request (w.verdictOf request d result) ∧
      (w.verdictOf request d result = .skipped ↔ w.skips request = true) ∧
      (w.verdictOf request d result = .kept ↔ w.skips request = false ∧
        request.createOnce = true ∧ ∃ p, w.LeadsTo d request p) ∧
      (w.verdictOf request d result = .skipped ∨ w.verdictOf request d result = .kept →
        (state result).1 = d) ∧
      (w.verdictOf request d result = .written → ∃ target,
        w.destination d request.path = .ok target ∧
          Disk.placeFile target request.content.encode request.permissions d =
            .ok () (state result).1) := by
  have hleads {target : Location} (hdestination : w.destination d request.path = .ok target) :
      (request.createOnce = true ∧ ∃ p, w.LeadsTo d request p) ↔
        keeps request d target = .ok true := by
    rw [keeps_eq_ok_true_iff]
    refine and_congr_right fun _ => exists_congr fun p => ?_
    constructor
    · rintro ⟨other, entry, hother, hfind⟩
      cases hdestination.symm.trans hother
      exact ⟨entry, hfind⟩
    · rintro ⟨entry, hfind⟩
      exact ⟨target, entry, hdestination, hfind⟩
  cases h with
  | skipped hskips => simp [verdictOf, hskips, Ledger.note, state]
  | refused hskips hdestination =>
      have hnowhere : ¬ ∃ p, w.LeadsTo d request p := by
        rintro ⟨p, target, entry, htarget, -⟩
        cases hdestination.symm.trans htarget
      simp [verdictOf, hskips, hnowhere, Ledger.note, state]
  | unseen hskips hdestination hkeeps =>
      simp [verdictOf, hskips, hleads hdestination, hkeeps, Ledger.note, state]
  | kept hskips hdestination hkeeps =>
      simp [verdictOf, hskips, hleads hdestination, hkeeps, keeps_eq_ok hdestination hkeeps,
        Ledger.note, state]
  | written hskips hdestination hkeeps hplace =>
      simp [verdictOf, hskips, hleads hdestination, hkeeps, keeps_eq_ok hdestination hkeeps,
        Ledger.note, state, hdestination, hplace]
  | failed hskips hdestination hkeeps hplace =>
      simp [verdictOf, hskips, hleads hdestination, hkeeps, Ledger.note, state]

theorem verdict_noted (w : Writer) (request : Request) (both : Disk × Ledger) :
    (state (w.write request both)).2 = both.2.note request (w.verdict request both) ∧
      (w.verdict request both = .skipped ↔ w.skips request = true) ∧
      (w.verdict request both = .kept ↔ w.skips request = false ∧
        request.createOnce = true ∧ ∃ p, w.LeadsTo both.1 request p) ∧
      (w.verdict request both = .skipped ∨ w.verdict request both = .kept →
        (state (w.write request both)).1 = both.1) ∧
      (w.verdict request both = .written → ∃ target,
        w.destination both.1 request.path = .ok target ∧
          Disk.placeFile target request.content.encode request.permissions both.1 =
            .ok () (state (w.write request both)).1) :=
  (w.writes_write request both.1 both.2).noted

theorem evolves_write (w : Writer) (request : Request) (both : Disk × Ledger) :
    both.1.Evolves (state (w.write request both)).1 := by
  rcases w.disk_of_write request both with hsame | ⟨-, target, -, hplace⟩
  · rw [hsame]
    exact .refl both.1
  · rw [hplace]
    exact Disk.evolves_placeFile _ _ _ both.1

theorem evolves_serve (w : Writer) (requests : List Request) (both : Disk × Ledger) :
    both.1.Evolves (w.serve requests both).1 :=
  serve_induction (P := fun last => both.1.Evolves last.1) (.refl both.1)
    fun before request _ _ hbefore =>
      hbefore.trans (w.evolves_write request (w.serve before both))

/-- Only a call that writes to a file changes it. -/
theorem get?_write (hd : both.1.IsGrounded) (hfile : both.1.get? p = some (.file content mode))
    (hspares : w.Spares p request both) :
    (state (w.write request both)).1.get? p = some (.file content mode) := by
  rcases w.disk_of_write request both with hsame | ⟨hskips, target, hdestination, hplace⟩
  · rw [hsame]
    exact hfile
  · by_cases hleads : w.LeadsTo both.1 request p
    · obtain ⟨-, -, -, hidle, -⟩ := w.verdict_noted request both
      rw [hidle (hspares hleads)]
      exact hfile
    · rw [hplace]
      exact Disk.get?_placeFile hd (fun name => leadsDown_of_destination hdestination) hfile
        (fun entry hfind => hleads ⟨target, entry, hdestination, hfind⟩) _ _

theorem get?_serve (hd : both.1.IsGrounded) (hfile : both.1.get? p = some (.file content mode))
    (hspare : w.SpareAll p requests both) :
    (w.serve requests both).1.get? p = some (.file content mode) := by
  have hkept : (w.serve requests both).1.IsGrounded ∧
      (w.serve requests both).1.get? p = some (.file content mode) := by
    refine serve_induction (P := fun last => last.1.IsGrounded ∧
      last.1.get? p = some (.file content mode)) ⟨hd, hfile⟩ ?_
    intro before request later hsplit hbefore
    exact ⟨(w.evolves_write request _).grounded hbefore.1,
      get?_write hbefore.1 hbefore.2 (hspare before request later hsplit)⟩
  exact hkept.2

theorem recorded_sublist_written (w : Writer) (requests : List Request) (d : Disk) :
    (w.serve requests (d, {})).2.recorded.Sublist (w.serve requests (d, {})).2.written := by
  refine serve_induction (P := fun last => last.2.recorded.Sublist last.2.written)
    (List.Sublist.refl _) fun before request later _ hbefore => ?_
  rw [(w.verdict_noted request _).1]
  cases w.verdict request (w.serve before (d, {})) with
  | skipped | kept | failed => exact hbefore
  | written =>
      dsimp only [Ledger.note]
      split
      · exact hbefore.append (List.Sublist.refl _)
      · exact hbefore.trans (List.sublist_append_left _ _)

theorem SpareTarget.spareAll (h : w.SpareTarget p.location requests both)
    (hstop : w.StopAtCircles requests both) : w.SpareAll p requests both := by
  intro before request later hsplit hleads
  obtain ⟨-, hskipped, -⟩ := w.verdict_noted request (w.serve before both)
  cases hskips : w.skips request with
  | true => exact .inl (hskipped.mpr hskips)
  | false =>
      exact h before request later hsplit
        (destination_of_leadsTo (hstop before request later hsplit hskips) hleads)

/-- A file that is written stays as it is while no call writes to it. -/
theorem find_of_written (hd : both.1.IsGrounded) (hwritten : w.verdict request both = .written)
    (hlow : 0 ≤ request.permissions) (hhigh : request.permissions < modeRange) :
    ∃ target p, w.destination both.1 request.path = .ok target ∧
      (w.StopsAtCircles both.1 request.path → target = p.location) ∧
      ∀ more, w.SpareAll p more (state (w.write request both)) →
        (w.serve more (state (w.write request both))).1.find target =
          .ok (p, .file request.content.encode request.permissions.toNat) := by
  obtain ⟨-, -, -, -, hplaced⟩ := w.verdict_noted request both
  obtain ⟨target, hdestination, hplace⟩ := hplaced hwritten
  obtain ⟨p, mode, hbits, hfind, -⟩ := Disk.placeFile_eq_ok hplace
  cases (Disk.modeOf_of_valid hlow hhigh).symm.trans hbits
  refine ⟨target, p, hdestination, fun hstops => ?_, fun more hspare => ?_⟩
  · obtain ⟨hresolve, hanchor, -⟩ := destination_eq_ok hdestination
    rcases Disk.resolve_eq_ok hresolve with ⟨hcircle, -⟩ | ⟨q, rfl, hq⟩
    · obtain ⟨failure, hfailure⟩ := hstops hcircle
      cases hfailure.symm.trans hdestination
    · have hroot : w.root.isAbsolute = true := by
        simp [Location.isAbsolute, ← hanchor, Path.location]
      rw [(hq (isAbsolute_child hroot request.path)).path_of_placeFile hplace hfind]
  · exact Disk.find_of_get? (w.evolves_serve more _).stands hfind
      (get?_serve ((w.evolves_write request both).grounded hd) (Disk.find_eq_ok_iff.mp hfind).2
        hspare)

theorem serve_concat (w : Writer) (before : List Request) (request : Request)
    (both : Disk × Ledger) :
    w.serve (before ++ [request]) both = state (w.write request (w.serve before both)) := by
  simp

theorem serve_middle (w : Writer) (before : List Request) (request : Request)
    (more : List Request) (both : Disk × Ledger) :
    w.serve (before ++ request :: more) both =
      w.serve more (state (w.write request (w.serve before both))) := by
  simp

end

/-- The books of a writer, over any run of calls. A path is noted as recorded only if it is noted
as written. A call is noted as its verdict says: it is skipped if and only if it says so or one of
its tags is active, it is kept if and only if it is to create a file only once and leads to an
entry, and then it changes nothing on the disk. A file that is written has the content and the mode
that were demanded, for as long as no other call writes to it. A file that existed at the start
stays as it was if all calls that lead to it are to create it only once. As long as calls do not get
past a circle of links, the calls to be watched are those whose paths resolve to the same
location. -/
theorem serve_accounts (w : Writer) {d : Disk} (hd : d.IsGrounded) :
    (∀ requests, (w.serve requests (d, {})).2.recorded.Sublist
        (w.serve requests (d, {})).2.written) ∧
      (∀ request both,
        (w.verdict request both = .skipped ↔
          request.skip = true ∨ ∃ tag ∈ request.skipTags, tag ∈ w.activeSkips) ∧
        (w.verdict request both = .kept ↔ w.verdict request both ≠ .skipped ∧
          request.createOnce = true ∧ ∃ p, w.LeadsTo both.1 request p) ∧
        (∀ failure, w.verdict request both = .failed failure ↔
          ∃ last, w.write request both = .error failure last) ∧
        (state (w.write request both)).2 = both.2.note request (w.verdict request both) ∧
        (w.verdict request both = .skipped ∨ w.verdict request both = .kept →
          (state (w.write request both)).1 = both.1)) ∧
      (∀ before request, w.verdict request (w.serve before (d, {})) = .written →
        0 ≤ request.permissions → request.permissions < modeRange →
        ∃ target p, w.destination (w.serve before (d, {})).1 request.path = .ok target ∧
          ∀ more, w.SpareAll p more (w.serve (before ++ [request]) (d, {})) ∨
              w.StopsAtCircles (w.serve before (d, {})).1 request.path ∧
                w.StopAtCircles more (w.serve (before ++ [request]) (d, {})) ∧
                w.SpareTarget target more (w.serve (before ++ [request]) (d, {})) →
            (w.serve (before ++ request :: more) (d, {})).1.find target =
              .ok (p, .file request.content.encode request.permissions.toNat)) ∧
      ∀ requests p content mode, d.get? p = some (.file content mode) →
        ((∀ before request later, requests = before ++ request :: later →
            w.LeadsTo (w.serve before (d, {})).1 request p → request.createOnce = true) ∨
          w.StopAtCircles requests (d, {}) ∧
            ∀ before request later, requests = before ++ request :: later →
              w.destination (w.serve before (d, {})).1 request.path = .ok (Path.location p) →
              request.createOnce = true) →
        (w.serve requests (d, {})).1.get? p = some (.file content mode) := by
  refine ⟨fun requests => w.recorded_sublist_written requests d, fun request both => ?_,
    fun before request hwritten hlow hhigh => ?_, fun requests p content mode hfile honce => ?_⟩
  · obtain ⟨hnoted, hskipped, hkept, hidle, -⟩ := w.verdict_noted request both
    refine ⟨hskipped.trans skips_iff, ?_, fun failure => ?_, hnoted, hidle⟩
    · rw [hkept, ne_eq, hskipped, Bool.not_eq_true]
    · rw [verdict]
      cases w.write request both with
      | error other last => simp [verdictOf]
      | ok _ last =>
          simp only [verdictOf, reduceCtorEq, exists_false, iff_false]
          split
          · simp
          · split <;> simp
  · obtain ⟨target, p, hdestination, htarget, hfind⟩ :=
      find_of_written ((w.evolves_serve before (d, {})).grounded hd) hwritten hlow hhigh
    refine ⟨target, p, hdestination, fun more hmore => ?_⟩
    rw [serve_concat] at hmore
    rw [serve_middle]
    rcases hmore with hspare | ⟨hstops, hstop, hspare⟩
    · exact hfind more hspare
    · obtain rfl := htarget hstops
      exact hfind more (hspare.spareAll hstop)
  · refine get?_serve hd hfile fun before request later hsplit hleads => ?_
    obtain ⟨-, hskipped, hkept, -, -⟩ := w.verdict_noted request (w.serve before (d, {}))
    cases hskips : w.skips request with
    | true => exact .inl (hskipped.mpr hskips)
    | false =>
        refine .inr (hkept.mpr ⟨hskips, ?_, p, hleads⟩)
        rcases honce with hleading | ⟨hstop, hresolving⟩
        · exact hleading before request later hsplit hleads
        · exact hresolving before request later hsplit
            (destination_of_leadsTo (hstop before request later hsplit hskips) hleads)

/-- A tree with a file below the directory `out`. -/
def onceDisk : Disk where
  entries := [
    ([], .directory 493),
    (Path.ofTexts ["out"], .directory 493),
    (Path.ofTexts ["out", "once"], .file [111] 384)]

/-- A run of calls: one that writes, one that finds its file, and one with an active tag. -/
def onceRequests : List Request :=
  [plainRequest "a", { plainRequest "once" with createOnce := true },
    { plainRequest "../out/a" with skipTags := ["docs"] }]

theorem serve_accounts_onceDisk :
    (∃ p, (outWriter.serve onceRequests (onceDisk, {})).1.find (.ofText "/out/a") =
        .ok (p, .file [120] 420)) ∧
      (outWriter.serve onceRequests (onceDisk, {})).1.get? (Path.ofTexts ["out", "once"]) =
        some (.file [111] 384) ∧
      (outWriter.serve onceRequests (onceDisk, {})).2 =
        { written := ["a"], skipped := ["../out/a"], recorded := ["a"] } := by
  have hgrounded : onceDisk.IsGrounded := by decide +kernel
  obtain ⟨-, -, hholds, hkeeps⟩ := serve_accounts outWriter hgrounded
  refine ⟨?_, ?_, by decide +kernel⟩
  · obtain ⟨target, p, hdestination, hfind⟩ :=
      hholds [] (plainRequest "a") (by decide +kernel) (by decide) (by decide)
    have htarget : outWriter.destination onceDisk "a" = .ok (.ofText "/out/a") := by decide +kernel
    cases htarget.symm.trans hdestination
    refine ⟨p, hfind (onceRequests.drop 1) (.inr ⟨by decide +kernel, ?_, ?_⟩)⟩
    · intro before request later hsplit hskips
      rcases before with _ | ⟨first, _ | ⟨second, before⟩⟩
      · cases hsplit
        decide +kernel
      · cases hsplit
        cases hskips
      · simp [onceRequests] at hsplit
    · intro before request later hsplit _
      rcases before with _ | ⟨first, _ | ⟨second, before⟩⟩
      · cases hsplit
        decide +kernel
      · cases hsplit
        decide +kernel
      · simp [onceRequests] at hsplit
  · refine hkeeps onceRequests _ _ _ (by decide +kernel) (.inr ⟨?_, ?_⟩)
    · intro before request later hsplit hskips
      rcases before with _ | ⟨first, _ | ⟨second, _ | ⟨third, before⟩⟩⟩
      · cases hsplit
        decide +kernel
      · cases hsplit
        decide +kernel
      · cases hsplit
        cases hskips
      · simp [onceRequests] at hsplit
    · intro before request later hsplit hdestination
      rcases before with _ | ⟨first, _ | ⟨second, _ | ⟨third, before⟩⟩⟩
      · cases hsplit
        have htarget : outWriter.destination onceDisk "a" = .ok (.ofText "/out/a") := by
          decide +kernel
        cases htarget.symm.trans hdestination
      · cases hsplit
        rfl
      · cases hsplit
        have htarget : outWriter.destination
            (outWriter.serve (onceRequests.take 2) (onceDisk, {})).1 "../out/a" =
              .ok (.ofText "/out/a") := by
          decide +kernel
        cases htarget.symm.trans hdestination
      · simp [onceRequests] at hsplit

/-- A tree in which there is a link to itself below the root, beside a link to a place where nothing
stands. -/
def aliasDisk : Disk where
  entries := [
    ([], .directory 493),
    (Path.ofTexts ["out"], .directory 493),
    (Path.ofTexts ["out", "a"], .link (Text.encode "a")),
    (Path.ofTexts ["out", "b"], .link (Text.encode "c"))]

/-- Past a circle of links a call writes to the destination of an earlier one, although its path
resolves to another location: resolving stops at `a`, so the link `b` is not seen. -/
theorem serve_overwrites :
    let before := outWriter.serve [plainRequest "c"] (aliasDisk, {})
    let request := { plainRequest "a/../b" with content := "y" }
    outWriter.verdict (plainRequest "c") (aliasDisk, {}) = .written ∧
      outWriter.destination aliasDisk "c" = .ok (.ofText "/out/c") ∧
      before.1.find (.ofText "/out/c") = .ok (Path.ofTexts ["out", "c"], .file [120] 420) ∧
      outWriter.destination before.1 "a/../b" = .ok (.ofText "/out/b") ∧
      (outWriter.serve [plainRequest "c", request] (aliasDisk, {})).1.find (.ofText "/out/c") =
        .ok (Path.ofTexts ["out", "c"], .file [121] 420) := by
  decide +kernel

end Writer

end Scaffold
