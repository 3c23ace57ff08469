import Scaffold.Proofs.Footprint
import Scaffold.Proofs.Trees
import Scaffold.Proofs.Writing

/-!
A writer that serves one call after the other. What a location resolves to has only names that lead
down, and unless links lead in a circle none of them is a link. `Writer.Writes` lists what a call
can come to, and `Writer.serve` is what any number of calls lead to, failed ones among them.
-/

namespace Scaffold

theorem Location.leadsDown_of_collapsed (l : Location) {name : Text}
    (hname : name ∈ l.collapsed.names) : LeadsDown name.encode := by
  have hfold : ∀ (names collected : List Text), (∀ name ∈ collected, LeadsDown name.encode) →
      ∀ name ∈ names.foldl (fun names (name : Text) =>
        if staysHere name.encode then names
        else if leadsUp name.encode then names.dropLast
        else names ++ [name]) collected, LeadsDown name.encode := by
    intro names
    induction names with
    | nil => exact fun collected hcollected => hcollected
    | cons first rest ih =>
        intro collected hcollected
        apply ih
        dsimp only
        split
        · exact hcollected
        · rename_i hstays
          split
          · exact fun name hname => hcollected name (List.mem_of_mem_dropLast hname)
          · rename_i hup
            intro name hname
            rcases List.mem_append.mp hname with hmem | hmem
            · exact hcollected name hmem
            · cases List.mem_singleton.mp hmem
              exact ⟨by simpa using hstays, by simpa using hup⟩
  exact hfold l.names [] (by simp) name hname

namespace Path

theorem relativeText_prefix (p q : Path) : p.relativeText <+: Path.relativeText (p ++ q) := by
  by_cases hp : p = []
  · subst hp
    exact List.nil_prefix
  by_cases hq : q = []
  · simp [hq]
  · rw [relativeText, relativeText, List.map_append,
      Text.join_append _ (by simpa using hp) (by simpa using hq), List.append_assoc]
    exact List.prefix_append _ _

theorem descend_location (p names : Path) : p.location.descend names = (p ++ names).location := by
  simp [location, Location.descend]

end Path

namespace Disk

/-- All names of a path lead down, and no link is found on it. -/
def IsResolved (d : Disk) (p : Path) : Prop :=
  ∀ front name, front ++ [name] <+: p → LeadsDown name ∧ d.linkAt? (front ++ [name]) = none

/-- No directory above a path keeps names from being looked up. -/
def IsReached (d : Disk) (p : Path) : Prop :=
  ∀ front name, front ++ [name] <+: p → d.isShut front = false

/-- Links lead in a circle on the way to where a location leads. -/
def RunsInCircle (d : Disk) (l : Location) : Prop :=
  ∃ path, d.resolveNames (d.resolveLink (d.entries.length + 1) []) (d.start l).path l.names =
    .error (.circle path)

instance (d : Disk) (l : Location) : Decidable (d.RunsInCircle l) :=
  match h : d.resolveNames (d.resolveLink (d.entries.length + 1) []) (d.start l).path l.names with
  | .error (.circle path) => isTrue ⟨path, h⟩
  | .error .nullInPath | .ok _ =>
      isFalse fun hcircle => hcircle.elim fun _ hpath => nomatch h.symm.trans hpath

section

variable {d : Disk} {here p q : Path} {names : Route} {l target : Location}
  {follow : Path → Bytes → Except Unresolved Path}

theorem isResolved_nil (d : Disk) : d.IsResolved [] := by
  intro front name hbegins
  simp at hbegins

theorem IsResolved.of_isPrefix (h : d.IsResolved p) (hbegins : q <+: p) : d.IsResolved q :=
  fun front name hfront => h front name (hfront.trans hbegins)

theorem IsResolved.concat {name : Bytes} (h : d.IsResolved p) (hdown : LeadsDown name)
    (hlink : d.linkAt? (p ++ [name]) = none) : d.IsResolved (p ++ [name]) := by
  intro front other hbegins
  rcases List.prefix_concat_iff.mp hbegins with hsame | hshorter
  · obtain ⟨rfl, hlast⟩ := List.append_inj' hsame rfl
    cases hlast
    exact ⟨hdown, hlink⟩
  · exact h front other hshorter

theorem isResolved_of_resolveNames
    (hfollow : ∀ here name target there, d.IsResolved here →
      follow (here ++ [name]) target = .ok there → d.IsResolved there)
    {names : List Text} (hhere : d.IsResolved here)
    (h : d.resolveNames follow here names = .ok p) : d.IsResolved p := by
  induction names generalizing here with
  | nil =>
      cases h
      exact hhere
  | cons name rest ih =>
      unfold resolveNames at h
      split at h
      · exact ih hhere h
      rename_i hstays
      split at h
      · exact ih (hhere.of_isPrefix (List.dropLast_prefix here)) h
      rename_i hup
      split at h
      · cases h
      split at h
      · rename_i hlink
        exact ih (hhere.concat ⟨by simpa using hstays, by simpa using hup⟩ hlink) h
      · split at h
        · rename_i there hthere
          exact ih (hfollow here name.encode _ there hhere hthere) h
        · cases h

theorem isResolved_of_resolveLink {depth : Nat} {opened : List Path} {name target : Bytes}
    (hhere : d.IsResolved here)
    (h : d.resolveLink depth opened (here ++ [name]) target = .ok p) : d.IsResolved p := by
  induction depth generalizing opened here name target p with
  | zero => cases h
  | succ depth ih =>
      unfold resolveLink at h
      split at h
      · cases h
      refine isResolved_of_resolveNames (fun _ _ _ _ hhere hthere => ih hhere hthere) ?_ h
      rw [targetStart, List.dropLast_concat]
      split
      · exact isResolved_nil d
      · exact hhere

/-- A location resolves to the location of a path, on which there are no links if it was absolute,
unless links lead in a circle. -/
theorem resolve_eq_ok (h : d.resolve l = .ok target) :
    (d.RunsInCircle l ∧ ∀ name ∈ target.names, LeadsDown name.encode) ∨
      ∃ p, target = p.location ∧ (l.isAbsolute = true → d.IsResolved p) := by
  unfold resolve at h
  -- The look-up at the end may only refuse the resolved location.
  split at h
  · rename_i p hnames
    obtain ⟨_, ⟨⟩, hcheck⟩ := Step.except_bind_eq_ok_iff.mp h
    obtain rfl : p.location = target := by
      dsimp only at hcheck
      split at hcheck <;> cases hcheck
      rfl
    refine .inr ⟨p, rfl, fun habsolute => ?_⟩
    have hstart : (d.start l).path = [] := by rw [start, habsolute, if_pos rfl]
    rw [hstart] at hnames
    exact isResolved_of_resolveNames (fun _ _ _ _ => isResolved_of_resolveLink)
      (isResolved_nil d) hnames
  · cases h
  · rename_i path hnames
    obtain ⟨_, ⟨⟩, hcheck⟩ := Step.except_bind_eq_ok_iff.mp h
    obtain rfl : (Location.ofText path).collapsed = target := by
      dsimp only at hcheck
      split at hcheck <;> cases hcheck
      rfl
    exact .inl ⟨⟨path, hnames⟩, fun name => (Location.ofText path).leadsDown_of_collapsed⟩

theorem IsResolved.leadsDown (h : d.IsResolved p) {name : Bytes} (hname : name ∈ p) :
    LeadsDown name := by
  obtain ⟨front, rest, rfl⟩ := List.append_of_mem hname
  exact (h front name (by simp)).1

theorem length_le_of_checkSpelling (hspelling : checkSpelling p.location = .ok ())
    (hbegins : q <+: p) : q.toText.encode.length ≤ maximalPathLength := by
  obtain ⟨rest, rfl⟩ := hbegins
  have hlength : (Path.toText (q ++ rest)).encode.length ≤ maximalPathLength := by
    unfold checkSpelling at hspelling
    split at hspelling
    · cases hspelling
    split at hspelling
    · cases hspelling
    · rename_i hlength
      exact Nat.not_lt.mp hlength
  obtain ⟨more, hmore⟩ := q.relativeText_prefix rest
  have htext : Path.toText (q ++ rest) = q.toText ++ more := congrArg _ hmore.symm
  rw [htext, Text.encode_append, List.length_append] at hlength
  omega

theorem isHidden_iff :
    d.isHidden p = true ↔ ∃ front name, front ++ [name] <+: p ∧ d.isShut front = true := by
  rw [isHidden, List.any_eq_true]
  constructor
  · rintro ⟨count, hcount, hshut⟩
    have hlength := List.mem_range.mp hcount
    refine ⟨p.take count, p[count], ?_, hshut⟩
    rw [← List.take_succ_eq_append_getElem hlength]
    exact List.take_prefix _ _
  · rintro ⟨front, name, ⟨rest, rfl⟩, hshut⟩
    exact ⟨front.length, by simp, by simpa using hshut⟩

/-- As far as look-ups take the path, it leads straight on. -/
theorem IsResolved.isStraight (h : d.IsResolved (here ++ names)) (hreached : d.IsReached here)
    (hspelling : checkSpelling (Path.location (here ++ names)) = .ok ()) :
    d.IsStraight here names := by
  refine ⟨fun name hname => ?_, fun front hne hbegins target hlink => ?_⟩
  · exact h.leadsDown (List.mem_append_right here hname)
  · obtain ⟨before, last, rfl⟩ := (List.eq_nil_or_concat' front).resolve_left hne
    have hnone := (h (here ++ before) last (by simpa using hbegins)).2
    have hlength := length_le_of_checkSpelling hspelling
      ((List.prefix_append_right_inj here).mpr hbegins)
    rw [List.append_assoc, linkAt?, hlink] at hnone
    -- A link that is not found is below a directory in which no names may be looked up.
    have hhidden : d.isHidden (here ++ (before ++ [last])) = true := by
      by_contra hseen
      rw [if_neg (by simp [hseen, hlength])] at hnone
      cases hnone
    obtain ⟨shut, name, hshut, hmode⟩ := isHidden_iff.mp hhidden
    rcases List.prefix_or_prefix_of_prefix hshut (List.prefix_append here _) with habove | hbelow
    · rw [hreached shut name habove] at hmode
      cases hmode
    · rcases List.prefix_concat_iff.mp hbelow with hsame | ⟨middle, rfl⟩
      · rw [hreached shut name (by rw [hsame])] at hmode
        cases hmode
      · rw [List.append_assoc, List.prefix_append_right_inj] at hshut
        exact ⟨middle, (List.prefix_append middle [name]).trans hshut, hmode⟩

/-- The location of a resolved path leads to that path, past directories in which names may be looked
up. -/
theorem IsResolved.leads {last : LastName} (h : d.IsResolved p)
    (hlocate : d.locate last p.location = .ok q) : q = p ∧ d.IsReached p := by
  obtain ⟨hspelling, links, hwalk⟩ := locate_eq_ok_iff.mp hlocate
  have hnames : p.location.names.map Text.encode = p := by
    simp [Path.location, Function.comp_def, Text.encode_decode]
  have hreached : d.IsReached [] := fun front name hbegins => by simp at hbegins
  have hstraight : d.IsStraight (d.start p.location).path p := h.isStraight hreached hspelling
  rw [hnames] at hwalk
  exact ⟨congrArg Place.path (hstraight.walk_eq hwalk),
    fun front name hbegins => hstraight.isShut_of_walk hwalk hbegins⟩

end

end Disk

namespace Writer

open Step (state)

/-- What a call comes to, and what it leaves behind. -/
inductive Writes (w : Writer) (request : Request) (d : Disk) (ledger : Ledger) :
    EStateM.Result Failure (Disk × Ledger) Unit → Prop
  | skipped (hskips : w.skips request = true) :
      Writes w request d ledger
        (.ok () (d, { ledger with skipped := ledger.skipped ++ [request.path] }))
  /-- The path leads nowhere, or out of the root. -/
  | refused {failure : Failure} (hskips : w.skips request = false)
      (hdestination : w.destination d request.path = .error failure) :
      Writes w request d ledger (.error failure (d, ledger))
  /-- It cannot be told whether there is a file. -/
  | unseen {failure : Failure} {target : Location} (hskips : w.skips request = false)
      (hdestination : w.destination d request.path = .ok target)
      (hkeeps : keeps request d target = .error failure) :
      Writes w request d ledger (.error failure (d, ledger))
  | kept {target : Location} (hskips : w.skips request = false)
      (hdestination : w.destination d request.path = .ok target)
      (hkeeps : keeps request d target = .ok true) :
      Writes w request d ledger (.ok () (d, ledger))
  | written {target : Location} {d' : Disk} (hskips : w.skips request = false)
      (hdestination : w.destination d request.path = .ok target)
      (hkeeps : keeps request d target = .ok false)
      (hplace : Disk.placeFile target request.content.encode request.permissions d = .ok () d') :
      Writes w request d ledger
        (.ok () (d', { ledger with
          written := ledger.written ++ [request.path]
          recorded :=
            if request.record then ledger.recorded ++ [request.path] else ledger.recorded }))
  /-- The file system refuses a step of writing. -/
  | failed {target : Location} {failure : Failure} {d' : Disk} (hskips : w.skips request = false)
      (hdestination : w.destination d request.path = .ok target)
      (hkeeps : keeps request d target = .ok false)
      (hplace : Disk.placeFile target request.content.encode request.permissions d =
        .error failure d') :
      Writes w request d ledger (.error failure (d', ledger))

theorem writes_write (w : Writer) (request : Request) (d : Disk) (ledger : Ledger) :
    w.Writes request d ledger (w.write request (d, ledger)) := by
  unfold write
  cases hskips : w.skips request with
  | true => exact .skipped hskips
  | false =>
      rw [if_neg (by simp), Step.get_bind]
      dsimp only
      rw [Step.bind_apply, Step.lift_apply]
      cases hdestination : w.destination d request.path with
      | error failure => exact .refused hskips hdestination
      | ok target =>
          dsimp only
          rw [Step.bind_apply, Step.lift_apply]
          cases hkeeps : keeps request d target with
          | error failure => exact .unseen hskips hdestination hkeeps
          | ok kept =>
              cases kept with
              | true => exact .kept hskips hdestination hkeeps
              | false =>
                  dsimp only
                  rw [if_neg (by simp), Step.bind_apply, focus]
                  dsimp only
                  cases hplace : Disk.placeFile target request.content.encode
                      request.permissions d with
                  | ok _ d' => exact .written hskips hdestination hkeeps hplace
                  | error failure d' => exact .failed hskips hdestination hkeeps hplace

/-- The disk and the ledger after a number of calls. A call that fails does not stop the next. -/
def serve (w : Writer) (requests : List Request) (both : Disk × Ledger) : Disk × Ledger :=
  requests.foldl (fun both request => state (w.write request both)) both

section

variable {w : Writer} {d : Disk} {both : Disk × Ledger} {request : Request}
  {requests before later : List Request} {target : Location} {root : Path} {mode : Nat}

@[simp] theorem serve_nil (w : Writer) (both : Disk × Ledger) : w.serve [] both = both := rfl

@[simp] theorem serve_cons (w : Writer) (request : Request) (rest : List Request)
    (both : Disk × Ledger) :
    w.serve (request :: rest) both = w.serve rest (state (w.write request both)) := rfl

@[simp] theorem serve_append (w : Writer) (before later : List Request) (both : Disk × Ledger) :
    w.serve (before ++ later) both = w.serve later (w.serve before both) := by
  simp [serve]

/-- What every call preserves holds in the end. -/
theorem serve_induction {P : Disk × Ledger → Prop} (hstart : P both)
    (hstep : ∀ before request later, requests = before ++ request :: later →
      P (w.serve before both) → P (state (w.write request (w.serve before both)))) :
    P (w.serve requests both) := by
  have hbegins : ∀ before later, requests = before ++ later → P (w.serve before both) := by
    intro before
    induction before using List.reverseRecOn with
    | nil => exact fun _ _ => hstart
    | append_singleton before request ih =>
        intro later hsplit
        rw [serve_append]
        exact hstep before request later (by simpa using hsplit)
          (ih (request :: later) (by simpa using hsplit))
  exact hbegins requests [] (by simp)

theorem isAbsolute_child {base : Location} (h : base.isAbsolute = true) (path : Text) :
    (base.child path).isAbsolute = true := by
  rw [Location.child, Location.under]
  split
  · assumption
  · exact h

theorem destination_eq_ok {path : Text} (h : w.destination d path = .ok target) :
    d.resolve (w.root.child path) = .ok target ∧ target.anchor = w.root.anchor ∧
      w.root.names <+: target.names := by
  obtain ⟨resolved, hresolve, hunder⟩ := Step.except_bind_eq_ok_iff.mp h
  split at hunder
  · rename_i hroot
    cases hunder
    rw [Location.isUnder, Bool.and_eq_true, decide_eq_true_eq, List.isPrefixOf_iff_prefix] at hroot
    exact ⟨hresolve, hroot⟩
  · cases hunder

/-- Whatever a path leads to, all names below the root lead down. -/
theorem leadsDown_of_destination {path : Text} (h : w.destination d path = .ok target)
    {name : Text} (hname : name ∈ target.names) : LeadsDown name.encode := by
  obtain ⟨hresolve, hanchor, -⟩ := destination_eq_ok h
  rcases Disk.resolve_eq_ok hresolve with ⟨-, hdown⟩ | ⟨p, rfl, hp⟩
  · exact hdown name hname
  · have hroot : w.root.isAbsolute = true := by simp [Location.isAbsolute, ← hanchor, Path.location]
    obtain ⟨bytes, hbytes, rfl⟩ := List.mem_map.mp hname
    rw [Text.encode_decode]
    exact (hp (isAbsolute_child hroot path)).leadsDown hbytes

/-- A call leaves the disk as it is, or places a file where the path leads. -/
theorem disk_of_write (w : Writer) (request : Request) (both : Disk × Ledger) :
    (state (w.write request both)).1 = both.1 ∨
      w.skips request = false ∧ ∃ target, w.destination both.1 request.path = .ok target ∧
        (state (w.write request both)).1 =
          state (Disk.placeFile target request.content.encode request.permissions both.1) := by
  obtain ⟨d, ledger⟩ := both
  have hwrites := w.writes_write request d ledger
  generalize w.write request (d, ledger) = result at hwrites ⊢
  cases hwrites with
  | skipped | refused | unseen | kept => exact .inl rfl
  | written hskips hdestination _ hplace =>
      exact .inr ⟨hskips, _, hdestination, by rw [hplace]; rfl⟩
  | failed hskips hdestination _ hplace =>
      exact .inr ⟨hskips, _, hdestination, by rw [hplace]; rfl⟩

end

/-- A writer below the directory `out`. -/
def outWriter : Writer := { root := .ofText "/out", activeSkips := ["docs"] }

/-- A demand to write the text `x`. -/
def plainRequest (path : Text) : Request := { path := path, content := "x", permissions := 420 }

end Writer

end Scaffold
