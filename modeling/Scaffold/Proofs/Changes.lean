import Scaffold.Disk.Write
import Scaffold.Proofs.Walks

/-!
Changes of disks. `Disk.ChangesOnly` says where two disks may differ, `Disk.Grows` that they differ
by new directories at most, and `Disk.SameShape` that a walk goes the same way on both. Every change
that writing comes to is one of those in `Disk.Evolves`.
-/

namespace Scaffold

/-- What a walk sees of an entry. -/
inductive Entry.Kind where
  | file
  | directory (searched : Bool)
  | link (target : Bytes)

/-- The kind of an entry. -/
def Entry.kind : Entry → Kind
  | .file _ _ => .file
  | .directory mode => .directory (ownerSearches mode)
  | .link target => .link target

theorem ownerSearches_or_ownerWrite (mode : Nat) :
    ownerSearches (mode ||| ownerWrite) = ownerSearches mode := by
  rw [ownerSearches, ownerSearches, Nat.testBit_or]
  exact Bool.or_false _

theorem Entry.kind_withMode {mode : Nat → Nat}
    (hmode : ∀ old, ownerSearches (mode old) = ownerSearches old) (entry : Entry) :
    (Disk.withMode mode entry).kind = entry.kind := by
  cases entry with
  | directory old => exact congrArg Kind.directory (hmode old)
  | _ => rfl

namespace Disk

open Step (state bind_eq_ok_iff lift_eq_ok_iff lift_apply)

/-- The same paths are taken on two disks, by entries of the same kinds. -/
structure SameShape (d d' : Disk) : Prop where
  current_eq : d'.current = d.current
  kind_eq : ∀ p, (d'.get? p).map Entry.kind = (d.get? p).map Entry.kind

/-- Two disks differ only where something was touched. -/
structure ChangesOnly (touched : Path → Prop) (d d' : Disk) : Prop where
  current_eq : d'.current = d.current
  get?_eq : ∀ p, ¬ touched p → d'.get? p = d.get? p

/-- Two disks differ only by new directories. -/
structure Grows (made : Path → Prop) (d d' : Disk) : Prop where
  current_eq : d'.current = d.current
  get?_eq : ∀ p, d'.get? p = d.get? p ∨
    made p ∧ d.get? p = none ∧ d'.get? p = some (.directory newDirectoryMode)

/-- Every entry stands in a directory. -/
def IsGrounded (d : Disk) : Prop :=
  ∀ p name, (d.get? (p ++ [name])).isSome = true → d.isDirectory p = true

/-- A path lies on the way from another one along names. -/
def OnTheWay (here : Path) (names : Route) (p : Path) : Prop :=
  ∃ front, front ≠ [] ∧ front <+: names ∧ p = here ++ front

/-- What every change comes to: what stood goes on to stand, what is new stands in a directory, and
at no path stand two entries. -/
structure Evolves (d d' : Disk) : Prop where
  stands : d.Extends (fun _ => True) d'
  grounded : d.IsGrounded → d'.IsGrounded
  nodup : d.entries.keys.Nodup → d'.entries.keys.Nodup

section

variable {d d' d'' : Disk} {touched touched' made made' : Path → Prop} {last : LastName}
  {links : Nat} {place next : Place} {here p q : Path} {name : Bytes} {names rest : Route}
  {l : Location} {entry entry' : Entry} {follow follow' : Path → Route → Except DiskFault Place}

theorem OnTheWay.of_isPrefix {front : Route} (hbegins : front <+: names)
    (h : OnTheWay here front p) : OnTheWay here names p := by
  obtain ⟨way, hne, hway, hp⟩ := h
  exact ⟨way, hne, hway.trans hbegins, hp⟩

theorem isDirectory_iff : d.isDirectory p = true ↔ ∃ mode, d.get? p = some (.directory mode) := by
  unfold isDirectory
  constructor
  · intro h
    split at h
    · exact ⟨_, by assumption⟩
    · cases h
  · rintro ⟨mode, hentry⟩
    rw [hentry]

theorem isDirectory_of_takesEntries (h : d.takesEntries p = true) : d.isDirectory p = true := by
  unfold takesEntries at h
  split at h
  · rename_i mode hentry
    exact isDirectory_iff.mpr ⟨mode, hentry⟩
  · cases h

namespace SameShape

theorem put (hentry : d.get? p = some entry) (hkind : entry'.kind = entry.kind) :
    d.SameShape (d.put p entry') := by
  refine ⟨rfl, fun q => ?_⟩
  rw [get?_put]
  by_cases hq : q = p
  · simp [hq, hentry, hkind]
  · rw [if_neg hq]

theorem cases (h : d.SameShape d') (p : Path) :
    (d.get? p = none ∧ d'.get? p = none) ∨
      (∃ content content' mode mode', d.get? p = some (.file content mode) ∧
        d'.get? p = some (.file content' mode')) ∨
      (∃ mode mode', d.get? p = some (.directory mode) ∧ d'.get? p = some (.directory mode') ∧
        ownerSearches mode' = ownerSearches mode) ∨
      ∃ target, d.get? p = some (.link target) ∧ d'.get? p = some (.link target) := by
  have hkind := h.kind_eq p
  cases hold : d.get? p with
  | none =>
      rw [hold, Option.map_none, Option.map_eq_none_iff] at hkind
      exact .inl ⟨rfl, hkind⟩
  | some entry =>
      rw [hold, Option.map_some, Option.map_eq_some_iff] at hkind
      obtain ⟨entry', hnew, hkind⟩ := hkind
      rw [hnew]
      cases entry <;> cases entry' <;> simp [Entry.kind] at hkind ⊢ <;> exact hkind

theorem isDirectory_eq (h : d.SameShape d') (p : Path) : d'.isDirectory p = d.isDirectory p := by
  unfold isDirectory
  rcases h.cases p with ⟨hold, hnew⟩ | ⟨_, _, _, _, hold, hnew⟩ | ⟨_, _, hold, hnew, -⟩ |
    ⟨_, hold, hnew⟩
  all_goals rw [hold, hnew]

theorem obstacle?_eq (h : d.SameShape d') (p : Path) (name : Bytes) :
    d'.obstacle? p name = d.obstacle? p name := by
  unfold obstacle?
  rcases h.cases p with ⟨hold, hnew⟩ | ⟨_, _, _, _, hold, hnew⟩ | ⟨_, _, hold, hnew, hsearch⟩ |
    ⟨_, hold, hnew⟩
  · rw [hold, hnew]
  · rw [hold, hnew]
  · rw [hold, hnew]
    dsimp only
    rw [hsearch]
  · rw [hold, hnew]

theorem walkNames_eq (h : d.SameShape d')
    (hfollow : ∀ here names, follow' here names = follow here names) (here : Path) (names : Route) :
    d'.walkNames last links follow' here names = d.walkNames last links follow here names := by
  induction names generalizing here with
  | nil => rfl
  | cons name rest ih =>
      unfold walkNames
      rw [h.obstacle?_eq, ih, ih, ih]
      rcases h.cases (here ++ [name]) with ⟨hold, hnew⟩ | ⟨_, _, _, _, hold, hnew⟩ |
        ⟨_, _, hold, hnew, -⟩ | ⟨_, hold, hnew⟩
      · rw [hold, hnew]
      · rw [hold, hnew]
      · rw [hold, hnew]
      · simp only [hold, hnew, hfollow]

theorem walkFrom_eq (h : d.SameShape d') (links : Nat) (here : Path) (names : Route) :
    d'.walkFrom last links here names = d.walkFrom last links here names := by
  induction links generalizing here names with
  | zero => exact h.walkNames_eq (fun _ _ => rfl) here names
  | succ links ih => exact h.walkNames_eq ih here names

theorem locate_eq (h : d.SameShape d') (last : LastName) (l : Location) :
    d'.locate last l = d.locate last l := by
  have hstart : d'.start l = d.start l := by rw [start, start, h.current_eq]
  have hwalk : d'.walk last (d.start l) (l.names.map Text.encode) =
      d.walk last (d.start l) (l.names.map Text.encode) := h.walkFrom_eq _ _ _
  rw [locate, locate, hstart, hwalk]

theorem stands (h : d.SameShape d') : d.Extends (fun _ => True) d' := by
  refine ⟨h.current_eq, fun p entry hentry => ?_⟩
  rcases h.cases p with ⟨hold, -⟩ | ⟨_, _, _, _, hold, hnew⟩ | ⟨_, _, hold, hnew, hsearch⟩ |
    ⟨_, hold, hnew⟩
  · cases hold.symm.trans hentry
  · cases hold.symm.trans hentry
    exact ⟨_, hnew, .file (.inr trivial)⟩
  · cases hold.symm.trans hentry
    exact ⟨_, hnew, .directory fun hmode => hsearch.trans hmode⟩
  · cases hold.symm.trans hentry
    exact ⟨_, hnew, .link⟩

theorem grounded (h : d.SameShape d') (hd : d.IsGrounded) : d'.IsGrounded := by
  intro p name hsome
  rw [h.isDirectory_eq]
  apply hd p name
  have hkind := congrArg Option.isSome (h.kind_eq (p ++ [name]))
  rw [Option.isSome_map, Option.isSome_map] at hkind
  exact hkind.symm.trans hsome

end SameShape

namespace ChangesOnly

theorem refl (d : Disk) : d.ChangesOnly touched d := ⟨rfl, fun _ _ => rfl⟩

theorem trans (h : d.ChangesOnly touched d') (h' : d'.ChangesOnly touched d'') :
    d.ChangesOnly touched d'' :=
  ⟨h'.current_eq.trans h.current_eq, fun p hp => (h'.get?_eq p hp).trans (h.get?_eq p hp)⟩

theorem imp (h : d.ChangesOnly touched d') (himp : ∀ p, touched p → touched' p) :
    d.ChangesOnly touched' d' :=
  ⟨h.current_eq, fun p hp => h.get?_eq p fun htouched => hp (himp p htouched)⟩

theorem put (hp : touched p) (entry : Entry) : d.ChangesOnly touched (d.put p entry) := by
  refine ⟨rfl, fun q hq => ?_⟩
  rw [get?_put, if_neg]
  rintro rfl
  exact hq hp

/-- Where nothing is changed, nothing is touched either. -/
theorem extends_of_stands (h : d.ChangesOnly touched d') (hstands : d.Extends (fun _ => True) d') :
    d.Extends touched d' := by
  refine ⟨h.current_eq, fun p entry hentry => ?_⟩
  by_cases hp : touched p
  · obtain ⟨entry', hentry', hbecomes⟩ := hstands.becomes p entry hentry
    exact ⟨entry', hentry', hbecomes.imp fun _ => hp⟩
  · exact ⟨entry, (h.get?_eq p hp).trans hentry, .refl entry⟩

end ChangesOnly

namespace Grows

theorem refl (d : Disk) : d.Grows made d := ⟨rfl, fun _ => .inl rfl⟩

theorem trans (h : d.Grows made d') (h' : d'.Grows made d'') : d.Grows made d'' := by
  refine ⟨h'.current_eq.trans h.current_eq, fun p => ?_⟩
  rcases h'.get?_eq p with hsame' | ⟨hmade, hnone, hnew⟩
  · rw [hsame']
    exact h.get?_eq p
  · rcases h.get?_eq p with hsame | ⟨-, -, hdirectory⟩
    · rw [hsame] at hnone
      exact .inr ⟨hmade, hnone, hnew⟩
    · rw [hdirectory] at hnone
      cases hnone

theorem imp (h : d.Grows made d') (himp : ∀ p, made p → made' p) : d.Grows made' d' :=
  ⟨h.current_eq, fun p => (h.get?_eq p).imp_right fun hnew => ⟨himp p hnew.1, hnew.2⟩⟩

theorem put (hmade : made p) (hnone : d.get? p = none) :
    d.Grows made (d.put p (.directory newDirectoryMode)) := by
  refine ⟨rfl, fun q => ?_⟩
  rw [get?_put]
  by_cases hq : q = p
  · subst hq
    exact .inr ⟨hmade, hnone, if_pos rfl⟩
  · exact .inl (if_neg hq)

theorem changesOnly (h : d.Grows made d') : d.ChangesOnly made d' :=
  ⟨h.current_eq, fun p hp => (h.get?_eq p).resolve_right fun hnew => hp hnew.1⟩

theorem stands (h : d.Grows made d') : d.Extends (fun _ => False) d' := by
  refine ⟨h.current_eq, fun p entry hentry => ?_⟩
  rcases h.get?_eq p with hsame | ⟨-, hnone, -⟩
  · exact ⟨entry, hsame.trans hentry, .refl entry⟩
  · cases hnone.symm.trans hentry

theorem isShut (h : d.Grows made d') (hshut : d.isShut p = true) : d'.isShut p = true := by
  rcases h.get?_eq p with hsame | ⟨-, hnone, -⟩
  · rwa [Disk.isShut, hsame]
  · simp [Disk.isShut, hnone] at hshut

theorem isStraight (h : d.Grows made d') (hstraight : d.IsStraight here names) :
    d'.IsStraight here names := by
  refine ⟨hstraight.1, fun front hne hbegins target hlink => ?_⟩
  rcases h.get?_eq (here ++ front) with hsame | ⟨-, -, hdirectory⟩
  · obtain ⟨before, hbefore, hshut⟩ := hstraight.2 front hne hbegins target (hsame.symm.trans hlink)
    exact ⟨before, hbefore, h.isShut hshut⟩
  · rw [hdirectory] at hlink
    cases hlink

end Grows

namespace Evolves

theorem refl (d : Disk) : d.Evolves d := ⟨.refl d, id, id⟩

theorem trans (h : d.Evolves d') (h' : d'.Evolves d'') : d.Evolves d'' :=
  ⟨h.stands.trans h'.stands, h'.grounded ∘ h.grounded, h'.nodup ∘ h.nodup⟩

theorem put_old (hentry : d.get? p = some entry) (hkind : entry'.kind = entry.kind) :
    d.Evolves (d.put p entry') := by
  have hshape : d.SameShape (d.put p entry') := .put hentry hkind
  exact ⟨hshape.stands, hshape.grounded, fun hd => Keyed.nodup_keys_insert hd p entry'⟩

theorem put_new (hdirectory : d.isDirectory p = true) (hnone : d.get? (p ++ [name]) = none)
    (entry : Entry) : d.Evolves (d.put (p ++ [name]) entry) := by
  have hstands : d.Extends (fun _ => True) (d.put (p ++ [name]) entry) := .put_new hnone
  refine ⟨hstands, fun hd q other hsome => hstands.isDirectory ?_,
    fun hd => Keyed.nodup_keys_insert hd (p ++ [name]) entry⟩
  rw [get?_put] at hsome
  by_cases hq : q ++ [other] = p ++ [name]
  · rw [(List.append_inj' hq rfl).1]
    exact hdirectory
  · rw [if_neg hq] at hsome
    exact hd q other hsome

end Evolves

theorem mem_keys_iff : p ∈ d.entries.keys ↔ (d.get? p).isSome = true := by
  rw [Option.isSome_iff_ne_none, ne_eq, get?, Keyed.get?_eq_none_iff, not_not]

theorem isGrounded_iff :
    d.IsGrounded ↔ ∀ p ∈ d.entries.keys, p = [] ∨ d.isDirectory p.dropLast = true := by
  constructor
  · intro hd p hp
    rcases List.eq_nil_or_concat p with rfl | ⟨front, name, rfl⟩
    · exact .inl rfl
    · rw [List.concat_eq_append] at hp ⊢
      rw [List.dropLast_concat]
      exact .inr (hd front name (mem_keys_iff.mp hp))
  · intro hd p name hsome
    have hdirectory := (hd (p ++ [name]) (mem_keys_iff.mpr hsome)).resolve_left (by simp)
    rwa [List.dropLast_concat] at hdirectory

instance (d : Disk) : Decidable d.IsGrounded := decidable_of_iff _ isGrounded_iff.symm

/-- Nothing stands below what does not stand itself. -/
theorem IsGrounded.get?_append (hd : d.IsGrounded) (hnone : d.get? p = none) (names : Route) :
    d.get? (p ++ names) = none := by
  induction names using List.reverseRecOn with
  | nil => simpa using hnone
  | append_singleton before name ih =>
      rw [← List.append_assoc]
      by_contra hsome
      obtain ⟨mode, hdirectory⟩ := isDirectory_iff.mp
        (hd (p ++ before) name (Option.isSome_iff_ne_none.mpr hsome))
      rw [ih] at hdirectory
      cases hdirectory

end

end Disk

end Scaffold
