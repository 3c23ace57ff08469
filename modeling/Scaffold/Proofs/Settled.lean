import Scaffold.Proofs.Failures
import Scaffold.Proofs.Replays

/-!
Values that are there. From a value in which nothing is still to come, nothing that is still to come
is reached, however its lists are changed.
-/

namespace Scaffold

open Step (Fails Refuses)

namespace Value

mutual

/-- Whether no value within a value is still to come. -/
def isSettled : Value → Bool
  | list _ items => itemsSettled items
  | table entries => entriesSettled entries
  | computed result => isSettled result
  | pending => false
  | _ => true

/-- Whether all items of a list are settled. -/
def itemsSettled : List Value → Bool
  | [] => true
  | item :: rest => isSettled item && itemsSettled rest

/-- Whether all entries of a table are settled. -/
def entriesSettled : List (Text × Value) → Bool
  | [] => true
  | (_, value) :: rest => isSettled value && entriesSettled rest

end

section

variable (id : Option ListId) (items : List Value) (entries : List (Text × Value))

@[simp] theorem isSettled_list : (list id items).isSettled = itemsSettled items := rfl

@[simp] theorem isSettled_table : (table entries).isSettled = entriesSettled entries := rfl

@[simp] theorem isSettled_bool (b : Bool) : (bool b).isSettled = true := rfl

@[simp] theorem isSettled_int (n : Int) : (int n).isSettled = true := rfl

@[simp] theorem isSettled_text (t : Text) : (text t).isSettled = true := rfl

@[simp] theorem isSettled_kind (k : PackageKind) : (kind k).isSettled = true := rfl

@[simp] theorem isSettled_package (p : Package) : (package p).isSettled = true := rfl

@[simp] theorem itemsSettled_nil : itemsSettled [] = true := rfl

@[simp] theorem itemsSettled_cons (item : Value) :
    itemsSettled (item :: items) = (item.isSettled && itemsSettled items) := rfl

@[simp] theorem entriesSettled_nil : entriesSettled [] = true := rfl

@[simp] theorem entriesSettled_cons (entry : Text × Value) :
    entriesSettled (entry :: entries) = (entry.2.isSettled && entriesSettled entries) := rfl

end

theorem itemsSettled_iff {items : List Value} :
    itemsSettled items = true ↔ ∀ item ∈ items, item.isSettled = true := by
  induction items with
  | nil => simp
  | cons item rest ih => rw [itemsSettled_cons, Bool.and_eq_true, ih, List.forall_mem_cons]

theorem entriesSettled_iff {entries : List (Text × Value)} :
    entriesSettled entries = true ↔ ∀ entry ∈ entries, entry.2.isSettled = true := by
  induction entries with
  | nil => simp
  | cons entry rest ih => rw [entriesSettled_cons, Bool.and_eq_true, ih, List.forall_mem_cons]

theorem isSettled_ofFields (fields : Entries Text) : (ofFields fields).isSettled = true := by
  rw [ofFields, isSettled_table, entriesSettled_iff]
  intro entry hentry
  obtain ⟨field, -, rfl⟩ := List.mem_map.mp hentry
  rfl

theorem isSettled_ofOption (t : Option Text) : (ofOption t).isSettled = true := by
  cases t <;> rfl

theorem isSettled_ofTexts (ts : List Text) (id : Option ListId) :
    (ofTexts ts id).isSettled = true := by
  rw [ofTexts, isSettled_list, itemsSettled_iff]
  intro item hitem
  obtain ⟨t, -, rfl⟩ := List.mem_map.mp hitem
  rfl

theorem projectContext_settled (p : Project) : ∀ entry ∈ p.context, entry.2.isSettled = true := by
  simp [Project.context, isSettled_ofFields]

theorem packageContext_settled (p : Package) : ∀ entry ∈ p.context, entry.2.isSettled = true := by
  simp [Package.context, isSettled_ofFields]

theorem packageFields_settled (p : Package) :
    ∀ entry ∈ packageFields p, entry.2.isSettled = true := by
  simp [packageFields, isSettled_ofFields, isSettled_ofOption]

theorem projectFields_settled (id : ProjectList → Option ListId) {ofPackage : Package → Value}
    (hpackage : ∀ q, (ofPackage q).isSettled = true) (p : Project) :
    ∀ entry ∈ projectFields id ofPackage p, entry.2.isSettled = true := by
  have hpackages : itemsSettled (p.packages.map ofPackage) = true :=
    itemsSettled_iff.mpr (by simp [hpackage])
  simp [projectFields, isSettled_ofTexts, hpackages, isSettled_ofFields, isSettled_ofOption]

theorem recordMethods_settled {record : Value} {fields : Entries Value}
    (hrecord : record.isSettled = true) (hfields : ∀ entry ∈ fields, entry.2.isSettled = true) :
    ∀ entry ∈ recordMethods record fields, entry.2.isSettled = true := by
  simp [recordMethods, hrecord, entriesSettled_iff.mpr hfields]

theorem packageAttributes_settled (p : Package) :
    ∀ entry ∈ packageAttributes p, entry.2.isSettled = true := by
  have hcontext := entriesSettled_iff.mpr (packageContext_settled p)
  refine List.forall_mem_append.mpr ⟨List.forall_mem_append.mpr ⟨packageFields_settled p, ?_⟩,
    recordMethods_settled rfl (packageFields_settled p)⟩
  simp [packageMethods, hcontext]

theorem projectAttributes_settled (n : Nat) (p : Project) :
    ∀ entry ∈ projectAttributes n p, entry.2.isSettled = true := by
  have hcontext := entriesSettled_iff.mpr (projectContext_settled p)
  have htables : ∀ q, (table (packageFields q)).isSettled = true := fun q =>
    entriesSettled_iff.mpr (packageFields_settled q)
  refine List.forall_mem_append.mpr ⟨List.forall_mem_append.mpr ⟨?_, ?_⟩,
    recordMethods_settled rfl (projectFields_settled _ htables p)⟩
  · exact projectFields_settled _ (fun _ => rfl) p
  · simp [projectMethods, isSettled_ofOption, hcontext]

theorem mem_of_mem_apply {α : Type} {atMost : α → α → Bool} {method : ListMethod} {items : List α}
    {a : α} (h : a ∈ method.apply atMost items) : a ∈ items := by
  cases method with
  | clear => cases h
  | pop => exact List.dropLast_subset items h
  | reverse => exact List.mem_reverse.mp h
  | sort => exact List.mem_mergeSort.mp h

mutual

theorem isSettled_changed {v : Value} (hv : v.isSettled = true) (c : Change) :
    (v.changed c).isSettled = true := by
  match v with
  | list id items =>
      have hitems := itemsSettled_iff.mp (itemsSettled_changed hv c)
      unfold changed
      split
      · exact itemsSettled_iff.mpr fun item hitem => hitems item (mem_of_mem_apply hitem)
      · exact itemsSettled_iff.mpr hitems
  | table entries => exact entriesSettled_changed hv c
  | computed result =>
      have hresult : result.isSettled = true := hv
      exact isSettled_changed hresult c
  | project n p => rfl
  | null | bool _ | int _ | float _ | text _ | kind _ | package _ => rfl

theorem itemsSettled_changed {items : List Value} (hitems : itemsSettled items = true) (c : Change) :
    itemsSettled (changedItems c items) = true := by
  match items with
  | [] => rfl
  | item :: rest =>
      obtain ⟨hitem, hrest⟩ := Bool.and_eq_true_iff.mp hitems
      exact Bool.and_eq_true_iff.mpr ⟨isSettled_changed hitem c, itemsSettled_changed hrest c⟩

theorem entriesSettled_changed {entries : List (Text × Value)}
    (hentries : entriesSettled entries = true) (c : Change) :
    entriesSettled (changedEntries c entries) = true := by
  match entries with
  | [] => rfl
  | (key, value) :: rest =>
      obtain ⟨hvalue, hrest⟩ := Bool.and_eq_true_iff.mp hentries
      exact Bool.and_eq_true_iff.mpr ⟨isSettled_changed hvalue c, entriesSettled_changed hrest c⟩

end

theorem isSettled_after {v : Value} (hv : v.isSettled = true) (changes : Changes) :
    (v.after changes).isSettled = true := by
  induction changes generalizing v with
  | nil => exact hv
  | cons c rest ih => exact ih (isSettled_changed hv c)

/-- What an attribute is is settled, and no failure says that it is still to come. -/
def SettledAttribute (result : Attribute) : Prop :=
  (∀ v, result = .ok (some v) → v.isSettled = true) ∧ result ≠ .error (.foreign .postponed)

theorem settledAttribute_found {v : Value} (hv : v.isSettled = true) :
    SettledAttribute (found v) := by
  refine ⟨?_, by simp [found]⟩
  rintro _ ⟨⟩
  exact hv

theorem settledAttribute_absent : SettledAttribute absent := by
  refine ⟨?_, by simp [absent]⟩
  rintro _ ⟨⟩

theorem settledAttribute_unsupported : SettledAttribute (.error (.foreign .unsupported)) := by
  refine ⟨?_, by simp⟩
  rintro _ ⟨⟩

theorem settledAttribute_get? {entries : Entries Value}
    (hentries : ∀ entry ∈ entries, entry.2.isSettled = true) (key : Text) :
    SettledAttribute (.ok (entries.get? key)) := by
  refine ⟨?_, by simp⟩
  intro v h
  exact hentries _ (Keyed.mem_of_get? (Except.ok.inj h))

theorem settledAttribute_among {attributes : Entries Value}
    (hattributes : ∀ entry ∈ attributes, entry.2.isSettled = true) (operations : List Text)
    (name : Text) : SettledAttribute (attributeAmong attributes operations name) := by
  unfold attributeAmong
  split
  · rename_i v hv
    exact settledAttribute_found (hattributes _ (Keyed.mem_of_get? hv))
  · split
    · exact settledAttribute_unsupported
    · exact settledAttribute_absent

theorem settledAttribute_textAttribute (t name : Text) :
    SettledAttribute (textAttribute t name) :=
  settledAttribute_among (by simp [textMethods, isSettled_ofTexts]) textOperations name

theorem settledAttribute_numberAttribute (n : Int) (name : Text) :
    SettledAttribute (numberAttribute n name) :=
  settledAttribute_among (by simp [numberAttributes]) ["from_bytes"] name

theorem settledAttribute_kindAttribute (k : PackageKind) (name : Text) :
    SettledAttribute (kindAttribute k name) := by
  unfold kindAttribute
  split
  · exact settledAttribute_found rfl
  · split
    · exact settledAttribute_found rfl
    · exact settledAttribute_textAttribute k.word name

theorem settledAttribute_force {v : Value} (hv : v.isSettled = true) :
    SettledAttribute (v.force.map some) := by
  cases v with
  | computed result => exact settledAttribute_found hv
  | pending => cases hv
  | _ => exact settledAttribute_found hv

/-- Looking up comes to what is settled, and no failure says that it is still to come. -/
def Settles (x : Looking (Option Value)) : Prop :=
  ∀ changes, SettledAttribute (Step.outcome (x changes))

theorem settles_lift {x : Attribute} (hx : SettledAttribute x) : Settles (liftM x) := by
  intro changes
  rw [Step.lift_apply]
  cases x <;> exact hx

theorem settles_pure {found : Option Value} (hfound : SettledAttribute (.ok found)) :
    Settles (pure found) := fun _ => hfound

theorem Settles.bind {α : Type} {x : Looking α} {f : α → Looking (Option Value)}
    (hx : ∀ changes after, x changes ≠ .error (.foreign .postponed) after)
    (hf : ∀ a changes after, x changes = .ok a after → Settles (f a)) : Settles (x >>= f) := by
  intro changes
  rw [Step.bind_apply]
  cases hstep : x changes with
  | ok a after => exact hf a changes after hstep after
  | error failure after =>
      refine ⟨by rintro _ ⟨⟩, ?_⟩
      rintro ⟨⟩
      exact hx changes after hstep

theorem settles_listAttribute (id : Option ListId) {items : List Value}
    (hitems : ∀ item ∈ items, item.isSettled = true) (name : Text) :
    Settles (listAttribute id items name) := by
  have hresult : ∀ method, SettledAttribute ((methodResult items method).map some) := by
    intro method
    cases method with
    | clear | reverse => exact settledAttribute_found rfl
    | pop =>
        unfold methodResult
        dsimp only
        split
        · rename_i item hlast
          exact settledAttribute_found (hitems item (List.mem_of_getLast? hlast))
        · exact ⟨by rintro _ ⟨⟩, by simp [Except.map]⟩
    | sort =>
        unfold methodResult
        dsimp only
        split
        · exact settledAttribute_found rfl
        · exact settledAttribute_unsupported
  unfold listAttribute
  split
  · rename_i method _
    refine Settles.bind ?_ fun result changes after hlift => ?_
    · intro changes after h
      obtain ⟨hfailure, -⟩ := Step.lift_eq_error_iff.mp h
      exact (hresult method).2 (by rw [hfailure]; rfl)
    · obtain ⟨hok, -⟩ := Step.lift_eq_ok_iff.mp hlift
      have hsettled := (hresult method).1 result (by rw [hok]; rfl)
      refine Settles.bind ?_ fun _ _ _ _ => settles_pure ⟨by rintro _ ⟨⟩; exact hsettled, by simp⟩
      intro changes after h
      cases id <;> cases h
  · refine settles_lift (settledAttribute_among ?_ _ name)
    simp [itemsSettled_iff.mpr hitems]

theorem settles_step {v : Value} (hv : v.isSettled = true) (segment : Text) :
    Settles (step v segment) := by
  cases v with
  | table entries =>
      have hentries := entriesSettled_iff.mp hv
      unfold step
      dsimp only
      split
      · rename_i inner hinner
        exact settles_lift (settledAttribute_force (hentries _ (Keyed.mem_of_get? hinner)))
      · exact settles_lift settledAttribute_absent
  | text t => exact settles_lift (settledAttribute_textAttribute t segment)
  | int n => exact settles_lift (settledAttribute_numberAttribute n segment)
  | bool b => exact settles_lift (settledAttribute_numberAttribute b.toInt segment)
  | kind k => exact settles_lift (settledAttribute_kindAttribute k segment)
  | list id items => exact settles_listAttribute id (itemsSettled_iff.mp hv) segment
  | project n p => exact settles_pure (settledAttribute_get? (projectAttributes_settled n p) segment)
  | package p => exact settles_pure (settledAttribute_get? (packageAttributes_settled p) segment)
  | null | float | computed | pending => exact settles_lift settledAttribute_absent

theorem settles_follow {v : Value} (hv : v.isSettled = true) (segments : List Text) :
    Settles (follow v segments) := by
  induction segments generalizing v with
  | nil => exact settles_pure (settledAttribute_found hv)
  | cons segment rest ih =>
      have hstep := settles_step hv segment
      refine Settles.bind ?_ fun found changes after hfound => ?_
      · intro changes after h
        exact (hstep changes).2 (congrArg Step.outcome h)
      · cases found with
        | none => exact settles_pure settledAttribute_absent
        | some inner => exact ih ((hstep changes).1 inner (congrArg Step.outcome hfound))

/-- The value of a key is still to come, after some changes of lists. -/
def IsLate (context : Entries Value) (key : Text) (changes : Changes) : Prop :=
  ∃ after, lookup context key changes = .error (.foreign .postponed) after

/-- The failures of looking a value up: it is still to come, or it has no attributes to ask for. -/
def IsLookupFault (failure : Failure) : Prop := ∃ fault, failure = .foreign fault

theorem refuses_attributeAmong (attributes : Entries Value) (operations : List Text)
    (name : Text) : Refuses IsLookupFault (attributeAmong attributes operations name) := by
  unfold attributeAmong
  split
  · exact Step.refuses_ok _
  · exact Step.refuses_ite (Step.refuses_error ⟨_, rfl⟩) (Step.refuses_ok _)

theorem refuses_kindAttribute (k : PackageKind) (name : Text) :
    Refuses IsLookupFault (kindAttribute k name) :=
  Step.refuses_ite (Step.refuses_ok _)
    (Step.refuses_ite (Step.refuses_ok _) (refuses_attributeAmong _ _ _))

theorem refuses_force (v : Value) : Refuses IsLookupFault v.force := by
  cases v with
  | pending => exact Step.refuses_error ⟨_, rfl⟩
  | _ => exact Step.refuses_ok _

theorem refuses_methodResult (items : List Value) (method : ListMethod) :
    Refuses IsLookupFault (methodResult items method) := by
  cases method with
  | clear | reverse => exact Step.refuses_ok _
  | pop =>
      unfold methodResult
      dsimp only
      split
      · exact Step.refuses_ok _
      · exact Step.refuses_error ⟨_, rfl⟩
  | sort => exact Step.refuses_ite (Step.refuses_ok _) (Step.refuses_error ⟨_, rfl⟩)

theorem fails_listAttribute (id : Option ListId) (items : List Value) (name : Text) :
    Fails IsLookupFault (listAttribute id items name) := by
  have hnote : ∀ method, Fails IsLookupFault (note id method) := by
    intro method
    cases id with
    | none => exact Step.fails_pure ()
    | some changed => exact Step.fails_modify _
  unfold listAttribute
  split
  · exact (Step.fails_lift (refuses_methodResult items _)).bind fun result =>
      (hnote _).bind fun _ => Step.fails_pure _
  · exact Step.fails_lift (refuses_attributeAmong _ _ _)

theorem fails_step (v : Value) (segment : Text) : Fails IsLookupFault (step v segment) := by
  cases v with
  | table entries =>
      unfold step
      dsimp only
      split
      · exact Step.fails_lift ((refuses_force _).map some)
      · exact Step.fails_lift (Step.refuses_ok _)
  | text | int | bool => exact Step.fails_lift (refuses_attributeAmong _ _ _)
  | kind k => exact Step.fails_lift (refuses_kindAttribute k segment)
  | list id items => exact fails_listAttribute id items segment
  | project | package => exact Step.fails_pure _
  | null | float | computed | pending => exact Step.fails_lift (Step.refuses_ok _)

theorem fails_follow (v : Value) (segments : List Text) :
    Fails IsLookupFault (follow v segments) := by
  induction segments generalizing v with
  | nil => exact Step.fails_pure _
  | cons segment rest ih =>
      refine (fails_step v segment).bind fun found => ?_
      cases found with
      | some inner => exact ih inner
      | none => exact Step.fails_pure none

theorem fails_lookup (context : Entries Value) (key : Text) :
    Fails IsLookupFault (lookup context key) :=
  Step.fails_get.bind fun _ => fails_follow _ _

theorem lookup_of_splitOn {context : Entries Value} {key first : Text} {rest : List Text}
    {v : Value} (hkey : key.splitOn (.char '.') = first :: rest)
    (hfirst : context.get? first = some v) (changes : Changes) :
    lookup context key changes =
      (do follow (← (v.after changes).force) rest : Looking (Option Value)) changes := by
  rw [lookup, Step.get_bind, after_table, hkey, follow, step, get?_after, hfirst]
  dsimp only [Option.map]
  rw [Step.bind_apply, Step.bind_apply, Step.lift_apply, Step.lift_apply]
  cases (v.after changes).force <;> rfl

end Value

end Scaffold
