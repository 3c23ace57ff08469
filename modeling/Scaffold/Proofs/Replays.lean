import Scaffold.Value.Change

/-!
What changes of lists do to values. A project keeps all that is no list of it, and a table is changed
entry by entry.
-/

namespace Scaffold

/-- None of the changes is one of a list of the project of the run. -/
def Changes.Spares (changes : Changes) (list : ProjectList) : Prop :=
  ∀ c ∈ changes, c.list ≠ .ofProject 0 list

instance (changes : Changes) (list : ProjectList) : Decidable (changes.Spares list) :=
  inferInstanceAs (Decidable (∀ c ∈ changes, c.list ≠ .ofProject 0 list))

theorem Changes.Spares.of_prefix {changes more : Changes} {list : ProjectList}
    (h : more.Spares list) (hbegins : changes <+: more) : changes.Spares list :=
  fun c hc => h c (hbegins.subset hc)

namespace Project

variable {α : Type}

@[simp] theorem after_nil (p : Project) : p.after [] = p := rfl

/-- What none of some changes alters is the same after all of them. -/
theorem after_of_kept {view : Project → α} {changes : Changes}
    (hkept : ∀ c ∈ changes, ∀ p, view (changed 0 p c) = view p) (p : Project) :
    view (p.after changes) = view p := by
  unfold after
  induction changes generalizing p with
  | nil => rfl
  | cons c rest ih =>
      obtain ⟨hfirst, hrest⟩ := List.forall_mem_cons.mp hkept
      exact (ih hrest _).trans (hfirst p)

/-- What no method of a list changes is the same after any changes. -/
theorem view_after {view : Project → α}
    (hview : ∀ p method list, view (withMethod p method list) = view p) (p : Project)
    (changes : Changes) : view (p.after changes) = view p := by
  refine after_of_kept (fun c _ p => ?_) p
  unfold changed
  split
  · rfl
  · split
    · exact hview p c.method _
    · rfl

/-- What only the methods of one list change is the same after changes that are none of that list. -/
theorem after_of_spares {view : Project → α} {list : ProjectList}
    (hview : ∀ p method other, other ≠ list → view (withMethod p method other) = view p)
    {changes : Changes} (hspares : changes.Spares list) (p : Project) :
    view (p.after changes) = view p := by
  refine after_of_kept (fun c hc p => ?_) p
  have hother := hspares c hc
  unfold changed
  split
  · rfl
  · rename_i project other hlist
    split
    · rename_i hproject
      rw [hlist, hproject] at hother
      exact hview p c.method other fun hsame => hother (congrArg _ hsame)
    · rfl

theorem skip_after {changes : Changes} (hspares : changes.Spares .skip) (p : Project) :
    (p.after changes).skip = p.skip :=
  after_of_spares
    (fun _ _ other hother => by cases other <;> first | rfl | exact absurd rfl hother) hspares p

theorem packages_after {changes : Changes} (hspares : changes.Spares .packages) (p : Project) :
    (p.after changes).packages = p.packages :=
  after_of_spares
    (fun _ _ other hother => by cases other <;> first | rfl | exact absurd rfl hother) hspares p

@[simp] theorem fields_after (p : Project) (changes : Changes) :
    (p.after changes).fields = p.fields :=
  view_after (fun _ _ list => by cases list <;> rfl) p changes

end Project

namespace Value

theorem changedItems_eq_map (c : Change) (items : List Value) :
    changedItems c items = items.map (changed c) := by
  induction items with
  | nil => rfl
  | cons item rest ih => rw [changedItems, ih, List.map_cons]

theorem changedEntries_eq_map (c : Change) (entries : List (Text × Value)) :
    changedEntries c entries = entries.map fun entry => (entry.1, entry.2.changed c) := by
  induction entries with
  | nil => rfl
  | cons entry rest ih => rw [changedEntries, ih, List.map_cons]

@[simp] theorem after_nil (v : Value) : v.after [] = v := rfl

theorem after_cons (v : Value) (c : Change) (rest : Changes) :
    v.after (c :: rest) = (v.changed c).after rest := rfl

theorem after_table (entries : Entries Value) (changes : Changes) :
    (table entries).after changes =
      table (entries.map fun entry => (entry.1, entry.2.after changes)) := by
  induction changes generalizing entries with
  | nil => simp
  | cons c rest ih =>
      rw [after_cons, changed, ih, changedEntries_eq_map, List.map_map]
      rfl

theorem get?_after (entries : Entries Value) (changes : Changes) (key : Text) :
    Keyed.get? (entries.map fun entry => (entry.1, entry.2.after changes)) key =
      (entries.get? key).map fun v => v.after changes := by
  induction entries with
  | nil => rfl
  | cons entry rest ih =>
      rw [List.map_cons, Keyed.get?, Keyed.get?]
      split
      · rfl
      · exact ih

/-- A value that no change changes stays as it is. -/
theorem after_of_fixed {v : Value} (h : ∀ c, v.changed c = v) (changes : Changes) :
    v.after changes = v := by
  induction changes with
  | nil => rfl
  | cons c rest ih => rw [after_cons, h, ih]

@[simp] theorem after_pending (changes : Changes) : pending.after changes = pending :=
  after_of_fixed (fun _ => rfl) changes

/-- A list of texts that no other look-up comes to stays as it is. -/
theorem after_ofTexts (ts : List Text) (changes : Changes) :
    (ofTexts ts).after changes = ofTexts ts := by
  refine after_of_fixed (fun c => ?_) changes
  rw [ofTexts, changed, if_neg (by simp), changedItems_eq_map, List.map_map]
  rfl

theorem after_computed (v : Value) (changes : Changes) :
    (computed v).after changes = computed (v.after changes) := by
  induction changes generalizing v with
  | nil => rfl
  | cons c rest ih => exact ih _

end Value

end Scaffold
