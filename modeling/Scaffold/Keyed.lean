import Scaffold.Text

/-!
Tables whose entries have an order. A key that is inserted again keeps its place and gets the new
value; other keys go to the end.
-/

namespace Scaffold

/-- Values under keys, in the order in which the keys were first inserted. -/
abbrev Keyed (κ α : Type) := List (κ × α)

/-- Values under names. -/
abbrev Entries (α : Type) := Keyed Text α

namespace Keyed

variable {κ α : Type} [DecidableEq κ]

/-- The value of a key. -/
def get? (entries : Keyed κ α) (key : κ) : Option α :=
  match entries with
  | [] => none
  | (k, value) :: rest => if k = key then some value else get? rest key

/-- The entries with `key` set to `value`. -/
def insert (entries : Keyed κ α) (key : κ) (value : α) : Keyed κ α :=
  match entries with
  | [] => [(key, value)]
  | (k, old) :: rest => if k = key then (key, value) :: rest else (k, old) :: insert rest key value

/-- The keys in their order. -/
def keys (entries : Keyed κ α) : List κ := entries.map Prod.fst

/-- The entries of a table after those of `later` have been inserted into it one by one. -/
def update (entries later : Keyed κ α) : Keyed κ α :=
  later.foldl (fun result entry => result.insert entry.1 entry.2) entries

@[simp] theorem get?_nil (key : κ) : get? ([] : Keyed κ α) key = none := rfl

theorem get?_cons (entry : κ × α) (rest : Keyed κ α) (key : κ) :
    get? (entry :: rest) key = if entry.1 = key then some entry.2 else get? rest key := rfl

@[simp] theorem insert_nil (key : κ) (value : α) : insert [] key value = [(key, value)] := rfl

theorem insert_cons (entry : κ × α) (rest : Keyed κ α) (key : κ) (value : α) :
    insert (entry :: rest) key value =
      if entry.1 = key then (key, value) :: rest else entry :: insert rest key value := rfl

theorem mem_keys_of_get? {entries : Keyed κ α} {key : κ} {a : α}
    (h : entries.get? key = some a) : key ∈ entries.keys := by
  induction entries with
  | nil => simp at h
  | cons entry rest ih =>
      by_cases hkey : entry.1 = key
      · simp [keys, hkey]
      · have : key ∈ keys rest := ih (by simpa [get?_cons, hkey] using h)
        simp only [keys] at this ⊢
        exact List.mem_cons_of_mem _ this

theorem mem_of_get? {entries : Keyed κ α} {key : κ} {a : α} (h : entries.get? key = some a) :
    (key, a) ∈ entries := by
  induction entries with
  | nil => simp at h
  | cons entry rest ih =>
      by_cases hkey : entry.1 = key
      · have hvalue : entry.2 = a := by simpa [get?_cons, hkey] using h
        simp [← hkey, ← hvalue]
      · exact List.mem_cons_of_mem _ (ih (by simpa [get?_cons, hkey] using h))

theorem get?_insert (entries : Keyed κ α) (key other : κ) (value : α) :
    (entries.insert key value).get? other =
      if other = key then some value else entries.get? other := by
  induction entries with
  | nil => simp [get?_cons, eq_comm]
  | cons entry rest ih =>
      rw [insert_cons]
      split
      · by_cases h : other = key <;> simp_all [get?_cons, eq_comm]
      · by_cases h : other = key <;> simp_all [get?_cons]

theorem mem_insert {entries : Keyed κ α} {key : κ} {value : α} {entry : κ × α}
    (h : entry ∈ entries.insert key value) : entry = (key, value) ∨ entry ∈ entries := by
  induction entries with
  | nil => simpa using h
  | cons head rest ih =>
      by_cases hkey : head.1 = key
      · rw [insert_cons, if_pos hkey] at h
        rcases List.mem_cons.mp h with rfl | hrest
        · exact Or.inl rfl
        · exact Or.inr (List.mem_cons_of_mem _ hrest)
      · rw [insert_cons, if_neg hkey] at h
        rcases List.mem_cons.mp h with rfl | hrest
        · exact Or.inr List.mem_cons_self
        · exact (ih hrest).imp_right (List.mem_cons_of_mem _)

theorem get?_append (first second : Keyed κ α) (key : κ) :
    get? (first ++ second) key = (first.get? key).or (second.get? key) := by
  induction first with
  | nil => rfl
  | cons entry first ih => by_cases h : entry.1 = key <;> simp_all [get?_cons]

theorem get?_update (entries later : Keyed κ α) (key : κ) :
    (entries.update later).get? key = (get? later.reverse key).or (entries.get? key) := by
  induction later generalizing entries with
  | nil => rfl
  | cons entry later ih =>
      have hfold : entries.update (entry :: later) =
          (entries.insert entry.1 entry.2).update later := rfl
      rw [hfold, ih, List.reverse_cons, get?_append, get?_insert]
      by_cases h : key = entry.1
      · simp [get?_cons, h]
      · simp [get?_cons, h, Ne.symm h]

theorem get?_eq_none_iff {entries : Keyed κ α} {key : κ} :
    entries.get? key = none ↔ key ∉ entries.keys := by
  induction entries with
  | nil => simp [keys]
  | cons entry rest ih =>
      by_cases h : entry.1 = key
      · simp [get?_cons, keys, h]
      · simpa [get?_cons, keys, h, Ne.symm h] using ih

/-- In a table that has each key once the last entry of a key is the first one. -/
theorem get?_reverse {entries : Keyed κ α} (hentries : entries.keys.Nodup) (key : κ) :
    get? entries.reverse key = entries.get? key := by
  induction entries with
  | nil => rfl
  | cons entry rest ih =>
      obtain ⟨hentry, hrest⟩ := List.nodup_cons.mp hentries
      rw [List.reverse_cons, get?_append, ih hrest]
      by_cases h : entry.1 = key
      · have habsent : get? rest key = none := get?_eq_none_iff.mpr (h ▸ hentry)
        simp [get?_cons, h, habsent]
      · simp [get?_cons, h]

theorem keys_insert (entries : Keyed κ α) (key : κ) (value : α) :
    (entries.insert key value).keys =
      if key ∈ entries.keys then entries.keys else entries.keys ++ [key] := by
  induction entries with
  | nil => simp [keys]
  | cons entry rest ih =>
      by_cases h : entry.1 = key
      · simp [insert_cons, keys, h]
      · simp only [keys, insert_cons, if_neg h, List.map_cons, List.mem_cons, Ne.symm h,
          false_or] at ih ⊢
        rw [ih]
        by_cases hrest : key ∈ rest.map Prod.fst <;> simp [hrest]

theorem nodup_keys_insert {entries : Keyed κ α} (hentries : entries.keys.Nodup) (key : κ)
    (value : α) : (entries.insert key value).keys.Nodup := by
  rw [keys_insert]
  split
  · exact hentries
  · rename_i hkey
    exact List.nodup_append.mpr
      ⟨hentries, by simp, by simpa using fun k hk => ne_of_mem_of_not_mem hk hkey⟩

theorem nodup_keys_update {entries : Keyed κ α} (hentries : entries.keys.Nodup)
    (later : Keyed κ α) : (entries.update later).keys.Nodup := by
  unfold update
  induction later generalizing entries with
  | nil => exact hentries
  | cons entry later ih => exact ih (nodup_keys_insert hentries entry.1 entry.2)

end Keyed

end Scaffold
