import Mathlib.Data.List.Nodup
import Scaffold.Flags.Table
import Scaffold.Proofs.Steps

/-!
Tables of flags. Each known key of a table sets one field and no other one, so it does not matter in
which order the entries come. What may depend on the order is only what is reported about a table:
which of its faults, and in which order the keys that are not known.
-/

namespace Scaffold

namespace Keyed

variable {κ α β : Type} [DecidableEq κ]

theorem get?_eq_some_iff {entries : Keyed κ α} (hkeys : entries.keys.Nodup) {key : κ} {a : α} :
    entries.get? key = some a ↔ (key, a) ∈ entries := by
  refine ⟨mem_of_get?, fun hmem => ?_⟩
  induction entries with
  | nil => simp at hmem
  | cons entry rest ih =>
      obtain ⟨hfirst, hrest⟩ := List.nodup_cons.mp hkeys
      rcases List.mem_cons.mp hmem with rfl | hmem
      · exact if_pos rfl
      · have hne : entry.1 ≠ key := by
          rintro rfl
          exact hfirst (List.mem_map.mpr ⟨_, hmem, rfl⟩)
        rw [get?, if_neg hne]
        exact ih hrest hmem

theorem get?_perm {entries entries' : Keyed κ α} (hkeys : entries.keys.Nodup)
    (hperm : entries.Perm entries') (key : κ) : entries'.get? key = entries.get? key := by
  have hkeys' : entries'.keys.Nodup := (hperm.map Prod.fst).nodup_iff.mp hkeys
  refine Option.ext fun a => ?_
  rw [get?_eq_some_iff hkeys, get?_eq_some_iff hkeys', hperm.mem_iff]

/-- If no key comes twice then it does not matter whether the entries of a table are read one after
the other. -/
theorem getD_get?_append {first second : Keyed κ α} (hkeys : (keys (first ++ second)).Nodup)
    (key : κ) (read : α → Option β) (b : β) :
    ((second.get? key).bind read).getD (((first.get? key).bind read).getD b) =
      ((get? (first ++ second) key).bind read).getD b := by
  rw [get?_append]
  cases hfirst : first.get? key with
  | none => rfl
  | some a =>
      rw [keys, List.map_append] at hkeys
      have habsent : second.get? key = none :=
        get?_eq_none_iff.mpr (List.disjoint_of_nodup_append hkeys (mem_keys_of_get? hfirst))
      rw [habsent]
      rfl

end Keyed

namespace Data

/-- The text that a value is. -/
def text? : Data → Option Text
  | text t => some t
  | _ => none

/-- The truth value that a value is. -/
def bool? : Data → Option Bool
  | bool b => some b
  | _ => none

/-- The texts that a value is a list of. -/
def texts? : Data → Option (List Text)
  | list items => items.mapM text?
  | _ => none

/-- The entries of a value, which has some if it is a table. -/
def entries : Data → Entries Data
  | table entries => entries
  | _ => []

/-- The number of which a value is the octal numeral. -/
def octal? (d : Data) : Option Int := d.text?.bind Numeral.octal?

end Data

namespace FileFlags

open Step (bind_of_ok bind_of_error)

/-- What a key of the table of `path` is called in messages. -/
def fieldName (path key : Text) : Text := "file." ++ path ++ "." ++ key

/-- The type that the value of a key must have, for the keys that are known. -/
def expected? (key : Text) : Option DataKind :=
  if key ∈ [("file" : Text), "perm"] then some .text
  else if key ∈ [("create" : Text), "record", "skip", "subst"] then some .bool
  else if key = "skips" then some .list
  else none

/-- What is wrong with an entry of the table of `path`. -/
inductive Faulty (path : Text) : Text × Data → SkeletonFault → Prop where
  | kind {key : Text} {d : Data} {expected : DataKind} (hkey : expected? key = some expected)
      (hd : d.kind ≠ expected) :
      Faulty path (key, d) (.wrongType (fieldName path key) expected d.kind)
  | tag {items : List Data} {item : Data} (hitem : item ∈ items) (hkind : item.kind ≠ .text) :
      Faulty path ("skips", .list items) (.wrongType (fieldName path "skips") .text item.kind)
  | digits {digits : Text} (hdigits : Numeral.octal? digits = none) :
      Faulty path ("perm", .text digits) (.invalidPermission digits)

/-- What is wrong with the table of `path`. -/
inductive FaultyTable (path : Text) : Data → SkeletonFault → Prop where
  | kind {d : Data} (hd : d.kind ≠ .table) : FaultyTable path d (.flagsNotTable path)
  | entry {entries : Entries Data} {entry : Text × Data} {fault : SkeletonFault}
      (hentry : entry ∈ entries) (hfault : Faulty path entry fault) :
      FaultyTable path (.table entries) fault

/-- Flags with what the entries of a table say. Each field has a key of its own. -/
def overlay (flags : FileFlags) (entries : Entries Data) : FileFlags where
  targetPath := ((entries.get? "file").bind Data.text?).getD flags.targetPath
  createOnce := ((entries.get? "create").bind Data.bool?).getD flags.createOnce
  record := ((entries.get? "record").bind Data.bool?).getD flags.record
  skipTags := ((entries.get? "skips").bind Data.texts?).getD flags.skipTags
  forceSkip := ((entries.get? "skip").bind Data.bool?).getD flags.forceSkip
  frames := flags.frames
  substitutes := ((entries.get? "subst").bind Data.bool?).getD flags.substitutes
  permissions := ((entries.get? "perm").bind Data.octal?).getD flags.permissions

/-- The flags that the entries of a table lead to one after the other. -/
def declared (entries : Entries Data) : FileFlags :=
  entries.foldl (fun flags entry => overlay flags [entry]) {}

/-- What is reported about the keys of the table of `path` that are not known. -/
def unknownFields (path : Text) (entries : Entries Data) : List Warning :=
  (entries.keys.filter (expected? · = none)).map fun key => .unknownField (fieldName path key)

section

variable {path : Text} {key : Text} {d : Data} {fault : SkeletonFault} {entry : Text × Data}
  {entries : Entries Data} {flags : FileFlags} {warnings after : List Warning}

theorem faulty_iff :
    Faulty path (key, d) fault ↔
      (∃ expected, expected? key = some expected ∧ d.kind ≠ expected ∧
        fault = .wrongType (fieldName path key) expected d.kind) ∨
      (key = "skips" ∧ ∃ items item, d = .list items ∧ item ∈ items ∧ item.kind ≠ .text ∧
        fault = .wrongType (fieldName path "skips") .text item.kind) ∨
      (key = "perm" ∧ ∃ digits, d = .text digits ∧ Numeral.octal? digits = none ∧
        fault = .invalidPermission digits) := by
  constructor
  · rintro (⟨hkey, hd⟩ | ⟨hitem, hkind⟩ | hdigits)
    · exact .inl ⟨_, hkey, hd, rfl⟩
    · exact .inr (.inl ⟨rfl, _, _, rfl, hitem, hkind, rfl⟩)
    · exact .inr (.inr ⟨rfl, _, rfl, hdigits, rfl⟩)
  · rintro (⟨expected, hkey, hd, rfl⟩ | ⟨rfl, items, item, rfl, hitem, hkind, rfl⟩ |
      ⟨rfl, digits, rfl, hdigits, rfl⟩)
    · exact .kind hkey hd
    · exact .tag hitem hkind
    · exact .digits hdigits

theorem not_faulty_of_unknown (hkey : expected? key = none) : ¬ Faulty path (key, d) fault := by
  rw [faulty_iff]
  rintro (⟨expected, hknown, -⟩ | ⟨rfl, -⟩ | ⟨rfl, -⟩)
  · cases hkey.symm.trans hknown
  · cases hkey
  · cases hkey

/-- A fault of an entry is told with the name of its field, or with the permissions that are no
numeral. -/
theorem Faulty.named (h : Faulty path entry fault) :
    fieldName path entry.1 <+: fault.message ∨
      ∃ digits, entry = (("perm" : Text), .text digits) ∧ fault = .invalidPermission digits := by
  have hfirst : ∀ field a b c d : Text, field <+: field ++ a ++ b ++ c ++ d := by
    intro field a b c d
    simp only [List.append_assoc]
    exact List.prefix_append _ _
  cases h with
  | kind hkey hd => exact .inl (hfirst _ _ _ _ _)
  | tag hitem hkind => exact .inl (hfirst _ _ _ _ _)
  | digits hdigits => exact .inr ⟨_, rfl, rfl⟩

/-- What one entry of a table leads to: the flags with what it says, or one of its faults. -/
inductive Settles (path : Text) (flags : FileFlags) (entry : Text × Data)
    (warnings : List Warning) : EStateM.Result Failure (List Warning) FileFlags → Prop where
  | set (hclean : ∀ fault, ¬ Faulty path entry fault) :
      Settles path flags entry warnings
        (.ok (overlay flags [entry]) (warnings ++ unknownFields path [entry]))
  | refused {fault : SkeletonFault} (hfault : Faulty path entry fault) :
      Settles path flags entry warnings (.error (.skeleton none fault) warnings)

theorem overlay_of_unknown (hkey : expected? key = none) (flags : FileFlags) (d : Data) :
    overlay flags [(key, d)] = flags := by
  have habsent : ∀ known, expected? known ≠ none → Keyed.get? [(key, d)] known = none := by
    intro known hknown
    refine if_neg ?_
    rintro rfl
    exact hknown hkey
  rw [overlay, habsent "file" (by decide), habsent "create" (by decide),
    habsent "record" (by decide), habsent "skips" (by decide), habsent "skip" (by decide),
    habsent "subst" (by decide), habsent "perm" (by decide)]
  rfl

theorem unknownFields_of_known {expected : DataKind} (hkey : expected? key = some expected)
    (d : Data) : unknownFields path [(key, d)] = [] := by
  simp [unknownFields, Keyed.keys, hkey]

theorem settles_of_ok {changed : FileFlags} {expected : DataKind}
    (hkey : expected? key = some expected)
    (hset : setField path flags (key, d) warnings = .ok changed warnings)
    (hchanged : changed = overlay flags [(key, d)])
    (hclean : ∀ fault, ¬ Faulty path (key, d) fault) :
    Settles path flags (key, d) warnings (setField path flags (key, d) warnings) := by
  have hsettles : Settles path flags (key, d) warnings _ := .set hclean
  rw [unknownFields_of_known hkey, List.append_nil, ← hchanged] at hsettles
  rw [hset]
  exact hsettles

theorem settles_of_error (hset : setField path flags (key, d) warnings =
      .error (.skeleton none fault) warnings) (hfault : Faulty path (key, d) fault) :
    Settles path flags (key, d) warnings (setField path flags (key, d) warnings) := by
  rw [hset]
  exact .refused hfault

theorem settles_unknown (hkey : expected? key = none) :
    Settles path flags (key, d) warnings (setField path flags (key, d) warnings) := by
  have hsetter : ∀ field, setter? field key = none := by
    intro field
    grind [expected?, setter?]
  have hset : setField path flags (key, d) warnings =
      .ok flags (warnings ++ [.unknownField (fieldName path key)]) := by
    rw [setField]
    dsimp only
    rw [hsetter]
    rfl
  have hunknown : unknownFields path [(key, d)] = [.unknownField (fieldName path key)] := by
    simp [unknownFields, Keyed.keys, hkey]
  have hsettles : Settles path flags (key, d) warnings _ :=
    .set fun _ => not_faulty_of_unknown hkey
  rw [overlay_of_unknown hkey, hunknown, ← hset] at hsettles
  exact hsettles

/-- A key with a truth value. -/
theorem settles_bool (set : Bool → FileFlags → FileFlags) (hkey : expected? key = some .bool)
    (hsetter : ∀ field, setter? field key =
      some fun d flags => (expectBool field d).map fun b => set b flags)
    (hoverlay : ∀ b, set b flags = overlay flags [(key, .bool b)]) :
    Settles path flags (key, d) warnings (setField path flags (key, d) warnings) := by
  have hset : setField path flags (key, d) warnings =
      (liftM ((expectBool (fieldName path key) d).map fun b => set b flags) :
        Report FileFlags) warnings := by
    rw [setField]
    dsimp only
    rw [hsetter]
    rfl
  cases d with
  | bool b =>
      refine settles_of_ok hkey hset (hoverlay b) fun fault hfault => ?_
      rw [faulty_iff, hkey] at hfault
      simp [Data.kind] at hfault
  | _ => exact settles_of_error hset (.kind hkey (by simp [Data.kind]))

theorem settles_file :
    Settles path flags ("file", d) warnings (setField path flags ("file", d) warnings) := by
  cases d with
  | text t =>
      refine settles_of_ok (show expected? _ = some .text from rfl) rfl rfl fun fault hfault => ?_
      rcases faulty_iff.mp hfault with ⟨_, ⟨⟩, hd, -⟩ | ⟨hkey, -⟩ | ⟨hkey, -⟩
      · exact hd rfl
      · exact absurd hkey (by decide)
      · exact absurd hkey (by decide)
  | _ => exact settles_of_error rfl (.kind rfl (by simp [Data.kind]))

theorem settles_perm :
    Settles path flags ("perm", d) warnings (setField path flags ("perm", d) warnings) := by
  cases d with
  | text digits =>
      have hset : setField path flags ("perm", .text digits) warnings =
          (liftM (Scaffold.permissions digits >>= fun bits =>
            pure { flags with permissions := bits }) : Report FileFlags) warnings := rfl
      have hoverlay : overlay flags [("perm", .text digits)] =
          { flags with permissions := (Numeral.octal? digits).getD flags.permissions } := rfl
      rw [Scaffold.permissions] at hset
      cases hdigits : Numeral.octal? digits with
      | some bits =>
          rw [hdigits] at hset hoverlay
          refine settles_of_ok (show expected? _ = some .text from rfl) hset hoverlay.symm
            fun fault hfault => ?_
          rcases faulty_iff.mp hfault with ⟨_, ⟨⟩, hd, -⟩ | ⟨hkey, -⟩ | ⟨-, _, ⟨⟩, hnone, -⟩
          · exact hd rfl
          · exact absurd hkey (by decide)
          · cases hdigits.symm.trans hnone
      | none =>
          rw [hdigits] at hset
          exact settles_of_error hset (.digits hdigits)
  | _ => exact settles_of_error rfl (.kind rfl (by simp [Data.kind]))

/-- A list is read item by item, up to the first one that is no text. -/
theorem texts_or_wrong (field : Text) (items : List Data) :
    (∃ tags, items.mapM Data.text? = some tags ∧ items.mapM (expectText field) = .ok tags ∧
        ∀ item ∈ items, item.kind = .text) ∨
      ∃ item ∈ items, item.kind ≠ .text ∧
        items.mapM (expectText field) = .error (wrongType field .text item) := by
  induction items with
  | nil => exact .inl ⟨[], rfl, rfl, by simp⟩
  | cons item rest ih =>
      rw [List.mapM_cons, List.mapM_cons]
      cases item with
      | text t =>
          rcases ih with ⟨tags, htags, hread, hkinds⟩ | ⟨item, hitem, hkind, hread⟩
          · refine .inl ⟨t :: tags, ?_, ?_, List.forall_mem_cons.mpr ⟨rfl, hkinds⟩⟩
            · rw [htags]
              rfl
            · rw [hread]
              rfl
          · refine .inr ⟨item, List.mem_cons_of_mem _ hitem, hkind, ?_⟩
            rw [hread]
            rfl
      | _ => exact .inr ⟨_, List.mem_cons_self, by simp [Data.kind], rfl⟩

theorem settles_skips :
    Settles path flags ("skips", d) warnings (setField path flags ("skips", d) warnings) := by
  cases d with
  | list items =>
      have hset : setField path flags ("skips", .list items) warnings =
          (liftM ((items.mapM (expectText (fieldName path "skips"))).map
            fun tags => { flags with skipTags := tags }) : Report FileFlags) warnings := rfl
      rcases texts_or_wrong (fieldName path "skips") items with
        ⟨tags, htags, hread, hkinds⟩ | ⟨item, hitem, hkind, hread⟩
      · rw [hread] at hset
        have hoverlay : overlay flags [("skips", .list items)] =
            { flags with skipTags := (items.mapM Data.text?).getD flags.skipTags } := rfl
        rw [htags] at hoverlay
        refine settles_of_ok (show expected? _ = some .list from rfl) hset hoverlay.symm
          fun fault hfault => ?_
        rcases faulty_iff.mp hfault with ⟨_, ⟨⟩, hd, -⟩ | ⟨-, _, item, ⟨⟩, hitem, hkind, -⟩ |
          ⟨hkey, -⟩
        · exact hd rfl
        · exact hkind (hkinds item hitem)
        · exact absurd hkey (by decide)
      · rw [hread] at hset
        exact settles_of_error hset (.tag hitem hkind)
  | _ => exact settles_of_error rfl (.kind rfl (by simp [Data.kind]))

theorem settles_setField (path : Text) (flags : FileFlags) (entry : Text × Data)
    (warnings : List Warning) :
    Settles path flags entry warnings (setField path flags entry warnings) := by
  obtain ⟨key, d⟩ := entry
  by_cases hfile : key = "file"
  · exact hfile ▸ settles_file
  by_cases hskips : key = "skips"
  · exact hskips ▸ settles_skips
  by_cases hperm : key = "perm"
  · exact hperm ▸ settles_perm
  by_cases hcreate : key = "create"
  · subst hcreate
    exact settles_bool (fun b flags => { flags with createOnce := b }) rfl (fun _ => rfl)
      fun _ => rfl
  by_cases hrecord : key = "record"
  · subst hrecord
    exact settles_bool (fun b flags => { flags with record := b }) rfl (fun _ => rfl)
      fun _ => rfl
  by_cases hskip : key = "skip"
  · subst hskip
    exact settles_bool (fun b flags => { flags with forceSkip := b }) rfl (fun _ => rfl)
      fun _ => rfl
  by_cases hsubst : key = "subst"
  · subst hsubst
    exact settles_bool (fun b flags => { flags with substitutes := b }) rfl (fun _ => rfl)
      fun _ => rfl
  exact settles_unknown (by simp [expected?, *])

theorem overlay_append {first second : Entries Data}
    (hkeys : (Keyed.keys (first ++ second)).Nodup) (flags : FileFlags) :
    overlay (overlay flags first) second = overlay flags (first ++ second) := by
  simp only [overlay, Keyed.getD_get?_append hkeys]

/-- Entries that are read one after the other set the fields of their keys. -/
theorem foldl_overlay (hkeys : entries.keys.Nodup) (flags : FileFlags) :
    entries.foldl (fun flags entry => overlay flags [entry]) flags = overlay flags entries := by
  induction entries generalizing flags with
  | nil => rfl
  | cons entry rest ih =>
      rw [List.foldl_cons, ih (List.nodup_cons.mp hkeys).2, overlay_append hkeys,
        List.singleton_append]

theorem overlay_perm {entries' : Entries Data} (hkeys : entries.keys.Nodup)
    (hperm : entries.Perm entries') (flags : FileFlags) :
    overlay flags entries' = overlay flags entries := by
  simp only [overlay, Keyed.get?_perm hkeys hperm]

theorem unknownFields_append (path : Text) (first second : Entries Data) :
    unknownFields path (first ++ second) =
      unknownFields path first ++ unknownFields path second := by
  simp [unknownFields, Keyed.keys]

theorem unknownFields_perm {entries' : Entries Data} (hperm : entries.Perm entries') :
    (unknownFields path entries).Perm (unknownFields path entries') :=
  ((hperm.map Prod.fst).filter _).map _

/-- The entries of a table are read up to the first one with a fault. -/
theorem foldlM_setField (path : Text) (entries : Entries Data) (flags : FileFlags)
    (warnings : List Warning) :
    ((∀ entry ∈ entries, ∀ fault, ¬ Faulty path entry fault) ∧
      entries.foldlM (setField path) flags warnings =
        .ok (entries.foldl (fun flags entry => overlay flags [entry]) flags)
          (warnings ++ unknownFields path entries)) ∨
      ∃ entry ∈ entries, ∃ fault after, Faulty path entry fault ∧
        entries.foldlM (setField path) flags warnings = .error (.skeleton none fault) after := by
  induction entries generalizing flags warnings with
  | nil => exact .inl ⟨by simp, by rw [unknownFields]; simp [Keyed.keys]; rfl⟩
  | cons entry rest ih =>
      rw [List.foldlM_cons]
      have hsettles := settles_setField path flags entry warnings
      generalize hset : setField path flags entry warnings = result at hsettles
      cases hsettles with
      | refused hfault => exact .inr ⟨entry, by simp, _, _, hfault, bind_of_error hset _⟩
      | set hclean =>
          rw [bind_of_ok hset, List.foldl_cons, ← List.singleton_append, unknownFields_append,
            ← List.append_assoc]
          rcases ih (overlay flags [entry]) (warnings ++ unknownFields path [entry]) with
            ⟨hrest, hread⟩ | ⟨faulty, hmem, fault, after, hfault, hread⟩
          · exact .inl ⟨List.forall_mem_cons.mpr ⟨hclean, hrest⟩, hread⟩
          · exact .inr ⟨faulty, List.mem_cons_of_mem _ hmem, fault, after, hfault, hread⟩

/-- A table is accepted, or refused for one of its faults. -/
theorem ofTable_cases (path : Text) (d : Data) (warnings : List Warning) :
    ((∀ fault, ¬ FaultyTable path d fault) ∧
      ofTable path d warnings =
        .ok (declared d.entries) (warnings ++ unknownFields path d.entries)) ∨
      ∃ fault after, FaultyTable path d fault ∧
        ofTable path d warnings = .error (.skeleton none fault) after := by
  cases d with
  | table entries =>
      rcases foldlM_setField path entries {} warnings with
        ⟨hclean, hread⟩ | ⟨entry, hentry, fault, after, hfault, hread⟩
      · refine .inl ⟨?_, hread⟩
        rintro fault (hd | ⟨hentry, hfault⟩)
        · exact hd rfl
        · exact hclean _ hentry _ hfault
      · exact .inr ⟨fault, after, .entry hentry hfault, hread⟩
  | _ => exact .inr ⟨_, _, .kind (by simp [Data.kind]), rfl⟩

theorem ofTable_eq_ok_iff :
    ofTable path d warnings = .ok flags after ↔
      (∀ fault, ¬ FaultyTable path d fault) ∧ flags = declared d.entries ∧
        after = warnings ++ unknownFields path d.entries := by
  rcases ofTable_cases path d warnings with ⟨hclean, hread⟩ | ⟨fault, _, hfault, hread⟩
  · rw [hread, EStateM.Result.ok.injEq, eq_comm, eq_comm (a := after)]
    exact ⟨fun h => ⟨hclean, h⟩, fun h => h.2⟩
  · rw [hread]
    exact ⟨nofun, fun h => absurd hfault (h.1 fault)⟩

theorem faulty_of_ofTable_eq_error {failure : Failure}
    (hread : ofTable path d warnings = .error failure after) :
    ∃ fault, FaultyTable path d fault ∧ failure = .skeleton none fault := by
  rcases ofTable_cases path d warnings with ⟨-, hok⟩ | ⟨fault, _, hfault, herror⟩
  · cases hok.symm.trans hread
  · cases herror.symm.trans hread
    exact ⟨fault, hfault, rfl⟩

theorem exists_ofTable_eq_ok_iff :
    (∃ flags after, ofTable path d warnings = .ok flags after) ↔
      ∀ fault, ¬ FaultyTable path d fault := by
  constructor
  · rintro ⟨flags, after, hread⟩
    exact (ofTable_eq_ok_iff.mp hread).1
  · intro hclean
    exact ⟨_, _, ofTable_eq_ok_iff.mpr ⟨hclean, rfl, rfl⟩⟩

theorem exists_ofTable_eq_error_iff :
    (∃ failure after, ofTable path d warnings = .error failure after) ↔
      ∃ fault, FaultyTable path d fault := by
  constructor
  · rintro ⟨failure, after, hread⟩
    obtain ⟨fault, hfault, -⟩ := faulty_of_ofTable_eq_error hread
    exact ⟨fault, hfault⟩
  · rintro ⟨fault, hfault⟩
    rcases ofTable_cases path d warnings with ⟨hclean, -⟩ | ⟨_, _, -, hread⟩
    · exact absurd hfault (hclean fault)
    · exact ⟨_, _, hread⟩

theorem faultyTable_table_iff :
    FaultyTable path (.table entries) fault ↔ ∃ entry ∈ entries, Faulty path entry fault := by
  constructor
  · rintro (hd | ⟨hentry, hfault⟩)
    · exact absurd rfl hd
    · exact ⟨_, hentry, hfault⟩
  · rintro ⟨entry, hentry, hfault⟩
    exact .entry hentry hfault

theorem faulty_perm {entries' : Entries Data} (hperm : entries.Perm entries') :
    FaultyTable path (.table entries) fault ↔ FaultyTable path (.table entries') fault := by
  simp only [faultyTable_table_iff, hperm.mem_iff]

theorem declared_perm {entries' : Entries Data} (hkeys : entries.keys.Nodup)
    (hperm : entries.Perm entries') : declared entries' = declared entries := by
  have hkeys' : entries'.keys.Nodup := (hperm.map Prod.fst).nodup_iff.mp hkeys
  rw [declared, declared, foldl_overlay hkeys, foldl_overlay hkeys', overlay_perm hkeys hperm]

/-- Two values are the same, or they are one table in two orders. -/
inductive Reorders : Data → Data → Prop where
  | same (d : Data) : Reorders d d
  | table {entries entries' : Entries Data} (hkeys : entries.keys.Nodup)
      (hperm : entries.Perm entries') : Reorders (.table entries) (.table entries')

theorem Reorders.faultyTable_iff {d' : Data} (h : Reorders d d') :
    FaultyTable path d fault ↔ FaultyTable path d' fault := by
  cases h with
  | same => rfl
  | table hkeys hperm => exact faulty_perm hperm

theorem Reorders.declared_eq {d' : Data} (h : Reorders d d') :
    declared d'.entries = declared d.entries := by
  cases h with
  | same => rfl
  | table hkeys hperm => exact declared_perm hkeys hperm

end

end FileFlags

end Scaffold
