import Scaffold.Proofs.FlagTables

/-!
The flags that a manifest declares. They are accepted if there is nothing wrong with the table of any
path, and what is declared for a path depends on the table of that path alone.
-/

namespace Scaffold.FileFlags

open Step (bind_of_ok bind_of_error)

/-- What is wrong with the tables of flags in a manifest. -/
inductive FaultyManifest (manifest : Entries Data) : SkeletonFault → Prop where
  | kind {d : Data} (hfile : manifest.get? "file" = some d) (hd : d.kind ≠ .table) :
      FaultyManifest manifest .filesNotTable
  | table {files : Entries Data} {entry : Text × Data} {fault : SkeletonFault}
      (hfile : manifest.get? "file" = some (.table files)) (hentry : entry ∈ files)
      (hfault : FaultyTable entry.1 entry.2 fault) : FaultyManifest manifest fault

/-- The tables of flags of a manifest by their paths. -/
def files (manifest : Entries Data) : Entries Data :=
  (manifest.get? "file").elim [] Data.entries

/-- Reads the table of one path. -/
def ofEntry (entry : Text × Data) : Report (Text × FileFlags) := do
  return (entry.1, ← ofTable entry.1 entry.2)

variable {path : Text} {d : Data} {fault : SkeletonFault} {entries : Entries Data}
  {flags : FileFlags} {warnings after : List Warning}

/-- The tables of a manifest are read one after the other up to the first one with a fault. -/
theorem mapM_ofTable (files : Entries Data) (warnings : List Warning) :
    ((∀ entry ∈ files, ∀ fault, ¬ FaultyTable entry.1 entry.2 fault) ∧
      files.mapM ofEntry warnings =
        .ok (files.map fun entry => (entry.1, declared entry.2.entries))
          (warnings ++ files.flatMap fun entry => unknownFields entry.1 entry.2.entries)) ∨
      ∃ entry ∈ files, ∃ fault after, FaultyTable entry.1 entry.2 fault ∧
        files.mapM ofEntry warnings =
          .error (.skeleton none fault) after := by
  induction files generalizing warnings with
  | nil => exact .inl ⟨by simp, by rw [List.flatMap_nil, List.append_nil]; rfl⟩
  | cons entry rest ih =>
      rw [List.mapM_cons, ofEntry, bind_assoc]
      rcases ofTable_cases entry.1 entry.2 warnings with
        ⟨hclean, hread⟩ | ⟨fault, after, hfault, hread⟩
      · rw [bind_of_ok hread, pure_bind]
        rcases ih (warnings ++ unknownFields entry.1 entry.2.entries) with
          ⟨hrest, hread⟩ | ⟨faulty, hmem, fault, after, hfault, hread⟩
        · refine .inl ⟨List.forall_mem_cons.mpr ⟨hclean, hrest⟩, ?_⟩
          rw [bind_of_ok hread, List.flatMap_cons, ← List.append_assoc]
          rfl
        · exact .inr ⟨faulty, List.mem_cons_of_mem _ hmem, fault, after, hfault,
            bind_of_error hread _⟩
      · exact .inr ⟨entry, by simp, fault, after, hfault, bind_of_error hread _⟩

/-- What is reported about a manifest whose flags are accepted. -/
def notes (kind name : Text) (manifest : Entries Data) : List Warning :=
  (if (manifest.get? "files").isSome then [.misnamedTable kind name] else []) ++
    (files manifest).flatMap fun entry => unknownFields entry.1 entry.2.entries

theorem warn_if_then {α : Type} (p : Prop) [Decidable p] (warning : Warning)
    (rest : Unit → Report α) (warnings : List Warning) :
    (if p then warn warning >>= rest else rest ()) warnings =
      rest () (warnings ++ if p then [warning] else []) := by
  split
  · rfl
  · rw [List.append_nil]

/-- A misnamed table is reported before the tables of flags are read. -/
theorem exists_ofManifest_eq (kind name : Text) (manifest : Entries Data)
    (warnings : List Warning) : ∃ early,
    notes kind name manifest =
        early ++ (files manifest).flatMap (fun entry => unknownFields entry.1 entry.2.entries) ∧
      (manifest.get? "file" = none →
        ofManifest kind name manifest warnings = .ok [] (warnings ++ early)) ∧
      (∀ tables, manifest.get? "file" = some (.table tables) →
        ofManifest kind name manifest warnings = tables.mapM ofEntry (warnings ++ early)) ∧
      ∀ d, manifest.get? "file" = some d → d.kind ≠ .table →
        ofManifest kind name manifest warnings =
          .error (.skeleton none .filesNotTable) (warnings ++ early) := by
  refine ⟨_, rfl, fun hfile => ?_, fun tables hfile => ?_, fun d hfile hd => ?_⟩
  · rw [ofManifest, hfile, warn_if_then]
    rfl
  · rw [ofManifest, hfile, warn_if_then]
    rfl
  · rw [ofManifest, hfile, warn_if_then]
    cases d with
    | table tables => exact absurd rfl hd
    | _ => rfl

/-- The flags of a manifest are accepted, or refused for a fault of one of their tables. -/
theorem ofManifest_cases (kind name : Text) (manifest : Entries Data) (warnings : List Warning) :
    ((∀ fault, ¬ FaultyManifest manifest fault) ∧
      ofManifest kind name manifest warnings =
        .ok ((files manifest).map fun entry => (entry.1, declared entry.2.entries))
          (warnings ++ notes kind name manifest)) ∨
      ∃ fault after, FaultyManifest manifest fault ∧
        ofManifest kind name manifest warnings = .error (.skeleton none fault) after := by
  obtain ⟨early, hearly, habsent, hpresent, hkind⟩ :=
    exists_ofManifest_eq kind name manifest warnings
  rw [hearly, ← List.append_assoc]
  cases hfile : manifest.get? "file" with
  | none =>
      have hnone : files manifest = [] := by rw [files, hfile]; rfl
      refine .inl ⟨?_, by rw [habsent hfile, hnone, List.flatMap_nil, List.append_nil]; rfl⟩
      rintro fault (⟨hsome, -⟩ | ⟨hsome, -⟩)
      · cases hfile.symm.trans hsome
      · cases hfile.symm.trans hsome
  | some d =>
      cases d with
      | table tables =>
          have htables : files manifest = tables := by rw [files, hfile]; rfl
          rw [htables, hpresent tables hfile]
          rcases mapM_ofTable tables (warnings ++ early) with
            ⟨hclean, hread⟩ | ⟨entry, hentry, fault, after, hfault, hread⟩
          · refine .inl ⟨?_, hread⟩
            rintro fault (⟨hsome, hd⟩ | ⟨hsome, hentry, hfault⟩)
            · cases hfile.symm.trans hsome
              exact hd rfl
            · cases hfile.symm.trans hsome
              exact hclean _ hentry _ hfault
          · exact .inr ⟨fault, after, .table hfile hentry hfault, hread⟩
      | _ => exact .inr ⟨_, _, .kind hfile nofun, hkind _ hfile nofun⟩

theorem faultyManifest_iff {manifest tables : Entries Data}
    (hfile : manifest.get? "file" = some (.table tables)) :
    FaultyManifest manifest fault ↔ ∃ entry ∈ tables, FaultyTable entry.1 entry.2 fault := by
  constructor
  · rintro (⟨hsome, hd⟩ | ⟨hsome, hentry, hfault⟩)
    · cases hfile.symm.trans hsome
      exact absurd rfl hd
    · cases hfile.symm.trans hsome
      exact ⟨_, hentry, hfault⟩
  · rintro ⟨entry, hentry, hfault⟩
    exact .table hfile hentry hfault

theorem files_of_get? {manifest tables : Entries Data}
    (hfile : manifest.get? "file" = some (.table tables)) : files manifest = tables := by
  rw [files, hfile]
  rfl

theorem exists_ofManifest_eq_ok_iff {kind name : Text} {manifest : Entries Data} :
    (∃ found after, ofManifest kind name manifest warnings = .ok found after) ↔
      ∀ fault, ¬ FaultyManifest manifest fault := by
  rcases ofManifest_cases kind name manifest warnings with
    ⟨hclean, hread⟩ | ⟨fault, after, hfault, hread⟩
  · exact ⟨fun _ => hclean, fun _ => ⟨_, _, hread⟩⟩
  · rw [hread]
    exact ⟨nofun, fun hclean => absurd hfault (hclean fault)⟩

theorem forall_not_faultyManifest_iff {manifest : Entries Data} :
    (∀ fault, ¬ FaultyManifest manifest fault) ↔
      manifest.get? "file" = none ∨ ∃ tables, manifest.get? "file" = some (.table tables) ∧
        ∀ entry ∈ tables, ∀ fault, ¬ FaultyTable entry.1 entry.2 fault := by
  cases hfile : manifest.get? "file" with
  | none =>
      refine ⟨fun _ => .inl rfl, fun _ fault hfault => ?_⟩
      rcases hfault with ⟨hsome, -⟩ | ⟨hsome, -⟩
      · cases hfile.symm.trans hsome
      · cases hfile.symm.trans hsome
  | some d =>
      cases d with
      | table tables =>
          simp only [faultyManifest_iff hfile]
          constructor
          · intro hclean
            exact .inr ⟨tables, rfl, fun entry hentry fault hfault =>
              hclean fault ⟨entry, hentry, hfault⟩⟩
          · rintro (hnone | ⟨_, hsome, hclean⟩) fault ⟨entry, hentry, hfault⟩
            · cases hnone
            · cases hsome
              exact hclean entry hentry fault hfault
      | _ =>
          refine ⟨fun hclean => absurd (.kind hfile nofun) (hclean .filesNotTable), ?_⟩
          rintro (hnone | ⟨_, hsome, -⟩)
          · cases hnone
          · cases hsome

theorem ofManifest_eq_ok {kind name : Text} {manifest : Entries Data} {found : Entries FileFlags}
    (hread : ofManifest kind name manifest warnings = .ok found after) :
    (∀ entry ∈ files manifest, ∀ fault, ¬ FaultyTable entry.1 entry.2 fault) ∧
      found = (files manifest).map fun entry => (entry.1, declared entry.2.entries) := by
  rcases ofManifest_cases kind name manifest warnings with
    ⟨hclean, hok⟩ | ⟨fault, _, -, herror⟩
  · cases hok.symm.trans hread
    refine ⟨fun entry hentry fault hfault => ?_, rfl⟩
    rcases forall_not_faultyManifest_iff.mp hclean with hfile | ⟨tables, hfile, hclean⟩
    · rw [files, hfile] at hentry
      cases hentry
    · rw [files_of_get? hfile] at hentry
      exact hclean entry hentry fault hfault
  · cases herror.symm.trans hread

/-- Tables of flags in two orders, with the entries of each of them in two orders. -/
def Reordered (tables tables' : Entries Data) : Prop :=
  ∃ middle, tables.Perm middle ∧
    List.Forall₂ (fun entry entry' => entry.1 = entry'.1 ∧ Reorders entry.2 entry'.2) middle tables'

section

variable {tables tables' : Entries Data} (h : Reordered tables tables')
include h

theorem Reordered.faulty_iff :
    (∃ entry ∈ tables, FaultyTable entry.1 entry.2 fault) ↔
      ∃ entry ∈ tables', FaultyTable entry.1 entry.2 fault := by
  obtain ⟨middle, hperm, hentries⟩ := h
  simp only [hperm.mem_iff]
  induction hentries generalizing tables with
  | nil => rfl
  | cons hentry hrest ih =>
      obtain ⟨hpath, hreorders⟩ := hentry
      rw [List.exists_mem_cons_iff, List.exists_mem_cons_iff, ih (List.Perm.refl _), hpath,
        hreorders.faultyTable_iff]

theorem Reordered.declared_perm :
    (tables.map fun entry => (entry.1, declared entry.2.entries)).Perm
      (tables'.map fun entry => (entry.1, declared entry.2.entries)) := by
  obtain ⟨middle, hperm, hentries⟩ := h
  refine (hperm.map _).trans (.of_eq ?_)
  induction hentries generalizing tables with
  | nil => rfl
  | cons hentry hrest ih =>
      obtain ⟨hpath, hreorders⟩ := hentry
      rw [List.map_cons, List.map_cons, ih (List.Perm.refl _), hpath, hreorders.declared_eq]

end

/-- The order of a table of flags does not matter. In either order it is accepted unless one of its
entries has a fault; each key that is known sets the field of its own, and each other key is
reported once. The same holds of all the tables of a manifest. -/
theorem tables_unordered (path : Text) {entries entries' : Entries Data}
    (hkeys : entries.keys.Nodup) (hperm : entries.Perm entries') (warnings : List Warning) :
    ((∃ flags after, ofTable path (.table entries) warnings = .ok flags after) ↔
      ∃ flags after, ofTable path (.table entries') warnings = .ok flags after) ∧
    ((∃ failure after, ofTable path (.table entries) warnings = .error failure after) ↔
      ∃ entry ∈ entries, ∃ fault, Faulty path entry fault) ∧
    (∀ flags after, ofTable path (.table entries) warnings = .ok flags after →
      flags = overlay {} entries ∧ after = warnings ++ unknownFields path entries ∧
      ∃ after', ofTable path (.table entries') warnings = .ok flags after' ∧ after.Perm after') ∧
    (∀ failure after, ofTable path (.table entries) warnings = .error failure after →
      ∃ entry ∈ entries, ∃ fault, Faulty path entry fault ∧ failure = .skeleton none fault ∧
        (fieldName path entry.1 <+: fault.message ∨
          ∃ digits, entry = (("perm" : Text), .text digits) ∧
            fault = .invalidPermission digits)) ∧
    ∀ kind name manifest,
      ((∃ found after, ofManifest kind name manifest warnings = .ok found after) ↔
        manifest.get? "file" = none ∨
          ∃ tables, manifest.get? "file" = some (.table tables) ∧ ∀ entry ∈ tables,
            ∃ flags after, ofTable entry.1 entry.2 warnings = .ok flags after) ∧
      (∀ found after, ofManifest kind name manifest warnings = .ok found after →
        List.Forall₂ (fun entry declared => declared.1 = entry.1 ∧
          ∃ after, ofTable entry.1 entry.2 warnings = .ok declared.2 after)
          (files manifest) found) ∧
      (∀ failure after, ofManifest kind name manifest warnings = .error failure after →
        ∃ fault, FaultyManifest manifest fault ∧ failure = .skeleton none fault) ∧
      ∀ manifest' tables tables', manifest.get? "file" = some (.table tables) →
        manifest'.get? "file" = some (.table tables') → Reordered tables tables' →
        ((∃ found after, ofManifest kind name manifest warnings = .ok found after) ↔
          ∃ found after, ofManifest kind name manifest' warnings = .ok found after) ∧
        ∀ found after found' after', ofManifest kind name manifest warnings = .ok found after →
          ofManifest kind name manifest' warnings = .ok found' after' → found.Perm found' := by
  refine ⟨?_, ?_, ?_, ?_, fun kind name manifest => ⟨?_, ?_, ?_, ?_⟩⟩
  · simp only [exists_ofTable_eq_ok_iff, faulty_perm hperm]
  · simp only [exists_ofTable_eq_error_iff, faultyTable_table_iff]
    exact ⟨fun ⟨fault, entry, hentry, hfault⟩ => ⟨entry, hentry, fault, hfault⟩,
      fun ⟨entry, hentry, fault, hfault⟩ => ⟨fault, entry, hentry, hfault⟩⟩
  · intro flags after hread
    obtain ⟨hclean, rfl, rfl⟩ := ofTable_eq_ok_iff.mp hread
    refine ⟨foldl_overlay hkeys {}, rfl, _, ofTable_eq_ok_iff.mpr ⟨fun fault => ?_,
      (declared_perm hkeys hperm).symm, rfl⟩, (unknownFields_perm hperm).append_left _⟩
    rw [← faulty_perm hperm]
    exact hclean fault
  · intro failure after hread
    obtain ⟨fault, hfault, rfl⟩ := faulty_of_ofTable_eq_error hread
    obtain ⟨entry, hentry, hfault⟩ := faultyTable_table_iff.mp hfault
    exact ⟨entry, hentry, fault, hfault, rfl, hfault.named⟩
  · rw [exists_ofManifest_eq_ok_iff]
    simp only [exists_ofTable_eq_ok_iff]
    exact forall_not_faultyManifest_iff
  · intro found after hread
    obtain ⟨hclean, rfl⟩ := ofManifest_eq_ok hread
    refine List.forall₂_map_right_iff.mpr (List.forall₂_same.mpr fun entry hentry => ⟨rfl, ?_⟩)
    exact ⟨_, ofTable_eq_ok_iff.mpr ⟨hclean entry hentry, rfl, rfl⟩⟩
  · intro failure after hread
    rcases ofManifest_cases kind name manifest warnings with
      ⟨-, hok⟩ | ⟨fault, _, hfault, herror⟩
    · cases hok.symm.trans hread
    · cases herror.symm.trans hread
      exact ⟨fault, hfault, rfl⟩
  · intro manifest' tables tables' hfile hfile' hreordered
    refine ⟨?_, fun found after found' after' hread hread' => ?_⟩
    · simp only [exists_ofManifest_eq_ok_iff, faultyManifest_iff hfile,
        faultyManifest_iff hfile', hreordered.faulty_iff]
    · obtain ⟨-, rfl⟩ := ofManifest_eq_ok hread
      obtain ⟨-, rfl⟩ := ofManifest_eq_ok hread'
      rw [files_of_get? hfile, files_of_get? hfile']
      exact hreordered.declared_perm

/-- A table with each field but one, and with two keys that are not known. -/
def toolTable : Entries Data :=
  [("colour", .int 3), ("file", .text "tool.sh"), ("create", .bool true), ("record", .bool false),
    ("skips", .list [.text "small", .text "quiet"]), ("paths", .null), ("skip", .bool true),
    ("perm", .text "0755")]

theorem tables_unordered_reverse :
    (toolTable.keys.Nodup ∧ toolTable.Perm toolTable.reverse) ∧
    (∃ after, ofTable "tool" (.table toolTable.reverse) [] =
      .ok { targetPath := "tool.sh", createOnce := true, record := false, forceSkip := true,
            skipTags := ["small", "quiet"], permissions := 493 } after ∧
      [.unknownField "file.tool.colour", .unknownField "file.tool.paths"].Perm after) ∧
    ∃ failure after, ofTable "tool" (.table ((("subst" : Text), Data.null) :: toolTable)) [] =
      .error failure after := by
  have hkeys : toolTable.keys.Nodup := by decide
  have hperm : toolTable.Perm toolTable.reverse := (List.reverse_perm _).symm
  refine ⟨⟨hkeys, hperm⟩, ?_, ?_⟩
  · have hread : ofTable "tool" (.table toolTable) [] =
        .ok { targetPath := "tool.sh", createOnce := true, record := false, forceSkip := true,
              skipTags := ["small", "quiet"], permissions := 493 }
          [.unknownField "file.tool.colour", .unknownField "file.tool.paths"] := by
      decide +kernel
    exact ((tables_unordered "tool" hkeys hperm []).2.2.1 _ _ hread).2.2
  · have hmore : (Keyed.keys ((("subst" : Text), Data.null) :: toolTable)).Nodup := by decide
    refine (tables_unordered "tool" hmore (List.Perm.refl _) []).2.1.mpr
      ⟨("subst", .null), by simp, _, .kind (show expected? _ = some .bool from rfl) ?_⟩
    exact nofun

end Scaffold.FileFlags
