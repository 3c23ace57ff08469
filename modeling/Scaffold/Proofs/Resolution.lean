import Scaffold.Proofs.FileLists
import Scaffold.Proofs.Steps
import Scaffold.Skeleton.Catalog

/-!
Resolution of inheritance. Looking up a name follows the walk from the name over the skeletons that
are inherited. The look-up fails exactly if the walk comes to a name that the catalog does not have
or to one of its own names; otherwise the walk ends at a root, and the result has of every file and
of all flags the nearest ones of the walk and the fragments of all of it, those of the root first.
-/

namespace Scaffold

namespace Skeleton

/-- The fragments of skeletons, the root first, as one text with a line break between each two. If
the root and its child have none, an empty text stands for theirs in front of the others. -/
def joinedFragments : List Skeleton → Text
  | root :: child :: rest =>
      let fragments := (root :: child :: rest).flatMap Skeleton.fragments
      let lead : Text :=
        if root.fragments = [] ∧ child.fragments = [] ∧ fragments ≠ [] then "\n" else []
      lead ++ Text.join "\n" fragments
  | _ => []

theorem joinedFragments_pair (root child : Skeleton) :
    joinedFragments [root, child] = Text.join "\n" (root.fragments ++ child.fragments) := by
  have hlead : ¬ (root.fragments = [] ∧ child.fragments = [] ∧
      root.fragments ++ child.fragments ≠ []) := by
    rintro ⟨hroot, hchild, hne⟩
    exact hne (by rw [hroot, hchild, List.nil_append])
  simp only [joinedFragments, List.flatMap_cons, List.flatMap_nil, List.append_nil, if_neg hlead,
    List.nil_append]

theorem joinedFragments_concat (root child own : Skeleton) (rest : List Skeleton) :
    joinedFragments (root :: child :: (rest ++ [own])) =
      Text.join "\n" (joinedFragments (root :: child :: rest) :: own.fragments) := by
  have hall : (root :: child :: (rest ++ [own])).flatMap Skeleton.fragments =
      (root :: child :: rest).flatMap Skeleton.fragments ++ own.fragments := by simp
  simp only [joinedFragments, hall]
  generalize hbefore : (root :: child :: rest).flatMap Skeleton.fragments = before
  by_cases hown : own.fragments = []
  · simp [hown]
  · rw [Text.join_cons_of_ne_nil _ _ hown]
    by_cases hempty : before = []
    · have hfirst : root.fragments = [] ∧ child.fragments = [] := by
        simp only [List.flatMap_cons, hempty, List.append_eq_nil_iff] at hbefore
        exact ⟨hbefore.1, hbefore.2.1⟩
      simp [hempty, hown, hfirst]
    · rw [Text.join_append _ hempty hown]
      simp [hempty]

example :
    joinedFragments [{ name := "a" }, { name := "b" }, { name := "c", fragments := ["x"] }] =
      ("\nx" : Text) := by
  decide

end Skeleton

namespace Catalog

/-- The walk from a name to `last`: each skeleton on it inherits from the one of the next name. The
names that were left behind are listed. -/
inductive Walk (catalog : Catalog) : Text → List Text → Text → Prop
  | here (name : Text) : Walk catalog name [] name
  | step {name parent last : Text} {names : List Text} {own : Skeleton}
      (hown : catalog.get? name = some own) (hinherits : own.inherits = some parent)
      (hrest : Walk catalog parent names last) : Walk catalog name (name :: names) last

/-- The skeletons from the one of a name up to its root. -/
inductive Lineage (catalog : Catalog) : Text → List Skeleton → Prop
  | root {name : Text} {own : Skeleton} (hown : catalog.get? name = some own)
      (hroot : own.inherits = none) : Lineage catalog name [own]
  | child {name parent : Text} {own : Skeleton} {ancestors : List Skeleton}
      (hown : catalog.get? name = some own) (hinherits : own.inherits = some parent)
      (hancestors : Lineage catalog parent ancestors) : Lineage catalog name (own :: ancestors)

variable {catalog : Catalog} {visited : List Text} {name parent : Text} {own s : Skeleton}

theorem resolve_of_mem (hmem : name ∈ visited) :
    catalog.resolve visited name =
      .error (.skeleton none (.inheritanceCycle (visited ++ [name]))) := by
  rw [resolve, dif_pos hmem]

theorem resolve_of_absent (hmem : name ∉ visited) (hown : catalog.get? name = none) :
    catalog.resolve visited name = .error (.skeleton none (.missingSkeleton name)) := by
  rw [resolve, dif_neg hmem]
  split
  · rfl
  · rename_i own hsome
    rw [hown] at hsome
    cases hsome

theorem resolve_of_root (hmem : name ∉ visited) (hown : catalog.get? name = some own)
    (hroot : own.inherits = none) : catalog.resolve visited name = .ok own := by
  rw [resolve, dif_neg hmem]
  split
  · rename_i hnone
    rw [hown] at hnone
    cases hnone
  · rename_i found hsome
    rw [hown] at hsome
    cases hsome
    simp [hroot]

theorem resolve_of_child (hmem : name ∉ visited) (hown : catalog.get? name = some own)
    (hinherits : own.inherits = some parent) :
    catalog.resolve visited name =
      (catalog.resolve (visited ++ [name]) parent).map (Skeleton.extend name own) := by
  rw [resolve, dif_neg hmem]
  split
  · rename_i hnone
    rw [hown] at hnone
    cases hnone
  · rename_i found hsome
    rw [hown] at hsome
    cases hsome
    simp [hinherits]

theorem resolve_child_eq_error_iff {failure : Failure} (hmem : name ∉ visited)
    (hown : catalog.get? name = some own) (hinherits : own.inherits = some parent) :
    catalog.resolve visited name = .error failure ↔
      catalog.resolve (visited ++ [name]) parent = .error failure := by
  rw [resolve_of_child hmem hown hinherits]
  cases catalog.resolve (visited ++ [name]) parent <;> simp [Except.map]

theorem walk_of_end {names : List Text} {last : Text}
    (hend : ∀ own, catalog.get? name = some own → own.inherits = none) :
    catalog.Walk name names last ↔ names = [] ∧ last = name := by
  constructor
  · intro hwalk
    cases hwalk with
    | here => exact ⟨rfl, rfl⟩
    | step hown hinherits _ => simp [hend _ hown] at hinherits
  · rintro ⟨rfl, rfl⟩
    exact .here last

theorem walk_of_child {names : List Text} {last : Text} (hown : catalog.get? name = some own)
    (hinherits : own.inherits = some parent) :
    catalog.Walk name names last ↔
      (names = [] ∧ last = name) ∨ ∃ rest, names = name :: rest ∧ catalog.Walk parent rest last := by
  constructor
  · intro hwalk
    cases hwalk with
    | here => exact Or.inl ⟨rfl, rfl⟩
    | step hown' hinherits' hrest =>
        obtain rfl := Option.some.inj (hown.symm.trans hown')
        obtain rfl := Option.some.inj (hinherits.symm.trans hinherits')
        exact Or.inr ⟨_, rfl, hrest⟩
  · rintro (⟨rfl, rfl⟩ | ⟨rest, rfl, hrest⟩)
    · exact .here last
    · exact .step hown hinherits hrest

theorem not_mem_of_walk_of_end {names : List Text} {last : Text} (hmem : name ∉ visited)
    (hend : ∀ own, catalog.get? name = some own → own.inherits = none)
    (hwalk : catalog.Walk name names last) : last ∉ visited ++ names := by
  obtain ⟨rfl, rfl⟩ := (walk_of_end hend).mp hwalk
  simpa using hmem

theorem nodup_concat (hvisited : visited.Nodup) (hmem : name ∉ visited) :
    (visited ++ [name]).Nodup :=
  List.nodup_append.mpr
    ⟨hvisited, by simp, by simpa using fun a ha => ne_of_mem_of_not_mem ha hmem⟩

/-- The look-up of a name fails for a missing name exactly if the walk comes to it before it comes to
any name twice. -/
theorem resolve_eq_missing_iff (catalog : Catalog) (visited : List Text) (name missing : Text)
    (hvisited : visited.Nodup) :
    catalog.resolve visited name = .error (.skeleton none (.missingSkeleton missing)) ↔
      ∃ names, catalog.Walk name names missing ∧ (visited ++ (names ++ [missing])).Nodup ∧
        catalog.get? missing = none := by
  induction visited, name using Catalog.resolve.induct catalog with
  | case1 visited name hmem =>
      rw [resolve_of_mem hmem]
      refine iff_of_false (by simp) ?_
      rintro ⟨names, hwalk, hnodup, -⟩
      have hdisjoint := (List.nodup_append.mp hnodup).2.2 name hmem name
      cases hwalk <;> simp at hdisjoint
  | case2 visited name hmem hown =>
      rw [resolve_of_absent hmem hown]
      constructor
      · intro h
        obtain rfl : name = missing := by simpa using h
        exact ⟨[], .here name, nodup_concat hvisited hmem, hown⟩
      · rintro ⟨names, hwalk, -, -⟩
        obtain ⟨-, rfl⟩ := (walk_of_end (by simp [hown])).mp hwalk
        rfl
  | case3 visited name hmem own hown hroot =>
      rw [resolve_of_root hmem hown hroot]
      refine iff_of_false (by simp) ?_
      rintro ⟨names, hwalk, -, hmissing⟩
      obtain ⟨rfl, rfl⟩ := (walk_of_end (by simpa [hown] using hroot)).mp hwalk
      simp [hown] at hmissing
  | case4 visited name hmem own hown parent hinherits ih =>
      rw [resolve_child_eq_error_iff hmem hown hinherits, ih (nodup_concat hvisited hmem)]
      constructor
      · rintro ⟨names, hwalk, hnames, hmissing⟩
        exact ⟨name :: names, .step hown hinherits hwalk, by simpa using hnames, hmissing⟩
      · rintro ⟨names, hwalk, hnames, hmissing⟩
        rcases (walk_of_child hown hinherits).mp hwalk with ⟨rfl, rfl⟩ | ⟨rest, rfl, hrest⟩
        · simp [hown] at hmissing
        · exact ⟨rest, hrest, by simpa using hnames, hmissing⟩

/-- The look-up of a name reports a cycle exactly if the walk comes back to one of its names, and
then lists the walk up to the first such name. -/
theorem resolve_eq_cycle_iff (catalog : Catalog) (visited : List Text) (name : Text)
    (listed : List Text) (hvisited : visited.Nodup) :
    catalog.resolve visited name = .error (.skeleton none (.inheritanceCycle listed)) ↔
      ∃ names last, listed = visited ++ names ++ [last] ∧ catalog.Walk name names last ∧
        (visited ++ names).Nodup ∧ last ∈ visited ++ names := by
  induction visited, name using Catalog.resolve.induct catalog with
  | case1 visited name hmem =>
      rw [resolve_of_mem hmem]
      constructor
      · intro h
        obtain rfl : visited ++ [name] = listed := by simpa using h
        exact ⟨[], name, by simp, .here name, by simpa using hvisited, by simpa using hmem⟩
      · rintro ⟨names, last, rfl, hwalk, hnodup, -⟩
        have hdisjoint := (List.nodup_append.mp hnodup).2.2 name hmem name
        cases hwalk with
        | here => simp
        | step => simp at hdisjoint
  | case2 visited name hmem hown =>
      rw [resolve_of_absent hmem hown]
      refine iff_of_false (by simp) ?_
      rintro ⟨names, last, -, hwalk, -, hlast⟩
      exact not_mem_of_walk_of_end hmem (by simp [hown]) hwalk hlast
  | case3 visited name hmem own hown hroot =>
      rw [resolve_of_root hmem hown hroot]
      refine iff_of_false (by simp) ?_
      rintro ⟨names, last, -, hwalk, -, hlast⟩
      exact not_mem_of_walk_of_end hmem (by simpa [hown] using hroot) hwalk hlast
  | case4 visited name hmem own hown parent hinherits ih =>
      rw [resolve_child_eq_error_iff hmem hown hinherits, ih (nodup_concat hvisited hmem)]
      constructor
      · rintro ⟨names, last, rfl, hwalk, hnodup, hlast⟩
        exact ⟨name :: names, last, by simp, .step hown hinherits hwalk, by simpa using hnodup,
          by simpa using hlast⟩
      · rintro ⟨names, last, rfl, hwalk, hnodup, hlast⟩
        rcases (walk_of_child hown hinherits).mp hwalk with ⟨rfl, rfl⟩ | ⟨rest, rfl, hrest⟩
        · exact absurd (by simpa using hlast) hmem
        · exact ⟨rest, last, by simp, hrest, by simpa using hnodup, by simpa using hlast⟩

theorem resolve_eq_error {failure : Failure} (h : catalog.resolve visited name = .error failure) :
    (∃ missing, failure = .skeleton none (.missingSkeleton missing)) ∨
      ∃ listed, failure = .skeleton none (.inheritanceCycle listed) := by
  induction visited, name using Catalog.resolve.induct catalog with
  | case1 visited name hmem =>
      rw [resolve_of_mem hmem] at h
      exact Or.inr ⟨_, (Except.error.inj h).symm⟩
  | case2 visited name hmem hown =>
      rw [resolve_of_absent hmem hown] at h
      exact Or.inl ⟨_, (Except.error.inj h).symm⟩
  | case3 visited name hmem own hown hroot =>
      rw [resolve_of_root hmem hown hroot] at h
      cases h
  | case4 visited name hmem own hown parent hinherits ih =>
      exact ih ((resolve_child_eq_error_iff hmem hown hinherits).mp h)

theorem not_mem_of_resolve_eq_ok (h : catalog.resolve visited name = .ok s) : name ∉ visited := by
  intro hmem
  rw [resolve_of_mem hmem] at h
  cases h

theorem eq_of_resolve_root (hown : catalog.get? name = some own) (hroot : own.inherits = none)
    (h : catalog.resolve visited name = .ok s) : s = own := by
  rw [resolve_of_root (not_mem_of_resolve_eq_ok h) hown hroot] at h
  exact (Except.ok.inj h).symm

theorem exists_of_resolve_child (hown : catalog.get? name = some own)
    (hinherits : own.inherits = some parent) (h : catalog.resolve visited name = .ok s) :
    ∃ inherited, catalog.resolve (visited ++ [name]) parent = .ok inherited ∧
      s = Skeleton.extend name own inherited := by
  rw [resolve_of_child (not_mem_of_resolve_eq_ok h) hown hinherits] at h
  obtain ⟨inherited, hparent, hextend⟩ := Step.map_eq_ok_iff.mp h
  exact ⟨inherited, hparent, hextend.symm⟩

/-- What a look-up resolves has a lineage up to a root. -/
theorem exists_lineage (h : catalog.resolve visited name = .ok s) :
    ∃ lineage, catalog.Lineage name lineage := by
  induction visited, name using Catalog.resolve.induct catalog generalizing s with
  | case1 visited name hmem => exact absurd hmem (not_mem_of_resolve_eq_ok h)
  | case2 visited name hmem hown =>
      rw [resolve_of_absent hmem hown] at h
      cases h
  | case3 visited name hmem own hown hroot => exact ⟨[own], .root hown hroot⟩
  | case4 visited name hmem own hown parent hinherits ih =>
      obtain ⟨inherited, hparent, -⟩ := exists_of_resolve_child hown hinherits h
      obtain ⟨ancestors, hancestors⟩ := ih hparent
      exact ⟨own :: ancestors, .child hown hinherits hancestors⟩

/-- What holds of the skeletons of a catalog, and of a skeleton that extends one of which it holds,
holds of what is resolved. -/
theorem resolve_induction {P : Skeleton → Prop} (hown : ∀ entry ∈ catalog, P entry.2)
    (hextend : ∀ name own parent, P own → P parent → P (Skeleton.extend name own parent))
    (h : catalog.resolve visited name = .ok s) : P s := by
  obtain ⟨lineage, hlineage⟩ := exists_lineage h
  induction hlineage generalizing visited s with
  | root hget hroot =>
      rw [eq_of_resolve_root hget hroot h]
      exact hown _ (Keyed.mem_of_get? hget)
  | child hget hinherits _ ih =>
      obtain ⟨inherited, hparent, rfl⟩ := exists_of_resolve_child hget hinherits h
      exact hextend _ _ _ (hown _ (Keyed.mem_of_get? hget)) (ih hparent)

theorem inherits_of_lookup (h : catalog.lookup name = .ok s) : s.inherits = none := by
  obtain ⟨lineage, hlineage⟩ := exists_lineage h
  cases hlineage with
  | root hget hroot =>
      rw [eq_of_resolve_root hget hroot h]
      exact hroot
  | child hget hinherits _ =>
      obtain ⟨inherited, -, rfl⟩ := exists_of_resolve_child hget hinherits h
      rfl

namespace Lineage

variable {lineage : List Skeleton}

/-- The files of a resolved skeleton are those of the nearest skeletons that have them. -/
theorem files (hlineage : catalog.Lineage name lineage)
    (hfiles : ∀ own ∈ lineage, Skeleton.Ascending own.files)
    (h : catalog.resolve visited name = .ok s) :
    Skeleton.Ascending s.files ∧
      ∀ path, Skeleton.fileAt? s.files path =
        lineage.findSome? fun own => Skeleton.fileAt? own.files path := by
  induction hlineage generalizing visited s with
  | root hown hroot =>
      rw [eq_of_resolve_root hown hroot h]
      refine ⟨hfiles _ (by simp), fun path => ?_⟩
      simp
  | @child name parent own ancestors hown hinherits hancestors ih =>
      obtain ⟨inherited, hparent, rfl⟩ := exists_of_resolve_child hown hinherits h
      have hfirst : Skeleton.Ascending own.files := hfiles own (by simp)
      obtain ⟨hascending, hlookup⟩ := ih (fun own hmem => hfiles own (by simp [hmem])) hparent
      refine ⟨Skeleton.ascending_mergeFiles hfirst hascending, fun path => ?_⟩
      have hmerge := Skeleton.fileAt?_mergeFiles hfirst hascending path
      rw [Skeleton.extend, hmerge, hlookup, List.findSome?_cons]
      cases Skeleton.fileAt? own.files path <;> rfl

/-- The flags of a resolved skeleton are those of the nearest skeletons that declare them. -/
theorem flags (hlineage : catalog.Lineage name lineage)
    (hflags : ∀ own ∈ lineage, own.flags.keys.Nodup)
    (h : catalog.resolve visited name = .ok s) :
    s.flags.keys.Nodup ∧
      ∀ path, s.flags.get? path = lineage.findSome? fun own => own.flags.get? path := by
  induction hlineage generalizing visited s with
  | root hown hroot =>
      rw [eq_of_resolve_root hown hroot h]
      refine ⟨hflags _ (by simp), fun path => ?_⟩
      simp
  | @child name parent own ancestors hown hinherits hancestors ih =>
      obtain ⟨inherited, hparent, rfl⟩ := exists_of_resolve_child hown hinherits h
      have hfirst : own.flags.keys.Nodup := hflags own (by simp)
      obtain ⟨hnodup, hlookup⟩ := ih (fun own hmem => hflags own (by simp [hmem])) hparent
      refine ⟨Keyed.nodup_keys_update hnodup own.flags, fun path => ?_⟩
      rw [Skeleton.extend, Keyed.get?_update, Keyed.get?_reverse hfirst, hlookup,
        List.findSome?_cons]
      cases own.flags.get? path <;> rfl

/-- The fragments of a resolved skeleton that inherits are those of its lineage. -/
theorem fragments (hlineage : catalog.Lineage name lineage)
    (h : catalog.resolve visited name = .ok s) :
    lineage = [s] ∨
      ∃ root child rest, lineage.reverse = root :: child :: rest ∧
        s.fragments = [Skeleton.joinedFragments (root :: child :: rest)] := by
  induction hlineage generalizing visited s with
  | root hown hroot =>
      rw [eq_of_resolve_root hown hroot h]
      exact Or.inl rfl
  | @child name parent own ancestors hown hinherits hancestors ih =>
      obtain ⟨inherited, hparent, rfl⟩ := exists_of_resolve_child hown hinherits h
      refine Or.inr ?_
      rcases ih hparent with rfl | ⟨root, child, rest, hreverse, hfragments⟩
      · exact ⟨inherited, own, [], rfl, by rw [Skeleton.joinedFragments_pair]; rfl⟩
      · refine ⟨root, child, rest ++ [own], by simp [hreverse], ?_⟩
        change [Text.join "\n" (inherited.fragments ++ own.fragments)] = _
        rw [Skeleton.joinedFragments_concat, hfragments, List.singleton_append]

end Lineage

/-- What the look-up of a name gives for a lineage of at least two skeletons: the nearest files, if
all lists of files are ascending, the nearest flags, as flags are tables without repeated keys, and
the fragments of all. -/
structure Nearest (name : Text) (lineage : List Skeleton) (s : Skeleton) : Prop where
  name_eq : s.name = name
  inherits_eq : s.inherits = none
  builtin_eq : s.builtin = false
  files : (∀ own ∈ lineage, Skeleton.Ascending own.files) →
    Skeleton.Ascending s.files ∧
      ∀ path, Skeleton.fileAt? s.files path =
        lineage.findSome? fun own => Skeleton.fileAt? own.files path
  flags : (∀ own ∈ lineage, own.flags.keys.Nodup) →
    s.flags.keys.Nodup ∧
      ∀ path, s.flags.get? path = lineage.findSome? fun own => own.flags.get? path
  fragments : s.fragments = [Skeleton.joinedFragments lineage.reverse]

theorem Lineage.nearest {lineage : List Skeleton} (hlineage : catalog.Lineage name lineage)
    (h : catalog.resolve visited name = .ok s) :
    lineage = [s] ∨ 2 ≤ lineage.length ∧ Nearest name lineage s := by
  rcases hlineage.fragments h with hroot | ⟨root, child, rest, hreverse, hfragments⟩
  · exact Or.inl hroot
  · have hlength : 2 ≤ lineage.length := by
      rw [← List.length_reverse, hreverse, List.length_cons, List.length_cons]
      omega
    cases hlineage with
    | root => simp at hreverse
    | child hown hinherits hancestors =>
        obtain ⟨inherited, -, rfl⟩ := exists_of_resolve_child hown hinherits h
        have hlineage := Lineage.child hown hinherits hancestors
        refine Or.inr ⟨hlength, rfl, rfl, rfl, fun hfiles => hlineage.files hfiles h,
          fun hflags => hlineage.flags hflags h, ?_⟩
        rw [hreverse, hfragments]

/-- A look-up finds what is nearest on the walk of inheritance, and it always ends: the walk comes to
a name that is missing, or back to one of its names, or to a root, which alone is found as it is. -/
theorem lookup_nearest (catalog : Catalog) (name : Text) :
    (∀ missing, catalog.lookup name = .error (.skeleton none (.missingSkeleton missing)) ↔
      ∃ names, catalog.Walk name names missing ∧ (names ++ [missing]).Nodup ∧
        catalog.get? missing = none) ∧
    (∀ listed, catalog.lookup name = .error (.skeleton none (.inheritanceCycle listed)) ↔
      ∃ names last, listed = names ++ [last] ∧ catalog.Walk name names last ∧ names.Nodup ∧
        last ∈ names) ∧
    (∀ failure, catalog.lookup name = .error failure →
      (∃ missing, failure = .skeleton none (.missingSkeleton missing)) ∨
        ∃ listed, failure = .skeleton none (.inheritanceCycle listed)) ∧
    (∀ s, catalog.lookup name = .ok s →
      ∃ lineage, catalog.Lineage name lineage ∧
        (lineage = [s] ∨ 2 ≤ lineage.length ∧ Nearest name lineage s)) := by
  refine ⟨fun missing => ?_, fun listed => ?_, fun failure h => resolve_eq_error h, ?_⟩
  · exact resolve_eq_missing_iff catalog [] name missing .nil
  · exact resolve_eq_cycle_iff catalog [] name listed .nil
  · intro s h
    obtain ⟨lineage, hlineage⟩ := exists_lineage h
    exact ⟨lineage, hlineage, hlineage.nearest h⟩

end Catalog

end Scaffold
