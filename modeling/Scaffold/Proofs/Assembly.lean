import Mathlib.Data.List.Basic
import Mathlib.Data.List.Induction
import Scaffold.Proofs.Failures
import Scaffold.Proofs.Removals
import Scaffold.Proofs.Reports

/-!
How a catalog is put together from the directories of its source. Each directory is loaded without
regard to the others, so one that cannot be loaded costs a warning and nothing else. The names stand
in the order in which they were first declared, each with the skeleton that declared it last.
-/

namespace Scaffold

open Step (Refuses bind_eq_ok_iff lift_eq_ok_iff)

namespace Keyed

variable {κ α : Type} [DecidableEq κ] [BEq κ] [LawfulBEq κ]

theorem keys_update_nil (later : Keyed κ α) : keys (update [] later) = later.keys.eraseDups := by
  induction later using List.reverseRecOn with
  | nil => simp [keys, update]
  | append_singleton later entry ih =>
      have hupdate : update [] (later ++ [entry]) = (update [] later).insert entry.1 entry.2 :=
        List.foldl_append
      rw [hupdate, keys_insert, ih, keys, keys, List.map_append, List.eraseDups_append]
      by_cases hkey : entry.1 ∈ later.map Prod.fst
      · rw [if_pos (by simpa [List.mem_eraseDups] using hkey)]
        simp [List.removeAll, hkey]
      · rw [if_neg (by simpa [List.mem_eraseDups] using hkey)]
        simp [List.removeAll, hkey, List.eraseDups_cons]

end Keyed

theorem Text.sorted_filter (ts : List Text) (keep : Text → Bool) :
    Text.sorted (ts.filter keep) = (Text.sorted ts).filter keep := by
  have hperm : (Text.sorted (ts.filter keep)).Perm ((Text.sorted ts).filter keep) :=
    (Text.perm_sorted _).trans ((Text.perm_sorted ts).symm.filter keep)
  refine hperm.eq_of_pairwise (fun s t _ _ hts hst => ?_) (Text.pairwise_sorted _)
    ((Text.pairwise_sorted ts).filter keep)
  rcases Text.lt_trichotomy s t with h | h | h
  · exact absurd h hst
  · exact h
  · exact absurd h hts

namespace Catalog

namespace Source

/-- Where the manifest of the skeleton in an entry of the directory is. -/
def manifestAt (source : Source) (name : Text) : Location :=
  (source.base.entry name).child Skeleton.manifestName

/-- The names of the entries of the directory, if it is one and they may be listed. -/
def names (source : Source) (d : Disk) : List Text :=
  match d.openDirectory source.base with
  | .ok base => directoryNames d base
  | .error _ => []

/-- Whether an entry of the directory holds a manifest. -/
def holds (source : Source) (d : Disk) (name : Text) : Bool :=
  d.present (source.manifestAt name) = .ok true

/-- The names of the entries that hold a manifest. -/
def visited (source : Source) (d : Disk) : List Text := (source.names d).filter (source.holds d)

/-- What loading the skeleton in an entry comes to. -/
def attempt (source : Source) (d : Disk) (name : Text) : Except Failure Skeleton :=
  Skeleton.attempt d source.kind (source.base.entry name) source.builtin

/-- The skeletons that are loaded from those of some entries that hold a manifest, each after its
entry. -/
def loads (source : Source) (d : Disk) (names : List Text) : Entries Skeleton :=
  (names.filter (source.holds d)).filterMap fun name =>
    match source.attempt d name with
    | .ok s => some (name, s)
    | .error _ => none

/-- The failures to load skeletons from those of some entries that hold a manifest, each after its
entry. -/
def failures (source : Source) (d : Disk) (names : List Text) : Entries Failure :=
  (names.filter (source.holds d)).filterMap fun name =>
    match source.attempt d name with
    | .ok _ => none
    | .error failure => some (name, failure)

/-- There is no directory, or its entries may be listed, and it can be told which of them hold a
manifest. -/
structure Tells (source : Source) (d : Disk) : Prop where
  directory : d.leadsToDirectory source.base = .ok false ∨
    ∃ base, d.openDirectory source.base = .ok base
  manifests : ∀ name ∈ source.names d, ∃ found, d.present (source.manifestAt name) = .ok found

/-- The warning that the skeleton in an entry could not be loaded. -/
def unloadable (source : Source) (entry : Text × Failure) : Warning :=
  .unloadable source.kind (source.base.entry entry.1).toText entry.2

/-- The warning that the skeleton in an entry takes the place of another one. -/
def overwritten (source : Source) (entry : Text × Skeleton) : Warning :=
  .overwritten source.kind entry.2.name (source.base.entry entry.1).toText

end Source

/-- Those of some loads that declare a name which is known or was declared before. -/
def repeated (known : List Text) : Entries Skeleton → Entries Skeleton
  | [] => []
  | (entry, s) :: rest =>
      if s.name ∈ known then (entry, s) :: repeated known rest
      else repeated (known ++ [s.name]) rest

/-- The skeletons of some loads under the names that they declare. -/
def declared (loads : Entries Skeleton) : Entries Skeleton :=
  loads.map fun entry => (entry.2.name, entry.2)

/-- What is reported about loads that take the place of known skeletons or of other loads. -/
def Source.replacements (source : Source) (known : List Text) (loads : Entries Skeleton) :
    List Warning :=
  if source.verbose then (repeated known loads).map source.overwritten else []

/-- What is reported about a catalog while skeletons are loaded from some entries into it. -/
structure Accounts (source : Source) (d : Disk) (catalog : Catalog) (names : List Text)
    (notes : List Warning) : Prop where
  unloadable : notes.filter Warning.isUnloadable = (source.failures d names).map source.unloadable
  overwritten : notes.filter Warning.isOverwritten =
    source.replacements catalog.keys (source.loads d names)

/-- The catalog after skeletons were loaded from some entries into it, and what was reported. -/
def Comes (source : Source) (d : Disk) (catalog : Catalog) (warnings : List Warning)
    (names : List Text) (result : EStateM.Result Failure (List Warning) Catalog) : Prop :=
  ∃ notes, Accounts source d catalog names notes ∧
    result = .ok (catalog.update (declared (source.loads d names))) (warnings ++ notes)

theorem repeated_append (catalog : Catalog) (first second : Entries Skeleton) :
    repeated catalog.keys (first ++ second) =
      repeated catalog.keys first ++
        repeated (Keyed.keys (catalog.update (declared first))) second := by
  induction first generalizing catalog with
  | nil => rfl
  | cons entry rest ih =>
      obtain ⟨name, s⟩ := entry
      have hnext := ih (catalog.insert s.name s)
      rw [Keyed.keys_insert] at hnext
      have hupdate : catalog.update (declared ((name, s) :: rest)) =
          (catalog.insert s.name s).update (declared rest) := rfl
      rw [hupdate, List.cons_append, repeated, repeated]
      split
      · rename_i hknown
        rw [if_pos hknown] at hnext
        rw [hnext, List.cons_append]
      · rename_i hknown
        rw [if_neg hknown] at hnext
        exact hnext

section

variable {d : Disk} {source : Source} {name : Text}

theorem Source.loads_append (source : Source) (d : Disk) (first second : List Text) :
    source.loads d (first ++ second) = source.loads d first ++ source.loads d second := by
  rw [loads, List.filter_append, List.filterMap_append]
  rfl

theorem Source.failures_append (source : Source) (d : Disk) (first second : List Text) :
    source.failures d (first ++ second) =
      source.failures d first ++ source.failures d second := by
  rw [failures, List.filter_append, List.filterMap_append]
  rfl

theorem Source.replacements_nil (source : Source) (known : List Text) :
    source.replacements known [] = [] := by
  unfold replacements
  split <;> rfl

theorem Accounts.append {catalog : Catalog} {first second : List Text} {notes more : List Warning}
    (h : Accounts source d catalog first notes)
    (hmore : Accounts source d (catalog.update (declared (source.loads d first))) second more) :
    Accounts source d catalog (first ++ second) (notes ++ more) := by
  constructor
  · rw [List.filter_append, h.unloadable, hmore.unloadable, Source.failures_append,
      List.map_append]
  · rw [List.filter_append, h.overwritten, hmore.overwritten, Source.loads_append,
      Source.replacements, Source.replacements, Source.replacements, repeated_append]
    split
    · rw [List.map_append]
    · rfl

theorem filter_unrelated {notes : List Warning}
    (h : ∀ w ∈ notes, w.isUnloadable = false ∧ w.isOverwritten = false) :
    notes.filter Warning.isUnloadable = [] ∧ notes.filter Warning.isOverwritten = [] := by
  simp only [List.filter_eq_nil_iff, Bool.not_eq_true]
  exact ⟨fun w hw => (h w hw).1, fun w hw => (h w hw).2⟩

theorem addDirectory_of_load {s : Skeleton} (hfound : d.present (source.manifestAt name) = .ok true)
    (hload : source.attempt d name = .ok s) (catalog : Catalog) (warnings : List Warning) :
    Comes source d catalog warnings [name] (addDirectory d source catalog name warnings) := by
  have hloads : source.loads d [name] = [(name, s)] := by
    simp [Source.loads, Source.holds, hfound, hload]
  have hfailures : source.failures d [name] = [] := by
    simp [Source.failures, Source.holds, hfound, hload]
  have hreplacements : source.replacements catalog.keys [(name, s)] =
      if source.verbose ∧ s.name ∈ catalog.keys then [source.overwritten (name, s)] else [] := by
    by_cases hverbose : source.verbose = true <;> by_cases hknown : s.name ∈ catalog.keys <;>
      simp [Source.replacements, repeated, hverbose, hknown]
  obtain ⟨notes, hnotes, happly⟩ := Skeleton.load_apply d source.kind (source.base.entry name)
    source.builtin warnings
  obtain ⟨hunloadable, hoverwritten⟩ := filter_unrelated hnotes
  rw [← Source.attempt, hload] at happly
  refine ⟨notes ++ source.replacements catalog.keys [(name, s)], ⟨?_, ?_⟩,
    bind_eq_ok_iff.mpr ⟨true, warnings, lift_eq_ok_iff.mpr ⟨hfound, rfl⟩, ?_⟩⟩
  · rw [List.filter_append, hunloadable, hfailures, hreplacements]
    split <;> rfl
  · rw [List.filter_append, hoverwritten, hloads, hreplacements]
    split <;> rfl
  · refine bind_eq_ok_iff.mpr ⟨.error (catalog.insert s.name s),
      warnings ++ notes ++ source.replacements catalog.keys [(name, s)],
      Step.tryCatch_of_ok ?_ _, ?_⟩
    · rw [Step.bind_of_ok happly, hreplacements]
      split
      · rfl
      · rw [List.append_nil]
        rfl
    · rw [hloads, ← List.append_assoc]
      rfl

theorem addDirectory_of_failure {failure : Failure}
    (hfound : d.present (source.manifestAt name) = .ok true)
    (hload : source.attempt d name = .error failure) (catalog : Catalog)
    (warnings : List Warning) :
    Comes source d catalog warnings [name] (addDirectory d source catalog name warnings) := by
  have hloads : source.loads d [name] = [] := by
    simp [Source.loads, Source.holds, hfound, hload]
  have hfailures : source.failures d [name] = [(name, failure)] := by
    simp [Source.failures, Source.holds, hfound, hload]
  obtain ⟨notes, hnotes, happly⟩ := Skeleton.load_apply d source.kind (source.base.entry name)
    source.builtin warnings
  obtain ⟨hunloadable, hoverwritten⟩ := filter_unrelated hnotes
  rw [← Source.attempt, hload] at happly
  refine ⟨notes ++ [source.unloadable (name, failure)], ⟨?_, ?_⟩,
    bind_eq_ok_iff.mpr ⟨true, warnings, lift_eq_ok_iff.mpr ⟨hfound, rfl⟩, ?_⟩⟩
  · rw [List.filter_append, hunloadable, hfailures]
    rfl
  · rw [List.filter_append, hoverwritten, hloads, Source.replacements_nil]
    rfl
  · refine bind_eq_ok_iff.mpr ⟨.error catalog,
      warnings ++ notes ++ [source.unloadable (name, failure)], ?_, ?_⟩
    · rw [Step.tryCatch_apply, Step.bind_of_error happly]
      rfl
    · rw [hloads, ← List.append_assoc]
      rfl

theorem addDirectory_apply (htells : ∃ found, d.present (source.manifestAt name) = .ok found)
    (catalog : Catalog) (warnings : List Warning) :
    Comes source d catalog warnings [name] (addDirectory d source catalog name warnings) := by
  obtain ⟨found, hfound⟩ := htells
  cases found with
  | false =>
      have hloads : source.loads d [name] = [] := by simp [Source.loads, Source.holds, hfound]
      have hfailures : source.failures d [name] = [] := by
        simp [Source.failures, Source.holds, hfound]
      refine ⟨[], ⟨?_, ?_⟩, bind_eq_ok_iff.mpr ⟨false, _, lift_eq_ok_iff.mpr ⟨hfound, rfl⟩, ?_⟩⟩
      · rw [hfailures]
        rfl
      · rw [hloads, Source.replacements_nil]
        rfl
      · rw [hloads, List.append_nil]
        rfl
  | true =>
      cases hload : source.attempt d name with
      | ok s => exact addDirectory_of_load hfound hload catalog warnings
      | error failure => exact addDirectory_of_failure hfound hload catalog warnings

/-- Whatever the entries hold, the skeletons that can be loaded are inserted in their order, and
each of the others costs one warning. -/
theorem addDirectories_apply (names : List Text)
    (htells : ∀ name ∈ names, ∃ found, d.present (source.manifestAt name) = .ok found)
    (catalog : Catalog) (warnings : List Warning) :
    Comes source d catalog warnings names
      (names.foldlM (addDirectory d source) catalog warnings) := by
  induction names generalizing catalog warnings with
  | nil => exact ⟨[], ⟨rfl, (source.replacements_nil _).symm⟩, by rw [List.append_nil]; rfl⟩
  | cons name rest ih =>
      obtain ⟨hname, hrest⟩ := List.forall_mem_cons.mp htells
      obtain ⟨own, haccounts, hadd⟩ := addDirectory_apply hname catalog warnings
      obtain ⟨notes, hlater, happly⟩ := ih hrest _ (warnings ++ own)
      refine ⟨own ++ notes, haccounts.append hlater, ?_⟩
      have hupdate : catalog.update (declared (source.loads d (name :: rest))) =
          (catalog.update (declared (source.loads d [name]))).update
            (declared (source.loads d rest)) := by
        rw [← List.singleton_append, Source.loads_append, declared, List.map_append]
        exact List.foldl_append
      rw [List.foldlM_cons, Step.bind_of_ok hadd, happly, hupdate, List.append_assoc]

theorem Source.names_of_absent (h : d.leadsToDirectory source.base = .ok false) :
    source.names d = [] := by
  unfold names
  split
  · rename_i base hopen
    cases h.symm.trans (Disk.leadsToDirectory_of_openDirectory hopen)
  · rfl

theorem Source.names_of_openDirectory {base : Path} (h : d.openDirectory source.base = .ok base) :
    source.names d = directoryNames d base := by
  rw [names, h]

theorem load_of_absent (h : d.leadsToDirectory source.base = .ok false) (warnings : List Warning) :
    load d source warnings = .ok [] warnings := by
  rw [load, Step.bind_of_ok (lift_eq_ok_iff.mpr ⟨h, rfl⟩)]
  rfl

/-- The entries of a directory that may be listed are taken one after the other. -/
theorem load_of_openDirectory {base : Path} (h : d.openDirectory source.base = .ok base)
    (warnings : List Warning) :
    load d source warnings = (source.names d).foldlM (addDirectory d source) [] warnings := by
  have hleads := Disk.leadsToDirectory_of_openDirectory h
  rw [load, Step.bind_of_ok (lift_eq_ok_iff.mpr ⟨hleads, rfl⟩), if_pos rfl,
    Step.bind_of_ok (lift_eq_ok_iff.mpr ⟨h, rfl⟩), Source.names_of_openDirectory h]

/-- Loading a catalog comes to inserting the skeletons that can be loaded one after the other. -/
theorem comes_of_tells (htells : source.Tells d) (warnings : List Warning) :
    Comes source d [] warnings (source.names d) (load d source warnings) := by
  rcases htells.directory with habsent | ⟨base, hopen⟩
  · rw [Source.names_of_absent habsent, load_of_absent habsent]
    exact ⟨[], ⟨rfl, (source.replacements_nil _).symm⟩, by rw [List.append_nil]; rfl⟩
  · rw [load_of_openDirectory hopen]
    exact addDirectories_apply (source.names d) htells.manifests [] warnings

theorem told_of_addDirectories {names : List Text} {catalog loaded : Catalog}
    {warnings after : List Warning}
    (h : names.foldlM (addDirectory d source) catalog warnings = .ok loaded after) :
    ∀ name ∈ names, ∃ found, d.present (source.manifestAt name) = .ok found := by
  induction names generalizing catalog warnings with
  | nil => simp
  | cons name rest ih =>
      rw [List.foldlM_cons] at h
      obtain ⟨next, middle, hadd, hrest⟩ := bind_eq_ok_iff.mp h
      obtain ⟨found, _, hfound, -⟩ := bind_eq_ok_iff.mp hadd
      exact List.forall_mem_cons.mpr ⟨⟨found, (lift_eq_ok_iff.mp hfound).1⟩, ih hrest⟩

theorem tells_of_load {catalog : Catalog} {warnings after : List Warning}
    (h : load d source warnings = .ok catalog after) : source.Tells d := by
  obtain ⟨leads, _, hlift, hload⟩ := bind_eq_ok_iff.mp h
  obtain ⟨hleads, rfl⟩ := lift_eq_ok_iff.mp hlift
  cases leads with
  | false => exact ⟨.inl hleads, by simp [Source.names_of_absent hleads]⟩
  | true =>
      rw [if_pos rfl] at hload
      obtain ⟨base, _, hopen, -⟩ := bind_eq_ok_iff.mp hload
      have hopen := (lift_eq_ok_iff.mp hopen).1
      rw [load_of_openDirectory hopen] at h
      exact ⟨.inr ⟨base, hopen⟩, told_of_addDirectories h⟩

/-- The first entry of which it cannot be told whether it holds a manifest ends the loading. -/
theorem load_of_untold {base : Path} {before rest : List Text} {catalog : Catalog}
    {warnings middle : List Warning} {failure : Failure}
    (hopen : d.openDirectory source.base = .ok base)
    (hnames : source.names d = before ++ name :: rest)
    (hbefore : before.foldlM (addDirectory d source) [] warnings = .ok catalog middle)
    (hname : d.present (source.manifestAt name) = .error failure) :
    load d source warnings = .error failure middle := by
  rw [load_of_openDirectory hopen, hnames, List.foldlM_append, Step.bind_of_ok hbefore,
    List.foldlM_cons]
  refine Step.bind_of_error ?_ _
  exact Step.bind_of_error (Step.lift_eq_error_iff.mpr ⟨hname, rfl⟩) _

/-- A catalog is loaded if and only if what is asked before loading its skeletons can be told. -/
theorem exists_load_iff_tells (warnings : List Warning) :
    (∃ catalog after, load d source warnings = .ok catalog after) ↔ source.Tells d := by
  constructor
  · rintro ⟨catalog, after, h⟩
    exact tells_of_load h
  · intro htells
    obtain ⟨notes, -, happly⟩ := comes_of_tells htells warnings
    exact ⟨_, _, happly⟩

theorem tells_of_names {base : Path} {names : List Text}
    (hopen : d.openDirectory source.base = .ok base) (hnames : source.names d = names)
    (hpresent : ∀ name ∈ names, d.present (source.manifestAt name) = .ok true) : source.Tells d := by
  refine ⟨.inr ⟨base, hopen⟩, fun name hname => ⟨true, hpresent name ?_⟩⟩
  rwa [← hnames]

/-- Loading a catalog from entries that all hold a manifest. -/
theorem exists_load_of_names {base : Path} {names : List Text} {catalog : Catalog}
    (hopen : d.openDirectory source.base = .ok base) (hnames : source.names d = names)
    (hpresent : ∀ name ∈ names, d.present (source.manifestAt name) = .ok true)
    (hcatalog : Keyed.update [] (declared (source.loads d names)) = catalog) :
    ∃ notes, load d source [] = .ok catalog notes := by
  obtain ⟨notes, -, happly⟩ := comes_of_tells (tells_of_names hopen hnames hpresent) []
  rw [hnames, hcatalog] at happly
  exact ⟨_, happly⟩

/-- What is reported while a catalog is loaded comes after what was reported before. -/
theorem exists_notes_of_load {catalog : Catalog} {warnings after : List Warning}
    (h : load d source warnings = .ok catalog after) : ∃ notes, after = warnings ++ notes := by
  obtain ⟨notes, -, happly⟩ := comes_of_tells (tells_of_load h) warnings
  rw [h] at happly
  cases happly
  exact ⟨notes, rfl⟩

/-- On the second disk the directory lacks an entry; the others are as on the first. -/
structure Source.Without (source : Source) (d d' : Disk) (name : Text) : Prop where
  directory : d'.leadsToDirectory source.base = d.leadsToDirectory source.base
  listed : d'.openDirectory source.base = d.openDirectory source.base
  names : source.names d' = (source.names d).filter (· ≠ name)
  present : ∀ other ∈ source.names d', d'.present (source.manifestAt other) =
    d.present (source.manifestAt other)
  attempt : ∀ other ∈ source.names d', source.attempt d' other = source.attempt d other

theorem Source.Without.tells {d' : Disk} (h : source.Without d d' name) (htells : source.Tells d) :
    source.Tells d' := by
  refine ⟨by rw [h.directory, h.listed]; exact htells.directory, fun other hother => ?_⟩
  rw [h.present other hother]
  rw [h.names] at hother
  exact htells.manifests other (List.mem_filter.mp hother).1

theorem Source.holds_congr {d' : Disk}
    (h : d'.present (source.manifestAt name) = d.present (source.manifestAt name)) :
    source.holds d' name = source.holds d name := by
  rw [holds, holds, h]

/-- An entry from which nothing can be loaded contributes nothing. -/
theorem Source.loads_filter (hfails : ∀ s, source.attempt d name ≠ .ok s) (names : List Text) :
    source.loads d (names.filter (· ≠ name)) = source.loads d names := by
  have hnone : source.loads d [name] = [] := by
    cases hattempt : source.attempt d name with
    | ok s => exact absurd hattempt (hfails s)
    | error failure => by_cases hholds : source.holds d name <;> simp [loads, hholds, hattempt]
  induction names with
  | nil => rfl
  | cons other rest ih =>
      rw [← List.singleton_append, List.filter_append, loads_append, loads_append, ih]
      by_cases hother : other = name
      · rw [hother, hnone, List.filter_cons_of_neg (by simp)]
        rfl
      · rw [List.filter_cons_of_pos (by simpa using hother)]
        rfl

theorem Source.Without.loads_eq {d' : Disk} (h : source.Without d d' name)
    (hfails : ∀ s, source.attempt d name ≠ .ok s) :
    source.loads d' (source.names d') = source.loads d (source.names d) := by
  have hheld : (source.names d').filter (source.holds d') =
      (source.names d').filter (source.holds d) :=
    List.filter_congr fun other hother => Source.holds_congr (h.present other hother)
  calc source.loads d' (source.names d')
      = source.loads d (source.names d') := by
        rw [Source.loads, hheld, Source.loads]
        refine List.filterMap_congr fun other hother => ?_
        rw [h.attempt other (List.mem_filter.mp hother).1]
    _ = source.loads d (source.names d) := by rw [h.names, Source.loads_filter hfails]

theorem get?_declared (loads : Entries Skeleton) (name : Text) :
    Keyed.get? (declared loads) name = (loads.map Prod.snd).find? (·.name = name) := by
  induction loads with
  | nil => rfl
  | cons entry rest ih =>
      rw [declared, List.map_cons, ← declared, Keyed.get?, List.map_cons, List.find?_cons, ih]
      by_cases h : entry.2.name = name <;> simp [h]

theorem Source.pairwise_names (source : Source) (d : Disk) :
    (source.names d).Pairwise fun a b => ¬ b < a := by
  unfold names
  split
  · exact Text.pairwise_sorted _
  · exact .nil

theorem mem_directoryNames {base : Path} (h : name ∈ directoryNames d base) :
    ∃ bytes, Text.decode bytes = name ∧ base ++ [bytes] ∈ d.entries.keys := by
  obtain ⟨⟨names, entry⟩, hentry, hname⟩ :=
    List.mem_filterMap.mp ((Text.perm_sorted _).mem_iff.mp h)
  dsimp only at hname
  split at hname
  · cases hname
    exact ⟨_, rfl, (Disk.mem_below hentry).2⟩
  · cases hname

theorem directoryNames_remove (d : Disk) (base : Path) (bytes : Bytes) :
    directoryNames (d.remove (base ++ [bytes])) base =
      (directoryNames d base).filter (· ≠ Text.decode bytes) := by
  unfold directoryNames
  rw [← Text.sorted_filter]
  congr 1
  unfold Disk.below Disk.remove
  rw [List.filterMap_filterMap, List.filterMap_filter, List.filterMap_filterMap,
    List.filter_filterMap]
  refine List.filterMap_congr fun entry _ => ?_
  by_cases hbase : base.isPrefixOf entry.1 = true
  · obtain ⟨names, hnames⟩ := List.isPrefixOf_iff_prefix.mp hbase
    have hbegins : (base ++ [bytes]).isPrefixOf entry.1 = [bytes].isPrefixOf names := by
      rw [Bool.eq_iff_iff, List.isPrefixOf_iff_prefix, List.isPrefixOf_iff_prefix, ← hnames,
        List.prefix_append_right_inj]
    rw [hbegins, ← hnames, List.drop_left]
    -- Only an entry of the directory itself has a name in it.
    match names with
    | [] => simp
    | [other] =>
        by_cases hother : other = bytes
        · simp [hother, Option.filter]
        · have hdecode : Text.decode other ≠ Text.decode bytes :=
            fun h => hother (Text.decode_inj h)
          simp [List.isPrefixOf, Option.filter, hdecode, Ne.symm hother]
    | _ :: _ :: _ => simp
  · simp [hbase]

section

variable {bytes : Bytes} (hdown : ∀ name ∈ source.base.names, LeadsDown (Text.encode name))
  (hlinks : d.LinksOnlyBelow (d.route source.base ++ [bytes]))

theorem Source.not_prefix_route (source : Source) (d : Disk) (bytes : Bytes) :
    ¬ d.route source.base ++ [bytes] <+: d.route source.base := by
  intro h
  have hlength := h.length_le
  rw [List.length_append, List.length_singleton] at hlength
  omega

include hdown hlinks

theorem Source.find_base_remove :
    (d.remove (d.route source.base ++ [bytes])).find source.base = d.find source.base :=
  Disk.find_remove hlinks hdown (source.not_prefix_route d bytes)

theorem Source.eq_route_of_openDirectory {base : Path}
    (h : d.openDirectory source.base = .ok base) : base = d.route source.base := by
  obtain ⟨mode, hbase, -⟩ := Disk.openDirectory_eq_ok_iff.mp h
  exact Disk.route_of_find hlinks hdown (source.not_prefix_route d bytes) hbase

theorem Source.names_remove :
    source.names (d.remove (d.route source.base ++ [bytes])) =
      (source.names d).filter (· ≠ Text.decode bytes) := by
  rw [names, names, Disk.openDirectory_congr (find_base_remove hdown hlinks)]
  split
  · rename_i base hbase
    obtain rfl := eq_route_of_openDirectory hdown hlinks hbase
    exact directoryNames_remove d _ bytes
  · rfl

/-- What is below another entry of the directory stays. -/
theorem Source.sameFrom_remove (hd : d.IsFileTree) {other : Text}
    (hother : other ∈ source.names (d.remove (d.route source.base ++ [bytes]))) :
    d.SameFrom (d.remove (d.route source.base ++ [bytes])) (source.base.entry other) := by
  rw [names_remove hdown hlinks] at hother
  obtain ⟨hother, hne⟩ := List.mem_filter.mp hother
  unfold names at hother
  split at hother
  · rename_i base hbase
    obtain rfl := eq_route_of_openDirectory hdown hlinks hbase
    obtain ⟨beside, rfl, hmem⟩ := mem_directoryNames hother
    have hbeside : beside ≠ bytes := by
      rintro rfl
      simp at hne
    have hroute : d.route (source.base.entry (Text.decode beside)) =
        d.route source.base ++ [beside] := Disk.route_descend source.base [beside]
    refine Disk.Aside.sameFrom ⟨?_, ?_, ?_⟩ hlinks
    · refine List.forall_mem_append.mpr ⟨hdown, ?_⟩
      simpa [Text.encode_decode] using hd.down _ hmem beside (by simp)
    · rw [hroute, List.prefix_append_right_inj]
      simpa using hbeside.symm
    · rw [hroute, List.prefix_append_right_inj]
      simpa using hbeside
  · cases hother

/-- Removing an entry of the directory leaves the others as they are, if the disk has no links
outside of it. -/
theorem Source.without_remove (hd : d.IsFileTree) :
    source.Without d (d.remove (d.route source.base ++ [bytes])) (Text.decode bytes) := by
  have hfind := find_base_remove hdown hlinks
  refine ⟨Disk.leadsToDirectory_congr hfind, Disk.openDirectory_congr hfind,
    names_remove hdown hlinks, fun other hother => ?_, fun other hother => ?_⟩
  · have hspells : Path.Spells [Text.encode Skeleton.manifestName] Skeleton.manifestName :=
      ⟨by decide, by decide, by decide, by decide⟩
    rw [manifestAt, hspells.child_eq]
    exact Disk.present_congr ((sameFrom_remove hdown hlinks hd hother).find_eq _ hspells.down)
  · rw [attempt, attempt, Skeleton.attempt, Skeleton.attempt,
      Skeleton.load_congr hd (sameFrom_remove hdown hlinks hd hother)]

end

/-- Every entry that can be told to hold a manifest is tried, in the order of the names, and costs at
most a warning. Each declared name stands where it was first declared, with the skeleton that
declared it last. The catalog does not depend on entries from which nothing can be loaded. -/
theorem load_settled (source : Source) (d : Disk) (htells : source.Tells d)
    (warnings : List Warning) :
    ∃ catalog notes,
      load d source warnings = .ok catalog (warnings ++ notes) ∧
      (source.visited d).Pairwise (fun a b => ¬ b < a) ∧
      catalog.keys =
        ((source.loads d (source.names d)).map fun entry => entry.2.name).eraseDups ∧
      (∀ name, catalog.get? name =
        ((source.loads d (source.names d)).map Prod.snd).reverse.find? (·.name = name)) ∧
      notes.filter Warning.isUnloadable =
        (source.failures d (source.names d)).map source.unloadable ∧
      notes.filter Warning.isOverwritten =
        source.replacements [] (source.loads d (source.names d)) ∧
      ∀ d' name more, source.Without d d' name → (∀ s, source.attempt d name ≠ .ok s) →
        ∃ notes', load d' source more = .ok catalog (more ++ notes') := by
  obtain ⟨notes, haccounts, happly⟩ := comes_of_tells htells warnings
  refine ⟨_, notes, happly, ?_, ?_, ?_, haccounts.unloadable, haccounts.overwritten, ?_⟩
  · exact (source.pairwise_names d).filter _
  · rw [Keyed.keys_update_nil, declared, Keyed.keys, List.map_map]
    rfl
  · intro name
    rw [Keyed.get?_update, Keyed.get?, Option.or_none, declared, ← List.map_reverse, ← declared,
      get?_declared, List.map_reverse]
  · intro d' name more hwithout hfails
    obtain ⟨notes', -, happly'⟩ := comes_of_tells (hwithout.tells htells) more
    exact ⟨notes', by rw [happly', hwithout.loads_eq hfails]⟩

end

/-- Four directories of skeletons: the manifest of one is no document, and two declare the same
name. -/
def crowdedDisk : Disk where
  entries := [
    ([], .directory 493),
    (Path.ofTexts ["base"], .directory 493),
    (Path.ofTexts ["base", "a"], .directory 493),
    (Path.ofTexts ["base", "a", "skeleton.toml"],
      .file (Text.encode "[skeleton]\nname = 'program'\n") 420),
    (Path.ofTexts ["base", "b"], .directory 493),
    (Path.ofTexts ["base", "b", "skeleton.toml"], .file (Text.encode "[skeleton") 420),
    (Path.ofTexts ["base", "c"], .directory 493),
    (Path.ofTexts ["base", "c", "skeleton.toml"],
      .file (Text.encode "[skeleton]\nname = 'library'\n") 420),
    (Path.ofTexts ["base", "d"], .directory 493),
    (Path.ofTexts ["base", "d", "skeleton.toml"],
      .file (Text.encode "[skeleton]\nname = 'program'\ninherits = 'library'\n") 420)]

/-- How they are loaded. -/
def crowdedSource : Source := { kind := "project", base := .ofText "/base", verbose := true }

theorem openDirectory_crowdedDisk :
    crowdedDisk.openDirectory crowdedSource.base = .ok (Path.ofTexts ["base"]) := by decide +kernel

theorem names_crowdedDisk : crowdedSource.names crowdedDisk =
    [("a" : Text), ("b" : Text), ("c" : Text), ("d" : Text)] := by
  rw [Source.names_of_openDirectory openDirectory_crowdedDisk]
  -- The entries come in the order of their names already.
  exact (List.mergeSort_of_pairwise (by decide +kernel)).trans (by decide +kernel)

theorem tells_crowdedDisk : crowdedSource.Tells crowdedDisk :=
  tells_of_names openDirectory_crowdedDisk names_crowdedDisk (by decide +kernel)

theorem without_crowdedDisk :
    crowdedSource.Without crowdedDisk (crowdedDisk.remove (Path.ofTexts ["base", "b"])) "b" := by
  have htree : crowdedDisk.IsFileTree :=
    ⟨⟨by decide +kernel, by decide +kernel⟩, by decide +kernel⟩
  have hlinks : crowdedDisk.LinksOnlyBelow (Path.ofTexts ["base", "b"]) := by
    have hentries : ∀ entry ∈ crowdedDisk.entries, ∀ target, entry.2 ≠ .link target := by
      simp [crowdedDisk]
    exact fun q target hlink => absurd rfl (hentries _ (Keyed.mem_of_get? hlink) target)
  exact Source.without_remove (by decide +kernel) hlinks htree

theorem load_settled_crowded :
    crowdedSource.Tells crowdedDisk ∧
      ∃ catalog notes,
        load crowdedDisk crowdedSource [] = .ok catalog notes ∧
        catalog.keys = [("program" : Text), ("library" : Text)] ∧
        (catalog.get? "program").bind Skeleton.inherits = some ("library" : Text) ∧
        notes.filter Warning.isUnloadable = [.unloadable "project" "/base/b"
          (.skeleton none (.unreadableManifest "/base/b/skeleton.toml"))] ∧
        notes.filter Warning.isOverwritten = [.overwritten "project" "program" "/base/d"] ∧
        ∃ notes', load (crowdedDisk.remove (Path.ofTexts ["base", "b"])) crowdedSource [] =
          .ok catalog notes' := by
  obtain ⟨catalog, notes, hload, -, hkeys, hget, hunloadable, hoverwritten, hwithout⟩ :=
    load_settled crowdedSource crowdedDisk tells_crowdedDisk []
  refine ⟨tells_crowdedDisk, catalog, notes, hload, ?_, ?_, ?_, ?_, ?_⟩
  · rw [hkeys, names_crowdedDisk]
    decide +kernel
  · rw [hget, names_crowdedDisk]
    decide +kernel
  · rw [hunloadable, names_crowdedDisk]
    decide +kernel
  · rw [hoverwritten, names_crowdedDisk]
    decide +kernel
  · refine hwithout _ _ [] without_crowdedDisk fun s hs => ?_
    have hfails : (crowdedSource.attempt crowdedDisk "b").toOption = none := by decide +kernel
    rw [hs] at hfails
    cases hfails

/-- Two directories of skeletons. Instead of a manifest one has a link whose target has a name that
is too long. -/
def overlongDisk : Disk where
  entries := [
    ([], .directory 493),
    (Path.ofTexts ["base"], .directory 493),
    (Path.ofTexts ["base", "bad"], .directory 493),
    (Path.ofTexts ["base", "bad", "skeleton.toml"], .link (List.replicate 256 110)),
    (Path.ofTexts ["base", "good"], .directory 493),
    (Path.ofTexts ["base", "good", "skeleton.toml"],
      .file (Text.encode "[skeleton]\nname = 'good'\n") 420)]

/-- How they are loaded. -/
def overlongSource : Source := { kind := "project", base := .ofText "/base" }

/-- Nothing can be loaded from the one directory, and because of it nothing is loaded from the other
one either. -/
theorem load_broken_off :
    overlongSource.attempt overlongDisk "bad" =
        .error (.skeleton none (.unreadableManifest "/base/bad/skeleton.toml")) ∧
      (∃ notes, load (overlongDisk.remove (Path.ofTexts ["base", "bad"])) overlongSource [] =
        .ok [("good", { name := "good", builtin := true })] notes) ∧
      load overlongDisk overlongSource [] =
        .error (.disk .nameTooLong "/base/bad/skeleton.toml") [] := by
  refine ⟨by decide +kernel, ?_, ?_⟩
  · have hopen : (overlongDisk.remove (Path.ofTexts ["base", "bad"])).openDirectory
        overlongSource.base = .ok (Path.ofTexts ["base"]) := by decide +kernel
    have hnames : overlongSource.names (overlongDisk.remove (Path.ofTexts ["base", "bad"])) =
        [("good" : Text)] := by decide +kernel
    exact exists_load_of_names hopen hnames (by decide +kernel) (by decide +kernel)
  · have hopen : overlongDisk.openDirectory overlongSource.base = .ok (Path.ofTexts ["base"]) := by
      decide +kernel
    have hnames : overlongSource.names overlongDisk = [] ++ ("bad" : Text) :: [("good" : Text)] := by
      rw [Source.names_of_openDirectory hopen]
      exact (List.mergeSort_of_pairwise (by decide +kernel)).trans (by decide +kernel)
    exact load_of_untold hopen hnames rfl (by decide +kernel)

/-- Two directories of skeletons. In one of them no names may be looked up. -/
def shutDisk : Disk where
  entries := [
    ([], .directory 493),
    (Path.ofTexts ["base"], .directory 493),
    (Path.ofTexts ["base", "bad"], .directory 0),
    (Path.ofTexts ["base", "bad", "skeleton.toml"],
      .file (Text.encode "[skeleton]\nname = 'bad'\n") 420),
    (Path.ofTexts ["base", "good"], .directory 493),
    (Path.ofTexts ["base", "good", "skeleton.toml"],
      .file (Text.encode "[skeleton]\nname = 'good'\n") 420)]

/-- A directory that may not be searched ends the loading in the same way. -/
example : load shutDisk overlongSource [] =
    .error (.disk .denied "/base/bad/skeleton.toml") [] := by
  have hopen : shutDisk.openDirectory overlongSource.base = .ok (Path.ofTexts ["base"]) := by
    decide +kernel
  have hnames : overlongSource.names shutDisk = [] ++ ("bad" : Text) :: [("good" : Text)] := by
    rw [Source.names_of_openDirectory hopen]
    exact (List.mergeSort_of_pairwise (by decide +kernel)).trans (by decide +kernel)
  exact load_of_untold hopen hnames rfl (by decide +kernel)

end Catalog

end Scaffold
