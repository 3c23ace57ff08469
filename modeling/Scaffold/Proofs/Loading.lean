import Scaffold.Proofs.Resolution
import Scaffold.Proofs.Trees
import Scaffold.Skeleton.Load

/-!
Loaded skeletons. The files of a skeleton that is loaded from a directory tree stand in the strictly
ascending order of their paths, and none of them has a reserved name; resolving keeps both.
-/

namespace Scaffold

open Step (bind_eq_ok_iff lift_eq_ok_iff)

theorem Disk.leadsToDirectory_iff {d : Disk} {l : Location} :
    d.leadsToDirectory l = .ok true ↔ ∃ p mode, d.find l = .ok (p, .directory mode) := by
  unfold leadsToDirectory probe
  cases hfind : d.find l with
  | ok found =>
      obtain ⟨p, entry⟩ := found
      cases entry <;> simp [Except.map]
  | error failure => by_cases hmeans : meansNothing failure = true <;> simp [hmeans, Except.map]

theorem Disk.openDirectory_eq_ok_iff {d : Disk} {l : Location} {p : Path} :
    d.openDirectory l = .ok p ↔ ∃ mode, d.find l = .ok (p, .directory mode) ∧ ownerReads mode := by
  unfold openDirectory
  rw [Step.except_bind_eq_ok_iff]
  constructor
  · rintro ⟨⟨q, entry⟩, hfind, hopen⟩
    cases entry with
    | directory mode =>
        dsimp only at hopen
        split at hopen
        · rename_i hreads
          cases hopen
          exact ⟨mode, hfind, hreads⟩
        · cases hopen
    | _ => cases hopen
  · rintro ⟨mode, hfind, hreads⟩
    exact ⟨_, hfind, if_pos hreads⟩

theorem Disk.leadsToDirectory_of_openDirectory {d : Disk} {l : Location} {p : Path}
    (h : d.openDirectory l = .ok p) : d.leadsToDirectory l = .ok true := by
  obtain ⟨mode, hfind, -⟩ := openDirectory_eq_ok_iff.mp h
  exact leadsToDirectory_iff.mpr ⟨p, mode, hfind⟩

namespace Skeleton

/-- The file lists of skeletons: ascending, and without the names that no template file has. -/
structure Orderly (files : List SkeletonFile) : Prop where
  ascending : Ascending files
  unreserved : ∀ file ∈ files, file.path.baseName.lower ∉
    [("skeleton.toml" : Text), ("drom.toml" : Text), ("package.toml" : Text)]
  current : ∀ file ∈ files, file.path.getLast? ≠ some (.char '~')

theorem Orderly.merge {ours theirs : List SkeletonFile} (hours : Orderly ours)
    (htheirs : Orderly theirs) : Orderly (mergeFiles ours theirs) := by
  refine ⟨ascending_mergeFiles hours.ascending htheirs.ascending, ?_, ?_⟩
  · intro file hfile
    rcases mem_mergeFiles hfile with hmem | hmem
    · exact hours.unreserved file hmem
    · exact htheirs.unreserved file hmem
  · intro file hfile
    rcases mem_mergeFiles hfile with hmem | hmem
    · exact hours.current file hmem
    · exact htheirs.current file hmem

namespace Visit

variable {d : Disk} {directory : Location} {v : Visit} {file : SkeletonFile}
  {warnings after : List Warning}

/-- A visit in a directory finds a template file with what is stored there. -/
structure Finds (d : Disk) (directory : Location) (v : Visit) (file : SkeletonFile) : Prop where
  settles : v.descends = false
  unreserved : v.isReserved = false
  path_eq : file.path = v.names.relativeText
  content_eq : ∃ bytes, d.read (v.location directory) = .ok bytes ∧
    file.content = Text.decode bytes

theorem finds_of_templateFile? (h : templateFile? d directory v warnings = .ok (some file) after) :
    Finds d directory v file := by
  unfold templateFile? at h
  split at h
  · obtain ⟨_, _, -, hnone⟩ := bind_eq_ok_iff.mp h
    cases hnone
  rename_i hsettles
  split at h
  · cases h
  rename_i hunreserved
  obtain ⟨found, _, -, hfound⟩ := bind_eq_ok_iff.mp h
  cases found with
  | none =>
      cases hentry : v.entry <;> rw [hentry] at hfound <;> cases hfound
  | some entry =>
      cases entry with
      | file content mode =>
          obtain ⟨bytes, _, hread, hpure⟩ := bind_eq_ok_iff.mp hfound
          cases hpure
          exact ⟨by simpa using hsettles, by simpa using hunreserved, rfl, bytes,
            (lift_eq_ok_iff.mp hread).1, rfl⟩
      | directory mode => cases hfound
      | link target => cases hfound

/-- The files that visits lead to come from some of the visits, in their order. -/
theorem exists_chosen {visits : List Visit} {found : List (Option SkeletonFile)}
    (h : visits.mapM (templateFile? d directory) warnings = .ok found after) :
    ∃ chosen : List (Visit × SkeletonFile), (chosen.map Prod.fst).Sublist visits ∧
      found.filterMap id = chosen.map Prod.snd ∧ ∀ c ∈ chosen, Finds d directory c.1 c.2 := by
  induction visits generalizing found warnings with
  | nil =>
      cases h
      exact ⟨[], .slnil, rfl, by simp⟩
  | cons v rest ih =>
      rw [List.mapM_cons] at h
      obtain ⟨first, middle, hfirst, hmore⟩ := bind_eq_ok_iff.mp h
      obtain ⟨more, _, hrest, hpure⟩ := bind_eq_ok_iff.mp hmore
      cases hpure
      obtain ⟨chosen, hsublist, hfound, hfinds⟩ := ih hrest
      cases first with
      | none => exact ⟨chosen, hsublist.cons v, hfound, hfinds⟩
      | some file =>
          exact ⟨(v, file) :: chosen, hsublist.cons_cons v, congrArg (file :: ·) hfound,
            List.forall_mem_cons.mpr ⟨finds_of_templateFile? hfirst, hfinds⟩⟩

theorem names_settled {entries : Keyed Path Entry} (hentries : ∀ entry ∈ entries, entry.1 ≠ []) :
    ((entries.flatMap fun entry => ofEntry entry.1 entry.2).filter fun v => !v.descends).map
      Visit.names = entries.keys := by
  induction entries with
  | nil => rfl
  | cons entry rest ih =>
      obtain ⟨hne, hrest⟩ := List.forall_mem_cons.mp hentries
      have hup : entry.1.dropLast ≠ entry.1 := by
        intro hsame
        have := congrArg List.length hsame
        have := List.length_pos_iff.mpr hne
        rw [List.length_dropLast] at *
        omega
      rw [List.flatMap_cons, List.filter_append, List.map_append, ih hrest]
      unfold ofEntry
      split <;> simp [descends, hup.symm, Keyed.keys]

theorem perm_settled (d : Disk) (base : Path) :
    (((all d base).filter fun v => !v.descends).map Visit.names).Perm (d.below base).keys := by
  rw [← names_settled fun _ (hentry : _ ∈ d.below base) => (Disk.mem_below hentry).1]
  exact ((List.mergeSort_perm _ _).filter _).map _

/-- A visit of an entry is of one below the directory. -/
theorem exists_entry_of_settled {base : Path} (hv : v ∈ all d base) (hsettles : v.descends = false) :
    ∃ entry, (v.names, entry) ∈ d.below base := by
  have hmem : v.names ∈ ((all d base).filter fun v => !v.descends).map Visit.names :=
    List.mem_map.mpr ⟨v, List.mem_filter.mpr ⟨hv, by simp [hsettles]⟩, rfl⟩
  obtain ⟨⟨names, entry⟩, hentry, rfl⟩ := List.mem_map.mp ((perm_settled d base).mem_iff.mp hmem)
  exact ⟨entry, hentry⟩

theorem permitted_sublist (d : Disk) (directory : Location) (base : Path) :
    (permitted d directory base).Sublist (all d base) := List.filter_sublist

theorem permitted_of_undenied {base : Path}
    (h : ∀ v ∈ all d base, v.isDenied d directory = false) :
    permitted d directory base = all d base := by
  have hbars (v : Visit) :
      ((all d base).any fun other => other.isDenied d directory && other.bars v) = false := by
    simp only [List.any_eq_false, Bool.and_eq_true, not_and]
    intro other hother hdenied
    rw [h other hother] at hdenied
    cases hdenied
  refine List.filter_eq_self.mpr fun v _ => ?_
  rw [hbars]
  rfl

theorem exists_name (h : v.isReserved = false) :
    ∃ name, v.names.getLast? = some name ∧ Skeleton.isReserved (Text.decode name) = false := by
  unfold isReserved at h
  cases hlast : v.names.getLast? with
  | none => simp [hlast] at h
  | some name => exact ⟨name, rfl, by simpa [hlast] using h⟩

theorem Finds.orderly (hfinds : Finds d directory v file) (hplain : v.names.IsPlain) :
    file.path.baseName.lower ∉ reservedNames ∧ file.path.getLast? ≠ some (.char '~') := by
  obtain ⟨name, hname, hreserved⟩ := exists_name hfinds.unreserved
  obtain ⟨hlower, htilde⟩ : (Text.decode name).lower ∉ reservedNames ∧
      (Text.decode name).getLast? ≠ some (.char '~') := by
    simpa [Skeleton.isReserved] using hreserved
  rw [hfinds.path_eq, Path.baseName_relativeText hplain hname]
  exact ⟨hlower, fun hlast => htilde (Path.getLast?_of_relativeText hname (by decide) hlast)⟩

end Visit

variable {d : Disk} {directory : Location} {warnings after : List Warning}
  {files : List SkeletonFile}

theorem ascending_mergeSort {files : List SkeletonFile}
    (hpaths : (files.map SkeletonFile.path).Nodup) :
    Ascending (files.mergeSort fun first second => Text.atMost first.path second.path) := by
  have hsorted : (files.mergeSort fun first second => Text.atMost first.path second.path).Pairwise
      fun first second => Text.atMost first.path second.path = true :=
    List.pairwise_mergeSort (fun a b c => Text.atMost_trans a.path b.path c.path)
      (fun a b => Text.atMost_total a.path b.path) files
  have hperm := List.mergeSort_perm files fun first second => Text.atMost first.path second.path
  have hdistinct := List.pairwise_map.mp ((hperm.map SkeletonFile.path).nodup_iff.mpr hpaths)
  refine (hsorted.and hdistinct).imp ?_
  rintro a b ⟨hle, hne⟩
  exact Text.lt_of_not_le hne.symm (Text.atMost_iff.mp hle)

/-- Where entries may be listed, the template files are what the visits that take place find. -/
theorem templateFiles_of_openDirectory {base : Path} (h : d.openDirectory directory = .ok base)
    (warnings : List Warning) :
    templateFiles d directory warnings =
      ((Visit.permitted d directory base).mapM (Visit.templateFile? d directory) >>= fun found =>
        pure ((found.filterMap id).mergeSort
          fun first second => Text.atMost first.path second.path)) warnings := by
  have hleads := Disk.leadsToDirectory_of_openDirectory h
  rw [templateFiles, Step.bind_of_ok (lift_eq_ok_iff.mpr ⟨hleads, rfl⟩), if_pos rfl, h]

/-- Where nothing may be listed there are none. -/
theorem templateFiles_of_closed {leads : Bool} {failure : Failure}
    (hleads : d.leadsToDirectory directory = .ok leads)
    (h : d.openDirectory directory = .error failure) (warnings : List Warning) :
    templateFiles d directory warnings = .ok [] warnings := by
  rw [templateFiles, Step.bind_of_ok (lift_eq_ok_iff.mpr ⟨hleads, rfl⟩)]
  cases leads with
  | false => rfl
  | true =>
      rw [if_pos rfl, h]
      rfl

/-- The template files below a directory are what visits find there, in the order of their paths. -/
theorem exists_chosen_of_templateFiles (h : templateFiles d directory warnings = .ok files after) :
    files = [] ∨ ∃ (base : Path) (mode : Nat) (chosen : List (Visit × SkeletonFile)),
      d.find directory = .ok (base, .directory mode) ∧
      (chosen.map Prod.fst).Sublist (Visit.all d base) ∧
      files = (chosen.map Prod.snd).mergeSort
        (fun first second => Text.atMost first.path second.path) ∧
      ∀ c ∈ chosen, Visit.Finds d directory c.1 c.2 := by
  cases hopen : d.openDirectory directory with
  | error failure =>
      obtain ⟨leads, _, hleads, -⟩ := bind_eq_ok_iff.mp h
      cases (templateFiles_of_closed (lift_eq_ok_iff.mp hleads).1 hopen warnings).symm.trans h
      exact .inl rfl
  | ok base =>
      obtain ⟨mode, hbase, -⟩ := Disk.openDirectory_eq_ok_iff.mp hopen
      rw [templateFiles_of_openDirectory hopen] at h
      obtain ⟨found, _, hfound, hpure⟩ := bind_eq_ok_iff.mp h
      obtain ⟨chosen, hsublist, hchosen, hfinds⟩ := Visit.exists_chosen hfound
      cases hpure
      exact .inr ⟨base, mode, chosen, hbase,
        hsublist.trans (Visit.permitted_sublist d directory base), by rw [hchosen], hfinds⟩

theorem orderly_templateFiles (hd : d.IsTree)
    (h : templateFiles d directory warnings = .ok files after) : Orderly files := by
  rcases exists_chosen_of_templateFiles h with rfl | ⟨base, -, chosen, -, hsublist, rfl, hfinds⟩
  · exact ⟨.nil, by simp, by simp⟩
  have hchosen : ∀ c ∈ chosen, c.1.names ≠ [] ∧ c.1.names.IsPlain := by
    intro c hc
    obtain ⟨entry, hentry⟩ := Visit.exists_entry_of_settled
      (hsublist.subset (List.mem_map_of_mem hc)) (hfinds c hc).settles
    exact ⟨(Disk.mem_below hentry).1, hd.plain_below hentry⟩
  have hnames : (chosen.map fun c => c.1.names).Nodup := by
    have hsettled : (chosen.map Prod.fst).filter (fun v => !v.descends) = chosen.map Prod.fst := by
      refine List.filter_eq_self.mpr fun v hv => ?_
      obtain ⟨c, hc, rfl⟩ := List.mem_map.mp hv
      simp [(hfinds c hc).settles]
    have hsub := (hsublist.filter fun v => !v.descends).map Visit.names
    rw [hsettled, List.map_map] at hsub
    exact hsub.nodup ((Visit.perm_settled d base).nodup_iff.mpr (hd.nodup_below base))
  have hpaths : ((chosen.map Prod.snd).map SkeletonFile.path).Nodup := by
    rw [List.map_map]
    refine List.pairwise_map.mpr ((List.pairwise_map.mp hnames).imp_of_mem ?_)
    intro c c' hc hc' hne hsame
    rw [Function.comp_apply, Function.comp_apply, (hfinds c hc).path_eq, (hfinds c' hc').path_eq]
      at hsame
    exact hne (Path.relativeText_inj (hchosen c hc).2 (hchosen c' hc').2 (hchosen c hc).1
      (hchosen c' hc').1 hsame)
  have hfound : ∀ file ∈ (chosen.map Prod.snd).mergeSort
      (fun first second => Text.atMost first.path second.path),
      file.path.baseName.lower ∉ reservedNames ∧ file.path.getLast? ≠ some (.char '~') := by
    intro file hfile
    obtain ⟨c, hc, rfl⟩ := List.mem_map.mp (List.mem_mergeSort.mp hfile)
    exact (hfinds c hc).orderly (hchosen c hc).2
  exact ⟨ascending_mergeSort hpaths, fun file hfile => (hfound file hfile).1,
    fun file hfile => (hfound file hfile).2⟩

theorem templateFiles_of_load {kind : Text} {builtin : Bool} {s : Skeleton}
    (h : load d kind directory builtin warnings = .ok s after) :
    ∃ before later, templateFiles d directory before = .ok s.files later := by
  unfold load at h
  cases hkind : fragmentName? kind with
  | none =>
      rw [hkind] at h
      cases h
  | some fragmentName =>
  rw [hkind] at h
  obtain ⟨manifest, _, -, h⟩ := bind_eq_ok_iff.mp h
  obtain ⟨⟨name, parent⟩, _, -, h⟩ := bind_eq_ok_iff.mp h
  obtain ⟨fragments, before, -, h⟩ := bind_eq_ok_iff.mp h
  obtain ⟨files, later, hfiles, h⟩ := bind_eq_ok_iff.mp h
  obtain ⟨flags, _, -, hpure⟩ := bind_eq_ok_iff.mp h
  cases hpure
  exact ⟨before, later, hfiles⟩

/-- Visits that are all permitted, and that come in their order already, need no sorting, and neither
do their files. -/
theorem templateFiles_of_sorted {base : Path} {found : List (Option SkeletonFile)}
    (hopen : d.openDirectory directory = .ok base)
    (hvisits : ((d.below base).flatMap fun entry => Visit.ofEntry entry.1 entry.2).Pairwise
      fun first second => Visit.precedes first second = true)
    (hpermitted : ∀ v ∈ (d.below base).flatMap fun entry => Visit.ofEntry entry.1 entry.2,
      v.isDenied d directory = false)
    (hfound : (((d.below base).flatMap fun entry => Visit.ofEntry entry.1 entry.2).mapM
      (Visit.templateFile? d directory)) warnings = .ok found after)
    (hfiles : (found.filterMap id).Pairwise
      fun first second => Text.atMost first.path second.path = true) :
    templateFiles d directory warnings = .ok (found.filterMap id) after := by
  have hall : Visit.permitted d directory base =
      (d.below base).flatMap fun entry => Visit.ofEntry entry.1 entry.2 := by
    rw [Visit.permitted_of_undenied fun v hv => hpermitted v (List.mem_mergeSort.mp hv), Visit.all,
      List.mergeSort_of_pairwise hvisits]
  rw [templateFiles_of_openDirectory hopen, hall, Step.bind_of_ok hfound,
    List.mergeSort_of_pairwise hfiles]
  rfl

/-- A skeleton is loaded part by part. -/
theorem load_of_parts {kind fragmentName name : Text} {parent : Option Text} {builtin : Bool}
    {fragments : List Text} {flags : Entries FileFlags} {first second : List Warning}
    (hkind : fragmentName? kind = some fragmentName)
    (hmanifest : (readManifest d directory).map declared = .ok (.ok (name, parent)))
    (hflags : (readManifest d directory).map (fun manifest =>
      FileFlags.ofManifest kind name manifest second) = .ok (.ok flags after))
    (hfragments : readFragments d (directory.child fragmentName) warnings = .ok fragments first)
    (hfiles : templateFiles d directory first = .ok files second) :
    load d kind directory builtin warnings =
      .ok { name, inherits := parent, fragments, files, flags, builtin } after := by
  obtain ⟨manifest, hread, hdeclared⟩ := Step.map_eq_ok_iff.mp hmanifest
  rw [hread] at hflags
  rw [load, hkind]
  dsimp only
  rw [Step.bind_of_ok (lift_eq_ok_iff.mpr ⟨hread, rfl⟩),
    Step.bind_of_ok (lift_eq_ok_iff.mpr ⟨hdeclared, rfl⟩)]
  dsimp only
  rw [Step.bind_of_ok hfragments, Step.bind_of_ok hfiles,
    Step.bind_of_ok (Except.ok.inj hflags)]
  rfl

end Skeleton

namespace Catalog

variable {d : Disk} {source : Source} {catalog loaded : Catalog} {warnings after : List Warning}

/-- A skeleton is loaded from a directory of a source. -/
def Loads (d : Disk) (source : Source) (name : Text) (s : Skeleton) : Prop :=
  ∃ before later, Skeleton.load d source.kind (source.base.entry name) source.builtin before =
    .ok s later

theorem addDirectory_eq_ok {name : Text}
    (h : addDirectory d source catalog name warnings = .ok loaded after) :
    loaded = catalog ∨ ∃ s, Loads d source name s ∧ loaded = catalog.insert s.name s := by
  obtain ⟨found, _, -, hadd⟩ := bind_eq_ok_iff.mp h
  cases found with
  | false =>
      cases hadd
      exact .inl rfl
  | true =>
      rw [if_pos rfl] at hadd
      obtain ⟨result, middle, htry, hresult⟩ := bind_eq_ok_iff.mp hadd
      rcases Step.ok_of_tryCatch htry with hload | ⟨failure, before, hcatch⟩
      · obtain ⟨s, later, hs, hinsert⟩ := bind_eq_ok_iff.mp hload
        refine .inr ⟨s, ⟨_, later, hs⟩, ?_⟩
        split at hinsert <;> cases hinsert <;> cases hresult <;> rfl
      · obtain ⟨_, _, -, hcaught⟩ := bind_eq_ok_iff.mp hcatch
        cases hcaught
        cases hresult
        exact .inl rfl

/-- Every skeleton of a catalog stands under its name and was loaded from a directory, and so it is
after another directory. -/
theorem loads_of_addDirectories {names : List Text}
    (hcatalog : ∀ entry ∈ catalog, entry.2.name = entry.1 ∧ ∃ name, Loads d source name entry.2)
    (h : names.foldlM (addDirectory d source) catalog warnings = .ok loaded after) :
    ∀ entry ∈ loaded, entry.2.name = entry.1 ∧ ∃ name, Loads d source name entry.2 := by
  induction names generalizing catalog warnings with
  | nil =>
      cases h
      exact hcatalog
  | cons name rest ih =>
      rw [List.foldlM_cons] at h
      obtain ⟨next, middle, hadd, hrest⟩ := bind_eq_ok_iff.mp h
      refine ih ?_ hrest
      rcases addDirectory_eq_ok hadd with rfl | ⟨s, hloads, rfl⟩
      · exact hcatalog
      · intro entry hentry
        rcases Keyed.mem_insert hentry with rfl | hentry
        · exact ⟨rfl, name, hloads⟩
        · exact hcatalog entry hentry

theorem loads_of_mem (h : load d source warnings = .ok catalog after) :
    ∀ entry ∈ catalog, entry.2.name = entry.1 ∧ ∃ name, Loads d source name entry.2 := by
  obtain ⟨leads, _, -, hload⟩ := bind_eq_ok_iff.mp h
  cases leads with
  | false =>
      cases hload
      simp
  | true =>
      obtain ⟨base, _, -, hall⟩ := bind_eq_ok_iff.mp hload
      exact loads_of_addDirectories (by simp) hall

/-- A catalog that is loaded from a directory tree has each skeleton under its name. Its skeletons,
and those that are resolved in it, have their files in the strictly ascending order of their paths,
and none with a reserved name; what is resolved inherits nothing more. -/
theorem orderly_of_load (hd : d.IsTree) (h : load d source warnings = .ok catalog after) :
    (∀ entry ∈ catalog, entry.2.name = entry.1 ∧ Skeleton.Orderly entry.2.files) ∧
      ∀ name s, catalog.lookup name = .ok s → Skeleton.Orderly s.files ∧ s.inherits = none := by
  have hloaded : ∀ entry ∈ catalog, Skeleton.Orderly entry.2.files := by
    intro entry hentry
    obtain ⟨-, name, before, later, hload⟩ := loads_of_mem h entry hentry
    obtain ⟨_, _, hfiles⟩ := Skeleton.templateFiles_of_load hload
    exact Skeleton.orderly_templateFiles hd hfiles
  refine ⟨fun entry hentry => ⟨(loads_of_mem h entry hentry).1, hloaded entry hentry⟩, ?_⟩
  intro name s hlookup
  refine ⟨?_, inherits_of_lookup hlookup⟩
  exact resolve_induction (P := fun s => Skeleton.Orderly s.files) hloaded
    (fun _ _ _ hown hparent => hown.merge hparent) hlookup

/-- A directory of skeletons with one skeleton in it: two template files at different depths, a link
to one of them, and files with reserved names. -/
def nestedDisk : Disk where
  entries := [
    ([], .directory 493),
    (Path.ofTexts ["base"], .directory 493),
    (Path.ofTexts ["base", "one"], .directory 493),
    (Path.ofTexts ["base", "one", "README"], .file [82, 255] 420),
    (Path.ofTexts ["base", "one", "b~"], .file [] 420),
    (Path.ofTexts ["base", "one", "drom.toml"], .file [10] 420),
    (Path.ofTexts ["base", "one", "skeleton.toml"],
      .file (Text.encode "[skeleton]\nname = 'program'\n") 420),
    (Path.ofTexts ["base", "one", "src"], .directory 493),
    (Path.ofTexts ["base", "one", "src", "main"], .file [77] 493),
    (Path.ofTexts ["base", "one", "src", "zed"], .link (Text.encode "main"))]

/-- The skeleton in it. -/
def nestedSkeleton : Skeleton where
  name := "program"
  fragments := ["\n"]
  files := [
    ⟨"README", [.char 'R', .stray 255], 420⟩,
    ⟨"src/main", "M", 493⟩,
    ⟨"src/zed", "M", 511⟩]
  builtin := true

/-- How it is loaded. -/
def nestedSource : Source := { kind := "project", base := .ofText "/base" }

theorem isTree_nestedDisk : nestedDisk.IsTree := ⟨by decide +kernel, by decide +kernel⟩

theorem load_nestedSkeleton :
    Skeleton.load nestedDisk nestedSource.kind (nestedSource.base.entry "one")
      nestedSource.builtin [] = .ok nestedSkeleton [] := by
  have hmanifest : (Skeleton.readManifest nestedDisk (nestedSource.base.entry "one")).map
      Skeleton.declared = .ok (.ok ("program", none)) := by decide +kernel
  have hflags : (Skeleton.readManifest nestedDisk (nestedSource.base.entry "one")).map
      (fun manifest => FileFlags.ofManifest nestedSource.kind "program" manifest []) =
      .ok (.ok [] []) := by decide +kernel
  have hfragments : Skeleton.readFragments nestedDisk
      ((nestedSource.base.entry "one").child "drom.toml") [] = .ok ["\n"] [] := by decide +kernel
  have hopen : nestedDisk.openDirectory (nestedSource.base.entry "one") =
      .ok (Path.ofTexts ["base", "one"]) := by decide +kernel
  have hfound : (((nestedDisk.below (Path.ofTexts ["base", "one"])).flatMap fun entry =>
      Skeleton.Visit.ofEntry entry.1 entry.2).mapM
        (Skeleton.Visit.templateFile? nestedDisk (nestedSource.base.entry "one"))) [] =
      .ok [some ⟨"README", [.char 'R', .stray 255], 420⟩, none, none, none, none, none,
        some ⟨"src/main", "M", 493⟩, some ⟨"src/zed", "M", 511⟩, none] [] := by decide +kernel
  exact Skeleton.load_of_parts rfl hmanifest hflags hfragments
    (Skeleton.templateFiles_of_sorted hopen (by decide +kernel) (by decide +kernel) hfound
      (by decide +kernel))

theorem load_nestedDisk :
    load nestedDisk nestedSource [] = .ok [("program", nestedSkeleton)] [] := by
  have hleads : nestedDisk.leadsToDirectory nestedSource.base = .ok true := by decide +kernel
  have hopen : nestedDisk.openDirectory nestedSource.base = .ok (Path.ofTexts ["base"]) := by
    decide +kernel
  have hnames : directoryNames nestedDisk (Path.ofTexts ["base"]) = [("one" : Text)] := by
    decide +kernel
  have hpresent : nestedDisk.present
      ((nestedSource.base.entry "one").child Skeleton.manifestName) = .ok true := by decide +kernel
  have hadd : addDirectory nestedDisk nestedSource [] "one" [] =
      .ok [("program", nestedSkeleton)] [] := by
    rw [addDirectory, Step.bind_of_ok (lift_eq_ok_iff.mpr ⟨hpresent, rfl⟩), if_pos rfl]
    refine bind_eq_ok_iff.mpr
      ⟨.error [("program", nestedSkeleton)], [], Step.tryCatch_of_ok ?_ _, rfl⟩
    rw [Step.bind_of_ok load_nestedSkeleton, if_neg (by simp [nestedSource])]
    rfl
  rw [load, Step.bind_of_ok (lift_eq_ok_iff.mpr ⟨hleads, rfl⟩), if_pos rfl,
    Step.bind_of_ok (lift_eq_ok_iff.mpr ⟨hopen, rfl⟩), hnames, List.foldlM_cons,
    Step.bind_of_ok hadd]
  rfl

theorem orderly_of_load_nested :
    nestedDisk.IsTree ∧
      load nestedDisk nestedSource [] = .ok [("program", nestedSkeleton)] [] ∧
      lookup [("program", nestedSkeleton)] "program" = .ok nestedSkeleton ∧
      nestedSkeleton.files.map SkeletonFile.path =
        [("README" : Text), ("src/main" : Text), ("src/zed" : Text)] ∧
      Skeleton.Orderly nestedSkeleton.files := by
  have hlookup : lookup [("program", nestedSkeleton)] "program" = .ok nestedSkeleton := by
    decide +kernel
  have horderly := orderly_of_load isTree_nestedDisk load_nestedDisk
  exact ⟨isTree_nestedDisk, load_nestedDisk, hlookup, rfl, (horderly.2 _ _ hlookup).1⟩

end Catalog

end Scaffold
