import Scaffold.Proofs.Assembly
import Scaffold.Proofs.Backups
import Scaffold.Proofs.Obstructions
import Scaffold.Proofs.Preresolution

/-!
Clashes of paths. A file cannot stand where another file needs a directory. The files that are
loaded from one directory do not clash like that, but those of a skeleton may clash with those that
it inherits, as the merge compares whole paths only. Where no skeleton clashes with one from which
it inherits, the files can all be copied into one directory.
-/

namespace Scaffold

open Step (bind_eq_ok_iff lift_eq_ok_iff)

namespace Text

/-- A path leads through another one, where it needs a directory. -/
def LeadsThrough (path through : Text) : Prop :=
  ∃ rest, path = through ++ Location.slash :: rest

theorem leadsThrough_iff_isPrefix {path through : Text} :
    path.LeadsThrough through ↔ through ++ [Location.slash] <+: path := by
  constructor
  · rintro ⟨rest, rfl⟩
    exact ⟨rest, by simp⟩
  · rintro ⟨rest, rfl⟩
    exact ⟨rest, by simp⟩

instance (path through : Text) : Decidable (path.LeadsThrough through) :=
  decidable_of_iff _ leadsThrough_iff_isPrefix.symm

end Text

/-- One path leads through another one exactly if the names of the other one come first. -/
theorem Path.Spells.leadsThrough_iff {names others : Path} {path through : Text}
    (h : names.Spells path) (hthrough : others.Spells through) :
    path.LeadsThrough through ↔ ∃ more, more ≠ [] ∧ names = others ++ more := by
  constructor
  · rintro ⟨rest, hpath⟩
    have hsplit : names.map Text.decode =
        others.map Text.decode ++ Text.splitOn Location.slash rest := by
      rw [← splitOn_relativeText h.plain h.ne_nil,
        ← splitOn_relativeText hthrough.plain hthrough.ne_nil, h.text_eq, hthrough.text_eq, hpath,
        Text.splitOn_append]
    obtain ⟨front, more, rfl, hfront, hmore⟩ := List.map_eq_append_iff.mp hsplit
    refine ⟨more, ?_, ?_⟩
    · rintro rfl
      exact Text.splitOn_ne_nil _ rest hmore.symm
    · rw [(List.map_inj_right fun _ _ => Text.decode_inj).mp hfront]
  · rintro ⟨more, hne, rfl⟩
    refine ⟨relativeText more, ?_⟩
    rw [← h.text_eq, ← hthrough.text_eq, relativeText, List.map_append,
      Text.join_append _ (by simpa using hthrough.ne_nil) (by simpa using hne)]
    simp [relativeText]

namespace Disk

variable {d : Disk} {l : Location} {p : Path} {names : Route} {bytes : Bytes}

/-- What stands above something is a directory. -/
theorem IsGrounded.isDirectory (hd : d.IsGrounded) (hne : names ≠ [])
    (hsome : (d.get? (p ++ names)).isSome = true) : d.isDirectory p = true := by
  induction names using List.reverseRecOn with
  | nil => exact absurd rfl hne
  | append_singleton before name ih =>
      rw [← List.append_assoc] at hsome
      have hbefore := hd (p ++ before) name hsome
      by_cases hend : before = []
      · simpa [hend] using hbefore
      · obtain ⟨mode, hmode⟩ := isDirectory_iff.mp hbefore
        exact ih hend (by rw [hmode]; rfl)

end Disk

namespace Skeleton

/-- A file of a list stands where one of another list needs a directory. -/
def Clash (files others : List SkeletonFile) : Prop :=
  ∃ file ∈ files, ∃ other ∈ others, other.path.LeadsThrough file.path

instance (files others : List SkeletonFile) : Decidable (Clash files others) :=
  inferInstanceAs (Decidable (∃ file ∈ files, ∃ other ∈ others, other.path.LeadsThrough file.path))

variable {d : Disk} {directory : Location} {warnings after : List Warning}
  {files : List SkeletonFile}

/-- Where a template file is found there is no directory. -/
theorem Visit.Finds.isDirectory_eq (hd : d.IsFileTree) (hgrounded : d.IsGrounded) {v : Visit}
    {file : SkeletonFile} {base : Path} {mode : Nat}
    (hbase : d.find directory = .ok (base, .directory mode)) (hv : v ∈ Visit.all d base)
    (h : Finds d directory v file) : d.isDirectory (base ++ v.names) = false := by
  by_contra hdirectory
  rw [Bool.not_eq_false] at hdirectory
  obtain ⟨hkey, hspells⟩ := h.spells hd hv
  have hstraight : d.IsStraight base v.names := by
    refine ⟨hspells.down, ?_⟩
    rintro front - ⟨more, hmore⟩ target hlink
    have hfront : d.isDirectory (base ++ front) = true := by
      by_cases hend : more = []
      · rw [hend, List.append_nil] at hmore
        rwa [hmore]
      · refine hgrounded.isDirectory hend ?_
        rw [List.append_assoc, hmore]
        exact Disk.mem_keys_iff.mp hkey
    obtain ⟨_, hmode⟩ := Disk.isDirectory_iff.mp hfront
    cases hmode.symm.trans hlink
  obtain ⟨bytes, hread, -⟩ := h.content_eq
  obtain ⟨p, _, hfind⟩ := Disk.exists_find_of_read hread
  obtain ⟨hlocate, hfile⟩ := Disk.find_eq_ok_iff.mp hfind
  obtain rfl := Disk.locate_descend hbase (fun _ => hstraight) hspells.ne_nil hlocate
  obtain ⟨_, hmode⟩ := Disk.isDirectory_iff.mp hdirectory
  cases hmode.symm.trans hfile

/-- The template files below a directory stand in the tree there, so none is in the way of another
one. -/
theorem not_clash_templateFiles (hd : d.IsFileTree) (hgrounded : d.IsGrounded)
    (h : templateFiles d directory warnings = .ok files after) : ¬ Clash files files := by
  rcases exists_chosen_of_templateFiles h with
    rfl | ⟨base, mode, chosen, hbase, hsublist, rfl, hfinds⟩
  · rintro ⟨_, ⟨⟩, _⟩
  rintro ⟨file, hfile, other, hother, hthrough⟩
  obtain ⟨c, hc, rfl⟩ := List.mem_map.mp (List.mem_mergeSort.mp hfile)
  obtain ⟨c', hc', rfl⟩ := List.mem_map.mp (List.mem_mergeSort.mp hother)
  have hv := hsublist.subset (List.mem_map_of_mem hc)
  obtain ⟨-, hspells⟩ := (hfinds c hc).spells hd hv
  obtain ⟨hkey, hspells'⟩ := (hfinds c' hc').spells hd (hsublist.subset (List.mem_map_of_mem hc'))
  obtain ⟨more, hne, hnames⟩ := (hspells'.leadsThrough_iff hspells).mp hthrough
  rw [hnames, ← List.append_assoc] at hkey
  have hdirectory := hgrounded.isDirectory hne (Disk.mem_keys_iff.mp hkey)
  rw [(hfinds c hc).isDirectory_eq hd hgrounded hbase hv] at hdirectory
  cases hdirectory

end Skeleton

namespace Catalog

variable {d : Disk} {source : Source} {catalog : Catalog} {warnings after : List Warning}
  {name : Text} {s own : Skeleton} {lineage : List Skeleton}

theorem Lineage.exists_mem (h : catalog.Lineage name lineage) (hown : own ∈ lineage) :
    ∃ key, (key, own) ∈ catalog := by
  induction h with
  | root hget _ =>
      rw [List.mem_singleton.mp hown]
      exact ⟨_, Keyed.mem_of_get? hget⟩
  | child hget _ _ ih =>
      rcases List.mem_cons.mp hown with rfl | hmem
      · exact ⟨_, Keyed.mem_of_get? hget⟩
      · exact ih hmem

/-- A resolved skeleton has the paths of all skeletons of its lineage. -/
theorem Lineage.mem_paths_iff (h : catalog.Lineage name lineage)
    (hfiles : ∀ own ∈ lineage, Skeleton.Ascending own.files) (hlookup : catalog.lookup name = .ok s)
    (path : Text) :
    path ∈ s.files.map SkeletonFile.path ↔
      ∃ own ∈ lineage, path ∈ own.files.map SkeletonFile.path := by
  rw [← not_iff_not, ← Skeleton.fileAt?_eq_none_iff, (h.files hfiles hlookup).2,
    List.findSome?_eq_none_iff]
  simp only [Skeleton.fileAt?_eq_none_iff, not_exists, not_and]

/-- The files of a loaded skeleton do not clash with each other. -/
theorem not_clash_of_mem (hd : d.IsFileTree) (hgrounded : d.IsGrounded)
    (hload : load d source warnings = .ok catalog after) {entry : Text × Skeleton}
    (hentry : entry ∈ catalog) :
    Skeleton.Ascending entry.2.files ∧ ¬ Skeleton.Clash entry.2.files entry.2.files := by
  obtain ⟨-, _, _, _, hloads⟩ := loads_of_mem hload entry hentry
  obtain ⟨_, _, hfiles⟩ := Skeleton.templateFiles_of_load hloads
  exact ⟨(Skeleton.sourced_templateFiles hd hfiles).ascending,
    Skeleton.not_clash_templateFiles hd hgrounded hfiles⟩

/-- The paths that clash in a resolved skeleton come from two skeletons of its lineage. -/
theorem clash_iff (hd : d.IsFileTree) (hgrounded : d.IsGrounded)
    (hload : load d source warnings = .ok catalog after) (hlookup : catalog.lookup name = .ok s)
    (hlineage : catalog.Lineage name lineage) {path through : Text}
    (hthrough : path.LeadsThrough through) :
    through ∈ s.files.map SkeletonFile.path ∧ path ∈ s.files.map SkeletonFile.path ↔
      ∃ own ∈ lineage, ∃ other ∈ lineage, own ≠ other ∧
        through ∈ own.files.map SkeletonFile.path ∧ path ∈ other.files.map SkeletonFile.path := by
  have hall : ∀ own ∈ lineage,
      Skeleton.Ascending own.files ∧ ¬ Skeleton.Clash own.files own.files := by
    intro own hown
    obtain ⟨key, hentry⟩ := hlineage.exists_mem hown
    exact not_clash_of_mem hd hgrounded hload hentry
  rw [hlineage.mem_paths_iff (fun own hown => (hall own hown).1) hlookup,
    hlineage.mem_paths_iff (fun own hown => (hall own hown).1) hlookup]
  constructor
  · rintro ⟨⟨own, hown, hfile⟩, other, hother, hpath⟩
    refine ⟨own, hown, other, hother, ?_, hfile, hpath⟩
    rintro rfl
    obtain ⟨file, hmem, rfl⟩ := List.mem_map.mp hfile
    obtain ⟨file', hmem', rfl⟩ := List.mem_map.mp hpath
    exact (hall own hown).2 ⟨file, hmem, file', hmem', hthrough⟩
  · rintro ⟨own, hown, other, hother, -, hfile, hpath⟩
    exact ⟨⟨own, hown, hfile⟩, other, hother, hpath⟩

end Catalog

namespace Run

open Skeleton (Clash Sourced fileAt?)

variable {σ : Type} {job : Job} {sink : Sink σ} {s : Skeleton} {file : SkeletonFile}
  {run state kept : Run σ} {b : Path} {failure : Failure}

/-- A run comes to a file of the skeleton of the project, in the first pass or in the second one. -/
def Tries (job : Job) (sink : Sink σ) (run : Run σ) (s : Skeleton) (file : SkeletonFile)
    (state : Run σ) : Prop :=
  (∃ trace, TriedFirst job sink run s trace file state) ∨
    ∃ calls, TriedAgain job sink run s calls file state

/-- When a run comes to a file of the skeleton of the project, there are copies of other files of
this skeleton, and of nothing else. -/
theorem exists_saved_of_tries (hrun : Saves job.backupRoot b [] run)
    (hsafe : SparesBackup job sink b run) (h : Tries job sink run s file state) :
    file ∈ s.files ∧ (∃ names : Path, names.Spells file.path) ∧
      ∃ saved, saved ⊆ s.files ∧ Saves job.backupRoot b saved state := by
  rcases h with ⟨trace, hfirst⟩ | ⟨calls, hagain⟩
  · obtain ⟨hsourced, hstate⟩ := saves_of_triedFirst hrun hsafe hfirst
    obtain ⟨after, hfiles⟩ := hfirst.files
    have hfile : file ∈ s.files := by simp [hfiles]
    exact ⟨hfile, hsourced.spelled file hfile, _, by simp [hfiles], hstate⟩
  · obtain ⟨trace, between, second, after, hfirst, hattempts, hlater, rfl⟩ := hagain
    obtain ⟨-, hsourced, hbetween⟩ := saves_of_firstPass hrun hsafe hfirst
    have hpostponed : postponed trace ⊆ s.files := by
      rw [← hfirst.files]
      exact (List.filter_sublist.map Prod.fst).subset
    rw [hlater] at hpostponed
    obtain ⟨hsecond, hrest⟩ := List.append_subset.mp hpostponed
    have hfile := hrest List.mem_cons_self
    obtain ⟨hstate, -⟩ := saves_of_unpostponed hattempts hbetween
      (fun other hother => hsourced.spelled other (hsecond hother))
      fun own other more here hsplit hown =>
        hsafe _ s other here _ _ (.again ⟨trace, between, own, more ++ file :: after, hfirst, hown,
          by rw [hlater, hsplit]; simp, rfl⟩)
    exact ⟨hfile, hsourced.spelled file hfile, _,
      List.append_subset.mpr ⟨List.Subset.refl _, hsecond⟩, hstate⟩

/-- Where no files of a skeleton clash, no copy of one is in the way of another one. -/
theorem backup_unobstructed (hrun : Saves job.backupRoot b [] run)
    (hsafe : SparesBackup job sink b run) (hclash : ¬ Clash s.files s.files)
    (h : Tries job sink run s file state) :
    (∀ names : Path, names.Spells file.path → state.disk.IsFree b names.dropLast) ∧
      ∀ failure kept, backup job file state = .error failure kept → ¬ failure.IsObstruction := by
  obtain ⟨hfile, ⟨names, hnames⟩, saved, hsaved, hstate⟩ := exists_saved_of_tries hrun hsafe h
  have hclear (names : Path) (hnames : names.Spells file.path) (front : Path) (hne : front ≠ [])
      (hbegins : front <+: names.dropLast) : fileAt? saved.reverse front.relativeText = none := by
    by_contra hsome
    obtain ⟨other, hother⟩ := Option.ne_none_iff_exists'.mp hsome
    have hpath : other.path = front.relativeText := by simpa using List.find?_some hother
    have hmem := hsaved (List.mem_reverse.mp (List.mem_of_find?_eq_some hother))
    have hway := hbegins.trans (List.dropLast_prefix names)
    have hfront : front.Spells other.path :=
      ⟨hne, fun name hname => hnames.plain name (hway.subset hname),
        fun name hname => hnames.down name (hway.subset hname), hpath.symm⟩
    obtain ⟨more, rfl⟩ := hway
    refine hclash ⟨other, hmem, file, hfile, (hnames.leadsThrough_iff hfront).mpr ⟨more, ?_, rfl⟩⟩
    rintro rfl
    have hlength := hbegins.length_le
    have hpositive := List.length_pos_iff.mpr hne
    rw [List.append_nil, List.length_dropLast] at hlength
    omega
  refine ⟨fun names hnames => hstate.backup.mirrors.isFree (hclear names hnames), ?_⟩
  intro failure kept hbackup
  obtain ⟨disk, hplace, -⟩ := onDisk_eq_error_iff.mp hbackup
  have hcopy : job.keepCopy file state.disk = .error failure disk := hplace
  rw [job.keepCopy_eq hnames] at hcopy
  exact hstate.backup.unobstructed hnames (hclear names hnames) hcopy

end Run

namespace Catalog

/-- A path and one that leads through it both occur in a resolved skeleton exactly if two different
skeletons of its lineage have them. If no two of them clash, as if the skeleton inherits nothing, no
files of the resolved skeleton clash. Then no copy of a file is in the way of another one when a run
copies them below a directory that holds no files at first and that nothing else touches. -/
theorem lookup_clashes {d : Disk} {source : Source} {catalog : Catalog}
    {warnings after : List Warning} {name : Text} {s : Skeleton} (hd : d.IsFileTree)
    (hgrounded : d.IsGrounded) (hload : load d source warnings = .ok catalog after)
    (hlookup : catalog.lookup name = .ok s) :
    ∃ lineage, catalog.Lineage name lineage ∧
      (∀ path through, Text.LeadsThrough path through →
        (through ∈ s.files.map SkeletonFile.path ∧ path ∈ s.files.map SkeletonFile.path ↔
          ∃ own ∈ lineage, ∃ other ∈ lineage, own ≠ other ∧
            through ∈ own.files.map SkeletonFile.path ∧
              path ∈ other.files.map SkeletonFile.path)) ∧
      ((∀ own ∈ lineage, ∀ other ∈ lineage, own ≠ other →
          ¬ Skeleton.Clash own.files other.files) →
        ¬ Skeleton.Clash s.files s.files ∧
          ∀ (σ : Type) (job : Job) (sink : Sink σ) (run : Run σ) (b : Path),
            run.disk.IsBackup job.backupRoot b (fun _ => none) → run.cache.IsLoaded →
            Run.SparesBackup job sink b run →
              ∀ file state, Run.Tries job sink run s file state →
                (∀ names : Path, names.Spells file.path →
                  state.disk.IsFree b names.dropLast) ∧
                ∀ failure kept, Run.backup job file state = .error failure kept →
                  ¬ failure.IsObstruction) := by
  obtain ⟨lineage, hlineage⟩ := exists_lineage hlookup
  have hiff (path through : Text) (h : path.LeadsThrough through) :=
    clash_iff hd hgrounded hload hlookup hlineage h
  refine ⟨lineage, hlineage, hiff, fun hpeace => ?_⟩
  have hclash : ¬ Skeleton.Clash s.files s.files := by
    rintro ⟨file, hfile, other, hother, hthrough⟩
    obtain ⟨own, hown, next, hnext, hne, hpath, hpath'⟩ := (hiff _ _ hthrough).mp
      ⟨List.mem_map_of_mem hfile, List.mem_map_of_mem hother⟩
    obtain ⟨first, hfirst, hfirst'⟩ := List.mem_map.mp hpath
    obtain ⟨second, hsecond, hsecond'⟩ := List.mem_map.mp hpath'
    rw [← hfirst', ← hsecond'] at hthrough
    exact hpeace own hown next hnext hne ⟨first, hfirst, second, hsecond, hthrough⟩
  exact ⟨hclash, fun σ job sink run b hbackup hloaded hsafe file state htries =>
    Run.backup_unobstructed ⟨hbackup, hloaded⟩ hsafe hclash htries⟩

/-- Three directories of skeletons. Two of the skeletons inherit from the third one, and one of them
has a file where that one has a directory. -/
def clashingDisk : Disk where
  entries := [
    ([], .directory 493),
    (Path.ofTexts ["base"], .directory 493),
    (Path.ofTexts ["base", "a"], .directory 493),
    (Path.ofTexts ["base", "a", "drom.toml"], .file [] 420),
    (Path.ofTexts ["base", "a", "skeleton.toml"],
      .file (Text.encode "[skeleton]\nname = 'base'\n") 420),
    (Path.ofTexts ["base", "a", "src"], .directory 493),
    (Path.ofTexts ["base", "a", "src", "main"], .file [77] 420),
    (Path.ofTexts ["base", "b"], .directory 493),
    (Path.ofTexts ["base", "b", "drom.toml"], .file [] 420),
    (Path.ofTexts ["base", "b", "notes"], .file [78] 420),
    (Path.ofTexts ["base", "b", "skeleton.toml"],
      .file (Text.encode "[skeleton]\nname = 'library'\ninherits = 'base'\n") 420),
    (Path.ofTexts ["base", "c"], .directory 493),
    (Path.ofTexts ["base", "c", "drom.toml"], .file [] 420),
    (Path.ofTexts ["base", "c", "skeleton.toml"],
      .file (Text.encode "[skeleton]\nname = 'program'\ninherits = 'base'\n") 420),
    (Path.ofTexts ["base", "c", "src"], .file [83] 420)]

/-- How they are loaded. -/
def clashingSource : Source := { kind := "project", base := .ofText "/base" }

/-- A skeleton with one file, as it is loaded from one of these directories. -/
def singleFile (name : Text) (parent : Option Text) (file : SkeletonFile) : Skeleton where
  name := name
  inherits := parent
  fragments := [""]
  files := [file]
  builtin := true

/-- The skeletons that are loaded. -/
def clashingCatalog : Catalog := [
  ("base", singleFile "base" none ⟨"src/main", "M", 420⟩),
  ("library", singleFile "library" (some "base") ⟨"notes", "N", 420⟩),
  ("program", singleFile "program" (some "base") ⟨"src", "S", 420⟩)]

theorem attempt_clashingDisk {entry name : Text} {parent : Option Text} {file : SkeletonFile}
    (base : Path) (found : List (Option SkeletonFile)) (hfile : found.filterMap id = [file])
    (hparts :
      (Skeleton.readManifest clashingDisk (clashingSource.base.entry entry)).map
          Skeleton.declared = .ok (.ok (name, parent)) ∧
        (Skeleton.readManifest clashingDisk (clashingSource.base.entry entry)).map
          (fun manifest => FileFlags.ofManifest clashingSource.kind name manifest []) =
            .ok (.ok [] []) ∧
        Skeleton.readFragments clashingDisk
          ((clashingSource.base.entry entry).child "drom.toml") [] = .ok [""] [] ∧
        clashingDisk.openDirectory (clashingSource.base.entry entry) = .ok base ∧
        ((clashingDisk.below base).flatMap fun entry =>
          Skeleton.Visit.ofEntry entry.1 entry.2).Pairwise
            (fun first second => Skeleton.Visit.precedes first second = true) ∧
        (∀ v ∈ (clashingDisk.below base).flatMap fun entry =>
            Skeleton.Visit.ofEntry entry.1 entry.2,
          v.isDenied clashingDisk (clashingSource.base.entry entry) = false) ∧
        ((clashingDisk.below base).flatMap fun entry =>
          Skeleton.Visit.ofEntry entry.1 entry.2).mapM
            (Skeleton.Visit.templateFile? clashingDisk (clashingSource.base.entry entry)) [] =
              .ok found []) :
    clashingSource.attempt clashingDisk entry = .ok (singleFile name parent file) := by
  obtain ⟨hmanifest, hflags, hfragments, hopen, hvisits, hpermitted, hfound⟩ := hparts
  have hkind : Skeleton.fragmentName? clashingSource.kind = some ("drom.toml" : Text) := by decide
  have hfiles := Skeleton.templateFiles_of_sorted hopen hvisits hpermitted hfound
    (hfile ▸ List.pairwise_singleton _ _)
  rw [hfile] at hfiles
  have hload : Skeleton.load clashingDisk clashingSource.kind (clashingSource.base.entry entry)
      clashingSource.builtin [] = .ok (singleFile name parent file) [] :=
    Skeleton.load_of_parts hkind hmanifest hflags hfragments hfiles
  rw [Source.attempt, Skeleton.attempt, hload]
  rfl

theorem isFileTree_clashingDisk : clashingDisk.IsFileTree ∧ clashingDisk.IsGrounded :=
  ⟨⟨⟨by decide +kernel, by decide +kernel⟩, by decide +kernel⟩, by decide +kernel⟩

theorem load_clashingDisk :
    ∃ notes, load clashingDisk clashingSource [] = .ok clashingCatalog notes := by
  have hopen : clashingDisk.openDirectory clashingSource.base = .ok (Path.ofTexts ["base"]) := by
    decide +kernel
  have hnames : clashingSource.names clashingDisk = [("a" : Text), ("b" : Text), ("c" : Text)] := by
    rw [Source.names_of_openDirectory hopen]
    exact (List.mergeSort_of_pairwise (by decide +kernel)).trans (by decide +kernel)
  have hholds : ∀ name ∈ [("a" : Text), ("b" : Text), ("c" : Text)],
      clashingDisk.present (clashingSource.manifestAt name) = .ok true := by decide +kernel
  have hfirst : clashingSource.attempt clashingDisk "a" =
      .ok (singleFile "base" none ⟨"src/main", "M", 420⟩) :=
    attempt_clashingDisk (Path.ofTexts ["base", "a"])
      [none, none, none, none, some ⟨"src/main", "M", 420⟩] rfl (by decide +kernel)
  have hsecond : clashingSource.attempt clashingDisk "b" =
      .ok (singleFile "library" (some "base") ⟨"notes", "N", 420⟩) :=
    attempt_clashingDisk (Path.ofTexts ["base", "b"])
      [none, some ⟨"notes", "N", 420⟩, none] rfl (by decide +kernel)
  have hthird : clashingSource.attempt clashingDisk "c" =
      .ok (singleFile "program" (some "base") ⟨"src", "S", 420⟩) :=
    attempt_clashingDisk (Path.ofTexts ["base", "c"])
      [none, none, some ⟨"src", "S", 420⟩] rfl (by decide +kernel)
  have hloads : clashingSource.loads clashingDisk [("a" : Text), ("b" : Text), ("c" : Text)] = [
      (("a" : Text), singleFile "base" none ⟨"src/main", "M", 420⟩),
      (("b" : Text), singleFile "library" (some "base") ⟨"notes", "N", 420⟩),
      (("c" : Text), singleFile "program" (some "base") ⟨"src", "S", 420⟩)] := by
    have hall : [("a" : Text), ("b" : Text), ("c" : Text)].filter
        (clashingSource.holds clashingDisk) = [("a" : Text), ("b" : Text), ("c" : Text)] :=
      List.filter_eq_self.mpr fun name hname => by simp [Source.holds, hholds name hname]
    rw [Source.loads, hall]
    simp only [List.filterMap_cons, List.filterMap_nil, hfirst, hsecond, hthird]
  exact exists_load_of_names hopen hnames hholds (by rw [hloads]; rfl)

/-- A state in which these skeletons are known and nothing stands on the disk. -/
def clashingRun : Run (List Request) where
  disk := Disk.empty
  sink := []
  cache := [("project", clashingCatalog)]

/-- A job for a project with the skeleton that does not clash with the one it inherits from. -/
def peacefulJob : Job :=
  { Run.askingJob with project := { name := "p", skeleton := some "library" } }

/-- That skeleton with what it inherits. -/
def peacefulSkeleton : Skeleton where
  name := "library"
  fragments := ["\n"]
  files := [⟨"notes", "N", 420⟩, ⟨"src/main", "M", 420⟩]

theorem lookup_clashes_peaceful :
    clashingDisk.IsFileTree ∧ clashingDisk.IsGrounded ∧
      (∃ notes, load clashingDisk clashingSource [] = .ok clashingCatalog notes) ∧
      clashingCatalog.lookup "library" = .ok peacefulSkeleton ∧
      ¬ Skeleton.Clash peacefulSkeleton.files peacefulSkeleton.files ∧
      ∃ state, Run.Tries peacefulJob recordRequest clashingRun peacefulSkeleton
          ⟨"src/main", "M", 420⟩ state ∧
        state.disk.get? (Path.ofTexts ["state", "skeleton", "notes"]) = some (.file [78] 420) ∧
        state.disk.IsFree (Path.ofTexts ["state", "skeleton"]) (Path.ofTexts ["src"]) := by
  obtain ⟨htree, hgrounded⟩ := isFileTree_clashingDisk
  obtain ⟨notes, hload⟩ := load_clashingDisk
  have hlookup : clashingCatalog.lookup "library" = .ok peacefulSkeleton := by decide +kernel
  obtain ⟨lineage, hlineage, -, hpeaceful⟩ := lookup_clashes htree hgrounded hload hlookup
  obtain rfl : lineage = [singleFile "library" (some "base") ⟨"notes", "N", 420⟩,
      singleFile "base" none ⟨"src/main", "M", 420⟩] :=
    hlineage.unique (.child (by decide +kernel) rfl (.root (by decide +kernel) rfl))
  obtain ⟨hclash, hcopied⟩ := hpeaceful (by decide +kernel)
  have hloaded : clashingRun.cache.IsLoaded := by
    intro kind catalog hcatalog
    obtain ⟨-, rfl⟩ := Prod.mk.inj (List.mem_singleton.mp (Keyed.mem_of_get? hcatalog))
    exact ⟨_, _, _, _, htree, hload⟩
  have hknown : Run.lookup peacefulJob.config "project" peacefulJob.project.skeletonName
      clashingRun = .ok peacefulSkeleton clashingRun := by with_unfolding_all rfl
  have hfirst : Step.outcome (Run.renderFile peacefulJob recordRequest
      (.ofProject peacefulJob.project) peacefulSkeleton ⟨"notes", "N", 420⟩
      { clashingRun with generated := [], postponing := true }) = .ok () := by
    decide +kernel
  have hnext := Step.ok_of_outcome hfirst
  obtain ⟨call, hcall⟩ := Run.exists_call hnext
  generalize hstate : Step.state (Run.renderFile peacefulJob recordRequest
      (.ofProject peacefulJob.project) peacefulSkeleton ⟨"notes", "N", 420⟩
      { clashingRun with generated := [], postponing := true }) = reached at hcall
  have htries : Run.Tries peacefulJob recordRequest clashingRun peacefulSkeleton
      ⟨"src/main", "M", 420⟩ reached :=
    .inl ⟨[(⟨"notes", "N", 420⟩, some call)], ⟨clashingRun, hknown, hcall⟩, [], rfl⟩
  obtain ⟨hfree, -⟩ := hcopied _ peacefulJob recordRequest clashingRun
    (Path.ofTexts ["state", "skeleton"]) Run.isBackup_copyingRun hloaded
    (fun _ _ _ _ _ _ _ request prepared _ => .refl _ _ prepared.disk) _ reached htries
  refine ⟨htree, hgrounded, ⟨notes, hload⟩, hlookup, hclash, reached, htries, ?_, ?_⟩
  · rw [← hstate]
    decide +kernel
  · exact hfree (Path.ofTexts ["src", "main"]) ⟨by decide, by decide, by decide, by decide⟩

/-- A resolved skeleton has a file where it needs a directory for another one, and a run that is to
render it fails at the copy of that one. -/
theorem lookup_clashing :
    clashingDisk.IsFileTree ∧ clashingDisk.IsGrounded ∧
      (∃ notes, load clashingDisk clashingSource [] = .ok clashingCatalog notes) ∧
      ∃ s, clashingCatalog.lookup "program" = .ok s ∧
        s.files.map SkeletonFile.path = [("src" : Text), ("src/main" : Text)] ∧
        Text.LeadsThrough "src/main" "src" ∧
        ∃ last, Run.renderProject Run.askingJob recordRequest clashingRun =
          .error (.disk .occupied "/state/skeleton/src") last := by
  have hlookup : clashingCatalog.lookup "program" = .ok {
      name := "program"
      fragments := ["\n"]
      files := [⟨"src", "S", 420⟩, ⟨"src/main", "M", 420⟩] } := by decide +kernel
  have hrun : Step.outcome (Run.renderProject Run.askingJob recordRequest clashingRun) =
      .error (.disk .occupied "/state/skeleton/src") := by decide +kernel
  exact ⟨isFileTree_clashingDisk.1, isFileTree_clashingDisk.2, load_clashingDisk, _, hlookup, rfl,
    ⟨"main", by decide⟩, _, Step.error_of_outcome hrun⟩

end Catalog

end Scaffold
