import Scaffold.Proofs.Copies
import Scaffold.Proofs.Interruptions
import Scaffold.Proofs.Mirror

/-!
The backup of a run. Each file that a run comes to is copied before anything else happens to it, so
the backup mirrors the files that the run has come to, as long as nothing else touches it.
-/

namespace Scaffold

open Skeleton (Sourced fileAt?)
open Step (state bind_eq_ok_iff)

variable {σ : Type}

/-- The directory below which the sources are copied. -/
def Job.backupRoot (job : Job) : Location := job.backupDir.getD job.config.backupDir

theorem Job.keepCopy_eq (job : Job) {file : SkeletonFile} {names : Path}
    (h : names.Spells file.path) :
    job.keepCopy file = Disk.placeFile (job.backupRoot.descend names) file.content.encode
      file.permissions := by
  rw [← h.child_eq]
  rfl

namespace Run

/-- A run knows a catalog in which a name stands for a skeleton. -/
def Knows (run : Run σ) (kind name : Text) (s : Skeleton) : Prop :=
  ∃ catalog, run.cache.get? kind = some catalog ∧ catalog.lookup name = .ok s

/-- The catalogs that a run knows are still known later. -/
def Remembers (run next : Run σ) : Prop :=
  ∀ kind catalog, run.cache.get? kind = some catalog → next.cache.get? kind = some catalog

/-- The sink that is handed what a file leads to in a state of a run leaves the backup alone. -/
def HandsSafely (job : Job) (sink : Sink σ) (b : Path) (scope : Scope) (s : Skeleton)
    (file : SkeletonFile) (run : Run σ) : Prop :=
  ∀ request prepared, prepare job scope s file run = .ok request prepared →
    Disk.Spares job.backupRoot b prepared.disk (state (sink request prepared.world)).1

/-- Nothing that a run hands over makes the sink touch the backup. -/
def SparesBackup (job : Job) (sink : Sink σ) (b : Path) (run : Run σ) : Prop :=
  ∀ scope s file state own done, Reaches job sink run scope s file state own done →
    HandsSafely job sink b scope s file state

/-- The backup mirrors files, of those with one path the last one, and all catalogs were loaded. -/
structure Saves (l : Location) (b : Path) (saved : List SkeletonFile) (run : Run σ) : Prop where
  backup : run.disk.IsBackup l b (fileAt? saved.reverse)
  loaded : run.cache.IsLoaded

section

variable {job : Job} {sink : Sink σ} {scope : Scope} {s : Skeleton} {file : SkeletonFile}
  {run next last kept start : Run σ} {l : Location} {b : Path} {saved : List SkeletonFile}
  {config : Config} {kind name : Text} {failure : Failure}

theorem Knows.lookup_eq (h : Knows run kind name s) (config : Config) :
    lookup config kind name run = .ok s run := by
  obtain ⟨catalog, hknown, hlookup⟩ := h
  rw [lookup, Step.bind_of_ok (catalog_of_known hknown)]
  exact Step.lift_eq_ok_iff.mpr ⟨hlookup, rfl⟩

theorem Knows.remembered (h : Knows run kind name s) (hnext : Remembers run next) :
    Knows next kind name s := by
  obtain ⟨catalog, hknown, hlookup⟩ := h
  exact ⟨catalog, hnext kind catalog hknown, hlookup⟩

theorem remembers_of_cache (h : next.cache = run.cache) : Remembers run next := by
  intro kind catalog hknown
  rw [h, hknown]

theorem Remembers.trans (h : Remembers run next) (h' : Remembers next last) :
    Remembers run last :=
  fun kind catalog hknown => h' kind catalog (h kind catalog hknown)

theorem Saves.congr (h : Saves l b saved run) (hdisk : next.disk = run.disk)
    (hcache : next.cache = run.cache) : Saves l b saved next :=
  ⟨hdisk ▸ h.backup, hcache ▸ h.loaded⟩

/-- A catalog that is asked for is known from then on, and was loaded. -/
theorem saves_of_catalog {catalog : Catalog} (h : Saves l b saved run)
    (hcatalog : Run.catalog config kind run = .ok catalog next) :
    Saves l b saved next ∧ Remembers run next ∧ next.cache.get? kind = some catalog := by
  cases hcache : run.cache.get? kind with
  | some found =>
      rw [catalog_of_known hcache] at hcatalog
      cases hcatalog
      exact ⟨h, fun _ _ => id, hcache⟩
  | none =>
      rw [catalog_of_unknown hcache] at hcatalog
      cases hload : Catalog.load run.disk (Cache.source config kind) run.warnings with
      | error failure warnings =>
          rw [hload] at hcatalog
          cases hcatalog
      | ok found warnings =>
          rw [hload] at hcatalog
          cases hcatalog
          refine ⟨⟨h.backup, fun other catalog hother => ?_⟩, fun other catalog hother => ?_, ?_⟩
          · rw [Keyed.get?_insert] at hother
            split at hother
            · cases hother
              exact ⟨run.disk, _, _, _, h.backup.tree, hload⟩
            · exact h.loaded other catalog hother
          · rw [Keyed.get?_insert, if_neg]
            · exact hother
            · rintro rfl
              cases hcache.symm.trans hother
          · rw [Keyed.get?_insert, if_pos rfl]

theorem saves_of_lookup (h : Saves l b saved run)
    (hlookup : lookup config kind name run = .ok s next) :
    Saves l b saved next ∧ Remembers run next ∧ Knows next kind name s ∧ Sourced s.files := by
  obtain ⟨catalog, _, hcatalog, hlift⟩ := bind_eq_ok_iff.mp hlookup
  obtain ⟨hresolve, rfl⟩ := Step.lift_eq_ok_iff.mp hlift
  obtain ⟨hsaves, hremembers, hknown⟩ := saves_of_catalog h hcatalog
  obtain ⟨d, source, warnings, after, htree, hload⟩ := hsaves.loaded kind catalog hknown
  exact ⟨hsaves, hremembers, ⟨catalog, hknown, hresolve⟩,
    Catalog.sourced_of_lookup htree hload hresolve⟩

theorem saves_of_backup (h : Saves job.backupRoot b saved run)
    (hspelled : ∃ names : Path, names.Spells file.path)
    (hbackup : backup job file run = .ok () kept) :
    Saves job.backupRoot b (saved ++ [file]) kept := by
  obtain ⟨names, hnames⟩ := hspelled
  obtain ⟨disk, hplace, rfl⟩ := onDisk_eq_ok_iff.mp hbackup
  have hcopy : job.keepCopy file run.disk = .ok () disk := hplace
  rw [job.keepCopy_eq hnames] at hcopy
  refine ⟨?_, h.loaded⟩
  rw [Skeleton.fileAt?_reverse_concat]
  exact h.backup.place hnames hcopy

theorem keeps_cache_renderFile (job : Job) (sink : Sink σ) (scope : Scope) (s : Skeleton)
    (file : SkeletonFile) : Step.Keeps Run.cache (renderFile job sink scope s file) := by
  have hbackup : Step.Keeps Run.cache (backup job file : Running σ Unit) :=
    Step.keeps_focus _ fun _ _ => rfl
  have hlogging (x : Logging Request) : Step.Keeps Run.cache (logging x : Running σ Request) :=
    Step.keeps_focus x fun _ _ => rfl
  have hhand (request : Request) : Step.Keeps Run.cache (handOver sink request) :=
    Step.keeps_focus _ fun _ _ => rfl
  refine hbackup.bind fun _ => Step.keeps_get_bind fun run => (hlogging _).bind fun request =>
    (hhand request).bind fun _ => Step.keeps_get_bind fun run => ?_
  exact Step.keeps_ite (Step.keeps_pure ()) fun _ => rfl

theorem disk_of_deliver (job : Job) (sink : Sink σ) (request : Request) (run : Run σ) :
    (state (deliver job sink request run)).disk = (state (sink request run.world)).1 := by
  rw [deliver, Step.bind_apply, handOver, focus, world]
  cases sink request (run.disk, run.sink) with
  | error failure after => rfl
  | ok _ after =>
      dsimp only
      rw [register_apply]
      rfl

/-- Whatever becomes of a file, its copy is kept. -/
theorem saves_of_renderFile (h : Saves job.backupRoot b saved run)
    (hspelled : ∃ names : Path, names.Spells file.path)
    (hbackup : backup job file run = .ok () kept)
    (hsafe : HandsSafely job sink b scope s file run) :
    Saves job.backupRoot b (saved ++ [file]) (state (renderFile job sink scope s file run)) := by
  have hkept := saves_of_backup h hspelled hbackup
  have hcache := keeps_cache_renderFile job sink scope s file run
  have hprepared : (state (prepare job scope s file run)).disk = kept.disk := by
    rw [prepare_of_backup hbackup]
    exact keeps_disk_logging _ kept
  refine ⟨?_, hcache ▸ h.loaded⟩
  rw [renderFile_eq, Step.bind_apply]
  cases hprepare : prepare job scope s file run with
  | error failure last =>
      rw [hprepare] at hprepared
      exact hprepared ▸ hkept.backup
  | ok request prepared =>
      rw [hprepare] at hprepared
      have hspares := hsafe request prepared hprepare
      dsimp only
      rw [disk_of_deliver]
      exact Disk.IsBackup.spares (hprepared ▸ hkept.backup) hspares

theorem saves_of_attempt (h : Saves job.backupRoot b saved run)
    (hspelled : ∃ names : Path, names.Spells file.path)
    (hsafe : HandsSafely job sink b scope s file run)
    (hrender : renderFile job sink scope s file run = .ok () next ∨
      renderFile job sink scope s file run = .error (.foreign .postponed) next) :
    Saves job.backupRoot b (saved ++ [file]) next ∧ next.cache = run.cache := by
  -- If the copy cannot be made this is no reason to postpone the file.
  have hbackup : ∃ kept, backup job file run = .ok () kept := by
    cases hbackup : backup job file run with
    | ok _ kept => exact ⟨kept, rfl⟩
    | error failure kept =>
        rw [renderFile, Step.bind_of_error hbackup] at hrender
        rcases hrender with ⟨⟨⟩⟩ | ⟨⟨⟩⟩
        cases fails_backup job file hbackup
  obtain ⟨kept, hbackup⟩ := hbackup
  have hnext := saves_of_renderFile h hspelled hbackup hsafe
  have hcache := keeps_cache_renderFile job sink scope s file run
  rcases hrender with hok | hpostponed
  · rw [hok] at hnext hcache
    exact ⟨hnext, hcache⟩
  · rw [hpostponed] at hnext hcache
    exact ⟨hnext, hcache⟩

theorem saves_of_attempts {trace : List (SkeletonFile × Option Call)}
    (h : Attempts job sink scope s start trace last) (hstart : Saves job.backupRoot b saved start)
    (hspelled : ∀ file ∈ trace.map Prod.fst, ∃ names : Path, names.Spells file.path)
    (hsafe : ∀ before file result after state, trace = before ++ (file, result) :: after →
      Attempts job sink scope s start before state →
        HandsSafely job sink b scope s file state) :
    Saves job.backupRoot b (saved ++ trace.map Prod.fst) last ∧ last.cache = start.cache := by
  induction h generalizing saved with
  | nil => exact ⟨by simpa using hstart, rfl⟩
  | @called run next last file call trace hyields hskips hrender hrest ih =>
      obtain ⟨hfile, hmore⟩ := List.forall_mem_cons.mp hspelled
      obtain ⟨hnext, hcache⟩ := saves_of_attempt hstart hfile
        (hsafe [] file (some call) trace run rfl .nil) (.inl hrender)
      obtain ⟨hlast, hcache'⟩ := ih hnext hmore
        fun before other result after state hsplit hbefore =>
          hsafe ((file, some call) :: before) other result after state (by rw [hsplit]; rfl)
            (.called hyields hskips hrender hbefore)
      rw [List.map_cons, List.append_cons]
      exact ⟨hlast, hcache'.trans hcache⟩
  | @postponed run next last file trace hrender hrest ih =>
      obtain ⟨hfile, hmore⟩ := List.forall_mem_cons.mp hspelled
      obtain ⟨hnext, hcache⟩ := saves_of_attempt hstart hfile
        (hsafe [] file none trace run rfl .nil) (.inr hrender)
      obtain ⟨hlast, hcache'⟩ := ih hnext hmore
        fun before other result after state hsplit hbefore =>
          hsafe ((file, none) :: before) other result after state (by rw [hsplit]; rfl)
            (.postponed hrender hbefore)
      rw [List.map_cons, List.append_cons]
      exact ⟨hlast, hcache'.trans hcache⟩

theorem saves_of_unpostponed {calls : List (SkeletonFile × Call)}
    (h : Attempts job sink scope s start (unpostponed calls) last)
    (hstart : Saves job.backupRoot b saved start)
    (hspelled : ∀ file ∈ calls.map Prod.fst, ∃ names : Path, names.Spells file.path)
    (hsafe : ∀ own file after state, calls.map Prod.fst = own.map Prod.fst ++ file :: after →
      Attempts job sink scope s start (unpostponed own) state →
        HandsSafely job sink b scope s file state) :
    Saves job.backupRoot b (saved ++ calls.map Prod.fst) last ∧ last.cache = start.cache := by
  have hfiles : (unpostponed calls).map Prod.fst = calls.map Prod.fst := by
    rw [unpostponed, List.map_map]
    rfl
  rw [← hfiles] at hspelled ⊢
  refine saves_of_attempts h hstart hspelled fun before file result after state hsplit hbefore => ?_
  obtain ⟨own, rest, rfl, rfl, hrest⟩ := List.map_eq_append_iff.mp hsplit
  obtain ⟨call, more, rfl, hcall, -⟩ := List.map_eq_cons_iff.mp hrest
  cases hcall
  exact hsafe own call.1 (more.map Prod.fst) state (by simp) hbefore

/-- When a file is tried in the first pass, there are copies of those before it. -/
theorem saves_of_triedFirst (hrun : Saves job.backupRoot b [] run)
    (hsafe : SparesBackup job sink b run)
    {trace : List (SkeletonFile × Option Call)} {state : Run σ}
    (h : TriedFirst job sink run s trace file state) :
    Sourced s.files ∧ Saves job.backupRoot b (trace.map Prod.fst) state := by
  obtain ⟨⟨start, hlookup, hattempts⟩, after, hfiles⟩ := id h
  obtain ⟨hstart, -, -, hsourced⟩ := saves_of_lookup hrun hlookup
  obtain ⟨hstate, -⟩ := saves_of_attempts hattempts (hstart.congr rfl rfl)
    (fun other hother => hsourced.spelled other (hfiles ▸ List.mem_append_left _ hother))
    fun before other result more state hsplit hbefore =>
      hsafe _ s other state _ _ (.first ⟨⟨start, hlookup, hbefore⟩,
        more.map Prod.fst ++ file :: after, by rw [hfiles, hsplit]; simp⟩)
  exact ⟨hsourced, hstate⟩

/-- After the first pass there are copies of all files of the skeleton. -/
theorem saves_of_firstPass (hrun : Saves job.backupRoot b [] run)
    (hsafe : SparesBackup job sink b run) {trace : List (SkeletonFile × Option Call)}
    (h : FirstPass job sink run s trace next) :
    Knows next "project" job.project.skeletonName s ∧ Sourced s.files ∧
      Saves job.backupRoot b s.files next := by
  obtain ⟨⟨start, middle, hlookup, hattempts, rfl⟩, hfiles⟩ := h
  obtain ⟨hstart, -, hknows, hsourced⟩ := saves_of_lookup hrun hlookup
  obtain ⟨hmiddle, hcache⟩ := saves_of_attempts hattempts (hstart.congr rfl rfl)
    (hfiles ▸ hsourced.spelled) fun before file result after state hsplit hbefore =>
      hsafe _ s file state _ _ (.first ⟨⟨start, hlookup, hbefore⟩, after.map Prod.fst, by
        rw [← hfiles, hsplit, List.map_append, List.map_cons]⟩)
  rw [List.nil_append, hfiles] at hmiddle
  exact ⟨hknows.remembered (remembers_of_cache hcache), hsourced, hmiddle.congr rfl rfl⟩

theorem saves_of_renderProject (hrun : Saves job.backupRoot b [] run)
    (hsafe : SparesBackup job sink b run)
    (h : renderProject job sink run = .ok () last) :
    ∃ s saved, Knows last "project" job.project.skeletonName s ∧ Sourced s.files ∧
      saved ⊆ s.files ∧ s.files ⊆ saved ∧ Saves job.backupRoot b saved last := by
  obtain ⟨s, trace, between, hfirst, hsecond⟩ := exists_firstPass_of_renderProject h
  obtain ⟨second, hagain, hlater⟩ := secondPass_eq_ok_iff.mp hsecond
  obtain ⟨hknows, hsourced, hbetween⟩ := saves_of_firstPass hrun hsafe hfirst
  have hpostponed : second.map Prod.fst ⊆ s.files := by
    rw [hlater, ← hfirst.files]
    exact (List.filter_sublist.map Prod.fst).subset
  obtain ⟨hlast, hcache⟩ := saves_of_unpostponed hagain hbetween
    (fun file hfile => hsourced.spelled file (hpostponed hfile))
    fun own file after state hsplit hown =>
      hsafe _ s file state _ _ (.again ⟨trace, _, own, after, hfirst, hown, hlater ▸ hsplit, rfl⟩)
  exact ⟨s, _, hknows.remembered (remembers_of_cache hcache), hsourced,
    List.append_subset.mpr ⟨List.Subset.refl _, hpostponed⟩, List.subset_append_left _ _, hlast⟩

theorem saves_of_packageCalls {indices : List Nat} {visits : Visits}
    (h : PackageCalls job sink run indices visits last) (hrun : Saves job.backupRoot b saved run)
    (hsafe : ∀ earlier i later done here k s start own file after state,
      indices = earlier ++ i :: later → PackageCalls job sink run earlier done here →
        packageAt job here i = some k →
        lookup job.config "package" k.skeletonName here = .ok s start →
        Attempts { job with package := some k } sink (.ofPackage k job.project) s start
          (unpostponed own) state →
        s.files = own.map Prod.fst ++ file :: after →
          HandsSafely job sink b (.ofPackage k job.project) s file state) :
    ∃ skeletons,
      List.Forall₂ (fun k s => Knows last "package" k.skeletonName s) (visits.map Prod.fst)
          skeletons ∧
        (∀ s ∈ skeletons, Sourced s.files) ∧ Remembers run last ∧
        Saves job.backupRoot b (saved ++ skeletons.flatMap Skeleton.files) last := by
  induction h generalizing saved with
  | nil => exact ⟨[], .nil, by simp, fun _ _ => id, by simpa using hrun⟩
  | @cons run start next last i rest k s own more hpackage hlookup hattempts hfiles hpaths hrest
      ih =>
      obtain ⟨hstart, hremembers, hknows, hsourced⟩ := saves_of_lookup hrun hlookup
      obtain ⟨hnext, hcache⟩ := saves_of_unpostponed hattempts hstart (hfiles ▸ hsourced.spelled)
        fun own file after state hsplit hown =>
          hsafe [] i rest [] run k s start own file after state rfl .nil hpackage hlookup hown
            (hfiles ▸ hsplit)
      obtain ⟨skeletons, hall, hsources, hlater, hlast⟩ := ih hnext
        fun earlier other later done here k' s' start' own' file after state hsplit hearlier =>
          hsafe (i :: earlier) other later ((k, own) :: done) here k' s' start' own' file after state
            (by rw [hsplit]; rfl) (.cons hpackage hlookup hattempts hfiles hpaths hearlier)
      have hknown := hknows.remembered ((remembers_of_cache hcache).trans hlater)
      refine ⟨s :: skeletons, .cons hknown hall, List.forall_mem_cons.mpr ⟨hsourced, hsources⟩,
        (hremembers.trans (remembers_of_cache hcache)).trans hlater, ?_⟩
      rwa [List.flatMap_cons, ← List.append_assoc, ← hfiles]
  | @gone run last i rest more hpackage hrest ih =>
      exact ih hrun fun earlier other later done here k' s' start' own' file after state hsplit
        hearlier => hsafe (i :: earlier) other later done here k' s' start' own' file after state
          (by rw [hsplit]; rfl) (.gone hpackage hearlier)

theorem done_of_error {x : Running σ Unit} (h : x run = .error failure last)
    (hfailure : failure ≠ .foreign .postponed) : done x run = .error failure last := by
  rw [done, h]
  split
  · rename_i heq
    cases heq
  · rename_i heq
    cases heq
    exact absurd rfl hfailure
  · rename_i heq
    cases heq
    rfl

/-- The first pass ends at the first file that fails for another reason than that it has to wait. -/
theorem firstPass_of_stop {trace : List (SkeletonFile × Option Call)} {state : Run σ}
    (h : Attempts job sink scope s start trace state) (after : List SkeletonFile)
    (hstop : renderFile job sink scope s file state = .error failure last)
    (hfailure : failure ≠ .foreign .postponed) :
    firstPass (renderFile job sink scope s) (trace.map Prod.fst ++ file :: after) start =
      .error failure last := by
  induction h with
  | nil => exact Step.bind_of_error (done_of_error hstop hfailure) _
  | called _ _ hrender _ ih =>
      exact (Step.bind_of_ok (done_of_ok hrender) _).trans (ih hstop)
  | postponed hrender hrest ih =>
      exact (Step.bind_of_ok (done_of_postponed hrender) _).trans (Step.bind_of_error (ih hstop) _)

theorem renderFiles_of_stop {trace : List (SkeletonFile × Option Call)} {state : Run σ}
    (h : TriedFirst job sink run s trace file state)
    (hstop : renderFile job sink (.ofProject job.project) s file state = .error failure last)
    (hfailure : failure ≠ .foreign .postponed) :
    renderFiles job sink run = .error failure { last with postponing := false } := by
  obtain ⟨⟨start, hlookup, hattempts⟩, after, hfiles⟩ := h
  have hpass := firstPass_of_stop hattempts after hstop hfailure
  rw [← hfiles] at hpass
  have hclear : (modify fun run => { run with generated := [] } : Running σ Unit) start =
      .ok () { start with generated := [] } := rfl
  have hwhile : whilePostponing (firstPass (renderFile job sink (.ofProject job.project) s) s.files)
      { start with generated := [] } = .error failure { last with postponing := false } :=
    whilePostponing_eq_error_iff.mpr ⟨last, hpass, rfl⟩
  refine Step.bind_of_error ?_ _
  rw [renderProject, Step.bind_of_ok hlookup, Step.bind_of_ok hclear, Step.bind_of_error hwhile]

theorem isBackup_of_renderFiles (hrun : Saves job.backupRoot b [] run)
    (hsafe : SparesBackup job sink b run)
    (h : renderFiles job sink run = .ok () last) : ∃ s middle visits skeletons,
      lookup job.config "project" job.project.skeletonName last = .ok s last ∧
        renderProject job sink run = .ok () middle ∧
        PackageCalls job sink middle (List.range job.project.packages.length) visits last ∧
        List.Forall₂ (fun k s => lookup job.config "package" k.skeletonName last = .ok s last)
          (visits.map Prod.fst) skeletons ∧
        last.disk.IsBackup job.backupRoot b (lastFile? (s :: skeletons)) := by
  obtain ⟨_, middle, hproject, hpackages⟩ := bind_eq_ok_iff.mp h
  obtain ⟨calls, hcalls⟩ := exists_projectCalls hproject
  obtain ⟨visits, hvisits⟩ := exists_packageCalls hpackages
  obtain ⟨s, saved, hknows, hsourced, hsub, hall, hmiddle⟩ :=
    saves_of_renderProject hrun hsafe hproject
  obtain ⟨skeletons, hknown, hsources, hremembers, hlast⟩ := saves_of_packageCalls hvisits hmiddle
    fun earlier i later done here k s start own file after state hsplit hdone hpackage hlookup hown
        hfiles =>
      hsafe _ s file state _ _ (.inPackage
        ⟨calls, middle, earlier, i, later, done, hcalls, hsplit, hdone, hpackage, rfl⟩ hlookup hown
        hfiles)
  refine ⟨s, middle, visits, skeletons, (hknows.remembered hremembers).lookup_eq job.config,
    hproject, hvisits, hknown.imp fun k s hs => hs.lookup_eq job.config, ?_⟩
  have hsame : fileAt? (saved ++ skeletons.flatMap Skeleton.files).reverse =
      lastFile? (s :: skeletons) := by
    funext path
    rw [Skeleton.fileAt?_reverse_append, Skeleton.lastFile?_cons,
      Skeleton.fileAt?_flatMap fun s hs => (hsources s hs).ascending,
      hsourced.ascending.fileAt?_eq (List.reverse_subset.mpr hsub) (List.subset_reverse.mpr hall)]
  exact hsame ▸ hlast.backup

theorem isBackup_of_stop (hrun : Saves job.backupRoot b [] run)
    (hsafe : SparesBackup job sink b run)
    {trace : List (SkeletonFile × Option Call)} {state : Run σ}
    (h : TriedFirst job sink run s trace file state) (hkept : backup job file state = .ok () kept)
    (hstop : renderFile job sink (.ofProject job.project) s file state = .error failure last) :
    last.disk.IsBackup job.backupRoot b (fileAt? (trace.map Prod.fst ++ [file])) := by
  obtain ⟨hsourced, hstate⟩ := saves_of_triedFirst hrun hsafe h
  obtain ⟨after, hfiles⟩ := h.files
  have hfront : (trace.map Prod.fst ++ [file]) <+: s.files := ⟨after, by rw [hfiles]; simp⟩
  have hlast := saves_of_renderFile hstate (hsourced.spelled file (hfront.subset (by simp))) hkept
    (hsafe _ s file state _ _ (.first h))
  rw [hstop] at hlast
  have hascending : Skeleton.Ascending (trace.map Prod.fst ++ [file]) :=
    hsourced.ascending.sublist hfront.sublist
  exact hascending.fileAt?_reverse ▸ hlast.backup

end

/-- A job for a project with a package, both with the same skeleton. -/
def copyingJob : Job :=
  { askingJob with
    project := {
      name := "p"
      packages := [{ name := "k", dir := "lib", skeleton := some "program" }] } }

/-- The state in which this skeleton is known as it is loaded from a tree. -/
def copyingRun : Run (List Request) where
  disk := Disk.empty
  sink := []
  cache := [
    ("project", [("program", Catalog.nestedSkeleton)]),
    ("package", [("program", Catalog.nestedSkeleton)])]

/-- A sink to which one path cannot be written. -/
def refusing (path : Text) : Sink (List Request) := fun request both =>
  if request.path = path then .error (.disk .denied path) both else recordRequest request both

theorem isLoaded_copyingRun : copyingRun.cache.IsLoaded := by
  have htree : Catalog.nestedDisk.IsFileTree := ⟨Catalog.isTree_nestedDisk, by decide +kernel⟩
  intro kind catalog hcatalog
  have hsame : catalog = [(("program" : Text), Catalog.nestedSkeleton)] := by
    rcases List.mem_pair.mp (Keyed.mem_of_get? hcatalog) with hentry | hentry
    · exact (Prod.mk.inj hentry).2
    · exact (Prod.mk.inj hentry).2
  exact ⟨_, _, _, _, htree, hsame ▸ Catalog.load_nestedDisk⟩

theorem isBackup_copyingRun :
    copyingRun.disk.IsBackup copyingJob.backupRoot (Path.ofTexts ["state", "skeleton"])
      fun _ => none := by
  have hempty (p : Path) : Disk.empty.get? p = none ∨
      Disk.empty.get? p = some (.directory newDirectoryMode) := by
    by_cases hp : [] = p <;> simp [Disk.empty, Disk.get?, Keyed.get?, hp]
  have hmake : Step.outcome (Disk.makeDirectories copyingJob.backupRoot Disk.empty) = .ok () := by
    decide +kernel
  have hmade := Step.ok_of_outcome hmake
  refine ⟨⟨⟨by decide, by decide⟩, by decide⟩, ⟨_, newDirectoryMode, hmade, ?_, by decide +kernel⟩,
    by simp, fun names content mode _ hfile => ?_, fun names target hlink => ?_⟩
  · exact ⟨⟨by decide +kernel, by decide +kernel⟩, by decide +kernel⟩
  · rcases hempty (Path.ofTexts ["state", "skeleton"] ++ names) with hnone | hdirectory
    · cases hnone.symm.trans hfile
    · cases hdirectory.symm.trans hfile
  · rcases hempty (Path.ofTexts ["state", "skeleton"] ++ names) with hnone | hdirectory
    · cases hnone.symm.trans hlink
    · cases hdirectory.symm.trans hlink

end Run

end Scaffold
