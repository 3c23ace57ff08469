import Scaffold.Proofs.Passes
import Scaffold.Proofs.Simulation

/-!
Runs in lockstep. Two runs for one project go alike, whatever their worlds are, the disk and the
state of the sink, as long as these are related in a way that everything that touches them keeps: the
sinks answer alike, the copies of the sources are kept alike, and the same catalogs are loaded.
-/

namespace Scaffold

open Step (InStep Matches)

variable {σ τ α : Type}

/-- Where the copy of the source of a file is kept. -/
def Job.copyAt (job : Job) (file : SkeletonFile) : Location :=
  (job.backupDir.getD job.config.backupDir).child file.path

/-- Keeps a copy of the source of a file. -/
def Job.keepCopy (job : Job) (file : SkeletonFile) : OnDisk Unit :=
  Disk.placeFile (job.copyAt file) file.content.encode file.permissions

/-- Where the catalog of a kind is loaded from. -/
def Cache.source (config : Config) (kind : Text) : Catalog.Source where
  kind := kind
  base := config.skeletonDir kind
  verbose := config.verbose

/-- The catalogs that a run may find for a kind: the one that it knows at first, or else what it
loads from one of the disks that it may have. -/
inductive Cache.Offers (config : Config) (cache : Cache) (P : Disk → Prop) (kind : Text) :
    Catalog → Prop
  | known {catalog : Catalog} (hknown : cache.get? kind = some catalog) :
      Offers config cache P kind catalog
  | loaded {catalog : Catalog} {d : Disk} {warnings after : List Warning}
      (hunknown : cache.get? kind = none) (hd : P d)
      (hload : Catalog.load d (source config kind) warnings = .ok catalog after) :
      Offers config cache P kind catalog

/-- What holds in common of two jobs with their sinks, so that they go alike from related worlds. -/
structure Accord (job other : Job) (sink : Sink σ) (sink' : Sink τ) (cache : Cache)
    (Q : Disk × σ → Disk × τ → Prop) : Prop where
  config_eq : other.config = job.config
  project_eq : other.project = job.project
  substitute_eq : other.substitute = job.substitute
  answers : ∀ request, InStep Q (sink request) (sink' request)
  loads : ∀ kind, cache.get? kind = none → ∀ w w', Q w w' →
    Catalog.load w.1 (Cache.source job.config kind) =
      Catalog.load w'.1 (Cache.source job.config kind)
  copies : ∀ kind catalog name s file,
    cache.Offers job.config (fun d => ∃ w w', Q w w' ∧ w.1 = d) kind catalog →
      catalog.lookup name = .ok s → file ∈ s.files → ∀ w w', Q w w' →
        Matches (fun d d' => Q (d, w.2) (d', w'.2)) (job.keepCopy file w.1)
          (other.keepCopy file w'.1)

theorem Accord.refl (job : Job) (sink : Sink σ) (cache : Cache) :
    Accord job job sink sink cache Eq where
  config_eq := rfl
  project_eq := rfl
  substitute_eq := rfl
  answers request := Step.inStep_refl (sink request)
  loads kind _ w w' hw := by rw [hw]
  copies kind catalog name s file _ _ _ w w' hw := by
    subst hw
    exact (Step.inStep_refl (job.keepCopy file) rfl).imp fun d d' hd => by rw [hd]

namespace Run

/-- The disk of a run with the state of its sink. -/
def world (run : Run σ) : Disk × σ := (run.disk, run.sink)

/-- Two runs that have come equally far, in related worlds and with related lists of what they have
generated. The catalogs that they know are on offer. -/
structure Twin (config : Config) (cache : Cache) (Q : Disk × σ → Disk × τ → Prop)
    (G : List Text → List Text → Prop) (run : Run σ) (other : Run τ) : Prop where
  world : Q run.world other.world
  generated : G run.generated other.generated
  cache_eq : other.cache = run.cache
  postponing_eq : other.postponing = run.postponing
  warnings_eq : other.warnings = run.warnings
  changes_eq : other.changes = run.changes
  unknown : ∀ kind, run.cache.get? kind = none → cache.get? kind = none
  offered : ∀ kind catalog, run.cache.get? kind = some catalog →
    cache.Offers config (fun d => ∃ w w', Q w w' ∧ w.1 = d) kind catalog

section

variable {config : Config} {cache : Cache} {Q : Disk × σ → Disk × τ → Prop}
  {G : List Text → List Text → Prop} {run next : Run σ} {other : Run τ}

theorem inStep_logging (x : Logging α) :
    InStep (Twin config cache Q G) (logging x) (logging x) := by
  refine Step.inStep_focus (Step.inStep_refl x) (fun run other h => ?_) ?_
  · rw [log, log, h.warnings_eq, h.changes_eq]
  · rintro run other log _ h rfl
    exact { h with warnings_eq := rfl, changes_eq := rfl }

theorem catalog_of_known {kind : Text} {catalog : Catalog}
    (hknown : run.cache.get? kind = some catalog) :
    Run.catalog config kind run = .ok catalog run := by
  simp only [Run.catalog, Cache.fetch, Step.get_bind, hknown]
  rfl

theorem catalog_of_unknown {kind : Text} (hunknown : run.cache.get? kind = none) :
    Run.catalog config kind run =
      match Catalog.load run.disk (Cache.source config kind) run.warnings with
      | .ok catalog warnings =>
          .ok catalog { run with cache := run.cache.insert kind catalog, warnings := warnings }
      | .error failure warnings => .error failure { run with warnings := warnings } := by
  change (report (Cache.fetch config run.disk kind run.cache) >>= fun found : Catalog × Cache => do
    modify fun run => { run with cache := found.2 }
    pure found.1) run = _
  have hfetch : Cache.fetch config run.disk kind run.cache =
      (do
        let catalog ← Catalog.load run.disk (Cache.source config kind)
        pure (catalog, run.cache.insert kind catalog)) := by
    simp only [Cache.fetch, hunknown]
    rfl
  rw [hfetch, Step.bind_apply, report, focus, Step.bind_apply]
  cases Catalog.load run.disk (Cache.source config kind) run.warnings <;> rfl

theorem catalog_of_load {kind : Text} {catalog : Catalog} {warnings : List Warning}
    (hunknown : run.cache.get? kind = none)
    (hload : Catalog.load run.disk (Cache.source config kind) run.warnings =
      .ok catalog warnings) :
    Run.catalog config kind run =
      .ok catalog { run with cache := run.cache.insert kind catalog, warnings := warnings } := by
  rw [catalog_of_unknown hunknown, hload]

theorem inStep_catalog (kind : Text)
    (hloads : ∀ kind, cache.get? kind = none → ∀ w w', Q w w' →
      Catalog.load w.1 (Cache.source config kind) =
        Catalog.load w'.1 (Cache.source config kind)) :
    InStep (Twin config cache Q G) (Run.catalog config kind) (Run.catalog config kind) := by
  intro run other h
  cases hcache : run.cache.get? kind with
  | some catalog =>
      rw [catalog_of_known hcache, catalog_of_known (by rw [h.cache_eq, hcache])]
      exact .ok h
  | none =>
      have hunknown := h.unknown kind hcache
      have hsame : Catalog.load run.disk (Cache.source config kind) =
          Catalog.load other.disk (Cache.source config kind) :=
        hloads kind hunknown run.world other.world h.world
      rw [catalog_of_unknown hcache, catalog_of_unknown (by rw [h.cache_eq, hcache]),
        h.warnings_eq, h.cache_eq, ← hsame]
      cases hload : Catalog.load run.disk (Cache.source config kind) run.warnings with
      | error failure warnings => exact .error { h with cache_eq := rfl, warnings_eq := rfl }
      | ok catalog warnings =>
          -- From now on the loaded catalog is known, and it is on offer as it was loaded.
          refine .ok { h with cache_eq := rfl, warnings_eq := rfl, unknown := ?_, offered := ?_ }
          · intro other hother
            rw [Keyed.get?_insert] at hother
            split at hother
            · cases hother
            · exact h.unknown other hother
          · intro other found hfound
            rw [Keyed.get?_insert] at hfound
            split at hfound
            · rename_i hkind
              cases hfound
              rw [hkind]
              exact .loaded hunknown ⟨_, _, h.world, rfl⟩ hload
            · exact h.offered other found hfound

theorem offers_of_catalog {kind : Text} {catalog : Catalog} (h : Twin config cache Q G run other)
    (hcatalog : Run.catalog config kind run = .ok catalog next) :
    cache.Offers config (fun d => ∃ w w', Q w w' ∧ w.1 = d) kind catalog := by
  cases hcache : run.cache.get? kind with
  | some found =>
      rw [catalog_of_known hcache] at hcatalog
      cases hcatalog
      exact h.offered kind _ hcache
  | none =>
      rw [catalog_of_unknown hcache] at hcatalog
      cases hload : Catalog.load run.disk (Cache.source config kind) run.warnings with
      | error failure warnings =>
          rw [hload] at hcatalog
          cases hcatalog
      | ok found warnings =>
          rw [hload] at hcatalog
          cases hcatalog
          exact .loaded (h.unknown kind hcache) ⟨_, _, h.world, rfl⟩ hload

end

section

variable {job other : Job} {sink : Sink σ} {sink' : Sink τ} {cache : Cache}
  {Q : Disk × σ → Disk × τ → Prop} {G : List Text → List Text → Prop}

/-- The skeletons that a run may find. -/
def Finds (job : Job) (cache : Cache) (Q : Disk × σ → Disk × τ → Prop) (s : Skeleton) : Prop :=
  ∃ kind catalog name,
    cache.Offers job.config (fun d => ∃ w w', Q w w' ∧ w.1 = d) kind catalog ∧
      catalog.lookup name = .ok s

theorem inStep_lookup (haccord : Accord job other sink sink' cache Q) (kind name : Text) :
    InStep (Twin job.config cache Q G) (lookup job.config kind name)
      (lookup other.config kind name) := by
  rw [haccord.config_eq]
  exact (inStep_catalog kind haccord.loads).bind fun catalog => Step.inStep_lift _

theorem finds_of_lookup {kind name : Text} {s : Skeleton} {run next : Run σ} {run' : Run τ}
    (h : Twin job.config cache Q G run run')
    (hlookup : lookup job.config kind name run = .ok s next) : Finds job cache Q s := by
  obtain ⟨catalog, _, hcatalog, hlift⟩ := Step.bind_eq_ok_iff.mp hlookup
  exact ⟨kind, catalog, name, offers_of_catalog h hcatalog, (Step.lift_eq_ok_iff.mp hlift).1⟩

theorem backup_eq (job : Job) (file : SkeletonFile) :
    (backup job file : Running σ Unit) = onDisk (job.keepCopy file) := rfl

theorem inStep_backup (haccord : Accord job other sink sink' cache Q) {s : Skeleton}
    (hfinds : Finds job cache Q s) {file : SkeletonFile} (hfile : file ∈ s.files) :
    InStep (Twin job.config cache Q G) (backup job file) (backup other file) := by
  obtain ⟨kind, catalog, name, hoffers, hlookup⟩ := hfinds
  intro run run' h
  have hstep := haccord.copies kind catalog name s file hoffers hlookup hfile _ _ h.world
  rw [backup_eq, backup_eq, onDisk, onDisk, focus, focus]
  change Matches _ (job.keepCopy file run.disk) (other.keepCopy file run'.disk) at hstep
  generalize job.keepCopy file run.disk = left at hstep ⊢
  generalize other.keepCopy file run'.disk = right at hstep ⊢
  cases hstep with
  | ok hworld => exact .ok { h with world := hworld }
  | error hworld => exact .error { h with world := hworld }

theorem inStep_handOver (haccord : Accord job other sink sink' cache Q) (request : Request) :
    InStep (Twin job.config cache Q G) (handOver sink request) (handOver sink' request) := by
  refine Step.inStep_focus (haccord.answers request) (fun run run' h => h.world) ?_
  intro run run' w w' h hw
  exact { h with world := hw }

theorem inStep_renderFile (haccord : Accord job other sink sink' cache Q) (scope : Scope)
    {s : Skeleton} (hfinds : Finds job cache Q s) {file : SkeletonFile} (hfile : file ∈ s.files) :
    InStep (Twin job.config cache Q Eq) (renderFile job sink scope s file)
      (renderFile other sink' scope s file) := by
  refine (inStep_backup haccord hfinds hfile).bind fun _ => Step.inStep_get_bind ?_
  intro run run' h
  rw [haccord.substitute_eq, haccord.project_eq, h.postponing_eq, h.generated, h.changes_eq]
  refine (inStep_logging _).bind fun request => (inStep_handOver haccord request).bind fun _ => ?_
  refine Step.inStep_get_bind fun done done' hdone => ?_
  rw [hdone.changes_eq]
  refine Step.inStep_ite (Step.inStep_pure ()) (Step.inStep_modify ?_)
  intro next next' hnext
  exact { hnext with generated := by rw [hnext.generated] }

end

section

variable {R : Run σ → Run τ → Prop} {render : SkeletonFile → Running σ Unit}
  {render' : SkeletonFile → Running τ Unit} {files : List SkeletonFile}

theorem inStep_done {x : Running σ Unit} {y : Running τ Unit} (h : InStep R x y) :
    InStep R (done x) (done y) := by
  intro run other hrun
  have hstep := h hrun
  unfold done
  generalize x run = left at hstep ⊢
  generalize y other = right at hstep ⊢
  cases hstep with
  | ok hnext => exact .ok hnext
  | @error failure next next' hnext =>
      cases failure with
      | foreign fault =>
          cases fault with
          | postponed => exact .ok hnext
          | _ => exact .error hnext
      | _ => exact .error hnext

theorem inStep_firstPass (hrender : ∀ file ∈ files, InStep R (render file) (render' file)) :
    InStep R (firstPass render files) (firstPass render' files) := by
  induction files with
  | nil => exact Step.inStep_pure []
  | cons file rest ih =>
      obtain ⟨hfile, hrest⟩ := List.forall_mem_cons.mp hrender
      refine (inStep_done hfile).bind fun finished => ?_
      exact Step.inStep_ite (ih hrest) ((ih hrest).bind fun later => Step.inStep_pure _)

theorem inStep_secondPass (hrender : ∀ file ∈ files, InStep R (render file) (render' file)) :
    InStep R (secondPass render files) (secondPass render' files) := by
  induction files with
  | nil => exact Step.inStep_pure ()
  | cons file rest ih =>
      obtain ⟨hfile, hrest⟩ := List.forall_mem_cons.mp hrender
      refine (inStep_done hfile).bind fun finished => ?_
      exact Step.inStep_ite (ih hrest) (Step.inStep_throw _)

theorem inStep_renderAll (hrender : ∀ file ∈ files, InStep R (render file) (render' file)) :
    InStep R (renderAll render files) (renderAll render' files) := by
  induction files with
  | nil => exact Step.inStep_pure ()
  | cons file rest ih =>
      obtain ⟨hfile, hrest⟩ := List.forall_mem_cons.mp hrender
      exact hfile.bind fun _ => ih hrest

/-- The first pass gives back some of its files. -/
theorem sublist_of_firstPass {run next : Run σ} {later : List SkeletonFile}
    (h : firstPass render files run = .ok later next) : later.Sublist files := by
  induction files generalizing run later with
  | nil =>
      cases h
      exact .slnil
  | cons file rest ih =>
      obtain ⟨finished, middle, -, hrest⟩ := Step.bind_eq_ok_iff.mp h
      cases finished with
      | true => exact (ih hrest).cons file
      | false =>
          obtain ⟨more, _, hmore, hpure⟩ := Step.bind_eq_ok_iff.mp hrest
          cases hpure
          exact (ih hmore).cons_cons file

theorem inStep_whilePostponing {x : Running σ α} {y : Running τ α} (h : InStep R x y)
    (hset : ∀ run other postponing, R run other →
      R { run with postponing := postponing } { other with postponing := postponing }) :
    InStep R (whilePostponing x) (whilePostponing y) := by
  intro run other hrun
  have hstep := h (hset run other true hrun)
  unfold whilePostponing
  generalize x { run with postponing := true } = left at hstep ⊢
  generalize y { other with postponing := true } = right at hstep ⊢
  cases hstep with
  | ok hnext => exact .ok (hset _ _ false hnext)
  | error hnext => exact .error (hset _ _ false hnext)

end

/-- Both passes over the files of a skeleton. -/
def renderPasses (job : Job) (sink : Sink σ) (s : Skeleton) : Running σ Unit := do
  let render := renderFile job sink (.ofProject job.project) s
  let later ← whilePostponing (firstPass render s.files)
  secondPass render later

theorem renderProject_of_lookup {job : Job} {sink : Sink σ} {s : Skeleton} {run next : Run σ}
    (h : lookup job.config "project" job.project.skeletonName run = .ok s next) :
    renderProject job sink run = renderPasses job sink s { next with generated := [] } := by
  rw [renderProject, Step.bind_of_ok h]
  rfl

section

variable {job other : Job} {sink : Sink σ} {sink' : Sink τ} {cache : Cache}
  {Q : Disk × σ → Disk × τ → Prop} {G : List Text → List Text → Prop}

theorem inStep_renderPasses (haccord : Accord job other sink sink' cache Q) {s : Skeleton}
    (hfinds : Finds job cache Q s) :
    InStep (Twin job.config cache Q Eq) (renderPasses job sink s) (renderPasses other sink' s) := by
  have hrender (file : SkeletonFile) (hfile : file ∈ s.files) :
      InStep (Twin job.config cache Q Eq) (renderFile job sink (.ofProject job.project) s file)
        (renderFile other sink' (.ofProject other.project) s file) := by
    rw [haccord.project_eq]
    exact inStep_renderFile haccord _ hfinds hfile
  have hfirst := inStep_whilePostponing (inStep_firstPass hrender) fun run run' _ h =>
    { h with postponing_eq := rfl }
  refine hfirst.bind_of_ok fun later ⟨run, run', next, _, hpass⟩ => inStep_secondPass ?_
  intro file hfile
  obtain ⟨middle, hmiddle, -⟩ := whilePostponing_eq_ok_iff.mp hpass
  exact hrender file ((sublist_of_firstPass hmiddle).subset hfile)

theorem inStep_renderProject (haccord : Accord job other sink sink' cache Q) :
    InStep (Twin job.config cache Q Eq) (renderProject job sink) (renderProject other sink') := by
  have hlookup := inStep_lookup (G := Eq) haccord "project" job.project.skeletonName
  rw [renderProject, renderProject, haccord.project_eq]
  refine hlookup.bind_of_ok fun s hreached => InStep.bind ?_ fun _ => ?_
  · exact Step.inStep_modify fun run run' h => { h with generated := rfl }
  · obtain ⟨run, run', next, hrun, hs⟩ := hreached
    have hpasses := inStep_renderPasses haccord (finds_of_lookup hrun hs)
    rw [renderPasses, renderPasses, haccord.project_eq] at hpasses
    exact hpasses

theorem inStep_renderPackages (haccord : Accord job other sink sink' cache Q)
    (indices : List Nat) :
    InStep (Twin job.config cache Q Eq) (renderPackages job sink indices)
      (renderPackages other sink' indices) := by
  induction indices with
  | nil => exact Step.inStep_pure ()
  | cons i rest ih =>
      intro run run' h
      have hsame : packageAt other run' i = packageAt job run i := by
        rw [packageAt, packageAt, haccord.project_eq, h.changes_eq]
      cases hpackage : packageAt job run i with
      | none =>
          rw [renderPackages_of_none _ hpackage, renderPackages_of_none _ (hsame.trans hpackage)]
          exact ih h
      | some k =>
          rw [renderPackages_of_some _ hpackage, renderPackages_of_some _ (hsame.trans hpackage)]
          -- An accord says nothing about packages, so it goes on for each of them.
          have haccord' : Accord { job with package := some k } { other with package := some k }
              sink sink' cache Q := { haccord with }
          refine (InStep.bind ?_ fun _ => ih) h
          have hlookup := inStep_lookup (G := Eq) haccord "package" k.skeletonName
          refine hlookup.bind_of_ok fun s hfound => inStep_renderAll ?_
          obtain ⟨run, run', next, hrun, hs⟩ := hfound
          intro file hfile
          have hscope : Scope.ofPackage k other.project = .ofPackage k job.project := by
            rw [haccord.project_eq]
          change InStep _ _ (renderFile _ _ (.ofPackage k other.project) s file)
          rw [hscope]
          exact inStep_renderFile haccord' _ (finds_of_lookup hrun hs) hfile

/-- Jobs that accord do the same from runs that have come equally far. -/
theorem inStep_renderFiles (haccord : Accord job other sink sink' cache Q) :
    InStep (Twin job.config cache Q Eq) (renderFiles job sink) (renderFiles other sink') := by
  refine (inStep_renderProject haccord).bind fun _ => ?_
  rw [haccord.project_eq]
  exact inStep_renderPackages haccord _

end

end Run

end Scaffold
