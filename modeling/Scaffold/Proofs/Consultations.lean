import Scaffold.Proofs.Histories

/-!
Operations through a cache. An operation looks at the known catalogs, and changes them, only where it
asks for a catalog, so it depends on no catalogs but those of the kinds that it is about.
-/

namespace Scaffold

open Step (InStep Matches state)

variable {σ α β : Type}

/-- The same job with the configuration of a cache. -/
def Job.through (job : Job) (config : Config) : Job := { job with config := config }

namespace Run

section

variable (supply : Text → Running σ Catalog)

/-- The resolved skeleton of a kind and a name, from the supplied catalogs. -/
def lookupVia (kind name : Text) : Running σ Skeleton := do
  (← supply kind).lookup name

/-- Renders the skeleton of the project, from the supplied catalogs. -/
def projectVia (job : Job) (sink : Sink σ) : Running σ Unit := do
  let s ← lookupVia supply "project" job.project.skeletonName
  modify fun run => { run with generated := [] }
  renderPasses job sink s

/-- Renders the skeleton of the package, from the supplied catalogs. -/
def packageVia (job : Job) (sink : Sink σ) : Running σ Unit := do
  match job.package with
  | none => throw (.misuse .noPackage)
  | some k =>
      let s ← lookupVia supply "package" k.skeletonName
      renderAll (renderFile job sink (.ofPackage k job.project) s) s.files

/-- Renders the skeletons of the packages at some indices of the packages of the project, from the
supplied catalogs. -/
def packagesVia (job : Job) (sink : Sink σ) : List Nat → Running σ Unit
  | [] => pure ()
  | i :: rest => do
      match packageAt job (← get) i with
      | some k => packageVia supply { job with package := some k } sink
      | none => pure ()
      packagesVia job sink rest

/-- A task as a step, with the supplied catalogs. -/
def Task.via (job : Job) (sink : Sink σ) : Task → Running σ Unit
  | project => projectVia supply job sink
  | package k => packageVia supply { job with package := k } sink
  | files => do
      projectVia supply job sink
      packagesVia supply job sink (List.range job.project.packages.length)

end

/-- What a cache is used for. -/
inductive Operation (σ : Type) where
  /-- To get the catalog of a kind. -/
  | catalog (kind : Text)
  /-- To list the skeletons of a kind. -/
  | skeletons (kind : Text)
  /-- To resolve a skeleton. -/
  | lookup (kind name : Text)
  /-- To name the known skeletons. -/
  | known
  /-- To render. -/
  | render (job : Job) (task : Task) (sink : Sink σ)

/-- What an operation answers. -/
inductive Answer where
  | catalog (catalog : Catalog)
  | skeletons (skeletons : List Skeleton)
  | skeleton (s : Skeleton)
  | text (t : Text)
  | rendered
  deriving DecidableEq

/-- An operation as a step through a cache. -/
def Operation.perform (config : Config) : Operation σ → Running σ Answer
  | catalog kind => do return .catalog (← Run.catalog config kind)
  | skeletons kind => do return .skeletons (← Run.catalog config kind).sortedSkeletons
  | lookup kind name => do return .skeleton (← Run.lookup config kind name)
  | known => do return .text (← Run.known config)
  | render job task sink => do
      task.perform (job.through config) sink
      return .rendered

/-- An operation as a step with supplied catalogs. -/
def Operation.via (config : Config) (supply : Text → Running σ Catalog) :
    Operation σ → Running σ Answer
  | catalog kind => do return .catalog (← supply kind)
  | skeletons kind => do return .skeletons (← supply kind).sortedSkeletons
  | lookup kind name => do return .skeleton (← lookupVia supply kind name)
  | known => do
      let projects ← supply "project"
      let packages ← supply "package"
      return .text (knownSkeletons projects packages)
  | render job task sink => do
      task.via supply (job.through config) sink
      return .rendered

theorem renderProject_eq_via (job : Job) (sink : Sink σ) :
    renderProject job sink = projectVia (Run.catalog job.config) job sink := rfl

theorem renderPackages_eq_via (job : Job) (sink : Sink σ) (indices : List Nat) :
    renderPackages job sink indices = packagesVia (Run.catalog job.config) job sink indices := by
  induction indices with
  | nil => rfl
  | cons i rest ih =>
      rw [renderPackages, ih]
      rfl

theorem packagesVia_of_some (supply : Text → Running σ Catalog) {job : Job} (sink : Sink σ)
    {run : Run σ} {i : Nat} {k : Package} (rest : List Nat) (h : packageAt job run i = some k) :
    packagesVia supply job sink (i :: rest) run = (do
      packageVia supply { job with package := some k } sink
      packagesVia supply job sink rest) run := by
  rw [packagesVia, Step.get_bind, h]

theorem packagesVia_of_none (supply : Text → Running σ Catalog) {job : Job} (sink : Sink σ)
    {run : Run σ} {i : Nat} (rest : List Nat) (h : packageAt job run i = none) :
    packagesVia supply job sink (i :: rest) run = packagesVia supply job sink rest run := by
  rw [packagesVia, Step.get_bind, h]

theorem Task.perform_eq_via (job : Job) (sink : Sink σ) (task : Task) :
    task.perform job sink = task.via (Run.catalog job.config) job sink := by
  cases task with
  | project => rfl
  | package k => rfl
  | files =>
      rw [perform, renderFiles, renderPackages_eq_via, renderProject_eq_via]
      rfl

theorem Operation.perform_eq_via (config : Config) (operation : Operation σ) :
    operation.perform config = operation.via config (Run.catalog config) := by
  cases operation with
  | render job task sink => rw [perform, Task.perform_eq_via]; rfl
  | known => rw [perform, Run.known, via]; simp only [bind_assoc, pure_bind]
  | _ => rfl

/-- Two runs that differ only in the catalogs that they know. -/
def Recached (cache cache' : Cache) (run other : Run σ) : Prop :=
  run.cache = cache ∧ other = { run with cache := cache' }

/-- A step that neither looks at the known catalogs nor changes them. -/
def IgnoresCache (x : Running σ α) : Prop :=
  ∀ cache cache', InStep (Recached cache cache') x x

section

variable {cache cache' : Cache}

theorem ignoresCache_focus {τ : Type} {get : Run σ → τ} {set : Run σ → τ → Run σ}
    (x : EStateM Failure τ α) (hget : ∀ run cache, get { run with cache := cache } = get run)
    (hset : ∀ run t cache, set { run with cache := cache } t = { set run t with cache := cache })
    (hcache : ∀ run t, (set run t).cache = run.cache) : IgnoresCache (focus get set x) := by
  refine fun cache cache' => Step.inStep_focus (Step.inStep_refl x) ?_ ?_
  · rintro run _ ⟨-, rfl⟩
    exact (hget run cache').symm
  · rintro run _ t _ ⟨hrun, rfl⟩ rfl
    exact ⟨(hcache run t).trans hrun, hset run t cache'⟩

theorem ignoresCache_modify {f : Run σ → Run σ} (hcache : ∀ run, (f run).cache = run.cache)
    (hf : ∀ run cache, f { run with cache := cache } = { f run with cache := cache }) :
    IgnoresCache (modify f : Running σ Unit) := by
  refine fun cache cache' => Step.inStep_modify ?_
  rintro run _ ⟨hrun, rfl⟩
  exact ⟨(hcache run).trans hrun, hf run cache'⟩

theorem ignoresCache_renderFile (job : Job) (sink : Sink σ) (scope : Scope) (s : Skeleton)
    (file : SkeletonFile) : IgnoresCache (renderFile job sink scope s file) := by
  intro cache cache'
  have hbackup : IgnoresCache (backup job file : Running σ Unit) :=
    ignoresCache_focus _ (fun _ _ => rfl) (fun _ _ _ => rfl) fun _ _ => rfl
  have hlogging (x : Logging Request) : IgnoresCache (logging x : Running σ Request) :=
    ignoresCache_focus x (fun _ _ => rfl) (fun _ _ _ => rfl) fun _ _ => rfl
  have hhand (request : Request) : IgnoresCache (handOver sink request) :=
    ignoresCache_focus _ (fun _ _ => rfl) (fun _ _ _ => rfl) fun _ _ => rfl
  refine (hbackup cache cache').bind fun _ => Step.inStep_get_bind ?_
  rintro run _ ⟨-, rfl⟩
  refine (hlogging _ cache cache').bind fun request =>
    (hhand request cache cache').bind fun _ => Step.inStep_get_bind ?_
  rintro run _ ⟨-, rfl⟩
  refine Step.inStep_ite (Step.inStep_pure ()) (ignoresCache_modify ?_ ?_ cache cache')
  · exact fun _ => rfl
  · exact fun _ _ => rfl

theorem ignoresCache_renderPasses (job : Job) (sink : Sink σ) (s : Skeleton) :
    IgnoresCache (renderPasses job sink s) := by
  intro cache cache'
  have hrender (file : SkeletonFile) :=
    ignoresCache_renderFile job sink (.ofProject job.project) s file cache cache'
  refine InStep.bind (inStep_whilePostponing (inStep_firstPass fun file _ => hrender file) ?_)
    fun later => inStep_secondPass fun file _ => hrender file
  rintro run _ postponing ⟨hrun, rfl⟩
  exact ⟨hrun, rfl⟩

theorem ignoresCache_renderAll (job : Job) (sink : Sink σ) (scope : Scope) (s : Skeleton) :
    IgnoresCache (renderAll (renderFile job sink scope s) s.files) :=
  fun cache cache' => inStep_renderAll fun file _ =>
    ignoresCache_renderFile job sink scope s file cache cache'

theorem ignoresCache_lift (x : Except Failure α) : IgnoresCache (liftM x : Running σ α) :=
  fun _ _ => Step.inStep_lift x

theorem ignoresCache_pure (a : α) : IgnoresCache (pure a : Running σ α) :=
  fun _ _ => Step.inStep_pure a

theorem ignoresCache_throw (failure : Failure) : IgnoresCache (throw failure : Running σ α) :=
  fun _ _ => Step.inStep_throw failure

theorem IgnoresCache.bind {x : Running σ α} {f : α → Running σ β} (hx : IgnoresCache x)
    (hf : ∀ a, IgnoresCache (f a)) : IgnoresCache (x >>= f) :=
  fun cache cache' => (hx cache cache').bind fun a => hf a cache cache'

/-- What rendering the project does once its skeleton is found. -/
theorem ignoresCache_afterLookup (job : Job) (sink : Sink σ) (s : Skeleton) :
    IgnoresCache (do
      modify fun run => { run with generated := [] }
      renderPasses job sink s : Running σ Unit) := by
  refine IgnoresCache.bind (ignoresCache_modify ?_ ?_) fun _ => ignoresCache_renderPasses job sink s
  · exact fun _ => rfl
  · exact fun _ _ => rfl

theorem IgnoresCache.keeps {x : Running σ α} (hx : IgnoresCache x) : Step.Keeps Run.cache x :=
  fun run => ((hx run.cache run.cache (s := run) (t := run) ⟨rfl, rfl⟩).state).1

end

/-- The kinds of which an operation may need the catalogs. -/
def Operation.kinds : Operation σ → List Text
  | catalog kind => [kind]
  | skeletons kind => [kind]
  | lookup kind _ => [kind]
  | known => ["project", "package"]
  | render _ .project _ => ["project"]
  | render _ (.package _) _ => ["package"]
  | render _ .files _ => ["project", "package"]

/-- Two runs that differ only in the catalogs that they know, and not in those of some kinds. -/
def SharesCatalogs (kinds : List Text) (run other : Run σ) : Prop :=
  other = { run with cache := other.cache } ∧
    ∀ kind ∈ kinds, other.cache.get? kind = run.cache.get? kind

section

variable {config : Config} {kinds : List Text}

theorem IgnoresCache.inStep {x : Running σ α} (hx : IgnoresCache x) :
    InStep (SharesCatalogs kinds) x x := by
  rintro run other ⟨hother, hshares⟩
  refine (hx run.cache other.cache ⟨rfl, hother⟩).imp fun next next' h => ?_
  obtain ⟨hcache, rfl⟩ := h
  exact ⟨rfl, fun kind hkind => by rw [hcache]; exact hshares kind hkind⟩

theorem inStep_catalog_shared {kind : Text} (hkind : kind ∈ kinds) :
    InStep (SharesCatalogs kinds) (Run.catalog config kind : Running σ Catalog)
      (Run.catalog config kind) := by
  rintro run other ⟨hother, hshares⟩
  obtain ⟨cache, rfl⟩ : ∃ cache, other = { run with cache := cache } := ⟨_, hother⟩
  have hsame : cache.get? kind = run.cache.get? kind := hshares kind hkind
  cases hcache : run.cache.get? kind with
  | some catalog =>
      rw [catalog_of_known hcache, catalog_of_known (hsame.trans hcache)]
      exact .ok ⟨rfl, hshares⟩
  | none =>
      rw [catalog_of_unknown hcache, catalog_of_unknown (hsame.trans hcache)]
      cases Catalog.load run.disk (Cache.source config kind) run.warnings with
      | error failure warnings => exact .error ⟨rfl, hshares⟩
      | ok catalog warnings =>
          refine .ok ⟨rfl, fun asked hasked => ?_⟩
          rw [Keyed.get?_insert, Keyed.get?_insert]
          split
          · rfl
          · exact hshares asked hasked

theorem inStep_lookup_shared {kind : Text} (hkind : kind ∈ kinds) (name : Text) :
    InStep (SharesCatalogs kinds) (lookup config kind name : Running σ Skeleton)
      (lookup config kind name) :=
  (inStep_catalog_shared hkind).bind fun _ => (ignoresCache_lift _).inStep

theorem inStep_renderProject_shared (hkind : ("project" : Text) ∈ kinds) (job : Job) (sink : Sink σ) :
    InStep (SharesCatalogs kinds) (renderProject job sink) (renderProject job sink) :=
  (inStep_lookup_shared hkind _).bind fun s => (ignoresCache_afterLookup job sink s).inStep

theorem inStep_renderPackage_shared (hkind : ("package" : Text) ∈ kinds) (job : Job) (sink : Sink σ) :
    InStep (SharesCatalogs kinds) (renderPackage job sink) (renderPackage job sink) := by
  unfold renderPackage
  cases job.package with
  | none => exact (ignoresCache_throw _).inStep
  | some k =>
      exact (inStep_lookup_shared hkind _).bind fun s => (ignoresCache_renderAll job sink _ s).inStep

theorem inStep_renderPackages_shared (hkind : ("package" : Text) ∈ kinds) (job : Job) (sink : Sink σ)
    (indices : List Nat) :
    InStep (SharesCatalogs kinds) (renderPackages job sink indices)
      (renderPackages job sink indices) := by
  induction indices with
  | nil => exact (ignoresCache_pure ()).inStep
  | cons i rest ih =>
      refine Step.inStep_get_bind ?_
      rintro run other ⟨hother, -⟩
      rw [hother]
      dsimp only
      cases (job.project.after run.changes).packages[i]? with
      | some k => exact (inStep_renderPackage_shared hkind _ sink).bind fun _ => ih
      | none => exact ih

/-- An operation depends on no catalogs but those of its kinds. -/
theorem inStep_perform_shared (config : Config) (operation : Operation σ) :
    InStep (SharesCatalogs operation.kinds) (operation.perform config)
      (operation.perform config) := by
  have hanswer {kinds : List Text} (a : Answer) :
      InStep (SharesCatalogs kinds) (pure a : Running σ Answer) (pure a) :=
    (ignoresCache_pure a).inStep
  cases operation with
  | catalog kind => exact (inStep_catalog_shared (by simp [Operation.kinds])).bind fun _ => hanswer _
  | skeletons kind =>
      exact (inStep_catalog_shared (by simp [Operation.kinds])).bind fun _ => hanswer _
  | lookup kind name =>
      exact (inStep_lookup_shared (by simp [Operation.kinds]) name).bind fun _ => hanswer _
  | known =>
      refine InStep.bind ((inStep_catalog_shared (by simp [Operation.kinds])).bind fun _ => ?_)
        fun _ => hanswer _
      exact (inStep_catalog_shared (by simp [Operation.kinds])).bind fun _ =>
        (ignoresCache_pure _).inStep
  | render job task sink =>
      refine InStep.bind ?_ fun _ => hanswer _
      cases task with
      | project => exact inStep_renderProject_shared (by simp [Operation.kinds]) _ sink
      | package k => exact inStep_renderPackage_shared (by simp [Operation.kinds]) _ sink
      | files =>
          refine (inStep_renderProject_shared (by simp [Operation.kinds]) _ sink).bind fun _ => ?_
          exact inStep_renderPackages_shared (by simp [Operation.kinds]) _ sink _

end

end Run

end Scaffold
