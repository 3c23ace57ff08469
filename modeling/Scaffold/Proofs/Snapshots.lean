import Scaffold.Proofs.Assembly
import Scaffold.Proofs.Backups
import Scaffold.Proofs.Consultations

/-!
Catalogs as snapshots. Whatever is done through a cache, and whatever happens to the disk in between,
everything comes to what it comes to with one table of catalogs: those that were loaded when a
catalog of their kind was asked for first.
-/

namespace Scaffold

open Step (InStep Matches state outcome bind_eq_ok_iff lift_eq_ok_iff)

variable {σ α β : Type}

/-- A catalog for each kind, with what was reported while it was loaded. -/
abbrev Snapshot := Text → Catalog × List Warning

namespace Snapshot

/-- A snapshot that agrees with the first one in what a cache knows and with the second one in the
rest. -/
def upTo (first : Snapshot) (cache : Cache) (second : Snapshot) : Snapshot := fun kind =>
  if cache.get? kind = none then second kind else first kind

variable {first second : Snapshot} {cache : Cache} {kind : Text}

theorem upTo_of_unknown (h : cache.get? kind = none) : first.upTo cache second kind = second kind :=
  if_pos h

theorem upTo_of_known (h : cache.get? kind ≠ none) : first.upTo cache second kind = first kind :=
  if_neg h

end Snapshot

namespace Run

/-- The catalog of a kind, taken from a snapshot if none is known. -/
def consult (snapshot : Snapshot) (kind : Text) : Running σ Catalog := fun run =>
  match run.cache.get? kind with
  | some catalog => .ok catalog run
  | none =>
      .ok (snapshot kind).1 { run with
        cache := run.cache.insert kind (snapshot kind).1
        warnings := run.warnings ++ (snapshot kind).2 }

/-- A failure to load a catalog that was asked for and not known. -/
def IsLoadFailure (config : Config) (cache : Cache) (asks : Text → Disk → Prop)
    (failure : Failure) : Prop :=
  ∃ kind d warnings after, cache.get? kind = none ∧ asks kind d ∧
    Catalog.load d (Cache.source config kind) warnings = .error failure after

/-- What a step comes to, and what it comes to with a snapshot. Known catalogs stay known, the others
are loaded where they are asked for, and as soon as a snapshot holds these it does as well. -/
structure Frozen (config : Config) (asks : Text → Disk → Prop) (run : Run σ)
    (result : EStateM.Result Failure (Run σ) α)
    (via : Snapshot → EStateM.Result Failure (Run σ) α) (snapshot : Snapshot) : Prop where
  remembers : Remembers run (state result)
  origin : ∀ kind catalog, run.cache.get? kind = none →
    (state result).cache.get? kind = some catalog →
      catalog = (snapshot kind).1 ∧ ∃ d warnings, asks kind d ∧
        Catalog.load d (Cache.source config kind) warnings =
          .ok catalog (warnings ++ (snapshot kind).2)
  same : ∀ other : Snapshot,
    (∀ kind, run.cache.get? kind = none → (state result).cache.get? kind ≠ none →
      other kind = snapshot kind) →
    result = via other ∨
      ∃ failure, outcome result = .error failure ∧ IsLoadFailure config run.cache asks failure

theorem Remembers.ne_none {run next : Run σ} {kind : Text} (h : Remembers run next)
    (hknown : run.cache.get? kind ≠ none) : next.cache.get? kind ≠ none := by
  obtain ⟨catalog, hcatalog⟩ := Option.ne_none_iff_exists'.mp hknown
  simp [h kind catalog hcatalog]

section

variable {config : Config} {asks : Text → Disk → Prop} {run : Run σ}

theorem frozen_of_ignoresCache {x : Running σ α} (hx : IgnoresCache x) (snapshot : Snapshot) :
    Frozen config asks run (x run) (fun _ => x run) snapshot := by
  have hcache : (state (x run)).cache = run.cache := hx.keeps run
  refine ⟨remembers_of_cache hcache, fun kind catalog hnone hsome => ?_, fun _ _ => .inl rfl⟩
  rw [hcache, hnone] at hsome
  cases hsome

/-- A catalog that is not known is loaded from the disk as it is now, and known from then on. -/
theorem exists_frozen_catalog {kind : Text}
    (hasks : run.cache.get? kind = none → asks kind run.disk) :
    ∃ snapshot, Frozen config asks run (Run.catalog config kind run)
      (fun snapshot => consult snapshot kind run) snapshot := by
  cases hcache : run.cache.get? kind with
  | some catalog =>
      have hconsult (snapshot : Snapshot) : consult snapshot kind run = .ok catalog run := by
        rw [consult, hcache]
      rw [catalog_of_known hcache]
      refine ⟨fun _ => ([], []), fun _ _ => id, fun _ _ hnone hsome => ?_, fun other _ => .inl ?_⟩
      · cases hnone.symm.trans hsome
      · exact (hconsult other).symm
  | none =>
      rw [catalog_of_unknown hcache]
      cases hload : Catalog.load run.disk (Cache.source config kind) run.warnings with
      | error failure warnings =>
          refine ⟨fun _ => ([], []), fun _ _ => id, fun _ _ hnone hsome => ?_, fun _ _ => .inr ?_⟩
          · cases hnone.symm.trans hsome
          · exact ⟨failure, rfl, kind, run.disk, _, _, hcache, hasks hcache, hload⟩
      | ok catalog warnings =>
          obtain ⟨notes, rfl⟩ := Catalog.exists_notes_of_load hload
          refine ⟨fun _ => (catalog, notes), fun other found hfound => ?_,
            fun other found hnone hfound => ?_, fun snapshot hsnapshot => .inl ?_⟩
          · change (run.cache.insert kind catalog).get? other = _
            rw [Keyed.get?_insert, if_neg]
            · exact hfound
            · rintro rfl
              cases hcache.symm.trans hfound
          · change (run.cache.insert kind catalog).get? other = _ at hfound
            rw [Keyed.get?_insert] at hfound
            split at hfound
            · rename_i hkind
              cases hfound
              exact ⟨rfl, run.disk, _, hkind ▸ hasks hcache, hkind ▸ hload⟩
            · cases hnone.symm.trans hfound
          · have hknown : (run.cache.insert kind catalog).get? kind ≠ none := by
              rw [Keyed.get?_insert, if_pos rfl]
              simp
            rw [consult, hcache, hsnapshot kind hcache hknown]

/-- One step after another: what the first one has loaded is known to the second one. -/
theorem exists_frozen_bind {x : Running σ α} {f : α → Running σ β} {y : Snapshot → Running σ α}
    {g : Snapshot → α → Running σ β}
    (hx : ∃ snapshot, Frozen config asks run (x run) (fun snapshot => y snapshot run) snapshot)
    (hf : ∀ a next, x run = .ok a next →
      ∃ snapshot, Frozen config asks next (f a next) (fun snapshot => g snapshot a next) snapshot) :
    ∃ snapshot, Frozen config asks run ((x >>= f) run)
      (fun snapshot => (y snapshot >>= g snapshot) run) snapshot := by
  obtain ⟨first, hfirst⟩ := hx
  cases hstep : x run with
  | error failure next =>
      rw [Step.bind_of_error hstep]
      rw [hstep] at hfirst
      refine ⟨first, hfirst.remembers, hfirst.origin, fun other hother => ?_⟩
      rcases hfirst.same other hother with hsame | ⟨_, houtcome, hload⟩
      · exact .inl (Step.bind_of_error hsame.symm _).symm
      · cases houtcome
        exact .inr ⟨failure, rfl, hload⟩
  | ok a next =>
      obtain ⟨second, hsecond⟩ := hf a next hstep
      rw [Step.bind_of_ok hstep]
      rw [hstep] at hfirst
      refine ⟨first.upTo next.cache second, hfirst.remembers.trans hsecond.remembers,
        fun kind catalog hnone hsome => ?_, fun other hother => ?_⟩
      · cases hnext : next.cache.get? kind with
        | none =>
            rw [Snapshot.upTo_of_unknown hnext]
            exact hsecond.origin kind catalog hnext hsome
        | some found =>
            obtain rfl : found = catalog :=
              Option.some.inj ((hsecond.remembers kind found hnext).symm.trans hsome)
            rw [Snapshot.upTo_of_known (by simp [hnext])]
            exact hfirst.origin kind found hnone hnext
      · have hkept {kind : Text} (hnext : next.cache.get? kind = none) :
            run.cache.get? kind = none := by
          by_contra hrun
          exact hfirst.remembers.ne_none hrun hnext
        have hleft : ∀ kind, run.cache.get? kind = none → next.cache.get? kind ≠ none →
            other kind = first kind := by
          intro kind hnone hnext
          rw [hother kind hnone (hsecond.remembers.ne_none hnext), Snapshot.upTo_of_known hnext]
        have hright : ∀ kind, next.cache.get? kind = none →
            (state (f a next)).cache.get? kind ≠ none → other kind = second kind := by
          intro kind hnext hlast
          rw [hother kind (hkept hnext) hlast, Snapshot.upTo_of_unknown hnext]
        rcases hfirst.same other hleft with hsame | ⟨_, houtcome, _⟩
        · rcases hsecond.same other hright with hsame' | hfails
          · exact .inl ((Step.bind_of_ok hsame.symm _).trans hsame'.symm).symm
          · obtain ⟨failure, hfailure, kind, d, warnings, after, hnone, hload⟩ := hfails
            exact .inr ⟨failure, hfailure, kind, d, warnings, after, hkept hnone, hload⟩
        · cases houtcome

/-- The disk stays as it is when a catalog is asked for, and the catalog is known afterwards. -/
theorem catalog_eq_ok {kind : Text} {catalog : Catalog} {next : Run σ}
    (h : Run.catalog config kind run = .ok catalog next) :
    next.disk = run.disk ∧ next.cache.get? kind = some catalog := by
  cases hcache : run.cache.get? kind with
  | some found =>
      rw [catalog_of_known hcache] at h
      cases h
      exact ⟨rfl, hcache⟩
  | none =>
      rw [catalog_of_unknown hcache] at h
      split at h
      · cases h
        exact ⟨rfl, by rw [Keyed.get?_insert, if_pos rfl]⟩
      · cases h

theorem exists_frozen_lookup {kind : Text} (name : Text)
    (hasks : run.cache.get? kind = none → asks kind run.disk) :
    ∃ snapshot, Frozen config asks run (lookup config kind name run)
      (fun snapshot => lookupVia (consult snapshot) kind name run) snapshot :=
  exists_frozen_bind (exists_frozen_catalog hasks) fun catalog _ _ =>
    ⟨fun _ => ([], []), frozen_of_ignoresCache (ignoresCache_lift (catalog.lookup name)) _⟩

theorem exists_frozen_project (job : Job) (sink : Sink σ)
    (hasks : run.cache.get? "project" = none → asks "project" run.disk) :
    ∃ snapshot, Frozen job.config asks run (renderProject job sink run)
      (fun snapshot => projectVia (consult snapshot) job sink run) snapshot :=
  exists_frozen_bind (exists_frozen_lookup _ hasks) fun s _ _ =>
    ⟨fun _ => ([], []), frozen_of_ignoresCache (ignoresCache_afterLookup job sink s) _⟩

theorem exists_frozen_package (job : Job) (sink : Sink σ)
    (hasks : run.cache.get? "package" = none → asks "package" run.disk) :
    ∃ snapshot, Frozen job.config asks run (renderPackage job sink run)
      (fun snapshot => packageVia (consult snapshot) job sink run) snapshot := by
  unfold renderPackage packageVia
  cases job.package with
  | none => exact ⟨fun _ => ([], []), frozen_of_ignoresCache (ignoresCache_throw _) _⟩
  | some k =>
      exact exists_frozen_bind (exists_frozen_lookup _ hasks) fun s _ _ =>
        ⟨fun _ => ([], []), frozen_of_ignoresCache (ignoresCache_renderAll job sink _ s) _⟩

/-- Whoever has rendered a package knows the catalog of packages. -/
theorem knows_of_renderPackage {job : Job} {sink : Sink σ} {next : Run σ}
    (h : renderPackage job sink run = .ok () next) : next.cache.get? "package" ≠ none := by
  unfold renderPackage at h
  cases hpackage : job.package with
  | none =>
      rw [hpackage] at h
      cases h
  | some k =>
      rw [hpackage] at h
      obtain ⟨s, found, hlookup, hall⟩ := bind_eq_ok_iff.mp h
      obtain ⟨catalog, known, hcatalog, hlift⟩ := bind_eq_ok_iff.mp hlookup
      obtain ⟨-, rfl⟩ := lift_eq_ok_iff.mp hlift
      rw [(ignoresCache_renderAll job sink _ s).keeps.of_ok hall, (catalog_eq_ok hcatalog).2]
      simp

theorem exists_frozen_packages (job : Job) (sink : Sink σ) (indices : List Nat)
    (hasks : run.cache.get? "package" = none → asks "package" run.disk) :
    ∃ snapshot, Frozen job.config asks run (renderPackages job sink indices run)
      (fun snapshot => packagesVia (consult snapshot) job sink indices run) snapshot := by
  induction indices generalizing run with
  | nil => exact ⟨fun _ => ([], []), frozen_of_ignoresCache (ignoresCache_pure ()) _⟩
  | cons i rest ih =>
      cases hpackage : packageAt job run i with
      | none =>
          simp only [renderPackages_of_none _ hpackage, packagesVia_of_none _ _ _ hpackage]
          exact ih hasks
      | some k =>
          simp only [renderPackages_of_some _ hpackage, packagesVia_of_some _ _ _ hpackage]
          refine exists_frozen_bind (exists_frozen_package { job with package := some k } sink hasks)
            fun _ next hrendered => ih ?_
          exact fun hunknown => absurd hunknown (knows_of_renderPackage hrendered)

end

/-- The disks from which an operation asks for the catalogs of kinds. -/
def Operation.Asks (config : Config) (run : Run σ) : Operation σ → Text → Disk → Prop
  | catalog asked, kind, d => kind = asked ∧ d = run.disk
  | skeletons asked, kind, d => kind = asked ∧ d = run.disk
  | lookup asked _, kind, d => kind = asked ∧ d = run.disk
  | known, kind, d => (kind = "project" ∨ kind = "package") ∧ d = run.disk
  | render _ .project _, kind, d => kind = "project" ∧ d = run.disk
  | render _ (.package _) _, kind, d => kind = "package" ∧ d = run.disk
  | render job .files sink, kind, d =>
      kind = "project" ∧ d = run.disk ∨
        kind = "package" ∧ ∃ next, renderProject (job.through config) sink run = .ok () next ∧
          d = next.disk

/-- Every operation has a snapshot with which it comes to the same. -/
theorem exists_frozen_operation (config : Config) (operation : Operation σ) (run : Run σ) :
    ∃ snapshot, Frozen config (operation.Asks config run) run (operation.perform config run)
      (fun snapshot => operation.via config (consult snapshot) run) snapshot := by
  have hanswer {α : Type} (a : α) {next : Run σ} {asks : Text → Disk → Prop} :
      ∃ snapshot, Frozen config asks next ((pure a : Running σ α) next)
        (fun _ => (pure a : Running σ α) next) snapshot :=
    ⟨fun _ => ([], []), frozen_of_ignoresCache (ignoresCache_pure a) _⟩
  cases operation with
  | catalog kind =>
      exact exists_frozen_bind (exists_frozen_catalog fun _ => ⟨rfl, rfl⟩) fun _ _ _ => hanswer _
  | skeletons kind =>
      exact exists_frozen_bind (exists_frozen_catalog fun _ => ⟨rfl, rfl⟩) fun _ _ _ => hanswer _
  | lookup kind name =>
      exact exists_frozen_bind (exists_frozen_lookup name fun _ => ⟨rfl, rfl⟩) fun _ _ _ =>
        hanswer _
  | known =>
      rw [Operation.perform_eq_via]
      refine exists_frozen_bind (exists_frozen_catalog fun _ => ⟨.inl rfl, rfl⟩)
        fun _ next hprojects => exists_frozen_bind (exists_frozen_catalog fun _ => ⟨.inr rfl, ?_⟩)
          fun _ _ _ => hanswer _
      exact (catalog_eq_ok hprojects).1
  | render job task sink =>
      refine exists_frozen_bind ?_ fun _ _ _ => hanswer _
      cases task with
      | project => exact exists_frozen_project (job.through config) sink fun _ => ⟨rfl, rfl⟩
      | package k =>
          exact exists_frozen_package { job.through config with package := k } sink
            fun _ => ⟨rfl, rfl⟩
      | files =>
          refine exists_frozen_bind
            (exists_frozen_project (job.through config) sink fun _ => .inl ⟨rfl, rfl⟩)
            fun _ next hproject => exists_frozen_packages (job.through config) sink _ fun _ => ?_
          exact .inr ⟨rfl, next, hproject, rfl⟩

theorem Operation.mem_kinds_of_asks {config : Config} {operation : Operation σ} {run : Run σ}
    {kind : Text} {d : Disk} (h : operation.Asks config run kind d) : kind ∈ operation.kinds := by
  cases operation with
  | render job task sink =>
      cases task with
      | project => simp [kinds, h.1]
      | package k => simp [kinds, h.1]
      | files => rcases h with ⟨rfl, -⟩ | ⟨rfl, -⟩ <;> simp [kinds]
  | known => rcases h with ⟨rfl | rfl, -⟩ <;> simp [kinds]
  | _ => simp [kinds, h.1]

/-- What an operation other than rendering answers, computed from one catalog for each kind. -/
def Operation.said (catalogs : Text → Catalog) : Operation σ → Option (Except Failure Answer)
  | catalog kind => some (.ok (.catalog (catalogs kind)))
  | skeletons kind => some (.ok (.skeletons (catalogs kind).sortedSkeletons))
  | lookup kind name => some (((catalogs kind).lookup name).map .skeleton)
  | known => some (.ok (.text (knownSkeletons (catalogs "project") (catalogs "package"))))
  | render _ _ _ => none

/-- What is known agrees with a snapshot. -/
def Reflects (snapshot : Snapshot) (run : Run σ) : Prop :=
  ∀ kind catalog, run.cache.get? kind = some catalog → catalog = (snapshot kind).1

section

variable {config : Config} {snapshot : Snapshot} {run : Run σ}

theorem consult_of_reflects (h : Reflects snapshot run) (kind : Text) :
    ∃ next, consult snapshot kind run = .ok (snapshot kind).1 next ∧ Reflects snapshot next := by
  unfold consult
  cases hcache : run.cache.get? kind with
  | some catalog => exact ⟨run, by rw [h kind catalog hcache], h⟩
  | none =>
      refine ⟨_, rfl, fun other catalog hother => ?_⟩
      rw [Keyed.get?_insert] at hother
      split at hother
      · rename_i hkind
        cases hother
        rw [hkind]
      · exact h other catalog hother

theorem outcome_via_of_said (h : Reflects snapshot run) {operation : Operation σ}
    {answer : Except Failure Answer}
    (hsaid : operation.said (fun kind => (snapshot kind).1) = some answer) :
    outcome (operation.via config (consult snapshot) run) = answer := by
  cases operation with
  | catalog kind =>
      cases hsaid
      obtain ⟨next, hconsult, -⟩ := consult_of_reflects h kind
      rw [Operation.via, Step.bind_of_ok hconsult]
      rfl
  | skeletons kind =>
      cases hsaid
      obtain ⟨next, hconsult, -⟩ := consult_of_reflects h kind
      rw [Operation.via, Step.bind_of_ok hconsult]
      rfl
  | lookup kind name =>
      cases hsaid
      obtain ⟨next, hconsult, -⟩ := consult_of_reflects h kind
      rw [Operation.via, lookupVia, bind_assoc, Step.bind_of_ok hconsult, Step.bind_apply,
        Step.lift_apply]
      cases (snapshot kind).1.lookup name <;> rfl
  | known =>
      cases hsaid
      obtain ⟨next, hprojects, hnext⟩ := consult_of_reflects h "project"
      obtain ⟨last, hpackages, -⟩ := consult_of_reflects hnext "package"
      rw [Operation.via, Step.bind_of_ok hprojects, Step.bind_of_ok hpackages]
      rfl
  | render job task sink => cases hsaid

end

/-- A use of a cache: an operation, and in what state it finds everything but the catalogs. -/
structure Use (σ : Type) where
  /-- The operation. -/
  operation : Operation σ
  /-- The state; its catalogs do not count. -/
  found : Run σ

/-- Where a use starts if a cache is handed to it. -/
def Use.start (use : Use σ) (cache : Cache) : Run σ := { use.found with cache := cache }

/-- What a use comes to. -/
def Use.result (config : Config) (use : Use σ) (cache : Cache) :
    EStateM.Result Failure (Run σ) Answer :=
  use.operation.perform config (use.start cache)

/-- The cache after uses one after the other, however each of them ends. -/
def cacheAfter (config : Config) (uses : List (Use σ)) (cache : Cache) : Cache :=
  uses.foldl (fun cache use => (state (use.result config cache)).cache) cache

section

variable {config : Config}

theorem Frozen.upTo {asks : Text → Disk → Prop} {run : Run σ}
    {result : EStateM.Result Failure (Run σ) α}
    {via : Snapshot → EStateM.Result Failure (Run σ) α} {snapshot other : Snapshot}
    (h : Frozen config asks run result via snapshot)
    (hother : ∀ kind, run.cache.get? kind = none → (state result).cache.get? kind ≠ none →
      other kind = snapshot kind) : Frozen config asks run result via other := by
  refine ⟨h.remembers, fun kind catalog hnone hsome => ?_, fun third hthird => h.same third ?_⟩
  · rw [hother kind hnone (by simp [hsome])]
    exact h.origin kind catalog hnone hsome
  · exact fun kind hnone hsome => (hthird kind hnone hsome).trans (hother kind hnone hsome)

theorem cacheAfter_remembers (uses : List (Use σ)) (cache : Cache) {kind : Text} {catalog : Catalog}
    (hknown : cache.get? kind = some catalog) :
    (cacheAfter config uses cache).get? kind = some catalog := by
  induction uses generalizing cache with
  | nil => exact hknown
  | cons use rest ih =>
      obtain ⟨snapshot, hfrozen⟩ := exists_frozen_operation config use.operation (use.start cache)
      exact ih _ (hfrozen.remembers kind catalog hknown)

/-- One snapshot serves all uses: for each kind it is that of the use that has loaded it. -/
theorem exists_frozen_history (config : Config) (history : List (Use σ)) (cache : Cache) :
    ∃ snapshot : Snapshot, ∀ before use later, history = before ++ use :: later →
      let start := use.start (cacheAfter config before cache)
      Frozen config (use.operation.Asks config start) start
          (use.operation.perform config start)
          (fun snapshot => use.operation.via config (consult snapshot) start) snapshot ∧
        ∀ kind catalog, cache.get? kind = none → start.cache.get? kind = some catalog →
          catalog = (snapshot kind).1 := by
  induction history generalizing cache with
  | nil => exact ⟨fun _ => ([], []), fun before use later h => by simp at h⟩
  | cons first rest ih =>
      obtain ⟨own, hown⟩ := exists_frozen_operation config first.operation (first.start cache)
      obtain ⟨others, hothers⟩ := ih (state (first.result config cache)).cache
      refine ⟨own.upTo (state (first.result config cache)).cache others,
        fun before use later hsplit => ?_⟩
      cases before with
      | nil =>
          obtain ⟨rfl, -⟩ := List.cons.inj hsplit
          refine ⟨hown.upTo fun kind _ hknown => Snapshot.upTo_of_known hknown, ?_⟩
          intro kind catalog hnone hsome
          cases hnone.symm.trans hsome
      | cons head more =>
          obtain ⟨rfl, hrest⟩ := List.cons.inj hsplit
          obtain ⟨hfrozen, hreflects⟩ := hothers more use later hrest
          refine ⟨hfrozen.upTo fun kind hnone _ => Snapshot.upTo_of_unknown ?_, ?_⟩
          · by_contra hknown
            obtain ⟨catalog, hcatalog⟩ := Option.ne_none_iff_exists'.mp hknown
            cases hnone.symm.trans (cacheAfter_remembers more _ hcatalog)
          · intro kind catalog hnone hsome
            cases hnext : (state (first.result config cache)).cache.get? kind with
            | none =>
                rw [Snapshot.upTo_of_unknown hnext]
                exact hreflects kind catalog hnext hsome
            | some found =>
                obtain rfl : found = catalog :=
                  Option.some.inj ((cacheAfter_remembers more _ hnext).symm.trans hsome)
                rw [Snapshot.upTo_of_known (by simp [hnext])]
                exact (hown.origin kind found hnone hnext).1

end

/-- A cache is a snapshot. All uses of a cache that was empty at first, on whatever they find
otherwise, are answered from one table of catalogs: each of them comes to what it comes to with this
table, or a catalog that it needs cannot be loaded. What the table says of a kind was loaded by the
first use that knows it afterwards, from the disk as it was when this use asked for it. Catalogs that
are known stay as they are, and no use depends on the catalogs of other kinds than its own or changes
them. -/
theorem answers_frozen (config : Config) (history : List (Use σ)) :
    ∃ snapshot : Snapshot, ∀ before use later, history = before ++ use :: later →
      let cache := cacheAfter config before []
      let start := use.start cache
      let result := use.result config cache
      let fails := ∃ failure, outcome result = .error failure ∧
        IsLoadFailure config cache (use.operation.Asks config start) failure
      (result = use.operation.via config (consult snapshot) start ∨ fails) ∧
      (∀ answer, use.operation.said (fun kind => (snapshot kind).1) = some answer →
        outcome result = answer ∨ fails) ∧
      (∀ kind catalog, cache.get? kind = some catalog →
        catalog = (snapshot kind).1 ∧ (state result).cache.get? kind = some catalog) ∧
      (∀ kind catalog, cache.get? kind = none → (state result).cache.get? kind = some catalog →
        catalog = (snapshot kind).1 ∧ ∃ d warnings, use.operation.Asks config start kind d ∧
          Catalog.load d (Cache.source config kind) warnings =
            .ok catalog (warnings ++ (snapshot kind).2)) ∧
      (∀ kind, kind ∉ use.operation.kinds →
        (state result).cache.get? kind = cache.get? kind) ∧
      ∀ other : Cache, (∀ kind ∈ use.operation.kinds, other.get? kind = cache.get? kind) →
        Matches (SharesCatalogs use.operation.kinds) result (use.result config other) := by
  obtain ⟨snapshot, hsnapshot⟩ := exists_frozen_history config history []
  refine ⟨snapshot, fun before use later hsplit => ?_⟩
  obtain ⟨hfrozen, hknown⟩ := hsnapshot before use later hsplit
  have hreflects : Reflects snapshot (use.start (cacheAfter config before [])) :=
    fun kind catalog hcatalog => hknown kind catalog rfl hcatalog
  have hsame := hfrozen.same snapshot fun _ _ _ => rfl
  refine ⟨hsame, fun answer hsaid => ?_, fun kind catalog hcatalog => ?_, hfrozen.origin,
    fun kind hkind => ?_, fun other hother => ?_⟩
  · rcases hsame with hvia | hfails
    · refine .inl ?_
      rw [Use.result, hvia]
      exact outcome_via_of_said hreflects hsaid
    · exact .inr hfails
  · exact ⟨hreflects kind catalog hcatalog, hfrozen.remembers kind catalog hcatalog⟩
  · cases hcache : (cacheAfter config before []).get? kind with
    | some catalog => exact hfrozen.remembers kind catalog hcache
    | none =>
        by_contra hloaded
        obtain ⟨catalog, hcatalog⟩ := Option.ne_none_iff_exists'.mp hloaded
        obtain ⟨-, d, -, hasks, -⟩ := hfrozen.origin kind catalog hcache hcatalog
        exact hkind (Operation.mem_kinds_of_asks hasks)
  · exact inStep_perform_shared config use.operation ⟨rfl, hother⟩

/-- A share directory with one skeleton for projects. -/
def sharedDisk : Disk where
  entries := [
    ([], .directory 493),
    (Path.ofTexts ["share"], .directory 493),
    (Path.ofTexts ["share", "skeletons"], .directory 493),
    (Path.ofTexts ["share", "skeletons", "projects"], .directory 493),
    (Path.ofTexts ["share", "skeletons", "projects", "one"], .directory 493),
    (Path.ofTexts ["share", "skeletons", "projects", "one", "skeleton.toml"],
      .file (Text.encode "[skeleton]\nname = 'program'\n") 420)]

/-- The skeleton in it. -/
def sharedSkeleton : Skeleton := { name := "program", builtin := true }

theorem load_sharedDisk : ∃ notes, Catalog.load sharedDisk
    (Cache.source askingJob.config "project") [] = .ok [("program", sharedSkeleton)] notes := by
  have hopen : sharedDisk.openDirectory (Cache.source askingJob.config "project").base =
      .ok (Path.ofTexts ["share", "skeletons", "projects"]) := by decide +kernel
  have hnames : (Cache.source askingJob.config "project").names sharedDisk = [("one" : Text)] := by
    decide +kernel
  exact Catalog.exists_load_of_names hopen hnames (by decide +kernel) (by decide +kernel)

/-- The catalog of projects is asked for while the share directory is there. -/
def askedBefore : Use (List Request) := ⟨.catalog "project", { disk := sharedDisk, sink := [] }⟩

/-- A skeleton is looked up when the share directory is gone. -/
def askedAfter : Use (List Request) :=
  ⟨.lookup "project" "program", { disk := Disk.empty, sink := [] }⟩

theorem answers_frozen_vanishing :
    outcome (askedAfter.result askingJob.config (cacheAfter askingJob.config [askedBefore] [])) =
        .ok (.skeleton sharedSkeleton) ∧
      outcome (askedAfter.result askingJob.config []) =
        .error (.skeleton none (.missingSkeleton "program")) := by
  refine ⟨?_, by decide +kernel⟩
  obtain ⟨notes, hload⟩ := load_sharedDisk
  have hcache : cacheAfter askingJob.config [askedBefore] [] =
      [(("project" : Text), [(("program" : Text), sharedSkeleton)])] := by
    have hcatalog : Run.catalog askingJob.config "project" (askedBefore.start []) =
        .ok [("program", sharedSkeleton)] { askedBefore.start [] with
          cache := [("project", [("program", sharedSkeleton)])], warnings := notes } :=
      catalog_of_load rfl hload
    have hresult : askedBefore.result askingJob.config [] = _ := Step.bind_of_ok hcatalog _
    rw [cacheAfter, List.foldl_cons, hresult]
    rfl
  obtain ⟨snapshot, hsnapshot⟩ := answers_frozen askingJob.config [askedBefore, askedAfter]
  obtain ⟨-, hanswer, hknown, -⟩ := hsnapshot [askedBefore] askedAfter [] rfl
  rw [hcache] at hanswer hknown
  have hcatalog : [(("program" : Text), sharedSkeleton)] = (snapshot "project").1 :=
    (hknown "project" _ rfl).1
  have hsaid : askedAfter.operation.said (fun kind => (snapshot kind).1) =
      some (.ok (.skeleton sharedSkeleton)) := by
    change some (((snapshot "project").1.lookup "program").map Answer.skeleton) = _
    rw [← hcatalog]
    decide +kernel
  rw [hcache]
  rcases hanswer _ hsaid with houtcome | ⟨failure, -, kind, d, _, _, hunknown, ⟨rfl, -⟩, -⟩
  · exact houtcome
  · cases hunknown

end Run

end Scaffold
