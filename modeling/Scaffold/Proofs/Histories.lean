import Scaffold.Proofs.Generated
import Scaffold.Proofs.Journal

/-!
Histories. Tasks may follow one another on the state of a run, however each of them ends. What a
later run for the project does depends on nothing that they have left in this state: neither on
what they have generated nor on whether they have failed while files were postponed.
-/

namespace Scaffold

open Step (InStep Matches)

variable {σ τ α β : Type}

/-- The same job, as it is for a state on which nothing has been done yet. -/
def Job.anew (job : Job) (backupDir : Option Location) : Job :=
  { job with package := none, backupDir := backupDir }

/-- Worlds that are related, in which the same requests have been noted. -/
def Noted (Q : Disk × σ → Disk × τ → Prop) (w : Disk × σ × List (Disk × Request))
    (w' : Disk × τ × List (Disk × Request)) : Prop :=
  Q (w.1, w.2.1) (w'.1, w'.2.1) ∧ w.2.2.map Prod.snd = w'.2.2.map Prod.snd

theorem Cache.Offers.imp {config : Config} {cache : Cache} {P P' : Disk → Prop} {kind : Text}
    {catalog : Catalog} (h : cache.Offers config P kind catalog) (himp : ∀ d, P d → P' d) :
    cache.Offers config P' kind catalog := by
  cases h with
  | known hknown => exact .known hknown
  | loaded hunknown hd hload => exact .loaded hunknown (himp _ hd) hload

theorem Sink.inStep_journals {Q : Disk × σ → Disk × τ → Prop} {sink : Sink σ} {sink' : Sink τ}
    {request : Request} (h : InStep Q (sink request) (sink' request)) :
    InStep (Noted Q) (sink.journal request) (sink'.journal request) := by
  rintro w w' ⟨hworld, hcalls⟩
  have hstep := h hworld
  have hmore : (w.2.2 ++ [(w.1, request)]).map Prod.snd =
      (w'.2.2 ++ [(w'.1, request)]).map Prod.snd := by
    rw [List.map_append, List.map_append, hcalls]
    rfl
  unfold journal
  generalize sink request (w.1, w.2.1) = left at hstep ⊢
  generalize sink' request (w'.1, w'.2.1) = right at hstep ⊢
  cases hstep with
  | ok hnext => exact .ok ⟨hnext, hmore⟩
  | error hnext => exact .error ⟨hnext, hmore⟩

/-- Jobs that accord do so with journals, too. -/
theorem Accord.journal {job other : Job} {sink : Sink σ} {sink' : Sink τ} {cache : Cache}
    {Q : Disk × σ → Disk × τ → Prop} (h : Accord job other sink sink' cache Q) :
    Accord job other sink.journal sink'.journal cache (Noted Q) where
  config_eq := h.config_eq
  project_eq := h.project_eq
  substitute_eq := h.substitute_eq
  answers request := Sink.inStep_journals (h.answers request)
  loads kind hunknown w w' hw := h.loads kind hunknown (w.1, w.2.1) (w'.1, w'.2.1) hw.1
  copies kind catalog name s file hoffers hlookup hfile w w' hw := by
    have hoffers' : cache.Offers job.config (fun d => ∃ w w', Q w w' ∧ w.1 = d) kind catalog :=
      hoffers.imp fun d ⟨v, v', hv, hd⟩ => ⟨(v.1, v.2.1), (v'.1, v'.2.1), hv.1, hd⟩
    have hcopy := h.copies kind catalog name s file hoffers' hlookup hfile (w.1, w.2.1)
      (w'.1, w'.2.1) hw.1
    exact hcopy.imp fun d d' hd => ⟨hd, hw.2⟩

namespace Run

/-- A step after which no file may be postponed, if none could be before. -/
def Lowers (x : Running σ α) : Prop :=
  ∀ run, run.postponing = false → (Step.state (x run)).postponing = false

theorem lowers_of_keeps {x : Running σ α} (h : Step.Keeps progress x) : Lowers x := by
  intro run hrun
  exact (Prod.mk.inj (h run)).2.trans hrun

theorem Lowers.bind {x : Running σ α} {f : α → Running σ β} (hx : Lowers x)
    (hf : ∀ a, Lowers (f a)) : Lowers (x >>= f) := by
  intro run hrun
  have hstep := hx run hrun
  rw [Step.bind_apply]
  cases hnext : x run with
  | ok a next =>
      rw [hnext] at hstep
      exact hf a next hstep
  | error failure next =>
      rw [hnext] at hstep
      exact hstep

theorem lowers_pure (a : α) : Lowers (pure a : Running σ α) := fun _ hrun => hrun

theorem lowers_throw (failure : Failure) : Lowers (throw failure : Running σ α) :=
  fun _ hrun => hrun

theorem lowers_renderFile (job : Job) (sink : Sink σ) (scope : Scope) (s : Skeleton)
    (file : SkeletonFile) : Lowers (renderFile job sink scope s file) := by
  rw [renderFile_eq]
  refine (lowers_of_keeps (keeps_prepare job scope s file)).bind fun request => ?_
  refine (lowers_of_keeps (keeps_handOver sink request)).bind fun _ run hrun => ?_
  rw [register_apply]
  exact hrun

theorem Lowers.done {x : Running σ Unit} (hx : Lowers x) : Lowers (done x) := by
  intro run hrun
  have hstep := hx run hrun
  unfold Run.done
  generalize x run = result at hstep ⊢
  split <;> exact hstep

/-- Files cannot be postponed any more after the step during which they may be, also if it fails. -/
theorem lowers_whilePostponing (x : Running σ α) : Lowers (whilePostponing x) := by
  intro run _
  unfold whilePostponing
  split <;> rfl

section

variable {render : SkeletonFile → Running σ Unit} (hrender : ∀ file, Lowers (render file))

include hrender

theorem lowers_secondPass (files : List SkeletonFile) : Lowers (secondPass render files) := by
  induction files with
  | nil => exact lowers_pure ()
  | cons file rest ih =>
      refine (hrender file).done.bind fun finished => ?_
      split
      · exact ih
      · exact lowers_throw _

theorem lowers_renderAll (files : List SkeletonFile) : Lowers (renderAll render files) := by
  induction files with
  | nil => exact lowers_pure ()
  | cons file rest ih => exact (hrender file).bind fun _ => ih

end

theorem lowers_lookup (config : Config) (kind name : Text) :
    Lowers (lookup config kind name : Running σ Skeleton) :=
  lowers_of_keeps (keeps_lookup config kind name)

theorem lowers_renderProject (job : Job) (sink : Sink σ) : Lowers (renderProject job sink) := by
  refine (lowers_lookup _ _ _).bind fun s => Lowers.bind (fun run hrun => hrun) fun _ => ?_
  refine (lowers_whilePostponing _).bind fun later => ?_
  exact lowers_secondPass (lowers_renderFile job sink _ s) later

theorem lowers_renderPackage (job : Job) (sink : Sink σ) : Lowers (renderPackage job sink) := by
  unfold renderPackage
  split
  · exact lowers_throw _
  · refine (lowers_lookup _ _ _).bind fun s => ?_
    exact lowers_renderAll (lowers_renderFile job sink _ s) s.files

theorem lowers_renderPackages (job : Job) (sink : Sink σ) (indices : List Nat) :
    Lowers (renderPackages job sink indices) := by
  induction indices with
  | nil => exact lowers_pure ()
  | cons i rest ih =>
      intro run hrun
      cases hpackage : packageAt job run i with
      | none =>
          rw [renderPackages_of_none _ hpackage]
          exact ih run hrun
      | some k =>
          rw [renderPackages_of_some _ hpackage]
          exact (lowers_renderPackage _ sink).bind (fun _ => ih) run hrun

theorem lowers_renderFiles (job : Job) (sink : Sink σ) : Lowers (renderFiles job sink) :=
  (lowers_renderProject job sink).bind fun _ => lowers_renderPackages job sink _

/-- What a state is used for. -/
inductive Task where
  /-- To render the skeleton of the project. -/
  | project
  /-- To render the skeleton of a package, if one is given. -/
  | package (package : Option Package)
  /-- To render the skeletons of the project and of all its packages. -/
  | files

/-- A task as a step. -/
def Task.perform (job : Job) (sink : Sink σ) : Task → Running σ Unit
  | project => renderProject job sink
  | package k => renderPackage { job with package := k } sink
  | files => renderFiles job sink

/-- The state after tasks that have been performed one after the other, each with its sink and
however it ended. -/
def after (job : Job) (history : List (Task × Sink σ)) (run : Run σ) : Run σ :=
  history.foldl (fun run call => Step.state (call.1.perform job call.2 run)) run

theorem Task.lowers_perform (job : Job) (sink : Sink σ) (task : Task) :
    Lowers (task.perform job sink) := by
  cases task with
  | project => exact lowers_renderProject job sink
  | package k => exact lowers_renderPackage _ sink
  | files => exact lowers_renderFiles job sink

theorem postponing_after {job : Job} {history : List (Task × Sink σ)} {run : Run σ}
    (hrun : run.postponing = false) : (after job history run).postponing = false := by
  induction history generalizing run with
  | nil => exact hrun
  | cons call rest ih => exact ih (call.1.lowers_perform job call.2 run hrun)

section

variable {job other : Job} {sink : Sink σ} {sink' : Sink τ} {cache : Cache}
  {Q : Disk × σ → Disk × τ → Prop} {G : List Text → List Text → Prop} {run : Run σ} {run' : Run τ}

/-- If the skeleton of the project is found, then what was generated before does not matter. -/
theorem matches_renderProject (haccord : Accord job other sink sink' cache Q)
    (h : Twin job.config cache Q G run run') {s : Skeleton}
    (hfound : Step.outcome (lookup job.config "project" job.project.skeletonName run) = .ok s) :
    Matches (Twin job.config cache Q Eq) (renderProject job sink run)
      (renderProject other sink' run') := by
  have hlookup := Step.ok_of_outcome hfound
  have hstep := inStep_lookup haccord "project" job.project.skeletonName h
  rw [hlookup] at hstep
  cases hright : lookup other.config "project" job.project.skeletonName run' with
  | error failure next' =>
      rw [hright] at hstep
      cases hstep
  | ok found next' =>
      rw [hright] at hstep
      cases hstep with
      | ok hnext =>
          rw [renderProject_of_lookup hlookup,
            renderProject_of_lookup (haccord.project_eq.symm ▸ hright)]
          exact inStep_renderPasses haccord (finds_of_lookup h hlookup)
            { hnext with generated := rfl }

end

/-- If the skeleton of the project is not found, then the state stays as it is. -/
theorem renderProject_of_missing (job : Job) (sink : Sink σ) {run : Run σ} {failure : Failure}
    (hmissing : Step.outcome (lookup job.config "project" job.project.skeletonName run) =
      .error failure) :
    ∃ next, renderProject job sink run = .error failure next ∧ next.sink = run.sink ∧
      next.generated = run.generated := by
  have hlookup := Step.error_of_outcome hmissing
  refine ⟨Step.state (lookup job.config "project" job.project.skeletonName run), ?_, ?_, ?_⟩
  · rw [renderProject, Step.bind_of_error hlookup]
  · exact quiet_lookup job.config "project" job.project.skeletonName run
  · exact (Prod.mk.inj (keeps_lookup job.config "project" job.project.skeletonName run)).1

/-- The requests that a step hands over, if there are none in its journal before. -/
def handed (result : EStateM.Result Failure (Run (σ × List (Disk × Request))) Unit) :
    List Request :=
  (Step.state result).sink.2.map Prod.snd

/-- A state on which nothing has been done, with the catalogs that another one knows and the project
as it is there. -/
def fresh (run : Run σ) (world : Disk × τ) : Run τ where
  disk := world.1
  sink := world.2
  cache := run.cache
  warnings := run.warnings
  changes := run.changes

/-- However a state was used, files cannot be postponed afterwards, and a task for the project ends
on it as on a fresh state for the same project, after the same requests. It leaves the same list of
what it has generated, unless the skeleton of the project is not found: then it hands nothing over
and leaves the list as it was. The worlds may differ as far as the jobs accord. -/
theorem history_forgotten {job : Job} {run : Run σ} (hrun : run.postponing = false)
    (history : List (Task × Sink σ)) :
    (after job history run).postponing = false ∧
      ∀ {τ : Type} {Q : Disk × σ → Disk × τ → Prop} {sink : Sink σ} {sink' : Sink τ}
        {world : Disk × τ} {backupDir : Option Location} {task : Task},
        (task = .project ∨ task = .files) → Q (after job history run).world world →
        Accord job (job.anew backupDir) sink sink' (after job history run).cache Q →
        let used := after job history run
        let result := task.perform job sink.journal (used.withSink (used.sink, []))
        let result' := task.perform (job.anew backupDir) sink'.journal
          ((used.fresh world).withSink (world.2, []))
        Step.outcome result = Step.outcome result' ∧ handed result = handed result' ∧
          match Step.outcome (lookup job.config "project" job.project.skeletonName used) with
          | .ok _ => (Step.state result).generated = (Step.state result').generated
          | .error failure =>
              Step.outcome result = .error failure ∧ handed result = [] ∧
                (Step.state result).generated = used.generated ∧
                (Step.state result').generated = [] := by
  refine ⟨postponing_after hrun, ?_⟩
  intro τ Q sink sink' world backupDir task htask hworld haccord used result result'
  have haccord := haccord.journal
  have htwin : Twin job.config used.cache (Noted Q)
      (fun generated generated' => generated = used.generated ∧ generated' = [])
      (used.withSink (used.sink, [])) ((used.fresh world).withSink (world.2, [])) :=
    { world := ⟨hworld, rfl⟩, generated := ⟨rfl, rfl⟩, cache_eq := rfl,
      postponing_eq := (postponing_after hrun).symm, warnings_eq := rfl, changes_eq := rfl,
      unknown := fun _ hnone => hnone, offered := fun _ _ hknown => .known hknown }
  -- What the look-up comes to depends neither on the journal nor on the list.
  have hsame := (inStep_lookup (accord_journal job sink used.cache) "project"
    job.project.skeletonName (twin_withSink job.config used [])).outcome_eq
  have hsame' := (inStep_lookup haccord "project" job.project.skeletonName htwin).outcome_eq
  cases hlookup : Step.outcome (lookup job.config "project" job.project.skeletonName used) with
  | ok s =>
      have hproject := matches_renderProject haccord htwin (hsame.symm.trans hlookup)
      have hmatches : Matches (Twin job.config used.cache (Noted Q) Eq) result result' := by
        rcases htask with rfl | rfl
        · exact hproject
        · exact hproject.bind fun _ _ _ => inStep_renderPackages haccord _
      exact ⟨hmatches.outcome_eq, hmatches.state.world.2, hmatches.state.generated⟩
  | error failure =>
      have hmissing := hsame.symm.trans hlookup
      obtain ⟨next, hnext, hsink, hgenerated⟩ :=
        renderProject_of_missing job sink.journal hmissing
      obtain ⟨next', hnext', hsink', hgenerated'⟩ :=
        renderProject_of_missing (job.anew backupDir) sink'.journal (hsame'.symm.trans hmissing)
      have hresult : result = .error failure next := by
        rcases htask with rfl | rfl
        · exact hnext
        · exact Step.bind_of_error hnext _
      have hresult' : result' = .error failure next' := by
        rcases htask with rfl | rfl
        · exact hnext'
        · exact Step.bind_of_error hnext' _
      have hnone : handed (.error failure next) = [] := by
        rw [handed, Step.state, hsink]
        rfl
      have hnone' : handed (.error failure next') = [] := by
        rw [handed, Step.state, hsink']
        rfl
      rw [hresult, hresult']
      exact ⟨rfl, hnone.trans hnone'.symm, rfl, hnone, hgenerated, hgenerated'⟩

/-- A run for the project that fails at its second file, while files may be postponed, and one for
a package after it. -/
def strayHistory : List (Task × Sink (List Request)) :=
  [(.project, fun request => throw (.disk .denied request.path)),
    (.package (some { name := "k", dir := "lib" }), recordRequest)]

theorem history_forgotten_stray :
    let used := after askingJob strayHistory askingRun
    let result := renderProject askingJob (Sink.journal recordRequest)
      (used.withSink (used.sink, []))
    let result' := renderProject askingJob (Sink.journal recordRequest)
      ((used.fresh used.world).withSink (used.sink, []))
    used.postponing = false ∧ used.generated = [("lib/c" : Text)] ∧
      Step.outcome result = Step.outcome result' ∧ handed result = handed result' ∧
      (Step.state result).generated = (Step.state result').generated := by
  obtain ⟨hpostponing, hforgotten⟩ :=
    @history_forgotten _ askingJob askingRun rfl strayHistory
  have hfound : Step.outcome (lookup askingJob.config "project" askingJob.project.skeletonName
      (after askingJob strayHistory askingRun)) = .ok askingSkeleton := by
    decide +kernel
  have haccord : Accord askingJob (askingJob.anew none) recordRequest recordRequest
      (after askingJob strayHistory askingRun).cache Eq := .refl askingJob recordRequest _
  obtain ⟨houtcome, hrequests, hgenerated⟩ := hforgotten (.inl rfl) rfl haccord
  rw [hfound] at hgenerated
  exact ⟨hpostponing, by decide +kernel, houtcome, hrequests, hgenerated⟩

/-- After a package was rendered, the list is not cleared if the project has no skeleton. -/
theorem generated_of_unknownProject :
    let run : Run (List Request) := { askingRun with cache := [("project", []),
      ("package", [("library", { name := "library", files := [plainFile "c"] })])] }
    let used := after askingJob [(.package (some { name := "k", dir := "lib" }), recordRequest)] run
    let result := renderProject askingJob recordRequest used
    let result' := renderProject (askingJob.anew none) recordRequest (used.fresh used.world)
    run.postponing = false ∧
      Step.outcome result = .error (.skeleton none (.missingSkeleton "program")) ∧
      Step.outcome result' = .error (.skeleton none (.missingSkeleton "program")) ∧
      (Step.state result).generated = [("lib/c" : Text)] ∧ (Step.state result').generated = [] := by
  decide +kernel

end Run

end Scaffold
