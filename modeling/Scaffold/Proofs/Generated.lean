import Scaffold.Proofs.Progress
import Scaffold.Proofs.Tries

/-!
The list of generated files. A file of a project that evaluates it is rendered in the second pass,
where the list holds what has been generated before; so it does in the files of packages. No run
ends because a file or a value had to wait.
-/

namespace Scaffold.Run

open Failure (IsGenuine IsExternal IsUnresolved)
open Step (Fails)

variable {σ : Type}

/-- The first pass puts a file off and goes on with those after it. -/
def PutsOff (render : SkeletonFile → Running σ Unit) (file : SkeletonFile) (state : Run σ) : Prop :=
  ∃ next, ∀ rest, firstPass render (file :: rest) state =
    (do let later ← firstPass render rest; pure (file :: later) : Running σ _) next

/-- The generated files are these paths in ascending order, repeated ones kept, and so templates see
them. -/
def Lists (scope : Scope) (state : Run σ) (paths : List Text) : Prop :=
  ∃ listed : List Text, listed.Perm paths ∧ (listed.Pairwise fun s t => ¬ t < s) ∧
    generatedFiles state = .ok listed ∧
    ∀ key rest, key.splitOn (.char '.') = ("generated_files" : Text) :: rest →
      Value.lookup (settingAt scope state).context key = Value.follow (.ofTexts listed) rest

theorem lists_of_progress {state : Run σ} {paths : List Text} (h : progress state = (paths, false))
    (scope : Scope) : Lists scope state paths := by
  obtain ⟨hgenerated, hpostponing⟩ := Prod.mk.inj h
  refine ⟨Text.sorted paths, Text.perm_sorted paths, Text.pairwise_sorted paths, ?_, ?_⟩
  · rw [generatedFiles, hgenerated, hpostponing]
    rfl
  · intro key rest hkey
    funext asked
    rw [settingAt, lookup_generated hkey, hgenerated, hpostponing]
    rfl

section

variable {job : Job} {sink : Sink σ} {scope : Scope} {s : Skeleton} {file : SkeletonFile}
  {run state next last : Run σ}

theorem putsOff_of_postponed {render : SkeletonFile → Running σ Unit}
    (h : render file state = .error (.foreign .postponed) next) : PutsOff render file state :=
  ⟨next, fun _ => Step.bind_of_ok (done_of_postponed h) _⟩

theorem postponed_of_putsOff {render : SkeletonFile → Running σ Unit}
    (h : PutsOff render file state) :
    ∃ next, render file state = .error (.foreign .postponed) next := by
  obtain ⟨next, hrest⟩ := h
  have halone : firstPass render [file] state = .ok [file] next := hrest []
  obtain ⟨finished, middle, hdone, hlater⟩ := Step.bind_eq_ok_iff.mp halone
  have hrender := eq_of_done hdone
  cases finished with
  | true => cases hlater
  | false => exact ⟨middle, hrender⟩

theorem putsOff_iff (hrender : job.substitute = Setting.render) (hscope : scope.IsReady)
    (hsink : sink.IsGenuine) (hpostponing : state.postponing = true) :
    PutsOff (renderFile job sink scope s) file state ↔
      ∃ key, NamesGenerated key ∧ Evaluates job scope s state file key := by
  constructor
  · intro h
    obtain ⟨next, hpostponed⟩ := postponed_of_putsOff h
    exact (evaluates_of_renderFile hrender hscope hsink hpostponed (by simp [IsGenuine,
      Failure.isPostponement])).2.2
  · rintro ⟨key, hkey, hevaluates⟩
    obtain ⟨next, hpostponed⟩ :=
      postponed_of_evaluates sink hrender hscope hpostponing hkey hevaluates
    exact putsOff_of_postponed hpostponed

/-- A skeleton is not found because it cannot be resolved or because the disk cannot be read. -/
theorem fails_lookup (config : Config) (kind name : Text) :
    Fails (fun failure => IsExternal failure ∨ IsUnresolved failure)
      (lookup config kind name : Running σ Skeleton) := by
  have hcatalog : Fails IsExternal (catalog config kind : Running σ Catalog) := by
    refine Step.fails_get.bind fun run => ?_
    refine (Step.fails_focus (Cache.fails_fetch config run.disk kind run.cache)).bind ?_
    rintro ⟨catalog, cache⟩
    exact (Step.fails_modify _).bind fun _ => Step.fails_pure catalog
  refine (hcatalog.imp fun _ => Or.inl).bind fun catalog => Step.fails_lift ?_
  exact (Catalog.refuses_resolve catalog [] name).imp fun _ => Or.inr

theorem isGenuine_of_lookup {config : Config} {kind name : Text} {failure : Failure}
    (h : lookup config kind name run = .error failure last) : IsGenuine failure :=
  (fails_lookup config kind name h).elim IsExternal.isGenuine IsUnresolved.isGenuine

section

variable (hrender : job.substitute = Setting.render) (hscope : scope.IsReady)
  (hsink : sink.IsGenuine)

include hrender hscope hsink

theorem fails_done (file : SkeletonFile) :
    Fails IsGenuine (done (renderFile job sink scope s file)) := by
  intro run last failure h
  unfold done at h
  split at h
  · cases h
  · cases h
  · rename_i hnot hother
    cases h
    refine Decidable.byContradiction fun hfailure => ?_
    have hpostponed := (evaluates_of_renderFile hrender hscope hsink hother hfailure).1
    exact hnot hpostponed

theorem fails_firstPass (files : List SkeletonFile) :
    Fails IsGenuine (firstPass (renderFile job sink scope s) files) := by
  induction files with
  | nil => exact Step.fails_pure []
  | cons file rest ih =>
      refine (fails_done hrender hscope hsink file).bind fun finished => ?_
      cases finished with
      | true => exact ih
      | false => exact ih.bind fun later => Step.fails_pure (file :: later)

theorem isGenuine_of_renderFile {failure : Failure} (hpostponing : run.postponing = false)
    (h : renderFile job sink scope s file run = .error failure last) : IsGenuine failure := by
  refine Decidable.byContradiction fun hfailure => ?_
  have hmay := (evaluates_of_renderFile hrender hscope hsink h hfailure).2.1
  rw [hpostponing] at hmay
  cases hmay

theorem isGenuine_of_renderAll {files : List SkeletonFile} {failure : Failure}
    (hpostponing : run.postponing = false)
    (h : renderAll (renderFile job sink scope s) files run = .error failure last) :
    IsGenuine failure := by
  obtain ⟨own, file, after, state, -, hattempts, hfile⟩ := exists_stop_of_renderAll h
  have hkept := (Prod.mk.inj (progress_of_unpostponed hattempts)).2
  exact isGenuine_of_renderFile hrender hscope hsink (hkept.trans hpostponing) hfile

/-- No file is postponed in the second pass. -/
theorem isGenuine_of_secondPass {files : List SkeletonFile} {failure : Failure}
    (hpostponing : run.postponing = false)
    (h : secondPass (renderFile job sink scope s) files run = .error failure last) :
    IsGenuine failure := by
  induction files generalizing run with
  | nil => cases h
  | cons file rest ih =>
      rcases Step.bind_eq_error_iff.mp h with hdone | ⟨finished, next, hdone, hrest⟩
      · exact fails_done hrender hscope hsink file hdone
      · have hfile := eq_of_done hdone
        cases finished with
        | true =>
            obtain ⟨request, hyields⟩ := yields_of_renderFile hfile
            have hcall : Yields job scope s run file (callAt job request next).request := hyields
            have hnext := (Prod.mk.inj (progress_of_renderFile hcall rfl hfile)).2
            exact ih (hnext.trans hpostponing) hrest
        | false =>
            have hgenuine := isGenuine_of_renderFile hrender hscope hsink hpostponing hfile
            cases hgenuine

end

end

section

variable {job : Job} {sink : Sink σ} {run last : Run σ} {failure : Failure}

theorem fails_whilePostponing {α : Type} {x : Running σ α} (hx : Fails IsGenuine x) :
    Fails IsGenuine (whilePostponing x) := by
  intro run last failure h
  unfold whilePostponing at h
  split at h
  · cases h
  · rename_i hstep
    cases h
    exact hx hstep

theorem exists_projectCalls (h : renderProject job sink run = .ok () last) :
    ∃ calls, ProjectCalls job sink run calls last := by
  obtain ⟨s, trace, between, hfirst, hsecond⟩ := exists_firstPass_of_renderProject h
  obtain ⟨second, hattempts, hfiles⟩ := secondPass_eq_ok_iff.mp hsecond
  exact ⟨called trace ++ second, ⟨s, trace, between, second, hfirst, hattempts, hfiles, rfl⟩⟩

theorem isGenuine_of_renderProject (hrender : job.substitute = Setting.render)
    (hsink : sink.IsGenuine) (h : renderProject job sink run = .error failure last) :
    IsGenuine failure := by
  have hscope := Scope.isReady_ofProject job.project
  rcases Step.bind_eq_error_iff.mp h with hlookup | ⟨s, start, -, hclear⟩
  · exact isGenuine_of_lookup hlookup
  rcases Step.bind_eq_error_iff.mp hclear with hcleared | ⟨_, cleared, -, hpasses⟩
  · cases hcleared
  rcases Step.bind_eq_error_iff.mp hpasses with hfirst | ⟨later, between, hfirst, hsecond⟩
  · exact fails_whilePostponing (fails_firstPass hrender hscope hsink s.files) hfirst
  · obtain ⟨middle, -, rfl⟩ := whilePostponing_eq_ok_iff.mp hfirst
    exact isGenuine_of_secondPass hrender hscope hsink rfl hsecond

theorem isGenuine_of_renderPackages {indices : List Nat}
    (hrender : job.substitute = Setting.render) (hsink : sink.IsGenuine)
    (hpostponing : run.postponing = false)
    (h : renderPackages job sink indices run = .error failure last) : IsGenuine failure := by
  obtain ⟨earlier, i, later, visits, here, k, -, hcalls, -, hpackage⟩ :=
    exists_stop_of_renderPackages h
  rcases Step.bind_eq_error_iff.mp hpackage with hlookup | ⟨s, start, hlookup, hall⟩
  · exact isGenuine_of_lookup hlookup
  · -- Neither the packages before it nor the look-up of its skeleton let files be postponed.
    have hhere := (Prod.mk.inj hcalls.progress_eq).2
    have hstart := (Prod.mk.inj ((keeps_lookup _ _ _).of_ok hlookup)).2
    exact isGenuine_of_renderAll hrender (Scope.isReady_ofPackage k job.project) hsink
      (hstart.trans (hhere.trans hpostponing)) hall

theorem isGenuine_of_renderFiles (hrender : job.substitute = Setting.render)
    (hsink : sink.IsGenuine) (h : renderFiles job sink run = .error failure last) :
    IsGenuine failure := by
  rcases Step.bind_eq_error_iff.mp h with hproject | ⟨_, middle, hproject, hpackages⟩
  · exact isGenuine_of_renderProject hrender hsink hproject
  · obtain ⟨calls, hcalls⟩ := exists_projectCalls hproject
    have hpostponing := (Prod.mk.inj hcalls.progress_eq).2
    exact isGenuine_of_renderPackages hrender hsink hpostponing hpackages

end

/-- The list of generated files is complete. In the first pass exactly the files that ask for it are
put off. In the second pass it holds the paths of what was handed over before and not skipped, and
so it does for the files of packages. No rendering ends because something had to wait. -/
theorem generated_complete {job : Job} {sink : Sink σ} (hrender : job.substitute = Setting.render)
    (hsink : sink.IsGenuine) (run : Run σ) :
    (∀ s trace file state, TriedFirst job sink run s trace file state →
        (PutsOff (renderFile job sink (.ofProject job.project) s) file state ↔
          ∃ key, NamesGenerated key ∧
            Evaluates job (.ofProject job.project) s state file key)) ∧
      (∀ s calls file state, TriedAgain job sink run s calls file state →
        Lists (.ofProject job.project) state (unskipped calls)) ∧
      (∀ calls k s file state, TriedInPackage job sink run calls k s file state →
        Lists (.ofPackage k job.project) state (unskipped calls)) ∧
      ∀ failure last,
        renderProject job sink run = .error failure last ∨
            renderFiles job sink run = .error failure last →
          IsGenuine failure := by
  refine ⟨?_, ?_, ?_, ?_⟩
  · intro s trace file state htried
    exact putsOff_iff hrender (Scope.isReady_ofProject job.project) hsink htried.postponing_eq
  · intro s calls file state htried
    exact lists_of_progress htried.progress_eq _
  · intro calls k s file state htried
    exact lists_of_progress htried.progress_eq _
  · rintro failure last (hproject | hfiles)
    · exact isGenuine_of_renderProject hrender hsink hproject
    · exact isGenuine_of_renderFiles hrender hsink hfiles

/-- A file that asks for what has been generated. -/
def askingFile (path : Text) : SkeletonFile where
  path := path
  content := (Token.placeholder "generated_files").source
  permissions := 420

/-- A file without placeholders. -/
def plainFile (path : Text) : SkeletonFile where
  path := path
  content := "text"
  permissions := 420

/-- A skeleton with a file of each kind. -/
def askingSkeleton : Skeleton where
  name := "program"
  files := [askingFile "a", plainFile "b"]

/-- A job for a project with that skeleton and with a package. -/
def askingJob : Job where
  config := { shareDir := .ofText "/share", stateDir := .ofText "/state", verbosity := 0 }
  project := { name := "p", packages := [{ name := "k", dir := "lib" }] }

/-- The state in which the skeletons for that job are known. -/
def askingRun : Run (List Request) where
  disk := Disk.empty
  sink := []
  cache := [
    ("project", [("program", askingSkeleton)]),
    ("package", [("library", { name := "library", files := [askingFile "c"] })])]

theorem generated_complete_asking :
    (∃ s file state, TriedFirst askingJob recordRequest askingRun s [] file state ∧
        PutsOff (renderFile askingJob recordRequest (.ofProject askingJob.project) s) file state ∧
        ∃ key, NamesGenerated key ∧
          Evaluates askingJob (.ofProject askingJob.project) s state file key) ∧
      (∃ s calls file state, TriedAgain askingJob recordRequest askingRun s calls file state ∧
        Lists (.ofProject askingJob.project) state [("b" : Text)]) ∧
      (∃ calls k s file state,
        TriedInPackage askingJob recordRequest askingRun calls k s file state ∧
        Lists (.ofPackage k askingJob.project) state [("b" : Text), ("a" : Text)]) ∧
      ∃ failure last,
        renderFiles askingJob recordRequest { askingRun with cache := [("project", [])] } =
            .error failure last ∧
          IsGenuine failure := by
  have hcomplete := @generated_complete _ askingJob _ rfl isGenuine_recordRequest
  obtain ⟨hfirst, hagain, hpackage, -⟩ := hcomplete askingRun
  have hknown : lookup askingJob.config "project" askingJob.project.skeletonName askingRun =
      .ok askingSkeleton askingRun := by with_unfolding_all rfl
  have hproject : Step.outcome (renderProject askingJob recordRequest askingRun) = .ok () := by
    decide +kernel
  have hlast := Step.ok_of_outcome hproject
  refine ⟨?_, ?_, ?_, ?_⟩
  · have hput : Step.outcome (renderFile askingJob recordRequest (.ofProject askingJob.project)
        askingSkeleton (askingFile "a") { askingRun with generated := [], postponing := true }) =
        .error (.foreign .postponed) := by
      decide +kernel
    have htried : TriedFirst askingJob recordRequest askingRun askingSkeleton [] (askingFile "a")
        { askingRun with generated := [], postponing := true } :=
      ⟨⟨askingRun, hknown, .nil⟩, _, rfl⟩
    have hputsOff := putsOff_of_postponed (Step.error_of_outcome hput)
    exact ⟨_, _, _, htried, hputsOff, (hfirst _ _ _ _ htried).mp hputsOff⟩
  · obtain ⟨s, trace, between, hpass, -⟩ := exists_firstPass_of_renderProject hlast
    obtain ⟨⟨start, middle, hlookup, hattempts, rfl⟩, hfiles⟩ := id hpass
    cases hlookup.symm.trans hknown
    have hlater : (match firstPass (renderFile askingJob recordRequest
          (.ofProject askingJob.project) askingSkeleton) askingSkeleton.files
          { askingRun with generated := [], postponing := true } with
        | .ok later next => some (later, next.generated)
        | .error _ _ => none) = some ([askingFile "a"], [("b" : Text)]) := by
      decide +kernel
    rw [← hfiles, firstPass_of_attempts hattempts] at hlater
    obtain ⟨hpostponed, hgenerated⟩ := Prod.mk.inj (Option.some.inj hlater)
    have htried : TriedAgain askingJob recordRequest askingRun askingSkeleton (called trace)
        (askingFile "a") { middle with postponing := false } :=
      ⟨trace, _, [], [], hpass, .nil, hpostponed, (List.append_nil _).symm⟩
    have hcalled : unskipped (called trace) = [("b" : Text)] :=
      (Prod.mk.inj htried.progress_eq).1.symm.trans hgenerated
    exact ⟨_, _, _, _, htried, hcalled ▸ hagain _ _ _ _ htried⟩
  · obtain ⟨calls, hcalls⟩ := exists_projectCalls hlast
    have hstart : Step.outcome (lookup askingJob.config "package" "library"
        (Step.state (renderProject askingJob recordRequest askingRun))) =
        .ok { name := "library", files := [askingFile "c"] } := by
      decide +kernel
    have hgenerated : (Step.state (lookup askingJob.config "package" "library"
        (Step.state (renderProject askingJob recordRequest askingRun)))).generated =
        [("b" : Text), ("a" : Text)] := by
      decide +kernel
    have hvisited : packageAt askingJob (Step.state
        (renderProject askingJob recordRequest askingRun)) 0 = some { name := "k", dir := "lib" } := by
      decide +kernel
    have htried : TriedInPackage askingJob recordRequest askingRun calls
        { name := "k", dir := "lib" } { name := "library", files := [askingFile "c"] }
        (askingFile "c") _ :=
      ⟨calls, _, [], 0, [], [], _, _, [], [], hcalls, rfl, .nil, hvisited,
        Step.ok_of_outcome hstart, .nil, rfl, by simp [Visits.calls]⟩
    have hcalled : unskipped calls = [("b" : Text), ("a" : Text)] :=
      (Prod.mk.inj htried.progress_eq).1.symm.trans hgenerated
    exact ⟨_, _, _, _, _, htried, hcalled ▸ hpackage _ _ _ _ _ htried⟩
  · have hmissing : Step.outcome (renderFiles askingJob recordRequest
        { askingRun with cache := [("project", [])] }) =
          .error (.skeleton none (.missingSkeleton "program")) := by
      decide +kernel
    have herror := Step.error_of_outcome hmissing
    exact ⟨_, _, herror, (hcomplete _).2.2.2 _ _ (.inr herror)⟩

end Scaffold.Run
