import Scaffold.Proofs.Generated
import Scaffold.Proofs.Sheets

/-!
Files are rendered independently. What the first pass makes of a file follows from the project, the
file and the flags that are declared for it. Neither the other files of the skeleton nor what has
been done with them before has an influence.
-/

namespace Scaffold

open Step (InStep)

/-- Two sheets have the same flags and the same changes of lists; what was warned of before may
differ. -/
structure SameFlags (sheet other : Sheet) : Prop where
  flags : sheet.flags = other.flags
  changes : sheet.changes = other.changes

theorem relates_sameFlags : RelatesSheets SameFlags where
  frames h := congrArg FileFlags.frames h.flags
  changes h := h.changes
  looked h _ := ⟨h.flags, rfl⟩

theorem Directive.inStep_handler_sameFlags (evaluate : LiveEvaluator) (directive : Text) :
    InStep SameFlags (handler evaluate directive) (handler evaluate directive) := by
  refine inStep_handler relates_sameFlags fun evaluate sheet other h => ?_
  rw [apply_eq, apply_eq, h.flags]
  split
  · exact .ok ⟨rfl, h.changes⟩
  · exact .error h

namespace Setting

theorem inStep_renderBody (s : Setting) (evaluate : LiveEvaluator) (content : Text) :
    InStep SameFlags (s.renderBody evaluate content) (s.renderBody evaluate content) := by
  refine Step.inStep_get_bind fun sheet other h => ?_
  rw [h.flags]
  refine Step.inStep_ite ?_ (Step.inStep_pure content)
  refine inStep_renderTokens relates_sameFlags ?_ _
  rintro _ ⟨⟩ directive
  exact Directive.inStep_handler_sameFlags evaluate directive

theorem inStep_renderContent (hhandler : s.handler = none) (evaluate : LiveEvaluator)
    (content : Text) :
    InStep SameFlags (renderContent render evaluate s content)
      (renderContent render evaluate s content) := by
  rw [renderContent_eq]
  refine (s.inStep_renderBody evaluate content).bind fun text => ?_
  refine Step.inStep_get_bind fun sheet other h => ?_
  rw [h.flags]
  have hrespects : s.Respects SameFlags := by simp [Respects, hhandler]
  exact (inStep_renderTokens relates_sameFlags hrespects _).bind fun target =>
    Step.inStep_pure (text, target)

end Setting

/-- Two logs have the same changes of lists. -/
abbrev SameChanges (log other : Log) : Prop := log.changes = other.changes

theorem Rendering.inStep_withFlags {α : Type} {x : Rendering α} (hx : InStep SameFlags x x)
    (flags : FileFlags) : InStep SameChanges (x.withFlags flags) (x.withFlags flags) := by
  intro log other h
  have hstep := hx (show SameFlags (log.sheet flags) (other.sheet flags) from ⟨rfl, h⟩)
  unfold withFlags
  generalize x (log.sheet flags) = left at hstep ⊢
  generalize x (other.sheet flags) = right at hstep ⊢
  cases hstep with
  | ok hnext =>
      dsimp only
      rw [hnext.flags]
      exact .ok hnext.changes
  | error hnext => exact .error hnext.changes

theorem Skeleton.flagsFor_congr {s other : Skeleton} {path : Text}
    (h : s.flags.get? path = other.flags.get? path) (bits : Int) :
    s.flagsFor path bits = other.flagsFor path bits := by
  unfold flagsFor
  rw [h]

/-- The request of a file depends on the skeleton only by the flags that are declared for it, and on
what was done before only by the changes of lists. -/
theorem outcome_requestFor {s other : Skeleton} {file : SkeletonFile} {setting : Setting}
    (hhandler : setting.handler = none)
    (hflags : s.flags.get? file.path = other.flags.get? file.path) (scope : Scope)
    {log before : Log} (hchanges : log.changes = before.changes) :
    Step.outcome (requestFor Setting.render scope setting s file log) =
      Step.outcome (requestFor Setting.render scope setting other file before) := by
  have hsame : s.flagsFor file.path file.permissions = other.flagsFor file.path file.permissions :=
    Skeleton.flagsFor_congr hflags file.permissions
  have hrequest : InStep SameChanges (requestFor Setting.render scope setting s file)
      (requestFor Setting.render scope setting other file) := by
    unfold requestFor
    rw [hsame]
    have hcontent := Rendering.inStep_withFlags
      (Setting.inStep_renderContent hhandler scope.evaluate file.content)
      (other.flagsFor file.path file.permissions)
    refine (hcontent.mapFailure _).bind ?_
    rintro ⟨⟨content, target⟩, flags⟩
    exact Step.inStep_pure _
  exact (hrequest hchanges).outcome_eq

namespace Run

variable {σ τ : Type}

/-- What it comes to to try a file: the only request that the file leads to is handed over, or there
is none and the attempt fails. In both cases nothing has been handed over before. -/
inductive ComesTo (job : Job) (sink : Sink σ) (scope : Scope) (s : Skeleton) (file : SkeletonFile)
    (state : Run σ) : Except Failure Request → Prop where
  | called {request : Request} {prepared : Run σ}
      (hyields : Yields job scope s state file request) (hsink : prepared.sink = state.sink)
      (hrender : renderFile job sink scope s file state = deliver job sink request prepared) :
      ComesTo job sink scope s file state (.ok request)
  | failed {failure : Failure} {last : Run σ}
      (hnone : ∀ request, ¬ Yields job scope s state file request) (hsink : last.sink = state.sink)
      (hrender : renderFile job sink scope s file state = .error failure last) :
      ComesTo job sink scope s file state (.error failure)

section

variable {job : Job} {sink : Sink σ} {scope : Scope} {s : Skeleton} {file : SkeletonFile}
  {state saved : Run σ}

theorem ComesTo.unique {result other : Except Failure Request}
    (h : ComesTo job sink scope s file state result)
    (hother : ComesTo job sink scope s file state other) : result = other := by
  cases h with
  | called hyields =>
      cases hother with
      | called hyields' => rw [hyields.unique hyields']
      | failed hnone => exact absurd hyields (hnone _)
  | failed hnone _ hrender =>
      cases hother with
      | called hyields' => exact absurd hyields' (hnone _)
      | failed _ _ hrender' =>
          rw [hrender] at hrender'
          cases hrender'
          rfl

/-- Two attempts that come to the same result come to the same ones altogether. -/
theorem ComesTo.congr {other : Job} {sink' : Sink τ} {scope' : Scope} {s' : Skeleton}
    {file' : SkeletonFile} {state' : Run τ} {result : Except Failure Request}
    (h : ComesTo job sink scope s file state result)
    (h' : ComesTo other sink' scope' s' file' state' result) (found : Except Failure Request) :
    ComesTo job sink scope s file state found ↔
      ComesTo other sink' scope' s' file' state' found := by
  constructor
  · intro hfound
    rw [hfound.unique h]
    exact h'
  · intro hfound
    rw [hfound.unique h']
    exact h

theorem comesTo_requestFor (sink : Sink σ) (scope : Scope) (s : Skeleton)
    (hbackup : backup job file state = .ok () saved) :
    ComesTo job sink scope s file state
      (Step.outcome
        (requestFor job.substitute scope (settingAt scope state) s file state.log)) := by
  have hprepare : prepare job scope s file state =
      logging (requestFor job.substitute scope (settingAt scope state) s file) saved :=
    prepare_of_backup hbackup
  have hsaved : saved.sink = state.sink := (quiet_backup job file).of_ok hbackup
  have hquiet : ∀ after : Log,
      ({ saved with warnings := after.warnings, changes := after.changes } : Run σ).sink =
        state.sink := fun _ => hsaved
  rw [← log_of_backup hbackup]
  cases hrequest : requestFor job.substitute scope (settingAt scope state) s file saved.log with
  | ok request after =>
      have hprepared := hprepare.trans (logging_eq_ok_iff.mpr ⟨after, hrequest, rfl⟩)
      refine .called (prepare_eq_ok hprepared) (hquiet after) ?_
      rw [renderFile_eq, Step.bind_of_ok hprepared]
  | error failure after =>
      have hprepared := hprepare.trans (logging_eq_error_iff.mpr ⟨after, hrequest, rfl⟩)
      refine .failed ?_ (hquiet after) ?_
      · rintro request ⟨content, target, flags, ⟨log, hrenders⟩, -⟩
        obtain ⟨cause, sheet, hcause, -⟩ := exists_cause_of_requestFor hrequest
        rw [log_of_backup hbackup] at hcause
        cases hcause.symm.trans hrenders
      · rw [renderFile_eq, Step.bind_of_error hprepared]

theorem comesTo_of_outcome (sink : Sink σ) {result : Except Failure Request}
    (hrender : job.substitute = Setting.render)
    (hbackup : Step.outcome (backup job file state) = .ok ())
    (hrequest : Step.outcome (requestFor Setting.render scope (settingAt scope state) s file
      state.log) = result) :
    ComesTo job sink scope s file state result := by
  rw [← hrequest, ← hrender]
  exact comesTo_requestFor sink scope s (Step.ok_of_outcome hbackup)

theorem settingAt_of_postponing (hpostponing : state.postponing = true) :
    settingAt scope state = settingFor scope state.changes true [] := by
  rw [settingAt, hpostponing]
  rfl

end

/-- A skeleton with another file before the one that the asking skeleton has in common with it. -/
def crowdedSkeleton : Skeleton where
  name := "program"
  files := [
    { path := "a", content := (Token.bracket "skip").source, permissions := 420 },
    plainFile "b"]
  flags := [("a", { createOnce := true })]

/-- The state in which that skeleton is known. -/
def crowdedRun : Run (List Request) :=
  { askingRun with cache := [("project", [("program", crowdedSkeleton)])] }

/-- A file with the authors of the project. -/
def authorsFile : SkeletonFile where
  path := "z"
  content := (Token.placeholder "project.authors").source
  permissions := 420

/-- A file that takes the authors of the project away. -/
def clearingFile : SkeletonFile where
  path := "a"
  content := (Token.placeholder "project.authors.clear").source
  permissions := 420

/-- A job for a project with an author. -/
def authoredJob : Job :=
  { askingJob with project := { name := "p", authors := ["x"] } }

/-- A skeleton with the file of the authors behind other ones. -/
def authorsSkeleton (before : List SkeletonFile) : Skeleton where
  name := "program"
  files := before ++ [authorsFile]

/-- The state in which that skeleton is known. -/
def authorsRun (before : List SkeletonFile) : Run (List Request) :=
  { askingRun with cache := [("project", [("program", authorsSkeleton before)])] }

end Run

end Scaffold
