import Scaffold.Proofs.Calls
import Scaffold.Proofs.Evaluation

/-!
Trying one file. In a pass in which files may be postponed, a file is postponed exactly if it
evaluates the list of generated files. In any other state no file is postponed.
-/

namespace Scaffold

open Failure (IsGenuine IsExternal IsDirectiveFault)
open Step (Fails Refuses)

/-- Whether a key is that of the generated files, or of something in them. -/
def NamesGenerated (key : Text) : Prop :=
  ∃ rest, key.splitOn (.char '.') = ("generated_files" : Text) :: rest

/-- The values and conditions of a scope never have to be waited for. -/
structure Scope.IsReady (scope : Scope) : Prop where
  values : ∀ changes, ∀ entry ∈ scope.values changes, entry.2.isSettled = true
  evaluate : ∀ changes tokens, Refuses IsGenuine (scope.evaluate changes tokens)

namespace Scope

theorem isReady_ofProject (p : Project) : (ofProject p).IsReady := by
  have hevaluate := fun changes tokens =>
    (Condition.refuses_ofProject (p.after changes) tokens).imp fun _ => IsDirectiveFault.isGenuine
  refine ⟨?_, hevaluate⟩
  intro changes entry hentry
  rcases Keyed.mem_insert hentry with rfl | hentry
  · rfl
  · exact Value.projectContext_settled _ entry hentry

theorem isReady_ofPackage (k : Package) (p : Project) : (ofPackage k p).IsReady := by
  have hevaluate := fun changes tokens =>
    (Condition.refuses_ofPackage k (p.after changes) tokens).imp fun _ =>
      IsDirectiveFault.isGenuine
  refine ⟨?_, hevaluate⟩
  intro changes entry hentry
  rcases Keyed.mem_insert hentry with rfl | hentry
  · rfl
  rcases Keyed.mem_insert hentry with rfl | hentry
  · rfl
  · exact Value.packageContext_settled k entry hentry

end Scope

section

variable {scope : Scope} {changes asked : Changes} {postponing : Bool} {generated : List Text}
  {key : Text}

theorem lookup_generated {rest : List Text}
    (hkey : key.splitOn (.char '.') = ("generated_files" : Text) :: rest) :
    Value.lookup (settingFor scope changes postponing generated).context key asked =
      if postponing then .error (.foreign .postponed) asked
      else Value.follow (.ofTexts (Text.sorted generated)) rest asked := by
  have hvalue : (settingFor scope changes postponing generated).context.get? "generated_files" =
      some (generatedValue postponing generated) := by
    rw [settingFor, Keyed.get?_insert, if_pos rfl]
  rw [Value.lookup_of_splitOn hkey hvalue]
  cases postponing with
  | true =>
      rw [generatedValue, if_pos rfl, Value.after_pending]
      rfl
  | false =>
      rw [generatedValue, if_neg Bool.false_ne_true, Value.after_computed, Value.after_ofTexts]
      rfl

theorem lookup_of_not_namesGenerated (hkey : ¬ NamesGenerated key) :
    Value.lookup (settingFor scope changes postponing generated).context key =
      Value.lookup (scope.values changes) key := by
  obtain ⟨first, rest, hsplit⟩ := List.exists_cons_of_ne_nil (Text.splitOn_ne_nil (.char '.') key)
  have hfirst : first ≠ "generated_files" := by
    rintro rfl
    exact hkey ⟨rest, hsplit⟩
  have hvalue : (settingFor scope changes postponing generated).context.get? first =
      (scope.values changes).get? first := by
    rw [settingFor, Keyed.get?_insert, if_neg hfirst]
  funext asked
  rw [Value.lookup, Value.lookup, Step.get_bind, Step.get_bind, Value.after_table,
    Value.after_table, hsplit, Value.follow, Value.follow, Value.step, Value.step,
    Value.get?_after, Value.get?_after, hvalue]

theorem isLate_iff (hscope : scope.IsReady) :
    Value.IsLate (settingFor scope changes postponing generated).context key asked ↔
      postponing = true ∧ NamesGenerated key := by
  by_cases hkey : NamesGenerated key
  · obtain ⟨rest, hsplit⟩ := hkey
    rw [Value.IsLate, lookup_generated hsplit]
    cases postponing with
    | true => exact iff_of_true ⟨asked, rfl⟩ ⟨rfl, rest, hsplit⟩
    | false =>
        refine iff_of_false ?_ (by simp)
        rintro ⟨after, hfollow⟩
        exact (Value.settles_follow (Value.isSettled_ofTexts _ _) rest asked).2
          (congrArg Step.outcome hfollow)
  · rw [Value.IsLate, lookup_of_not_namesGenerated hkey]
    refine iff_of_false ?_ fun h => hkey h.2
    rintro ⟨after, hfollow⟩
    have hvalues : (Value.table (scope.values changes)).isSettled = true :=
      Value.entriesSettled_iff.mpr (hscope.values changes)
    exact (Value.settles_follow (Value.isSettled_after hvalues asked) _ asked).2
      (congrArg Step.outcome hfollow)

end

namespace Setting

variable {s : Setting} {evaluate : LiveEvaluator} {content key : Text} {sheet : Sheet}
  {asked : Changes}

/-- The rendering of the content of a file, if it is to be rendered. -/
def renderBody (s : Setting) (evaluate : LiveEvaluator) (content : Text) : Rendering Text := do
  if (← get).flags.substitutes then (s.withDirectives evaluate).render content else pure content

/-- The rendering of a file asks for the value of a key: in its content, or in its path after
that. -/
inductive AsksInFile (s : Setting) (evaluate : LiveEvaluator) (content : Text) (sheet : Sheet) :
    Text → Changes → Prop where
  | content {key : Text} {asked : Changes} (hsubstitutes : sheet.flags.substitutes = true)
      (hasks : (s.withDirectives evaluate).Asks (Template.tokens content) sheet key asked) :
      AsksInFile s evaluate content sheet key asked
  | target {key text : Text} {next : Sheet} {asked : Changes}
      (hcontent : s.renderBody evaluate content sheet = .ok text next)
      (hasks : s.Asks (Template.tokens next.flags.targetPath) next key asked) :
      AsksInFile s evaluate content sheet key asked

theorem renderBody_apply (s : Setting) (evaluate : LiveEvaluator) (content : Text)
    (sheet : Sheet) :
    s.renderBody evaluate content sheet =
      if sheet.flags.substitutes then (s.withDirectives evaluate).render content sheet
      else .ok content sheet := by
  rw [renderBody, Step.get_bind]
  split <;> rfl

theorem renderContent_eq (s : Setting) (evaluate : LiveEvaluator) (content : Text) :
    renderContent render evaluate s content = (do
      let text ← s.renderBody evaluate content
      let target ← s.render (← get).flags.targetPath
      pure (text, target)) := by
  funext sheet
  rw [Step.bind_apply, renderBody_apply, renderContent, Step.get_bind]
  by_cases hsubstitutes : sheet.flags.substitutes = true
  · rw [if_pos hsubstitutes, if_pos hsubstitutes]
    rfl
  · rw [if_neg hsubstitutes, if_neg hsubstitutes]
    rfl

theorem renderContent_of_asks (hpostpone : s.postpone = true)
    (hasks : s.AsksInFile evaluate content sheet key asked)
    (hlate : Value.IsLate s.context key asked) :
    ∃ last, renderContent render evaluate s content sheet = .error (.foreign .postponed) last := by
  rw [renderContent_eq]
  cases hasks with
  | content hsubstitutes hasks =>
      have hpostpone' : (s.withDirectives evaluate).postpone = true := hpostpone
      obtain ⟨last, hlast⟩ := renderTokens_of_asks hpostpone' hasks hlate
      refine ⟨last, Step.bind_of_error ?_ _⟩
      rw [renderBody_apply, if_pos hsubstitutes]
      exact hlast
  | target hcontent hasks =>
      obtain ⟨last, hlast⟩ := renderTokens_of_asks hpostpone hasks hlate
      refine ⟨last, ?_⟩
      rw [Step.bind_of_ok hcontent, Step.get_bind]
      exact Step.bind_of_error hlast _

theorem asks_of_renderContent {failure : Failure} {last : Sheet}
    (hfilters : s.filters = Filter.standard) (hhandler : s.handler = none)
    (hevaluate : ∀ changes tokens, Refuses IsGenuine (evaluate changes tokens))
    (h : renderContent render evaluate s content sheet = .error failure last)
    (hfailure : ¬ IsGenuine failure) :
    ∃ key asked, s.AsksInFile evaluate content sheet key asked ∧
      Value.IsLate s.context key asked := by
  rw [renderContent_eq] at h
  rcases Step.bind_eq_error_iff.mp h with hbody | ⟨text, next, hbody, hrest⟩
  · rw [renderBody_apply] at hbody
    split at hbody
    · rename_i hsubstitutes
      have hdirectives : ∀ handle, (s.withDirectives evaluate).handler = some handle →
          ∀ directive, Fails IsGenuine (handle directive) := by
        rintro _ ⟨⟩
        exact Directive.fails_handler (fun _ => IsDirectiveFault.isGenuine) hevaluate
      obtain ⟨key, asked, hasks, hlate⟩ := asks_of_renderTokens (s := s.withDirectives evaluate)
        hfilters hdirectives hbody hfailure
      exact ⟨key, asked, .content hsubstitutes hasks, hlate⟩
    · cases hbody
  · rw [Step.get_bind] at hrest
    rcases Step.bind_eq_error_iff.mp hrest with htarget | ⟨target, after, -, hpure⟩
    · have hnone : ∀ handle, s.handler = some handle →
          ∀ directive, Fails IsGenuine (handle directive) := by
        intro handle hhandle
        rw [hhandler] at hhandle
        cases hhandle
      obtain ⟨key, asked, hasks, hlate⟩ := asks_of_renderTokens hfilters hnone htarget hfailure
      exact ⟨key, asked, .target hbody hasks, hlate⟩
    · cases hpure

end Setting

/-- No failure of the sink speaks of values that are not available. -/
def Sink.IsGenuine {σ : Type} (sink : Sink σ) : Prop :=
  ∀ request, Fails Failure.IsGenuine (sink request)

theorem isGenuine_recordRequest : Sink.IsGenuine recordRequest :=
  fun _ => Step.fails_modify _

theorem Writer.isGenuine_write (w : Writer) : Sink.IsGenuine w.write := w.fails_write

namespace Run

variable {σ : Type} {job : Job} {sink : Sink σ} {scope : Scope} {s : Skeleton}
  {file : SkeletonFile} {run saved last : Run σ} {key : Text} {failure : Failure}

/-- To try a file in a state of a run asks for the value of a key. -/
def Evaluates (job : Job) (scope : Scope) (s : Skeleton) (run : Run σ) (file : SkeletonFile)
    (key : Text) : Prop :=
  (∃ saved, backup job file run = .ok () saved) ∧
    ∃ asked, (settingAt scope run).AsksInFile scope.evaluate file.content (sheetFor s file run.log)
      key asked

theorem requestFor_of_error {substitute : Substitute} {setting : Setting} {cause : Failure}
    {log : Log} {sheet : Sheet}
    (h : renderContent substitute scope.evaluate setting file.content (sheetFor s file log) =
      .error cause sheet) :
    requestFor substitute scope setting s file log =
      .error (cause.inFile file.path) sheet.log := by
  refine Step.bind_of_error ?_ _
  unfold sheetFor at h
  rw [mapFailure, Rendering.withFlags, h]

theorem requestFor_of_ok {substitute : Substitute} {setting : Setting} {content target : Text}
    {log : Log} {sheet : Sheet}
    (h : renderContent substitute scope.evaluate setting file.content (sheetFor s file log) =
      .ok (content, target) sheet) :
    requestFor substitute scope setting s file log =
      .ok (requestWith scope file content target sheet.flags) sheet.log := by
  have hflags : mapFailure (Failure.inFile file.path)
      ((renderContent substitute scope.evaluate setting file.content).withFlags
        (s.flagsFor file.path file.permissions)) log =
      .ok ((content, target), sheet.flags) sheet.log := by
    unfold sheetFor at h
    rw [mapFailure, Rendering.withFlags, h]
  rw [requestFor, Step.bind_of_ok hflags]
  rfl

theorem exists_cause_of_requestFor {substitute : Substitute} {setting : Setting} {log after : Log}
    (h : requestFor substitute scope setting s file log = .error failure after) :
    ∃ cause sheet,
      renderContent substitute scope.evaluate setting file.content (sheetFor s file log) =
        .error cause sheet ∧ failure = cause.inFile file.path := by
  cases hrender : renderContent substitute scope.evaluate setting file.content
      (sheetFor s file log) with
  | error cause sheet =>
      rw [requestFor_of_error hrender] at h
      cases h
      exact ⟨cause, sheet, rfl, rfl⟩
  | ok result sheet =>
      rw [requestFor_of_ok hrender] at h
      cases h

theorem fails_backup (job : Job) (file : SkeletonFile) :
    Fails IsExternal (backup job file : Running σ Unit) :=
  Step.fails_focus (Disk.fails_placeFile _ _ _)

theorem prepare_of_backup (hbackup : backup job file run = .ok () saved) :
    prepare job scope s file run =
      logging (requestFor job.substitute scope (settingAt scope run) s file) saved := by
  obtain ⟨disk, -, rfl⟩ := onDisk_eq_ok_iff.mp hbackup
  exact Step.bind_of_ok hbackup _

theorem log_of_backup (hbackup : backup job file run = .ok () saved) : saved.log = run.log := by
  obtain ⟨disk, -, rfl⟩ := onDisk_eq_ok_iff.mp hbackup
  rfl

/-- A file that asks for the generated files while files may be postponed is postponed. -/
theorem postponed_of_evaluates (sink : Sink σ) (hrender : job.substitute = Setting.render)
    (hscope : scope.IsReady) (hpostponing : run.postponing = true) (hkey : NamesGenerated key)
    (h : Evaluates job scope s run file key) :
    ∃ last, renderFile job sink scope s file run = .error (.foreign .postponed) last := by
  obtain ⟨⟨saved, hbackup⟩, asked, hasks⟩ := h
  have hlate : Value.IsLate (settingAt scope run).context key asked :=
    (isLate_iff hscope).mpr ⟨hpostponing, hkey⟩
  obtain ⟨sheet, hcontent⟩ := Setting.renderContent_of_asks hpostponing hasks hlate
  rw [← hrender] at hcontent
  have hrequest := requestFor_of_error hcontent
  rw [← log_of_backup hbackup] at hrequest
  rw [renderFile_eq]
  exact ⟨_, Step.bind_of_error ((prepare_of_backup hbackup).trans
    (logging_eq_error_iff.mpr ⟨_, hrequest, rfl⟩)) _⟩

/-- A file is not saved, or it is saved and not rendered. -/
theorem exists_cause_of_prepare (h : prepare job scope s file run = .error failure last) :
    IsExternal failure ∨
      (∃ saved, backup job file run = .ok () saved) ∧ ∃ cause sheet,
        renderContent job.substitute scope.evaluate (settingAt scope run) file.content
            (sheetFor s file run.log) = .error cause sheet ∧
          failure = cause.inFile file.path := by
  cases hbackup : backup job file run with
  | error other saved =>
      rw [prepare, Step.bind_of_error hbackup] at h
      cases h
      exact .inl (fails_backup job file hbackup)
  | ok _ saved =>
      rw [prepare_of_backup hbackup] at h
      obtain ⟨after, hrequest, -⟩ := logging_eq_error_iff.mp h
      rw [log_of_backup hbackup] at hrequest
      exact .inr ⟨⟨saved, rfl⟩, exists_cause_of_requestFor hrequest⟩

theorem evaluates_of_prepare (hrender : job.substitute = Setting.render) (hscope : scope.IsReady)
    (h : prepare job scope s file run = .error failure last) (hfailure : ¬ IsGenuine failure) :
    run.postponing = true ∧ ∃ key, NamesGenerated key ∧ Evaluates job scope s run file key := by
  rcases exists_cause_of_prepare h with hexternal | ⟨hbackup, cause, sheet, hcontent, rfl⟩
  · exact absurd hexternal.isGenuine hfailure
  · rw [hrender] at hcontent
    rw [IsGenuine, Failure.isPostponement_inFile] at hfailure
    obtain ⟨key, asked, hasks, hlate⟩ :=
      Setting.asks_of_renderContent rfl rfl hscope.evaluate hcontent hfailure
    obtain ⟨hpostponing, hkey⟩ := (isLate_iff hscope).mp hlate
    exact ⟨hpostponing, key, hkey, hbackup, asked, hasks⟩

/-- An attempt that a value has to be waited for ends before anything is handed over. -/
theorem prepare_eq_error (hsink : sink.IsGenuine)
    (h : renderFile job sink scope s file run = .error failure last)
    (hfailure : ¬ IsGenuine failure) :
    prepare job scope s file run = .error failure last := by
  rw [renderFile_eq] at h
  rcases Step.bind_eq_error_iff.mp h with hprepare | ⟨request, prepared, -, hdeliver⟩
  · exact hprepare
  · exact absurd (Step.fails_focus (hsink request) (deliver_eq_error_iff.mp hdeliver)) hfailure

/-- Only a file that asks for the generated files is postponed, and only while files may be. -/
theorem evaluates_of_renderFile (hrender : job.substitute = Setting.render) (hscope : scope.IsReady)
    (hsink : sink.IsGenuine) (h : renderFile job sink scope s file run = .error failure last)
    (hfailure : ¬ IsGenuine failure) :
    failure = .foreign .postponed ∧ run.postponing = true ∧
      ∃ key, NamesGenerated key ∧ Evaluates job scope s run file key := by
  have hprepare := prepare_eq_error hsink h hfailure
  obtain ⟨hpostponing, key, hkey, hevaluates⟩ :=
    evaluates_of_prepare hrender hscope hprepare hfailure
  obtain ⟨other, hother⟩ := postponed_of_evaluates sink hrender hscope hpostponing hkey hevaluates
  rw [h] at hother
  cases hother
  exact ⟨rfl, hpostponing, key, hkey, hevaluates⟩

end Run

end Scaffold
