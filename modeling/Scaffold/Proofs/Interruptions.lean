import Scaffold.Proofs.Generated

/-!
Where a run breaks off. A run that fails has not found a skeleton, or it has come to a file that
cannot be rendered or saved. The failure names this file, and what was handed over are the files
before it.
-/

namespace Scaffold

open Failure (IsGenuine IsExternal IsDirectiveFault IsRenderFault)
open Step (Fails Refuses)

theorem Setting.fails_renderContent {setting : Setting} {evaluate : LiveEvaluator}
    (hfilters : setting.filters = Filter.standard) (hhandler : setting.handler = none)
    (hevaluate : ∀ changes tokens, Refuses IsDirectiveFault (evaluate changes tokens))
    (content : Text) :
    Fails IsRenderFault (renderContent render evaluate setting content) := by
  have hdirectives : ∀ handle, (setting.withDirectives evaluate).handler = some handle →
      ∀ directive, Fails IsRenderFault (handle directive) := by
    rintro _ ⟨⟩
    exact Directive.fails_handler (fun _ => .directive) fun changes tokens =>
      (hevaluate changes tokens).imp fun _ => .directive
  have hnone : ∀ handle, setting.handler = some handle →
      ∀ directive, Fails IsRenderFault (handle directive) := by
    intro handle hhandle
    rw [hhandler] at hhandle
    cases hhandle
  have hsubstitute := setting.fails_substitute hfilters
  rw [renderContent_eq]
  refine Step.Fails.bind ?_ fun text => Step.fails_get.bind fun sheet => ?_
  · exact Step.fails_get.bind fun sheet =>
      Step.fails_ite (fails_renderTokens (s := setting.withDirectives evaluate) hsubstitute
        hdirectives _) (Step.fails_pure content)
  · exact (fails_renderTokens hsubstitute hnone _).bind fun target => Step.fails_pure (text, target)

theorem Sink.Records.isGenuine {σ : Type} {sink : Sink σ} {calls : σ → List Request}
    (h : sink.Records calls) : sink.IsGenuine := by
  intro request both after failure hfailure
  obtain ⟨disk, noted, hok, -⟩ := h request both.1 both.2
  cases hok.symm.trans hfailure

namespace Run

variable {σ : Type} {job : Job} {sink : Sink σ} {scope : Scope} {s : Skeleton}
  {file : SkeletonFile} {run state last : Run σ} {failure : Failure} {calls : σ → List Request}

/-- The content or the path of a file cannot be rendered in a state of a run, and why. -/
def Breaks (scope : Scope) (s : Skeleton) (file : SkeletonFile) (state : Run σ) (cause : Failure) :
    Prop :=
  ∃ sheet, renderContent Setting.render scope.evaluate (settingAt scope state) file.content
    (sheetFor s file state.log) = .error cause sheet

/-- With which failure the attempt at a file ends: it cannot be saved, or not be rendered. -/
def Interrupts (scope : Scope) (s : Skeleton) (file : SkeletonFile) (state : Run σ)
    (failure : Failure) : Prop :=
  IsExternal failure ∨ ∃ cause, Breaks scope s file state cause ∧ failure = cause.inFile file.path

theorem interrupts_of_renderFile (hrender : job.substitute = Setting.render)
    (hrecords : sink.Records calls)
    (h : renderFile job sink scope s file state = .error failure last) :
    Interrupts scope s file state failure := by
  rw [renderFile_eq] at h
  rcases Step.bind_eq_error_iff.mp h with hprepare | ⟨request, prepared, hprepare, hdeliver⟩
  · refine (exists_cause_of_prepare hprepare).imp_right fun ⟨_, cause, sheet, hcause, hfailure⟩ => ?_
    rw [hrender] at hcause
    exact ⟨cause, ⟨sheet, hcause⟩, hfailure⟩
  · obtain ⟨next, hok, -⟩ := renderFile_of_prepare hprepare hrecords
    rw [renderFile_eq, h] at hok
    cases hok

theorem renderAll_of_secondPass_error {files : List SkeletonFile}
    {render : SkeletonFile → Running σ Unit} (hgenuine : IsGenuine failure)
    (h : secondPass render files run = .error failure last) :
    renderAll render files run = .error failure last := by
  induction files generalizing run with
  | nil => cases h
  | cons file rest ih =>
      rcases Step.bind_eq_error_iff.mp h with hdone | ⟨finished, next, hdone, hrest⟩
      · exact Step.bind_of_error (eq_of_done_error hdone) _
      · have hfile := eq_of_done hdone
        cases finished with
        | true => exact (Step.bind_of_ok hfile _).trans (ih hrest)
        | false =>
            cases hrest
            cases hgenuine

section

variable {k : Package} {here : Run σ} {own done : List (SkeletonFile × Call)}

/-- A run comes to a package, after the given calls: those of the project and those of the packages
before it. -/
structure ReachesPackage (job : Job) (sink : Sink σ) (run : Run σ)
    (calls : List (SkeletonFile × Call)) (k : Package) (here : Run σ) : Prop where
  reached : ∃ project middle earlier i later visits,
    ProjectCalls job sink run project middle ∧
    List.range job.project.packages.length = earlier ++ i :: later ∧
    PackageCalls job sink middle earlier visits here ∧
    packageAt job here i = some k ∧
    calls = project ++ visits.calls

/-- A run comes to a file of a skeleton: in the first pass, in the second one, or in a package. The
files of the first list were handed over for this skeleton before, those of the second one in all. -/
inductive Reaches (job : Job) (sink : Sink σ) (run : Run σ) :
    Scope → Skeleton → SkeletonFile → Run σ → List (SkeletonFile × Call) →
      List (SkeletonFile × Call) → Prop where
  | first {s : Skeleton} {trace : List (SkeletonFile × Option Call)} {file : SkeletonFile}
      {state : Run σ} (h : TriedFirst job sink run s trace file state) :
      Reaches job sink run (.ofProject job.project) s file state (called trace) (called trace)
  | again {s : Skeleton} {calls : List (SkeletonFile × Call)} {file : SkeletonFile}
      {state : Run σ} (h : TriedAgain job sink run s calls file state) :
      Reaches job sink run (.ofProject job.project) s file state calls calls
  | inPackage {s : Skeleton} {calls own : List (SkeletonFile × Call)} {k : Package}
      {here start state : Run σ} {file : SkeletonFile} {after : List SkeletonFile}
      (hpackage : ReachesPackage job sink run calls k here)
      (hlookup : lookup job.config "package" k.skeletonName here = .ok s start)
      (hattempts : Attempts { job with package := some k } sink (.ofPackage k job.project) s start
        (unpostponed own) state)
      (hfiles : s.files = own.map Prod.fst ++ file :: after) :
      Reaches job sink run (.ofPackage k job.project) s file state own (calls ++ own)

/-- Since a run began these calls were made, and those of them that were not skipped are generated. -/
structure Made (calls : σ → List Request) (run : Run σ)
    (made : List (SkeletonFile × Call)) (state : Run σ) : Prop where
  calls_eq : calls state.sink = calls run.sink ++ requests made
  generated_eq : state.generated = unskipped made

theorem Made.congr (h : Made calls run done state) (hsink : last.sink = state.sink)
    (hgenerated : last.generated = state.generated) : Made calls run done last :=
  ⟨by rw [hsink, h.calls_eq], hgenerated.trans h.generated_eq⟩

theorem ProjectCalls.calls_eq (hrecords : sink.Records calls)
    (h : ProjectCalls job sink run done last) :
    calls last.sink = calls run.sink ++ requests done := by
  obtain ⟨s, trace, between, second, hfirst, hattempts, -, rfl⟩ := h
  exact hfirst.calls_second hrecords hattempts

theorem ReachesPackage.made (hrecords : sink.Records calls)
    (h : ReachesPackage job sink run done k here) : Made calls run done here := by
  obtain ⟨project, middle, earlier, i, later, visits, hproject, -, hpackages, -, rfl⟩ := h
  obtain ⟨hgenerated, -⟩ := Prod.mk.inj hproject.progress_eq
  refine ⟨?_, ?_⟩
  · rw [hpackages.calls_eq hrecords, hproject.calls_eq hrecords, requests_append,
      List.append_assoc]
  · rw [(Prod.mk.inj hpackages.progress_eq).1, hgenerated, unskipped_append]

theorem made_of_lookup {kind name : Text} (h : Made calls run done here)
    (hlookup : Step.state (lookup job.config kind name here) = last) :
    Made calls run done last := by
  subst hlookup
  exact h.congr (quiet_lookup job.config kind name here)
    (Prod.mk.inj (keeps_lookup job.config kind name here)).1

theorem made_of_unpostponed {only : Option Package} (hrecords : sink.Records calls)
    (h : Made calls run done here)
    (hattempts : Attempts { job with package := only } sink scope s here (unpostponed own) state) :
    Made calls run (done ++ own) state := by
  refine ⟨?_, ?_⟩
  · rw [calls_of_unpostponed hrecords hattempts, h.calls_eq, requests_append, List.append_assoc]
  · rw [(Prod.mk.inj (progress_of_unpostponed hattempts)).1, h.generated_eq, unskipped_append]

theorem Reaches.made (hrecords : sink.Records calls)
    (h : Reaches job sink run scope s file state own done) : Made calls run done state := by
  cases h with
  | first h =>
      obtain ⟨⟨start, hlookup, hattempts⟩, -⟩ := h
      have hstart : start.sink = run.sink := (quiet_lookup _ _ _).of_ok hlookup
      refine ⟨?_, ?_⟩
      · rw [hattempts.calls_eq hrecords, ← hstart]
      · exact (Prod.mk.inj (progress_of_attempts hattempts)).1
  | again h =>
      obtain ⟨hgenerated, -⟩ := Prod.mk.inj h.progress_eq
      obtain ⟨trace, between, second, after, hfirst, hattempts, -, rfl⟩ := h
      exact ⟨hfirst.calls_second hrecords hattempts, hgenerated⟩
  | inPackage hpackage hlookup hattempts hfiles =>
      have hstart := made_of_lookup (hpackage.made hrecords) (congrArg Step.state hlookup)
      exact made_of_unpostponed hrecords hstart hattempts

/-- The files that were handed over for a skeleton and the one that a run comes to have different
places in the skeleton. -/
theorem Reaches.exists_rest (h : Reaches job sink run scope s file state own done) :
    ∃ rest, (own.map Prod.fst ++ file :: rest).Perm s.files := by
  cases h with
  | @first _ trace _ _ h =>
      obtain ⟨-, after, hfiles⟩ := h
      refine ⟨postponed trace ++ after, ?_⟩
      rw [hfiles]
      refine List.perm_middle.trans ?_
      refine List.Perm.trans ?_ List.perm_middle.symm
      rw [← List.append_assoc]
      exact ((perm_called_postponed trace).append_right after).cons file
  | again h =>
      obtain ⟨trace, between, second, after, hfirst, -, hlater, rfl⟩ := h
      refine ⟨after, ?_⟩
      rw [List.map_append, List.append_assoc, ← hlater, ← hfirst.files]
      exact perm_called_postponed trace
  | inPackage hpackage hlookup hattempts hfiles =>
      exact ⟨_, List.Perm.of_eq hfiles.symm⟩

theorem Reaches.path_notMem (h : Reaches job sink run scope s file state own done)
    (hpaths : (s.files.map SkeletonFile.path).Nodup) :
    file.path ∉ own.map fun call => call.1.path := by
  obtain ⟨rest, hperm⟩ := h.exists_rest
  have hdistinct := (hperm.map SkeletonFile.path).nodup_iff.mpr hpaths
  rw [List.map_append, List.map_map, List.map_cons] at hdistinct
  intro hmem
  exact (List.nodup_append.mp hdistinct).2.2 _ hmem _ List.mem_cons_self rfl

end

/-- A run ends with the attempt at a file to which it comes, with nothing done for this file. -/
def EndsAt (job : Job) (sink : Sink σ) (run : Run σ) (failure : Failure) (last : Run σ) : Prop :=
  ∃ scope s file state own done,
    Reaches job sink run scope s file state own done ∧
      Interrupts scope s file state failure ∧ last.sink = state.sink ∧
      last.generated = state.generated

section

variable (hrender : job.substitute = Setting.render) (hrecords : sink.Records calls)

include hrender hrecords

theorem endsAt_of_renderFile {only : Option Package} {own done : List (SkeletonFile × Call)}
    {stop : Run σ} (hreaches : Reaches job sink run scope s file state own done)
    (h : renderFile { job with package := only } sink scope s file state = .error failure stop)
    (hsink : last.sink = stop.sink) (hgenerated : last.generated = stop.generated) :
    EndsAt job sink run failure last := by
  have hkept := (Prod.mk.inj (progress_of_renderFile_error h)).1
  exact ⟨scope, s, file, state, own, done, hreaches, interrupts_of_renderFile hrender hrecords h,
    hsink.trans (sink_of_renderFile hrecords h), hgenerated.trans hkept⟩

theorem endsAt_of_renderProject (h : renderProject job sink run = .error failure last) :
    lookup job.config "project" job.project.skeletonName run = .error failure last ∨
      EndsAt job sink run failure last := by
  have hgenuine := isGenuine_of_renderProject hrender hrecords.isGenuine h
  rcases Step.bind_eq_error_iff.mp h with hlookup | ⟨s, start, hlookup, hclear⟩
  · exact .inl hlookup
  right
  rcases Step.bind_eq_error_iff.mp hclear with hcleared | ⟨_, cleared, hcleared, hpasses⟩
  · cases hcleared
  cases hcleared
  rcases Step.bind_eq_error_iff.mp hpasses with hwhile | ⟨later, between, hwhile, hsecond⟩
  · obtain ⟨stop, hfirst, rfl⟩ := whilePostponing_eq_error_iff.mp hwhile
    obtain ⟨trace, file, after, state, hfiles, hattempts, hstop⟩ := exists_stop_of_firstPass hfirst
    have hreaches : Reaches job sink run (.ofProject job.project) s file state _ _ :=
      .first ⟨⟨start, hlookup, hattempts⟩, after, hfiles⟩
    exact endsAt_of_renderFile hrender hrecords hreaches hstop rfl rfl
  · obtain ⟨middle, hfirst, rfl⟩ := whilePostponing_eq_ok_iff.mp hwhile
    obtain ⟨trace, hattempts, hfiles, rfl⟩ := exists_attempts_of_firstPass hfirst
    -- No file is postponed again, so the second pass ends at the file that fails.
    have hall := renderAll_of_secondPass_error hgenuine hsecond
    obtain ⟨second, file, after, state, hlater, hagain, hstop⟩ := exists_stop_of_renderAll hall
    have hreaches : Reaches job sink run (.ofProject job.project) s file state _ _ :=
      .again ⟨trace, _, second, after, ⟨⟨start, middle, hlookup, hattempts, rfl⟩, hfiles⟩, hagain,
        hlater, rfl⟩
    exact endsAt_of_renderFile hrender hrecords hreaches hstop rfl rfl

theorem endsAt_of_renderFiles (h : renderFiles job sink run = .error failure last) :
    lookup job.config "project" job.project.skeletonName run = .error failure last ∨
      (∃ k here done, ReachesPackage job sink run done k here ∧
        lookup job.config "package" k.skeletonName here = .error failure last) ∨
      EndsAt job sink run failure last := by
  rcases Step.bind_eq_error_iff.mp h with hproject | ⟨_, middle, hproject, hpackages⟩
  · exact (endsAt_of_renderProject hrender hrecords hproject).imp_right .inr
  · obtain ⟨project, hproject⟩ := exists_projectCalls hproject
    obtain ⟨earlier, i, later, visits, here, k, hsplit, hearlier, hvisited, hstop⟩ :=
      exists_stop_of_renderPackages hpackages
    have hpackage : ReachesPackage job sink run (project ++ visits.calls) k here :=
      ⟨project, middle, earlier, i, later, visits, hproject, hsplit, hearlier, hvisited, rfl⟩
    rcases Step.bind_eq_error_iff.mp hstop with hlookup | ⟨s, start, hlookup, hall⟩
    · exact .inr (.inl ⟨k, here, _, hpackage, hlookup⟩)
    · obtain ⟨own, file, after, state, hfiles, hattempts, hstop⟩ := exists_stop_of_renderAll hall
      have hreaches : Reaches job sink run (.ofPackage k job.project) s file state own _ :=
        .inPackage hpackage hlookup hattempts hfiles
      exact .inr (.inr (endsAt_of_renderFile hrender hrecords hreaches hstop rfl rfl))

end

/-- What the failure of a rendering says once it names a file: what is wrong with the template, or
what the directive was at fault with. -/
def Wraps (cause : Failure) (fault : SkeletonFault) : Prop :=
  (∃ wrong, cause = .template wrong ∧ fault = .unrendered wrong) ∨
    IsDirectiveFault cause ∧ cause = .skeleton none fault

theorem wraps_of_inFile {cause : Failure} {path : Text} {name : Option Text} {fault : SkeletonFault}
    (hcause : IsRenderFault cause) (h : cause.inFile path = .skeleton name fault) :
    name = some path ∧ Wraps cause fault := by
  cases hcause with
  | template wrong =>
      cases h
      exact ⟨rfl, .inl ⟨wrong, rfl, rfl⟩⟩
  | directive hdirective =>
      have hkept := hdirective
      cases hdirective <;> cases h <;> exact ⟨rfl, .inr ⟨hkept, rfl⟩⟩
  | value wrong => cases h

theorem Interrupts.ne_template (h : Interrupts scope s file state failure) (wrong : TemplateFault) :
    failure ≠ .template wrong := by
  rintro rfl
  rcases h with ⟨⟨⟩⟩ | ⟨cause, -, hcause⟩
  cases cause with
  | skeleton name fault => cases name <;> cases hcause
  | _ => cases hcause

theorem ne_template_of_lookup {config : Config} {kind name : Text}
    (h : lookup config kind name run = .error failure last) (wrong : TemplateFault) :
    failure ≠ .template wrong := by
  rintro rfl
  rcases fails_lookup config kind name h with ⟨⟨⟩⟩ | ⟨_, ⟨⟩⟩ | ⟨_, ⟨⟩⟩

theorem name_of_lookup {config : Config} {kind name : Text} {file : Option Text}
    {fault : SkeletonFault} (h : lookup config kind name run = .error (.skeleton file fault) last) :
    file = none := by
  rcases fails_lookup config kind name h with ⟨⟨⟩⟩ | ⟨_, ⟨⟩⟩ | ⟨_, ⟨⟩⟩ <;> rfl

theorem exists_breaks_of_interrupts
    (hscope : ∀ changes tokens, Refuses IsDirectiveFault (scope.evaluate changes tokens))
    {name : Option Text} {fault : SkeletonFault}
    (h : Interrupts scope s file state (.skeleton name fault)) :
    ∃ cause, Breaks scope s file state cause ∧ name = some file.path ∧ Wraps cause fault := by
  rcases h with ⟨⟨⟩⟩ | ⟨cause, ⟨sheet, hcontent⟩, hcause⟩
  have hfault := Setting.fails_renderContent rfl rfl hscope file.content hcontent
  obtain ⟨hname, hwraps⟩ := wraps_of_inFile hfault hcause.symm
  exact ⟨cause, ⟨sheet, hcontent⟩, hname, hwraps⟩

theorem Reaches.refuses_evaluate {own done : List (SkeletonFile × Call)}
    (h : Reaches job sink run scope s file state own done) (changes : Changes)
    (tokens : List Text) : Refuses IsDirectiveFault (scope.evaluate changes tokens) := by
  cases h with
  | first | again => exact Condition.refuses_ofProject (job.project.after changes) tokens
  | inPackage => exact Condition.refuses_ofPackage _ (job.project.after changes) tokens

/-- Failures name the file and commit nothing for it. A run never ends with the failure of a template
as such, or because a value had to wait. If it ends with the failure of a skeleton, this names no
file and a skeleton was not found, or it names the file that was being rendered and says why this
could not be done. No call was made for this file. The calls are those of the files before it, and
what is generated are those that were not skipped among them. -/
theorem failures_placed (hrender : job.substitute = Setting.render) (hrecords : sink.Records calls)
    (h : renderProject job sink run = .error failure last ∨
      renderFiles job sink run = .error failure last) :
    (∀ wrong, failure ≠ .template wrong) ∧ failure ≠ .foreign .postponed ∧
      ∀ name fault, failure = .skeleton name fault →
        (name = none ∧
          lookup job.config "project" job.project.skeletonName run = .error failure last ∧
          last.sink = run.sink ∧ last.generated = run.generated) ∨
        (name = none ∧ ∃ k here done, ReachesPackage job sink run done k here ∧
          lookup job.config "package" k.skeletonName here = .error failure last ∧
          Made calls run done last) ∨
        ∃ scope s file state own done cause,
          Reaches job sink run scope s file state own done ∧
            Breaks scope s file state cause ∧ name = some file.path ∧ Wraps cause fault ∧
            (∃ rest, (own.map Prod.fst ++ file :: rest).Perm s.files) ∧
            ((s.files.map SkeletonFile.path).Nodup →
              file.path ∉ own.map fun call => call.1.path) ∧
            Made calls run done last := by
  have hfiles : renderFiles job sink run = .error failure last :=
    h.elim (fun hproject => Step.bind_of_error hproject _) id
  have hgenuine := isGenuine_of_renderFiles hrender hrecords.isGenuine hfiles
  have hends := endsAt_of_renderFiles hrender hrecords hfiles
  refine ⟨?_, ?_, ?_⟩
  · rcases hends with hlookup | ⟨k, here, done, -, hlookup⟩ | ⟨_, _, _, _, _, _, -, hinterrupts, -⟩
    · exact ne_template_of_lookup hlookup
    · exact ne_template_of_lookup hlookup
    · exact hinterrupts.ne_template
  · rintro rfl
    cases hgenuine
  · rintro name fault rfl
    rcases hends with hlookup | ⟨k, here, done, hpackage, hlookup⟩ |
      ⟨scope, s, file, state, own, done, hreaches, hinterrupts, hsink, hgenerated⟩
    · have hkept := (keeps_lookup _ _ _).of_error hlookup
      exact .inl ⟨name_of_lookup hlookup, hlookup, (quiet_lookup _ _ _).of_error hlookup,
        (Prod.mk.inj hkept).1⟩
    · have hmade := made_of_lookup (hpackage.made hrecords) (congrArg Step.state hlookup)
      exact .inr (.inl ⟨name_of_lookup hlookup, k, here, done, hpackage, hlookup, hmade⟩)
    · obtain ⟨cause, hbreaks, hname, hwraps⟩ :=
        exists_breaks_of_interrupts hreaches.refuses_evaluate hinterrupts
      have hmade := (hreaches.made hrecords).congr hsink hgenerated
      exact .inr (.inr ⟨scope, s, file, state, own, done, cause, hreaches, hbreaks, hname, hwraps,
        hreaches.exists_rest, hreaches.path_notMem, hmade⟩)

/-- A file that asks for a value which there is not. -/
def brokenFile (path : Text) : SkeletonFile where
  path := path
  content := (Token.placeholder "nothing").source
  permissions := 420

/-- The state in which a skeleton is known whose last file is broken. -/
def brokenRun : Run (List Request) :=
  { askingRun with
    cache := [("project", [("program", {
      name := "program"
      files := [askingFile "a", plainFile "b", brokenFile "c"] })])] }

theorem failures_placed_broken :
    ∃ last, renderFiles askingJob recordRequest brokenRun =
        .error (.skeleton (some "c") (.unrendered (.missingValue "nothing"))) last ∧
      last.sink.map Request.path = [("b" : Text)] ∧ last.generated = [("b" : Text)] ∧
      ∃ scope s file state own done cause,
        Reaches askingJob recordRequest brokenRun scope s file state own done ∧
          Breaks scope s file state cause ∧ file.path = "c" ∧
          Wraps cause (.unrendered (.missingValue "nothing")) ∧
          Made id brokenRun done last := by
  have hrun : (match renderFiles askingJob recordRequest brokenRun with
      | .ok _ _ => none
      | .error failure last => some (failure, last.sink.map Request.path, last.generated)) =
      some (.skeleton (some "c") (.unrendered (.missingValue "nothing")), [("b" : Text)],
        [("b" : Text)]) := by
    decide +kernel
  cases hfiles : renderFiles askingJob recordRequest brokenRun with
  | ok _ last =>
      rw [hfiles] at hrun
      cases hrun
  | error failure last =>
      rw [hfiles] at hrun
      obtain ⟨rfl, hpaths⟩ := Prod.mk.inj (Option.some.inj hrun)
      obtain ⟨hsink, hgenerated⟩ := Prod.mk.inj hpaths
      obtain ⟨-, -, hplaced⟩ := failures_placed rfl records_recordRequest (.inr hfiles)
      rcases hplaced _ _ rfl with ⟨⟨⟩, -⟩ | ⟨⟨⟩, -⟩ |
        ⟨scope, s, file, state, own, done, cause, hreaches, hbreaks, hname, hwraps, -, -, hmade⟩
      exact ⟨last, rfl, hsink, hgenerated, scope, s, file, state, own, done, cause, hreaches,
        hbreaks, (Option.some.inj hname).symm, hwraps, hmade⟩

end Run

end Scaffold
