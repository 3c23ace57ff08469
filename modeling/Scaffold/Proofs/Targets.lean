import Scaffold.Proofs.Policy
import Scaffold.Proofs.Renaming

/-!
Where the output of a file goes. Its path is the one that the last directive about it sets, or else
the declared one, and where neither says anything the path of the source stands in. But the source
stands in before the directives are applied: a directive that sets the empty path is taken at its
word.
-/

namespace Scaffold

open Template (tokens)

namespace Directive

/-- The output path that directives set: the last one of them counts. -/
def lastTarget? (directives : List Directive) : Option Text :=
  (directives.filterMap target?).getLast?

theorem Edits.targetPath_eq {directives : List Directive} {flags changed : FileFlags}
    (h : Edits flags directives changed) :
    changed.targetPath = (lastTarget? directives).getD flags.targetPath :=
  h.view_eq targetPath_edit

end Directive

/-- The directives in a content, as they are applied while it is rendered: none if it is no
template. -/
def Setting.directivesIn (s : Setting) (evaluate : LiveEvaluator) (content : Text) :
    Rendering (List Directive) := do
  if (← get).flags.substitutes then
    let texts ←
      (s.withDirectives evaluate).directiveTexts (Directive.handler evaluate) (tokens content)
    pure (texts.map Directive.ofText)
  else pure []

theorem Setting.exists_directivesIn {s : Setting} {evaluate : LiveEvaluator} {content body : Text}
    {sheet last : Sheet} (h : s.renderBody evaluate content sheet = .ok body last) :
    ∃ directives, s.directivesIn evaluate content sheet = .ok directives last ∧
      Directive.Edits sheet.flags directives last.flags := by
  rw [renderBody_apply] at h
  rw [directivesIn, Step.get_bind]
  split at h
  · rename_i hsubstitutes
    obtain ⟨texts, htexts⟩ := exists_directiveTexts rfl h
    rw [if_pos hsubstitutes, Step.bind_of_ok htexts]
    exact ⟨_, rfl, edits_of_directiveTexts htexts⟩
  · rename_i hsubstitutes
    cases h
    rw [if_neg hsubstitutes]
    exact ⟨[], rfl, .nil⟩

/-- An output path as it is meant: the empty one stands for that of the source. -/
def orSource (source target : Text) : Text := if target = [] then source else target

namespace Skeleton

/-- The output path that is declared for a file, empty if there is none. -/
def declaredTarget (s : Skeleton) (path : Text) : Text :=
  ((s.flags.get? path).map FileFlags.targetPath).getD []

/-- The output path of a file after directives, empty if neither they nor the manifest say one. -/
def finalTarget (s : Skeleton) (path : Text) (directives : List Directive) : Text :=
  (Directive.lastTarget? directives).getD (s.declaredTarget path)

theorem targetPath_flagsFor (s : Skeleton) (path : Text) (bits : Int) :
    (s.flagsFor path bits).targetPath = orSource path (s.declaredTarget path) := by
  unfold flagsFor declaredTarget orSource
  cases s.flags.get? path <;> rfl

/-- The source stands in for the declared path and not for one that a directive sets. So the two
orders agree unless the last directive sets the empty path. -/
theorem getD_lastTarget? (s : Skeleton) (path : Text) {directives : List Directive}
    (h : Directive.lastTarget? directives ≠ some []) :
    (Directive.lastTarget? directives).getD (orSource path (s.declaredTarget path)) =
      orSource path (s.finalTarget path directives) := by
  unfold finalTarget
  cases hlast : Directive.lastTarget? directives with
  | none => rfl
  | some target =>
      have hne : target ≠ [] := by
        rintro rfl
        exact h hlast
      rw [Option.getD_some, Option.getD_some, orSource, if_neg hne]

end Skeleton

namespace Run

variable {σ : Type} {job : Job} {scope : Scope} {s : Skeleton} {file : SkeletonFile}
  {state : Run σ}

/-- The final flags are what the directives in the content make of the flags at the start, and the
path of the output is the one in them, with its placeholders replaced. -/
theorem edits_of_renders {content target : Text} {flags : FileFlags}
    (hrender : job.substitute = Setting.render)
    (h : Renders job scope s state file content target flags) :
    ∃ directives, ∃ between : Log,
      (settingAt scope state).directivesIn scope.evaluate file.content (sheetFor s file state.log) =
        .ok directives (between.sheet flags) ∧
      Directive.Edits (s.flagsFor file.path file.permissions) directives flags ∧
      ∃ after, (settingAt scope state).expand flags.targetPath between.changes =
        .ok target after := by
  obtain ⟨log, hcontent⟩ := h
  rw [hrender] at hcontent
  obtain ⟨next, hbody, hflags, hexpand⟩ := Setting.renderContent_eq_ok rfl rfl hcontent
  obtain ⟨directives, hdirectives, hedits⟩ := Setting.exists_directivesIn hbody
  have hnext : next = next.log.sheet flags := by rw [← show next.flags = flags from hflags]; rfl
  rw [hnext] at hdirectives
  rw [hflags] at hedits
  exact ⟨directives, next.log, hdirectives, hedits, log.changes, hexpand⟩

/-- An empty output path means that of the source, unless the last directive about it has set it.
Whatever a file of a project is handed over with, its path is the one that the last directive or
else the manifest gives, and that of the source if this is empty, with its placeholders replaced
after all changes of lists in the content; but an empty path that a directive has set is handed over
as it is. -/
theorem path_follows_target {sink : Sink σ} {request : Request}
    (hrender : job.substitute = Setting.render)
    (h : ComesTo job sink (.ofProject job.project) s file state (.ok request)) :
    ∃ directives content flags, ∃ between : Log,
      (settingAt (.ofProject job.project) state).directivesIn
          (Scope.ofProject job.project).evaluate file.content (sheetFor s file state.log) =
        .ok directives (between.sheet flags) ∧
      Renders job (.ofProject job.project) s state file content request.path flags ∧
      request = requestWith (.ofProject job.project) file content request.path flags ∧
      (Directive.lastTarget? directives ≠ some [] →
        flags.targetPath = orSource file.path (s.finalTarget file.path directives) ∧
        ∃ after, Fills (settingAt (.ofProject job.project) state).context Filter.standard
          between.changes ((tokens flags.targetPath).map Token.piece) request.path after) ∧
      (Directive.lastTarget? directives = some [] → flags.targetPath = [] ∧ request.path = []) := by
  cases h with
  | called hyields =>
      obtain ⟨content, target, flags, hrenders, rfl⟩ := hyields
      obtain ⟨directives, between, hdirectives, hedits, after, hexpand⟩ :=
        edits_of_renders hrender hrenders
      have htarget := hedits.targetPath_eq
      rw [s.targetPath_flagsFor] at htarget
      refine ⟨directives, content, flags, between, hdirectives, hrenders, rfl, ?_, ?_⟩
      · intro hset
        rw [s.getD_lastTarget? file.path hset] at htarget
        exact ⟨htarget, after, Setting.fills_of_expandTokens rfl hexpand⟩
      · intro hset
        rw [hset, Option.getD_some] at htarget
        rw [htarget] at hexpand
        injection hexpand with hpath
        exact ⟨htarget, hpath.symm⟩

/-- A file whose path has to be filled in. -/
def namedFile : SkeletonFile := plainFile (Token.placeholder "name").source

/-- A file whose output path a directive sets to the license of the project, which has none. -/
def unlicensedFile : SkeletonFile :=
  { plainFile "b" with content := movingText (Token.placeholder "license").source }

theorem comesTo_namedFile :
    ComesTo askingJob recordRequest (.ofProject askingJob.project) bareSkeleton namedFile askingRun
      (.ok { path := "p", content := "text", permissions := 420 }) :=
  comesTo_of_outcome recordRequest rfl (by decide +kernel) (by decide +kernel)

theorem comesTo_unlicensedFile :
    ComesTo askingJob recordRequest (.ofProject askingJob.project) bareSkeleton unlicensedFile
      askingRun (.ok { path := [], content := "text", permissions := 420 }) :=
  comesTo_of_outcome recordRequest rfl (by decide +kernel) (by decide +kernel)

theorem directivesIn_unlicensedFile :
    Step.outcome ((settingAt (.ofProject askingJob.project) askingRun).directivesIn
      (Scope.ofProject askingJob.project).evaluate unlicensedFile.content
      (sheetFor bareSkeleton unlicensedFile askingRun.log)) = .ok [.target []] := by
  decide +kernel

theorem path_follows_target_named :
    (∃ request after, ComesTo askingJob recordRequest (.ofProject askingJob.project) bareSkeleton
        namedFile askingRun (.ok request) ∧ request.path = "p" ∧
      Fills (settingAt (.ofProject askingJob.project) askingRun).context Filter.standard []
        ((tokens namedFile.path).map Token.piece) request.path after) ∧
    ∃ request content flags, ComesTo askingJob recordRequest (.ofProject askingJob.project)
        bareSkeleton unlicensedFile askingRun (.ok request) ∧
      Renders askingJob (.ofProject askingJob.project) bareSkeleton askingRun unlicensedFile content
        request.path flags ∧
      flags.targetPath = [] := by
  constructor
  · obtain ⟨directives, _, flags, between, hdirectives, -, -, hset, -⟩ :=
      path_follows_target rfl comesTo_namedFile
    have hnone : (settingAt (.ofProject askingJob.project) askingRun).directivesIn
        (Scope.ofProject askingJob.project).evaluate namedFile.content
        (sheetFor bareSkeleton namedFile askingRun.log) =
          .ok [] (sheetFor bareSkeleton namedFile {}) := by
      decide +kernel
    rw [hnone] at hdirectives
    injection hdirectives with hdirectives hsheet
    subst hdirectives
    have hbetween : ([] : Changes) = between.changes := congrArg Sheet.changes hsheet
    obtain ⟨htarget, after, hfills⟩ := hset (by decide)
    rw [htarget, ← hbetween] at hfills
    exact ⟨_, after, comesTo_namedFile, rfl, hfills⟩
  · obtain ⟨directives, content, flags, between, hdirectives, hrenders, -, -, hset⟩ :=
      path_follows_target rfl comesTo_unlicensedFile
    have herased := directivesIn_unlicensedFile
    rw [hdirectives] at herased
    obtain rfl : directives = [.target []] := Except.ok.inj herased
    exact ⟨_, content, flags, comesTo_unlicensedFile, hrenders, (hset rfl).1⟩

/-- The directive leaves the output path empty, and the empty path is handed over in place of that
of the source. -/
theorem path_of_erased_target :
    ∃ request directives, ComesTo askingJob recordRequest (.ofProject askingJob.project)
        bareSkeleton unlicensedFile askingRun (.ok request) ∧
      Step.outcome ((settingAt (.ofProject askingJob.project) askingRun).directivesIn
        (Scope.ofProject askingJob.project).evaluate unlicensedFile.content
        (sheetFor bareSkeleton unlicensedFile askingRun.log)) = .ok directives ∧
      bareSkeleton.finalTarget unlicensedFile.path directives = [] ∧ request.path = [] ∧
      ∀ after, ¬ Fills (settingAt (.ofProject askingJob.project) askingRun).context Filter.standard
        [] ((tokens unlicensedFile.path).map Token.piece) request.path after := by
  refine ⟨_, _, comesTo_unlicensedFile, directivesIn_unlicensedFile, rfl, rfl,
    fun after hfills => ?_⟩
  have hexpand : (settingAt (.ofProject askingJob.project) askingRun).expandTokens
      (tokens unlicensedFile.path) [] = .ok [] after := Setting.expandTokens_of_fills hfills
  have hpath : Step.outcome ((settingAt (.ofProject askingJob.project) askingRun).expandTokens
      (tokens unlicensedFile.path) []) = .ok "b" := by
    decide +kernel
  rw [hexpand] at hpath
  cases hpath

end Run

end Scaffold
