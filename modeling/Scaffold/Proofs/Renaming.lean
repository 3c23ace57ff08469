import Scaffold.Proofs.Independence
import Scaffold.Proofs.Insertion
import Scaffold.Proofs.Markup

/-!
The two ways of renaming a file: its output path is declared in the manifest, or a directive in its
content sets it. In the directive the placeholders are replaced before its arguments are read, so a
value with a colon in it makes it another directive.
-/

namespace Scaffold

open Step (InStep)
open Template (tokens core)

/-- A template of a path that can be written in a bracket. -/
structure IsPathTemplate (path : Text) : Prop where
  nonempty : path ≠ []
  stripped : path.strip = path
  fits : ∀ token ∈ tokens path, token.fitsBracket = true

/-- What stands in the bracket that sets the output path. -/
def moving (path : Text) : Text := " file:" ++ path ++ " "

/-- A content is another one with the bracket that sets the output path between two of its tokens. -/
def Moves (path content written : Text) : Prop :=
  ∃ front back, tokens content = front ++ back ∧
    tokens written = front ++ .bracket (moving path) :: back

/-- The skeleton with an output path declared for a file. -/
def Skeleton.declaring (s : Skeleton) (path target : Text) : Skeleton :=
  { s with
    flags := s.flags.insert path { (s.flags.get? path).getD {} with targetPath := target } }

/-- The same flags with another output path. -/
def FileFlags.movedTo (flags : FileFlags) (path : Text) : FileFlags :=
  { flags with targetPath := path }

/-- After some changes of lists no bracket among tokens comes to a directive that sets the output
path. -/
def Setting.KeepsPath (s : Setting) (changes : Changes) (tokens : List Token) : Prop :=
  ∀ inside, .bracket inside ∈ tokens → ∀ directive path,
    s.ExpandsTo changes inside directive → Directive.ofText directive ≠ .target path

namespace Text

theorem not_isBlank_of_strip {t : Text} (h : t.strip = t) {c : Letter} (hc : t.getLast? = some c) :
    c.isBlank = false := by
  have hhead := List.head?_dropWhile_not Letter.isBlank (t.dropWhile Letter.isBlank).reverse
  rw [← List.getLast?_reverse, ← trim, ← strip, h, hc] at hhead
  simpa using hhead

end Text

theorem core_moving {path : Text} (h : IsPathTemplate path) :
    core (moving path) = "file:" ++ path := by
  obtain ⟨last, hlast⟩ : ∃ last, path.getLast? = some last :=
    ⟨_, List.getLast?_eq_some_getLast h.nonempty⟩
  have hblank := Text.not_isBlank_of_strip h.stripped hlast
  obtain ⟨more, hmore⟩ := List.getLast?_eq_some_iff.mp hlast
  have hstrip : (moving path).strip = "file:" ++ path := by
    have hleft : (moving path).dropWhile Letter.isBlank = "file:" ++ path ++ " " := rfl
    have hright : ("file:" ++ path ++ " ").reverse.dropWhile Letter.isBlank =
        ("file:" ++ path).reverse := by
      have hspace : Letter.isBlank (.char ' ') = true := rfl
      rw [hmore]
      simp [Text.ofString, hspace, hblank]
    rw [Text.strip, Text.trim, hleft, hright, List.reverse_reverse]
  rw [core, hstrip]
  rfl

theorem moves_insert {path : Text} (before after : Text) (h : IsPathTemplate path)
    (hbefore : Template.IsShut before)
    (htokens : tokens (before ++ after) = tokens before ++ tokens after) :
    Moves path (before ++ after) (before ++ (Token.bracket (moving path)).source ++ after) := by
  refine ⟨tokens before, tokens after, htokens, Template.tokens_insert_bracket hbefore ?_ ?_⟩
  · simp [moving, Text.ofString]
  · have hword : Template.Fits " file:" := Template.fits_of_tokens (by decide)
    have hblank : Template.Fits " " := Template.fits_of_tokens (by decide)
    exact (hword.append (Template.fits_of_tokens h.fits)).append hblank

theorem Directive.ofText_file (path : Text) :
    ofText ("file:" ++ path) =
      if .char ':' ∈ path then .unknown ("file:" ++ path) else .target path := by
  have hsplit : Text.splitOn (.char ':') ("file:" ++ path) =
      ("file" : Text) :: path.splitOn (.char ':') :=
    Text.splitOn_append (.char ':') "file" path
  obtain ⟨pieces, hpath, hpieces⟩ := Text.splitOn_eq_cons (.char ':') path
  rw [ofText, hsplit, hpath]
  by_cases hcolon : Letter.char ':' ∈ path
  · rw [if_pos hcolon]
    obtain ⟨piece, more, rfl⟩ := List.exists_cons_of_ne_nil (fun hnil => (hpieces.mp hnil) hcolon)
    rfl
  · have hwhole : path.takeWhile (· ≠ .char ':') = path :=
      List.takeWhile_eq_self_iff.mpr fun c hc => decide_eq_true (ne_of_mem_of_not_mem hc hcolon)
    rw [if_neg hcolon, hpieces.mpr hcolon, hwhole]
    rfl

theorem Setting.expandsTo_moving {s : Setting} {path resolved : Text} {changes : Changes}
    (h : IsPathTemplate path) (hpath : s.expand path changes = .ok resolved changes) :
    s.ExpandsTo changes (moving path) ("file:" ++ resolved) := by
  rw [ExpandsTo, core_moving h, expand, Template.tokens_append_letters (by decide),
    expandTokens_letters, ← expand, map_eq_pure_bind, Step.bind_of_ok hpath]
  rfl

theorem Skeleton.flagsFor_declaring (s : Skeleton) (path : Text) {target : Text}
    (htarget : target ≠ []) (bits : Int) :
    (s.declaring path target).flagsFor path bits =
      (s.flagsFor path bits).movedTo target := by
  rw [FileFlags.movedTo, flagsFor, flagsFor, declaring, Keyed.get?_insert, if_pos rfl]
  cases s.flags.get? path <;> simp [FileFlags.fresh, htarget]

namespace Directive

/-- The output path that a directive sets. -/
def target? : Directive → Option Text
  | target path => some path
  | _ => none

theorem targetPath_edit {directive : Directive} {evaluate : Evaluator} {flags changed : FileFlags}
    (h : directive.edit evaluate flags = .ok changed) :
    changed.targetPath = directive.target?.getD flags.targetPath := by
  cases directive with
  | branch condition | permissions digits =>
      obtain ⟨_, -, rfl⟩ := Step.map_eq_ok_iff.mp h
      rfl
  | otherwise | alternative | close =>
      obtain ⟨_, _, frames, -, -, rfl⟩ := changeInnermost_eq_ok h
      rfl
  | _ =>
      obtain rfl := Except.ok.inj h
      rfl

theorem edit_movedTo (directive : Directive) (evaluate : Evaluator) (flags : FileFlags)
    (path : Text) :
    directive.edit evaluate (flags.movedTo path) =
      (directive.edit evaluate flags).map fun changed =>
        changed.movedTo (directive.target?.getD path) := by
  cases directive with
  | permissions digits =>
      simp only [edit]
      cases Scaffold.permissions digits <;> rfl
  | branch condition =>
      simp only [edit]
      cases evaluate condition <;> rfl
  | otherwise | close =>
      simp only [edit, changeInnermost, FileFlags.movedTo]
      cases flags.frames <;> rfl
  | alternative condition =>
      simp only [edit, changeInnermost, FileFlags.movedTo]
      cases flags.frames with
      | nil => rfl
      | cons frame outer => cases evaluate condition <;> rfl
  | _ => rfl

end Directive

/-- The second sheet has the flags of the first one, perhaps with another output path, and the same
changes of lists. -/
structure Beside (sheet other : Sheet) : Prop where
  flags : ∃ path, other.flags = sheet.flags.movedTo path
  changes : sheet.changes = other.changes

theorem relates_beside : RelatesSheets Beside where
  frames h := by
    obtain ⟨path, hflags⟩ := h.flags
    rw [hflags]
    rfl
  changes h := h.changes
  looked h _ := ⟨h.flags, rfl⟩

theorem respects_beside (s : Setting) (evaluate : LiveEvaluator) :
    (s.withDirectives evaluate).Respects Beside := by
  rintro _ ⟨⟩ directive
  refine Directive.inStep_handler relates_beside fun evaluate sheet other h => ?_
  obtain ⟨path, hflags⟩ := h.flags
  rw [Directive.apply_eq, Directive.apply_eq, hflags, Directive.edit_movedTo]
  cases (Directive.ofText directive).edit evaluate sheet.flags with
  | error failure => exact .error h
  | ok flags => exact .ok ⟨⟨_, rfl⟩, h.changes⟩

theorem respects_sameFlags (s : Setting) (evaluate : LiveEvaluator) :
    (s.withDirectives evaluate).Respects SameFlags := by
  rintro _ ⟨⟩ directive
  exact Directive.inStep_handler_sameFlags evaluate directive

namespace Setting

variable {s : Setting} {evaluate : LiveEvaluator}

/-- Tokens that change no list and do not come to a directive about the output path leave this path
as it is. -/
theorem targetPath_of_kept {tokens : List Token} {sheet last : Sheet} {text : Text}
    (h : (s.withDirectives evaluate).renderTokens tokens sheet = .ok text last)
    (hkeeps : s.KeepsPath sheet.changes tokens) (hquiet : last.changes = sheet.changes) :
    last.flags.targetPath = sheet.flags.targetPath := by
  obtain ⟨directives, hdirectives⟩ := exists_directiveTexts rfl h
  obtain ⟨hexpanded, -⟩ :=
    handAll_of_directiveTexts rfl (handles_withDirectives s evaluate) hdirectives hquiet
  rw [expandsTo_withDirectives] at hexpanded
  have hnone : ((directives.map Directive.ofText).filterMap Directive.target?) = [] := by
    refine List.filterMap_eq_nil_iff.mpr fun directive hmem => ?_
    obtain ⟨t, ht, rfl⟩ := List.mem_map.mp hmem
    obtain ⟨inside, hinside, hexpand⟩ := ExpandsTo.exists_inside hexpanded ht
    have hother := hkeeps inside (Token.mem_of_mem_insides hinside) t
    cases hdirective : Directive.ofText t with
    | target path => exact absurd hdirective (hother path hexpand)
    | _ => rfl
  rw [(edits_of_directiveTexts hdirectives).view_eq Directive.targetPath_edit, hnone]
  rfl

theorem renderToken_moving {path resolved : Text} (hpath : IsPathTemplate path) {sheet : Sheet}
    (hresolved : s.expand path sheet.changes = .ok resolved sheet.changes) {flags : FileFlags}
    (hedit : (Directive.ofText ("file:" ++ resolved)).edit (evaluate sheet.changes) sheet.flags =
      .ok flags) :
    (s.withDirectives evaluate).renderToken (.bracket (moving path)) sheet =
      .ok [] { sheet with
        flags := flags
        warnings := sheet.warnings ++ (Directive.ofText ("file:" ++ resolved)).warnings } := by
  refine ((s.withDirectives evaluate).renderToken_bracket_eq_ok_iff rfl).mpr ?_
  refine ⟨"file:" ++ resolved, sheet.changes, [], ?_, ?_, by simp⟩
  · rw [expand_withDirectives]
    exact expandsTo_moving hpath hresolved
  · rw [Directive.handler_eq, hedit]

theorem renderTokens_cons_of_silent {token : Token} {sheet next : Sheet}
    (h : s.renderToken token sheet = .ok [] next) (rest : List Token) :
    s.renderTokens (token :: rest) sheet = s.renderTokens rest next := by
  rw [renderTokens, Step.bind_of_ok h]
  simp only [List.nil_append, bind_pure]

/-- A token that shows nothing is added to a template that changes no list. If sheets stay related
behind it and `Q` holds of the second one from then on, the added token has no other effect. -/
theorem renderTokens_inserted {R : Sheet → Sheet → Prop} {Q : Sheet → Prop} {front back : List Token}
    {token : Token} {changes : Changes} (hrelates : RelatesSheets R) (hrespects : s.Respects R)
    (hhandles : s.Handles)
    (htoken : ∀ sheet other, R sheet other → other.changes = changes →
      ∃ next, s.renderToken token other = .ok [] next ∧ R sheet next ∧ Q next)
    (hback : ∀ {next last text}, Q next → s.renderTokens back next = .ok text last →
      next.changes = changes → last.changes = changes → Q last)
    {sheet other : Sheet} (h : R sheet other) (hsheet : sheet.changes = changes)
    (hquiet : (Step.state (s.renderTokens (front ++ back) sheet)).changes = changes) :
    (∃ text last last', s.renderTokens (front ++ back) sheet = .ok text last ∧
        s.renderTokens (front ++ token :: back) other = .ok text last' ∧ R last last' ∧ Q last') ∨
      ∃ failure last last', s.renderTokens (front ++ back) sheet = .error failure last ∧
        s.renderTokens (front ++ token :: back) other = .error failure last' := by
  have hrest : ∀ first : Text, Rendering.Grows (do
      let rest ← s.renderTokens back
      pure (first ++ rest) : Rendering Text) := fun first =>
    (grows_renderTokens hhandles back).bind fun rest => Step.extends_pure (first ++ rest)
  rw [← hsheet, renderTokens_append] at hquiet
  have hfirst := (grows_renderTokens hhandles front).first_of_bind hrest hquiet
  have hstep := inStep_renderTokens hrelates hrespects front h
  rw [s.renderTokens_append, s.renderTokens_append, Step.bind_apply, Step.bind_apply]
  rw [Step.bind_apply] at hquiet
  generalize s.renderTokens front sheet = left at hstep hfirst hquiet ⊢
  generalize s.renderTokens front other = right at hstep ⊢
  cases hstep with
  | @error failure last last' _ => exact .inr ⟨failure, last, last', rfl, rfl⟩
  | @ok text next next' hnext =>
      have hchanges : next.changes = changes := hfirst.trans hsheet
      obtain ⟨between, hrender, hbetween, hq⟩ :=
        htoken next next' hnext ((hrelates.changes hnext).symm.trans hchanges)
      dsimp only at hquiet ⊢
      have hmore := inStep_renderTokens hrelates hrespects back hbetween
      have hback' := (grows_renderTokens hhandles back).first_of_bind
        (fun rest => Step.extends_pure (text ++ rest)) (hquiet.trans hfirst.symm)
      rw [Step.bind_apply, Step.bind_apply, s.renderTokens_cons_of_silent hrender]
      generalize s.renderTokens back next = left at hmore hback' ⊢
      cases hright : s.renderTokens back between with
      | error failure last' =>
          rw [hright] at hmore
          cases hmore with
          | @error _ last _ _ => exact .inr ⟨failure, last, last', rfl, rfl⟩
      | ok rest last' =>
          rw [hright] at hmore
          cases hmore with
          | @ok _ last _ hlast =>
              have hlast' : last'.changes = changes :=
                (hrelates.changes hlast).symm.trans (hback'.trans hchanges)
              have hq' := hback hq hright ((hrelates.changes hbetween).symm.trans hchanges) hlast'
              exact .inl ⟨text ++ rest, last, last', rfl, rfl, hlast, hq'⟩

theorem render_eq_expand (hhandler : s.handler = none) (hframes : s.heedsFrames = false) (t : Text) :
    s.render t = liftM (s.expand t) := by
  have hshown : ∀ flags, s.suppresses flags = false := by
    intro flags
    rw [suppresses, hframes, Bool.false_and]
  rw [render, expand]
  induction tokens t with
  | nil => rfl
  | cons token rest ih =>
      have htoken : s.renderToken token = liftM (s.expandToken token) := by
        funext sheet
        rw [s.renderToken_of_inserted (.inr hhandler), hshown, if_neg Bool.false_ne_true]
      rw [renderTokens, expandTokens, htoken, ih, Rendering.looking_bind]
      simp only [Rendering.looking_bind]
      rfl

theorem renderContent_apply (evaluate : LiveEvaluator) (content : Text) (hhandler : s.handler = none)
    (hframes : s.heedsFrames = false) {sheet : Sheet} (hsubstitutes : sheet.flags.substitutes = true) :
    renderContent render evaluate s content sheet =
      match (s.withDirectives evaluate).render content sheet with
      | .error failure last => .error failure last
      | .ok text last =>
          match s.expand last.flags.targetPath last.changes with
          | .error failure changes => .error failure { last with changes := changes }
          | .ok target changes => .ok (text, target) { last with changes := changes } := by
  rw [renderContent_eq, Step.bind_apply, renderBody_apply, if_pos hsubstitutes]
  cases (s.withDirectives evaluate).render content sheet with
  | error failure last => rfl
  | ok text last =>
      dsimp only
      rw [Step.get_bind, s.render_eq_expand hhandler hframes, Step.bind_apply,
        Rendering.looking_apply]
      cases s.expand last.flags.targetPath last.changes <;> rfl

theorem renderContent_eq_ok {evaluate : LiveEvaluator} {content text target : Text}
    {sheet last : Sheet} (hhandler : s.handler = none) (hframes : s.heedsFrames = false)
    (h : renderContent render evaluate s content sheet = .ok (text, target) last) :
    ∃ next, s.renderBody evaluate content sheet = .ok text next ∧ next.flags = last.flags ∧
      s.expand last.flags.targetPath next.changes = .ok target last.changes := by
  rw [renderContent_eq] at h
  obtain ⟨body, next, hbody, hrest⟩ := Step.bind_eq_ok_iff.mp h
  rw [Step.get_bind, render_eq_expand hhandler hframes] at hrest
  obtain ⟨_, _, hlift, hpure⟩ := Step.bind_eq_ok_iff.mp hrest
  obtain ⟨changes, hexpand, rfl⟩ := Rendering.looking_eq_ok_iff.mp hlift
  cases hpure
  exact ⟨next, hbody, rfl, hexpand⟩

end Setting

namespace Run

variable {setting : Setting} {scope : Scope} {s s' : Skeleton} {file written : SkeletonFile}

theorem requestWith_movedTo (hpath : written.path = file.path)
    (hbits : written.permissions = file.permissions) (content target path : Text)
    (flags : FileFlags) :
    requestWith scope written content target (flags.movedTo path) =
      requestWith scope file content target flags := by
  rw [requestWith, requestWith, hpath, hbits]
  rfl

/-- Two files whose contents are rendered to the same text, and to the same flags but for a path that
comes to the same, lead to the same request. -/
theorem outcome_requestFor_of_render {log log' : Log} {text : Text} {last last' : Sheet}
    (hhandler : setting.handler = none) (hframes : setting.heedsFrames = false)
    (hpath : written.path = file.path) (hbits : written.permissions = file.permissions)
    (hsubstitutes : (sheetFor s file log).flags.substitutes = true)
    (hsubstitutes' : (sheetFor s' written log').flags.substitutes = true)
    (hok : (setting.withDirectives scope.evaluate).render file.content (sheetFor s file log) =
      .ok text last)
    (hok' : (setting.withDirectives scope.evaluate).render written.content
      (sheetFor s' written log') = .ok text last')
    (htarget : Step.outcome (setting.expand last'.flags.targetPath last'.changes) =
      Step.outcome (setting.expand last.flags.targetPath last.changes))
    (hflags : ∃ path, last'.flags = last.flags.movedTo path) :
    Step.outcome (requestFor Setting.render scope setting s file log) =
      Step.outcome (requestFor Setting.render scope setting s' written log') := by
  obtain ⟨path, hflags⟩ := hflags
  have hrender := setting.renderContent_apply scope.evaluate file.content hhandler hframes
    hsubstitutes
  have hrender' := setting.renderContent_apply scope.evaluate written.content hhandler hframes
    hsubstitutes'
  rw [hok] at hrender
  rw [hok'] at hrender'
  dsimp only at hrender hrender'
  generalize setting.expand last.flags.targetPath last.changes = expanded at hrender htarget
  generalize setting.expand last'.flags.targetPath last'.changes = expanded' at hrender' htarget
  cases expanded with
  | error failure changes =>
      cases expanded' with
      | ok => cases htarget
      | error _ changes' =>
          cases htarget
          rw [requestFor_of_error hrender, requestFor_of_error hrender', hpath]
          rfl
  | ok target changes =>
      cases expanded' with
      | error => cases htarget
      | ok _ changes' =>
          cases htarget
          rw [requestFor_of_ok hrender, requestFor_of_ok hrender', hflags,
            requestWith_movedTo hpath hbits]
          rfl

theorem outcome_requestFor_inserted {R : Sheet → Sheet → Prop} {Q : Sheet → Prop}
    {front back : List Token} {token : Token} {log log' : Log} (hhandler : setting.handler = none)
    (hframes : setting.heedsFrames = false) (hpath : written.path = file.path)
    (hbits : written.permissions = file.permissions)
    (hcontent : tokens file.content = front ++ back)
    (hwritten : tokens written.content = front ++ token :: back)
    (hsubstitutes : (sheetFor s file log).flags.substitutes = true)
    (hsubstitutes' : (sheetFor s' written log').flags.substitutes = true)
    (hrelates : RelatesSheets R) (hrespects : (setting.withDirectives scope.evaluate).Respects R)
    (hstart : R (sheetFor s file log) (sheetFor s' written log'))
    (htoken : ∀ sheet other, R sheet other → other.changes = log.changes → ∃ next,
      (setting.withDirectives scope.evaluate).renderToken token other = .ok [] next ∧
        R sheet next ∧ Q next)
    (hback : ∀ {next last text}, Q next →
      (setting.withDirectives scope.evaluate).renderTokens back next = .ok text last →
        next.changes = log.changes → last.changes = log.changes → Q last)
    (hquiet : (Step.state ((setting.withDirectives scope.evaluate).render file.content
      (sheetFor s file log))).changes = log.changes)
    (hlast : ∀ text sheet other,
      (setting.withDirectives scope.evaluate).render file.content (sheetFor s file log) =
        .ok text sheet → R sheet other → Q other →
        Step.outcome (setting.expand other.flags.targetPath log.changes) =
            Step.outcome (setting.expand sheet.flags.targetPath log.changes) ∧
          ∃ path, other.flags = sheet.flags.movedTo path) :
    Step.outcome (requestFor Setting.render scope setting s file log) =
      Step.outcome (requestFor Setting.render scope setting s' written log') := by
  have hinserted := Setting.renderTokens_inserted hrelates hrespects
    (Setting.handles_withDirectives setting scope.evaluate) htoken hback hstart rfl
    (by rwa [Setting.render, hcontent] at hquiet)
  rw [← hcontent, ← hwritten] at hinserted
  -- The added token shows nothing, so the texts agree, and after it the flags but for the path.
  rcases hinserted with ⟨text, last, last', hok, hok', hrelated, hq⟩ |
    ⟨failure, last, last', herror, herror'⟩
  · obtain ⟨htarget, hflags⟩ := hlast text last last' hok hrelated hq
    have hchanges : last.changes = log.changes := by rwa [Setting.render, hok] at hquiet
    have hchanges' : last'.changes = log.changes := (hrelates.changes hrelated).symm.trans hchanges
    refine outcome_requestFor_of_render hhandler hframes hpath hbits hsubstitutes hsubstitutes'
      hok hok' ?_ hflags
    rw [hchanges, hchanges', htarget]
  · have hrender := setting.renderContent_apply scope.evaluate file.content hhandler hframes
      hsubstitutes
    have hrender' := setting.renderContent_apply scope.evaluate written.content hhandler hframes
      hsubstitutes'
    rw [Setting.render, herror] at hrender
    rw [Setting.render, herror'] at hrender'
    rw [requestFor_of_error hrender, requestFor_of_error hrender', hpath]
    rfl

/-- To render the content of a file, after what was done before, changes no list, also if this
fails. -/
def KeepsLists (setting : Setting) (scope : Scope) (s : Skeleton) (file : SkeletonFile)
    (log : Log) : Prop :=
  (Step.state (setting.renderBody scope.evaluate file.content (sheetFor s file log))).changes =
    log.changes

/-- Another declared path does not change what is done to lists. -/
theorem keepsLists_declaring {path : Text} {log : Log} (hpath : path ≠ [])
    (h : KeepsLists setting scope s file log) :
    KeepsLists setting scope (s.declaring file.path path) file log := by
  have hbeside : Beside (sheetFor s file log) (sheetFor (s.declaring file.path path) file log) := by
    rw [sheetFor, sheetFor, s.flagsFor_declaring file.path hpath]
    exact ⟨⟨path, rfl⟩, rfl⟩
  have hbody : InStep Beside (setting.renderBody scope.evaluate file.content)
      (setting.renderBody scope.evaluate file.content) := by
    refine Step.inStep_get_bind fun sheet other h => ?_
    obtain ⟨path, hflags⟩ := h.flags
    rw [hflags]
    exact Step.inStep_ite (Setting.inStep_renderTokens relates_beside
      (respects_beside setting scope.evaluate) (tokens file.content)) (Step.inStep_pure _)
  exact (hbody hbeside).state.changes.symm.trans h

theorem KeepsLists.render_eq {log : Log} (h : KeepsLists setting scope s file log)
    (hsubstitutes : (sheetFor s file log).flags.substitutes = true) :
    (Step.state ((setting.withDirectives scope.evaluate).render file.content
      (sheetFor s file log))).changes = log.changes := by
  rwa [KeepsLists, Setting.renderBody_apply, if_pos hsubstitutes] at h

section

variable {path resolved text : Text} {log log' : Log}
  (hhandler : setting.handler = none) (hframes : setting.heedsFrames = false)
  (hpath : IsPathTemplate path)
  (hresolved : setting.expand path log.changes = .ok resolved log.changes)
  (hsubstitutes : (sheetFor s file log).flags.substitutes = true)
  (hmoves : Moves path file.content text) (hlists : KeepsLists setting scope s file log)
  (hsame : log'.changes = log.changes)

include hhandler hframes hpath hresolved hsubstitutes hmoves hlists hsame

/-- If nothing in the resolved path is read as something else, both ways lead to the same request. -/
theorem outcome_requestFor_declaring
    (hkeeps : setting.KeepsPath log.changes (tokens file.content))
    (hcolon : .char ':' ∉ resolved) (hkeys : ∀ token ∈ tokens resolved, token.key? = none) :
    Step.outcome
        (requestFor Setting.render scope setting (s.declaring file.path path) file log) =
      Step.outcome
        (requestFor Setting.render scope setting s { file with content := text } log') := by
  obtain ⟨front, back, hcontent, hwritten⟩ := hmoves
  have hflags := s.flagsFor_declaring file.path hpath.nonempty file.permissions
  have hfixed : setting.expand resolved log.changes = .ok resolved log.changes := by
    rw [Setting.expand, setting.expandTokens_of_no_key hkeys, Template.flatMap_source_tokens]
    rfl
  have hback : setting.KeepsPath log.changes back := fun inside hmem =>
    hkeeps inside (hcontent ▸ List.mem_append_right front hmem)
  have hsubstitutes' : (sheetFor (s.declaring file.path path) file log).flags.substitutes = true := by
    rw [sheetFor, hflags]
    exact hsubstitutes
  have hquiet := (keepsLists_declaring hpath.nonempty hlists).render_eq hsubstitutes'
  -- Until the directive the second sheet has the path of the manifest, and then the resolved one.
  refine outcome_requestFor_inserted (Q := fun other => other.flags.targetPath = resolved)
    hhandler hframes rfl rfl hcontent hwritten hsubstitutes' hsubstitutes relates_beside
    (respects_beside setting scope.evaluate) ?_ ?_ ?_ hquiet ?_
  · rw [sheetFor, hflags]
    refine ⟨⟨(s.flagsFor file.path file.permissions).targetPath, rfl⟩, hsame.symm⟩
  · intro sheet other h hchanges
    have hedit : (Directive.ofText ("file:" ++ resolved)).edit (scope.evaluate other.changes)
        other.flags = .ok (other.flags.movedTo resolved) := by
      rw [Directive.ofText_file, if_neg hcolon]
      rfl
    rw [← hchanges] at hresolved
    obtain ⟨moved, hmoved⟩ := h.flags
    refine ⟨_, Setting.renderToken_moving hpath hresolved hedit, ⟨⟨resolved, ?_⟩, h.changes⟩, rfl⟩
    rw [hmoved]
    rfl
  · intro next last text htarget hrender hnext hlast
    rw [← hnext] at hback
    exact (Setting.targetPath_of_kept hrender hback (hlast.trans hnext.symm)).trans htarget
  · intro text sheet other hrender h htarget
    have hsheet : sheet.flags.targetPath = path := by
      have hkept := Setting.targetPath_of_kept hrender hkeeps (by rwa [hrender] at hquiet)
      rw [hkept, sheetFor, hflags]
      rfl
    refine ⟨?_, h.flags⟩
    rw [htarget, hsheet, hfixed, hresolved]

/-- A colon in the resolved path makes the directive an unknown one, which leaves the file. -/
theorem outcome_requestFor_unknown (hcolon : .char ':' ∈ resolved) :
    Step.outcome (requestFor Setting.render scope setting s file log) =
      Step.outcome
        (requestFor Setting.render scope setting s { file with content := text } log') := by
  obtain ⟨front, back, hcontent, hwritten⟩ := hmoves
  refine outcome_requestFor_inserted (Q := fun _ => True) hhandler hframes rfl rfl hcontent
    hwritten hsubstitutes hsubstitutes relates_sameFlags
    (respects_sameFlags setting scope.evaluate) ⟨rfl, hsame.symm⟩ ?_ (fun _ _ _ _ => trivial)
    (hlists.render_eq hsubstitutes) ?_
  · intro sheet other h hchanges
    have hedit : (Directive.ofText ("file:" ++ resolved)).edit (scope.evaluate other.changes)
        other.flags = .ok other.flags := by
      rw [Directive.ofText_file, if_pos hcolon]
      rfl
    rw [← hchanges] at hresolved
    exact ⟨_, Setting.renderToken_moving hpath hresolved hedit, ⟨h.flags, h.changes⟩, trivial⟩
  · intro text sheet other _ h _
    exact ⟨by rw [h.flags], sheet.flags.targetPath, h.flags.symm⟩

end

theorem targetPath_of_renderBody {content body : Text} {sheet last : Sheet}
    (hkeeps : setting.KeepsPath sheet.changes (tokens content))
    (h : setting.renderBody scope.evaluate content sheet = .ok body last)
    (hquiet : last.changes = sheet.changes) :
    last.flags.targetPath = sheet.flags.targetPath := by
  rw [Setting.renderBody_apply] at h
  split at h
  · exact Setting.targetPath_of_kept h hkeeps hquiet
  · cases h
    rfl

/-- A declared path is the path of the output once its placeholders are replaced. -/
theorem path_of_requestFor_declaring {path resolved : Text} {log after : Log} {request : Request}
    (hhandler : setting.handler = none) (hframes : setting.heedsFrames = false)
    (hpath : path ≠ []) (hresolved : setting.expand path log.changes = .ok resolved log.changes)
    (hlists : KeepsLists setting scope s file log)
    (hkeeps : setting.KeepsPath log.changes (tokens file.content))
    (h : requestFor Setting.render scope setting (s.declaring file.path path) file log =
      .ok request after) :
    request.path = scope.place resolved := by
  obtain ⟨content, target, flags, hrender, rfl⟩ := requestFor_eq_ok h
  obtain ⟨next, hbody, hflags, hexpand⟩ := Setting.renderContent_eq_ok hhandler hframes hrender
  have hquiet : next.changes = log.changes := by
    have hkept := keepsLists_declaring hpath hlists
    rwa [KeepsLists, hbody] at hkept
  have hlast : next.flags.targetPath = path := by
    rw [targetPath_of_renderBody hkeeps hbody hquiet, sheetFor, s.flagsFor_declaring file.path hpath]
    rfl
  rw [← hflags, hlast, hquiet, hresolved] at hexpand
  injection hexpand with htarget
  exact congrArg scope.place htarget.symm

variable {σ : Type}

def bareSkeleton : Skeleton where
  name := "program"

/-- The text of the plain file behind a bracket that sets the output path. -/
def movingText (path : Text) : Text := (Token.bracket (moving path)).source ++ "text"

theorem moves_movingText {path : Text} (h : IsPathTemplate path) :
    Moves path (plainFile "b").content (movingText path) :=
  moves_insert [] "text" h (by simp [Template.IsShut]) rfl

theorem keepsPath_plainFile (setting : Setting) (changes : Changes) :
    setting.KeepsPath changes (tokens (plainFile "b").content) := by
  have hplain : ∀ token ∈ tokens "text", token.isBracket = false := by decide
  intro inside hmem
  cases hplain _ hmem

/-- The path that is the synopsis of the project. -/
def synopsisPath : Text := (Token.placeholder " synopsis ").source

def titledJob (synopsis : Text) : Job :=
  { askingJob with project := { name := "p", synopsis := synopsis } }

/-- A skeleton in which the content of a file is no template. -/
def verbatimSkeleton : Skeleton where
  name := "program"
  flags := [("b", { substitutes := false })]

/-- Declared as output path, the synopsis of a project is the path. Written in a directive it leads to
another one. -/
structure Differ (s : Skeleton) (synopsis path : Text) : Prop where
  fills : Fills (settingAt (.ofProject (titledJob synopsis).project) askingRun).context
    Filter.standard [] ((tokens synopsisPath).map Token.piece) synopsis []
  declared : ∃ request : Request, request.path = synopsis ∧
    ComesTo (titledJob synopsis) recordRequest (.ofProject (titledJob synopsis).project)
      (s.declaring "b" synopsisPath) (plainFile "b") askingRun (.ok request)
  written : ∃ request : Request, request.path = path ∧
    ComesTo (titledJob synopsis) recordRequest (.ofProject (titledJob synopsis).project)
      s { plainFile "b" with content := movingText synopsisPath } askingRun (.ok request)
  other : path ≠ synopsis

theorem differ_of_outcome {synopsis path : Text} (request request' : Request)
    (hexpand : (settingAt (.ofProject (titledJob synopsis).project) askingRun).expand synopsisPath [] =
      .ok synopsis [])
    (hdeclared : Step.outcome (requestFor Setting.render (.ofProject (titledJob synopsis).project)
      (settingAt (.ofProject (titledJob synopsis).project) askingRun)
      (s.declaring "b" synopsisPath) (plainFile "b") {}) = .ok request)
    (hwritten : Step.outcome (requestFor Setting.render (.ofProject (titledJob synopsis).project)
      (settingAt (.ofProject (titledJob synopsis).project) askingRun) s
      { plainFile "b" with content := movingText synopsisPath } {}) = .ok request')
    (hpath : request.path = synopsis) (hpath' : request'.path = path) (hother : path ≠ synopsis) :
    Differ s synopsis path := by
  have hbackup : Step.outcome (backup askingJob (plainFile "b") askingRun) = .ok () := by
    decide +kernel
  have hbackup' : Step.outcome (backup askingJob
      { plainFile "b" with content := movingText synopsisPath } askingRun) = .ok () := by
    decide +kernel
  refine ⟨Setting.fills_of_expandTokens rfl hexpand, ?_, ?_, hother⟩
  · exact ⟨request, hpath, comesTo_of_outcome recordRequest rfl hbackup hdeclared⟩
  · exact ⟨request', hpath', comesTo_of_outcome recordRequest rfl hbackup' hwritten⟩

/-- The path that is the authors of the project, as they are at that moment. -/
def authorsPath : Text := (Token.placeholder " project.context.authors ").source

end Run

end Scaffold
