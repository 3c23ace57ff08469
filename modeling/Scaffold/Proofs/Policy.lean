import Mathlib.Data.List.Forall2
import Scaffold.Proofs.Growth

/-!
What rendering does to the flags of a file. The directives of a template are applied in their order,
whatever branch they stand in, and those that are not about branches act on the policy alone, that
is, on the flags without the open branches. So no condition can influence the policy of a file.
-/

namespace Scaffold

namespace Directive

/-- How many branches are open after a directive. -/
def depthAfter (depth : Nat) : Directive → Nat
  | branch _ => depth + 1
  | close => depth - 1
  | _ => depth

theorem changeInnermost_eq_ok {word : BranchWord}
    {change : Bool → List Bool → Except Failure (List Bool)} {flags changed : FileFlags}
    (h : changeInnermost word change flags = .ok changed) :
    ∃ frame outer frames, flags.frames = frame :: outer ∧ change frame outer = .ok frames ∧
      changed = { flags with frames := frames } := by
  unfold changeInnermost at h
  split at h
  · cases h
  · rename_i frame outer hframes
    obtain ⟨frames, hchange, rfl⟩ := Step.map_eq_ok_iff.mp h
    exact ⟨frame, outer, frames, hframes, hchange, rfl⟩

theorem fresh_edit_of_ne_keeps {directive : Directive} (h : directive.role ≠ .keeps)
    {evaluate : Evaluator} {flags changed : FileFlags}
    (hedit : directive.edit evaluate flags = .ok changed) : changed.fresh = flags.fresh := by
  cases directive with
  | branch condition =>
      obtain ⟨holds, -, rfl⟩ := Step.map_eq_ok_iff.mp hedit
      rfl
  | otherwise | alternative | close =>
      obtain ⟨_, _, frames, -, -, rfl⟩ := changeInnermost_eq_ok hedit
      rfl
  | _ => exact absurd rfl h

theorem length_frames_edit {directive : Directive} {evaluate : Evaluator}
    {flags changed : FileFlags} (hedit : directive.edit evaluate flags = .ok changed) :
    changed.frames.length = depthAfter flags.frames.length directive := by
  cases directive with
  | branch condition =>
      obtain ⟨holds, -, rfl⟩ := Step.map_eq_ok_iff.mp hedit
      rfl
  | otherwise | close =>
      obtain ⟨frame, outer, frames, hframes, hchange, rfl⟩ := changeInnermost_eq_ok hedit
      obtain rfl := Except.ok.inj hchange
      simp [depthAfter, hframes]
  | alternative condition =>
      obtain ⟨frame, outer, frames, hframes, hchange, rfl⟩ := changeInnermost_eq_ok hedit
      obtain ⟨holds, -, rfl⟩ := Step.map_eq_ok_iff.mp hchange
      simp [depthAfter, hframes]
  | permissions digits =>
      obtain ⟨bits, -, rfl⟩ := Step.map_eq_ok_iff.mp hedit
      rfl
  | _ =>
      obtain rfl := Except.ok.inj hedit
      rfl

theorem handler_eq_ok {evaluate : LiveEvaluator} {t answer : Text} {sheet changed : Sheet}
    (h : handler evaluate t sheet = .ok answer changed) :
    (ofText t).edit (evaluate sheet.changes) sheet.flags = .ok changed.flags := by
  rw [handler_eq] at h
  cases hedit : (ofText t).edit (evaluate sheet.changes) sheet.flags with
  | error failure => simp [hedit] at h
  | ok flags =>
      rw [hedit] at h
      cases h
      rfl

/-- Directives edit flags one after the other. The conditions in each of them are decided in some
way of its own, since what they are about may have changed. -/
inductive Edits : FileFlags → List Directive → FileFlags → Prop where
  | nil {flags : FileFlags} : Edits flags [] flags
  | cons {flags next last : FileFlags} {directive : Directive} {rest : List Directive}
      {evaluate : Evaluator} (hedit : directive.edit evaluate flags = .ok next)
      (hrest : Edits next rest last) : Edits flags (directive :: rest) last

theorem edits_of_handAll {evaluate : LiveEvaluator} {texts : List Text} {sheet changed : Sheet}
    (h : handAll (handler evaluate) texts sheet = .ok () changed) :
    Edits sheet.flags (texts.map ofText) changed.flags := by
  induction texts generalizing sheet with
  | nil =>
      cases h
      exact .nil
  | cons t rest ih =>
      obtain ⟨answer, middle, hhandle, hrest⟩ := Step.bind_eq_ok_iff.mp h
      exact .cons (handler_eq_ok hhandle) (ih hrest)

/-- The policy after directives: those that are not about branches act on it, in their order. -/
def policyAfter (evaluate : Evaluator) (flags : FileFlags) (directives : List Directive) :
    Except Failure FileFlags :=
  (directives.filter (·.role = .keeps)).foldlM
    (fun flags directive => directive.edit evaluate flags) flags.fresh

theorem Edits.policyAfter {directives : List Directive} {flags changed : FileFlags}
    (h : Edits flags directives changed) (other : Evaluator) :
    policyAfter other flags directives = .ok changed.fresh := by
  induction h with
  | nil => rfl
  | @cons flags next last directive rest evaluate hedit hrest ih =>
      unfold Directive.policyAfter at ih ⊢
      by_cases hrole : directive.role = .keeps
      · have hfresh : directive.edit other flags.fresh = .ok next.fresh := by
          have := edit_of_keeps hrole other evaluate flags []
          rw [hedit] at this
          exact this
        rw [List.filter_cons_of_pos (by simp [hrole]), List.foldlM_cons, hfresh]
        exact ih
      · rw [List.filter_cons_of_neg (by simp [hrole]), ← fresh_edit_of_ne_keeps hrole hedit]
        exact ih

theorem Edits.length_frames {directives : List Directive} {flags changed : FileFlags}
    (h : Edits flags directives changed) :
    changed.frames.length = directives.foldl depthAfter flags.frames.length := by
  induction h with
  | nil => rfl
  | cons hedit hrest ih => rw [ih, length_frames_edit hedit, List.foldl_cons]

/-- If each directive sets what `view` shows of the flags or leaves it as it is, then what was set
last is there at the end. -/
theorem Edits.view_eq {α : Type} {view : FileFlags → α} {set? : Directive → Option α}
    (hedit : ∀ {evaluate : Evaluator} {directive : Directive} {flags changed : FileFlags},
      directive.edit evaluate flags = .ok changed →
        view changed = (set? directive).getD (view flags))
    {directives : List Directive} {flags changed : FileFlags} (h : Edits flags directives changed) :
    view changed = (directives.filterMap set?).getLast?.getD (view flags) := by
  induction h with
  | nil => rfl
  | @cons flags next last directive rest evaluate hfirst hrest ih =>
      rw [ih, hedit hfirst]
      cases hset : set? directive with
      | none =>
          rw [List.filterMap_cons_none hset]
          rfl
      | some value =>
          rw [List.filterMap_cons_some hset, List.getLast?_cons]
          rfl

end Directive

namespace Setting

/-- Renders tokens for the texts that it hands to the handler: what stands in the brackets, with the
placeholders replaced as it comes to them. -/
def directiveTexts (s : Setting) (handle : Text → Rendering Text) :
    List Token → Rendering (List Text)
  | [] => pure []
  | .bracket inside :: rest => do
      let directive ← s.expand (Template.core inside)
      let _ ← handle directive
      let more ← s.directiveTexts handle rest
      pure (directive :: more)
  | token :: rest => do
      let _ ← s.renderToken token
      s.directiveTexts handle rest

variable {s : Setting}

theorem directiveTexts_of_not_bracket (handle : Text → Rendering Text) {token : Token}
    (htoken : token.isBracket = false) (rest : List Token) :
    s.directiveTexts handle (token :: rest) = (do
      let _ ← s.renderToken token
      s.directiveTexts handle rest) := by
  cases token with
  | bracket inside => cases htoken
  | _ => rfl

/-- Rendering hands texts to the handler on its way. -/
theorem exists_directiveTexts {handle : Text → Rendering Text} {tokens : List Token}
    {sheet last : Sheet} {text : Text} (hhandler : s.handler = some handle)
    (h : s.renderTokens tokens sheet = .ok text last) :
    ∃ directives, s.directiveTexts handle tokens sheet = .ok directives last := by
  induction tokens generalizing sheet text with
  | nil =>
      cases h
      exact ⟨[], rfl⟩
  | cons token rest ih =>
      obtain ⟨first, middle, hfirst, hmore⟩ := Step.bind_eq_ok_iff.mp h
      obtain ⟨more, _, hrest, hlast⟩ := Step.bind_eq_ok_iff.mp hmore
      cases hlast
      obtain ⟨directives, hdirectives⟩ := ih hrest
      cases htoken : token.isBracket with
      | false =>
          refine ⟨directives, ?_⟩
          rw [directiveTexts_of_not_bracket handle htoken, Step.bind_of_ok hfirst, hdirectives]
      | true =>
          obtain ⟨inside, rfl⟩ := Token.exists_of_isBracket htoken
          obtain ⟨directive, changes, answer, hexpand, hhandle, -⟩ :=
            (s.renderToken_bracket_eq_ok_iff hhandler).mp hfirst
          refine ⟨directive :: directives, ?_⟩
          rw [directiveTexts,
            Step.bind_of_ok (Rendering.looking_eq_ok_iff.mpr ⟨changes, hexpand, rfl⟩),
            Step.bind_of_ok hhandle, Step.bind_of_ok hdirectives]
          rfl

/-- What is not handed to the handler leaves the flags as they are. -/
theorem flags_of_renderToken {token : Token} {sheet next : Sheet} {text : Text}
    (htoken : token.isBracket = false ∨ s.handler = none)
    (h : s.renderToken token sheet = .ok text next) : next.flags = sheet.flags := by
  rw [s.renderToken_inserted_eq_ok_iff htoken] at h
  split at h
  · rw [h.2]
  · obtain ⟨changes, -, rfl⟩ := h
    rfl

theorem sheet_of_renderToken {token : Token} {sheet next : Sheet} {text : Text}
    (htoken : token.isBracket = false ∨ s.handler = none)
    (h : s.renderToken token sheet = .ok text next) (hkeeps : next.changes = sheet.changes) :
    next = sheet := by
  rw [s.renderToken_inserted_eq_ok_iff htoken] at h
  split at h
  · exact h.2.symm
  · obtain ⟨changes, -, rfl⟩ := h
    obtain rfl : changes = sheet.changes := hkeeps
    rfl

/-- The directives in the brackets of a template edit the flags, and nothing else does. -/
theorem edits_of_directiveTexts {evaluate : LiveEvaluator} {tokens : List Token}
    {sheet last : Sheet} {directives : List Text}
    (h : s.directiveTexts (Directive.handler evaluate) tokens sheet = .ok directives last) :
    Directive.Edits sheet.flags (directives.map Directive.ofText) last.flags := by
  induction tokens generalizing sheet directives with
  | nil =>
      cases h
      exact .nil
  | cons token rest ih =>
      cases htoken : token.isBracket with
      | false =>
          rw [directiveTexts_of_not_bracket _ htoken] at h
          obtain ⟨text, next, hfirst, hrest⟩ := Step.bind_eq_ok_iff.mp h
          rw [← flags_of_renderToken (.inl htoken) hfirst]
          exact ih hrest
      | true =>
          obtain ⟨inside, rfl⟩ := Token.exists_of_isBracket htoken
          obtain ⟨directive, _, hlooking, hmore⟩ := Step.bind_eq_ok_iff.mp h
          obtain ⟨changes, hexpand, rfl⟩ := Rendering.looking_eq_ok_iff.mp hlooking
          obtain ⟨answer, next, hhandle, hrest⟩ := Step.bind_eq_ok_iff.mp hmore
          obtain ⟨more, _, hrest, hlast⟩ := Step.bind_eq_ok_iff.mp hrest
          cases hlast
          have hedit := Directive.handler_eq_ok hhandle
          exact .cons hedit (ih hrest)

theorem grows_directiveTexts {handle : Text → Rendering Text} (hhandler : s.handler = some handle)
    (hhandles : s.Handles) (tokens : List Token) : (s.directiveTexts handle tokens).Grows := by
  induction tokens with
  | nil => exact Step.extends_pure []
  | cons token rest ih =>
      cases htoken : token.isBracket with
      | false =>
          rw [directiveTexts_of_not_bracket handle htoken]
          exact (grows_renderToken hhandles token).bind fun _ => ih
      | true =>
          obtain ⟨inside, rfl⟩ := Token.exists_of_isBracket htoken
          exact (Rendering.grows_looking (s.grows_expandTokens _)).bind fun directive =>
            (hhandles handle hhandler directive).bind fun _ =>
              ih.bind fun more => Step.extends_pure (directive :: more)

/-- A text that stands in a bracket comes to another one if its placeholders are replaced, after some
changes of lists and without further ones. -/
def ExpandsTo (s : Setting) (changes : Changes) (inside directive : Text) : Prop :=
  s.expand (Template.core inside) changes = .ok directive changes

theorem ExpandsTo.exists_inside {changes : Changes} {insides directives : List Text}
    (h : List.Forall₂ (s.ExpandsTo changes) insides directives) {directive : Text}
    (hmem : directive ∈ directives) : ∃ inside ∈ insides, s.ExpandsTo changes inside directive := by
  induction h with
  | nil => cases hmem
  | cons hfirst _ ih =>
      rcases List.mem_cons.mp hmem with rfl | hmem
      · exact ⟨_, List.mem_cons_self, hfirst⟩
      · obtain ⟨inside, hinside, hexpand⟩ := ih hmem
        exact ⟨inside, List.mem_cons_of_mem _ hinside, hexpand⟩

theorem ExpandsTo.congr_all {other : Setting} {changes : Changes} {insides directives : List Text}
    (hcongr : ∀ inside ∈ insides, ∀ directive, s.ExpandsTo changes inside directive →
      other.ExpandsTo changes inside directive)
    (h : List.Forall₂ (s.ExpandsTo changes) insides directives) :
    List.Forall₂ (other.ExpandsTo changes) insides directives := by
  induction h with
  | nil => exact .nil
  | cons hfirst _ ih =>
      obtain ⟨hinside, hrest⟩ := List.forall_mem_cons.mp hcongr
      exact .cons (hinside _ hfirst) (ih hrest)

/-- A bracket that changes no list hands over what it expands to, on the same sheet. -/
theorem expandsTo_of_bracket {handle : Text → Rendering Text} {inside text : Text}
    {sheet next : Sheet} (hhandler : s.handler = some handle) (hhandles : s.Handles)
    (h : s.renderToken (.bracket inside) sheet = .ok text next)
    (hkeeps : next.changes = sheet.changes) :
    ∃ directive answer, s.ExpandsTo sheet.changes inside directive ∧
      handle directive sheet = .ok answer next ∧
      text = if s.suppresses next.flags then [] else answer := by
  rw [s.renderToken_of_handler hhandler] at h
  obtain ⟨directive, expanded, hlooking, hemitted, hexpanded, -⟩ :=
    (Rendering.grows_looking (s.grows_expandTokens _)).bind_eq_ok (fun directive =>
      (hhandles handle hhandler directive).bind fun t => s.grows_emit t) h hkeeps
  obtain ⟨changes, hexpand, rfl⟩ := Rendering.looking_eq_ok_iff.mp hlooking
  obtain rfl : changes = sheet.changes := hexpanded
  obtain ⟨answer, _, hhandle, hemit⟩ := Step.bind_eq_ok_iff.mp hemitted
  rw [emit_apply] at hemit
  cases hemit
  exact ⟨directive, answer, hexpand, hhandle, rfl⟩

theorem ExpandsTo.unique {changes : Changes} {insides directives others : List Text}
    (h : List.Forall₂ (s.ExpandsTo changes) insides directives)
    (hother : List.Forall₂ (s.ExpandsTo changes) insides others) : others = directives := by
  induction h generalizing others with
  | nil =>
      cases hother
      rfl
  | cons hfirst _ ih =>
      cases hother with
      | cons hfirst' hrest' =>
          cases hfirst.symm.trans hfirst'
          rw [ih hrest']

/-- Where no list is changed, the texts in the brackets of a template are handed over one after the
other, and nothing else changes the sheet. -/
theorem handAll_of_directiveTexts {handle : Text → Rendering Text} {tokens : List Token}
    {sheet last : Sheet} {directives : List Text} (hhandler : s.handler = some handle)
    (hhandles : s.Handles) (h : s.directiveTexts handle tokens sheet = .ok directives last)
    (hlast : last.changes = sheet.changes) :
    List.Forall₂ (s.ExpandsTo sheet.changes) (tokens.filterMap Token.inside?) directives ∧
      handAll handle directives sheet = .ok () last := by
  induction tokens generalizing sheet directives with
  | nil =>
      cases h
      exact ⟨.nil, rfl⟩
  | cons token rest ih =>
      have hgrows := grows_directiveTexts hhandler hhandles rest
      cases htoken : token.isBracket with
      | false =>
          rw [directiveTexts_of_not_bracket _ htoken] at h
          obtain ⟨text, next, hfirst, hrest, hnext, hsame⟩ :=
            (grows_renderToken hhandles token).bind_eq_ok (fun _ => hgrows) h hlast
          obtain rfl := sheet_of_renderToken (.inl htoken) hfirst hnext
          rw [List.filterMap_cons_none (Token.inside?_of_not_bracket htoken)]
          exact ih hrest hsame
      | true =>
          obtain ⟨inside, rfl⟩ := Token.exists_of_isBracket htoken
          have hmore : ∀ directive, Rendering.Grows (do
              let more ← s.directiveTexts handle rest
              pure (directive :: more) : Rendering (List Text)) := fun directive =>
            hgrows.bind fun more => Step.extends_pure (directive :: more)
          obtain ⟨directive, expanded, hlooking, hhanded, hexpanded, hsame⟩ :=
            (Rendering.grows_looking (s.grows_expandTokens _)).bind_eq_ok (fun directive =>
              (hhandles handle hhandler directive).bind fun _ => hmore directive) h hlast
          obtain ⟨changes, hexpand, rfl⟩ := Rendering.looking_eq_ok_iff.mp hlooking
          obtain rfl : changes = sheet.changes := hexpanded
          obtain ⟨answer, next, hhandle, hrest, hnext, hsame⟩ :=
            (hhandles handle hhandler directive).bind_eq_ok (fun _ => hmore directive) hhanded hlast
          obtain ⟨more, _, hrest, hpure⟩ := Step.bind_eq_ok_iff.mp hrest
          cases hpure
          obtain ⟨hexpands, hhand⟩ := ih hrest hsame
          rw [hnext] at hexpands
          exact ⟨.cons hexpand hexpands, by rw [handAll, Step.bind_of_ok hhandle, hhand]⟩

variable (s)

theorem expandsTo_withDirectives (evaluate : LiveEvaluator) :
    (s.withDirectives evaluate).ExpandsTo = s.ExpandsTo := by
  funext changes inside directive
  rw [ExpandsTo, ExpandsTo, expand_withDirectives]

/-- Rendering that changes no list edits the flags by the directives in the brackets. -/
theorem exists_edits {evaluate : LiveEvaluator} {template text : Text} {sheet last : Sheet}
    (h : (s.withDirectives evaluate).render template sheet = .ok text last)
    (hkeeps : last.changes = sheet.changes) :
    ∃ directives, List.Forall₂ (s.ExpandsTo sheet.changes)
        ((Template.tokens template).filterMap Token.inside?) directives ∧
      Directive.Edits sheet.flags (directives.map Directive.ofText) last.flags := by
  obtain ⟨directives, hdirectives⟩ := exists_directiveTexts rfl h
  have hexpands := handAll_of_directiveTexts rfl (handles_withDirectives s evaluate) hdirectives
    hkeeps
  rw [expandsTo_withDirectives] at hexpands
  exact ⟨directives, hexpands.1, edits_of_directiveTexts hdirectives⟩

/-- A template with directives in a branch that stays open. -/
def openTemplate : Text :=
  List.flatMap Token.source [
    .bracket "if:ci", .letter (.char 'a'), .bracket "skip:docs",
    .bracket ("file:" ++ (Token.placeholder "name").source), .bracket "perm:755"]

/-- A template that takes an author away in a branch, and behind it names the output after all. -/
def poppingTemplate : Text :=
  List.flatMap Token.source [
    .bracket "if:ci:x", .placeholder "project.authors.pop", .bracket "fi",
    .bracket ("file:" ++ (Token.placeholder "project.authors").source)]

end Setting

end Scaffold
