import Scaffold.Proofs.Steps
import Scaffold.Template.Render

/-!
What rendering does with one token, when brackets are directives and the open branches suppress
text.
-/

namespace Scaffold

/-- What a directive may do to the open branches. -/
inductive Role where
  | opens
  | alternates
  | inverts
  | closes
  | keeps
  deriving DecidableEq

namespace Directive

/-- What a directive does to the open branches. -/
def role : Directive → Role
  | branch _ => .opens
  | alternative _ => .alternates
  | otherwise => .inverts
  | close => .closes
  | _ => .keeps

/-- What is reported when a directive has been applied. -/
def warnings : Directive → List Warning
  | unknown t => [.unknownDirective t]
  | _ => []

theorem apply_eq (evaluate : Evaluator) (directive : Directive) (sheet : Sheet) :
    directive.apply evaluate sheet =
      match directive.edit evaluate sheet.flags with
      | .ok flags =>
          .ok () { sheet with flags := flags, warnings := sheet.warnings ++ directive.warnings }
      | .error failure => .error failure sheet := by
  unfold apply
  rw [Step.get_bind, Step.bind_apply, Step.lift_apply]
  cases directive.edit evaluate sheet.flags with
  | error failure => rfl
  | ok flags =>
      cases directive with
      | unknown t => rfl
      | _ => simp only [warnings, List.append_nil]; rfl

theorem handler_apply (evaluate : LiveEvaluator) (t : Text) (sheet : Sheet) :
    handler evaluate t sheet = (do
      (ofText t).apply (evaluate sheet.changes)
      pure [] : Rendering Text) sheet := rfl

theorem handler_eq (evaluate : LiveEvaluator) (t : Text) (sheet : Sheet) :
    handler evaluate t sheet =
      match (ofText t).edit (evaluate sheet.changes) sheet.flags with
      | .ok flags =>
          .ok [] { sheet with
            flags := flags, warnings := sheet.warnings ++ (ofText t).warnings }
      | .error failure => .error failure sheet := by
  rw [handler_apply, Step.bind_apply, apply_eq]
  cases (ofText t).edit (evaluate sheet.changes) sheet.flags <;> rfl

/-- A directive leaves no text. -/
theorem handler_silent {evaluate : LiveEvaluator} {t answer : Text} {sheet next : Sheet}
    (h : handler evaluate t sheet = .ok answer next) : answer = [] := by
  rw [handler_apply] at h
  obtain ⟨_, _, -, hpure⟩ := Step.bind_eq_ok_iff.mp h
  cases hpure
  rfl

theorem edit_of_keeps {directive : Directive} (h : directive.role = .keeps)
    (evaluate other : Evaluator) (flags : FileFlags) (frames : List Bool) :
    directive.edit evaluate { flags with frames := frames } =
      (directive.edit other flags).map fun flags => { flags with frames := frames } := by
  cases directive with
  | branch | otherwise | alternative | close => cases h
  | permissions digits =>
      simp only [edit]
      cases Scaffold.permissions digits <;> rfl
  | _ => rfl

theorem frames_edit_of_keeps {directive : Directive} (h : directive.role = .keeps)
    {evaluate : Evaluator} {flags changed : FileFlags}
    (hedit : directive.edit evaluate flags = .ok changed) : changed.frames = flags.frames := by
  have hsame := edit_of_keeps h evaluate evaluate flags flags.frames
  rw [hedit] at hsame
  have hchanged : changed = { changed with frames := flags.frames } := Except.ok.inj hsame
  rw [hchanged]

end Directive

/-- Hands texts to a handler one after the other. -/
def handAll (handle : Text → Rendering Text) : List Text → Rendering Unit
  | [] => pure ()
  | directive :: rest => do
      let _ ← handle directive
      handAll handle rest

namespace Token

/-- The key that a token asks for. -/
def key? : Token → Option Text
  | placeholder inside => (Setting.parts inside).head?
  | _ => none

/-- Whether a token is a bracket. -/
def isBracket : Token → Bool
  | bracket _ => true
  | _ => false

/-- What stands in a token that is a bracket. -/
def inside? : Token → Option Text
  | bracket inside => some inside
  | _ => none

theorem inside?_of_not_bracket {token : Token} (h : token.isBracket = false) :
    token.inside? = none := by
  cases token with
  | bracket inside => cases h
  | _ => rfl

theorem exists_of_isBracket {token : Token} (h : token.isBracket = true) :
    ∃ inside, token = bracket inside := by
  cases token with
  | bracket inside => exact ⟨inside, rfl⟩
  | _ => cases h

theorem mem_of_mem_insides {inside : Text} {tokens : List Token}
    (h : inside ∈ tokens.filterMap inside?) : bracket inside ∈ tokens := by
  obtain ⟨token, hmem, htoken⟩ := List.mem_filterMap.mp h
  cases token with
  | bracket other =>
      cases htoken
      exact hmem
  | letter | placeholder => cases htoken

end Token

namespace Rendering

variable {α : Type} (x : Looking α) (sheet : Sheet)

theorem looking_apply :
    (liftM x : Rendering α) sheet =
      match x sheet.changes with
      | .ok a changes => .ok a { sheet with changes := changes }
      | .error failure changes => .error failure { sheet with changes := changes } := by
  cases h : x sheet.changes with
  | ok a changes => exact Step.focus_eq_ok_iff.mpr ⟨changes, h, rfl⟩
  | error failure changes => exact Step.focus_eq_error_iff.mpr ⟨changes, h, rfl⟩

variable {x sheet} {last : Sheet}

theorem looking_eq_ok_iff {a : α} :
    (liftM x : Rendering α) sheet = .ok a last ↔
      ∃ changes, x sheet.changes = .ok a changes ∧ { sheet with changes := changes } = last :=
  Step.focus_eq_ok_iff

theorem looking_eq_error_iff {failure : Failure} :
    (liftM x : Rendering α) sheet = .error failure last ↔
      ∃ changes, x sheet.changes = .error failure changes ∧
        { sheet with changes := changes } = last :=
  Step.focus_eq_error_iff

theorem looking_bind {β : Type} (x : Looking α) (f : α → Looking β) :
    (liftM (x >>= f) : Rendering β) = liftM x >>= fun a => liftM (f a) := by
  funext sheet
  rw [looking_apply, Step.bind_apply, Step.bind_apply, looking_apply]
  cases x sheet.changes with
  | ok a changes => exact (looking_apply (f a) { sheet with changes := changes }).symm
  | error failure changes => rfl

end Rendering

namespace Setting

section

variable (s : Setting)

theorem emit_apply (t : Text) (sheet : Sheet) :
    s.emit t sheet = .ok (if s.suppresses sheet.flags then [] else t) sheet := by
  rw [emit, Step.get_bind]
  split <;> rfl

theorem substitute_of_parts {inside key : Text} {names : List Text}
    (hparts : parts inside = key :: names) :
    s.substitute inside = (do
      let found ← mapFailure (s.reported key) (Value.lookup s.context key)
      s.inserted inside key names found) := by
  rw [substitute, hparts]

theorem expandToken_of_no_key {token : Token} (h : token.key? = none) :
    s.expandToken token = pure token.source := by
  cases token with
  | placeholder inside =>
      have hparts : parts inside = [] := List.head?_eq_none_iff.mp h
      rw [expandToken, substitute, hparts]
  | _ => rfl

theorem expandTokens_of_no_key {tokens : List Token} (h : ∀ token ∈ tokens, token.key? = none) :
    s.expandTokens tokens = pure (tokens.flatMap Token.source) := by
  induction tokens with
  | nil => rfl
  | cons token rest ih =>
      obtain ⟨htoken, hrest⟩ := List.forall_mem_cons.mp h
      rw [expandTokens, s.expandToken_of_no_key htoken, ih hrest]
      rfl

theorem expandTokens_letters (t : Text) (tokens : List Token) :
    s.expandTokens (t.map Token.letter ++ tokens) = (t ++ ·) <$> s.expandTokens tokens := by
  induction t with
  | nil => simp
  | cons c rest ih =>
      rw [List.map_cons, List.cons_append, expandTokens, ih]
      simp [expandToken, Token.source]

theorem renderTokens_append (first more : List Token) :
    s.renderTokens (first ++ more) =
      (do
        let text ← s.renderTokens first
        let rest ← s.renderTokens more
        pure (text ++ rest)) := by
  induction first with
  | nil => simp [renderTokens]
  | cons token first ih =>
      simp only [List.cons_append, renderTokens, ih, bind_assoc, pure_bind, List.append_assoc]

/-- What is no directive is inserted with its placeholders replaced, unless it is suppressed. -/
theorem renderToken_of_inserted {token : Token}
    (htoken : token.isBracket = false ∨ s.handler = none) (sheet : Sheet) :
    s.renderToken token sheet =
      if s.suppresses sheet.flags then .ok [] sheet
      else (liftM (s.expandToken token) : Rendering Text) sheet := by
  cases token with
  | letter c =>
      rw [renderToken, emit_apply]
      split <;> rfl
  | placeholder inside =>
      rw [renderToken, Step.get_bind]
      split <;> rfl
  | bracket inside =>
      have hnone : s.handler = none := htoken.resolve_left (by simp [Token.isBracket])
      have hemit : s.renderToken (.bracket inside) = s.emit (Token.bracket inside).source := by
        rw [renderToken, hnone]
      rw [hemit, emit_apply]
      split <;> rfl

theorem renderToken_inserted_eq_ok_iff {token : Token}
    (htoken : token.isBracket = false ∨ s.handler = none) {sheet last : Sheet} {text : Text} :
    s.renderToken token sheet = .ok text last ↔
      if s.suppresses sheet.flags then text = [] ∧ sheet = last
      else ∃ changes, s.expandToken token sheet.changes = .ok text changes ∧
        { sheet with changes := changes } = last := by
  rw [s.renderToken_of_inserted htoken]
  split
  · simp [eq_comm]
  · exact Rendering.looking_eq_ok_iff

theorem renderToken_of_handler {handle : Text → Rendering Text} (hhandler : s.handler = some handle)
    (inside : Text) :
    s.renderToken (.bracket inside) = (do
      let directive ← s.expand (Template.core inside)
      s.emit (← handle directive)) := by
  rw [renderToken, hhandler]

theorem renderToken_bracket_eq_ok_iff {handle : Text → Rendering Text}
    (hhandler : s.handler = some handle) {inside text : Text} {sheet last : Sheet} :
    s.renderToken (.bracket inside) sheet = .ok text last ↔
      ∃ directive changes answer,
        s.expand (Template.core inside) sheet.changes = .ok directive changes ∧
        handle directive { sheet with changes := changes } = .ok answer last ∧
        text = if s.suppresses last.flags then [] else answer := by
  rw [s.renderToken_of_handler hhandler, Step.bind_eq_ok_iff]
  constructor
  · rintro ⟨directive, _, hlift, hmore⟩
    obtain ⟨changes, hexpand, rfl⟩ := Rendering.looking_eq_ok_iff.mp hlift
    obtain ⟨answer, next, hhandle, hemit⟩ := Step.bind_eq_ok_iff.mp hmore
    rw [emit_apply] at hemit
    cases hemit
    exact ⟨directive, changes, answer, hexpand, hhandle, rfl⟩
  · rintro ⟨directive, changes, answer, hexpand, hhandle, rfl⟩
    refine ⟨directive, _, Rendering.looking_eq_ok_iff.mpr ⟨changes, hexpand, rfl⟩, ?_⟩
    rw [Step.bind_of_ok hhandle, emit_apply]

end

/-- Rendering with directives: brackets are directives, and the open branches suppress text. -/
def withDirectives (s : Setting) (evaluate : LiveEvaluator) : Setting :=
  { s with handler := some (Directive.handler evaluate), heedsFrames := true }

variable (s : Setting) (evaluate : LiveEvaluator)

@[simp] theorem substitute_withDirectives (inside : Text) :
    (s.withDirectives evaluate).substitute inside = s.substitute inside := rfl

@[simp] theorem suppresses_withDirectives (flags : FileFlags) :
    (s.withDirectives evaluate).suppresses flags = flags.suppressed :=
  Bool.true_and _

theorem expandTokens_withDirectives (tokens : List Token) :
    (s.withDirectives evaluate).expandTokens tokens = s.expandTokens tokens := by
  induction tokens with
  | nil => rfl
  | cons token rest ih =>
      simp only [expandTokens, ih]
      cases token <;> rfl

@[simp] theorem expand_withDirectives (directive : Text) :
    (s.withDirectives evaluate).expand directive = s.expand directive :=
  expandTokens_withDirectives s evaluate _

theorem renderToken_letter (c : Letter) (sheet : Sheet) :
    (s.withDirectives evaluate).renderToken (.letter c) sheet =
      .ok (if sheet.flags.suppressed then [] else [c]) sheet := by
  rw [renderToken, emit_apply, suppresses_withDirectives]

theorem renderToken_placeholder (inside : Text) (sheet : Sheet) :
    (s.withDirectives evaluate).renderToken (.placeholder inside) sheet =
      if sheet.flags.suppressed then .ok [] sheet
      else (liftM (s.substitute inside) : Rendering Text) sheet := by
  rw [renderToken_of_inserted _ (.inl rfl), suppresses_withDirectives]
  rfl

theorem renderToken_bracket (inside : Text) :
    (s.withDirectives evaluate).renderToken (.bracket inside) =
      (do
        let directive ← s.expand (Template.core inside)
        Directive.handler evaluate directive) := by
  have hemit : ∀ directive, (Directive.handler evaluate directive >>=
      (s.withDirectives evaluate).emit) = Directive.handler evaluate directive := by
    intro directive
    funext sheet
    rw [Step.bind_apply, Directive.handler_eq]
    cases (Directive.ofText directive).edit (evaluate sheet.changes) sheet.flags with
    | error failure => rfl
    | ok flags =>
        dsimp only
        rw [emit_apply]
        split <;> rfl
  change (liftM ((s.withDirectives evaluate).expand (Template.core inside)) >>= fun directive =>
    Directive.handler evaluate directive >>= (s.withDirectives evaluate).emit) = _
  rw [expand_withDirectives]
  simp only [hemit]

end Setting

end Scaffold
