import Scaffold.Proofs.Nesting

/-!
What templates with blocks mean. Rendering scans the tokens once and keeps one entry for each open
branch; a tree is interpreted branch by branch. Both give the same.
-/

namespace Scaffold

/-- A sheet without the open branches. -/
def Sheet.fresh (sheet : Sheet) : Sheet := { sheet with flags := sheet.flags.fresh }

/-- A sheet with these open branches. -/
def Sheet.withFrames (sheet : Sheet) (frames : List Bool) : Sheet :=
  { sheet with flags := { sheet.flags with frames := frames } }

/-- Whether no open branch suppresses text. -/
def active (frames : List Bool) : Bool := !frames.any id

@[simp] theorem active_cons_not (holds : Bool) (frames : List Bool) :
    active ((!holds) :: frames) = (active frames && holds) := by
  cases holds <;> simp [active]

namespace Rendering

variable {α β γ δ : Type}

/-- The results of rendering with open branches and without them agree: both fail in the same way
or neither does, and the sheets differ only in the open branches. -/
inductive Agrees (R : α → β → List Bool → Prop) :
    EStateM.Result Failure Sheet α → EStateM.Result Failure Sheet β → Prop where
  | ok {a : α} {b : β} {sheet : Sheet} (h : R a b sheet.flags.frames) :
      Agrees R (.ok a sheet) (.ok b sheet.fresh)
  | error {failure : Failure} {sheet : Sheet} :
      Agrees R (.error failure sheet) (.error failure sheet.fresh)

/-- Both texts are the same, and the open branches have a property. -/
def Same (P : List Bool → Prop) (text other : Text) (frames : List Bool) : Prop :=
  text = other ∧ P frames

namespace Agrees

variable {R : α → β → List Bool → Prop} {Q : γ → δ → List Bool → Prop}

theorem bind {x : Rendering α} {y : Rendering β} {f : α → Rendering γ} {g : β → Rendering δ}
    {sheet : Sheet} (hx : Agrees R (x sheet) (y sheet.fresh))
    (hf : ∀ {a b next}, R a b next.flags.frames → Agrees Q (f a next) (g b next.fresh)) :
    Agrees Q ((x >>= f) sheet) ((y >>= g) sheet.fresh) := by
  rw [Step.bind_apply, Step.bind_apply]
  generalize x sheet = left at hx ⊢
  generalize y sheet.fresh = right at hx ⊢
  cases hx with
  | ok h => exact hf h
  | error => exact error

theorem imp {R' : α → β → List Bool → Prop} {x : EStateM.Result Failure Sheet α}
    {y : EStateM.Result Failure Sheet β} (h : Agrees R x y)
    (himp : ∀ {a b frames}, R a b frames → R' a b frames) : Agrees R' x y := by
  cases h with
  | ok h => exact ok (himp h)
  | error => exact error

theorem append {x x' y y' : Rendering Text} {sheet : Sheet} {P P' : List Bool → Prop}
    (hx : Agrees (Same P) (x sheet) (y sheet.fresh))
    (hx' : ∀ {next : Sheet}, P next.flags.frames → Agrees (Same P') (x' next) (y' next.fresh)) :
    Agrees (Same P')
      ((do let first ← x; let more ← x'; pure (first ++ more) : Rendering Text) sheet)
      ((do let first ← y; let more ← y'; pure (first ++ more) : Rendering Text) sheet.fresh) := by
  refine hx.bind ?_
  rintro first _ next ⟨rfl, hframes⟩
  refine (hx' hframes).bind ?_
  rintro more _ last ⟨rfl, hlast⟩
  exact ok ⟨rfl, hlast⟩

end Agrees

end Rendering

open Rendering (Agrees Same)

namespace Directive

variable (evaluate : Evaluator) (condition : List Text) {sheet : Sheet} {frame : Bool}
  {outer : List Bool}

theorem apply_branch (sheet : Sheet) :
    (branch condition).apply evaluate sheet =
      match evaluate condition with
      | .ok holds => .ok () (sheet.withFrames ((!holds) :: sheet.flags.frames))
      | .error failure => .error failure sheet := by
  rw [apply_eq, edit]
  cases evaluate condition <;> simp [Except.map, warnings, Sheet.withFrames]

theorem apply_alternative (hframes : sheet.flags.frames = frame :: outer) :
    (alternative condition).apply evaluate sheet =
      match evaluate condition with
      | .ok holds => .ok () (sheet.withFrames ((!holds) :: outer))
      | .error failure => .error failure sheet := by
  rw [apply_eq, edit, changeInnermost, hframes]
  cases evaluate condition <;> simp [Except.map, warnings, Sheet.withFrames]

theorem apply_otherwise (hframes : sheet.flags.frames = frame :: outer) :
    otherwise.apply evaluate sheet = .ok () (sheet.withFrames ((!frame) :: outer)) := by
  rw [apply_eq, edit, changeInnermost, hframes]
  simp [Except.map, warnings, Sheet.withFrames]

theorem apply_close (hframes : sheet.flags.frames = frame :: outer) :
    close.apply evaluate sheet = .ok () (sheet.withFrames outer) := by
  rw [apply_eq, edit, changeInnermost, hframes]
  simp [Except.map, warnings, Sheet.withFrames]

end Directive

namespace Bracket

variable {role : Role} (s : Setting) (evaluate : LiveEvaluator)

theorem apply_eq (bracket : Bracket role) (sheet : Sheet) :
    bracket.apply s evaluate sheet =
      match bracket.expand s sheet.changes with
      | .ok directive changes =>
          (Directive.ofText directive).apply (evaluate changes) { sheet with changes := changes }
      | .error failure changes => .error failure { sheet with changes := changes } := by
  rw [apply, Step.bind_apply, Rendering.looking_apply]
  cases bracket.expand s sheet.changes <;> rfl

theorem role_ofText {bracket : Bracket role} {s : Setting} {directive : Text}
    {changes after : Changes} (h : bracket.expand s changes = .ok directive after) :
    (Directive.ofText directive).role = role :=
  (s.role_of_expand bracket.literalHead h).trans bracket.role_eq

theorem agrees_keeps (bracket : Bracket .keeps) (sheet : Sheet) :
    Agrees (fun _ _ frames => frames = sheet.flags.frames)
      (bracket.apply s evaluate sheet) (bracket.apply s evaluate sheet.fresh) := by
  rw [apply_eq, apply_eq, show sheet.fresh.changes = sheet.changes from rfl]
  cases hexpand : bracket.expand s sheet.changes with
  | error failure changes => exact Agrees.error
  | ok directive changes =>
      have hrole := role_ofText hexpand
      have hfresh : (Directive.ofText directive).edit (evaluate changes) sheet.fresh.flags = _ :=
        Directive.edit_of_keeps hrole (evaluate changes) (evaluate changes) sheet.flags []
      dsimp only
      rw [Directive.apply_eq, Directive.apply_eq, hfresh]
      cases hedit : (Directive.ofText directive).edit (evaluate changes) sheet.flags with
      | error failure => exact Agrees.error
      | ok changed => exact Agrees.ok (Directive.frames_edit_of_keeps hrole hedit)

theorem condition_eq (bracket : Bracket role) (sheet : Sheet) :
    bracket.condition s evaluate sheet =
      match bracket.expand s sheet.changes with
      | .ok directive changes =>
          (liftM (evaluate changes (Directive.arguments directive)) : Rendering Bool)
            { sheet with changes := changes }
      | .error failure changes => .error failure { sheet with changes := changes } := by
  rw [condition, Step.bind_apply, Rendering.looking_apply]
  cases bracket.expand s sheet.changes <;> rfl

theorem agrees_condition (bracket : Bracket role) {sheet : Sheet} {outer : List Bool}
    (happly : ∀ directive changes, bracket.expand s sheet.changes = .ok directive changes →
      (Directive.ofText directive).apply (evaluate changes) { sheet with changes := changes } =
        match evaluate changes (Directive.arguments directive) with
        | .ok holds =>
            .ok () (Sheet.withFrames { sheet with changes := changes } ((!holds) :: outer))
        | .error failure => .error failure { sheet with changes := changes }) :
    Agrees (fun _ holds frames => frames = (!holds) :: outer)
      (bracket.apply s evaluate sheet) (bracket.condition s evaluate sheet.fresh) := by
  rw [apply_eq, condition_eq, show sheet.fresh.changes = sheet.changes from rfl]
  cases hexpand : bracket.expand s sheet.changes with
  | error failure changes => exact Agrees.error
  | ok directive changes =>
      dsimp only
      rw [happly directive changes hexpand, Step.lift_apply]
      cases evaluate changes (Directive.arguments directive) with
      | error failure => exact Agrees.error
      | ok holds => exact Agrees.ok rfl

theorem agrees_opens (bracket : Bracket .opens) (sheet : Sheet) :
    Agrees (fun _ holds frames => frames = (!holds) :: sheet.flags.frames)
      (bracket.apply s evaluate sheet) (bracket.condition s evaluate sheet.fresh) := by
  refine bracket.agrees_condition s evaluate fun directive changes hexpand => ?_
  rw [Directive.ofText_of_opens (role_ofText hexpand), Directive.apply_branch]

theorem agrees_alternates (bracket : Bracket .alternates) {sheet : Sheet} {frame : Bool}
    {outer : List Bool} (hframes : sheet.flags.frames = frame :: outer) :
    Agrees (fun _ holds frames => frames = (!holds) :: outer)
      (bracket.apply s evaluate sheet) (bracket.condition s evaluate sheet.fresh) := by
  refine bracket.agrees_condition s evaluate fun directive changes hexpand => ?_
  rw [Directive.ofText_of_alternates (role_ofText hexpand)]
  exact Directive.apply_alternative _ _ hframes

theorem expand_of_bare (bracket : Bracket role) (hrole : role = .inverts ∨ role = .closes) :
    bracket.expand s = pure (Template.core bracket.inside) := by
  have h := bracket.role_eq
  rw [Directive.role_ofText] at h
  have hbare : Letter.char ':' ∉ Template.core bracket.inside := by
    rcases hrole with rfl | rfl
    · simpa using Role.bare_of_inverts h
    · simpa using Role.bare_of_closes h
  exact s.expand_of_bare bracket.literalHead hbare

theorem apply_inverts (bracket : Bracket .inverts) {sheet : Sheet} {frame : Bool}
    {outer : List Bool} (hframes : sheet.flags.frames = frame :: outer) :
    bracket.apply s evaluate sheet = .ok () (sheet.withFrames ((!frame) :: outer)) := by
  rw [apply_eq, bracket.expand_of_bare s (Or.inl rfl)]
  change (Directive.ofText (Template.core bracket.inside)).apply _ sheet = _
  rw [Directive.eq_otherwise_of_role bracket.role_eq, Directive.apply_otherwise _ hframes]

theorem apply_closes (bracket : Bracket .closes) {sheet : Sheet} {frame : Bool}
    {outer : List Bool} (hframes : sheet.flags.frames = frame :: outer) :
    bracket.apply s evaluate sheet = .ok () (sheet.withFrames outer) := by
  rw [apply_eq, bracket.expand_of_bare s (Or.inr rfl)]
  change (Directive.ofText (Template.core bracket.inside)).apply _ sheet = _
  rw [Directive.eq_close_of_role bracket.role_eq, Directive.apply_close _ hframes]

end Bracket

namespace Setting

variable (s : Setting) (evaluate : LiveEvaluator)

theorem renderTokens_bracket {role : Role} (bracket : Bracket role) (rest : List Token) :
    (s.withDirectives evaluate).renderTokens (bracket.token :: rest) =
      (do
        bracket.apply s evaluate
        (s.withDirectives evaluate).renderTokens rest) := by
  rw [renderTokens, Bracket.token, renderToken_bracket]
  simp [Bracket.apply, Bracket.expand, Directive.handler]

/-- The open branches are those around a part, if all blocks in it are closed. -/
def Leaves (closed : Bool) (outer frames : List Bool) : Prop := closed = true → frames = outer

theorem suppressed_eq {sheet : Sheet} {outer : List Bool} (hframes : sheet.flags.frames = outer) :
    sheet.flags.suppressed = !active outer := by
  rw [FileFlags.suppressed, hframes, active, Bool.not_not]

theorem agrees_placeholder (inside : Text) {sheet : Sheet} {outer : List Bool}
    (hframes : sheet.flags.frames = outer) :
    Agrees (Same (· = outer)) ((s.withDirectives evaluate).renderToken (.placeholder inside) sheet)
      ((if active outer then liftM (s.substitute inside) else pure [] : Rendering Text)
        sheet.fresh) := by
  rw [renderToken_placeholder, suppressed_eq hframes]
  cases active outer with
  | false => exact Agrees.ok ⟨rfl, hframes⟩
  | true =>
      simp only [Bool.not_true, Bool.false_eq_true, if_false, if_true, Rendering.looking_apply]
      rw [show sheet.fresh.changes = sheet.changes from rfl]
      cases s.substitute inside sheet.changes with
      | error failure changes => exact Agrees.error
      | ok text changes => exact Agrees.ok ⟨rfl, hframes⟩

mutual

-- By induction on the tree. The scan keeps of every branch it is in the negated condition, in front
-- of the entries of the branches around it, so `active` of the entries is what the tree is told.
theorem agrees_items {closed : Bool} (items : Items closed) {sheet : Sheet} {outer : List Bool}
    (hframes : sheet.flags.frames = outer) :
    Agrees (Same (Leaves closed outer))
      ((s.withDirectives evaluate).renderTokens items.tokens sheet)
      (items.interpret s evaluate (active outer) sheet.fresh) := by
  match items with
  | .nil => exact Agrees.ok ⟨rfl, fun _ => hframes⟩
  | .letter c rest =>
      rw [Items.tokens, Items.interpret, renderTokens, Step.bind_apply, renderToken_letter,
        suppressed_eq hframes]
      refine (agrees_items rest hframes).bind ?_
      rintro more _ next ⟨rfl, hnext⟩
      cases active outer with
      | false => exact Agrees.ok ⟨rfl, hnext⟩
      | true => exact Agrees.ok ⟨rfl, hnext⟩
  | .placeholder inside rest =>
      rw [Items.tokens, Items.interpret, renderTokens]
      exact (s.agrees_placeholder evaluate inside hframes).append (agrees_items rest)
  | .directive bracket rest =>
      rw [Items.tokens, Items.interpret, renderTokens_bracket]
      refine (bracket.agrees_keeps s evaluate sheet).bind fun hnext => ?_
      exact agrees_items rest (hnext.trans hframes)
  | .block opening first rest =>
      rw [Items.tokens, Items.interpret, renderTokens_bracket, renderTokens_append]
      refine (opening.agrees_opens s evaluate sheet).bind fun hnext => ?_
      rw [hframes] at hnext
      exact (agrees_branch first hnext).append fun hlast => agrees_items rest (hlast rfl)
  | .unclosed opening first =>
      rw [Items.tokens, Items.interpret, renderTokens_bracket]
      refine (opening.agrees_opens s evaluate sheet).bind fun hnext => ?_
      rw [hframes] at hnext
      exact agrees_branch first hnext

theorem agrees_branch {continues closed : Bool} (branch : Branch continues closed) {sheet : Sheet}
    {outer : List Bool} {holds : Bool} (hframes : sheet.flags.frames = (!holds) :: outer) :
    Agrees (Same (Leaves closed outer))
      ((s.withDirectives evaluate).renderTokens branch.tokens sheet)
      (branch.interpret s evaluate (active outer) holds sheet.fresh) := by
  match branch with
  | .last body closing =>
      -- The closing bracket leaves no text.
      rw [Branch.tokens, Branch.interpret, renderTokens_append, ← active_cons_not,
        ← bind_pure (body.interpret _ _ _)]
      refine (agrees_items body hframes).bind ?_
      rintro text _ next ⟨rfl, hnext⟩
      rw [renderTokens_bracket, Step.bind_apply, Step.bind_apply,
        closing.apply_closes s evaluate (hnext rfl)]
      exact Agrees.ok ⟨List.append_nil text, fun _ => rfl⟩
  | .unclosed body =>
      rw [Branch.tokens, Branch.interpret, ← active_cons_not]
      exact (agrees_items body hframes).imp fun hsame => ⟨hsame.1, fun h => nomatch h⟩
  | .alternative body bracket next =>
      rw [Branch.tokens, Branch.interpret, renderTokens_append, renderTokens_bracket,
        ← active_cons_not]
      simp only [bind_assoc]
      refine (agrees_items body hframes).bind ?_
      rintro text _ middle ⟨rfl, hmiddle⟩
      refine (bracket.agrees_alternates s evaluate (hmiddle rfl)).bind fun hnext => ?_
      refine (agrees_branch next hnext).bind ?_
      rintro more _ last ⟨rfl, hlast⟩
      exact Agrees.ok ⟨rfl, hlast⟩
  | .otherwise body bracket next =>
      -- The bracket negates the entry of the branch before it, whatever its condition came from.
      rw [Branch.tokens, Branch.interpret, renderTokens_append, renderTokens_bracket,
        ← active_cons_not]
      refine (agrees_items body hframes).append fun hnext => ?_
      rw [Step.bind_apply, bracket.apply_inverts s evaluate (hnext rfl)]
      exact agrees_branch next rfl

end

end Setting

/-- A result of rendering without the branches that stay open. -/
def Rendering.forget {α : Type} :
    EStateM.Result Failure Sheet α → EStateM.Result Failure Sheet α
  | .ok a sheet => .ok a sheet.fresh
  | .error failure sheet => .error failure sheet.fresh

theorem Rendering.Agrees.forget_eq {α : Type} {P : List Bool → Prop}
    {x y : EStateM.Result Failure Sheet α} (h : Agrees (fun a b frames => a = b ∧ P frames) x y) :
    forget x = y ∧ ∀ {a sheet}, x = .ok a sheet → P sheet.flags.frames := by
  cases h with
  | ok h =>
      obtain ⟨rfl, hframes⟩ := h
      refine ⟨rfl, ?_⟩
      rintro _ _ ⟨⟩
      exact hframes
  | error => exact ⟨rfl, fun h => nomatch h⟩

/-- The meaning of blocks. A template whose brackets nest and whose words are literal is a tree, and
rendering it gives what the tree means: the same text or failure, and the same flags and warnings.
If all blocks are closed, no branch is open at the end. -/
theorem Template.render_eq_interpret {template : Text}
    (hnest : Token.nest [] (tokens template) = true)
    (hheads : ∀ token ∈ tokens template, token.hasLiteralHead = true) :
    (∃ closed, ∃ items : Items closed, items.tokens = tokens template) ∧
      ∀ (closed : Bool) (items : Items closed), items.tokens = tokens template →
        ∀ (s : Setting) (evaluate : LiveEvaluator) (sheet : Sheet), sheet.flags.frames = [] →
          Rendering.forget ((s.withDirectives evaluate).render template sheet) =
              items.interpret s evaluate true sheet ∧
            (closed = true → ∀ text last,
              (s.withDirectives evaluate).render template sheet = .ok text last →
                last.flags.frames = []) := by
  refine ⟨(Token.nest_iff_exists_items hheads).mp hnest, ?_⟩
  intro closed items htokens s evaluate sheet hframes
  have hfresh : sheet.fresh = sheet := by
    change sheet.withFrames [] = sheet
    rw [← hframes]
    rfl
  have hagrees := s.agrees_items evaluate items hframes
  rw [hfresh, htokens] at hagrees
  obtain ⟨hsame, hleaves⟩ := hagrees.forget_eq
  exact ⟨hsame, fun hclosed text last hok => hleaves hok hclosed⟩

/-- A template with a block inside of a branch, an inverted branch, and a block that stays open. -/
def Template.nested : Text :=
  List.flatMap Token.source [
    .bracket "if:ci", .letter (.char 'a'), .bracket "if:docs", .placeholder "name", .bracket "fi",
    .bracket "else", .letter (.char 'b'), .bracket "fi", .bracket "if:x", .letter (.char 'c')]

theorem Template.render_eq_interpret_nested :
    ∃ closed, ∃ items : Items closed, items.tokens = tokens nested ∧
      ∀ (s : Setting) (evaluate : LiveEvaluator) (sheet : Sheet), sheet.flags.frames = [] →
        Rendering.forget ((s.withDirectives evaluate).render nested sheet) =
          items.interpret s evaluate true sheet := by
  have hnest : Token.nest [] (tokens nested) = true := by decide +kernel
  have hheads : ∀ token ∈ tokens nested, token.hasLiteralHead = true := by decide +kernel
  obtain ⟨⟨closed, items, htokens⟩, h⟩ := render_eq_interpret hnest hheads
  exact ⟨closed, items, htokens, fun s evaluate sheet hframes =>
    (h closed items htokens s evaluate sheet hframes).1⟩

end Scaffold
