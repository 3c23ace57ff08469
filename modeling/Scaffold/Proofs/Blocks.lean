import Scaffold.Proofs.Roles

/-!
Templates as trees. A block is opened by a bracket; its branches are separated by brackets that
change its condition, and it is closed by a bracket or stays open up to the end of the template.
-/

namespace Scaffold

/-- A bracket with a role, in whose word no placeholder stands. -/
structure Bracket (role : Role) where
  inside : Text
  literalHead : Token.literalHead (Template.tokens (Template.core inside)) = true
  role_eq : (Directive.ofText (Template.core inside)).role = role

mutual

/-- A part of a template; `closed` says whether all of its blocks are. -/
inductive Items : (closed : Bool) → Type where
  | nil : Items true
  | letter {closed : Bool} (c : Letter) (rest : Items closed) : Items closed
  | placeholder {closed : Bool} (inside : Text) (rest : Items closed) : Items closed
  | directive {closed : Bool} (bracket : Bracket .keeps) (rest : Items closed) : Items closed
  | block {closed : Bool} (opening : Bracket .opens) (first : Branch true true)
      (rest : Items closed) : Items closed
  | unclosed (opening : Bracket .opens) (first : Branch true false) : Items false

/-- A branch with the rest of its block; `continues` says whether other branches may follow. -/
inductive Branch : (continues closed : Bool) → Type where
  | last {continues : Bool} (body : Items true) (closing : Bracket .closes) : Branch continues true
  | unclosed {continues closed : Bool} (body : Items closed) : Branch continues false
  | alternative {closed : Bool} (body : Items true) (bracket : Bracket .alternates)
      (next : Branch true closed) : Branch true closed
  | otherwise {closed : Bool} (body : Items true) (bracket : Bracket .inverts)
      (next : Branch false closed) : Branch true closed

end

namespace Bracket

variable {role : Role}

/-- A bracket as a token. -/
def token (bracket : Bracket role) : Token := .bracket bracket.inside

/-- A bracket with its placeholders replaced. -/
def expand (bracket : Bracket role) (s : Setting) : Looking Text :=
  s.expand (Template.core bracket.inside)

/-- Applies the directive in a bracket. -/
def apply (bracket : Bracket role) (s : Setting) (evaluate : LiveEvaluator) : Rendering Unit := do
  let directive ← bracket.expand s
  (Directive.ofText directive).apply (evaluate (← get).changes)

/-- Whether the condition in a bracket holds. -/
def condition (bracket : Bracket role) (s : Setting) (evaluate : LiveEvaluator) : Rendering Bool := do
  let directive ← bracket.expand s
  evaluate (← get).changes (Directive.arguments directive)

end Bracket

mutual

/-- The tokens of a part. -/
def Items.tokens {closed : Bool} : Items closed → List Token
  | .nil => []
  | .letter c rest => .letter c :: rest.tokens
  | .placeholder inside rest => .placeholder inside :: rest.tokens
  | .directive bracket rest => bracket.token :: rest.tokens
  | .block opening first rest => opening.token :: (first.tokens ++ rest.tokens)
  | .unclosed opening first => opening.token :: first.tokens

/-- The tokens of a branch and the rest of its block. -/
def Branch.tokens {continues closed : Bool} : Branch continues closed → List Token
  | .last body closing => body.tokens ++ [closing.token]
  | .unclosed body => body.tokens
  | .alternative body bracket next => body.tokens ++ bracket.token :: next.tokens
  | .otherwise body bracket next => body.tokens ++ bracket.token :: next.tokens

end

mutual

/-- The text of a part, which is `active` if all branches around it are taken. -/
def Items.interpret {closed : Bool} (s : Setting) (evaluate : LiveEvaluator) (active : Bool) :
    Items closed → Rendering Text
  | .nil => pure []
  | .letter c rest => do
      let more ← rest.interpret s evaluate active
      pure (if active then c :: more else more)
  | .placeholder inside rest => do
      let first ← (if active then liftM (s.substitute inside) else pure [])
      let more ← rest.interpret s evaluate active
      pure (first ++ more)
  | .directive bracket rest => do
      bracket.apply s evaluate
      rest.interpret s evaluate active
  | .block opening first rest => do
      let holds ← opening.condition s evaluate
      let text ← first.interpret s evaluate active holds
      let more ← rest.interpret s evaluate active
      pure (text ++ more)
  | .unclosed opening first => do
      let holds ← opening.condition s evaluate
      first.interpret s evaluate active holds

/-- The text of a branch whose condition `holds` or not, and of the rest of its block. -/
def Branch.interpret {continues closed : Bool} (s : Setting) (evaluate : LiveEvaluator)
    (active holds : Bool) : Branch continues closed → Rendering Text
  | .last body _ => body.interpret s evaluate (active && holds)
  | .unclosed body => body.interpret s evaluate (active && holds)
  | .alternative body bracket next => do
      let text ← body.interpret s evaluate (active && holds)
      let holds ← bracket.condition s evaluate
      let more ← next.interpret s evaluate active holds
      pure (text ++ more)
  | .otherwise body _ next => do
      let text ← body.interpret s evaluate (active && holds)
      let more ← next.interpret s evaluate active (!holds)
      pure (text ++ more)

end

end Scaffold
