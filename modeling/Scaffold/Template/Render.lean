import Scaffold.Flags.Directive
import Scaffold.Focus
import Scaffold.Template
import Scaffold.Template.Filter
import Scaffold.Value.Lookup

/-!
Rendering of templates. Placeholders are replaced by values of a context, brackets by what their
handler makes of them. While an open branch suppresses text only the brackets have an effect.
-/

namespace Scaffold

/-- What becomes of a placeholder without a value. -/
inductive MissingPolicy where
  /-- It stays as it is. -/
  | keep
  /-- It vanishes. -/
  | empty
  /-- Rendering fails. -/
  | error
  deriving DecidableEq

/-- The policy of that name. -/
def MissingPolicy.ofText (name : Text) : Except Failure MissingPolicy :=
  if name = "keep" then .ok .keep
  else if name = "empty" then .ok .empty
  else if name = "error" then .ok .error
  else .error (.misuse .unknownPolicy)

/-- Looking up changes nothing on a sheet but lists. -/
instance : MonadLift Looking Rendering where
  monadLift := focus Sheet.changes fun sheet changes => { sheet with changes := changes }

/-- How a template is rendered. -/
structure Setting where
  /-- The values of placeholders before all changes. -/
  context : Entries Value
  /-- What becomes of a placeholder without a value. -/
  missing : MissingPolicy := .keep
  /-- What takes the place of a bracket, if not the bracket itself. -/
  handler : Option (Text → Rendering Text) := none
  /-- Whether the open branches of the flags suppress text. -/
  heedsFrames : Bool := true
  /-- Whether rendering may be postponed because a value is not available yet. -/
  postpone : Bool := false
  /-- The filters. -/
  filters : Filters := Filter.standard

namespace Setting

/-- The key and the names of the filters in a placeholder. -/
def parts (inside : Text) : List Text :=
  (((Template.core inside).splitOn (.char '|')).map Text.strip).filter (· ≠ [])

/-- How a failure to look a key up is reported. That a value is still to come is a fault of the
template unless rendering may be postponed. -/
def reported (s : Setting) (key : Text) (failure : Failure) : Failure :=
  if failure = .foreign .postponed ∧ !s.postpone then .template (.postponedTwice key) else failure

/-- What takes the place of a placeholder whose key leads to a value, or to nothing. -/
def inserted (s : Setting) (inside key : Text) (names : List Text) :
    Option Value → Except Failure Text
  | some v => (Filter.applyAll s.filters v names).map Value.inserted
  | none =>
      match s.missing with
      | .keep => .ok (Token.placeholder inside).source
      | .empty => .ok []
      | .error => .error (.template (.missingValue key))

/-- The text that takes the place of a placeholder. -/
def substitute (s : Setting) (inside : Text) : Looking Text :=
  match parts inside with
  | [] => pure (Token.placeholder inside).source
  | key :: names => do
      let found ← mapFailure (s.reported key) (Value.lookup s.context key)
      s.inserted inside key names found

/-- The text of one token of a directive. -/
def expandToken (s : Setting) : Token → Looking Text
  | .placeholder inside => s.substitute inside
  | token => pure token.source

/-- The texts of the tokens one after the other. -/
def expandTokens (s : Setting) : List Token → Looking Text
  | [] => pure []
  | token :: rest => do
      let first ← s.expandToken token
      let more ← s.expandTokens rest
      pure (first ++ more)

/-- A directive with its placeholders replaced. -/
def expand (s : Setting) (directive : Text) : Looking Text :=
  s.expandTokens (Template.tokens directive)

/-- Whether text is suppressed. -/
def suppresses (s : Setting) (flags : FileFlags) : Bool := s.heedsFrames && flags.suppressed

/-- A text unless it is suppressed. -/
def emit (s : Setting) (t : Text) : Rendering Text := do
  if s.suppresses (← get).flags then pure [] else pure t

/-- Renders a token. -/
def renderToken (s : Setting) : Token → Rendering Text
  | .letter c => s.emit [c]
  | .placeholder inside => do
      if s.suppresses (← get).flags then pure [] else s.substitute inside
  | .bracket inside =>
      match s.handler with
      | none => s.emit (Token.bracket inside).source
      | some handle => do
          let directive ← s.expand (Template.core inside)
          s.emit (← handle directive)

/-- Renders tokens one after the other. -/
def renderTokens (s : Setting) : List Token → Rendering Text
  | [] => pure []
  | token :: rest => do
      let first ← s.renderToken token
      let more ← s.renderTokens rest
      pure (first ++ more)

/-- Renders a template. -/
def render (s : Setting) (template : Text) : Rendering Text :=
  s.renderTokens (Template.tokens template)

end Setting

/-- The handler that applies directives, which leave no text. -/
def Directive.handler (evaluate : LiveEvaluator) (directive : Text) : Rendering Text := do
  (Directive.ofText directive).apply (evaluate (← get).changes)
  pure []

end Scaffold
