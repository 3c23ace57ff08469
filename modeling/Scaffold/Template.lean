import Scaffold.Text.Blank

/-!
Templates. A template is a sequence of tokens: placeholders `{{ … }}`, brackets `{% … %}` and the
letters between them. The inside of a placeholder holds no brace; that of a bracket holds braces
only in groups that look like placeholders, and the percent sign only in such groups. What does not
fit these forms is read as letters.
-/

namespace Scaffold

/-- A token of a template. -/
inductive Token where
  /-- A letter that belongs to no markup. -/
  | letter (c : Letter)
  /-- A placeholder with what stands between its braces. -/
  | placeholder (inside : Text)
  /-- A bracket with what stands between its ends. -/
  | bracket (inside : Text)
  deriving DecidableEq

namespace Token

/-- The part of a template that a token covers. -/
def source : Token → Text
  | letter c => [c]
  | placeholder inside =>
      [.char '{', .char '{'] ++ inside ++ [.char '}', .char '}']
  | bracket inside =>
      [.char '{', .char '%'] ++ inside ++ [.char '%', .char '}']

end Token

namespace Template

/-- Whether a letter is neither an opening nor a closing brace. -/
def isPlain (c : Letter) : Bool := c != .char '{' && c != .char '}'

/-- The inside of a placeholder, if the text is what follows its opening braces. -/
def placeholderInside? (t : Text) : Option Text :=
  let inside := t.takeWhile isPlain
  match t.dropWhile isPlain with
  | .char '}' :: .char '}' :: _ => if inside = [] then none else some inside
  | _ => none

/-- The inside of a bracket, if the text is what follows its opening end. `inGroup` says whether
the text starts inside of a group of double braces. -/
def bracketInside? : (inGroup : Bool) → Text → Option Text
  | false, .char '%' :: .char '}' :: _ => some []
  | false, .char '{' :: .char '{' :: rest =>
      (bracketInside? true rest).map ([.char '{', .char '{'] ++ ·)
  | true, .char '}' :: .char '}' :: rest =>
      (bracketInside? false rest).map ([.char '}', .char '}'] ++ ·)
  | inGroup, c :: rest =>
      if isPlain c ∧ (inGroup ∨ c ≠ .char '%') then (bracketInside? inGroup rest).map (c :: ·)
      else none
  | _, [] => none

/-- The placeholder or bracket that a text starts with. -/
def leadingMarkup? : Text → Option Token
  | .char '{' :: .char '{' :: rest => (placeholderInside? rest).map .placeholder
  | .char '{' :: .char '%' :: rest =>
      ((bracketInside? false rest).filter (· ≠ [])).map .bracket
  | _ => none

/-- The tokens of a text after its first `skipped` letters. -/
def tokensAfter : (skipped : Nat) → Text → List Token
  | _, [] => []
  | skipped + 1, _ :: rest => tokensAfter skipped rest
  | 0, c :: rest =>
      match leadingMarkup? (c :: rest) with
      | some token => token :: tokensAfter (token.source.length - 1) rest
      | none => .letter c :: tokensAfter 0 rest

/-- The tokens of a template. -/
def tokens (t : Text) : List Token := tokensAfter 0 t

/-- What the inside of a token says: the text without the blanks around it, and of a text that is
all blank the last letter. -/
def core (inside : Text) : Text :=
  match inside.strip with
  | [] => inside.getLast?.toList
  | c :: rest => c :: rest

end Template

end Scaffold
