import Scaffold.Proofs.Blocks

/-!
Which templates are trees. The brackets nest if a scan from left to right that remembers of each
open block whether other branches may follow meets none out of place.
-/

namespace Scaffold

namespace Token

/-- Whether the word of a bracket is literal. -/
def hasLiteralHead : Token → Bool
  | bracket inside => literalHead (Template.tokens (Template.core inside))
  | _ => true

/-- What a token does to the open branches. -/
def role : Token → Role
  | bracket inside => (Directive.ofText (Template.core inside)).role
  | _ => .keeps

/-- Whether brackets nest after blocks that are open; of each of these, the innermost first, it is
said whether other branches may follow. -/
@[simp] def nest : (continuing : List Bool) → List Token → Bool
  | _, [] => true
  | continuing, token :: rest =>
      match token.role, continuing with
      | .keeps, continuing => nest continuing rest
      | .opens, continuing => nest (true :: continuing) rest
      | .alternates, true :: outer => nest (true :: outer) rest
      | .inverts, true :: outer => nest (false :: outer) rest
      | .closes, _ :: outer => nest outer rest
      | _, _ => false

/-- Whether tokens can be read as branches of the open blocks and what follows these. -/
def Readable : (continuing : List Bool) → List Token → Prop
  | [], tokens => ∃ closed, ∃ items : Items closed, items.tokens = tokens
  | continues :: outer, tokens =>
      (∃ branch : Branch continues false, branch.tokens = tokens) ∨
        ∃ (branch : Branch continues true) (rest : List Token),
          branch.tokens ++ rest = tokens ∧ Readable outer rest

end Token

/-- A branch whose body has more in front. -/
def Branch.extend {continues closed : Bool} (more : {closed : Bool} → Items closed → Items closed) :
    Branch continues closed → Branch continues closed
  | .last body closing => .last (more body) closing
  | .unclosed body => .unclosed (more body)
  | .alternative body bracket next => .alternative (more body) bracket next
  | .otherwise body bracket next => .otherwise (more body) bracket next

theorem Branch.tokens_extend {continues closed : Bool}
    (more : {closed : Bool} → Items closed → Items closed) (front : List Token)
    (hmore : ∀ {closed} (items : Items closed), (more items).tokens = front ++ items.tokens)
    (branch : Branch continues closed) :
    (branch.extend more).tokens = front ++ branch.tokens := by
  cases branch <;> simp [extend, tokens, hmore]

namespace Token

theorem Readable.turn {continues other : Bool} {outer : List Bool} {tokens : List Token}
    (h : Readable (continues :: outer) tokens)
    (change : {closed : Bool} → Branch continues closed → Branch other closed) (front : List Token)
    (hchange : ∀ {closed} (branch : Branch continues closed),
      (change branch).tokens = front ++ branch.tokens) :
    Readable (other :: outer) (front ++ tokens) := by
  rcases h with ⟨branch, rfl⟩ | ⟨branch, rest, rfl, hrest⟩
  · exact Or.inl ⟨change branch, hchange branch⟩
  · refine Or.inr ⟨change branch, rest, ?_, hrest⟩
    rw [hchange, List.append_assoc]

theorem Readable.extend {continuing : List Bool} {tokens : List Token}
    (h : Readable continuing tokens) (more : {closed : Bool} → Items closed → Items closed)
    (front : List Token)
    (hmore : ∀ {closed} (items : Items closed), (more items).tokens = front ++ items.tokens) :
    Readable continuing (front ++ tokens) := by
  cases continuing with
  | nil =>
      obtain ⟨closed, items, rfl⟩ := h
      exact ⟨closed, more items, hmore items⟩
  | cons continues outer => exact h.turn (.extend more) front (Branch.tokens_extend more front hmore)

theorem Readable.open {continuing : List Bool} {tokens : List Token} (opening : Bracket .opens)
    (h : Readable (true :: continuing) tokens) :
    Readable continuing (opening.token :: tokens) := by
  rcases h with ⟨first, rfl⟩ | ⟨first, rest, rfl, hrest⟩
  · cases continuing with
    | nil => exact ⟨false, .unclosed opening first, rfl⟩
    | cons continues outer => exact Or.inl ⟨.unclosed (.unclosed opening first), rfl⟩
  · exact hrest.extend (.block opening first) (opening.token :: first.tokens) fun _ => rfl

/-- A bracket whose word is literal, as a bracket with a role. -/
def asBracket {role : Role} {inside : Text} (hhead : (bracket inside).hasLiteralHead = true)
    (hrole : (bracket inside).role = role) : Bracket role :=
  ⟨inside, hhead, hrole⟩

/-- Tokens whose brackets nest can be read. -/
theorem readable_of_nest {continuing : List Bool} {tokens : List Token}
    (hheads : ∀ token ∈ tokens, token.hasLiteralHead = true)
    (hnest : nest continuing tokens = true) : Readable continuing tokens := by
  -- What stands in front of a tree is put into it: a letter into the first body, a bracket that opens
  -- a block around the branch that was read after it, one between branches in front of the next.
  induction tokens generalizing continuing with
  | nil =>
      cases continuing with
      | nil => exact ⟨true, .nil, rfl⟩
      | cons continues outer => exact Or.inl ⟨.unclosed .nil, rfl⟩
  | cons token rest ih =>
      obtain ⟨hhead, hrest⟩ := List.forall_mem_cons.mp hheads
      cases token with
      | letter c => exact (ih hrest hnest).extend (.letter c) [.letter c] fun _ => rfl
      | placeholder inside =>
          exact (ih hrest hnest).extend (.placeholder inside) [.placeholder inside] fun _ => rfl
      | bracket inside =>
          cases hrole : (bracket inside).role with
          | keeps =>
              simp only [nest, hrole] at hnest
              exact (ih hrest hnest).extend (.directive (asBracket hhead hrole)) [bracket inside]
                fun _ => rfl
          | opens =>
              simp only [nest, hrole] at hnest
              exact Readable.open (asBracket hhead hrole) (ih hrest hnest)
          | alternates =>
              rcases continuing with _ | ⟨_ | _, outer⟩
              · simp [hrole] at hnest
              · simp [hrole] at hnest
              · simp only [nest, hrole] at hnest
                exact (ih hrest hnest).turn (.alternative .nil (asBracket hhead hrole))
                  [bracket inside] fun _ => rfl
          | inverts =>
              rcases continuing with _ | ⟨_ | _, outer⟩
              · simp [hrole] at hnest
              · simp [hrole] at hnest
              · simp only [nest, hrole] at hnest
                exact (ih hrest hnest).turn (.otherwise .nil (asBracket hhead hrole))
                  [bracket inside] fun _ => rfl
          | closes =>
              cases continuing with
              | nil => simp [hrole] at hnest
              | cons continues outer =>
                  simp only [nest, hrole] at hnest
                  exact Or.inr ⟨.last .nil (asBracket hhead hrole), rest, rfl, ih hrest hnest⟩

section

variable (continuing : List Bool) (rest : List Token)

theorem nest_keeps (bracket : Bracket .keeps) :
    nest continuing (bracket.token :: rest) = nest continuing rest := by
  simp only [nest, role, Bracket.token, bracket.role_eq]

theorem nest_opens (bracket : Bracket .opens) :
    nest continuing (bracket.token :: rest) = nest (true :: continuing) rest := by
  simp only [nest, role, Bracket.token, bracket.role_eq]

theorem nest_alternates (bracket : Bracket .alternates) :
    nest (true :: continuing) (bracket.token :: rest) = nest (true :: continuing) rest := by
  simp only [nest, role, Bracket.token, bracket.role_eq]

theorem nest_inverts (bracket : Bracket .inverts) :
    nest (true :: continuing) (bracket.token :: rest) = nest (false :: continuing) rest := by
  simp only [nest, role, Bracket.token, bracket.role_eq]

theorem nest_closes (bracket : Bracket .closes) (continues : Bool) :
    nest (continues :: continuing) (bracket.token :: rest) = nest continuing rest := by
  simp only [nest, role, Bracket.token, bracket.role_eq]

end

end Token

open Token (nest)

mutual

theorem Items.nest_tokens {closed : Bool} (items : Items closed) (continuing : List Bool)
    (rest : List Token) (hrest : closed = false → rest = []) :
    nest continuing (items.tokens ++ rest) = (!closed || nest continuing rest) := by
  match items with
  | .nil => rfl
  | .letter c more => exact Items.nest_tokens more continuing rest hrest
  | .placeholder inside more => exact Items.nest_tokens more continuing rest hrest
  | .directive bracket more =>
      rw [Items.tokens, List.cons_append, Token.nest_keeps]
      exact Items.nest_tokens more continuing rest hrest
  | .block opening first more =>
      rw [Items.tokens, List.cons_append, Token.nest_opens, List.append_assoc,
        Branch.nest_tokens first continuing _ (fun h => nomatch h)]
      exact Items.nest_tokens more continuing rest hrest
  | .unclosed opening first =>
      rw [Items.tokens, List.cons_append, Token.nest_opens]
      exact Branch.nest_tokens first continuing rest hrest

theorem Branch.nest_tokens {continues closed : Bool} (branch : Branch continues closed)
    (continuing : List Bool) (rest : List Token) (hrest : closed = false → rest = []) :
    nest (continues :: continuing) (branch.tokens ++ rest) = (!closed || nest continuing rest) := by
  match branch with
  | .last body closing =>
      rw [Branch.tokens, List.append_assoc, Items.nest_tokens body _ _ (fun h => nomatch h)]
      exact Token.nest_closes continuing rest closing continues
  | .unclosed body =>
      rw [hrest rfl, Branch.tokens, Items.nest_tokens body _ [] (fun _ => rfl)]
      exact Bool.or_true _
  | .alternative body bracket next =>
      rw [Branch.tokens, List.append_assoc, Items.nest_tokens body _ _ (fun h => nomatch h),
        List.cons_append, Token.nest_alternates]
      exact Branch.nest_tokens next continuing rest hrest
  | .otherwise body bracket next =>
      rw [Branch.tokens, List.append_assoc, Items.nest_tokens body _ _ (fun h => nomatch h),
        List.cons_append, Token.nest_inverts]
      exact Branch.nest_tokens next continuing rest hrest

end

/-- The trees are the templates whose brackets nest. -/
theorem Token.nest_iff_exists_items {tokens : List Token}
    (hheads : ∀ token ∈ tokens, token.hasLiteralHead = true) :
    nest [] tokens = true ↔ ∃ closed, ∃ items : Items closed, items.tokens = tokens := by
  constructor
  · exact readable_of_nest hheads
  · rintro ⟨closed, items, rfl⟩
    have hnest := items.nest_tokens [] [] (fun _ => rfl)
    rw [List.append_nil] at hnest
    rw [hnest]
    exact Bool.or_true _

end Scaffold
