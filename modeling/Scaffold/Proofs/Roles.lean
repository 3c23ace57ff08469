import Mathlib.Data.List.TakeWhile
import Scaffold.Proofs.Directives
import Scaffold.Proofs.Scan

/-!
What a bracket does to the open branches is said by its word, the text up to the first colon. If no
placeholder stands there, this is known before the placeholders are replaced.
-/

namespace Scaffold

/-- The role of the directives with a word; `bare` says whether they have no arguments. -/
def Role.ofWord (word : Text) (bare : Bool) : Role :=
  if word = "if" then .opens
  else if word = "elif" then .alternates
  else if bare ∧ word = "else" then .inverts
  else if bare ∧ (word = "fi" ∨ word = "endif") then .closes
  else .keeps

namespace Role

variable {word : Text} {bare : Bool}

theorem ofWord_eq_opens_iff : ofWord word bare = .opens ↔ word = "if" := by
  grind [ofWord]

theorem ofWord_eq_alternates_iff :
    ofWord word bare = .alternates ↔ word ≠ "if" ∧ word = "elif" := by
  grind [ofWord]

theorem bare_of_inverts (h : ofWord word bare = .inverts) : bare = true := by
  grind [ofWord]

theorem bare_of_closes (h : ofWord word bare = .closes) : bare = true := by
  grind [ofWord]

end Role

namespace Directive

/-- The text of a directive up to the first colon. -/
def word (t : Text) : Text := t.takeWhile (· ≠ .char ':')

/-- The texts between the colons of a directive and after the last one. -/
def arguments (t : Text) : List Text := (t.splitOn (.char ':')).tail

theorem splitOn_colon (t : Text) : t.splitOn (.char ':') = word t :: arguments t := by
  obtain ⟨pieces, hsplit, -⟩ := Text.splitOn_eq_cons (.char ':') t
  rw [arguments, hsplit]
  rfl

theorem arguments_eq_nil_iff (t : Text) : arguments t = [] ↔ Letter.char ':' ∉ t := by
  obtain ⟨pieces, hsplit, hpieces⟩ := Text.splitOn_eq_cons (.char ':') t
  rw [arguments, hsplit]
  exact hpieces

theorem ofText_eq (t : Text) : ofText t = ofTokens t (word t) (arguments t) := by
  rw [ofText, splitOn_colon]

theorem role_ofTokens (t word : Text) (arguments : List Text) :
    (ofTokens t word arguments).role = Role.ofWord word (arguments = []) := by
  unfold ofTokens Role.ofWord
  by_cases hif : word = "if"
  · simp [hif, role]
  by_cases helif : word = "elif"
  · rw [if_neg hif, if_pos helif, if_neg hif, if_pos helif, role]
  rw [if_neg hif, if_neg helif, if_neg hif, if_neg helif]
  cases arguments with
  | nil =>
      by_cases helse : word = "else"
      · subst helse
        rfl
      by_cases hfi : word = "fi" ∨ word = "endif"
      · rcases hfi with rfl | rfl <;> rfl
      simp only [helse, hfi, if_false, and_false]
      split
      · rfl
      split
      · rfl
      split <;> rfl
  | cons argument more =>
      cases more with
      | nil =>
          simp only [reduceCtorEq, decide_false, Bool.false_eq_true, false_and, if_false]
          split
          · rfl
          split
          · rfl
          split <;> rfl
      | cons _ _ => rfl

theorem role_ofText (t : Text) :
    (ofText t).role = Role.ofWord (word t) (Letter.char ':' ∉ t) := by
  simp only [ofText_eq, role_ofTokens, arguments_eq_nil_iff]

theorem ofText_of_opens {t : Text} (h : (ofText t).role = .opens) :
    ofText t = .branch (arguments t) := by
  rw [role_ofText, Role.ofWord_eq_opens_iff] at h
  rw [ofText_eq]
  unfold ofTokens
  rw [if_pos h]

theorem ofText_of_alternates {t : Text} (h : (ofText t).role = .alternates) :
    ofText t = .alternative (arguments t) := by
  rw [role_ofText, Role.ofWord_eq_alternates_iff] at h
  rw [ofText_eq]
  unfold ofTokens
  rw [if_neg h.1, if_pos h.2]

theorem eq_otherwise_of_role {directive : Directive} (h : directive.role = .inverts) :
    directive = .otherwise := by
  cases directive with
  | otherwise => rfl
  | _ => cases h

theorem eq_close_of_role {directive : Directive} (h : directive.role = .closes) :
    directive = .close := by
  cases directive with
  | close => rfl
  | _ => cases h

end Directive

namespace Token

/-- Whether a token is a placeholder. -/
def isPlaceholder : Token → Bool
  | placeholder _ => true
  | _ => false

theorem key?_of_not_placeholder {token : Token} (h : token.isPlaceholder = false) :
    token.key? = none := by
  cases token with
  | placeholder inside => cases h
  | _ => rfl

/-- Whether no placeholder stands before the first colon among tokens. -/
def literalHead (tokens : List Token) : Bool :=
  (tokens.takeWhile (· ≠ letter (.char ':'))).all (!·.isPlaceholder)

theorem literalHead_cons_iff {token : Token} {rest : List Token}
    (hcolon : token ≠ letter (.char ':')) :
    literalHead (token :: rest) = true ↔
      token.isPlaceholder = false ∧ literalHead rest = true := by
  simp [literalHead, hcolon]

end Token

namespace Setting

open Directive (word)

variable (s : Setting)

theorem expandToken_of_not_placeholder {token : Token} (h : token.isPlaceholder = false) :
    s.expandToken token = pure token.source :=
  s.expandToken_of_no_key (Token.key?_of_not_placeholder h)

/-- The replacement of placeholders after the first colon keeps what stands before it. -/
theorem expandTokens_of_literalHead {tokens : List Token} {expanded : Text}
    {changes after : Changes} (hhead : Token.literalHead tokens = true)
    (h : s.expandTokens tokens changes = .ok expanded after) :
    word expanded = word (tokens.flatMap Token.source) ∧
      (Letter.char ':' ∈ expanded ↔ Letter.char ':' ∈ tokens.flatMap Token.source) := by
  induction tokens generalizing expanded changes with
  | nil =>
      cases h
      exact ⟨rfl, Iff.rfl⟩
  | cons token rest ih =>
      obtain ⟨first, _, hfirst, hmore⟩ := Step.bind_eq_ok_iff.mp h
      obtain ⟨more, _, hrest, hlast⟩ := Step.bind_eq_ok_iff.mp hmore
      cases hlast
      by_cases hcolon : token = .letter (.char ':')
      · -- Both words end here, so what follows does not count.
        subst hcolon
        cases hfirst
        exact ⟨rfl, by simp [Token.source]⟩
      · obtain ⟨hplain, hhead⟩ := (Token.literalHead_cons_iff hcolon).mp hhead
        rw [s.expandToken_of_not_placeholder hplain] at hfirst
        cases hfirst
        obtain ⟨hword, hmem⟩ := ih hhead hrest
        refine ⟨?_, ?_⟩
        · simp only [word, List.flatMap_cons, List.takeWhile_append] at hword ⊢
          rw [hword]
        · simp only [List.flatMap_cons, List.mem_append, hmem]

/-- A directive whose word holds no placeholder has the same role once they are replaced. -/
theorem role_of_expand {directive expanded : Text} {changes after : Changes}
    (hhead : Token.literalHead (Template.tokens directive) = true)
    (h : s.expand directive changes = .ok expanded after) :
    (Directive.ofText expanded).role = (Directive.ofText directive).role := by
  obtain ⟨hword, hmem⟩ := s.expandTokens_of_literalHead hhead h
  rw [Template.flatMap_source_tokens] at hword hmem
  simp only [Directive.role_ofText, hword, hmem]

theorem expand_of_bare {directive : Text}
    (hhead : Token.literalHead (Template.tokens directive) = true)
    (hbare : Letter.char ':' ∉ directive) : s.expand directive = pure directive := by
  have hcolon : ∀ token ∈ Template.tokens directive, token ≠ .letter (.char ':') := by
    rintro token htoken rfl
    apply hbare
    rw [← Template.flatMap_source_tokens directive]
    exact List.mem_flatMap.mpr ⟨_, htoken, List.mem_singleton_self _⟩
  have hall : (Template.tokens directive).takeWhile (· ≠ .letter (.char ':')) =
      Template.tokens directive :=
    List.takeWhile_eq_self_iff.mpr fun token htoken => decide_eq_true (hcolon token htoken)
  rw [Token.literalHead, hall, List.all_eq_true] at hhead
  rw [expand, s.expandTokens_of_no_key, Template.flatMap_source_tokens]
  intro token htoken
  exact Token.key?_of_not_placeholder (by simpa using hhead token htoken)

end Setting

end Scaffold
