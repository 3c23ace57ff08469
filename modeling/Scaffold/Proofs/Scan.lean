import Mathlib.Data.List.TakeWhile
import Scaffold.Template

/-!
The tokens of a template cover it: put one after the other, their sources give it back.
-/

namespace Scaffold.Template

theorem placeholderInside?_eq_some {rest inside : Text} (h : placeholderInside? rest = some inside) :
    rest.takeWhile isPlain = inside ∧
      ∃ after, rest = inside ++ .char '}' :: .char '}' :: after := by
  unfold placeholderInside? at h
  split at h
  · rename_i after hdrop
    have hinside : rest.takeWhile isPlain = inside := by
      dsimp only at h
      split at h
      · cases h
      · exact Option.some.inj h
    refine ⟨hinside, after, ?_⟩
    rw [← hinside, ← hdrop, List.takeWhile_append_dropWhile]
  · cases h

theorem source_placeholderInside? {rest inside : Text} (h : placeholderInside? rest = some inside) :
    (Token.placeholder inside).source <+: .char '{' :: .char '{' :: rest := by
  obtain ⟨-, after, hrest⟩ := placeholderInside?_eq_some h
  exact ⟨after, by simp [Token.source, hrest]⟩

theorem bracketInside?_isPrefix {inGroup : Bool} {t inside : Text}
    (h : bracketInside? inGroup t = some inside) :
    inside ++ [.char '%', .char '}'] <+: t := by
  fun_induction bracketInside? inGroup t generalizing inside with
  | case1 after =>
      cases h
      exact ⟨after, rfl⟩
  | case2 rest ih | case3 rest ih =>
      obtain ⟨group, hgroup, rfl⟩ := Option.map_eq_some_iff.mp h
      obtain ⟨after, hafter⟩ := ih hgroup
      exact ⟨after, by simp [← hafter]⟩
  | case4 inGroup c rest _ _ _ _ ih =>
      obtain ⟨more, hmore, rfl⟩ := Option.map_eq_some_iff.mp h
      obtain ⟨after, hafter⟩ := ih hmore
      exact ⟨after, by simp [← hafter]⟩
  | case5 | case6 => cases h

theorem leadingMarkup?_isPrefix {t : Text} {token : Token} (h : leadingMarkup? t = some token) :
    token.source <+: t := by
  unfold leadingMarkup? at h
  split at h
  · obtain ⟨inside, hinside, rfl⟩ := Option.map_eq_some_iff.mp h
    exact source_placeholderInside? hinside
  · obtain ⟨inside, hfilter, rfl⟩ := Option.map_eq_some_iff.mp h
    obtain ⟨hinside, -⟩ := Option.filter_eq_some_iff.mp hfilter
    obtain ⟨after, hafter⟩ := bracketInside?_isPrefix hinside
    exact ⟨after, by simp [Token.source, ← hafter]⟩
  · cases h

/-- A text is scanned to tokens: the markup at its start is one, and without such markup its first
letter. -/
inductive Scans : Text → List Token → Prop where
  | nil : Scans [] []
  | markup {token : Token} {rest : Text} {more : List Token}
      (htoken : leadingMarkup? (token.source ++ rest) = some token) (hrest : Scans rest more) :
      Scans (token.source ++ rest) (token :: more)
  | letter {c : Letter} {rest : Text} {more : List Token}
      (hletter : leadingMarkup? (c :: rest) = none) (hrest : Scans rest more) :
      Scans (c :: rest) (.letter c :: more)

theorem exists_source_eq_cons (token : Token) : ∃ first more, token.source = first :: more := by
  cases token <;> exact ⟨_, _, rfl⟩

theorem scans_tokensAfter (skipped : Nat) (t : Text) :
    Scans (t.drop skipped) (tokensAfter skipped t) := by
  fun_induction tokensAfter skipped t with
  | case1 =>
      rw [List.drop_nil]
      exact .nil
  | case2 skipped c rest ih => exact ih
  | case3 c rest token htoken ih =>
      obtain ⟨after, hafter⟩ := leadingMarkup?_isPrefix htoken
      obtain ⟨first, more, hsource⟩ := exists_source_eq_cons token
      have hrest : rest.drop (token.source.length - 1) = after := by
        rw [hsource, List.cons_append] at hafter
        obtain ⟨-, rfl⟩ := List.cons.inj hafter
        rw [hsource, List.length_cons, Nat.add_sub_cancel, List.drop_left]
      rw [hrest] at ih
      rw [← hafter] at htoken
      rw [List.drop_zero, ← hafter]
      exact .markup htoken ih
  | case4 c rest hletter ih => exact .letter hletter ih

theorem scans_tokens (t : Text) : Scans t (tokens t) := scans_tokensAfter 0 t

theorem tokensAfter_eq_tokens_drop (skipped : Nat) (t : Text) :
    tokensAfter skipped t = tokens (t.drop skipped) := by
  induction t generalizing skipped with
  | nil => cases skipped <;> rfl
  | cons c rest ih =>
      cases skipped with
      | zero => rfl
      | succ skipped => exact ih skipped

theorem Scans.tokens_eq {t : Text} {ts : List Token} (h : Scans t ts) : tokens t = ts := by
  induction h with
  | nil => rfl
  | @markup token rest more htoken _ ih =>
      obtain ⟨first, others, hsource⟩ := exists_source_eq_cons token
      rw [hsource, List.cons_append] at htoken ⊢
      rw [tokens, tokensAfter, htoken]
      dsimp only
      rw [tokensAfter_eq_tokens_drop, hsource, List.length_cons, Nat.add_sub_cancel,
        List.drop_left, ih]
  | letter hletter _ ih =>
      rw [tokens, tokensAfter, hletter, ← ih]
      rfl

/-- Scanning loses nothing and adds nothing. -/
theorem flatMap_source_tokens (t : Text) : (tokens t).flatMap Token.source = t := by
  have hsource : ∀ {u ts}, Scans u ts → ts.flatMap Token.source = u := by
    intro u ts h
    induction h with
    | nil => rfl
    | markup _ _ ih => rw [List.flatMap_cons, ih]
    | letter _ _ ih => rw [List.flatMap_cons, ih]; rfl
  exact hsource (scans_tokens t)

theorem plain_of_leadingMarkup? {t inside : Text}
    (h : leadingMarkup? t = some (.placeholder inside)) : ∀ c ∈ inside, isPlain c = true := by
  unfold leadingMarkup? at h
  split at h
  · obtain ⟨found, hfound, hsame⟩ := Option.map_eq_some_iff.mp h
    cases hsame
    obtain ⟨rfl, -⟩ := placeholderInside?_eq_some hfound
    exact fun c hc => List.mem_takeWhile_imp hc
  · obtain ⟨found, -, hsame⟩ := Option.map_eq_some_iff.mp h
    cases hsame
  · cases h

theorem leadingMarkup?_ne_letter (t : Text) (c : Letter) :
    leadingMarkup? t ≠ some (.letter c) := by
  intro h
  unfold leadingMarkup? at h
  split at h
  · obtain ⟨inside, -, hsame⟩ := Option.map_eq_some_iff.mp h
    cases hsame
  · obtain ⟨inside, -, hsame⟩ := Option.map_eq_some_iff.mp h
    cases hsame
  · cases h

theorem leadingMarkup?_of_ne_opening {c : Letter} (hc : c ≠ .char '{') (t : Text) :
    leadingMarkup? (c :: t) = none := by
  rw [leadingMarkup?]
  · intro rest hbrace
    exact hc (List.cons.inj hbrace).1
  · intro rest hbrace
    exact hc (List.cons.inj hbrace).1

end Scaffold.Template
