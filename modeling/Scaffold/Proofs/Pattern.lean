import Scaffold.Proofs.Directives
import Scaffold.Proofs.Markup
import Scaffold.Proofs.Replays

/-!
The scanner and the grammar of markup. The grammar says which texts are placeholders and brackets,
and the scanner finds exactly those: it loses no letter of a template, and it reads as letters what
is no markup. So a template without values and without a handler renders to itself.
-/

namespace Scaffold

namespace Template

/-- The text between the ends of a bracket: letters other than braces and the percent sign, and
groups of double braces that hold no further brace. -/
inductive IsInside : Text → Prop where
  | nil : IsInside []
  | letter {c : Letter} {rest : Text} (hfits : (Token.letter c).fitsBracket = true)
      (hrest : IsInside rest) : IsInside (c :: rest)
  | group {name rest : Text} (hname : ∀ c ∈ name, isPlain c = true) (hrest : IsInside rest) :
      IsInside (.char '{' :: .char '{' :: (name ++ .char '}' :: .char '}' :: rest))

end Template

open Template (IsInside isPlain)

/-- The grammar of markup: what stands between the ends of a placeholder and of a bracket. -/
def Token.IsMarkup : Token → Prop
  | letter _ => False
  | placeholder inside => inside ≠ [] ∧ ∀ c ∈ inside, isPlain c = true
  | bracket inside => inside ≠ [] ∧ IsInside inside

namespace Template

variable {t inside : Text} {token : Token}

theorem IsInside.fits (h : IsInside inside) : Fits inside := by
  intro rest
  induction h with
  | nil => simp
  | letter hfits _ ih =>
      rw [List.cons_append, bracketInside?_letter hfits, ih, Option.map_map]
      rfl
  | @group name after hname _ ih =>
      have hgroup := bracketInside?_group hname (after ++ rest)
      simp only [List.cons_append, List.append_assoc, bracketInside?, hgroup, ih, Option.map_map]
      simp [Function.comp_def]

/-- The text up to the end of a bracket, read inside of a group or outside of one. -/
def IsInsideFrom : Bool → Text → Prop
  | false, t => IsInside t
  | true, t => ∃ name rest, (∀ c ∈ name, isPlain c = true) ∧ IsInside rest ∧
      t = name ++ .char '}' :: .char '}' :: rest

theorem isInsideFrom_of_bracketInside? {inGroup : Bool}
    (h : bracketInside? inGroup t = some inside) : IsInsideFrom inGroup inside := by
  fun_induction bracketInside? inGroup t generalizing inside with
  | case1 =>
      cases h
      exact .nil
  | case2 rest ih =>
      obtain ⟨more, hmore, rfl⟩ := Option.map_eq_some_iff.mp h
      obtain ⟨name, after, hname, hafter, rfl⟩ := ih hmore
      exact .group hname hafter
  | case3 rest ih =>
      obtain ⟨more, hmore, rfl⟩ := Option.map_eq_some_iff.mp h
      exact ⟨[], more, by simp, ih hmore, rfl⟩
  | case4 inGroup c rest _ _ _ hc ih =>
      obtain ⟨more, hmore, rfl⟩ := Option.map_eq_some_iff.mp h
      obtain ⟨hplain, hpercent⟩ := hc
      cases inGroup with
      | false => exact .letter (by simpa [Token.fitsBracket, hplain] using hpercent) (ih hmore)
      | true =>
          obtain ⟨name, after, hname, hafter, rfl⟩ := ih hmore
          exact ⟨c :: name, after, List.forall_mem_cons.mpr ⟨hplain, hname⟩, hafter, rfl⟩
  | case5 | case6 => cases h

theorem bracketInside?_eq_some_iff :
    bracketInside? false t = some inside ↔
      IsInside inside ∧ inside ++ [.char '%', .char '}'] <+: t := by
  constructor
  · intro h
    exact ⟨isInsideFrom_of_bracketInside? h, bracketInside?_isPrefix h⟩
  · rintro ⟨hinside, after, rfl⟩
    rw [List.append_assoc, hinside.fits]
    simp [bracketInside?]

/-- The scanner finds at the start of a text the markup of the grammar that stands there, and
nothing else. -/
theorem leadingMarkup?_eq_some_iff :
    leadingMarkup? t = some token ↔ token.IsMarkup ∧ token.source <+: t := by
  constructor
  · intro h
    refine ⟨?_, leadingMarkup?_isPrefix h⟩
    unfold leadingMarkup? at h
    split at h
    · obtain ⟨inside, hinside, rfl⟩ := Option.map_eq_some_iff.mp h
      obtain ⟨hne, hplain, -⟩ := placeholderInside?_eq_some_iff.mp hinside
      exact ⟨hne, hplain⟩
    · obtain ⟨inside, hfilter, rfl⟩ := Option.map_eq_some_iff.mp h
      obtain ⟨hinside, hne⟩ := Option.filter_eq_some_iff.mp hfilter
      exact ⟨by simpa using hne, (bracketInside?_eq_some_iff.mp hinside).1⟩
    · cases h
  · rintro ⟨hmarkup, after, rfl⟩
    cases token with
    | letter c => exact hmarkup.elim
    | placeholder inside =>
        have hfound : placeholderInside? (inside ++ .char '}' :: .char '}' :: after) =
            some inside :=
          placeholderInside?_eq_some_iff.mpr ⟨hmarkup.1, hmarkup.2, after, by simp⟩
        simp [Token.source, leadingMarkup?, hfound]
    | bracket inside =>
        have hfound : bracketInside? false (inside ++ .char '%' :: .char '}' :: after) =
            some inside :=
          bracketInside?_eq_some_iff.mpr ⟨hmarkup.2, after, by simp⟩
        simp [Token.source, leadingMarkup?, hfound, hmarkup.1]

/-- Tokens that follow the grammar: each of them is markup, or a letter at which no markup
begins. -/
def FollowGrammar : List Token → Prop
  | [] => True
  | token :: rest =>
      (token.IsMarkup ∨ ∃ c, token = .letter c ∧
        ∀ markup : Token, markup.IsMarkup →
          ¬ markup.source <+: (token :: rest).flatMap Token.source) ∧
      FollowGrammar rest

theorem Scans.flatMap_source {ts : List Token} (h : Scans t ts) : ts.flatMap Token.source = t := by
  rw [← h.tokens_eq, flatMap_source_tokens]

theorem Scans.followGrammar {ts : List Token} (h : Scans t ts) : FollowGrammar ts := by
  induction h with
  | nil => trivial
  | markup htoken _ ih => exact ⟨.inl (leadingMarkup?_eq_some_iff.mp htoken).1, ih⟩
  | @letter c rest more hletter hrest ih =>
      refine ⟨.inr ⟨c, rfl, fun markup hmarkup hprefix => ?_⟩, ih⟩
      rw [List.flatMap_cons, hrest.flatMap_source] at hprefix
      have hfound := leadingMarkup?_eq_some_iff.mpr ⟨hmarkup, hprefix⟩
      exact absurd (hletter.symm.trans hfound) (by simp)

theorem FollowGrammar.scans {ts : List Token} (h : FollowGrammar ts) :
    Scans (ts.flatMap Token.source) ts := by
  induction ts with
  | nil => exact .nil
  | cons token rest ih =>
      obtain ⟨hfirst, hrest⟩ := h
      rw [List.flatMap_cons]
      rcases hfirst with hmarkup | ⟨c, rfl, hnone⟩
      · exact .markup (leadingMarkup?_eq_some_iff.mpr ⟨hmarkup, List.prefix_append _ _⟩) (ih hrest)
      · refine .letter (Option.eq_none_iff_forall_ne_some.mpr fun markup hfound => ?_) (ih hrest)
        obtain ⟨hmarkup, hprefix⟩ := leadingMarkup?_eq_some_iff.mp hfound
        exact hnone markup hmarkup hprefix

/-- A template has one division into tokens that follow the grammar, and scanning finds it. -/
theorem tokens_eq_iff {ts : List Token} :
    tokens t = ts ↔ FollowGrammar ts ∧ ts.flatMap Token.source = t := by
  constructor
  · rintro rfl
    exact ⟨(scans_tokens t).followGrammar, flatMap_source_tokens t⟩
  · rintro ⟨hgrammar, rfl⟩
    exact hgrammar.scans.tokens_eq

end Template

theorem Value.lookup_nil (path : Text) : Value.lookup [] path = pure none := by
  obtain ⟨first, rest, hsplit⟩ := List.exists_cons_of_ne_nil (Text.splitOn_ne_nil (.char '.') path)
  funext changes
  rw [lookup, hsplit, Step.get_bind, after_table]
  rfl

namespace Setting

variable {s : Setting}

theorem expandToken_of_no_values (hcontext : s.context = []) (hmissing : s.missing = .keep)
    (token : Token) : s.expandToken token = pure token.source := by
  cases token with
  | placeholder inside =>
      rw [expandToken, substitute]
      cases parts inside with
      | nil => rfl
      | cons key names =>
          funext changes
          simp only [hcontext, Value.lookup_nil, inserted, hmissing]
          rfl
  | _ => rfl

/-- Where no text is suppressed and no bracket is handled, tokens without values leave their
sources. -/
theorem renderTokens_of_no_values {sheet : Sheet} (hcontext : s.context = [])
    (hmissing : s.missing = .keep) (hhandler : s.handler = none)
    (hshown : s.suppresses sheet.flags = false) (tokens : List Token) :
    s.renderTokens tokens sheet = .ok (tokens.flatMap Token.source) sheet := by
  induction tokens with
  | nil => rfl
  | cons token rest ih =>
      have htoken : s.renderToken token sheet = .ok token.source sheet := by
        rw [renderToken_of_inserted _ (.inr hhandler), hshown,
          expandToken_of_no_values hcontext hmissing]
        rfl
      rw [renderTokens, Step.bind_of_ok htoken, Step.bind_of_ok ih]
      rfl

/-- Scanning is lossless. Every text has exactly one division into markup and letters at which no
markup begins, and scanning finds it, so the tokens give the text back. Without values, with missing
ones kept, without a handler and outside of branches that suppress text, a template renders to
itself. -/
theorem render_lossless (t : Text) :
    (∀ ts, Template.tokens t = ts ↔
      Template.FollowGrammar ts ∧ ts.flatMap Token.source = t) ∧
    ∀ (s : Setting) (sheet : Sheet), s.context = [] → s.missing = .keep → s.handler = none →
      s.suppresses sheet.flags = false → s.render t sheet = .ok t sheet := by
  refine ⟨fun ts => Template.tokens_eq_iff, fun s sheet hcontext hmissing hhandler hshown => ?_⟩
  rw [render, renderTokens_of_no_values hcontext hmissing hhandler hshown,
    Template.flatMap_source_tokens]

/-- Braces of every sort: one too many, a placeholder and a group in a bracket, and a bracket
without an end. -/
def braces : Text := "\x7b\x7b\x7ba\x7d\x7d\x7b%\x7b\x7bb\x7d\x7d%\x7d\x7b\x7b\x7d\x7d\x7b% c"

theorem render_lossless_braces :
    Template.tokens braces =
        [.letter (.char '{'), .placeholder "a", .bracket (Token.placeholder "b").source] ++
          List.map Token.letter ("\x7b\x7b\x7d\x7d\x7b% c" : Text) ∧
      Setting.render { context := [] } braces { flags := {} } = .ok braces { flags := {} } :=
  ⟨by decide +kernel, (render_lossless braces).2 _ _ rfl rfl rfl rfl⟩

end Setting

end Scaffold
