import Scaffold.Proofs.Pattern

/-!
Groups of double braces in brackets. What stands in a bracket consists of letters and of such
groups, and blanks can be taken away from its ends without opening a group. When it is scanned
again, for its placeholders, a group is a placeholder or, if it is empty, four letters; so no bracket
is found in a bracket.
-/

namespace Scaffold

namespace Template

variable {t inside directive : Text}

/-- A part of what stands in markup that leaves only blanks before and behind it. -/
def Captures (inside directive : Text) : Prop :=
  directive ≠ [] ∧ ∃ before after, inside = before ++ directive ++ after ∧
    ∀ c ∈ before ++ after, c.isBlank = true

theorem captures_core (h : inside ≠ []) : Captures inside (core inside) := by
  obtain ⟨before, after, hsplit, hblank⟩ := Text.exists_trim Letter.isBlank inside
  rw [← Text.strip] at hsplit
  cases hstrip : inside.strip with
  | cons c rest =>
      have hcore : core inside = inside.strip := by rw [core, hstrip]
      rw [Captures, hcore]
      exact ⟨hstrip ▸ List.cons_ne_nil c rest, before, after, hsplit, hblank⟩
  | nil =>
      have hcore : core inside = [inside.getLast h] := by
        rw [core, hstrip, List.getLast?_eq_some_getLast h]
        rfl
      rw [hstrip, List.append_nil] at hsplit
      rw [Captures, hcore]
      refine ⟨List.cons_ne_nil _ _, inside.dropLast, [], ?_, fun c hc => ?_⟩
      · rw [List.append_nil, List.dropLast_concat_getLast]
      · rw [List.append_nil] at hc
        exact hblank c (hsplit ▸ List.dropLast_subset inside hc)

theorem placeholder_source_append (name rest : Text) :
    (Token.placeholder name).source ++ rest =
      .char '{' :: .char '{' :: (name ++ .char '}' :: .char '}' :: rest) := by
  simp [Token.source]

theorem getLast?_placeholder_source (name : Text) :
    (Token.placeholder name).source.getLast? = some (.char '}') := by
  rw [Token.source, List.getLast?_append]
  rfl

theorem IsInside.placeholder_append {name rest : Text} (hname : ∀ c ∈ name, isPlain c = true)
    (hrest : IsInside rest) : IsInside ((Token.placeholder name).source ++ rest) := by
  rw [placeholder_source_append]
  exact .group hname hrest

theorem IsInside.of_blanks_append {before : Text} (hbefore : ∀ c ∈ before, c.isBlank = true)
    (h : IsInside (before ++ t)) : IsInside t := by
  induction before with
  | nil => exact h
  | cons c before ih =>
      obtain ⟨hc, hbefore⟩ := List.forall_mem_cons.mp hbefore
      generalize hall : c :: before ++ t = all at h
      cases h with
      | nil => cases hall
      | letter _ hrest =>
          obtain ⟨-, rfl⟩ := List.cons.inj hall
          exact ih hbefore hrest
      | group _ _ =>
          obtain ⟨rfl, -⟩ := List.cons.inj hall
          cases hc

/-- A group that ends behind a text ends with it, since there is a brace at its end. -/
theorem IsInside.of_append_blanks {after : Text} (hafter : ∀ c ∈ after, c.isBlank = true)
    (h : IsInside (t ++ after)) : IsInside t := by
  generalize hall : t ++ after = all at h
  induction h generalizing t with
  | nil =>
      obtain ⟨rfl, -⟩ := List.append_eq_nil_iff.mp hall
      exact .nil
  | @letter c rest hfits _ ih =>
      cases t with
      | nil => exact .nil
      | cons d t =>
          obtain ⟨rfl, hrest⟩ := List.cons.inj hall
          exact .letter hfits (ih hrest)
  | @group name rest hname _ ih =>
      rw [← placeholder_source_append] at hall
      rcases List.append_eq_append_iff.mp hall with ⟨more, hmore, hend⟩ | ⟨more, rfl, hend⟩
      · -- What the text lacks of the group is blank, but a group ends with a brace.
        rcases List.eq_nil_or_concat more with rfl | ⟨more, c, rfl⟩
        · rw [List.append_nil] at hmore
          have hgroup := IsInside.placeholder_append hname .nil
          rwa [List.append_nil, hmore] at hgroup
        · have hlast := getLast?_placeholder_source name
          rw [hmore, List.concat_eq_append, ← List.append_assoc, List.getLast?_concat] at hlast
          obtain rfl := Option.some.inj hlast
          cases hafter (.char '}') (by simp [hend])
      · exact .placeholder_append hname (ih hend.symm)

theorem IsInside.of_captures (h : IsInside inside) (hcaptures : Captures inside directive) :
    IsInside directive := by
  obtain ⟨-, before, after, rfl, hblank⟩ := hcaptures
  obtain ⟨hbefore, hafter⟩ := List.forall_mem_append.mp hblank
  rw [List.append_assoc] at h
  exact (h.of_blanks_append hbefore).of_append_blanks hafter

theorem tokens_placeholder_append {name : Text} (hne : name ≠ [])
    (hname : ∀ c ∈ name, isPlain c = true) (rest : Text) :
    tokens ((Token.placeholder name).source ++ rest) = .placeholder name :: tokens rest := by
  have hmarkup : (Token.placeholder name).IsMarkup := ⟨hne, hname⟩
  have hfound := leadingMarkup?_eq_some_iff.mpr ⟨hmarkup, List.prefix_append _ rest⟩
  exact (Scans.markup hfound (scans_tokens rest)).tokens_eq

/-- The braces of an empty group are letters. -/
theorem tokens_emptyGroup_append (rest : Text) :
    tokens ((Token.placeholder []).source ++ rest) =
      (Token.placeholder []).source.map Token.letter ++ tokens rest := by
  have hclosing : Scans (.char '}' :: .char '}' :: rest)
      (.letter (.char '}') :: .letter (.char '}') :: tokens rest) :=
    .letter (leadingMarkup?_of_ne_opening (by decide) _)
      (.letter (leadingMarkup?_of_ne_opening (by decide) _) (scans_tokens rest))
  have hsecond : leadingMarkup? (.char '{' :: .char '}' :: .char '}' :: rest) = none := rfl
  have hfirst : leadingMarkup? (.char '{' :: .char '{' :: .char '}' :: .char '}' :: rest) = none :=
    rfl
  exact (Scans.letter hfirst (.letter hsecond hclosing)).tokens_eq

/-- Groups are scanned one by one, so letters and groups hold no bracket. -/
theorem IsInside.isBracket_eq_false (h : IsInside t) :
    ∀ token ∈ tokens t, token.isBracket = false := by
  induction h with
  | nil => exact fun _ htoken => absurd htoken List.not_mem_nil
  | @letter c rest hfits _ ih =>
      have hbrace : Letter.char '{' ∉ [c] := by
        rintro hc
        obtain rfl := List.mem_singleton.mp hc
        cases hfits
      rw [← List.singleton_append, tokens_append_letters hbrace]
      exact List.forall_mem_cons.mpr ⟨rfl, ih⟩
  | @group name rest hname _ ih =>
      rw [← placeholder_source_append]
      by_cases hne : name = []
      · subst hne
        rw [tokens_emptyGroup_append]
        refine List.forall_mem_append.mpr ⟨fun token htoken => ?_, ih⟩
        obtain ⟨c, -, rfl⟩ := List.mem_map.mp htoken
        rfl
      · rw [tokens_placeholder_append hne hname]
        exact List.forall_mem_cons.mpr ⟨rfl, ih⟩

theorem FollowGrammar.of_mem {ts : List Token} (h : FollowGrammar ts) {token : Token}
    (htoken : token ∈ ts) : token.IsMarkup ∨ ∃ c, token = .letter c := by
  induction ts with
  | nil => cases htoken
  | cons first rest ih =>
      obtain ⟨hfirst, hrest⟩ := h
      rcases List.mem_cons.mp htoken with rfl | htoken
      · exact hfirst.imp_right fun ⟨c, hc, _⟩ => ⟨c, hc⟩
      · exact ih hrest htoken

theorem isMarkup_or_letter {token : Token} (h : token ∈ tokens t) :
    token.IsMarkup ∨ ∃ c, token = .letter c :=
  (tokens_eq_iff.mp rfl).1.of_mem h

end Template

open Template (IsInside Captures)

namespace Setting

variable {s : Setting}

/-- The text of one token of a directive, where `refuse` says what becomes of a bracket. -/
def expandTokenWith (s : Setting) (refuse : Text → Looking Text) : Token → Looking Text
  | .bracket inside => refuse inside
  | token => s.expandToken token

/-- The texts of the tokens one after the other. -/
def expandWith (s : Setting) (refuse : Text → Looking Text) : List Token → Looking Text
  | [] => pure []
  | token :: rest => do
      let first ← s.expandTokenWith refuse token
      let more ← s.expandWith refuse rest
      pure (first ++ more)

theorem expandWith_of_no_bracket (refuse : Text → Looking Text) {ts : List Token}
    (h : ∀ token ∈ ts, token.isBracket = false) : s.expandWith refuse ts = s.expandTokens ts := by
  induction ts with
  | nil => rfl
  | cons token rest ih =>
      obtain ⟨htoken, hrest⟩ := List.forall_mem_cons.mp h
      have hsame : s.expandTokenWith refuse token = s.expandToken token := by
        cases token with
        | bracket inside => cases htoken
        | _ => rfl
      rw [expandWith, expandTokens, ih hrest, hsame]

/-- What stands in a bracket, less the blanks around it, consists of closed groups of double braces
and of letters other than braces and percent signs. All markup that a second scan finds in it are
placeholders with an expression. So no bracket is met when they are replaced: it does not matter
what would become of one. -/
theorem brackets_hold_placeholders {t inside : Text} (h : .bracket inside ∈ Template.tokens t) :
    Captures inside (Template.core inside) ∧
      (∀ directive, Captures inside directive → IsInside directive ∧
        ∀ token ∈ Template.tokens directive, (∃ c, token = .letter c) ∨
          ∃ name, token = .placeholder name ∧ Template.core name ≠ []) ∧
      ∀ (s : Setting) (refuse : Text → Looking Text),
        s.expandWith refuse (Template.tokens (Template.core inside)) =
          s.expand (Template.core inside) := by
  obtain ⟨hne, hinside⟩ : inside ≠ [] ∧ IsInside inside :=
    (Template.isMarkup_or_letter h).resolve_right (by rintro ⟨c, ⟨⟩⟩)
  have hcore := Template.captures_core hne
  refine ⟨hcore, fun directive hdirective => ?_, fun s refuse => ?_⟩
  · have hgroups := hinside.of_captures hdirective
    refine ⟨hgroups, fun token htoken => ?_⟩
    have hbracket := hgroups.isBracket_eq_false token htoken
    rcases Template.isMarkup_or_letter htoken with hmarkup | hletter
    · cases token with
      | letter c => exact .inl ⟨c, rfl⟩
      | placeholder name => exact .inr ⟨name, rfl, (Template.captures_core hmarkup.1).1⟩
      | bracket inside => cases hbracket
    · exact .inl hletter
  · exact expandWith_of_no_bracket refuse (hinside.of_captures hcore).isBracket_eq_false

/-- A bracket with a group that looks like a bracket, an empty group and a placeholder in a row. -/
def groupedBracket : Text :=
  "\x7b% if:\x7b\x7b%x%\x7d\x7d\x7b\x7b\x7d\x7d\x7b\x7b name \x7d\x7d\t%\x7d"

/-- What stands in it, less the blanks. -/
def groupedDirective : Text := "if:\x7b\x7b%x%\x7d\x7d\x7b\x7b\x7d\x7d\x7b\x7b name \x7d\x7d"

theorem brackets_hold_placeholders_grouped :
    .bracket (" " ++ groupedDirective ++ "\t") ∈ Template.tokens groupedBracket ∧
      IsInside groupedDirective ∧ .placeholder "%x%" ∈ Template.tokens groupedDirective ∧
      ∀ token ∈ Template.tokens groupedDirective, (∃ c, token = .letter c) ∨
        ∃ name, token = .placeholder name ∧ Template.core name ≠ [] := by
  have hbracket : .bracket (" " ++ groupedDirective ++ "\t") ∈ Template.tokens groupedBracket := by
    decide
  have hcaptures : Captures (" " ++ groupedDirective ++ "\t") groupedDirective :=
    ⟨by decide, " ", "\t", rfl, by decide⟩
  obtain ⟨hgroups, htokens⟩ := (brackets_hold_placeholders hbracket).2.1 _ hcaptures
  exact ⟨hbracket, hgroups, by decide, htokens⟩

end Setting

end Scaffold
