import Scaffold.Proofs.Scan

/-!
Which text is scanned as a bracket: a bracket is, wherever it is put between two tokens, if no brace
stands right before it and if its inside holds no braces but those of placeholders.
-/

namespace Scaffold

/-- Whether a token may stand in a bracket. -/
def Token.fitsBracket : Token → Bool
  | letter c => Template.isPlain c && c != .char '%'
  | placeholder _ => true
  | bracket _ => false

namespace Template

theorem bracketInside?_letter {c : Letter} (hc : (Token.letter c).fitsBracket = true)
    (rest : Text) : bracketInside? false (c :: rest) = (bracketInside? false rest).map (c :: ·) := by
  obtain ⟨hplain, hpercent⟩ : isPlain c = true ∧ c ≠ .char '%' := by
    simpa [Token.fitsBracket] using hc
  have hopen : c ≠ .char '{' := by
    rintro rfl
    cases hplain
  rw [bracketInside?]
  · rw [if_pos ⟨hplain, .inr hpercent⟩]
  · rintro rest - rfl
    exact absurd rfl hpercent
  · rintro rest - rfl
    exact absurd rfl hopen
  · rintro rest ⟨⟩

theorem bracketInside?_plain {c : Letter} (hc : isPlain c = true) (rest : Text) :
    bracketInside? true (c :: rest) = (bracketInside? true rest).map (c :: ·) := by
  rw [bracketInside?]
  · rw [if_pos ⟨hc, .inl rfl⟩]
  · rintro rest ⟨⟩
  · rintro rest ⟨⟩
  · rintro rest - rfl
    cases hc

theorem bracketInside?_group {inside : Text} (hinside : ∀ c ∈ inside, isPlain c = true)
    (rest : Text) :
    bracketInside? true (inside ++ .char '}' :: .char '}' :: rest) =
      (bracketInside? false rest).map fun more => inside ++ .char '}' :: .char '}' :: more := by
  induction inside with
  | nil => rfl
  | cons c inside ih =>
      obtain ⟨hc, hinside⟩ := List.forall_mem_cons.mp hinside
      rw [List.cons_append, bracketInside?_plain hc, ih hinside, Option.map_map]
      rfl

/-- What is scanned in a bracket goes on behind a text as if the text were not there. -/
def Fits (t : Text) : Prop :=
  ∀ rest, bracketInside? false (t ++ rest) = (bracketInside? false rest).map (t ++ ·)

theorem Fits.append {t u : Text} (ht : Fits t) (hu : Fits u) : Fits (t ++ u) := by
  intro rest
  rw [List.append_assoc, ht, hu, Option.map_map]
  simp [Function.comp_def]

theorem fits_of_tokens {t : Text} (ht : ∀ token ∈ tokens t, token.fitsBracket = true) : Fits t := by
  intro rest
  have happend : ∀ {u ts}, Scans u ts → (∀ token ∈ ts, token.fitsBracket = true) →
      bracketInside? false (u ++ rest) = (bracketInside? false rest).map (u ++ ·) := by
    intro u ts hscans
    induction hscans with
    | nil => simp
    | @markup token after more htoken _ ih =>
        intro hts
        obtain ⟨hfits, hmore⟩ := List.forall_mem_cons.mp hts
        cases token with
        | placeholder inside =>
            have hinside := plain_of_leadingMarkup? htoken
            have hgroup : bracketInside? false ((Token.placeholder inside).source ++ (after ++ rest)) =
                (bracketInside? true (inside ++ .char '}' :: .char '}' :: (after ++ rest))).map
                  ([.char '{', .char '{'] ++ ·) := by
              simp [Token.source, bracketInside?]
            rw [List.append_assoc, hgroup, bracketInside?_group hinside, ih hmore, Option.map_map,
              Option.map_map]
            simp [Token.source, Function.comp_def]
        | letter c => exact absurd htoken (leadingMarkup?_ne_letter _ c)
        | bracket inside => cases hfits
    | letter _ _ ih =>
        intro hts
        obtain ⟨hfits, hmore⟩ := List.forall_mem_cons.mp hts
        rw [List.cons_append, bracketInside?_letter hfits, ih hmore, Option.map_map]
        rfl
  exact happend (scans_tokens t) ht

/-- A bracket is scanned as one token. -/
theorem tokens_bracket_append {inside : Text} (hinside : inside ≠ []) (hfits : Fits inside)
    (rest : Text) :
    tokens ((Token.bracket inside).source ++ rest) = .bracket inside :: tokens rest := by
  refine Scans.tokens_eq (.markup ?_ (scans_tokens rest))
  have hfound : bracketInside? false (inside ++ .char '%' :: .char '}' :: rest) = some inside := by
    rw [hfits]
    simp [bracketInside?]
  have hsource : (Token.bracket inside).source ++ rest =
      .char '{' :: .char '%' :: (inside ++ .char '%' :: .char '}' :: rest) := by
    simp [Token.source]
  rw [hsource, leadingMarkup?, hfound]
  simp [hinside]

theorem placeholderInside?_eq_some_iff {t inside : Text} :
    placeholderInside? t = some inside ↔
      inside ≠ [] ∧ (∀ c ∈ inside, isPlain c = true) ∧ inside ++ [.char '}', .char '}'] <+: t := by
  constructor
  · intro h
    obtain ⟨htake, after, hsplit⟩ := placeholderInside?_eq_some h
    refine ⟨?_, ?_, after, by simp [hsplit]⟩
    · rintro rfl
      simp [placeholderInside?, htake] at h
      split at h <;> cases h
    · rw [← htake]
      exact fun c hc => List.mem_takeWhile_imp hc
  · rintro ⟨hne, hplain, after, rfl⟩
    have hbrace : isPlain (.char '}') = false := rfl
    rw [List.append_assoc, placeholderInside?, List.takeWhile_append_of_pos hplain,
      List.dropWhile_append_of_pos hplain]
    simp [hbrace, hne]

theorem prefix_append_cons_iff {u t rest : Text} {c : Letter} (hc : c ∉ u) :
    u <+: t ++ c :: rest ↔ u <+: t := by
  refine ⟨fun h => ?_, fun h => h.trans (List.prefix_append t _)⟩
  rcases List.prefix_or_prefix_of_prefix h (List.prefix_append t (c :: rest)) with hu | ⟨v, rfl⟩
  · exact hu
  · cases v with
    | nil => simp
    | cons d v =>
        obtain ⟨rfl, -⟩ := List.cons_prefix_cons.mp ((List.prefix_append_right_inj t).mp h)
        simp at hc

theorem placeholderInside?_append_opening (t rest : Text) :
    placeholderInside? (t ++ .char '{' :: rest) = placeholderInside? t := by
  refine Option.ext fun inside => ?_
  rw [placeholderInside?_eq_some_iff, placeholderInside?_eq_some_iff]
  refine and_congr_right fun _ => and_congr_right fun hplain => prefix_append_cons_iff ?_
  intro hmem
  rcases List.mem_append.mp hmem with hinside | hend
  · cases hplain _ hinside
  · simp at hend

theorem bracketInside?_opening (inGroup : Bool) (rest : Text) :
    bracketInside? inGroup (.char '{' :: .char '%' :: rest) = none := by
  cases inGroup <;> simp [bracketInside?, isPlain]

/-- A text that does not end with an opening brace. -/
def IsShut (t : Text) : Prop := t.getLast? ≠ some (.char '{')

theorem IsShut.of_append {t after : Text} (h : IsShut (t ++ after)) : IsShut after := by
  cases after with
  | nil => simp [IsShut]
  | cons c more => simpa [IsShut, List.getLast?_append] using h

/-- The brace behind a text does not complete a pair of letters that starts in the text. -/
theorem IsShut.exists_of_append {c d : Letter} {after more rest : Text} (ht : IsShut (c :: after))
    (hpair : c = .char '{' ∨ d ≠ .char '{') (h : after ++ .char '{' :: rest = d :: more) :
    ∃ tail, after = d :: tail := by
  cases after with
  | nil =>
      obtain ⟨rfl, -⟩ := List.cons.inj h
      obtain rfl := hpair.resolve_right (by simp)
      exact absurd rfl ht
  | cons e tail =>
      obtain ⟨rfl, -⟩ := List.cons.inj h
      exact ⟨tail, rfl⟩

theorem bracketInside?_append_opening {inGroup : Bool} {t : Text} (ht : IsShut t) (rest : Text) :
    bracketInside? inGroup (t ++ .char '{' :: .char '%' :: rest) = bracketInside? inGroup t := by
  fun_induction bracketInside? inGroup t with
  | case1 after => rfl
  | case2 after ih =>
      have hafter : IsShut after := IsShut.of_append (t := [.char '{', .char '{']) ht
      simp [bracketInside?, ih hafter]
  | case3 after ih =>
      have hafter : IsShut after := IsShut.of_append (t := [.char '}', .char '}']) ht
      simp [bracketInside?, ih hafter]
  | case4 inGroup c after hend hopen hclose hc ih =>
      have hafter : IsShut after := IsShut.of_append (t := [c]) ht
      rw [List.cons_append, bracketInside?, if_pos hc, ih hafter]
      · intro more hgroup hpercent hmore
        obtain ⟨tail, htail⟩ := ht.exists_of_append (.inr (by simp)) hmore
        exact hend tail hgroup hpercent htail
      · rintro more - rfl hmore
        cases hc.1
      · rintro more - rfl hmore
        cases hc.1
  | case5 inGroup c after hend hopen hclose hc =>
      rw [List.cons_append, bracketInside?, if_neg hc]
      · intro more hgroup hpercent hmore
        obtain ⟨tail, htail⟩ := ht.exists_of_append (.inr (by simp)) hmore
        exact hend tail hgroup hpercent htail
      · intro more hgroup hbrace hmore
        obtain ⟨tail, htail⟩ := ht.exists_of_append (.inl hbrace) hmore
        exact hopen tail hgroup hbrace htail
      · intro more hgroup hbrace hmore
        obtain ⟨tail, htail⟩ := ht.exists_of_append (.inr (by simp)) hmore
        exact hclose tail hgroup hbrace htail
  | case6 => exact bracketInside?_opening _ rest

theorem leadingMarkup?_append_opening {t : Text} (ht : IsShut t) (hne : t ≠ []) (rest : Text) :
    leadingMarkup? (t ++ .char '{' :: .char '%' :: rest) = leadingMarkup? t := by
  fun_cases leadingMarkup? t with
  | case1 more =>
      have hmore : placeholderInside? (more ++ .char '{' :: .char '%' :: rest) =
          placeholderInside? more := placeholderInside?_append_opening more _
      simp [leadingMarkup?, hmore]
  | case2 more =>
      have hshut : IsShut more := IsShut.of_append (t := [.char '{', .char '%']) ht
      simp [leadingMarkup?, bracketInside?_append_opening hshut]
  | case3 t hdouble hpercent =>
      obtain ⟨c, after, rfl⟩ := List.exists_cons_of_ne_nil hne
      rw [List.cons_append, leadingMarkup?]
      · intro more hbrace
        obtain ⟨rfl, hmore⟩ := List.cons.inj hbrace
        obtain ⟨tail, rfl⟩ := ht.exists_of_append (.inl rfl) hmore
        exact hdouble tail rfl
      · intro more hbrace
        obtain ⟨rfl, hmore⟩ := List.cons.inj hbrace
        obtain ⟨tail, rfl⟩ := ht.exists_of_append (.inl rfl) hmore
        exact hpercent tail rfl

/-- Before a bracket a text is scanned as if it ended there, unless it ends with a brace that could
belong to the one of the bracket. -/
theorem tokens_append_opening {t : Text} (ht : IsShut t) (rest : Text) :
    tokens (t ++ .char '{' :: .char '%' :: rest) =
      tokens t ++ tokens (.char '{' :: .char '%' :: rest) := by
  have happend : ∀ {u ts}, Scans u ts → IsShut u →
      Scans (u ++ .char '{' :: .char '%' :: rest) (ts ++ tokens (.char '{' :: .char '%' :: rest)) := by
    intro u ts hscans
    induction hscans with
    | nil => exact fun _ => scans_tokens _
    | @markup token after more htoken _ ih =>
        intro hu
        obtain ⟨first, others, hsource⟩ := exists_source_eq_cons token
        have hne : token.source ++ after ≠ [] := by simp [hsource]
        rw [← leadingMarkup?_append_opening hu hne rest, List.append_assoc] at htoken
        rw [List.append_assoc]
        exact .markup htoken (ih hu.of_append)
    | @letter c after more hletter _ ih =>
        intro hu
        rw [← leadingMarkup?_append_opening hu (by simp) rest] at hletter
        exact .letter hletter (ih (IsShut.of_append (t := [c]) hu))
  exact (happend (scans_tokens t) ht).tokens_eq

/-- A bracket can be put between two tokens of a text, if what stands before it is shut. -/
theorem tokens_insert_bracket {before after inside : Text} (hbefore : IsShut before)
    (hinside : inside ≠ []) (hfits : Fits inside) :
    tokens (before ++ (Token.bracket inside).source ++ after) =
      tokens before ++ .bracket inside :: tokens after := by
  have hbracket := tokens_bracket_append hinside hfits after
  have hsource : (Token.bracket inside).source ++ after =
      .char '{' :: .char '%' :: (inside ++ [.char '%', .char '}'] ++ after) := by
    simp [Token.source]
  rw [List.append_assoc, hsource, tokens_append_opening hbefore, ← hsource, hbracket]

theorem tokens_append_letters {t : Text} (ht : .char '{' ∉ t) (rest : Text) :
    tokens (t ++ rest) = t.map Token.letter ++ tokens rest := by
  induction t with
  | nil => rfl
  | cons c t ih =>
      rw [List.mem_cons, not_or] at ht
      have hletter := leadingMarkup?_of_ne_opening (Ne.symm ht.1) (t ++ rest)
      have hscans := Scans.letter hletter (scans_tokens (t ++ rest))
      rw [List.cons_append, hscans.tokens_eq, ih ht.2]
      rfl

end Template

end Scaffold
