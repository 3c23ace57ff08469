import Scaffold.Proofs.Directives
import Scaffold.Proofs.Markup

/-!
Templates one after the other. If no opening brace of a template stands outside of its tokens, then
another template behind it changes none of them. So the second one is rendered from where the first
one has left the flags, as if it stood alone.
-/

namespace Scaffold

namespace Template

/-- Every opening brace of a template belongs to one of its placeholders and brackets. -/
def IsClosed (t : Text) : Prop := .letter (.char '{') ∉ tokens t

instance (t : Text) : Decidable (IsClosed t) :=
  inferInstanceAs (Decidable (.letter (.char '{') ∉ tokens t))

theorem placeholderInside?_append {t inside : Text} (h : placeholderInside? t = some inside)
    (rest : Text) : placeholderInside? (t ++ rest) = some inside := by
  rw [placeholderInside?_eq_some_iff] at h ⊢
  obtain ⟨hne, hplain, hstart⟩ := h
  exact ⟨hne, hplain, hstart.trans (List.prefix_append t rest)⟩

theorem bracketInside?_append {inGroup : Bool} {t inside : Text}
    (h : bracketInside? inGroup t = some inside) (rest : Text) :
    bracketInside? inGroup (t ++ rest) = some inside := by
  fun_induction bracketInside? inGroup t generalizing inside with
  | case1 after => exact h
  | case2 after ih | case3 after ih =>
      obtain ⟨more, hmore, rfl⟩ := Option.map_eq_some_iff.mp h
      simp [bracketInside?, ih hmore]
  | case4 inGroup c after hend hopen hclose hc ih =>
      obtain ⟨more, hmore, rfl⟩ := Option.map_eq_some_iff.mp h
      -- There is more of the text, so its first two letters are those that were scanned before.
      obtain ⟨d, tail, rfl⟩ : ∃ d tail, after = d :: tail := by
        apply List.exists_cons_of_ne_nil
        rintro rfl
        cases inGroup <;> cases hmore
      rw [List.cons_append, bracketInside?, if_pos hc, ih hmore]
      · rfl
      · rintro _ hgroup hpercent ⟨⟩
        exact hend tail hgroup hpercent rfl
      · rintro _ hgroup hbrace ⟨⟩
        exact hopen tail hgroup hbrace rfl
      · rintro _ hgroup hbrace ⟨⟩
        exact hclose tail hgroup hbrace rfl
  | case5 | case6 => cases h

theorem leadingMarkup?_append {t : Text} {token : Token} (h : leadingMarkup? t = some token)
    (rest : Text) : leadingMarkup? (t ++ rest) = some token := by
  unfold leadingMarkup? at h
  split at h
  · obtain ⟨inside, hinside, rfl⟩ := Option.map_eq_some_iff.mp h
    simp [leadingMarkup?, placeholderInside?_append hinside]
  · obtain ⟨inside, hfilter, rfl⟩ := Option.map_eq_some_iff.mp h
    obtain ⟨hinside, hne⟩ := Option.filter_eq_some_iff.mp hfilter
    simp only [decide_eq_true_eq] at hne
    simp [leadingMarkup?, bracketInside?_append hinside, hne]
  · cases h

/-- The tokens of a closed template stay the same whatever comes behind it. -/
theorem tokens_append {t : Text} (ht : IsClosed t) (rest : Text) :
    tokens (t ++ rest) = tokens t ++ tokens rest := by
  have happend : ∀ {u ts}, Scans u ts → .letter (.char '{') ∉ ts →
      Scans (u ++ rest) (ts ++ tokens rest) := by
    intro u ts hscans
    induction hscans with
    | nil => exact fun _ => scans_tokens rest
    | @markup token after more htoken _ ih =>
        intro hclosed
        have htoken' := leadingMarkup?_append htoken rest
        rw [List.append_assoc] at htoken' ⊢
        exact .markup htoken' (ih fun hmem => hclosed (List.mem_cons_of_mem _ hmem))
    | @letter c after more _ _ ih =>
        intro hclosed
        have hc : c ≠ .char '{' := by
          rintro rfl
          exact hclosed List.mem_cons_self
        exact .letter (leadingMarkup?_of_ne_opening hc _)
          (ih fun hmem => hclosed (List.mem_cons_of_mem _ hmem))
  exact (happend (scans_tokens t) ht).tokens_eq

end Template

namespace Setting

/-- Rendering is compositional. Two templates one after the other, the first of them closed, are
rendered one after the other: the second one from the flags, the open branches and the lists that the
first one left. A failure is that of the first one, or that of the second one after it. -/
theorem render_append {t : Text} (ht : Template.IsClosed t) (s : Setting) (u : Text)
    (sheet : Sheet) :
    (∀ text last, s.render (t ++ u) sheet = .ok text last ↔
        ∃ first middle second, s.render t sheet = .ok first middle ∧
          s.render u middle = .ok second last ∧ text = first ++ second) ∧
      ∀ failure last, s.render (t ++ u) sheet = .error failure last ↔
        s.render t sheet = .error failure last ∨
          ∃ first middle, s.render t sheet = .ok first middle ∧
            s.render u middle = .error failure last := by
  have hrender : s.render (t ++ u) = (do
      let first ← s.render t
      let second ← s.render u
      pure (first ++ second)) := by
    rw [render, Template.tokens_append ht, renderTokens_append]
    rfl
  rw [hrender]
  constructor
  · intro text last
    constructor
    · intro h
      obtain ⟨first, middle, hfirst, hrest⟩ := Step.bind_eq_ok_iff.mp h
      obtain ⟨second, _, hsecond, hpure⟩ := Step.bind_eq_ok_iff.mp hrest
      cases hpure
      exact ⟨first, middle, second, hfirst, hsecond, rfl⟩
    · rintro ⟨first, middle, second, hfirst, hsecond, rfl⟩
      rw [Step.bind_of_ok hfirst, Step.bind_of_ok hsecond]
      rfl
  · intro failure last
    constructor
    · intro h
      rcases Step.bind_eq_error_iff.mp h with hfirst | ⟨first, middle, hfirst, hrest⟩
      · exact .inl hfirst
      · rcases Step.bind_eq_error_iff.mp hrest with hsecond | ⟨_, _, _, hpure⟩
        · exact .inr ⟨first, middle, hfirst, hsecond⟩
        · cases hpure
    · rintro (hfirst | ⟨first, middle, hfirst, hsecond⟩)
      · exact Step.bind_of_error hfirst _
      · rw [Step.bind_of_ok hfirst]
        exact Step.bind_of_error hsecond _

/-- A template that leaves a branch open. -/
def openingTemplate : Text :=
  List.flatMap Token.source
    [.placeholder "name", .bracket "file:a", .bracket "if:false", .letter (.char 'b')]

/-- A template that turns the branch around and closes it. -/
def closingTemplate : Text :=
  List.flatMap Token.source
    [.letter (.char 'c'), .bracket "else", .placeholder "name", .bracket "fi", .bracket "fi"]

theorem render_append_opening :
    ∃ (s : Setting) (middle last : Sheet),
      Template.IsClosed openingTemplate ∧
        s.render openingTemplate { flags := {} } = .ok "p" middle ∧ middle.flags.frames = [true] ∧
        s.render closingTemplate middle = .error (.skeleton none (.unmatched .close)) last ∧
        s.render (openingTemplate ++ closingTemplate) { flags := {} } =
          .error (.skeleton none (.unmatched .close)) last := by
  let s : Setting := {
    context := [("name", .text "p")]
    handler := some (Directive.handler fun _ _ => .ok false) }
  let middle : Sheet := { flags := { targetPath := "a", frames := [true] } }
  let last : Sheet := { flags := { targetPath := "a" } }
  have hclosed : Template.IsClosed openingTemplate := by decide +kernel
  have hfirst : s.render openingTemplate { flags := {} } = .ok "p" middle := by decide +kernel
  have hsecond : s.render closingTemplate middle =
      .error (.skeleton none (.unmatched .close)) last := by decide +kernel
  have happend := (render_append hclosed s closingTemplate { flags := {} }).2
    (.skeleton none (.unmatched .close)) last
  exact ⟨s, middle, last, hclosed, hfirst, rfl, hsecond,
    happend.mpr (.inr ⟨"p", middle, hfirst, hsecond⟩)⟩

end Setting

end Scaffold
