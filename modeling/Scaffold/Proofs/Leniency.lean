import Scaffold.Proofs.Evaluation

/-!
What the policies for missing and for postponed values decide. A setting that is strict about one of
them fails where a lenient one goes on, and both do the same up to that point. So where the strict
one does not fail for want of a value, neither policy matters.
-/

namespace Scaffold

namespace Step

variable {ε σ τ α β : Type} {free : ε → Prop} {paired : ε → ε → Prop}

/-- Two results are the same, unless the first one is a failure that leaves the second one free or
is paired with it. -/
inductive Concurs (free : ε → Prop) (paired : ε → ε → Prop) :
    EStateM.Result ε σ α → EStateM.Result ε σ α → Prop where
  | same (r : EStateM.Result ε σ α) : Concurs free paired r r
  | free {e : ε} {s : σ} (h : free e) (r : EStateM.Result ε σ α) :
      Concurs free paired (.error e s) r
  | paired {e f : ε} {s : σ} (h : paired e f) : Concurs free paired (.error e s) (.error f s)

/-- From every state two computations come to concurring results. -/
def InConcert (free : ε → Prop) (paired : ε → ε → Prop) (x y : EStateM ε σ α) : Prop :=
  ∀ s, Concurs free paired (x s) (y s)

theorem inConcert_refl (x : EStateM ε σ α) : InConcert free paired x x := fun s => .same (x s)

theorem InConcert.bind {x y : EStateM ε σ α} {f g : α → EStateM ε σ β}
    (hx : InConcert free paired x y) (hf : ∀ a, InConcert free paired (f a) (g a)) :
    InConcert free paired (x >>= f) (y >>= g) := by
  intro s
  have hs := hx s
  rw [bind_apply, bind_apply]
  generalize x s = first at hs ⊢
  generalize y s = second at hs ⊢
  cases hs with
  | same =>
      cases first with
      | ok a t => exact hf a t
      | error e t => exact .same _
  | free h => exact .free h _
  | paired h => exact .paired h

theorem InConcert.focus {get : τ → σ} {set : τ → σ → τ} {x y : EStateM ε σ α}
    (hxy : InConcert free paired x y) :
    InConcert free paired (focus get set x) (focus get set y) := by
  intro t
  have hs := hxy (get t)
  unfold Scaffold.focus
  generalize x (get t) = first at hs ⊢
  generalize y (get t) = second at hs ⊢
  cases hs with
  | same => exact .same _
  | free h => exact .free h _
  | paired h => exact .paired h

theorem Concurs.eq_of_not_free {r r' : EStateM.Result ε σ α} (h : Concurs free paired r r')
    (hfree : ∀ e s, r = .error e s → ¬ free e) (hpaired : ∀ e s f, r = .error e s → ¬ paired e f) :
    r' = r := by
  cases h with
  | same => rfl
  | free h => exact absurd h (hfree _ _ rfl)
  | paired h => exact absurd h (hpaired _ _ _ rfl)

/-- A computation that succeeds is followed to its end. -/
theorem InConcert.of_ok {x y : EStateM ε σ α} (h : InConcert free paired x y) {s t : σ} {a : α}
    (hx : x s = .ok a t) : y s = .ok a t := by
  rw [(h s).eq_of_not_free (by simp [hx]) (by simp [hx]), hx]

end Step

namespace Setting

open Step (InConcert)

/-- A setting with other policies for values that are missing and for values that are still to
come. -/
def under (s : Setting) (missing : MissingPolicy) (postpone : Bool) : Setting :=
  { s with missing, postpone }

/-- Rendering fails because a value is missing. -/
def IsMissing (failure : Failure) : Prop := ∃ key, failure = .template (.missingValue key)

/-- Rendering is postponed, or fails because it would have to be postponed again for the value of a
key. -/
def IsPostponedTwice (s : Setting) (failure again : Failure) : Prop :=
  failure = .foreign .postponed ∧ ∃ key asked, again = .template (.postponedTwice key) ∧
    Value.IsLate s.context key asked

variable {s : Setting} {missing missing' : MissingPolicy} {postpone postpone' : Bool}

section

variable {free : Failure → Prop} {paired : Failure → Failure → Prop}
  (hsubstitute : ∀ inside, InConcert free paired
    ((s.under missing postpone).substitute inside)
    ((s.under missing' postpone').substitute inside))

include hsubstitute

theorem inConcert_expandToken (token : Token) :
    InConcert free paired ((s.under missing postpone).expandToken token)
      ((s.under missing' postpone').expandToken token) := by
  cases token with
  | placeholder inside => exact hsubstitute inside
  | letter | bracket => exact Step.inConcert_refl _

theorem inConcert_expandTokens (tokens : List Token) :
    InConcert free paired ((s.under missing postpone).expandTokens tokens)
      ((s.under missing' postpone').expandTokens tokens) := by
  induction tokens with
  | nil => exact Step.inConcert_refl _
  | cons token rest ih =>
      exact (inConcert_expandToken hsubstitute token).bind fun first =>
        ih.bind fun more => Step.inConcert_refl _

theorem inConcert_renderToken (token : Token) :
    InConcert free paired ((s.under missing postpone).renderToken token)
      ((s.under missing' postpone').renderToken token) := by
  cases token with
  | letter c => exact Step.inConcert_refl _
  | placeholder inside =>
      refine (Step.inConcert_refl get).bind fun sheet => ?_
      change InConcert free paired (if s.suppresses sheet.flags then _ else _)
        (if s.suppresses sheet.flags then _ else _)
      split
      · exact Step.inConcert_refl _
      · exact (hsubstitute inside).focus
  | bracket inside =>
      cases hhandler : s.handler with
      | none =>
          simp only [renderToken, under, hhandler]
          exact Step.inConcert_refl _
      | some handle =>
          rw [(s.under missing postpone).renderToken_of_handler hhandler,
            (s.under missing' postpone').renderToken_of_handler hhandler]
          exact (inConcert_expandTokens hsubstitute _).focus.bind fun directive =>
            Step.inConcert_refl _

/-- Settings that differ in their policies alone render in concert if they replace placeholders in
concert: the text in a bracket, and with it what the bracket does, is the same in both until one of
them fails. -/
theorem inConcert_renderTokens (tokens : List Token) :
    InConcert free paired ((s.under missing postpone).renderTokens tokens)
      ((s.under missing' postpone').renderTokens tokens) := by
  induction tokens with
  | nil => exact Step.inConcert_refl _
  | cons token rest ih =>
      exact (inConcert_renderToken hsubstitute token).bind fun first =>
        ih.bind fun more => Step.inConcert_refl _

end

variable (s)

/-- A setting that fails for missing values concurs with every other one, but for that failure. -/
theorem inConcert_substitute_missing (missing : MissingPolicy) (postpone : Bool) (inside : Text) :
    InConcert IsMissing (fun _ _ => False) ((s.under .error postpone).substitute inside)
      ((s.under missing postpone).substitute inside) := by
  cases hparts : parts inside with
  | nil =>
      rw [substitute, substitute, hparts]
      exact Step.inConcert_refl _
  | cons key names =>
      rw [substitute_of_parts _ hparts, substitute_of_parts _ hparts]
      refine (Step.inConcert_refl _).bind fun found => ?_
      cases found with
      | some v => exact Step.inConcert_refl _
      | none => exact fun changes => .free ⟨key, rfl⟩ _

/-- Whether a placeholder may be postponed decides only in which way it fails. -/
theorem inConcert_substitute_postponed (missing : MissingPolicy) (inside : Text) :
    InConcert (fun _ => False) s.IsPostponedTwice ((s.under missing true).substitute inside)
      ((s.under missing false).substitute inside) := by
  cases hparts : parts inside with
  | nil =>
      rw [substitute, substitute, hparts]
      exact Step.inConcert_refl _
  | cons key names =>
      rw [substitute_of_parts _ hparts, substitute_of_parts _ hparts]
      refine InConcert.bind (fun changes => ?_) fun found => Step.inConcert_refl _
      have hcontext : ∀ postpone, (s.under missing postpone).context = s.context := fun _ => rfl
      rw [mapFailure, mapFailure, hcontext, hcontext]
      cases hlookup : Value.lookup s.context key changes with
      | ok found after => exact .same _
      | error failure after =>
          by_cases hpostponed : failure = .foreign .postponed
          · subst hpostponed
            exact .paired ⟨rfl, key, changes, rfl, after, hlookup⟩
          · dsimp only
            rw [reported_of_genuine hpostponed, reported_of_genuine hpostponed]
            exact .same _

variable {s} {tokens : List Token} {sheet : Sheet} {key : Text} {asked : Changes}

theorem failsFor_postponedTwice (missing : MissingPolicy)
    (hlate : Value.IsLate s.context key asked) :
    FailsFor (s.under missing true) (s.under missing false) key asked
      (.template (.postponedTwice key)) where
  handler := rfl
  heedsFrames := rfl
  expandToken := (inConcert_expandToken (s.inConcert_substitute_postponed missing) _).of_ok
  renderToken := (inConcert_renderToken (s.inConcert_substitute_postponed missing) _).of_ok
  substitute hparts := substitute_of_late (s := s.under missing false) hparts hlate

/-- A value that rendering asks for and that is still to come postpones rendering, or fails it in
the same state if it must not be postponed again. -/
theorem render_of_asks_again {t : Text}
    (hasks : (s.under missing true).Asks (Template.tokens t) sheet key asked)
    (hlate : Value.IsLate s.context key asked) :
    ∃ last, (s.under missing true).render t sheet = .error (.foreign .postponed) last ∧
      (s.under missing false).render t sheet = .error (.template (.postponedTwice key)) last := by
  obtain ⟨last, hlast⟩ := renderTokens_of_asks rfl hasks hlate
  obtain ⟨last', hlast'⟩ := (failsFor_postponedTwice missing hlate).renderTokens hasks
  have hconcurs := inConcert_renderTokens (s.inConcert_substitute_postponed missing)
    (Template.tokens t) sheet
  rw [hlast, hlast'] at hconcurs
  -- The two failures differ, so they are paired, and a pair has one state.
  cases hconcurs with
  | free h => exact h.elim
  | paired h => exact ⟨last, hlast, hlast'⟩

/-- Being postponed is the one thing that a setting which may not postpone does not do. -/
theorem render_of_postponed {t : Text} {last : Sheet}
    (h : (s.under missing true).render t sheet = .error (.foreign .postponed) last) :
    (s.under missing false).render t sheet = .error (.foreign .postponed) last ∨
      ∃ key asked, Value.IsLate s.context key asked ∧
        (s.under missing false).render t sheet = .error (.template (.postponedTwice key)) last := by
  have hconcurs := inConcert_renderTokens (s.inConcert_substitute_postponed missing)
    (Template.tokens t) sheet
  rw [← render, ← render, h] at hconcurs
  generalize (s.under missing false).render t sheet = again at hconcurs ⊢
  cases hconcurs with
  | same => exact .inl rfl
  | free h => exact h.elim
  | paired h =>
      obtain ⟨-, key, asked, rfl, hlate⟩ := h
      exact .inr ⟨key, asked, hlate, rfl⟩

theorem render_of_not_missing {t : Text}
    (h : ∀ key last, (s.under .error postpone).render t sheet ≠
      .error (.template (.missingValue key)) last) (missing : MissingPolicy) :
    (s.under missing postpone).render t sheet = (s.under .error postpone).render t sheet := by
  refine (inConcert_renderTokens (s.inConcert_substitute_missing missing postpone)
    (Template.tokens t) sheet).eq_of_not_free ?_ fun _ _ _ _ => id
  rintro failure last hfailure ⟨key, rfl⟩
  exact h key last hfailure

theorem render_of_not_postponed {t : Text}
    (h : ∀ last, (s.under missing true).render t sheet ≠ .error (.foreign .postponed) last) :
    (s.under missing false).render t sheet = (s.under missing true).render t sheet := by
  refine (inConcert_renderTokens (s.inConcert_substitute_postponed missing)
    (Template.tokens t) sheet).eq_of_not_free (fun _ _ _ => id) ?_
  rintro failure last again hfailure ⟨rfl, -⟩
  exact h last hfailure

theorem render_of_strict {t text : Text} {last : Sheet}
    (h : (s.under .error false).render t sheet = .ok text last) (missing : MissingPolicy)
    (postpone : Bool) : (s.under missing postpone).render t sheet = .ok text last := by
  have hpostpone : (s.under .error postpone).render t sheet = .ok text last := by
    cases postpone with
    | false => exact h
    | true =>
        have hnever : ∀ last', (s.under .error true).render t sheet ≠
            .error (.foreign .postponed) last' := by
          intro last' hpostponed
          rcases render_of_postponed hpostponed with hagain | ⟨key, _, -, hagain⟩
          all_goals
            rw [h] at hagain
            cases hagain
        rw [← render_of_not_postponed hnever, h]
  rw [render_of_not_missing (by simp [hpostpone]), hpostpone]

/-- The policies for missing and for postponed values matter only for values that are missing or
postponed. Whatever rendering does when missing values are failures, it does as well when they are
kept or left out, unless it fails for a missing value. Whatever it does when it may be postponed, it
does as well when it may not, unless it is postponed: then it fails in the same state, for the
value that postponed it. A template that renders under the strictest policies renders to the same
text and the same flags under all of them. -/
theorem render_under (s : Setting) (t : Text) (sheet : Sheet) :
    (∀ postpone, (∀ key last, (s.under .error postpone).render t sheet ≠
        .error (.template (.missingValue key)) last) →
      ∀ missing, (s.under missing postpone).render t sheet =
        (s.under .error postpone).render t sheet) ∧
    (∀ missing, (∀ last, (s.under missing true).render t sheet ≠
        .error (.foreign .postponed) last) →
      (s.under missing false).render t sheet = (s.under missing true).render t sheet) ∧
    (∀ missing key asked, (s.under missing true).Asks (Template.tokens t) sheet key asked →
      Value.IsLate s.context key asked →
      ∃ last, (s.under missing true).render t sheet = .error (.foreign .postponed) last ∧
        (s.under missing false).render t sheet = .error (.template (.postponedTwice key)) last) ∧
    (∀ missing last, (s.under missing true).render t sheet = .error (.foreign .postponed) last →
      (s.under missing false).render t sheet = .error (.foreign .postponed) last ∨
        ∃ key asked, Value.IsLate s.context key asked ∧
          (s.under missing false).render t sheet = .error (.template (.postponedTwice key)) last) ∧
    ∀ text last, (s.under .error false).render t sheet = .ok text last →
      ∀ missing postpone, (s.under missing postpone).render t sheet = .ok text last :=
  ⟨fun _ => render_of_not_missing, fun _ => render_of_not_postponed,
    fun _ _ _ => render_of_asks_again, fun _ _ => render_of_postponed, fun _ _ => render_of_strict⟩

/-- A setting with a value that is there and one that is still to come. -/
def waiting : Setting where
  context := [("name", .text "demo"), ("later", .pending)]
  handler := some (Directive.handler fun _ _ => .ok true)

/-- A template whose values are all there. -/
def readyTemplate : Text :=
  List.flatMap Token.source [
    .bracket ("file:" ++ (Token.placeholder "name").source), .letter (.char 'a')]

/-- A template with a filter that does not exist. -/
def faultyTemplate : Text :=
  List.flatMap Token.source [.letter (.char 'a'), .placeholder "name|unheard"]

/-- A template with a bracket whose text is still to come. -/
def lateTemplate : Text :=
  List.flatMap Token.source [.letter (.char 'a'), .bracket (Token.placeholder "later").source]

theorem render_under_waiting :
    (∀ missing postpone, (waiting.under missing postpone).render readyTemplate { flags := {} } =
        .ok "a" { flags := { targetPath := "demo" } }) ∧
      (∀ missing postpone, (waiting.under missing postpone).render faultyTemplate { flags := {} } =
        .error (.template (.unknownFilter "unheard")) { flags := {} }) ∧
      ∀ missing, ∃ last,
        (waiting.under missing true).render lateTemplate { flags := {} } =
          .error (.foreign .postponed) last ∧
        (waiting.under missing false).render lateTemplate { flags := {} } =
          .error (.template (.postponedTwice "later")) last := by
  refine ⟨?_, ?_, ?_⟩
  · exact (waiting.render_under readyTemplate { flags := {} }).2.2.2.2 _ _ (by decide +kernel)
  · have hfaulty : (waiting.under .error true).render faultyTemplate { flags := {} } =
        .error (.template (.unknownFilter "unheard")) { flags := {} } := by decide +kernel
    have hlenient : ∀ missing, (waiting.under missing true).render faultyTemplate { flags := {} } =
        .error (.template (.unknownFilter "unheard")) { flags := {} } := by
      intro missing
      rw [(waiting.render_under faultyTemplate { flags := {} }).1 true (by simp [hfaulty]), hfaulty]
    intro missing postpone
    cases postpone with
    | true => exact hlenient missing
    | false =>
        rw [(waiting.render_under faultyTemplate { flags := {} }).2.1 missing (by simp [hlenient]),
          hlenient]
  · intro missing
    have htokens : Template.tokens lateTemplate =
        [.letter (.char 'a'), .bracket (Token.placeholder "later").source] := by decide +kernel
    have hdirective : Template.tokens (Template.core (Token.placeholder "later").source) =
        [.placeholder "later"] := by decide +kernel
    refine (waiting.render_under lateTemplate { flags := {} }).2.2.1 missing "later" [] ?_ ⟨[], rfl⟩
    rw [htokens]
    refine .later rfl (.bracket rfl ?_)
    rw [hdirective]
    exact .here (show parts "later" = [("later" : Text)] by decide)

end Setting

end Scaffold
