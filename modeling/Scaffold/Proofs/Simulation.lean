import Scaffold.Proofs.Steps

/-!
Computations in step. Two computations on different states are in step if they end in the same way
from states that are related, and leave related states.
-/

namespace Scaffold.Step

variable {ε σ τ σ' τ' α β : Type} {R : σ → τ → Prop}

/-- Two results are both successes with the same value or both the same failure, and their states
are related. -/
inductive Matches (R : σ → τ → Prop) : EStateM.Result ε σ α → EStateM.Result ε τ α → Prop where
  | ok {a : α} {s : σ} {t : τ} (h : R s t) : Matches R (.ok a s) (.ok a t)
  | error {e : ε} {s : σ} {t : τ} (h : R s t) : Matches R (.error e s) (.error e t)

/-- From related states both computations come to matching results. -/
def InStep (R : σ → τ → Prop) (x : EStateM ε σ α) (y : EStateM ε τ α) : Prop :=
  ∀ ⦃s t⦄, R s t → Matches R (x s) (y t)

theorem Matches.outcome_eq {r : EStateM.Result ε σ α} {r' : EStateM.Result ε τ α}
    (h : Matches R r r') : outcome r = outcome r' := by
  cases h <;> rfl

theorem Matches.imp {R' : σ → τ → Prop} {r : EStateM.Result ε σ α} {r' : EStateM.Result ε τ α}
    (h : Matches R r r') (himp : ∀ s t, R s t → R' s t) : Matches R' r r' := by
  cases h with
  | ok hst => exact .ok (himp _ _ hst)
  | error hst => exact .error (himp _ _ hst)

theorem Matches.state {r : EStateM.Result ε σ α} {r' : EStateM.Result ε τ α}
    (h : Matches R r r') : R (state r) (state r') := by
  cases h with
  | ok hst => exact hst
  | error hst => exact hst

theorem inStep_refl (x : EStateM ε σ α) : InStep Eq x x := by
  rintro s _ rfl
  cases x s with
  | ok a t => exact Matches.ok rfl
  | error e t => exact Matches.error rfl

theorem inStep_pure (a : α) : InStep R (pure a : EStateM ε σ α) (pure a) :=
  fun _ _ h => Matches.ok h

theorem Matches.bind {x : EStateM ε σ α} {y : EStateM ε τ α} {f : α → EStateM ε σ β}
    {g : α → EStateM ε τ β} {s : σ} {t : τ} (h : Matches R (x s) (y t))
    (hf : ∀ a s', x s = .ok a s' → InStep R (f a) (g a)) :
    Matches R ((x >>= f) s) ((y >>= g) t) := by
  rw [bind_apply, bind_apply]
  cases hleft : x s with
  | ok a s' =>
      rw [hleft] at h
      generalize y t = right at h ⊢
      cases h with
      | ok hnext => exact hf a s' hleft hnext
  | error e s' =>
      rw [hleft] at h
      generalize y t = right at h ⊢
      cases h with
      | error hnext => exact Matches.error hnext

/-- The second computations have to be in step only after what the first one can come to. -/
theorem InStep.bind_of_ok {x : EStateM ε σ α} {y : EStateM ε τ α} {f : α → EStateM ε σ β}
    {g : α → EStateM ε τ β} (hx : InStep R x y)
    (hf : ∀ a, (∃ s t s', R s t ∧ x s = .ok a s') → InStep R (f a) (g a)) :
    InStep R (x >>= f) (y >>= g) :=
  fun s t h => (hx h).bind fun a s' hs => hf a ⟨s, t, s', h, hs⟩

theorem InStep.bind {x : EStateM ε σ α} {y : EStateM ε τ α} {f : α → EStateM ε σ β}
    {g : α → EStateM ε τ β} (hx : InStep R x y) (hf : ∀ a, InStep R (f a) (g a)) :
    InStep R (x >>= f) (y >>= g) :=
  hx.bind_of_ok fun a _ => hf a

theorem inStep_get_bind {f : σ → EStateM ε σ α} {g : τ → EStateM ε τ α}
    (hf : ∀ ⦃s t⦄, R s t → InStep R (f s) (g t)) : InStep R (get >>= f) (get >>= g) :=
  fun _ _ h => hf h h

theorem inStep_modify {f : σ → σ} {g : τ → τ} (hf : ∀ ⦃s t⦄, R s t → R (f s) (g t)) :
    InStep (ε := ε) R (modify f) (modify g) :=
  fun _ _ h => Matches.ok (hf h)

theorem inStep_throw (e : ε) : InStep R (throw e : EStateM ε σ α) (throw e) :=
  fun _ _ h => Matches.error h

theorem inStep_lift {R : σ → τ → Prop} (x : Except Failure α) :
    InStep R (liftM x : EStateM Failure σ α) (liftM x) := by
  intro s t h
  rw [lift_apply, lift_apply]
  cases x with
  | ok a => exact Matches.ok h
  | error failure => exact Matches.error h

theorem inStep_ite {p : Prop} [Decidable p] {x x' : EStateM ε σ α} {y y' : EStateM ε τ α}
    (hx : InStep R x y) (hx' : InStep R x' y') :
    InStep R (if p then x else x') (if p then y else y') := by
  split
  · exact hx
  · exact hx'

theorem inStep_mapM {γ : Type} {f : γ → EStateM ε σ α} {g : γ → EStateM ε τ α}
    (h : ∀ c, InStep R (f c) (g c)) (items : List γ) : InStep R (items.mapM f) (items.mapM g) := by
  induction items with
  | nil => exact inStep_pure []
  | cons c rest ih =>
      rw [List.mapM_cons, List.mapM_cons]
      exact (h c).bind fun a => ih.bind fun more => inStep_pure (a :: more)

theorem inStep_foldlM {γ : Type} {f : α → γ → EStateM ε σ α} {g : α → γ → EStateM ε τ α}
    (h : ∀ a c, InStep R (f a c) (g a c)) (items : List γ) (a : α) :
    InStep R (items.foldlM f a) (items.foldlM g a) := by
  induction items generalizing a with
  | nil => exact inStep_pure a
  | cons c rest ih =>
      rw [List.foldlM_cons, List.foldlM_cons]
      exact (h a c).bind ih

theorem inStep_focus {Q : σ' → τ' → Prop} {get : σ → σ'} {set : σ → σ' → σ} {get' : τ → τ'}
    {set' : τ → τ' → τ} {x : EStateM ε σ' α} {y : EStateM ε τ' α} (hxy : InStep Q x y)
    (hget : ∀ ⦃s t⦄, R s t → Q (get s) (get' t))
    (hset : ∀ ⦃s t u v⦄, R s t → Q u v → R (set s u) (set' t v)) :
    InStep R (focus get set x) (focus get' set' y) := by
  intro s t h
  have hstep := hxy (hget h)
  unfold focus
  generalize x (get s) = left at hstep ⊢
  generalize y (get' t) = right at hstep ⊢
  cases hstep with
  | ok hnext => exact Matches.ok (hset h hnext)
  | error hnext => exact Matches.error (hset h hnext)

theorem InStep.mapFailure {x : EStateM ε σ α} {y : EStateM ε τ α} (hxy : InStep R x y)
    (change : ε → ε) : InStep R (mapFailure change x) (mapFailure change y) := by
  intro s t h
  have hstep := hxy h
  unfold Scaffold.mapFailure
  generalize x s = left at hstep ⊢
  generalize y t = right at hstep ⊢
  cases hstep with
  | ok hnext => exact Matches.ok hnext
  | error hnext => exact Matches.error hnext

end Scaffold.Step
