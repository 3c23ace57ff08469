import Scaffold.Focus

/-!
Computations with a state that may fail. What a sequence of two gives follows from what each of them
gives.
-/

namespace Scaffold.Step

variable {ε σ τ α β : Type}

instance [DecidableEq ε] [DecidableEq σ] [DecidableEq α] : DecidableEq (EStateM.Result ε σ α)
  | .ok a s, .ok b t => decidable_of_iff (a = b ∧ s = t) (by simp)
  | .error e s, .error f t => decidable_of_iff (e = f ∧ s = t) (by simp)
  | .ok _ _, .error _ _ => isFalse (by simp)
  | .error _ _, .ok _ _ => isFalse (by simp)

instance [DecidableEq ε] [DecidableEq α] : DecidableEq (Except ε α)
  | .ok a, .ok b => decidable_of_iff (a = b) (by simp)
  | .error e, .error f => decidable_of_iff (e = f) (by simp)
  | .ok _, .error _ => isFalse (by simp)
  | .error _, .ok _ => isFalse (by simp)

theorem bind_apply (x : EStateM ε σ α) (f : α → EStateM ε σ β) (s : σ) :
    (x >>= f) s =
      match x s with
      | .ok a t => f a t
      | .error e t => .error e t := rfl

theorem get_bind (f : σ → EStateM ε σ β) (s : σ) : (get >>= f) s = f s s := rfl

theorem bind_of_ok {x : EStateM ε σ α} {s t : σ} {a : α} (h : x s = .ok a t)
    (f : α → EStateM ε σ β) : (x >>= f) s = f a t := by
  rw [bind_apply, h]

theorem bind_of_error {x : EStateM ε σ α} {s t : σ} {e : ε} (h : x s = .error e t)
    (f : α → EStateM ε σ β) : (x >>= f) s = .error e t := by
  rw [bind_apply, h]

theorem bind_eq_ok_iff {x : EStateM ε σ α} {f : α → EStateM ε σ β} {s u : σ} {b : β} :
    (x >>= f) s = .ok b u ↔ ∃ a t, x s = .ok a t ∧ f a t = .ok b u := by
  rw [bind_apply]
  cases hx : x s with
  | ok a t =>
      constructor
      · intro h
        exact ⟨a, t, rfl, h⟩
      · rintro ⟨_, _, ⟨⟩, h⟩
        exact h
  | error e t => simp

theorem bind_eq_error_iff {x : EStateM ε σ α} {f : α → EStateM ε σ β} {s u : σ} {e : ε} :
    (x >>= f) s = .error e u ↔ x s = .error e u ∨ ∃ a t, x s = .ok a t ∧ f a t = .error e u := by
  rw [bind_apply]
  cases hx : x s with
  | ok a t =>
      constructor
      · intro h
        exact .inr ⟨a, t, rfl, h⟩
      · rintro (h | ⟨_, _, ⟨⟩, h⟩)
        · cases h
        · exact h
  | error f t => simp

/-- The state after a computation. -/
def state : EStateM.Result ε σ α → σ
  | .ok _ s => s
  | .error _ s => s

/-- What a computation comes to, whatever the state after it. -/
def outcome : EStateM.Result ε σ α → Except ε α
  | .ok a _ => .ok a
  | .error e _ => .error e

theorem ok_of_outcome {r : EStateM.Result ε σ α} {a : α} (h : outcome r = .ok a) :
    r = .ok a (state r) := by
  cases r with
  | ok b s =>
      cases h
      rfl
  | error e s => cases h

theorem error_of_outcome {r : EStateM.Result ε σ α} {e : ε} (h : outcome r = .error e) :
    r = .error e (state r) := by
  cases r with
  | ok a s => cases h
  | error f s =>
      cases h
      rfl

theorem focus_eq_ok_iff {get : τ → σ} {set : τ → σ → τ} {x : EStateM ε σ α} {t u : τ} {a : α} :
    focus get set x t = .ok a u ↔ ∃ s, x (get t) = .ok a s ∧ set t s = u := by
  unfold focus
  cases hx : x (get t) with
  | ok b s =>
      simp only [EStateM.Result.ok.injEq]
      constructor
      · rintro ⟨rfl, rfl⟩
        exact ⟨s, ⟨rfl, rfl⟩, rfl⟩
      · rintro ⟨_, ⟨rfl, rfl⟩, rfl⟩
        exact ⟨rfl, rfl⟩
  | error e s => simp

theorem focus_eq_error_iff {get : τ → σ} {set : τ → σ → τ} {x : EStateM ε σ α} {t u : τ} {e : ε} :
    focus get set x t = .error e u ↔ ∃ s, x (get t) = .error e s ∧ set t s = u := by
  unfold focus
  cases hx : x (get t) with
  | ok a s => simp
  | error f s =>
      simp only [EStateM.Result.error.injEq]
      constructor
      · rintro ⟨rfl, rfl⟩
        exact ⟨s, ⟨rfl, rfl⟩, rfl⟩
      · rintro ⟨_, ⟨rfl, rfl⟩, rfl⟩
        exact ⟨rfl, rfl⟩

theorem mapFailure_eq_ok_iff {change : ε → ε} {x : EStateM ε σ α} {s t : σ} {a : α} :
    mapFailure change x s = .ok a t ↔ x s = .ok a t := by
  rw [mapFailure]
  cases x s <;> simp

theorem mapFailure_eq_error_iff {change : ε → ε} {x : EStateM ε σ α} {s t : σ} {e : ε} :
    mapFailure change x s = .error e t ↔ ∃ cause, x s = .error cause t ∧ change cause = e := by
  rw [mapFailure]
  cases x s with
  | ok a u => simp
  | error cause u =>
      constructor
      · rintro ⟨⟩
        exact ⟨cause, rfl, rfl⟩
      · rintro ⟨_, ⟨⟩, rfl⟩
        rfl

theorem lift_apply (x : Except Failure α) (s : σ) :
    (liftM x : EStateM Failure σ α) s =
      match x with
      | .ok a => .ok a s
      | .error failure => .error failure s := by
  cases x <;> rfl

theorem lift_eq_ok_iff {x : Except Failure α} {s t : σ} {a : α} :
    (liftM x : EStateM Failure σ α) s = .ok a t ↔ x = .ok a ∧ s = t := by
  rw [lift_apply]
  cases x <;> simp

theorem lift_eq_error_iff {x : Except Failure α} {s t : σ} {failure : Failure} :
    (liftM x : EStateM Failure σ α) s = .error failure t ↔ x = .error failure ∧ s = t := by
  rw [lift_apply]
  cases x <;> simp

theorem map_eq_ok_iff {x : Except ε α} {f : α → β} {b : β} :
    x.map f = .ok b ↔ ∃ a, x = .ok a ∧ f a = b := by
  cases x <;> simp [Except.map]

theorem map_eq_error_iff {x : Except ε α} {f : α → β} {e : ε} :
    x.map f = .error e ↔ x = .error e := by
  cases x <;> simp [Except.map]

theorem except_bind_eq_ok_iff {x : Except ε α} {f : α → Except ε β} {b : β} :
    x >>= f = .ok b ↔ ∃ a, x = .ok a ∧ f a = .ok b := by
  cases x with
  | ok a =>
      constructor
      · intro h
        exact ⟨a, rfl, h⟩
      · rintro ⟨_, ⟨⟩, h⟩
        exact h
  | error e =>
      constructor
      · intro h
        cases h
      · rintro ⟨_, ⟨⟩, _⟩

theorem except_bind_eq_error_iff {x : Except ε α} {f : α → Except ε β} {e : ε} :
    x >>= f = .error e ↔ x = .error e ∨ ∃ a, x = .ok a ∧ f a = .error e := by
  cases x with
  | ok a =>
      constructor
      · intro h
        exact .inr ⟨a, rfl, h⟩
      · rintro (h | ⟨_, ⟨⟩, h⟩)
        · cases h
        · exact h
  | error f =>
      constructor
      · rintro ⟨⟩
        exact .inl rfl
      · rintro (⟨⟨⟩⟩ | ⟨_, h, _⟩)
        · rfl
        · cases h

/-- A computation leaves what `view` shows of the state as it is, also if it fails. -/
def Keeps (view : σ → τ) (x : EStateM ε σ α) : Prop := ∀ s, view (state (x s)) = view s

theorem Keeps.of_ok {view : σ → τ} {x : EStateM ε σ α} {s t : σ} {a : α} (hx : Keeps view x)
    (h : x s = .ok a t) : view t = view s := by
  have hs := hx s
  rwa [h] at hs

theorem Keeps.of_error {view : σ → τ} {x : EStateM ε σ α} {s t : σ} {e : ε} (hx : Keeps view x)
    (h : x s = .error e t) : view t = view s := by
  have hs := hx s
  rwa [h] at hs

theorem Keeps.bind {view : σ → τ} {x : EStateM ε σ α} {f : α → EStateM ε σ β} (hx : Keeps view x)
    (hf : ∀ a, Keeps view (f a)) : Keeps view (x >>= f) := by
  intro s
  rw [bind_apply]
  cases hstep : x s with
  | ok a t => exact (hf a t).trans (hx.of_ok hstep)
  | error e t => exact hx.of_error hstep

theorem keeps_focus {υ : Type} {get : τ → σ} {set : τ → σ → τ} {view : τ → υ} (x : EStateM ε σ α)
    (hset : ∀ t s, view (set t s) = view t) : Keeps view (focus get set x) := by
  intro t
  rw [focus]
  cases x (get t) <;> exact hset t _

theorem keeps_pure {view : σ → τ} (a : α) : Keeps view (pure a : EStateM ε σ α) := fun _ => rfl

theorem keeps_get_bind {view : σ → τ} {f : σ → EStateM ε σ α} (hf : ∀ s, Keeps view (f s)) :
    Keeps view (get >>= f) :=
  fun s => hf s s

theorem keeps_ite {view : σ → τ} {p : Prop} [Decidable p] {x y : EStateM ε σ α}
    (hx : Keeps view x) (hy : Keeps view y) : Keeps view (if p then x else y) := by
  split
  · exact hx
  · exact hy

theorem Keeps.mapFailure {view : σ → τ} {x : EStateM ε σ α} (hx : Keeps view x) (change : ε → ε) :
    Keeps view (mapFailure change x) := by
  intro s
  have hs := hx s
  rw [Scaffold.mapFailure]
  cases hstep : x s <;> rw [hstep] at hs <;> exact hs

/-- Every computation step leads to a state that is related to the one before, also if it fails. -/
def Advances (R : σ → σ → Prop) (x : EStateM ε σ α) : Prop := ∀ s, R s (state (x s))

section

variable {R : σ → σ → Prop}

theorem Advances.of_ok {x : EStateM ε σ α} {s t : σ} {a : α} (hx : Advances R x)
    (h : x s = .ok a t) : R s t := by
  have hs := hx s
  rwa [h] at hs

theorem Advances.of_error {x : EStateM ε σ α} {s t : σ} {e : ε} (hx : Advances R x)
    (h : x s = .error e t) : R s t := by
  have hs := hx s
  rwa [h] at hs

theorem advances_lift {R : σ → σ → Prop} (hrefl : ∀ s, R s s) (x : Except Failure α) :
    Advances R (liftM x : EStateM Failure σ α) := by
  intro s
  rw [lift_apply]
  cases x <;> exact hrefl s

theorem Advances.bind (htrans : ∀ s t u, R s t → R t u → R s u) {x : EStateM ε σ α}
    {f : α → EStateM ε σ β} (hx : Advances R x) (hf : ∀ a, Advances R (f a)) :
    Advances R (x >>= f) := by
  intro s
  rw [bind_apply]
  cases hstep : x s with
  | ok a t => exact htrans _ _ _ (hx.of_ok hstep) (hf a t)
  | error e t => exact hx.of_error hstep

theorem advances_get_bind {f : σ → EStateM ε σ β} (hf : ∀ s, Advances R (f s)) :
    Advances R (get >>= f) :=
  fun s => hf s s

end

/-- Every failure of a computation has the property `P`. -/
def Fails (P : ε → Prop) (x : EStateM ε σ α) : Prop := ∀ ⦃s t e⦄, x s = .error e t → P e

/-- The failure of a computation without state has the property `P`, if it fails. -/
def Refuses (P : ε → Prop) (x : Except ε α) : Prop := ∀ ⦃e⦄, x = .error e → P e

theorem tryCatch_apply (x : EStateM ε σ α) (handle : ε → EStateM ε σ α) (s : σ) :
    tryCatch x handle s =
      match x s with
      | .ok a t => .ok a t
      | .error e t => handle e t := by
  change EStateM.tryCatch x handle s = _
  delta EStateM.tryCatch
  dsimp only
  cases x s <;> rfl

theorem tryCatch_of_ok {x : EStateM ε σ α} {s t : σ} {a : α} (h : x s = .ok a t)
    (handle : ε → EStateM ε σ α) : tryCatch x handle s = .ok a t := by
  rw [tryCatch_apply, h]

theorem ok_of_tryCatch {x : EStateM ε σ α} {handle : ε → EStateM ε σ α} {s t : σ} {a : α}
    (h : tryCatch x handle s = .ok a t) : x s = .ok a t ∨ ∃ e u, handle e u = .ok a t := by
  rw [tryCatch_apply] at h
  cases hx : x s with
  | ok b u =>
      rw [hx] at h
      exact .inl h
  | error e u =>
      rw [hx] at h
      exact .inr ⟨e, u, h⟩

section

variable {P : ε → Prop}

theorem refuses_ok (a : α) : Refuses P (.ok a) := by
  intro e h
  cases h

theorem refuses_error {e : ε} (he : P e) : Refuses P (.error e : Except ε α) := by
  intro f h
  cases h
  exact he

theorem refuses_ite {p : Prop} [Decidable p] {x y : Except ε α} (hx : Refuses P x)
    (hy : Refuses P y) : Refuses P (if p then x else y) := by
  split
  · exact hx
  · exact hy

theorem Refuses.bind {x : Except ε α} {f : α → Except ε β} (hx : Refuses P x)
    (hf : ∀ a, Refuses P (f a)) : Refuses P (x >>= f) := by
  intro e h
  rcases except_bind_eq_error_iff.mp h with hstep | ⟨a, -, hrest⟩
  · exact hx hstep
  · exact hf a hrest

theorem Refuses.map {x : Except ε α} (hx : Refuses P x) (f : α → β) : Refuses P (x.map f) := by
  intro e h
  cases hstep : x with
  | ok a =>
      rw [hstep] at h
      cases h
  | error e' =>
      rw [hstep] at h
      cases h
      exact hx hstep

theorem Refuses.imp {Q : ε → Prop} {x : Except ε α} (hx : Refuses P x) (himp : ∀ e, P e → Q e) :
    Refuses Q x :=
  fun e h => himp e (hx h)

theorem Fails.imp {Q : ε → Prop} {x : EStateM ε σ α} (hx : Fails P x) (himp : ∀ e, P e → Q e) :
    Fails Q x :=
  fun _ _ e h => himp e (hx h)

theorem fails_pure (a : α) : Fails P (pure a : EStateM ε σ α) := by
  intro s t e h
  cases h

theorem fails_get : Fails P (get : EStateM ε σ σ) := by
  intro s t e h
  cases h

theorem fails_set (s : σ) : Fails P (set s : EStateM ε σ PUnit) := by
  intro s t e h
  cases h

theorem fails_modify (f : σ → σ) : Fails P (modify f : EStateM ε σ PUnit) := by
  intro s t e h
  cases h

theorem fails_throw {e : ε} (he : P e) : Fails P (throw e : EStateM ε σ α) := by
  intro s t f h
  cases h
  exact he

theorem Fails.bind {x : EStateM ε σ α} {f : α → EStateM ε σ β} (hx : Fails P x)
    (hf : ∀ a, Fails P (f a)) : Fails P (x >>= f) := by
  intro s u e h
  rcases bind_eq_error_iff.mp h with hstep | ⟨a, t, -, hrest⟩
  · exact hx hstep
  · exact hf a hrest

theorem fails_ite {p : Prop} [Decidable p] {x y : EStateM ε σ α} (hx : Fails P x)
    (hy : Fails P y) : Fails P (if p then x else y) := by
  split
  · exact hx
  · exact hy

theorem fails_tryCatch {x : EStateM ε σ α} {handle : ε → EStateM ε σ α}
    (hhandle : ∀ e, Fails P (handle e)) : Fails P (tryCatch x handle) := by
  intro s t e h
  rw [tryCatch_apply] at h
  cases hx : x s with
  | ok a u =>
      rw [hx] at h
      cases h
  | error other u =>
      rw [hx] at h
      exact hhandle other h

theorem fails_focus {get : τ → σ} {set : τ → σ → τ} {x : EStateM ε σ α} (hx : Fails P x) :
    Fails P (focus get set x) := by
  intro s t e h
  obtain ⟨u, hstep, -⟩ := focus_eq_error_iff.mp h
  exact hx hstep

theorem fails_lift {Q : Failure → Prop} {x : Except Failure α} (hx : Refuses Q x) :
    Fails Q (liftM x : EStateM Failure σ α) := by
  intro s t e h
  exact hx (lift_eq_error_iff.mp h).1

end

end Scaffold.Step
