import Scaffold.Proofs.Directives

/-!
The changes of lists are only added to. Where none has been added in the end, none was added on the
way.
-/

namespace Scaffold

namespace Step

variable {ε σ τ υ α β : Type}

/-- A computation only adds to the list that `view` shows of the state, also if it fails. -/
def Extends (view : σ → List υ) (x : EStateM ε σ α) : Prop :=
  Advances (fun s t => view s <+: view t) x

section

variable {view : σ → List υ}

theorem extends_pure (a : α) : Extends view (pure a : EStateM ε σ α) := fun _ => List.prefix_rfl

theorem extends_lift {view : σ → List υ} (x : Except Failure α) :
    Extends view (liftM x : EStateM Failure σ α) :=
  advances_lift (R := fun s t => view s <+: view t) (fun _ => List.prefix_rfl) x

theorem Extends.bind {x : EStateM ε σ α} {f : α → EStateM ε σ β} (hx : Extends view x)
    (hf : ∀ a, Extends view (f a)) : Extends view (x >>= f) :=
  Advances.bind (R := fun s t => view s <+: view t) (fun _ _ _ => List.IsPrefix.trans) hx hf

theorem extends_get_bind {f : σ → EStateM ε σ α} (hf : ∀ s, Extends view (f s)) :
    Extends view (get >>= f) :=
  advances_get_bind hf

theorem extends_ite {p : Prop} [Decidable p] {x y : EStateM ε σ α} (hx : Extends view x)
    (hy : Extends view y) : Extends view (if p then x else y) := by
  split
  · exact hx
  · exact hy

theorem extends_focus {get : τ → σ} {set : τ → σ → τ} {outer : τ → List υ} {x : EStateM ε σ α}
    (hx : Extends view x) (hget : ∀ t, view (get t) = outer t)
    (hset : ∀ t s, outer (set t s) = view s) : Extends outer (focus get set x) := by
  intro t
  have hgrows : view (get t) <+: view (state (x (get t))) := hx (get t)
  rw [hget] at hgrows
  rw [focus]
  cases hstep : x (get t) with
  | ok a s =>
      rw [hstep] at hgrows
      exact (hset t s).symm ▸ hgrows
  | error e s =>
      rw [hstep] at hgrows
      exact (hset t s).symm ▸ hgrows

theorem Extends.mapFailure {x : EStateM ε σ α} (hx : Extends view x) (change : ε → ε) :
    Extends view (mapFailure change x) := by
  intro s
  have hgrows := hx s
  rw [Scaffold.mapFailure]
  cases hstep : x s <;> rw [hstep] at hgrows <;> exact hgrows

theorem Keeps.extends {x : EStateM ε σ α} (hx : Keeps view x) : Extends view x := by
  intro s
  have hsame : view (state (x s)) = view s := hx s
  exact ⟨[], (List.append_nil _).trans hsame.symm⟩

/-- If a sequence adds nothing, its first computation does not either. -/
theorem Extends.first_of_bind {x : EStateM ε σ α} {f : α → EStateM ε σ β} {s : σ}
    (hx : Extends view x) (hf : ∀ a, Extends view (f a))
    (h : view (state ((x >>= f) s)) = view s) : view (state (x s)) = view s := by
  have hfirst : view s <+: view (state (x s)) := hx s
  rw [bind_apply] at h
  cases hstep : x s with
  | error e t =>
      rw [hstep] at h
      exact h
  | ok a t =>
      rw [hstep] at h hfirst
      have hsecond : view t <+: view s := h ▸ hf a t
      exact hsecond.eq_of_length (Nat.le_antisymm hsecond.length_le hfirst.length_le)

/-- If a sequence adds nothing, neither of its computations does. -/
theorem Extends.bind_eq_ok {x : EStateM ε σ α} {f : α → EStateM ε σ β} {s u : σ} {b : β}
    (hx : Extends view x) (hf : ∀ a, Extends view (f a)) (h : (x >>= f) s = .ok b u)
    (hsame : view u = view s) :
    ∃ a t, x s = .ok a t ∧ f a t = .ok b u ∧ view t = view s ∧ view u = view t := by
  obtain ⟨a, t, hstep, hrest⟩ := bind_eq_ok_iff.mp h
  have hfirst : view s <+: view t := hx.of_ok hstep
  have hsecond : view t <+: view s := hsame ▸ (hf a).of_ok hrest
  have hmiddle : view t = view s :=
    hsecond.eq_of_length (Nat.le_antisymm hsecond.length_le hfirst.length_le)
  exact ⟨a, t, hstep, hrest, hmiddle, hsame.trans hmiddle.symm⟩

end

end Step

open Step (Extends)

/-- Looking something up only adds to the changes of lists. -/
abbrev Looking.Grows {α : Type} (x : Looking α) : Prop := Extends (fun changes => changes) x

/-- Rendering only adds to the changes of lists. -/
abbrev Rendering.Grows {α : Type} (x : Rendering α) : Prop := Extends Sheet.changes x

namespace Value

theorem grows_note (list : Option ListId) (method : ListMethod) : (note list method).Grows := by
  cases list with
  | none => exact Step.extends_pure ()
  | some changed => exact fun changes => List.prefix_append changes _

theorem grows_listAttribute (list : Option ListId) (items : List Value) (name : Text) :
    (listAttribute list items name).Grows := by
  unfold listAttribute
  split
  · exact (Step.extends_lift _).bind fun result =>
      (grows_note list _).bind fun _ => Step.extends_pure (some result)
  · exact Step.extends_lift _

theorem grows_step (v : Value) (segment : Text) : (step v segment).Grows := by
  cases v with
  | table entries =>
      unfold step
      dsimp only
      split <;> exact Step.extends_lift _
  | list list items => exact grows_listAttribute list items segment
  | text | kind | null | bool | int | float | computed | pending => exact Step.extends_lift _
  | project | package => exact Step.extends_pure _

theorem grows_follow (v : Value) (segments : List Text) : (follow v segments).Grows := by
  induction segments generalizing v with
  | nil => exact Step.extends_pure _
  | cons segment rest ih =>
      refine (grows_step v segment).bind fun found => ?_
      cases found with
      | some inner => exact ih inner
      | none => exact Step.extends_pure none

theorem grows_lookup (context : Entries Value) (path : Text) : (lookup context path).Grows :=
  Step.extends_get_bind fun _ => grows_follow _ _

end Value

theorem Rendering.grows_looking {α : Type} {x : Looking α} (hx : x.Grows) :
    Rendering.Grows (liftM x) :=
  Step.extends_focus hx (fun _ => rfl) fun _ _ => rfl

theorem Directive.grows_handler (evaluate : LiveEvaluator) (directive : Text) :
    (handler evaluate directive).Grows := by
  intro sheet
  rw [handler_eq]
  cases (ofText directive).edit (evaluate sheet.changes) sheet.flags <;> exact List.prefix_rfl

namespace Setting

variable (s : Setting)

theorem grows_substitute (inside : Text) : (s.substitute inside).Grows := by
  unfold substitute
  split
  · exact Step.extends_pure _
  · exact ((Value.grows_lookup _ _).mapFailure _).bind fun _ => Step.extends_lift _

theorem grows_expandToken (token : Token) : (s.expandToken token).Grows := by
  cases token with
  | placeholder inside => exact s.grows_substitute inside
  | letter | bracket => exact Step.extends_pure _

theorem grows_expandTokens (tokens : List Token) : (s.expandTokens tokens).Grows := by
  induction tokens with
  | nil => exact Step.extends_pure []
  | cons token rest ih =>
      exact (s.grows_expandToken token).bind fun first =>
        ih.bind fun more => Step.extends_pure (first ++ more)

theorem grows_emit (t : Text) : (s.emit t).Grows := by
  intro sheet
  rw [emit_apply]
  exact List.prefix_rfl

/-- The handler of brackets, if there is one, only adds to the changes of lists. -/
def Handles : Prop := ∀ handle, s.handler = some handle → ∀ directive, (handle directive).Grows

variable {s}

theorem handles_of_directives {evaluate : LiveEvaluator}
    (h : s.handler = some (Directive.handler evaluate)) : s.Handles := by
  intro handle hhandle directive
  rw [h] at hhandle
  cases hhandle
  exact Directive.grows_handler evaluate directive

theorem handles_withDirectives (s : Setting) (evaluate : LiveEvaluator) :
    (s.withDirectives evaluate).Handles :=
  handles_of_directives rfl

theorem handles_of_none (h : s.handler = none) : s.Handles := by
  intro handle hhandle
  rw [h] at hhandle
  cases hhandle

theorem grows_renderToken (hhandles : s.Handles) (token : Token) : (s.renderToken token).Grows := by
  have hinserted : token.isBracket = false ∨ s.handler = none → (s.renderToken token).Grows := by
    intro htoken sheet
    rw [s.renderToken_of_inserted htoken]
    split
    · exact List.prefix_rfl
    · exact Rendering.grows_looking (s.grows_expandToken token) sheet
  cases token with
  | letter c => exact hinserted (.inl rfl)
  | placeholder inside => exact hinserted (.inl rfl)
  | bracket inside =>
      cases hhandle : s.handler with
      | none => exact hinserted (.inr hhandle)
      | some handle =>
          rw [s.renderToken_of_handler hhandle]
          exact (Rendering.grows_looking (s.grows_expandTokens _)).bind fun directive =>
            (hhandles handle hhandle directive).bind fun t => s.grows_emit t

theorem grows_renderTokens (hhandles : s.Handles) (tokens : List Token) :
    (s.renderTokens tokens).Grows := by
  induction tokens with
  | nil => exact Step.extends_pure []
  | cons token rest ih =>
      exact (grows_renderToken hhandles token).bind fun first =>
        ih.bind fun more => Step.extends_pure (first ++ more)

/-- Rendering that changes no list does so token by token. -/
theorem renderTokens_cons_of_kept (hhandles : s.Handles) {token : Token} {rest : List Token}
    {sheet last : Sheet} {text : Text} (h : s.renderTokens (token :: rest) sheet = .ok text last)
    (hkeeps : last.changes = sheet.changes) :
    ∃ first next more, s.renderToken token sheet = .ok first next ∧
      s.renderTokens rest next = .ok more last ∧ next.changes = sheet.changes ∧
      last.changes = next.changes ∧ text = first ++ more := by
  obtain ⟨first, next, hfirst, hmore, hnext, hsame⟩ :=
    (grows_renderToken hhandles token).bind_eq_ok (fun first =>
      (grows_renderTokens hhandles rest).bind fun more => Step.extends_pure (first ++ more)) h hkeeps
  obtain ⟨more, _, hrest, hlast⟩ := Step.bind_eq_ok_iff.mp hmore
  cases hlast
  exact ⟨first, next, more, hfirst, hrest, hnext, hsame, rfl⟩

end Setting

end Scaffold
