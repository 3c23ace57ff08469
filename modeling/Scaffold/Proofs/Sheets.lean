import Scaffold.Proofs.Simulation
import Scaffold.Proofs.Tries

/-!
Rendering on two sheets. If a relation between sheets keeps the open branches and the changes of lists
equal and the handler of brackets respects it, then rendering the same tokens on related sheets gives
the same text or fails in the same way.
-/

namespace Scaffold

open Step (InStep)

/-- Related sheets have the same open branches and the same changes of lists, and looking values up
leaves them related. -/
structure RelatesSheets (R : Sheet → Sheet → Prop) : Prop where
  frames : ∀ {sheet other}, R sheet other → sheet.flags.frames = other.flags.frames
  changes : ∀ {sheet other}, R sheet other → sheet.changes = other.changes
  looked : ∀ {sheet other}, R sheet other → ∀ changes,
    R { sheet with changes := changes } { other with changes := changes }

theorem RelatesSheets.inStep_looking {R : Sheet → Sheet → Prop} {α : Type}
    (hrelates : RelatesSheets R) (x : Looking α) :
    InStep R (liftM x : Rendering α) (liftM x) := by
  refine Step.inStep_focus (Step.inStep_refl x) (fun _ _ h => hrelates.changes h) ?_
  rintro sheet other changes _ h rfl
  exact hrelates.looked h changes

theorem Directive.inStep_handler {R : Sheet → Sheet → Prop} {evaluate : LiveEvaluator}
    {directive : Text} (hrelates : RelatesSheets R)
    (happly : ∀ evaluate ⦃sheet other⦄, R sheet other →
      Step.Matches R ((ofText directive).apply evaluate sheet)
        ((ofText directive).apply evaluate other)) :
    InStep R (handler evaluate directive) (handler evaluate directive) := by
  refine Step.inStep_get_bind fun sheet other h => ?_
  rw [hrelates.changes h]
  exact InStep.bind (happly _) fun _ => Step.inStep_pure []

namespace Setting

variable {s : Setting} {R : Sheet → Sheet → Prop}

theorem suppresses_eq (hrelates : RelatesSheets R) {sheet other : Sheet} (h : R sheet other) :
    s.suppresses sheet.flags = s.suppresses other.flags := by
  rw [suppresses, suppresses, FileFlags.suppressed, FileFlags.suppressed, hrelates.frames h]

theorem inStep_emit (hrelates : RelatesSheets R) (t : Text) : InStep R (s.emit t) (s.emit t) := by
  intro sheet other h
  rw [emit_apply, emit_apply, suppresses_eq hrelates h]
  exact .ok h

/-- The handler of brackets, if there is one, respects the relation. -/
def Respects (s : Setting) (R : Sheet → Sheet → Prop) : Prop :=
  ∀ handle, s.handler = some handle → ∀ directive, InStep R (handle directive) (handle directive)

theorem inStep_renderToken (hrelates : RelatesSheets R) (hrespects : s.Respects R) (token : Token) :
    InStep R (s.renderToken token) (s.renderToken token) := by
  have hinserted : token.isBracket = false ∨ s.handler = none →
      InStep R (s.renderToken token) (s.renderToken token) := by
    intro htoken sheet other h
    rw [s.renderToken_of_inserted htoken, s.renderToken_of_inserted htoken,
      suppresses_eq hrelates h]
    split
    · exact .ok h
    · exact hrelates.inStep_looking _ h
  cases token with
  | letter c => exact hinserted (.inl rfl)
  | placeholder inside => exact hinserted (.inl rfl)
  | bracket inside =>
      cases hhandle : s.handler with
      | none => exact hinserted (.inr hhandle)
      | some handle =>
          rw [s.renderToken_of_handler hhandle]
          exact (hrelates.inStep_looking _).bind fun directive =>
            (hrespects handle hhandle directive).bind fun t => inStep_emit hrelates t

theorem inStep_renderTokens (hrelates : RelatesSheets R) (hrespects : s.Respects R)
    (tokens : List Token) : InStep R (s.renderTokens tokens) (s.renderTokens tokens) := by
  induction tokens with
  | nil => exact Step.inStep_pure []
  | cons token rest ih =>
      exact (inStep_renderToken hrelates hrespects token).bind fun first =>
        ih.bind fun more => Step.inStep_pure (first ++ more)

end Setting

end Scaffold
