import Scaffold.Proofs.Failures
import Scaffold.Toml

/-!
With which errors documents are refused. Bytes are decoded before anything is read, so what is found
in a text is never blamed on its encoding.
-/

namespace Scaffold.Toml

open Step (Refuses)

/-- A failure to read a text: the bytes have been decoded already. -/
def IsTextual (e : ReadError) : Prop := e ≠ .undecodable

variable {α : Type}

theorem refuses_malformed : Refuses IsTextual (.error .malformed : Except ReadError α) :=
  Step.refuses_error nofun

theorem refuses_require (o : Option α) : Refuses IsTextual (require o) := by
  cases o with
  | none => exact refuses_malformed
  | some a => exact Step.refuses_ok a

theorem refuses_number (t : Text) : Refuses IsTextual (number t) := by
  unfold number
  split
  · exact Step.refuses_ok _
  · split
    · refine Refuses.map ?_ _
      unfold Decimal.toData
      exact Step.refuses_ite (Step.refuses_ite (Step.refuses_error nofun) (Step.refuses_ok _))
        (Step.refuses_ok _)
    · exact refuses_require _

theorem refuses_dateOrNumber (t : Text) : Refuses IsTextual (dateOrNumber t) := by
  unfold dateOrNumber
  split
  · refine Step.refuses_ite ?_ refuses_malformed
    split
    · exact Step.refuses_ok _
    · exact Step.refuses_ok _
  · split
    · exact Step.refuses_ok _
    · exact refuses_number t

theorem refuses_scalar (t : Text) : Refuses IsTextual (scalar t) := by
  unfold scalar
  split
  · exact (refuses_require _).map _
  · exact (refuses_require _).map _
  · split
    · exact Step.refuses_ok _
    · split
      · exact Step.refuses_ok _
      · exact refuses_dateOrNumber t

theorem refuses_value (fuel : Nat) :
    (∀ t, Refuses IsTextual (value fuel t)) ∧ (∀ t, Refuses IsTextual (items fuel t)) ∧
      ∀ entries t, Refuses IsTextual (fields fuel entries t) := by
  induction fuel with
  | zero =>
      exact ⟨fun _ => refuses_malformed, fun _ => refuses_malformed, fun _ _ => refuses_malformed⟩
  | succ fuel ih =>
      obtain ⟨hvalue, hitems, hfields⟩ := ih
      refine ⟨fun t => ?_, fun t => ?_, fun entries t => ?_⟩
      · unfold value
        split
        · refine (refuses_require _).bind fun rest => ?_
          split
          · exact Step.refuses_ok _
          · exact (hitems _).map _
        · split
          · exact Step.refuses_ok _
          · exact (hfields _ _).map _
        · exact refuses_scalar _
      · unfold items
        refine (hvalue t).bind fun first => (refuses_require _).bind fun rest => ?_
        split
        · exact Step.refuses_ok _
        · refine (refuses_require _).bind fun rest => ?_
          split
          · exact Step.refuses_ok _
          · exact (hitems _).map _
        · exact refuses_malformed
      · unfold fields
        refine (refuses_require _).bind ?_
        rintro ⟨path, rest⟩
        dsimp only
        split
        · refine (hvalue _).bind fun first => (refuses_require _).bind fun entries => ?_
          split
          · exact Step.refuses_ok _
          · exact hfields _ _
          · exact refuses_malformed
        · exact refuses_malformed

theorem refuses_statement (t : Text) : Refuses IsTextual (statement t) := by
  unfold statement
  split
  · exact (refuses_require _).bind fun _ => (refuses_require _).bind fun _ => Step.refuses_ok _
  · exact (refuses_require _).bind fun _ => (refuses_require _).bind fun _ => Step.refuses_ok _
  · refine (refuses_require _).bind ?_
    rintro ⟨path, rest⟩
    dsimp only
    split
    · exact ((refuses_value _).1 _).bind fun _ => Step.refuses_ok _
    · exact refuses_malformed

theorem refuses_readAll (fuel : Nat) (p : Progress) (t : Text) :
    Refuses IsTextual (p.readAll fuel t) := by
  induction fuel generalizing p t with
  | zero => exact refuses_malformed
  | succ fuel ih =>
      unfold Progress.readAll
      split
      · exact Step.refuses_ok _
      · exact ih _ _
      · refine (refuses_require _).bind fun rest => ?_
        split
        · exact Step.refuses_ok _
        · exact ih _ _
      · refine (refuses_statement _).bind fun first => (refuses_require _).bind fun p => ?_
        refine (refuses_require _).bind fun rest => ?_
        split
        · exact Step.refuses_ok _
        · exact ih _ _
        · exact refuses_malformed

/-- A document is undecodable only if its bytes are. -/
theorem read_eq_undecodable_iff {bytes : Bytes} :
    read bytes = .error .undecodable ↔ Text.decodeStrict? bytes = none := by
  unfold read
  split
  · rename_i hnone
    simp [hnone]
  · rename_i t hsome
    refine ⟨fun h => absurd rfl (((refuses_readAll _ _ _).map _) h), fun h => ?_⟩
    cases hsome.symm.trans h

end Scaffold.Toml
