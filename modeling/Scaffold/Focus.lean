import Scaffold.Failure

/-!
Computations on a part of a larger state.
-/

namespace Scaffold

/-- A computation on the part of a state that `get` shows and `set` replaces. The part is replaced
also if the computation fails. -/
def focus {ε σ τ α : Type} (get : τ → σ) (set : τ → σ → τ) (x : EStateM ε σ α) : EStateM ε τ α :=
  fun t =>
    match x (get t) with
    | .ok a s => .ok a (set t s)
    | .error e s => .error e (set t s)

/-- A computation with its failure replaced. -/
def mapFailure {ε σ α : Type} (change : ε → ε) (x : EStateM ε σ α) : EStateM ε σ α := fun s =>
  match x s with
  | .ok a s => .ok a s
  | .error e s => .error (change e) s

end Scaffold
