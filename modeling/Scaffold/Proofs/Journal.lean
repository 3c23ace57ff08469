import Scaffold.Proofs.Lockstep
import Scaffold.Proofs.Tries

/-!
Journals. A sink may note its calls, each with the disk on which it arrives. A run does the same
with such a journal and without it.
-/

namespace Scaffold

open Step (InStep Matches)

variable {σ α : Type}

/-- A sink that notes all of its calls. -/
def Sink.journal (sink : Sink σ) : Sink (σ × List (Disk × Request)) := fun request both =>
  match sink request (both.1, both.2.1) with
  | .ok _ after => .ok () (after.1, after.2, both.2.2 ++ [(both.1, request)])
  | .error failure after => .error failure (after.1, after.2, both.2.2 ++ [(both.1, request)])

theorem Sink.inStep_journal (sink : Sink σ) (request : Request) :
    InStep (fun both noted => ∃ calls, noted = (both.1, both.2, calls)) (sink request)
      (sink.journal request) := by
  rintro both _ ⟨calls, rfl⟩
  unfold journal
  dsimp only
  cases sink request both with
  | ok a after => exact Matches.ok ⟨_, rfl⟩
  | error failure after => exact Matches.error ⟨_, rfl⟩

theorem Sink.journal_eq_ok {sink : Sink σ} {request : Request} {disk disk' : Disk}
    {noted noted' : σ × List (Disk × Request)}
    (h : sink.journal request (disk, noted) = .ok () (disk', noted')) :
    sink request (disk, noted.1) = .ok () (disk', noted'.1) ∧
      noted'.2 = noted.2 ++ [(disk, request)] := by
  unfold journal at h
  dsimp only at h
  split at h
  · rename_i hstep
    cases h
    exact ⟨hstep, rfl⟩
  · cases h

theorem Sink.isGenuine_journal {sink : Sink σ} (hsink : sink.IsGenuine) :
    sink.journal.IsGenuine := by
  intro request both next failure h
  unfold journal at h
  split at h
  · cases h
  · rename_i hstep
    cases h
    exact hsink request hstep

namespace Run

/-- A run with another state of its sink. -/
def withSink {τ : Type} (run : Run σ) (sink : τ) : Run τ := { run with sink := sink }

/-- A job goes like itself with a journal. -/
theorem accord_journal (job : Job) (sink : Sink σ) (cache : Cache) :
    Accord job job sink sink.journal cache
      fun w noted => ∃ calls, noted = (w.1, w.2, calls) where
  config_eq := rfl
  project_eq := rfl
  substitute_eq := rfl
  answers := sink.inStep_journal
  loads := by
    rintro kind - w _ ⟨calls, rfl⟩
    rfl
  copies := by
    rintro kind catalog name s file - - - w _ ⟨calls, rfl⟩
    refine (Step.inStep_refl (job.keepCopy file) rfl).imp ?_
    rintro d _ rfl
    exact ⟨calls, rfl⟩

theorem twin_withSink (config : Config) (run : Run σ) (calls : List (Disk × Request)) :
    Twin config run.cache (fun w noted => ∃ calls, noted = (w.1, w.2, calls)) Eq run
      (run.withSink (run.sink, calls)) where
  world := ⟨calls, rfl⟩
  generated := rfl
  cache_eq := rfl
  postponing_eq := rfl
  warnings_eq := rfl
  changes_eq := rfl
  unknown _ hnone := hnone
  offered _ _ hknown := .known hknown

/-- A run with a journal goes like the run without it. -/
theorem exists_journal {job : Job} {sink : Sink σ} {run last : Run σ}
    (h : renderFiles job sink run = .ok () last) (calls : List (Disk × Request)) :
    ∃ more, renderFiles job sink.journal (run.withSink (run.sink, calls)) =
      .ok () (last.withSink (last.sink, more)) := by
  have hstep := inStep_renderFiles (accord_journal job sink run.cache)
    (twin_withSink job.config run calls)
  rw [h] at hstep
  generalize renderFiles job sink.journal (run.withSink (run.sink, calls)) = right at hstep ⊢
  cases hstep with
  | @ok _ _ other hlast =>
      obtain ⟨more, hmore⟩ := hlast.world
      obtain ⟨disk, sink', cache, generated, postponing, warnings, changes⟩ := other
      obtain ⟨rfl, rfl⟩ := Prod.mk.inj hmore
      obtain rfl := hlast.generated
      obtain rfl := hlast.cache_eq
      obtain rfl := hlast.postponing_eq
      obtain rfl := hlast.warnings_eq
      obtain rfl := hlast.changes_eq
      exact ⟨more, rfl⟩

end Run

end Scaffold
