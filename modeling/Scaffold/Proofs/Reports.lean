import Scaffold.Proofs.Simulation
import Scaffold.Skeleton.Load

/-!
What loading a skeleton reports. Its warnings come after the earlier ones, which it does not look at,
and none of them is about a catalog.
-/

namespace Scaffold

open Step (InStep outcome)

/-- Whether a warning is about a directory that is no part of a catalog. -/
def Warning.isUnloadable : Warning → Bool
  | unloadable _ _ _ => true
  | _ => false

/-- Whether a warning is about a skeleton that takes the place of another one. -/
def Warning.isOverwritten : Warning → Bool
  | overwritten _ _ _ => true
  | _ => false

/-- The first list has notes after earlier warnings. None of the notes is about a catalog. -/
def Adds (before warnings notes : List Warning) : Prop :=
  warnings = before ++ notes ∧
    ∀ w ∈ notes, w.isUnloadable = false ∧ w.isOverwritten = false

variable {before : List Warning}

theorem inStep_warn {w : Warning} (h : w.isUnloadable = false ∧ w.isOverwritten = false) :
    InStep (Adds before) (warn w) (warn w) := by
  refine Step.inStep_modify ?_
  rintro warnings notes ⟨rfl, hnotes⟩
  refine ⟨List.append_assoc .., List.forall_mem_append.mpr ⟨hnotes, ?_⟩⟩
  simpa using h

namespace FileFlags

theorem inStep_setField (path : Text) (flags : FileFlags) (entry : Text × Data) :
    InStep (Adds before) (setField path flags entry) (setField path flags entry) := by
  unfold setField
  dsimp only
  split
  · exact Step.inStep_lift _
  · exact (inStep_warn ⟨rfl, rfl⟩).bind fun _ => Step.inStep_pure flags

theorem inStep_ofTable (path : Text) (d : Data) :
    InStep (Adds before) (ofTable path d) (ofTable path d) := by
  unfold ofTable
  split
  · exact Step.inStep_foldlM (inStep_setField path) _ _
  · exact Step.inStep_throw _

theorem inStep_ofManifest (kind name : Text) (manifest : Entries Data) :
    InStep (Adds before) (ofManifest kind name manifest) (ofManifest kind name manifest) := by
  have hnoted : ∀ {x : Report (Entries FileFlags)}, InStep (Adds before) x x →
      InStep (Adds before)
        (if (manifest.get? "files").isSome then warn (.misnamedTable kind name) >>= fun _ => x
          else x)
        (if (manifest.get? "files").isSome then warn (.misnamedTable kind name) >>= fun _ => x
          else x) :=
    fun hx => Step.inStep_ite ((inStep_warn ⟨rfl, rfl⟩).bind fun _ => hx) hx
  unfold ofManifest
  cases manifest.get? "file" with
  | none => exact hnoted (Step.inStep_pure [])
  | some d =>
      cases d with
      | table files =>
          refine hnoted (Step.inStep_mapM (fun entry => ?_) files)
          exact (inStep_ofTable entry.1 entry.2).bind fun flags => Step.inStep_pure _
      | _ => exact hnoted (Step.inStep_throw _)

end FileFlags

namespace Skeleton

theorem inStep_readFragments (d : Disk) (file : Location) :
    InStep (Adds before) (readFragments d file) (readFragments d file) := by
  refine (Step.inStep_lift _).bind fun found => Step.inStep_ite ?_ ?_
  · exact (Step.inStep_lift _).bind fun content => Step.inStep_pure _
  · exact (inStep_warn ⟨rfl, rfl⟩).bind fun _ => Step.inStep_pure []

theorem inStep_templateFile? (d : Disk) (directory : Location) (v : Visit) :
    InStep (Adds before) (v.templateFile? d directory) (v.templateFile? d directory) := by
  unfold Visit.templateFile?
  refine Step.inStep_ite ((Step.inStep_lift _).bind fun _ => Step.inStep_pure none)
    (Step.inStep_ite (Step.inStep_pure none) ((Step.inStep_lift _).bind fun found => ?_))
  split
  · exact (Step.inStep_lift _).bind fun content => Step.inStep_pure _
  · exact (inStep_warn ⟨rfl, rfl⟩).bind fun _ => Step.inStep_pure none
  · exact Step.inStep_pure none

theorem inStep_templateFiles (d : Disk) (directory : Location) :
    InStep (Adds before) (templateFiles d directory) (templateFiles d directory) := by
  refine (Step.inStep_lift _).bind fun leads => Step.inStep_ite ?_ (Step.inStep_pure [])
  cases d.openDirectory directory with
  | error failure => exact Step.inStep_pure []
  | ok base =>
      exact (Step.inStep_mapM (inStep_templateFile? d directory) _).bind fun files =>
        Step.inStep_pure _

theorem inStep_load (d : Disk) (kind : Text) (directory : Location) (builtin : Bool) :
    InStep (Adds before) (load d kind directory builtin) (load d kind directory builtin) := by
  unfold load
  split
  · exact Step.inStep_throw _
  · refine (Step.inStep_lift _).bind fun manifest => (Step.inStep_lift _).bind fun header => ?_
    refine (inStep_readFragments d _).bind fun fragments => ?_
    refine (inStep_templateFiles d directory).bind fun files => ?_
    exact (FileFlags.inStep_ofManifest _ _ _).bind fun flags => Step.inStep_pure _

/-- What loading a skeleton comes to, whatever has been reported before. -/
def attempt (d : Disk) (kind : Text) (directory : Location) (builtin : Bool) :
    Except Failure Skeleton :=
  outcome (load d kind directory builtin [])

/-- Loading a skeleton comes to the same after any warnings, and what it reports itself is not
about a catalog. -/
theorem load_apply (d : Disk) (kind : Text) (directory : Location) (builtin : Bool)
    (warnings : List Warning) :
    ∃ notes, (∀ w ∈ notes, w.isUnloadable = false ∧ w.isOverwritten = false) ∧
      load d kind directory builtin warnings =
        match attempt d kind directory builtin with
        | .ok s => .ok s (warnings ++ notes)
        | .error failure => .error failure (warnings ++ notes) := by
  have hstart : Adds warnings warnings [] := ⟨(List.append_nil _).symm, by simp⟩
  have hstep := inStep_load d kind directory builtin hstart
  rw [attempt]
  generalize load d kind directory builtin warnings = result at hstep ⊢
  generalize load d kind directory builtin [] = alone at hstep ⊢
  cases hstep with
  | ok h => exact ⟨_, h.2, by rw [h.1]; rfl⟩
  | error h => exact ⟨_, h.2, by rw [h.1]; rfl⟩

end Skeleton

end Scaffold
