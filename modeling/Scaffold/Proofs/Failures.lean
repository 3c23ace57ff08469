import Scaffold.Proofs.Conditions
import Scaffold.Proofs.Directives
import Scaffold.Proofs.Resolution
import Scaffold.Writer

/-!
With which failures computations end: changing the disk, loading and looking up skeletons, deciding
conditions and applying directives each have failures of their own. Failures that speak of a value
which is not available yet come from rendering alone.
-/

namespace Scaffold

namespace Failure

/-- Whether a failure says that a value is not available yet, or was not when it had to be. -/
def isPostponement : Failure → Bool
  | .foreign .postponed => true
  | .template (.postponedTwice _) => true
  | .skeleton _ (.unrendered (.postponedTwice _)) => true
  | .skeleton _ .postponedAgain => true
  | _ => false

/-- A failure with another cause than a value which is not available. -/
def IsGenuine (failure : Failure) : Prop := failure.isPostponement = false

instance : DecidablePred IsGenuine := fun failure => decEq failure.isPostponement false

theorem isPostponement_inFile (file : Text) (failure : Failure) :
    (failure.inFile file).isPostponement = failure.isPostponement := by
  cases failure with
  | skeleton name fault =>
      cases name with
      | some other => rfl
      | none =>
          cases fault with
          | unrendered fault => cases fault <;> rfl
          | _ => rfl
  | template fault => cases fault <;> rfl
  | _ => rfl

/-- Whether a failure comes from outside of templates and skeletons. -/
def isExternal : Failure → Bool
  | .skeleton _ _ | .template _ | .foreign .postponed => false
  | _ => true

/-- A failure from outside of templates and skeletons. -/
def IsExternal (failure : Failure) : Prop := failure.isExternal = true

/-- A failure that looking a skeleton up ends with: there is none, or inheritance runs in a circle. -/
def IsUnresolved (failure : Failure) : Prop :=
  (∃ name, failure = .skeleton none (.missingSkeleton name)) ∨
    ∃ walk, failure = .skeleton none (.inheritanceCycle walk)

/-- A failure that a directive ends with. -/
inductive IsDirectiveFault : Failure → Prop where
  | unknownCondition (subject : Subject) (tokens : List Text) :
      IsDirectiveFault (.skeleton none (.unknownCondition subject tokens))
  | unmatched (word : BranchWord) : IsDirectiveFault (.skeleton none (.unmatched word))
  | invalidPermission (digits : Text) :
      IsDirectiveFault (.skeleton none (.invalidPermission digits))

/-- A failure that a filter ends with. -/
inductive IsFilterFault : Failure → Prop where
  | unsupported : IsFilterFault (.foreign .unsupported)
  | unknownFilter (name : Text) : IsFilterFault (.template (.unknownFilter name))

/-- A failure that rendering ends with: a template or a directive is at fault, or a value. -/
inductive IsRenderFault : Failure → Prop where
  | template (fault : TemplateFault) : IsRenderFault (.template fault)
  | directive {failure : Failure} (h : IsDirectiveFault failure) : IsRenderFault failure
  | value (fault : ForeignFault) : IsRenderFault (.foreign fault)

theorem IsExternal.isGenuine {failure : Failure} (h : IsExternal failure) : IsGenuine failure := by
  cases failure with
  | skeleton file fault => cases h
  | template fault => cases h
  | foreign fault =>
      cases fault with
      | postponed => cases h
      | _ => rfl
  | _ => rfl

theorem IsUnresolved.isGenuine {failure : Failure} (h : IsUnresolved failure) :
    IsGenuine failure := by
  rcases h with ⟨name, rfl⟩ | ⟨walk, rfl⟩ <;> rfl

theorem IsDirectiveFault.isGenuine {failure : Failure} (h : IsDirectiveFault failure) :
    IsGenuine failure := by
  cases h <;> rfl

theorem IsFilterFault.isGenuine {failure : Failure} (h : IsFilterFault failure) :
    IsGenuine failure := by
  cases h <;> rfl

theorem IsFilterFault.isRenderFault {failure : Failure} (h : IsFilterFault failure) :
    IsRenderFault failure := by
  cases h with
  | unsupported => exact .value _
  | unknownFilter name => exact .template _

end Failure

/-- The reasons for which a walk does not come to an end. -/
inductive DiskFault.Blocks : DiskFault → Prop where
  | missing : Blocks .missing
  | notDirectory : Blocks .notDirectory
  | linkLoop : Blocks .linkLoop
  | denied : Blocks .denied
  | nameTooLong : Blocks .nameTooLong

open Failure (IsGenuine IsExternal IsUnresolved IsDirectiveFault)
open Step (Fails Refuses)

namespace Disk

theorem refuses_checkSpelling (l : Location) : Refuses IsExternal (checkSpelling l) := by
  unfold checkSpelling
  split
  · exact Step.refuses_error rfl
  split
  · exact Step.refuses_error rfl
  · exact Step.refuses_ok ()

theorem refuses_locate (d : Disk) (last : LastName) (l : Location) :
    Refuses IsExternal (d.locate last l) := by
  refine (refuses_checkSpelling l).bind fun _ => ?_
  split
  · exact Step.refuses_ok _
  · exact Step.refuses_error rfl

theorem refuses_find (d : Disk) (l : Location) : Refuses IsExternal (d.find l) := by
  refine (refuses_locate d .follow l).bind fun p => ?_
  split
  · exact Step.refuses_ok _
  · exact Step.refuses_error rfl

theorem blocks_of_obstacle? {d : Disk} {here : Path} {name : Bytes} {fault : DiskFault}
    (h : d.obstacle? here name = some fault) : fault.Blocks := by
  unfold obstacle? at h
  split at h
  · split at h <;> cases h
    exact .denied
  · cases h
    exact .notDirectory

theorem refuses_walkNames {d : Disk} {last : LastName} {links : Nat}
    {follow : Path → Route → Except DiskFault Place}
    (hfollow : ∀ here names, Refuses DiskFault.Blocks (follow here names)) (here : Path)
    (names : Route) :
    Refuses DiskFault.Blocks (d.walkNames last links follow here names) := by
  induction names generalizing here with
  | nil => exact Step.refuses_ok _
  | cons name rest ih =>
      unfold walkNames
      split
      · rename_i fault hname
        exact Step.refuses_error (blocks_of_obstacle? hname)
      refine Step.refuses_ite (ih here)
        (Step.refuses_ite (ih _) (Step.refuses_ite (Step.refuses_error .nameTooLong) ?_))
      split
      · exact Step.refuses_ite (Step.refuses_ok _) (Step.refuses_error .missing)
      · exact Step.refuses_ite (Step.refuses_ok _) (hfollow _ _)
      · exact ih _

theorem refuses_walkFrom (d : Disk) (last : LastName) (links : Nat) (here : Path)
    (names : Route) :
    Refuses DiskFault.Blocks (d.walkFrom last links here names) := by
  induction links generalizing here names with
  | zero => exact refuses_walkNames (fun _ _ => Step.refuses_error .linkLoop) here names
  | succ links ih => exact refuses_walkNames ih here names

/-- Nothing is found because something is in the way, or because the path cannot be one. -/
theorem refuses_find_blocks (d : Disk) (l : Location) :
    Refuses (fun failure => failure = .misuse .nullInPath ∧ .char '\x00' ∈ l.toText ∨
      ∃ fault, fault.Blocks ∧ failure = .disk fault l.toText) (d.find l) := by
  refine Refuses.bind (Refuses.bind ?_ fun _ => ?_) fun p => ?_
  · unfold checkSpelling
    split
    · rename_i hnull
      exact Step.refuses_error (.inl ⟨rfl, List.elem_iff.mp hnull⟩)
    · exact Step.refuses_ite (Step.refuses_error (.inr ⟨_, .nameTooLong, rfl⟩))
        (Step.refuses_ok ())
  · split
    · exact Step.refuses_ok _
    · rename_i fault hwalk
      exact Step.refuses_error (.inr ⟨fault, refuses_walkFrom _ _ _ _ _ hwalk, rfl⟩)
  · split
    · exact Step.refuses_ok _
    · exact Step.refuses_error (.inr ⟨_, .missing, rfl⟩)

/-- Looking something up fails only because the way there may not be searched, or because a name or
a path is too long. -/
theorem refuses_probe_blocked (d : Disk) (l : Location) :
    Refuses (fun failure => failure = .disk .denied l.toText ∨ failure = .disk .nameTooLong l.toText)
      (d.probe l) := by
  unfold probe
  split
  · exact Step.refuses_ok _
  · rename_i failure hfailure
    rcases refuses_find_blocks d l hfailure with ⟨rfl, -⟩ | ⟨fault, hblocks, rfl⟩
    · exact Step.refuses_ok none
    · cases hblocks with
      | denied => exact Step.refuses_error (.inl rfl)
      | nameTooLong => exact Step.refuses_error (.inr rfl)
      | _ => exact Step.refuses_ok none

theorem refuses_probe (d : Disk) (l : Location) : Refuses IsExternal (d.probe l) := by
  refine (refuses_probe_blocked d l).imp ?_
  rintro _ (rfl | rfl) <;> rfl

theorem refuses_openDirectory (d : Disk) (l : Location) :
    Refuses IsExternal (d.openDirectory l) := by
  refine (refuses_find d l).bind fun found => ?_
  split
  · exact Step.refuses_ite (Step.refuses_ok _) (Step.refuses_error rfl)
  · exact Step.refuses_error rfl

theorem refuses_present (d : Disk) (l : Location) : Refuses IsExternal (d.present l) :=
  (refuses_probe d l).map _

theorem refuses_leadsToDirectory (d : Disk) (l : Location) :
    Refuses IsExternal (d.leadsToDirectory l) :=
  (refuses_probe d l).map _

theorem refuses_resolve (d : Disk) (l : Location) : Refuses IsExternal (d.resolve l) := by
  unfold resolve
  split
  case h_2 => exact Step.refuses_error rfl
  -- The other cases both go on with the location that was found.
  all_goals
    refine (Step.refuses_ok _).bind fun resolved => ?_
    dsimp only
    split
    · exact Step.refuses_error rfl
    · exact Step.refuses_error rfl
    · exact Step.refuses_ok resolved

theorem fails_makeNames (l : Location) (place : Place) (names : Route) :
    Fails IsExternal (makeNames l place names) := by
  induction names generalizing place with
  | nil => exact Step.fails_pure ()
  | cons name rest ih =>
      refine Step.fails_get.bind fun d => ?_
      split
      · rename_i next _
        exact Step.fails_ite (ih next) (Step.fails_throw rfl)
      · refine Step.fails_ite (Step.fails_throw rfl) (Step.fails_ite ?_ (Step.fails_throw rfl))
        exact (Step.fails_set _).bind fun _ => ih _
      · exact Step.fails_throw rfl

theorem fails_makeDirectories (l : Location) : Fails IsExternal (makeDirectories l) :=
  (Step.fails_lift (refuses_checkSpelling l)).bind fun _ =>
    Step.fails_get.bind fun _ => fails_makeNames l _ _

theorem fails_changeMode (l : Location) (mode : Nat → Nat) : Fails IsExternal (changeMode l mode) :=
  Step.fails_get.bind fun d =>
    (Step.fails_lift (refuses_find d l)).bind fun _ => Step.fails_set _

theorem fails_writeContent (l : Location) (content : Bytes) :
    Fails IsExternal (writeContent l content) := by
  refine Step.fails_get.bind fun d => ?_
  refine (Step.fails_lift (refuses_locate d .create l)).bind fun p => ?_
  split
  · exact Step.fails_ite (Step.fails_set _) (Step.fails_throw rfl)
  · exact Step.fails_throw rfl
  · exact Step.fails_ite (Step.fails_set _) (Step.fails_throw rfl)

theorem refuses_modeOf (bits : Int) : Refuses IsExternal (modeOf bits) := by
  unfold modeOf
  split
  · exact Step.refuses_ok _
  · exact Step.refuses_error rfl

theorem fails_writeFile (l : Location) (content : Bytes) (bits : Int) :
    Fails IsExternal (writeFile l content bits) := by
  have hwrite : Fails IsExternal (do
      writeContent l content
      let mode ← modeOf bits
      changeMode l fun _ => mode : OnDisk Unit) :=
    (fails_writeContent l content).bind fun _ =>
      (Step.fails_lift (refuses_modeOf bits)).bind fun _ => fails_changeMode l _
  refine Step.fails_get.bind fun d => (Step.fails_lift (refuses_present d l)).bind fun exists_ => ?_
  cases exists_ with
  | true => exact (fails_changeMode l _).bind fun _ => hwrite
  | false => exact hwrite

theorem fails_placeFile (l : Location) (content : Bytes) (bits : Int) :
    Fails IsExternal (placeFile l content bits) :=
  (fails_makeDirectories l.parent).bind fun _ => fails_writeFile l content bits

end Disk

namespace Catalog

/-- A skeleton that cannot be loaded is no failure; looking for its manifest may be one. -/
theorem fails_addDirectory (d : Disk) (source : Source) (catalog : Catalog) (name : Text) :
    Fails IsExternal (addDirectory d source catalog name) := by
  refine (Step.fails_lift (Disk.refuses_present d _)).bind fun found => ?_
  cases found with
  | false => exact Step.fails_pure catalog
  | true =>
      -- A failure to load is caught, and what follows cannot fail.
      rw [if_pos rfl]
      refine Step.Fails.bind (Step.fails_tryCatch fun failure => ?_) fun result => ?_
      · exact (Step.fails_modify _).bind fun _ => Step.fails_pure _
      · cases result <;> exact Step.fails_pure _

theorem fails_addDirectories (d : Disk) (source : Source) (catalog : Catalog)
    (names : List Text) : Fails IsExternal (names.foldlM (addDirectory d source) catalog) := by
  induction names generalizing catalog with
  | nil => exact Step.fails_pure catalog
  | cons name rest ih =>
      rw [List.foldlM_cons]
      exact (fails_addDirectory d source catalog name).bind ih

theorem fails_load (d : Disk) (source : Source) : Fails IsExternal (load d source) := by
  refine (Step.fails_lift (Disk.refuses_leadsToDirectory d _)).bind fun found => ?_
  cases found with
  | false => exact Step.fails_pure []
  | true =>
      exact (Step.fails_lift (Disk.refuses_openDirectory d _)).bind fun base =>
        fails_addDirectories d source [] _

theorem refuses_resolve (catalog : Catalog) (walk : List Text) (name : Text) :
    Refuses IsUnresolved (catalog.resolve walk name) :=
  fun _ h => resolve_eq_error h

end Catalog

theorem Cache.fails_fetch (config : Config) (d : Disk) (kind : Text) (cache : Cache) :
    Fails IsExternal (fetch config d kind cache) := by
  unfold fetch
  split
  · exact Step.fails_pure _
  · exact (Catalog.fails_load d _).bind fun _ => Step.fails_pure _

namespace Condition

theorem isDirectiveFault_unknownOfPackage (tokens : List Text) :
    IsDirectiveFault (unknownOfPackage tokens) := by
  unfold unknownOfPackage
  split
  · exact .unknownCondition _ _
  · split <;> exact .unknownCondition _ _

theorem refuses_ofProject (p : Project) (tokens : List Text) :
    Refuses IsDirectiveFault (ofProject p tokens) := by
  intro failure h
  rcases ofProject_cases p tokens with hgrammar | hunknown
  · obtain ⟨holds, hholds⟩ := ofProject_complete (p := p) hgrammar
    cases h.symm.trans hholds
  · obtain rfl := Except.error.inj (h.symm.trans hunknown)
    exact .unknownCondition _ _

theorem refuses_ofPackage (k : Package) (p : Project) (tokens : List Text) :
    Refuses IsDirectiveFault (ofPackage k p tokens) := by
  intro failure h
  rcases ofPackage_cases k p tokens with hgrammar | hunknown
  · obtain ⟨holds, hholds⟩ := ofPackage_complete (p := p) (k := k) hgrammar
    cases h.symm.trans hholds
  · obtain rfl := Except.error.inj (h.symm.trans hunknown)
    exact isDirectiveFault_unknownOfPackage tokens

end Condition

namespace Directive

section

variable {P : Failure → Prop} (hfaults : ∀ failure, IsDirectiveFault failure → P failure)

include hfaults

theorem refuses_changeInnermost (word : BranchWord)
    {change : Bool → List Bool → Except Failure (List Bool)} (flags : FileFlags)
    (hchange : ∀ frame outer, Refuses P (change frame outer)) :
    Refuses P (changeInnermost word change flags) := by
  unfold changeInnermost
  split
  · exact Step.refuses_error (hfaults _ (.unmatched word))
  · exact (hchange _ _).map _

theorem refuses_permissions (digits : Text) : Refuses P (Scaffold.permissions digits) := by
  unfold Scaffold.permissions
  split
  · exact Step.refuses_ok _
  · exact Step.refuses_error (hfaults _ (.invalidPermission digits))

variable {evaluate : Evaluator} (hevaluate : ∀ tokens, Refuses P (evaluate tokens))

include hevaluate

theorem refuses_edit (flags : FileFlags) (directive : Directive) :
    Refuses P (directive.edit evaluate flags) := by
  cases directive with
  | permissions digits => exact (refuses_permissions hfaults digits).map _
  | branch condition => exact (hevaluate condition).map _
  | otherwise | close => exact refuses_changeInnermost hfaults _ flags fun _ _ => Step.refuses_ok _
  | alternative condition =>
      exact refuses_changeInnermost hfaults _ flags fun _ _ => (hevaluate condition).map _
  | _ => exact Step.refuses_ok _

/-- Directives fail in their own ways, and as the conditions in them do. -/
theorem fails_apply (directive : Directive) : Fails P (directive.apply evaluate) := by
  intro sheet next failure h
  rw [apply_eq] at h
  cases hedit : directive.edit evaluate sheet.flags with
  | ok flags => simp [hedit] at h
  | error other =>
      rw [hedit] at h
      cases h
      exact refuses_edit hfaults hevaluate _ _ hedit

end

theorem fails_handler {P : Failure → Prop}
    (hfaults : ∀ failure, IsDirectiveFault failure → P failure) {evaluate : LiveEvaluator}
    (hevaluate : ∀ changes tokens, Refuses P (evaluate changes tokens)) (directive : Text) :
    Fails P (handler evaluate directive) :=
  Step.fails_get.bind fun sheet =>
    (fails_apply hfaults (hevaluate sheet.changes) _).bind fun _ => Step.fails_pure []

end Directive

namespace Writer

theorem refuses_destination (w : Writer) (d : Disk) (path : Text) :
    Refuses IsGenuine (w.destination d path) := by
  refine ((Disk.refuses_resolve d _).imp fun _ => IsExternal.isGenuine).bind fun target => ?_
  split
  · exact Step.refuses_ok target
  · exact Step.refuses_error rfl

theorem refuses_keeps (request : Request) (d : Disk) (target : Location) :
    Refuses IsGenuine (keeps request d target) := by
  unfold keeps
  split
  · exact (Disk.refuses_present d target).imp fun _ => IsExternal.isGenuine
  · exact Step.refuses_ok false

theorem fails_write (w : Writer) (request : Request) : Fails IsGenuine (w.write request) := by
  unfold write
  refine Step.fails_ite (Step.fails_modify _) (Step.fails_get.bind fun both => ?_)
  refine (Step.fails_lift (w.refuses_destination _ _)).bind fun target => ?_
  refine (Step.fails_lift (refuses_keeps request _ target)).bind fun kept => ?_
  cases kept with
  | true => exact Step.fails_pure ()
  | false =>
      have hplace := (Disk.fails_placeFile target request.content.encode request.permissions).imp
        fun _ => IsExternal.isGenuine
      exact (Step.fails_focus hplace).bind fun _ => Step.fails_modify _

end Writer

end Scaffold
