import Scaffold.Proofs.Calls
import Scaffold.Proofs.Growth
import Scaffold.Proofs.Replays

/-!
The passes of a run. Every file of a skeleton is handed over exactly once: in the first pass if it is
not postponed, and else in the second one.
-/

namespace Scaffold.Run

variable {σ : Type}

/-- The files of a trace that were postponed. -/
def postponed (trace : List (SkeletonFile × Option Call)) : List SkeletonFile :=
  (trace.filter (·.2.isNone)).map Prod.fst

/-- A trace in which no file is postponed. -/
def unpostponed (calls : List (SkeletonFile × Call)) : List (SkeletonFile × Option Call) :=
  calls.map fun call => (call.1, some call.2)

theorem called_unpostponed (calls : List (SkeletonFile × Call)) :
    called (unpostponed calls) = calls := by
  have hsame : ((fun attempt : SkeletonFile × Option Call => attempt.2.map (attempt.1, ·)) ∘
      fun call : SkeletonFile × Call => (call.1, some call.2)) = some := by
    funext call
    rfl
  rw [called, unpostponed, List.filterMap_map, hsame, List.filterMap_some]

theorem perm_called_postponed (trace : List (SkeletonFile × Option Call)) :
    ((called trace).map Prod.fst ++ postponed trace).Perm (trace.map Prod.fst) := by
  induction trace with
  | nil => exact List.Perm.nil
  | cons attempt rest ih =>
      obtain ⟨file, _ | request⟩ := attempt
      · exact List.perm_middle.trans (ih.cons file)
      · exact ih.cons file

section

variable {job : Job} {sink : Sink σ} {scope : Scope} {s : Skeleton} {run last : Run σ}

theorem done_of_ok {x : Running σ Unit} (h : x run = .ok () last) : done x run = .ok true last := by
  rw [done, h]

theorem done_of_postponed {x : Running σ Unit} (h : x run = .error (.foreign .postponed) last) :
    done x run = .ok false last := by
  rw [done, h]

theorem eq_of_done {x : Running σ Unit} {finished : Bool} (h : done x run = .ok finished last) :
    x run = if finished then .ok () last else .error (.foreign .postponed) last := by
  unfold done at h
  split at h
  · cases h
    assumption
  · cases h
    assumption
  · cases h

theorem eq_of_done_error {x : Running σ Unit} {failure : Failure}
    (h : done x run = .error failure last) :
    x run = .error failure last := by
  unfold done at h
  split at h
  · cases h
  · cases h
  · cases h
    assumption

theorem exists_attempts_of_firstPass {files later : List SkeletonFile}
    (h : firstPass (renderFile job sink scope s) files run = .ok later last) :
    ∃ trace, Attempts job sink scope s run trace last ∧ trace.map Prod.fst = files ∧
      postponed trace = later := by
  induction files generalizing run later with
  | nil =>
      cases h
      exact ⟨[], .nil, rfl, rfl⟩
  | cons file rest ih =>
      obtain ⟨finished, next, hdone, hrest⟩ := Step.bind_eq_ok_iff.mp h
      have hrender := eq_of_done hdone
      cases finished with
      | true =>
          obtain ⟨request, hyields⟩ := yields_of_renderFile hrender
          obtain ⟨trace, hattempts, hfiles, hlater⟩ := ih hrest
          exact ⟨(file, some (callAt job request next)) :: trace,
            .called hyields rfl hrender hattempts, congrArg (file :: ·) hfiles, hlater⟩
      | false =>
          obtain ⟨more, _, hmore, hpure⟩ := Step.bind_eq_ok_iff.mp hrest
          cases hpure
          obtain ⟨trace, hattempts, hfiles, hlater⟩ := ih hmore
          exact ⟨(file, none) :: trace, .postponed hrender hattempts,
            congrArg (file :: ·) hfiles, congrArg (file :: ·) hlater⟩

theorem firstPass_of_attempts {trace : List (SkeletonFile × Option Call)}
    (h : Attempts job sink scope s run trace last) :
    firstPass (renderFile job sink scope s) (trace.map Prod.fst) run =
      .ok (postponed trace) last := by
  induction h with
  | nil => rfl
  | called hyields _ hrender hrest ih =>
      exact Step.bind_eq_ok_iff.mpr ⟨true, _, done_of_ok hrender, ih⟩
  | postponed hrender hrest ih =>
      refine Step.bind_eq_ok_iff.mpr ⟨false, _, done_of_postponed hrender, ?_⟩
      exact Step.bind_eq_ok_iff.mpr ⟨_, _, ih, rfl⟩

theorem exists_stop_of_firstPass {files : List SkeletonFile} {failure : Failure}
    (h : firstPass (renderFile job sink scope s) files run = .error failure last) :
    ∃ trace file after state, files = trace.map Prod.fst ++ file :: after ∧
      Attempts job sink scope s run trace state ∧
      renderFile job sink scope s file state = .error failure last := by
  induction files generalizing run with
  | nil => cases h
  | cons file rest ih =>
      rcases Step.bind_eq_error_iff.mp h with hdone | ⟨finished, next, hdone, hrest⟩
      · exact ⟨[], file, rest, run, rfl, .nil, eq_of_done_error hdone⟩
      · have hfile := eq_of_done hdone
        cases finished with
        | true =>
            obtain ⟨request, hyields⟩ := yields_of_renderFile hfile
            obtain ⟨trace, stop, after, state, hfiles, hattempts, hstop⟩ := ih hrest
            exact ⟨(file, some (callAt job request next)) :: trace, stop, after, state,
              congrArg (file :: ·) hfiles, .called hyields rfl hfile hattempts, hstop⟩
        | false =>
            rcases Step.bind_eq_error_iff.mp hrest with hmore | ⟨_, _, _, hpure⟩
            · obtain ⟨trace, stop, after, state, hfiles, hattempts, hstop⟩ := ih hmore
              exact ⟨(file, none) :: trace, stop, after, state,
                congrArg (file :: ·) hfiles, .postponed hfile hattempts, hstop⟩
            · cases hpure

theorem exists_attempts_of_renderAll {files : List SkeletonFile}
    (h : renderAll (renderFile job sink scope s) files run = .ok () last) :
    ∃ calls, Attempts job sink scope s run (unpostponed calls) last ∧
      calls.map Prod.fst = files := by
  induction files generalizing run with
  | nil =>
      cases h
      exact ⟨[], .nil, rfl⟩
  | cons file rest ih =>
      obtain ⟨_, next, hrender, hrest⟩ := Step.bind_eq_ok_iff.mp h
      obtain ⟨request, hyields⟩ := yields_of_renderFile hrender
      obtain ⟨calls, hattempts, hfiles⟩ := ih hrest
      exact ⟨(file, callAt job request next) :: calls, .called hyields rfl hrender hattempts,
        congrArg (file :: ·) hfiles⟩

theorem exists_stop_of_renderAll {files : List SkeletonFile} {failure : Failure}
    (h : renderAll (renderFile job sink scope s) files run = .error failure last) :
    ∃ own file after state, files = own.map Prod.fst ++ file :: after ∧
      Attempts job sink scope s run (unpostponed own) state ∧
      renderFile job sink scope s file state = .error failure last := by
  induction files generalizing run with
  | nil => cases h
  | cons file rest ih =>
      rcases Step.bind_eq_error_iff.mp h with hfile | ⟨_, next, hfile, hrest⟩
      · exact ⟨[], file, rest, run, rfl, .nil, hfile⟩
      · obtain ⟨request, hyields⟩ := yields_of_renderFile hfile
        obtain ⟨own, stop, after, state, hfiles, hattempts, hstop⟩ := ih hrest
        exact ⟨(file, callAt job request next) :: own, stop, after, state,
          congrArg (file :: ·) hfiles, .called hyields rfl hfile hattempts, hstop⟩

theorem renderAll_of_secondPass {render : SkeletonFile → Running σ Unit}
    {files : List SkeletonFile} (h : secondPass render files run = .ok () last) :
    renderAll render files run = .ok () last := by
  induction files generalizing run with
  | nil => exact h
  | cons file rest ih =>
      obtain ⟨finished, next, hdone, hrest⟩ := Step.bind_eq_ok_iff.mp h
      have hrender := eq_of_done hdone
      cases finished with
      | true => exact Step.bind_eq_ok_iff.mpr ⟨(), next, hrender, ih hrest⟩
      | false => cases hrest

theorem renderAll_of_attempts {calls : List (SkeletonFile × Call)}
    (h : Attempts job sink scope s run (unpostponed calls) last) :
    renderAll (renderFile job sink scope s) (calls.map Prod.fst) run = .ok () last := by
  induction calls generalizing run with
  | nil =>
      cases h
      rfl
  | cons call calls ih =>
      cases h with
      | called hyields _ hrender hrest =>
          exact Step.bind_eq_ok_iff.mpr ⟨(), _, hrender, ih hrest⟩

/-- The second pass goes on behind the files that are not postponed again. -/
theorem secondPass_append {calls : List (SkeletonFile × Call)} {middle : Run σ}
    (h : Attempts job sink scope s run (unpostponed calls) middle) (after : List SkeletonFile) :
    secondPass (renderFile job sink scope s) (calls.map Prod.fst ++ after) run =
      secondPass (renderFile job sink scope s) after middle := by
  induction calls generalizing run with
  | nil =>
      cases h
      rfl
  | cons call calls ih =>
      cases h with
      | called hyields _ hrender hrest =>
          rw [List.map_cons, List.cons_append, secondPass, Step.bind_of_ok (done_of_ok hrender)]
          exact ih hrest

theorem secondPass_eq_ok_iff {files : List SkeletonFile} :
    secondPass (renderFile job sink scope s) files run = .ok () last ↔
      ∃ calls, Attempts job sink scope s run (unpostponed calls) last ∧
        calls.map Prod.fst = files := by
  constructor
  · intro h
    exact exists_attempts_of_renderAll (renderAll_of_secondPass h)
  · rintro ⟨calls, hattempts, rfl⟩
    have happend := secondPass_append hattempts []
    rw [List.append_nil] at happend
    exact happend

theorem secondPass_of_postponed {file : SkeletonFile} (after : List SkeletonFile)
    (h : renderFile job sink scope s file run = .error (.foreign .postponed) last) :
    secondPass (renderFile job sink scope s) (file :: after) run =
      .error (.skeleton (some file.path) .postponedAgain) last := by
  rw [secondPass, Step.bind_of_ok (done_of_postponed h)]
  rfl

theorem exists_yields_of_attempts {calls : List (SkeletonFile × Call)}
    (h : Attempts job sink scope s run (unpostponed calls) last) :
    ∀ call ∈ calls, ∃ state : Run σ, Yields job scope s state call.1 call.2.request := by
  induction calls generalizing run with
  | nil =>
      intro call hcall
      cases hcall
  | cons call calls ih =>
      cases h with
      | called hyields _ hrender hrest => exact List.forall_mem_cons.mpr ⟨⟨run, hyields⟩, ih hrest⟩

end

/-- The first pass of a run: the skeleton of the project is found, and each of its files is tried
once while files may be postponed. -/
structure FirstPass (job : Job) (sink : Sink σ) (run : Run σ) (s : Skeleton)
    (trace : List (SkeletonFile × Option Call)) (between : Run σ) : Prop where
  attempts : ∃ start last,
    lookup job.config "project" job.project.skeletonName run = .ok s start ∧
      Attempts job sink (.ofProject job.project) s
        { start with generated := [], postponing := true } trace last ∧
      between = { last with postponing := false }
  files : trace.map Prod.fst = s.files

theorem whilePostponing_eq_ok_iff {α : Type} {x : Running σ α} {run next : Run σ} {a : α} :
    whilePostponing x run = .ok a next ↔
      ∃ last, x { run with postponing := true } = .ok a last ∧
        { last with postponing := false } = next := by
  unfold whilePostponing
  constructor
  · intro h
    split at h
    · rename_i b last hx
      cases h
      exact ⟨last, hx, rfl⟩
    · cases h
  · rintro ⟨last, hx, rfl⟩
    rw [hx]

theorem whilePostponing_eq_error_iff {α : Type} {x : Running σ α} {run next : Run σ}
    {failure : Failure} :
    whilePostponing x run = .error failure next ↔
      ∃ last, x { run with postponing := true } = .error failure last ∧
        { last with postponing := false } = next := by
  unfold whilePostponing
  constructor
  · intro h
    split at h
    · cases h
    · rename_i other last hx
      cases h
      exact ⟨last, hx, rfl⟩
  · rintro ⟨last, hx, rfl⟩
    rw [hx]

section

variable {job : Job} {sink : Sink σ} {run between last : Run σ} {s : Skeleton}
  {trace : List (SkeletonFile × Option Call)} {calls : σ → List Request}

theorem FirstPass.renderProject_eq (h : FirstPass job sink run s trace between) :
    renderProject job sink run =
      secondPass (renderFile job sink (.ofProject job.project) s) (postponed trace) between := by
  obtain ⟨⟨start, middle, hlookup, hattempts, rfl⟩, hfiles⟩ := h
  have hfirst := firstPass_of_attempts hattempts
  rw [hfiles] at hfirst
  have hclear : (modify fun run => { run with generated := [] } : Running σ Unit) start =
      .ok () { start with generated := [] } := rfl
  rw [renderProject, Step.bind_of_ok hlookup, Step.bind_of_ok hclear,
    Step.bind_of_ok (whilePostponing_eq_ok_iff.mpr ⟨middle, hfirst, rfl⟩)]

theorem exists_firstPass_of_renderProject (h : renderProject job sink run = .ok () last) :
    ∃ s trace between, FirstPass job sink run s trace between ∧
      secondPass (renderFile job sink (.ofProject job.project) s) (postponed trace) between =
        .ok () last := by
  obtain ⟨s, start, hlookup, hclear⟩ := Step.bind_eq_ok_iff.mp h
  obtain ⟨_, _, hcleared, hpasses⟩ := Step.bind_eq_ok_iff.mp hclear
  cases hcleared
  obtain ⟨later, between, hwhile, hsecond⟩ := Step.bind_eq_ok_iff.mp hpasses
  obtain ⟨middle, hfirst, rfl⟩ := whilePostponing_eq_ok_iff.mp hwhile
  obtain ⟨trace, hattempts, hfiles, rfl⟩ := exists_attempts_of_firstPass hfirst
  exact ⟨s, trace, _, ⟨⟨start, middle, hlookup, hattempts, rfl⟩, hfiles⟩, hsecond⟩

theorem FirstPass.calls_eq (hrecords : sink.Records calls)
    (h : FirstPass job sink run s trace between) :
    calls between.sink = calls run.sink ++ requests (called trace) := by
  obtain ⟨⟨start, middle, hlookup, hattempts, rfl⟩, -⟩ := h
  have hstart : start.sink = run.sink := (quiet_lookup _ _ _).of_ok hlookup
  change calls middle.sink = _
  rw [hattempts.calls_eq hrecords, ← hstart]

theorem calls_of_unpostponed {scope : Scope} {own : List (SkeletonFile × Call)}
    (hrecords : sink.Records calls)
    (h : Attempts job sink scope s run (unpostponed own) last) :
    calls last.sink = calls run.sink ++ requests own := by
  rw [h.calls_eq hrecords, called_unpostponed]

theorem FirstPass.calls_second {second : List (SkeletonFile × Call)}
    (hrecords : sink.Records calls) (h : FirstPass job sink run s trace between)
    (hsecond : Attempts job sink (.ofProject job.project) s between (unpostponed second) last) :
    calls last.sink = calls run.sink ++ requests (called trace ++ second) := by
  rw [calls_of_unpostponed hrecords hsecond, h.calls_eq hrecords, requests_append,
    List.append_assoc]

end

/-- The way to render templates only adds to the changes of lists, as long as handlers do. -/
def OnlyAdds (job : Job) : Prop :=
  ∀ setting template, setting.Handles → (job.substitute setting template).Grows

theorem onlyAdds_of_render {job : Job} (hrender : job.substitute = Setting.render) :
    OnlyAdds job := by
  intro setting template hhandles
  rw [hrender]
  exact Setting.grows_renderTokens hhandles (Template.tokens template)

section

variable {job : Job}

theorem grows_renderContent (hadds : OnlyAdds job) (evaluate : LiveEvaluator) {setting : Setting}
    (hhandles : setting.Handles) (content : Text) :
    (renderContent job.substitute evaluate setting content).Grows := by
  have htarget : ∀ text : Text, Rendering.Grows (do
      let target ← job.substitute setting (← get).flags.targetPath
      pure (text, target)) := fun text =>
    Step.extends_get_bind fun sheet => (hadds setting _ hhandles).bind fun target =>
      Step.extends_pure (text, target)
  refine Step.extends_get_bind fun sheet => Step.extends_ite ?_ ?_
  · exact (hadds _ content (setting.handles_withDirectives evaluate)).bind htarget
  · exact (Step.extends_pure content).bind htarget

theorem extends_requestFor (hadds : OnlyAdds job) (scope : Scope) {setting : Setting}
    (hhandles : setting.Handles) (s : Skeleton) (file : SkeletonFile) :
    Step.Extends Log.changes (requestFor job.substitute scope setting s file) := by
  refine Step.Extends.bind (Step.Extends.mapFailure (fun log => ?_) _) fun result => ?_
  · have hgrows := grows_renderContent hadds scope.evaluate hhandles file.content
      (log.sheet (s.flagsFor file.path file.permissions))
    rw [Rendering.withFlags]
    cases hrender : renderContent job.substitute scope.evaluate setting file.content
      (log.sheet (s.flagsFor file.path file.permissions)) <;> rw [hrender] at hgrows <;> exact hgrows
  · exact Step.extends_pure _

theorem extends_renderFile (hadds : OnlyAdds job) (sink : Sink σ) (scope : Scope) (s : Skeleton)
    (file : SkeletonFile) : Step.Extends Run.changes (renderFile job sink scope s file) := by
  have hbackup : Step.Keeps Run.changes (backup job file : Running σ Unit) :=
    Step.keeps_focus _ fun _ _ => rfl
  have hhand : ∀ request, Step.Keeps Run.changes (handOver sink request) := fun request =>
    Step.keeps_focus _ fun _ _ => rfl
  refine hbackup.extends.bind fun _ => Step.extends_get_bind fun run => ?_
  have hrequest := extends_requestFor hadds scope
    (Setting.handles_of_none (s := settingAt scope run) rfl) s file
  refine Step.Extends.bind (Step.extends_focus hrequest (fun _ => rfl) fun _ _ => rfl)
    fun request => (hhand request).extends.bind fun _ => Step.extends_get_bind fun run => ?_
  exact Step.extends_ite (Step.extends_pure ()) fun _ => List.prefix_rfl

theorem extends_lookup (config : Config) (kind name : Text) :
    Step.Extends Run.changes (lookup config kind name : Running σ Skeleton) := by
  have hreport : ∀ x : Report (Catalog × Cache),
      Step.Keeps Run.changes (report x : Running σ (Catalog × Cache)) := fun x =>
    Step.keeps_focus x fun _ _ => rfl
  refine Step.Extends.bind (Step.extends_get_bind fun run => ?_) fun catalog =>
    Step.extends_lift (catalog.lookup name)
  exact (hreport _).extends.bind fun _ _ => List.prefix_rfl

theorem Attempts.grows {sink : Sink σ} {scope : Scope} {s : Skeleton} {run last : Run σ}
    {trace : List (SkeletonFile × Option Call)} (hadds : OnlyAdds job)
    (h : Attempts job sink scope s run trace last) : run.changes <+: last.changes := by
  induction h with
  | nil => exact List.prefix_rfl
  | called _ _ hrender _ ih =>
      exact ((extends_renderFile hadds sink scope s _).of_ok hrender).trans ih
  | postponed hrender _ ih =>
      exact ((extends_renderFile hadds sink scope s _).of_error hrender).trans ih

end

/-- The calls for the skeletons of some packages. -/
abbrev Visits := List (Package × List (SkeletonFile × Call))

/-- The calls for all packages, one after the other. -/
def Visits.calls (visits : Visits) : List (SkeletonFile × Call) := visits.flatMap Prod.snd

/-- The package at an index of the packages of the project, in a state of a run. -/
def packageAt (job : Job) (run : Run σ) (i : Nat) : Option Package :=
  (job.project.after run.changes).packages[i]?

/-- The skeletons of the packages at some indices of the packages of the project are rendered one
after the other. Each of their files leads to one call, with its path below the directory of the
package. -/
inductive PackageCalls (job : Job) (sink : Sink σ) : Run σ → List Nat → Visits → Run σ → Prop where
  | nil {run : Run σ} : PackageCalls job sink run [] [] run
  /-- There is a package at the index when it is its turn. -/
  | cons {run start next last : Run σ} {i : Nat} {rest : List Nat} {k : Package} {s : Skeleton}
      {own : List (SkeletonFile × Call)} {more : Visits}
      (hpackage : packageAt job run i = some k)
      (hlookup : lookup job.config "package" k.skeletonName run = .ok s start)
      (hattempts : Attempts { job with package := some k } sink (.ofPackage k job.project) s start
        (unpostponed own) next)
      (hfiles : own.map Prod.fst = s.files)
      (hpaths : ∀ call ∈ own, ∃ (state : Run σ) (content target : Text) (flags : FileFlags),
        Renders { job with package := some k } (.ofPackage k job.project) s state call.1 content
            target flags ∧
          call.2.request.path = joinPaths k.dir target)
      (hrest : PackageCalls job sink next rest more last) :
      PackageCalls job sink run (i :: rest) ((k, own) :: more) last
  /-- So many packages are no longer there. -/
  | gone {run last : Run σ} {i : Nat} {rest : List Nat} {more : Visits}
      (hpackage : packageAt job run i = none)
      (hrest : PackageCalls job sink run rest more last) :
      PackageCalls job sink run (i :: rest) more last

section

variable {job : Job} {sink : Sink σ} {run last : Run σ} {calls : σ → List Request}

theorem renderPackages_of_some {i : Nat} {k : Package} (rest : List Nat)
    (h : packageAt job run i = some k) :
    renderPackages job sink (i :: rest) run = (do
      renderPackage { job with package := some k } sink
      renderPackages job sink rest) run := by
  rw [renderPackages, Step.get_bind]
  rw [packageAt] at h
  dsimp only
  rw [h]

theorem renderPackages_of_none {i : Nat} (rest : List Nat)
    (h : packageAt job run i = none) :
    renderPackages job sink (i :: rest) run = renderPackages job sink rest run := by
  rw [renderPackages, Step.get_bind]
  rw [packageAt] at h
  dsimp only
  rw [h]

theorem PackageCalls.renderPackages_eq_ok {indices : List Nat} {visits : Visits}
    (h : PackageCalls job sink run indices visits last) :
    renderPackages job sink indices run = .ok () last := by
  induction h with
  | nil => rfl
  | cons hpackage hlookup hattempts hfiles hpaths hrest ih =>
      have hall := renderAll_of_attempts hattempts
      rw [hfiles] at hall
      rw [renderPackages_of_some _ hpackage]
      exact Step.bind_eq_ok_iff.mpr
        ⟨(), _, Step.bind_eq_ok_iff.mpr ⟨_, _, hlookup, hall⟩, ih⟩
  | gone hpackage hrest ih => exact (renderPackages_of_none _ hpackage).trans ih

/-- A package that is rendered is looked up, and each file of its skeleton leads to one call. -/
theorem exists_visit {k : Package} {next : Run σ} {i : Nat}
    (hpackage : packageAt job run i = some k)
    (h : renderPackage { job with package := some k } sink run = .ok () next) :
    ∃ own, ∀ {rest more last}, PackageCalls job sink next rest more last →
      PackageCalls job sink run (i :: rest) ((k, own) :: more) last := by
  obtain ⟨s, start, hlookup, hall⟩ := Step.bind_eq_ok_iff.mp h
  obtain ⟨own, hattempts, hfiles⟩ := exists_attempts_of_renderAll hall
  refine ⟨own, fun hrest => .cons hpackage hlookup hattempts hfiles (fun call hcall => ?_) hrest⟩
  obtain ⟨state, content, target, flags, hrenders, hrequest⟩ :=
    exists_yields_of_attempts hattempts call hcall
  exact ⟨state, content, target, flags, hrenders, by rw [hrequest]; rfl⟩

theorem exists_packageCalls {indices : List Nat}
    (h : renderPackages job sink indices run = .ok () last) :
    ∃ visits, PackageCalls job sink run indices visits last := by
  induction indices generalizing run with
  | nil =>
      cases h
      exact ⟨[], .nil⟩
  | cons i rest ih =>
      cases hpackage : packageAt job run i with
      | none =>
          rw [renderPackages_of_none _ hpackage] at h
          obtain ⟨more, hmore⟩ := ih h
          exact ⟨more, .gone hpackage hmore⟩
      | some k =>
          rw [renderPackages_of_some _ hpackage] at h
          obtain ⟨_, next, hrendered, hrest⟩ := Step.bind_eq_ok_iff.mp h
          obtain ⟨own, hvisit⟩ := exists_visit hpackage hrendered
          obtain ⟨more, hmore⟩ := ih hrest
          exact ⟨(k, own) :: more, hvisit hmore⟩

theorem exists_stop_of_renderPackages {indices : List Nat} {failure : Failure}
    (h : renderPackages job sink indices run = .error failure last) :
    ∃ earlier i later visits here k, indices = earlier ++ i :: later ∧
      PackageCalls job sink run earlier visits here ∧
      packageAt job here i = some k ∧
      renderPackage { job with package := some k } sink here = .error failure last := by
  induction indices generalizing run with
  | nil => cases h
  | cons i rest ih =>
      cases hpackage : packageAt job run i with
      | none =>
          rw [renderPackages_of_none _ hpackage] at h
          obtain ⟨earlier, stop, later, visits, here, k, hindices, hcalls, hstop⟩ := ih h
          exact ⟨i :: earlier, stop, later, visits, here, k, congrArg (i :: ·) hindices,
            .gone hpackage hcalls, hstop⟩
      | some k =>
          rw [renderPackages_of_some _ hpackage] at h
          rcases Step.bind_eq_error_iff.mp h with hrendered | ⟨_, next, hrendered, hrest⟩
          · exact ⟨[], i, rest, [], run, k, rfl, .nil, hpackage, hrendered⟩
          · obtain ⟨own, hvisit⟩ := exists_visit hpackage hrendered
            obtain ⟨earlier, stop, later, visits, here, only, hindices, hcalls, hstop⟩ := ih hrest
            exact ⟨i :: earlier, stop, later, _, here, only, congrArg (i :: ·) hindices,
              hvisit hcalls, hstop⟩

theorem PackageCalls.calls_eq (hrecords : sink.Records calls) {indices : List Nat}
    {visits : Visits} (h : PackageCalls job sink run indices visits last) :
    calls last.sink = calls run.sink ++ requests visits.calls := by
  induction h with
  | nil => exact (List.append_nil _).symm
  | @cons run start next last i rest k s own more _ hlookup hattempts _ _ _ ih =>
      have hstart : start.sink = run.sink := (quiet_lookup _ _ _).of_ok hlookup
      have happend : Visits.calls ((k, own) :: more) = own ++ Visits.calls more := rfl
      rw [ih, calls_of_unpostponed hrecords hattempts, hstart, happend, requests_append,
        List.append_assoc]
  | gone _ _ ih => exact ih

theorem filterMap_getElem?_range {α : Type} {items : List α} {n : Nat} (h : items.length ≤ n) :
    (List.range n).filterMap (items[·]?) = items := by
  induction n generalizing items with
  | zero =>
      obtain rfl := List.length_eq_zero_iff.mp (Nat.le_zero.mp h)
      rfl
  | succ n ih =>
      cases items with
      | nil => simp
      | cons item rest =>
          have hrest := congrArg (item :: ·) (ih (Nat.le_of_succ_le_succ h))
          rw [List.range_succ_eq_map, List.filterMap_cons, List.filterMap_map]
          exact hrest

theorem PackageCalls.grows (hadds : OnlyAdds job) {indices : List Nat} {visits : Visits}
    (h : PackageCalls job sink run indices visits last) : run.changes <+: last.changes := by
  induction h with
  | nil => exact List.prefix_rfl
  | @cons run start next last i rest k s own more _ hlookup hattempts _ _ _ ih =>
      have hadds' : OnlyAdds { job with package := some k } := hadds
      have hstart := (extends_lookup job.config "package" k.skeletonName).of_ok hlookup
      exact (hstart.trans (hattempts.grows hadds')).trans ih
  | gone _ _ ih => exact ih

/-- If no package is ever taken away or moved, all of them are visited, in their order. -/
theorem PackageCalls.packages_eq (hadds : OnlyAdds job) {visits : Visits}
    (hspares : last.changes.Spares .packages)
    (h : PackageCalls job sink run (List.range job.project.packages.length) visits last) :
    visits.map Prod.fst = job.project.packages := by
  have hvisited : ∀ {indices : List Nat} {run visits last}, last.changes.Spares .packages →
      PackageCalls job sink run indices visits last →
        visits.map Prod.fst = indices.filterMap (job.project.packages[·]?) := by
    intro indices run visits last hspares h
    induction h with
    | nil => rfl
    | @cons run start next last i rest k s own more hpackage hlookup hattempts hfiles hpaths hrest
        ih =>
        have hgrows := (PackageCalls.cons hpackage hlookup hattempts hfiles hpaths hrest).grows hadds
        rw [packageAt, Project.packages_after (hspares.of_prefix hgrows)] at hpackage
        rw [List.map_cons, ih hspares]
        exact (List.filterMap_cons_some (f := (job.project.packages[·]?)) hpackage).symm
    | @gone run last i rest more hpackage hrest ih =>
        rw [packageAt, Project.packages_after (hspares.of_prefix (hrest.grows hadds))] at hpackage
        exact (ih hspares).trans
          (List.filterMap_cons_none (f := (job.project.packages[·]?)) hpackage).symm
  rw [hvisited hspares h]
  exact filterMap_getElem?_range (Nat.le_refl _)

end

/-- A catalog with a skeleton whose first file asks for what has been generated. -/
def listingCatalog : Catalog :=
  [("program", {
    name := "program"
    files := [
      { path := "a", content := (Token.placeholder "generated_files").source, permissions := 420 },
      { path := "b", content := "text", permissions := 420 }] })]

/-- The job to render a project with that skeleton. -/
def listingJob : Job where
  config := { shareDir := .ofText "/share", stateDir := .ofText "/state", verbosity := 0 }
  project := { name := "p" }

/-- The state in which that catalog is known. -/
def listingRun : Run (List Request) where
  disk := Disk.empty
  sink := []
  cache := [("project", listingCatalog)]

end Scaffold.Run
