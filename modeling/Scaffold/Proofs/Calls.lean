import Scaffold.Proofs.Steps
import Scaffold.Run

/-!
What a run hands over. To render one file is to prepare a request, which hands over nothing, and then
to hand this request over.
-/

namespace Scaffold

variable {σ α β : Type}

/-- The sink never fails, and each request is noted at the end of a list. -/
def Sink.Records (sink : Sink σ) (calls : σ → List Request) : Prop :=
  ∀ request disk noted, ∃ disk' noted', sink request (disk, noted) = .ok () (disk', noted') ∧
    calls noted' = calls noted ++ [request]

theorem records_recordRequest : Sink.Records recordRequest id :=
  fun request disk noted => ⟨disk, noted ++ [request], rfl, rfl⟩

namespace Run

/-- A step that hands nothing over. -/
def Quiet (x : Running σ α) : Prop := ∀ run, (Step.state (x run)).sink = run.sink

theorem Quiet.bind {x : Running σ α} {f : α → Running σ β} (hx : Quiet x)
    (hf : ∀ a, Quiet (f a)) : Quiet (x >>= f) :=
  Step.Keeps.bind hx hf

theorem Quiet.of_ok {x : Running σ α} {a : α} {run next : Run σ} (hx : Quiet x)
    (h : x run = .ok a next) : next.sink = run.sink :=
  Step.Keeps.of_ok hx h

theorem Quiet.of_error {x : Running σ α} {failure : Failure} {run next : Run σ} (hx : Quiet x)
    (h : x run = .error failure next) : next.sink = run.sink :=
  Step.Keeps.of_error hx h

theorem quiet_pure (a : α) : Quiet (pure a : Running σ α) := fun _ => rfl

theorem quiet_get : Quiet (get : Running σ (Run σ)) := fun _ => rfl

theorem quiet_report (x : Report α) : Quiet (report x : Running σ α) :=
  Step.keeps_focus x fun _ _ => rfl

theorem quiet_logging (x : Logging α) : Quiet (logging x : Running σ α) :=
  Step.keeps_focus x fun _ _ => rfl

theorem quiet_onDisk (x : OnDisk α) : Quiet (onDisk x : Running σ α) :=
  Step.keeps_focus x fun _ _ => rfl

theorem onDisk_eq_ok_iff {x : OnDisk α} {a : α} {run next : Run σ} :
    onDisk x run = .ok a next ↔ ∃ disk, x run.disk = .ok a disk ∧ { run with disk := disk } = next :=
  Step.focus_eq_ok_iff

theorem onDisk_eq_error_iff {x : OnDisk α} {failure : Failure} {run next : Run σ} :
    onDisk x run = .error failure next ↔
      ∃ disk, x run.disk = .error failure disk ∧ { run with disk := disk } = next :=
  Step.focus_eq_error_iff

theorem logging_eq_ok_iff {x : Logging α} {a : α} {run next : Run σ} :
    logging x run = .ok a next ↔
      ∃ log, x run.log = .ok a log ∧
        { run with warnings := log.warnings, changes := log.changes } = next :=
  Step.focus_eq_ok_iff

theorem logging_eq_error_iff {x : Logging α} {failure : Failure} {run next : Run σ} :
    logging x run = .error failure next ↔
      ∃ log, x run.log = .error failure log ∧
        { run with warnings := log.warnings, changes := log.changes } = next :=
  Step.focus_eq_error_iff

theorem quiet_backup (job : Job) (file : SkeletonFile) : Quiet (backup job file : Running σ Unit) :=
  quiet_onDisk _

theorem quiet_lookup (config : Config) (kind name : Text) :
    Quiet (lookup config kind name : Running σ Skeleton) := by
  refine Quiet.bind (quiet_get.bind fun run => (quiet_report _).bind ?_) fun catalog => ?_
  · rintro ⟨catalog, cache⟩
    exact Quiet.bind (fun _ => rfl) fun _ => quiet_pure catalog
  · intro run
    rw [Step.lift_apply]
    cases catalog.lookup name <;> rfl

/-- The demand that the results of rendering a file lead to. -/
def requestWith (scope : Scope) (file : SkeletonFile) (content target : Text) (flags : FileFlags) :
    Request where
  path := scope.place target
  createOnce := flags.createOnce
  skipTags := flags.skipTags
  content := content
  record := flags.record
  skip := flags.forceSkip || flags.suppressed
  permissions := permissionsFor file.path (orElseBits flags.permissions file.permissions)

/-- How templates are rendered in a state of a run. -/
def settingAt (scope : Scope) (run : Run σ) : Setting :=
  settingFor scope run.changes run.postponing run.generated

/-- The sheet with which the rendering of a file starts. -/
def sheetFor (s : Skeleton) (file : SkeletonFile) (log : Log) : Sheet :=
  log.sheet (s.flagsFor file.path file.permissions)

/-- What a file is rendered to in a state of a run: its content, its path and its flags. -/
def Renders (job : Job) (scope : Scope) (s : Skeleton) (run : Run σ) (file : SkeletonFile)
    (content target : Text) (flags : FileFlags) : Prop :=
  ∃ log : Log,
    renderContent job.substitute scope.evaluate (settingAt scope run) file.content
        (sheetFor s file run.log) =
      .ok (content, target) (log.sheet flags)

/-- The request that a file leads to. -/
def Yields (job : Job) (scope : Scope) (s : Skeleton) (run : Run σ) (file : SkeletonFile)
    (request : Request) : Prop :=
  ∃ content target flags, Renders job scope s run file content target flags ∧
    request = requestWith scope file content target flags

section

variable {job : Job} {sink : Sink σ} {scope : Scope} {s : Skeleton} {file : SkeletonFile}
  {run : Run σ}

theorem Yields.unique {request other : Request} (h : Yields job scope s run file request)
    (hother : Yields job scope s run file other) : request = other := by
  obtain ⟨content, target, flags, ⟨_, hrender⟩, rfl⟩ := h
  obtain ⟨_, _, _, ⟨_, hrender'⟩, rfl⟩ := hother
  have hsame := hrender.symm.trans hrender'
  injection hsame with hresult hsheet
  obtain ⟨rfl, rfl⟩ := Prod.mk.inj hresult
  rw [show flags = _ from congrArg Sheet.flags hsheet]
  rfl

/-- The request of a file, before it is handed over. -/
def prepare (job : Job) (scope : Scope) (s : Skeleton) (file : SkeletonFile) :
    Running σ Request := do
  backup job file
  let run ← get
  logging (requestFor job.substitute scope (settingAt scope run) s file)

theorem quiet_prepare : Quiet (prepare job scope s file : Running σ Request) :=
  (quiet_backup job file).bind fun _ => quiet_get.bind fun _ => quiet_logging _

/-- A request that was handed over. -/
structure Call where
  request : Request
  /-- The tags that the project skipped at that moment. -/
  skips : List Text

/-- Whether a request that was handed over is left out of what was generated. -/
def Call.isSkipped (call : Call) : Bool := Run.isSkipped call.skips call.request

/-- The call that handing a request over in a state comes to. -/
def callAt (job : Job) (request : Request) (run : Run σ) : Call where
  request := request
  skips := (job.project.after run.changes).skip

/-- Notes the path of a request, unless it is skipped. -/
def register (job : Job) (request : Request) : Running σ Unit := do
  let project := job.project.after (← get).changes
  if isSkipped project.skip request then pure ()
  else modify fun run => { run with generated := run.generated ++ [request.path] }

/-- What was generated once a path has been noted. -/
def generatedWith (job : Job) (request : Request) (run : Run σ) : List Text :=
  if (callAt job request run).isSkipped then run.generated else run.generated ++ [request.path]

theorem register_apply (request : Request) (run : Run σ) :
    register job request run = .ok () { run with generated := generatedWith job request run } := by
  rw [register, Step.get_bind, generatedWith]
  change (if (callAt job request run).isSkipped then _ else _ : Running σ Unit) run = _
  split <;> rfl

/-- Hands a request over, and notes its path unless it is skipped. -/
def deliver (job : Job) (sink : Sink σ) (request : Request) : Running σ Unit := do
  handOver sink request
  register job request

theorem deliver_eq_ok_iff {request : Request} {next : Run σ} :
    deliver job sink request run = .ok () next ↔
      ∃ handed, handOver sink request run = .ok () handed ∧
        next = { handed with generated := generatedWith job request handed } := by
  rw [deliver, Step.bind_eq_ok_iff]
  constructor
  · rintro ⟨_, handed, hhand, hregister⟩
    rw [register_apply] at hregister
    cases hregister
    exact ⟨handed, hhand, rfl⟩
  · rintro ⟨handed, hhand, rfl⟩
    exact ⟨(), handed, hhand, register_apply request handed⟩

theorem deliver_eq_error_iff {request : Request} {failure : Failure} {next : Run σ} :
    deliver job sink request run = .error failure next ↔
      handOver sink request run = .error failure next := by
  rw [deliver, Step.bind_eq_error_iff]
  refine or_iff_left ?_
  rintro ⟨_, handed, -, hregister⟩
  rw [register_apply] at hregister
  cases hregister

theorem renderFile_eq :
    renderFile job sink scope s file = (do deliver job sink (← prepare job scope s file)) := by
  simp only [prepare, bind_assoc]
  rfl

theorem requestFor_eq_ok {substitute : Substitute} {setting : Setting} {log after : Log}
    {request : Request} (h : requestFor substitute scope setting s file log = .ok request after) :
    ∃ content target flags,
      renderContent substitute scope.evaluate setting file.content (sheetFor s file log) =
        .ok (content, target) (after.sheet flags) ∧
      request = requestWith scope file content target flags := by
  obtain ⟨⟨⟨content, target⟩, flags⟩, middle, hrender, hrequest⟩ := Step.bind_eq_ok_iff.mp h
  cases hrequest
  have hflags := Step.mapFailure_eq_ok_iff.mp hrender
  unfold Rendering.withFlags at hflags
  split at hflags
  · rename_i result sheet hsheet
    cases hflags
    exact ⟨content, target, sheet.flags, hsheet, rfl⟩
  · cases hflags

theorem prepare_eq_ok {request : Request} {next : Run σ}
    (h : prepare job scope s file run = .ok request next) : Yields job scope s run file request := by
  obtain ⟨_, saved, hbackup, hget⟩ := Step.bind_eq_ok_iff.mp h
  obtain ⟨_, _, hsame, hlogging⟩ := Step.bind_eq_ok_iff.mp hget
  cases hsame
  obtain ⟨disk, -, rfl⟩ := onDisk_eq_ok_iff.mp hbackup
  obtain ⟨log, hrequest, -⟩ := logging_eq_ok_iff.mp hlogging
  obtain ⟨content, target, flags, hrender, rfl⟩ := requestFor_eq_ok hrequest
  exact ⟨content, target, flags, ⟨log, hrender⟩, rfl⟩

theorem yields_of_renderFile {next : Run σ} (h : renderFile job sink scope s file run = .ok () next) :
    ∃ request, Yields job scope s run file request := by
  rw [renderFile_eq] at h
  obtain ⟨request, middle, hprepare, -⟩ := Step.bind_eq_ok_iff.mp h
  exact ⟨request, prepare_eq_ok hprepare⟩

variable {calls : σ → List Request}

theorem handOver_eq_ok (hrecords : sink.Records calls) (request : Request) (run : Run σ) :
    ∃ next, handOver sink request run = .ok () next ∧
      calls next.sink = calls run.sink ++ [request] := by
  obtain ⟨disk, noted, hsink, hnoted⟩ := hrecords request run.disk run.sink
  refine ⟨{ run with disk := disk, sink := noted }, ?_, hnoted⟩
  rw [handOver, focus, hsink]

theorem renderFile_of_prepare {request : Request} {prepared : Run σ}
    (hprepare : prepare job scope s file run = .ok request prepared)
    (hrecords : sink.Records calls) :
    ∃ next, renderFile job sink scope s file run = .ok () next ∧
      calls next.sink = calls prepared.sink ++ [request] := by
  obtain ⟨next, hhand, hcalls⟩ := handOver_eq_ok hrecords request prepared
  rw [renderFile_eq, Step.bind_of_ok hprepare]
  exact ⟨_, deliver_eq_ok_iff.mpr ⟨next, hhand, rfl⟩, hcalls⟩

/-- A file that is rendered is handed over once. -/
theorem calls_of_renderFile {request : Request} {next : Run σ} (hrecords : sink.Records calls)
    (hyields : Yields job scope s run file request)
    (h : renderFile job sink scope s file run = .ok () next) :
    calls next.sink = calls run.sink ++ [request] := by
  cases hprepare : prepare job scope s file run with
  | ok other prepared =>
      obtain ⟨next', hrender, hcalls⟩ := renderFile_of_prepare hprepare hrecords
      rw [h] at hrender
      cases hrender
      rw [hcalls, hyields.unique (prepare_eq_ok hprepare), quiet_prepare.of_ok hprepare]
  | error failure prepared =>
      rw [renderFile_eq, Step.bind_of_error hprepare] at h
      cases h

/-- A file that cannot be rendered is not handed over. -/
theorem sink_of_renderFile {failure : Failure} {next : Run σ} (hrecords : sink.Records calls)
    (h : renderFile job sink scope s file run = .error failure next) : next.sink = run.sink := by
  cases hprepare : prepare job scope s file run with
  | ok request prepared =>
      obtain ⟨next', hrender, -⟩ := renderFile_of_prepare hprepare hrecords
      rw [h] at hrender
      cases hrender
  | error failure' prepared =>
      rw [renderFile_eq, Step.bind_of_error hprepare] at h
      cases h
      exact quiet_prepare.of_error hprepare

end

/-- Files are tried one after the other; each one leads to a request that is handed over, or is
postponed. -/
inductive Attempts (job : Job) (sink : Sink σ) (scope : Scope) (s : Skeleton) :
    Run σ → List (SkeletonFile × Option Call) → Run σ → Prop where
  | nil {run : Run σ} : Attempts job sink scope s run [] run
  | called {run next last : Run σ} {file : SkeletonFile} {call : Call}
      {trace : List (SkeletonFile × Option Call)}
      (hyields : Yields job scope s run file call.request)
      (hskips : call.skips = (job.project.after next.changes).skip)
      (hrender : renderFile job sink scope s file run = .ok () next)
      (hrest : Attempts job sink scope s next trace last) :
      Attempts job sink scope s run ((file, some call) :: trace) last
  | postponed {run next last : Run σ} {file : SkeletonFile}
      {trace : List (SkeletonFile × Option Call)}
      (hrender : renderFile job sink scope s file run = .error (.foreign .postponed) next)
      (hrest : Attempts job sink scope s next trace last) :
      Attempts job sink scope s run ((file, none) :: trace) last

theorem exists_call {job : Job} {sink : Sink σ} {scope : Scope} {s : Skeleton}
    {file : SkeletonFile} {run next : Run σ}
    (h : renderFile job sink scope s file run = .ok () next) :
    ∃ call, Attempts job sink scope s run [(file, some call)] next := by
  obtain ⟨request, hyields⟩ := yields_of_renderFile h
  exact ⟨callAt job request next, .called hyields rfl h .nil⟩

/-- The files of a trace that were handed over, with their calls. -/
def called (trace : List (SkeletonFile × Option Call)) : List (SkeletonFile × Call) :=
  trace.filterMap fun attempt => attempt.2.map (attempt.1, ·)

/-- The requests of calls. -/
def requests (calls : List (SkeletonFile × Call)) : List Request :=
  calls.map fun call => call.2.request

theorem requests_append (first second : List (SkeletonFile × Call)) :
    requests (first ++ second) = requests first ++ requests second :=
  List.map_append

/-- The sink has been handed the requests of a trace, in their order, and nothing else. -/
theorem Attempts.calls_eq {job : Job} {sink : Sink σ} {scope : Scope} {s : Skeleton}
    {calls : σ → List Request} (hrecords : sink.Records calls) {run last : Run σ}
    {trace : List (SkeletonFile × Option Call)}
    (h : Attempts job sink scope s run trace last) :
    calls last.sink = calls run.sink ++ requests (Run.called trace) := by
  induction h with
  | nil => exact (List.append_nil _).symm
  | called hyields _ hrender hrest ih =>
      rw [ih, calls_of_renderFile hrecords hyields hrender, List.append_assoc]
      rfl
  | postponed hrender hrest ih => rw [ih, sink_of_renderFile hrecords hrender]; rfl

end Run

end Scaffold
