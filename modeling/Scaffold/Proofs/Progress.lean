import Scaffold.Proofs.Passes

/-!
The progress of a run: the paths that it has generated, and whether files may be postponed. At any
moment of a run the generated paths are those of the requests that were handed over before and were
not skipped.
-/

namespace Scaffold.Run

variable {σ α : Type}

/-- The paths of the calls that were not skipped. -/
def unskipped (calls : List (SkeletonFile × Call)) : List Text :=
  (calls.filter fun call => !call.2.isSkipped).map fun call => call.2.request.path

@[simp] theorem unskipped_nil : unskipped [] = [] := rfl

theorem unskipped_append (first second : List (SkeletonFile × Call)) :
    unskipped (first ++ second) = unskipped first ++ unskipped second := by
  simp [unskipped]

/-- What is generated, and whether files may be postponed. -/
def progress (run : Run σ) : List Text × Bool := (run.generated, run.postponing)

theorem keeps_get : Step.Keeps progress (get : Running σ (Run σ)) := fun _ => rfl

theorem keeps_report (x : Report α) : Step.Keeps progress (report x : Running σ α) :=
  Step.keeps_focus x fun _ _ => rfl

theorem keeps_logging (x : Logging α) : Step.Keeps progress (logging x : Running σ α) :=
  Step.keeps_focus x fun _ _ => rfl

theorem keeps_backup (job : Job) (file : SkeletonFile) :
    Step.Keeps progress (backup job file : Running σ Unit) :=
  Step.keeps_focus _ fun _ _ => rfl

theorem keeps_handOver (sink : Sink σ) (request : Request) :
    Step.Keeps progress (handOver sink request) :=
  Step.keeps_focus _ fun _ _ => rfl

theorem keeps_prepare (job : Job) (scope : Scope) (s : Skeleton) (file : SkeletonFile) :
    Step.Keeps progress (prepare job scope s file : Running σ Request) :=
  (keeps_backup job file).bind fun _ => keeps_get.bind fun _ => keeps_logging _

theorem keeps_lookup (config : Config) (kind name : Text) :
    Step.Keeps progress (lookup config kind name : Running σ Skeleton) := by
  refine Step.Keeps.bind (keeps_get.bind fun run => (keeps_report _).bind ?_) fun catalog => ?_
  · rintro ⟨catalog, cache⟩ run
    rfl
  · intro run
    rw [Step.lift_apply]
    cases catalog.lookup name <;> rfl

section

variable {job : Job} {sink : Sink σ} {scope : Scope} {s : Skeleton} {file : SkeletonFile}
  {run next last : Run σ}

theorem progress_of_renderFile {call : Call}
    (hyields : Yields job scope s run file call.request)
    (hskips : call.skips = (job.project.after next.changes).skip)
    (h : renderFile job sink scope s file run = .ok () next) :
    progress next = (run.generated ++ unskipped [(file, call)], run.postponing) := by
  rw [renderFile_eq] at h
  obtain ⟨request, prepared, hprepare, hdeliver⟩ := Step.bind_eq_ok_iff.mp h
  obtain ⟨handed, hhand, rfl⟩ := deliver_eq_ok_iff.mp hdeliver
  obtain rfl : call.request = request := hyields.unique (prepare_eq_ok hprepare)
  have hcall : callAt job call.request handed = call := by rw [callAt, ← hskips]
  have hprepared := (keeps_prepare job scope s file).of_ok hprepare
  have hhanded := (keeps_handOver sink _).of_ok hhand
  obtain ⟨hgenerated, hpostponing⟩ := Prod.mk.inj (hhanded.trans hprepared)
  rw [progress, ← hgenerated, ← hpostponing, generatedWith, hcall]
  split <;> simp [unskipped, *]

theorem progress_of_renderFile_error {failure : Failure}
    (h : renderFile job sink scope s file run = .error failure last) :
    progress last = progress run := by
  rw [renderFile_eq] at h
  rcases Step.bind_eq_error_iff.mp h with hprepare | ⟨request, prepared, hprepare, hdeliver⟩
  · exact (keeps_prepare job scope s file).of_error hprepare
  · have hprepared := (keeps_prepare job scope s file).of_ok hprepare
    have hhand := deliver_eq_error_iff.mp hdeliver
    exact ((keeps_handOver sink request).of_error hhand).trans hprepared

theorem progress_of_attempts {trace : List (SkeletonFile × Option Call)}
    (h : Attempts job sink scope s run trace last) :
    progress last =
      (run.generated ++ unskipped (called trace), run.postponing) := by
  induction h with
  | nil => simp [progress, called]
  | @called run next last file call trace hyields hskips hrender hrest ih =>
      obtain ⟨hgenerated, hpostponing⟩ :=
        Prod.mk.inj (progress_of_renderFile hyields hskips hrender)
      have hcalled : called ((file, some call) :: trace) = [(file, call)] ++ called trace := rfl
      rw [ih, hgenerated, hpostponing, hcalled, unskipped_append, List.append_assoc]
  | @postponed run next last file trace hrender hrest ih =>
      obtain ⟨hgenerated, hpostponing⟩ := Prod.mk.inj (progress_of_renderFile_error hrender)
      rw [ih, hgenerated, hpostponing]
      rfl

theorem progress_of_unpostponed {calls : List (SkeletonFile × Call)}
    (h : Attempts job sink scope s run (unpostponed calls) last) :
    progress last = (run.generated ++ unskipped calls, run.postponing) := by
  rw [progress_of_attempts h, called_unpostponed]

end

section

variable {job : Job} {sink : Sink σ} {run between middle last : Run σ} {s : Skeleton}
  {trace : List (SkeletonFile × Option Call)} {calls : List (SkeletonFile × Call)}

theorem FirstPass.progress_eq (h : FirstPass job sink run s trace between) :
    progress between = (unskipped (called trace), false) := by
  obtain ⟨⟨start, last, -, hattempts, rfl⟩, -⟩ := h
  obtain ⟨hgenerated, -⟩ := Prod.mk.inj (progress_of_attempts hattempts)
  simpa [progress] using hgenerated

theorem FirstPass.progress_second (h : FirstPass job sink run s trace between)
    (hsecond : Attempts job sink (.ofProject job.project) s between (unpostponed calls) last) :
    progress last = (unskipped (called trace ++ calls), false) := by
  obtain ⟨hgenerated, hpostponing⟩ := Prod.mk.inj h.progress_eq
  rw [progress_of_unpostponed hsecond, hgenerated, hpostponing, unskipped_append]

/-- The files of the skeleton of the project have been rendered, with the given calls. -/
structure ProjectCalls (job : Job) (sink : Sink σ) (run : Run σ)
    (calls : List (SkeletonFile × Call)) (last : Run σ) : Prop where
  passes : ∃ s trace between second, FirstPass job sink run s trace between ∧
    Attempts job sink (.ofProject job.project) s between (unpostponed second) last ∧
    second.map Prod.fst = postponed trace ∧ calls = called trace ++ second

theorem ProjectCalls.progress_eq (h : ProjectCalls job sink run calls last) :
    progress last = (unskipped calls, false) := by
  obtain ⟨s, trace, between, second, hfirst, hattempts, -, rfl⟩ := h
  exact hfirst.progress_second hattempts

theorem PackageCalls.progress_eq {indices : List Nat} {visits : Visits}
    (h : PackageCalls job sink run indices visits last) :
    progress last = (run.generated ++ unskipped visits.calls, run.postponing) := by
  induction h with
  | nil => simp [progress, Visits.calls]
  | @cons run start next last i rest k s own more _ hlookup hattempts _ _ _ ih =>
      have hstart := (keeps_lookup job.config "package" k.skeletonName).of_ok hlookup
      obtain ⟨hgenerated, hpostponing⟩ := Prod.mk.inj hstart
      obtain ⟨hgenerated', hpostponing'⟩ := Prod.mk.inj (progress_of_unpostponed hattempts)
      have happend : Visits.calls ((k, own) :: more) = own ++ Visits.calls more := rfl
      rw [ih, hgenerated', hpostponing', hgenerated, hpostponing, happend, unskipped_append,
        List.append_assoc]
  | gone _ _ ih => exact ih

/-- A file of the skeleton of the project is tried in the first pass. The trace says what became of
the files before it. -/
structure TriedFirst (job : Job) (sink : Sink σ) (run : Run σ) (s : Skeleton)
    (trace : List (SkeletonFile × Option Call)) (file : SkeletonFile) (state : Run σ) :
    Prop where
  reached : ∃ start, lookup job.config "project" job.project.skeletonName run = .ok s start ∧
    Attempts job sink (.ofProject job.project) s
      { start with generated := [], postponing := true } trace state
  files : ∃ after, s.files = trace.map Prod.fst ++ file :: after

/-- A postponed file is tried in the second pass, after the given calls: those of the first pass and
those of the postponed files before it. -/
structure TriedAgain (job : Job) (sink : Sink σ) (run : Run σ) (s : Skeleton)
    (calls : List (SkeletonFile × Call)) (file : SkeletonFile) (state : Run σ) : Prop where
  reached : ∃ trace between second after, FirstPass job sink run s trace between ∧
    Attempts job sink (.ofProject job.project) s between (unpostponed second) state ∧
    postponed trace = second.map Prod.fst ++ file :: after ∧ calls = called trace ++ second

/-- A file of the skeleton of a package is tried, after the given calls: those of the project, those
of the packages before it and those of the files before it. -/
structure TriedInPackage (job : Job) (sink : Sink σ) (run : Run σ)
    (calls : List (SkeletonFile × Call)) (k : Package) (s : Skeleton) (file : SkeletonFile)
    (state : Run σ) : Prop where
  reached : ∃ project middle earlier i later visits here start own after,
    ProjectCalls job sink run project middle ∧
    List.range job.project.packages.length = earlier ++ i :: later ∧
    PackageCalls job sink middle earlier visits here ∧
    packageAt job here i = some k ∧
    lookup job.config "package" k.skeletonName here = .ok s start ∧
    Attempts { job with package := some k } sink (.ofPackage k job.project) s start
      (unpostponed own) state ∧
    s.files = own.map Prod.fst ++ file :: after ∧
    calls = project ++ visits.calls ++ own

variable {state : Run σ} {file : SkeletonFile} {k : Package}

theorem TriedFirst.postponing_eq (h : TriedFirst job sink run s trace file state) :
    state.postponing = true := by
  obtain ⟨⟨start, -, hattempts⟩, -⟩ := h
  exact (Prod.mk.inj (progress_of_attempts hattempts)).2

theorem TriedAgain.progress_eq (h : TriedAgain job sink run s calls file state) :
    progress state = (unskipped calls, false) := by
  obtain ⟨trace, between, second, after, hfirst, hattempts, -, rfl⟩ := h
  exact hfirst.progress_second hattempts

theorem TriedInPackage.progress_eq (h : TriedInPackage job sink run calls k s file state) :
    progress state = (unskipped calls, false) := by
  obtain ⟨project, middle, earlier, i, later, visits, here, start, own, after, hproject, -,
    hpackages, -, hlookup, hattempts, -, rfl⟩ := h
  obtain ⟨hgenerated, hpostponing⟩ := Prod.mk.inj hproject.progress_eq
  obtain ⟨hgenerated', hpostponing'⟩ := Prod.mk.inj hpackages.progress_eq
  have hstart := (keeps_lookup job.config "package" k.skeletonName).of_ok hlookup
  obtain ⟨hkept, hkept'⟩ := Prod.mk.inj hstart
  rw [progress_of_unpostponed hattempts, hkept, hkept', hgenerated', hpostponing', hgenerated,
    hpostponing, unskipped_append, unskipped_append]

end

end Scaffold.Run
