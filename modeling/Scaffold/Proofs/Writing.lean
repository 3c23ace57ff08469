import Scaffold.Proofs.Generated
import Scaffold.Proofs.Journal

/-!
The writer and the run agree on what is skipped. Both what the run notes as generated and what the
writer notes as skipped and as written can be read off the journal of the calls.
-/

namespace Scaffold

namespace Writer

variable {w : Writer} {d d' : Disk} {request : Request} {ledger ledger' : Ledger}

/-- Whether there is something at the place to which a path leads. -/
def finds (w : Writer) (d : Disk) (path : Text) : Bool :=
  match w.destination d path >>= d.present with
  | .ok found => found
  | .error _ => false

/-- Whether a call finds a file that is to be created only once. -/
def leaves (w : Writer) (call : Disk × Request) : Bool :=
  call.2.createOnce && w.finds call.1 call.2.path

/-- The paths of the calls that are skipped. -/
def skippedPaths (w : Writer) (calls : List (Disk × Request)) : List Text :=
  (calls.filter fun call => w.skips call.2).map fun call => call.2.path

/-- The calls that are not skipped. -/
def handled (w : Writer) (calls : List (Disk × Request)) : List (Disk × Request) :=
  calls.filter fun call => !w.skips call.2

/-- Their paths. -/
def handledPaths (w : Writer) (calls : List (Disk × Request)) : List Text :=
  (w.handled calls).map fun call => call.2.path

/-- The paths of the calls that are not skipped and do not find a file that is to be created only
once. -/
def writtenPaths (w : Writer) (calls : List (Disk × Request)) : List Text :=
  ((w.handled calls).filter fun call => !w.leaves call).map fun call => call.2.path

theorem skippedPaths_append (w : Writer) (first second : List (Disk × Request)) :
    w.skippedPaths (first ++ second) = w.skippedPaths first ++ w.skippedPaths second := by
  simp [skippedPaths]

theorem handledPaths_append (w : Writer) (first second : List (Disk × Request)) :
    w.handledPaths (first ++ second) = w.handledPaths first ++ w.handledPaths second := by
  simp [handledPaths, handled]

theorem writtenPaths_append (w : Writer) (first second : List (Disk × Request)) :
    w.writtenPaths (first ++ second) = w.writtenPaths first ++ w.writtenPaths second := by
  simp [writtenPaths, handled]

theorem writtenPaths_sublist (w : Writer) (calls : List (Disk × Request)) :
    (w.writtenPaths calls).Sublist (w.handledPaths calls) :=
  List.filter_sublist.map _

theorem keeps_eq_ok {target : Location} {kept : Bool} (hdestination : w.destination d request.path =
    .ok target) (h : keeps request d target = .ok kept) : w.leaves (d, request) = kept := by
  unfold keeps at h
  unfold leaves finds
  split at h
  · rename_i honce
    have hfound : (w.destination d request.path >>= d.present) = .ok kept := by
      rw [hdestination]
      exact h
    rw [honce, hfound]
    rfl
  · rename_i honce
    cases h
    simp [honce]

/-- What a call that succeeds adds to the ledger. -/
theorem write_eq_ok (h : w.write request (d, ledger) = .ok () (d', ledger')) :
    ledger'.skipped = ledger.skipped ++ w.skippedPaths [(d, request)] ∧
      ledger'.written = ledger.written ++ w.writtenPaths [(d, request)] := by
  unfold write at h
  by_cases hskips : w.skips request = true
  · rw [if_pos hskips] at h
    cases h
    simp [skippedPaths, writtenPaths, handled, hskips]
  · rw [if_neg hskips, Step.get_bind] at h
    obtain ⟨target, _, hlocate, hkeep⟩ := Step.bind_eq_ok_iff.mp h
    obtain ⟨hdestination, rfl⟩ := Step.lift_eq_ok_iff.mp hlocate
    obtain ⟨kept, _, hlook, hwrite⟩ := Step.bind_eq_ok_iff.mp hkeep
    obtain ⟨hkept, rfl⟩ := Step.lift_eq_ok_iff.mp hlook
    have hleaves := keeps_eq_ok hdestination hkept
    cases kept with
    | true =>
        cases hwrite
        simp [skippedPaths, writtenPaths, handled, hskips, hleaves]
    | false =>
        obtain ⟨_, both, hplace, hnote⟩ := Step.bind_eq_ok_iff.mp hwrite
        obtain ⟨disk, -, rfl⟩ := Step.focus_eq_ok_iff.mp hplace
        cases hnote
        simp [skippedPaths, writtenPaths, handled, hskips, hleaves]

end Writer

namespace Run

/-- What a run has noted and what its writer has noted are what the journal says. The run reads the
tags that the project skips whenever it needs them, so it only agrees while they are as they were. -/
structure Agrees (w : Writer) (run : Run (Ledger × List (Disk × Request))) : Prop where
  generated : run.changes.Spares .skip → run.generated = w.handledPaths run.sink.2
  skipped : run.sink.1.skipped = w.skippedPaths run.sink.2
  written : run.sink.1.written = w.writtenPaths run.sink.2

section

variable {job : Job} {w : Writer} {scope : Scope} {s : Skeleton} {file : SkeletonFile}
  {run next last : Run (Ledger × List (Disk × Request))}

theorem Agrees.congr (h : Agrees w run) (hsink : next.sink = run.sink)
    (hgenerated : next.generated = run.generated) (hgrows : run.changes <+: next.changes) :
    Agrees w next := by
  refine ⟨fun hspares => ?_, ?_, ?_⟩
  · rw [hgenerated, hsink, h.generated (hspares.of_prefix hgrows)]
  · rw [hsink, h.skipped]
  · rw [hsink, h.written]

theorem unskipped_eq_handledPaths {call : Call} (hskips : call.skips = w.activeSkips) (d : Disk) :
    unskipped [(file, call)] = w.handledPaths [(d, call.request)] := by
  have hsame : call.isSkipped = w.skips call.request := by
    rw [Call.isSkipped, isSkipped, Writer.skips, hskips]
  cases hskipped : w.skips call.request <;>
    simp [unskipped, Writer.handledPaths, Writer.handled, hsame, hskipped]

theorem Agrees.renderFile (hadds : OnlyAdds job) (hskips : w.activeSkips = job.project.skip)
    (hagrees : Agrees w run)
    (h : renderFile job w.write.journal scope s file run = .ok () next) : Agrees w next := by
  obtain ⟨request, hyields⟩ := yields_of_renderFile h
  have hprogress : progress next =
      (run.generated ++ unskipped [(file, callAt job request next)], run.postponing) :=
    progress_of_renderFile hyields rfl h
  have hgenerated := (Prod.mk.inj hprogress).1
  have hgrows := (extends_renderFile hadds _ scope s file).of_ok h
  rw [renderFile_eq] at h
  obtain ⟨other, prepared, hprepare, hdeliver⟩ := Step.bind_eq_ok_iff.mp h
  obtain rfl := hyields.unique (prepare_eq_ok hprepare)
  have hquiet : prepared.sink = run.sink := quiet_prepare.of_ok hprepare
  obtain ⟨handed, hhand, rfl⟩ := deliver_eq_ok_iff.mp hdeliver
  obtain ⟨⟨disk, noted⟩, hcall, rfl⟩ := Step.focus_eq_ok_iff.mp hhand
  rw [hquiet] at hcall
  obtain ⟨hwrite, hcalls⟩ := Sink.journal_eq_ok hcall
  obtain ⟨hskipped, hwritten⟩ := Writer.write_eq_ok hwrite
  refine ⟨fun hspares => ?_, ?_, ?_⟩
  · have hsteady : (callAt job request prepared).skips = w.activeSkips :=
      (Project.skip_after hspares job.project).trans hskips.symm
    rw [hgenerated, hcalls, Writer.handledPaths_append,
      ← hagrees.generated (hspares.of_prefix hgrows)]
    exact congrArg (run.generated ++ ·) (unskipped_eq_handledPaths hsteady prepared.disk)
  · rw [hcalls, hskipped, Writer.skippedPaths_append, ← hagrees.skipped]
  · rw [hcalls, hwritten, Writer.writtenPaths_append, ← hagrees.written]

theorem Agrees.attempts (hadds : OnlyAdds job) (hskips : w.activeSkips = job.project.skip)
    {trace : List (SkeletonFile × Option Call)}
    (h : Attempts job w.write.journal scope s run trace last) (hagrees : Agrees w run) :
    Agrees w last := by
  induction h with
  | nil => exact hagrees
  | called hyields _ hrender hrest ih => exact ih (hagrees.renderFile hadds hskips hrender)
  | @postponed run next last file trace hrender hrest ih =>
      have hgenerated := (Prod.mk.inj (progress_of_renderFile_error hrender)).1
      have hgrows := (extends_renderFile hadds _ scope s file).of_error hrender
      have hprepare := prepare_eq_error (Sink.isGenuine_journal w.isGenuine_write) hrender
        (by simp [Failure.IsGenuine, Failure.isPostponement])
      exact ih (hagrees.congr (quiet_prepare.of_error hprepare) hgenerated hgrows)

theorem agrees_of_lookup {kind name : Text}
    (h : lookup job.config kind name run = .ok s next) (hagrees : Agrees w run) :
    Agrees w next := by
  have hkept := (keeps_lookup job.config kind name).of_ok h
  exact hagrees.congr ((quiet_lookup _ _ _).of_ok h) (Prod.mk.inj hkept).1
    ((extends_lookup _ _ _).of_ok h)

theorem Agrees.projectCalls (hadds : OnlyAdds job) (hskips : w.activeSkips = job.project.skip)
    {calls : List (SkeletonFile × Call)} (hfresh : run.sink = ({}, []))
    (h : ProjectCalls job w.write.journal run calls last) : Agrees w last := by
  obtain ⟨s, trace, between, second, hfirst, hsecond, -, -⟩ := h
  obtain ⟨⟨start, middle, hlookup, hattempts, rfl⟩, -⟩ := hfirst
  have hstart : start.sink = ({}, []) := ((quiet_lookup _ _ _).of_ok hlookup).trans hfresh
  -- When the first pass starts nothing is generated and the journal is empty.
  have hbegin : Agrees w { start with generated := [], postponing := true } := by
    refine ⟨fun _ => ?_, ?_, ?_⟩ <;> dsimp only <;> rw [hstart] <;> rfl
  have hmiddle := hbegin.attempts hadds hskips hattempts
  have hbetween : Agrees w { middle with postponing := false } :=
    hmiddle.congr rfl rfl List.prefix_rfl
  exact hbetween.attempts hadds hskips hsecond

theorem Agrees.packageCalls (hadds : OnlyAdds job) (hskips : w.activeSkips = job.project.skip)
    {indices : List Nat} {visits : Visits} (hagrees : Agrees w run)
    (h : PackageCalls job w.write.journal run indices visits last) : Agrees w last := by
  induction h with
  | nil => exact hagrees
  | @cons run start next last i rest k s own more _ hlookup hattempts _ _ hrest ih =>
      have hadds' : OnlyAdds { job with package := some k } := hadds
      have hskips' : w.activeSkips = ({ job with package := some k } : Job).project.skip := hskips
      exact ih ((agrees_of_lookup hlookup hagrees).attempts hadds' hskips' hattempts)
  | gone _ _ ih => exact ih hagrees

end

/-- A run and a fresh writer with the skip tags of its project. What the writer has skipped and what
it has written are what the journal of its calls says. As long as nothing has changed the skip tags
of the project, the run agrees: what it has generated is, in order, what it called the writer with
except what the writer noted as skipped, and what the writer has written is that, without the files
that were to be created only once and existed when the call was made. -/
theorem writer_agrees {job : Job} {w : Writer} {run last : Run Ledger} (hadds : OnlyAdds job)
    (hskips : w.activeSkips = job.project.skip) (hfresh : run.sink = {})
    (h : renderFiles job w.write run = .ok () last) :
    ∃ calls,
      renderFiles job w.write.journal (run.withSink ({}, [])) =
          .ok () (last.withSink (last.sink, calls)) ∧
        last.sink.skipped = w.skippedPaths calls ∧
        last.sink.written = w.writtenPaths calls ∧
        (last.changes.Spares .skip →
          last.generated = w.handledPaths calls ∧ last.sink.written.Sublist last.generated) := by
  obtain ⟨calls, hjournal⟩ := exists_journal h []
  rw [hfresh] at hjournal
  obtain ⟨_, middle, hproject, hpackages⟩ := Step.bind_eq_ok_iff.mp hjournal
  obtain ⟨own, hown⟩ := exists_projectCalls hproject
  obtain ⟨visits, hvisits⟩ := exists_packageCalls hpackages
  have hmiddle : Agrees w middle := Agrees.projectCalls hadds hskips rfl hown
  have hlast : Agrees w (last.withSink (last.sink, calls)) :=
    hmiddle.packageCalls hadds hskips hvisits
  have hwritten : last.sink.written = w.writtenPaths calls := hlast.written
  refine ⟨calls, hjournal, hlast.skipped, hwritten, fun hspares => ?_⟩
  have hgenerated : last.generated = w.handledPaths calls := hlast.generated hspares
  refine ⟨hgenerated, ?_⟩
  rw [hgenerated, hwritten]
  exact w.writtenPaths_sublist calls

/-- A skeleton with a file that is to be created only once and one that a tag skips. -/
def guardedSkeleton : Skeleton where
  name := "program"
  files := [askingFile "a", plainFile "b", plainFile "c"]
  flags := [("b", { createOnce := true }), ("c", { skipTags := ["docs"] })]

/-- A job for a project with that skeleton, in which the tag is active. -/
def guardedJob : Job :=
  { askingJob with project := { name := "p", skip := ["docs"] } }

/-- The state in which that skeleton is known and the file to be created only once exists. -/
def guardedRun : Run Ledger where
  disk := Step.state (Disk.placeFile (.ofText "/out/b") [] 420 Disk.empty)
  sink := {}
  cache := [("project", [("program", guardedSkeleton)])]

theorem writer_agrees_guarded :
    ∃ last calls,
      renderFiles guardedJob (Writer.write { root := .ofText "/out", activeSkips := ["docs"] })
          guardedRun = .ok () last ∧
        Writer.skippedPaths { root := .ofText "/out", activeSkips := ["docs"] } calls =
          [("c" : Text)] ∧
        Writer.handledPaths { root := .ofText "/out", activeSkips := ["docs"] } calls =
          [("b" : Text), ("a" : Text)] ∧
        Writer.writtenPaths { root := .ofText "/out", activeSkips := ["docs"] } calls =
          [("a" : Text)] := by
  have hrun : (match renderFiles guardedJob
        (Writer.write { root := .ofText "/out", activeSkips := ["docs"] }) guardedRun with
      | .ok _ last => some (last.generated, last.sink, last.changes)
      | .error _ _ => none) =
      some ([("b" : Text), ("a" : Text)],
        { written := [("a" : Text)], skipped := [("c" : Text)], recorded := [("a" : Text)] },
        []) := by
    decide +kernel
  cases hfiles : renderFiles guardedJob
      (Writer.write { root := .ofText "/out", activeSkips := ["docs"] }) guardedRun with
  | error failure last =>
      rw [hfiles] at hrun
      cases hrun
  | ok _ last =>
      rw [hfiles] at hrun
      obtain ⟨hgenerated, hnoted⟩ := Prod.mk.inj (Option.some.inj hrun)
      obtain ⟨hledger, hchanges⟩ := Prod.mk.inj hnoted
      obtain ⟨calls, -, hskipped, hwritten, hagree⟩ :=
        writer_agrees (onlyAdds_of_render rfl) rfl rfl hfiles
      obtain ⟨hhandled, -⟩ := hagree (by simp [hchanges, Changes.Spares])
      rw [hgenerated] at hhandled
      rw [hledger] at hskipped hwritten
      exact ⟨last, calls, rfl, hskipped.symm, hhandled.symm, hwritten.symm⟩

/-- The file that empties the skip tags of the project. -/
def untaggingFile : SkeletonFile where
  path := "a"
  content := (Token.placeholder "project.skip.clear").source
  permissions := 420

/-- A skeleton with that file and one that a tag skips. -/
def untaggingSkeleton : Skeleton where
  name := "program"
  files := [untaggingFile, plainFile "b"]
  flags := [("b", { skipTags := ["docs"] })]

/-- The state in which that skeleton is known. -/
def untaggingRun : Run Ledger where
  disk := Disk.empty
  sink := {}
  cache := [("project", [("program", untaggingSkeleton)])]

/-- The writer keeps the skip tags with which it was made, and a run does not: after a template has
emptied those of the project, a file that the writer skips is listed as generated. -/
theorem writer_of_untaggingFile :
    ∃ last,
      renderFiles guardedJob
          (Writer.write { root := .ofText "/out", activeSkips := guardedJob.project.skip })
          untaggingRun = .ok () last ∧
        last.generated = [("a" : Text), ("b" : Text)] ∧ last.sink.skipped = [("b" : Text)] :=
  ⟨_, Step.ok_of_outcome (by decide +kernel), by decide +kernel, by decide +kernel⟩

end Run

end Scaffold
