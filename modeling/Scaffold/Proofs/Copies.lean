import Scaffold.Proofs.Footprint
import Scaffold.Proofs.Lockstep
import Scaffold.Proofs.Tries

/-!
Copies of the sources. Whatever becomes of a file, its source is copied first. The copy stays until
the end of a run, as far as nothing else that is written comes to the same place.
-/

namespace Scaffold

open Disk (Extends)
open Step (bind_eq_ok_iff)

variable {σ : Type} {job : Job} {touched : Path → Prop} {file other : SkeletonFile}

/-- A copy of the source of a file is placed; what happens after that touches nothing else. -/
def Copied (job : Job) (touched : Path → Prop) (file : SkeletonFile) (d d' : Disk) : Prop :=
  ∃ saved p mode, saved.find (job.copyAt file) = .ok (p, .file file.content.encode mode) ∧
    d.Extends (· = p) saved ∧ saved.Extends touched d'

/-- The sources of files are copied one after the other. -/
inductive Copies (job : Job) (touched : Path → Prop) : Disk → List SkeletonFile → Disk → Prop
  | nil {d : Disk} : Copies job touched d [] d
  | cons {d next last : Disk} {file : SkeletonFile} {rest : List SkeletonFile}
      (hcopied : Copied job touched file d next) (hrest : Copies job touched next rest last) :
      Copies job touched d (file :: rest) last

theorem Copied.kept {d d' : Disk} (h : Copied job touched file d d') :
    d.Extends (fun _ => True) d' := by
  obtain ⟨saved, p, mode, -, hcopy, hafter⟩ := h
  exact (hcopy.imp fun _ _ => trivial).trans (hafter.imp fun _ _ => trivial)

namespace Copies

variable {d last : Disk} {files later : List SkeletonFile}

theorem append {middle : Disk} (h : Copies job touched d files middle)
    (hlater : Copies job touched middle later last) :
    Copies job touched d (files ++ later) last := by
  induction h with
  | nil => exact hlater
  | cons hcopied _ ih => exact .cons hcopied (ih hlater)

theorem kept (h : Copies job touched d files last) : d.Extends (fun _ => True) last := by
  induction h with
  | nil => exact .refl _
  | cons hcopied _ ih => exact hcopied.kept.trans ih

/-- No other copy, and nothing else that is touched, comes to the place where a copy stands. -/
def Apart (job : Job) (touched : Path → Prop) (files : List SkeletonFile) (last : Disk)
    (file : SkeletonFile) : Prop :=
  ∀ p entry, last.find (job.copyAt file) = .ok (p, entry) →
    ¬ touched p ∧ ∀ other ∈ files, other ≠ file →
      ∀ entry', last.find (job.copyAt other) ≠ .ok (p, entry')

theorem Apart.tail (h : Apart job touched (other :: files) last file) :
    Apart job touched files last file := by
  intro p entry hp
  obtain ⟨huntouched, hothers⟩ := h p entry hp
  exact ⟨huntouched, fun other hother => hothers other (List.mem_cons_of_mem _ hother)⟩

theorem find_of_copied {next : Disk} {p : Path} {mode : Nat}
    (hcopied : Copied job touched other d next) (hkept : next.Extends (fun _ => True) last)
    (hfind : d.find (job.copyAt file) = .ok (p, .file file.content.encode mode))
    (hapart : Apart job touched (other :: files) last file) :
    ∃ mode', next.find (job.copyAt file) = .ok (p, .file file.content.encode mode') := by
  obtain ⟨saved, q, mode', hsaved, hcopy, hafter⟩ := hcopied
  have hend : saved.Extends (fun _ => True) last := (hafter.imp fun _ _ => trivial).trans hkept
  -- A copy stays where it was made, so copies that stand apart at the end did so all along.
  obtain ⟨content, mode'', hfind', hsame⟩ := Disk.find_of_extends hcopy hfind
  obtain ⟨_, _, hlast, -⟩ := Disk.find_of_extends hend hfind'
  obtain ⟨huntouched, hothers⟩ := hapart p _ hlast
  have hcontent : content = file.content.encode := by
    by_cases hother : other = file
    · subst hother
      cases hsaved.symm.trans hfind'
      rfl
    · obtain ⟨_, _, hlast', -⟩ := Disk.find_of_extends hend hsaved
      refine hsame.resolve_right ?_
      rintro rfl
      exact hothers other List.mem_cons_self hother _ hlast'
  subst hcontent
  obtain ⟨_, mode₁, hnext, hsame'⟩ := Disk.find_of_extends hafter hfind'
  cases hsame'.resolve_right huntouched
  exact ⟨mode₁, hnext⟩

theorem find_of_find {p : Path} {mode : Nat} (h : Copies job touched d files last)
    (hfind : d.find (job.copyAt file) = .ok (p, .file file.content.encode mode))
    (hapart : Apart job touched files last file) :
    ∃ mode', last.find (job.copyAt file) = .ok (p, .file file.content.encode mode') := by
  induction h generalizing mode with
  | nil => exact ⟨mode, hfind⟩
  | cons hcopied hrest ih =>
      obtain ⟨mode', hnext⟩ := find_of_copied hcopied hrest.kept hfind hapart
      exact ih hnext hapart.tail

/-- At the end a copy that stands apart holds the source of its file. -/
theorem holdsAt (h : Copies job touched d files last) (hfile : file ∈ files)
    (hapart : Apart job touched files last file) :
    last.HoldsAt (job.copyAt file) file.content.encode := by
  induction h with
  | nil => cases hfile
  | @cons d next last head rest hcopied hrest ih =>
      rcases List.mem_cons.mp hfile with rfl | hmem
      · obtain ⟨saved, p, mode, hsaved, -, hafter⟩ := hcopied
        obtain ⟨content, mode', hnext, hsame⟩ := Disk.find_of_extends hafter hsaved
        obtain ⟨_, _, hlast, -⟩ := Disk.find_of_extends hrest.kept hnext
        cases hsame.resolve_right (hapart p _ hlast).1
        obtain ⟨mode'', hlast'⟩ := hrest.find_of_find hnext hapart.tail
        exact ⟨p, mode'', hlast'⟩
      · exact ih hmem hapart.tail

end Copies

namespace Run

variable {sink : Sink σ} {scope : Scope} {s : Skeleton} {run saved next last : Run σ}

theorem backup_eq_ok (h : backup job file run = .ok () saved) :
    ∃ p mode, saved.disk.find (job.copyAt file) = .ok (p, .file file.content.encode mode) ∧
      run.disk.Extends (· = p) saved.disk := by
  obtain ⟨disk, hplace, rfl⟩ := onDisk_eq_ok_iff.mp h
  obtain ⟨p, mode, -, hcopy⟩ := Disk.placeFile_eq_ok hplace
  exact ⟨p, mode, hcopy⟩

theorem keeps_disk_logging {α : Type} (x : Logging α) :
    Step.Keeps Run.disk (logging x : Running σ α) :=
  Step.keeps_focus x fun _ _ => rfl

theorem copied_of_backup (touched : Path → Prop) (scope : Scope) (s : Skeleton)
    (hbackup : backup job file run = .ok () saved) :
    Copied job touched file run.disk (Step.state (prepare job scope s file run)).disk := by
  obtain ⟨p, mode, hfind, hcopy⟩ := backup_eq_ok hbackup
  have hdisk : (Step.state (prepare job scope s file run)).disk = saved.disk := by
    rw [prepare_of_backup hbackup]
    exact keeps_disk_logging _ saved
  rw [hdisk]
  exact ⟨saved.disk, p, mode, hfind, hcopy, .refl _⟩

/-- What files of a skeleton may lead to. -/
def Requested (job : Job) (scope : Scope) (s : Skeleton) (request : Request) : Prop :=
  ∃ (τ : Type) (state : Run τ) (file : SkeletonFile), file ∈ s.files ∧
    Yields job scope s state file request

/-- Handed these requests, a sink touches only certain places of the disk that there is at the
end. -/
def Touches (sink : Sink σ) (asked : Request → Prop) (touched : Path → Prop) (final : Disk) : Prop :=
  ∀ request both after, asked request → sink request both = .ok () after →
    after.1.Extends (fun _ => True) final → both.1.Extends touched after.1

theorem copied_of_renderFile {final : Disk}
    (hsink : Touches sink (Requested job scope s) touched final) (hfile : file ∈ s.files)
    (hfinal : next.disk.Extends (fun _ => True) final)
    (h : renderFile job sink scope s file run = .ok () next) :
    Copied job touched file run.disk next.disk := by
  obtain ⟨_, saved, hbackup, -⟩ := bind_eq_ok_iff.mp h
  have hcopied := copied_of_backup touched scope s hbackup
  rw [renderFile_eq] at h
  obtain ⟨request, prepared, hprepare, hdeliver⟩ := bind_eq_ok_iff.mp h
  obtain ⟨handed, hhand, rfl⟩ := deliver_eq_ok_iff.mp hdeliver
  obtain ⟨after, hcall, rfl⟩ := Step.focus_eq_ok_iff.mp hhand
  rw [hprepare] at hcopied
  obtain ⟨saved', p, mode, hfind, hcopy, hafter⟩ := hcopied
  have hasked : Requested job scope s request := ⟨σ, run, file, hfile, prepare_eq_ok hprepare⟩
  exact ⟨saved', p, mode, hfind, hcopy, hafter.trans (hsink request _ after hasked hcall hfinal)⟩

theorem copied_of_postponed (hgenuine : sink.IsGenuine)
    (h : renderFile job sink scope s file run = .error (.foreign .postponed) next) :
    Copied job touched file run.disk next.disk := by
  have hpostponed : ¬ Failure.IsGenuine (.foreign .postponed) := by
    rintro ⟨⟩
  have hprepare := prepare_eq_error hgenuine h hpostponed
  cases hbackup : backup job file run with
  | ok _ saved =>
      have hcopied := copied_of_backup touched scope s hbackup
      rwa [hprepare] at hcopied
  | error failure saved =>
      rw [prepare, Step.bind_of_error hbackup] at hprepare
      cases hprepare
      exact absurd (fails_backup job file hbackup).isGenuine hpostponed

theorem copies_of_attempts {final : Disk} (hgenuine : sink.IsGenuine)
    (hsink : Touches sink (Requested job scope s) touched final)
    (hfinal : last.disk.Extends (fun _ => True) final)
    {trace : List (SkeletonFile × Option Call)} (hfiles : trace.map Prod.fst ⊆ s.files)
    (h : Attempts job sink scope s run trace last) :
    Copies job touched run.disk (trace.map Prod.fst) last.disk := by
  induction h with
  | nil => exact .nil
  | called _ _ hrender _ ih =>
      obtain ⟨hfile, hrest⟩ := List.cons_subset.mp hfiles
      have hcopies := ih hfinal hrest
      exact .cons (copied_of_renderFile hsink hfile (hcopies.kept.trans hfinal) hrender) hcopies
  | postponed hrender _ ih =>
      obtain ⟨-, hrest⟩ := List.cons_subset.mp hfiles
      exact .cons (copied_of_postponed hgenuine hrender) (ih hfinal hrest)

/-- At the end of a run every copy that stands apart holds the source of its file. -/
theorem holdsAt_of_renderProject (hgenuine : sink.IsGenuine) {start : Run σ}
    (hsink : Touches sink (Requested job (.ofProject job.project) s) touched last.disk)
    (hlookup : lookup job.config "project" job.project.skeletonName run = .ok s start)
    (h : renderProject job sink run = .ok () last) (hfile : file ∈ s.files)
    (hapart : Copies.Apart job touched s.files last.disk file) :
    last.disk.HoldsAt (job.copyAt file) file.content.encode := by
  obtain ⟨s', trace, between, ⟨⟨start', middle, hlookup', hattempts, rfl⟩, hfiles⟩, hsecond⟩ :=
    exists_firstPass_of_renderProject h
  cases hlookup.symm.trans hlookup'
  obtain ⟨calls, hagain, hcalls⟩ := secondPass_eq_ok_iff.mp hsecond
  have hcalled : (unpostponed calls).map Prod.fst = postponed trace := by
    rw [← hcalls, unpostponed, List.map_map]
    rfl
  have hpostponed : postponed trace ⊆ s.files := by
    rw [← hfiles]
    exact (List.filter_sublist.map Prod.fst).subset
  have hlater := copies_of_attempts hgenuine hsink (.refl _) (hcalled ▸ hpostponed) hagain
  have hkept : middle.disk.Extends (fun _ => True) last.disk := hlater.kept
  have hearlier := copies_of_attempts hgenuine hsink hkept (hfiles ▸ List.Subset.refl _) hattempts
  have hcopies := hearlier.append hlater
  rw [hfiles, hcalled] at hcopies
  refine hcopies.holdsAt (List.mem_append_left _ hfile) fun p entry hp => ?_
  obtain ⟨huntouched, hothers⟩ := hapart p entry hp
  refine ⟨huntouched, fun other hother => hothers other ?_⟩
  exact (List.mem_append.mp hother).elim id fun hmem => hpostponed hmem

end Run

end Scaffold
