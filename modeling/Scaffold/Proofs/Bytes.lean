import Mathlib.Data.List.Infix
import Scaffold.Proofs.Copies
import Scaffold.Proofs.Loading
import Scaffold.Proofs.Writing

/-!
The way of bytes. What is stored in a file of a skeleton is decoded when the skeleton is loaded, goes
through the resolution of inheritance, and comes out again byte by byte: in the copy of the source,
and in the output if the content is not a template or holds no markup.
-/

namespace Scaffold

namespace Template

/-- No placeholder and no bracket starts anywhere in a text. -/
def IsBare (t : Text) : Prop := ∀ before after, t = before ++ after → leadingMarkup? after = none

theorem isBare_iff {t : Text} : IsBare t ↔ ∀ after ∈ t.tails, leadingMarkup? after = none := by
  constructor
  · intro h after hafter
    obtain ⟨before, hsplit⟩ := (List.mem_tails after t).mp hafter
    exact h before after hsplit.symm
  · rintro h before after rfl
    exact h after ((List.mem_tails after _).mpr (List.suffix_append before after))

instance (t : Text) : Decidable (IsBare t) := decidable_of_iff _ isBare_iff.symm

theorem tokens_of_isBare {t : Text} (h : IsBare t) : tokens t = t.map Token.letter := by
  induction t with
  | nil => rfl
  | cons c rest ih =>
      have hrest : IsBare rest := fun before after hsplit =>
        h (c :: before) after (congrArg (c :: ·) hsplit)
      have hhead : leadingMarkup? (c :: rest) = none := h [] _ rfl
      rw [tokens, tokensAfter, hhead, List.map_cons, ← ih hrest]
      rfl

end Template

namespace Setting

variable {s : Setting} {sheet : Sheet}

theorem renderTokens_letters (hopen : s.suppresses sheet.flags = false) (t : Text) :
    s.renderTokens (t.map Token.letter) sheet = .ok t sheet := by
  induction t with
  | nil => rfl
  | cons c rest ih =>
      have hletter : s.renderToken (.letter c) sheet = .ok [c] sheet := by
        rw [renderToken, emit, Step.get_bind, hopen]
        rfl
      rw [List.map_cons, renderTokens, Step.bind_of_ok hletter, Step.bind_of_ok ih]
      rfl

/-- A text without markup is rendered to itself. -/
theorem render_of_isBare {t : Text} (h : Template.IsBare t)
    (hopen : s.suppresses sheet.flags = false) : s.render t sheet = .ok t sheet := by
  rw [render, Template.tokens_of_isBare h, renderTokens_letters hopen]

end Setting

theorem content_of_renderContent {substitute : Substitute} {evaluate : LiveEvaluator}
    {setting : Setting} {content text target : Text} {sheet last : Sheet}
    (hcontent : sheet.flags.substitutes = false ∨
      substitute = Setting.render ∧ Template.IsBare content ∧ sheet.flags.suppressed = false)
    (h : renderContent substitute evaluate setting content sheet = .ok (text, target) last) :
    text = content := by
  rw [renderContent, Step.get_bind] at h
  by_cases hsubstitutes : sheet.flags.substitutes = true
  · rw [if_pos hsubstitutes] at h
    obtain ⟨hrender, hbare, hopen⟩ := hcontent.resolve_left (by simp [hsubstitutes])
    have hsame : Setting.render { setting with
        handler := some (Directive.handler evaluate), heedsFrames := true } content sheet =
        .ok content sheet :=
      Setting.render_of_isBare hbare (by rw [Setting.suppresses, hopen, Bool.and_false])
    rw [hrender, Step.bind_of_ok hsame] at h
    obtain ⟨_, _, -, htarget⟩ := Step.bind_eq_ok_iff.mp h
    obtain ⟨_, _, -, hpure⟩ := Step.bind_eq_ok_iff.mp htarget
    cases hpure
    rfl
  · rw [if_neg hsubstitutes] at h
    obtain ⟨_, _, hsame, hrest⟩ := Step.bind_eq_ok_iff.mp h
    cases hsame
    obtain ⟨_, _, -, htarget⟩ := Step.bind_eq_ok_iff.mp hrest
    obtain ⟨_, _, -, hpure⟩ := Step.bind_eq_ok_iff.mp htarget
    cases hpure
    rfl

theorem Skeleton.suppressed_flagsFor (s : Skeleton) (path : Text) (bits : Int) :
    (s.flagsFor path bits).suppressed = false := by
  rw [flagsFor]
  cases s.flags.get? path <;> rfl

/-- Rendering leaves the content of a file: its flags say that it is no template, or it holds no
markup and is rendered in the usual way. -/
def Job.LeavesContent (job : Job) (s : Skeleton) (file : SkeletonFile) : Prop :=
  (∃ flags, s.flags.get? file.path = some flags ∧ flags.substitutes = false) ∨
    (job.substitute = Setting.render ∧ Template.IsBare file.content)

theorem Run.Yields.content_eq {σ : Type} {job : Job} {scope : Scope} {s : Skeleton} {run : Run σ}
    {file : SkeletonFile} {request : Request} (h : Yields job scope s run file request)
    (hleaves : job.LeavesContent s file) : request.content = file.content := by
  obtain ⟨content, target, flags, ⟨warnings, hrender⟩, rfl⟩ := h
  refine content_of_renderContent ?_ hrender
  rcases hleaves with ⟨declared, hdeclared, hsubstitutes⟩ | ⟨hrender, hbare⟩
  · refine .inl ?_
    change (s.flagsFor file.path file.permissions).substitutes = false
    rw [Skeleton.flagsFor, hdeclared]
    exact hsubstitutes
  · exact .inr ⟨hrender, hbare, s.suppressed_flagsFor file.path file.permissions⟩

namespace Writer

variable {w : Writer} {d d' : Disk} {request : Request} {ledger ledger' : Ledger}

/-- A call that succeeds leaves the disk as it is, or places the content where the path leads. -/
theorem placeFile_of_write (h : w.write request (d, ledger) = .ok () (d', ledger')) :
    ((w.skips request || w.leaves (d, request)) = true ∧ d' = d) ∨
      ∃ target, w.destination d request.path = .ok target ∧
        Disk.placeFile target request.content.encode request.permissions d = .ok () d' := by
  unfold write at h
  by_cases hskips : w.skips request = true
  · rw [if_pos hskips] at h
    cases h
    exact .inl ⟨by rw [hskips, Bool.true_or], rfl⟩
  · rw [if_neg hskips, Step.get_bind] at h
    obtain ⟨target, _, hlocate, hkeep⟩ := Step.bind_eq_ok_iff.mp h
    obtain ⟨hdestination, rfl⟩ := Step.lift_eq_ok_iff.mp hlocate
    obtain ⟨kept, _, hlook, hwrite⟩ := Step.bind_eq_ok_iff.mp hkeep
    obtain ⟨hkept, rfl⟩ := Step.lift_eq_ok_iff.mp hlook
    cases kept with
    | true =>
        cases hwrite
        exact .inl ⟨by rw [keeps_eq_ok hdestination hkept, Bool.or_true], rfl⟩
    | false =>
        obtain ⟨_, both, hplace, hnote⟩ := Step.bind_eq_ok_iff.mp hwrite
        obtain ⟨disk, hdisk, rfl⟩ := Step.focus_eq_ok_iff.mp hplace
        cases hnote
        exact .inr ⟨target, hdestination, hdisk⟩

/-- The places of the disk that there is at the end to which the paths of requests lead. -/
def Reaches (w : Writer) (asked : Request → Prop) (final : Disk) (p : Path) : Prop :=
  ∃ (d : Disk) (request : Request) (target : Location) (entry : Entry),
    asked request ∧ d.Extends (fun _ => True) final ∧
      w.destination d request.path = .ok target ∧ final.find target = .ok (p, entry)

theorem touches_write (w : Writer) (asked : Request → Prop) (final : Disk) :
    Run.Touches w.write asked (w.Reaches asked final) final := by
  rintro request ⟨d, ledger⟩ ⟨d', ledger'⟩ hasked hwrite hfinal
  rcases placeFile_of_write hwrite with ⟨-, rfl⟩ | ⟨target, hdestination, hplace⟩
  · exact .refl _
  · obtain ⟨p, mode, -, hfind, hplaced⟩ := Disk.placeFile_eq_ok hplace
    refine hplaced.imp ?_
    rintro _ rfl
    obtain ⟨content, mode', hfind', -⟩ := Disk.find_of_extends hfinal hfind
    exact ⟨d, request, target, _, hasked, (hplaced.imp fun _ _ => trivial).trans hfinal,
      hdestination, hfind'⟩

end Writer

/-- What is stored in a file of a skeleton, below the directory of the skeletons. -/
def Catalog.Stores (d : Disk) (source : Catalog.Source) (file : SkeletonFile) (bytes : Bytes) :
    Prop :=
  ∃ (directory : Text) (names : Path), file.path = names.relativeText ∧
    d.read { source.base with names := source.base.names ++ directory :: names.map Text.decode } =
      .ok bytes

namespace Catalog

variable {d : Disk} {source : Source} {catalog : Catalog} {warnings after : List Warning}
  {name : Text} {s : Skeleton} {file : SkeletonFile}

theorem stores_of_loads (h : Loads d source name s) (hfile : file ∈ s.files) :
    ∃ bytes, Stores d source file bytes ∧ file.content = Text.decode bytes := by
  obtain ⟨before, later, hload⟩ := h
  obtain ⟨_, _, hfiles⟩ := Skeleton.templateFiles_of_load hload
  rcases Skeleton.exists_chosen_of_templateFiles hfiles with
    hnone | ⟨_, _, chosen, -, -, hall, hfinds⟩
  · rw [hnone] at hfile
    cases hfile
  · rw [hall] at hfile
    obtain ⟨c, hc, rfl⟩ := List.mem_map.mp (List.mem_mergeSort.mp hfile)
    obtain ⟨bytes, hread, hcontent⟩ := (hfinds c hc).content_eq
    refine ⟨bytes, ⟨name, c.1.names, (hfinds c hc).path_eq, ?_⟩, hcontent⟩
    rw [← hread, Skeleton.Visit.location, Location.entry, List.append_assoc]
    rfl

/-- Each file of a resolved skeleton holds the text of what is stored in a file. -/
theorem stores_of_lookup (hload : load d source warnings = .ok catalog after)
    (hlookup : catalog.lookup name = .ok s) (hfile : file ∈ s.files) :
    ∃ bytes, Stores d source file bytes ∧ file.content = Text.decode bytes := by
  refine resolve_induction (P := fun s => ∀ file ∈ s.files,
    ∃ bytes, Stores d source file bytes ∧ file.content = Text.decode bytes) ?_ ?_ hlookup file hfile
  · intro entry hentry file hfile
    obtain ⟨-, name, hloads⟩ := loads_of_mem hload entry hentry
    exact stores_of_loads hloads hfile
  · intro name own parent hown hparent file hfile
    rcases Skeleton.mem_mergeFiles hfile with hmem | hmem
    · exact hown file hmem
    · exact hparent file hmem

end Catalog

namespace Run

variable {d : Disk} {source : Catalog.Source} {catalog : Catalog} {warnings after : List Warning}
  {name : Text} {s : Skeleton} {file : SkeletonFile}

/-- The output of a file whose content is left as it is, unless it is skipped or kept. -/
theorem holdsAt_of_renderFile {job : Job} {w : Writer} {scope : Scope}
    {run prepared last : Run Ledger} {request : Request}
    (hprepare : prepare job scope s file run = .ok request prepared)
    (hrender : renderFile job w.write scope s file run = .ok () last)
    (hwritten : (w.skips request || w.leaves (prepared.disk, request)) = false)
    (hleaves : job.LeavesContent s file) :
    ∃ target, w.destination prepared.disk request.path = .ok target ∧
      last.disk.HoldsAt target file.content.encode := by
  rw [renderFile_eq, Step.bind_of_ok hprepare] at hrender
  obtain ⟨handed, hhand, rfl⟩ := deliver_eq_ok_iff.mp hrender
  obtain ⟨⟨disk, ledger⟩, hcall, rfl⟩ := Step.focus_eq_ok_iff.mp hhand
  rcases Writer.placeFile_of_write hcall with ⟨hidle, -⟩ | ⟨target, hdestination, hplace⟩
  · rw [hwritten] at hidle
    cases hidle
  · obtain ⟨p, mode, -, hfind, -⟩ := Disk.placeFile_eq_ok hplace
    rw [(prepare_eq_ok hprepare).content_eq hleaves] at hfind
    exact ⟨target, hdestination, p, mode, hfind⟩

/-- After a run with a writer a copy still holds the source, unless an output or another copy comes
to its place. -/
theorem holdsAt_of_writer {job : Job} {w : Writer} {run start last : Run Ledger}
    (hlookup : lookup job.config "project" job.project.skeletonName run = .ok s start)
    (hrender : renderProject job w.write run = .ok () last) (hfile : file ∈ s.files)
    (hapart : Copies.Apart job
      (w.Reaches (Requested job (.ofProject job.project) s) last.disk) s.files last.disk file) :
    last.disk.HoldsAt (job.copyAt file) file.content.encode :=
  holdsAt_of_renderProject w.isGenuine_write (w.touches_write _ _) hlookup hrender hfile hapart

/-- The bytes that are stored in a file of a skeleton come through loading, resolving, rendering and
writing. The copy of the source holds them as soon as it is made, and still does at the end of a run
for the project, unless something else comes to its place: whatever the sink touches, or, for a
writer, what its requests lead to. So does the output, as soon as it is written, if rendering leaves
the content. -/
theorem bytes_survive (hload : Catalog.load d source warnings = .ok catalog after)
    (hlookup : catalog.lookup name = .ok s) (hfile : file ∈ s.files) :
    ∃ bytes, Catalog.Stores d source file bytes ∧ file.content = Text.decode bytes ∧
      (∀ {σ : Type} {job : Job} {run saved : Run σ}, backup job file run = .ok () saved →
        saved.disk.HoldsAt (job.copyAt file) bytes) ∧
      (∀ {σ : Type} {job : Job} {sink : Sink σ} {touched : Path → Prop} {run start last : Run σ},
        sink.IsGenuine →
        Touches sink (Requested job (.ofProject job.project) s) touched last.disk →
        lookup job.config "project" job.project.skeletonName run = .ok s start →
        renderProject job sink run = .ok () last →
        Copies.Apart job touched s.files last.disk file →
        last.disk.HoldsAt (job.copyAt file) bytes) ∧
      (∀ {job : Job} {w : Writer} {run start last : Run Ledger},
        lookup job.config "project" job.project.skeletonName run = .ok s start →
        renderProject job w.write run = .ok () last →
        Copies.Apart job (w.Reaches (Requested job (.ofProject job.project) s) last.disk) s.files
          last.disk file →
        last.disk.HoldsAt (job.copyAt file) bytes) ∧
      ∀ {job : Job} {w : Writer} {scope : Scope} {run prepared last : Run Ledger}
        {request : Request}, prepare job scope s file run = .ok request prepared →
        renderFile job w.write scope s file run = .ok () last →
        (w.skips request || w.leaves (prepared.disk, request)) = false →
        job.LeavesContent s file →
        ∃ target, w.destination prepared.disk request.path = .ok target ∧
          last.disk.HoldsAt target bytes := by
  obtain ⟨bytes, hstores, hcontent⟩ := Catalog.stores_of_lookup hload hlookup hfile
  have hbytes : file.content.encode = bytes := by rw [hcontent, Text.encode_decode]
  refine ⟨bytes, hstores, hcontent, ?_, ?_, ?_, ?_⟩
  · intro σ job run saved hbackup
    obtain ⟨p, mode, hfind, -⟩ := backup_eq_ok hbackup
    exact ⟨p, mode, hbytes ▸ hfind⟩
  · intro σ job sink touched run start last hgenuine hsink hknown hrender hapart
    exact hbytes ▸ holdsAt_of_renderProject hgenuine hsink hknown hrender hfile hapart
  · intro job w run start last hknown hrender hapart
    exact hbytes ▸ holdsAt_of_writer hknown hrender hfile hapart
  · intro job w scope run prepared last request hprepare hrender hwritten hleaves
    exact hbytes ▸ holdsAt_of_renderFile hprepare hrender hwritten hleaves

/-- A file of the nested skeleton, with a byte that is no character. -/
def strayFile : SkeletonFile where
  path := "README"
  content := [.char 'R', .stray 255]
  permissions := 420

/-- A run in which the nested skeleton is known. -/
def nestedRun : Run (List Request) where
  disk := Disk.empty
  sink := []
  cache := [("project", [("program", Catalog.nestedSkeleton)])]

theorem bytes_survive_nested :
    (∃ last, renderProject askingJob recordRequest nestedRun = .ok () last ∧
        last.disk.HoldsAt (.ofText "/state/skeleton/README") [82, 255]) ∧
      ∃ last, renderFile askingJob (Writer.write { root := .ofText "/out" })
          (.ofProject askingJob.project) Catalog.nestedSkeleton strayFile
          { disk := Disk.empty, sink := {} } = .ok () last ∧
        last.disk.HoldsAt (.ofText "/out/README") [82, 255] := by
  have hlookup : Catalog.lookup [("program", Catalog.nestedSkeleton)] "program" =
      .ok Catalog.nestedSkeleton := by
    decide +kernel
  have hfile : strayFile ∈ Catalog.nestedSkeleton.files := by decide +kernel
  obtain ⟨bytes, -, hcontent, -, hcopy, -, houtput⟩ :=
    bytes_survive Catalog.load_nestedDisk hlookup hfile
  obtain rfl : bytes = [82, 255] := Text.decode_inj (hcontent.symm.trans (by decide +kernel))
  constructor
  · have hrender : Step.outcome (renderProject askingJob recordRequest nestedRun) = .ok () := by
      decide +kernel
    have hlast := Step.ok_of_outcome hrender
    have hknown : lookup askingJob.config "project" askingJob.project.skeletonName nestedRun =
        .ok Catalog.nestedSkeleton nestedRun := by with_unfolding_all rfl
    have htouches : Touches recordRequest
        (Requested askingJob (.ofProject askingJob.project) Catalog.nestedSkeleton) (fun _ => False)
        (Step.state (renderProject askingJob recordRequest nestedRun)).disk := by
      rintro request both after - ⟨⟩ -
      exact .refl _
    have hplaces : ∀ other ∈ Catalog.nestedSkeleton.files, other ≠ strayFile →
        ((Step.state (renderProject askingJob recordRequest nestedRun)).disk.find
          (askingJob.copyAt other)).map Prod.fst ≠
        ((Step.state (renderProject askingJob recordRequest nestedRun)).disk.find
          (askingJob.copyAt strayFile)).map Prod.fst := by
      decide +kernel
    refine ⟨_, hlast, hcopy isGenuine_recordRequest htouches hknown hlast ?_⟩
    intro p entry hp
    refine ⟨id, fun other hother hne entry' hother' => hplaces other hother hne ?_⟩
    rw [hp, hother']
    rfl
  · have hprepare : Step.outcome (prepare askingJob (.ofProject askingJob.project)
        Catalog.nestedSkeleton strayFile ({ disk := Disk.empty, sink := {} } : Run Ledger)) =
        .ok { path := "README", content := strayFile.content, permissions := 420 } := by
      decide +kernel
    have hrender : Step.outcome (renderFile askingJob (Writer.write { root := .ofText "/out" })
        (.ofProject askingJob.project) Catalog.nestedSkeleton strayFile
        { disk := Disk.empty, sink := {} }) = .ok () := by
      decide +kernel
    obtain ⟨target, htarget, hholds⟩ := houtput (Step.ok_of_outcome hprepare)
      (Step.ok_of_outcome hrender) (by decide +kernel) (.inr ⟨rfl, by decide +kernel⟩)
    have hplace : Writer.destination { root := .ofText "/out" } (Step.state (prepare askingJob
        (.ofProject askingJob.project) Catalog.nestedSkeleton strayFile
        ({ disk := Disk.empty, sink := {} } : Run Ledger))).disk "README" =
        .ok (.ofText "/out/README") := by
      decide +kernel
    cases hplace.symm.trans htarget
    exact ⟨_, Step.ok_of_outcome hrender, hholds⟩

end Run

end Scaffold
