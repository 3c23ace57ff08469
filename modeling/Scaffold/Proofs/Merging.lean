import Scaffold.Proofs.FileLists

/-!
The merge of file lists as a loop. Each round takes the first file of one of the lists, or of both
if these have the same path, so the loop comes to an end. What has been taken keeps its order,
whatever that order is: the merge holds all files of the first list, and a file of the second one is
left out only when it meets a file of the first one with the same path.
-/

namespace Scaffold

/-- A list that is made of the elements of two others, each of them in its order. -/
inductive Interleaves {α : Type} : List α → List α → List α → Prop where
  | nil : Interleaves [] [] []
  | left (a : α) {as bs cs : List α} (h : Interleaves as bs cs) :
      Interleaves (a :: as) bs (a :: cs)
  | right (b : α) {as bs cs : List α} (h : Interleaves as bs cs) :
      Interleaves as (b :: bs) (b :: cs)

namespace Interleaves

variable {α : Type} {as bs cs more others all : List α}

theorem of_left (as : List α) : Interleaves as [] as := by
  induction as with
  | nil => exact .nil
  | cons a as ih => exact .left a ih

theorem of_right (bs : List α) : Interleaves [] bs bs := by
  induction bs with
  | nil => exact .nil
  | cons b bs ih => exact .right b ih

theorem append (h : Interleaves as bs cs) (hrest : Interleaves more others all) :
    Interleaves (as ++ more) (bs ++ others) (cs ++ all) := by
  induction h with
  | nil => exact hrest
  | left a _ ih => exact .left a ih
  | right b _ ih => exact .right b ih

theorem mem_iff (h : Interleaves as bs cs) {a : α} : a ∈ cs ↔ a ∈ as ∨ a ∈ bs := by
  induction h with
  | nil => simp
  | left b _ ih => rw [List.mem_cons, List.mem_cons, ih, or_assoc]
  | right b _ ih => rw [List.mem_cons, List.mem_cons, ih, or_left_comm]

end Interleaves

namespace Skeleton

/-- The files of a list in their order, and among them files of a second list in theirs. Those of
the second list that are left out met files of the first one with the same paths. -/
def Unites (ours theirs merged : List SkeletonFile) : Prop :=
  ∃ kept dropped met : List SkeletonFile,
    Interleaves ours kept merged ∧ Interleaves kept dropped theirs ∧
    met.Sublist ours ∧ met.map SkeletonFile.path = dropped.map SkeletonFile.path

section

variable {ours theirs merged : List SkeletonFile}

theorem unites_ours (ours : List SkeletonFile) : Unites ours [] ours :=
  ⟨[], [], [], .of_left ours, .nil, List.nil_sublist ours, rfl⟩

theorem unites_theirs (theirs : List SkeletonFile) : Unites [] theirs theirs :=
  ⟨theirs, [], [], .of_right theirs, .of_left theirs, List.Sublist.refl [], rfl⟩

theorem unites_same {mine yours : SkeletonFile} (h : mine.path = yours.path) :
    Unites [mine] [yours] [mine] :=
  ⟨[], [yours], [mine], .of_left [mine], .of_right [yours], List.Sublist.refl [mine],
    congrArg (fun path => [path]) h⟩

theorem Unites.append {others more all : List SkeletonFile} (h : Unites ours theirs merged)
    (hrest : Unites others more all) :
    Unites (ours ++ others) (theirs ++ more) (merged ++ all) := by
  obtain ⟨kept, dropped, met, hmerged, htheirs, hmet, hpaths⟩ := h
  obtain ⟨kept', dropped', met', hall, hmore, hmet', hpaths'⟩ := hrest
  refine ⟨kept ++ kept', dropped ++ dropped', met ++ met', hmerged.append hall,
    htheirs.append hmore, hmet.append hmet', ?_⟩
  rw [List.map_append, List.map_append, hpaths, hpaths']

/-- A file of the second list that is missing has a path of the first list. -/
theorem Unites.exists_of_notMem (h : Unites ours theirs merged) {file : SkeletonFile}
    (hfile : file ∈ theirs) (hmissing : file ∉ merged) :
    ∃ other ∈ ours, other.path = file.path := by
  obtain ⟨kept, dropped, met, hmerged, htheirs, hmet, hpaths⟩ := h
  have hdropped : file ∈ dropped := by
    refine (htheirs.mem_iff.mp hfile).resolve_left fun hkept => ?_
    exact hmissing (hmerged.mem_iff.mpr (.inr hkept))
  have hpath : file.path ∈ met.map SkeletonFile.path :=
    hpaths ▸ List.mem_map_of_mem hdropped
  obtain ⟨other, hother, hsame⟩ := List.mem_map.mp hpath
  exact ⟨other, hmet.subset hother, hsame⟩

theorem Unites.mem_paths_iff (h : Unites ours theirs merged) (path : Text) :
    path ∈ merged.map SkeletonFile.path ↔
      path ∈ ours.map SkeletonFile.path ∨ path ∈ theirs.map SkeletonFile.path := by
  have hours : ∀ file ∈ ours, file.path ∈ merged.map SkeletonFile.path := by
    obtain ⟨kept, dropped, met, hmerged, -⟩ := h
    exact fun file hfile => List.mem_map_of_mem (hmerged.mem_iff.mpr (.inl hfile))
  constructor
  · intro hpath
    obtain ⟨file, hfile, rfl⟩ := List.mem_map.mp hpath
    obtain ⟨kept, dropped, met, hmerged, htheirs, -⟩ := h
    rcases hmerged.mem_iff.mp hfile with hmem | hkept
    · exact .inl (List.mem_map_of_mem hmem)
    · exact .inr (List.mem_map_of_mem (htheirs.mem_iff.mpr (.inl hkept)))
  · rintro (hpath | hpath)
    · obtain ⟨file, hfile, rfl⟩ := List.mem_map.mp hpath
      exact hours file hfile
    · obtain ⟨file, hfile, rfl⟩ := List.mem_map.mp hpath
      by_cases hmem : file ∈ merged
      · exact List.mem_map_of_mem hmem
      · obtain ⟨other, hother, hsame⟩ := h.exists_of_notMem hfile hmem
        exact hsame ▸ hours other hother

end

/-- How far the loop that merges two lists has come. -/
structure Merging where
  /-- What is left of the first list. -/
  ours : List SkeletonFile
  /-- What is left of the second list. -/
  theirs : List SkeletonFile
  /-- What has been merged. -/
  merged : List SkeletonFile := []

namespace Merging

/-- One round of the loop, as long as there are files left in both lists. -/
def round? : Merging → Option Merging
  | ⟨mine :: ours, yours :: theirs, merged⟩ =>
      if mine.path = yours.path then some ⟨ours, theirs, merged ++ [mine]⟩
      else if mine.path < yours.path then some ⟨ours, yours :: theirs, merged ++ [mine]⟩
      else some ⟨mine :: ours, theirs, merged ++ [yours]⟩
  | _ => none

/-- What has been merged, and the rests behind it. -/
def result (m : Merging) : List SkeletonFile := m.merged ++ (m.ours ++ m.theirs)

/-- How many files are left. -/
def remaining (m : Merging) : Nat := m.ours.length + m.theirs.length

/-- From one state to another one in so many rounds. -/
inductive Rounds : Nat → Merging → Merging → Prop where
  | refl (m : Merging) : Rounds 0 m m
  | next {n : Nat} {m next last : Merging} (hround : m.round? = some next)
      (hrest : Rounds n next last) : Rounds (n + 1) m last

variable {m next last : Merging} {n : Nat}

/-- The three sorts of rounds. -/
theorem round_cases (h : m.round? = some next) :
    ∃ mine ours yours theirs, m.ours = mine :: ours ∧ m.theirs = yours :: theirs ∧
      (mine.path = yours.path ∧ next = ⟨ours, theirs, m.merged ++ [mine]⟩ ∨
        mine.path < yours.path ∧ next = ⟨ours, m.theirs, m.merged ++ [mine]⟩ ∨
        yours.path < mine.path ∧ next = ⟨m.ours, theirs, m.merged ++ [yours]⟩) := by
  unfold round? at h
  split at h
  · rename_i mine ours yours theirs merged
    refine ⟨mine, ours, yours, theirs, rfl, rfl, ?_⟩
    split at h
    · rename_i hsame
      exact .inl ⟨hsame, (Option.some.inj h).symm⟩
    · rename_i hne
      split at h
      · rename_i hlt
        exact .inr (.inl ⟨hlt, (Option.some.inj h).symm⟩)
      · rename_i hnlt
        exact .inr (.inr ⟨Text.lt_of_not_le hne hnlt, (Option.some.inj h).symm⟩)
  · cases h

theorem round_eq_none (h : m.round? = none) : m.ours = [] ∨ m.theirs = [] := by
  obtain ⟨ours, theirs, merged⟩ := m
  cases ours with
  | nil => exact .inl rfl
  | cons mine ours =>
      cases theirs with
      | nil => exact .inr rfl
      | cons yours theirs =>
          simp only [round?] at h
          split at h
          · cases h
          · split at h <;> cases h

/-- What has been taken from the lists on the way from one state to another one is accounted for by
what has been merged on that way. -/
def Advances (m last : Merging) : Prop :=
  ∃ ours theirs merged, m.ours = ours ++ last.ours ∧ m.theirs = theirs ++ last.theirs ∧
    last.merged = m.merged ++ merged ∧ Unites ours theirs merged

theorem Advances.refl (m : Merging) : Advances m m :=
  ⟨[], [], [], rfl, rfl, (List.append_nil _).symm, unites_ours []⟩

theorem Advances.trans (h : Advances m next) (hrest : Advances next last) : Advances m last := by
  obtain ⟨ours, theirs, merged, hours, htheirs, hmerged, hunites⟩ := h
  obtain ⟨ours', theirs', merged', hours', htheirs', hmerged', hunites'⟩ := hrest
  refine ⟨ours ++ ours', theirs ++ theirs', merged ++ merged', ?_, ?_, ?_,
    hunites.append hunites'⟩
  · rw [hours, hours', List.append_assoc]
  · rw [htheirs, htheirs', List.append_assoc]
  · rw [hmerged', hmerged, List.append_assoc]

theorem advances_round (h : m.round? = some next) : Advances m next := by
  obtain ⟨mine, ours, yours, theirs, hours, htheirs, hsort⟩ := round_cases h
  rcases hsort with ⟨hsame, rfl⟩ | ⟨-, rfl⟩ | ⟨-, rfl⟩
  · exact ⟨[mine], [yours], [mine], hours, htheirs, rfl, unites_same hsame⟩
  · exact ⟨[mine], [], [mine], hours, rfl, rfl, unites_ours [mine]⟩
  · exact ⟨[], [yours], [yours], rfl, htheirs, rfl, unites_theirs [yours]⟩

theorem remaining_round (h : m.round? = some next) : next.remaining < m.remaining := by
  obtain ⟨mine, ours, yours, theirs, hours, htheirs, hsort⟩ := round_cases h
  rcases hsort with ⟨-, rfl⟩ | ⟨-, rfl⟩ | ⟨-, rfl⟩ <;>
    simp only [remaining, hours, htheirs, List.length_cons] <;> omega

/-- A round does not change what the merge will be. -/
theorem mergeFiles_round (h : m.round? = some next) :
    m.merged ++ mergeFiles m.ours m.theirs = next.merged ++ mergeFiles next.ours next.theirs := by
  obtain ⟨mine, ours, yours, theirs, hours, htheirs, hsort⟩ := round_cases h
  rw [hours, htheirs, mergeFiles]
  rcases hsort with ⟨hsame, rfl⟩ | ⟨hlt, rfl⟩ | ⟨hlt, rfl⟩
  · rw [if_pos hsame, List.append_assoc, List.singleton_append]
  · rw [if_neg (Text.ne_of_lt hlt), if_pos hlt, htheirs, List.append_assoc,
      List.singleton_append]
  · have hnlt : ¬ mine.path < yours.path := fun h => Text.lt_irrefl _ (Text.lt_trans h hlt)
    rw [if_neg (Text.ne_of_lt hlt).symm, if_neg hnlt, hours, List.append_assoc,
      List.singleton_append]

theorem mergeFiles_of_end (h : m.round? = none) :
    m.merged ++ mergeFiles m.ours m.theirs = m.result := by
  rw [result]
  rcases round_eq_none h with hours | htheirs
  · rw [hours, mergeFiles, List.nil_append]
  · rw [htheirs, List.append_nil]
    cases m.ours <;> simp [mergeFiles]

/-- The loop comes to an end, since each round takes a file. -/
theorem exists_rounds (m : Merging) :
    ∃ n ≤ m.remaining, ∃ last, Rounds n m last ∧ last.round? = none := by
  -- Every round leaves fewer files, so the induction is on their number.
  induction hsize : m.remaining using Nat.strongRecOn generalizing m with
  | ind size ih =>
      cases hround : m.round? with
      | none => exact ⟨0, Nat.zero_le size, m, .refl m, hround⟩
      | some next =>
          have hless : next.remaining < size := hsize ▸ remaining_round hround
          obtain ⟨n, hn, last, hrounds, hlast⟩ := ih next.remaining hless next rfl
          exact ⟨n + 1, by omega, last, .next hround hrounds, hlast⟩

theorem Rounds.advances (h : Rounds n m last) : Advances m last := by
  induction h with
  | refl m => exact .refl m
  | next hround _ ih => exact (advances_round hround).trans ih

theorem Rounds.mergeFiles_eq (h : Rounds n m last) :
    m.merged ++ mergeFiles m.ours m.theirs = last.merged ++ mergeFiles last.ours last.theirs := by
  induction h with
  | refl m => rfl
  | next hround _ ih => rw [mergeFiles_round hround, ih]

/-- At any time the lists are united by what has been merged and the rests. -/
theorem Advances.unites {ours theirs : List SkeletonFile} (h : Advances ⟨ours, theirs, []⟩ last) :
    Unites ours theirs last.result := by
  obtain ⟨taken, seen, merged, rfl, rfl, hmerged, hunites⟩ := h
  have hrests : Unites last.ours last.theirs (last.ours ++ last.theirs) := by
    simpa using (unites_ours last.ours).append (unites_theirs last.theirs)
  rw [result, hmerged]
  exact hunites.append hrests

end Merging

/-- The merge loses nothing, in whatever order the files stand and whichever paths are repeated. Its
loop ends after at most as many rounds as there are files. The merge has all files of the first list
in their order, and else files of the second list in theirs; those that are left out met files of
the first list with the same paths. So the paths are those of both lists. -/
theorem mergeFiles_lossless (a b : List SkeletonFile) :
    (∃ n ≤ a.length + b.length, ∃ last, Merging.Rounds n ⟨a, b, []⟩ last ∧
      last.round? = none ∧ mergeFiles a b = last.result) ∧
    (∃ kept dropped met : List SkeletonFile, Interleaves a kept (mergeFiles a b) ∧
      Interleaves kept dropped b ∧ met.Sublist a ∧
      met.map SkeletonFile.path = dropped.map SkeletonFile.path) ∧
    (∀ file ∈ b, file ∉ mergeFiles a b → ∃ other ∈ a, other.path = file.path) ∧
    ∀ path, path ∈ (mergeFiles a b).map SkeletonFile.path ↔
      path ∈ a.map SkeletonFile.path ∨ path ∈ b.map SkeletonFile.path := by
  obtain ⟨n, hn, last, hrounds, hlast⟩ := Merging.exists_rounds ⟨a, b, []⟩
  have hresult : mergeFiles a b = last.result :=
    hrounds.mergeFiles_eq.trans (Merging.mergeFiles_of_end hlast)
  have hunites : Unites a b (mergeFiles a b) := hresult ▸ hrounds.advances.unites
  exact ⟨⟨n, hn, last, hrounds, hlast, hresult⟩, hunites,
    fun _ hfile hmissing => hunites.exists_of_notMem hfile hmissing, hunites.mem_paths_iff⟩

/-- Files in no order. -/
def scatteredFiles : List SkeletonFile := [⟨"b", "1", 420⟩, ⟨"a", "2", 420⟩, ⟨"c", "3", 420⟩]

/-- Files with a path twice. -/
def repeatedFiles : List SkeletonFile := [⟨"a", "4", 420⟩, ⟨"c", "5", 420⟩, ⟨"c", "6", 420⟩]

/-- Equal paths that do not meet are both kept, and a file meets one file at most. -/
theorem mergeFiles_scatteredFiles :
    mergeFiles scatteredFiles repeatedFiles =
      [⟨"a", "4", 420⟩, ⟨"b", "1", 420⟩, ⟨"a", "2", 420⟩, ⟨"c", "3", 420⟩, ⟨"c", "6", 420⟩] := by
  cbv

theorem mergeFiles_lossless_scattered :
    ⟨"c", "5", 420⟩ ∈ repeatedFiles ∧ ⟨"c", "5", 420⟩ ∉ mergeFiles scatteredFiles repeatedFiles ∧
      ∃ other ∈ scatteredFiles, other.path = "c" := by
  have hfile : ⟨"c", "5", 420⟩ ∈ repeatedFiles := by decide
  have hmissing : ⟨"c", "5", 420⟩ ∉ mergeFiles scatteredFiles repeatedFiles := by
    rw [mergeFiles_scatteredFiles]
    decide
  exact ⟨hfile, hmissing,
    (mergeFiles_lossless scatteredFiles repeatedFiles).2.2.1 _ hfile hmissing⟩

end Skeleton

end Scaffold
