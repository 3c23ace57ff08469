import Mathlib.Data.List.Sort
import Scaffold.Proofs.FileLists

/-!
The merge of file lists as a union. An ascending list is settled by what it has under each path, so
the laws of the merge follow from those of choosing the first of several answers: the merge is
associative, and the empty list is neutral on both sides.
-/

namespace Scaffold.Skeleton

theorem ascending_irrefl : Std.Irrefl fun a b : SkeletonFile => a.path < b.path :=
  ⟨fun a => Text.lt_irrefl a.path⟩

theorem ascending_antisymm : Std.Antisymm fun a b : SkeletonFile => a.path < b.path :=
  ⟨fun a _ hab hba => absurd (Text.lt_trans hab hba) (Text.lt_irrefl a.path)⟩

theorem fileAt?_eq_some_iff {files : List SkeletonFile} (hfiles : Ascending files) {path : Text}
    {file : SkeletonFile} : fileAt? files path = some file ↔ file ∈ files ∧ file.path = path := by
  induction files with
  | nil => simp
  | cons head rest ih =>
      obtain ⟨hhead, hrest⟩ := List.pairwise_cons.mp hfiles
      rw [fileAt?_cons, List.mem_cons]
      by_cases hpath : head.path = path
      · rw [if_pos hpath, Option.some.injEq]
        constructor
        · rintro rfl
          exact ⟨Or.inl rfl, hpath⟩
        · rintro ⟨rfl | hmem, hfile⟩
          · rfl
          · exact absurd (hpath.trans hfile.symm) (Text.ne_of_lt (hhead file hmem))
      · rw [if_neg hpath, ih hrest]
        constructor
        · rintro ⟨hmem, hfile⟩
          exact ⟨Or.inr hmem, hfile⟩
        · rintro ⟨rfl | hmem, hfile⟩
          · exact absurd hfile hpath
          · exact ⟨hmem, hfile⟩

theorem fileAt?_eq_none_iff {files : List SkeletonFile} {path : Text} :
    fileAt? files path = none ↔ path ∉ files.map SkeletonFile.path := by
  simp only [fileAt?, List.find?_eq_none, decide_eq_true_eq, List.mem_map, not_exists, not_and]

theorem Ascending.ext {first second : List SkeletonFile} (hfirst : Ascending first)
    (hsecond : Ascending second) (h : ∀ path, fileAt? first path = fileAt? second path) :
    first = second := by
  have := ascending_irrefl
  have := ascending_antisymm
  apply List.Pairwise.eq_of_mem_iff hfirst hsecond
  intro file
  calc file ∈ first ↔ fileAt? first file.path = some file := by
        simp [fileAt?_eq_some_iff hfirst]
    _ ↔ fileAt? second file.path = some file := by rw [h]
    _ ↔ file ∈ second := by simp [fileAt?_eq_some_iff hsecond]

variable {a b c : List SkeletonFile}

theorem mem_mergeFiles_iff (ha : Ascending a) (hb : Ascending b) {file : SkeletonFile} :
    file ∈ mergeFiles a b ↔
      file ∈ a ∨ file.path ∉ a.map SkeletonFile.path ∧ file ∈ b := by
  have hmerge : file ∈ mergeFiles a b ↔ fileAt? (mergeFiles a b) file.path = some file := by
    simp [fileAt?_eq_some_iff (ascending_mergeFiles ha hb)]
  rw [hmerge, fileAt?_mergeFiles ha hb, Option.or_eq_some_iff, fileAt?_eq_some_iff ha,
    fileAt?_eq_some_iff hb, fileAt?_eq_none_iff]
  simp

theorem mem_paths_mergeFiles (ha : Ascending a) (hb : Ascending b) (path : Text) :
    path ∈ (mergeFiles a b).map SkeletonFile.path ↔
      path ∈ a.map SkeletonFile.path ∨ path ∈ b.map SkeletonFile.path := by
  rw [← not_iff_not, not_or, ← fileAt?_eq_none_iff, ← fileAt?_eq_none_iff, ← fileAt?_eq_none_iff,
    fileAt?_mergeFiles ha hb, Option.or_eq_none_iff]

theorem mergeFiles_assoc (ha : Ascending a) (hb : Ascending b) (hc : Ascending c) :
    mergeFiles a (mergeFiles b c) = mergeFiles (mergeFiles a b) c := by
  have hab := ascending_mergeFiles ha hb
  have hbc := ascending_mergeFiles hb hc
  refine (ascending_mergeFiles ha hbc).ext (ascending_mergeFiles hab hc) fun path => ?_
  calc fileAt? (mergeFiles a (mergeFiles b c)) path
      = (fileAt? a path).or ((fileAt? b path).or (fileAt? c path)) := by
        rw [fileAt?_mergeFiles ha hbc, fileAt?_mergeFiles hb hc]
    _ = ((fileAt? a path).or (fileAt? b path)).or (fileAt? c path) := (Option.or_assoc ..).symm
    _ = fileAt? (mergeFiles (mergeFiles a b) c) path := by
        rw [fileAt?_mergeFiles hab hc, fileAt?_mergeFiles ha hb]

/-- The merge is the union that prefers the first list. Of ascending lists it is ascending, has the
paths of both, and has under each path the file of the first list, or else that of the second one.
So it is associative, and the empty list is neutral. -/
theorem mergeFiles_union_monoid (ha : Ascending a) (hb : Ascending b) (hc : Ascending c) :
    Ascending (mergeFiles a b) ∧
      (∀ path, path ∈ (mergeFiles a b).map SkeletonFile.path ↔
        path ∈ a.map SkeletonFile.path ∨ path ∈ b.map SkeletonFile.path) ∧
      (∀ file, file ∈ mergeFiles a b ↔
        file ∈ a ∨ file.path ∉ a.map SkeletonFile.path ∧ file ∈ b) ∧
      mergeFiles a (mergeFiles b c) = mergeFiles (mergeFiles a b) c ∧
      mergeFiles [] a = a ∧ mergeFiles a [] = a := by
  refine ⟨ascending_mergeFiles ha hb, mem_paths_mergeFiles ha hb,
    fun file => mem_mergeFiles_iff ha hb, mergeFiles_assoc ha hb hc, ?_, ?_⟩
  · rw [mergeFiles]
  · cases a <;> simp [mergeFiles]

theorem mergeFiles_union_monoid_interleaved :
    ∃ a b c : List SkeletonFile, Ascending a ∧ Ascending b ∧ Ascending c ∧
      mergeFiles a (mergeFiles b c) = mergeFiles (mergeFiles a b) c ∧
      (mergeFiles (mergeFiles a b) c).map SkeletonFile.content =
        [("a" : Text), ("b" : Text), ("a" : Text), ("c" : Text)] := by
  let a : List SkeletonFile := [⟨"1", "a", 420⟩, ⟨"3", "a", 420⟩]
  let b : List SkeletonFile := [⟨"2", "b", 420⟩, ⟨"3", "b", 420⟩]
  let c : List SkeletonFile := [⟨"1", "c", 420⟩, ⟨"2", "c", 420⟩, ⟨"4", "c", 420⟩]
  have ha : Ascending a := by decide
  have hb : Ascending b := by decide
  have hc : Ascending c := by decide
  exact ⟨a, b, c, ha, hb, hc, (mergeFiles_union_monoid ha hb hc).2.2.2.1, by decide +kernel⟩

end Scaffold.Skeleton
