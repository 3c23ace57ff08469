import Scaffold.Skeleton

/-!
Lists of files in the order of their paths. The merge of two ascending lists is ascending and has
under each path what the first list has there, or else what the second one has.
-/

namespace Scaffold

namespace Skeleton

/-- Whether files stand in the strictly ascending order of their paths. -/
def Ascending (files : List SkeletonFile) : Prop :=
  files.Pairwise fun a b => a.path < b.path

instance (files : List SkeletonFile) : Decidable (Ascending files) :=
  inferInstanceAs (Decidable (files.Pairwise fun a b => a.path < b.path))

/-- The first file with a path. -/
def fileAt? (files : List SkeletonFile) (path : Text) : Option SkeletonFile :=
  files.find? fun file => file.path = path

@[simp] theorem fileAt?_nil (path : Text) : fileAt? [] path = none := rfl

theorem fileAt?_cons (file : SkeletonFile) (files : List SkeletonFile) (path : Text) :
    fileAt? (file :: files) path = if file.path = path then some file else fileAt? files path := by
  by_cases h : file.path = path <;> simp [fileAt?, h]

theorem fileAt?_eq_none {files : List SkeletonFile} {path : Text}
    (h : ∀ file ∈ files, path < file.path) : fileAt? files path = none := by
  apply List.find?_eq_none.mpr
  intro file hfile
  have := Text.ne_of_lt (h file hfile)
  simpa using this.symm

theorem lt_of_lt_head {file : SkeletonFile} {files : List SkeletonFile} {path : Text}
    (hfiles : Ascending (file :: files)) (hlt : path < file.path) :
    ∀ other ∈ file :: files, path < other.path := by
  intro other hother
  rcases List.mem_cons.mp hother with rfl | hother
  · exact hlt
  · exact Text.lt_trans hlt ((List.pairwise_cons.mp hfiles).1 other hother)

theorem mem_mergeFiles {ours theirs : List SkeletonFile} {file : SkeletonFile}
    (h : file ∈ mergeFiles ours theirs) : file ∈ ours ∨ file ∈ theirs := by
  fun_induction mergeFiles ours theirs with grind

theorem lt_mergeFiles {ours theirs : List SkeletonFile} {path : Text}
    (hours : ∀ file ∈ ours, path < file.path) (htheirs : ∀ file ∈ theirs, path < file.path) :
    ∀ file ∈ mergeFiles ours theirs, path < file.path := by
  intro file hfile
  rcases mem_mergeFiles hfile with hmem | hmem
  · exact hours file hmem
  · exact htheirs file hmem

theorem ascending_mergeFiles {ours theirs : List SkeletonFile}
    (hours : Ascending ours) (htheirs : Ascending theirs) :
    Ascending (mergeFiles ours theirs) := by
  fun_induction mergeFiles ours theirs with
  | case1 theirs => exact htheirs
  | case2 ours => exact hours
  | case3 mine ours yours theirs hsame ih =>
      obtain ⟨hmine, hours⟩ := List.pairwise_cons.mp hours
      obtain ⟨hyours, htheirs⟩ := List.pairwise_cons.mp htheirs
      rw [← hsame] at hyours
      exact List.pairwise_cons.mpr ⟨lt_mergeFiles hmine hyours, ih hours htheirs⟩
  | case4 mine ours yours theirs _ hlt ih =>
      obtain ⟨hmine, hours⟩ := List.pairwise_cons.mp hours
      exact List.pairwise_cons.mpr
        ⟨lt_mergeFiles hmine (lt_of_lt_head htheirs hlt), ih hours htheirs⟩
  | case5 mine ours yours theirs hne hnlt ih =>
      have hlt := Text.lt_of_not_le hne hnlt
      obtain ⟨hyours, htheirs⟩ := List.pairwise_cons.mp htheirs
      exact List.pairwise_cons.mpr
        ⟨lt_mergeFiles (lt_of_lt_head hours hlt) hyours, ih hours htheirs⟩

/-- The merge of ascending lists has under a path the file of the first list, if it has one there,
and otherwise the file of the second list. -/
theorem fileAt?_mergeFiles {ours theirs : List SkeletonFile}
    (hours : Ascending ours) (htheirs : Ascending theirs) (path : Text) :
    fileAt? (mergeFiles ours theirs) path = (fileAt? ours path).or (fileAt? theirs path) := by
  fun_induction mergeFiles ours theirs with
  | case1 theirs => simp
  | case2 ours => simp
  | case3 mine ours yours theirs hsame ih =>
      rw [fileAt?_cons, fileAt?_cons, fileAt?_cons, ← hsame,
        ih (List.pairwise_cons.mp hours).2 (List.pairwise_cons.mp htheirs).2]
      split <;> simp
  | case4 mine ours yours theirs _ _ ih =>
      rw [fileAt?_cons, fileAt?_cons mine, ih (List.pairwise_cons.mp hours).2 htheirs]
      split <;> simp
  | case5 mine ours yours theirs hne hnlt ih =>
      rw [fileAt?_cons, fileAt?_cons yours, ih hours (List.pairwise_cons.mp htheirs).2]
      split
      · rename_i hpath
        have hlt : path < mine.path := hpath ▸ Text.lt_of_not_le hne hnlt
        rw [fileAt?_eq_none (lt_of_lt_head hours hlt), Option.none_or]
      · rfl

end Skeleton

end Scaffold
