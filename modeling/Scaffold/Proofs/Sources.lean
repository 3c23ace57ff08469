import Mathlib.Logic.Function.Basic
import Scaffold.Proofs.FileUnion
import Scaffold.Proofs.Footprint
import Scaffold.Proofs.Loading
import Scaffold.Skeleton.Cache

/-!
Where source files come from. The paths of the files of a skeleton that is loaded from a file tree
are spelled by names that lead down, so that the same names lead to a place below any directory. Of
several files with one path, in the files of several skeletons, the last one counts.
-/

namespace Scaffold

open Skeleton (Ascending fileAt?)

/-- A directory tree in which every name leads down. -/
structure Disk.IsFileTree (d : Disk) : Prop extends d.IsTree where
  down : ∀ p ∈ d.entries.keys, ∀ name ∈ p, LeadsDown name

/-- A path that leads to something below a directory, and its names. -/
structure Path.Spells (names : Path) (path : Text) : Prop where
  ne_nil : names ≠ []
  plain : names.IsPlain
  down : ∀ name ∈ names, LeadsDown name
  text_eq : names.relativeText = path

namespace LeadsDown

variable {name : Bytes}

theorem decode_ne_nil (h : LeadsDown name) : Text.decode name ≠ [] := by
  intro hnil
  obtain rfl : [] = name := by
    rw [← Text.encode_decode name, hnil]
    rfl
  exact absurd h.1 (by decide)

theorem decode_ne_dot (h : LeadsDown name) : Text.decode name ≠ [.char '.'] := by
  intro hdot
  have hname : Text.encode "." = name := by
    rw [← Text.encode_decode name, hdot]
    rfl
  subst hname
  exact absurd h.1 (by decide)

end LeadsDown

namespace Path.Spells

variable {names : Path} {path : Text}

/-- The text of a path that leads down is read as a relative location with the same names. -/
theorem ofText_eq (h : names.Spells path) :
    Location.ofText path = { anchor := [], names := names.map Text.decode } := by
  have hsplit := splitOn_relativeText h.plain h.ne_nil
  obtain ⟨name, rest, hnames⟩ := List.exists_cons_of_ne_nil h.ne_nil
  obtain ⟨c, more, hname⟩ := List.exists_cons_of_ne_nil
    (h.down name (by simp [hnames])).decode_ne_nil
  have hhead : ∃ after, path = c :: after := by
    rw [← h.text_eq, relativeText, hnames, List.map_cons, hname]
    cases rest with
    | nil => exact ⟨more, by rw [List.map_nil, Text.join_singleton]⟩
    | cons other rest => exact ⟨_, rfl⟩
  obtain ⟨after, rfl⟩ := hhead
  have hc : c ≠ Location.slash := by
    rintro rfl
    exact h.plain name (by simp [hnames]) (by simp [hname])
  have hkept : (names.map Text.decode).filter (fun name => name ≠ [] ∧ name ≠ [.char '.']) =
      names.map Text.decode := by
    refine List.filter_eq_self.mpr fun text htext => ?_
    obtain ⟨name, hname, rfl⟩ := List.mem_map.mp htext
    have hdown := h.down name hname
    simp [hdown.decode_ne_nil, hdown.decode_ne_dot]
  rw [Location.ofText, ← h.text_eq, hsplit, hkept, h.text_eq,
    List.takeWhile_cons_of_neg (by simpa using hc)]
  rfl

theorem child_eq (h : names.Spells path) (base : Location) :
    base.child path = base.descend names := by
  rw [Location.child, h.ofText_eq, Location.under]
  rfl

theorem unique {other : Path} (h : names.Spells path) (hother : other.IsPlain) (hne : other ≠ [])
    (htext : other.relativeText = path) : other = names :=
  Path.relativeText_inj hother h.plain hne h.ne_nil (htext.trans h.text_eq.symm)

end Path.Spells

namespace Skeleton

/-- The file lists of loaded skeletons: ascending, and with paths that lead down. -/
structure Sourced (files : List SkeletonFile) : Prop where
  ascending : Ascending files
  spelled : ∀ file ∈ files, ∃ names : Path, names.Spells file.path

theorem Sourced.merge {ours theirs : List SkeletonFile} (hours : Sourced ours)
    (htheirs : Sourced theirs) : Sourced (mergeFiles ours theirs) := by
  refine ⟨ascending_mergeFiles hours.ascending htheirs.ascending, fun file hfile => ?_⟩
  rcases mem_mergeFiles hfile with hmem | hmem
  · exact hours.spelled file hmem
  · exact htheirs.spelled file hmem

/-- A template file is found in an entry below the directory, whose names spell its path. -/
theorem Visit.Finds.spells {d : Disk} {directory : Location} {base : Path} {v : Visit}
    {file : SkeletonFile} (hd : d.IsFileTree) (hv : v ∈ Visit.all d base)
    (h : Finds d directory v file) :
    base ++ v.names ∈ d.entries.keys ∧ v.names.Spells file.path := by
  obtain ⟨entry, hentry⟩ := Visit.exists_entry_of_settled hv h.settles
  obtain ⟨hne, hkey⟩ := Disk.mem_below hentry
  exact ⟨hkey, hne, hd.plain_below hentry,
    fun name hname => hd.down _ hkey name (List.mem_append_right base hname), h.path_eq.symm⟩

theorem sourced_templateFiles {d : Disk} {directory : Location} {warnings after : List Warning}
    {files : List SkeletonFile} (hd : d.IsFileTree)
    (h : templateFiles d directory warnings = .ok files after) : Sourced files := by
  refine ⟨(orderly_templateFiles hd.toIsTree h).ascending, fun file hfile => ?_⟩
  rcases exists_chosen_of_templateFiles h with rfl | ⟨base, -, chosen, -, hsublist, rfl, hfinds⟩
  · cases hfile
  obtain ⟨c, hc, rfl⟩ := List.mem_map.mp (List.mem_mergeSort.mp hfile)
  exact ⟨c.1.names, ((hfinds c hc).spells hd (hsublist.subset (List.mem_map_of_mem hc))).2⟩

end Skeleton

theorem Catalog.sourced_of_lookup {d : Disk} {source : Source} {catalog : Catalog}
    {warnings after : List Warning} {name : Text} {s : Skeleton} (hd : d.IsFileTree)
    (hload : load d source warnings = .ok catalog after) (hlookup : catalog.lookup name = .ok s) :
    Skeleton.Sourced s.files := by
  refine resolve_induction (P := fun s => Skeleton.Sourced s.files) (fun entry hentry => ?_)
    (fun _ _ _ hown hparent => hown.merge hparent) hlookup
  obtain ⟨-, _, _, _, hentry⟩ := loads_of_mem hload entry hentry
  obtain ⟨_, _, hfiles⟩ := Skeleton.templateFiles_of_load hentry
  exact Skeleton.sourced_templateFiles hd hfiles

/-- Every catalog was loaded from a file tree. -/
def Cache.IsLoaded (cache : Cache) : Prop :=
  ∀ kind catalog, cache.get? kind = some catalog →
    ∃ (d : Disk) (source : Catalog.Source) (warnings after : List Warning),
      d.IsFileTree ∧ Catalog.load d source warnings = .ok catalog after

/-- The file with a path in the last skeleton that has one there. -/
def lastFile? (skeletons : List Skeleton) (path : Text) : Option SkeletonFile :=
  skeletons.reverse.findSome? fun s => fileAt? s.files path

namespace Skeleton

variable {files later : List SkeletonFile}

/-- In what order files with different paths come, and how often, is without consequence. -/
theorem Ascending.fileAt?_eq (hfiles : Ascending files) (hsub : later ⊆ files)
    (hall : files ⊆ later) (path : Text) : fileAt? later path = fileAt? files path := by
  cases hlater : fileAt? later path with
  | some file =>
      have hpath : file.path = path := by simpa using List.find?_some hlater
      have hfile := hsub (List.mem_of_find?_eq_some hlater)
      exact ((fileAt?_eq_some_iff hfiles).mpr ⟨hfile, hpath⟩).symm
  | none =>
      have hnone := fileAt?_eq_none_iff.mp hlater
      exact (fileAt?_eq_none_iff.mpr fun hpath => hnone (List.map_subset _ hall hpath)).symm

theorem Ascending.fileAt?_reverse (hfiles : Ascending files) :
    fileAt? files.reverse = fileAt? files :=
  funext <| hfiles.fileAt?_eq (List.reverse_subset.mpr (List.Subset.refl files))
    (List.subset_reverse.mpr (List.Subset.refl files))

theorem fileAt?_reverse_append (files later : List SkeletonFile) (path : Text) :
    fileAt? (files ++ later).reverse path =
      (fileAt? later.reverse path).or (fileAt? files.reverse path) := by
  rw [List.reverse_append, fileAt?, List.find?_append]
  rfl

theorem fileAt?_reverse_concat (files : List SkeletonFile) (file : SkeletonFile) :
    fileAt? (files ++ [file]).reverse =
      Function.update (fileAt? files.reverse) file.path (some file) := by
  funext path
  rw [List.reverse_append, List.reverse_singleton, List.singleton_append, fileAt?_cons,
    Function.update_apply]
  simp only [eq_comm]

theorem lastFile?_cons (s : Skeleton) (rest : List Skeleton) (path : Text) :
    lastFile? (s :: rest) path = (lastFile? rest path).or (fileAt? s.files path) := by
  rw [lastFile?, List.reverse_cons, List.findSome?_append]
  simp [lastFile?]

theorem fileAt?_flatMap {skeletons : List Skeleton} (h : ∀ s ∈ skeletons, Ascending s.files)
    (path : Text) :
    fileAt? (skeletons.flatMap Skeleton.files).reverse path = lastFile? skeletons path := by
  induction skeletons with
  | nil => rfl
  | cons s rest ih =>
      obtain ⟨hs, hrest⟩ := List.forall_mem_cons.mp h
      rw [List.flatMap_cons, fileAt?_reverse_append, ih hrest, lastFile?_cons, hs.fileAt?_reverse]

end Skeleton

end Scaffold
