import Scaffold.Proofs.Sources

/-!
Mirrors of source files. A directory is a mirror if the files below it are the copies of source
files, each with the content and the permissions of its source. It stays one when another source is
placed below it, and then the new copy counts.
-/

namespace Scaffold.Disk

open Step (state)

/-- A location leads to a directory of a file tree, if need be once it has been made. -/
def Opens (d : Disk) (l : Location) (b : Path) : Prop :=
  ∃ d' mode, makeDirectories l d = .ok () d' ∧ d'.IsFileTree ∧ d'.find l = .ok (b, .directory mode)

/-- The files below a directory are copies of the source files of their paths, and each source file
has a copy. There are no links below the directory. -/
structure Mirrors (d : Disk) (b : Path) (sources : Text → Option SkeletonFile) : Prop where
  held : ∀ path file, sources path = some file → ∃ names mode, names ≠ [] ∧
    Path.relativeText names = path ∧ modeOf file.permissions = .ok mode ∧
      d.get? (b ++ names) = some (.file file.content.encode mode)
  only : ∀ names content mode, names ≠ [] → d.get? (b ++ names) = some (.file content mode) →
    ∃ file, sources (Path.relativeText names) = some file ∧ content = file.content.encode ∧
      modeOf file.permissions = .ok mode
  linkless : ∀ names target, d.get? (b ++ names) ≠ some (.link target)

/-- The directory to which a location leads in a file tree mirrors source files. -/
structure IsBackup (d : Disk) (l : Location) (b : Path) (sources : Text → Option SkeletonFile) :
    Prop where
  tree : d.IsFileTree
  opens : d.Opens l b
  mirrors : d.Mirrors b sources

/-- A change of a file tree that leaves alone what stands at a path and below it, and lets a
location lead there. -/
structure Spares (l : Location) (b : Path) (d d' : Disk) : Prop where
  get?_eq : ∀ names, d'.get? (b ++ names) = d.get? (b ++ names)
  opens : d.Opens l b → d'.Opens l b
  tree : d.IsFileTree → d'.IsFileTree

section

variable {d d' d'' : Disk} {l : Location} {b p : Path} {names : Path} {mode : Nat}
  {sources : Text → Option SkeletonFile} {touched made : Path → Prop} {file : SkeletonFile}

theorem Spares.refl (l : Location) (b : Path) (d : Disk) : Spares l b d d :=
  ⟨fun _ => rfl, id, id⟩

theorem IsBackup.spares (h : d.IsBackup l b sources) (hspares : Spares l b d d') :
    d'.IsBackup l b sources := by
  refine ⟨hspares.tree h.tree, hspares.opens h.opens, ?_, ?_, ?_⟩
  · simpa only [hspares.get?_eq] using h.mirrors.held
  · simpa only [hspares.get?_eq] using h.mirrors.only
  · simpa only [hspares.get?_eq] using h.mirrors.linkless

/-- A new directory is no part of a mirror. -/
theorem Mirrors.grows (h : d.Mirrors b sources) (hgrows : d.Grows made d') :
    d'.Mirrors b sources := by
  refine ⟨fun path file hfile => ?_, fun names content mode hne hfile => ?_,
    fun names target hlink => ?_⟩
  · obtain ⟨names, mode, hne, htext, hmode, hcopy⟩ := h.held path file hfile
    refine ⟨names, mode, hne, htext, hmode, ?_⟩
    rcases hgrows.get?_eq (b ++ names) with hsame | ⟨-, hnone, -⟩
    · exact hsame.trans hcopy
    · cases hnone.symm.trans hcopy
  · rcases hgrows.get?_eq (b ++ names) with hsame | ⟨-, -, hnew⟩
    · exact h.only names content mode hne (hsame.symm.trans hfile)
    · cases hnew.symm.trans hfile
  · rcases hgrows.get?_eq (b ++ names) with hsame | ⟨-, -, hnew⟩
    · exact h.linkless names target (hsame.symm.trans hlink)
    · cases hnew.symm.trans hlink

theorem IsFileTree.of_get? (hd : d.IsFileTree) (hnodup : d'.entries.keys.Nodup)
    (hnew : ∀ p, ¬ touched p → d'.get? p = d.get? p)
    (htouched : ∀ p, touched p → p.IsPlain ∧ ∀ name ∈ p, LeadsDown name) : d'.IsFileTree := by
  have hboth : ∀ p ∈ d'.entries.keys, p.IsPlain ∧ ∀ name ∈ p, LeadsDown name := by
    intro p hp
    by_cases h : touched p
    · exact htouched p h
    · rw [mem_keys_iff, hnew p h, ← mem_keys_iff] at hp
      exact ⟨hd.plain p hp, hd.down p hp⟩
  exact ⟨⟨hnodup, fun p hp => (hboth p hp).1⟩, fun p hp => (hboth p hp).2⟩

/-- What is on the way from a directory of a file tree along names that spell a path. -/
theorem OnTheWay.leadsDown {path : Text} (hd : d.IsFileTree) (hb : b ∈ d.entries.keys)
    (hnames : names.Spells path) (hp : OnTheWay b names p) :
    p.IsPlain ∧ ∀ name ∈ p, LeadsDown name := by
  obtain ⟨front, -, hbegins, rfl⟩ := hp
  refine ⟨fun name hname => ?_, fun name hname => ?_⟩
  · rcases List.mem_append.mp hname with hmem | hmem
    · exact hd.plain b hb name hmem
    · exact hnames.plain name (hbegins.subset hmem)
  · rcases List.mem_append.mp hname with hmem | hmem
    · exact hd.down b hb name hmem
    · exact hnames.down name (hbegins.subset hmem)

theorem Mirrors.isStraight (h : d.Mirrors b sources) {path : Text} (hnames : names.Spells path) :
    d.IsStraight b names :=
  ⟨hnames.down, fun front _ _ target hlink => absurd hlink (h.linkless front target)⟩

theorem directory_of_isDirectory {entry : Entry} (hentry : d.get? p = some entry)
    (hdirectory : d.isDirectory p = true) : ∃ mode, entry = .directory mode := by
  obtain ⟨mode, hmode⟩ := isDirectory_iff.mp hdirectory
  exact ⟨mode, Option.some.inj (hentry.symm.trans hmode)⟩

/-- Besides what is placed only directories on the way to it are new. -/
theorem ChangesOnly.cases (h : d.ChangesOnly (OnTheWay b names) d')
    (hway : ∀ front, front ≠ [] → front <+: names.dropLast → d'.isDirectory (b ++ front) = true)
    (other : Path) : other = names ∨ d'.isDirectory (b ++ other) = true ∨
      d'.get? (b ++ other) = d.get? (b ++ other) := by
  by_cases hother : OnTheWay b names (b ++ other)
  · obtain ⟨front, hne, hbegins, hsame⟩ := hother
    obtain rfl := List.append_cancel_left hsame
    rcases List.eq_nil_or_concat names with rfl | ⟨before, last, rfl⟩
    · exact .inl (List.prefix_nil.mp hbegins)
    · rw [List.concat_eq_append] at hbegins hway ⊢
      rw [List.dropLast_concat] at hway
      exact (List.prefix_concat_iff.mp hbegins).imp_right fun hbefore =>
        .inl (hway other hne hbefore)
  · exact .inr (.inr (h.get?_eq _ hother))

/-- After a source file is placed its copy is the only change of a mirror. -/
theorem Mirrors.placed (h : d.Mirrors b sources) (hd : d'.IsFileTree)
    (hnames : names.Spells file.path) (hstands : d.Extends (fun _ => True) d')
    (hmode : modeOf file.permissions = .ok mode)
    (hcopy : d'.get? (b ++ names) = some (.file file.content.encode mode))
    (hcases : ∀ other, other = names ∨ d'.isDirectory (b ++ other) = true ∨
      d'.get? (b ++ other) = d.get? (b ++ other)) :
    d'.Mirrors b (Function.update sources file.path (some file)) := by
  refine ⟨fun path source hsource => ?_, fun other content mode' hne hfile => ?_,
    fun other target hlink => ?_⟩
  · by_cases hpath : path = file.path
    · subst hpath
      rw [Function.update_self] at hsource
      cases hsource
      exact ⟨names, mode, hnames.ne_nil, hnames.text_eq, hmode, hcopy⟩
    · rw [Function.update_of_ne hpath] at hsource
      obtain ⟨other, mode', hne, htext, hmode', hother⟩ := h.held path source hsource
      refine ⟨other, mode', hne, htext, hmode', ?_⟩
      rcases hcases other with rfl | hdirectory | hsame
      · exact absurd (htext.symm.trans hnames.text_eq) hpath
      · obtain ⟨entry', hentry', hbecomes⟩ := hstands.becomes _ _ hother
        obtain ⟨_, rfl⟩ := directory_of_isDirectory hentry' hdirectory
        cases hbecomes
      · exact hsame.trans hother
  · by_cases hpath : Path.relativeText other = file.path
    · have hkey : b ++ other ∈ d'.entries.keys := mem_keys_iff.mpr (by simp [hfile])
      have hplain : Path.IsPlain other := fun name hname =>
        hd.plain _ hkey name (List.mem_append_right b hname)
      obtain rfl := hnames.unique hplain hne hpath
      cases hcopy.symm.trans hfile
      rw [hpath, Function.update_self]
      exact ⟨file, rfl, rfl, hmode⟩
    · rw [Function.update_of_ne hpath]
      rcases hcases other with rfl | hdirectory | hsame
      · exact absurd hnames.text_eq hpath
      · obtain ⟨_, ⟨⟩⟩ := directory_of_isDirectory hfile hdirectory
      · exact h.only other content mode' hne (hsame.symm.trans hfile)
  · rcases hcases other with rfl | hdirectory | hsame
    · cases hcopy.symm.trans hlink
    · obtain ⟨_, ⟨⟩⟩ := directory_of_isDirectory hlink hdirectory
    · exact h.linkless other target (hsame.symm.trans hlink)

/-- A directory that is a backup goes on to be one when a source file is placed below it. -/
theorem IsBackup.place (h : d.IsBackup l b sources) (hnames : names.Spells file.path)
    (hplace : placeFile (l.descend names) file.content.encode file.permissions d = .ok () d') :
    d'.IsBackup l b (Function.update sources file.path (some file)) := by
  obtain ⟨made, mode, hmake, htree, hfind⟩ := h.opens
  have hmirrors := h.mirrors.grows ((grows_makeDirectories l).of_ok hmake).1
  have hplaced : placeFile (l.descend names) file.content.encode file.permissions made =
      .ok () d' := by
    rcases placeFile_of_made hmake hnames.ne_nil file.content.encode file.permissions with
      ⟨failure, -, hfails⟩ | hsame
    · cases hfails.symm.trans hplace
    · exact hsame.symm.trans hplace
  obtain ⟨hchanges, hcopy⟩ := placeFile_descend hfind
    (fun front hbegins _ => (hmirrors.isStraight hnames).of_isPrefix hbegins) hnames.ne_nil
    file.content.encode file.permissions
  obtain ⟨⟨mode', hmode, hcopy⟩, hway⟩ := hcopy d' hplaced
  rw [hplaced] at hchanges
  have hevolves := (evolves_placeFile _ _ _).of_ok hplaced
  have hkey : b ∈ made.entries.keys := mem_keys_iff.mpr (by simp [(find_eq_ok_iff.mp hfind).2])
  have htree' : d'.IsFileTree := htree.of_get? (hevolves.nodup htree.nodup) hchanges.get?_eq
    fun p hp => hp.leadsDown htree hkey hnames
  obtain ⟨mode₁, hfind'⟩ := find_directory_of_extends hevolves.stands hfind
  exact ⟨htree', ⟨d', mode₁, makeDirectories_of_find hfind', htree', hfind'⟩,
    hmirrors.placed htree' hnames hevolves.stands hmode hcopy (hchanges.cases hway)⟩

end

end Scaffold.Disk
