import Scaffold.Disk

/-!
Directory trees. A name in a tree holds no slash, so the text of a path tells which path it is, and
what follows its last slash is the last name.
-/

namespace Scaffold

namespace Text

theorem decode_inj {bytes other : Bytes} (h : decode bytes = decode other) : bytes = other := by
  rw [← encode_decode bytes, h, encode_decode]

theorem splitOn_eq (sep : Letter) (t : Text) : splitOn sep t = List.splitOn sep t := by
  induction t with
  | nil => rfl
  | cons c rest ih =>
      obtain ⟨piece, pieces, hrest⟩ := List.exists_cons_of_ne_nil (splitOn_ne_nil sep rest)
      rw [List.splitOn, List.splitOnP_cons_eq_if_modifyHead, ← List.splitOn, ← ih, splitOn, hrest]
      by_cases hc : c = sep <;> simp [hc]

theorem splitOn_join {sep : Letter} {pieces : List Text} (hpieces : ∀ piece ∈ pieces, sep ∉ piece)
    (hne : pieces ≠ []) : splitOn sep (join [sep] pieces) = pieces := by
  rw [splitOn_eq]
  exact List.splitOn_intercalate sep hpieces hne

/-- What follows the last slash of a path. -/
def baseName (path : Text) : Text := ((path.splitOn Location.slash).getLast?).getD []

theorem getLast?_of_join_concat {sep c : Letter} {pieces : List Text} {last : Text} (hc : c ≠ sep)
    (h : (join [sep] (pieces ++ [last])).getLast? = some c) : last.getLast? = some c := by
  by_cases hpieces : pieces = []
  · simpa [hpieces] using h
  · rw [join_append _ hpieces (by simp), join_singleton, List.getLast?_append,
      Option.or_eq_some_iff] at h
    rcases h with hlast | ⟨-, hsep⟩
    · exact hlast
    · simp [hc.symm] at hsep

end Text

/-- No name on a path holds a slash. -/
def Path.IsPlain (p : Path) : Prop := ∀ name ∈ p, Location.slash ∉ Text.decode name

instance (p : Path) : Decidable p.IsPlain :=
  inferInstanceAs (Decidable (∀ name ∈ p, Location.slash ∉ Text.decode name))

/-- What the disks of a file system have in common: at every path stands at most one entry, and no
name holds a slash. -/
structure Disk.IsTree (d : Disk) : Prop where
  nodup : d.entries.keys.Nodup
  plain : ∀ p ∈ d.entries.keys, Path.IsPlain p

namespace Path

/-- The path with these names. -/
def ofTexts (names : List Text) : Path := names.map Text.encode

theorem splitOn_relativeText {p : Path} (hp : p.IsPlain) (hne : p ≠ []) :
    p.relativeText.splitOn Location.slash = p.map Text.decode := by
  refine Text.splitOn_join ?_ (by simpa using hne)
  intro name hname
  obtain ⟨bytes, hbytes, rfl⟩ := List.mem_map.mp hname
  exact hp bytes hbytes

theorem relativeText_inj {p q : Path} (hp : p.IsPlain) (hq : q.IsPlain) (hpne : p ≠ [])
    (hqne : q ≠ []) (h : p.relativeText = q.relativeText) : p = q := by
  have hnames : p.map Text.decode = q.map Text.decode := by
    rw [← splitOn_relativeText hp hpne, ← splitOn_relativeText hq hqne, h]
  exact (List.map_inj_right fun _ _ => Text.decode_inj).mp hnames

theorem baseName_relativeText {p : Path} {name : Bytes} (hp : p.IsPlain)
    (hname : p.getLast? = some name) : p.relativeText.baseName = Text.decode name := by
  have hne : p ≠ [] := by
    rintro rfl
    cases hname
  rw [Text.baseName, splitOn_relativeText hp hne, List.getLast?_map, hname]
  rfl

/-- A path ends in a slash or as its last name does. -/
theorem getLast?_of_relativeText {p : Path} {name : Bytes} {c : Letter}
    (hname : p.getLast? = some name) (hc : c ≠ Location.slash)
    (h : p.relativeText.getLast? = some c) : (Text.decode name).getLast? = some c := by
  obtain ⟨before, rfl⟩ := List.getLast?_eq_some_iff.mp hname
  rw [relativeText, List.map_append, List.map_singleton] at h
  exact Text.getLast?_of_join_concat hc h

end Path

namespace Disk

variable {d : Disk}

theorem mem_below {base names : Path} {entry : Entry} (h : (names, entry) ∈ d.below base) :
    names ≠ [] ∧ base ++ names ∈ d.entries.keys := by
  obtain ⟨⟨p, found⟩, hmem, hbelow⟩ := List.mem_filterMap.mp h
  dsimp only at hbelow
  split at hbelow
  · rename_i hp
    obtain ⟨names', rfl⟩ := List.isPrefixOf_iff_prefix.mp hp.1
    cases hbelow
    rw [List.drop_left]
    refine ⟨?_, List.mem_map.mpr ⟨_, hmem, rfl⟩⟩
    rintro rfl
    exact hp.2 (by simp)
  · cases hbelow

theorem IsTree.plain_below (hd : d.IsTree) {base names : Path} {entry : Entry}
    (h : (names, entry) ∈ d.below base) : names.IsPlain := by
  intro name hname
  exact hd.plain _ (mem_below h).2 name (List.mem_append_right base hname)

/-- Nothing is found twice below a path. -/
theorem IsTree.nodup_below (hd : d.IsTree) (base : Path) : (d.below base).keys.Nodup := by
  have hentries := List.pairwise_map.mp hd.nodup
  refine List.pairwise_map.mpr (hentries.filterMap _ ?_)
  rintro ⟨p, entry⟩ ⟨q, other⟩ hne ⟨names, found⟩ hfound ⟨names', found'⟩ hfound' rfl
  dsimp only at hne hfound hfound'
  split at hfound <;> split at hfound' <;> try contradiction
  rename_i hp hq
  obtain ⟨rest, rfl⟩ := List.isPrefixOf_iff_prefix.mp hp.1
  obtain ⟨rest', rfl⟩ := List.isPrefixOf_iff_prefix.mp hq.1
  cases hfound
  rw [List.drop_left] at hfound'
  cases hfound'
  exact hne (by simp)

end Disk

end Scaffold
