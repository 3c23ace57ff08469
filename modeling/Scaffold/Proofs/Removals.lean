import Mathlib.Data.List.Basic
import Mathlib.Data.List.Infix
import Scaffold.Proofs.Sources

/-!
What a removal leaves alone. On a disk that has no links outside of a path, what is neither on the
way to the path nor below it is looked up, and loaded, as it was before the path was removed.
-/

namespace Scaffold

open Step (lift_eq_ok_iff)

theorem Keyed.get?_filter {κ α : Type} [DecidableEq κ] (entries : Keyed κ α) (keep : κ → Bool)
    (key : κ) :
    Keyed.get? (entries.filter fun entry => keep entry.1) key =
      if keep key then entries.get? key else none := by
  induction entries with
  | nil => simp [get?]
  | cons entry rest ih =>
      obtain ⟨other, value⟩ := entry
      by_cases hkey : other = key
      · subst hkey
        by_cases hkeep : keep other = true
        · simp [get?, hkeep]
        · simp [ih, hkeep]
      · by_cases hkeep : keep other = true <;> simp [get?, ih, hkeep, hkey]

namespace Disk

variable {d : Disk} {p : Path} {l : Location} {names : Path}

/-- Outside of a path a disk has no links. -/
def LinksOnlyBelow (d : Disk) (p : Path) : Prop :=
  ∀ q target, d.get? q = some (.link target) → p <+: q

/-- Where the names of a location lead if none of them is a link. -/
def route (d : Disk) (l : Location) : Path := (d.start l).path ++ l.names.map Text.encode

theorem get?_remove_of_not_below {q : Path} (hq : ¬ p <+: q) : (d.remove p).get? q = d.get? q := by
  refine (Keyed.get?_filter d.entries (fun q => !p.isPrefixOf q) q).trans (if_pos ?_)
  rw [Bool.not_eq_true', ← Bool.not_eq_true, List.isPrefixOf_iff_prefix]
  exact hq

theorem walkNames_remove {last : LastName} {links : Nat}
    {follow follow' : Path → Route → Except DiskFault Place} (hlinks : d.LinksOnlyBelow p)
    {here : Path} {names : Route} (hdown : ∀ name ∈ names, LeadsDown name)
    (haside : ¬ p <+: here ++ names) :
    (d.remove p).walkNames last links follow' here names =
      d.walkNames last links follow here names := by
  induction names generalizing here with
  | nil => rfl
  | cons name rest ih =>
      obtain ⟨⟨hstays, hup⟩, hrest⟩ := List.forall_mem_cons.mp hdown
      have hhere : ¬ p <+: here := fun h => haside (h.trans (List.prefix_append ..))
      have hpath : here ++ name :: rest = here ++ [name] ++ rest := by simp
      rw [hpath] at haside
      have hnext : ¬ p <+: here ++ [name] := fun h => haside (h.trans (List.prefix_append ..))
      unfold walkNames
      rw [obstacle?_congr (get?_remove_of_not_below hhere), get?_remove_of_not_below hnext, hstays,
        hup]
      cases hentry : d.get? (here ++ [name]) with
      | none => rfl
      | some entry =>
          cases entry with
          | link target => exact absurd (hlinks _ _ hentry) hnext
          | file content mode =>
              dsimp only
              rw [ih hrest haside]
              rfl
          | directory mode =>
              dsimp only
              rw [ih hrest haside]
              rfl

theorem isStraight_of_aside (hlinks : d.LinksOnlyBelow p)
    (hdown : ∀ name ∈ l.names, LeadsDown (Text.encode name)) (haside : ¬ p <+: d.route l) :
    d.IsStraight (d.start l).path (l.names.map Text.encode) := by
  refine ⟨by simpa using hdown, fun front _ hbegins target hlink => absurd ?_ haside⟩
  exact (hlinks _ _ hlink).trans ((List.prefix_append_right_inj _).mpr hbegins)

theorem route_of_find (hlinks : d.LinksOnlyBelow p)
    (hdown : ∀ name ∈ l.names, LeadsDown (Text.encode name)) (haside : ¬ p <+: d.route l)
    {q : Path} {entry : Entry} (hfind : d.find l = .ok (q, entry)) : q = d.route l := by
  obtain ⟨-, links, hplace⟩ := locate_eq_ok_iff.mp (find_eq_ok_iff.mp hfind).1
  exact congrArg Place.path ((isStraight_of_aside hlinks hdown haside).walk_eq hplace)

/-- What leads past the removed path, and not to a directory on the way to it, is found as before. -/
theorem find_remove (hlinks : d.LinksOnlyBelow p)
    (hdown : ∀ name ∈ l.names, LeadsDown (Text.encode name)) (haside : ¬ p <+: d.route l) :
    (d.remove p).find l = d.find l := by
  have hnames : ∀ name ∈ l.names.map Text.encode, LeadsDown name := by simpa using hdown
  have hwalk : (d.remove p).walk .follow (d.start l) (l.names.map Text.encode) =
      d.walk .follow (d.start l) (l.names.map Text.encode) :=
    walkNames_remove hlinks hnames haside
  have hlocate : (d.remove p).locate .follow l = d.locate .follow l := by
    have hstart : (d.remove p).start l = d.start l := rfl
    rw [locate, locate, hstart, hwalk]
  have hstraight := isStraight_of_aside hlinks hdown haside
  unfold find entryAt
  rw [hlocate]
  cases hfound : d.locate .follow l with
  | error failure => rfl
  | ok q =>
      obtain ⟨-, links, hplace⟩ := locate_eq_ok_iff.mp hfound
      have hq : q = d.route l := congrArg Place.path (hstraight.walk_eq hplace)
      have hentry : (d.remove p).get? q = d.get? q :=
        get?_remove_of_not_below (hq ▸ haside)
      have hbind (f : Path → Except Failure (Path × Entry)) : (Except.ok q >>= f) = f q := rfl
      rw [hbind, hbind, hentry]

/-- A location from which neither the removed path nor anything on the way to it is reached. -/
structure Aside (d : Disk) (p : Path) (l : Location) : Prop where
  down : ∀ name ∈ l.names, LeadsDown (Text.encode name)
  notBelow : ¬ p <+: d.route l
  notAbove : ¬ d.route l <+: p

theorem route_descend (l : Location) (names : Path) :
    d.route (l.descend names) = d.route l ++ names := by
  rw [route, Location.encode_descend, ← List.append_assoc]
  rfl

theorem Aside.find_descend (haside : d.Aside p l) (hlinks : d.LinksOnlyBelow p)
    (hdown : ∀ name ∈ names, LeadsDown name) :
    (d.remove p).find (l.descend names) = d.find (l.descend names) := by
  refine find_remove hlinks ?_ ?_
  · have hboth : ∀ name ∈ (l.descend names).names.map Text.encode, LeadsDown name := by
      rw [Location.encode_descend]
      exact List.forall_mem_append.mpr ⟨by simpa using haside.down, hdown⟩
    simpa using hboth
  · rw [route_descend]
    intro h
    rcases List.prefix_or_prefix_of_prefix h (List.prefix_append (d.route l) names) with h | h
    · exact haside.notBelow h
    · exact haside.notAbove h

/-- Below a directory beside the removed path stands what stood there. -/
theorem below_remove {base : Path} (hbelow : ¬ p <+: base) (habove : ¬ base <+: p) :
    (d.remove p).below base = d.below base := by
  unfold below remove
  rw [List.filterMap_filter]
  refine List.filterMap_congr fun entry _ => ?_
  by_cases hbase : base.isPrefixOf entry.1 = true
  · have hp : p.isPrefixOf entry.1 = false := by
      rw [← Bool.not_eq_true, List.isPrefixOf_iff_prefix]
      intro h
      rcases List.prefix_or_prefix_of_prefix h (List.isPrefixOf_iff_prefix.mp hbase) with h | h
      · exact hbelow h
      · exact habove h
    simp [hp]
  · simp [hbase]

theorem probe_congr {d' : Disk} (h : d'.find l = d.find l) : d'.probe l = d.probe l := by
  rw [probe, probe, h]

theorem present_congr {d' : Disk} (h : d'.find l = d.find l) : d'.present l = d.present l := by
  rw [present, present, probe_congr h]

theorem leadsToDirectory_congr {d' : Disk} (h : d'.find l = d.find l) :
    d'.leadsToDirectory l = d.leadsToDirectory l := by
  rw [leadsToDirectory, leadsToDirectory, probe_congr h]

theorem openDirectory_congr {d' : Disk} (h : d'.find l = d.find l) :
    d'.openDirectory l = d.openDirectory l := by
  rw [openDirectory, openDirectory, h]

theorem read_congr {d' : Disk} (h : d'.find l = d.find l) : d'.read l = d.read l := by
  rw [read, read, h]

/-- From a location on two disks hold the same. -/
structure SameFrom (d d' : Disk) (l : Location) : Prop where
  find_eq : ∀ names : Path, (∀ name ∈ names, LeadsDown name) →
    d'.find (l.descend names) = d.find (l.descend names)
  below_eq : ∀ base entry, d.find l = .ok (base, entry) → d'.below base = d.below base

theorem SameFrom.find_self {d' : Disk} (h : d.SameFrom d' l) : d'.find l = d.find l := by
  have hself := h.find_eq [] (by simp)
  rwa [Location.descend, List.map_nil, List.append_nil] at hself

/-- Beside the removed path a disk without other links holds what it held. -/
theorem Aside.sameFrom (haside : d.Aside p l) (hlinks : d.LinksOnlyBelow p) :
    d.SameFrom (d.remove p) l := by
  refine ⟨fun names => haside.find_descend hlinks, fun base entry hfind => ?_⟩
  obtain rfl : base = d.route l := route_of_find hlinks haside.down haside.notBelow hfind
  exact below_remove haside.notBelow haside.notAbove

end Disk

namespace Skeleton

variable {d d' : Disk} {l : Location}

theorem mapM_congr {α β : Type} {f g : α → Report β} {items : List α}
    (h : ∀ a ∈ items, f a = g a) : items.mapM f = items.mapM g := by
  induction items with
  | nil => rfl
  | cons a rest ih =>
      obtain ⟨ha, hrest⟩ := List.forall_mem_cons.mp h
      rw [List.mapM_cons, List.mapM_cons, ha, ih hrest]

theorem templateFile?_congr (h : d.SameFrom d' l) {v : Visit}
    (hdown : ∀ name ∈ v.names, LeadsDown name) : v.templateFile? d' l = v.templateFile? d l := by
  have hfind : d'.find (v.location l) = d.find (v.location l) := h.find_eq v.names hdown
  unfold Visit.templateFile?
  dsimp only
  rw [Disk.probe_congr hfind, Disk.read_congr hfind]

/-- What is visited below a directory has names that lead down. -/
theorem Visit.down_of_mem_all (hd : d.IsFileTree) {base : Path} {v : Visit}
    (hv : v ∈ Visit.all d base) : ∀ name ∈ v.names, LeadsDown name := by
  obtain ⟨entry, hentry, hof⟩ := List.mem_flatMap.mp (List.mem_mergeSort.mp hv)
  have hnames : v.names = entry.1 := by
    unfold ofEntry at hof
    split at hof
    · rw [List.mem_singleton.mp hof]
    · rcases List.mem_pair.mp hof with rfl | rfl <;> rfl
  intro name hname
  rw [hnames] at hname
  exact hd.down _ (Disk.mem_below hentry).2 name (List.mem_append_right base hname)

theorem Visit.isDenied_congr (h : d.SameFrom d' l) {v : Visit}
    (hdown : ∀ name ∈ v.names, LeadsDown name) : v.isDenied d' l = v.isDenied d l := by
  have hfind : d'.find (v.location l) = d.find (v.location l) := h.find_eq v.names hdown
  rw [isDenied, isDenied, Disk.probe_congr hfind]

theorem Visit.permitted_congr (hd : d.IsFileTree) (h : d.SameFrom d' l) {base : Path}
    {entry : Entry} (hbase : d.find l = .ok (base, entry)) :
    permitted d' l base = permitted d l base := by
  have hall : all d' base = all d base := by rw [all, all, h.below_eq base entry hbase]
  have hbars (v : Visit) : ((all d base).any fun other => other.isDenied d' l && other.bars v) =
      (all d base).any fun other => other.isDenied d l && other.bars v := by
    rw [Bool.eq_iff_iff, List.any_eq_true, List.any_eq_true]
    refine exists_congr fun other => and_congr_right fun hother => ?_
    rw [isDenied_congr h (down_of_mem_all hd hother)]
  rw [permitted, permitted, hall]
  simp only [hbars]

theorem templateFiles_congr (hd : d.IsFileTree) (h : d.SameFrom d' l) :
    templateFiles d' l = templateFiles d l := by
  unfold templateFiles
  rw [Disk.leadsToDirectory_congr h.find_self, Disk.openDirectory_congr h.find_self]
  cases hopen : d.openDirectory l with
  | error failure => rfl
  | ok base =>
      obtain ⟨mode, hbase, -⟩ := Disk.openDirectory_eq_ok_iff.mp hopen
      have hmapM : (Visit.permitted d' l base).mapM (Visit.templateFile? d' l) =
          (Visit.permitted d l base).mapM (Visit.templateFile? d l) := by
        rw [Visit.permitted_congr hd h hbase]
        refine mapM_congr fun v hv => templateFile?_congr h ?_
        exact Visit.down_of_mem_all hd ((Visit.permitted_sublist d l base).subset hv)
      dsimp only
      rw [hmapM]

/-- What is loaded from a directory depends only on what it holds. -/
theorem load_congr (hd : d.IsFileTree) (h : d.SameFrom d' l) (kind : Text) (builtin : Bool) :
    load d' kind l builtin = load d kind l builtin := by
  have hchild {name : Text} (hspells : Path.Spells [Text.encode name] name) :
      d'.find (l.child name) = d.find (l.child name) := by
    rw [hspells.child_eq]
    exact h.find_eq _ hspells.down
  have hmanifest : readManifest d' l = readManifest d l := by
    unfold readManifest
    dsimp only
    rw [Disk.read_congr (hchild ⟨by decide, by decide, by decide, by decide⟩)]
  unfold load
  rw [hmanifest, templateFiles_congr hd h]
  split
  · rfl
  · rename_i fragmentName hkind
    have hspells : Path.Spells [Text.encode fragmentName] fragmentName := by
      unfold fragmentName? at hkind
      split at hkind
      · cases hkind
        exact ⟨by decide, by decide, by decide, by decide⟩
      split at hkind
      · cases hkind
        exact ⟨by decide, by decide, by decide, by decide⟩
      · cases hkind
    have hfragments : readFragments d' (l.child fragmentName) =
        readFragments d (l.child fragmentName) := by
      unfold readFragments
      rw [Disk.present_congr (hchild hspells), Disk.read_congr (hchild hspells)]
    rw [hfragments]

end Skeleton

end Scaffold
