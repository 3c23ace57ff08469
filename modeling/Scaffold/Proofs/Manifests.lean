import Scaffold.Proofs.DeclaredFlags
import Scaffold.Proofs.Documents
import Scaffold.Proofs.Loading
import Scaffold.Proofs.Reports
import Scaffold.Proofs.Walks

/-!
What the manifest of a skeleton has to be. If it cannot be read, is no document, or does not say
which skeleton it is about, loading fails for just this reason, and if a table of flags is faulty, for
one of its faults; otherwise the skeleton is loaded as soon as the files beside the manifest can be
read. Only manifests that are no text, or that hold an integer with too many digits, lead to failures
of other kinds.
-/

namespace Scaffold

open Step (Refuses bind_of_ok bind_of_error lift_eq_ok_iff lift_eq_error_iff outcome)

theorem Step.exists_mapM {ε σ α β : Type} {f : α → EStateM ε σ β} {items : List α}
    (h : ∀ a ∈ items, ∀ s, ∃ b t, f a s = .ok b t) (s : σ) :
    ∃ bs t, items.mapM f s = .ok bs t := by
  induction items generalizing s with
  | nil => exact ⟨[], s, rfl⟩
  | cons a rest ih =>
      obtain ⟨ha, hrest⟩ := List.forall_mem_cons.mp h
      obtain ⟨b, t, hb⟩ := ha s
      obtain ⟨bs, u, hbs⟩ := ih hrest t
      rw [List.mapM_cons, bind_of_ok hb, bind_of_ok hbs]
      exact ⟨_, _, rfl⟩

theorem Location.toText_of_ne_nil {l : Location} (h : l.anchor ++ Text.join [slash] l.names ≠ []) :
    l.toText = l.anchor ++ Text.join [slash] l.names := by
  unfold toText
  split
  · rename_i hnil
    exact absurd hnil h
  · rename_i hcons
    exact hcons.symm

namespace Disk

variable {d : Disk} {l : Location}

/-- Reading fails because the file system refuses it, unless the path cannot be one. -/
theorem refuses_read_disk (hnull : .char '\x00' ∉ l.toText) :
    Refuses (fun failure => ∃ fault, failure = .disk fault l.toText) (d.read l) := by
  refine Refuses.bind ((refuses_find_blocks d l).imp ?_) fun found => ?_
  · rintro failure (⟨-, hmem⟩ | ⟨fault, -, rfl⟩)
    · exact absurd hmem hnull
    · exact ⟨fault, rfl⟩
  · split
    · exact Step.refuses_ite (Step.refuses_ok _) (Step.refuses_error ⟨_, rfl⟩)
    · exact Step.refuses_error ⟨_, rfl⟩

theorem checkSpelling_of_prefix {l' : Location} (hbegins : l.toText <+: l'.toText)
    (h : checkSpelling l' = .ok ()) : checkSpelling l = .ok () := by
  unfold checkSpelling at h
  split at h
  · cases h
  rename_i hnull
  split at h
  · cases h
  rename_i hlength
  have hnull' : ¬ l.toText.elem (.char '\x00') = true := by
    intro hmem
    exact hnull (List.elem_iff.mpr (hbegins.subset (List.elem_iff.mp hmem)))
  have hlength' : ¬ maximalPathLength < l.toText.encode.length := by
    obtain ⟨rest, hrest⟩ := hbegins
    rw [← hrest, Text.encode_append, List.length_append] at hlength
    omega
  rw [checkSpelling, if_neg hnull', if_neg hlength']

/-- A directory is spelled like an entry of it up to the name, or as a single dot. -/
theorem checkSpelling_of_entry {name : Text} (h : checkSpelling (l.entry name) = .ok ()) :
    checkSpelling l = .ok () := by
  have hnames : Text.join [Location.slash] l.names <+:
      Text.join [Location.slash] (l.names ++ [name]) := by
    by_cases hne : l.names = []
    · simp [hne]
    · rw [Text.join_append _ hne (by simp), List.append_assoc]
      exact List.prefix_append _ _
  have hwhole : l.anchor ++ Text.join [Location.slash] l.names <+:
      l.anchor ++ Text.join [Location.slash] (l.names ++ [name]) :=
    (List.prefix_append_right_inj _).mpr hnames
  by_cases hdot : l.anchor ++ Text.join [Location.slash] l.names = []
  · have htext : l.toText = "." := by rw [Location.toText, hdot]
    rw [checkSpelling, htext]
    rfl
  · have hentry : (l.entry name).anchor ++ Text.join [Location.slash] (l.entry name).names ≠ [] := by
      intro hnil
      obtain ⟨rest, hrest⟩ := hwhole
      exact hdot (List.append_eq_nil_iff.mp (hrest.trans hnil)).1
    refine checkSpelling_of_prefix ?_ h
    rw [Location.toText_of_ne_nil hdot, Location.toText_of_ne_nil hentry]
    exact hwhole

theorem find_directory_of_entry {name : Text} {found : Path × Entry}
    (h : d.find (l.entry name) = .ok found) : ∃ p mode, d.find l = .ok (p, .directory mode) := by
  obtain ⟨hspelling, links, hwalk⟩ := locate_eq_ok_iff.mp (find_eq_ok_iff.mp h).1
  rw [Location.entry, List.map_append, List.map_singleton, walk_append (by simp)] at hwalk
  obtain ⟨place, hplace, hlast⟩ := Step.except_bind_eq_ok_iff.mp hwalk
  have hdirectory := isDirectory_of_walk hlast
  unfold isDirectory at hdirectory
  split at hdirectory
  · rename_i mode hget
    exact ⟨place.path, mode, find_eq_ok_iff.mpr ⟨locate_eq_ok_iff.mpr
      ⟨checkSpelling_of_entry hspelling, place.links, hplace⟩, hget⟩⟩
  · cases hdirectory

end Disk

namespace Skeleton

/-- Whether the fragment of a manifest can be read, or there is none. -/
def fragmentReadable (d : Disk) (file : Location) : Bool :=
  match d.probe file with
  | .ok (some (.file _ mode)) => ownerReads mode
  | .ok none => true
  | _ => false

/-- Whether what is visited can be told, and read if it is a template file. -/
def Visit.readable (d : Disk) (directory : Location) (v : Visit) : Bool :=
  match d.probe (v.location directory) with
  | .ok (some (.file _ mode)) => v.descends || ownerReads mode
  | .ok _ => true
  | .error _ => false

/-- The files beside the manifest of a skeleton can be read, as far as they are needed. -/
structure Readable (d : Disk) (directory : Location) (fragmentName : Text) : Prop where
  fragment : fragmentReadable d (directory.child fragmentName) = true
  templates : ∀ base, d.openDirectory directory = .ok base →
    ∀ v ∈ Visit.permitted d directory base, v.descends = true ∨ v.isReserved = false →
      v.readable d directory = true

/-- The entries of the table of a manifest that is about the skeleton itself. -/
def section? (manifest : Entries Data) : Option (Entries Data) :=
  match manifest.get? "skeleton" with
  | some (.table entries) => some entries
  | _ => none

/-- The name that a manifest gives to its skeleton. -/
def name? (manifest : Entries Data) : Option Text :=
  ((section? manifest).bind (Keyed.get? · "name")).bind Data.text?

/-- What a manifest says about the parent of its skeleton. -/
def inherits? (manifest : Entries Data) : Option Data :=
  (section? manifest).bind (Keyed.get? · "inherits")

/-- What makes the manifest in a file unusable. -/
inductive Unusable (d : Disk) (file : Location) : SkeletonFault → Prop where
  | unread {fault : DiskFault} {path : Text} (hread : d.read file = .error (.disk fault path)) :
      Unusable d file (.unreadableManifest file.toText)
  | malformed {bytes : Bytes} (hread : d.read file = .ok bytes)
      (hparse : Toml.read bytes = .error .malformed) :
      Unusable d file (.unreadableManifest file.toText)
  | unnamed {bytes : Bytes} {manifest : Entries Data} (hread : d.read file = .ok bytes)
      (hparse : Toml.read bytes = .ok manifest) (hname : name? manifest = none) :
      Unusable d file .missingName
  | adopted {bytes : Bytes} {manifest : Entries Data} {name : Text} {parent : Data}
      (hread : d.read file = .ok bytes) (hparse : Toml.read bytes = .ok manifest)
      (hname : name? manifest = some name) (hparent : inherits? manifest = some parent)
      (hkind : parent.kind ≠ .text) : Unusable d file .inheritsNotText

/-- A file holds a manifest that says which skeleton it is about. -/
structure Describes (d : Disk) (file : Location) (manifest : Entries Data) (name : Text)
    (parent : Option Text) : Prop where
  read : ∃ bytes, d.read file = .ok bytes ∧ Toml.read bytes = .ok manifest
  name : name? manifest = some name
  parent : inherits? manifest = parent.map .text

/-- Bytes that are no text, or no document because of an integer with too many digits. They are not
told apart from other failures. -/
inductive Escapes (bytes : Bytes) : Failure → Prop where
  | undecodable (hdecode : Text.decodeStrict? bytes = none) : Escapes bytes (.foreign .undecodable)
  | tooManyDigits {count : Nat} (hparse : Toml.read bytes = .error (.tooManyDigits count)) :
      Escapes bytes (.misuse (.tooManyDigits count))

variable {d : Disk} {directory : Location} {manifest : Entries Data}

theorem get?_of_section? {entries : Entries Data} (h : section? manifest = some entries) :
    manifest.get? "skeleton" = some (.table entries) := by
  unfold section? at h
  split at h
  · rename_i found hget
    cases h
    exact hget
  · cases h

/-- What a manifest declares about the skeleton itself, told by what it says under two keys. -/
theorem declared_eq (manifest : Entries Data) :
    declared manifest =
      match name? manifest, inherits? manifest with
      | some name, none => .ok (name, none)
      | some name, some (.text parent) => .ok (name, some parent)
      | some _, some _ => .error (.skeleton none .inheritsNotText)
      | none, _ => .error (.skeleton none .missingName) := by
  cases hsection : section? manifest with
  | none =>
      have hname : name? manifest = none := by rw [name?, hsection]; rfl
      rw [hname, declared]
      split
      · rename_i entries hget
        rw [section?, hget] at hsection
        cases hsection
      · rfl
  | some entries =>
      have hget := get?_of_section? hsection
      have hname : name? manifest = (Keyed.get? entries "name").bind Data.text? := by
        rw [name?, hsection]
        rfl
      have hinherits : inherits? manifest = Keyed.get? entries "inherits" := by
        rw [inherits?, hsection]
        rfl
      rw [declared, hget, hname, hinherits]
      dsimp only
      cases Keyed.get? entries "name" with
      | none => rfl
      | some d =>
          cases d with
          | text name =>
              cases Keyed.get? entries "inherits" with
              | none => rfl
              | some d => cases d <;> rfl
          | _ => rfl

theorem exists_readFragments {file : Location} (h : fragmentReadable d file = true)
    (warnings : List Warning) :
    ∃ fragments after, readFragments d file warnings = .ok fragments after := by
  have hpresent : ∀ found, d.probe file = .ok found → d.present file = .ok found.isSome := by
    intro found hprobe
    rw [Disk.present, hprobe]
    rfl
  unfold fragmentReadable at h
  split at h
  · rename_i content mode hprobe
    obtain ⟨p, hfind⟩ := Disk.exists_find_of_probe hprobe
    have hread := Disk.read_of_find hfind h
    rw [readFragments, bind_of_ok (lift_eq_ok_iff.mpr ⟨hpresent _ hprobe, rfl⟩),
      if_pos Option.isSome_some, bind_of_ok (lift_eq_ok_iff.mpr ⟨hread, rfl⟩)]
    exact ⟨_, _, rfl⟩
  · rename_i hprobe
    rw [readFragments, bind_of_ok (lift_eq_ok_iff.mpr ⟨hpresent _ hprobe, rfl⟩),
      if_neg (by simp)]
    exact ⟨_, _, rfl⟩
  · cases h

theorem Visit.exists_templateFile? {v : Visit}
    (h : v.descends = true ∨ v.isReserved = false → v.readable d directory = true)
    (warnings : List Warning) :
    ∃ found after, v.templateFile? d directory warnings = .ok found after := by
  unfold templateFile?
  by_cases hdescends : v.descends = true
  · have hread := h (.inl hdescends)
    unfold readable at hread
    rw [if_pos hdescends]
    cases hprobe : d.probe (v.location directory) with
    | error failure => simp [hprobe] at hread
    | ok found =>
        rw [bind_of_ok (lift_eq_ok_iff.mpr ⟨rfl, rfl⟩)]
        exact ⟨_, _, rfl⟩
  · rw [if_neg hdescends]
    by_cases hreserved : v.isReserved = true
    · rw [if_pos hreserved]
      exact ⟨_, _, rfl⟩
    · have hread := h (.inr (by simpa using hreserved))
      unfold readable at hread
      rw [if_neg hreserved]
      cases hprobe : d.probe (v.location directory) with
      | error failure => simp [hprobe] at hread
      | ok found =>
          rw [bind_of_ok (lift_eq_ok_iff.mpr ⟨rfl, rfl⟩)]
          rw [hprobe] at hread
          cases found with
          | none => cases v.entry <;> exact ⟨_, _, rfl⟩
          | some entry =>
              cases entry with
              | file content mode =>
                  obtain ⟨p, hfind⟩ := Disk.exists_find_of_probe hprobe
                  have hmode : ownerReads mode = true := by simpa [hdescends] using hread
                  dsimp only
                  rw [bind_of_ok (lift_eq_ok_iff.mpr ⟨Disk.read_of_find hfind hmode, rfl⟩)]
                  exact ⟨_, _, rfl⟩
              | _ => exact ⟨_, _, rfl⟩

theorem exists_templateFiles {fragmentName : Text} (h : Readable d directory fragmentName)
    {base : Path} {mode : Nat} (hbase : d.find directory = .ok (base, .directory mode))
    (warnings : List Warning) :
    ∃ files after, templateFiles d directory warnings = .ok files after := by
  cases hopen : d.openDirectory directory with
  | error failure =>
      have hleads := Disk.leadsToDirectory_iff.mpr ⟨base, mode, hbase⟩
      exact ⟨[], warnings, templateFiles_of_closed hleads hopen warnings⟩
  | ok base =>
      obtain ⟨found, after, hfound⟩ := Step.exists_mapM
        (fun v hv => Visit.exists_templateFile? (h.templates base hopen v hv)) warnings
      rw [templateFiles_of_openDirectory hopen, bind_of_ok hfound]
      exact ⟨_, _, rfl⟩

variable {kind fragmentName name : Text} {parent : Option Text} {builtin : Bool}
  {failure : Failure}

section

variable (hkind : fragmentName? kind = some fragmentName)

include hkind

theorem attempt_of_unread (h : readManifest d directory = .error failure) :
    attempt d kind directory builtin = .error failure := by
  rw [attempt, load, hkind]
  dsimp only
  rw [bind_of_error (lift_eq_error_iff.mpr ⟨h, rfl⟩)]
  rfl

theorem attempt_of_undeclared (h : readManifest d directory = .ok manifest)
    (hdeclared : declared manifest = .error failure) :
    attempt d kind directory builtin = .error failure := by
  rw [attempt, load, hkind]
  dsimp only
  rw [bind_of_ok (lift_eq_ok_iff.mpr ⟨h, rfl⟩),
    bind_of_error (lift_eq_error_iff.mpr ⟨hdeclared, rfl⟩)]
  rfl

/-- With a manifest that declares a skeleton, all that is left to go wrong is in its tables of flags
if the files beside it can be read. -/
theorem attempt_of_declared (h : readManifest d directory = .ok manifest)
    (hdeclared : declared manifest = .ok (name, parent))
    (hreadable : Readable d directory fragmentName) {base : Path} {mode : Nat}
    (hbase : d.find directory = .ok (base, .directory mode)) (builtin : Bool) :
    ((∀ fault, ¬ FileFlags.FaultyManifest manifest fault) ∧
      ∃ s, attempt d kind directory builtin = .ok s ∧ s.name = name ∧ s.inherits = parent) ∨
      ∃ fault, FileFlags.FaultyManifest manifest fault ∧
        attempt d kind directory builtin = .error (.skeleton none fault) := by
  obtain ⟨fragments, first, hfragments⟩ := exists_readFragments hreadable.fragment []
  obtain ⟨files, second, hfiles⟩ := exists_templateFiles hreadable hbase first
  rw [attempt, load, hkind]
  dsimp only
  rw [bind_of_ok (lift_eq_ok_iff.mpr ⟨h, rfl⟩), bind_of_ok (lift_eq_ok_iff.mpr ⟨hdeclared, rfl⟩)]
  dsimp only
  rw [bind_of_ok hfragments, bind_of_ok hfiles]
  rcases FileFlags.ofManifest_cases kind name manifest second with
    ⟨hclean, hread⟩ | ⟨fault, after, hfault, hread⟩
  · rw [bind_of_ok hread]
    exact .inl ⟨hclean, _, rfl, rfl, rfl⟩
  · rw [bind_of_error hread]
    exact .inr ⟨fault, hfault, rfl⟩

end

theorem child_manifestName (directory : Location) :
    directory.child manifestName = directory.entry manifestName := by
  have hspelled : Location.ofText manifestName = ⟨[], [manifestName]⟩ := rfl
  rw [Location.child, hspelled]
  rfl

theorem readManifest_of_read {bytes : Bytes}
    (h : d.read (directory.child manifestName) = .ok bytes) :
    readManifest d directory = parseManifest (directory.child manifestName) bytes := by
  rw [readManifest, h]

theorem readManifest_of_parse {bytes : Bytes}
    (h : d.read (directory.child manifestName) = .ok bytes)
    (hparse : Toml.read bytes = .ok manifest) : readManifest d directory = .ok manifest := by
  rw [readManifest_of_read h, parseManifest, hparse]

theorem parseManifest_of_escapes {file : Location} {bytes : Bytes} (h : Escapes bytes failure) :
    parseManifest file bytes = .error failure := by
  cases h with
  | undecodable hdecode => rw [parseManifest, Toml.read_eq_undecodable_iff.mpr hdecode]
  | tooManyDigits hparse => rw [parseManifest, hparse]

/-- A manifest is unusable, or it describes a skeleton, or it is none that can be told. -/
theorem exhausted (d : Disk) {file : Location} (hnull : .char '\x00' ∉ file.toText) :
    (∃ fault, Unusable d file fault) ∨
      (∃ manifest name parent, Describes d file manifest name parent) ∨
      ∃ bytes failure, d.read file = .ok bytes ∧ Escapes bytes failure := by
  cases hread : d.read file with
  | error failure =>
      obtain ⟨fault, rfl⟩ := Disk.refuses_read_disk hnull hread
      exact .inl ⟨_, .unread hread⟩
  | ok bytes =>
      cases hparse : Toml.read bytes with
      | error e =>
          cases e with
          | malformed => exact .inl ⟨_, .malformed hread hparse⟩
          | undecodable =>
              exact .inr (.inr ⟨_, _, rfl, .undecodable (Toml.read_eq_undecodable_iff.mp hparse)⟩)
          | tooManyDigits count => exact .inr (.inr ⟨_, _, rfl, .tooManyDigits hparse⟩)
      | ok manifest =>
          cases hname : name? manifest with
          | none => exact .inl ⟨_, .unnamed hread hparse hname⟩
          | some name =>
              cases hparent : inherits? manifest with
              | none => exact .inr (.inl ⟨manifest, name, none, ⟨_, hread, hparse⟩, hname, hparent⟩)
              | some parent =>
                  cases parent with
                  | text t =>
                      exact .inr (.inl
                        ⟨manifest, name, some t, ⟨_, hread, hparse⟩, hname, hparent⟩)
                  | _ =>
                      exact .inl ⟨_, .adopted hread hparse hname hparent (by simp [Data.kind])⟩

/-- Whether a skeleton can be loaded is decided by its manifest, if the files beside it can be read.
What is wrong with the manifest or with its tables of flags is what loading fails for, and if nothing
is then the skeleton is loaded. But bytes that are no text, and integers with too many digits, are not
reported as what they are: a manifest that cannot be parsed. -/
theorem manifest_decides (d : Disk) {kind fragmentName : Text} {directory : Location}
    (hkind : fragmentName? kind = some fragmentName)
    (hnull : .char '\x00' ∉ (directory.child manifestName).toText) (builtin : Bool) :
    (∀ fault, Unusable d (directory.child manifestName) fault →
      attempt d kind directory builtin = .error (.skeleton none fault)) ∧
    (∀ manifest name parent, Describes d (directory.child manifestName) manifest name parent →
      Readable d directory fragmentName →
      ((∃ fault, FileFlags.FaultyManifest manifest fault) →
        ∃ fault, FileFlags.FaultyManifest manifest fault ∧
          attempt d kind directory builtin = .error (.skeleton none fault)) ∧
      ((∀ fault, ¬ FileFlags.FaultyManifest manifest fault) →
        ∃ s, attempt d kind directory builtin = .ok s ∧ s.name = name ∧ s.inherits = parent)) ∧
    (∀ bytes failure, d.read (directory.child manifestName) = .ok bytes → Escapes bytes failure →
      attempt d kind directory builtin = .error failure) ∧
    ((∃ fault, Unusable d (directory.child manifestName) fault) ∨
      (∃ manifest name parent, Describes d (directory.child manifestName) manifest name parent) ∨
      ∃ bytes failure, d.read (directory.child manifestName) = .ok bytes ∧
        Escapes bytes failure) := by
  refine ⟨fun fault hunusable => ?_, fun manifest name parent hdescribes hreadable => ?_,
    fun bytes failure hread hescapes => ?_, exhausted d hnull⟩
  · cases hunusable with
    | unread hread => exact attempt_of_unread hkind (by rw [readManifest, hread])
    | malformed hread hparse =>
        exact attempt_of_unread hkind (by rw [readManifest_of_read hread, parseManifest, hparse])
    | unnamed hread hparse hname =>
        exact attempt_of_undeclared hkind (readManifest_of_parse hread hparse)
          (by rw [declared_eq, hname])
    | @adopted _ _ _ parent hread hparse hname hparent hdiffers =>
        refine attempt_of_undeclared hkind (readManifest_of_parse hread hparse) ?_
        rw [declared_eq, hname, hparent]
        cases parent with
        | text t => exact absurd rfl hdiffers
        | _ => rfl
  · obtain ⟨bytes, hread, hparse⟩ := hdescribes.read
    have hdeclared : declared manifest = .ok (name, parent) := by
      rw [declared_eq, hdescribes.name, hdescribes.parent]
      cases parent <;> rfl
    obtain ⟨p, mode, hfind⟩ := Disk.exists_find_of_read hread
    rw [child_manifestName] at hfind
    obtain ⟨base, mode, hbase⟩ := Disk.find_directory_of_entry hfind
    rcases attempt_of_declared hkind (readManifest_of_parse hread hparse) hdeclared hreadable hbase
      builtin with ⟨hclean, hloaded⟩ | ⟨fault, hfault, hfails⟩
    · exact ⟨fun ⟨fault, hfault⟩ => absurd hfault (hclean fault), fun _ => hloaded⟩
    · exact ⟨fun _ => ⟨fault, hfault, hfails⟩, fun hclean => absurd hfault (hclean fault)⟩
  · exact attempt_of_unread hkind
      ((readManifest_of_read hread).trans (parseManifest_of_escapes hescapes))

/-- A manifest in which the name of the skeleton is written in Latin-1. -/
def strayManifest : Bytes := Text.encode "[skeleton]\nname = \"" ++ [255] ++ Text.encode "\"\n"

/-- A directory with that manifest. -/
def strayDisk : Disk where
  entries := [
    ([], .directory 493),
    (Path.ofTexts ["skel"], .directory 493),
    (Path.ofTexts ["skel", "drom.toml"], .file (Text.encode "[project]\n") 420),
    (Path.ofTexts ["skel", "skeleton.toml"], .file strayManifest 420)]

theorem read_strayDisk :
    strayDisk.read ((Location.ofText "/skel").child manifestName) = .ok strayManifest := rfl

theorem decodeStrict?_strayManifest : Text.decodeStrict? strayManifest = none := rfl

theorem readable_nestedDisk :
    Readable Catalog.nestedDisk (.ofText "/base/one") "drom.toml" where
  fragment := by decide +kernel
  templates := by
    intro base hbase v hv _
    have hopen : Catalog.nestedDisk.openDirectory (.ofText "/base/one") =
        .ok (Path.ofTexts ["base", "one"]) := rfl
    cases hopen.symm.trans hbase
    have hall : ∀ v ∈ (Catalog.nestedDisk.below (Path.ofTexts ["base", "one"])).flatMap
        (fun entry => Visit.ofEntry entry.1 entry.2),
        v.readable Catalog.nestedDisk (.ofText "/base/one") = true := by decide +kernel
    exact hall v (List.mem_mergeSort.mp ((Visit.permitted_sublist _ _ _).subset hv))

theorem manifest_decides_nested :
    attempt Disk.empty "package" (.ofText "/") true =
        .error (.skeleton none (.unreadableManifest "/skeleton.toml")) ∧
      (∃ s, attempt Catalog.nestedDisk "project" (.ofText "/base/one") true = .ok s ∧
        s.name = "program" ∧ s.inherits = none) ∧
      attempt strayDisk "project" (.ofText "/skel") true = .error (.foreign .undecodable) := by
  have hproject : fragmentName? "project" = some "drom.toml" := by decide
  refine ⟨?_, ?_, ?_⟩
  · have hnull : .char '\x00' ∉ ((Location.ofText "/").child manifestName).toText := by decide
    have hread : Disk.empty.read ((Location.ofText "/").child manifestName) =
        .error (.disk .missing "/skeleton.toml") := rfl
    exact (manifest_decides Disk.empty rfl hnull true).1 _ (.unread hread)
  · have hnull : .char '\x00' ∉ ((Location.ofText "/base/one").child manifestName).toText := by
      decide
    have hread : Catalog.nestedDisk.read ((Location.ofText "/base/one").child manifestName) =
        .ok (Text.encode "[skeleton]\nname = 'program'\n") := rfl
    have hkeys : (Toml.read (Text.encode "[skeleton]\nname = 'program'\n")).map (fun manifest =>
        (name? manifest, (inherits? manifest).isNone, (manifest.get? "file").isNone)) =
          .ok (some "program", true, true) := by decide +kernel
    obtain ⟨manifest, hparse, hkeys⟩ := Step.map_eq_ok_iff.mp hkeys
    obtain ⟨hname, hkeys⟩ := Prod.mk.inj hkeys
    obtain ⟨hparent, hfile⟩ := Prod.mk.inj hkeys
    obtain ⟨-, hloads, -⟩ := manifest_decides Catalog.nestedDisk hproject hnull true
    refine (hloads manifest "program" none ⟨⟨_, hread, hparse⟩, hname,
      Option.isNone_iff_eq_none.mp hparent⟩ readable_nestedDisk).2 ?_
    exact FileFlags.forall_not_faultyManifest_iff.mpr (.inl (Option.isNone_iff_eq_none.mp hfile))
  · have hnull : .char '\x00' ∉ ((Location.ofText "/skel").child manifestName).toText := by decide
    obtain ⟨-, -, hescapes, -⟩ := manifest_decides strayDisk hproject hnull true
    exact hescapes _ _ read_strayDisk (.undecodable decodeStrict?_strayManifest)

/-- The manifest cannot be parsed, and this is not what is reported. -/
theorem attempt_strayDisk :
    (∃ bytes, strayDisk.read ((Location.ofText "/skel").child manifestName) = .ok bytes ∧
        Text.decodeStrict? bytes = none) ∧
      attempt strayDisk "project" (.ofText "/skel") true = .error (.foreign .undecodable) ∧
      ∀ file fault, attempt strayDisk "project" (.ofText "/skel") true ≠
        .error (.skeleton file fault) := by
  have hattempt : attempt strayDisk "project" (.ofText "/skel") true =
      .error (.foreign .undecodable) := rfl
  refine ⟨⟨_, read_strayDisk, decodeStrict?_strayManifest⟩, hattempt, fun file fault => ?_⟩
  rw [hattempt]
  simp

end Skeleton

end Scaffold
