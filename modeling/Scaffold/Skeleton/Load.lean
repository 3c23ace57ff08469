import Scaffold.Disk.Lookup
import Scaffold.Flags.Table
import Scaffold.Skeleton.Catalog
import Scaffold.Text.Casing

/-!
Loading skeletons. A skeleton is a directory with a file `skeleton.toml`, which names it and
declares flags, with a fragment of a manifest, and with template files at any depth. A catalog is
loaded from the directories in one directory; one that cannot be loaded is reported and left out.
-/

namespace Scaffold

namespace Skeleton

/-- The name of the file that makes a directory a skeleton. -/
def manifestName : Text := "skeleton.toml"

/-- The name of the file that holds the fragment of a manifest, for each kind of skeletons. -/
def fragmentName? (kind : Text) : Option Text :=
  if kind = "project" then some "drom.toml"
  else if kind = "package" then some "package.toml"
  else none

/-- The names, in lower case, that no template file has. -/
def reservedNames : List Text := [manifestName, "drom.toml", "package.toml"]

/-- Whether a file of that name is no template. -/
def isReserved (name : Text) : Bool :=
  name.lower ∈ reservedNames || name.getLast? = some (.char '~')

/-- The entries that the bytes of a manifest describe. -/
def parseManifest (file : Location) (bytes : Bytes) : Except Failure (Entries Data) :=
  match Toml.read bytes with
  | .ok entries => .ok entries
  | .error .malformed => .error (.skeleton none (.unreadableManifest file.toText))
  | .error .undecodable => .error (.foreign .undecodable)
  | .error (.tooManyDigits count) => .error (.misuse (.tooManyDigits count))

/-- The entries of the manifest of a skeleton. -/
def readManifest (d : Disk) (directory : Location) : Except Failure (Entries Data) :=
  let file := directory.child manifestName
  match d.read file with
  | .error (.disk _ _) => .error (.skeleton none (.unreadableManifest file.toText))
  | .error failure => .error failure
  | .ok bytes => parseManifest file bytes

/-- The name and the parent that a manifest declares. -/
def declared (manifest : Entries Data) : Except Failure (Text × Option Text) :=
  match manifest.get? "skeleton" with
  | some (.table entries) =>
      match Keyed.get? entries "name", Keyed.get? entries "inherits" with
      | some (.text name), none => .ok (name, none)
      | some (.text name), some (.text parent) => .ok (name, some parent)
      | some (.text _), some _ => .error (.skeleton none .inheritsNotText)
      | _, _ => .error (.skeleton none .missingName)
  | _ => .error (.skeleton none .missingName)

/-- The fragment of a manifest in a directory, if there is one. -/
def readFragments (d : Disk) (file : Location) : Report (List Text) := do
  if ← d.present file then
    return [Text.decode (← d.read file)]
  else
    warn (.noFragment file.toText)
    return []

/-- The permissions of an entry itself; links permit everything. -/
def ownPermissions : Entry → Int
  | .file _ mode => Int.ofNat mode
  | .directory mode => Int.ofNat mode
  | .link _ => 0o777

/-- A step on the way through a directory and the directories in it. -/
structure Visit where
  /-- The directory that is visited. -/
  directory : Path
  /-- The names of an entry of it, or of the directory itself when it is about to be visited. -/
  names : Path
  /-- The entry. -/
  entry : Entry

namespace Visit

/-- Whether a visit comes before another one: the entries of a directory come together, before
those of the directories in it. -/
def precedes (first second : Visit) : Bool :=
  let key := fun (v : Visit) => (v.directory.map Text.decode, v.names.map Text.decode)
  (key first).1 < (key second).1 ||
    (key first).1 = (key second).1 && !((key second).2 < (key first).2)

/-- The visits that an entry calls for. A link is tried as if it were a directory. -/
def ofEntry (names : Path) (entry : Entry) : List Visit :=
  match entry with
  | .file _ _ => [⟨names.dropLast, names, entry⟩]
  | _ => [⟨names.dropLast, names, entry⟩, ⟨names, names, entry⟩]

/-- All visits below a path, one after the other. -/
def all (d : Disk) (base : Path) : List Visit :=
  ((d.below base).flatMap fun entry => ofEntry entry.1 entry.2).mergeSort precedes

/-- Whether a visit starts those of a directory. -/
def descends (v : Visit) : Bool := v.names = v.directory

/-- Whether the visited entry is no template because of its name. -/
def isReserved (v : Visit) : Bool :=
  (v.names.getLast?.map fun name => Skeleton.isReserved (Text.decode name)).getD true

/-- Where the visited entry of a directory is. -/
def location (v : Visit) (directory : Location) : Location :=
  { directory with names := directory.names ++ v.names.map Text.decode }

/-- Whether the visit of a directory is denied: its entries may not be listed or, if it is a link, it
may not be told where it leads. -/
def isDenied (d : Disk) (directory : Location) (v : Visit) : Bool :=
  v.descends &&
    match d.probe (v.location directory), v.entry with
    | .error (.disk .denied _), _ => true
    | .ok _, .directory mode => !ownerReads mode
    | _, _ => false

/-- Whether another visit does not take place if the one of a directory is denied. This ends what
belongs to that directory; of a link, what belongs to the directories after it beside it. -/
def bars (denied v : Visit) : Bool :=
  match denied.entry with
  | .link _ =>
      let around := denied.names.dropLast
      around.isPrefixOf v.directory && around ≠ v.directory && precedes denied v
  | _ => denied.names.isPrefixOf v.directory

/-- The visits below a path that take place. -/
def permitted (d : Disk) (directory : Location) (base : Path) : List Visit :=
  let visits := all d base
  visits.filter fun v => !visits.any fun other => other.isDenied d directory && other.bars v

/-- The template file that is visited, if it is one. A link has the content of the file that it
leads to. -/
def templateFile? (d : Disk) (directory : Location) (v : Visit) : Report (Option SkeletonFile) := do
  let l := v.location directory
  if v.descends then
    let _ ← d.probe l
    return none
  else if v.isReserved then return none
  else
    match ← d.probe l, v.entry with
    | some (.file _ _), entry =>
        let content ← d.read l
        return some ⟨Path.relativeText v.names, Text.decode content, ownPermissions entry⟩
    | none, .link _ =>
        warn (.danglingLink l.toText)
        return none
    | _, _ => return none

end Visit

/-- The template files below a directory, in the order of their paths. Where nothing may be listed
there are none. -/
def templateFiles (d : Disk) (directory : Location) : Report (List SkeletonFile) := do
  if ← d.leadsToDirectory directory then
    match d.openDirectory directory with
    | .error _ => return []
    | .ok base =>
        let found ← (Visit.permitted d directory base).mapM (Visit.templateFile? d directory)
        return (found.filterMap id).mergeSort fun first second => Text.atMost first.path second.path
  else return []

/-- Loads the skeleton in a directory. -/
def load (d : Disk) (kind : Text) (directory : Location) (builtin : Bool) : Report Skeleton := do
  match fragmentName? kind with
  | none => throw (.misuse (.unknownKind kind))
  | some fragmentName =>
      let manifest ← readManifest d directory
      let (name, parent) ← declared manifest
      let fragments ← readFragments d (directory.child fragmentName)
      let files ← templateFiles d directory
      let flags ← FileFlags.ofManifest kind name manifest
      return {
        name := name
        inherits := parent
        fragments := fragments
        files := files
        flags := flags
        builtin := builtin }

end Skeleton

namespace Catalog

/-- How a catalog is loaded. -/
structure Source where
  /-- The kind of its skeletons. -/
  kind : Text
  /-- The directory with the directories of the skeletons. -/
  base : Location
  /-- Whether skeletons that take the place of others are reported. -/
  verbose : Bool := false
  /-- Whether the skeletons come with the installation. -/
  builtin : Bool := true

/-- The catalog with the skeleton in a directory, if it can be loaded. -/
def addDirectory (d : Disk) (source : Source) (catalog : Catalog) (name : Text) :
    Report Catalog := do
  let directory := source.base.entry name
  if ← d.present (directory.child Skeleton.manifestName) then
    try
      let s ← Skeleton.load d source.kind directory source.builtin
      if source.verbose ∧ s.name ∈ catalog.keys then
        warn (.overwritten source.kind s.name directory.toText)
      return catalog.insert s.name s
    catch failure =>
      warn (.unloadable source.kind directory.toText failure)
      return catalog
  else
    return catalog

/-- The names of the entries of a directory, in their order. -/
def directoryNames (d : Disk) (directory : Path) : List Text :=
  Text.sorted ((d.below directory).filterMap fun entry =>
    match entry.1 with
    | [name] => some (Text.decode name)
    | _ => none)

/-- Loads the skeletons in a directory. If two have the same name the one loaded last counts. -/
def load (d : Disk) (source : Source) : Report Catalog := do
  if ← d.leadsToDirectory source.base then
    let base ← d.openDirectory source.base
    (directoryNames d base).foldlM (addDirectory d source) []
  else return []

end Catalog

end Scaffold
