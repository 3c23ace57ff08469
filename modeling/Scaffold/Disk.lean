import Scaffold.Keyed
import Scaffold.Location
import Scaffold.Text.Utf8

/-!
File trees. A disk maps paths to files, directories and symbolic links. A path lists the names on
the way from the root; a route lists names too, but some may be links, or `..`, and have to be
followed first.
-/

namespace Scaffold

/-- The names on the way from the root to an entry. -/
abbrev Path := List Bytes

instance : LawfulBEq Path := inferInstance

/-- Names to be followed one after the other. -/
abbrev Route := List Bytes

/-- What stands at a path. -/
inductive Entry where
  /-- A file. -/
  | file (content : Bytes) (mode : Nat)
  /-- A directory. -/
  | directory (mode : Nat)
  /-- A symbolic link. -/
  | link (target : Bytes)
  deriving DecidableEq

/-- A file tree and the current directory in it. -/
structure Disk where
  /-- The entries by their paths. -/
  entries : Keyed Path Entry
  /-- The current directory. -/
  current : Path := []
  deriving DecidableEq

/-- The mode of a new directory. -/
def newDirectoryMode : Nat := 0o755

/-- The mode of a new file. -/
def newFileMode : Nat := 0o644

/-- Whether a mode permits its owner to read. -/
def ownerReads (mode : Nat) : Bool := mode.testBit 8

/-- Whether a mode permits its owner to write. -/
def ownerWrites (mode : Nat) : Bool := mode.testBit 7

/-- Whether the mode of a directory permits its owner to look names up in it. -/
def ownerSearches (mode : Nat) : Bool := mode.testBit 6

/-- The length in bytes that a name may have at most. -/
def maximalNameLength : Nat := 255

/-- The length in bytes that a whole path may have at most. -/
def maximalPathLength : Nat := 4095

namespace Disk

/-- A disk that has a root and nothing else. -/
def empty : Disk := { entries := [([], .directory newDirectoryMode)] }

/-- What stands at a path. -/
def get? (d : Disk) (p : Path) : Option Entry := d.entries.get? p

/-- The disk with another entry at a path. -/
def put (d : Disk) (p : Path) (e : Entry) : Disk := { d with entries := d.entries.insert p e }

/-- The disk without what stands at a path or below it. -/
def remove (d : Disk) (p : Path) : Disk :=
  { d with entries := d.entries.filter fun entry => !p.isPrefixOf entry.1 }

/-- Whether a directory stands at a path. -/
def isDirectory (d : Disk) (p : Path) : Bool :=
  match d.get? p with
  | some (.directory _) => true
  | _ => false

/-- Whether a directory stands at a path in which entries may be made. -/
def takesEntries (d : Disk) (p : Path) : Bool :=
  match d.get? p with
  | some (.directory mode) => ownerWrites mode
  | _ => false

/-- Whether a directory stands at a path in which no names may be looked up. -/
def isShut (d : Disk) (p : Path) : Bool :=
  match d.get? p with
  | some (.directory mode) => !ownerSearches mode
  | _ => false

/-- Whether a path leads through a directory in which no names may be looked up. -/
def isHidden (d : Disk) (p : Path) : Bool :=
  (List.range p.length).any fun count => d.isShut (p.take count)

/-- The entries strictly below a path, by the names from there on. -/
def below (d : Disk) (p : Path) : Keyed Path Entry :=
  d.entries.filterMap fun entry =>
    if p.isPrefixOf entry.1 ∧ p ≠ entry.1 then some (entry.1.drop p.length, entry.2) else none

theorem get?_put (d : Disk) (p q : Path) (e : Entry) :
    (d.put p e).get? q = if q = p then some e else d.get? q :=
  Keyed.get?_insert d.entries p q e

end Disk

/-- The text of the names of a path, with slashes between them. -/
def Path.relativeText (p : Path) : Text := Text.join [Location.slash] (p.map Text.decode)

/-- The text of a path from the root. -/
def Path.toText (p : Path) : Text := Location.slash :: Path.relativeText p

/-- The location of a path. -/
def Path.location (p : Path) : Location where
  anchor := [Location.slash]
  names := p.map Text.decode

end Scaffold
