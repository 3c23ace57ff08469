import Scaffold.Disk
import Scaffold.Failure

/-!
Walks. `Disk.walk` follows names from a directory on, through links, and fails where the file system
would: a link counts against the number of links that one walk may follow, wherever it is met.
-/

namespace Scaffold

/-- Whether a name leads from a directory to itself. -/
def staysHere (name : Bytes) : Bool := name = [] || name = Text.encode "."

/-- Whether a name leads to the directory above. -/
def leadsUp (name : Bytes) : Bool := name = Text.encode ".."

/-- The number of links that a walk may follow. -/
def maximalLinks : Nat := 40

/-- The names in a target of a link. -/
def targetNames (target : Bytes) : Route :=
  ((Text.decode target).splitOn Location.slash).map Text.encode

/-- The directory from which the target of a link in `here` is followed. -/
def targetStart (here : Path) (target : Bytes) : Path :=
  if (Text.decode target).head? = some Location.slash then [] else here

/-- What a walk does with its last name. -/
inductive LastName where
  /-- A link is followed, and something must stand there. -/
  | follow
  /-- A link is followed, and if nothing stands there it may be created. -/
  | create
  /-- A link is not followed, and something must stand there. -/
  | keep
  deriving DecidableEq

/-- Where a walk has come to. -/
structure Place where
  /-- The path. -/
  path : Path
  /-- The number of links that may still be followed. -/
  links : Nat := maximalLinks
  deriving DecidableEq

namespace Disk

/-- What keeps a walk from following a name where it has come to. An empty name is not looked up. -/
def obstacle? (d : Disk) (here : Path) (name : Bytes) : Option DiskFault :=
  match d.get? here with
  | some (.directory mode) => if name = [] ∨ ownerSearches mode then none else some .denied
  | _ => some .notDirectory

/-- Walks along names while `links` links may still be followed. From the first link on the walk goes
by `follow`, which takes the names of its target and those after it. -/
def walkNames (d : Disk) (last : LastName) (links : Nat)
    (follow : Path → Route → Except DiskFault Place) : Path → Route → Except DiskFault Place
  | here, [] => .ok ⟨here, links⟩
  | here, name :: rest =>
      match d.obstacle? here name with
      | some fault => .error fault
      | none =>
          if staysHere name then d.walkNames last links follow here rest
          else if leadsUp name then d.walkNames last links follow here.dropLast rest
          else if maximalNameLength < name.length then .error .nameTooLong
          else
            match d.get? (here ++ [name]) with
            | none =>
                if rest.isEmpty ∧ last = .create then .ok ⟨here ++ [name], links⟩
                else .error .missing
            | some (.link target) =>
                if rest.isEmpty ∧ last = .keep then .ok ⟨here ++ [name], links⟩
                else follow (targetStart here target) (targetNames target ++ rest)
            | some _ => d.walkNames last links follow (here ++ [name]) rest

/-- Walks along names. At most `links` links may be on the way. -/
def walkFrom (d : Disk) (last : LastName) : (links : Nat) → Path → Route → Except DiskFault Place
  | 0 => d.walkNames last 0 fun _ _ => .error .linkLoop
  | links + 1 => d.walkNames last (links + 1) (d.walkFrom last links)

/-- Walks along names from a place on. -/
def walk (d : Disk) (last : LastName) (start : Place) (names : Route) : Except DiskFault Place :=
  d.walkFrom last start.links start.path names

end Disk

end Scaffold
