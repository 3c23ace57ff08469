import Scaffold.Disk.Lookup

/-!
Changing file trees: making directories and links, writing files, setting permissions and removing.
A change that fails on the way keeps what it has done so far.
-/

namespace Scaffold

/-- A change of a disk. -/
abbrev OnDisk := EStateM Failure Disk

/-- The permission of the owner to write. -/
def ownerWrite : Nat := 0o200

/-- The number of permission bits and of the three bits for special modes, as a power of two. -/
def modeRange : Nat := 0o10000

/-- A mode without the bits with which a program runs as the owner or the group of its file. Without
the permission of the group to execute the bit of the group has another meaning and is kept. -/
def withoutSpecialBits (mode : Nat) : Nat :=
  let mode := if mode.testBit 11 then mode - 0o4000 else mode
  if mode.testBit 10 ∧ mode.testBit 3 then mode - 0o2000 else mode

namespace Disk

/-- Makes the directories along names from a place on. What stands where the last of them would be
made is in its way even if it is a link that leads nowhere. -/
def makeNames (l : Location) : Place → Route → OnDisk Unit
  | _, [] => pure ()
  | place, name :: rest => do
      let d ← get
      let p := place.path ++ [name]
      match d.walk .follow place [name] with
      | .ok next =>
          if d.isDirectory next.path then makeNames l next rest
          else throw (.disk (if rest.isEmpty then .occupied else .notDirectory) l.toText)
      | .error .missing =>
          if (d.get? p).isSome then throw (.disk .occupied l.toText)
          else if d.takesEntries place.path then
            set (d.put p (.directory newDirectoryMode))
            makeNames l { place with path := p } rest
          else throw (.disk .denied l.toText)
      | .error fault =>
          let lastLink := rest.isEmpty && (d.get? p).isSome && fault ∈ [.notDirectory, .linkLoop]
          throw (.disk (if lastLink then .occupied else fault) l.toText)

/-- Makes a directory and all directories on the way to it, as far as they do not exist. -/
def makeDirectories (l : Location) : OnDisk Unit := do
  checkSpelling l
  makeNames l ((← get).start l) (l.names.map Text.encode)

/-- An entry with another mode; links have none. -/
def withMode (mode : Nat → Nat) : Entry → Entry
  | .file content old => .file content (mode old)
  | .directory old => .directory (mode old)
  | .link target => .link target

/-- Changes the mode of the entry to which a location leads. -/
def changeMode (l : Location) (mode : Nat → Nat) : OnDisk Unit := do
  let d ← get
  let (p, entry) ← d.find l
  set (d.put p (withMode mode entry))

/-- The mode that permission bits stand for, if they are in the range of numbers that the file
system takes. -/
def modeOf (bits : Int) : Except Failure Nat :=
  if -0x80000000 ≤ bits ∧ bits < 0x80000000 then .ok (bits % modeRange).toNat
  else .error (.foreign .modeOutOfRange)

/-- Makes a link where nothing stands yet. -/
def makeLink (l : Location) (target : Text) : OnDisk Unit := do
  let d ← get
  if target.elem (.char '\x00') then throw (.misuse .nullInPath)
  checkSpelling l
  if target = [] then throw (.disk .missing l.toText)
  else if maximalPathLength < target.encode.length then throw (.disk .nameTooLong l.toText)
  else
    match d.locate .keep l, l.names.getLast? with
    | .error (.disk .missing _), some name =>
        let directory ← d.locate .follow l.parent
        if d.takesEntries directory then
          set (d.put (directory ++ [name.encode]) (.link target.encode))
        else throw (.disk .denied l.toText)
    | .error failure, _ => throw failure
    | .ok _, _ => throw (.disk .occupied l.toText)

/-- Removes what stands at a location, with everything below it. A link is not followed. -/
def removeAt (l : Location) : OnDisk Unit := do
  let d ← get
  let (p, _) ← d.entryAt .keep l
  set (d.remove p)

/-- Writes the content of a file, which is created if it does not exist. -/
def writeContent (l : Location) (content : Bytes) : OnDisk Unit := do
  let d ← get
  let p ← d.locate .create l
  match d.get? p with
  | some (.file _ mode) =>
      if ownerWrites mode then set (d.put p (.file content (withoutSpecialBits mode)))
      else throw (.disk .denied l.toText)
  | some _ => throw (.disk .isDirectory l.toText)
  | none =>
      if d.takesEntries p.dropLast then set (d.put p (.file content newFileMode))
      else throw (.disk .denied l.toText)

/-- Writes a file with the given content and permissions. An existing one is made writable
first. -/
def writeFile (l : Location) (content : Bytes) (bits : Int) : OnDisk Unit := do
  if ← (← get).present l then
    changeMode l fun mode => mode ||| ownerWrite
  writeContent l content
  let mode ← modeOf bits
  changeMode l fun _ => mode

/-- Writes a file and makes the directories on the way to it. -/
def placeFile (l : Location) (content : Bytes) (bits : Int) : OnDisk Unit := do
  makeDirectories l.parent
  writeFile l content bits

end Disk

end Scaffold
