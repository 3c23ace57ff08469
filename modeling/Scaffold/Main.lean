import Scaffold.Command

/-!
The program. It reads the trees that a command works on, has the command work on them, and writes
back what has changed. Permissions of what exists are not read; they count as those of a new file or
directory, or of none if it cannot be read.
-/

namespace Scaffold.Program

/-- Reads what stands at an absolute location, and all that is below it or that links lead to. A
link that leads nowhere is taken for one that leads to itself. -/
partial def readTree (path : String) (d : Disk) : IO Disk := do
  let l := Location.ofText path
  let place := l.names.map Text.encode
  if (d.get? place).isSome && !place.isEmpty then
    return d
  let root ← IO.currentDir
  let file := root / path
  match ← file.symlinkMetadata.toBaseIO with
  | .error _ => return d
  | .ok metadata =>
      match metadata.type with
      | .file =>
          match ← (IO.FS.readBinFile file).toBaseIO with
          | .ok content => return d.put place (.file content.toList newFileMode)
          | .error _ => return d.put place (.file [] 0)
      | .dir =>
          match ← file.readDir.toBaseIO with
          | .error _ => return d.put place (.directory 0)
          | .ok children =>
              let mut d := d.put place (.directory newDirectoryMode)
              for child in children do
                d ← readTree child.path.toString d
              return d
      | .symlink =>
          match ← (IO.FS.realPath file).toBaseIO with
          | .ok target =>
              readTree target.toString (d.put place (.link (Text.ofString target.toString).encode))
          | .error _ => return d.put place (.link (Text.ofString path).encode)
      | .other => return d

/-- The location without links that a location leads to. -/
def realLocation? (l : Location) : IO (Option Location) := do
  match l.toText.toString? with
  | none => return none
  | some path =>
      match ← (IO.FS.realPath ((← IO.currentDir) / path)).toBaseIO with
      | .ok real => return some (Location.ofText real.toString)
      | .error _ => return none

/-- Where the entry that a location names stands: in the directory that its other names lead to. -/
def entryLocation? (l : Location) : IO (Option Location) := do
  match l.names.getLast? with
  | none => return some l
  | some name =>
      if name = ".." then realLocation? l
      else return (← realLocation? l.parent).map fun directory => directory.entry name

/-- Reads an absolute location and all that is below it. -/
def readLocation (l : Location) (d : Disk) : IO Disk := do
  match (← entryLocation? l).bind fun place => place.toText.toString? with
  | some path => readTree path d
  | none => return d

/-- The disk with an entry at a location, unless there is one already. -/
def note (d : Disk) (l : Location) (entry : Entry) : Disk :=
  let place := l.names.map Text.encode
  if (d.get? place).isSome then d else d.put place entry

/-- Notes the links and directories on the way to an absolute location. -/
def noteWay (l : Location) (d : Disk) : IO Disk := do
  let mut d := d
  for n in List.range (l.names.length + 1) do
    let before := { l with names := l.names.take n }
    match ← entryLocation? before, ← realLocation? before with
    | some place, some real =>
        if place ≠ real then
          d := note d place (.link real.toText.encode)
        if let some path := real.toText.toString? then
          if ← ((← IO.currentDir) / path).isDir then
            d := note d real (.directory newDirectoryMode)
    | _, _ => pure ()
  return d

/-- The disk with a directory at every path on the way to an entry. -/
def withParents (d : Disk) : Disk :=
  d.entries.foldl
    (fun d entry =>
      (List.range entry.1.length).foldl
        (fun d n => note d (Path.location (entry.1.take n)) (.directory newDirectoryMode)) d)
    d

/-- The locations that a command works on. -/
def locations (env : Environment) (config : Config) : Command.Demand → List Location
  | .list => [config.shareDir.child "skeletons"]
  | .show _ _ => [config.shareDir.child "skeletons"]
  | .render description directory _ =>
      let root := ((directory.bind id).map Location.ofText).getD env.current
      [
        config.shareDir.child "skeletons", Location.ofText description, root,
        root.under config.stateDir]

/-- Writes an entry of a disk. -/
def writeEntry (path : Path) (entry : Entry) : IO Unit := do
  match path.toText.toString? with
  | none => return
  | some path =>
      match entry with
      | .directory _ => IO.FS.createDirAll path
      | .link _ => return
      | .file content mode =>
          IO.FS.writeBinFile path (ByteArray.mk content.toArray)
          IO.Prim.setAccessRights path (UInt32.ofNat mode)

/-- Writes the entries that have changed. -/
def writeChanges (before after : Disk) : IO Unit := do
  for (path, entry) in after.entries do
    if before.get? path ≠ some entry then
      writeEntry path entry

/-- The variables that the program looks at. -/
def variableNames : List String := ["TRELLIS_SHARE_DIR", "TRELLIS_STATE_DIR", "TRELLIS_VERBOSITY"]

/-- What surrounds the program. -/
def environment : IO Environment := do
  let mut values : Entries Text := []
  for name in variableNames do
    if let some value ← IO.getEnv name then
      values := values.insert name value
  let home := (← IO.getEnv "HOME").getD "/"
  let current := (← IO.currentDir).toString
  return { values := values, home := home, current := Location.ofText current }

/-- Writes a text to a stream. -/
def print (stream : IO.FS.Stream) (t : Text) : IO Unit := do
  stream.write (ByteArray.mk t.encode.toArray)
  stream.flush

/-- Does what the arguments demand, and gives the exit status. -/
def run (arguments : List String) : IO UInt32 := do
  let stdout ← IO.getStdout
  let stderr ← IO.getStderr
  match Command.demand (arguments.map Text.ofString) with
  | .error refusal =>
      print stderr "usage: [--share-dir DIR] [-v] (list | show KIND NAME | render DESCRIPTION)\n"
      return UInt32.ofNat refusal.status
  | .ok (common, demand) =>
      let env ← environment
      let places := match Command.configOf env common with
        | .error _ => []
        | .ok config => (locations env config demand).map env.current.under
      let mut d : Disk := { entries := [], current := env.current.names.map Text.encode }
      for l in places do
        d ← readLocation l d
      for l in env.current :: places do
        d ← noteWay l d
      d := withParents d
      let outcome := Command.run env d common demand
      for w in outcome.warnings do
        print stderr ("WARNING: " ++ w.message ForeignFault.message ++ "\n")
      if let .error e ← (writeChanges d outcome.disk).toBaseIO then
        print stderr ("error: " ++ Text.ofString (toString e) ++ "\n")
        return 1
      match outcome.result with
      | .ok t =>
          print stdout t
          return 0
      | .error failure =>
          print stderr ("error: " ++ failure.message ForeignFault.message ++ "\n")
          return 1

end Scaffold.Program

/-- The entry point. -/
def main (arguments : List String) : IO UInt32 := Scaffold.Program.run arguments
