import Scaffold.Disk.Walk

/-!
Look-ups. What stands at a location is looked up as the location is spelled: relative ones from the
current directory on, and none that is too long. `Disk.find` says why nothing is found; for
`Disk.probe` most of these reasons only mean that there is nothing.
-/

namespace Scaffold

namespace Disk

/-- Refuses locations that no look-up takes. -/
def checkSpelling (l : Location) : Except Failure Unit :=
  if l.toText.elem (.char '\x00') then .error (.misuse .nullInPath)
  else if maximalPathLength < l.toText.encode.length then .error (.disk .nameTooLong l.toText)
  else .ok ()

/-- The place where the walk to a location starts. -/
def start (d : Disk) (l : Location) : Place := { path := if l.isAbsolute then [] else d.current }

/-- The path to which a location leads. -/
def locate (d : Disk) (last : LastName) (l : Location) : Except Failure Path := do
  checkSpelling l
  match d.walk last (d.start l) (l.names.map Text.encode) with
  | .ok place => pure place.path
  | .error fault => throw (.disk fault l.toText)

/-- The entry at a location, with its path. -/
def entryAt (d : Disk) (last : LastName) (l : Location) : Except Failure (Path × Entry) := do
  let p ← d.locate last l
  match d.get? p with
  | some entry => pure (p, entry)
  | none => throw (.disk .missing l.toText)

/-- The entry to which a location leads through links. -/
def find (d : Disk) (l : Location) : Except Failure (Path × Entry) := d.entryAt .follow l

/-- Whether a failure of a look-up means that there is nothing. -/
def meansNothing : Failure → Bool
  | .misuse .nullInPath => true
  | .disk fault _ => fault ∈ [.missing, .notDirectory, .linkLoop]
  | _ => false

/-- The entry to which a location leads, if there is one. -/
def probe (d : Disk) (l : Location) : Except Failure (Option Entry) :=
  match d.find l with
  | .ok (_, entry) => .ok (some entry)
  | .error failure => if meansNothing failure then .ok none else .error failure

/-- Whether a location leads to anything. -/
def present (d : Disk) (l : Location) : Except Failure Bool := (d.probe l).map Option.isSome

/-- Whether a location leads to a directory. -/
def leadsToDirectory (d : Disk) (l : Location) : Except Failure Bool :=
  (d.probe l).map fun
    | some (.directory _) => true
    | _ => false

/-- The path of the directory to which a location leads, if its entries may be listed. -/
def openDirectory (d : Disk) (l : Location) : Except Failure Path := do
  match ← d.find l with
  | (p, .directory mode) => if ownerReads mode then pure p else throw (.disk .denied l.toText)
  | _ => throw (.disk .notDirectory l.toText)

/-- The content of the file to which a location leads. -/
def read (d : Disk) (l : Location) : Except Failure Bytes := do
  match ← d.find l with
  | (_, .file content mode) =>
      if ownerReads mode then pure content else throw (.disk .denied l.toText)
  | _ => throw (.disk .isDirectory l.toText)

end Disk

end Scaffold
