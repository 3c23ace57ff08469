import Scaffold.Disk.Lookup

/-!
Resolving locations. `Disk.resolve` gives the location without links for every location, whether or
not anything stands there. On a circle of links it stops: the link that closes the circle stays as
it is, and so does what comes after it.
-/

namespace Scaffold

/-- Why names cannot be resolved. -/
inductive Unresolved where
  /-- A name holds the character zero. -/
  | nullInPath
  /-- Links lead in a circle. The path stands for what was to be resolved. -/
  | circle (path : Text)
  deriving DecidableEq

/-- What is left unresolved if names come after what is unresolved already. -/
def Unresolved.before (names : List Text) : Unresolved → Unresolved
  | nullInPath => nullInPath
  | circle path => circle (joinPaths path (Text.join [Location.slash] names))

/-- A location without names that lead nowhere, and with every `..` taken together with the name
before it. -/
def Location.collapsed (l : Location) : Location where
  anchor := l.anchor
  names :=
    l.names.foldl
      (fun names (name : Text) =>
        if staysHere name.encode then names
        else if leadsUp name.encode then names.dropLast
        else names ++ [name]) []

namespace Disk

/-- The target of the link at a path, if a link is found there. -/
def linkAt? (d : Disk) (p : Path) : Option Bytes :=
  if maximalPathLength < (Path.toText p).encode.length ∨ d.isHidden p then none
  else
    match d.get? p with
    | some (.link target) => some target
    | _ => none

/-- Resolves names from a path on. The target of a link is resolved by `follow`. -/
def resolveNames (d : Disk) (follow : (link : Path) → (target : Bytes) → Except Unresolved Path) :
    Path → List Text → Except Unresolved Path
  | here, [] => .ok here
  | here, name :: rest =>
      if staysHere name.encode then d.resolveNames follow here rest
      else if leadsUp name.encode then d.resolveNames follow here.dropLast rest
      else if name.elem (.char '\x00') then .error .nullInPath
      else
        match d.linkAt? (here ++ [name.encode]) with
        | none => d.resolveNames follow (here ++ [name.encode]) rest
        | some target =>
            match follow (here ++ [name.encode]) target with
            | .ok there => d.resolveNames follow there rest
            | .error unresolved => .error (unresolved.before rest)

/-- Resolves a link, where the links in `opened` are about to be resolved. There are fewer links
than entries on the disk, which bounds the nesting by `depth`. -/
def resolveLink (d : Disk) : (depth : Nat) → (opened : List Path) → Path → Bytes →
    Except Unresolved Path
  | 0, _, link, _ => .error (.circle (Path.toText link))
  | depth + 1, opened, link, target =>
      if link ∈ opened then .error (.circle (Path.toText link))
      else
        d.resolveNames (d.resolveLink depth (link :: opened)) (targetStart link.dropLast target)
          ((Text.decode target).splitOn Location.slash)

/-- The location without links that a location stands for. Links that a look-up there would still
have to follow without end are an error. -/
def resolve (d : Disk) (l : Location) : Except Failure Location := do
  let resolved ←
    match d.resolveNames (d.resolveLink (d.entries.length + 1) []) (d.start l).path l.names with
    | .ok p => pure (Path.location p)
    | .error .nullInPath => throw (.misuse .nullInPath)
    | .error (.circle path) => pure (Location.ofText path).collapsed
  match d.find resolved with
  | .error (.disk .linkLoop _) => throw (.foreign .linkLoop)
  | .error (.misuse m) => throw (.misuse m)
  | _ => pure resolved

end Disk

end Scaffold
