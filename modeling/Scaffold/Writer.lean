import Scaffold.Disk.Resolve
import Scaffold.Disk.Write
import Scaffold.Output
import Scaffold.Run

/-!
The writer, which writes the results of a run below a root. What is skipped, or is to be created
only once and exists, is left alone; a path that leads out of the root is refused.
-/

namespace Scaffold

/-- A writer below a root. -/
structure Writer where
  /-- The root, without links. -/
  root : Location
  /-- The active skip tags. -/
  activeSkips : List Text := []
  deriving DecidableEq

/-- What a writer has done. -/
structure Ledger where
  /-- The paths of written files. -/
  written : List Text := []
  /-- The paths of skipped files. -/
  skipped : List Text := []
  /-- The paths of written files that are to be registered with revision tracking. -/
  recorded : List Text := []
  deriving DecidableEq

namespace Writer

/-- The writer below the directory that a location leads to. -/
def ofLocation (d : Disk) (root : Location) (activeSkips : List Text) : Except Failure Writer :=
  (d.resolve root).map fun root => { root := root, activeSkips := activeSkips }

/-- Where a path leads, which must be below the root. -/
def destination (w : Writer) (d : Disk) (path : Text) : Except Failure Location := do
  let target ← d.resolve (w.root.child path)
  if target.isUnder w.root then pure target
  else throw (.skeleton (some path) (.outside w.root.toText))

/-- Whether a demand is to be skipped. -/
def skips (w : Writer) (request : Request) : Bool :=
  request.skip || request.skipTags.any (· ∈ w.activeSkips)

/-- Whether a file is kept as it is. -/
def keeps (request : Request) (d : Disk) (target : Location) : Except Failure Bool :=
  if request.createOnce then d.present target else .ok false

/-- Writes a file, or skips it or keeps an existing one. -/
def write (w : Writer) : Sink Ledger := fun request => do
  if w.skips request then
    modify fun (d, ledger) => (d, { ledger with skipped := ledger.skipped ++ [request.path] })
  else
    let (d, _) ← get
    let target ← w.destination d request.path
    if ← keeps request d target then pure ()
    else
      focus Prod.fst (fun both d => (d, both.2))
        (Disk.placeFile target request.content.encode request.permissions)
      modify fun (d, ledger) =>
        (d, { ledger with
          written := ledger.written ++ [request.path]
          recorded :=
            if request.record then ledger.recorded ++ [request.path] else ledger.recorded })

end Writer

end Scaffold
