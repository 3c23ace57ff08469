import Scaffold.Disk.Write
import Scaffold.Output
import Scaffold.Skeleton.Cache

/-!
Runs: all files of the skeleton of a project, then those of the skeletons of its packages. The files
of the project are rendered in two passes. In the first one a file that needs a value which is not
available yet is postponed; in the second one the postponed files are rendered, in their order.
-/

namespace Scaffold

/-- What a run is about. -/
structure Job where
  /-- The configuration. -/
  config : Config
  /-- The project, as it was before all changes of its lists. -/
  project : Project
  /-- The package to be rendered. -/
  package : Option Package := none
  /-- The directory for copies of the sources, if it is not the configured one. -/
  backupDir : Option Location := none
  /-- The way to render templates. -/
  substitute : Substitute := Setting.render

/-- What a run changes; `sink` is the state of what the results are handed to. -/
structure Run (σ : Type) where
  /-- The disk. -/
  disk : Disk
  /-- The state of the sink. -/
  sink : σ
  /-- The catalogs. -/
  cache : Cache := []
  /-- The paths that were not skipped, in order. -/
  generated : List Text := []
  /-- Whether files may be postponed. -/
  postponing : Bool := false
  /-- The warnings. -/
  warnings : List Warning := []
  /-- The changes of the lists of the project. -/
  changes : Changes := []

/-- A step of a run. -/
abbrev Running (σ : Type) := EStateM Failure (Run σ)

/-- What the results of a run are handed to. It decides whether and how a file is written. -/
abbrev Sink (σ : Type) := Request → EStateM Failure (Disk × σ) Unit

namespace Run

variable {σ : Type} {α : Type}

/-- A computation that reports. -/
def report (x : Report α) : Running σ α :=
  focus Run.warnings (fun run warnings => { run with warnings := warnings }) x

/-- What the files so far have left for the next one. -/
def log (run : Run σ) : Log := { warnings := run.warnings, changes := run.changes }

/-- A computation with the log of the run. -/
def logging (x : Logging α) : Running σ α :=
  focus log (fun run log => { run with warnings := log.warnings, changes := log.changes }) x

/-- A change of the disk. -/
def onDisk (x : OnDisk α) : Running σ α :=
  focus Run.disk (fun run disk => { run with disk := disk }) x

/-- Hands a result to the sink. -/
def handOver (sink : Sink σ) (request : Request) : Running σ Unit :=
  focus (fun run => (run.disk, run.sink))
    (fun run both => { run with disk := both.1, sink := both.2 }) (sink request)

/-- The catalog of a kind. -/
def catalog (config : Config) (kind : Text) : Running σ Catalog := do
  let run ← get
  let (catalog, cache) ← report (Cache.fetch config run.disk kind run.cache)
  modify fun run => { run with cache := cache }
  pure catalog

/-- The resolved skeleton of a kind and a name. -/
def lookup (config : Config) (kind name : Text) : Running σ Skeleton := do
  (← catalog config kind).lookup name

/-- A text that names the known skeletons of both kinds. -/
def known (config : Config) : Running σ Text := do
  let projects ← catalog config "project"
  let packages ← catalog config "package"
  pure (knownSkeletons projects packages)

/-- The sorted paths of what was generated, which cannot be said while files may be postponed. -/
def generatedFiles (run : Run σ) : Except Failure (List Text) :=
  if run.postponing then .error (.foreign .postponed) else .ok (Text.sorted run.generated)

/-- Keeps a copy of the source of a file. -/
def backup (job : Job) (file : SkeletonFile) : Running σ Unit := do
  let target := (job.backupDir.getD job.config.backupDir).child file.path
  onDisk (Disk.placeFile target file.content.encode file.permissions)

/-- Whether a file is left out of what was generated. -/
def isSkipped (skips : List Text) (request : Request) : Bool :=
  request.skip || request.skipTags.any (· ∈ skips)

/-- Renders a file of a skeleton and hands the result over. -/
def renderFile (job : Job) (sink : Sink σ) (scope : Scope) (s : Skeleton) (file : SkeletonFile) :
    Running σ Unit := do
  backup job file
  let run ← get
  let setting := settingFor scope run.changes run.postponing run.generated
  let request ← logging (requestFor job.substitute scope setting s file)
  handOver sink request
  let project := job.project.after (← get).changes
  if isSkipped project.skip request then pure ()
  else modify fun run => { run with generated := run.generated ++ [request.path] }

/-- Whether a step was done; if not it has to be postponed. -/
def done (x : Running σ Unit) : Running σ Bool := fun run =>
  match x run with
  | .ok _ run => .ok true run
  | .error (.foreign .postponed) run => .ok false run
  | .error failure run => .error failure run

/-- Renders files, and gives back those that have to be postponed. -/
def firstPass (render : SkeletonFile → Running σ Unit) :
    List SkeletonFile → Running σ (List SkeletonFile)
  | [] => pure []
  | file :: rest => do
      if ← done (render file) then firstPass render rest
      else
        let later ← firstPass render rest
        pure (file :: later)

/-- Renders files that must not be postponed again. -/
def secondPass (render : SkeletonFile → Running σ Unit) : List SkeletonFile → Running σ Unit
  | [] => pure ()
  | file :: rest => do
      if ← done (render file) then secondPass render rest
      else throw (.skeleton (some file.path) .postponedAgain)

/-- A step during which files may be postponed. -/
def whilePostponing (x : Running σ α) : Running σ α := fun run =>
  match x { run with postponing := true } with
  | .ok a run => .ok a { run with postponing := false }
  | .error failure run => .error failure { run with postponing := false }

/-- Renders the skeleton of the project. -/
def renderProject (job : Job) (sink : Sink σ) : Running σ Unit := do
  let s ← lookup job.config "project" job.project.skeletonName
  let render := renderFile job sink (.ofProject job.project) s
  modify fun run => { run with generated := [] }
  let later ← whilePostponing (firstPass render s.files)
  secondPass render later

/-- Renders files one after the other. -/
def renderAll (render : SkeletonFile → Running σ Unit) : List SkeletonFile → Running σ Unit
  | [] => pure ()
  | file :: rest => do
      render file
      renderAll render rest

/-- Renders the skeleton of the package. -/
def renderPackage (job : Job) (sink : Sink σ) : Running σ Unit := do
  match job.package with
  | none => throw (.misuse .noPackage)
  | some k =>
      let s ← lookup job.config "package" k.skeletonName
      renderAll (renderFile job sink (.ofPackage k job.project) s) s.files

/-- Renders the skeletons of the packages at some indices of the packages of the project, as they
are when it is their turn. -/
def renderPackages (job : Job) (sink : Sink σ) : List Nat → Running σ Unit
  | [] => pure ()
  | i :: rest => do
      let project := job.project.after (← get).changes
      match project.packages[i]? with
      | some k => renderPackage { job with package := some k } sink
      | none => pure ()
      renderPackages job sink rest

/-- Renders the skeleton of the project, then those of all packages. No package is ever added. -/
def renderFiles (job : Job) (sink : Sink σ) : Running σ Unit := do
  renderProject job sink
  renderPackages job sink (List.range job.project.packages.length)

end Run

/-- The sink that only lists what it is handed. -/
def recordRequest : Sink (List Request) := fun request =>
  modify fun both => (both.1, both.2 ++ [request])

end Scaffold
