import Scaffold.Condition
import Scaffold.Focus
import Scaffold.Location
import Scaffold.Skeleton
import Scaffold.Template.Render

/-!
What becomes of one file of a skeleton. Its content and its path are rendered, and its flags, edited
by the directives in the content, say how the result is to be written.
-/

namespace Scaffold

/-- A demand to write a file. -/
structure Request where
  /-- The path of the output. -/
  path : Text
  /-- Whether an existing output is kept. -/
  createOnce : Bool := false
  /-- The file is skipped if one of these tags is active. -/
  skipTags : List Text := []
  /-- The content. -/
  content : Text
  /-- Whether the output is to be registered with revision tracking. -/
  record : Bool := true
  /-- Whether the file is skipped in any case. -/
  skip : Bool := false
  /-- The permissions of the output. -/
  permissions : Int
  deriving DecidableEq

/-- A number with the bit of value `2 ^ k` set. -/
def setBit (n : Int) (k : Nat) : Int :=
  let bit := Int.ofNat (Nat.pow 2 k)
  if n / bit % 2 = 0 then n + bit else n

/-- Permissions with those to execute added. -/
def executable (bits : Int) : Int := setBit (setBit (setBit bits 0) 3) 6

/-- The permissions of a file, which are those of a program if the name of its source says so. -/
def permissionsFor (path : Text) (bits : Int) : Int :=
  if (Text.ofString ".sh").isSuffixOf path then executable bits else bits

/-- A number, unless it is zero. -/
def orElseBits (bits inherited : Int) : Int := if bits = 0 then inherited else bits

/-- The flags with which a file of a skeleton starts: the declared ones, with defaults taken from
the file. -/
def Skeleton.flagsFor (s : Skeleton) (path : Text) (bits : Int) : FileFlags :=
  let declared := ((s.flags.get? path).map FileFlags.fresh).getD {}
  { declared with
    targetPath := if declared.targetPath = [] then path else declared.targetPath
    permissions := permissionsFor path (orElseBits declared.permissions bits) }

/-- What the files of a skeleton are rendered for. -/
structure Scope where
  /-- The values that templates may insert, if a file starts after some changes of lists. Values
  whose lists can still change are those before all changes. -/
  values : Changes → Entries Value
  /-- Which conditions hold. -/
  evaluate : LiveEvaluator
  /-- Where a path of the skeleton lies below the root of the project. -/
  place : Text → Text

namespace Scope

/-- Rendering for a project. -/
def ofProject (p : Project) : Scope where
  values changes := (p.after changes).context.insert "project" (.project 0 p)
  evaluate changes := Condition.ofProject (p.after changes)
  place := id

/-- Rendering for a package of a project. -/
def ofPackage (k : Package) (p : Project) : Scope where
  values _ := (k.context.insert "package" (.package k)).insert "project" (.project 0 p)
  evaluate changes := Condition.ofPackage k (p.after changes)
  place := joinPaths k.dir

end Scope

/-- A way to render templates. -/
abbrev Substitute := Setting → Text → Rendering Text

/-- What has been generated so far, as templates see it: nothing can be said while files may be
postponed. -/
def generatedValue (postponing : Bool) (generated : List Text) : Value :=
  if postponing then .pending else .computed (.ofTexts (Text.sorted generated))

/-- How the templates of a run are rendered. -/
def settingFor (scope : Scope) (changes : Changes) (postponing : Bool) (generated : List Text) :
    Setting where
  context := (scope.values changes).insert "generated_files" (generatedValue postponing generated)
  missing := .error
  heedsFrames := false
  postpone := postponing

/-- Renders the content of a file, then its path. -/
def renderContent (substitute : Substitute) (evaluate : LiveEvaluator) (setting : Setting)
    (content : Text) : Rendering (Text × Text) := do
  let withDirectives :=
    { setting with handler := some (Directive.handler evaluate), heedsFrames := true }
  let content ←
    if (← get).flags.substitutes then substitute withDirectives content else pure content
  let target ← substitute setting (← get).flags.targetPath
  pure (content, target)

/-- What rendering a file leaves for the next one. -/
structure Log where
  /-- The warnings noted so far. -/
  warnings : List Warning := []
  /-- The changes of lists so far. -/
  changes : Changes := []
  deriving DecidableEq

/-- A computation with a log. -/
abbrev Logging := EStateM Failure Log

/-- What is left of a sheet. -/
def Sheet.log (sheet : Sheet) : Log := { warnings := sheet.warnings, changes := sheet.changes }

/-- The sheet with which flags and a log are edited. -/
def Log.sheet (log : Log) (flags : FileFlags) : Sheet :=
  { flags := flags, warnings := log.warnings, changes := log.changes }

/-- A step of rendering with flags of its own, and the flags after it. -/
def Rendering.withFlags {α : Type} (flags : FileFlags) (x : Rendering α) :
    Logging (α × FileFlags) :=
  fun log =>
    match x (log.sheet flags) with
    | .ok a sheet => .ok (a, sheet.flags) sheet.log
    | .error failure sheet => .error failure sheet.log

/-- The demand that rendering a file of a skeleton ends with. -/
def requestFor (substitute : Substitute) (scope : Scope) (setting : Setting) (s : Skeleton)
    (file : SkeletonFile) : Logging Request := do
  let start := s.flagsFor file.path file.permissions
  let ((content, target), flags) ← mapFailure (Failure.inFile file.path)
    ((renderContent substitute scope.evaluate setting file.content).withFlags start)
  pure {
    path := scope.place target
    createOnce := flags.createOnce
    skipTags := flags.skipTags
    content := content
    record := flags.record
    skip := flags.forceSkip || flags.suppressed
    permissions := permissionsFor file.path (orElseBits flags.permissions file.permissions) }

end Scaffold
