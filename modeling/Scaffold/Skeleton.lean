import Scaffold.Flags
import Scaffold.Toml

/-!
Skeletons: bundles of template files with their flags and with fragments of a manifest.
-/

namespace Scaffold

/-- A template file of a skeleton. -/
structure SkeletonFile where
  /-- The path below the directory of the skeleton. -/
  path : Text
  /-- The content before rendering. -/
  content : Text
  /-- The permissions of the file itself. -/
  permissions : Int
  deriving DecidableEq

/-- A skeleton. -/
structure Skeleton where
  /-- The name. -/
  name : Text
  /-- The name of the skeleton that this one extends, if there is one. -/
  inherits : Option Text := none
  /-- The fragments of the manifest. -/
  fragments : List Text := []
  /-- The template files, in the order of their paths. -/
  files : List SkeletonFile := []
  /-- The flags that are declared for files. -/
  flags : Entries FileFlags := []
  /-- Whether the skeleton comes with the installation. -/
  builtin : Bool := false
  deriving DecidableEq

namespace Skeleton

/-- The fragments of the manifest, read as one document. -/
def manifest (s : Skeleton) : Except Failure (Entries Data) :=
  match Toml.document (Text.join "\n" s.fragments) with
  | .ok entries => .ok entries
  | .error (.tooManyDigits count) => .error (.misuse (.tooManyDigits count))
  | .error _ => .error (.skeleton none (.invalidManifest s.name))

/-- A summary of the skeleton in six lines. -/
def describe (s : Skeleton) : Text :=
  "skeleton " ++ s.name ++ "\n"
    ++ "  inherits: " ++ (Text.nonempty? s.inherits).getD "-" ++ "\n"
    ++ "  builtin: " ++ (if s.builtin then "True" else "False") ++ "\n"
    ++ "  manifest fragments: " ++ Text.ofNat s.fragments.length ++ "\n"
    ++ "  files: " ++ Text.ofNat s.files.length ++ "\n"
    ++ "  flags: " ++ Text.ofNat s.flags.length ++ "\n"

/-- Merges two lists of files that are in the order of their paths. Of two files with the same path
the one of the first list is kept. -/
def mergeFiles : List SkeletonFile → List SkeletonFile → List SkeletonFile
  | [], theirs => theirs
  | mine, [] => mine
  | mine :: ours, yours :: theirs =>
      if mine.path = yours.path then mine :: mergeFiles ours theirs
      else if mine.path < yours.path then mine :: mergeFiles ours (yours :: theirs)
      else yours :: mergeFiles (mine :: ours) theirs
termination_by ours theirs => ours.length + theirs.length

/-- A skeleton that extends a resolved one, resolved under `name`. -/
def extend (name : Text) (own parent : Skeleton) : Skeleton where
  name := name
  fragments := [Text.join "\n" (parent.fragments ++ own.fragments)]
  files := mergeFiles own.files parent.files
  flags := parent.flags.update own.flags

end Skeleton

end Scaffold
