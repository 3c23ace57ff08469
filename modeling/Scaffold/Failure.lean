import Scaffold.Data
import Scaffold.Defect
import Scaffold.Number.Numeral
import Scaffold.Text.Quoted

/-!
The ways in which an operation can fail, as causes. `Failure.message` is the one place that words
them.
-/

namespace Scaffold

/-- Why a template cannot be rendered. -/
inductive TemplateFault where
  /-- The context has no value for a key. -/
  | missingValue (key : Text)
  /-- A value is not available although nothing may be postponed any more. -/
  | postponedTwice (key : Text)
  | unknownFilter (name : Text)
  deriving DecidableEq

/-- Whom a condition is about. -/
inductive Subject where
  | project
  | package
  deriving DecidableEq

/-- The directives that need an open branch. -/
inductive BranchWord where
  | otherwise
  | alternative
  | close
  deriving DecidableEq

/-- Why a skeleton cannot be loaded, resolved or rendered. -/
inductive SkeletonFault where
  /-- Permissions are not written as an octal number. -/
  | invalidPermission (digits : Text)
  /-- A field of a manifest has a value of another type. -/
  | wrongType (field : Text) (expected found : DataKind)
  | flagsNotTable (path : Text)
  | filesNotTable
  /-- The manifest fragments of a skeleton are no document. -/
  | invalidManifest (name : Text)
  /-- A skeleton inherits from itself. The walk ends with the first repeated name. -/
  | inheritanceCycle (walk : List Text)
  | missingProject (path : Text)
  /-- The manifest of a skeleton cannot be read. -/
  | unreadableManifest (path : Text)
  | missingName
  | inheritsNotText
  | missingSkeleton (name : Text)
  | unknownCondition (subject : Subject) (tokens : List Text)
  /-- A directive needs an open branch and there is none. -/
  | unmatched (word : BranchWord)
  /-- The template of a file cannot be rendered. -/
  | unrendered (fault : TemplateFault)
  /-- A file was postponed although nothing may be postponed any more. -/
  | postponedAgain
  /-- A path leads out of the directory that is written to. -/
  | outside (root : Text)
  deriving DecidableEq

/-- Demands that no operation can answer. -/
inductive Misuse where
  /-- There is no such policy for missing values. -/
  | unknownPolicy
  | unknownKind (kind : Text)
  /-- A package is to be rendered and there is none. -/
  | noPackage
  | invalidVerbosity (t : Text)
  /-- A path holds the character zero. -/
  | nullInPath
  | tooManyDigits (count : Nat)
  deriving DecidableEq

/-- Why the file system refuses an operation. -/
inductive DiskFault where
  | missing
  | denied
  /-- Something stands there already. -/
  | occupied
  | notDirectory
  | isDirectory
  | nameTooLong
  | linkLoop
  deriving DecidableEq

/-- Failures whose wording is up to whoever shows them. -/
inductive ForeignFault where
  /-- Bytes are not UTF-8. -/
  | undecodable
  /-- A text is no document. -/
  | malformed
  /-- A value does not support an operation. -/
  | unsupported
  /-- A value is not available yet. -/
  | postponed
  /-- An item is to be taken from a list that has none. -/
  | emptyList
  | linkLoop
  /-- Permissions are out of the range of file modes. -/
  | modeOutOfRange
  | noHome
  /-- Nothing is left of a directory that was given. -/
  | noDirectory
  deriving DecidableEq, Inhabited

/-- Why an operation failed. -/
inductive Failure where
  /-- A skeleton cannot be used; `file` is the file that was being rendered. -/
  | skeleton (file : Option Text) (fault : SkeletonFault)
  | template (fault : TemplateFault)
  /-- The demand makes no sense. -/
  | misuse (m : Misuse)
  /-- The data do not describe a record. -/
  | invalid (record : RecordKind) (defects : List Defect)
  /-- The file system refuses an operation at a path. -/
  | disk (fault : DiskFault) (path : Text)
  /-- Something outside of templates and skeletons failed. -/
  | foreign (fault : ForeignFault)
  deriving DecidableEq, Inhabited

namespace TemplateFault

def message : TemplateFault → Text
  | missingValue key => "missing value for '" ++ key ++ "'"
  | postponedTwice key => "value for '" ++ key ++ "' postponed twice"
  | unknownFilter name => "unknown filter '" ++ name ++ "'"

end TemplateFault

namespace Subject

def name : Subject → String
  | project => "project"
  | package => "package"

end Subject

namespace BranchWord

def name : BranchWord → String
  | otherwise => "else"
  | alternative => "elif"
  | close => "fi"

end BranchWord

namespace SkeletonFault

/-- The wording of a fault of a skeleton. What is wrong with a document is not said here; `<cause>`
holds its place. -/
def message : SkeletonFault → Text
  | invalidPermission digits => "invalid permission " ++ digits.quoted
  | wrongType field expected found =>
      field ++ ": expected " ++ expected.name ++ ", got " ++ found.name
  | flagsNotTable path => "file." ++ path ++ ": expected a table of flags"
  | filesNotTable => "file: expected a table"
  | invalidManifest name => "skeleton " ++ name.quoted ++ " has an invalid manifest: <cause>"
  | inheritanceCycle walk => "skeleton inheritance cycle: " ++ Text.join " -> " walk
  | missingProject path => path ++ ": missing [project] table"
  | unreadableManifest path => "Could not parse skeleton file " ++ path.quoted ++ ": <cause>"
  | missingName => "wrong or missing key skeleton.name"
  | inheritsNotText => "skeleton.inherits must be a string"
  | missingSkeleton name => "Missing skeleton " ++ name.quoted
  | unknownCondition subject tokens =>
      "unknown " ++ subject.name ++ " condition " ++ (Text.join ":" tokens).quoted
  | unmatched word => word.name ++ " without if"
  | unrendered fault => fault.message
  | postponedAgain => "postponed twice"
  | outside root => "refusing to write outside of " ++ root

end SkeletonFault

namespace Misuse

def message : Misuse → Text
  | unknownPolicy => "missing must be 'keep', 'empty', or 'error'"
  | unknownKind kind => "unknown skeleton kind " ++ kind.quoted
  | noPackage => "render_package requires a package in the render state"
  | invalidVerbosity t => "TRELLIS_VERBOSITY must be an integer, got " ++ t.quoted
  | nullInPath => "embedded null byte"
  | tooManyDigits count =>
      "Exceeds the limit (" ++ Text.ofNat Numeral.maximalDigits
        ++ " digits) for integer string conversion: value has " ++ Text.ofNat count
        ++ " digits; use sys.set_int_max_str_digits() to increase the limit"

end Misuse

namespace DiskFault

def number : DiskFault → Nat
  | missing => 2
  | denied => 13
  | occupied => 17
  | notDirectory => 20
  | isDirectory => 21
  | nameTooLong => 36
  | linkLoop => 40

def wording : DiskFault → String
  | missing => "No such file or directory"
  | denied => "Permission denied"
  | occupied => "File exists"
  | notDirectory => "Not a directory"
  | isDirectory => "Is a directory"
  | nameTooLong => "File name too long"
  | linkLoop => "Too many levels of symbolic links"

/-- The wording of a fault at a path. -/
def message (fault : DiskFault) (path : Text) : Text :=
  "[Errno " ++ Text.ofNat fault.number ++ "] " ++ fault.wording ++ ": " ++ path.quoted

end DiskFault

namespace ForeignFault

/-- A wording of the failures that bring none of their own. -/
def message : ForeignFault → Text
  | undecodable => "the file is not encoded in UTF-8"
  | malformed => "the file is not a TOML document"
  | unsupported => "a value does not support the operation"
  | postponed => "a value is not available yet"
  | emptyList => "pop from empty list"
  | linkLoop => "symbolic links lead in a circle"
  | modeOutOfRange => "the permissions are out of range"
  | noHome => "the home directory is not known"
  | noDirectory => "the directory is not given"

end ForeignFault

namespace Failure

/-- The first line of a message about defects: how many there are. -/
def summary (record : RecordKind) (count : Nat) : Text :=
  Text.ofNat count ++ (if count = 1 then " validation error for " else " validation errors for ")
    ++ record.title

/-- The wording of a failure. The file that was being rendered goes first. -/
def message (foreign : ForeignFault → Text) : Failure → Text
  | skeleton none fault => fault.message
  | skeleton (some file) fault => file ++ ": " ++ fault.message
  | template fault => fault.message
  | misuse m => m.message
  | invalid record defects => summary record defects.length
  | .disk fault path => fault.message path
  | .foreign fault => foreign fault

/-- The failure with the file that was being rendered, unless it names one already. -/
def inFile (file : Text) : Failure → Failure
  | skeleton none fault => skeleton (some file) fault
  | template fault => skeleton (some file) (.unrendered fault)
  | failure => failure

end Failure

/-- What is reported without stopping an operation. -/
inductive Warning where
  /-- A bracket holds no known directive. -/
  | unknownDirective (directive : Text)
  /-- A field of a table of flags is not known. -/
  | unknownField (field : Text)
  /-- A manifest has a table `files`, which is not used. -/
  | misnamedTable (kind name : Text)
  /-- A skeleton has no manifest fragment. -/
  | noFragment (path : Text)
  /-- A symbolic link leads nowhere. -/
  | danglingLink (path : Text)
  | unloadable (kind path : Text) (failure : Failure)
  /-- A skeleton takes the place of another one. -/
  | overwritten (kind name path : Text)
  deriving DecidableEq

namespace Warning

/-- The wording of a warning. -/
def message (foreign : ForeignFault → Text) : Warning → Text
  | unknownDirective directive => "unknown flag " ++ directive.quoted
  | unknownField field => "discarding flags field " ++ field.quoted
  | misnamedTable kind name =>
      kind ++ " skeleton " ++ name.quoted ++ " has an entry [files], probably instead of [file]"
  | noFragment path => "file " ++ path ++ " does not exist"
  | danglingLink path => "ignoring dangling symlink " ++ path
  | unloadable kind path failure =>
      "could not load " ++ kind ++ " skeleton from " ++ path.quoted ++ ": "
        ++ failure.message foreign
  | overwritten kind name path =>
      kind ++ " skeleton " ++ name.quoted ++ " overwritten in " ++ path

end Warning

/-- A computation without state is one that leaves any state as it is. -/
instance {σ : Type} : MonadLift (Except Failure) (EStateM Failure σ) where
  monadLift
    | .ok a => pure a
    | .error failure => throw failure

/-- A computation that may fail and notes warnings on the way. The warnings before a failure are
kept. -/
abbrev Report := EStateM Failure (List Warning)

/-- Notes a warning. -/
def warn (w : Warning) : Report Unit := modify (· ++ [w])

end Scaffold
