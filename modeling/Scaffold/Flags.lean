import Scaffold.Failure
import Scaffold.Number.Numeral

/-!
The flags of a file: where and how its output is written. They are declared in the manifest of its
skeleton and edited by the directives in its template.
-/

namespace Scaffold

/-- The write policy of one file. -/
structure FileFlags where
  /-- The path of the output, possibly with placeholders. Empty if the path of the source is
  used. -/
  targetPath : Text := []
  /-- Whether an existing output is kept. -/
  createOnce : Bool := false
  /-- Whether the output is to be registered with revision tracking. -/
  record : Bool := true
  /-- The file is skipped if one of these tags is active. -/
  skipTags : List Text := []
  /-- Whether the file is skipped in any case. -/
  forceSkip : Bool := false
  /-- One entry for each open branch, the innermost first: whether its text is suppressed. -/
  frames : List Bool := []
  /-- Whether the content is rendered as a template. -/
  substitutes : Bool := true
  /-- The permissions of the output. Zero if those of the source are used. -/
  permissions : Int := 0
  deriving DecidableEq

namespace FileFlags

/-- The same policy with no open branch. -/
def fresh (flags : FileFlags) : FileFlags := { flags with frames := [] }

/-- Whether an open branch suppresses text. -/
def suppressed (flags : FileFlags) : Bool := flags.frames.any id

end FileFlags

/-- Reads permissions, which are written as an octal number. -/
def permissions (digits : Text) : Except Failure Int :=
  match Numeral.octal? digits with
  | some n => .ok n
  | none => .error (.skeleton none (.invalidPermission digits))

end Scaffold
