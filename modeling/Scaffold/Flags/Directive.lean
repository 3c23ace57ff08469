import Scaffold.Change
import Scaffold.Flags

/-!
Directives. The text in a bracket is a word and its arguments, with colons between them. A directive
edits the flags of the file in which it stands: most set a field, and `if`, `elif`, `else` and `fi`
open, change and close branches. A directive that fails leaves the flags as they were.
-/

namespace Scaffold

/-- An edit of the flags of a file. -/
inductive Directive where
  /-- Sets the path of the output. -/
  | target (path : Text)
  /-- Keeps an existing output. -/
  | createOnce
  /-- Skips the file if a tag is active. -/
  | skipTag (tag : Text)
  /-- Skips the file. -/
  | skip
  /-- Does not register the output. -/
  | unrecorded
  /-- Sets the permissions of the output. -/
  | permissions (digits : Text)
  /-- Opens a branch. -/
  | branch (condition : List Text)
  /-- Turns the innermost branch around. -/
  | otherwise
  /-- Replaces the condition of the innermost branch. -/
  | alternative (condition : List Text)
  /-- Closes the innermost branch. -/
  | close
  /-- Anything else. -/
  | unknown (t : Text)
  deriving DecidableEq

/-- Whether a condition holds, if it is known. -/
abbrev Evaluator := List Text → Except Failure Bool

/-- A condition is about lists that may have changed. -/
abbrev LiveEvaluator := Changes → Evaluator

/-- What rendering changes: the flags of the file, the warnings noted so far, and the lists that its
placeholders change. -/
structure Sheet where
  /-- The flags of the file. -/
  flags : FileFlags
  /-- The warnings noted so far. -/
  warnings : List Warning := []
  /-- The changes of lists so far. -/
  changes : Changes := []
  deriving DecidableEq

/-- A step of rendering. What it has written on the sheet stays there if it fails. -/
abbrev Rendering := EStateM Failure Sheet

namespace Rendering

/-- Changes the flags. -/
def edit (change : FileFlags → FileFlags) : Rendering Unit :=
  modify fun sheet => { sheet with flags := change sheet.flags }

/-- Notes a warning. -/
def warn (w : Warning) : Rendering Unit :=
  modify fun sheet => { sheet with warnings := sheet.warnings ++ [w] }

end Rendering

namespace Directive

/-- The directive whose word and arguments are given; `t` is its whole text. -/
def ofTokens (t : Text) (word : Text) (arguments : List Text) : Directive :=
  if word = "if" then .branch arguments
  else if word = "elif" then .alternative arguments
  else
    match arguments with
    | [] =>
        if word = "create" then .createOnce
        else if word = "skip" then .skip
        else if word = "no-record" then .unrecorded
        else if word = "else" then .otherwise
        else if word = "fi" ∨ word = "endif" then .close
        else .unknown t
    | [argument] =>
        if word = "file" then .target argument
        else if word = "skip" then .skipTag argument
        else if word = "perm" then .permissions argument
        else .unknown t
    | _ => .unknown t

/-- The directive that a text spells. -/
def ofText (t : Text) : Directive :=
  match t.splitOn (.char ':') with
  | [] => .unknown t
  | word :: arguments => ofTokens t word arguments

/-- Changes the innermost open branch, which must exist. -/
def changeInnermost (word : BranchWord) (change : Bool → List Bool → Except Failure (List Bool))
    (flags : FileFlags) : Except Failure FileFlags :=
  match flags.frames with
  | [] => .error (.skeleton none (.unmatched word))
  | frame :: outer => (change frame outer).map fun frames => { flags with frames := frames }

/-- The flags after a directive. Conditions are decided by `evaluate`. -/
def edit (evaluate : Evaluator) (flags : FileFlags) : Directive → Except Failure FileFlags
  | .target path => .ok { flags with targetPath := path }
  | .createOnce => .ok { flags with createOnce := true }
  | .skipTag tag => .ok { flags with skipTags := flags.skipTags ++ [tag] }
  | .skip => .ok { flags with forceSkip := true }
  | .unrecorded => .ok { flags with record := false }
  | .permissions digits =>
      (Scaffold.permissions digits).map fun bits => { flags with permissions := bits }
  | .branch condition =>
      (evaluate condition).map fun holds => { flags with frames := (!holds) :: flags.frames }
  | .otherwise => changeInnermost .otherwise (fun frame outer => .ok ((!frame) :: outer)) flags
  | .alternative condition =>
      changeInnermost .alternative
        (fun _ outer => (evaluate condition).map fun holds => (!holds) :: outer) flags
  | .close => changeInnermost .close (fun _ outer => .ok outer) flags
  | .unknown _ => .ok flags

/-- Applies a directive to the flags of a sheet. One that is not known is reported. -/
def apply (evaluate : Evaluator) (directive : Directive) : Rendering Unit := do
  let flags ← directive.edit evaluate (← get).flags
  Rendering.edit fun _ => flags
  match directive with
  | .unknown t => Rendering.warn (.unknownDirective t)
  | _ => pure ()

end Directive

end Scaffold
