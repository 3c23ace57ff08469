import Scaffold.Flags

/-!
The flags that a manifest declares: a table of flags for each path.
-/

namespace Scaffold

namespace FileFlags

/-- The failure of a field that has a value of another type. -/
def wrongType (field : Text) (expected : DataKind) (d : Data) : Failure :=
  .skeleton none (.wrongType field expected d.kind)

/-- A value that must be a text. -/
def expectText (field : Text) : Data → Except Failure Text
  | .text t => .ok t
  | d => .error (wrongType field .text d)

/-- A value that must be a truth value. -/
def expectBool (field : Text) : Data → Except Failure Bool
  | .bool b => .ok b
  | d => .error (wrongType field .bool d)

/-- A value that must be a list of texts. -/
def expectTexts (field : Text) : Data → Except Failure (List Text)
  | .list items => items.mapM (expectText field)
  | d => .error (wrongType field .list d)

/-- How the value of a key changes the flags, for the keys that are known; `field` names the key in
messages. -/
def setter? (field key : Text) : Option (Data → FileFlags → Except Failure FileFlags) :=
  if key = "file" then
    some fun d flags => (expectText field d).map fun path => { flags with targetPath := path }
  else if key = "create" then
    some fun d flags => (expectBool field d).map fun b => { flags with createOnce := b }
  else if key = "record" then
    some fun d flags => (expectBool field d).map fun b => { flags with record := b }
  else if key = "skips" then
    some fun d flags => (expectTexts field d).map fun tags => { flags with skipTags := tags }
  else if key = "skip" then
    some fun d flags => (expectBool field d).map fun b => { flags with forceSkip := b }
  else if key = "subst" then
    some fun d flags => (expectBool field d).map fun b => { flags with substitutes := b }
  else if key = "perm" then
    some fun d flags => do
      let bits ← Scaffold.permissions (← expectText field d)
      pure { flags with permissions := bits }
  else none

/-- The flags after one entry of the table of `path`. A key that is not known is reported. -/
def setField (path : Text) (flags : FileFlags) (entry : Text × Data) : Report FileFlags := do
  let field := "file." ++ path ++ "." ++ entry.1
  match setter? field entry.1 with
  | some set => set entry.2 flags
  | none =>
      warn (.unknownField field)
      pure flags

/-- The flags that a table declares for `path`. -/
def ofTable (path : Text) : Data → Report FileFlags
  | .table entries => entries.foldlM (setField path) {}
  | _ => throw (.skeleton none (.flagsNotTable path))

/-- The flags that a manifest declares. The kind and the name of its skeleton serve to report a
table `files`. -/
def ofManifest (kind name : Text) (manifest : Entries Data) : Report (Entries FileFlags) := do
  if (manifest.get? "files").isSome then
    warn (.misnamedTable kind name)
  match manifest.get? "file" with
  | none => return []
  | some (.table files) => files.mapM fun entry => do
      return (entry.1, ← ofTable entry.1 entry.2)
  | some _ => throw (.skeleton none .filesNotTable)

end FileFlags

end Scaffold
