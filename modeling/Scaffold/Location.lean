import Scaffold.Text

/-!
Locations of files and directories, as they are written. A location may start at the root, and it
keeps its names; the name `.` and repeated slashes have no meaning and are dropped.
-/

namespace Scaffold

/-- A path seen from a directory. -/
def joinPaths (directory path : Text) : Text :=
  if path.head? = some (.char '/') then path
  else if directory = [] ∨ directory.getLast? = some (.char '/') then directory ++ path
  else directory ++ [.char '/'] ++ path

/-- A location, absolute or relative. -/
structure Location where
  /-- What an absolute location starts with: one slash, or two if exactly two are written. Empty
  for a relative one. -/
  anchor : Text
  /-- The names on the way. -/
  names : List Text
  deriving DecidableEq

namespace Location

/-- The separator of names. -/
def slash : Letter := .char '/'

/-- The location that a text spells. -/
def ofText (t : Text) : Location where
  anchor :=
    match (t.takeWhile (· = slash)).length with
    | 0 => []
    | 2 => [slash, slash]
    | _ => [slash]
  names := (t.splitOn slash).filter fun name => name ≠ [] ∧ name ≠ [.char '.']

/-- The shortest spelling of a location. -/
def toText (l : Location) : Text :=
  match l.anchor ++ Text.join [slash] l.names with
  | [] => "."
  | c :: rest => c :: rest

/-- Whether a location starts at the root. -/
def isAbsolute (l : Location) : Bool := l.anchor ≠ []

/-- The location `l`, seen from `base`. -/
def under (base l : Location) : Location :=
  if l.isAbsolute then l else { base with names := base.names ++ l.names }

/-- The location of a path, seen from `base`. -/
def child (base : Location) (path : Text) : Location := base.under (ofText path)

/-- The directory of a location; the end of the names is its own directory. -/
def parent (l : Location) : Location := { l with names := l.names.dropLast }

/-- The location of a name in the directory `l`. -/
def entry (l : Location) (name : Text) : Location := { l with names := l.names ++ [name] }

/-- Whether a location is `base` or below it, by its names. -/
def isUnder (l base : Location) : Bool := l.anchor = base.anchor && base.names.isPrefixOf l.names

end Location

end Scaffold
