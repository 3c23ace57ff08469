import Scaffold.Toml.Scalar
import Scaffold.Toml.Tree
import Scaffold.Text.Utf8

/-!
TOML documents, version 1.0. A document is read statement by statement, and each statement is
applied to what the ones before it have made of an empty table.
-/

namespace Scaffold.Toml

/-- Whether a letter may stand in a bare key. -/
def isBare (c : Letter) : Bool :=
  c.holds fun c => c.isAlphanum || c = '-' || c = '_'

/-- A text without spaces and tabs at its start. -/
def skipSpace (t : Text) : Text := t.dropWhile isSpace

/-- One part of a key. -/
def keyPart (t : Text) : Option (Text × Text) :=
  match t with
  | [] => none
  | c :: rest =>
      if isBare c then some (t.takeWhile isBare, t.dropWhile isBare)
      else if c = .char '\'' then literalString rest
      else if c = .char '"' then basicString false .off rest
      else none

/-- The parts of a key, with dots between them. -/
def keyParts : (fuel : Nat) → Reader (List Text)
  | 0, _ => none
  | fuel + 1, t => do
      let (part, t) ← keyPart t
      match skipSpace t with
      | .char '.' :: rest =>
          let (parts, rest) ← keyParts fuel (skipSpace rest)
          pure (part :: parts, rest)
      | rest => pure ([part], rest)

/-- A key, dotted or not. -/
def key (t : Text) : Option (List Text × Text) := keyParts (t.length + 1) t

/-- A text after a comment, if it starts with one. The comment may hold no control but the tab. -/
def skipComment (t : Text) : Option Text :=
  match t with
  | .char '#' :: rest =>
      let comment := rest.takeWhile (· != .char '\n')
      if comment.any isControl then none else some (rest.drop comment.length)
  | t => some t

/-- A text after spaces, line feeds and comments. -/
def skipLines : (fuel : Nat) → Text → Option Text
  | 0, t => some t
  | fuel + 1, t =>
      match t.dropWhile isSpaceOrBreak with
      | .char '#' :: rest =>
          match skipComment (.char '#' :: rest) with
          | some rest => skipLines fuel rest
          | none => none
      | t => some t

mutual

/-- A value of any kind. -/
def value : (fuel : Nat) → Text → Except ReadError (Data × Text)
  | 0, _ => .error .malformed
  | fuel + 1, t =>
      match t with
      | .char '[' :: rest => do
          let rest ← require (skipLines rest.length rest)
          match rest with
          | .char ']' :: rest => pure (.list [], rest)
          | rest => (items fuel rest).map fun (ds, rest) => (.list ds, rest)
      | .char '{' :: rest =>
          match skipSpace rest with
          | .char '}' :: rest => .ok (.table [], rest)
          | rest => (fields fuel [] rest).map fun (es, rest) => (.table (entriesToData es), rest)
      | t => scalar t

/-- The elements of an array up to its closing bracket. -/
def items : (fuel : Nat) → Text → Except ReadError (List Data × Text)
  | 0, _ => .error .malformed
  | fuel + 1, t => do
      let (d, t) ← value fuel t
      match ← require (skipLines t.length t) with
      | .char ']' :: rest => pure ([d], rest)
      | .char ',' :: rest =>
          match ← require (skipLines rest.length rest) with
          | .char ']' :: rest => pure ([d], rest)
          | rest => (items fuel rest).map fun (ds, rest) => (d :: ds, rest)
      | _ => .error .malformed

/-- The assignments of an inline table up to its closing brace, applied to `entries`. -/
def fields : (fuel : Nat) → Entries Item → Text → Except ReadError (Entries Item × Text)
  | 0, _, _ => .error .malformed
  | fuel + 1, entries, t => do
      let (path, t) ← require (key t)
      match t with
      | .char '=' :: rest =>
          let (d, rest) ← value fuel (skipSpace rest)
          let entries ← require (assign 0 d path entries)
          match skipSpace rest with
          | .char '}' :: rest => pure (entries, rest)
          | .char ',' :: rest => fields fuel entries (skipSpace rest)
          | _ => .error .malformed
      | _ => .error .malformed

end

/-- A statement of a document. -/
inductive Statement where
  /-- A header that opens a table. -/
  | table (path : List Text)
  /-- A header that opens one more table of a sequence. -/
  | element (path : List Text)
  /-- An assignment in the current table. -/
  | assign (path : List Text) (d : Data)

/-- A statement at the front of a text. -/
def statement (t : Text) : Except ReadError (Statement × Text) :=
  match t with
  | .char '[' :: .char '[' :: rest => do
      let (path, rest) ← require (key (skipSpace rest))
      let rest ← require (after? "]]" rest)
      pure (.element path, rest)
  | .char '[' :: rest => do
      let (path, rest) ← require (key (skipSpace rest))
      let rest ← require (after? "]" rest)
      pure (.table path, rest)
  | t => do
      let (path, rest) ← require (key t)
      match rest with
      | .char '=' :: rest =>
          let rest := skipSpace rest
          let (d, rest) ← value (rest.length + 1) rest
          pure (.assign path d, rest)
      | _ => .error .malformed

/-- Where the assignments of a document go, and what has been read so far. -/
structure Progress where
  /-- The number of headers so far. -/
  current : Nat
  /-- The path of the last header. -/
  header : List Text
  /-- The table of the document. -/
  root : Entries Item

/-- Applies one statement. -/
def Progress.apply (p : Progress) : Statement → Option Progress
  | .assign path d =>
      (changeAt (assign p.current d path) p.header p.root).map fun root => { p with root := root }
  | .table path =>
      (changeAt (declareTable (p.current + 1) (path.getLastD [])) path.dropLast p.root).map
        fun root => ⟨p.current + 1, path, root⟩
  | .element path =>
      (changeAt (declareElement (path.getLastD [])) path.dropLast p.root).map
        fun root => ⟨p.current + 1, path, root⟩

/-- Applies the statements of a text, each of which stands at the start of a line of its own. A
statement is applied before the next one is read. -/
def Progress.readAll : (fuel : Nat) → Progress → Text → Except ReadError Progress
  | 0, _, _ => .error .malformed
  | fuel + 1, p, t =>
      match skipSpace t with
      | [] => .ok p
      | .char '\n' :: rest => p.readAll fuel rest
      | .char '#' :: rest => do
          match ← require (skipComment (.char '#' :: rest)) with
          | [] => pure p
          | _ :: rest => p.readAll fuel rest
      | t => do
          let (first, rest) ← statement t
          let p ← require (p.apply first)
          match ← require (skipComment (skipSpace rest)) with
          | [] => pure p
          | .char '\n' :: rest => p.readAll fuel rest
          | _ => .error .malformed

/-- A text with a line feed in place of each carriage return that one follows. -/
def unifyBreaks : Text → Text
  | .char '\r' :: .char '\n' :: rest => .char '\n' :: unifyBreaks rest
  | c :: rest => c :: unifyBreaks rest
  | [] => []

/-- The table that a document describes. -/
def document (t : Text) : Except ReadError (Entries Data) :=
  let t := unifyBreaks t
  (Progress.readAll (t.length + 1) ⟨0, [], []⟩ t).map fun p => entriesToData p.root

/-- The table that the bytes of a file describe. -/
def read (bytes : Bytes) : Except ReadError (Entries Data) :=
  match Text.decodeStrict? bytes with
  | none => .error .undecodable
  | some t => document t

end Scaffold.Toml
