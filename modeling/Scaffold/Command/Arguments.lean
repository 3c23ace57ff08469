import Scaffold.Text.Digit

/-!
Arguments of a command line. Arguments that start with a hyphen name switches, the others are
positional; after `--` all are positional. A long switch may be cut short as long as only one
switch starts like that, its value may follow after `=`, and short switches may be written together.
Two hyphens that stand in the place of a value are dropped, so that nothing is left of the value.
-/

namespace Scaffold.Command

/-- A switch of a command. -/
structure Switch (ι : Type) where
  /-- What the switch stands for. -/
  key : ι
  /-- Its spellings. -/
  names : List String
  /-- Whether a value goes with it. -/
  takesValue : Bool := false

/-- A switch as it is written: the spelling, and the value if it is written together with it. -/
structure Spelled (ι : Type) where
  /-- The switch. -/
  switch : Switch ι
  /-- The full spelling. -/
  name : Text
  /-- The value, or the short switches that follow. -/
  value : Option Text

/-- What an argument is. -/
inductive Word (ι : Type) where
  /-- A positional argument. -/
  | plain (t : Text)
  /-- The two hyphens after which all arguments are positional. -/
  | marker
  /-- A switch. -/
  | switch (t : Text) (spelled : Spelled ι)
  /-- Something that looks like a switch. -/
  | unknown (t : Text)

/-- The argument itself. -/
def Word.text {ι : Type} : Word ι → Text
  | plain t => t
  | marker => "--"
  | switch t _ => t
  | unknown t => t

/-- What the arguments demand, one thing after the other. -/
inductive Event (ι : Type) where
  /-- A switch with its value. There is none if the switch takes none, or if nothing is left of
  it. -/
  | switch (key : ι) (value : Option Text)
  /-- A positional argument, if anything is left of it. -/
  | positional (t : Option Text)
  /-- A positional argument with everything after it. -/
  | rest (arguments : List Text)
  /-- An argument that has no place. -/
  | unrecognized
  /-- The arguments make no sense from here on. -/
  | fault

variable {ι : Type}

/-- The hyphen. -/
def hyphen : Letter := .char '-'

/-- All spellings of switches. -/
def spellings (switches : List (Switch ι)) : List (Text × Switch ι) :=
  switches.flatMap fun s => s.names.map fun name => (Text.ofString name, s)

/-- The switch with exactly this spelling. -/
def spelled? (switches : List (Switch ι)) (name : Text) : Option (Switch ι) :=
  ((spellings switches).find? (·.1 = name)).map Prod.snd

/-- A text before and after its first equals sign. -/
def splitValue (t : Text) : Option (Text × Text) :=
  match t.dropWhile (· ≠ .char '=') with
  | [] => none
  | _ :: value => some (t.takeWhile (· ≠ .char '='), value)

/-- The switch that is spelled in full before an equals sign. -/
def assigned? (switches : List (Switch ι)) (t : Text) : Option (Spelled ι) :=
  match splitValue t with
  | some (name, value) =>
      (spelled? switches name).map fun s => { switch := s, name := name, value := some value }
  | none => none

/-- The switches that an argument may be short for. -/
def candidates (switches : List (Switch ι)) (t : Text) : List (Spelled ι) :=
  if t[1]? = some hyphen then
    let (start, value) := match splitValue t with
      | some (start, value) => (start, some value)
      | none => (t, none)
    ((spellings switches).filter fun entry => start.isPrefixOf entry.1).map fun entry =>
      { switch := entry.2, name := entry.1, value := value }
  else
    (spellings switches).filterMap fun entry =>
      if entry.1 = t.take 2 then
        some { switch := entry.2, name := entry.1, value := some (t.drop 2) }
      else if t.isPrefixOf entry.1 then some { switch := entry.2, name := entry.1, value := none }
      else none

/-- Whether all letters are decimal digits. -/
def allDecimal (t : Text) : Bool := t.all fun c => (c.char?.bind decimalValue?).isSome

/-- A text without a line feed at its end. -/
def dropLastBreak (t : Text) : Text := if t.getLast? = some (.char '\n') then t.dropLast else t

/-- Whether an argument is a negative number. A line feed may follow it. -/
def isNegativeNumber (t : Text) : Bool :=
  let digits := dropLastBreak (t.drop 1)
  let whole := digits.takeWhile (· ≠ .char '.')
  match digits.dropWhile (· ≠ .char '.') with
  | [] => !whole.isEmpty && allDecimal whole
  | _ :: fraction => allDecimal whole && !fraction.isEmpty && allDecimal fraction

/-- What an argument before `--` is; `none` if it is short for several switches. -/
def word? (switches : List (Switch ι)) (t : Text) : Option (Word ι) :=
  if t.head? ≠ some hyphen ∨ t = [hyphen] then some (.plain t)
  else
    match spelled? switches t with
    | some s => some (.switch t { switch := s, name := t, value := none })
    | none =>
    match assigned? switches t with
    | some spelled => some (.switch t spelled)
    | none =>
    match candidates switches t with
    | [spelled] => some (.switch t spelled)
    | _ :: _ :: _ => none
    | [] =>
        if isNegativeNumber t ∨ t.elem (.char ' ') then some (.plain t) else some (.unknown t)

/-- What the arguments are. -/
def words? (switches : List (Switch ι)) : List Text → Option (List (Word ι))
  | [] => some []
  | t :: rest =>
      if t = [hyphen, hyphen] then some (.marker :: rest.map .plain)
      else (word? switches t).bind fun word => (words? switches rest).map (word :: ·)

/-- What is left of an argument that is a value. -/
def valueOf (t : Text) : Option Text := if t = [hyphen, hyphen] then none else some t

/-- What a switch without a value of its own demands, and whether it takes the next argument, which
is given if it is positional. -/
def alone (s : Switch ι) (next : Option Text) : Option (List (Event ι) × Bool) :=
  if s.takesValue then next.map fun value => ([.switch s.key (some value)], true)
  else some ([.switch s.key none], false)

/-- What a switch demands together with what is written with it. For a short switch that takes no
value these are further short switches. -/
def together (switches : List (Switch ι)) (next : Option Text) (short : Bool) :
    Switch ι → Text → Option (List (Event ι) × Bool)
  | s, [] => if s.takesValue then some ([.switch s.key (some [])], false) else none
  | s, c :: rest =>
      if s.takesValue then some ([.switch s.key (valueOf (c :: rest))], false)
      else if short then
        match spelled? switches [hyphen, c] with
        | none => none
        | some following =>
            (if rest.isEmpty then alone following next
              else together switches next short following rest).map
              fun (events, takesNext) => (.switch s.key none :: events, takesNext)
      else none

/-- What a switch demands. -/
def demanded (switches : List (Switch ι)) (spelled : Spelled ι) (next : Option Text) :
    Option (List (Event ι) × Bool) :=
  match spelled.value with
  | none => alone spelled.switch next
  | some value =>
      together switches next (spelled.name[1]? ≠ some hyphen) spelled.switch value

/-- How many positional arguments a command takes. -/
inductive Positionals where
  /-- As many as the number says. -/
  | count (n : Nat)
  /-- One with everything after it. -/
  | rest
  deriving DecidableEq

/-- Whether positional arguments are missing. -/
def Positionals.isOpen : Positionals → Bool
  | count n => 0 < n
  | rest => true

/-- What stands in front of an argument, as far as the marker goes. The marker belongs to the
positional argument before it, or else to the one after it. -/
inductive Neighbour where
  /-- Neither a positional argument nor a marker that belongs to the next one. -/
  | other
  /-- A positional argument. -/
  | positional
  /-- A marker that belongs to the next argument. -/
  | marker
  deriving DecidableEq

/-- What words demand, where `before` stands in front of the first one. -/
def events (switches : List (Switch ι)) (before : Neighbour) (expected : Positionals) :
    List (Word ι) → List (Event ι)
  | [] => if expected.isOpen then [.fault] else []
  | .plain t :: more =>
      match expected with
      | .count 0 => .unrecognized :: events switches .other expected more
      | .count (n + 1) =>
          .positional (if before = .marker then some t else valueOf t)
            :: events switches .positional (.count n) more
      | .rest => [.rest (t :: more.map Word.text)]
  | .marker :: more =>
      if more.isEmpty then
        if before = .positional then events switches .other expected []
        else .unrecognized :: events switches .other expected []
      else
        match expected with
        | .rest => [.fault]
        | expected =>
            events switches (if before = .positional then .other else .marker) expected more
  | .unknown _ :: more => .unrecognized :: events switches .other expected more
  | .switch _ spelled :: .plain value :: more =>
      match demanded switches spelled (some value) with
      | none => [.fault]
      | some (first, true) => first ++ events switches .other expected more
      | some (first, false) => first ++ events switches .other expected (.plain value :: more)
  | .switch _ spelled :: more =>
      match demanded switches spelled none with
      | none => [.fault]
      | some (first, _) => first ++ events switches .other expected more

/-- What arguments demand. -/
def read (switches : List (Switch ι)) (expected : Positionals) (arguments : List Text) :
    List (Event ι) :=
  match words? switches arguments with
  | some words => events switches .other expected words
  | none => [.fault]

end Scaffold.Command
