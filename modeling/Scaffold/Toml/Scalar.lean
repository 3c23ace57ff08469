import Scaffold.Data
import Scaffold.Number.Numeral

/-!
The values of TOML that hold no other value: strings, numbers, dates and times. Each reader takes
the text that starts with the value and gives the value and the text after it.
-/

namespace Scaffold.Toml

/-- Reads something off the front of a text. -/
abbrev Reader (α : Type) := Text → Option (α × Text)

/-- Why a text or the bytes of a file are no document. -/
inductive ReadError where
  /-- The bytes are not UTF-8. -/
  | undecodable
  /-- The text is no document. -/
  | malformed
  /-- A decimal integer has more digits than are read. -/
  | tooManyDigits (count : Nat)
  deriving DecidableEq

/-- What was read, which must be there. -/
def require {α : Type} : Option α → Except ReadError α
  | some a => .ok a
  | none => .error .malformed

/-- Whether a letter is a space or a tab. -/
def isSpace (c : Letter) : Bool := c = .char ' ' || c = .char '\t'

/-- Whether a letter is a space, a tab or a line feed. -/
def isSpaceOrBreak (c : Letter) : Bool := isSpace c || c = .char '\n'

/-- Whether a letter is a control other than the tab. -/
def isControl (c : Letter) : Bool := (c.rank < 0x20 && c != .char '\t') || c.rank == 0x7F

/-- Whether a letter may not stand in a string; line feeds are at home in strings of several
lines. -/
def isIllegal (multiline : Bool) (c : Letter) : Bool :=
  isControl c && !(multiline && c = .char '\n')

/-- The text after `start`, if the text starts with it. -/
def after? (start : String) (t : Text) : Option Text :=
  let start := Text.ofString start
  if start.isPrefixOf t then some (t.drop start.length) else none

/-- The value of an ASCII digit in a base up to sixteen. -/
def digitValue? (base : Nat) (c : Letter) : Option Nat :=
  let n := c.rank
  let value :=
    if 0x30 ≤ n ∧ n ≤ 0x39 then n - 0x30
    else if 0x41 ≤ n ∧ n ≤ 0x46 then n - 0x37
    else if 0x61 ≤ n ∧ n ≤ 0x66 then n - 0x57
    else 16
  if value < base then some value else none

/-- The number that ASCII digits spell, if all letters are digits. -/
def number? (base : Nat) (t : Text) : Option Nat :=
  t.foldlM (fun value c => (digitValue? base c).map (value * base + ·)) 0

/-- The character with the code point that hexadecimal digits spell. -/
def escapedChar? (digits : Text) : Option Letter :=
  match number? 16 digits with
  | some point => if h : point.isValidChar then some (.char (Char.ofNatAux point h)) else none
  | none => none

/-- The character behind a backslash and one letter. -/
def shortEscape? (c : Letter) : Option Letter :=
  match c with
  | .char 'b' => some (.char '\x08')
  | .char 't' => some (.char '\t')
  | .char 'n' => some (.char '\n')
  | .char 'f' => some (.char '\x0c')
  | .char 'r' => some (.char '\r')
  | .char '"' => some (.char '"')
  | .char '\\' => some (.char '\\')
  | _ => none

/-- What a string of several lines does with spaces after a backslash at the end of a line. -/
inductive Folding where
  /-- Letters are read as they are. -/
  | off
  /-- Spaces are dropped up to the end of the line, which must follow. -/
  | lineEnd
  /-- Spaces and line feeds are dropped. -/
  | blanks

/-- Up to two more quotes after the three that close a string belong to the string. -/
def extraQuotes (quote : Letter) : Text → Text × Text
  | first :: second :: rest =>
      if first = quote then
        if second = quote then ([quote, quote], rest) else ([quote], second :: rest)
      else ([], first :: second :: rest)
  | [only] => if only = quote then ([quote], []) else ([], [only])
  | [] => ([], [])

/-- Puts letters in front of a value that was read. -/
def consume (letters : Text) : Option (Text × Text) → Option (Text × Text) :=
  Option.map fun (t, rest) => (letters ++ t, rest)

/-- The rest of a basic string, after its opening quotes. -/
def basicString (multiline : Bool) : Folding → Reader Text
  | _, [] => none
  | folding, c :: rest =>
      match folding with
      | .lineEnd =>
          if isSpace c then basicString multiline .lineEnd rest
          else if c = .char '\n' then basicString multiline .blanks rest
          else none
      | _ =>
      if (match folding with | .blanks => isSpaceOrBreak c | _ => false) then
        basicString multiline .blanks rest
      else if c = .char '"' then
        if multiline then
          match rest with
          | second :: third :: tail =>
              if second = .char '"' ∧ third = .char '"' then some (extraQuotes (.char '"') tail)
              else consume [c] (basicString multiline .off (second :: third :: tail))
          | [second] => consume [c] (basicString multiline .off [second])
          | [] => none
        else some ([], rest)
      else if c = .char '\\' then
        match rest with
        | [] => none
        | e :: tail =>
            if e = .char 'u' then
              match tail with
              | h1 :: h2 :: h3 :: h4 :: tail =>
                  match escapedChar? [h1, h2, h3, h4] with
                  | some d => consume [d] (basicString multiline .off tail)
                  | none => none
              | _ => none
            else if e = .char 'U' then
              match tail with
              | h1 :: h2 :: h3 :: h4 :: h5 :: h6 :: h7 :: h8 :: tail =>
                  match escapedChar? [h1, h2, h3, h4, h5, h6, h7, h8] with
                  | some d => consume [d] (basicString multiline .off tail)
                  | none => none
              | _ => none
            else if multiline ∧ isSpace e then basicString multiline .lineEnd tail
            else if multiline ∧ e = .char '\n' then basicString multiline .blanks tail
            else
              match shortEscape? e with
              | some d => consume [d] (basicString multiline .off tail)
              | none => none
      else if isIllegal multiline c then none
      else consume [c] (basicString multiline .off rest)

/-- The rest of a literal string of one line, after its opening quote. -/
def literalString : Reader Text
  | [] => none
  | c :: rest =>
      if c = .char '\'' then some ([], rest)
      else if isIllegal false c then none
      else consume [c] (literalString rest)

/-- The rest of a literal string of several lines, after its opening quotes. -/
def literalBlock : Reader Text
  | [] => none
  | c :: rest =>
      if c = .char '\'' then
        match rest with
        | second :: third :: tail =>
            if second = .char '\'' ∧ third = .char '\'' then some (extraQuotes (.char '\'') tail)
            else consume [c] (literalBlock (second :: third :: tail))
        | [second] => consume [c] (literalBlock [second])
        | [] => none
      else if isIllegal true c then none
      else consume [c] (literalBlock rest)

/-- A text without a line feed at its start. -/
def dropBreak (t : Text) : Text :=
  match t with
  | .char '\n' :: rest => rest
  | t => t

/-- A string of any of the four forms. -/
def string (t : Text) : Option (Text × Text) :=
  match after? "\"\"\"" t with
  | some rest => basicString true .off (dropBreak rest)
  | none =>
  match after? "\"" t with
  | some rest => basicString false .off rest
  | none =>
  match after? "'''" t with
  | some rest => literalBlock (dropBreak rest)
  | none =>
  match after? "'" t with
  | some rest => literalString rest
  | none => none

/-- A number of exactly `width` digits between the bounds. -/
def field (width low high : Nat) : Reader Nat := fun t =>
  match number? 10 (t.take width) with
  | some n =>
      if (t.take width).length = width ∧ low ≤ n ∧ n ≤ high then some (n, t.drop width) else none
  | none => none

/-- A letter that must follow. -/
def letter (c : Char) : Reader Unit := fun t =>
  match t with
  | d :: rest => if d = .char c then some ((), rest) else none
  | [] => none

/-- The fraction of a second, of which six digits count. -/
def fraction (t : Text) : Nat × Text :=
  match t with
  | .char '.' :: rest =>
      let digits := rest.takeWhile fun c => (digitValue? 10 c).isSome
      if digits.isEmpty then (0, t)
      else
        let kept := digits.take 6
        (((number? 10 kept).getD 0) * Nat.pow 10 (6 - kept.length), rest.drop digits.length)
  | t => (0, t)

/-- A time of day. -/
def timeOfDay (t : Text) : Option (TimeOfDay × Text) := do
  let (hour, t) ← field 2 0 23 t
  let (_, t) ← letter ':' t
  let (minute, t) ← field 2 0 59 t
  let (_, t) ← letter ':' t
  let (second, t) ← field 2 0 59 t
  let (microsecond, t) := fraction t
  pure (⟨hour, minute, second, microsecond⟩, t)

/-- Hours and minutes of an offset. -/
def offsetMinutes (t : Text) : Option (Nat × Text) := do
  let (hours, t) ← field 2 0 23 t
  let (_, t) ← letter ':' t
  let (minutes, t) ← field 2 0 59 t
  pure (hours * 60 + minutes, t)

/-- The offset after a time, if one follows. -/
def offset (t : Text) : Option Int × Text :=
  match t with
  | .char 'Z' :: rest => (some 0, rest)
  | .char 'z' :: rest => (some 0, rest)
  | .char '+' :: rest =>
      match offsetMinutes rest with
      | some (minutes, rest) => (some (Int.ofNat minutes), rest)
      | none => (none, t)
  | .char '-' :: rest =>
      match offsetMinutes rest with
      | some (minutes, rest) => (some (-Int.ofNat minutes), rest)
      | none => (none, t)
  | t => (none, t)

/-- A day of the calendar, which need not exist. -/
def day (t : Text) : Option (Date × Text) := do
  let (year, t) ← field 4 0 9999 t
  let (_, t) ← letter '-' t
  let (month, t) ← field 2 1 12 t
  let (_, t) ← letter '-' t
  let (day, t) ← field 2 1 31 t
  pure (⟨year, month, day⟩, t)

/-- The time that follows a day, after `T` or a space. -/
def timeAfterDay (t : Text) : Option (TimeOfDay × Text) :=
  match t with
  | c :: rest =>
      if c = .char 'T' ∨ c = .char 't' ∨ c = .char ' ' then timeOfDay rest else none
  | [] => none

/-- Digits in a base with single underscores between them, the first of which has been read. -/
def moreDigits (base : Nat) : Text → Text × Text
  | c :: rest =>
      if (digitValue? base c).isSome then
        let (digits, rest) := moreDigits base rest
        (c :: digits, rest)
      else if c = .char '_' then
        match rest with
        | d :: tail =>
            if (digitValue? base d).isSome then
              let (digits, rest) := moreDigits base tail
              (d :: digits, rest)
            else ([], c :: d :: tail)
        | [] => ([], [c])
      else ([], c :: rest)
  | [] => ([], [])

/-- At least one digit, without the underscores. -/
def digits (base : Nat) (t : Text) : Option (Text × Text) :=
  match t with
  | c :: rest =>
      if (digitValue? base c).isSome then
        let (more, rest) := moreDigits base rest
        some (c :: more, rest)
      else none
  | [] => none

/-- A sign that may stand in front of a number. -/
def sign (t : Text) : Bool × Text :=
  match t with
  | .char '-' :: rest => (true, rest)
  | .char '+' :: rest => (false, rest)
  | t => (false, t)

/-- An integer in base two, eight or sixteen. -/
def markedInteger (t : Text) : Option (Data × Text) :=
  let read := fun (base : Nat) (mark : String) =>
    (after? mark t).bind fun rest =>
      (digits base rest).bind fun (ds, rest) =>
        (number? base ds).map fun n => (Data.int (Int.ofNat n), rest)
  (read 16 "0x").or ((read 2 "0b").or (read 8 "0o"))

/-- The integer part of a decimal number: a zero alone, or digits that start with none. -/
def wholePart (t : Text) : Option (Text × Text) :=
  match t with
  | .char '0' :: rest => some ([.char '0'], rest)
  | t => digits 10 t

/-- The digits after a decimal point, if there are any. -/
def fractionPart (t : Text) : Option (Text × Text) :=
  match t with
  | .char '.' :: rest => digits 10 rest
  | _ => none

/-- The exponent of a decimal number, if there is one. -/
def exponentPart (t : Text) : Option (Int × Text) :=
  match t with
  | c :: rest =>
      if c = .char 'e' ∨ c = .char 'E' then
        let (negative, rest) := sign rest
        (digits 10 rest).bind fun (ds, rest) =>
          (number? 10 ds).map fun n => (if negative then -Int.ofNat n else Int.ofNat n, rest)
      else none
  | [] => none

/-- A decimal number as it is written. -/
structure Decimal where
  /-- Whether it has a minus sign. -/
  negative : Bool
  /-- The digits in front of the point. -/
  whole : Text
  /-- The digits after the point. -/
  fraction : Text
  /-- The exponent, if there is one. -/
  exponent : Option Int

/-- Whether a decimal number is an integer: it has neither a fraction nor an exponent. -/
def Decimal.isInteger (x : Decimal) : Bool := x.fraction.isEmpty && x.exponent.isNone

/-- The value of a decimal number. The digits of integers are limited in number. -/
def Decimal.toData (x : Decimal) : Except ReadError Data :=
  let n := (number? 10 (x.whole ++ x.fraction)).getD 0
  if x.isInteger then
    if Numeral.maximalDigits < x.whole.length then .error (.tooManyDigits x.whole.length)
    else .ok (.int (if x.negative then -Int.ofNat n else Int.ofNat n))
  else
    .ok (.float (.ofDecimal x.negative n (x.exponent.getD 0 - Int.ofNat x.fraction.length)))

/-- A decimal number. -/
def decimal (t : Text) : Option (Decimal × Text) :=
  let (negative, t) := sign t
  match wholePart t with
  | none => none
  | some (whole, t) =>
      let (fraction, afterFraction) := (fractionPart t).getD ([], t)
      match exponentPart afterFraction with
      | some (n, rest) => some (⟨negative, whole, fraction, some n⟩, rest)
      | none => some (⟨negative, whole, fraction, none⟩, afterFraction)

/-- The numbers that are written as words. -/
def namedNumber (t : Text) : Option (Data × Text) :=
  let (negative, t) := sign t
  ((after? "inf" t).map fun rest => (Data.float (.infinity negative), rest)).or
    ((after? "nan" t).map fun rest => (Data.float .notANumber, rest))

/-- A number. -/
def number (t : Text) : Except ReadError (Data × Text) :=
  match markedInteger t with
  | some found => .ok found
  | none =>
  match decimal t with
  | some (x, rest) => x.toData.map fun d => (d, rest)
  | none => require (namedNumber t)

/-- A date, a time or a number. -/
def dateOrNumber (t : Text) : Except ReadError (Data × Text) :=
  match day t with
  | some (date, afterDay) =>
      if date.isValid then
        match timeAfterDay afterDay with
        | some (time, rest) =>
            let (offset, rest) := offset rest
            .ok (.dateTime ⟨date, time, offset⟩, rest)
        | none => .ok (.date date, afterDay)
      else .error .malformed
  | none =>
  match timeOfDay t with
  | some (time, rest) => .ok (.time time, rest)
  | none => number t

/-- A value that holds no other value. -/
def scalar (t : Text) : Except ReadError (Data × Text) :=
  match t with
  | .char '"' :: _ => (require (string t)).map fun (s, rest) => (.text s, rest)
  | .char '\'' :: _ => (require (string t)).map fun (s, rest) => (.text s, rest)
  | _ =>
  match after? "true" t with
  | some rest => .ok (.bool true, rest)
  | none =>
  match after? "false" t with
  | some rest => .ok (.bool false, rest)
  | none => dateOrNumber t

end Scaffold.Toml
