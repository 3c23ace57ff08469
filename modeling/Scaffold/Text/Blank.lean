import Scaffold.Text

/-!
White space. A letter is blank if it is a Unicode character with the property White_Space or one
of the four information separators; this is the white space that templates, numbers and
environment variables may have around them. Some blank letters end a line.
-/

namespace Scaffold

/-- The blank characters, as ranges of code points. -/
def blankRanges : List (Nat × Nat) :=
  [
    (0x9, 0xD), (0x1C, 0x20), (0x85, 0x85), (0xA0, 0xA0), (0x1680, 0x1680), (0x2000, 0x200A),
    (0x2028, 0x2029), (0x202F, 0x202F), (0x205F, 0x205F), (0x3000, 0x3000)]

/-- Whether a character is blank. -/
def isBlankChar (c : Char) : Bool :=
  blankRanges.any fun range => range.1 ≤ c.toNat && c.toNat ≤ range.2

/-- Whether a letter is blank; a stray byte is not. -/
def Letter.isBlank (c : Letter) : Bool := c.holds isBlankChar

/-- The characters that end a line, as ranges of code points. -/
def lineEndRanges : List (Nat × Nat) :=
  [(0xA, 0xD), (0x1C, 0x1E), (0x85, 0x85), (0x2028, 0x2029)]

/-- Whether a letter ends a line. -/
def Letter.endsLine (c : Letter) : Bool :=
  c.holds fun c => lineEndRanges.any fun range => range.1 ≤ c.toNat && c.toNat ≤ range.2

namespace Text

/-- A text without the blank letters at both ends. -/
def strip (t : Text) : Text := t.trim Letter.isBlank

/-- A text without the blank letters in front. -/
def stripStart (t : Text) : Text := t.dropWhile Letter.isBlank

/-- A text without the blank letters at its end. -/
def stripEnd (t : Text) : Text := (t.reverse.dropWhile Letter.isBlank).reverse

/-- Whether a text is not empty and consists of blank letters. -/
def isSpace (t : Text) : Bool := !t.isEmpty && t.all Letter.isBlank

/-- The longest blocks of letters that are not blank, in order. -/
def words : Text → List Text
  | [] => []
  | c :: rest =>
      if c.isBlank then words rest
      else
        match rest with
        | [] => [[c]]
        | next :: _ =>
            if next.isBlank then [c] :: words rest
            else
              match words rest with
              | [] => [[c]]
              | word :: more => (c :: word) :: more

/-- The lines of a text that follows the letters `line` of an unfinished line, the last one first.
A carriage return and a line feed behind it end one line. -/
def linesAfter (line : Text) : Text → List Text
  | [] => if line.isEmpty then [] else [line.reverse]
  | .char '\r' :: .char '\n' :: rest => line.reverse :: linesAfter [] rest
  | c :: rest =>
      if c.endsLine then line.reverse :: linesAfter [] rest else linesAfter (c :: line) rest

/-- The lines of a text, without what ends them. -/
def splitLines (t : Text) : List Text := linesAfter [] t

example : splitLines "a\r\n\nb\n" = [("a" : Text), [], ("b" : Text)] := by decide

/-- A text that begins in the given column, with blanks up to the next multiple of eight columns in
place of each tabulator. -/
def expandTabs (column : Nat) : Text → Text
  | [] => []
  | c :: rest =>
      if c = .char '\t' then
        List.replicate (8 - column % 8) (.char ' ') ++ expandTabs (column + (8 - column % 8)) rest
      else if c = .char '\n' ∨ c = .char '\r' then c :: expandTabs 0 rest
      else c :: expandTabs (column + 1) rest

end Text

end Scaffold
