import Scaffold.Text
import Scaffold.Text.Printable

/-!
Quoted texts, as messages show them. A text stands between single quotes, or between double quotes
if it holds a single quote and no double one; the quote in use, backslashes and all letters that
are not printable are escaped.
-/

namespace Scaffold

namespace Text

/-- The lower case hexadecimal digits of a number, with leading zeros up to `width` of them. -/
def hexadecimal (width n : Nat) : Text :=
  let digits := (Nat.toDigits 16 n).map Letter.char
  List.replicate (width - digits.length) (Letter.char '0') ++ digits

/-- The escape of a code point, by its size: two, four or eight digits. -/
def escapedPoint (n : Nat) : Text :=
  if n < 0x100 then ofString "\\x" ++ hexadecimal 2 n
  else if n < 0x10000 then ofString "\\u" ++ hexadecimal 4 n
  else ofString "\\U" ++ hexadecimal 8 n

/-- One letter inside of a quoted text whose quote is `quote`. -/
def quotedLetter (quote : Char) : Letter → Text
  | .stray byte => escapedPoint (Letter.stray byte).rank
  | .char c =>
      if c = quote ∨ c = '\\' then [.char '\\', .char c]
      else if c = '\n' then ofString "\\n"
      else if c = '\r' then ofString "\\r"
      else if c = '\t' then ofString "\\t"
      else if isPrintable c then [.char c]
      else escapedPoint c.toNat

/-- The quote around a text. -/
def quoteOf (t : Text) : Char :=
  if t.elem (.char '\'') && !t.elem (.char '"') then '"' else '\''

/-- A text between quotes. -/
def quoted (t : Text) : Text :=
  let quote := quoteOf t
  .char quote :: t.flatMap (quotedLetter quote) ++ [.char quote]

end Text

end Scaffold
