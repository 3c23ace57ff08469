import Scaffold.Text.Blank
import Scaffold.Text.Digit

/-!
Numerals with a sign. An integer is written as digits of any script, with single underscores
between them where wanted, after an optional sign and between optional blanks; an octal numeral may
have the mark `0o` in front of its digits.
-/

namespace Scaffold.Numeral

/-- Whether a letter may stand around a numeral. The information separators, which are blank
elsewhere, may not. -/
def isMargin (c : Letter) : Bool := c.isBlank && !(0x1C ≤ c.rank && c.rank ≤ 0x1F)

/-- The value of a letter as a digit in base `base`, which is at most ten. -/
def digit? (base : Nat) (c : Letter) : Option Nat :=
  (c.char?.bind decimalValue?).filter (· < base)

/-- Reads the rest of a digit sequence whose digits so far have the value `value`. An underscore
must have a digit on either side; `afterDigit` says whether there is one on the left. -/
def digits? (base value : Nat) (afterDigit : Bool) : Text → Option Nat
  | [] => if afterDigit then some value else none
  | c :: rest =>
      if c = .char '_' then
        if afterDigit then digits? base value false rest else none
      else
        match digit? base c with
        | some digit => digits? base (value * base + digit) true rest
        | none => none

/-- A natural number in base `base`. -/
def natural? (base : Nat) (t : Text) : Option Nat := digits? base 0 false t

/-- The digits of an octal numeral after its mark. One underscore may follow the mark. -/
def unmarked : Text → Text
  | zero :: mark :: rest =>
      if digit? 8 zero = some 0 ∧ (mark = .char 'o' ∨ mark = .char 'O') then
        match rest with
        | .char '_' :: digits => digits
        | digits => digits
      else zero :: mark :: rest
  | t => t

/-- A number with an optional sign whose magnitude is read by `magnitude?`. -/
def signed? (magnitude? : Text → Option Nat) : Text → Option Int
  | .char '-' :: rest => (magnitude? rest).map fun n => -Int.ofNat n
  | .char '+' :: rest => (magnitude? rest).map Int.ofNat
  | t => (magnitude? t).map Int.ofNat

/-- Reads an octal integer. -/
def octal? (t : Text) : Option Int :=
  signed? (fun digits => natural? 8 (unmarked digits)) (t.trim isMargin)

/-- The number of digits that a decimal integer may have at most. -/
def maximalDigits : Nat := 4300

/-- Reads a decimal integer. -/
def decimal? (t : Text) : Option Int :=
  if (t.countP fun c => (digit? 10 c).isSome) ≤ maximalDigits then
    signed? (natural? 10) (t.trim isMargin)
  else none

end Scaffold.Numeral
