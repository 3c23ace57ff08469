import Scaffold.Text

/-!
Numbers in the 64-bit binary floating point format. A decimal is rounded to the nearest number of
the format, a tie to the even one; a number is written with the fewest digits that are rounded back
to it.
-/

namespace Scaffold

/-- A number of the format, given by its bits. -/
structure Binary64 where
  /-- The sign bit, then eleven exponent bits and fifty-two fraction bits. -/
  bits : UInt64
  deriving DecidableEq

namespace Binary64

/-- The bits of the magnitude infinity. -/
def infinityBits : Nat := 0x7FF * Nat.pow 2 52

/-- The number with the given sign and bits of the magnitude. -/
def ofMagnitude (negative : Bool) (magnitude : Nat) : Binary64 :=
  ⟨UInt64.ofNat (magnitude + if negative then Nat.pow 2 63 else 0)⟩

/-- Positive or negative infinity. -/
def infinity (negative : Bool) : Binary64 := ofMagnitude negative infinityBits

/-- The value that is no number. -/
def notANumber : Binary64 := ofMagnitude false (infinityBits + Nat.pow 2 51)

/-- Whether a number has the sign bit. -/
def isNegative (x : Binary64) : Bool := Nat.pow 2 63 ≤ x.bits.toNat

/-- The bits without the sign bit. -/
def magnitude (x : Binary64) : Nat := x.bits.toNat % Nat.pow 2 63

/-- A quotient rounded to the nearest natural number, a tie to the even one. -/
def roundedQuotient (numerator denominator : Nat) : Nat :=
  let quotient := numerator / denominator
  let twice := 2 * (numerator % denominator)
  if twice > denominator ∨ (twice = denominator ∧ quotient % 2 = 1) then quotient + 1
  else quotient

/-- The exponent of the last bit that a positive quotient has in the format, which is chosen such
that fifty-three bits remain, but is at least `-1074`. -/
def lastBit (numerator denominator : Nat) : Int :=
  let estimate : Int := Int.ofNat numerator.log2 - Int.ofNat denominator.log2
  let tooLarge :=
    if 0 ≤ estimate then numerator < denominator * Nat.pow 2 estimate.toNat
    else numerator * Nat.pow 2 (-estimate).toNat < denominator
  max (-1074) ((if tooLarge then estimate - 1 else estimate) - 52)

/-- The bits of the magnitude nearest to a positive quotient. -/
def magnitudeOfQuotient (numerator denominator : Nat) : Nat :=
  let exponent := lastBit numerator denominator
  let significand :=
    if 0 ≤ exponent then roundedQuotient numerator (denominator * Nat.pow 2 exponent.toNat)
    else roundedQuotient (numerator * Nat.pow 2 (-exponent).toNat) denominator
  min infinityBits ((exponent + 1074).toNat * Nat.pow 2 52 + significand)

/-- The number nearest to `± significand · 10 ^ exponent`. Decimals beyond the range of the format
are told by their number of digits. -/
def ofDecimal (negative : Bool) (significand : Nat) (exponent : Int) : Binary64 :=
  let size : Int := Int.ofNat (Nat.toDigits 10 significand).length + exponent
  if significand = 0 ∨ size < -330 then ofMagnitude negative 0
  else if 310 < size then infinity negative
  else if 0 ≤ exponent then
    ofMagnitude negative (magnitudeOfQuotient (significand * Nat.pow 10 exponent.toNat) 1)
  else ofMagnitude negative (magnitudeOfQuotient significand (Nat.pow 10 (-exponent).toNat))

/-- A finite magnitude as a quotient of natural numbers. -/
def quotient (magnitude : Nat) : Nat × Nat :=
  let biased := magnitude / Nat.pow 2 52
  let significand := if biased = 0 then magnitude else magnitude % Nat.pow 2 52 + Nat.pow 2 52
  let exponent : Int := Int.ofNat (max biased 1) - 1075
  if 0 ≤ exponent then (significand * Nat.pow 2 exponent.toNat, 1)
  else (significand, Nat.pow 2 (-exponent).toNat)

/-- The decimal exponent `e` with `10 ^ e ≤ numerator / denominator < 10 ^ (e + 1)`. -/
def decimalExponent (numerator denominator : Nat) : Int :=
  let estimate : Int := Int.ofNat (Nat.toDigits 10 numerator).length
    - Int.ofNat (Nat.toDigits 10 denominator).length
  let tooLarge :=
    if 0 ≤ estimate then numerator < denominator * Nat.pow 10 estimate.toNat
    else numerator * Nat.pow 10 (-estimate).toNat < denominator
  if tooLarge then estimate - 1 else estimate

/-- The multiple of `10 ^ exponent` nearest to a quotient, among its two neighbours on that grid
that are rounded back to `magnitude`. -/
def neighbour? (magnitude numerator denominator : Nat) (exponent : Int) : Option Nat :=
  let (top, bottom) :=
    if 0 ≤ exponent then (numerator, denominator * Nat.pow 10 exponent.toNat)
    else (numerator * Nat.pow 10 (-exponent).toNat, denominator)
  let below := top / bottom
  let fits := fun n => (ofDecimal false n exponent).magnitude = magnitude
  let nearest := roundedQuotient top bottom
  let other := if nearest = below then below + 1 else below
  if fits nearest then some nearest else if fits other then some other else none

/-- The fewest decimal digits that are rounded back to a positive finite magnitude, as a natural
number and a power of ten. Seventeen digits always suffice. -/
def shortest (magnitude : Nat) : Nat × Int :=
  let (numerator, denominator) := quotient magnitude
  let exponent := decimalExponent numerator denominator
  let candidates := (List.range 17).filterMap fun places =>
    (neighbour? magnitude numerator denominator (exponent - Int.ofNat places)).map
      fun n => (n, exponent - Int.ofNat places)
  candidates.headD (0, 0)

/-- Writes digits with the decimal point after `point` of them, in positional notation for
`-4 < point ≤ 16` and with an exponent of at least two digits otherwise. -/
def layout (digits : Text) (point : Int) : Text :=
  if -4 < point ∧ point ≤ 16 then
    if point ≤ 0 then
      Text.ofString "0." ++ List.replicate (-point).toNat (.char '0') ++ digits
    else
      let whole := digits.take point.toNat
      let padding := List.replicate (point.toNat - digits.length) (Letter.char '0')
      let fraction := digits.drop point.toNat
      whole ++ padding ++ [.char '.'] ++ (if fraction.isEmpty then [.char '0'] else fraction)
  else
    let exponent := point - 1
    let size := Text.ofNat exponent.natAbs
    let fraction := digits.drop 1
    digits.take 1 ++ (if fraction.isEmpty then [] else .char '.' :: fraction)
      ++ [.char 'e', .char (if exponent < 0 then '-' else '+')]
      ++ (if size.length < 2 then .char '0' :: size else size)

/-- A number as text. -/
def toText (x : Binary64) : Text :=
  let sign : Text := if x.isNegative then [.char '-'] else []
  if infinityBits < x.magnitude then Text.ofString "nan"
  else if x.magnitude = infinityBits then sign ++ Text.ofString "inf"
  else if x.magnitude = 0 then sign ++ Text.ofString "0.0"
  else
    let (significand, exponent) := shortest x.magnitude
    let all := Nat.toDigits 10 significand
    let digits := (all.reverse.dropWhile (· = '0')).reverse
    sign ++ layout (digits.map Letter.char) (Int.ofNat all.length + exponent)

/-- The integer that a number is, for a number with a fraction or without a value `none`. -/
def toInt? (x : Binary64) : Option Int :=
  if infinityBits ≤ x.magnitude then none
  else
    let (numerator, denominator) := quotient x.magnitude
    if numerator % denominator = 0 then
      let n := Int.ofNat (numerator / denominator)
      some (if x.isNegative then -n else n)
    else none

end Binary64

end Scaffold
