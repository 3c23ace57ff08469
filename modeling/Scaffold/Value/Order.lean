import Scaffold.Value

/-!
The order in which a list of values is sorted. Numbers go by their size, texts by their letters and
lists by their first items that differ. Other values have no order, which is no matter as long as
they need not be compared.
-/

namespace Scaffold

namespace Value

/-- The size of a number. -/
inductive Size where
  | notANumber
  | infinite (negative : Bool)
  /-- A quotient with a positive denominator. -/
  | finite (numerator : Int) (denominator : Nat)
  deriving DecidableEq

namespace Size

/-- Whether a size comes before another one. -/
def less : Size → Size → Bool
  | finite n d, finite m e => n * Int.ofNat e < m * Int.ofNat d
  | finite _ _, infinite negative => !negative
  | infinite negative, finite _ _ => negative
  | infinite negative, infinite negative' => negative && !negative'
  | _, _ => false

/-- Whether two sizes are equal. -/
def same : Size → Size → Bool
  | finite n d, finite m e => n * Int.ofNat e = m * Int.ofNat d
  | infinite negative, infinite negative' => negative = negative'
  | _, _ => false

/-- The size of a number of the floating point format. -/
def ofFloat (x : Binary64) : Size :=
  if Binary64.infinityBits < x.magnitude then notANumber
  else if x.magnitude = Binary64.infinityBits then infinite x.isNegative
  else
    let (numerator, denominator) := Binary64.quotient x.magnitude
    finite (if x.isNegative then -Int.ofNat numerator else Int.ofNat numerator) denominator

end Size

/-- The size of a value that is a number. Truth values count as numbers. -/
def size? : Value → Option Size
  | bool b => some (.finite (if b then 1 else 0) 1)
  | int n => some (.finite n 1)
  | float x => some (.ofFloat x)
  | _ => none

/-- Whether two values that hold no others are equal. -/
def sameAtom (v w : Value) : Bool :=
  match v.size?, w.size? with
  | some a, some b => a.same b
  | none, none =>
      match v.text?, w.text? with
      | some s, some t => s = t
      | _, _ => false
  | _, _ => false

mutual

/-- Whether two values are equal. -/
def same : Value → Value → Bool
  | null, null => true
  | list _ items, list _ others => sameItems items others
  | table entries, table others =>
      entries.length = others.length && sameEntries entries others
  | project _ p, project _ q => p = q
  | package p, package q => p = q
  | v, w => sameAtom v w

/-- Whether two lists have equal items. -/
def sameItems : List Value → List Value → Bool
  | [], [] => true
  | item :: rest, other :: others => same item other && sameItems rest others
  | _, _ => false

/-- Whether a table has equal values for all keys of some entries. -/
def sameEntries : List (Text × Value) → Entries Value → Bool
  | [], _ => true
  | (key, value) :: rest, others =>
      (match others.get? key with
        | some other => same value other
        | none => false) && sameEntries rest others

end

mutual

/-- Whether a value comes before another one, if they can be compared. -/
def less? : Value → Value → Option Bool
  | list _ items, list _ others => lessItems? items others
  | v, w =>
      match v.size?, w.size?, v.text?, w.text? with
      | some a, some b, _, _ => some (a.less b)
      | _, _, some s, some t => some (s < t)
      | _, _, _, _ => none

/-- Whether the items of a list come before those of another one. -/
def lessItems? : List Value → List Value → Option Bool
  | [], others => some !others.isEmpty
  | _ :: _, [] => some false
  | item :: rest, other :: others =>
      if same item other then lessItems? rest others else less? item other

end

/-- Whether a value may stand before another one in a sorted list. -/
def atMost (v w : Value) : Bool := less? w v ≠ some true

/-- Whether all items of a list can be compared with each other. -/
def areComparable : List Value → Bool
  | [] => true
  | v :: rest => (rest.all fun w => (less? w v).isSome) && areComparable rest

end Value

end Scaffold
