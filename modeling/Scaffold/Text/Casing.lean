import Scaffold.Text
import Scaffold.Text.Casing.Table

/-!
Upper, lower and title case of texts, by the full case mappings of Unicode: one letter may become
several, and a capital sigma becomes a final sigma at the end of a word.
-/

namespace Scaffold

namespace CaseData

/-- The image of a code point under the first run that it belongs to. -/
def shiftBy (runs : List (Nat × Nat × Nat × Int)) (n : Nat) : Option Nat :=
  (runs.find? fun run =>
      run.1 ≤ n && n ≤ run.2.1 && (n - run.1) % run.2.2.1 == 0).map
    fun run => (Int.ofNat n + run.2.2.2).toNat

/-- The image of a character: its exception, else its run, else the character itself. -/
def image (exceptions : List (Nat × List Nat)) (runs : List (Nat × Nat × Nat × Int))
    (c : Char) : List Char :=
  match exceptions.lookup c.toNat with
  | some points => points.map Char.ofNat
  | none =>
      match shiftBy runs c.toNat with
      | some point => [Char.ofNat point]
      | none => [c]

/-- Whether a code point lies in one of the ranges. -/
def within (ranges : List (Nat × Nat)) (c : Char) : Bool :=
  ranges.any fun range => range.1 ≤ c.toNat && c.toNat ≤ range.2

end CaseData

namespace Letter

/-- The image of a letter under a map of characters; a stray byte is its own image. -/
def mapChar (f : Char → List Char) : Letter → Text
  | char c => (f c).map char
  | stray byte => [stray byte]

/-- The upper case of a letter. -/
def upper : Letter → Text := mapChar (CaseData.image CaseData.upperExceptions CaseData.upperRuns)

/-- The lower case of a letter, whatever stands around it. -/
def lower : Letter → Text := mapChar (CaseData.image CaseData.lowerExceptions CaseData.lowerRuns)

/-- The title case of a letter. -/
def title (c : Letter) : Text :=
  match c.char?.bind fun c => CaseData.titleExceptions.lookup c.toNat with
  | some points => points.map fun point => char (Char.ofNat point)
  | none => c.upper

/-- Whether a letter has a case. -/
def isCased (c : Letter) : Bool := c.holds (CaseData.within CaseData.casedRanges)

/-- Whether a letter is passed over when its neighbours' case is asked for. -/
def isIgnorable (c : Letter) : Bool := c.holds (CaseData.within CaseData.ignorableRanges)

end Letter

namespace Text

/-- Whether the first letter that is not passed over has a case. -/
def startsCased (t : Text) : Bool :=
  match t.dropWhile Letter.isIgnorable with
  | [] => false
  | c :: _ => c.isCased

/-- The lower case of a letter between the letters `before` it, nearest first, and those `after`
it: a capital sigma is final if a cased letter precedes it and none follows. -/
def lowerBetween (before : Text) (c : Letter) (after : Text) : Text :=
  if c = .char 'Σ' then
    if startsCased before && !startsCased after then [.char 'ς'] else [.char 'σ']
  else c.lower

/-- The lower case of a text that follows the letters `before`, nearest first. -/
def lowerAfter (before : Text) : Text → Text
  | [] => []
  | c :: rest => lowerBetween before c rest ++ lowerAfter (c :: before) rest

/-- The title case of a text that follows the letters `before`, nearest first: the letters after a
cased letter are in lower case. -/
def titleAfter (before : Text) (inWord : Bool) : Text → Text
  | [] => []
  | c :: rest =>
      (if inWord then lowerBetween before c rest else c.title) ++
        titleAfter (c :: before) c.isCased rest

/-- A text in upper case. -/
def upper (t : Text) : Text := t.flatMap Letter.upper

/-- A text in lower case. -/
def lower (t : Text) : Text := lowerAfter [] t

/-- A text with every word in title case. -/
def title (t : Text) : Text := titleAfter [] false t

/-- A text with its first letter in title case and all others in lower case. -/
def capitalize : Text → Text
  | [] => []
  | c :: rest => c.title ++ lowerAfter [c] rest

end Text

end Scaffold
