/-!
Texts as they are read from files. A text is a list of letters; a letter is a Unicode character, or
a byte that belongs to no well-formed UTF-8 sequence and is carried along unchanged.

The order of texts is the lexicographic order of `Letter.rank`; it is linear (`lt_trichotomy`).
-/

namespace Scaffold

/-- One position of a text. -/
inductive Letter where
  /-- A Unicode character. -/
  | char (c : Char)
  /-- A byte outside of every well-formed UTF-8 sequence. -/
  | stray (byte : UInt8)
  deriving DecidableEq

/-- A sequence of letters. -/
abbrev Text := List Letter

namespace Letter

/-- The place of a letter in the order of texts: a character's code point, and for a stray byte a
number of the surrogate range `0xDC00 … 0xDCFF`, which holds no character. -/
def rank : Letter → Nat
  | char c => c.toNat
  | stray byte => 0xDC00 + byte.toNat

instance : LT Letter := ⟨fun a b => a.rank < b.rank⟩

instance (a b : Letter) : Decidable (a < b) := inferInstanceAs (Decidable (a.rank < b.rank))

theorem lt_iff_rank_lt {a b : Letter} : a < b ↔ a.rank < b.rank := Iff.rfl

/-- No character lies in the range of numbers that stray bytes take. -/
theorem rank_injective {a b : Letter} (h : a.rank = b.rank) : a = b := by
  have hvalid : ∀ c : Char, c.toNat < 0xD800 ∨ 0xDFFF < c.toNat := by
    intro c
    rcases c.valid with hlow | ⟨hhigh, -⟩
    · exact Or.inl hlow
    · exact Or.inr hhigh
  cases a with
  | char c =>
      cases b with
      | char d => exact congrArg char (Char.toNat_inj.mp h)
      | stray byte =>
          have := hvalid c
          have := byte.toNat_lt
          simp only [rank] at h
          omega
  | stray byte =>
      cases b with
      | char d =>
          have := hvalid d
          have := byte.toNat_lt
          simp only [rank] at h
          omega
      | stray other =>
          simp only [rank, Nat.add_left_cancel_iff] at h
          exact congrArg stray (UInt8.toNat_inj.mp h)

/-- The character of a letter, for a stray byte `none`. -/
def char? : Letter → Option Char
  | char c => some c
  | stray _ => none

/-- Whether a letter is a character that satisfies `p`. -/
def holds (p : Char → Bool) : Letter → Bool
  | char c => p c
  | stray _ => false

end Letter

namespace Text

/-- The text that spells a string. -/
def ofString (s : String) : Text := s.toList.map Letter.char

instance : Coe String Text := ⟨ofString⟩

instance : LawfulBEq Text := inferInstance

/-- The string that a text spells, if it holds no stray byte. -/
def toString? (t : Text) : Option String := (t.mapM Letter.char?).map String.ofList

/-- The pieces of a text between the occurrences of `sep`; always one more than there are
occurrences. -/
def splitOn (sep : Letter) : Text → List Text
  | [] => [[]]
  | c :: rest =>
      match splitOn sep rest with
      | [] => [[]]
      | piece :: pieces => if c = sep then [] :: piece :: pieces else (c :: piece) :: pieces

/-- The texts one after the other, with `sep` between each two. -/
def join (sep : Text) (pieces : List Text) : Text := List.intercalate sep pieces

/-- Whether a text contains `part` as a block of consecutive letters. -/
def contains (part : Text) : Text → Bool
  | [] => part.isEmpty
  | c :: rest => part.isPrefixOf (c :: rest) || contains part rest

/-- A text without the letters at both ends that satisfy `p`. -/
def trim (p : Letter → Bool) (t : Text) : Text :=
  ((t.dropWhile p).reverse.dropWhile p).reverse

/-- Whether a text comes before another one or is the same. -/
def atMost (a b : Text) : Bool := !decide (b < a)

/-- The texts in ascending order, repeated ones kept. -/
def sorted (ts : List Text) : List Text := ts.mergeSort atMost

/-- An optional text, unless it is empty. -/
def nonempty? (t : Option Text) : Option Text := t.filter (· ≠ [])

/-- The decimal digits of a natural number. -/
def ofNat (n : Nat) : Text := (Nat.toDigits 10 n).map Letter.char

/-- The decimal digits of an integer, after `-` if it is negative. -/
def ofInt : Int → Text
  | .ofNat n => ofNat n
  | .negSucc n => .char '-' :: ofNat (n + 1)

/-- The digits of a natural number in base eight, with leading zeros up to `width` of them. -/
def octal (width n : Nat) : Text :=
  let digits := (Nat.toDigits 8 n).map Letter.char
  List.replicate (width - digits.length) (Letter.char '0') ++ digits

theorem splitOn_ne_nil (sep : Letter) (t : Text) : splitOn sep t ≠ [] := by
  cases t with
  | nil => simp [splitOn]
  | cons c rest =>
      unfold splitOn
      split
      · simp
      · split <;> simp

/-- The first piece ends before the first `sep`; there are others if and only if there is one. -/
theorem splitOn_eq_cons (sep : Letter) (t : Text) :
    ∃ pieces, splitOn sep t = t.takeWhile (· ≠ sep) :: pieces ∧ (pieces = [] ↔ sep ∉ t) := by
  induction t with
  | nil => exact ⟨[], rfl, by simp⟩
  | cons c rest ih =>
      obtain ⟨pieces, hsplit, hpieces⟩ := ih
      by_cases hc : c = sep
      · exact ⟨rest.takeWhile (· ≠ sep) :: pieces, by simp [splitOn, hsplit, hc], by simp [hc]⟩
      · refine ⟨pieces, by simp [splitOn, hsplit, hc], ?_⟩
        rw [hpieces, List.mem_cons, not_or]
        exact ⟨fun h => ⟨fun hsep => hc hsep.symm, h⟩, fun h => h.2⟩

theorem splitOn_append (sep : Letter) (t rest : Text) :
    splitOn sep (t ++ sep :: rest) = splitOn sep t ++ splitOn sep rest := by
  induction t with
  | nil =>
      obtain ⟨piece, pieces, hrest⟩ := List.exists_cons_of_ne_nil (splitOn_ne_nil sep rest)
      simp [splitOn, hrest]
  | cons c t ih =>
      obtain ⟨piece, pieces, ht⟩ := List.exists_cons_of_ne_nil (splitOn_ne_nil sep t)
      rw [List.cons_append, splitOn, splitOn, ih, ht]
      by_cases hc : c = sep <;> simp [hc]

@[simp] theorem join_nil (sep : Text) : join sep [] = [] := rfl

@[simp] theorem join_singleton (sep t : Text) : join sep [t] = t := List.intercalate_singleton

theorem join_cons_of_ne_nil (sep t : Text) {ts : List Text} (hts : ts ≠ []) :
    join sep (t :: ts) = t ++ sep ++ join sep ts :=
  List.intercalate_cons_of_ne_nil hts

theorem join_append (sep : Text) {ss ts : List Text} (hss : ss ≠ []) (hts : ts ≠ []) :
    join sep (ss ++ ts) = join sep ss ++ sep ++ join sep ts := by
  induction ss with
  | nil => exact absurd rfl hss
  | cons s ss ih =>
      by_cases hne : ss = []
      · simp [hne, join_cons_of_ne_nil sep s hts]
      · have hne' : ss ++ ts ≠ [] := by simp [hne]
        rw [List.cons_append, join_cons_of_ne_nil sep s hne', ih hne,
          join_cons_of_ne_nil sep s hne]
        simp

theorem mem_join {sep : Text} {ts : List Text} {c : Letter} (h : c ∈ join sep ts) :
    c ∈ sep ∨ ∃ t ∈ ts, c ∈ t := by
  induction ts with
  | nil => cases h
  | cons t ts ih =>
      by_cases hne : ts = []
      · exact .inr ⟨t, by simp, by simpa [hne] using h⟩
      · rw [join_cons_of_ne_nil sep t hne] at h
        simp only [List.mem_append] at h
        rcases h with (h | h) | h
        · exact .inr ⟨t, by simp, h⟩
        · exact .inl h
        · apply (ih h).imp_right
          rintro ⟨other, hother, hc⟩
          exact ⟨other, by simp [hother], hc⟩

/-- What a text is trimmed of stands before and behind the rest. -/
theorem exists_trim (p : Letter → Bool) (t : Text) :
    ∃ before after, t = before ++ t.trim p ++ after ∧ ∀ c ∈ before ++ after, p c = true := by
  have htaken : ∀ u : Text, ∀ c ∈ u.takeWhile p, p c = true := fun u =>
    List.all_eq_true.mp List.all_takeWhile
  refine ⟨t.takeWhile p, ((t.dropWhile p).reverse.takeWhile p).reverse, ?_, fun c hc => ?_⟩
  · rw [trim, List.append_assoc, ← List.reverse_append, List.takeWhile_append_dropWhile,
      List.reverse_reverse, List.takeWhile_append_dropWhile]
  · rcases List.mem_append.mp hc with hbefore | hafter
    · exact htaken t c hbefore
    · exact htaken _ c (List.mem_reverse.mp hafter)

theorem dropWhile_append {p : Letter → Bool} {before t : Text}
    (hbefore : ∀ c ∈ before, p c = true) (hhead : ∀ c, t.head? = some c → p c = false) :
    (before ++ t).dropWhile p = t := by
  rw [List.dropWhile_append_of_pos hbefore]
  cases t with
  | nil => rfl
  | cons c t => simp [hhead c rfl]

theorem trim_append {p : Letter → Bool} {before t after : Text}
    (hbefore : ∀ c ∈ before, p c = true) (hafter : ∀ c ∈ after, p c = true) (hne : t ≠ [])
    (hhead : ∀ c, t.head? = some c → p c = false)
    (hlast : ∀ c, t.getLast? = some c → p c = false) : (before ++ t ++ after).trim p = t := by
  have hleft : (before ++ (t ++ after)).dropWhile p = t ++ after := by
    refine dropWhile_append hbefore fun c hc => hhead c ?_
    obtain ⟨d, u, rfl⟩ := List.exists_cons_of_ne_nil hne
    exact hc
  have hright : (after.reverse ++ t.reverse).dropWhile p = t.reverse := by
    refine dropWhile_append (by simpa using hafter) fun c hc => hlast c ?_
    rwa [List.head?_reverse] at hc
  rw [trim, List.append_assoc, hleft, List.reverse_append, hright, List.reverse_reverse]

theorem head?_trim {p : Letter → Bool} {t : Text} {c : Letter} (h : (t.trim p).head? = some c) :
    p c = false := by
  have hhead := List.head?_dropWhile_not p t
  have hrest : t.dropWhile p = t.trim p ++ ((t.dropWhile p).reverse.takeWhile p).reverse := by
    rw [trim, ← List.reverse_append, List.takeWhile_append_dropWhile, List.reverse_reverse]
  rw [hrest, List.head?_append, h] at hhead
  simpa using hhead

theorem getLast?_trim {p : Letter → Bool} {t : Text} {c : Letter}
    (h : (t.trim p).getLast? = some c) : p c = false := by
  have hhead := List.head?_dropWhile_not p (t.dropWhile p).reverse
  rw [← List.getLast?_reverse, ← trim, h] at hhead
  simpa using hhead

theorem lt_irrefl (t : Text) : ¬ t < t :=
  List.lex_irrefl (fun c => Nat.lt_irrefl c.rank) t

theorem lt_trans {s t u : Text} (hst : s < t) (htu : t < u) : s < u :=
  List.lex_trans (fun {_ _ _} hab hbc => Nat.lt_trans (Letter.lt_iff_rank_lt.mp hab) hbc) hst htu

theorem lt_trichotomy (s t : Text) : s < t ∨ s = t ∨ t < s := by
  induction s generalizing t with
  | nil =>
      cases t with
      | nil => exact Or.inr (Or.inl rfl)
      | cons d t => exact Or.inl (List.nil_lt_cons d t)
  | cons c s ih =>
      cases t with
      | nil => exact Or.inr (Or.inr (List.nil_lt_cons c s))
      | cons d t =>
          simp only [List.cons_lt_cons_iff, Letter.lt_iff_rank_lt]
          rcases Nat.lt_trichotomy c.rank d.rank with hlt | heq | hgt
          · exact Or.inl (Or.inl hlt)
          · have hcd : c = d := Letter.rank_injective heq
            subst hcd
            rcases ih t with hst | rfl | hts
            · exact Or.inl (Or.inr ⟨rfl, hst⟩)
            · exact Or.inr (Or.inl rfl)
            · exact Or.inr (Or.inr (Or.inr ⟨rfl, hts⟩))
          · exact Or.inr (Or.inr (Or.inl hgt))

theorem lt_of_not_le {s t : Text} (hne : s ≠ t) (hnlt : ¬ s < t) : t < s := by
  rcases lt_trichotomy s t with h | h | h
  · exact absurd h hnlt
  · exact absurd h hne
  · exact h

theorem ne_of_lt {s t : Text} (h : s < t) : s ≠ t := by
  rintro rfl
  exact lt_irrefl s h

theorem atMost_iff {s t : Text} : atMost s t = true ↔ ¬ t < s := by
  simp [atMost]

theorem atMost_trans (s t u : Text) (hst : atMost s t = true) (htu : atMost t u = true) :
    atMost s u = true := by
  rw [atMost_iff] at hst htu ⊢
  intro hus
  rcases lt_trichotomy s t with h | rfl | h
  · exact htu (lt_trans hus h)
  · exact htu hus
  · exact hst h

theorem atMost_total (s t : Text) : (atMost s t || atMost t s) = true := by
  rw [Bool.or_eq_true, atMost_iff, atMost_iff]
  by_cases h : t < s
  · exact Or.inr fun hst => lt_irrefl s (lt_trans hst h)
  · exact Or.inl h

theorem perm_sorted (ts : List Text) : (sorted ts).Perm ts := List.mergeSort_perm ts atMost

theorem pairwise_sorted (ts : List Text) : (sorted ts).Pairwise fun s t => ¬ t < s :=
  (List.pairwise_mergeSort atMost_trans atMost_total ts).imp atMost_iff.mp

end Text

end Scaffold
