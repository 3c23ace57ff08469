import Mathlib.Data.Nat.Digits.Defs
import Scaffold.Flags

/-!
Octal numerals, in which permissions are written. A numeral consists of digits of any script, which
single underscores may divide into groups. A sign and a mark may stand in front of the digits, and
white space around the whole. The reader takes exactly these texts and finds their number to the
base eight, however large it is; so it reads back the digits that are printed for a number.
-/

namespace Scaffold

namespace Numeral

variable {base d : Nat} {t rest : Text} {c : Letter}

section Letters

/-- The code points with the property White_Space, as ranges. -/
def whiteRanges : List (Nat × Nat) :=
  [
    (0x9, 0xD), (0x20, 0x20), (0x85, 0x85), (0xA0, 0xA0), (0x1680, 0x1680), (0x2000, 0x200A),
    (0x2028, 0x2029), (0x202F, 0x202F), (0x205F, 0x205F), (0x3000, 0x3000)]

def isWhite (c : Letter) : Bool :=
  c.holds fun c => whiteRanges.any fun range => range.1 ≤ c.toNat && c.toNat ≤ range.2

def isDigit (base : Nat) (c : Letter) : Bool := (digit? base c).isSome

theorem isMargin_eq_isWhite : isMargin = isWhite := by
  funext c
  cases c with
  | stray byte => rfl
  | char c =>
      change (isBlankChar c && !(0x1C ≤ c.toNat && c.toNat ≤ 0x1F)) = isWhite (.char c)
      rw [Bool.eq_iff_iff]
      simp only [isWhite, Letter.holds, isBlankChar, blankRanges, whiteRanges, List.any_cons,
        List.any_nil, Bool.or_false, Bool.and_eq_true, Bool.or_eq_true, decide_eq_true_eq,
        Bool.not_eq_true', Bool.and_eq_false_iff, decide_eq_false_iff_not]
      omega

theorem isWhite_of_isDigit (h : isDigit base c = true) : isWhite c = false := by
  have hapart : ∀ start ∈ zeroDigits, ∀ range ∈ whiteRanges,
      range.2 < start ∨ start + 10 ≤ range.1 := by decide
  cases c with
  | stray byte => rfl
  | char c =>
      obtain ⟨d, hd⟩ := Option.isSome_iff_exists.mp h
      obtain ⟨start, hstart, -⟩ := Option.map_eq_some_iff.mp (Option.filter_eq_some_iff.mp hd).1
      have hblock := List.find?_some hstart
      have hrange := hapart start (List.mem_of_find?_eq_some hstart)
      simp only [Bool.and_eq_true, decide_eq_true_eq] at hblock
      simp only [isWhite, Letter.holds, List.any_eq_false, Bool.and_eq_true, decide_eq_true_eq]
      intro range hmem
      have := hrange range hmem
      omega

/-- The letters of a numeral that are neither digits nor white space. -/
theorem isDigit_of_mem (h : c ∈ ("+-oO_" : Text)) : isDigit base c = false := by
  have hnone : ∀ c ∈ ("+-oO_" : Text), c.char?.bind decimalValue? = none := by decide
  rw [isDigit, digit?, hnone c h]
  rfl

theorem isWhite_of_mem (h : c ∈ ("+-oO_" : Text)) : isWhite c = false := by
  have hall : ∀ c ∈ ("+-oO_" : Text), isWhite c = false := by decide
  exact hall c h

theorem ne_of_isDigit (h : isDigit base c = true) {other : Letter}
    (hother : other ∈ ("+-oO_" : Text)) : c ≠ other := by
  rintro rfl
  simp [isDigit_of_mem hother] at h

theorem trim_isMargin {before after : Text} (h : ∀ c ∈ before ++ after, isWhite c = true)
    (hne : t ≠ []) (ht : ∀ c ∈ t, isWhite c = false) :
    (before ++ t ++ after).trim isMargin = t := by
  obtain ⟨hbefore, hafter⟩ := List.forall_mem_append.mp h
  rw [isMargin_eq_isWhite]
  exact Text.trim_append hbefore hafter hne (fun c hc => ht c (List.mem_of_head? hc))
    fun c hc => ht c (List.mem_of_getLast? hc)

end Letters

section Digits

/-- The values of the digits of a text. All other letters are left out. -/
def values (base : Nat) (t : Text) : List Nat := t.filterMap (digit? base)

/-- The number of which a text holds the digits. -/
def number (base : Nat) (t : Text) : Nat := Nat.ofDigits base (values base t).reverse

/-- The number of which the digits are those of `value` and then those of a text. -/
def extend (base value : Nat) (t : Text) : Nat :=
  (values base t).foldl (fun value d => value * base + d) value

def IsGroup (base : Nat) (group : Text) : Prop :=
  group ≠ [] ∧ ∀ c ∈ group, isDigit base c = true

instance (base : Nat) (group : Text) : Decidable (IsGroup base group) :=
  inferInstanceAs (Decidable (_ ∧ _))

theorem extend_zero (base : Nat) (t : Text) : extend base 0 t = number base t := by
  rw [extend, number, Nat.ofDigits_eq_foldr, List.foldr_reverse]
  simp [Nat.add_comm, Nat.mul_comm]

theorem extend_cons (h : digit? base c = some d) (value : Nat) (t : Text) :
    extend base value (c :: t) = extend base (value * base + d) t := by
  simp [extend, values, h]

theorem extend_append (value : Nat) (s t : Text) :
    extend base value (s ++ t) = extend base (extend base value s) t := by
  simp [extend, values]

/-- A digit can be read whatever stands before it. -/
theorem digits?_cons (h : digit? base c = some d) (value : Nat) (afterDigit : Bool) (rest : Text) :
    digits? base value afterDigit (c :: rest) = digits? base (value * base + d) true rest := by
  have hdigit : isDigit base c = true := Option.isSome_of_mem h
  rw [digits?, if_neg (ne_of_isDigit hdigit (by decide)), h]

theorem digits?_group {group : Text} (h : IsGroup base group) (value : Nat) (afterDigit : Bool)
    (rest : Text) :
    digits? base value afterDigit (group ++ rest) =
      digits? base (extend base value group) true rest := by
  obtain ⟨hne, hdigits⟩ := h
  induction group generalizing value afterDigit with
  | nil => exact absurd rfl hne
  | cons c group ih =>
      obtain ⟨hc, hgroup⟩ := List.forall_mem_cons.mp hdigits
      obtain ⟨d, hd⟩ := Option.isSome_iff_exists.mp hc
      rw [List.cons_append, digits?_cons hd, extend_cons hd]
      by_cases hlast : group = []
      · subst hlast
        rfl
      · exact ih _ _ hlast hgroup

theorem digits?_join {groups : List Text} (hne : groups ≠ [])
    (hgroups : ∀ group ∈ groups, IsGroup base group) (value : Nat) :
    digits? base value false (Text.join "_" groups) = some (extend base value groups.flatten) := by
  induction groups generalizing value with
  | nil => exact absurd rfl hne
  | cons group groups ih =>
      obtain ⟨hgroup, hgroups⟩ := List.forall_mem_cons.mp hgroups
      by_cases hlast : groups = []
      · subst hlast
        simpa [digits?] using digits?_group hgroup value false []
      · rw [Text.join_cons_of_ne_nil _ _ hlast, List.append_assoc, digits?_group hgroup,
          List.flatten_cons, extend_append, ← ih hlast hgroups]
        rfl

theorem join_cons_cons (c : Letter) (group : Text) (groups : List Text) :
    Text.join "_" ((c :: group) :: groups) = c :: Text.join "_" (group :: groups) := by
  cases groups with
  | nil => simp
  | cons next groups => simp [Text.join_cons_of_ne_nil]

theorem exists_join_eq_cons {groups : List Text} (hne : groups ≠ [])
    (hgroups : ∀ group ∈ groups, IsGroup base group) :
    ∃ c rest, Text.join "_" groups = c :: rest ∧ isDigit base c = true := by
  obtain ⟨group, groups, rfl⟩ := List.exists_cons_of_ne_nil hne
  obtain ⟨hgroup, hdigits⟩ := hgroups group (by simp)
  obtain ⟨c, group, rfl⟩ := List.exists_cons_of_ne_nil hgroup
  exact ⟨c, _, join_cons_cons c group groups, hdigits c (by simp)⟩

theorem mem_groups {groups : List Text} (hgroups : ∀ group ∈ groups, IsGroup base group)
    (h : c ∈ Text.join "_" groups) : c = .char '_' ∨ isDigit base c = true := by
  rcases Text.mem_join h with hc | ⟨group, hgroup, hc⟩
  · exact .inl (List.mem_singleton.mp hc)
  · exact .inr ((hgroups group hgroup).2 c hc)

/-- Digits that are read up to the end of a text come in groups. Behind a digit the first group may
be empty: it goes on with the group of that digit. -/
theorem exists_groups_of_digits? {value n : Nat} {afterDigit : Bool}
    (h : digits? base value afterDigit t = some n) :
    ∃ group groups, Text.join "_" (group :: groups) = t ∧ (afterDigit = false → group ≠ []) ∧
      (∀ c ∈ group, isDigit base c = true) ∧ ∀ group ∈ groups, IsGroup base group := by
  fun_induction digits? base value afterDigit t with
  | case1 => exact ⟨[], [], rfl, nofun, by simp, by simp⟩
  | case3 value rest ih =>
      obtain ⟨group, groups, rfl, hne, hdigits, hgroups⟩ := ih h
      refine ⟨[], group :: groups, ?_, nofun, by simp, ?_⟩
      · rw [Text.join_cons_of_ne_nil _ _ (List.cons_ne_nil _ _)]
        rfl
      · exact List.forall_mem_cons.mpr ⟨⟨hne rfl, hdigits⟩, hgroups⟩
  | case5 value afterDigit c rest hc d hd ih =>
      obtain ⟨group, groups, rfl, -, hdigits, hgroups⟩ := ih h
      have hdigit : isDigit base c = true := Option.isSome_of_mem hd
      exact ⟨c :: group, groups, join_cons_cons c group groups, fun _ => List.cons_ne_nil _ _,
        List.forall_mem_cons.mpr ⟨hdigit, hdigits⟩, hgroups⟩
  | case2 | case4 | case6 => cases h

end Digits

/-- What may stand in front of a number. -/
inductive Sign where
  | absent
  | plus
  | minus

namespace Sign

def text : Sign → Text
  | absent => []
  | plus => "+"
  | minus => "-"

/-- The number with a sign in front of its magnitude. -/
def apply : Sign → Nat → Int
  | minus, n => -n
  | _, n => n

theorem mem_text {sign : Sign} (h : c ∈ sign.text) : c ∈ ("+-oO_" : Text) := by
  cases sign <;> simp_all [text, Text.ofString]

end Sign

/-- A zero and an `o`, which say that digits are octal. -/
def IsMark (zero o : Letter) : Prop :=
  digit? 8 zero = some 0 ∧ (o = .char 'o' ∨ o = .char 'O')

/-- What may stand in front of octal digits. An underscore may follow a zero and an `o`. -/
inductive Mark where
  | absent
  | octal (zero o : Letter) (h : IsMark zero o) (underscored : Bool)

namespace Mark

def text : Mark → Text
  | absent => []
  | octal zero o _ underscored => zero :: o :: if underscored then "_" else []

theorem mem_text {mark : Mark} (h : c ∈ mark.text) :
    c ∈ ("+-oO_" : Text) ∨ isDigit 8 c = true := by
  cases mark with
  | absent => simp [text] at h
  | octal zero o hmark underscored =>
      obtain ⟨hzero, ho⟩ := hmark
      simp only [text, List.mem_cons] at h
      rcases h with rfl | rfl | h
      · exact .inr (Option.isSome_of_mem hzero)
      · left
        rcases ho with rfl | rfl <;> decide
      · left
        cases underscored <;> simp_all [Text.ofString]

end Mark

/-- An octal numeral, part by part. The groups of digits have an underscore between each two. -/
structure Octal where
  before : Text
  sign : Sign
  mark : Mark
  groups : List Text
  after : Text
  white : ∀ c ∈ before ++ after, isWhite c = true
  groups_ne_nil : groups ≠ []
  isGroup : ∀ group ∈ groups, IsGroup 8 group

namespace Octal

/-- A numeral without the white space around it. -/
def core (numeral : Octal) : Text :=
  numeral.sign.text ++ (numeral.mark.text ++ Text.join "_" numeral.groups)

/-- How a numeral is written. -/
def text (numeral : Octal) : Text := numeral.before ++ numeral.core ++ numeral.after

/-- The number that a numeral stands for. -/
def value (numeral : Octal) : Int := numeral.sign.apply (number 8 numeral.groups.flatten)

end Octal

/-- A sign is taken off where there is one. -/
theorem exists_sign (magnitude? : Text → Option Nat) (t : Text) :
    ∃ (sign : Sign) (rest : Text), sign.text ++ rest = t ∧
      signed? magnitude? t = (magnitude? rest).map sign.apply ∧
        (sign = .absent → ∀ c, rest.head? = some c → c ≠ .char '+' ∧ c ≠ .char '-') := by
  unfold signed?
  split
  · exact ⟨.minus, _, rfl, rfl, nofun⟩
  · exact ⟨.plus, _, rfl, rfl, nofun⟩
  · rename_i hminus hplus
    refine ⟨.absent, t, rfl, rfl, fun _ c hc => ?_⟩
    obtain ⟨more, rfl⟩ := List.head?_eq_some_iff.mp hc
    constructor
    · rintro rfl
      exact hplus more rfl
    · rintro rfl
      exact hminus more rfl

theorem exists_mark (t : Text) : ∃ mark : Mark, mark.text ++ unmarked t = t := by
  unfold unmarked
  split
  · rename_i zero o rest
    split
    · rename_i hmark
      split
      · exact ⟨.octal zero o hmark true, rfl⟩
      · exact ⟨.octal zero o hmark false, rfl⟩
    · exact ⟨.absent, rfl⟩
  · exact ⟨.absent, rfl⟩

theorem exists_octal_of_octal? {n : Int} (h : octal? t = some n) :
    ∃ numeral : Octal, numeral.text = t := by
  rw [octal?, isMargin_eq_isWhite] at h
  obtain ⟨before, after, ht, hwhite⟩ := Text.exists_trim isWhite t
  obtain ⟨sign, rest, hsign, hsigned, -⟩ := exists_sign _ (t.trim isWhite)
  rw [hsigned] at h
  obtain ⟨m, hm, -⟩ := Option.map_eq_some_iff.mp h
  obtain ⟨mark, hmark⟩ := exists_mark rest
  obtain ⟨group, groups, hjoin, hne, hdigits, hgroups⟩ := exists_groups_of_digits? hm
  refine ⟨⟨before, sign, mark, group :: groups, after, hwhite, List.cons_ne_nil _ _, ?_⟩, ?_⟩
  · exact List.forall_mem_cons.mpr ⟨⟨hne rfl, hdigits⟩, hgroups⟩
  · rw [Octal.text, Octal.core, hjoin, hmark, hsign, ← ht]

theorem signed?_append (magnitude? : Text → Option Nat) (sign : Sign)
    (h : isDigit base c = true) (rest : Text) :
    signed? magnitude? (sign.text ++ c :: rest) = (magnitude? (c :: rest)).map sign.apply := by
  cases sign with
  | plus | minus => rfl
  | absent =>
      rw [Sign.text, List.nil_append]
      unfold signed?
      split
      · rename_i hcons
        exact absurd (List.cons.inj hcons).1 (ne_of_isDigit h (by decide))
      · rename_i hcons
        exact absurd (List.cons.inj hcons).1 (ne_of_isDigit h (by decide))
      · rfl

theorem unmarked_underscore {zero o : Letter} (h : IsMark zero o) (rest : Text) :
    unmarked (zero :: o :: .char '_' :: rest) = rest := by
  obtain ⟨hzero, ho⟩ := h
  rw [unmarked, if_pos ⟨hzero, ho⟩]

theorem unmarked_append (mark : Mark) (h : isDigit base c = true)
    (hrest : ∀ c ∈ rest, c ≠ .char 'o' ∧ c ≠ .char 'O') :
    unmarked (mark.text ++ c :: rest) = c :: rest := by
  cases mark with
  | absent =>
      cases rest with
      | nil => rfl
      | cons o rest =>
          obtain ⟨hlower, hupper⟩ := hrest o (by simp)
          simp [Mark.text, unmarked, hlower, hupper]
  | octal zero o hmark underscored =>
      cases underscored with
      | true => exact unmarked_underscore hmark (c :: rest)
      | false =>
          obtain ⟨hzero, ho⟩ := hmark
          change unmarked (zero :: o :: c :: rest) = c :: rest
          rw [unmarked, if_pos ⟨hzero, ho⟩]
          rintro digits ⟨⟩
          exact ne_of_isDigit h (by decide) rfl

namespace Octal

variable (numeral : Octal)

theorem mem_core (h : c ∈ numeral.core) : c ∈ ("+-oO_" : Text) ∨ isDigit 8 c = true := by
  simp only [core, List.mem_append] at h
  rcases h with h | h | h
  · exact .inl (Sign.mem_text h)
  · exact Mark.mem_text h
  · rcases mem_groups numeral.isGroup h with rfl | hc
    · exact .inl (by decide)
    · exact .inr hc

theorem isWhite_of_mem_core (h : c ∈ numeral.core) : isWhite c = false :=
  (numeral.mem_core h).elim Numeral.isWhite_of_mem isWhite_of_isDigit

theorem core_ne_nil : numeral.core ≠ [] := by
  obtain ⟨c, rest, hjoin, -⟩ := exists_join_eq_cons numeral.groups_ne_nil numeral.isGroup
  simp [core, hjoin]

theorem mem_text (h : c ∈ numeral.text) :
    isWhite c = true ∨ c ∈ ("+-oO_" : Text) ∨ isDigit 8 c = true := by
  simp only [text, List.mem_append] at h
  rcases h with (h | h) | h
  · exact .inl (numeral.white c (by simp [h]))
  · exact .inr (numeral.mem_core h)
  · exact .inl (numeral.white c (by simp [h]))

theorem octal?_text : octal? numeral.text = some numeral.value := by
  obtain ⟨c, rest, hjoin, hc⟩ := exists_join_eq_cons numeral.groups_ne_nil numeral.isGroup
  have htrim : numeral.text.trim isMargin = numeral.core :=
    trim_isMargin numeral.white numeral.core_ne_nil fun c hc => numeral.isWhite_of_mem_core hc
  obtain ⟨first, more, hmarked, hfirst⟩ : ∃ first more,
      numeral.mark.text ++ Text.join "_" numeral.groups = first :: more ∧
        isDigit 8 first = true := by
    cases numeral.mark with
    | absent => exact ⟨c, rest, hjoin, hc⟩
    | octal zero o hmark _ => exact ⟨zero, _, rfl, Option.isSome_of_mem hmark.1⟩
  have hunmarked : unmarked (first :: more) = Text.join "_" numeral.groups := by
    rw [← hmarked, hjoin]
    refine unmarked_append numeral.mark hc fun letter hletter => ?_
    have hmem : letter ∈ Text.join "_" numeral.groups := by simp [hjoin, hletter]
    rcases mem_groups numeral.isGroup hmem with rfl | hdigit
    · decide
    · exact ⟨ne_of_isDigit hdigit (by decide), ne_of_isDigit hdigit (by decide)⟩
  rw [octal?, htrim, core, hmarked, signed?_append _ _ hfirst, hunmarked, natural?,
    digits?_join numeral.groups_ne_nil numeral.isGroup, extend_zero, Option.map_some, value]

end Octal

/-- The octal numerals are the texts that can be read, each as the number that it stands for. -/
theorem octal?_eq_some_iff {n : Int} :
    octal? t = some n ↔ ∃ numeral : Octal, numeral.text = t ∧ numeral.value = n := by
  constructor
  · intro h
    obtain ⟨numeral, rfl⟩ := exists_octal_of_octal? h
    exact ⟨numeral, rfl, Option.some.inj (numeral.octal?_text.symm.trans h)⟩
  · rintro ⟨numeral, rfl, rfl⟩
    exact numeral.octal?_text

theorem octal?_eq_none_iff : octal? t = none ↔ ∀ numeral : Octal, numeral.text ≠ t := by
  rw [Option.eq_none_iff_forall_ne_some]
  constructor
  · rintro hnone numeral rfl
    exact hnone _ numeral.octal?_text
  · intro hne n hn
    obtain ⟨numeral, htext⟩ := exists_octal_of_octal? hn
    exact hne numeral htext

section Printing

theorem digit?_digitChar (h : d < 8) : digit? 8 (.char d.digitChar) = some d := by
  have hall : ∀ d : Fin 8, digit? 8 (.char d.val.digitChar) = some d.val := by decide
  exact hall ⟨d, h⟩

theorem values_map_digitChar {ds : List Nat} (h : ∀ d ∈ ds, d < 8) :
    values 8 (ds.map fun d => .char d.digitChar) = ds := by
  induction ds with
  | nil => rfl
  | cons d ds ih =>
      obtain ⟨hd, hds⟩ := List.forall_mem_cons.mp h
      simpa [values, digit?_digitChar hd] using ih hds

theorem exists_toDigits (n : Nat) :
    ∃ ds : List Nat, (∀ d ∈ ds, d < 8) ∧ Nat.toDigits 8 n = ds.map Nat.digitChar ∧
      Nat.ofDigits 8 ds.reverse = n := by
  induction n using Nat.strong_induction_on with
  | h n ih =>
      rw [Nat.toDigits_eq_if (by omega)]
      by_cases hn : n < 8
      · exact ⟨[n], by simpa using hn, by simp [hn], by simp⟩
      · obtain ⟨ds, hds, hdigits, hvalue⟩ := ih (n / 8) (by omega)
        have hlast : n % 8 < 8 := Nat.mod_lt n (by decide)
        refine ⟨ds ++ [n % 8], ?_, by simp [hn, hdigits], ?_⟩
        · exact List.forall_mem_append.mpr ⟨hds, List.forall_mem_singleton.mpr hlast⟩
        · rw [List.reverse_append, List.reverse_singleton, List.singleton_append,
            Nat.ofDigits_cons, hvalue]
          omega

/-- The leading zeros of the digits of a number do not change it. -/
theorem exists_octal_eq_map (width n : Nat) :
    ∃ ds : List Nat, (∀ d ∈ ds, d < 8) ∧
      Text.octal width n = ds.map (fun d => .char d.digitChar) ∧
        Nat.ofDigits 8 ds.reverse = n := by
  obtain ⟨ds, hds, hdigits, hvalue⟩ := exists_toDigits n
  refine ⟨List.replicate (width - ds.length) 0 ++ ds, ?_, ?_, ?_⟩
  · refine List.forall_mem_append.mpr ⟨fun d hd => ?_, hds⟩
    rw [List.eq_of_mem_replicate hd]
    decide
  · have hzero : Letter.char '0' = .char (Nat.digitChar 0) := rfl
    simp [Text.octal, hdigits, hzero, List.map_replicate, Function.comp_def]
  · rw [List.reverse_append, List.reverse_replicate, Nat.ofDigits_append_replicate_zero, hvalue]

theorem number_octal (width n : Nat) : number 8 (Text.octal width n) = n := by
  obtain ⟨ds, hds, hdigits, hvalue⟩ := exists_octal_eq_map width n
  rw [number, hdigits, values_map_digitChar hds, hvalue]

theorem octal_ne_nil (width n : Nat) : Text.octal width n ≠ [] := by
  have hdigits : Nat.toDigits 8 n ≠ [] := Nat.toDigits_ne_nil
  simp [Text.octal, hdigits]

theorem isDigit_of_mem_octal {width n : Nat} (h : c ∈ Text.octal width n) :
    isDigit 8 c = true := by
  obtain ⟨ds, hds, hdigits, -⟩ := exists_octal_eq_map width n
  rw [hdigits] at h
  obtain ⟨d, hd, rfl⟩ := List.mem_map.mp h
  exact Option.isSome_of_mem (digit?_digitChar (hds d hd))

/-- The digits of an integer are read back, in whatever groups and with whatever around them. -/
theorem octal?_octal {n : Int} {width : Nat} {before after : Text} {sign : Sign} {mark : Mark}
    {groups : List Text} (hwhite : ∀ c ∈ before ++ after, isWhite c = true)
    (hsign : sign.apply n.natAbs = n) (hdigits : groups.flatten = Text.octal width n.natAbs)
    (hgroups : [] ∉ groups) :
    octal? (before ++ (sign.text ++ (mark.text ++ Text.join "_" groups)) ++ after) = some n := by
  have hne : groups ≠ [] := by
    rintro rfl
    exact octal_ne_nil width n.natAbs hdigits.symm
  have hgroup : ∀ group ∈ groups, IsGroup 8 group := by
    intro group hmem
    refine ⟨ne_of_mem_of_not_mem hmem hgroups, fun c hc => ?_⟩
    exact isDigit_of_mem_octal (hdigits ▸ List.mem_flatten.mpr ⟨group, hmem, hc⟩)
  refine octal?_eq_some_iff.mpr
    ⟨⟨before, sign, mark, groups, after, hwhite, hne, hgroup⟩, rfl, ?_⟩
  rw [Octal.value, hdigits, number_octal, hsign]

end Printing

end Numeral

end Scaffold
