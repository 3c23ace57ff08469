import Scaffold.Proofs.Numerals

/-!
Misspelt numerals. Each letter of an octal numeral has its place: white space at the ends, the sign
and the mark in front, an underscore behind a digit and before another one. A text with a letter in
another place, or with nothing behind the sign and the mark, is refused, and the message quotes it.
-/

namespace Scaffold

/-- Where a letter stands in a text that is put together from two parts. -/
theorem Text.append_eq_append_cons {left right before after : Text} {c : Letter}
    (h : left ++ right = before ++ c :: after) :
    (∃ more, left = before ++ c :: more ∧ after = more ++ right) ∨
      ∃ more, before = left ++ more ∧ right = more ++ c :: after := by
  rcases List.append_eq_append_iff.mp h with ⟨more, hbefore, hright⟩ | ⟨more, hleft, hafter⟩
  · exact .inr ⟨more, hbefore, hright⟩
  · rcases List.cons_eq_append_iff.mp hafter with ⟨rfl, hright⟩ | ⟨more, rfl, hafter⟩
    · exact .inr ⟨[], by simpa using hleft.symm, by simpa using hright⟩
    · exact .inl ⟨more, hleft, (List.cons.inj hafter).2⟩

namespace Numeral

variable {base : Nat} {t rest : Text} {c : Letter}

/-- Whether a letter of a numeral may stand in a place, by what is before and behind it. -/
inductive InPlace (before after : Text) : Letter → Prop where
  | white {c : Letter} (hc : isWhite c = true)
      (h : (∀ c ∈ before, isWhite c = true) ∨ ∀ c ∈ after, isWhite c = true) :
      InPlace before after c
  | digit {c : Letter} (hc : isDigit 8 c = true) : InPlace before after c
  | sign {c : Letter} (hc : c = .char '+' ∨ c = .char '-')
      (h : ∀ c ∈ before, isWhite c = true) : InPlace before after c
  | mark {spaces : Text} {zero o : Letter} (sign : Sign) (hmark : IsMark zero o)
      (hspaces : ∀ c ∈ spaces, isWhite c = true) (h : before = spaces ++ (sign.text ++ [zero])) :
      InPlace before after o
  | underscore (hbefore : ∃ c ∈ before, isDigit 8 c = true)
      (hafter : ∃ c, after.head? = some c ∧ isDigit 8 c = true) : InPlace before after (.char '_')

theorem Sign.text_eq_append_cons {sign : Sign} {left right : Text}
    (h : sign.text = left ++ c :: right) : (c = .char '+' ∨ c = .char '-') ∧ left = [] := by
  rcases left with _ | ⟨first, left⟩ <;> cases sign <;> simp_all [text, Text.ofString]

theorem Mark.text_eq_append_cons {mark : Mark} {left right : Text}
    (h : mark.text = left ++ c :: right) :
    isDigit 8 c = true ∨ (∃ zero, IsMark zero c ∧ left = [zero]) ∨
      c = .char '_' ∧ right = [] ∧ ∃ zero ∈ left, isDigit 8 zero = true := by
  cases mark with
  | absent => simp [text] at h
  | octal zero o hmark underscored =>
      have hzero : isDigit 8 zero = true := Option.isSome_of_mem hmark.1
      rcases left with _ | ⟨first, _ | ⟨second, left⟩⟩ <;>
        simp only [text, List.nil_append, List.cons_append, List.cons.injEq] at h
      · exact .inl (h.1 ▸ hzero)
      · obtain ⟨rfl, rfl, -⟩ := h
        exact .inr (.inl ⟨zero, hmark, rfl⟩)
      · obtain ⟨rfl, rfl, htail⟩ := h
        obtain ⟨rfl, rfl, rfl⟩ : c = .char '_' ∧ left = [] ∧ right = [] := by
          cases underscored <;> cases left <;> simp_all [Text.ofString]
        exact .inr (.inr ⟨rfl, rfl, zero, by simp, hzero⟩)

/-- An underscore between groups has digits on both sides. -/
theorem digits_beside_underscore {groups : List Text}
    (hgroups : ∀ group ∈ groups, IsGroup base group) {left right : Text}
    (h : Text.join "_" groups = left ++ .char '_' :: right) :
    (∃ c ∈ left, isDigit base c = true) ∧
      ∃ c, right.head? = some c ∧ isDigit base c = true := by
  induction groups generalizing left with
  | nil => cases left <;> cases h
  | cons group groups ih =>
      obtain ⟨⟨hne, hdigits⟩, hgroups⟩ := List.forall_mem_cons.mp hgroups
      have hunderscore : .char '_' ∉ group := fun hmem =>
        ne_of_isDigit (hdigits _ hmem) (by decide) rfl
      by_cases hlast : groups = []
      · subst hlast
        rw [Text.join_singleton] at h
        exact absurd (h ▸ by simp) hunderscore
      · rw [Text.join_cons_of_ne_nil _ _ hlast, List.append_assoc] at h
        rcases Text.append_eq_append_cons h with ⟨more, hmore, -⟩ | ⟨more, rfl, hmore⟩
        · exact absurd (hmore ▸ by simp) hunderscore
        · constructor
          · obtain ⟨c, rest, rfl⟩ := List.exists_cons_of_ne_nil hne
            exact ⟨c, by simp, hdigits c (by simp)⟩
          · rcases List.cons_eq_append_iff.mp hmore with ⟨rfl, hright⟩ | ⟨more, rfl, hrest⟩
            · obtain ⟨-, rfl⟩ := List.cons.inj hright
              obtain ⟨c, rest, hjoin, hc⟩ := exists_join_eq_cons hlast hgroups
              exact ⟨c, by simp [hjoin], hc⟩
            · exact (ih hgroups hrest).2

namespace Octal

variable (numeral : Octal)

theorem inPlace_core {left right : Text} (h : numeral.core = left ++ c :: right) :
    InPlace (numeral.before ++ left) (right ++ numeral.after) c := by
  obtain ⟨hbefore, hafter⟩ := List.forall_mem_append.mp numeral.white
  rw [core] at h
  rcases Text.append_eq_append_cons h with ⟨more, hsign, -⟩ | ⟨rest, rfl, hrest⟩
  · obtain ⟨hc, rfl⟩ := Sign.text_eq_append_cons hsign
    exact .sign hc (by simpa using hbefore)
  · rcases Text.append_eq_append_cons hrest with ⟨more, hmark, rfl⟩ | ⟨more, rfl, hjoin⟩
    · obtain hc | ⟨zero, hoctal, rfl⟩ | ⟨rfl, rfl, zero, hzero, hd⟩ :=
        Mark.text_eq_append_cons hmark
      · exact .digit hc
      · exact .mark numeral.sign hoctal hbefore rfl
      · obtain ⟨c, rest, hjoin, hc⟩ :=
          exists_join_eq_cons numeral.groups_ne_nil numeral.isGroup
        exact .underscore ⟨zero, by simp [hzero], hd⟩ ⟨c, by simp [hjoin], hc⟩
    · have hmem : c ∈ Text.join "_" numeral.groups := by simp [hjoin]
      rcases mem_groups numeral.isGroup hmem with rfl | hc
      · obtain ⟨⟨c, hc, hdigit⟩, next, hnext, hd⟩ :=
          digits_beside_underscore numeral.isGroup hjoin
        exact .underscore ⟨c, by simp [hc], hdigit⟩ ⟨next, by simp [hnext], hd⟩
      · exact .digit hc

/-- Every letter of a numeral stands where it may. -/
theorem inPlace_text {before after : Text} (h : numeral.text = before ++ c :: after) :
    InPlace before after c := by
  obtain ⟨hbefore, hafter⟩ := List.forall_mem_append.mp numeral.white
  rw [text] at h
  rcases Text.append_eq_append_cons h with ⟨more, hfront, rfl⟩ | ⟨more, rfl, hend⟩
  · rcases Text.append_eq_append_cons hfront with ⟨more, hstart, -⟩ | ⟨more, rfl, hcore⟩
    · rw [hstart] at hbefore
      exact .white (hbefore c (by simp)) (.inl fun c hc => hbefore c (by simp [hc]))
    · exact numeral.inPlace_core hcore
  · rw [hend] at hafter
    exact .white (hafter c (by simp)) (.inr fun c hc => hafter c (by simp [hc]))

end Octal

/-- What keeps a text from being an octal numeral. -/
inductive Misspelt : Text → Prop where
  /-- No digit follows the sign and the mark, which may be absent. -/
  | empty {before after : Text} (sign : Sign) (mark : Mark)
      (h : ∀ c ∈ before ++ after, isWhite c = true) :
      Misspelt (before ++ (sign.text ++ mark.text) ++ after)
  /-- A letter is neither white space nor a digit nor an underscore, and it does not belong to the
  sign or the mark. -/
  | foreign {before after : Text} {c : Letter} (hwhite : isWhite c = false)
      (hdigit : isDigit 8 c = false) (hunderscore : c ≠ .char '_')
      (hsign : c = .char '+' ∨ c = .char '-' → ∃ c ∈ before, isWhite c = false)
      (hmark : ∀ spaces (sign : Sign) zero, IsMark zero c → (∀ c ∈ spaces, isWhite c = true) →
        before ≠ spaces ++ (sign.text ++ [zero])) :
      Misspelt (before ++ c :: after)
  /-- White space stands inside. -/
  | divided {before after : Text} {c : Letter} (hc : isWhite c = true)
      (hbefore : ∃ c ∈ before, isWhite c = false) (hafter : ∃ c ∈ after, isWhite c = false) :
      Misspelt (before ++ c :: after)
  | doubled (before after : Text) : Misspelt (before ++ .char '_' :: .char '_' :: after)
  | trailing (before : Text) {after : Text} (hafter : ∀ c ∈ after, isWhite c = true) :
      Misspelt (before ++ .char '_' :: after)
  | leading {before : Text} (sign : Sign) (hbefore : ∀ c ∈ before, isWhite c = true)
      (after : Text) : Misspelt (before ++ sign.text ++ .char '_' :: after)

theorem InPlace.of_underscore {before after : Text} (h : InPlace before after (.char '_')) :
    (∃ c ∈ before, isDigit 8 c = true) ∧ ∃ c, after.head? = some c ∧ isDigit 8 c = true := by
  cases h with
  | white hc => exact absurd hc (by decide)
  | digit hc => exact absurd hc (by decide)
  | sign hc => exact absurd hc (by decide)
  | mark sign hmark => exact absurd hmark.2 (by decide)
  | underscore hbefore hafter => exact ⟨hbefore, hafter⟩

theorem unmarked_text (mark : Mark) : unmarked mark.text = [] := by
  cases mark with
  | absent => rfl
  | octal zero o hmark underscored =>
      obtain ⟨hzero, ho⟩ := hmark
      cases underscored <;> simp [Mark.text, unmarked, hzero, ho, Text.ofString]

theorem octal?_empty {before after : Text} (sign : Sign) (mark : Mark)
    (h : ∀ c ∈ before ++ after, isWhite c = true) :
    octal? (before ++ (sign.text ++ mark.text) ++ after) = none := by
  by_cases hne : sign.text ++ mark.text = []
  · -- Trimming leaves nothing, while there is always something of a numeral left.
    rw [octal?_eq_none_iff, hne, List.append_nil]
    intro numeral htext
    obtain ⟨c, rest, hcore⟩ := List.exists_cons_of_ne_nil numeral.core_ne_nil
    have hwhite : isWhite c = true := h c (by simp [← htext, Octal.text, hcore])
    have hcolored : isWhite c = false := numeral.isWhite_of_mem_core (by simp [hcore])
    simp [hwhite] at hcolored
  · have hletters : ∀ c ∈ sign.text ++ mark.text, isWhite c = false := by
      intro c hc
      rcases List.mem_append.mp hc with hc | hc
      · exact isWhite_of_mem (Sign.mem_text hc)
      · exact (Mark.mem_text hc).elim isWhite_of_mem isWhite_of_isDigit
    rw [octal?, trim_isMargin h hne hletters]
    cases mark with
    | absent =>
        cases sign with
        | absent => exact absurd rfl hne
        | plus | minus => rfl
    | octal zero o hmark underscored =>
        have hzero : isDigit 8 zero = true := Option.isSome_of_mem hmark.1
        have hunmarked := unmarked_text (.octal zero o hmark underscored)
        rw [Mark.text] at hunmarked ⊢
        rw [signed?_append _ _ hzero, hunmarked]
        rfl

/-- A misspelt text is how no numeral is written. -/
theorem Misspelt.ne_text (h : Misspelt t) (numeral : Octal) : numeral.text ≠ t := by
  intro htext
  cases h with
  | empty sign mark h => exact octal?_eq_none_iff.mp (octal?_empty sign mark h) numeral htext
  | foreign hwhite hdigit hunderscore hsign hmark =>
      cases numeral.inPlace_text htext with
      | white hc => simp [hwhite] at hc
      | digit hc => simp [hdigit] at hc
      | sign hc h =>
          obtain ⟨other, hother, hcolored⟩ := hsign hc
          simp [h other hother] at hcolored
      | mark sign hoctal hspaces h => exact hmark _ sign _ hoctal hspaces h
      | underscore => exact hunderscore rfl
  | divided hc hbefore hafter =>
      obtain ⟨left, hleft, hleft'⟩ := hbefore
      obtain ⟨right, hright, hright'⟩ := hafter
      cases numeral.inPlace_text htext with
      | white _ h =>
          rcases h with h | h
          · simp [h left hleft] at hleft'
          · simp [h right hright] at hright'
      | digit hd => simp [isWhite_of_isDigit hd] at hc
      | sign hsign => rcases hsign with rfl | rfl <;> exact absurd hc (by decide)
      | mark sign hmark => rcases hmark.2 with rfl | rfl <;> exact absurd hc (by decide)
      | underscore => exact absurd hc (by decide)
  | doubled before after =>
      obtain ⟨-, c, hhead, hc⟩ := (numeral.inPlace_text htext).of_underscore
      obtain rfl := Option.some.inj hhead
      exact absurd hc (by decide)
  | trailing before hafter =>
      obtain ⟨-, c, hhead, hc⟩ := (numeral.inPlace_text htext).of_underscore
      have hwhite := hafter c (List.mem_of_head? hhead)
      simp [isWhite_of_isDigit hc] at hwhite
  | leading sign hbefore after =>
      obtain ⟨⟨c, hmem, hc⟩, -⟩ := (numeral.inPlace_text htext).of_underscore
      rcases List.mem_append.mp hmem with hmem | hmem
      · have hwhite := hbefore c hmem
        simp [isWhite_of_isDigit hc] at hwhite
      · simp [isDigit_of_mem (Sign.mem_text hmem)] at hc

/-- What keeps digits from being read up to the end of a text. -/
theorem exists_flaw_of_digits? {value : Nat} {afterDigit : Bool}
    (h : digits? base value afterDigit t = none) :
    (afterDigit = false ∧ (t = [] ∨ ∃ after, t = .char '_' :: after)) ∨
      (∃ before, t = before ++ [.char '_']) ∨
      (∃ before after, t = before ++ .char '_' :: .char '_' :: after) ∨
      ∃ before c after, t = before ++ c :: after ∧ isDigit base c = false ∧ c ≠ .char '_' := by
  fun_induction digits? base value afterDigit t with
  | case1 => cases h
  | case2 value afterDigit hafter => exact .inl ⟨by simpa using hafter, .inl rfl⟩
  | case3 value rest ih =>
      obtain ⟨-, rfl | ⟨after, rfl⟩⟩ | ⟨before, rfl⟩ | ⟨before, after, rfl⟩ |
        ⟨before, c, after, rfl, hc⟩ := ih h
      · exact .inr (.inl ⟨[], rfl⟩)
      · exact .inr (.inr (.inl ⟨[], after, rfl⟩))
      · exact .inr (.inl ⟨.char '_' :: before, rfl⟩)
      · exact .inr (.inr (.inl ⟨.char '_' :: before, after, rfl⟩))
      · exact .inr (.inr (.inr ⟨.char '_' :: before, c, after, rfl, hc⟩))
  | case4 value afterDigit rest hafter => exact .inl ⟨by simpa using hafter, .inr ⟨rest, rfl⟩⟩
  | case5 value afterDigit first rest hfirst d hd ih =>
      obtain ⟨hafter, -⟩ | ⟨before, rfl⟩ | ⟨before, after, rfl⟩ |
        ⟨before, c, after, rfl, hc⟩ := ih h
      · cases hafter
      · exact .inr (.inl ⟨first :: before, rfl⟩)
      · exact .inr (.inr (.inl ⟨first :: before, after, rfl⟩))
      · exact .inr (.inr (.inr ⟨first :: before, c, after, rfl, hc⟩))
  | case6 value afterDigit c rest hc hdigit =>
      exact .inr (.inr (.inr ⟨[], c, rest, rfl, by simpa [isDigit] using hdigit, hc⟩))

theorem unmarked_of_isMark {zero o : Letter} (h : IsMark zero o) (rest : Text) :
    unmarked (zero :: o :: rest) <:+ rest := by
  obtain ⟨hzero, ho⟩ := h
  unfold unmarked
  dsimp only
  rw [if_pos ⟨hzero, ho⟩]
  split
  · exact List.suffix_cons _ _
  · exact List.suffix_rfl

theorem Sign.append_inj {sign other : Sign}
    (habsent : sign = .absent → ∀ c, rest.head? = some c → c ≠ .char '+' ∧ c ≠ .char '-')
    (hc : isDigit base c = true) {more : Text} (h : sign.text ++ rest = other.text ++ c :: more) :
    rest = c :: more := by
  have hplus : c ≠ .char '+' := ne_of_isDigit hc (by decide)
  have hminus : c ≠ .char '-' := ne_of_isDigit hc (by decide)
  cases sign <;> cases other <;> simp_all [text, Text.ofString]

/-- An underscore that stays behind when the mark is taken off is misplaced. -/
theorem misspelt_of_underscore {before more : Text} (sign : Sign) {mark : Mark}
    (hbefore : ∀ c ∈ before, isWhite c = true)
    (h : unmarked (mark.text ++ .char '_' :: more) = .char '_' :: more) (after : Text) :
    Misspelt (before ++ sign.text ++ (mark.text ++ .char '_' :: more) ++ after) := by
  cases mark with
  | absent => simpa [Mark.text] using Misspelt.leading sign hbefore (more ++ after)
  | octal zero o hmark underscored =>
      cases underscored with
      | true =>
          have hdoubled := Misspelt.doubled (before ++ sign.text ++ [zero, o]) (more ++ after)
          simpa [Mark.text, Text.ofString] using hdoubled
      | false =>
          -- The underscore goes with the mark, so it is not left there.
          change unmarked (zero :: o :: .char '_' :: more) = .char '_' :: more at h
          simp [unmarked_underscore hmark] at h

/-- A letter that is no digit and no underscore is misplaced behind the sign and the mark. -/
theorem misspelt_of_letter {before start right after : Text} (hdigit : isDigit 8 c = false)
    (hunderscore : c ≠ .char '_') (hbefore : ∀ c ∈ before, isWhite c = true)
    (hhead : ∀ first, (start ++ c :: right).head? = some first → isWhite first = false)
    (hlast : ∀ last, (start ++ c :: right).getLast? = some last → isWhite last = false)
    (hsign : start = [] → c ≠ .char '+' ∧ c ≠ .char '-')
    (hmark : ∀ (sign : Sign) zero, IsMark zero c → start ≠ sign.text ++ [zero]) :
    Misspelt (before ++ start ++ c :: (right ++ after)) := by
  have hcolored (hne : start ≠ []) : ∃ c ∈ before ++ start, isWhite c = false := by
    obtain ⟨first, more, rfl⟩ := List.exists_cons_of_ne_nil hne
    exact ⟨first, by simp, hhead first rfl⟩
  by_cases hc : isWhite c = true
  · refine .divided hc (hcolored ?_) ?_
    · rintro rfl
      simp [hhead c rfl] at hc
    · have hne : right ≠ [] := by
        rintro rfl
        simp [hlast c (by simp)] at hc
      refine ⟨right.getLast hne, by simp, hlast _ ?_⟩
      simp [List.getLast?_cons, List.getLast?_eq_some_getLast hne]
  · refine .foreign (by simpa using hc) hdigit hunderscore (fun hc => hcolored ?_) ?_
    · rintro rfl
      obtain ⟨hplus, hminus⟩ := hsign rfl
      exact hc.elim hplus hminus
    · intro spaces sign zero hoctal hspaces h
      have hstart : ∀ first, start.head? = some first → isWhite first = false := by
        intro first hfirst
        exact hhead first (by simp [hfirst])
      have hfront : ∀ first, (sign.text ++ [zero]).head? = some first → isWhite first = false := by
        intro first hfirst
        rcases List.mem_append.mp (List.mem_of_head? hfirst) with hmem | hmem
        · exact isWhite_of_mem (Sign.mem_text hmem)
        · rw [List.mem_singleton.mp hmem]
          exact isWhite_of_isDigit (Option.isSome_of_mem hoctal.1)
      refine hmark sign zero hoctal ?_
      rw [← Text.dropWhile_append hbefore hstart, h, Text.dropWhile_append hspaces hfront]

/-- A text that cannot be read is misspelt. -/
theorem misspelt_of_octal? (h : octal? t = none) : Misspelt t := by
  obtain ⟨before, after, hsplit, hwhite⟩ := Text.exists_trim isWhite t
  obtain ⟨hbefore, hafter⟩ := List.forall_mem_append.mp hwhite
  obtain ⟨sign, rest, hcore, hsigned, habsent⟩ :=
    exists_sign (fun digits => natural? 8 (unmarked digits)) (t.trim isWhite)
  obtain ⟨mark, hmark⟩ := exists_mark rest
  have hnone : natural? 8 (unmarked rest) = none := by
    rw [octal?, isMargin_eq_isWhite, hsigned, Option.map_eq_none_iff] at h
    exact h
  obtain ⟨-, hbody | ⟨more, hbody⟩⟩ | ⟨left, hbody⟩ | ⟨left, right, hbody⟩ |
    ⟨left, c, right, hbody, hdigit, hunderscore⟩ := exists_flaw_of_digits? hnone
  · rw [hsplit, ← hcore, ← hmark, hbody, List.append_nil]
    exact .empty sign mark hwhite
  · have hstart : t = before ++ sign.text ++ (mark.text ++ .char '_' :: more) ++ after := by
      rw [hsplit, ← hcore, ← hmark, hbody]
      simp
    rw [hstart]
    exact misspelt_of_underscore sign hbefore (by rw [← hbody, hmark]) after
  · have hend : t = before ++ (sign.text ++ (mark.text ++ left)) ++ .char '_' :: after := by
      rw [hsplit, ← hcore, ← hmark, hbody]
      simp
    rw [hend]
    exact .trailing _ hafter
  · have hinside : t = before ++ (sign.text ++ (mark.text ++ left)) ++
        .char '_' :: .char '_' :: (right ++ after) := by
      rw [hsplit, ← hcore, ← hmark, hbody]
      simp
    rw [hinside]
    exact .doubled _ _
  · have hletter : t.trim isWhite = sign.text ++ (mark.text ++ left) ++ c :: right := by
      rw [← hcore, ← hmark, hbody]
      simp
    have hends : t = before ++ (sign.text ++ (mark.text ++ left)) ++ c :: (right ++ after) := by
      rw [hsplit, hletter]
      simp
    rw [hends]
    refine misspelt_of_letter hdigit hunderscore hbefore ?_ ?_ ?_ ?_
    · exact fun first hfirst => Text.head?_trim (hletter ▸ hfirst)
    · exact fun last hlast => Text.getLast?_trim (hletter ▸ hlast)
    · intro hstart
      obtain ⟨hsign, hstart⟩ := List.append_eq_nil_iff.mp hstart
      refine habsent (by cases sign <;> first | rfl | cases hsign) c ?_
      rw [← hmark, hbody, ← List.append_assoc, hstart]
      rfl
    · intro other zero hoctal hstart
      have hsame : sign.text ++ rest = other.text ++ zero :: c :: right := by
        rw [hcore, hletter, hstart]
        simp
      have hrest := Sign.append_inj habsent (Option.isSome_of_mem hoctal.1) hsame
      have hsuffix := (unmarked_of_isMark hoctal right).length_le
      rw [← hrest, hbody] at hsuffix
      simp only [List.length_append, List.length_cons] at hsuffix
      omega

/-- The misspelt texts are those that are how no numeral is written. -/
theorem misspelt_iff : Misspelt t ↔ ∀ numeral : Octal, numeral.text ≠ t :=
  ⟨Misspelt.ne_text, fun hne => misspelt_of_octal? (octal?_eq_none_iff.mpr hne)⟩

end Numeral

open Numeral (Octal Sign Mark Misspelt isWhite)

theorem permissions_eq_ok_iff {t : Text} {n : Int} :
    permissions t = .ok n ↔ Numeral.octal? t = some n := by
  unfold permissions
  split <;> simp_all

theorem permissions_of_octal?_eq_none {t : Text} (h : Numeral.octal? t = none) :
    permissions t = .error (.skeleton none (.invalidPermission t)) := by
  rw [permissions, h]

/-- Permissions are read exactly. The texts that can be read are the octal numerals, each as the
number that it stands for. So the octal digits of every integer are read back, also with leading
zeros, a sign and a mark, in groups and with white space around them. Every other text is refused,
and the message quotes it; these are the misspelt ones. -/
theorem permissions_exact :
    (∀ (t : Text) (n : Int), permissions t = .ok n ↔
      ∃ numeral : Octal, numeral.text = t ∧ numeral.value = n) ∧
    (∀ (n : Int) (width : Nat) (sign : Sign) (mark : Mark) (groups : List Text)
      (before after : Text), sign.apply n.natAbs = n →
        groups.flatten = Text.octal width n.natAbs → [] ∉ groups →
        (∀ c ∈ before ++ after, isWhite c = true) →
          permissions (before ++ (sign.text ++ (mark.text ++ Text.join "_" groups)) ++ after) =
            .ok n) ∧
    (∀ t, (∀ numeral : Octal, numeral.text ≠ t) →
      permissions t = .error (.skeleton none (.invalidPermission t)) ∧
        SkeletonFault.message (.invalidPermission t) = "invalid permission " ++ t.quoted) ∧
    ∀ t, Misspelt t ↔ ∀ numeral : Octal, numeral.text ≠ t := by
  refine ⟨fun t n => ?_, ?_, fun t hne => ⟨?_, rfl⟩, fun t => Numeral.misspelt_iff⟩
  · rw [permissions_eq_ok_iff, Numeral.octal?_eq_some_iff]
  · intro n width sign mark groups before after hsign hdigits hgroups hwhite
    exact permissions_eq_ok_iff.mpr (Numeral.octal?_octal hwhite hsign hdigits hgroups)
  · exact permissions_of_octal?_eq_none (Numeral.octal?_eq_none_iff.mpr hne)

/-- A numeral with digits of three scripts and with all that may stand around them. -/
def mixedNumeral : Octal where
  before := " \u3000"
  sign := .minus
  mark := .octal (.char '\u0660') (.char 'O') ⟨by decide, .inr rfl⟩ true
  groups := ["7", "\u096b5"]
  after := "\n"
  white := by decide
  groups_ne_nil := by decide
  isGroup := by decide

theorem permissions_exact_mixed :
    permissions " \u3000-\u0660O_7_\u096b5\n" = .ok (-0o755) ∧
      permissions "+0o00_7_50" = .ok 0o750 ∧
      permissions "7 5" = .error (.skeleton none (.invalidPermission "7 5")) := by
  have hspaced : Misspelt "7 5" :=
    @Misspelt.divided "7" "5" (.char ' ') (by decide) (by decide) (by decide)
  refine ⟨(permissions_exact.1 _ _).mpr ⟨mixedNumeral, rfl, by decide⟩, ?_, ?_⟩
  · exact permissions_exact.2.1 0o750 5 .plus (.octal (.char '0') (.char 'o') ⟨rfl, .inl rfl⟩ false)
      ["00", "7", "50"] [] [] (by decide) (by decide) (by decide) (by decide)
  · exact (permissions_exact.2.2.1 _ ((permissions_exact.2.2.2 _).mp hspaced)).1

end Scaffold
