import Scaffold.Proofs.Atomicity
import Scaffold.Proofs.Policy

/-!
How many branches are open. Directives open and close branches like brackets, so the number of open
branches follows from the words of the directives alone. It says which directive is the first one
without a branch that it needs, and directives that nest leave the branches around them as they
were.
-/

namespace Scaffold.Directive

/-- What a text does to the open branches, told by its word and by whether it has arguments. -/
def roleOf (t : Text) : Role := Role.ofWord (word t) (arguments t = [])

/-- How many of the texts open a branch. -/
def opened (texts : List Text) : Nat := texts.countP (roleOf · = .opens)

/-- How many of the texts close a branch. -/
def closed (texts : List Text) : Nat := texts.countP (roleOf · = .closes)

/-- The word of a text that needs an open branch. -/
def needs? (t : Text) : Option BranchWord :=
  match roleOf t with
  | .inverts => some .otherwise
  | .alternates => some .alternative
  | .closes => some .close
  | .opens | .keeps => none

/-- After `depth` branches and the texts before it, a text with that word finds no open branch. -/
def Underflows (depth : Nat) (before : List Text) (t : Text) (word : BranchWord) : Prop :=
  needs? t = some word ∧ depth + opened before = closed before

/-- None of the texts finds that no branch is open which it needs. -/
def Suffices (depth : Nat) (texts : List Text) : Prop :=
  ∀ before t after word, texts = before ++ t :: after → ¬ Underflows depth before t word

/-- Nothing is wrong with a text in itself: its condition is known, and its permissions are a
number. -/
structure IsSound (evaluate : Evaluator) (t : Text) : Prop where
  condition : word t = "if" ∨ word t = "elif" → ∃ holds, evaluate (arguments t) = .ok holds
  permissions : word t = "perm" → ∀ digits, arguments t = [digits] →
    ∃ bits, Numeral.octal? digits = some bits

/-- Each branch is closed that the texts open, and those that change or close a branch have one of
these before them. In a block there may be others, which change the branch of the block. -/
inductive Nested : (inBlock : Bool) → List Text → Prop where
  | nil {inBlock : Bool} : Nested inBlock []
  | keeps {inBlock : Bool} {t : Text} {rest : List Text} (hrole : roleOf t = .keeps)
      (hrest : Nested inBlock rest) : Nested inBlock (t :: rest)
  | turns {t : Text} {rest : List Text} (hrole : roleOf t = .alternates ∨ roleOf t = .inverts)
      (hrest : Nested true rest) : Nested true (t :: rest)
  | block {inBlock : Bool} {opening closing : Text} {body rest : List Text}
      (hopening : roleOf opening = .opens) (hbody : Nested true body)
      (hclosing : roleOf closing = .closes) (hrest : Nested inBlock rest) :
      Nested inBlock (opening :: (body ++ closing :: rest))

/-- What a directive with a role makes of the open branches. -/
inductive Shifts : Role → List Bool → List Bool → Prop where
  | keeps (frames : List Bool) : Shifts .keeps frames frames
  | opens (frame : Bool) (frames : List Bool) : Shifts .opens frames (frame :: frames)
  | alternates (frame other : Bool) (outer : List Bool) :
      Shifts .alternates (frame :: outer) (other :: outer)
  | inverts (frame : Bool) (outer : List Bool) :
      Shifts .inverts (frame :: outer) ((!frame) :: outer)
  | closes (frame : Bool) (outer : List Bool) : Shifts .closes (frame :: outer) outer

variable {evaluate : Evaluator} {t : Text} {texts : List Text} {sheet last : Sheet}
  {failure : Failure}

theorem role_eq_roleOf (t : Text) : (ofText t).role = roleOf t := by
  rw [ofText_eq, role_ofTokens, roleOf]

theorem branchWord?_ofText (t : Text) : (ofText t).branchWord? = needs? t := by
  rw [needs?, ← role_eq_roleOf]
  cases ofText t <;> rfl

theorem shifts_of_edit {directive : Directive} {flags changed : FileFlags}
    (h : directive.edit evaluate flags = .ok changed) :
    Shifts directive.role flags.frames changed.frames := by
  cases directive with
  | branch condition =>
      obtain ⟨holds, -, rfl⟩ := Step.map_eq_ok_iff.mp h
      exact .opens _ _
  | otherwise =>
      obtain ⟨frame, outer, frames, hframes, hchange, rfl⟩ := changeInnermost_eq_ok h
      obtain rfl := Except.ok.inj hchange
      rw [hframes]
      exact .inverts frame outer
  | alternative condition =>
      obtain ⟨frame, outer, frames, hframes, hchange, rfl⟩ := changeInnermost_eq_ok h
      obtain ⟨holds, -, rfl⟩ := Step.map_eq_ok_iff.mp hchange
      rw [hframes]
      exact .alternates frame _ outer
  | close =>
      obtain ⟨frame, outer, frames, hframes, hchange, rfl⟩ := changeInnermost_eq_ok h
      obtain rfl := Except.ok.inj hchange
      rw [hframes]
      exact .closes frame outer
  | _ =>
      rw [frames_edit_of_keeps rfl h]
      exact .keeps _

theorem shifts_of_handler {answer : Text}
    (h : handler (fun _ => evaluate) t sheet = .ok answer last) :
    Shifts (roleOf t) sheet.flags.frames last.flags.frames := by
  rw [handler_eq] at h
  rw [← role_eq_roleOf]
  cases hedit : (ofText t).edit evaluate sheet.flags with
  | ok flags =>
      rw [hedit] at h
      cases h
      exact shifts_of_edit hedit
  | error failure =>
      rw [hedit] at h
      cases h

theorem Shifts.length_eq {frames changed : List Bool} (h : Shifts (roleOf t) frames changed) :
    changed.length + closed [t] = frames.length + opened [t] := by
  unfold closed opened
  generalize hrole : roleOf t = role at h
  cases h <;> simp [hrole]

theorem tokens_of_permissions {digits : Text} (h : ofText t = .permissions digits) :
    word t = "perm" ∧ arguments t = [digits] := by
  rw [ofText_eq] at h
  rcases harguments : arguments t with _ | ⟨argument, _ | ⟨other, more⟩⟩ <;>
    rw [harguments] at h <;> grind [ofTokens]

theorem IsSound.not_error {condition : List Text} (hsound : IsSound evaluate t)
    (h : ofText t = .branch condition ∨ ofText t = .alternative condition) :
    evaluate condition ≠ .error failure := by
  have hrole := role_ofText t
  have hcondition : ∃ holds, evaluate (arguments t) = .ok holds := by
    apply hsound.condition
    rcases h with h | h
    · rw [h] at hrole
      exact .inl (Role.ofWord_eq_opens_iff.mp hrole.symm)
    · rw [h] at hrole
      exact .inr (Role.ofWord_eq_alternates_iff.mp hrole.symm).2
  have harguments : condition = arguments t := by
    rcases h with h | h
    · exact Directive.branch.inj (h.symm.trans (ofText_of_opens (by rw [h]; rfl)))
    · exact Directive.alternative.inj (h.symm.trans (ofText_of_alternates (by rw [h]; rfl)))
  obtain ⟨holds, hholds⟩ := hcondition
  rw [harguments, hholds]
  simp

/-- A sound directive fails only because it needs an open branch. -/
theorem handler_eq_error_iff_of_isSound (hsound : IsSound evaluate t) :
    handler (fun _ => evaluate) t sheet = .error failure last ↔
      last = sheet ∧ sheet.flags.frames = [] ∧
        ∃ word, needs? t = some word ∧ failure = .skeleton none (.unmatched word) := by
  rw [handler_eq_error_iff, ← branchWord?_ofText]
  refine and_congr_right fun _ => ⟨fun hblocked => ?_, ?_⟩
  · generalize hdirective : ofText t = directive at hblocked
    cases hblocked with
    | branch hcondition => exact absurd hcondition (hsound.not_error (.inl hdirective))
    | alternative _ hcondition => exact absurd hcondition (hsound.not_error (.inr hdirective))
    | unmatched hclosed hword => exact ⟨hclosed, _, hword, rfl⟩
    | permissions hdigits =>
        obtain ⟨hword, harguments⟩ := tokens_of_permissions hdirective
        obtain ⟨bits, hbits⟩ := hsound.permissions hword _ harguments
        cases hbits.symm.trans hdigits
  · rintro ⟨hclosed, word, hword, rfl⟩
    exact .unmatched hclosed hword

theorem handAll_append_eq_ok_iff {handle : Text → Rendering Text} {before after : List Text} :
    handAll handle (before ++ after) sheet = .ok () last ↔
      ∃ middle, handAll handle before sheet = .ok () middle ∧
        handAll handle after middle = .ok () last := by
  have happend : handAll handle (before ++ after) = (do
      handAll handle before
      handAll handle after) := by
    induction before with
    | nil => simp [handAll]
    | cons t before ih => simp [handAll, ih]
  rw [happend, Step.bind_eq_ok_iff]
  constructor
  · rintro ⟨_, middle, hbefore, hafter⟩
    exact ⟨middle, hbefore, hafter⟩
  · rintro ⟨middle, hbefore, hafter⟩
    exact ⟨(), middle, hbefore, hafter⟩

/-- Where texts that are handed over one after the other break off. -/
theorem handAll_eq_error_iff {handle : Text → Rendering Text} :
    handAll handle texts sheet = .error failure last ↔
      ∃ before t after middle, texts = before ++ t :: after ∧
        handAll handle before sheet = .ok () middle ∧ handle t middle = .error failure last := by
  induction texts generalizing sheet with
  | nil => simp [handAll, pure, EStateM.pure]
  | cons u rest ih =>
      rw [handAll, Step.bind_eq_error_iff]
      constructor
      · rintro (hfirst | ⟨answer, next, hfirst, hrest⟩)
        · exact ⟨[], u, rest, sheet, rfl, rfl, hfirst⟩
        · obtain ⟨before, t, after, middle, rfl, hbefore, ht⟩ := ih.mp hrest
          exact ⟨u :: before, t, after, middle, rfl,
            Step.bind_eq_ok_iff.mpr ⟨answer, next, hfirst, hbefore⟩, ht⟩
      · rintro ⟨before, t, after, middle, hsplit, hbefore, ht⟩
        rcases List.cons_eq_append_iff.mp hsplit with ⟨rfl, hcons⟩ | ⟨before, rfl, rfl⟩
        · obtain ⟨rfl, rfl⟩ := List.cons.inj hcons
          cases hbefore
          exact .inl ht
        · obtain ⟨answer, next, hfirst, hrest⟩ := Step.bind_eq_ok_iff.mp hbefore
          exact .inr ⟨answer, next, hfirst, ih.mpr ⟨before, t, after, middle, rfl, hrest, ht⟩⟩

/-- Each open branch was open at the start or has been opened since, and has not been closed. -/
theorem length_frames_handAll (h : handAll (handler fun _ => evaluate) texts sheet = .ok () last) :
    last.flags.frames.length + closed texts = sheet.flags.frames.length + opened texts := by
  induction texts generalizing sheet with
  | nil =>
      cases h
      rfl
  | cons t rest ih =>
      obtain ⟨answer, next, hfirst, hrest⟩ := Step.bind_eq_ok_iff.mp h
      have hstep := (shifts_of_handler hfirst).length_eq
      have hlast := ih hrest
      rw [opened, closed] at hstep hlast ⊢
      rw [← List.singleton_append, List.countP_append, List.countP_append]
      omega

section

variable (hsound : ∀ t ∈ texts, IsSound evaluate t)

include hsound

theorem handAll_eq_error_iff_of_isSound :
    handAll (handler fun _ => evaluate) texts sheet = .error failure last ↔
      ∃ before t after word, texts = before ++ t :: after ∧
        Underflows sheet.flags.frames.length before t word ∧
        failure = .skeleton none (.unmatched word) ∧
        handAll (handler fun _ => evaluate) before sheet = .ok () last := by
  rw [handAll_eq_error_iff]
  constructor
  · rintro ⟨before, t, after, middle, rfl, hbefore, ht⟩
    obtain ⟨rfl, hclosed, word, hword, rfl⟩ :=
      (handler_eq_error_iff_of_isSound (hsound t (by simp))).mp ht
    have hdepth := length_frames_handAll hbefore
    rw [hclosed] at hdepth
    exact ⟨before, t, after, word, rfl, ⟨hword, by simpa using hdepth.symm⟩, rfl, hbefore⟩
  · rintro ⟨before, t, after, word, rfl, ⟨hword, hcount⟩, rfl, hbefore⟩
    have hdepth := length_frames_handAll hbefore
    have hclosed : last.flags.frames = [] := List.eq_nil_of_length_eq_zero (by omega)
    exact ⟨before, t, after, last, rfl, hbefore,
      (handler_eq_error_iff_of_isSound (hsound t (by simp))).mpr ⟨rfl, hclosed, word, hword, rfl⟩⟩

theorem exists_handAll_iff_suffices :
    (∃ last, handAll (handler fun _ => evaluate) texts sheet = .ok () last) ↔
      Suffices sheet.flags.frames.length texts := by
  constructor
  · rintro ⟨last, hlast⟩ before t after word rfl hunderflows
    obtain ⟨middle, hbefore, -⟩ := handAll_append_eq_ok_iff.mp hlast
    cases hlast.symm.trans ((handAll_eq_error_iff_of_isSound hsound).mpr
      ⟨before, t, after, word, rfl, hunderflows, rfl, hbefore⟩)
  · intro hsuffices
    cases hlast : handAll (handler fun _ => evaluate) texts sheet with
    | ok _ last => exact ⟨last, rfl⟩
    | error failure last =>
        obtain ⟨before, t, after, word, hsplit, hunderflows, -⟩ :=
          (handAll_eq_error_iff_of_isSound hsound).mp hlast
        exact absurd hunderflows (hsuffices before t after word hsplit)

end

theorem exists_handler_of_isSound {frames : List Bool} (hsound : IsSound evaluate t)
    (hframes : sheet.flags.frames = frames) (hopen : needs? t = none ∨ frames ≠ []) :
    ∃ next changed, handler (fun _ => evaluate) t sheet = .ok [] next ∧ next.flags.frames = changed ∧
      Shifts (roleOf t) frames changed := by
  subst hframes
  cases hstep : handler (fun _ => evaluate) t sheet with
  | ok answer next =>
      obtain rfl := handler_silent hstep
      exact ⟨next, _, rfl, rfl, shifts_of_handler hstep⟩
  | error failure next =>
      obtain ⟨-, hclosed, word, hword, -⟩ := (handler_eq_error_iff_of_isSound hsound).mp hstep
      rcases hopen with hnone | hopen
      · cases hword.symm.trans hnone
      · exact absurd hclosed hopen

/-- Directives that nest work on the branches in front alone: on those that they open themselves,
and in a block on the branch of the block. -/
theorem exists_handAll_of_nested {inBlock : Bool} (h : Nested inBlock texts)
    (hsound : ∀ t ∈ texts, IsSound evaluate t) {inner outer : List Bool}
    (hframes : sheet.flags.frames = inner ++ outer) (hinner : inner.length = inBlock.toNat) :
    ∃ last inner', handAll (handler fun _ => evaluate) texts sheet = .ok () last ∧
      last.flags.frames = inner' ++ outer ∧ inner'.length = inBlock.toNat := by
  induction h generalizing sheet inner outer with
  | nil => exact ⟨sheet, inner, rfl, hframes, hinner⟩
  | @keeps inBlock t rest hrole _ ih =>
      obtain ⟨ht, hrest⟩ := List.forall_mem_cons.mp hsound
      obtain ⟨next, changed, hstep, hnext, hshifts⟩ :=
        exists_handler_of_isSound ht hframes (.inl (by rw [needs?, hrole]))
      rw [hrole] at hshifts
      cases hshifts
      rw [handAll, Step.bind_of_ok hstep]
      exact ih hrest hnext hinner
  | @turns t rest hrole _ ih =>
      obtain ⟨ht, hrest⟩ := List.forall_mem_cons.mp hsound
      obtain ⟨frame, rfl⟩ := List.length_eq_one_iff.mp hinner
      obtain ⟨next, changed, hstep, hnext, hshifts⟩ :=
        exists_handler_of_isSound ht hframes (.inr (List.cons_ne_nil frame outer))
      rw [handAll, Step.bind_of_ok hstep]
      rcases hrole with hrole | hrole <;> rw [hrole, List.singleton_append] at hshifts
      · cases hshifts with
        | alternates _ other => exact ih hrest (show _ = [other] ++ outer from hnext) rfl
      · cases hshifts with
        | inverts => exact ih hrest (show _ = [!frame] ++ outer from hnext) rfl
  | @block inBlock opening closing body rest hopening _ hclosing _ ihbody ihrest =>
      obtain ⟨ht, hmore⟩ := List.forall_mem_cons.mp hsound
      obtain ⟨hbody, hmore⟩ := List.forall_mem_append.mp hmore
      obtain ⟨hu, hrest⟩ := List.forall_mem_cons.mp hmore
      obtain ⟨next, changed, hstep, hnext, hshifts⟩ :=
        exists_handler_of_isSound ht hframes (.inl (by rw [needs?, hopening]))
      rw [hopening] at hshifts
      cases hshifts with
      | opens frame =>
        -- In the body all that was open before lies behind the branch of the block.
        obtain ⟨middle, inner', hmiddle, hmiddleFrames, hlength⟩ :=
          ihbody hbody (show _ = [frame] ++ (inner ++ outer) from hnext) rfl
        obtain ⟨frame', rfl⟩ := List.length_eq_one_iff.mp hlength
        obtain ⟨after, changed, hclose, hafter, hshifts⟩ :=
          exists_handler_of_isSound hu hmiddleFrames (.inr (List.cons_ne_nil frame' _))
        rw [hclosing, List.singleton_append] at hshifts
        cases hshifts
        obtain ⟨last, inner', hlast, hlastFrames, hlength⟩ := ihrest hrest hafter hinner
        refine ⟨last, inner', ?_, hlastFrames, hlength⟩
        rw [handAll, Step.bind_of_ok hstep, handAll_append_eq_ok_iff]
        refine ⟨middle, hmiddle, ?_⟩
        rw [handAll, Step.bind_of_ok hclose, hlast]

/-- Texts that are handed over as they are change no list, so conditions are all decided in the same
way. -/
theorem handAll_handler (live : LiveEvaluator) (texts : List Text) (sheet : Sheet) :
    handAll (handler live) texts sheet =
      handAll (handler fun _ => live sheet.changes) texts sheet := by
  induction texts generalizing sheet with
  | nil => rfl
  | cons t rest ih =>
      have hstep : handler live t sheet = handler (fun _ => live sheet.changes) t sheet := rfl
      rw [handAll, handAll, Step.bind_apply, Step.bind_apply, ← hstep, handler_eq]
      cases (ofText t).edit (live sheet.changes) sheet.flags with
      | error failure => rfl
      | ok flags => exact ih _

/-- The open branches follow the words of the directives. Sound directives that are applied one
after the other break off at the first one that needs a branch when none is open, with a message
that names it, and nowhere else. Up to there as many branches are open as were opened and not
closed. Directives that nest leave the branches exactly as they were. -/
theorem frames_disciplined {live : LiveEvaluator} {sheet : Sheet}
    (hsound : ∀ t ∈ texts, IsSound (live sheet.changes) t) :
    (∀ failure last, handAll (handler live) texts sheet = .error failure last ↔
        ∃ before t after word, texts = before ++ t :: after ∧
          Suffices sheet.flags.frames.length before ∧
          Underflows sheet.flags.frames.length before t word ∧
          failure = .skeleton none (.unmatched word) ∧
          (∀ foreign, failure.message foreign = (word.name ++ " without if" : Text)) ∧
          handAll (handler live) before sheet = .ok () last) ∧
      ((∃ last, handAll (handler live) texts sheet = .ok () last) ↔
        Suffices sheet.flags.frames.length texts) ∧
      (∀ before last, before <+: texts → handAll (handler live) before sheet = .ok () last →
        last.flags.frames.length + closed before = sheet.flags.frames.length + opened before) ∧
      (Nested false texts → ∃ last, handAll (handler live) texts sheet = .ok () last ∧
        last.flags.frames = sheet.flags.frames) := by
  simp only [handAll_handler live]
  refine ⟨fun failure last => ?_, exists_handAll_iff_suffices hsound,
    fun _ _ _ hbefore => length_frames_handAll hbefore, fun hnested => ?_⟩
  · rw [handAll_eq_error_iff_of_isSound hsound]
    constructor
    · rintro ⟨before, t, after, word, rfl, hunderflows, rfl, hbefore⟩
      have hbeforeSound : ∀ u ∈ before, IsSound (live sheet.changes) u := fun u hu =>
        hsound u (List.mem_append_left _ hu)
      exact ⟨before, t, after, word, rfl,
        (exists_handAll_iff_suffices hbeforeSound).mp ⟨last, hbefore⟩, hunderflows, rfl,
        fun _ => rfl, hbefore⟩
    · rintro ⟨before, t, after, word, hsplit, -, hunderflows, hfailure, -, hbefore⟩
      exact ⟨before, t, after, word, hsplit, hunderflows, hfailure, hbefore⟩
  · obtain ⟨last, inner, hlast, hframes, hlength⟩ :=
      exists_handAll_of_nested hnested hsound (List.nil_append sheet.flags.frames).symm rfl
    rw [List.eq_nil_of_length_eq_zero hlength] at hframes
    exact ⟨last, hlast, hframes⟩

/-- Directives that nest, among others that only look like directives about branches. -/
def nestedTexts : List Text :=
  ["if:ci", "else:x", "elif:a:b", "perm:755", "if", "fi:x", "endif", "else", "fi"]

/-- The branches that they open are closed, but one is closed that none of them opens. -/
def shortTexts : List Text := nestedTexts ++ [("fi" : Text), "create"]

theorem nested_nestedTexts : Nested false nestedTexts := by
  have hinner : Nested true [("fi:x" : Text)] := .keeps (by decide) .nil
  have hbody : Nested true ["else:x", "elif:a:b", "perm:755", "if", "fi:x", "endif", "else"] :=
    .keeps (by decide) (.turns (by decide) (.keeps (by decide)
      (.block (by decide) hinner (by decide) (.turns (by decide) .nil))))
  exact .block (by decide) hbody (by decide) .nil

theorem isSound_shortTexts : ∀ t ∈ shortTexts, IsSound (fun _ => .ok true) t := by
  have hperm : ∀ t ∈ shortTexts, word t = "perm" → arguments t = [("755" : Text)] := by decide
  intro t ht
  refine ⟨fun _ => ⟨true, rfl⟩, fun hword digits hdigits => ?_⟩
  obtain rfl := List.singleton_inj.mp (hdigits.symm.trans (hperm t ht hword))
  exact ⟨493, by decide +kernel⟩

theorem frames_disciplined_nested :
    (∃ last, handAll (handler fun _ _ => .ok true) nestedTexts
        { flags := { frames := [true, false] } } = .ok () last ∧
          last.flags.frames = [true, false]) ∧
      ∃ last, handAll (handler fun _ _ => .ok true) shortTexts { flags := {} } =
        .error (.skeleton none (.unmatched .close)) last := by
  have hsound : ∀ t ∈ nestedTexts, IsSound (fun _ => .ok true) t :=
    fun t ht => isSound_shortTexts t (List.mem_append_left _ ht)
  obtain ⟨-, -, -, hnested⟩ := @frames_disciplined _ (fun _ _ => .ok true)
    { flags := { frames := [true, false] } } hsound
  obtain ⟨-, hsuffices, -, hclosed⟩ := @frames_disciplined _ (fun _ _ => .ok true)
    { flags := {} } hsound
  obtain ⟨last, hlast, -⟩ := hclosed nested_nestedTexts
  obtain ⟨hbreaks, -⟩ := @frames_disciplined _ (fun _ _ => .ok true)
    { flags := {} } isSound_shortTexts
  refine ⟨hnested nested_nestedTexts, last, (hbreaks _ _).mpr ?_⟩
  exact ⟨nestedTexts, "fi", ["create"], .close, rfl, hsuffices.mp ⟨last, hlast⟩,
    ⟨by decide, by decide⟩, rfl, fun _ => rfl, hlast⟩

end Scaffold.Directive
