import Scaffold.Proofs.Roles

/-!
Directives without effect. A directive that fails leaves flags and warnings as they are, and one that
is not known is only reported. So directives that are applied one after the other, whichever of them
fail, lead to the same flags as those among them that have an effect.
-/

namespace Scaffold.Directive

/-- Whether a word takes that many arguments. The words of conditions take any number of them. -/
def takes (word : Text) (count : Nat) : Bool :=
  word ∈ [("if" : Text), "elif"] ||
    count = 0 && word ∈ [("create" : Text), "skip", "no-record", "else", "fi", "endif"] ||
    count = 1 && word ∈ [("file" : Text), "skip", "perm"]

/-- Whether a text is a directive: its word takes as many arguments as it has. -/
def IsKnown (t : Text) : Prop := takes (word t) (arguments t).length = true

instance (t : Text) : Decidable (IsKnown t) :=
  inferInstanceAs (Decidable (takes (word t) (arguments t).length = true))

/-- The word of a directive that needs an open branch. -/
def branchWord? : Directive → Option BranchWord
  | otherwise => some .otherwise
  | alternative _ => some .alternative
  | close => some .close
  | _ => none

/-- Why a directive fails while these branches are open. -/
inductive Blocked (evaluate : Evaluator) (frames : List Bool) : Directive → Failure → Prop
  | branch {condition : List Text} {failure : Failure}
      (hcondition : evaluate condition = .error failure) :
      Blocked evaluate frames (.branch condition) failure
  | alternative {condition : List Text} {failure : Failure} (hopen : frames ≠ [])
      (hcondition : evaluate condition = .error failure) :
      Blocked evaluate frames (.alternative condition) failure
  | unmatched {directive : Directive} {word : BranchWord} (hclosed : frames = [])
      (hword : directive.branchWord? = some word) :
      Blocked evaluate frames directive (.skeleton none (.unmatched word))
  | permissions {digits : Text} (hdigits : Numeral.octal? digits = none) :
      Blocked evaluate frames (.permissions digits) (.skeleton none (.invalidPermission digits))

/-- The sheet after texts have been handed over one after the other, whichever of them fail. -/
def handEach (evaluate : LiveEvaluator) (sheet : Sheet) (texts : List Text) : Sheet :=
  texts.foldl (fun sheet t => Step.state (handler evaluate t sheet)) sheet

/-- Those of the texts that are directives and do not fail when it is their turn. -/
def effective (evaluate : LiveEvaluator) : Sheet → List Text → List Text
  | _, [] => []
  | sheet, t :: rest =>
      match handler evaluate t sheet with
      | .ok _ next =>
          if IsKnown t then t :: effective evaluate next rest else effective evaluate next rest
      | .error _ next => effective evaluate next rest

variable {evaluate : Evaluator} {t word : Text} {arguments : List Text} {flags : FileFlags}
  {failure : Failure}

theorem warnings_ofTokens (t word : Text) (arguments : List Text) :
    (ofTokens t word arguments).warnings =
      if takes word arguments.length then [] else [.unknownDirective t] := by
  rcases arguments with _ | ⟨argument, _ | ⟨other, more⟩⟩ <;> grind [ofTokens, takes, warnings]

theorem warnings_ofText (t : Text) :
    (ofText t).warnings = if IsKnown t then [] else [.unknownDirective t] := by
  rw [ofText_eq, warnings_ofTokens]
  rfl

theorem edit_of_not_isKnown (evaluate : Evaluator) (flags : FileFlags) (h : ¬ IsKnown t) :
    (ofText t).edit evaluate flags = .ok flags := by
  have hwarnings := warnings_ofText t
  rw [if_neg h] at hwarnings
  cases hdirective : ofText t with
  | unknown _ => rfl
  | _ =>
      rw [hdirective] at hwarnings
      cases hwarnings

theorem changeInnermost_eq_error_iff {word : BranchWord}
    {change : Bool → List Bool → Except Failure (List Bool)} :
    changeInnermost word change flags = .error failure ↔
      flags.frames = [] ∧ failure = .skeleton none (.unmatched word) ∨
        ∃ frame outer, flags.frames = frame :: outer ∧ change frame outer = .error failure := by
  unfold changeInnermost
  cases flags.frames with
  | nil => simp [eq_comm]
  | cons frame outer =>
      rw [Step.map_eq_error_iff]
      constructor
      · intro h
        exact .inr ⟨frame, outer, rfl, h⟩
      · rintro (⟨⟨⟩, -⟩ | ⟨_, _, ⟨⟩, h⟩)
        exact h

theorem blocked_of_edit {directive : Directive}
    (h : directive.edit evaluate flags = .error failure) :
    Blocked evaluate flags.frames directive failure := by
  cases directive with
  | branch condition => exact .branch (Step.map_eq_error_iff.mp h)
  | otherwise | close =>
      rcases changeInnermost_eq_error_iff.mp h with ⟨hclosed, rfl⟩ | ⟨_, _, -, ⟨⟩⟩
      exact .unmatched hclosed rfl
  | alternative condition =>
      rcases changeInnermost_eq_error_iff.mp h with ⟨hclosed, rfl⟩ | ⟨_, _, hopen, hcondition⟩
      · exact .unmatched hclosed rfl
      · exact .alternative (by simp [hopen]) (Step.map_eq_error_iff.mp hcondition)
  | permissions digits =>
      have hdigits := Step.map_eq_error_iff.mp h
      unfold Scaffold.permissions at hdigits
      split at hdigits
      · cases hdigits
      · cases hdigits
        exact .permissions (by assumption)
  | _ => cases h

theorem edit_of_blocked {directive : Directive}
    (h : Blocked evaluate flags.frames directive failure) :
    directive.edit evaluate flags = .error failure := by
  cases h with
  | branch hcondition => exact Step.map_eq_error_iff.mpr hcondition
  | alternative hopen hcondition =>
      obtain ⟨frame, outer, hframes⟩ := List.exists_cons_of_ne_nil hopen
      exact changeInnermost_eq_error_iff.mpr
        (.inr ⟨frame, outer, hframes, Step.map_eq_error_iff.mpr hcondition⟩)
  | @unmatched directive word hclosed hword =>
      cases directive with
      | otherwise | alternative | close =>
          cases hword
          exact changeInnermost_eq_error_iff.mpr (.inl ⟨hclosed, rfl⟩)
      | _ => cases hword
  | permissions hdigits => rw [edit, Scaffold.permissions, hdigits, Except.map]

variable {live : LiveEvaluator}

theorem handler_eq_error_iff {sheet after : Sheet} :
    handler live t sheet = .error failure after ↔
      after = sheet ∧ Blocked (live sheet.changes) sheet.flags.frames (ofText t) failure := by
  rw [handler_eq]
  cases hedit : (ofText t).edit (live sheet.changes) sheet.flags with
  | ok flags =>
      constructor
      · intro h
        cases h
      · rintro ⟨-, hblocked⟩
        cases hedit.symm.trans (edit_of_blocked hblocked)
  | error other =>
      constructor
      · intro h
        cases h
        exact ⟨rfl, blocked_of_edit hedit⟩
      · rintro ⟨rfl, hblocked⟩
        cases hedit.symm.trans (edit_of_blocked hblocked)
        rfl

theorem handler_of_not_isKnown (h : ¬ IsKnown t) (sheet : Sheet) :
    handler live t sheet =
      .ok [] { sheet with warnings := sheet.warnings ++ [.unknownDirective t] } := by
  rw [handler_eq, edit_of_not_isKnown _ sheet.flags h, warnings_ofText, if_neg h]

/-- What a directive does to the flags it does whatever has been reported, and it adds nothing. -/
theorem handler_of_isKnown (h : IsKnown t) (sheet : Sheet) :
    handler live t sheet =
      match (ofText t).edit (live sheet.changes) sheet.flags with
      | .ok flags => .ok [] { sheet with flags := flags }
      | .error failure => .error failure sheet := by
  have heq := handler_eq live t sheet
  rw [warnings_ofText, if_pos h, List.append_nil] at heq
  exact heq

theorem warnings_of_isKnown (h : IsKnown t) (sheet : Sheet) :
    (Step.state (handler live t sheet)).warnings = sheet.warnings := by
  rw [handler_of_isKnown h]
  cases (ofText t).edit (live sheet.changes) sheet.flags <;> rfl

theorem effective_sublist (evaluate : LiveEvaluator) (sheet : Sheet) (texts : List Text) :
    (effective evaluate sheet texts).Sublist texts := by
  induction texts generalizing sheet with
  | nil => exact .slnil
  | cons t rest ih =>
      unfold effective
      split
      · split
        · exact (ih _).cons_cons t
        · exact (ih _).cons t
      · exact (ih _).cons t

theorem warnings_handEach (evaluate : LiveEvaluator) (sheet : Sheet) (texts : List Text) :
    (handEach evaluate sheet texts).warnings =
      sheet.warnings ++ (texts.filter (¬ IsKnown ·)).map .unknownDirective := by
  induction texts generalizing sheet with
  | nil => simp [handEach]
  | cons t rest ih =>
      have hrest := ih (Step.state (handler evaluate t sheet))
      rw [handEach, List.foldl_cons, ← handEach, hrest]
      by_cases h : IsKnown t
      · rw [warnings_of_isKnown h, List.filter_cons_of_neg (by simpa using h)]
      · rw [handler_of_not_isKnown h, List.filter_cons_of_pos (by simpa using h)]
        simp [Step.state]

/-- Without the texts that have no effect nothing fails, and the flags end up the same. -/
theorem handAll_effective (evaluate : LiveEvaluator) (sheet : Sheet) (texts : List Text)
    (warnings : List Warning) :
    handAll (handler evaluate) (effective evaluate sheet texts)
        { sheet with warnings := warnings } =
      .ok () { handEach evaluate sheet texts with warnings := warnings } := by
  induction texts generalizing sheet with
  | nil => rfl
  | cons t rest ih =>
      rw [handEach, List.foldl_cons, ← handEach, effective]
      by_cases h : IsKnown t
      · rw [handler_of_isKnown h]
        cases hedit : (ofText t).edit (evaluate sheet.changes) sheet.flags with
        | error failure => exact ih sheet
        | ok flags =>
            have hstep : handler evaluate t { sheet with warnings := warnings } =
                .ok [] { sheet with flags := flags, warnings := warnings } := by
              rw [handler_of_isKnown h, hedit]
            dsimp only
            rw [if_pos h, handAll, Step.bind_of_ok hstep]
            exact ih { sheet with flags := flags }
      · rw [handler_of_not_isKnown h]
        dsimp only
        rw [if_neg h]
        exact ih { sheet with warnings := sheet.warnings ++ [.unknownDirective t] }

/-- A directive fails exactly if it is blocked, and then it changes nothing. What is no directive
does not fail and changes nothing; each time it is reported, and nothing else is. If directives that
fail are stepped over, the flags at the end are those to which the directives that neither fail nor
are unknown lead without any failure. -/
theorem directives_atomic (evaluate : LiveEvaluator) (sheet : Sheet) :
    (∀ t failure after, handler evaluate t sheet = .error failure after ↔
      after = sheet ∧ Blocked (evaluate sheet.changes) sheet.flags.frames (ofText t) failure) ∧
    (∀ t, ¬ IsKnown t → handler evaluate t sheet =
      .ok [] { sheet with warnings := sheet.warnings ++ [.unknownDirective t] }) ∧
    (∀ t, IsKnown t → (Step.state (handler evaluate t sheet)).warnings = sheet.warnings) ∧
    ∀ texts,
      (effective evaluate sheet texts).Sublist texts ∧
      (handEach evaluate sheet texts).warnings =
        sheet.warnings ++ (texts.filter (¬ IsKnown ·)).map .unknownDirective ∧
      handAll (handler evaluate) (effective evaluate sheet texts) sheet =
        .ok () { handEach evaluate sheet texts with warnings := sheet.warnings } :=
  ⟨fun _ _ _ => handler_eq_error_iff, fun _ h => handler_of_not_isKnown h sheet,
    fun _ h => warnings_of_isKnown h sheet, fun texts => ⟨effective_sublist evaluate sheet texts,
      warnings_handEach evaluate sheet texts, handAll_effective evaluate sheet texts sheet.warnings⟩⟩

example :
    effective (fun _ _ => .error (.foreign .unsupported)) { flags := {} }
      ["else", "skip:docs", "if:ci", "perm:9", "file:a:b", "fi", "create"] =
      [("skip:docs" : Text), "create"] := by decide +kernel

end Scaffold.Directive
