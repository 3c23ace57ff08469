import Mathlib.Data.Int.Bitwise
import Scaffold.Proofs.Targets

/-!
The permissions of outputs. Zero stands for the permissions of the source wherever it comes from,
and the source of a program gives its output the permissions to execute, whatever the manifest and
the directives say. Permissions are integers, so bits are those of two's complement.
-/

namespace Scaffold

theorem lor_zero (n : Int) : Int.lor n 0 = n := by
  cases n with
  | ofNat n => exact congrArg Int.ofNat (Nat.or_zero n)
  | negSucc n =>
      refine congrArg Int.negSucc (Nat.eq_of_testBit_eq fun k => ?_)
      simp [Nat.testBit_ldiff]

theorem bit_two_pow (k : Nat) :
    Int.ofNat (Nat.pow 2 (k + 1)) = Int.bit false (Int.ofNat (Nat.pow 2 k)) := by
  have hpow : Nat.pow 2 (k + 1) = 2 * Nat.pow 2 k := Nat.pow_succ'
  rw [hpow, Int.bit_val, Bool.cond_false, Int.add_zero]
  rfl

theorem setBit_bit_zero (b : Bool) (n : Int) : setBit (Int.bit b n) 0 = Int.bit true n := by
  have hone : Int.ofNat (Nat.pow 2 0) = 1 := rfl
  rw [setBit, hone, Int.bit_val, Int.bit_val]
  cases b <;> simp only [Bool.cond_true, Bool.cond_false] <;> omega

theorem setBit_bit_succ (b : Bool) (n : Int) (k : Nat) :
    setBit (Int.bit b n) (k + 1) = Int.bit b (setBit n k) := by
  have hpow : Int.ofNat (Nat.pow 2 (k + 1)) = 2 * Int.ofNat (Nat.pow 2 k) := by
    rw [bit_two_pow, Int.bit_val, Bool.cond_false, Int.add_zero]
  have hhalf : Int.bit b n / 2 = n := by
    rw [Int.bit_val]
    cases b <;> simp only [Bool.cond_true, Bool.cond_false] <;> omega
  have hdiv : Int.bit b n / Int.ofNat (Nat.pow 2 (k + 1)) = n / Int.ofNat (Nat.pow 2 k) := by
    rw [hpow, ← Int.ediv_ediv_of_nonneg (by decide), hhalf]
  unfold setBit
  dsimp only
  rw [hdiv, hpow, Int.bit_val, Int.bit_val]
  split <;> omega

theorem setBit_eq_lor (n : Int) (k : Nat) : setBit n k = Int.lor n (Int.ofNat (Nat.pow 2 k)) := by
  induction k generalizing n with
  | zero =>
      have hone : Int.ofNat (Nat.pow 2 0) = Int.bit true 0 := rfl
      rw [← Int.bit_decomp n, setBit_bit_zero, hone, Int.lor_bit, Bool.or_true, lor_zero]
  | succ k ih =>
      rw [← Int.bit_decomp n, setBit_bit_succ, bit_two_pow, Int.lor_bit, Bool.or_false, ih]

theorem testBit_setBit (n : Int) (k j : Nat) :
    (setBit n k).testBit j = (n.testBit j || decide (k = j)) := by
  have hpow : (Int.ofNat (Nat.pow 2 k)).testBit j = decide (k = j) := Nat.testBit_two_pow
  rw [setBit_eq_lor, Int.testBit_lor, hpow]

/-- A number is determined by its bits. -/
theorem eq_of_testBit_eq {m n : Int} (h : ∀ k, m.testBit k = n.testBit k) : m = n := by
  -- Beyond all its digits a number shows its sign.
  have hsign : ∀ a b : Nat, ∃ k, (Int.ofNat a).testBit k ≠ (Int.negSucc b).testBit k := by
    intro a b
    have hbit : ∀ c ≤ a + b, c.testBit (a + b) = false := fun c hc =>
      Nat.testBit_lt_two_pow (Nat.lt_of_le_of_lt hc Nat.lt_two_pow_self)
    refine ⟨a + b, ?_⟩
    simp [Int.testBit, hbit]
  cases m with
  | ofNat a =>
      cases n with
      | ofNat b => exact congrArg Int.ofNat (Nat.eq_of_testBit_eq h)
      | negSucc b =>
          obtain ⟨k, hk⟩ := hsign a b
          exact absurd (h k) hk
  | negSucc a =>
      cases n with
      | ofNat b =>
          obtain ⟨k, hk⟩ := hsign b a
          exact absurd (h k).symm hk
      | negSucc b =>
          exact congrArg Int.negSucc (Nat.eq_of_testBit_eq fun k => Bool.not_inj (h k))

theorem testBit_executable (bits : Int) (k : Nat) :
    (executable bits).testBit k = (bits.testBit k || decide (k ∈ [0, 3, 6])) := by
  rw [executable, testBit_setBit, testBit_setBit, testBit_setBit, Bool.or_assoc, Bool.or_assoc]
  simp [eq_comm (a := k)]

theorem executable_eq_lor (bits : Int) : executable bits = Int.lor bits 0o111 := by
  refine eq_of_testBit_eq fun k => ?_
  have hmask : (0o111 : Int) = executable 0 := by decide
  have hzero : Int.testBit 0 k = false := Nat.zero_testBit k
  rw [hmask, Int.testBit_lor, testBit_executable, testBit_executable, hzero, Bool.false_or]

theorem executable_executable (bits : Int) : executable (executable bits) = executable bits := by
  refine eq_of_testBit_eq fun k => ?_
  rw [testBit_executable, testBit_executable, Bool.or_assoc, Bool.or_self]

theorem executable_ne_zero (bits : Int) : executable bits ≠ 0 := by
  intro h
  have hbit := testBit_executable bits 0
  rw [h] at hbit
  simp [Int.testBit] at hbit

theorem orElseBits_idem (bits inherited : Int) :
    orElseBits (orElseBits bits inherited) inherited = orElseBits bits inherited := by
  by_cases h : bits = 0 <;> simp [orElseBits, h]

/-- To take the permissions of the source and to add those of a program twice is to do both once. -/
theorem permissionsFor_idem (path : Text) (bits inherited : Int) :
    permissionsFor path (orElseBits (permissionsFor path (orElseBits bits inherited)) inherited) =
      permissionsFor path (orElseBits bits inherited) := by
  unfold permissionsFor
  split
  · rw [orElseBits, if_neg (executable_ne_zero _), executable_executable]
  · exact orElseBits_idem bits inherited

namespace Directive

/-- The permissions that a directive sets. -/
def bits? : Directive → Option Int
  | permissions digits => Numeral.octal? digits
  | _ => none

/-- The permissions that directives set: the last one of them counts. -/
def lastBits? (directives : List Directive) : Option Int := (directives.filterMap bits?).getLast?

theorem permissions_edit {directive : Directive} {evaluate : Evaluator} {flags changed : FileFlags}
    (h : directive.edit evaluate flags = .ok changed) :
    changed.permissions = directive.bits?.getD flags.permissions := by
  cases directive with
  | permissions digits =>
      obtain ⟨bits, hbits, rfl⟩ := Step.map_eq_ok_iff.mp h
      unfold Scaffold.permissions at hbits
      split at hbits
      · rename_i hdigits
        cases hbits
        rw [bits?, hdigits]
        rfl
      · cases hbits
  | branch condition =>
      obtain ⟨_, -, rfl⟩ := Step.map_eq_ok_iff.mp h
      rfl
  | otherwise | alternative | close =>
      obtain ⟨_, _, frames, -, -, rfl⟩ := changeInnermost_eq_ok h
      rfl
  | _ =>
      obtain rfl := Except.ok.inj h
      rfl

theorem Edits.permissions_eq {directives : List Directive} {flags changed : FileFlags}
    (h : Edits flags directives changed) :
    changed.permissions = (lastBits? directives).getD flags.permissions :=
  h.view_eq permissions_edit

end Directive

namespace Skeleton

/-- The permissions that are declared for a file, zero if there are none. -/
def declaredBits (s : Skeleton) (path : Text) : Int :=
  ((s.flags.get? path).map FileFlags.permissions).getD 0

/-- The permissions of a file after directives, but for those that a program has in any case. Zero,
wherever it comes from, stands for the permissions of the source. -/
def finalBits (s : Skeleton) (file : SkeletonFile) (directives : List Directive) : Int :=
  orElseBits ((Directive.lastBits? directives).getD (s.declaredBits file.path)) file.permissions

theorem permissions_flagsFor (s : Skeleton) (path : Text) (bits : Int) :
    (s.flagsFor path bits).permissions =
      permissionsFor path (orElseBits (s.declaredBits path) bits) := by
  unfold flagsFor declaredBits
  cases s.flags.get? path <;> rfl

/-- Before the directives are applied the permissions are adjusted once already, which does not
show. -/
theorem permissionsFor_lastBits? (s : Skeleton) (file : SkeletonFile)
    (directives : List Directive) :
    permissionsFor file.path (orElseBits ((Directive.lastBits? directives).getD
        (s.flagsFor file.path file.permissions).permissions) file.permissions) =
      permissionsFor file.path (s.finalBits file directives) := by
  unfold finalBits
  cases Directive.lastBits? directives with
  | none => rw [Option.getD_none, Option.getD_none, permissions_flagsFor, permissionsFor_idem]
  | some bits => rfl

end Skeleton

namespace Run

variable {σ : Type} {job : Job} {scope : Scope} {s : Skeleton} {file : SkeletonFile}
  {state : Run σ}

/-- Whatever a file is handed over with, its permissions are those of the last directive about them,
in whichever branch it stands, or else the declared ones, and those of the source if these are zero.
If the name of the source is that of a program, the three bits to execute are added, and otherwise
nothing is. -/
theorem permissions_follow {sink : Sink σ} {request : Request}
    (hrender : job.substitute = Setting.render)
    (h : ComesTo job sink scope s file state (.ok request)) :
    ∃ directives last,
      (settingAt scope state).directivesIn scope.evaluate file.content (sheetFor s file state.log) =
        .ok directives last ∧
      (Text.ofString ".sh" <:+ file.path →
        request.permissions = Int.lor (s.finalBits file directives) 0o111 ∧
        ∀ k ∈ [0, 3, 6], request.permissions.testBit k = true) ∧
      (¬ Text.ofString ".sh" <:+ file.path →
        request.permissions = s.finalBits file directives) := by
  cases h with
  | called hyields =>
      obtain ⟨content, target, flags, hrenders, rfl⟩ := hyields
      obtain ⟨directives, between, hdirectives, hedits, -⟩ := edits_of_renders hrender hrenders
      have hrequest : (requestWith scope file content target flags).permissions =
          permissionsFor file.path (s.finalBits file directives) := by
        rw [← s.permissionsFor_lastBits? file directives, ← hedits.permissions_eq]
        rfl
      refine ⟨directives, _, hdirectives, fun hprogram => ?_, fun hplain => ?_⟩
      · have hsuffix := List.isSuffixOf_iff_suffix.mpr hprogram
        rw [permissionsFor, if_pos hsuffix] at hrequest
        refine ⟨hrequest.trans (executable_eq_lor _), fun k hk => ?_⟩
        rw [hrequest, testBit_executable, decide_eq_true hk, Bool.or_true]
      · rw [permissionsFor, if_neg (by simpa using hplain)] at hrequest
        exact hrequest

/-- A program under another name, with permissions in a branch that is not taken. -/
def programFile : SkeletonFile where
  path := "run.sh"
  content := List.flatMap Token.source [
    .bracket "file:run", .bracket "perm:755", .bracket "if:false", .bracket "perm:0", .bracket "fi"]
  permissions := 416

/-- A file with permissions that no file has. -/
def negativeFile : SkeletonFile :=
  { plainFile "b" with content := (Token.bracket "perm:-7000000000000000000000000").source }

theorem permissions_follow_program :
    (∃ request, ComesTo askingJob recordRequest (.ofProject askingJob.project) bareSkeleton
        programFile askingRun (.ok request) ∧
      request.path = "run" ∧ request.permissions = Int.lor programFile.permissions 0o111 ∧
      request.permissions.testBit 6 = true) ∧
    ∃ request, ComesTo askingJob recordRequest (.ofProject askingJob.project) bareSkeleton
        negativeFile askingRun (.ok request) ∧
      request.permissions = -0o7000000000000000000000000 := by
  constructor
  · have hcomes : ComesTo askingJob recordRequest (.ofProject askingJob.project) bareSkeleton
        programFile askingRun (.ok { path := "run", content := [], permissions := 489 }) :=
      comesTo_of_outcome recordRequest rfl (by decide +kernel) (by decide +kernel)
    obtain ⟨directives, last, hdirectives, hprogram, -⟩ := permissions_follow rfl hcomes
    have hin : Step.outcome ((settingAt (.ofProject askingJob.project) askingRun).directivesIn
        (Scope.ofProject askingJob.project).evaluate programFile.content
        (sheetFor bareSkeleton programFile askingRun.log)) =
          .ok [.target "run", .permissions "755", .branch ["false"], .permissions "0", .close] := by
      decide +kernel
    rw [hdirectives] at hin
    obtain rfl := Except.ok.inj hin
    have hbits : bareSkeleton.finalBits programFile
        [.target "run", .permissions "755", .branch ["false"], .permissions "0", .close] =
          programFile.permissions := by decide +kernel
    obtain ⟨hrequest, hexecute⟩ := hprogram (by decide)
    rw [hbits] at hrequest
    exact ⟨_, hcomes, rfl, hrequest, hexecute 6 (by decide)⟩
  · have hcomes : ComesTo askingJob recordRequest (.ofProject askingJob.project) bareSkeleton
        negativeFile askingRun (.ok {
          path := "b", content := [], permissions := -0o7000000000000000000000000 }) :=
      comesTo_of_outcome recordRequest rfl (by decide +kernel) (by decide +kernel)
    obtain ⟨directives, last, hdirectives, -, hplain⟩ := permissions_follow rfl hcomes
    have hin : Step.outcome ((settingAt (.ofProject askingJob.project) askingRun).directivesIn
        (Scope.ofProject askingJob.project).evaluate negativeFile.content
        (sheetFor bareSkeleton negativeFile askingRun.log)) =
          .ok [.permissions "-7000000000000000000000000"] := by
      decide +kernel
    rw [hdirectives] at hin
    obtain rfl := Except.ok.inj hin
    refine ⟨_, hcomes, (hplain (by decide)).trans ?_⟩
    decide +kernel

end Run

end Scaffold
