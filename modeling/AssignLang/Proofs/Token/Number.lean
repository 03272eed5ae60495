import AssignLang.Token.Number
import Mathlib.Data.List.Induction

namespace AssignLang

def decimal (digits : List Char) : Nat := Nat.ofDigitChars 10 digits 0

@[simp]
theorem decimal_nil : decimal [] = 0 := rfl

@[simp]
theorem decimal_concat (digits : List Char) (ch : Char) :
    decimal (digits ++ [ch]) = 10 * decimal digits + digitValue ch :=
  Nat.ofDigitChars_append 0

theorem digitValue_eq_zero {ch : Char} (digit : ch.isDigit = true) :
    digitValue ch = 0 ↔ ch = '0' := by
  have least : 48 ≤ ch.toNat := (Char.isDigit_iff_toNat.1 digit).1
  rw [← Char.toNat_inj]
  change ch.toNat - 48 = 0 ↔ ch.toNat = 48
  omega

theorem decimal_eq_zero {digits : List Char} (all : ∀ ch ∈ digits, ch.isDigit = true) :
    decimal digits = 0 ↔ ∀ ch ∈ digits, ch = '0' := by
  induction digits using List.reverseRecOn with
  | nil => simp
  | append_singleton digits ch ih =>
      rw [List.forall_mem_append, List.forall_mem_singleton] at all ⊢
      rw [decimal_concat, ← ih all.1, ← digitValue_eq_zero all.2]
      omega

theorem two_zeros_isPrefix_iff {digits : List Char} (zeros : ∀ ch ∈ digits, ch = '0') :
    ['0', '0'] <+: digits ↔ 2 ≤ digits.length := by
  rw [List.eq_replicate_of_mem zeros]
  match digits.length with
  | 0 => simp
  | 1 => simp
  | n + 2 => simp [List.replicate_succ]

/-- The zeros of a number are out of place: two of them start a number that is not zero, or the
number is zero and nothing ends it. -/
def BadZeros (digits : List Char) (after : Option Char) : Prop :=
  (['0', '0'] <+: digits ∧ decimal digits ≠ 0) ∨ (decimal digits = 0 ∧ endsZero after = false)

namespace NumberScan

theorem ofDigits_concat (digits : List Char) (ch : Char) :
    ofDigits (digits ++ [ch]) = (ofDigits digits).push (digitValue ch) := by
  simp [ofDigits, ofDigitsM, push]

theorem bind_appendDigit (number digit : Nat) :
    (Value.ofInt? number).bind (appendDigit · digit) = Value.ofInt? (10 * number + digit : Nat) := by
  have highest : Value.highest = 9223372036854775807 := rfl
  have lowest : Value.lowest = -9223372036854775808 := rfl
  cases small : Value.ofInt? number with
  | none =>
      rw [Value.ofInt?_eq_none_iff] at small
      exact (Value.ofInt?_eq_none_iff.2 (by omega)).symm
  | some value =>
      rw [Value.ofInt?_eq_some_iff] at small
      simp only [Option.bind_some, appendDigit]
      cases large : Value.ofInt? (value.toInt * 10) with
      | none =>
          rw [Value.ofInt?_eq_none_iff] at large
          exact (Value.ofInt?_eq_none_iff.2 (by omega)).symm
      | some tens =>
          rw [Value.ofInt?_eq_some_iff] at large
          simp only [Option.bind_some, large, small]
          congr 1
          omega

theorem value_ofDigits (digits : List Char) :
    (ofDigits digits).value = Value.ofInt? (decimal digits) := by
  induction digits using List.reverseRecOn with
  | nil => rfl
  | append_singleton digits ch ih =>
      rw [ofDigits_concat, decimal_concat, push_eq, ih]
      exact bind_appendDigit _ _

theorem digits_ofDigits (digits : List Char) : (ofDigits digits).digits = digits.length := by
  induction digits using List.reverseRecOn with
  | nil => rfl
  | append_singleton digits ch ih => simp [ofDigits_concat, push_eq, ih]

section

variable {ν : Type} {m : Type → Type} [Monad m] [Counter ν m]

def counted (scan : NumberScan) : NumberScan ν :=
  ⟨scan.value, Counter.ofNat scan.digits, scan.zerosFollowed⟩

theorem finish_counted (scan : NumberScan) (after : Option Char) :
    (scan.counted : NumberScan ν).finish after = scan.finish after := rfl

variable [LawfulMonad m]

theorem pushM_counted {scan : NumberScan} (holds : Counter.Holds ν (scan.digits + 1))
    (digit : Nat) : (scan.counted : NumberScan ν).pushM digit = pure (scan.push digit).counted := by
  have kept : Counter.toNat (Counter.ofNat scan.digits : ν) = scan.digits :=
    holds.of_le (Nat.le_succ _)
  simp only [pushM, counted, Counter.add_ofNat holds.reaches, pure_bind, kept, push_eq]

theorem ofDigitsM_concat (digits : List Char) (ch : Char) :
    (ofDigitsM (digits ++ [ch]) : m (NumberScan ν)) =
      ofDigitsM digits >>= (·.pushM (digitValue ch)) := by
  simp [ofDigitsM]

theorem ofDigitsM_eq {digits : List Char} (holds : Counter.Holds ν digits.length) :
    (ofDigitsM digits : m (NumberScan ν)) = pure (ofDigits digits).counted := by
  induction digits using List.reverseRecOn with
  | nil => rfl
  | append_singleton digits ch ih =>
      rw [List.length_append, List.length_singleton] at holds
      have counts : Counter.Holds ν ((ofDigits digits).digits + 1) := by
        rwa [digits_ofDigits]
      rw [ofDigitsM_concat, ih (holds.of_le (Nat.le_succ _)), pure_bind, ofDigits_concat,
        pushM_counted counts]

end

theorem value_eq_zero (digits : List Char) :
    (ofDigits digits).value = some .zero ↔ decimal digits = 0 := by
  rw [value_ofDigits, Value.ofInt?_eq_some_iff]
  change 0 = (decimal digits : Int) ↔ decimal digits = 0
  omega

theorem zerosFollowed_ofDigits {digits : List Char} (all : ∀ ch ∈ digits, ch.isDigit = true) :
    (ofDigits digits).zerosFollowed = true ↔ ['0', '0'] <+: digits ∧ decimal digits ≠ 0 := by
  induction digits using List.reverseRecOn with
  | nil => simp [ofDigits, ofDigitsM, start]
  | append_singleton digits ch ih =>
      rw [List.forall_mem_append, List.forall_mem_singleton] at all
      have pushed : (ofDigits (digits ++ [ch])).zerosFollowed = true ↔
          (['0', '0'] <+: digits ∧ decimal digits ≠ 0) ∨
            (decimal digits = 0 ∧ 2 ≤ digits.length ∧ digitValue ch ≠ 0) := by
        rw [← ih all.1, ← value_eq_zero, ← digits_ofDigits digits]
        simp [ofDigits_concat, push_eq, and_assoc]
      have short (same : ['0', '0'] = digits ++ [ch]) :
          10 * decimal digits + digitValue ch = 0 := by
        rw [← decimal_concat, ← same]
        rfl
      rw [pushed, List.prefix_concat_iff, decimal_concat]
      by_cases zero : decimal digits = 0
      · -- the flag is set by the first other digit after at least two zeros
        rw [two_zeros_isPrefix_iff ((decimal_eq_zero all.1).1 zero)]
        grind
      · grind

theorem finish_ofDigits {digits : List Char} (all : ∀ ch ∈ digits, ch.isDigit = true)
    (after : Option Char) :
    (Value.highest < decimal digits ∧
      (ofDigits digits).finish after = .error .numberTooLarge) ∨
    (decimal digits ≤ Value.highest ∧ BadZeros digits after ∧
      (ofDigits digits).finish after = .error .invalidNumberFormat) ∨
    ∃ value : Value, value.toInt = decimal digits ∧ ¬ BadZeros digits after ∧
      (ofDigits digits).finish after = .ok value := by
  have lowest : Value.lowest = -9223372036854775808 := rfl
  unfold finish
  cases found : (ofDigits digits).value with
  | none =>
      rw [value_ofDigits, Value.ofInt?_eq_none_iff] at found
      exact .inl ⟨by omega, rfl⟩
  | some value =>
      have same : value.toInt = decimal digits := by
        rwa [value_ofDigits, Value.ofInt?_eq_some_iff] at found
      have bad : ((ofDigits digits).zerosFollowed || (value == .zero && !endsZero after)) = true ↔
          BadZeros digits after := by
        rw [Bool.or_eq_true, zerosFollowed_ofDigits all, BadZeros, ← value_eq_zero, found]
        simp
      rw [← bad, ← same]
      dsimp only
      split
      · rename_i zeros
        exact .inr (.inl ⟨value.bounds.2, zeros, rfl⟩)
      · rename_i zeros
        exact .inr (.inr ⟨value, rfl, zeros, rfl⟩)

end NumberScan

end AssignLang
