/-
# Numerals

A number is written in as many digits as its size needs.  A run of digits that does not
begin with zero is the numeral of the number that it denotes, so reading a run of digits and
writing the number again loses the zeros in front and nothing else.
-/

import Mathlib.Algebra.Group.Nat.Defs
import Mathlib.Data.List.Induction
import Mathlib.Data.List.TakeWhile
import CommandShell.Decimal.Digits

namespace CommandShell.Decimal

/-! ## Digits -/

theorem isDigit_digit {n : Nat} (h : n < 10) : isDigit (digit n) = true :=
  (by decide : ∀ m, m < 10 → isDigit (digit m) = true) n h

theorem toNat_of_isDigit {c : Char} (h : isDigit c = true) : 0x30 ≤ c.toNat ∧ c.toNat ≤ 0x39 := by
  simp only [isDigit, Bool.and_eq_true, decide_eq_true_eq] at h
  exact h

theorem digitValue_lt {c : Char} (h : isDigit c = true) : digitValue c < 10 := by
  have bounds := toNat_of_isDigit h
  unfold digitValue
  omega

theorem digit_digitValue {c : Char} (h : isDigit c = true) : digit (digitValue c) = c := by
  have bounds := toNat_of_isDigit h
  have own : 0x30 + (c.toNat - 0x30) = c.toNat := by omega
  simp only [digit, digitValue, own, Char.ofNat_toNat]

/-! ## Numerals -/

variable {digits : List Char}

theorem isNumeral_iff : isNumeral digits = true ↔ digits ≠ [] ∧ ∀ c ∈ digits, isDigit c = true := by
  simp [isNumeral]

theorem numeral_of_lt {n : Nat} (h : n < 10) : numeral n = [digit n] := by
  rw [numeral, if_pos h]

theorem numeral_of_le {n : Nat} (h : 10 ≤ n) :
    numeral n = numeral (n / 10) ++ [digit (n % 10)] := by
  rw [numeral, if_neg (Nat.not_lt.mpr h)]

theorem numeral_zero : numeral 0 = ['0'] :=
  numeral_of_lt (by decide)

theorem isNumeral_numeral (n : Nat) : isNumeral (numeral n) = true := by
  rw [isNumeral_iff]
  induction n using Nat.strongRecOn with
  | ind n ih =>
      by_cases small : n < 10
      · rw [numeral_of_lt small]
        exact ⟨by simp, by simpa using isDigit_digit small⟩
      · have large : 10 ≤ n := Nat.not_lt.mp small
        obtain ⟨_, front⟩ := ih (n / 10) (by omega)
        rw [numeral_of_le large]
        refine ⟨by simp, fun c member => ?_⟩
        rcases List.mem_append.mp member with inFront | last
        · exact front c inFront
        · rw [List.mem_singleton.mp last]
          exact isDigit_digit (Nat.mod_lt n (by decide))

/-- A number fits into so many digits if it is below that power of ten. -/
theorem length_numeral_le_iff {n k : Nat} (some_digits : 0 < k) :
    (numeral n).length ≤ k ↔ n < 10 ^ k := by
  induction k generalizing n with
  | zero => exact absurd some_digits (Nat.lt_irrefl 0)
  | succ k ih =>
      by_cases small : n < 10
      · have power : 10 ≤ 10 ^ (k + 1) := Nat.le_self_pow (Nat.succ_ne_zero k) 10
        rw [numeral_of_lt small]
        exact iff_of_true (by simp) (by omega)
      · have large : 10 ≤ n := Nat.not_lt.mp small
        rw [numeral_of_le large, List.length_append, List.length_singleton,
          Nat.add_le_add_iff_right, Nat.pow_succ, ← Nat.div_lt_iff_lt_mul (by decide)]
        rcases Nat.eq_zero_or_pos k with rfl | more
        · have written := (isNumeral_iff.mp (isNumeral_numeral (n / 10))).1
          refine iff_of_false (fun none_left => written ?_) (by omega)
          exact List.eq_nil_of_length_eq_zero (Nat.le_zero.mp none_left)
        · exact ih more

/-- A run of digits that does not begin with zero is the numeral of its value. -/
theorem numeral_value (solid : ∀ c ∈ digits, isDigit c = true) {first : Char}
    (leads : digits.head? = some first) (nonzero : first ≠ '0') :
    numeral (value digits) = digits := by
  induction digits using List.reverseRecOn with
  | nil => cases leads
  | append_singleton front last ih =>
      have digitLast : isDigit last = true := solid last (by simp)
      have below := digitValue_lt digitLast
      rw [value_append_singleton]
      cases front with
      | nil => rw [value_nil, Nat.zero_mul, Nat.zero_add, numeral_of_lt below,
          digit_digitValue digitLast, List.nil_append]
      | cons c rest =>
          have written := ih (fun d member => solid d (List.mem_append_left _ member)) leads
          -- The digits in front do not denote zero, whose numeral begins with zero.
          have positive : 0 < value (c :: rest) := by
            rcases Nat.eq_zero_or_pos (value (c :: rest)) with zero | positive
            · rw [zero, numeral_zero] at written
              cases written
              cases leads
              exact absurd rfl nonzero
            · exact positive
          have shifted : (value (c :: rest) * 10 + digitValue last) / 10 = value (c :: rest) := by
            omega
          have unit : (value (c :: rest) * 10 + digitValue last) % 10 = digitValue last := by
            omega
          rw [numeral_of_le (by omega), shifted, unit, written, digit_digitValue digitLast]

/-! ## Zeros in front -/

/-- A run of digits without the zeros in front. -/
def withoutZeros (digits : List Char) : List Char :=
  digits.dropWhile (· == '0')

theorem value_withoutZeros (digits : List Char) : value (withoutZeros digits) = value digits := by
  induction digits with
  | nil => rfl
  | cons c rest ih =>
      by_cases zero : c = '0'
      · subst zero
        exact ih
      · rw [withoutZeros, List.dropWhile_cons_of_neg (by simpa using zero)]

theorem withoutZeros_eq_nil_iff : withoutZeros digits = [] ↔ ∀ c ∈ digits, c = '0' := by
  simp [withoutZeros, List.dropWhile_eq_nil_iff]

/-- What is left does not begin with zero. -/
theorem ne_zero_of_withoutZeros {first : Char} {rest : List Char}
    (left : withoutZeros digits = first :: rest) : first ≠ '0' := by
  have kept := List.head?_dropWhile_not (· == '0') digits
  rw [show digits.dropWhile (· == '0') = first :: rest from left] at kept
  simpa using kept

/-- Writing the number that a run of digits denotes gives the digits without the zeros in
front. -/
theorem numeral_value_eq_withoutZeros (solid : ∀ c ∈ digits, isDigit c = true)
    (nonzero : ∃ c ∈ digits, c ≠ '0') : numeral (value digits) = withoutZeros digits := by
  have kept : ∀ c ∈ withoutZeros digits, c ∈ digits :=
    fun _ member => (List.dropWhile_suffix _).subset member
  rw [← value_withoutZeros]
  cases left : withoutZeros digits with
  | nil =>
      obtain ⟨c, member, different⟩ := nonzero
      exact absurd (withoutZeros_eq_nil_iff.mp left c member) different
  | cons first rest =>
      rw [left] at kept
      exact numeral_value (fun c member => solid c (kept c member)) rfl
        (ne_zero_of_withoutZeros left)

theorem value_eq_zero_iff (solid : ∀ c ∈ digits, isDigit c = true) :
    value digits = 0 ↔ ∀ c ∈ digits, c = '0' := by
  constructor
  · intro zero
    by_cases zeros : ∀ c ∈ digits, c = '0'
    · exact zeros
    · have written := numeral_value_eq_withoutZeros solid (by simpa using zeros)
      rw [zero, numeral_zero] at written
      exact absurd rfl (ne_zero_of_withoutZeros written.symm)
  · intro zeros
    rw [← value_withoutZeros, withoutZeros_eq_nil_iff.mpr zeros, value_nil]

end CommandShell.Decimal
