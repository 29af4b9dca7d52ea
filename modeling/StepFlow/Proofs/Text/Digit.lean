import Mathlib.Algebra.Order.Group.Nat
import StepFlow.Text.Digit
/-!
# Decimal numbers

Writing a number in decimal digits and reading digits as a number are two recursions from opposite
ends. They meet in the last digit: reading one more digit multiplies by ten and adds
(`readDecimal_append`), so what is written is read back (`readDecimal_decimal`), and numbers with
the same digits are equal.
-/

namespace StepFlow.Text

variable {cs : List Char} {c : Char} {n m : Nat}

/-- The digit of a value below ten is an ASCII digit of this value. -/
theorem digitValue?_digitChar : ∀ d < 10, digitValue? (digitChar d) = some d := by
  decide

theorem isAsciiDigit_digitChar : ∀ d < 10, isAsciiDigit (digitChar d) = true := by
  decide

theorem integer_natCast (n : Nat) : integer n = decimal n := rfl

/-- A number is written as its last digit behind the others. -/
theorem decimal_of_lt (h : n < 10) : decimal n = [digitChar n] := by
  rw [decimal, if_pos h]

theorem decimal_of_ge (h : 10 ≤ n) : decimal n = decimal (n / 10) ++ [digitChar (n % 10)] := by
  rw [decimal, if_neg (by omega)]

/-- **Only ASCII digits are written.** -/
theorem isAsciiDigit_of_mem_decimal (h : c ∈ decimal n) : isAsciiDigit c = true := by
  induction n using Nat.strong_induction_on with
  | _ n ih =>
    rcases Nat.lt_or_ge n 10 with hn | hn
    · rw [decimal_of_lt hn, List.mem_singleton] at h
      exact h ▸ isAsciiDigit_digitChar n hn
    · rw [decimal_of_ge hn, List.mem_append, List.mem_singleton] at h
      rcases h with h | rfl
      · exact ih (n / 10) (by omega) h
      · exact isAsciiDigit_digitChar _ (Nat.mod_lt _ (by omega))

theorem isDigit_of_isAsciiDigit (h : isAsciiDigit c = true) : isDigit c = true := by
  simp only [isAsciiDigit, Bool.and_eq_true, decide_eq_true_eq] at h
  have hlow : 0x30 ≤ c.toNat := UInt32.le_iff_toNat_le.mp h.1
  have hhigh : c.toNat < 0x30 + 10 := Nat.lt_succ_of_le (UInt32.le_iff_toNat_le.mp h.2)
  -- the ten ASCII digits follow the first of the zeros
  have hzero : (digitZeros.find? fun z => z ≤ c.toNat && c.toNat < z + 10) = some 0x30 := by
    rw [digitZeros, List.find?_cons_of_pos (by simp only [hlow, hhigh, decide_true, Bool.and_self])]
  rw [isDigit, digitValue?, hzero]
  rfl

theorem decimal_ne_nil (n : Nat) : decimal n ≠ [] := by
  rcases Nat.lt_or_ge n 10 with hn | hn
  · simp [decimal_of_lt hn]
  · simp [decimal_of_ge hn]

/-- Reading one more digit. -/
theorem readDecimal_append : readDecimal (cs ++ [c]) =
    readDecimal cs * 10 + (digitValue? c).getD 0 := by
  simp [readDecimal, ofDigits]

/-- **What is written is read back.** -/
theorem readDecimal_decimal (n : Nat) : readDecimal (decimal n) = n := by
  induction n using Nat.strong_induction_on with
  | _ n ih =>
    rcases Nat.lt_or_ge n 10 with hn | hn
    · rw [decimal_of_lt hn, ← List.nil_append [digitChar n], readDecimal_append,
        digitValue?_digitChar n hn]
      simp [readDecimal, ofDigits]
    · rw [decimal_of_ge hn, readDecimal_append, ih (n / 10) (by omega),
        digitValue?_digitChar _ (Nat.mod_lt _ (by omega)), Option.getD_some]
      omega

/-- Zeros in front do not count. -/
theorem readDecimal_dropWhile_zero (cs : List Char) :
    readDecimal (cs.dropWhile (· == '0')) = readDecimal cs := by
  induction cs with
  | nil => rfl
  | cons c cs ih =>
    by_cases hc : c = '0'
    · have hzero : readDecimal ('0' :: cs) = readDecimal cs := rfl
      rw [List.dropWhile_cons_of_pos (by simp [hc]), ih, hc, hzero]
    · rw [List.dropWhile_cons_of_neg (by simp [hc])]

/-- **A number below a power of ten has no more digits than that power.** -/
theorem length_decimal_le {k : Nat} (hk : 0 < k) (h : n < 10 ^ k) : (decimal n).length ≤ k := by
  induction k generalizing n with
  | zero => omega
  | succ k ih =>
    rcases Nat.lt_or_ge n 10 with hn | hn
    · rw [decimal_of_lt hn, List.length_singleton]
      exact hk
    · have hk : 0 < k := by
        by_contra hzero
        obtain rfl : k = 0 := by omega
        omega
      have hdiv : n / 10 < 10 ^ k := Nat.div_lt_of_lt_mul (by rwa [Nat.mul_comm, ← Nat.pow_succ])
      rw [decimal_of_ge hn, List.length_append, List.length_singleton]
      exact Nat.succ_le_succ (ih hk hdiv)

theorem decimal_injective (h : decimal n = decimal m) : n = m := by
  rw [← readDecimal_decimal n, h, readDecimal_decimal]

end StepFlow.Text
