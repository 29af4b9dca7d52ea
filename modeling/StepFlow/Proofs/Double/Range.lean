import Mathlib.Tactic.Ring
import StepFlow.Proofs.Double.Integer
/-!
# The range of doubles

Rounding to 53 bits reaches a power of two exactly from half a step below it, the half step
included: the significand below is odd, so a tie goes up (`roundUnits_lt_iff`). So an integer has no
double exactly from `intOverflow` on (`ofInt?_eq_none_iff`), and reading a value as a number
fails for such integers and for nothing else (`toNumber_eq_error_iff`).
-/

namespace StepFlow

namespace Double

variable {n : Int} {num den t j : Nat}

/-! ## Rounding near a bound -/

/-- A quotient is rounded above an odd number from half way on. -/
theorem roundQuotient_le_iff (hden : 0 < den) (hodd : t % 2 = 1) :
    roundQuotient num den ≤ t ↔ 2 * num < (2 * t + 1) * den := by
  have hnum := Nat.div_add_mod num den
  have hrem := Nat.mod_lt num hden
  rw [roundQuotient]
  generalize num / den = q at *
  generalize num % den = r at *
  have hbound : (2 * t + 1) * den = 2 * (den * t) + den := by ring
  rcases lt_trichotomy q t with hlt | rfl | hgt
  · have hle : den * q + den ≤ den * t := Nat.mul_le_mul_left den hlt
    split <;> omega
  · split <;> omega
  · have hle : den * t + den ≤ den * q := Nat.mul_le_mul_left den hgt
    split <;> omega

theorem roundQuotient_mul_le (num : Nat) (hden : 0 < den) :
    roundQuotient num den * den ≤ num + den := by
  have hdiv := Nat.div_mul_le_self num den
  rw [roundQuotient]
  split
  · rw [Nat.succ_mul]
    omega
  · omega

theorem div_le_roundQuotient (num den : Nat) : num / den ≤ roundQuotient num den := by
  rw [roundQuotient]
  split <;> omega

/-- **A power of two is reached by rounding from half a step below it on.** -/
theorem roundUnits_lt_iff : roundUnits num 1 < 2 ^ (j + 54) ↔ num < (2 ^ 54 - 1) * 2 ^ j := by
  have hpow : 2 ^ (j + 54) = 2 ^ 54 * 2 ^ j := by ring
  have hstep := Nat.two_pow_pos (bitLength num - significandBits)
  have hj := Nat.two_pow_pos j
  rw [roundUnits_one]
  rcases lt_trichotomy (bitLength num) (j + 54) with hlt | heq | hgt
  · -- fewer bits: far below the bound, and rounded by less than a step
    have hnum : num < 2 ^ (j + 53) := bitLength_le_iff.mp (by omega)
    have hsmall : 2 ^ (bitLength num - significandBits) ≤ 2 ^ j :=
      Nat.pow_le_pow_right (by decide) (by rw [significandBits]; omega)
    have hround := roundQuotient_mul_le num hstep
    have hhalf : 2 ^ (j + 53) = 2 ^ 53 * 2 ^ j := by ring
    omega
  · -- as many bits: the largest significand is the last one below
    have hunit : 2 ^ (bitLength num - significandBits) = 2 * 2 ^ j := by
      rw [heq, significandBits, Nat.add_sub_assoc (by decide), Nat.pow_succ, Nat.mul_comm]
    rw [hunit] at hstep ⊢
    have hround : roundQuotient num (2 * 2 ^ j) * (2 * 2 ^ j) < 2 ^ (j + 54) ↔
        roundQuotient num (2 * 2 ^ j) ≤ 2 ^ 53 - 1 := by
      rw [hpow, show 2 ^ 54 * 2 ^ j = 2 ^ 53 * (2 * 2 ^ j) by ring, Nat.mul_lt_mul_right hstep]
      omega
    rw [hround, roundQuotient_le_iff hstep (by decide)]
    omega
  · -- more bits: beyond the bound before and after
    have hnum : 2 ^ (bitLength num - 1) ≤ num := by
      rw [← not_lt, ← bitLength_le_iff]
      omega
    have hbits : bitLength num - 1 = 52 + (bitLength num - significandBits) := by
      rw [significandBits]
      omega
    have hsplit : 2 ^ (bitLength num - 1) =
        2 ^ 52 * 2 ^ (bitLength num - significandBits) := by
      rw [hbits, Nat.pow_add]
    have hle : 2 ^ (j + 54) ≤ 2 ^ (bitLength num - 1) :=
      Nat.pow_le_pow_right (by decide) (by omega)
    have hquotient : 2 ^ 52 ≤ num / 2 ^ (bitLength num - significandBits) :=
      (Nat.le_div_iff_mul_le hstep).mpr (hsplit ▸ hnum)
    have hround := Nat.mul_le_mul_right (2 ^ (bitLength num - significandBits))
      (hquotient.trans (div_le_roundQuotient num _))
    omega

/-! ## Integers -/

/-- The first integer that is too large for a double, half a step above the largest one. -/
def intOverflow : Nat := 2 ^ 1024 - 2 ^ 970

theorem intOverflow_eq : intOverflow = (2 ^ 54 - 1) * 2 ^ 970 := by
  rw [intOverflow, Nat.sub_mul, ← Nat.pow_add, Nat.one_mul]

/-- **The integers that are too large for a double.** -/
theorem ofInt?_eq_none_iff : ofInt? n = none ↔ intOverflow ≤ n.natAbs := by
  have hfinite : (ofInt? n).isSome ↔ roundUnits (n.natAbs * one) 1 < overflow := by
    rw [ofInt?, ofQuotient]
    split
    · rename_i h
      exact iff_of_true rfl h
    · rename_i h
      exact iff_of_false (by simp [finite?]) h
  have hoverflow : overflow = 2 ^ (2044 + 54) := by
    rw [overflow_eq, unitBits]
  have hlimit : (2 ^ 54 - 1) * 2 ^ 2044 = intOverflow * one := by
    rw [intOverflow_eq, one_eq, unitBits, Nat.mul_assoc, ← Nat.pow_add]
  rw [← Option.not_isSome_iff_eq_none, hfinite, hoverflow, roundUnits_lt_iff, hlimit,
    Nat.mul_lt_mul_right one_pos, not_lt]

theorem ofInt?_isSome_iff : (ofInt? n).isSome ↔ n.natAbs < intOverflow := by
  rw [Option.isSome_iff_ne_none, ne_eq, ofInt?_eq_none_iff, not_le]

end Double

/-- **Only integers that are too large cannot be read as numbers.** -/
theorem Value.toNumber_eq_error_iff {v : Value} {e : Obstacle} :
    v.toNumber = .error e ↔
      (∃ n, v = .int n ∧ Double.intOverflow ≤ n.natAbs) ∧ e = .tooLarge := by
  simp only [← Double.ofInt?_eq_none_iff]
  unfold toNumber
  split
  · rename_i n
    cases hn : Double.ofInt? n <;> simp [hn, eq_comm]
  all_goals simp_all

end StepFlow
