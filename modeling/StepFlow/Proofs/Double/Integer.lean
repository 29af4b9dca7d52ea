import Mathlib.Algebra.Order.Ring.Int
import StepFlow.Value.Number
/-!
# Integers as doubles

A count of units is not rounded if the last bit of the significand divides it (`roundUnits_of_dvd`).
So integers of up to 53 bits, and the first power of two above them, are doubles themselves
(`ofInt?_eq_some`), and a value that is such an integer is read as that number (`toNumber_int`).
-/

namespace StepFlow

namespace Double

variable {n : Int} {m num step : Nat}

theorem one_eq : one = 2 ^ unitBits := by
  unfold one
  generalize unitBits = k
  exact Nat.pow_eq

theorem overflow_eq : overflow = 2 ^ (1024 + unitBits) := by
  unfold overflow
  generalize 1024 + unitBits = k
  exact Nat.pow_eq

theorem one_pos : 0 < one := by
  rw [one_eq]
  exact Nat.two_pow_pos _

/-! ## Rounding -/

/-- A whole number of steps is not rounded. -/
theorem roundQuotient_mul (hstep : 0 < step) : roundQuotient (m * step) step = m := by
  have hdiv : m * step / step = m := Nat.mul_div_cancel m hstep
  have hmod : m * step % step = 0 := Nat.mul_mod_left m step
  rw [roundQuotient]
  simp only [hdiv, hmod]
  exact if_neg (by omega)

/-- Units are rounded to a whole number of last bits. -/
theorem roundUnits_one (num : Nat) :
    roundUnits num 1 = roundQuotient num (2 ^ (bitLength num - significandBits)) *
      2 ^ (bitLength num - significandBits) := by
  rw [roundUnits, Nat.div_one, Nat.one_mul]
  rfl

/-- **Units that the last bit of the significand divides are not rounded.** -/
theorem roundUnits_of_dvd (h : 2 ^ (bitLength num - significandBits) ∣ num) :
    roundUnits num 1 = num := by
  have hstep := Nat.two_pow_pos (bitLength num - significandBits)
  obtain ⟨m, hm⟩ := h
  rw [roundUnits_one]
  generalize 2 ^ (bitLength num - significandBits) = step at *
  rw [hm, Nat.mul_comm step m, roundQuotient_mul hstep]

theorem bitLength_le_iff {k : Nat} : bitLength num ≤ k ↔ num < 2 ^ k := by
  rw [bitLength]
  split
  · rename_i hzero
    rw [hzero]
    exact iff_of_true (Nat.zero_le k) (Nat.two_pow_pos k)
  · rename_i hne
    rw [Nat.succ_le_iff, Nat.log2_lt hne]

/-! ## Integers -/

/-- The last bit of the significand is below one, or it is the unit of an even number of units. -/
theorem roundUnits_mul_one (h : m ≤ 2 ^ significandBits) : roundUnits (m * one) 1 = m * one := by
  refine roundUnits_of_dvd ?_
  rcases h.lt_or_eq with hlt | rfl
  · have hbits : bitLength (m * one) ≤ significandBits + unitBits := by
      rw [bitLength_le_iff, Nat.pow_add, ← one_eq]
      exact Nat.mul_lt_mul_of_pos_right hlt one_pos
    have hstep : 2 ^ (bitLength (m * one) - significandBits) ∣ 2 ^ unitBits :=
      Nat.pow_dvd_pow 2 (by omega)
    rw [← one_eq] at hstep
    exact Nat.dvd_mul_left_of_dvd hstep m
  · rw [one_eq, ← Nat.pow_add]
    refine Nat.pow_dvd_pow 2 ?_
    have hbits : bitLength (2 ^ (significandBits + unitBits)) ≤ significandBits + unitBits + 1 :=
      bitLength_le_iff.mpr (Nat.pow_lt_pow_right (by decide) (Nat.lt_succ_self _))
    rw [significandBits] at *
    omega

/-- **Integers of up to 53 bits are doubles.** -/
theorem ofInt?_eq_some (h : n.natAbs ≤ 2 ^ significandBits) :
    ofInt? n = some (.finite (n < 0) (n.natAbs * one)) := by
  have hle : n.natAbs * one ≤ 2 ^ (significandBits + unitBits) := by
    rw [Nat.pow_add, ← one_eq]
    exact Nat.mul_le_mul_right _ h
  have hlt : 2 ^ (significandBits + unitBits) < overflow := by
    rw [overflow_eq]
    refine Nat.pow_lt_pow_right (by decide) ?_
    rw [significandBits]
    omega
  have hnearest : ofQuotient (n < 0) (n.natAbs * one) 1 = .finite (n < 0) (n.natAbs * one) := by
    rw [ofQuotient, roundUnits_mul_one h]
    exact if_pos (hle.trans_lt hlt)
  rw [ofInt?, hnearest, finite?]

theorem signed_natAbs (n : Int) : signed (n < 0) n.natAbs = n := by
  rw [signed]
  split
  · rename_i hneg
    have := of_decide_eq_true hneg
    omega
  · rename_i hpos
    have : ¬ n < 0 := by simpa using hpos
    omega

/-- The double is the integer again. -/
theorem toInt?_finite_mul_one (n : Int) : toInt? (.finite (n < 0) (n.natAbs * one)) = some n := by
  rw [toInt?, Nat.mul_mod_left, if_pos rfl, Nat.mul_div_cancel _ one_pos, signed_natAbs]

end Double

namespace Number

open Double

variable {n : Int}

theorem ofDouble_of_toInt? {x : Double} (h : x.toInt? = some n) : ofDouble x = .int n := by
  rw [ofDouble, h]

/-- **A value that is an integer of up to 53 bits is read as that number.** -/
theorem toNumber_int (h : n.natAbs ≤ 2 ^ significandBits) :
    Value.toNumber (.int n) = .ok (some (.int n)) := by
  rw [Value.toNumber, ofInt?_eq_some h, Option.elim_some,
    ofDouble_of_toInt? (toInt?_finite_mul_one n)]

theorem order?_of_level? {x y : Number} {a b : Int} (hx : x.level? = some (.units a))
    (hy : y.level? = some (.units b)) : order? x y = some (compare a b) := by
  rw [order?, hx, hy]
  rfl

/-- Integers are ordered as integers. -/
theorem order?_int (a b : Int) : order? (.int a) (.int b) = some (compare a b) := by
  have hone : (0 : Int) < one := by exact_mod_cast one_pos
  rw [order?_of_level? rfl rfl]
  rcases lt_trichotomy a b with hlt | rfl | hgt
  · rw [compare_lt_iff_lt.mpr hlt, compare_lt_iff_lt.mpr (Int.mul_lt_mul_of_pos_right hlt hone)]
  · rw [compare_eq_iff_eq.mpr rfl, compare_eq_iff_eq.mpr rfl]
  · rw [compare_gt_iff_gt.mpr hgt, compare_gt_iff_gt.mpr (Int.mul_lt_mul_of_pos_right hgt hone)]

end Number

end StepFlow
