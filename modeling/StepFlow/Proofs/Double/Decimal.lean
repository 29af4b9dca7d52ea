import StepFlow.Proofs.Double.Range
import StepFlow.Proofs.Text.Blank
import StepFlow.Proofs.Text.Digit
import StepFlow.Proofs.Text.Word
/-!
# Integers in decimal

The text of an integer is a sign and ASCII digits, so nothing of it is dropped or replaced before it
is read (`read?_integer`). Reading rounds the number that the digits write, and an integer is
rounded by the same function, so both are the same number as long as the integer is not too large
for a double (`toNumber_integer`).
-/

namespace StepFlow.Double

open Text

variable {n : Int} {m : Nat} {c : Char} {cs : List Char} {negative afterDigit : Bool} {x : Double}

/-! ## Signs -/

/-- The sign in front of the digits of an integer. -/
def signText (negative : Bool) : List Char :=
  if negative then ['-'] else []

theorem integer_eq (n : Int) : integer n = signText (n < 0) ++ decimal n.natAbs := by
  cases n with
  | ofNat n => rfl
  | negSucc n =>
    rw [signText, if_pos (decide_eq_true (Int.negSucc_lt_zero n))]
    rfl

theorem readSign_append (hdigits : ∀ c ∈ cs, isAsciiDigit c = true) :
    readSign (signText negative ++ cs) = (negative, cs) := by
  cases negative with
  | true => rfl
  | false =>
    have hnone : signText false ++ cs = cs := rfl
    rw [hnone]
    unfold readSign
    split
    · exact absurd (hdigits '-' List.mem_cons_self) (by decide)
    · exact absurd (hdigits '+' List.mem_cons_self) (by decide)
    · rfl

/-! ## What is left alone -/

/-- The characters of integers are ASCII, and neither blanks nor underscores. -/
theorem of_mem_integer (h : c ∈ signText negative ++ decimal m) :
    c.toNat < 127 ∧ isAsciiBlank c = false ∧ c ≠ '_' := by
  have hminus : ∀ c ∈ signText negative, c = '-' := by
    cases negative <;> simp [signText]
  rcases List.mem_append.mp h with hc | hc
  · obtain rfl := hminus c hc
    decide
  · have hdigit := isAsciiDigit_of_mem_decimal hc
    have hcode : 48 ≤ c.toNat ∧ c.toNat ≤ 57 := by
      simp only [isAsciiDigit, Bool.and_eq_true, decide_eq_true_eq] at hdigit
      exact ⟨UInt32.le_iff_toNat_le.mp hdigit.1, UInt32.le_iff_toNat_le.mp hdigit.2⟩
    refine ⟨by omega, ?_, ?_⟩
    · have hspace : c ≠ ' ' := by
        rintro rfl
        exact absurd hdigit (by decide)
      simp [isAsciiBlank, hspace]
      omega
    · rintro rfl
      exact absurd hdigit (by decide)

theorem dropUnderscores?_eq_some (h : ∀ c ∈ cs, c ≠ '_') :
    dropUnderscores? afterDigit cs = some cs := by
  induction cs generalizing afterDigit with
  | nil => simp [dropUnderscores?]
  | cons c cs ih =>
    obtain ⟨hc, hcs⟩ := List.forall_mem_cons.mp h
    rw [dropUnderscores?, if_neg hc, ih hcs]
    · rfl
    · rintro d rest - rfl -
      exact hc rfl

/-! ## Digits -/

/-- Digits write no word. -/
theorem map_toLower_ne (hdigits : ∀ c ∈ cs, isAsciiDigit c = true) {word : List Char}
    (hword : ∃ c ∈ word, isAsciiDigit c = false) : cs.map Char.toLower ≠ word := by
  have hself : cs.map Char.toLower = cs :=
    (List.map_congr_left fun c hc => (isPlain_of_isAsciiDigit (hdigits c hc)).toLower).trans
      (List.map_id cs)
  rintro rfl
  obtain ⟨c, hc, hnot⟩ := hword
  rw [hself] at hc
  rw [hdigits c hc] at hnot
  cases hnot

theorem readScientific?_digits (hne : cs ≠ []) (hdigits : ∀ c ∈ cs, isAsciiDigit c = true) :
    readScientific? cs = some ⟨cs, 0⟩ := by
  have hspan : cs.span isAsciiDigit = (cs, []) := by
    rw [List.span_eq_takeWhile_dropWhile, List.takeWhile_eq_self_iff.mpr hdigits,
      List.dropWhile_eq_nil_iff.mpr hdigits]
  have hempty : ¬ (cs.isEmpty = true) := by simpa using hne
  simp only [readScientific?, hspan]
  rw [if_neg fun h => hempty h.1, List.append_nil]
  rfl

/-- **A whole number is rounded as it is,** unless it is far out of range. -/
theorem ofScientific_decimal (hlength : (decimal m).length ≤ 400) :
    ofScientific negative ⟨decimal m, 0⟩ = ofQuotient negative (m * one) 1 := by
  have hshorter : ((decimal m).dropWhile (· == '0')).length ≤ 400 :=
    (List.dropWhile_suffix _).length_le.trans hlength
  rw [ofScientific]
  simp only [readDecimal_dropWhile_zero, readDecimal_decimal]
  by_cases hm : m = 0
  · have hzero : ofQuotient negative (0 * one) 1 = .finite negative 0 := by
      rw [ofQuotient, roundUnits_mul_one (Nat.zero_le _), Nat.zero_mul]
      exact if_pos (by rw [overflow_eq]; exact Nat.two_pow_pos _)
    rw [if_pos (.inl hm), hm, hzero]
  · rw [if_neg (by omega), if_neg (by omega), if_pos (Int.le_refl 0)]
    have hunits : m * Nat.pow 10 (0 : Int).toNat * one = m * one :=
      congrArg (· * one) (Nat.mul_one m)
    rw [hunits]

/-! ## Integers -/

/-- **The text of an integer is read as the double nearest to it.** -/
theorem read?_integer (hlength : (decimal n.natAbs).length ≤ 400) :
    read? (integer n) = some (ofQuotient (n < 0) (n.natAbs * one) 1) := by
  have hdigits : ∀ c ∈ decimal n.natAbs, isAsciiDigit c = true :=
    fun c hc => isAsciiDigit_of_mem_decimal hc
  have hascii : (integer n).map asciiForm = integer n := by
    refine (List.map_congr_left fun c hc => ?_).trans (List.map_id _)
    rw [integer_eq] at hc
    exact if_pos (of_mem_integer hc).1
  have hbare : dropEndWhile isAsciiBlank ((integer n).dropWhile isAsciiBlank) = integer n := by
    rw [integer_eq, List.dropWhile_eq_self_iff.mpr, dropEndWhile_eq_self]
    · exact fun c hc => (of_mem_integer (List.mem_of_getLast? hc)).2.1
    · intro hlength
      simp [(of_mem_integer (List.getElem_mem hlength)).2.1]
  have hplain : dropUnderscores? false (integer n) = some (integer n) := by
    rw [integer_eq]
    exact dropUnderscores?_eq_some fun c hc => (of_mem_integer hc).2.2
  simp only [read?, hascii, hbare, hplain, Option.bind_some]
  rw [integer_eq, readPlain?, readSign_append hdigits]
  simp only
  rw [if_neg, if_neg (map_toLower_ne hdigits ⟨'n', by decide, by decide⟩),
    readScientific?_digits (decimal_ne_nil _) hdigits, Option.map_some,
    ofScientific_decimal hlength]
  rintro (h | h)
  · exact map_toLower_ne hdigits ⟨'i', by decide, by decide⟩ h
  · exact map_toLower_ne hdigits ⟨'i', by decide, by decide⟩ h

theorem eq_of_finite?_eq_some {y : Double} (h : y.finite? = some x) : y = x := by
  cases y with
  | finite negative units => exact Option.some.inj h
  | _ => cases h

/-- An integer that is not too large has few digits. -/
theorem length_decimal_of_isSome (h : (ofInt? n).isSome) : (decimal n.natAbs).length ≤ 400 := by
  refine length_decimal_le (by decide) ?_
  have hbound : intOverflow ≤ 10 ^ 400 := by decide +kernel
  exact (ofInt?_isSome_iff.mp h).trans_le hbound

end StepFlow.Double

namespace StepFlow

open Text

/-- **An integer and its text are the same number.** -/
theorem Value.toNumber_integer {n : Int} (h : (Double.ofInt? n).isSome) :
    Value.toNumber (.text (String.ofList (integer n))) = Value.toNumber (.int n) := by
  obtain ⟨x, hx⟩ := Option.isSome_iff_exists.mp h
  have hread := Double.read?_integer (Double.length_decimal_of_isSome h)
  have hnearest : Double.ofQuotient (n < 0) (n.natAbs * Double.one) 1 = x :=
    Double.eq_of_finite?_eq_some hx
  rw [Value.toNumber, Value.toNumber, String.toList_ofList, hread, hnearest, hx, Option.map_some,
    Option.elim_some]

end StepFlow
