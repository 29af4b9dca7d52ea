import StepFlow.Condition.Samples
import StepFlow.Proofs.Condition.Holding
import StepFlow.Proofs.Entries
/-!
# Conditions on texts

Where a field holds names, or the value of a condition is no number, one of the samples is the value
itself and the other a text that stands for a wrong one. Whether they tell the condition apart is a
matter of luck then. Equality and its negation work as long as the value is not the wrong text, and
of the other comparisons only those that include equality can, if the two texts are in the right
order (`tellsApart_iff`).

A value that looks like a number does no harm in a field of names: it is compared with itself, and
it is equal to itself by number as well as by text (`order?_self`), while the wrong text is never a
number (`toNumber_sentinel`), so that comparison is one of texts.
-/

namespace StepFlow

/-! ## The order of texts -/

section OrderTexts

variable {as bs : List Char}

theorem orderTexts_swap (as bs : List Char) : (orderTexts as bs).swap = orderTexts bs as := by
  induction as generalizing bs with
  | nil => cases bs <;> rfl
  | cons a as ih =>
    cases bs with
    | nil => rfl
    | cons b bs =>
      rw [orderTexts, orderTexts, ← Nat.compare_swap a.toNat b.toNat]
      cases compare a.toNat b.toNat with
      | lt => rfl
      | eq => exact ih bs
      | gt => rfl

/-- **Texts are ordered by the code points of their characters.** -/
theorem orderTexts_eq_lt_iff : orderTexts as bs = .lt ↔ as < bs := by
  induction as generalizing bs with
  | nil => cases bs <;> simp [orderTexts]
  | cons a as ih =>
    cases bs with
    | nil => simp [orderTexts]
    | cons b bs =>
      have hless : a < b ↔ a.toNat < b.toNat := Iff.rfl
      rw [orderTexts, List.cons_lt_cons_iff, ← ih, hless, ← Char.toNat_inj]
      rcases Nat.lt_trichotomy a.toNat b.toNat with hlt | heq | hgt
      · rw [Nat.compare_eq_lt.mpr hlt]
        simp [hlt]
      · rw [Nat.compare_eq_eq.mpr heq]
        simp [heq]
      · rw [Nat.compare_eq_gt.mpr hgt]
        simp [Nat.lt_asymm hgt, Nat.ne_of_gt hgt]

theorem orderTexts_eq_gt_iff : orderTexts as bs = .gt ↔ bs < as := by
  rw [← orderTexts_eq_lt_iff, ← orderTexts_swap as bs, Ordering.swap_eq_lt]

theorem orderTexts_eq_eq_iff : orderTexts as bs = .eq ↔ as = bs := by
  induction as generalizing bs with
  | nil => cases bs <;> simp [orderTexts]
  | cons a as ih =>
    cases bs with
    | nil => simp [orderTexts]
    | cons b bs =>
      rw [orderTexts, List.cons.injEq, ← ih, ← Char.toNat_inj, ← Nat.compare_eq_eq]
      cases compare a.toNat b.toNat <;> simp

end OrderTexts

/-- Every number but not-a-number is equal to itself. -/
theorem Number.order?_self {n : Number} (h : n ≠ .real .nan) : n.order? n = some .eq := by
  have hlevel (x : Level) : x.order x = .eq := by
    cases x with
    | bottom => rfl
    | units n => exact Int.compare_eq_eq.mpr rfl
    | top => rfl
  cases n with
  | int n => exact congrArg some (hlevel _)
  | real x =>
    cases x with
    | nan => exact absurd rfl h
    | infinite negative => exact congrArg some (hlevel _)
    | finite negative units => exact congrArg some (hlevel _)

namespace Condition

variable {c : Condition} {f w : Scalar} {op v : String} {comparison : Comparison}
variable {actual : Value}

/-! ## Conditions -/

/-- **The condition compares a field with a text.** The field is one of names, or the text is no
number; and it is not not-a-number. -/
structure IsWording (c : Condition) (f : Scalar) (op v : String) : Prop where
  field : c.field = .scalar f
  operator : c.operator = .text op
  spelled : op ∈ operators
  value : ∃ w, c.value = .scalar w ∧ w.text? = some v
  ne_empty : v ≠ ""
  named : (∃ name ∈ ["activity_type", "stage", "priority"], f = .text name) ∨
    c.value.toNumber = .ok none
  ne_nan : c.value.toNumber ≠ .ok (some (.real .nan))

/-- The text that stands for a wrong value of a field. -/
def sentinel : Scalar → String
  | .text "activity_type" => "call"
  | .text "stage" => "Different Stage"
  | .text "priority" => "lowest"
  | _ => "different_value"

theorem category?_getD (f : Scalar) : (category? f).getD wrongText = sentinel f := by
  fun_cases sentinel f with
  | case1 => rfl
  | case2 => rfl
  | case3 => rfl
  | case4 _ hactivity hstage hpriority =>
    cases f with
    | text s =>
      have hnames : s ≠ "activity_type" ∧ s ≠ "stage" ∧ s ≠ "priority" :=
        ⟨fun h => hactivity (h ▸ rfl), fun h => hstage (h ▸ rfl), fun h => hpriority (h ▸ rfl)⟩
      simp only [← beq_eq_false_iff_ne] at hnames
      obtain ⟨hactivity, hstage, hpriority⟩ := hnames
      simp only [category?, categories, List.lookup_cons, List.lookup_nil, hactivity, hstage,
        hpriority]
      rfl
    | _ => rfl

/-- **No wrong text is a number.** -/
theorem toNumber_sentinel (f : Scalar) : Value.toNumber (.text (sentinel f)) = .ok none := by
  have hnone : ∀ s ∈ ["call", "Different Stage", "lowest", "different_value"],
      Double.read? s.toList = none := by decide +kernel
  have hmem : sentinel f ∈ ["call", "Different Stage", "lowest", "different_value"] := by
    fun_cases sentinel f <;> simp
  rw [Value.toNumber, hnone _ hmem]
  rfl

/-! ## Comparing texts -/

theorem display_of_text? (h : w.text? = some v) : Value.display (.scalar w) = .ok v := by
  cases w with
  | text s =>
    obtain rfl := Option.some.inj h
    rfl
  | torn codes =>
    obtain rfl := Option.some.inj h
    rfl
  | _ => cases h

theorem exists_toNumber_of_text? (h : w.text? = some v) :
    ∃ number?, Value.toNumber (.scalar w) = .ok number? := by
  cases w with
  | text s => exact ⟨_, rfl⟩
  | torn codes => exact ⟨_, rfl⟩
  | _ => cases h

/-- **A text is equal to itself,** by number or by text, unless it is not-a-number. -/
theorem order?_self (htext : w.text? = some v)
    (h : Value.toNumber (.scalar w) ≠ .ok (some (.real .nan))) :
    order? (.scalar w) (.scalar w) = .ok (some .eq) := by
  obtain ⟨number?, hnumber⟩ := exists_toNumber_of_text? htext
  have hdisplay := display_of_text? htext
  cases number? with
  | none =>
    rw [order?_of_display hnumber hnumber hdisplay hdisplay, orderTexts_eq_eq_iff.mpr rfl]
  | some n =>
    have hn : n ≠ .real .nan := by
      rintro rfl
      exact h hnumber
    rw [order?_of_toNumber hnumber hnumber, Number.order?_self hn]

/-- The wrong text is compared by text. -/
theorem order?_sentinel (f : Scalar) (htext : w.text? = some v) :
    order? (.text (sentinel f)) (.scalar w) =
      .ok (some (orderTexts (sentinel f).toList v.toList)) := by
  obtain ⟨number?, hnumber⟩ := exists_toNumber_of_text? htext
  exact order?_of_display (toNumber_sentinel f) hnumber rfl (display_of_text? htext)

/-! ## Samples -/

namespace IsWording

/-- **The samples** are the value and the wrong text, in this order unless the comparison is
negated. -/
theorem samples_eq (h : IsWording c f op v) (hvalue : c.value = .scalar w)
    (htext : w.text? = some v)
    (hoperator : Comparison.ofOperator? (.text op) = some comparison) :
    c.samples = .ok (if comparison = .ne then (.text (sentinel f), .scalar w)
      else (.scalar w, .text (sentinel f))) := by
  have hnames : ∀ name ∈ ["activity_type", "stage", "priority"], category? (.text name) ≠ none := by
    decide
  have hblank : ¬ (Value.isBlank (.scalar w) = true) := by
    cases w with
    | text s =>
      obtain rfl := Option.some.inj htext
      simpa [Value.isBlank, String.isEmpty_iff] using h.ne_empty
    | torn codes => exact Bool.false_ne_true
    | _ => cases htext
  obtain ⟨number?, hnumber⟩ := exists_toNumber_of_text? htext
  have hsentinel := category?_getD f
  simp only [samples, h.field, hvalue, h.operator, hnumber, hoperator, Value.asKey, bind,
    Except.bind, if_neg hblank, Option.some.injEq]
  cases hcategory : category? f with
  | some s =>
    rw [hcategory] at hsentinel
    simp only [hsentinel]
    split <;> rfl
  | none =>
    -- the field is not one of names, so the value is no number
    have hnone : number? = none := by
      rcases h.named with ⟨name, hname, hf⟩ | hnamed
      · exact absurd (hf ▸ hcategory) (hnames name hname)
      · rw [hvalue, hnumber] at hnamed
        exact Except.ok.inj hnamed
    rw [hcategory] at hsentinel
    simp only [hnone, hsentinel]
    split <;> rfl

/-- The condition holds of a value as the comparison does of its order. -/
theorem holds_eq (h : IsWording c f op v)
    (hoperator : Comparison.ofOperator? (.text op) = some comparison) {o : Ordering}
    (horder : order? actual c.value = .ok (some o)) :
    c.holds [(f, actual)] = .ok (comparison.holds (some o)) := by
  have hget : Entries.get? [(f, actual)] f = some actual :=
    Entries.get?_put_self ([] : Record) f actual
  rw [holds_of_get? h.field hget (h.operator ▸ hoperator), horder]
  rfl

end IsWording

/-- For which comparisons two samples tell a condition apart, if one of them is equal to the value
and the other is in the given order to it. -/
theorem holds_sample_iff (comparison : Comparison) (o : Ordering) :
    (comparison.holds (some (if comparison = .ne then o else .eq)) = true ∧
        comparison.holds (some (if comparison = .ne then .eq else o)) = false) ↔
      (comparison = .eq ∨ comparison = .ne) ∧ o ≠ .eq ∨ comparison = .ge ∧ o = .lt ∨
        comparison = .le ∧ o = .gt := by
  cases comparison <;> cases o <;> decide

/-- **When the samples of a condition on texts tell it apart.** Both can be compared, and the
condition holds of the first and not of the second exactly if it asks for equality or its negation
and the value is not the wrong text, or if it includes equality and the wrong text is on the other
side of the value. -/
theorem tellsApart_iff (h : IsWording c f op v) :
    ∃ pass fail ofPass ofFail, c.samples = .ok (pass, fail) ∧
      c.holds [(f, pass)] = .ok ofPass ∧ c.holds [(f, fail)] = .ok ofFail ∧
      (ofPass = true ∧ ofFail = false ↔
        op ∈ ["==", "===", "!=", "!=="] ∧ v ≠ sentinel f ∨ op = ">=" ∧ sentinel f < v ∨
          op = "<=" ∧ v < sentinel f) := by
  obtain ⟨comparison, hoperator, hequal, hge, hle⟩ := exists_ofOperator? h.spelled
  obtain ⟨w, hvalue, htext⟩ := h.value
  have hsamples := h.samples_eq hvalue htext hoperator
  have hself : c.holds [(f, .scalar w)] = .ok (comparison.holds (some .eq)) :=
    h.holds_eq hoperator (hvalue ▸ order?_self htext (hvalue ▸ h.ne_nan))
  have hwrong := h.holds_eq hoperator (hvalue ▸ order?_sentinel f htext)
  have hless (a b : String) : a.toList < b.toList ↔ a < b := Iff.rfl
  have hdifferent : sentinel f = v ↔ v = sentinel f := eq_comm
  have hiff := holds_sample_iff comparison (orderTexts (sentinel f).toList v.toList)
  rw [hequal, hge, hle, orderTexts_eq_lt_iff, orderTexts_eq_gt_iff, hless, hless, Ne,
    orderTexts_eq_eq_iff, String.toList_inj, hdifferent] at hiff
  by_cases hne : comparison = .ne
  · rw [if_pos hne] at hsamples
    simp only [if_pos hne] at hiff
    exact ⟨_, _, _, _, hsamples, hwrong, hself, hiff⟩
  · rw [if_neg hne] at hsamples
    simp only [if_neg hne] at hiff
    exact ⟨_, _, _, _, hsamples, hself, hwrong, hiff⟩

/-- A priority that looks like a number. -/
def atMostTwelve : Condition := ⟨.text "priority", .text "<=", .text "12"⟩

/-- Digits stand before letters, so its samples tell it apart. -/
theorem tellsApart_atMostTwelve :
    IsWording atMostTwelve (.text "priority") "<=" "12" ∧
      ∃ pass fail, atMostTwelve.samples = .ok (pass, fail) ∧
        atMostTwelve.holds [(.text "priority", pass)] = .ok true ∧
        atMostTwelve.holds [(.text "priority", fail)] = .ok false := by
  have hnumber : ((Double.read? "12".toList).map Number.ofDouble) ≠ some (.real .nan) := by
    decide +kernel
  have h : IsWording atMostTwelve (.text "priority") "<=" "12" :=
    ⟨rfl, rfl, by decide, ⟨_, rfl, rfl⟩, by decide, .inl ⟨"priority", by decide, rfl⟩,
      fun hnan => hnumber (Except.ok.inj hnan)⟩
  obtain ⟨pass, fail, ofPass, ofFail, hsamples, hpass, hfail, hiff⟩ := tellsApart_iff h
  have hbefore : "12" < sentinel (.text "priority") := by decide
  obtain ⟨rfl, rfl⟩ := hiff.mpr (.inr (.inr ⟨rfl, hbefore⟩))
  exact ⟨h, pass, fail, hsamples, hpass, hfail⟩

end Condition

end StepFlow
