import StepFlow.Condition.Samples
import StepFlow.Proofs.Condition.Holding
import StepFlow.Proofs.Double.Integer
import StepFlow.Proofs.Entries
/-!
# Thresholds

Conditions that compare a field with an integer. The distances of their samples and the comparisons
are two tables of their own, and they agree for every operator (`holds_pass`, `not_holds_fail`). As
long as threshold and sample are doubles, nothing on the way through a payload is rounded, so the
condition holds of a payload with the one sample and fails with the other, whatever the payload had
at the field before (`IsThreshold.holds_put`).
-/

namespace StepFlow

namespace Condition

variable {c : Condition} {n : Int} {comparison : Comparison} {comparison? : Option Comparison}
variable {f : String} {pass fail : Value}

/-! ## Distances -/

/-- The order of a number and its neighbour at a distance. -/
theorem compare_add (n k : Int) : compare (n + k) n = compare k 0 := by
  rcases lt_trichotomy k 0 with hlt | rfl | hgt
  · rw [compare_lt_iff_lt.mpr hlt, compare_lt_iff_lt.mpr (by omega)]
  · rw [compare_eq_iff_eq.mpr (by omega), compare_eq_iff_eq.mpr rfl]
  · rw [compare_gt_iff_gt.mpr hgt, compare_gt_iff_gt.mpr (by omega)]

/-- **The first distance satisfies the comparison.** -/
theorem holds_pass (comparison : Comparison) (n : Int) :
    comparison.holds (some (compare (n + (offsets (some comparison)).1) n)) = true := by
  rw [compare_add]
  cases comparison <;> decide

/-- **The second does not.** -/
theorem not_holds_fail (comparison : Comparison) (n : Int) :
    comparison.holds (some (compare (n + (offsets (some comparison)).2) n)) = false := by
  rw [compare_add]
  cases comparison <;> decide

/-- No distance is greater than a thousand. -/
theorem natAbs_offsets_le (comparison? : Option Comparison) :
    (offsets comparison?).1.natAbs ≤ 1000 ∧ (offsets comparison?).2.natAbs ≤ 1000 := by
  rcases comparison? with _ | comparison
  · decide
  · cases comparison <;> decide

/-! ## Thresholds -/

/-- **The condition compares a field with an integer.** The field is named by a text, is neither the
unknown one nor one of names, and the integer and its neighbours are doubles. -/
structure IsThreshold (c : Condition) (n : Int) : Prop where
  field : ∃ f, c.field = .text f ∧ f ∉ ["unknown", "activity_type", "stage", "priority"]
  operator : ∃ op ∈ operators, c.operator = .text op
  value : c.value.toNumber = .ok (some (.int n))
  bound : n.natAbs ≤ 2 ^ 53 - 1000

namespace IsThreshold

theorem exists_comparison (h : IsThreshold c n) :
    ∃ comparison, Comparison.ofOperator? c.operator = some comparison := by
  obtain ⟨op, hop, heq⟩ := h.operator
  obtain ⟨comparison, hoperator, -⟩ := exists_ofOperator? hop
  exact ⟨comparison, heq ▸ hoperator⟩

/-- The field is none of names. -/
theorem category?_eq_none (h : IsThreshold c n) (hfield : c.field = .text f) :
    category? (.text f) = none := by
  obtain ⟨g, hg, hplain⟩ := h.field
  obtain rfl : f = g := by simpa using hfield.symm.trans hg
  simp only [List.mem_cons, List.not_mem_nil, or_false, not_or, ← beq_eq_false_iff_ne] at hplain
  obtain ⟨-, hactivity, hstage, hpriority⟩ := hplain
  simp only [category?, categories, List.lookup_cons, List.lookup_nil, hactivity, hstage, hpriority]

/-- The samples lie at the distances of the comparison. -/
theorem samples_eq (h : IsThreshold c n)
    (hoperator : Comparison.ofOperator? c.operator = comparison?) :
    c.samples = .ok (.int (n + (offsets comparison?).1), .int (n + (offsets comparison?).2)) := by
  obtain ⟨f, hfield, -⟩ := h.field
  have hcategory := h.category?_eq_none hfield
  simp only [samples, h.value, hfield, Value.asKey, bind, Except.bind, hcategory]
  rw [passNumber, failNumber, hoperator]
  rfl

/-- A sample is compared as the integer that it is. -/
theorem holds_put_int (h : IsThreshold c n) (hfield : c.field = .text f)
    (hoperator : Comparison.ofOperator? c.operator = some comparison) (data : Record) {k : Int}
    (hk : k.natAbs ≤ 1000) :
    c.holds (data.put (.text f) (.int (n + k))) =
      .ok (comparison.holds (some (compare (n + k) n))) := by
  -- a neighbour of the threshold is still a double, so it is read as it was written
  have hbound := h.bound
  have hsample : (n + k).natAbs ≤ 2 ^ Double.significandBits := by
    rw [Double.significandBits]
    omega
  rw [holds_of_get? hfield (Entries.get?_put_self _ _ _) hoperator,
    order?_of_toNumber (Number.toNumber_int hsample) h.value, Number.order?_int]
  rfl

/-- **Written to any payload, the first sample satisfies the condition and the second does not.** -/
theorem holds_put (h : IsThreshold c n) (hfield : c.field = .text f)
    (hsamples : c.samples = .ok (pass, fail)) (data : Record) :
    c.holds (data.put (.text f) pass) = .ok true ∧
      c.holds (data.put (.text f) fail) = .ok false := by
  obtain ⟨comparison, hoperator⟩ := h.exists_comparison
  rw [h.samples_eq hoperator, Except.ok.injEq, Prod.mk.injEq] at hsamples
  obtain ⟨rfl, rfl⟩ := hsamples
  have hoffsets := natAbs_offsets_le (some comparison)
  rw [h.holds_put_int hfield hoperator data hoffsets.1,
    h.holds_put_int hfield hoperator data hoffsets.2, holds_pass, not_holds_fail]
  exact ⟨rfl, rfl⟩

end IsThreshold

end Condition

end StepFlow
