import StepFlow.Condition.Basic
/-!
# When conditions hold

A condition reads one value of a payload, the one at its field (`holds_congr`), and says of it what
its comparison says of the order to its own value (`holds_of_get?`). Only eight operators spell a
comparison (`operators`). The order of two values is one of numbers if both are numbers
(`order?_of_toNumber`), and else one of texts, if both have one (`order?_of_not_numbers`).
-/

namespace StepFlow.Condition

variable {c : Condition} {f : Scalar} {op s t : String} {comparison : Comparison}
variable {data data' : Record} {actual actual' expected : Value}

/-! ## Operators -/

/-- The operators that spell a comparison. -/
def operators : List String :=
  [">", ">=", "<", "<=", "==", "===", "!=", "!=="]

/-- **Each of them spells a comparison.** Equality and its negation have two spellings each. -/
theorem exists_ofOperator? (h : op ∈ operators) :
    ∃ comparison, Comparison.ofOperator? (.text op) = some comparison ∧
      ((comparison = .eq ∨ comparison = .ne) ↔ op ∈ ["==", "===", "!=", "!=="]) ∧
      (comparison = .ge ↔ op = ">=") ∧ (comparison = .le ↔ op = "<=") := by
  simp only [operators, List.mem_cons, List.not_mem_nil, or_false] at h
  rcases h with rfl | rfl | rfl | rfl | rfl | rfl | rfl | rfl <;> exact ⟨_, rfl, by decide⟩

/-! ## Two values -/

/-- **Two numbers are compared by number.** -/
theorem order?_of_toNumber {a b : Number} (ha : actual.toNumber = .ok (some a))
    (hb : expected.toNumber = .ok (some b)) : order? actual expected = .ok (a.order? b) := by
  simp only [order?, ha, hb]
  rfl

/-- **Values of which one is no number are compared by text,** if both have one. -/
theorem order?_of_not_numbers {a b : Option Number} (ha : actual.toNumber = .ok a)
    (hb : expected.toNumber = .ok b) (hnone : a = none ∨ b = none) :
    order? actual expected = actual.display >>= fun s => expected.display >>= fun t =>
      pure (some (orderTexts s.toList t.toList)) := by
  simp only [order?, ha, hb]
  rcases hnone with rfl | rfl
  · rfl
  · cases a <;> rfl

theorem order?_of_display {number? : Option Number} (hactual : actual.toNumber = .ok none)
    (hexpected : expected.toNumber = .ok number?) (hs : actual.display = .ok s)
    (ht : expected.display = .ok t) :
    order? actual expected = .ok (some (orderTexts s.toList t.toList)) := by
  rw [order?_of_not_numbers hactual hexpected (.inl rfl), hs, ht]
  rfl

/-! ## Payloads -/

/-- **A payload with the field satisfies a condition as the order of the values does.** -/
theorem holds_of_get? (hfield : c.field = .scalar f) (hget : data.get? f = some actual)
    (hoperator : Comparison.ofOperator? c.operator = some comparison) :
    c.holds data = (order? actual c.value).map comparison.holds := by
  simp only [holds, hfield, Value.asKey, bind, Except.bind, hget, hoperator]
  cases order? actual c.value <;> rfl

/-- What a condition says depends on what is at its field. -/
theorem holds_congr (hfield : c.field = .scalar f) (h : data.get? f = data'.get? f) :
    c.holds data = c.holds data' := by
  simp only [holds, hfield, Value.asKey, bind, Except.bind, h]

/-- It depends on the order of the value there. -/
theorem holds_congr_order (hfield : c.field = .scalar f) (hget : data.get? f = some actual)
    (hget' : data'.get? f = some actual')
    (h : order? actual c.value = order? actual' c.value) : c.holds data = c.holds data' := by
  cases hoperator : Comparison.ofOperator? c.operator with
  | none => simp only [holds, hfield, Value.asKey, bind, Except.bind, hget, hget', hoperator]
  | some comparison =>
    rw [holds_of_get? hfield hget hoperator, holds_of_get? hfield hget' hoperator, h]

end StepFlow.Condition
