import Mathlib.Data.List.Basic
/-!
# The first of a list

What is found in a list stands at a place before which nothing else would be found
(`find?_eq_some_iff_getElem?`), and where anything has a property, something has it first
(`exists_first`).
-/

namespace StepFlow

/-- What is found in a list stands at a place before which nothing else would be found. -/
theorem find?_eq_some_iff_getElem? {α : Type} {p : α → Bool} {items : List α} {a : α} :
    items.find? p = some a ↔ ∃ i : Nat, items[i]? = some a ∧ p a = true ∧
      ∀ k < i, ∀ b, items[k]? = some b → p b = false := by
  rw [List.find?_eq_some_iff_getElem]
  constructor
  · rintro ⟨ha, i, hi, hat, hfirst⟩
    refine ⟨i, List.getElem?_eq_some_iff.mpr ⟨hi, hat⟩, ha, fun k hk b hb => ?_⟩
    obtain ⟨_, rfl⟩ := List.getElem?_eq_some_iff.mp hb
    simpa using hfirst k hk
  · rintro ⟨i, hat, ha, hfirst⟩
    obtain ⟨hi, hat⟩ := List.getElem?_eq_some_iff.mp hat
    refine ⟨ha, i, hi, hat, fun k hk => ?_⟩
    rw [hfirst k hk _ (List.getElem?_eq_getElem (Nat.lt_trans hk hi)), Bool.not_false]

/-- The first member with a property. -/
theorem exists_first {α : Type} {P : α → Prop} {xs : List α} (h : ∃ x ∈ xs, P x) :
    ∃ before x after, xs = before ++ x :: after ∧ (∀ y ∈ before, ¬ P y) ∧ P x := by
  classical
  obtain ⟨x, hx⟩ := Option.isSome_iff_exists.mp
    (List.find?_isSome (p := fun x => decide (P x)) |>.mpr (by simpa using h))
  obtain ⟨hP, before, after, hsplit, hbefore⟩ := List.find?_eq_some_iff_append.mp hx
  exact ⟨before, x, after, hsplit, by simpa using hbefore, by simpa using hP⟩

end StepFlow
