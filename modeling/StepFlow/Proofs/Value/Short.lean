import StepFlow.Proofs.Result
import StepFlow.Value.Display
/-!
# Values that can be written

An integer of more than 4300 digits is not written, and nothing else stands in the way of a text: a
value has one exactly if every integer in it is short (`display_succeedsIff`). It is looked for
everywhere, in the members of sets and the keys of records as well.
-/

namespace StepFlow

open Text

/-- No integer that is too long to be written. -/
def Scalar.IsShort : Scalar → Prop
  | .int n => n.natAbs < Nat.pow 10 digitLimit
  | _ => True

namespace Value

mutual

/-- A value without integers that are too long to be written. -/
def IsShort : Value → Prop
  | .scalar s => s.IsShort
  | .list items => ItemsShort items
  | .pair a b => IsShort a ∧ IsShort b
  | .set members => ∀ s ∈ members, s.IsShort
  | .record entries => EntriesShort entries
  | .loop _ _ => True

/-- Items without such integers. -/
def ItemsShort : List Value → Prop
  | [] => True
  | v :: rest => IsShort v ∧ ItemsShort rest

/-- Entries without such integers, in keys and in values. -/
def EntriesShort : List (Scalar × Value) → Prop
  | [] => True
  | (k, v) :: rest => k.IsShort ∧ IsShort v ∧ EntriesShort rest

end

/-! ## Forms inside lists -/

theorem showInt_succeedsIff (n : Int) :
    SucceedsIff (n.natAbs < Nat.pow 10 digitLimit) .tooLong (showInt n) :=
  ⟨fun h => ⟨_, if_pos h⟩, fun h => if_neg h⟩

theorem shown_scalar_succeedsIff (s : Scalar) : SucceedsIff s.IsShort .tooLong s.shown := by
  cases s with
  | int n => exact showInt_succeedsIff n
  | _ => exact .of_ok trivial _

mutual

/-- **A value is shown exactly if every integer in it is short.** -/
theorem shown_succeedsIff : ∀ v : Value, SucceedsIff v.IsShort .tooLong v.shown
  | .scalar s => by
    rw [shown, IsShort]
    exact shown_scalar_succeedsIff s
  | .list items => by
    rw [shown, IsShort]
    exact (shownItems_succeedsIff items).map _
  | .pair a b => by
    rw [shown, IsShort]
    exact (shown_succeedsIff a).bind fun _ => (shown_succeedsIff b).map _
  | .set [] => by
    rw [shown, IsShort]
    exact .of_ok (by simp) _
  | .set (s :: members) => by
    rw [shown, IsShort]
    · exact (SucceedsIff.mapM shown_scalar_succeedsIff (s :: members)).map _
    · simp
  | .record entries => by
    rw [shown, IsShort]
    exact (shownEntries_succeedsIff entries).map _
  | .loop _ _ => by
    rw [shown, IsShort]
    exact .of_ok trivial _

theorem shownItems_succeedsIff :
    ∀ items : List Value, SucceedsIff (ItemsShort items) .tooLong (shownItems items)
  | [] => .of_ok trivial _
  | v :: rest => by
    rw [shownItems, ItemsShort]
    exact (shown_succeedsIff v).bind fun _ => (shownItems_succeedsIff rest).map _

theorem shownEntries_succeedsIff :
    ∀ entries : List (Scalar × Value),
      SucceedsIff (EntriesShort entries) .tooLong (shownEntries entries)
  | [] => .of_ok trivial _
  | (k, v) :: rest => by
    rw [shownEntries, EntriesShort]
    exact (shown_scalar_succeedsIff k).bind fun _ =>
      (shown_succeedsIff v).bind fun _ => (shownEntries_succeedsIff rest).map _

end

/-! ## Texts -/

/-- **A value has a text exactly if every integer in it is short.** -/
theorem display_succeedsIff (v : Value) : SucceedsIff v.IsShort .tooLong v.display := by
  unfold display
  split
  case h_5 => exact (shown_succeedsIff v).map String.ofList
  all_goals
    rw [IsShort]
    exact .of_ok trivial _

end Value

end StepFlow
