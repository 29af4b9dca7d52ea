import StepFlow.Proofs.Value.Short
/-!
# Plain values

The values that nodes are drawn with: scalars other than bytes, lists, and records at text keys,
with no integer too long to be written. Every one has a text (`exists_display`), and lists and
records are the only ones that are no keys (`asKey_eq_error_iff`).
-/

namespace StepFlow

open Text

/-- A scalar other than bytes, and no integer that is too long to be written. -/
def Scalar.IsPlain : Scalar → Prop
  | .int n => n.natAbs < Nat.pow 10 digitLimit
  | .bytes _ => False
  | _ => True

namespace Value

variable {v w : Value} {s : Scalar} {entries : Record} {e : Obstacle}

mutual

/-- A value made of plain scalars, lists and records at text keys. -/
def IsPlain : Value → Prop
  | .scalar s => s.IsPlain
  | .list items => ItemsPlain items
  | .pair _ _ => False
  | .set _ => False
  | .record entries => EntriesPlain entries
  | .loop _ _ => True

/-- Items that are plain values. -/
def ItemsPlain : List Value → Prop
  | [] => True
  | v :: rest => IsPlain v ∧ ItemsPlain rest

/-- Entries that are plain values at text keys. -/
def EntriesPlain : List (Scalar × Value) → Prop
  | [] => True
  | (k, v) :: rest => k.text?.isSome ∧ IsPlain v ∧ EntriesPlain rest

end

/-- Whether a value is a list or a record, or the place of one. -/
def isCollection : Value → Bool
  | .list _ => true
  | .record _ => true
  | .loop _ _ => true
  | _ => false

/-- **Of the plain values the lists and records are no keys.** -/
theorem asKey_eq_error_iff (h : v.IsPlain) :
    v.asKey = .error e ↔ v.isCollection = true ∧ e = .notAKey := by
  cases v with
  | scalar s => simp [asKey, isCollection]
  | pair a b => exact h.elim
  | set members => exact h.elim
  | _ => simp [asKey, isCollection, eq_comm]

/-! ## Texts -/

theorem isShort_of_text? (h : s.text?.isSome) : s.IsShort := by
  cases s with
  | int n => simp [Scalar.text?] at h
  | _ => trivial

theorem isShort_of_isPlain (h : s.IsPlain) : s.IsShort := by
  cases s with
  | int n => exact h
  | _ => trivial

mutual

/-- No integer of a plain value is too long to be written. -/
theorem IsPlain.isShort : ∀ {v : Value}, v.IsPlain → v.IsShort
  | .scalar _, h => isShort_of_isPlain h
  | .list _, h => ItemsPlain.isShort h
  | .record _, h => EntriesPlain.isShort h
  | .loop _ _, _ => trivial
  | .pair _ _, h => h.elim
  | .set _, h => h.elim

theorem ItemsPlain.isShort : ∀ {items : List Value}, ItemsPlain items → ItemsShort items
  | [], _ => trivial
  | _ :: _, h => ⟨IsPlain.isShort h.1, ItemsPlain.isShort h.2⟩

theorem EntriesPlain.isShort :
    ∀ {entries : List (Scalar × Value)}, EntriesPlain entries → EntriesShort entries
  | [], _ => trivial
  | (_, _) :: _, h => ⟨isShort_of_text? h.1, IsPlain.isShort h.2.1, EntriesPlain.isShort h.2.2⟩

end

/-- **Every plain value has a text.** -/
theorem exists_display (h : v.IsPlain) : ∃ s, v.display = .ok s :=
  (display_succeedsIff v).ok h.isShort

/-! ## Parts of records -/

theorem IsPlain.alone (h : v.IsPlain) : v.alone.IsPlain := by
  cases v with
  | scalar s =>
    cases hs : s.text? with
    | none => simpa [Value.alone, hs] using h
    | some t => simp [Value.alone, hs, IsPlain, Scalar.IsPlain]
  | _ => exact h

theorem EntriesPlain.get? {key : Scalar} (h : EntriesPlain entries)
    (hget : entries.get? key = some v) : v.IsPlain := by
  induction entries with
  | nil => cases hget
  | cons e rest ih =>
    rw [Entries.get?] at hget
    split at hget
    · rw [← Option.some.inj hget]
      exact h.2.1
    · exact ih h.2.2 hget

/-- A missing entry may have a plain value in its place. -/
theorem EntriesPlain.getD (h : EntriesPlain entries) (hv : v.IsPlain) (key : Scalar) :
    ((entries.get? key).getD v).IsPlain := by
  cases hget : entries.get? key with
  | none => exact hv
  | some w => exact h.get? hget

/-- The fields of plain entries are plain. -/
theorem EntriesPlain.field (h : EntriesPlain entries) (name : String) :
    (Value.field entries name).IsPlain :=
  (h.getD (v := null) trivial _).alone

theorem IsPlain.orElse (hv : v.IsPlain) (hw : w.IsPlain) : (v.orElse w).IsPlain := by
  rw [Value.orElse]
  split
  · exact hv
  · exact hw

end Value

end StepFlow
