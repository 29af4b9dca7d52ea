import Mathlib.Data.List.Infix
import StepFlow.Proofs.Text.Find
import StepFlow.Text.Case
/-!
# Lower case in context

The lower-case form of a character does not depend on the text around it, that of a capital sigma
apart. So with every final sigma turned into a medial one (`medial`), the lower-case form of a text
is put together from those of its parts (`medial_lower_append`), and a mark that has no sigma occurs
in the lower-case form of a text if it occurs in that of a part of it (`infix_lower_of_infix`).
-/

namespace StepFlow.Text

variable {c : Char} {mark cs ds : List Char}

/-- A text with every final sigma as a medial one. -/
def medial (cs : List Char) : List Char :=
  replaceChar 'ς' 'σ' cs

theorem medial_append (cs ds : List Char) : medial (cs ++ ds) = medial cs ++ medial ds :=
  List.map_append

/-! ## Single characters -/

theorem lowerChar_ne_nil (c : Char) : lowerChar c ≠ [] := by
  rw [lowerChar]
  repeat' split
  all_goals exact List.cons_ne_nil _ _

/-- Only the empty text is empty in lower case. -/
theorem lower_eq_nil_iff : lower cs = [] ↔ cs = [] := by
  cases cs with
  | nil => simp [lower, lowerAfter]
  | cons c rest =>
    rw [lower, lowerAfter]
    split <;> simp [lowerChar_ne_nil]

theorem lowerChar_sigma (h : c.toNat = 0x3A3) : lowerChar c = ['σ'] := by
  rw [lowerChar, if_neg (by omega), if_neg (by omega), if_pos h]

/-! ## Texts -/

/-- **Up to the form of its sigmas, a text is lowered character by character.** -/
theorem medial_lowerAfter (before cs : List Char) :
    medial (lowerAfter before cs) = cs.flatMap fun c => medial (lowerChar c) := by
  induction cs generalizing before with
  | nil => rfl
  | cons c rest ih =>
    rw [lowerAfter, medial_append, ih, List.flatMap_cons]
    congr 1
    split
    · rename_i hfinal
      rw [lowerChar_sigma hfinal.1]
      rfl
    · rfl

theorem medial_lower_append (cs ds : List Char) :
    medial (lower (cs ++ ds)) = medial (lower cs) ++ medial (lower ds) := by
  simp only [lower, medial_lowerAfter, List.flatMap_append]

/-- A mark without sigmas is found whatever form the sigmas around it have. -/
theorem infix_medial_iff (hmark : 'ς' ∉ mark ∧ 'σ' ∉ mark) : mark <:+: medial cs ↔ mark <:+: cs := by
  constructor
  · intro h
    exact infix_of_infix_replaceChar h hmark.2
  · intro h
    have hreplaced : medial mark <:+: medial cs := h.map _
    rwa [medial, replaceChar_eq_self hmark.1] at hreplaced

/-- **What occurs in the lower-case form of a part occurs in that of the whole**, if it has no
sigma. -/
theorem infix_lower_of_infix (hmark : 'ς' ∉ mark ∧ 'σ' ∉ mark) (h : cs <:+: ds)
    (hin : mark <:+: lower cs) : mark <:+: lower ds := by
  obtain ⟨front, back, rfl⟩ := h
  rw [← infix_medial_iff hmark, medial_lower_append, medial_lower_append]
  exact ((infix_medial_iff hmark).mpr hin).trans (List.infix_append _ _ _)

end StepFlow.Text
