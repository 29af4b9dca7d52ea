import StepFlow.Diagram.Basic
import StepFlow.Proofs.Text.Lines
/-!
# Labels

What cleaning does to a label. It takes away blanks, one pair of quotes and the blanks inside them,
so a clean label is inline if the raw one stood on a line (`inline_cleanLabel`). A tight label
without a pair of quotes around it is clean already (`cleanLabel_eq_self`), and a tight label in
quotes is what was quoted (`cleanLabel_quotation`).
-/

namespace StepFlow.Diagram

open Text

variable {cs inner : List Char} {q : Char}

/-- A text between two quotes of one kind, single or double. -/
def IsQuotation (cs : List Char) : Prop :=
  ∃ q inner, (q = '"' ∨ q = '\'') ∧ cs = q :: (inner ++ [q])

theorem isQuoted_iff : isQuoted cs = true ↔ IsQuotation cs := by
  constructor
  · intro h
    match cs, h with
    | c :: d :: rest, h =>
      rw [isQuoted, Bool.and_eq_true, Bool.or_eq_true, beq_iff_eq, beq_iff_eq, beq_iff_eq] at h
      obtain ⟨hc, hlast⟩ := h
      obtain ⟨inner, hinner⟩ := List.getLast?_eq_some_iff.mp hlast
      exact ⟨c, inner, hc, by rw [hinner]⟩
  · rintro ⟨q, inner, hq, rfl⟩
    have hlast : (inner ++ [q]).getLast? = some q := List.getLast?_concat
    cases hinner : inner ++ [q] with
    | nil => simp at hinner
    | cons d rest =>
      rw [hinner] at hlast
      rw [isQuoted, Bool.and_eq_true, Bool.or_eq_true, beq_iff_eq, beq_iff_eq, beq_iff_eq]
      exact ⟨hq, hlast⟩

/-- **A tight text that is no quotation is a clean label.** -/
theorem cleanLabel_eq_self (htight : Tight cs) (h : ¬ IsQuotation cs) : cleanLabel cs = cs := by
  rw [cleanLabel, htight.trim_eq]
  exact if_neg fun hquoted => h (isQuoted_iff.mp hquoted)

/-- **The label of a quotation is the quoted text.** -/
theorem cleanLabel_quotation (hq : q = '"' ∨ q = '\'') (htight : Tight inner) :
    cleanLabel (q :: (inner ++ [q])) = inner := by
  have hblank : isBlank q = false := by rcases hq with rfl | rfl <;> rfl
  have hquoted : isQuoted (q :: (inner ++ [q])) = true := isQuoted_iff.mpr ⟨q, inner, hq, rfl⟩
  rw [cleanLabel, (tight_between hblank).trim_eq, if_pos hquoted, List.drop_one, List.tail_cons,
    List.dropLast_concat, htight.trim_eq]

theorem cleanLabel_isInfix : cleanLabel cs <:+: cs := by
  rw [cleanLabel]
  split
  · exact trim_isInfix.trans <| (List.dropLast_prefix _).isInfix.trans <|
      (List.drop_suffix 1 _).isInfix.trans trim_isInfix
  · exact trim_isInfix

/-- **Cleaning takes away blanks and quotes only.** -/
theorem mem_cleanLabel {c : Char} (h : c ∈ cs) (hblank : isBlank c = false)
    (hquote : c ≠ '"' ∧ c ≠ '\'') : c ∈ cleanLabel cs := by
  have hmem : c ∈ trim cs := mem_trim h hblank
  rw [cleanLabel]
  split
  · rename_i hquoted
    obtain ⟨q, inner, hq, heq⟩ := isQuoted_iff.mp hquoted
    have hne : c ≠ q := by
      rcases hq with rfl | rfl
      · exact hquote.1
      · exact hquote.2
    rw [heq] at hmem ⊢
    have hinner : c ∈ inner := by simpa [hne] using hmem
    rw [List.drop_one, List.tail_cons, List.dropLast_concat]
    exact mem_trim hinner hblank
  · exact hmem

theorem tight_cleanLabel (cs : List Char) : Tight (cleanLabel cs) := by
  rw [cleanLabel]
  split
  · exact tight_trim
  · exact tight_trim

/-- **A clean label from a line is inline.** -/
theorem inline_cleanLabel (h : ∀ c ∈ cs, isBreak c = false) : Inline (cleanLabel cs) :=
  ⟨tight_cleanLabel cs, fun c hc => h c (cleanLabel_isInfix.subset hc)⟩

end StepFlow.Diagram
