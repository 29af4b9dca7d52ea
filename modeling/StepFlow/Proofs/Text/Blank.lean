import Mathlib.Data.List.DropRight
import StepFlow.Text.Blank
/-!
# Texts without blanks around them

A text is tight if it neither starts nor ends with a blank. Trimming makes a text tight
(`tight_trim`) and leaves a tight one as it is (`Tight.trim_eq`), so labels and titles that were
trimmed once can be written between other blanks and read back.
-/

namespace StepFlow.Text

variable {p : Char → Bool} {gap front cs : List Char}

/-- Neither the first nor the last character is a blank. -/
structure Tight (cs : List Char) : Prop where
  first : ∀ c ∈ cs.head?, isBlank c = false
  last : ∀ c ∈ cs.getLast?, isBlank c = false

theorem tight_iff :
    Tight cs ↔ cs.head?.all (!isBlank ·) = true ∧ cs.getLast?.all (!isBlank ·) = true := by
  simp only [Option.all_eq_true, Bool.not_eq_true']
  exact ⟨fun h => ⟨h.first, h.last⟩, fun h => ⟨h.1, h.2⟩⟩

instance (cs : List Char) : Decidable (Tight cs) :=
  decidable_of_iff _ tight_iff.symm

/-! ## Dropping from one end -/

theorem dropEndWhile_eq_rdropWhile : dropEndWhile p cs = cs.rdropWhile p := rfl

/-- Nothing is dropped where the last character stays. -/
theorem dropEndWhile_eq_self (h : ∀ c ∈ cs.getLast?, p c = false) : dropEndWhile p cs = cs := by
  rw [dropEndWhile_eq_rdropWhile, List.rdropWhile_eq_self_iff]
  intro hne
  simp [h _ (List.getLast?_eq_getLast_of_ne_nil hne)]

/-- What is to be dropped at the end is dropped, whatever stands before it. -/
theorem dropEndWhile_append (hgap : ∀ c ∈ gap, p c = true) :
    dropEndWhile p (cs ++ gap) = dropEndWhile p cs := by
  rw [dropEndWhile, List.reverse_append, List.dropWhile_append_of_pos (by simpa using hgap),
    ← dropEndWhile]

theorem dropEndWhile_isPrefix : dropEndWhile p cs <+: cs :=
  List.rdropWhile_prefix p cs

/-- A start of the text that ends with a character that stays is left. -/
theorem isPrefix_dropEndWhile (h : front <+: cs) (hlast : ∀ c ∈ front.getLast?, p c = false) :
    front <+: dropEndWhile p cs := by
  obtain ⟨rest, rfl⟩ := h
  have hkeep : front.reverse.dropWhile p = front.reverse := by
    have := congrArg List.reverse (dropEndWhile_eq_self hlast)
    rwa [dropEndWhile, List.reverse_reverse] at this
  rw [dropEndWhile, List.reverse_append, List.dropWhile_append]
  split
  · simp [hkeep]
  · rw [List.reverse_append, List.reverse_reverse]
    exact List.prefix_append _ _

/-- What is left ends with a character that stays. -/
theorem of_mem_getLast?_dropEndWhile {c : Char} (h : c ∈ (dropEndWhile p cs).getLast?) :
    p c = false := by
  have hne : cs.rdropWhile p ≠ [] := by
    rintro hnil
    simp [dropEndWhile_eq_rdropWhile, hnil] at h
  have hlast := List.rdropWhile_last_not p cs hne
  rw [dropEndWhile_eq_rdropWhile, List.getLast?_eq_getLast_of_ne_nil hne] at h
  simpa [Option.mem_some_iff.mp h] using hlast

/-- What begins a text stands in its front part or begins the rest. -/
theorem forall_head?_append {P : Char → Prop} (hfront : ∀ c ∈ front, P c)
    (h : ∀ c ∈ cs.head?, P c) : ∀ c ∈ (front ++ cs).head?, P c := by
  intro c hc
  rw [List.head?_append] at hc
  rcases Option.or_eq_some_iff.mp hc with hc | ⟨-, hc⟩
  · exact hfront c (List.mem_of_mem_head? hc)
  · exact h c hc

/-- Nothing is dropped where the first character is no blank. -/
theorem trimStart_eq_self (h : ∀ c ∈ cs.head?, isBlank c = false) : trimStart cs = cs := by
  cases cs with
  | nil => rfl
  | cons c rest => simp [trimStart, h c rfl]

/-- Blanks in front are dropped, whatever follows. -/
theorem trimStart_append (hgap : ∀ c ∈ gap, isBlank c = true) :
    trimStart (gap ++ cs) = trimStart cs :=
  List.dropWhile_append_of_pos hgap

theorem trimStart_suffix : trimStart cs <:+ cs :=
  List.dropWhile_suffix _

theorem of_mem_head?_trimStart {c : Char} (h : c ∈ (trimStart cs).head?) : isBlank c = false := by
  have := List.head?_dropWhile_not isBlank cs
  rw [← trimStart, Option.mem_def.mp h] at this
  simpa using this

/-! ## Trimming -/

/-- **Trimming leaves no blank at either end.** -/
theorem tight_trim : Tight (trim cs) where
  first := by
    intro c hc
    have hpre : trim cs <+: trimStart cs := dropEndWhile_isPrefix
    obtain ⟨rest, hrest⟩ := hpre
    have hhead : c ∈ (trimStart cs).head? := by
      rw [← hrest, List.head?_append, Option.mem_def.mp hc]
      rfl
    exact of_mem_head?_trimStart hhead
  last := fun _ hc => of_mem_getLast?_dropEndWhile hc

/-- **And leaves a text without blanks at its ends alone.** -/
theorem Tight.trim_eq (h : Tight cs) : trim cs = cs := by
  rw [trim, trimStart_eq_self h.first, dropEndWhile_eq_self h.last]

theorem trim_isInfix : trim cs <:+: cs :=
  dropEndWhile_isPrefix.isInfix.trans trimStart_suffix.isInfix

theorem mem_of_mem_trim {c : Char} (h : c ∈ trim cs) : c ∈ cs :=
  trim_isInfix.subset h

/-- What is not dropped anywhere is left. -/
theorem mem_dropEndWhile {c : Char} (h : c ∈ cs) (hc : p c = false) : c ∈ dropEndWhile p cs := by
  have hsplit := List.rdropWhile_append_rtakeWhile (p := p) (l := cs)
  rw [← dropEndWhile_eq_rdropWhile] at hsplit
  rw [← hsplit] at h
  refine (List.mem_append.mp h).resolve_right fun hmem => ?_
  rw [List.mem_rtakeWhile_imp hmem] at hc
  cases hc

/-- **Trimming takes away blanks only.** -/
theorem mem_trim {c : Char} (h : c ∈ cs) (hc : isBlank c = false) : c ∈ trim cs := by
  refine mem_dropEndWhile ?_ hc
  rw [← List.takeWhile_append_dropWhile (p := isBlank) (l := cs)] at h
  refine (List.mem_append.mp h).resolve_left fun hmem => ?_
  rw [List.mem_takeWhile_imp hmem] at hc
  cases hc

/-- Blanks in front make no difference. -/
theorem trim_append (hgap : ∀ c ∈ gap, isBlank c = true) : trim (gap ++ cs) = trim cs := by
  rw [trim, trimStart_append hgap, trim]

/-- And so do blanks behind it. -/
theorem trim_append_blanks (hgap : ∀ c ∈ gap, isBlank c = true) : trim (cs ++ gap) = trim cs := by
  rw [trim, trimStart, List.dropWhile_append]
  split
  · -- nothing but blanks in front of them
    rename_i hnil
    have hall : gap.dropWhile isBlank = [] := List.dropWhile_eq_nil_iff.mpr hgap
    rw [hall, trim, trimStart, List.isEmpty_iff.mp hnil]
  · rw [dropEndWhile_append hgap, trim, trimStart]

theorem trim_between {after : List Char} (hgap : ∀ c ∈ gap, isBlank c = true)
    (hafter : ∀ c ∈ after, isBlank c = true) : trim (gap ++ (cs ++ after)) = trim cs := by
  rw [trim_append hgap, trim_append_blanks hafter]

theorem trim_blanks (h : ∀ c ∈ cs, isBlank c = true) : trim cs = [] := by
  have hnil : trim (cs ++ []) = trim [] := trim_append h
  rw [List.append_nil] at hnil
  exact hnil

/-- A text is tight if its first and its last character are no blanks. -/
theorem tight_of_ends (hfirst : ∃ c ∈ cs.head?, isBlank c = false)
    (hlast : ∃ c ∈ cs.getLast?, isBlank c = false) : Tight cs := by
  obtain ⟨c, hc, hfirst⟩ := hfirst
  obtain ⟨d, hd, hlast⟩ := hlast
  exact ⟨fun x hx => Option.some.inj (hc.symm.trans hx) ▸ hfirst,
    fun x hx => Option.some.inj (hd.symm.trans hx) ▸ hlast⟩

theorem tight_append {front back : List Char} (hfront : ∃ c ∈ front.head?, isBlank c = false)
    (hback : ∃ c ∈ back.getLast?, isBlank c = false) : Tight (front ++ back) := by
  obtain ⟨c, hc, hfirst⟩ := hfront
  obtain ⟨d, hd, hlast⟩ := hback
  refine tight_of_ends ⟨c, ?_, hfirst⟩ ⟨d, ?_, hlast⟩
  · rw [List.head?_append, Option.mem_def.mp hc, Option.some_or]
    rfl
  · rw [List.getLast?_append, Option.mem_def.mp hd, Option.some_or]
    rfl

/-- What stands between two of one character other than blanks is tight with them. -/
theorem tight_between {q : Char} (h : isBlank q = false) : Tight (q :: (cs ++ [q])) := by
  refine tight_of_ends ⟨q, rfl, h⟩ ⟨q, ?_, h⟩
  rw [← List.cons_append, List.getLast?_concat]
  rfl

end StepFlow.Text
