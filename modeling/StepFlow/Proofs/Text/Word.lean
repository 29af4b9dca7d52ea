import Mathlib.Data.List.TakeDrop
import StepFlow.Text.Blank
import StepFlow.Text.Case
import StepFlow.Text.Digit
import StepFlow.Text.Lines
/-!
# Words and plain characters

The word at the start of a text ends where the first other character stands, as every run of
characters of one kind does, and no character of a word is a blank or a break. Plain characters are
the lower-case ASCII letters, the ASCII digits and the underscore, which step ids are made of: they
are word characters, neither blanks nor breaks, and lower case leaves them alone.
-/

namespace StepFlow.Text

variable {p : Char → Bool} {run word rest cs : List Char} {c : Char}

/-- A run of characters of one kind ends where another character stands, or with the text. -/
theorem takeWhile_run (hrun : ∀ c ∈ run, p c = true) (hrest : ∀ c ∈ rest.head?, p c = false) :
    (run ++ rest).takeWhile p = run ∧ (run ++ rest).dropWhile p = rest := by
  rw [List.takeWhile_append_of_pos hrun, List.dropWhile_append_of_pos hrun]
  cases rest with
  | nil => simp
  | cons c rest => simp [hrest c rfl]

/-- **A word is taken whole** and no further, whatever follows it. -/
theorem spanWord_append (hword : ∀ c ∈ word, isWord c = true)
    (hrest : ∀ c ∈ rest.head?, isWord c = false) : spanWord (word ++ rest) = (word, rest) := by
  obtain ⟨htake, hdrop⟩ := takeWhile_run hword hrest
  rw [spanWord, List.span_eq_takeWhile_dropWhile, htake, hdrop]

/-! ## Blanks, breaks and words -/

/-- Every break is a blank. -/
theorem isBlank_of_isBreak (h : isBreak c = true) : isBlank c = true := by
  simp only [isBreak, Bool.or_eq_true, Bool.and_eq_true, decide_eq_true_iff, beq_iff_eq] at h
  simp only [isBlank, Bool.or_eq_true, Bool.and_eq_true, decide_eq_true_iff, beq_iff_eq]
  omega

theorem isBreak_of_isBlank_eq_false (h : isBlank c = false) : isBreak c = false := by
  by_contra hbreak
  rw [isBlank_of_isBreak (by simpa using hbreak)] at h
  cases h

/-- The code points of all blanks. -/
def blankCodes : List Nat := [
  9, 10, 11, 12, 13, 28, 29, 30, 31, 32, 0x85, 0xA0, 0x1680, 0x2000, 0x2001, 0x2002, 0x2003, 0x2004,
  0x2005, 0x2006, 0x2007, 0x2008, 0x2009, 0x200A, 0x2028, 0x2029, 0x202F, 0x205F, 0x3000]

theorem toNat_mem_blankCodes (h : isBlank c = true) : c.toNat ∈ blankCodes := by
  simp only [isBlank, Bool.or_eq_true, Bool.and_eq_true, decide_eq_true_iff, beq_iff_eq] at h
  simp only [blankCodes, List.mem_cons, List.not_mem_nil, or_false]
  omega

/-- No blank lies in the ranges of words. -/
theorem inRanges_eq_false_of_mem_blankCodes {n : Nat} (h : n ∈ blankCodes) :
    inRanges wordRanges n = false := by
  have hnone : (wordRanges.toList.all fun r => blankCodes.all fun n => n < r.1 || r.2 < n) =
      true := by decide +kernel
  rw [inRanges, ← Array.any_toList, List.any_eq_false]
  intro r hr
  have hout : n < r.1 ∨ r.2 < n := by
    simpa using List.all_eq_true.mp (List.all_eq_true.mp hnone r hr) n h
  rw [Bool.and_eq_true, decide_eq_true_iff, decide_eq_true_iff]
  omega

/-- **No character of a word is a blank.** -/
theorem isBlank_of_isWord (h : isWord c = true) : isBlank c = false := by
  have hascii : ∀ n ∈ blankCodes, n < 128 → isAsciiWord (Char.ofNat n) = false := by decide
  by_contra hblank
  have hcode := toNat_mem_blankCodes (by simpa using hblank)
  rw [isWord] at h
  split at h
  · rename_i hlt
    have hword := hascii c.toNat hcode hlt
    rw [Char.ofNat_toNat, h] at hword
    cases hword
  · rw [inRanges_eq_false_of_mem_blankCodes hcode] at h
    cases h

theorem isWord_of_isBlank (h : isBlank c = true) : isWord c = false := by
  by_contra hword
  rw [isBlank_of_isWord (by simpa using hword)] at h
  cases h

theorem isBreak_of_isWord (h : isWord c = true) : isBreak c = false :=
  isBreak_of_isBlank_eq_false (isBlank_of_isWord h)

/-! ## Plain characters -/

/-- A lower-case ASCII letter, an ASCII digit or the underscore. -/
def IsPlain (c : Char) : Prop :=
  (97 ≤ c.toNat ∧ c.toNat ≤ 122) ∨ (48 ≤ c.toNat ∧ c.toNat ≤ 57) ∨ c = '_'

instance : DecidablePred IsPlain := fun _ => inferInstanceAs (Decidable (_ ∨ _))

/-- Decimal digits are plain. -/
theorem isPlain_of_isAsciiDigit (h : isAsciiDigit c = true) : IsPlain c := by
  simp only [isAsciiDigit, Bool.and_eq_true, decide_eq_true_eq] at h
  exact .inr (.inl ⟨UInt32.le_iff_toNat_le.mp h.1, UInt32.le_iff_toNat_le.mp h.2⟩)

namespace IsPlain

theorem toNat_lt (h : IsPlain c) : c.toNat < 128 := by
  rcases h with h | h | rfl
  · omega
  · omega
  · decide

theorem isWord (h : IsPlain c) : isWord c = true := by
  have hword : isAsciiWord c = true := by
    rw [isAsciiWord, Bool.or_eq_true]
    rcases h with ⟨ha, hz⟩ | ⟨h0, h9⟩ | rfl
    · have hlower : c.isLower = true := (Bool.and_eq_true _ _).mpr
        ⟨decide_eq_true (UInt32.le_iff_toNat_le.mpr ha),
          decide_eq_true (UInt32.le_iff_toNat_le.mpr hz)⟩
      have halpha : c.isAlpha = true := (Bool.or_eq_true _ _).mpr (.inr hlower)
      exact .inl ((Bool.or_eq_true _ _).mpr (.inl halpha))
    · have hdigit : c.isDigit = true := (Bool.and_eq_true _ _).mpr
        ⟨decide_eq_true (UInt32.le_iff_toNat_le.mpr h0),
          decide_eq_true (UInt32.le_iff_toNat_le.mpr h9)⟩
      exact .inl ((Bool.or_eq_true _ _).mpr (.inr hdigit))
    · exact .inr rfl
  rw [Text.isWord, if_pos h.toNat_lt, hword]

theorem isBlank (h : IsPlain c) : isBlank c = false := by
  rcases h with h | h | rfl
  · simp [Text.isBlank]
    omega
  · simp [Text.isBlank]
    omega
  · rfl

theorem isBreak (h : IsPlain c) : isBreak c = false := by
  rcases h with h | h | rfl
  · simp [Text.isBreak]
    omega
  · simp [Text.isBreak]
    omega
  · rfl

theorem toLower (h : IsPlain c) : c.toLower = c := by
  refine dif_neg ?_
  rintro ⟨hA, hZ⟩
  have hA' : 65 ≤ c.toNat := UInt32.le_iff_toNat_le.mp hA
  have hZ' : c.toNat ≤ 90 := UInt32.le_iff_toNat_le.mp hZ
  rcases h with h | h | rfl
  · omega
  · omega
  · exact absurd hZ' (by decide)

end IsPlain

/-- **Lower case leaves plain text alone.** -/
theorem lower_eq_self (h : ∀ c ∈ cs, IsPlain c) : lower cs = cs := by
  rw [lower]
  generalize ([] : List Char) = before
  induction cs generalizing before with
  | nil => rfl
  | cons c cs ih =>
    have hc := h c List.mem_cons_self
    have hsigma : ¬ c.toNat = 0x3A3 := by have := hc.toNat_lt; omega
    rw [lowerAfter, if_neg fun hs => hsigma hs.1, lowerChar, if_pos hc.toNat_lt, hc.toLower,
      ih fun d hd => h d (List.mem_cons_of_mem _ hd), List.singleton_append]

end StepFlow.Text
