import StepFlow.Proofs.Process.Compile
/-!
# The limit on lines

The limit counts line feeds and one more. A text is read in lines that any break ends, and a break
at its end opens no further line. The two counts are compared here for all texts (`oversized_iff`):
a text may pass the limit by as many lines as it has breaks that hold no line feed, and a text that
ends with a line feed counts for one line more than it has. Both happen at a limit of one line
(`line_limit_one`).
-/

namespace StepFlow.Compile

open Text

variable {opts : Options} {description diagram text : String} {d : Definition} {n : Int}

/-- **What the limit counts, in lines as they are read.** -/
theorem oversized_iff :
    Oversized (some n) text ↔ text ≠ "" ∧
      n + otherBreaks text.toList + (if isOpen text.toList then 1 else 0) ≤
        (lines text.toList).length := by
  have hcount : Oversized (some n) text ↔ text ≠ "" ∧ n < (lineFeeds text.toList : Int) + 1 := by
    simp [Oversized, lineFeeds]
  have hlines := length_lines text.toList
  rw [hcount]
  refine and_congr_right fun _ => ?_
  by_cases hopen : isOpen text.toList = true
  · rw [if_pos hopen] at hlines ⊢
    omega
  · rw [if_neg hopen] at hlines ⊢
    omega

/-- A text within the limit exceeds it by its other breaks at most. -/
theorem length_lines_le (hn : 0 ≤ n) (h : ¬ Oversized (some n) text) :
    ((lines text.toList).length : Int) ≤ n + otherBreaks text.toList := by
  by_cases hempty : text = ""
  · rw [hempty, String.toList_empty, lines, otherBreaks]
    simpa using hn
  · have hlt := not_le.mp fun hle => h (oversized_iff.mpr ⟨hempty, hle⟩)
    split at hlt <;> omega

/-- A text of so many lines is within the limit if the last one is open. -/
theorem not_oversized (h : ((lines text.toList).length : Int) ≤ n)
    (hopen : text ≠ "" → isOpen text.toList = true) : ¬ Oversized (some n) text := by
  rw [oversized_iff]
  rintro ⟨hne, hle⟩
  rw [if_pos (hopen hne)] at hle
  omega

/-- Every step has a line of its own. -/
theorem length_steps_le (h : compile opts description diagram = .ok d) :
    d.steps.length ≤ (lines description.toList).length := by
  obtain ⟨outline, hread, rfl⟩ := exists_of_compile h
  rw [length_steps_assembled, ← List.length_map Outline.Step.title, Outline.read_titles hread]
  exact (List.length_filterMap_le _ _).trans (List.length_filterMap_le _ _)

/-- **A limit bounds the lines that are read,** as long as line feeds are their only breaks, and
with them the steps; and it refuses no texts of so many lines, as long as their last ones are
open. -/
theorem compile_lineLimit (opts : Assembly.Options) (description diagram : String) (hn : 0 ≤ n) :
    (∀ d, compile { opts with lineLimit := some n } description diagram = .ok d →
      (∀ text ∈ [description, diagram],
        ((lines text.toList).length : Int) ≤ n + otherBreaks text.toList) ∧
      d.steps.length ≤ (lines description.toList).length) ∧
    ((∀ text ∈ [description, diagram], ((lines text.toList).length : Int) ≤ n ∧
        (text ≠ "" → isOpen text.toList = true)) →
      ¬ ∃ name count limit, compile { opts with lineLimit := some n } description diagram =
        .error (.oversized name count limit)) := by
  constructor
  · intro d h
    have hfit := not_or.mp (not_anyOversized_of_compile h)
    refine ⟨?_, length_steps_le h⟩
    simpa using ⟨length_lines_le hn hfit.1, length_lines_le hn hfit.2⟩
  · rintro htexts ⟨name, count, limit, h⟩
    simp only [List.mem_cons, List.not_mem_nil, or_false, forall_eq_or_imp, forall_eq] at htexts
    obtain ⟨⟨hdescription, hopen⟩, hdiagram, hopen'⟩ := htexts
    rcases anyOversized_of_compile h with hover | hover
    · exact not_oversized hdescription hopen hover
    · exact not_oversized hdiagram hopen' hover

/-- Two lines and a limit of two. -/
theorem compile_lineLimit_two :
    (∀ d, compile { lineLimit := some 2 } "1. Start\n2. Go" "a --> b" = .ok d →
      (∀ text ∈ ["1. Start\n2. Go", "a --> b"],
        ((lines text.toList).length : Int) ≤ 2 + otherBreaks text.toList) ∧
      d.steps.length ≤ (lines "1. Start\n2. Go".toList).length) ∧
    ((∀ text ∈ ["1. Start\n2. Go", "a --> b"], ((lines text.toList).length : Int) ≤ 2 ∧
        (text ≠ "" → isOpen text.toList = true)) →
      ¬ ∃ name count limit, compile { lineLimit := some 2 } "1. Start\n2. Go" "a --> b" =
        .error (.oversized name count limit)) :=
  compile_lineLimit {} _ _ (by decide)

/-- **The limit and the reader count differently.** Two lines with a carriage return between them
pass a limit of one line, and a single line with a line feed behind it does not. -/
theorem line_limit_one :
    (∃ d, compile { lineLimit := some 1 } "1. Start\r2. Go" "" = .ok d ∧ d.steps.length = 2 ∧
      (lines "1. Start\r2. Go".toList).length = 2) ∧
    (lines "1. Start\n".toList).length = 1 ∧
    compile { lineLimit := some 1 } "1. Start\n" "" = .error (.oversized "description" 2 1) := by
  refine ⟨?_, rfl, rfl⟩
  have hread : Outline.read "1. Start\r2. Go" =
      .ok [⟨1, "Start", "", []⟩, ⟨2, "Go", "", []⟩] := rfl
  have hfit : ¬ AnyOversized { lineLimit := some 1 } "1. Start\r2. Go" "" := by
    rw [AnyOversized, oversized_iff, oversized_iff]
    decide
  exact ⟨_, compile_of_fits hfit hread, length_steps_assembled _ _ _, rfl⟩

end StepFlow.Compile
