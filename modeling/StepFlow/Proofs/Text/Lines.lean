import StepFlow.Proofs.Text.Blank
import StepFlow.Text.Lines
/-!
# Lines of joined texts

A line holds no break (`isBreak_of_mem_lines`), and lines written out with a line feed after each
are read back (`lines_flatMap_append`). Two texts joined by a line feed fall into the lines of the
one and the lines of the other, with at most one empty line between them (`lines_append_cons`): a
line feed closes an open line, but it also completes a carriage return, and only where it does
neither does it make a line of its own. The number of lines is that of the line feeds, of the breaks
that hold none, and of the open line at the end, if there is one (`length_lines`). A part of a line
that was trimmed is inline: it can stand between blanks on a line again.
-/

namespace StepFlow.Text

variable {line cs ds : List Char} {c : Char}

theorem ne_return_of_not_isBreak (h : isBreak c = false) : c ≠ '\r' := by
  rintro rfl
  simp [isBreak] at h

/-! ## One character more -/

theorem lines_return_newline : lines ('\r' :: '\n' :: cs) = [] :: lines cs := by
  rw [lines]

/-- Apart from a carriage return in front of a line feed, a character breaks or it does not. -/
theorem lines_cons (h : c ≠ '\r' ∨ cs.head? ≠ some '\n') :
    lines (c :: cs) = if isBreak c then [] :: lines cs else consLine c (lines cs) := by
  rw [lines]
  rintro rest rfl rfl
  simp at h

theorem lines_cons_of_not_isBreak (h : isBreak c = false) :
    lines (c :: cs) = consLine c (lines cs) := by
  rw [lines_cons (.inl (ne_return_of_not_isBreak h)), h]
  rfl

theorem lines_newline : lines ('\n' :: cs) = [] :: lines cs := by
  rw [lines_cons (.inl (by decide))]
  rfl

/-- A text that is not empty has a line. -/
theorem lines_ne_nil (h : cs ≠ []) : lines cs ≠ [] := by
  fun_cases lines cs with
  | case1 => exact absurd rfl h
  | case2 => simp
  | case3 c rest _ hbreak => simp
  | case4 c rest _ hbreak => cases lines rest <;> simp [consLine]

/-- **Lines hold no breaks.** -/
theorem isBreak_of_mem_lines (hline : line ∈ lines cs) (hc : c ∈ line) : isBreak c = false := by
  fun_induction lines cs generalizing line c with
  | case1 => simp at hline
  | case2 rest ih =>
    rcases List.mem_cons.mp hline with rfl | hline
    · simp at hc
    · exact ih hline hc
  | case3 d rest _ hbreak ih =>
    rcases List.mem_cons.mp hline with rfl | hline
    · simp at hc
    · exact ih hline hc
  | case4 d rest _ hbreak ih =>
    cases hrest : lines rest with
    | nil =>
      simp only [hrest, consLine, List.mem_singleton] at hline
      rw [hline, List.mem_singleton] at hc
      simpa [hc] using hbreak
    | cons first others =>
      rw [hrest] at hline ih
      rcases List.mem_cons.mp hline with rfl | hline
      · rcases List.mem_cons.mp hc with rfl | hc
        · simpa using hbreak
        · exact ih List.mem_cons_self hc
      · exact ih (List.mem_cons_of_mem _ hline) hc

/-! ## Parts of lines -/

/-- A text that can stand between blanks on a line: tight and without breaks. -/
structure Inline (cs : List Char) : Prop where
  tight : Tight cs
  unbroken : ∀ c ∈ cs, isBreak c = false

theorem inline_iff : Inline cs ↔ Tight cs ∧ cs.any isBreak = false := by
  constructor
  · intro h
    exact ⟨h.tight, by simpa using h.unbroken⟩
  · rintro ⟨htight, hunbroken⟩
    exact ⟨htight, by simpa using hunbroken⟩

instance (cs : List Char) : Decidable (Inline cs) :=
  decidable_of_iff _ inline_iff.symm

/-- Blanks that fit on a line, possibly none. -/
structure Blanks where
  /-- The characters. -/
  text : List Char
  isBlank : ∀ c ∈ text, isBlank c = true
  unbroken : ∀ c ∈ text, isBreak c = false

/-- So many spaces. -/
def Blanks.spaces (n : Nat) : Blanks where
  text := List.replicate n ' '
  isBlank := fun _ hc => List.eq_of_mem_replicate hc ▸ rfl
  unbroken := fun _ hc => List.eq_of_mem_replicate hc ▸ rfl

theorem unbroken_of_any (h : cs.any isBreak = false) : ∀ c ∈ cs, isBreak c = false := by
  simpa using h

/-- **What is trimmed from a part of a line is inline.** -/
theorem inline_trim (h : ∀ c ∈ cs, isBreak c = false) : Inline (trim cs) :=
  ⟨tight_trim, fun c hc => h c (mem_of_mem_trim hc)⟩

/-! ## Lines written out -/

/-- A line with a line feed after it is read back. -/
theorem lines_append_newline (h : ∀ c ∈ line, isBreak c = false) :
    lines (line ++ '\n' :: cs) = line :: lines cs := by
  induction line with
  | nil => exact lines_newline
  | cons c line ih =>
    rw [List.cons_append, lines_cons_of_not_isBreak (h c List.mem_cons_self),
      ih fun d hd => h d (List.mem_cons_of_mem _ hd)]
    rfl

/-- **And so are several lines in front of any text.** -/
theorem lines_flatMap_append {text : List (List Char)}
    (h : ∀ line ∈ text, ∀ c ∈ line, isBreak c = false) :
    lines ((text.flatMap fun line => line ++ ['\n']) ++ cs) = text ++ lines cs := by
  induction text with
  | nil => rfl
  | cons line text ih =>
    rw [List.flatMap_cons, List.append_assoc, List.append_assoc, List.singleton_append,
      lines_append_newline (h line List.mem_cons_self),
      ih fun l hl => h l (List.mem_cons_of_mem _ hl), List.cons_append]

/-- A line at the end of a text. -/
theorem lines_of_unbroken (hne : line ≠ []) (h : ∀ c ∈ line, isBreak c = false) :
    lines line = [line] := by
  induction line with
  | nil => exact absurd rfl hne
  | cons c line ih =>
    rw [lines_cons_of_not_isBreak (h c List.mem_cons_self)]
    cases line with
    | nil => rfl
    | cons d line => rw [ih (by simp) fun d hd => h d (List.mem_cons_of_mem _ hd), consLine]

/-- **Lines with line feeds between them are read back,** apart from an empty one at the end. -/
theorem filterMap_lines_intercalate {α : Type} {read : List Char → Option α}
    {text : List (List Char)} (hread : read [] = none)
    (h : ∀ line ∈ text, ∀ c ∈ line, isBreak c = false) :
    (lines (List.intercalate ['\n'] text)).filterMap read = text.filterMap read := by
  induction text with
  | nil => rfl
  | cons line text ih =>
    have hline := h line List.mem_cons_self
    cases text with
    | nil =>
      rw [List.intercalate_singleton]
      cases line with
      | nil => simp [lines, hread]
      | cons c line => rw [lines_of_unbroken (by simp) hline]
    | cons next text =>
      rw [List.intercalate_cons_cons, List.append_assoc, List.singleton_append,
        lines_append_newline hline, List.filterMap_cons, List.filterMap_cons,
        ih fun l hl => h l (List.mem_cons_of_mem _ hl)]

/-! ## Counting lines -/

/-- The number of breaks that hold no line feed. -/
def otherBreaks : List Char → Nat
  | [] => 0
  | '\r' :: '\n' :: rest => otherBreaks rest
  | c :: rest => (if isBreak c && c != '\n' then 1 else 0) + otherBreaks rest

/-- Whether the last line of a text has no break behind it. -/
def isOpen (cs : List Char) : Bool :=
  cs.getLast?.any (!isBreak ·)

theorem isOpen_cons (c : Char) (h : cs ≠ []) : isOpen (c :: cs) = isOpen cs := by
  rw [isOpen, isOpen, List.getLast?_cons_of_ne_nil h]

theorem isOpen_cons_of_isBreak (h : isBreak c = true) (cs : List Char) :
    isOpen (c :: cs) = isOpen cs := by
  cases cs with
  | nil => simp [isOpen, h]
  | cons d cs => exact isOpen_cons c (by simp)

theorem lineFeeds_cons (c : Char) (cs : List Char) :
    lineFeeds (c :: cs) = (if c = '\n' then 1 else 0) + lineFeeds cs := by
  rw [lineFeeds, lineFeeds, List.count_cons, Nat.add_comm]
  simp

theorem otherBreaks_cons (h : c ≠ '\r' ∨ cs.head? ≠ some '\n') :
    otherBreaks (c :: cs) = (if isBreak c && c != '\n' then 1 else 0) + otherBreaks cs := by
  rw [otherBreaks]
  rintro rest rfl rfl
  simp at h

/-- **Every break ends a line, and an open line is one more.** A carriage return and the line feed
behind it are one break. -/
theorem length_lines (cs : List Char) :
    (lines cs).length = lineFeeds cs + otherBreaks cs + if isOpen cs then 1 else 0 := by
  fun_induction lines cs with
  | case1 => rfl
  | case2 rest ih =>
    rw [List.length_cons, ih, lineFeeds_cons, lineFeeds_cons, otherBreaks,
      isOpen_cons_of_isBreak (by decide), isOpen_cons_of_isBreak (by decide)]
    simp
    omega
  | case3 c rest hpair hbreak ih =>
    have hcons : c ≠ '\r' ∨ rest.head? ≠ some '\n' := by
      refine or_iff_not_imp_left.mpr fun hc hhead => ?_
      obtain ⟨more, rfl⟩ := List.head?_eq_some_iff.mp hhead
      exact hpair more (not_not.mp hc) rfl
    rw [List.length_cons, ih, lineFeeds_cons, otherBreaks_cons hcons, isOpen_cons_of_isBreak hbreak,
      hbreak]
    by_cases hc : c = '\n'
    · simp [hc]; omega
    · simp [hc]; omega
  | case4 c rest hpair hbreak ih =>
    have hc : isBreak c = false := by simpa using hbreak
    have hfeed : c ≠ '\n' := by
      rintro rfl
      exact hbreak rfl
    rw [lineFeeds_cons, if_neg hfeed, otherBreaks_cons (.inl (ne_return_of_not_isBreak hc)), hc,
      Bool.false_and, if_neg Bool.false_ne_true, Nat.zero_add, Nat.zero_add]
    cases rest with
    | nil => simp [lines, consLine, lineFeeds, otherBreaks, isOpen, hc]
    | cons d rest =>
      rw [isOpen_cons c (by simp), ← ih]
      cases hlines : lines (d :: rest) with
      | nil => exact absurd hlines (lines_ne_nil (by simp))
      | cons first others => rfl

/-! ## Joined texts -/

/-- **A line feed between two texts.** Nothing or one empty line comes between their lines. -/
theorem lines_append_cons (cs ds : List Char) :
    ∃ gap, (gap = [] ∨ gap = [[]]) ∧ lines (cs ++ '\n' :: ds) = lines cs ++ gap ++ lines ds := by
  fun_induction lines cs with
  | case1 => exact ⟨[[]], .inr rfl, lines_newline⟩
  | case2 rest ih =>
    obtain ⟨gap, hgap, h⟩ := ih
    exact ⟨gap, hgap, by simp [lines_return_newline, h]⟩
  | case3 c rest hpair hbreak ih =>
    obtain ⟨gap, hgap, h⟩ := ih
    by_cases hreturn : c = '\r' ∧ rest = []
    · -- the line feed completes the carriage return
      obtain ⟨rfl, rfl⟩ := hreturn
      exact ⟨[], .inl rfl, by simp [lines_return_newline, lines]⟩
    · have hcons : c ≠ '\r' ∨ (rest ++ '\n' :: ds).head? ≠ some '\n' := by
        cases rest with
        | nil => exact .inl fun hc => hreturn ⟨hc, rfl⟩
        | cons d rest =>
          refine or_iff_not_imp_left.mpr fun hc hd => ?_
          rw [List.cons_append, List.head?_cons, Option.some.injEq] at hd
          exact hpair rest (not_not.mp hc) (by rw [hd])
      exact ⟨gap, hgap, by simp [lines_cons hcons, hbreak, h]⟩
  | case4 c rest hpair hbreak ih =>
    obtain ⟨gap, hgap, h⟩ := ih
    have hc : isBreak c = false := by simpa using hbreak
    cases rest with
    | nil =>
      refine ⟨[], .inl rfl, ?_⟩
      rw [List.cons_append, lines_cons_of_not_isBreak hc, List.nil_append, lines_newline]
      rfl
    | cons d rest =>
      refine ⟨gap, hgap, ?_⟩
      rw [List.cons_append, lines_cons_of_not_isBreak hc, h]
      cases hlines : lines (d :: rest) with
      | nil => exact absurd hlines (lines_ne_nil (by simp))
      | cons first others => rfl

/-- So a reading of lines that passes over empty ones reads the two texts in turn. -/
theorem filterMap_lines_append {α : Type} {read : List Char → Option α} (hread : read [] = none)
    (cs ds : List Char) :
    (lines (cs ++ '\n' :: ds)).filterMap read =
      (lines cs).filterMap read ++ (lines ds).filterMap read := by
  obtain ⟨gap, hgap, h⟩ := lines_append_cons cs ds
  rw [h, List.filterMap_append, List.filterMap_append]
  rcases hgap with rfl | rfl
  · simp
  · simp [hread]

end StepFlow.Text
