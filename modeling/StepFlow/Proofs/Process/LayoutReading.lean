import StepFlow.Proofs.Process.Layout
import StepFlow.Proofs.Text.Digit
import StepFlow.Proofs.Text.Find
import StepFlow.Proofs.Text.Word
/-!
# Written outlines are read back

Each line is read as what it is (`read?_heading`, `read?_item`). The lines of one step then only
change the step in front (`foldlM_body`), steps are added one after another (`foldlM_passages`), and
the preamble opens none (`foldlM_addLine_nil`). So an outline is read as the steps that are meant
(`read_layout`).
-/

namespace StepFlow.Outline

open Text

variable {ls : List Line} {digits tail : List Char}

namespace Written

/-! ## Reading one line -/

theorem read?_place (p : Place) (text : List Char) :
    (p.rows text).filterMap Line.read? = (Line.read? text).toList := by
  have habove : (p.above.map (·.text)).filterMap Line.read? = [] := by
    rw [List.filterMap_eq_nil_iff]
    exact List.forall_mem_map.mpr fun b _ => read?_eq_none_iff.mpr (trim_blanks b.isBlank)
  have htext : Line.read? (p.indentation.text ++ (text ++ p.trailing.text)) = Line.read? text := by
    simp only [Line.read?, trim_between p.indentation.isBlank p.trailing.isBlank]
  rw [Place.rows, List.filterMap_append, habove, List.nil_append, List.filterMap_cons, htext]
  cases Line.read? text <;> rfl

/-- Where a title ends at a colon, the title and what follows the colon are read. -/
theorem readHeading?_title (hne : digits ≠ []) (hdigits : ∀ c ∈ digits, isDigit c = true)
    (title : Phrase) (hcolon : ':' ∉ title.text) (tail : List Char) :
    readHeading? (digits ++ '.' :: ' ' :: (title.text ++ ':' :: tail)) =
      some ⟨digits, title.text, trim (trimStart tail)⟩ := by
  obtain ⟨htake, hdrop⟩ := span_digits hdigits (' ' :: (title.text ++ ':' :: tail))
  have hbody : trimStart (' ' :: (title.text ++ ':' :: tail)) = title.text ++ ':' :: tail := by
    have hspace : trimStart (' ' :: (title.text ++ ':' :: tail)) =
        trimStart (title.text ++ ':' :: tail) := rfl
    rw [hspace, trimStart_eq_self]
    rw [List.head?_append_of_ne_nil _ title.ne_nil]
    exact title.inline.tight.first
  have hfree : ∀ c ∈ title.text, (c != ':') = true := fun c hc =>
    bne_iff_ne.mpr fun heq => hcolon (heq ▸ hc)
  have hsplit : splitColon (title.text ++ ':' :: tail) = (title.text, trimStart tail) := by
    simp [splitColon, List.takeWhile_append_of_pos hfree, List.dropWhile_append_of_pos hfree]
  have hempty : ¬ (digits.isEmpty = true) := by simpa using hne
  have htitle : ¬ (title.text.isEmpty = true) := by simpa using title.ne_nil
  simp only [readHeading?, htake, hdrop, hbody, hsplit]
  rw [if_neg hempty, if_neg fun h => htitle h.1, if_neg (by simp), title.inline.tight.trim_eq]

/-- A number starts with no blank. -/
theorem tight_decimal_append (n : Nat) (hlast : ∃ c ∈ tail.getLast?, isBlank c = false) :
    Tight (decimal n ++ tail) := by
  obtain ⟨c, more, hc⟩ := List.exists_cons_of_ne_nil (decimal_ne_nil n)
  have hdigit := isAsciiDigit_of_mem_decimal (hc ▸ List.mem_cons_self)
  refine tight_append ⟨c, ?_, (isPlain_of_isAsciiDigit hdigit).isBlank⟩ hlast
  rw [hc]
  rfl

/-- **A heading is read back.** -/
theorem read?_heading (p : Passage) :
    Line.read? p.heading = some (.heading ⟨decimal p.number, p.title.text, p.head⟩) := by
  have hdigits : ∀ c ∈ decimal p.number, isDigit c = true := fun c hc =>
    isDigit_of_isAsciiDigit (isAsciiDigit_of_mem_decimal hc)
  have hread := readHeading?_title (decimal_ne_nil p.number) hdigits p.title p.noColon
  rw [read?_eq_heading_iff]
  by_cases hhead : p.head = []
  · -- the blank behind the colon ends the line
    have hgap : ∀ c ∈ [' '], isBlank c = true := List.all_eq_true.mp rfl
    have hlast : ∃ c ∈ ('.' :: ' ' :: (p.title.text ++ [':'])).getLast?, isBlank c = false := by
      refine ⟨':', ?_, rfl⟩
      rw [← List.cons_append, ← List.cons_append, List.getLast?_concat]
      rfl
    have hcut : p.heading =
        decimal p.number ++ '.' :: ' ' :: (p.title.text ++ [':']) ++ [' '] := by
      simp [Passage.heading, hhead]
    rw [hcut, trim_append_blanks hgap, (tight_decimal_append _ hlast).trim_eq, hread, hhead]
    rfl
  · have hlast : ∃ c ∈ ('.' :: ' ' :: (p.title.text ++ ':' :: ' ' :: p.head)).getLast?,
        isBlank c = false := by
      have hmem := List.getLast?_eq_getLast_of_ne_nil hhead
      exact ⟨p.head.getLast hhead, by simp [hmem, List.getLast?_cons],
        p.inline_head.tight.last _ hmem⟩
    have hspace : trimStart (' ' :: p.head) = trimStart p.head := rfl
    rw [Passage.heading, (tight_decimal_append _ hlast).trim_eq, hread, hspace,
      trimStart_eq_self p.inline_head.tight.first, p.inline_head.tight.trim_eq]

/-- What a bullet is read as, whatever stands behind it. -/
theorem findSome?_bullets {mark : List Char} (hmark : mark ∈ bullets) (text : List Char) :
    bullets.findSome? (after? · (mark ++ text)) = some text := by
  simp only [bullets, List.mem_cons, List.not_mem_nil, or_false] at hmark
  rcases hmark with rfl | rfl <;> simp [bullets, after?]

/-- A line with a bullet starts with no digit. -/
theorem not_hasHeadingForm_bullet {mark : List Char} (hmark : mark ∈ bullets) (text : List Char) :
    ¬ HasHeadingForm digits (mark ++ text) := by
  have hfirst : ∀ mark ∈ bullets, ∃ c more, mark = c :: more ∧ isDigit c = false := by
    simp only [bullets, List.forall_mem_cons]
    exact ⟨⟨'-', [' '], rfl, by decide⟩, ⟨'•', [' '], rfl, by decide⟩, by simp⟩
  obtain ⟨c, more, rfl, hc⟩ := hfirst mark hmark
  rw [hasHeadingForm_iff]
  rintro ⟨hne, hdigits, d, rest, -, heq⟩
  obtain ⟨digit, others, rfl⟩ := List.exists_cons_of_ne_nil hne
  have hdigit := hdigits digit List.mem_cons_self
  obtain rfl : c = digit := (List.cons.inj heq).1
  rw [hc] at hdigit
  cases hdigit

/-- **And so is a line below it.** -/
theorem read?_item (i : Item) : Line.read? i.text = some i.line := by
  cases i with
  | bullet mark hmark phrase =>
    have hfirst : ∀ mark ∈ bullets, ∃ c ∈ mark.head?, isBlank c = false := by
      simp only [bullets, List.forall_mem_cons]
      exact ⟨⟨'-', rfl, rfl⟩, ⟨'•', rfl, rfl⟩, by simp⟩
    have hlast := List.getLast?_eq_getLast_of_ne_nil phrase.ne_nil
    -- the mark keeps its blank, since the phrase behind it is not empty
    have htight : Tight (mark ++ phrase.text) :=
      tight_append (hfirst mark hmark) ⟨_, hlast, phrase.inline.tight.last _ hlast⟩
    have hhead := (readHeading?_eq_none_iff htight).mpr
      fun _ => not_hasHeadingForm_bullet hmark phrase.text
    have hne : ¬ ((mark ++ phrase.text).isEmpty = true) := by simp [phrase.ne_nil]
    simp only [Item.text, Line.read?, htight.trim_eq, if_neg hne, hhead,
      findSome?_bullets hmark phrase.text, phrase.inline.tight.trim_eq, Item.line]
  | running phrase hheading hbullet =>
    have htight := phrase.inline.tight
    have hnone : bullets.findSome? (after? · phrase.text) = none :=
      List.findSome?_eq_none_iff.mpr fun mark hmark => after?_eq_none_iff.mpr (hbullet mark hmark)
    have hhead := (readHeading?_eq_none_iff htight).mpr hheading
    have hne : ¬ (phrase.text.isEmpty = true) := by simpa using phrase.ne_nil
    simp only [Item.text, Line.read?, htight.trim_eq, if_neg hne, hhead, hnone, Item.line]

/-! ## Reading one step -/

/-- The last of several texts stands behind a mark. -/
theorem intercalate_concat {sep last : List Char} {xs : List (List Char)} (h : xs ≠ []) :
    List.intercalate sep (xs ++ [last]) = List.intercalate sep xs ++ (sep ++ last) := by
  induction xs with
  | nil => exact absurd rfl h
  | cons x xs ih =>
    cases xs with
    | nil => simp
    | cons y ys =>
      rw [List.cons_append, List.cons_append, List.intercalate_cons_cons,
        List.intercalate_cons_cons, ← List.cons_append, ih (by simp)]
      simp

/-- **One more text is joined** to those before it, if there are any. -/
theorem joined_concat (parts : List (List Char)) {text : List Char} (hne : text ≠ []) :
    joined (parts ++ [text]) =
      if (joined parts).isEmpty then String.ofList text
      else joined parts ++ " " ++ String.ofList text := by
  have hfilter : (parts ++ [text]).filter (· ≠ []) = parts.filter (· ≠ []) ++ [text] := by
    simp [List.filter_append, hne]
  have hkept : ∀ part ∈ parts.filter (· ≠ []), part ≠ [] := fun part hpart => by
    simpa using (List.mem_filter.mp hpart).2
  rw [joined, hfilter, joined]
  -- only the parts that are kept matter, and none of them is empty
  generalize parts.filter (· ≠ []) = kept at hkept ⊢
  cases kept with
  | nil =>
    rw [List.nil_append, List.intercalate_singleton]
    rfl
  | cons part kept =>
    have hpart : part ≠ [] := hkept part List.mem_cons_self
    have hsome : List.intercalate [' '] (part :: kept) ≠ [] := by
      cases kept with
      | nil => simpa using hpart
      | cons next kept => simp [List.intercalate_cons_cons]
    have hempty : ¬ ((String.ofList (List.intercalate [' '] (part :: kept))).isEmpty = true) := by
      simpa [String.isEmpty_iff] using hsome
    rw [if_neg hempty, intercalate_concat (by simp), String.ofList_append, String.ofList_append,
      ← String.append_assoc]

/-- The step with the given texts in its description and the given sub-steps. -/
def stepOf (number : Nat) (title : List Char) (parts subs : List (List Char)) : Step where
  number := number
  title := String.ofList title
  description := joined parts
  subSteps := subs.map String.ofList

/-- **A line below a heading** goes to the description or to the sub-steps of the step in front. -/
theorem addLine_item (i : Item) (number : Nat) (title : List Char) (parts subs : List (List Char))
    (earlier : List Step) :
    addLine (stepOf number title parts subs :: earlier) i.line =
      .ok (stepOf number title (parts ++ i.running?.toList) (subs ++ i.bullet?.toList) ::
        earlier) := by
  cases i with
  | bullet mark hmark phrase =>
    simp [addLine, Item.line, Item.running?, Item.bullet?, Step.addBullet, stepOf]
  | running phrase hheading hbullet =>
    simp [addLine, Item.line, Item.running?, Item.bullet?, Step.addRunning, stepOf,
      joined_concat parts phrase.ne_nil]

/-- **The lines below a heading** change only the step in front. -/
theorem foldlM_body (body : List (Place × Item)) (number : Nat) (title : List Char)
    (parts subs : List (List Char)) (earlier : List Step) :
    (body.map (·.2.line)).foldlM addLine (stepOf number title parts subs :: earlier) =
      .ok (stepOf number title (parts ++ body.filterMap (·.2.running?))
        (subs ++ body.filterMap (·.2.bullet?)) :: earlier) := by
  -- each line extends what has been gathered, so the induction is for all gathered texts
  induction body generalizing parts subs with
  | nil => simp [pure, Except.pure]
  | cons x body ih =>
    have hrunning : x.2.running?.toList ++ body.filterMap (·.2.running?) =
        (x :: body).filterMap (·.2.running?) := by
      cases h : x.2.running? <;> simp [h]
    have hbullet : x.2.bullet?.toList ++ body.filterMap (·.2.bullet?) =
        (x :: body).filterMap (·.2.bullet?) := by
      cases h : x.2.bullet? <;> simp [h]
    rw [List.map_cons, List.foldlM_cons, addLine_item]
    exact (ih _ _).trans (by rw [List.append_assoc, List.append_assoc, hrunning, hbullet])

/-- What the lines of a step are. -/
def Passage.lines (p : Passage) : List Line :=
  .heading ⟨decimal p.number, p.title.text, p.head⟩ :: p.body.map (·.2.line)

theorem filterMap_rows (p : Passage) : p.rows.filterMap Line.read? = p.lines := by
  have hbody : (p.body.flatMap fun x => x.1.rows x.2.text).filterMap Line.read? =
      p.body.map (·.2.line) := by
    rw [List.filterMap_flatMap]
    induction p.body with
    | nil => rfl
    | cons x body ih =>
      rw [List.flatMap_cons, ih, read?_place, read?_item, Option.toList_some, List.map_cons,
        List.singleton_append]
  rw [Passage.rows, List.filterMap_append, read?_place, read?_heading, hbody, Option.toList_some,
    Passage.lines, List.singleton_append]

/-- **The lines of a step add the step.** -/
theorem foldlM_lines (p : Passage) (earlier : List Step) :
    p.lines.foldlM addLine earlier = .ok (p.step :: earlier) := by
  have hopen : addLine earlier (.heading ⟨decimal p.number, p.title.text, p.head⟩) =
      .ok (stepOf p.number p.title.text [p.head] [] :: earlier) := by
    -- the text behind the heading is the first part, and none if it is empty
    have hhead : joined [p.head] = String.ofList p.head := by
      by_cases h : p.head = [] <;> simp [joined, h]
    simp [addLine, Heading.open, p.short, Except.map, readDecimal_decimal, stepOf, hhead]
  rw [Passage.lines, List.foldlM_cons, hopen]
  exact foldlM_body p.body p.number p.title.text [p.head] [] earlier

/-! ## Reading an outline -/

/-- **Steps one after another** are added in order. -/
theorem foldlM_passages (ps : List Passage) (earlier : List Step) :
    (ps.flatMap Passage.lines).foldlM addLine earlier =
      .ok ((ps.map Passage.step).reverse ++ earlier) := by
  induction ps generalizing earlier with
  | nil => rfl
  | cons p ps ih =>
    rw [List.flatMap_cons, List.foldlM_append, foldlM_lines]
    exact (ih _).trans (by simp)

/-- Without a heading no step is opened. -/
theorem foldlM_addLine_nil (h : ∀ l ∈ ls, ∀ head, l ≠ .heading head) :
    ls.foldlM addLine [] = .ok [] := by
  induction ls with
  | nil => rfl
  | cons l ls ih =>
    have hl : addLine [] l = .ok [] := by
      cases l with
      | heading head => exact absurd rfl (h _ List.mem_cons_self head)
      | bullet text => rfl
      | running text => rfl
    rw [List.foldlM_cons, hl]
    exact ih fun l hl => h l (List.mem_cons_of_mem _ hl)

theorem Layout.not_heading_of_mem_preamble (o : Layout) {l : Line}
    (hl : l ∈ o.preamble.filterMap Line.read?) (head : Heading) : l ≠ .heading head := by
  rintro rfl
  obtain ⟨row, hrow, hread⟩ := List.mem_filterMap.mp hl
  have hform := (readHeading?_iff tight_trim).mp ⟨head, read?_eq_heading_iff.mp hread, rfl⟩
  exact o.preamble_noHeading row hrow head.digits hform

/-! ## Rows hold no breaks -/

theorem Place.unbroken_rows (p : Place) {text : List Char} (h : ∀ c ∈ text, isBreak c = false) :
    ∀ row ∈ p.rows text, ∀ c ∈ row, isBreak c = false := by
  intro row hrow
  rcases List.mem_append.mp hrow with hrow | hrow
  · obtain ⟨b, -, rfl⟩ := List.mem_map.mp hrow
    exact b.unbroken
  · rw [List.mem_singleton.mp hrow]
    simp only [List.forall_mem_append]
    exact ⟨p.indentation.unbroken, h, p.trailing.unbroken⟩

theorem Item.unbroken_text (i : Item) : ∀ c ∈ i.text, isBreak c = false := by
  cases i with
  | bullet mark hmark phrase =>
    have hmarks : ∀ mark ∈ bullets, mark.all (isBreak · = false) = true := by decide
    have hmark : ∀ c ∈ mark, isBreak c = false := by simpa using hmarks mark hmark
    exact List.forall_mem_append.mpr ⟨hmark, phrase.inline.unbroken⟩
  | running phrase hheading hbullet => exact phrase.inline.unbroken

theorem Passage.unbroken_heading (p : Passage) : ∀ c ∈ p.heading, isBreak c = false := by
  have hdigits : ∀ c ∈ decimal p.number, isBreak c = false := fun c hc =>
    (isPlain_of_isAsciiDigit (isAsciiDigit_of_mem_decimal hc)).isBreak
  simp only [heading, List.forall_mem_append, List.forall_mem_cons]
  exact ⟨hdigits, rfl, rfl, p.title.inline.unbroken, rfl, rfl, p.inline_head.unbroken⟩

theorem Layout.unbroken_rows (o : Layout) : ∀ row ∈ o.rows, ∀ c ∈ row, isBreak c = false := by
  intro row hrow
  rcases List.mem_append.mp hrow with hrow | hrow
  · exact o.unbroken_preamble row hrow
  · rcases List.mem_append.mp hrow with hrow | hrow
    · obtain ⟨p, -, hrow⟩ := List.mem_flatMap.mp hrow
      rcases List.mem_append.mp hrow with hrow | hrow
      · exact p.place.unbroken_rows p.unbroken_heading row hrow
      · obtain ⟨x, -, hrow⟩ := List.mem_flatMap.mp hrow
        exact x.1.unbroken_rows x.2.unbroken_text row hrow
    · obtain ⟨b, -, rfl⟩ := List.mem_map.mp hrow
      exact b.unbroken

end Written

open Written

/-- **A written outline is read as the steps that are meant,** in order, whatever stands above the
first heading and wherever there are blanks. -/
theorem read_layout (o : Layout) : read o.print = .ok (o.passages.map Passage.step) := by
  have hpassages : (o.passages.flatMap Passage.rows).filterMap Line.read? =
      o.passages.flatMap Passage.lines := by
    rw [List.filterMap_flatMap]
    exact List.flatMap_congr fun p _ => filterMap_rows p
  have hbelow : (o.below.map (·.text)).filterMap Line.read? = [] := by
    rw [List.filterMap_eq_nil_iff]
    exact List.forall_mem_map.mpr fun b _ => read?_eq_none_iff.mpr (trim_blanks b.isBlank)
  have hpreamble : (o.preamble.filterMap Line.read?).foldlM addLine [] = .ok [] :=
    foldlM_addLine_nil fun l hl => o.not_heading_of_mem_preamble hl
  rw [read, Layout.print, String.toList_ofList,
    filterMap_lines_intercalate (read?_eq_none_iff.mpr rfl) o.unbroken_rows, Layout.rows,
    List.filterMap_append, List.filterMap_append, hpassages, hbelow, List.append_nil,
    List.foldlM_append, hpreamble]
  change ((o.passages.flatMap Passage.lines).foldlM addLine []).map List.reverse = _
  rw [foldlM_passages]
  simp [Except.map]

/-! ## Two steps -/

namespace Written

/-- A text as a phrase. -/
def Phrase.ofString (s : String) (h : s.toList ≠ [] ∧ Inline s.toList) : Phrase :=
  ⟨s.toList, h.1, h.2⟩

/-- A text that runs on below a heading. -/
def Item.runningOn (s : String) (h : s.toList ≠ [] ∧ Inline s.toList)
    (hline : readHeading? s.toList = none ∧ ∀ mark ∈ bullets, ¬ mark <+: s.toList) : Item :=
  .running (.ofString s h) ((readHeading?_eq_none_iff h.2.tight).mp hline.1) hline.2

/-- A step with a bullet and a running line below its heading. -/
def syncing : Passage where
  number := 1
  short := by decide +kernel
  title := .ofString "Sync" (by decide +kernel)
  noColon := by decide +kernel
  head := "Pull: all.".toList
  inline_head := by decide +kernel
  place := ⟨[], .spaces 0, .spaces 0⟩
  body := [
    (⟨[], .spaces 3, .spaces 0⟩,
      .bullet ['-', ' '] (by decide) (.ofString "First" (by decide +kernel))),
    (⟨[.spaces 0, .spaces 2], .spaces 3, .spaces 1⟩,
      .runningOn "Stops at 2." (by decide +kernel) (by decide +kernel))]

/-- An indented step with nothing behind its title. -/
def reporting : Passage where
  number := 12
  short := by decide +kernel
  title := .ofString "Send the report" (by decide +kernel)
  noColon := by decide +kernel
  head := []
  inline_head := by decide +kernel
  place := ⟨[], .spaces 2, .spaces 0⟩
  body := [
    (⟨[], .spaces 0, .spaces 0⟩,
      .bullet ['•', ' '] (by decide) (.ofString "3. Mail" (by decide +kernel)))]

/-- Both steps below a line of preamble and a blank one. -/
def routine : Layout where
  preamble := ["Overview".toList, []]
  unbroken_preamble := List.forall_mem_cons.mpr
    ⟨unbroken_of_any rfl, List.forall_mem_singleton.mpr (unbroken_of_any rfl)⟩
  preamble_noHeading := fun row hrow => (readHeading?_eq_none_iff tight_trim).mp
    ((by decide +kernel : ∀ row ∈ ["Overview".toList, []], readHeading? (trim row) = none) row hrow)
  passages := [syncing, reporting]
  below := [.spaces 1]

end Written

/-- Neither the preamble nor blank lines nor the second number leave a trace. -/
example :
    routine.print = "Overview\n\n1. Sync: Pull: all.\n   - First\n\n  \n   Stops at 2. \n" ++
      "  12. Send the report: \n• 3. Mail\n " ∧
    routine.passages.map Passage.step =
      [⟨1, "Sync", "Pull: all. Stops at 2.", ["First"]⟩,
        ⟨12, "Send the report", "", ["3. Mail"]⟩] := by
  decide +kernel

end StepFlow.Outline
