import StepFlow.Process.Outline
import StepFlow.Proofs.Text.Blank
import StepFlow.Proofs.Text.Lines
import StepFlow.Proofs.Text.Word
/-!
# Reading outlines

Which lines are headings (`readHeading?_iff`), when an outline cannot be read, and what titles its
steps have. One line more either fails, if it is a heading with too many digits, or puts the title
of a heading in front and keeps all others (`addLine_titles`). So reading fails exactly if one of
the headings does (`read_isError_iff`), and the titles are those of the headings in order
(`read_titles`).
-/

namespace StepFlow.Outline

open Text

variable {cs raw digits : List Char} {steps next top : List Step} {ls : List Line}
variable {text more : String}

/-- **The form of a heading:** digits, a full stop, blanks, a title of at least one character
without a colon, possibly a colon, blanks, and anything else. -/
def HasHeadingForm (digits line : List Char) : Prop :=
  ∃ gap title colon gap' text : List Char,
    line = digits ++ '.' :: (gap ++ title ++ colon ++ gap' ++ text) ∧
    digits ≠ [] ∧ (∀ c ∈ digits, isDigit c = true) ∧ (∀ c ∈ gap, isBlank c = true) ∧
    title ≠ [] ∧ ':' ∉ title ∧ (colon = [] ∨ colon = [':']) ∧ ∀ c ∈ gap', isBlank c = true

/-! ## Headings -/

/-- What follows the full stop of a heading starts with some other character than a colon. -/
theorem hasHeadingForm_iff :
    HasHeadingForm digits cs ↔
      digits ≠ [] ∧ (∀ c ∈ digits, isDigit c = true) ∧
        ∃ c rest, c ≠ ':' ∧ cs = digits ++ '.' :: c :: rest := by
  constructor
  · rintro ⟨gap, title, colon, gap', text, rfl, hne, hdigits, hgap, htitle, hnocolon, -, -⟩
    refine ⟨hne, hdigits, ?_⟩
    cases gap with
    | cons b gap =>
      refine ⟨b, gap ++ title ++ colon ++ gap' ++ text, ?_, rfl⟩
      rintro rfl
      exact absurd (hgap ':' List.mem_cons_self) (by decide)
    | nil =>
      cases title with
      | nil => exact absurd rfl htitle
      | cons t title =>
        refine ⟨t, title ++ colon ++ gap' ++ text, ?_, rfl⟩
        rintro rfl
        exact hnocolon List.mem_cons_self
  · rintro ⟨hne, hdigits, c, rest, hc, rfl⟩
    exact ⟨[], [c], [], [], rest, rfl, hne, hdigits, by simp, by simp, by simpa using hc.symm,
      .inl rfl, by simp⟩

/-- The digits of a line and what follows them. -/
theorem span_digits (hdigits : ∀ c ∈ digits, isDigit c = true) (cs : List Char) :
    (digits ++ '.' :: cs).takeWhile isDigit = digits ∧
      (digits ++ '.' :: cs).dropWhile isDigit = '.' :: cs :=
  takeWhile_run hdigits fun _ hc => Option.some.inj hc ▸ rfl

/-- A title is missing exactly in front of a colon. -/
theorem splitColon_fst_isEmpty {c : Char} : (splitColon (c :: cs)).1.isEmpty = (c == ':') := by
  by_cases hc : c = ':'
  · simp [splitColon, hc]
  · simp [splitColon, hc]

/-- **A line without blanks at its end is a heading exactly if it has the form of one.** -/
theorem readHeading?_iff (htight : Tight cs) :
    (∃ h, readHeading? cs = some h ∧ h.digits = digits) ↔ HasHeadingForm digits cs := by
  rw [hasHeadingForm_iff]
  constructor
  · rintro ⟨h, hread, rfl⟩
    simp only [readHeading?] at hread
    split at hread
    · rename_i rest hdrop
      have hcs : cs = cs.takeWhile isDigit ++ '.' :: rest := by
        rw [← hdrop, List.takeWhile_append_dropWhile]
      split at hread
      · cases hread
      · rename_i hdigits
        split at hread
        · cases hread
        · rename_i htitle
          split at hread
          · cases hread
          · obtain rfl := (Option.some.inj hread).symm
            refine ⟨by simpa using hdigits, fun c hc => List.mem_takeWhile_imp hc, ?_⟩
            cases rest with
            | nil => simp [trimStart] at *
            | cons c rest =>
              refine ⟨c, rest, ?_, hcs⟩
              rintro rfl
              simp [trimStart, isBlank, splitColon] at htitle
    · cases hread
  · rintro ⟨hne, hdigits, c, rest, hc, rfl⟩
    obtain ⟨htake, hdrop⟩ := span_digits hdigits (c :: rest)
    -- the text behind the stop ends like the line, so it is not all blanks
    have hbody : trimStart (c :: rest) ≠ [] := by
      intro hnil
      have hblank := List.dropWhile_eq_nil_iff.mp hnil
      have hlast : (c :: rest).getLast (by simp) ∈ (digits ++ '.' :: c :: rest).getLast? := by
        rw [List.getLast?_append, List.getLast?_cons_cons,
          List.getLast?_eq_getLast_of_ne_nil (by simp)]
        rfl
      have := htight.last _ hlast
      rw [hblank _ (List.getLast_mem _)] at this
      cases this
    have htitle : ¬ ((splitColon (trimStart (c :: rest))).1.isEmpty = true ∧
        (trimStart (c :: rest)).length = (c :: rest).length) := by
      rintro ⟨hempty, hlen⟩
      rw [trimStart_suffix.eq_of_length hlen, splitColon_fst_isEmpty] at hempty
      exact hc (by simpa using hempty)
    refine ⟨⟨digits, trim (splitColon (trimStart (c :: rest))).1,
      trim (splitColon (trimStart (c :: rest))).2⟩, ?_, rfl⟩
    simp only [readHeading?, htake, hdrop]
    rw [if_neg (by simpa using hne), if_neg htitle, if_neg (by simpa using hbody)]

/-- And it is none exactly if it has the form of none. -/
theorem readHeading?_eq_none_iff (htight : Tight cs) :
    readHeading? cs = none ↔ ∀ digits, ¬ HasHeadingForm digits cs := by
  constructor
  · intro hnone digits hform
    obtain ⟨h, hread, -⟩ := (readHeading?_iff htight).mpr hform
    cases hnone.symm.trans hread
  · intro hform
    refine Option.eq_none_iff_forall_ne_some.mpr fun h hread => ?_
    exact hform h.digits ((readHeading?_iff htight).mp ⟨h, hread, rfl⟩)

/-- A line is read as a heading exactly if it is one without the blanks around it. -/
theorem read?_eq_heading_iff {h : Heading} :
    Line.read? raw = some (.heading h) ↔ readHeading? (trim raw) = some h := by
  simp only [Line.read?]
  split
  · rename_i hempty
    simp [List.isEmpty_iff.mp hempty, readHeading?]
  · split
    · rename_i hread
      simp [hread]
    · rename_i hread
      split <;> simp [hread]

/-! ## One line more -/

/-- The title of the step that a line opens. -/
def Line.title? : Line → Option String
  | .heading h => some (String.ofList h.title)
  | _ => none

/-- The line cannot be read: it is a heading with too many digits. -/
def Line.IsOverlong (l : Line) : Prop :=
  ∃ h, l = .heading h ∧ digitLimit < h.digits.length

/-- A line fails exactly if it is a heading with too many digits. -/
theorem addLine_isError_iff {l : Line} :
    (∃ e, addLine steps l = .error e) ↔ l.IsOverlong := by
  cases l with
  | heading h =>
    simp only [addLine, Heading.open, Line.IsOverlong]
    split
    · rename_i hlen
      simp [Except.map, hlen]
    · rename_i hlen
      simpa [Except.map] using hlen
  | bullet text => cases steps <;> simp [addLine, Line.IsOverlong]
  | running text => cases steps <;> simp [addLine, Line.IsOverlong]

/-- **A line that is read puts the title of a heading in front and keeps the others.** -/
theorem addLine_titles {l : Line} (h : addLine steps l = .ok next) :
    next.map (·.title) = l.title?.toList ++ steps.map (·.title) := by
  cases l with
  | heading head =>
    simp only [addLine, Heading.open] at h
    split at h
    · rw [← Except.ok.inj h]
      rfl
    · cases h
  | bullet text =>
    cases steps with
    | nil => rw [← Except.ok.inj h]; rfl
    | cons s earlier => rw [← Except.ok.inj h]; rfl
  | running text =>
    cases steps with
    | nil => rw [← Except.ok.inj h]; rfl
    | cons s earlier => rw [← Except.ok.inj h]; rfl

/-! ## All lines -/

/-- Lines fail exactly if one of them does. -/
theorem foldlM_addLine_isError_iff :
    (∃ e, ls.foldlM addLine steps = .error e) ↔ ∃ l ∈ ls, l.IsOverlong := by
  induction ls generalizing steps with
  | nil => simp [pure, Except.pure]
  | cons l ls ih =>
    rw [List.foldlM_cons, List.exists_mem_cons_iff]
    cases hl : addLine steps l with
    | error e =>
      have := addLine_isError_iff.mp ⟨e, hl⟩
      simp [bind, Except.bind, this]
    | ok next =>
      have hfit : ¬ l.IsOverlong := fun hover => by
        have hfail : ∃ e, addLine steps l = .error e := addLine_isError_iff.mpr hover
        simp [hl] at hfail
      simpa [bind, Except.bind, hfit] using ih

/-- The titles after several lines. -/
theorem foldlM_addLine_titles (h : ls.foldlM addLine steps = .ok next) :
    next.map (·.title) = (ls.filterMap Line.title?).reverse ++ steps.map (·.title) := by
  induction ls generalizing steps with
  | nil =>
    rw [← Except.ok.inj h]
    rfl
  | cons l ls ih =>
    rw [List.foldlM_cons] at h
    cases hl : addLine steps l with
    | error e =>
      rw [hl] at h
      cases h
    | ok middle =>
      rw [hl] at h
      rw [ih h, addLine_titles hl]
      cases hl : l.title? <;> simp [hl]

/-- **Reading fails exactly if some line is a heading with too many digits.** -/
theorem read_isError_iff {text : String} :
    (∃ e, read text = .error e) ↔
      ∃ raw ∈ lines text.toList, ∃ digits, HasHeadingForm digits (trim raw) ∧
        digitLimit < digits.length := by
  have hmap : (∃ e, read text = .error e) ↔
      ∃ e, ((lines text.toList).filterMap Line.read?).foldlM addLine [] = .error e := by
    rw [read]
    cases ((lines text.toList).filterMap Line.read?).foldlM addLine [] <;> simp [Except.map]
  rw [hmap, foldlM_addLine_isError_iff]
  constructor
  · rintro ⟨l, hl, h, rfl, hlen⟩
    obtain ⟨raw, hraw, hread⟩ := List.mem_filterMap.mp hl
    exact ⟨raw, hraw, h.digits,
      (readHeading?_iff tight_trim).mp ⟨h, read?_eq_heading_iff.mp hread, rfl⟩, hlen⟩
  · rintro ⟨raw, hraw, digits, hform, hlen⟩
    obtain ⟨h, hread, rfl⟩ := (readHeading?_iff tight_trim).mpr hform
    exact ⟨.heading h, List.mem_filterMap.mpr ⟨raw, hraw, read?_eq_heading_iff.mpr hread⟩, h, rfl,
      hlen⟩

/-- **The titles are those of the headings in order.** -/
theorem read_titles {text : String} (h : read text = .ok steps) :
    steps.map (·.title) =
      ((lines text.toList).filterMap Line.read?).filterMap Line.title? := by
  rw [read] at h
  cases hfold : ((lines text.toList).filterMap Line.read?).foldlM addLine [] with
  | error e =>
    rw [hfold] at h
    cases h
  | ok last =>
    rw [hfold] at h
    rw [← Except.ok.inj h, List.map_reverse, foldlM_addLine_titles hfold]
    simp

/-- The title of a heading is trimmed from a part of its line. -/
theorem exists_title_eq_trim {h : Heading} (hread : readHeading? cs = some h) :
    ∃ part ⊆ cs, h.title = trim part := by
  simp only [readHeading?] at hread
  split at hread
  · rename_i rest hdrop
    split at hread
    · cases hread
    · split at hread
      · cases hread
      · split at hread
        · cases hread
        · refine ⟨(splitColon (trimStart rest)).1, ?_, by rw [← Option.some.inj hread]⟩
          intro c hc
          have hrest : c ∈ rest := trimStart_suffix.subset ((List.takeWhile_prefix _).subset hc)
          refine (List.dropWhile_suffix isDigit).subset ?_
          rw [hdrop]
          exact List.mem_cons_of_mem _ hrest
  · cases hread

/-- **Titles are inline.** -/
theorem inline_of_mem_read {text : String} {s : Step} (h : read text = .ok steps)
    (hs : s ∈ steps) : Inline s.title.toList := by
  have htitle : s.title ∈ steps.map (·.title) := List.mem_map_of_mem hs
  rw [read_titles h] at htitle
  obtain ⟨l, hl, htitle⟩ := List.mem_filterMap.mp htitle
  obtain ⟨raw, hraw, hread⟩ := List.mem_filterMap.mp hl
  cases l with
  | heading head =>
    rw [← Option.some.inj htitle, String.toList_ofList]
    obtain ⟨part, hpart, heq⟩ := exists_title_eq_trim (read?_eq_heading_iff.mp hread)
    exact heq ▸ inline_trim fun c hc => isBreak_of_mem_lines hraw (mem_of_mem_trim (hpart hc))
  | bullet text => cases htitle
  | running text => cases htitle

/-! ## Joined texts -/

/-- The first line that is not blank is a heading. -/
def OpensWithHeading (text : String) : Prop :=
  ∃ line digits, ((lines text.toList).map trim).find? (· ≠ []) = some line ∧
    HasHeadingForm digits line

/-- Only blank lines are nothing. -/
theorem read?_eq_none_iff : Line.read? raw = none ↔ trim raw = [] := by
  simp only [Line.read?]
  split
  · rename_i hempty
    simpa using hempty
  · rename_i hne
    split
    · simpa using hne
    · split <;> simpa using hne

/-- A text that opens with a heading is read from a heading on. -/
theorem OpensWithHeading.exists_filterMap_eq_cons (h : OpensWithHeading text) :
    ∃ head ls, (lines text.toList).filterMap Line.read? = .heading head :: ls := by
  obtain ⟨line, digits, hfind, hform⟩ := h
  generalize lines text.toList = raws at hfind
  induction raws with
  | nil => cases hfind
  | cons raw raws ih =>
    by_cases hblank : trim raw = []
    · rw [List.map_cons, List.find?_cons_of_neg (by simpa using hblank)] at hfind
      rw [List.filterMap_cons_none (read?_eq_none_iff.mpr hblank)]
      exact ih hfind
    · rw [List.map_cons, List.find?_cons_of_pos (by simpa using hblank)] at hfind
      obtain rfl := Option.some.inj hfind
      obtain ⟨head, hread, -⟩ := (readHeading?_iff tight_trim).mpr hform
      exact ⟨head, _, List.filterMap_cons_some (read?_eq_heading_iff.mpr hread)⟩

/-- **A line touches at most the step in front;** a heading touches none. -/
theorem addLine_append {l : Line} (h : top ≠ [] ∨ ∃ head, l = .heading head) (below : List Step) :
    addLine (top ++ below) l = (addLine top l).map (· ++ below) := by
  cases l with
  | heading head =>
    rw [addLine, addLine]
    cases head.open <;> rfl
  | bullet text =>
    cases top with
    | nil => simp at h
    | cons s earlier => rfl
  | running text =>
    cases top with
    | nil => simp at h
    | cons s earlier => rfl

/-- After a line there is a step in front, or there was none before. -/
theorem addLine_ne_nil {l : Line} (h : top ≠ [] ∨ ∃ head, l = .heading head)
    (hadd : addLine top l = .ok next) : next ≠ [] := by
  have htitles := addLine_titles hadd
  rintro rfl
  rcases h with hne | ⟨head, rfl⟩
  · simp at htitles
    exact hne htitles.2
  · simp [Line.title?] at htitles

/-- So lines after a heading leave the steps before it alone. -/
theorem foldlM_addLine_append (h : top ≠ [] ∨ ∃ head others, ls = .heading head :: others)
    (below : List Step) :
    ls.foldlM addLine (top ++ below) = (ls.foldlM addLine top).map (· ++ below) := by
  induction ls generalizing top with
  | nil => rfl
  | cons l ls ih =>
    have hl : top ≠ [] ∨ ∃ head, l = .heading head := by
      refine h.imp_right ?_
      rintro ⟨head, others, heq⟩
      exact ⟨head, (List.cons.inj heq).1⟩
    rw [List.foldlM_cons, List.foldlM_cons, addLine_append hl]
    cases hadd : addLine top l with
    | error e => rfl
    | ok next => exact ih (.inl (addLine_ne_nil hl hadd))

/-- **The steps of joined texts** are those of the one and then those of the other, if that opens
with a heading. -/
theorem read_joined (hmore : OpensWithHeading more) :
    read (text ++ "\n" ++ more) = (read text).bind fun steps => (read more).map (steps ++ ·) := by
  have hlist : (text ++ "\n" ++ more).toList = text.toList ++ '\n' :: more.toList := by
    simp
  rw [read, read, read, hlist, filterMap_lines_append (read?_eq_none_iff.mpr rfl),
    List.foldlM_append]
  obtain ⟨head, others, hhead⟩ := hmore.exists_filterMap_eq_cons
  cases ((lines text.toList).filterMap Line.read?).foldlM addLine [] with
  | error e => rfl
  | ok steps =>
    have hbelow : ((lines more.toList).filterMap Line.read?).foldlM addLine ([] ++ steps) = _ :=
      foldlM_addLine_append (.inr ⟨head, others, hhead⟩) steps
    rw [List.nil_append] at hbelow
    change ((((lines more.toList).filterMap Line.read?).foldlM addLine steps).map _) = _
    rw [hbelow]
    cases ((lines more.toList).filterMap Line.read?).foldlM addLine [] with
    | error e => rfl
    | ok later => simp [Except.map, Except.bind]

/-- A text that opens with a heading has a step. -/
theorem OpensWithHeading.read_ne_nil (h : OpensWithHeading text) (hread : read text = .ok steps) :
    steps ≠ [] := by
  have htitles := read_titles hread
  obtain ⟨head, others, hhead⟩ := h.exists_filterMap_eq_cons
  rintro rfl
  simp [hhead, Line.title?] at htitles

end StepFlow.Outline
