import StepFlow.Proofs.Diagram.Arrow
/-!
# Written diagrams are read back

Each sentence is read as what it says (`read?_text`), whatever its line is indented by and ends
with, and so is a text of many lines (`read_print`).
-/

namespace StepFlow.Diagram.Written

open Text

variable {rest raw : List Char}

/-! ## Lines that start with an id -/

/-- An id in front of something else opens no section. -/
theorem readOpening?_word (w : Word) (hrest : ∀ c ∈ rest.head?, isWord c = false)
    (htrim : ∀ c ∈ (trimStart rest).head?, isWord c = false) :
    readOpening? (w.text ++ rest) = none := by
  have hletters : ∀ c ∈ "subgraph".toList, isWord c = true := List.all_iff_forall_prop.mp rfl
  -- behind the first word of the line there is no word
  have hspan : spanWord ([] ++ trimStart rest) = ([], trimStart rest) :=
    spanWord_append (by simp) htrim
  rw [List.nil_append] at hspan
  rw [readOpening?, Option.bind_eq_bind, Option.bind_eq_none_iff]
  intro after hafter
  rw [Option.bind_eq_bind, Option.bind_eq_none_iff]
  intro first hfirst
  rcases List.append_eq_append_iff.mp (after?_eq_some_iff.mp hafter) with
    ⟨more, hword, rfl⟩ | ⟨more, hword, rfl⟩
  · cases more with
    | nil =>
      rw [List.nil_append] at hspan
      simp [hspan]
    | cons m more =>
      -- the word is only the start of the opening one, which goes on behind it
      have hm := hletters m (hword ▸ List.mem_append_right _ List.mem_cons_self)
      rw [hrest m rfl] at hm
      cases hm
  · cases more with
    | nil => simp [hspan]
    | cons m more =>
      -- the opening word is only the start of the word
      obtain rfl : m = first := by simpa using hfirst
      have hm := w.isWord m (hword ▸ List.mem_append_right _ List.mem_cons_self)
      simp [isBlank_of_isWord hm]

/-- A line that starts with an id in front of something else says an arrow or a node. -/
theorem read?_word (w : Word) (hraw : bareLine raw = w.text ++ rest) (hne : rest ≠ [])
    (hrest : ∀ c ∈ rest.head?, isWord c = false)
    (htrim : ∀ c ∈ (trimStart rest).head?, isWord c = false) :
    Statement.read? raw = (readEdge? (w.text ++ rest)).or (readNode? (w.text ++ rest)) := by
  have hend : ∀ c ∈ "end".toList, isWord c = true := List.all_iff_forall_prop.mp rfl
  rw [← hraw]
  refine read?_eq_or_of_readOpening? ?_ ?_ ?_
  · rw [hraw]
    intro hpre
    cases htext : w.text with
    | nil => exact w.ne_nil htext
    | cons c text =>
      rw [htext, List.cons_append, List.cons_prefix_cons] at hpre
      exact absurd (w.isWord c (htext ▸ List.mem_cons_self)) (hpre.1 ▸ by decide)
  · rw [hraw, readOpening?_word w hrest htrim]
  · rw [hraw]
    intro heq
    cases rest with
    | nil => exact hne rfl
    | cons c rest =>
      have hc := hend c (heq ▸ by simp)
      rw [hrest c rfl] at hc
      cases hc

/-! ## What sentences start and end with -/

/-- The last character is neither a blank nor a semicolon. -/
def EndsBare (cs : List Char) : Prop :=
  ∃ c ∈ cs.getLast?, Text.isBlank c = false ∧ c ≠ ';'

theorem EndsBare.append {back : List Char} (h : EndsBare back) (front : List Char) :
    EndsBare (front ++ back) := by
  obtain ⟨c, hc, hbare⟩ := h
  exact ⟨c, by rw [List.getLast?_append, hc, Option.some_or]; rfl, hbare⟩

theorem Word.endsBare (w : Word) : EndsBare w.text := by
  have hsemicolon : Text.isWord ';' = false := by decide
  refine ⟨w.text.getLast w.ne_nil, List.getLast?_eq_getLast_of_ne_nil w.ne_nil, ?_⟩
  have hlast := w.isWord _ (List.getLast_mem w.ne_nil)
  refine ⟨isBlank_of_isWord hlast, fun h => ?_⟩
  rw [h, hsemicolon] at hlast
  cases hlast

theorem Framed.endsBare (f : Framed) : EndsBare f.text := by
  have hclosing : EndsBare f.frame.closing := by
    cases f.frame <;> exact ⟨_, rfl, by decide⟩
  exact (hclosing.append _).append _

theorem End.endsBare (e : End) : EndsBare e.text := by
  obtain ⟨id, framed?⟩ := e
  cases framed? with
  | none =>
    have := id.endsBare
    rwa [← List.append_nil id.text] at this
  | some f => exact f.endsBare.append _

/-- A line is bare without its indentation and its semicolons. -/
theorem bareLine_of_endsBare {gap line : List Char} (hgap : ∀ c ∈ gap, Text.isBlank c = true)
    (hstart : ∃ c ∈ line.head?, Text.isBlank c = false) (hend : EndsBare line) (count : Nat) :
    bareLine (gap ++ (line ++ List.replicate count ';')) = line := by
  obtain ⟨d, hd, hlast, hsemicolon⟩ := hend
  refine bareLine_append_replicate hgap (tight_of_ends hstart ⟨d, hd, hlast⟩) (fun x hx => ?_) count
  rwa [Option.some.inj (hx.symm.trans hd)]

theorem Line.bareLine_text (l : Line) (hstart : ∃ c ∈ l.sentence.text.head?, Text.isBlank c = false)
    (hend : EndsBare l.sentence.text) : bareLine l.text = l.sentence.text :=
  bareLine_of_endsBare l.isBlank hstart hend l.semicolons

theorem Word.head?_append (w : Word) (rest : List Char) :
    ∃ c ∈ (w.text ++ rest).head?, Text.isBlank c = false := by
  cases htext : w.text with
  | nil => exact absurd htext w.ne_nil
  | cons c text => exact ⟨c, rfl, isBlank_of_isWord (w.isWord c (htext ▸ List.mem_cons_self))⟩

/-! ## Sentences -/

theorem read?_node (l : Line) (id : Word) (f : Framed) (h : l.sentence = .node id f) :
    Statement.read? l.text = some (.node id.text f.body) := by
  have hbare : bareLine l.text = id.text ++ f.text := by
    rw [l.bareLine_text] <;> rw [h]
    · rfl
    · exact id.head?_append f.text
    · exact f.endsBare.append _
  have hhead := f.head?_text []
  rw [List.append_nil] at hhead
  have htrim : trimStart f.text = f.text := trimStart_eq_self fun c hc => (hhead c hc).2.1
  have hne : f.text ≠ [] := by
    obtain ⟨c, hc, -⟩ := f.endsBare
    rintro hnil
    simp [hnil] at hc
  have hword : ∀ c ∈ f.text.head?, Text.isWord c = false := fun c hc => (hhead c hc).1
  rw [read?_word id hbare hne hword (by rwa [htrim]), readEdge?_node, readNode?_text,
    Option.none_or]

/-- What stands behind the id of a source is no part of it. -/
theorem exists_text_append (source : End) (behindSource : Nat) (arrow : Arrow) (rest : List Char) :
    ∃ behindId, source.text ++ (gap behindSource ++ (arrow.text ++ rest)) =
        source.id.text ++ behindId ∧ behindId ≠ [] ∧
      (∀ c ∈ behindId.head?, Text.isWord c = false) ∧
      ∀ c ∈ (trimStart behindId).head?, Text.isWord c = false := by
  obtain ⟨id, framed?⟩ := source
  cases framed? with
  | none =>
    refine ⟨gap behindSource ++ (arrow.text ++ rest), by simp [End.text], ?_, ?_, ?_⟩
    · cases arrow <;> simp [Arrow.text]
    · exact fun c hc => Option.some.inj hc ▸ by decide
    · rw [trimStart_gap]
      cases arrow <;> exact fun c hc => Option.some.inj hc ▸ by decide
  | some f =>
    have hhead := f.head?_text (gap behindSource ++ (arrow.text ++ rest))
    refine ⟨_, by simp only [End.text, Option.map_some, Option.getD_some, List.append_assoc], ?_,
      fun c hc => (hhead c hc).1, ?_⟩
    · cases arrow <;> simp [Arrow.text]
    · rw [trimStart_eq_self fun c hc => (hhead c hc).2.1]
      exact fun c hc => (hhead c hc).1

theorem read?_edge (l : Line) (source : End) (behindSource : Nat) (arrow : Arrow)
    (label? : Option ArrowLabel) (beforeTarget : Nat) (target : End)
    (h : l.sentence = .edge source behindSource arrow label? beforeTarget target) :
    Statement.read? l.text =
      some (.edge source.endpoint (label?.map (·.caption.text)) target.endpoint) := by
  obtain ⟨behindId, htext, hne, hword, htrim⟩ :=
    exists_text_append source behindSource arrow (behindArrow label? beforeTarget target)
  have hbare : bareLine l.text = source.id.text ++ behindId := by
    rw [l.bareLine_text] <;> rw [h, Sentence.text]
    · exact htext
    · rw [htext]
      exact source.id.head?_append _
    · exact ((target.endsBare.append _).append _ |>.append _ |>.append _).append _
  rw [read?_word source.id hbare hne hword htrim, ← htext, ← Sentence.text, readEdge?_text,
    Option.some_or]

/-- The label of a section is read back. -/
theorem readSectionLabel?_text (l : Caption ['"', ']']) :
    readSectionLabel? (sectionLabel l) = some l.text := by
  have hfree : ∀ c ∈ l.text, (!(c == '"' || c == ']')) = true := fun c hc => by
    simpa using l.free c hc
  have htrim : trimStart (sectionLabel l) = '[' :: '"' :: (l.text ++ ['"', ']']) := rfl
  have hinner : skipQuote (trimStart ('"' :: (l.text ++ ['"', ']']))) = l.text ++ ['"', ']'] := rfl
  rw [readSectionLabel?, htrim]
  simp only [hinner, List.takeWhile_append_of_pos hfree, List.dropWhile_append_of_pos hfree]
  rw [if_pos (by decide)]
  simp

/-- **The opening of a section is read back.** -/
theorem readOpening?_text (id : Word) (label? : Option (Caption ['"', ']'])) :
    readOpening? (Sentence.opening id label?).text =
      some (.opening id.text (label?.map (·.text))) := by
  have hafter : after? "subgraph".toList (Sentence.opening id label?).text =
      some (' ' :: (id.text ++ (label?.map sectionLabel).getD [])) := after?_append
  have hspan : spanWord (trimStart (' ' :: (id.text ++ (label?.map sectionLabel).getD []))) =
      (id.text, (label?.map sectionLabel).getD []) := by
    obtain ⟨c, hc, hblank⟩ := id.head?_append ((label?.map sectionLabel).getD [])
    have hspace : trimStart (' ' :: (id.text ++ (label?.map sectionLabel).getD [])) =
        trimStart (id.text ++ (label?.map sectionLabel).getD []) := rfl
    rw [hspace, trimStart_eq_self fun d hd => Option.some.inj (hc.symm.trans hd) ▸ hblank]
    refine spanWord_append id.isWord fun c hc => ?_
    cases label? with
    | none => cases hc
    | some label => exact Option.some.inj hc ▸ by decide
  have hlabel : readSectionLabel? ((label?.map sectionLabel).getD []) = label?.map (·.text) := by
    cases label? with
    | none => rfl
    | some label => exact readSectionLabel?_text label
  have hblank : Text.isBlank ' ' = true := rfl
  rw [readOpening?, hafter]
  simp [hblank, hspan, hlabel, id.ne_nil]

theorem read?_opening (l : Line) (id : Word) (label? : Option (Caption ['"', ']']))
    (h : l.sentence = .opening id label?) :
    Statement.read? l.text = some (.opening id.text (label?.map (·.text))) := by
  have hend : EndsBare (id.text ++ (label?.map sectionLabel).getD []) := by
    cases label? with
    | none =>
      rw [Option.map_none, Option.getD_none, List.append_nil]
      exact id.endsBare
    | some label =>
      have hclosing : EndsBare ['"', ']'] := ⟨']', rfl, by decide⟩
      exact ((hclosing.append label.text).append [' ', '[', '"']).append id.text
  have hbare : bareLine l.text = (Sentence.opening id label?).text := by
    rw [l.bareLine_text] <;> rw [h]
    · exact ⟨'s', rfl, by decide⟩
    · exact (hend.append [' ']).append openingWord
  have hcomment : ¬ startsWith ['%', '%'] (Sentence.opening id label?).text = true := by
    intro hstart
    have hpre := List.isPrefixOf_iff_prefix.mp hstart
    exact absurd (List.cons_prefix_cons.mp hpre).1 (by decide)
  simp only [Statement.read?, hbare, if_neg hcomment, readOpening?_text, Option.some_or]

theorem read?_comment (l : Line) (text : Caption []) (h : l.sentence = .comment text) :
    Statement.read? l.text = none := by
  have hlast : ∀ c ∈ ['%', '%'].getLast?, Text.isBlank c = false ∧ (c == ';') = false :=
    fun c hc => Option.some.inj hc ▸ by decide
  have hstart : ∃ more, trimStart l.text = '%' :: '%' :: more := by
    rw [Line.text, h, trimStart_append l.isBlank]
    exact ⟨text.text ++ List.replicate l.semicolons ';', rfl⟩
  obtain ⟨more, hmore⟩ := hstart
  have htrim : ['%', '%'] <+: trim l.text := by
    rw [trim, hmore]
    exact isPrefix_dropEndWhile ⟨more, rfl⟩ fun c hc => (hlast c hc).1
  have hsemicolons : ['%', '%'] <+: dropEndWhile (· == ';') (trim l.text) :=
    isPrefix_dropEndWhile htrim fun c hc => (hlast c hc).2
  have hbare : ['%', '%'] <+: bareLine l.text := by
    obtain ⟨rest, hrest⟩ := hsemicolons
    rw [bareLine, ← hrest]
    exact isPrefix_dropEndWhile ⟨rest, rfl⟩ fun c hc => (hlast c hc).1
  rw [Statement.read?]
  exact if_pos (List.isPrefixOf_iff_prefix.mpr hbare)

/-- **A line is read as what it says.** -/
theorem read?_text (l : Line) : Statement.read? l.text = l.sentence.meaning? := by
  cases h : l.sentence with
  | node id f => exact read?_node l id f h
  | edge source behindSource arrow label? beforeTarget target =>
    exact read?_edge l source behindSource arrow label? beforeTarget target h
  | opening id label? => exact read?_opening l id label? h
  | closing =>
    have hbare : bareLine l.text = "end".toList := by
      rw [l.bareLine_text] <;> rw [h]
      · rfl
      · exact ⟨'e', rfl, by decide⟩
      · exact ⟨'d', rfl, by decide⟩
    simp only [Statement.read?, hbare]
    decide
  | comment text => exact read?_comment l text h
  | blank =>
    have hbare : bareLine l.text = [] := by
      rw [Line.text, h, Sentence.text]
      exact bareLine_append_replicate l.isBlank ⟨by simp, by simp⟩ (by simp) _
    simp only [Statement.read?, hbare]
    decide

/-! ## Texts -/

theorem Framed.unbroken_text (f : Framed) : ∀ c ∈ f.text, isBreak c = false := by
  have hopening : ∀ c ∈ f.frame.opening, isBreak c = false := by
    cases f.frame <;> exact List.all_iff_forall_prop.mp rfl
  have hclosing : ∀ c ∈ f.frame.closing, isBreak c = false := by
    cases f.frame <;> exact List.all_iff_forall_prop.mp rfl
  simp only [text, List.forall_mem_append]
  exact ⟨hopening, f.label.unbroken, hclosing⟩

theorem Word.unbroken_text (w : Word) : ∀ c ∈ w.text, isBreak c = false :=
  fun c hc => isBreak_of_isWord (w.isWord c hc)

theorem End.unbroken_text (e : End) : ∀ c ∈ e.text, isBreak c = false := by
  obtain ⟨id, framed?⟩ := e
  rw [text, List.forall_mem_append]
  refine ⟨id.unbroken_text, ?_⟩
  cases framed? with
  | none => simp
  | some f => exact f.unbroken_text

theorem Arrow.unbroken_text (a : Arrow) : ∀ c ∈ a.text, isBreak c = false := by
  cases a <;> exact List.all_iff_forall_prop.mp rfl

/-- A label between bars. -/
theorem Caption.unbroken_barred {barred : List Char} (l : Caption barred) :
    ∀ c ∈ '|' :: (l.text ++ ['|']), isBreak c = false := by
  have hbar : isBreak '|' = false := rfl
  simp only [List.forall_mem_cons, List.forall_mem_append]
  exact ⟨hbar, l.unbroken, hbar, by simp⟩

theorem unbroken_gap (more : Nat) : ∀ c ∈ gap more, isBreak c = false := fun c hc => by
  rw [List.eq_of_mem_replicate hc]
  rfl

theorem unbroken_behindArrow (label? : Option ArrowLabel) (beforeTarget : Nat) (target : End) :
    ∀ c ∈ behindArrow label? beforeTarget target, isBreak c = false := by
  simp only [behindArrow, List.forall_mem_append]
  refine ⟨?_, unbroken_gap _, target.unbroken_text⟩
  cases label? with
  | none => simp
  | some l =>
    rw [Option.map_some, Option.getD_some, ArrowLabel.text, List.forall_mem_append]
    exact ⟨unbroken_gap _, l.caption.unbroken_barred⟩

theorem Sentence.unbroken_text (s : Sentence) : ∀ c ∈ s.text, isBreak c = false := by
  cases s with
  | node id f =>
    rw [text, List.forall_mem_append]
    exact ⟨id.unbroken_text, f.unbroken_text⟩
  | edge source behindSource arrow label? beforeTarget target =>
    simp only [text, List.forall_mem_append]
    exact ⟨source.unbroken_text, unbroken_gap _, arrow.unbroken_text, unbroken_behindArrow _ _ _⟩
  | opening id label? =>
    have hletters : ∀ c ∈ openingWord, isBreak c = false := List.all_iff_forall_prop.mp rfl
    rw [text, List.forall_mem_append, List.forall_mem_cons, List.forall_mem_append]
    refine ⟨hletters, rfl, id.unbroken_text, ?_⟩
    cases label? with
    | none => simp
    | some label =>
      simp only [Option.map_some, Option.getD_some, sectionLabel, List.forall_mem_cons,
        List.forall_mem_append]
      exact ⟨rfl, rfl, rfl, label.unbroken, rfl, rfl, by simp⟩
  | closing => exact List.all_iff_forall_prop.mp rfl
  | comment text =>
    rw [Sentence.text, List.forall_mem_cons, List.forall_mem_cons]
    exact ⟨rfl, rfl, text.unbroken⟩
  | blank => simp [text]

theorem Line.unbroken_text (l : Line) : ∀ c ∈ l.text, isBreak c = false := by
  simp only [text, List.forall_mem_append]
  refine ⟨l.unbroken, l.sentence.unbroken_text, fun c hc => ?_⟩
  rw [List.eq_of_mem_replicate hc]
  rfl

theorem statements_print (ls : List Line) : statements (print ls) = meanings ls := by
  have hunbroken : ∀ line ∈ ls.map Line.text, ∀ c ∈ line, isBreak c = false :=
    List.forall_mem_map.mpr fun l _ => l.unbroken_text
  rw [statements, print, String.toList_ofList, filterMap_lines_intercalate read?_nil hunbroken,
    List.filterMap_map, meanings]
  exact List.filterMap_congr fun l _ => read?_text l

/-- **A written diagram is read as what it says.** -/
theorem read_print (ls : List Line) :
    read (print ls) =
      { nodes := firstNodes (allDefined none (meanings ls))
        edges := (meanings ls).filterMap Statement.edge?
        sections := Entries.ofList ((meanings ls).filterMap Statement.section?) } := by
  have hedges := read_edges (print ls)
  have hnodes := read_nodes (print ls)
  have hsections := read_sections (print ls)
  rw [← statements] at hedges
  rw [statements_print] at hedges hnodes hsections
  rw [← hedges, ← hnodes, ← hsections]

/-! ## A section with two arrows -/

/-- A text as an id. -/
def Word.ofString (s : String) (h : s.toList ≠ [] ∧ s.toList.all Text.isWord = true) : Word :=
  ⟨s.toList, h.1, List.all_eq_true.mp h.2⟩

/-- A text as a label. -/
def Caption.ofString {barred : List Char} (s : String) (hunbroken : s.toList.any isBreak = false)
    (hfree : s.toList.any (barred.contains ·) = false) : Caption barred :=
  ⟨s.toList, unbroken_of_any hunbroken, by simpa using hfree⟩

/-- A sentence behind so many spaces. -/
def Line.indented (n : Nat) (sentence : Sentence) (semicolons : Nat) : Line where
  indentation := (Blanks.spaces n).text
  isBlank := (Blanks.spaces n).isBlank
  unbroken := (Blanks.spaces n).unbroken
  sentence := sentence
  semicolons := semicolons

/-- An order is placed. -/
def placing : End where
  id := .ofString "A" (by decide +kernel)
  framed? := some ⟨.circle, .ofString "Order > 5" rfl rfl⟩

/-- It is checked. -/
def checking : End where
  id := .ofString "check" (by decide +kernel)
  framed? := some ⟨.rhombus, .ofString "Paid?" rfl rfl⟩

/-- It is shipped. -/
def shipping : End where
  id := .ofString "B2" (by decide +kernel)
  framed? := none

/-- Two arrows in a section, the second with a label, and a node behind the section. -/
def orders : List Line := [
  .indented 0 (.comment (.ofString " orders" rfl rfl)) 0,
  .indented 0 (.opening (.ofString "web" (by decide +kernel))
    (some (.ofString "Front [end" rfl rfl))) 0,
  .indented 2 (.edge placing 0 .thin none 1 checking) 1,
  .indented 2 (.edge checking 1 .dotted (some ⟨0, .ofString "yes = ok" rfl rfl⟩) 0 shipping) 2,
  .indented 0 .closing 0,
  .indented 1 .blank 0,
  .indented 0 (.node shipping.id ⟨.cylinder, .ofString "Stock" rfl rfl⟩) 0]

/-- The target of the second arrow is defined by the node behind the section. -/
example :
    print orders = "%% orders\nsubgraph web [\"Front [end\"]\n" ++
      "  A((Order > 5)) -->  check\x7bPaid?\x7d;\n" ++
      "  check\x7bPaid?\x7d  -.-> |yes = ok| B2;;\nend\n \nB2[(Stock)]" ∧
    firstNodes (allDefined none (meanings orders)) =
      [⟨"A", "Order > 5", .start, some "Front [end"⟩,
        ⟨"check", "Paid?", .decision, some "Front [end"⟩, ⟨"B2", "Stock", .data, none⟩] ∧
    (meanings orders).filterMap Statement.edge? =
      [⟨"A", "check", none⟩, ⟨"check", "B2", some "yes = ok"⟩] := by
  decide +kernel

end StepFlow.Diagram.Written
