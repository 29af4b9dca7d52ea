import Mathlib.Data.List.Nodup
import StepFlow.Definition.Drawing
import StepFlow.Proofs.Diagram.Reading
/-!
# Drawings read back

A drawn step is read as its node, and as nothing else, if its title does not hold what closes its
brackets (`read?_drawnStep`): the quotes around the title keep every closing bracket that is found
behind it, where no arrow follows. A drawn connection is read as its arrow
(`read?_drawnConnection`). So the lines of a drawing are read as the steps and the connections in
order (`filterMap_read?_drawnLines`).
-/

namespace StepFlow.Definition

open Text Diagram

variable {d : Definition} {s : Step} {c : Connection} {kind : StepKind} {id label : String}
variable {title after : List Char} {body : Body} {b : Bracket}

/-- What closes the brackets of a step, or the part of it that already ends the title where the
diagram is read. -/
def closer : StepKind → List Char
  | .trigger => [')', ')']
  | .condition => ['}']
  | _ => [']']

/-- The shape that the brackets of a kind draw. -/
def drawnShape : StepKind → Shape
  | .trigger => .start
  | .condition => .decision
  | .storage => .data
  | .notification => .finish
  | _ => .process

/-- The text of a label as it is drawn. -/
def drawnText (label : String) : List Char :=
  replaceChar '"' '\'' label.toList

/-- A label as it is drawn in the brackets of a kind. -/
def drawnBody (kind : StepKind) (label : String) : List Char :=
  (bracketsOf kind).1 ++ drawnLabel label ++ (bracketsOf kind).2

/-- What the line of a step says. -/
def nodeStatement (s : Step) : Statement :=
  .node s.id.toList ⟨drawnShape s.kind, drawnLabel s.name⟩

/-- What the line of a connection says. -/
def edgeStatement (c : Connection) : Statement :=
  .edge ⟨c.source.toList, none⟩ (c.label.map String.toList) ⟨c.target.toList, none⟩

/-- The node of a step in the diagram that a drawing shows. -/
def drawnNode (s : Step) : Node :=
  ⟨s.id, String.ofList (drawnText s.name), drawnShape s.kind, none⟩

/-- The arrow of a connection in the diagram that a drawing shows: its label is cleaned once
more. -/
def drawnEdge (c : Connection) : Edge :=
  ⟨c.source, c.target, Progress.arrowLabel (c.label.map String.toList)⟩

/-- Plain text that starts like the ids of steps. -/
structure IsStepId (id : String) : Prop where
  start : "step_".toList <+: id.toList
  plain : ∀ c ∈ id.toList, IsPlain c

/-- **A definition that can be drawn.** Every text that a drawing shows fits on its line. -/
structure Drawable (d : Definition) : Prop where
  distinct : d.ids.Nodup
  plain : ∀ id ∈ d.ids, IsStepId id
  titled : ∀ s ∈ d.steps, Inline s.name.toList
  joined : ∀ c ∈ d.connections, c.source ∈ d.ids ∧ c.target ∈ d.ids
  labelled : ∀ c ∈ d.connections, ∀ l, c.label = some l →
    l ≠ "" ∧ '|' ∉ l.toList ∧ Inline l.toList

/-! ## Brackets

A drawn step can only be read with brackets that open like its own. -/

/-- **The brackets that a drawn step of a kind can be read with.** What closes them must not stand
in a title of this kind. -/
structure Suits (kind : StepKind) (b : Bracket) : Prop where
  closes : closer kind <:+: b.closing
  unquoted : '"' ∉ b.closing
  nonempty : b.closing ≠ []
  apart : ¬ b.closing <:+: (bracketsOf kind).1

theorem suits_of_opening (kind : StepKind) (hb : b ∈ brackets)
    (hopening : b.opening <+: (bracketsOf kind).1) : Suits kind b := by
  have htable : ∀ b ∈ brackets, b.opening <+: (bracketsOf kind).1 →
      closer kind <:+: b.closing ∧ '"' ∉ b.closing ∧ b.closing ≠ [] ∧
        ¬ b.closing <:+: (bracketsOf kind).1 := by
    cases kind <;> decide
  obtain ⟨hcloses, hquote, hne, hapart⟩ := htable b hb hopening
  exact ⟨hcloses, hquote, hne, hapart⟩

/-- **The first of them are those of the kind.** -/
theorem find?_brackets (kind : StepKind) :
    brackets.find? (fun b => b.opening.isPrefixOf (bracketsOf kind).1) =
      some ⟨(bracketsOf kind).1, (bracketsOf kind).2, drawnShape kind⟩ := by
  cases kind <;> rfl

theorem suits_own (kind : StepKind) :
    Suits kind ⟨(bracketsOf kind).1, (bracketsOf kind).2, drawnShape kind⟩ :=
  suits_of_opening kind (List.mem_of_find?_eq_some (find?_brackets kind)) List.prefix_rfl

theorem quote_notMem_opening : ∀ b ∈ brackets, '"' ∉ b.opening := by decide

theorem apostrophe_notMem_closer (kind : StepKind) : '\'' ∉ closer kind := by
  cases kind <;> decide

theorem of_mem_getLast?_closing (kind : StepKind) :
    ∀ c ∈ (bracketsOf kind).2.getLast?, isBlank c = false ∧ c ≠ ';' := by
  intro c hc
  cases kind <;> rw [← Option.some.inj hc] <;> decide

/-- An arrow starts with what no bracket has. -/
theorem not_arrow_isPrefix (kind : StepKind) (hafter : after ⊆ (bracketsOf kind).2) :
    ∀ arrow ∈ arrows, ¬ arrow <+: after := by
  intro arrow harrow hpre
  have htable : ∀ arrow ∈ arrows, ¬ arrow ⊆ (bracketsOf kind).2 := by
    cases kind <;> decide
  exact htable arrow harrow fun _ hc => hafter (hpre.subset hc)

/-- What closes such brackets does not occur in front of the quote behind the title. -/
theorem Suits.not_isInfix (h : Suits kind b) (hclosed : ¬ closer kind <:+: label.toList)
    {more : List Char} (hmore : more <:+ (bracketsOf kind).1) :
    ¬ b.closing <:+: more ++ '"' :: drawnText label := by
  intro hin
  rcases infix_or_infix_of_notMem hin h.unquoted with hin | hin
  · exact h.apart (hin.trans hmore.isInfix)
  · exact hclosed (infix_of_infix_replaceChar (h.closes.trans hin) (apostrophe_notMem_closer kind))

theorem drawnBody_eq (kind : StepKind) (label : String) :
    drawnBody kind label =
      (bracketsOf kind).1 ++ '"' :: (drawnText label ++ '"' :: (bracketsOf kind).2) := by
  simp [drawnBody, drawnLabel, drawnText]

/-- Brackets that a drawn step can be read with open like its own. -/
theorem opening_isPrefix_of_drawnBody (hb : b ∈ brackets)
    (h : b.opening <+: drawnBody kind label) : b.opening <+: (bracketsOf kind).1 := by
  rw [drawnBody_eq] at h
  exact prefix_of_prefix_append_cons h (quote_notMem_opening b hb)

/-- **Every body that a drawn step can be read with ends in its closing bracket.** -/
theorem suffix_of_mem_bodies (hclosed : ¬ closer kind <:+: label.toList)
    (h : (body, after) ∈ bodies (drawnBody kind label)) :
    after <:+ (bracketsOf kind).2 := by
  obtain ⟨b, hb, -, heq⟩ := mem_bodies_iff.mp h
  have hopening := opening_isPrefix_of_drawnBody hb ⟨_, heq.symm⟩
  have hsuits := suits_of_opening kind hb hopening
  -- what the opening leaves over stands in front of the title and belongs to the label read
  obtain ⟨more, hmore⟩ := hopening
  rw [drawnBody_eq, ← hmore, List.append_assoc, List.append_cancel_left_eq] at heq
  have hcut : (more ++ '"' :: drawnText label) ++ '"' :: (bracketsOf kind).2 =
      body.label ++ b.closing ++ after := by
    rw [← heq]
    simp
  exact suffix_of_cut hcut hsuits.unquoted hsuits.nonempty
    (hsuits.not_isInfix hclosed ⟨b.opening, hmore⟩)

/-- **The closing bracket of a drawn step stands at its end only.** -/
theorem splits_drawnLabel (hclosed : ¬ closer kind <:+: label.toList) :
    splits (bracketsOf kind).2 (drawnLabel label ++ (bracketsOf kind).2) =
      [(drawnLabel label, [])] := by
  have hsuits := suits_own kind
  have hne : (bracketsOf kind).2 ≠ [] := hsuits.nonempty
  refine splits_of_last (fun hin => ?_) hne
  have hfront : (drawnLabel label ++ (bracketsOf kind).2).dropLast =
      '"' :: drawnText label ++ '"' :: (bracketsOf kind).2.dropLast := by
    rw [List.dropLast_append_of_ne_nil hne, drawnLabel, drawnText]
    simp
  rw [hfront] at hin
  rcases infix_or_infix_of_notMem hin hsuits.unquoted with hin | hin
  · exact hsuits.not_isInfix hclosed List.nil_suffix hin
  · -- behind the quote less is left than the whole bracket
    have hlen := hin.length_le
    rw [List.length_dropLast] at hlen
    have hpos := List.length_pos_of_ne_nil hne
    omega

/-- **The first body is the drawn one.** -/
theorem head?_bodies (hclosed : ¬ closer kind <:+: label.toList) :
    (bodies (drawnBody kind label)).head? = some (⟨drawnShape kind, drawnLabel label⟩, []) := by
  obtain ⟨-, earlier, later, hsplit, hearlier⟩ :=
    List.find?_eq_some_iff_append.mp (find?_brackets kind)
  have hnone : earlier.flatMap (·.bodies (drawnBody kind label)) = [] := by
    refine List.flatMap_eq_nil_iff.mpr fun b hb => ?_
    have hopening : ¬ b.opening <+: drawnBody kind label := by
      intro hpre
      have hmem : b ∈ brackets := hsplit ▸ List.mem_append_left _ hb
      have hown := opening_isPrefix_of_drawnBody hmem hpre
      simpa [List.isPrefixOf_iff_prefix.mpr hown] using hearlier b hb
    rw [Bracket.bodies, after?_eq_none_iff.mpr hopening]
  have hown : Bracket.bodies ⟨(bracketsOf kind).1, (bracketsOf kind).2, drawnShape kind⟩
      (drawnBody kind label) = [(⟨drawnShape kind, drawnLabel label⟩, [])] := by
    have hafter : after? (bracketsOf kind).1 (drawnBody kind label) =
        some (drawnLabel label ++ (bracketsOf kind).2) := by
      rw [drawnBody, List.append_assoc, after?_append]
    simp only [Bracket.bodies, hafter, splits_drawnLabel hclosed, List.map_cons, List.map_nil]
  rw [bodies, hsplit, List.flatMap_append, hnone, List.nil_append, List.flatMap_cons, hown]
  rfl

/-! ## Ids -/

theorem IsStepId.ne_nil (h : IsStepId id) : id.toList ≠ [] := by
  obtain ⟨rest, hrest⟩ := h.start
  rw [← hrest]
  exact List.cons_ne_nil _ _

theorem IsStepId.drawnId_eq (h : IsStepId id) : drawnId id = id.toList := by
  refine (List.map_congr_left fun c hc => ?_).trans (List.map_id _)
  exact if_pos (h.plain c hc).isWord

/-- **The lines of a drawing below the first** start with ids, so each is bare without its
indentation and says an arrow or a node. -/
theorem IsStepId.read?_indented (h : IsStepId id) {rest : List Char}
    (hlast : ∀ c ∈ (id.toList ++ rest).getLast?, isBlank c = false ∧ c ≠ ';') :
    Statement.read? (indentation ++ (id.toList ++ rest)) =
      (readEdge? (id.toList ++ rest)).or (readNode? (id.toList ++ rest)) := by
  obtain ⟨tail, htail⟩ := h.start
  have hfirst : id.toList ++ rest = 's' :: ("tep_".toList ++ (tail ++ rest)) := by
    rw [← htail, List.append_assoc]
    rfl
  have htight : Tight (id.toList ++ rest) := by
    refine ⟨fun c hc => ?_, fun c hc => (hlast c hc).1⟩
    rw [hfirst] at hc
    rw [← Option.some.inj hc]
    decide
  have hbare : bareLine (indentation ++ (id.toList ++ rest)) = id.toList ++ rest :=
    bareLine_append (List.all_eq_true.mp rfl) htight fun c hc => (hlast c hc).2
  rw [read?_eq_or, hbare]
  · rw [hbare, hfirst]
    simp
  · rw [hbare, hfirst]
    simp
  · rw [hbare, hfirst]
    simp

/-! ## Steps -/

theorem drawnStep_eq (hid : IsStepId s.id) :
    drawnStep s = indentation ++ (s.id.toList ++ drawnBody s.kind s.name) := by
  simp [drawnStep, hid.drawnId_eq, drawnBody]

/-- The id of a drawn step ends at its bracket. -/
theorem readId?_drawnBody (hid : IsStepId id) (kind : StepKind) (label : String) :
    readId? (id.toList ++ drawnBody kind label) = some (id.toList, drawnBody kind label) := by
  have hopening : ∀ c ∈ (drawnBody kind label).head?, isWord c = false ∧ isBlank c = false := by
    intro c hc
    cases kind <;> rw [← Option.some.inj hc] <;> decide
  rw [readId?_append hid.ne_nil (fun c hc => (hid.plain c hc).isWord) fun c hc => (hopening c hc).1,
    trimStart_eq_self fun c hc => (hopening c hc).2]

/-- Behind the id of a drawn step stands no arrow, whichever body is read first. -/
theorem readEdge?_drawnBody (hid : IsStepId id) (hclosed : ¬ closer kind <:+: label.toList) :
    readEdge? (id.toList ++ drawnBody kind label) = none := by
  refine readEdge?_eq_none fun p hp => ?_
  -- a body read first leaves an end of the closing bracket, and no body leaves the opening one
  simp only [sources, readId?_drawnBody hid, List.mem_append, List.mem_map, Prod.exists,
    List.mem_singleton] at hp
  rcases hp with ⟨body, after, hbody, rfl⟩ | rfl
  · have hafter := suffix_of_mem_bodies hclosed hbody
    exact not_arrow_isPrefix kind (trimStart_suffix.trans hafter).subset
  · cases kind <;> simp [arrows, drawnBody, bracketsOf]

/-- **A drawn step is read as its node.** -/
theorem read?_drawnStep (hid : IsStepId s.id) (hclosed : ¬ closer s.kind <:+: s.name.toList) :
    Statement.read? (drawnStep s) = some (nodeStatement s) := by
  have hlast : ∀ c ∈ (s.id.toList ++ drawnBody s.kind s.name).getLast?,
      isBlank c = false ∧ c ≠ ';' := by
    intro c hc
    have hne := (suits_own s.kind).nonempty
    rw [drawnBody, ← List.append_assoc, List.getLast?_append_of_ne_nil _ hne] at hc
    exact of_mem_getLast?_closing _ c hc
  rw [drawnStep_eq hid, hid.read?_indented hlast, readEdge?_drawnBody hid hclosed, Option.none_or]
  simp [readNode?, readId?_drawnBody hid, head?_bodies hclosed, nodeStatement]

/-! ## Connections -/

theorem drawnConnection_of_none (hs : IsStepId c.source) (ht : IsStepId c.target)
    (hl : c.label = none) :
    drawnConnection c =
      indentation ++ (c.source.toList ++ (" -->".toList ++ ' ' :: c.target.toList)) := by
  simp [drawnConnection, hl, hs.drawnId_eq, ht.drawnId_eq]

theorem drawnConnection_of_some (hs : IsStepId c.source) (ht : IsStepId c.target)
    (hl : c.label = some label) (hne : label ≠ "") :
    drawnConnection c = indentation ++ (c.source.toList ++
      (" -->".toList ++ '|' :: (label.toList ++ '|' :: ' ' :: c.target.toList))) := by
  simp [drawnConnection, hl, hne, hs.drawnId_eq, ht.drawnId_eq]

/-- **A drawn connection is read as its arrow.** -/
theorem read?_drawnConnection (hs : IsStepId c.source) (ht : IsStepId c.target)
    (hlabel : ∀ l, c.label = some l → l ≠ "" ∧ '|' ∉ l.toList) :
    Statement.read? (drawnConnection c) = some (edgeStatement c) := by
  have hlast (front : List Char) : ∀ x ∈ (c.source.toList ++ (front ++ c.target.toList)).getLast?,
      isBlank x = false ∧ x ≠ ';' := by
    intro x hx
    rw [← List.append_assoc, List.getLast?_append_of_ne_nil _ ht.ne_nil] at hx
    have hplain := ht.plain x (List.mem_of_mem_getLast? hx)
    refine ⟨hplain.isBlank, ?_⟩
    rintro rfl
    exact absurd hplain (by decide)
  cases hl : c.label with
  | none =>
    have hedge := readEdge?_plain hs.ne_nil hs.plain ht.ne_nil ht.plain
    rw [drawnConnection_of_none hs ht hl, hs.read?_indented, hedge, edgeStatement, hl]
    · rfl
    · simpa using hlast (" --> ".toList)
  | some l =>
    obtain ⟨hne, hbar⟩ := hlabel l hl
    have hedge := readEdge?_labelled hs.ne_nil hs.plain hbar ht.ne_nil ht.plain
    rw [drawnConnection_of_some hs ht hl hne, hs.read?_indented, hedge, edgeStatement, hl]
    · rfl
    · simpa using hlast (" -->|".toList ++ l.toList ++ ['|', ' '])

/-! ## Lines -/

/-- The first line of a drawing says nothing. -/
theorem read?_headline : Statement.read? ("flowchart ".toList ++ "TD".toList) = none := by
  decide

theorem isBreak_drawnStep (hid : IsStepId s.id) (htitle : Inline s.name.toList) :
    ∀ x ∈ drawnStep s, isBreak x = false := by
  have hbrackets : ∀ x ∈ (bracketsOf s.kind).1 ++ (bracketsOf s.kind).2, isBreak x = false := by
    cases s.kind <;> exact unbroken_of_any rfl
  have htext : ∀ x ∈ drawnText s.name, isBreak x = false := by
    intro x hx
    obtain ⟨y, hy, rfl⟩ := List.mem_map.mp hx
    split
    · rfl
    · exact htitle.unbroken y hy
  intro x hx
  rw [drawnStep_eq hid, drawnBody, drawnLabel, ← drawnText] at hx
  simp only [List.mem_append, List.mem_cons, List.not_mem_nil, or_false] at hx
  rcases hx with hx | hx | (hx | (rfl | hx) | rfl) | hx
  · exact unbroken_of_any rfl x hx
  · exact (hid.plain x hx).isBreak
  · exact hbrackets x (List.mem_append_left _ hx)
  · rfl
  · exact htext x hx
  · rfl
  · exact hbrackets x (List.mem_append_right _ hx)

theorem isBreak_drawnConnection (hs : IsStepId c.source) (ht : IsStepId c.target)
    (hlabel : ∀ l, c.label = some l → l ≠ "" ∧ Inline l.toList) :
    ∀ x ∈ drawnConnection c, isBreak x = false := by
  have hfront : ∀ x ∈ indentation, isBreak x = false := unbroken_of_any rfl
  have harrow : ∀ x ∈ " -->".toList, isBreak x = false := unbroken_of_any rfl
  have hspace : isBreak ' ' = false := by decide
  have hbar : isBreak '|' = false := by decide
  intro x hx
  cases hl : c.label with
  | none =>
    rw [drawnConnection_of_none hs ht hl] at hx
    simp only [List.mem_append, List.mem_cons] at hx
    rcases hx with hx | hx | hx | rfl | hx
    · exact hfront x hx
    · exact (hs.plain x hx).isBreak
    · exact harrow x hx
    · exact hspace
    · exact (ht.plain x hx).isBreak
  | some l =>
    rw [drawnConnection_of_some hs ht hl (hlabel l hl).1] at hx
    simp only [List.mem_append, List.mem_cons] at hx
    rcases hx with hx | hx | hx | rfl | hx | rfl | rfl | hx
    · exact hfront x hx
    · exact (hs.plain x hx).isBreak
    · exact harrow x hx
    · exact hbar
    · exact (hlabel l hl).2.unbroken x hx
    · exact hbar
    · exact hspace
    · exact (ht.plain x hx).isBreak

/-- **The lines of a drawing** in front of any text are its own. -/
theorem lines_draw_append (hd : Drawable d) (more : String) :
    lines (d.draw "TD" ++ more).toList = drawnLines "TD" d ++ lines more.toList := by
  rw [draw, String.toList_append, String.toList_ofList]
  refine lines_flatMap_append fun line hline => ?_
  simp only [drawnLines, List.cons_append, List.mem_cons, List.mem_append, List.mem_map] at hline
  rcases hline with rfl | ⟨s, hs, rfl⟩ | ⟨c, hc, rfl⟩
  · exact unbroken_of_any rfl
  · exact isBreak_drawnStep (hd.plain _ (List.mem_map_of_mem hs)) (hd.titled s hs)
  · obtain ⟨hsource, htarget⟩ := hd.joined c hc
    exact isBreak_drawnConnection (hd.plain _ hsource) (hd.plain _ htarget)
      fun l hl => ⟨(hd.labelled c hc l hl).1, (hd.labelled c hc l hl).2.2⟩

/-- **The lines of a drawing say its steps and its connections** in order. -/
theorem filterMap_read?_drawnLines (hd : Drawable d)
    (hclosed : ∀ s ∈ d.steps, ¬ closer s.kind <:+: s.name.toList) :
    (drawnLines "TD" d).filterMap Statement.read? =
      d.steps.map nodeStatement ++ d.connections.map edgeStatement := by
  have hsteps : d.steps.filterMap (Statement.read? ∘ drawnStep) = d.steps.map nodeStatement := by
    refine List.filterMap_eq_map_iff_forall_eq_some.mpr fun s hs => ?_
    rw [Function.comp_apply]
    exact read?_drawnStep (hd.plain _ (List.mem_map_of_mem hs)) (hclosed s hs)
  have hconnections : d.connections.filterMap (Statement.read? ∘ drawnConnection) =
      d.connections.map edgeStatement := by
    refine List.filterMap_eq_map_iff_forall_eq_some.mpr fun c hc => ?_
    obtain ⟨hsource, htarget⟩ := hd.joined c hc
    rw [Function.comp_apply]
    refine read?_drawnConnection (hd.plain _ hsource) (hd.plain _ htarget) fun l hl => ?_
    exact ⟨(hd.labelled c hc l hl).1, (hd.labelled c hc l hl).2.1⟩
  rw [drawnLines, List.cons_append, List.filterMap_cons_none read?_headline, List.filterMap_append,
    List.filterMap_map, List.filterMap_map, hsteps, hconnections]

/-! ## Drawings -/

theorem filterMap_edge?_nodes (row : List Step) :
    (row.map nodeStatement).filterMap Statement.edge? = [] := by
  rw [List.filterMap_map]
  exact List.filterMap_eq_nil_iff.mpr fun s _ => rfl

theorem filterMap_edge?_edges (row : List Connection) :
    (row.map edgeStatement).filterMap Statement.edge? = row.map drawnEdge := by
  rw [List.filterMap_map]
  refine List.filterMap_eq_map_iff_forall_eq_some.mpr fun c _ => ?_
  simp [edgeStatement, Statement.edge?, drawnEdge]

/-- **The arrows of a drawing** in front of any text are the connections. -/
theorem read_draw_append_edges (hd : Drawable d)
    (hclosed : ∀ s ∈ d.steps, ¬ closer s.kind <:+: s.name.toList) (more : String) :
    (Diagram.read (d.draw "TD" ++ more)).edges =
      d.connections.map drawnEdge ++ (Diagram.read more).edges := by
  rw [read_edges, lines_draw_append hd, List.filterMap_append, List.filterMap_append,
    filterMap_read?_drawnLines hd hclosed, ← read_edges, List.filterMap_append,
    filterMap_edge?_nodes, filterMap_edge?_edges, List.nil_append]

theorem tight_drawnText (h : Tight label.toList) : Tight (drawnText label) := by
  have hkeep : ∀ c, isBlank c = false → isBlank (if c = '"' then '\'' else c) = false := by
    intro c hc
    split
    · rfl
    · exact hc
  refine ⟨fun c hc => ?_, fun c hc => ?_⟩
  · rw [drawnText, replaceChar, List.head?_map] at hc
    obtain ⟨b, hb, rfl⟩ := Option.map_eq_some_iff.mp hc
    exact hkeep b (h.first b hb)
  · rw [drawnText, replaceChar, List.getLast?_map] at hc
    obtain ⟨b, hb, rfl⟩ := Option.map_eq_some_iff.mp hc
    exact hkeep b (h.last b hb)

/-- A drawn label is read as the title, with single quotes for double ones. -/
theorem cleanLabel_drawnLabel (h : Tight label.toList) :
    cleanLabel (drawnLabel label) = drawnText label :=
  cleanLabel_quotation (.inl rfl) (tight_drawnText h)

/-- The steps add their nodes. -/
theorem foldl_nodeStatements {row : List Step} (hdistinct : (row.map (·.id)).Nodup)
    (htitle : ∀ s ∈ row, Inline s.name.toList)
    (hname : ∀ s ∈ row, s.name ≠ "" ∧ drawnText s.name ≠ s.id.toList) :
    (row.map nodeStatement).foldl Progress.apply {} =
      { diagram := { nodes := row.map drawnNode } } := by
  let pairs := row.map fun s => (s.id.toList, Body.mk (drawnShape s.kind) (drawnLabel s.name))
  have hpairs : row.map nodeStatement = pairs.map fun x => Statement.node x.1 x.2 := by
    simp [pairs, nodeStatement, Function.comp_def]
  have hnew : (pairs.map (·.1)).Nodup := by
    have hids : pairs.map (·.1) = (row.map (·.id)).map String.toList := by
      simp [pairs, Function.comp_def]
    rw [hids]
    exact List.Nodup.map (fun _ _ h => String.toList_injective h) hdistinct
  have hlabel : ∀ x ∈ pairs, cleanLabel x.2.label ≠ [] ∧ cleanLabel x.2.label ≠ x.1 := by
    intro x hx
    obtain ⟨s, hs, rfl⟩ := List.mem_map.mp hx
    obtain ⟨hne, hid⟩ := hname s hs
    rw [cleanLabel_drawnLabel (htitle s hs).tight]
    exact ⟨by simpa [drawnText, replaceChar] using hne, hid⟩
  rw [hpairs, foldl_apply_nodes hnew (by simp) hlabel]
  simp only [pairs, List.map_map, List.nil_append]
  congr 2
  refine List.map_congr_left fun s hs => ?_
  simp [definedNode, drawnNode, cleanLabel_drawnLabel (htitle s hs).tight]

/-- The connections add their arrows. -/
theorem foldl_edgeStatements (p : Progress) (row : List Connection) :
    (row.map edgeStatement).foldl Progress.apply p =
      { p with diagram := { p.diagram with edges := p.diagram.edges ++ row.map drawnEdge } } := by
  induction row generalizing p with
  | nil => simp
  | cons c row ih =>
    rw [List.map_cons, List.foldl_cons, ih]
    simp [edgeStatement, drawnEdge, Progress.apply, Progress.defineEnd, Progress.connect]

/-- **A drawing is read as the diagram it shows.** -/
theorem read_draw (hd : Drawable d)
    (hclosed : ∀ s ∈ d.steps, ¬ closer s.kind <:+: s.name.toList)
    (hname : ∀ s ∈ d.steps, s.name ≠ "" ∧ drawnText s.name ≠ s.id.toList) :
    Diagram.read (d.draw "TD") =
      { nodes := d.steps.map drawnNode, edges := d.connections.map drawnEdge, sections := [] } := by
  have hlines : lines (d.draw "TD").toList = drawnLines "TD" d := by
    simpa [lines] using lines_draw_append hd ""
  rw [Diagram.read, hlines, filterMap_read?_drawnLines hd hclosed, List.foldl_append,
    foldl_nodeStatements hd.distinct hd.titled hname, foldl_edgeStatements]
  rfl

end StepFlow.Definition
