import StepFlow.Proofs.Diagram.Swallowing
/-!
# Reading chains of arrows

A line with a chain of arrows draws what it is meant to draw exactly if the label of its source
swallows no other node (`read_chain`). Where it does, the line says a later arrow, and the node in
front gets a label with the closing bracket in it that was written for its end.
-/

namespace StepFlow.Diagram

open Text Written

variable {c : Chain} {x : Char}

namespace Written

/-! ## Chains on a line -/

/-- A chain on a line. -/
structure ChainLine where
  /-- The blanks in front. -/
  indentation : Blanks
  /-- The chain. -/
  chain : Chain
  /-- The number of semicolons behind it. -/
  semicolons : Nat
  /-- The blanks at the end. -/
  trailing : Blanks

/-- The line as it is written. -/
def ChainLine.text (l : ChainLine) : List Char :=
  l.indentation.text ++
    (l.chain.text ++ List.replicate l.semicolons ';') ++ l.trailing.text

/-! ## What chains start and end with -/

theorem Stop.endsBare (s : Stop) : EndsBare s.text := by
  cases hf : s.framed? with
  | none =>
    have htext : s.text = s.id.text := by simp [text, hf]
    exact htext ▸ s.id.endsBare
  | some f =>
    have htext : s.text = s.id.text ++ (f.1.text ++ f.2.text) := by simp [text, hf]
    exact htext ▸ (f.2.endsBare.append _).append _

theorem Link.endsBare (l : Link) : EndsBare l.text :=
  (((l.target.endsBare.append _).append _).append _).append _

theorem Chain.endsBare (c : Chain) : EndsBare c.text := by
  have hlinks : c.links ≠ [] := by simp [links]
  obtain ⟨front, l, hlast⟩ := (List.eq_nil_or_concat' _).resolve_left hlinks
  have htext : c.text = c.source.text ++ (linksText front ++ l.text) := by
    simp [text, hlast, linksText]
  exact htext ▸ (l.endsBare.append _).append _

/-- Behind the id of the source stands no part of it, blanks or not. -/
theorem Chain.exists_text_append (c : Chain) : ∃ behindId,
    c.text = c.source.id.text ++ behindId ∧ behindId ≠ [] ∧
      (∀ x ∈ behindId.head?, Text.isWord x = false) ∧
      ∀ x ∈ (trimStart behindId).head?, Text.isWord x = false := by
  cases hf : c.source.framed? with
  | none =>
    refine ⟨linksText c.links, by simp [text, Stop.text, hf], ?_, head?_linksText _, ?_⟩
    · cases harrow : c.first.arrow <;> simp [links, linksText, Link.text, harrow, Arrow.text]
    · rw [links, trimStart_linksText_cons]
      cases c.first.arrow <;> exact fun x hx => Option.some.inj hx ▸ by decide
  | some f =>
    have hhead := f.2.head?_text (linksText c.links)
    refine ⟨f.1.text ++ (f.2.text ++ linksText c.links), by simp [text, Stop.text, hf], ?_,
      Blanks.head?_append f.1 fun x hx => (hhead x hx).1, ?_⟩
    · cases hframe : f.2.frame <;> simp [Framed.text, Frame.opening, hframe]
    · rw [trimStart_append f.1.isBlank, trimStart_eq_self fun x hx => (hhead x hx).2.1]
      exact fun x hx => (hhead x hx).1

theorem ChainLine.bareLine_text (l : ChainLine) : bareLine l.text = l.chain.text := by
  obtain ⟨behindId, htext, -⟩ := l.chain.exists_text_append
  have hstart := l.chain.source.id.head?_append behindId
  rw [← htext] at hstart
  rw [text, bareLine_append_blanks l.trailing.isBlank,
    bareLine_of_endsBare l.indentation.isBlank hstart l.chain.endsBare]

/-- **A line with a chain says an arrow or a node.** -/
theorem ChainLine.read?_text (l : ChainLine) :
    Statement.read? l.text = (readEdge? l.chain.text).or (readNode? l.chain.text) := by
  obtain ⟨behindId, htext, hne, hword, htrim⟩ := l.chain.exists_text_append
  rw [htext]
  exact read?_word l.chain.source.id (l.bareLine_text.trans htext) hne hword htrim

/-! ## Chains as texts -/

theorem Stop.unbroken_text (s : Stop) : ∀ x ∈ s.text, isBreak x = false := by
  rw [text, List.forall_mem_append]
  refine ⟨s.id.unbroken_text, ?_⟩
  cases s.framed? with
  | none => simp
  | some f =>
    rw [Option.map_some, Option.getD_some, List.forall_mem_append]
    exact ⟨f.1.unbroken, f.2.unbroken_text⟩

theorem Link.unbroken_text (l : Link) : ∀ x ∈ l.text, isBreak x = false := by
  have hlabel : ∀ x ∈ l.labelText, isBreak x = false := by
    rw [labelText]
    cases l.label? with
    | none => simp
    | some y =>
      rw [Option.map_some, Option.getD_some, List.forall_mem_append]
      exact ⟨y.1.unbroken, y.2.unbroken_barred⟩
  simp only [text, behind, List.forall_mem_append]
  exact ⟨l.beforeArrow.unbroken, l.arrow.unbroken_text, hlabel, l.beforeTarget.unbroken,
    l.target.unbroken_text⟩

theorem ChainLine.unbroken_text (l : ChainLine) : ∀ x ∈ l.text, isBreak x = false := by
  have hlinks : ∀ x ∈ linksText l.chain.links, isBreak x = false := by
    intro x hx
    obtain ⟨k, -, hk⟩ := List.mem_flatMap.mp hx
    exact k.unbroken_text x hk
  have hsemicolons : ∀ x ∈ List.replicate l.semicolons ';', isBreak x = false := fun x hx => by
    rw [List.eq_of_mem_replicate hx]
    rfl
  simp only [text, Chain.text, List.forall_mem_append]
  exact ⟨⟨l.indentation.unbroken, ⟨l.chain.source.unbroken_text, hlinks⟩, hsemicolons⟩,
    l.trailing.unbroken⟩

/-- **The only statement of a chain** is its arrow. -/
theorem ChainLine.statements_text (l : ChainLine) {st : Statement}
    (h : readEdge? l.chain.text = some st) : statements (String.ofList l.text) = [st] := by
  have hne : l.text ≠ [] := by
    have hid := l.chain.source.id.ne_nil
    simp [text, Chain.text, Stop.text, hid]
  rw [statements, String.toList_ofList, lines_of_unbroken hne l.unbroken_text]
  simp [l.read?_text, h]

/-! ## Labels of the nodes -/

/-- No label in the drawing of a chain holds a closing bracket. -/
theorem Chain.notMem_closers_of_mem_drawing {n : Node} (h : n ∈ c.drawing.nodes) :
    ∀ x ∈ n.label.toList, x ∉ closers := by
  have hstop (s : Stop) : ∀ d ∈ s.endpoint.definition?, ∀ x ∈ d.2.label, x ∉ closers := by
    intro d hd
    cases hf : s.framed? with
    | none => simp [Endpoint.definition?, Stop.endpoint, hf] at hd
    | some f =>
      obtain rfl : (s.id.text, f.2.body) = d := by
        simpa [Endpoint.definition?, Stop.endpoint, hf] using hd
      exact f.2.label.notMem_closers
  obtain ⟨d, hd, rfl⟩ := List.mem_map.mp (mem_of_mem_firstNodes h)
  intro x hx
  rw [definedNode, String.toList_ofList] at hx
  have hlabel : x ∈ d.2.label := cleanLabel_isInfix.subset hx
  rcases List.mem_append.mp (List.mem_filter.mp hd).1 with hd | hd
  · exact hstop c.source d (Option.mem_toList.mp hd) x hlabel
  · exact hstop c.first.target d (Option.mem_toList.mp hd) x hlabel

/-- A label with a closing bracket counts, and stays in front. -/
theorem exists_firstNodes_eq_cons (id : Word) {body : Body} (hx : x ∈ closers)
    (hbody : x ∈ body.label) (defs : List (List Char × Body)) :
    ∃ others, firstNodes (definedNodes none ((id.text, body) :: defs)) =
        definedNode none id.text body :: others ∧
      x ∈ cleanLabel body.label := by
  have hclosers : ∀ x ∈ closers, isBlank x = false ∧ x ≠ '"' ∧ x ≠ '\'' :=
    List.all_iff_forall_prop.mp rfl
  obtain ⟨hblank, hquote⟩ := hclosers x hx
  have hclean : x ∈ cleanLabel body.label := mem_cleanLabel hbody hblank hquote
  have hcounts : counts (id.text, body) = true := by
    rw [counts, decide_eq_true_iff]
    -- no id holds a bracket, so the label is not the id
    refine ⟨List.ne_nil_of_mem hclean, fun (heq : cleanLabel body.label = id.text) => ?_⟩
    exact id.notMem_closers x (heq ▸ hclean) hx
  rw [definedNodes, List.filter_cons_of_pos hcounts, List.map_cons, firstNodes_cons]
  exact ⟨_, rfl, hclean⟩

/-! ## The two drawings -/

/-- What a chain draws if the label of its source swallows other nodes: only the first arrow behind
the swallowed ones, which has an earlier form than the first arrow of the chain, and a source with a
closing bracket in its label. -/
def Chain.DrawsLater (c : Chain) (d : Diagram) : Prop :=
  ∃ l back, c.Reaches l back ∧ l.rank < c.first.rank ∧
    d.edges = [⟨String.ofList c.source.id.text, String.ofList l.target.id.text,
      Progress.arrowLabel (l.label?.map (·.2.text))⟩] ∧
    ∃ n ∈ d.nodes, n.id = String.ofList c.source.id.text ∧ ∃ x ∈ closers, x ∈ n.label.toList

theorem ChainLine.read_eq_drawing {l : ChainLine} (h : ¬ l.chain.IsSwallowed) :
    read (String.ofList l.text) = l.chain.drawing :=
  read_of_statements_eq (l.statements_text (readEdge?_chain h))

theorem ChainLine.drawsLater {l : ChainLine} (h : l.chain.IsSwallowed) :
    l.chain.DrawsLater (read (String.ofList l.text)) := by
  obtain ⟨k, back, body, hk, hrank, hedge, x, hx, hbody⟩ := readEdge?_chain_of_isSwallowed h
  obtain ⟨others, hnodes, hclean⟩ := exists_firstNodes_eq_cons l.chain.source.id hx hbody
    k.target.endpoint.definition?.toList
  rw [read_of_statements_eq (l.statements_text hedge)]
  have hmem := List.mem_of_mem_head? (congrArg List.head? hnodes)
  have hlabel : x ∈ (definedNode none l.chain.source.id.text body).label.toList := by
    rwa [definedNode, String.toList_ofList]
  exact ⟨k, back, hk, hrank, rfl, _, hmem, rfl, x, hx, hlabel⟩

/-- The two drawings are different. -/
theorem Chain.not_drawsLater_drawing (c : Chain) : ¬ c.DrawsLater c.drawing := by
  rintro ⟨l, back, -, -, -, n, hn, -, x, hx, hmem⟩
  exact notMem_closers_of_mem_drawing hn x hmem hx

end Written

/-! ## Main statement -/

/-- **A chain draws what it is meant to draw exactly if no label swallows a node,** and a later
arrow from the same source exactly if one does. -/
theorem read_chain (l : ChainLine) :
    (read (String.ofList l.text) = l.chain.drawing ↔ ¬ l.chain.IsSwallowed) ∧
      (l.chain.DrawsLater (read (String.ofList l.text)) ↔ l.chain.IsSwallowed) := by
  refine ⟨⟨fun hread hswallowed => ?_, ChainLine.read_eq_drawing⟩, ⟨fun hlater => ?_,
    ChainLine.drawsLater⟩⟩
  · have hlater := ChainLine.drawsLater hswallowed
    rw [hread] at hlater
    exact l.chain.not_drawsLater_drawing hlater
  · obtain ⟨k, back, hk, hrank, -⟩ := hlater
    exact ⟨k, back, hk, hrank⟩

/-- The thin arrow is tried first, so it is read where it comes first. -/
example : (read "A[x] --> B[y] ==> C[z]").edges = [⟨"A", "B", none⟩] := by decide +kernel

namespace Written

/-- A letter with a box around another one behind it. -/
def boxed (id label : Char) (hid : Text.isWord id = true)
    (hlabel : isBreak label = false ∧ label ∉ bracketChars) : Stop where
  id := ⟨[id], List.cons_ne_nil id [], by simpa using hid⟩
  framed? := some (⟨[], by simp, by simp⟩,
    ⟨.box, [label], by simpa using hlabel.1, by simpa using hlabel.2⟩)

/-- One space. -/
def space : Blanks :=
  ⟨[' '], List.forall_mem_singleton.mpr rfl, List.forall_mem_singleton.mpr rfl⟩

/-- An arrow without a label between spaces. -/
def spaced (arrow : Arrow) (target : Stop) : Link where
  beforeArrow := space
  arrow := arrow
  label? := none
  beforeTarget := space
  target := target

/-- `A[x] ==> B[y] --> C[z]` -/
def thickThenThin : ChainLine where
  indentation := ⟨[], by simp, by simp⟩
  chain := {
    source := boxed 'A' 'x' (by decide) (by decide)
    first := spaced .thick (boxed 'B' 'y' (by decide) (by decide))
    second := spaced .thin (boxed 'C' 'z' (by decide) (by decide))
    more := [] }
  semicolons := 0
  trailing := ⟨[], by simp, by simp⟩

end Written

/-- **Not every chain draws its first arrow:** the label of the first node can swallow the second
one. -/
theorem not_forall_read_chain_eq_drawing :
    ¬ ∀ l : ChainLine, read (String.ofList l.text) = l.chain.drawing := by
  intro h
  have hedges := congrArg Diagram.edges (h thickThenThin)
  revert hedges
  decide +kernel

end StepFlow.Diagram
