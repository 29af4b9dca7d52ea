import StepFlow.Proofs.Diagram.Node
import StepFlow.Proofs.Diagram.Recognising
import StepFlow.Proofs.Entries
/-!
# Every diagram is well formed

Whatever a text is, the diagram that is read from it has distinct ids that are words, labels that
say something, and sections with names (`Diagram.IsWellFormed`). None of this depends on the text
being written well: lines of no known form say nothing, and a statement that is read names only
words (`isSound_of_read?`). The statements of a text are then all that its nodes, arrows and
sections come from. No node has a shape of its own making either: each stands on some line in a
frame that is recognised as its shape and its label (`IsWellRead.shapes`).
-/

namespace StepFlow

open Text Diagram

/-! ## Well-formed diagrams -/

/-- The id of a node is a word, its label says something else, and its section has a name. -/
structure Node.IsWellFormed (n : Node) : Prop where
  id : IsId n.id.toList
  label_ne_empty : n.label ≠ ""
  tight_label : Tight n.label.toList
  label_ne_id : n.label ≠ n.id
  inSection? : n.inSection? ≠ some ""

/-- The ends of an arrow are words, and its label says something if it has one. -/
structure Edge.IsWellFormed (edge : Edge) : Prop where
  source : IsId edge.source.toList
  target : IsId edge.target.toList
  label : ∀ label ∈ edge.label, label ≠ "" ∧ Tight label.toList ∧ '|' ∉ label.toList

/-- **What holds of every diagram that is read.** -/
structure Diagram.IsWellFormed (d : Diagram) : Prop where
  distinct : (d.nodes.map (·.id)).Nodup
  nodes : ∀ n ∈ d.nodes, n.IsWellFormed
  edges : ∀ edge ∈ d.edges, edge.IsWellFormed
  sections : ∀ named ∈ d.sections, IsId named.1.toList ∧ named.2 ≠ ""

namespace Diagram

variable {raw : List Char} {s : Statement} {ss : List Statement} {n : Node} {edge : Edge}
variable {current? : Option String} {text : String} {x : List Char × Body}

/-! ## Statements -/

/-- What is said of all statements: ids are words, and the label of an arrow has no bar. -/
def Statement.IsSound : Statement → Prop
  | .opening id _ => IsId id
  | .closing => True
  | .edge source label? target =>
    IsId source.id ∧ IsId target.id ∧ ∀ label ∈ label?, '|' ∉ label
  | .node id _ => IsId id

/-- **What a line says is sound.** -/
theorem isSound_of_read? (h : Statement.read? raw = some s) : s.IsSound := by
  rcases of_read? h with hopening | rfl | hedge | hnode
  · obtain ⟨id, label?, rfl, hid⟩ := of_readOpening? hopening
    exact hid
  · exact trivial
  · obtain ⟨e, label?, e', rfl, hlabel⟩ := of_readEdge? hedge
    obtain ⟨⟨hsource, htarget⟩, -⟩ := of_readEdge?_edge hedge
    exact ⟨hsource, htarget, fun label hl => (hlabel label hl).1⟩
  · obtain ⟨id, body, rest, after, rfl, hid, -⟩ := of_readNode? hnode
    exact (of_readId? hid).1

theorem isSound_of_mem_statements (h : s ∈ statements text) : s.IsSound := by
  obtain ⟨raw, -, hread⟩ := List.mem_filterMap.mp h
  exact isSound_of_read? hread

theorem Statement.IsSound.isId_of_mem_definitions (h : s.IsSound) (hx : x ∈ s.definitions) :
    IsId x.1 := by
  have hend {e : Endpoint} (he : IsId e.id) (hx : x ∈ e.definition?.toList) : IsId x.1 := by
    obtain ⟨body, -, rfl⟩ := Option.map_eq_some_iff.mp (Option.mem_toList.mp hx)
    exact he
  cases s with
  | opening id label? => cases hx
  | closing => cases hx
  | edge source label? target =>
    obtain ⟨hsource, htarget, -⟩ := h
    exact (List.mem_append.mp hx).elim (hend hsource) (hend htarget)
  | node id body =>
    obtain rfl := List.mem_singleton.mp hx
    exact h

/-- **The frame of every node that a line defines** stands on it, behind the id of the node. -/
theorem standsOn_of_mem_definitions (h : Statement.read? raw = some s) (hx : x ∈ s.definitions) :
    Endpoint.StandsOn ⟨x.1, some x.2⟩ raw := by
  have hend {e : Endpoint} (he : e.StandsOn (bareLine raw)) (hx : x ∈ e.definition?.toList) :
      Endpoint.StandsOn ⟨x.1, some x.2⟩ raw := by
    obtain ⟨body, hbody, rfl⟩ := Option.map_eq_some_iff.mp (Option.mem_toList.mp hx)
    intro body' hbody'
    obtain rfl := Option.some.inj hbody'
    exact he.of_isInfix bareLine_isInfix body hbody
  rcases of_read? h with hopening | rfl | hedge | hnode
  · obtain ⟨id, label?, rfl, -⟩ := of_readOpening? hopening
    cases hx
  · cases hx
  · obtain ⟨e, label?, e', rfl, -⟩ := of_readEdge? hedge
    obtain ⟨-, hsource, htarget⟩ := of_readEdge?_edge hedge
    exact (List.mem_append.mp hx).elim (hend hsource) (hend htarget)
  · obtain ⟨id, body, rest, after, rfl, hid, hhead⟩ := of_readNode? hnode
    obtain rfl := List.mem_singleton.mp hx
    -- a node is read like the target of an arrow
    have htarget : readTarget? (bareLine raw) = some ⟨id, some body⟩ := by
      simp [readTarget?, hid, hhead]
    exact (of_readTarget? htarget).2.of_isInfix bareLine_isInfix

/-! ## Nodes -/

theorem isWellFormed_definedNode (hid : IsId x.1) (hcounts : counts x = true)
    (hcurrent : current? ≠ some "") : (definedNode current? x.1 x.2).IsWellFormed := by
  have hlabel : cleanLabel x.2.label ≠ [] ∧ cleanLabel x.2.label ≠ x.1 := by
    simpa [counts] using hcounts
  have hempty : String.ofList (cleanLabel x.2.label) ≠ "" := by simpa using hlabel.1
  refine ⟨?_, hempty, ?_, fun heq => hlabel.2 (String.ofList_injective heq), hcurrent⟩
  · rwa [definedNode, String.toList_ofList]
  · rw [definedNode, String.toList_ofList]
    exact tight_cleanLabel x.2.label

/-- Sections have names, of their own or after their ids. -/
theorem Statement.IsSound.section?_ne_empty (h : s.IsSound) {named : String × String}
    (hnamed : s.section? = some named) : IsId named.1.toList ∧ named.2 ≠ "" := by
  cases s with
  | opening id label? =>
    obtain rfl := Option.some.inj hnamed
    refine ⟨by rwa [String.toList_ofList], ?_⟩
    have hne :
        (if cleanLabel (label?.getD []) = [] then id else cleanLabel (label?.getD [])) ≠ [] := by
      split
      · exact h.ne_nil
      · assumption
    simpa using hne
  | closing => cases hnamed
  | edge source label? target => cases hnamed
  | node id body => cases hnamed

theorem Statement.IsSound.openAfter_ne (h : s.IsSound) (hcurrent : current? ≠ some "") :
    s.openAfter current? ≠ some "" := by
  cases s with
  | opening id label? =>
    exact fun heq => (h.section?_ne_empty rfl).2 (Option.some.inj heq)
  | closing => exact fun heq => by cases heq
  | edge source label? target => exact hcurrent
  | node id body => exact hcurrent

/-- **The nodes that sound statements define** come from their definitions and are well formed. -/
theorem of_mem_allDefined (hss : ∀ s ∈ ss, s.IsSound) (hcurrent : current? ≠ some "")
    (hn : n ∈ allDefined current? ss) :
    n.IsWellFormed ∧ ∃ s ∈ ss, ∃ x ∈ s.definitions, ∃ open?, n = definedNode open? x.1 x.2 := by
  induction ss generalizing current? with
  | nil => cases hn
  | cons s ss ih =>
    obtain ⟨hs, hrest⟩ := List.forall_mem_cons.mp hss
    rcases List.mem_append.mp hn with hn | hn
    · obtain ⟨x, hx, rfl⟩ := List.mem_map.mp hn
      obtain ⟨hdef, hcounts⟩ := List.mem_filter.mp hx
      exact ⟨isWellFormed_definedNode (hs.isId_of_mem_definitions hdef) hcounts hcurrent,
        s, List.mem_cons_self, x, hdef, current?, rfl⟩
    · obtain ⟨hwf, t, ht, hx⟩ := ih hrest (hs.openAfter_ne hcurrent) hn
      exact ⟨hwf, t, List.mem_cons_of_mem s ht, hx⟩

theorem of_mem_read_nodes (hn : n ∈ (read text).nodes) :
    n.IsWellFormed ∧
      ∃ s ∈ statements text, ∃ x ∈ s.definitions, ∃ open?, n = definedNode open? x.1 x.2 := by
  rw [read_nodes] at hn
  exact of_mem_allDefined (fun s hs => isSound_of_mem_statements hs) (by simp)
    (mem_of_mem_firstNodes hn)

/-! ## Arrows -/

theorem Statement.IsSound.isWellFormed_edge (h : s.IsSound) (hedge : s.edge? = some edge) :
    edge.IsWellFormed := by
  cases s with
  | opening id label? => cases hedge
  | closing => cases hedge
  | edge source label? target =>
    obtain rfl := Option.some.inj hedge
    obtain ⟨hsource, htarget, hbar⟩ := h
    refine ⟨by rwa [String.toList_ofList], by rwa [String.toList_ofList], fun label hlabel => ?_⟩
    obtain ⟨cs, rfl, rfl, hne⟩ := arrowLabel_eq_some_iff.mp hlabel
    rw [String.toList_ofList]
    exact ⟨by simpa using hne, tight_cleanLabel cs,
      fun hmem => hbar cs rfl (cleanLabel_isInfix.subset hmem)⟩
  | node id body => cases hedge

/-! ## Diagrams -/

theorem isWellFormed_read (text : String) : (read text).IsWellFormed where
  distinct := by
    rw [read_nodes]
    exact nodup_firstNodes _
  nodes := fun n hn => (of_mem_read_nodes hn).1
  edges := by
    intro edge hedge
    rw [read_edges, ← statements] at hedge
    obtain ⟨s, hs, hedge⟩ := List.mem_filterMap.mp hedge
    exact (isSound_of_mem_statements hs).isWellFormed_edge hedge
  sections := by
    intro named hnamed
    rw [read_sections] at hnamed
    obtain ⟨s, hs, hnamed⟩ := List.mem_filterMap.mp (Entries.mem_of_mem_ofList hnamed)
    exact (isSound_of_mem_statements hs).section?_ne_empty hnamed

/-- A text is read well: its diagram is well formed, the frame of every node that one of its lines
defines is recognised as the body that the line gives the node, and so is the frame of every node
of the diagram. -/
structure IsWellRead (text : String) : Prop where
  diagram : (read text).IsWellFormed
  frames : ∀ raw ∈ lines text.toList, ∀ s, Statement.read? raw = some s → ∀ x ∈ s.definitions,
    Endpoint.StandsOn ⟨x.1, some x.2⟩ raw
  shapes : ∀ n ∈ (read text).nodes, ∃ raw ∈ lines text.toList, ∃ body,
    Endpoint.StandsOn ⟨n.id.toList, some body⟩ raw ∧ n.shape = body.shape ∧
      n.label = String.ofList (cleanLabel body.label)

/-- **Every text is read well,** whether it is written well or not. -/
theorem isWellRead (text : String) : IsWellRead text where
  diagram := isWellFormed_read text
  frames := fun raw _ s hread x hx => standsOn_of_mem_definitions hread hx
  shapes := by
    intro n hn
    obtain ⟨-, s, hs, x, hx, open?, rfl⟩ := of_mem_read_nodes hn
    obtain ⟨raw, hraw, hread⟩ := List.mem_filterMap.mp hs
    have hstands := standsOn_of_mem_definitions hread hx
    refine ⟨raw, hraw, x.2, ?_, rfl, rfl⟩
    rwa [definedNode, String.toList_ofList]

/-- Nodes keep their first frame, and a label that is empty in its quotes makes none. -/
example : (read "a[x] --> b[\"\"]\na((y)) --> c[[c]]").nodes = [⟨"a", "x", .process, none⟩] := by
  decide +kernel

end Diagram

end StepFlow
