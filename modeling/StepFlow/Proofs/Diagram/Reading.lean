import StepFlow.Diagram.Reading
import StepFlow.Proofs.Diagram.Label
import StepFlow.Proofs.Diagram.Statement
/-!
# What diagrams hold

The arrows of a diagram are those that its lines say, one after another, whatever nodes and sections
stand between them (`read_edges`); so the arrows of joined texts are joined
(`read_edges_append`), and the label of an arrow can be written on a line again
(`of_mem_read_edges`). Nodes depend on those before them, but a row of nodes with ids and labels of
their own is taken over as it is (`foldl_apply_nodes`).
-/

namespace StepFlow.Diagram

open Text

variable {p : Progress} {s : Statement} {edge : Edge} {text label : String}

/-- The arrow that a statement adds. -/
def Statement.edge? : Statement → Option Edge
  | .edge source label? target =>
    some ⟨String.ofList source.id, String.ofList target.id, Progress.arrowLabel label?⟩
  | _ => none

/-! ## Arrows -/

theorem Progress.define_edges (p : Progress) (id : List Char) (body : Body) :
    (p.define id body).diagram.edges = p.diagram.edges := by
  simp only [define]
  split <;> rfl

theorem Progress.defineEnd_edges (p : Progress) (e : Endpoint) :
    (p.defineEnd e).diagram.edges = p.diagram.edges := by
  rw [defineEnd]
  split
  · exact define_edges p _ _
  · rfl

/-- **A statement adds its arrow** and keeps all others. -/
theorem Progress.apply_edges (p : Progress) (s : Statement) :
    (p.apply s).diagram.edges = p.diagram.edges ++ s.edge?.toList := by
  cases s with
  | opening id label? => simp [apply, enter, Statement.edge?]
  | closing => simp [apply, Statement.edge?]
  | edge source label? target =>
    simp [apply, connect, Statement.edge?, defineEnd_edges]
  | node id body => simp [apply, Statement.edge?, define_edges]

theorem foldl_apply_edges (p : Progress) (ss : List Statement) :
    (ss.foldl Progress.apply p).diagram.edges =
      p.diagram.edges ++ ss.filterMap Statement.edge? := by
  induction ss generalizing p with
  | nil => simp
  | cons s ss ih =>
    rw [List.foldl_cons, ih, Progress.apply_edges, List.append_assoc]
    cases hs : s.edge? <;> simp [hs]

/-- **The arrows of a diagram** are those that its lines say. -/
theorem read_edges (text : String) :
    (read text).edges =
      ((lines text.toList).filterMap Statement.read?).filterMap Statement.edge? := by
  rw [read, foldl_apply_edges]
  rfl

/-- **The arrows of joined texts are joined.** -/
theorem read_edges_append (text more : String) :
    (read (text ++ "\n" ++ more)).edges = (read text).edges ++ (read more).edges := by
  have hlist : (text ++ "\n" ++ more).toList = text.toList ++ '\n' :: more.toList := by
    simp
  rw [read_edges, read_edges, read_edges, hlist, filterMap_lines_append read?_nil,
    List.filterMap_append]

/-- A label on an arrow is what cleaning leaves of it. -/
theorem arrowLabel_eq_some_iff {raw : Option (List Char)} :
    Progress.arrowLabel raw = some label ↔
      ∃ cs, raw = some cs ∧ label = String.ofList (cleanLabel cs) ∧ cleanLabel cs ≠ [] := by
  simp only [Progress.arrowLabel, Option.bind_eq_bind, Option.bind_eq_some_iff]
  refine exists_congr fun cs => and_congr_right fun _ => ?_
  by_cases hempty : cleanLabel cs = []
  · simp [hempty]
  · rw [if_neg (by simpa using hempty), Option.some.injEq, eq_comm]
    simp [hempty]

/-- **The label of an arrow** is not empty, has no bar and is inline. -/
theorem of_mem_read_edges (hedge : edge ∈ (read text).edges) (hlabel : edge.label = some label) :
    label ≠ "" ∧ '|' ∉ label.toList ∧ Inline label.toList := by
  rw [read_edges] at hedge
  obtain ⟨s, hs, hedge⟩ := List.mem_filterMap.mp hedge
  obtain ⟨raw, hraw, hread⟩ := List.mem_filterMap.mp hs
  cases s with
  | edge source label? target =>
    obtain rfl := Option.some.inj hedge
    obtain ⟨cs, rfl, rfl, hne⟩ := arrowLabel_eq_some_iff.mp hlabel
    obtain ⟨hbar, hpart⟩ := of_read?_eq_edge hread
    rw [String.toList_ofList]
    refine ⟨by simpa using hne, fun h => hbar (cleanLabel_isInfix.subset h), ?_⟩
    exact inline_cleanLabel fun c hc => isBreak_of_mem_lines hraw (hpart.subset hc)
  | opening id label? => cases hedge
  | closing => cases hedge
  | node id body => cases hedge

/-! ## Nodes -/

/-- The node that a definition adds while a section is open. -/
def definedNode (current? : Option String) (id : List Char) (body : Body) : Node :=
  ⟨String.ofList id, String.ofList (cleanLabel body.label), body.shape, current?⟩

/-- **A row of nodes is taken over** if their ids are new and no label is empty or just the id. -/
theorem foldl_apply_nodes {row : List (List Char × Body)} (hnew : (row.map (·.1)).Nodup)
    (hfree : ∀ x ∈ row, ∀ n ∈ p.diagram.nodes, n.id ≠ String.ofList x.1)
    (hlabel : ∀ x ∈ row, cleanLabel x.2.label ≠ [] ∧ cleanLabel x.2.label ≠ x.1) :
    (row.map fun x => Statement.node x.1 x.2).foldl Progress.apply p =
      { p with diagram := { p.diagram with
        nodes := p.diagram.nodes ++ row.map fun x => definedNode p.current? x.1 x.2 } } := by
  induction row generalizing p with
  | nil => simp
  | cons x row ih =>
    rw [List.map_cons, List.nodup_cons] at hnew
    obtain ⟨hempty, hid⟩ := hlabel x List.mem_cons_self
    have hstep : p.apply (.node x.1 x.2) =
        { p with diagram := { p.diagram with
          nodes := p.diagram.nodes ++ [definedNode p.current? x.1 x.2] } } := by
      have hfresh : ¬ p.diagram.nodes.any (·.id == String.ofList x.1) = true := by
        simpa using hfree x List.mem_cons_self
      simp only [Progress.apply, Progress.define]
      rw [if_neg (by simp [hempty, hid, hfresh])]
      rfl
    rw [List.map_cons, List.foldl_cons, hstep, ih hnew.2]
    · simp
    · -- the id just taken is not that of a later node
      intro y hy n hn
      rcases List.mem_append.mp hn with hn | hn
      · exact hfree y (List.mem_cons_of_mem _ hy) n hn
      · rw [List.mem_singleton.mp hn]
        rintro heq
        have hsame : x.1 = y.1 := String.ofList_injective heq
        exact hnew.1 (hsame ▸ List.mem_map_of_mem hy)
    · exact fun y hy => hlabel y (List.mem_cons_of_mem _ hy)

end StepFlow.Diagram
