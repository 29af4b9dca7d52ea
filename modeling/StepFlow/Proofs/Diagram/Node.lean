import StepFlow.Proofs.Diagram.Reading
/-!
# Which nodes and sections a diagram holds

A statement may define nodes, the source of an arrow before its target, all in the section that is
open there. A definition counts if its label is not empty and not just the id; the others leave no
trace. The nodes of a diagram are the definitions that count, the first one for each id
(`read_nodes`), and its sections are the openings, written to a table in order (`read_sections`).
-/

namespace StepFlow.Diagram

open Text

variable {n : Node} {kept : List Node}

/-! ## The first node of each id -/

/-- The nodes without those whose id an earlier one has. -/
def firstNodes (ns : List Node) : List Node :=
  ns.eraseDupsBy fun m n => m.id == n.id

/-- Whether none of the nodes has the id of a node. -/
def isNew (kept : List Node) (n : Node) : Bool :=
  !kept.any (·.id == n.id)

/-- The nodes with one more, unless its id is taken. -/
def addNode (kept : List Node) (n : Node) : List Node :=
  if isNew kept n then kept ++ [n] else kept

theorem isNew_iff : isNew kept n = true ↔ n.id ∉ kept.map (·.id) := by
  simp [isNew]

theorem firstNodes_cons (n : Node) (ns : List Node) :
    firstNodes (n :: ns) = n :: firstNodes (ns.filter (isNew [n])) := by
  rw [firstNodes, List.eraseDupsBy_cons, firstNodes]
  refine congrArg (fun ms => n :: List.eraseDupsBy _ ms) (List.filter_congr fun m _ => ?_)
  rw [Bool.eq_iff_iff, isNew_iff]
  simp

/-- **Nodes added one by one** are the first ones of the new ids. -/
theorem foldl_addNode (kept ns : List Node) :
    ns.foldl addNode kept = kept ++ firstNodes (ns.filter (isNew kept)) := by
  induction ns generalizing kept with
  | nil => exact (List.append_nil kept).symm
  | cons n ns ih =>
    rw [List.foldl_cons, ih]
    by_cases hnew : isNew kept n = true
    · have hmore : addNode kept n = kept ++ [n] := if_pos hnew
      have hfilter : ns.filter (isNew (kept ++ [n])) =
          (ns.filter (isNew kept)).filter (isNew [n]) := by
        rw [List.filter_filter]
        refine List.filter_congr fun m _ => ?_
        simp [isNew, Bool.and_comm]
      rw [hmore, hfilter, List.filter_cons_of_pos hnew, firstNodes_cons, List.append_assoc,
        List.singleton_append]
    · have hsame : addNode kept n = kept := if_neg hnew
      rw [hsame, List.filter_cons_of_neg hnew]

theorem foldl_addNode_nil (ns : List Node) : ns.foldl addNode [] = firstNodes ns := by
  have hall : ns.filter (isNew []) = ns := List.filter_eq_self.mpr fun _ _ => rfl
  rw [foldl_addNode, List.nil_append, hall]

theorem mem_addNode_iff {m : Node} :
    m ∈ addNode kept n ↔ m ∈ kept ∨ m = n ∧ isNew kept n = true := by
  rw [addNode]
  split
  · rename_i hnew
    simp [hnew]
  · rename_i htaken
    simp [htaken]

theorem mem_of_mem_foldl_addNode {ns : List Node} (h : n ∈ ns.foldl addNode kept) :
    n ∈ kept ∨ n ∈ ns := by
  induction ns generalizing kept with
  | nil => exact .inl h
  | cons m ns ih =>
    rcases ih h with hmem | hmem
    · rcases mem_addNode_iff.mp hmem with hkept | ⟨rfl, -⟩
      · exact .inl hkept
      · exact .inr List.mem_cons_self
    · exact .inr (List.mem_cons_of_mem m hmem)

theorem nodup_addNode (h : (kept.map (·.id)).Nodup) : ((addNode kept n).map (·.id)).Nodup := by
  rw [addNode]
  split
  · rename_i hnew
    have hfresh : n.id ∉ kept.map (·.id) := isNew_iff.mp hnew
    rw [List.map_append, List.map_singleton, List.nodup_append]
    refine ⟨h, by simp, fun i hi j hj heq => hfresh ?_⟩
    rwa [← List.mem_singleton.mp hj, ← heq]
  · exact h

theorem nodup_foldl_addNode {ns : List Node} (h : (kept.map (·.id)).Nodup) :
    ((ns.foldl addNode kept).map (·.id)).Nodup := by
  induction ns generalizing kept with
  | nil => exact h
  | cons m ns ih => exact ih (nodup_addNode h)

/-- **The first nodes have distinct ids.** -/
theorem nodup_firstNodes (ns : List Node) : ((firstNodes ns).map (·.id)).Nodup := by
  rw [← foldl_addNode_nil]
  exact nodup_foldl_addNode List.nodup_nil

/-- The first nodes are among the nodes. -/
theorem mem_of_mem_firstNodes {ns : List Node} (h : n ∈ firstNodes ns) : n ∈ ns := by
  rw [← foldl_addNode_nil] at h
  exact (mem_of_mem_foldl_addNode h).resolve_left (by simp)

/-! ## Definitions -/

/-- The node that an end of an arrow may define. -/
def Endpoint.definition? (e : Endpoint) : Option (List Char × Body) :=
  e.body?.map (e.id, ·)

/-- The nodes that a statement may define. -/
def Statement.definitions : Statement → List (List Char × Body)
  | .edge source _ target => source.definition?.toList ++ target.definition?.toList
  | .node id body => [(id, body)]
  | _ => []

/-- Whether a definition counts: its label is not empty and not just the id. -/
def counts (x : List Char × Body) : Bool :=
  cleanLabel x.2.label ≠ [] ∧ cleanLabel x.2.label ≠ x.1

/-- The nodes that definitions in a section would be if they were the first ones. -/
def definedNodes (current? : Option String) (xs : List (List Char × Body)) : List Node :=
  (xs.filter counts).map fun x => definedNode current? x.1 x.2

/-- The id and the label of the section that a statement opens; without a label it is called by its
id. -/
def Statement.section? : Statement → Option (String × String)
  | .opening id label? =>
    let label := cleanLabel (label?.getD [])
    some (String.ofList id, String.ofList (if label = [] then id else label))
  | _ => none

/-- The label of the section that is open after a statement. -/
def Statement.openAfter (before? : Option String) : Statement → Option String
  | .opening id label? => (Statement.opening id label?).section?.map (·.2)
  | .closing => none
  | _ => before?

/-- The nodes that statements in a row would define, each in the section open there. -/
def allDefined : (current? : Option String) → List Statement → List Node
  | _, [] => []
  | current?, s :: rest =>
    definedNodes current? s.definitions ++ allDefined (s.openAfter current?) rest

/-! ## One statement -/

theorem Progress.define_current? (p : Progress) (id : List Char) (body : Body) :
    (p.define id body).current? = p.current? := by
  simp only [define]
  split <;> rfl

theorem Progress.defineEnd_current? (p : Progress) (e : Endpoint) :
    (p.defineEnd e).current? = p.current? := by
  rw [defineEnd]
  split
  · exact define_current? p _ _
  · rfl

/-- A definition adds its node if it counts. -/
theorem Progress.define_nodes (p : Progress) (id : List Char) (body : Body) :
    (p.define id body).diagram.nodes =
      (definedNodes p.current? [(id, body)]).foldl addNode p.diagram.nodes := by
  by_cases hcounts : counts (id, body) = true
  · have hne : cleanLabel body.label ≠ [] ∧ cleanLabel body.label ≠ id := by
      simpa [counts] using hcounts
    rw [definedNodes, List.filter_cons_of_pos hcounts]
    simp only [define]
    by_cases htaken : (p.diagram.nodes.any (·.id == String.ofList id)) = true
    · simp [htaken, addNode, isNew, definedNode]
    · simp [htaken, hne, addNode, isNew, definedNode]
  · have hlabel : (cleanLabel body.label).isEmpty = true ∨ cleanLabel body.label = id := by
      rw [List.isEmpty_iff]
      simpa [counts, Classical.or_iff_not_imp_left] using hcounts
    rw [definedNodes, List.filter_cons_of_neg hcounts]
    simp only [define]
    rw [if_pos (.inr hlabel)]
    rfl

theorem Progress.defineEnd_nodes (p : Progress) (e : Endpoint) :
    (p.defineEnd e).diagram.nodes =
      (definedNodes p.current? e.definition?.toList).foldl addNode p.diagram.nodes := by
  rw [defineEnd, Endpoint.definition?]
  cases e.body? with
  | none => rfl
  | some body => exact define_nodes p e.id body

/-- **A statement adds the nodes it defines**, as far as they count and are new. -/
theorem Progress.apply_nodes (p : Progress) (s : Statement) :
    (p.apply s).diagram.nodes =
      (definedNodes p.current? s.definitions).foldl addNode p.diagram.nodes := by
  cases s with
  | opening id label? => rfl
  | closing => rfl
  | edge source label? target =>
    rw [Statement.definitions, definedNodes, List.filter_append, List.map_append,
      List.foldl_append, ← definedNodes, ← definedNodes, ← defineEnd_nodes,
      ← defineEnd_current? p source, ← defineEnd_nodes]
    rfl
  | node id body => exact define_nodes p id body

/-- A statement opens and closes sections. -/
theorem Progress.apply_current? (p : Progress) (s : Statement) :
    (p.apply s).current? = s.openAfter p.current? := by
  cases s with
  | opening id label? => simp [apply, enter, Statement.openAfter, Statement.section?]
  | closing => rfl
  | edge source label? target =>
    exact (defineEnd_current? _ _).trans (defineEnd_current? _ _)
  | node id body => exact define_current? p id body

theorem Progress.define_sections (p : Progress) (id : List Char) (body : Body) :
    (p.define id body).diagram.sections = p.diagram.sections := by
  simp only [define]
  split <;> rfl

theorem Progress.defineEnd_sections (p : Progress) (e : Endpoint) :
    (p.defineEnd e).diagram.sections = p.diagram.sections := by
  rw [defineEnd]
  split
  · exact define_sections p _ _
  · rfl

/-- **A statement writes the section it opens** to the table. -/
theorem Progress.apply_sections (p : Progress) (s : Statement) :
    (p.apply s).diagram.sections = p.diagram.sections.putAll s.section?.toList := by
  cases s with
  | opening id label? => simp [apply, enter, Statement.section?, Entries.putAll]
  | closing => rfl
  | edge source label? target =>
    exact (defineEnd_sections _ _).trans (defineEnd_sections _ _)
  | node id body => exact define_sections p id body

/-! ## All statements -/

theorem foldl_apply_nodes_eq (p : Progress) (ss : List Statement) :
    (ss.foldl Progress.apply p).diagram.nodes =
      (allDefined p.current? ss).foldl addNode p.diagram.nodes := by
  induction ss generalizing p with
  | nil => rfl
  | cons s ss ih =>
    rw [List.foldl_cons, ih, allDefined, List.foldl_append, Progress.apply_nodes,
      Progress.apply_current?]

theorem foldl_apply_sections (p : Progress) (ss : List Statement) :
    (ss.foldl Progress.apply p).diagram.sections =
      p.diagram.sections.putAll (ss.filterMap Statement.section?) := by
  induction ss generalizing p with
  | nil => rfl
  | cons s ss ih =>
    rw [List.foldl_cons, ih, Progress.apply_sections]
    cases hs : s.section? <;> simp [hs, Entries.putAll]

/-- What the lines of a text say, in order. -/
def statements (text : String) : List Statement :=
  (lines text.toList).filterMap Statement.read?

theorem statements_append (text more : String) :
    statements (text ++ "\n" ++ more) = statements text ++ statements more := by
  have hlist : (text ++ "\n" ++ more).toList = text.toList ++ '\n' :: more.toList := by
    simp
  rw [statements, hlist, filterMap_lines_append read?_nil, statements, statements]

/-- **The nodes of a diagram** are the definitions that count, the first one for each id. -/
theorem read_nodes (text : String) :
    (read text).nodes = firstNodes (allDefined none (statements text)) := by
  rw [read, foldl_apply_nodes_eq]
  exact foldl_addNode_nil _

/-- **The sections of a diagram** are the openings, written in order. -/
theorem read_sections (text : String) :
    (read text).sections = Entries.ofList ((statements text).filterMap Statement.section?) := by
  rw [read, foldl_apply_sections]
  rfl

/-- **A text that says a single arrow** draws it and the nodes at its ends. -/
theorem read_of_statements_eq {text : String} {source target : Endpoint}
    {label? : Option (List Char)} (h : statements text = [.edge source label? target]) :
    read text = {
      nodes := firstNodes
        (definedNodes none (source.definition?.toList ++ target.definition?.toList))
      edges := [⟨String.ofList source.id, String.ofList target.id,
        Progress.arrowLabel label?⟩] } := by
  have hnodes := read_nodes text
  have hedges := read_edges text
  have hsections := read_sections text
  rw [← statements] at hedges
  rw [h] at hnodes hedges hsections
  simp only [allDefined, List.append_nil, Statement.definitions] at hnodes
  simp only [List.filterMap_cons, Statement.edge?, List.filterMap_nil] at hedges
  simp only [List.filterMap_cons, Statement.section?, List.filterMap_nil] at hsections
  rw [← hnodes, ← hedges]
  exact congrArg (Diagram.mk (read text).nodes (read text).edges) hsections

end StepFlow.Diagram
