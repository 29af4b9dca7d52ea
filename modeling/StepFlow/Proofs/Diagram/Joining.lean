import Mathlib.Data.List.Induction
import StepFlow.Proofs.Diagram.Node
import StepFlow.Proofs.Entries
/-!
# Diagrams of joined texts

What a text draws behind another one. Its arrows follow those before them, and its sections are
written over the earlier ones. Its nodes are those it draws alone, without the ones whose ids are
taken: both readings see the same definitions, so a run of additions beside earlier nodes keeps in
step with the run that starts from nothing (`exists_foldl_addNode`). The two differ in the open
section alone, and not even there if the first text leaves none open (`read_append`).
-/

namespace StepFlow.Diagram

variable {α : Type} {face : Node → α} {idOf : α → String} {ms ns kept : List Node} {m n : Node}
variable {ss : List Statement}

/-! ## Two runs in step -/

/-- A node that is new beside added nodes is new beside those that look like them. -/
theorem isNew_congr (hid : ∀ n, idOf (face n) = n.id) (hface : ms.map face = ns.map face)
    (hn : face m = face n) : isNew ms m = isNew ns n := by
  have hids (xs : List Node) : xs.map (·.id) = (xs.map face).map idOf := by
    simp [hid]
  rw [Bool.eq_iff_iff, isNew_iff, isNew_iff, hids, hids, hface, ← hid m, ← hid n, hn]

theorem isNew_append : isNew (ms ++ ns) n = (isNew ms n && isNew ns n) := by
  simp [isNew]

/-- A node that is new beside some nodes is new beside others if it is new beside those of them
that are new as well. -/
theorem isNew_filter (h : isNew kept n = true) : isNew (ns.filter (isNew kept)) n = isNew ns n := by
  rw [Bool.eq_iff_iff, isNew_iff, isNew_iff]
  refine not_congr ⟨fun hmem => ?_, fun hmem => ?_⟩
  · exact (List.filter_sublist.map _).subset hmem
  · obtain ⟨x, hx, hxid⟩ := List.mem_map.mp hmem
    refine List.mem_map.mpr ⟨x, List.mem_filter.mpr ⟨hx, ?_⟩, hxid⟩
    rw [isNew_iff] at h ⊢
    rwa [hxid]

/-- **Additions beside earlier nodes keep in step** with additions to nothing: they come to look
like these without the ids that were taken before. -/
theorem exists_foldl_addNode (face : Node → α) (idOf : α → String)
    (hid : ∀ n, idOf (face n) = n.id) (kept : List Node)
    (h : ms.map face = ns.map face) :
    ∃ added, ms.foldl addNode kept = kept ++ added ∧
      added.map face = ((ns.foldl addNode []).filter (isNew kept)).map face := by
  induction ms using List.reverseRecOn generalizing ns with
  | nil =>
    obtain rfl := List.map_eq_nil_iff.mp h.symm
    exact ⟨[], by simp, rfl⟩
  | append_singleton ms m ih =>
    rw [List.map_append] at h
    obtain ⟨ns, last, rfl, hns, hlast⟩ := List.map_eq_append_iff.mp h.symm
    obtain ⟨n, rfl, hn⟩ := List.map_eq_singleton_iff.mp hlast
    obtain ⟨added, hadded, hface⟩ := ih hns.symm
    rw [List.foldl_append, List.foldl_append, hadded, List.foldl_cons, List.foldl_nil,
      List.foldl_cons, List.foldl_nil]
    generalize ns.foldl addNode [] = alone at hface ⊢
    have hkept : isNew kept m = isNew kept n := isNew_congr hid rfl hn.symm
    by_cases hnew : isNew kept n = true
    · -- beside the kept nodes both are new or neither is
      have hsame : isNew (kept ++ added) m = isNew alone n := by
        rw [isNew_append, hkept, hnew, Bool.true_and, isNew_congr hid hface hn.symm,
          isNew_filter hnew]
      rw [addNode, addNode, hsame]
      by_cases halone : isNew alone n = true
      · rw [if_pos halone, if_pos halone]
        exact ⟨added ++ [m], by simp, by simp [hface, hn, hnew]⟩
      · rw [if_neg halone, if_neg halone]
        exact ⟨added, rfl, hface⟩
    · -- the id was taken before, so what the other run does is left out
      refine ⟨added, ?_, ?_⟩
      · rw [addNode, isNew_append, hkept, if_neg (by simp [hnew])]
      · rw [hface, addNode]
        split
        · simp [hnew]
        · rfl

/-! ## The open section -/

/-- Whether a statement opens or closes a section. -/
def Statement.isBorder : Statement → Bool
  | .opening _ _ => true
  | .closing => true
  | _ => false

/-- **A text leaves no section open:** the last of its lines that opens or closes a section closes
one, or there is no such line. -/
def LeavesNoneOpen (text : String) : Prop :=
  ∀ s ∈ ((statements text).filter Statement.isBorder).getLast?, s = .closing

/-- The label of the section that is open after several statements. -/
def openAfterAll (current? : Option String) (ss : List Statement) : Option String :=
  ss.foldl Statement.openAfter current?

theorem openAfterAll_eq_none
    (h : ∀ s ∈ (ss.filter Statement.isBorder).getLast?, s = .closing) :
    openAfterAll none ss = none := by
  induction ss using List.reverseRecOn with
  | nil => rfl
  | append_singleton ss s ih =>
    have hlast : openAfterAll none (ss ++ [s]) = s.openAfter (openAfterAll none ss) :=
      List.foldl_append
    rw [hlast]
    by_cases hborder : s.isBorder = true
    · rw [List.filter_append, List.filter_cons_of_pos hborder, List.filter_nil,
        List.getLast?_concat] at h
      rw [h s rfl]
      rfl
    · rw [List.filter_append, List.filter_cons_of_neg hborder, List.filter_nil,
        List.append_nil] at h
      cases s with
      | opening id label? => exact absurd rfl hborder
      | closing => exact absurd rfl hborder
      | edge source label? target => exact ih h
      | node id body => exact ih h

theorem allDefined_append (current? : Option String) (ss rest : List Statement) :
    allDefined current? (ss ++ rest) =
      allDefined current? ss ++ allDefined (openAfterAll current? ss) rest := by
  induction ss generalizing current? with
  | nil => rfl
  | cons s ss ih =>
    rw [List.cons_append, allDefined, ih, allDefined, List.append_assoc]
    rfl

/-- The open section decides nothing but the section of nodes. -/
theorem map_allDefined_congr (current? other? : Option String) (ss : List Statement) :
    (allDefined current? ss).map (fun n => (n.id, n.label, n.shape)) =
      (allDefined other? ss).map (fun n => (n.id, n.label, n.shape)) := by
  induction ss generalizing current? other? with
  | nil => rfl
  | cons s ss ih =>
    rw [allDefined, allDefined, List.map_append, List.map_append, ih _ (s.openAfter other?)]
    simp [definedNodes, definedNode, Function.comp_def]

/-! ## The whole -/

theorem filter_isNew :
    ns.filter (isNew kept) = ns.filter fun n => n.id ∉ kept.map (·.id) :=
  List.filter_congr fun n _ => by rw [Bool.eq_iff_iff, isNew_iff, decide_eq_true_iff]

/-- The nodes of the second text behind those of the first. -/
theorem exists_read_nodes_append (text more : String) :
    ∃ added, (read (text ++ "\n" ++ more)).nodes = (read text).nodes ++ added ∧
      added.map (fun n => (n.id, n.label, n.shape)) =
        ((read more).nodes.filter (isNew (read text).nodes)).map
          (fun n => (n.id, n.label, n.shape)) ∧
      (LeavesNoneOpen text → added = (read more).nodes.filter (isNew (read text).nodes)) := by
  have hnodes : (read (text ++ "\n" ++ more)).nodes =
      (allDefined (openAfterAll none (statements text)) (statements more)).foldl addNode
        (read text).nodes := by
    rw [read_nodes, read_nodes, statements_append, allDefined_append, ← foldl_addNode_nil,
      List.foldl_append, foldl_addNode_nil]
  have hface := map_allDefined_congr (openAfterAll none (statements text)) none (statements more)
  obtain ⟨added, hadded, hlike⟩ :=
    exists_foldl_addNode _ Prod.fst (fun _ => rfl) (read text).nodes hface
  rw [foldl_addNode_nil, ← read_nodes] at hlike
  refine ⟨added, hnodes.trans hadded, hlike, fun hnone => ?_⟩
  -- with no section open the definitions are the same, sections included
  rw [openAfterAll_eq_none hnone] at hadded
  obtain ⟨same, hsame, hequal⟩ :=
    exists_foldl_addNode id Node.id (fun _ => rfl) (read text).nodes
      (rfl : (allDefined none (statements more)).map id = _)
  rw [foldl_addNode_nil, ← read_nodes, List.map_id, List.map_id] at hequal
  rw [List.append_cancel_left (hadded.symm.trans hsame), hequal]

/-- **The diagram of two joined texts.** The arrows of the second follow those of the first; its
nodes do so without those whose ids are taken, in the same sections if the first leaves none open;
and its sections are written over those of the first. -/
theorem read_append (text more : String) :
    (read (text ++ "\n" ++ more)).edges = (read text).edges ++ (read more).edges ∧
      (∃ added, (read (text ++ "\n" ++ more)).nodes = (read text).nodes ++ added ∧
        added.map (fun n => (n.id, n.label, n.shape)) =
          ((read more).nodes.filter fun n => n.id ∉ (read text).nodes.map (·.id)).map
            (fun n => (n.id, n.label, n.shape)) ∧
        (LeavesNoneOpen text →
          added = (read more).nodes.filter fun n => n.id ∉ (read text).nodes.map (·.id))) ∧
      (read (text ++ "\n" ++ more)).sections =
        (read text).sections.putAll (read more).sections := by
  refine ⟨read_edges_append text more, ?_, ?_⟩
  · rw [← filter_isNew]
    exact exists_read_nodes_append text more
  · rw [read_sections, statements_append, List.filterMap_append, read_sections more,
      Entries.putAll_ofList, read_sections]
    exact List.foldl_append

end StepFlow.Diagram
