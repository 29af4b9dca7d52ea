import StepFlow.Proofs.Definition.Precedence
import StepFlow.Proofs.Definition.Row
/-!
# Steps that are in order already

A definition that lists its steps in an order of execution keeps this order. Each id in turn is the
next one (`IsNext`): what its step depends on has been visited before it or is no step, so each
visit inside its visit returns at once, and the ids visited, like the ids placed, are those of the
list so far. Both the order (`executionOrder_of_inOrder`) and the depth of the visits
(`visitDepth_le_two`) are read off one induction along the list (`InOrder.foldl_induction`).

The order of execution of a sound definition is such a list, so the definition whose steps are
rearranged into it keeps the order that it has been given (`ordered_arrange`).
-/

namespace StepFlow.Definition

open Relation

variable {d : Definition} {steps : List Step} {order visited targets : List String} {id : String}
variable {fuel level : Nat}

/-- **The steps are in order:** what a step depends on is no step, or one that the list has before
it. -/
def InOrder (d : Definition) : Prop :=
  ∀ s ∈ d.steps, ∀ b ∈ s.dependencies, b ∉ d.ids ∨ d.ids.idxOf b < d.ids.idxOf s.id

/-- The definition with its steps rearranged into the order of the given ids. -/
def arrange (d : Definition) (order : List String) : Definition :=
  { d with steps := order.filterMap (lastStep? d.steps) }

/-! ## Visits that return at once -/

/-- Nothing is left to do for an id: it is visited, or it is no step. -/
def IsIdle (steps : List Step) (visited : List String) (id : String) : Prop :=
  id ∈ visited ∨ id ∉ steps.map (·.id)

/-- A visit of such an id marks nothing, however deep it is made. -/
theorem descend_eq_self {v : Descent} (h : IsIdle steps v.visited id) :
    descend steps fuel level v id = { v with deepest := max v.deepest level } := by
  cases fuel with
  | zero => rfl
  | succ fuel =>
    unfold descend
    by_cases hvisited : id ∈ v.visited
    · rw [if_pos (List.contains_iff_mem.mpr hvisited)]
    · rw [if_neg (by simpa using hvisited)]
      cases hstep : lastStep? steps id with
      | none => rfl
      | some s =>
        obtain ⟨hs, rfl⟩ := lastStep?_eq_some hstep
        exact absurd (List.mem_map_of_mem hs) (h.resolve_left hvisited)

theorem foldl_visit_eq_self {v : Visits} (h : ∀ b ∈ targets, IsIdle steps v.visited b) :
    targets.foldl (visit steps fuel) v = v := by
  induction targets with
  | nil => rfl
  | cons b targets ih =>
    rw [List.foldl_cons, visit_eq_self fuel (h b List.mem_cons_self)]
    exact ih fun c hc => h c (List.mem_cons_of_mem _ hc)

theorem exists_foldl_descend_eq {v : Descent} (h : ∀ b ∈ targets, IsIdle steps v.visited b)
    (fuel level : Nat) :
    ∃ deepest ≤ max v.deepest level,
      targets.foldl (descend steps fuel level) v = { v with deepest } := by
  induction targets generalizing v with
  | nil => exact ⟨v.deepest, le_max_left _ _, rfl⟩
  | cons b targets ih =>
    rw [List.foldl_cons, descend_eq_self (h b List.mem_cons_self)]
    obtain ⟨deepest, hle, heq⟩ := ih (v := { v with deepest := max v.deepest level })
      fun c hc => h c (List.mem_cons_of_mem _ hc)
    exact ⟨deepest, by simpa using hle, heq⟩

/-! ## The next step -/

/-- **The id can be placed at once.** It is not visited, and nothing is left to do for what its step
depends on, even for the id itself. -/
def IsNext (steps : List Step) (visited : List String) (id : String) : Prop :=
  id ∉ visited ∧ ∃ s, lastStep? steps id = some s ∧
    ∀ b ∈ s.dependencies, IsIdle steps (id :: visited) b

theorem IsNext.length_pos (h : IsNext steps visited id) : 0 < steps.length := by
  obtain ⟨-, s, hstep, -⟩ := h
  exact List.length_pos_of_mem (lastStep?_eq_some hstep).1

/-- A visit of the next id places it and nothing else. -/
theorem IsNext.visit_eq {v : Visits} (h : IsNext steps v.visited id) (hfuel : 0 < fuel) :
    visit steps fuel v id = ⟨id :: v.visited, id :: v.placed⟩ := by
  obtain ⟨hnew, s, hstep, hidle⟩ := h
  obtain ⟨fuel, rfl⟩ := Nat.exists_eq_succ_of_ne_zero hfuel.ne'
  unfold visit
  rw [if_neg (by simpa using hnew), hstep]
  simp only
  rw [foldl_visit_eq_self hidle]

/-- It makes visits on the next level at most. -/
theorem IsNext.exists_descend_eq {v : Descent} (h : IsNext steps v.visited id) (hfuel : 0 < fuel)
    (level : Nat) :
    ∃ deepest ≤ max v.deepest (level + 1),
      descend steps fuel level v id = ⟨id :: v.visited, deepest⟩ := by
  obtain ⟨hnew, s, hstep, hidle⟩ := h
  obtain ⟨fuel, rfl⟩ := Nat.exists_eq_succ_of_ne_zero hfuel.ne'
  obtain ⟨deepest, hle, hfold⟩ := exists_foldl_descend_eq
    (v := ⟨id :: v.visited, max v.deepest level⟩) hidle fuel (level + 1)
  refine ⟨deepest, hle.trans (by simp only; omega), ?_⟩
  unfold descend
  rw [if_neg (by simpa using hnew), hstep]
  exact hfold

/-! ## Along the list -/

/-- Every id of a list in order is the next one when its turn comes. -/
theorem InOrder.isNext (h : d.InOrder) (hids : d.ids.Nodup) {earlier later : List String}
    (hsplit : d.ids = earlier ++ id :: later) : IsNext d.steps earlier.reverse id := by
  have hmem : id ∈ d.ids := by simp [hsplit]
  have hnew : id ∉ earlier := by
    intro hid
    rw [hsplit] at hids
    exact (List.nodup_append.mp hids).2.2 id hid id List.mem_cons_self rfl
  obtain ⟨s, hs, rfl⟩ := List.mem_map.mp hmem
  refine ⟨by simpa using hnew, s, lastStep?_id hids hs, fun b hb => ?_⟩
  rcases h s hs b hb with hb | hlt
  · exact .inr hb
  · refine .inl (List.mem_cons_of_mem _ (List.mem_reverse.mpr ?_))
    -- the place of the step is the number of ids before it
    rw [hsplit, List.idxOf_append_of_notMem hnew, List.idxOf_cons_self, Nat.add_zero] at hlt
    by_contra hlater
    rw [List.idxOf_append_of_notMem hlater] at hlt
    omega

/-- **What each next id preserves holds in the end**, of all ids with the last one first. -/
theorem InOrder.foldl_induction (h : d.InOrder) (hids : d.ids.Nodup) {State : Type}
    {visitOne : State → String → State} {start : State} (holds : List String → State → Prop)
    (hstart : holds [] start)
    (hnext : ∀ visited id v, IsNext d.steps visited id → holds visited v →
      holds (id :: visited) (visitOne v id)) :
    holds d.ids.reverse (d.ids.foldl visitOne start) := by
  suffices hrun : ∀ later earlier v, d.ids = earlier ++ later → holds earlier.reverse v →
      holds d.ids.reverse (later.foldl visitOne v) from hrun d.ids [] start rfl hstart
  intro later
  induction later with
  | nil =>
    intro earlier v hsplit hv
    rwa [hsplit, List.append_nil]
  | cons id later ih =>
    intro earlier v hsplit hv
    refine ih (earlier ++ [id]) (visitOne v id) (by simpa using hsplit) ?_
    rw [List.reverse_append]
    exact hnext _ _ _ (h.isNext hids hsplit) hv

/-- **Steps in order are placed as they are listed.** -/
theorem executionOrder_of_inOrder (hids : d.ids.Nodup) (h : d.InOrder) :
    d.executionOrder = d.ids := by
  have hvisits : d.ids.foldl (visit d.steps d.steps.length) {} = ⟨d.ids.reverse, d.ids.reverse⟩ := by
    refine h.foldl_induction hids (fun visited (v : Visits) => v = ⟨visited, visited⟩) rfl ?_
    rintro visited id _ hid rfl
    exact hid.visit_eq hid.length_pos
  rw [executionOrder, hvisits, List.reverse_reverse]

/-- Never is a visit made inside more than one other. -/
theorem visitDepth_le_two (hids : d.ids.Nodup) (h : d.InOrder) : d.visitDepth ≤ 2 := by
  have hdescents : ∃ deepest ≤ 2,
      d.ids.foldl (descend d.steps d.steps.length 1) {} = ⟨d.ids.reverse, deepest⟩ := by
    refine h.foldl_induction hids
      (fun visited (v : Descent) => ∃ deepest ≤ 2, v = ⟨visited, deepest⟩) ⟨0, Nat.zero_le 2, rfl⟩ ?_
    rintro visited id _ hid ⟨deepest, hle, rfl⟩
    obtain ⟨deepest', hle', heq⟩ :=
      IsNext.exists_descend_eq (v := ⟨visited, deepest⟩) hid hid.length_pos 1
    exact ⟨deepest', hle'.trans (max_le hle le_rfl), heq⟩
  obtain ⟨deepest, hle, heq⟩ := hdescents
  rw [visitDepth, heq]
  exact hle

/-- **So the order of the list is found.** -/
theorem ordered_of_inOrder (hids : d.ids.Nodup) (h : d.InOrder) : d.ordered = .ok d.ids := by
  have hdepth : d.visitDepth ≤ visitLimit := (visitDepth_le_two hids h).trans (by decide)
  rw [ordered, if_pos hdepth, executionOrder_of_inOrder hids h]

/-! ## Rearranged steps -/

/-- The ids are rearranged into the given order. -/
theorem ids_arrange (horder : order ⊆ d.ids) : (d.arrange order).ids = order := by
  have hname : ∀ id ∈ order, (lastStep? d.steps id).map (·.id) = some id := by
    intro id hid
    cases hstep : lastStep? d.steps id with
    | none => exact absurd (horder hid) (lastStep?_eq_none hstep)
    | some s => exact congrArg some (lastStep?_eq_some hstep).2
  rw [ids, arrange, List.map_filterMap, List.filterMap_congr hname, List.filterMap_some]

/-- No step is lost and none comes in. -/
theorem arrange_perm (hids : d.ids.Nodup) (horder : order.Perm d.ids) :
    (d.arrange order).steps.Perm d.steps := by
  have hself : d.ids.filterMap (lastStep? d.steps) = d.steps := by
    rw [ids, List.filterMap_map]
    exact (List.filterMap_congr fun s hs => lastStep?_id hids hs).trans List.filterMap_some
  have hmoved := horder.filterMap (lastStep? d.steps)
  rwa [hself] at hmoved

/-- **The order of execution of a sound definition lists its steps in order.** -/
theorem inOrder_arrange (hcheck : d.check = .ok ()) : (d.arrange d.executionOrder).InOrder := by
  obtain ⟨hcoherent, hacyclic⟩ := check_eq_ok_iff.mp hcheck
  have hperm := executionOrder_perm d hcoherent.distinct
  intro s hs b hb
  have hs := (arrange_perm hcoherent.distinct hperm).mem_iff.mp hs
  rw [ids_arrange hperm.subset]
  right
  refine idxOf_executionOrder_lt d hcoherent.distinct ⟨s, hs, rfl, hb⟩ (hcoherent.known s hs b hb) ?_
  intro hback
  exact hacyclic ⟨s.id, TransGen.head' ⟨s, hs, rfl, hb⟩ hback⟩

/-- **Rearranged, the steps keep their order.** -/
theorem ordered_arrange (hcheck : d.check = .ok ()) :
    (d.arrange d.executionOrder).steps.Perm d.steps ∧
      (d.arrange d.executionOrder).ids = d.executionOrder ∧
      (d.arrange d.executionOrder).ordered = .ok d.executionOrder := by
  have hids := (coherent_of_check hcheck).distinct
  have horder := executionOrder_perm d hids
  have hmoved := ids_arrange horder.subset
  refine ⟨arrange_perm hids horder, hmoved, ?_⟩
  have hfound := ordered_of_inOrder (by rw [hmoved]; exact horder.nodup_iff.mpr hids)
    (inOrder_arrange hcheck)
  rwa [hmoved] at hfound

/-- **Putting steps into order changes nothing where they are in order.** That is so of steps that
depend on earlier ones and on what is no step alone, and of the steps of every sound definition once
they stand in the order that was found for them. -/
theorem ordered_stable (d : Definition) :
    (d.ids.Nodup → d.InOrder → d.ordered = .ok d.ids) ∧
      (d.check = .ok () →
        (d.arrange d.executionOrder).steps.Perm d.steps ∧
        (d.arrange d.executionOrder).ids = d.executionOrder ∧
        (d.arrange d.executionOrder).ordered = .ok d.executionOrder ∧
        ∀ order, d.ordered = .ok order → (d.arrange order).ordered = .ok order) := by
  refine ⟨ordered_of_inOrder, fun hcheck => ?_⟩
  obtain ⟨hperm, hids, hordered⟩ := ordered_arrange hcheck
  refine ⟨hperm, hids, hordered, fun order hfound => ?_⟩
  rw [eq_executionOrder_of_ordered hfound]
  exact hordered

/-- A lid, a box on which the lid is put twice and that waits for a stamp from elsewhere, and a bill
for both. -/
def packed : Definition where
  steps := [
    { id := "lid", name := "Lid", order := 1, kind := .action },
    { id := "box", name := "Box", order := 2, kind := .action,
      dependencies := ["lid", "stamp", "lid"] },
    { id := "bill", name := "Bill", order := 3, kind := .notification,
      dependencies := ["box", "lid"] }]

/-- A bill in front of what it is for, and a label apart from them. -/
def unpacked : Definition where
  steps := [
    { id := "bill", name := "Bill", order := 1, kind := .notification,
      dependencies := ["box", "lid"] },
    { id := "label", name := "Label", order := 2, kind := .action },
    { id := "box", name := "Box", order := 3, kind := .action, dependencies := ["lid"] },
    { id := "lid", name := "Lid", order := 4, kind := .action }]

/-- What is listed in order keeps it, and what is not keeps the order into which it is put. -/
theorem ordered_stable_packed :
    (packed.ids.Nodup ∧ packed.InOrder ∧ packed.ordered = .ok ["lid", "box", "bill"]) ∧
      unpacked.check = .ok () ∧ unpacked.executionOrder = ["lid", "box", "bill", "label"] ∧
      (unpacked.arrange unpacked.executionOrder).ordered = .ok unpacked.executionOrder := by
  have hids : packed.ids.Nodup := by decide
  have horder : packed.InOrder := by unfold InOrder; decide
  have hcheck : unpacked.check = .ok () := by decide
  exact ⟨⟨hids, horder, (ordered_stable packed).1 hids horder⟩, hcheck, by decide,
    ((ordered_stable unpacked).2 hcheck).2.2.1⟩

end StepFlow.Definition
