import StepFlow.Proofs.Definition.Flaw
import StepFlow.Proofs.Definition.Visiting
/-!
# Steps in a row

Steps of which each depends on the one before it and on nothing else, stored in any order. They have
one order of execution, the row (`executionOrder_eq`). How many visits are made inside each other on
the way depends on where the steps are stored: never more than there are steps
(`visitDepth_le`), and as many as that if the last step of the row is visited first
(`visitDepth_eq`).
-/

namespace StepFlow.Definition

variable {d : Definition} {steps : List Step} {row earlier targets : List String} {a b id : String}
variable {fuel n : Nat} {v : Descent}

/-- **The ids stand in a row,** the latest one first: each is the id of a step, which depends on the
next id of the list and on nothing else. -/
def IsRow (steps : List Step) : List String → Prop
  | [] => True
  | id :: earlier =>
    (∃ s, lastStep? steps id = some s ∧ s.dependencies = earlier.head?.toList) ∧
      IsRow steps earlier

/-- Where ids are distinct, the last step of an id is its step. -/
theorem lastStep?_id (hids : (steps.map (·.id)).Nodup) {s : Step} (hs : s ∈ steps) :
    lastStep? steps s.id = some s := by
  cases h : lastStep? steps s.id with
  | none => exact absurd (List.mem_map_of_mem hs) (lastStep?_eq_none h)
  | some t =>
    obtain ⟨ht, hid⟩ := lastStep?_eq_some h
    rw [eq_of_id_eq hids ht hs hid]

/-! ## One order -/

/-- Neighbours of a row depend on each other. -/
theorem IsRow.isChain (h : IsRow steps row) : row.IsChain (Needs steps) := by
  induction row with
  | nil => exact .nil
  | cons id earlier ih =>
    obtain ⟨⟨s, hstep, hdependencies⟩, hearlier⟩ := h
    obtain ⟨hs, hid⟩ := lastStep?_eq_some hstep
    refine (ih hearlier).cons fun b hb => ⟨s, hs, hid, ?_⟩
    rw [hdependencies, hb]
    exact List.mem_singleton_self b

/-- In a list without repetitions indices increase. -/
theorem pairwise_idxOf_lt {ids : List String} (hnd : ids.Nodup) :
    ids.Pairwise fun a b => ids.idxOf a < ids.idxOf b := by
  rw [List.pairwise_iff_getElem]
  intro i j hi hj hij
  rwa [hnd.idxOf_getElem, hnd.idxOf_getElem]

/-- **A row has one order of execution,** wherever its steps are stored. -/
theorem executionOrder_eq (hids : d.ids.Nodup) (hacyclic : ¬ Cyclic d.steps)
    (hrow : IsRow d.steps row) (hperm : d.ids.Perm row.reverse) :
    d.executionOrder = row.reverse := by
  have horder := executionOrder_perm d hids
  -- both lists are sorted by the places in the order
  let before (a b : String) : Prop := d.executionOrder.idxOf a < d.executionOrder.idxOf b
  have : Trans before before before := ⟨lt_trans⟩
  have hsorted : d.executionOrder.Pairwise before :=
    pairwise_idxOf_lt (horder.nodup_iff.mpr hids)
  have hrows : row.reverse.Pairwise before := by
    refine (List.isChain_reverse.mpr ?_).pairwise
    have hstep (a b : String) (_ : a ∈ row) (hb : b ∈ row) (hab : Needs d.steps a b) :
        before b a := by
      refine idxOf_executionOrder_lt d hids hab (hperm.mem_iff.mpr (List.mem_reverse.mpr hb)) ?_
      exact fun hback => hacyclic ⟨a, .head' hab hback⟩
    exact hrow.isChain.imp_of_mem_imp hstep
  exact (horder.trans hperm).eq_of_pairwise (fun _ _ _ _ hab hba => absurd hab hba.not_gt)
    hsorted hrows

/-! ## Visits inside each other -/

/-- Visits never count for less than before. -/
theorem le_deepest_foldl {visitOne : Descent → String → Descent}
    (hvisit : ∀ v id, v.deepest ≤ (visitOne v id).deepest) (targets : List String) (v : Descent) :
    v.deepest ≤ (targets.foldl visitOne v).deepest := by
  induction targets generalizing v with
  | nil => exact le_rfl
  | cons id targets ih => exact (hvisit v id).trans (ih _)

theorem le_deepest_descend (steps : List Step) (fuel level : Nat) (v : Descent) (id : String) :
    max v.deepest level ≤ (descend steps fuel level v id).deepest := by
  induction fuel generalizing level v id with
  | zero => rfl
  | succ fuel ih =>
    simp only [descend]
    split
    · exact le_rfl
    · cases lastStep? steps id with
      | none => exact le_rfl
      | some s =>
        exact le_deepest_foldl (fun v id => (le_max_left _ _).trans (ih (level + 1) v id))
          s.dependencies ⟨id :: v.visited, max v.deepest level⟩

/-- **A visit goes down the row at most to its end.** -/
theorem IsRow.deepest_descend_le (h : IsRow steps (id :: earlier)) (fuel level : Nat)
    (v : Descent) :
    (descend steps fuel level v id).deepest ≤ max v.deepest (level + earlier.length) := by
  induction fuel generalizing level v id earlier with
  | zero => simp only [descend]; omega
  | succ fuel ih =>
    obtain ⟨⟨s, hstep, hdependencies⟩, hearlier⟩ := h
    simp only [descend, hstep, hdependencies]
    split
    · simp only; omega
    · cases earlier with
      | nil => simp
      | cons b earlier =>
        have := ih hearlier (level + 1) ⟨id :: v.visited, max v.deepest level⟩
        simp only [List.head?_cons, Option.toList_some, List.foldl_cons, List.foldl_nil,
          List.length_cons] at this ⊢
        omega

/-- **And all the way if nothing of the row was visited before.** -/
theorem IsRow.le_deepest_descend (h : IsRow steps (id :: earlier)) (hnd : (id :: earlier).Nodup)
    (level : Nat) (hnew : ∀ a ∈ id :: earlier, a ∉ v.visited) (hfuel : earlier.length ≤ fuel) :
    level + earlier.length ≤ (descend steps fuel level v id).deepest := by
  induction fuel generalizing level v id earlier with
  | zero =>
    have := Definition.le_deepest_descend steps 0 level v id
    omega
  | succ fuel ih =>
    obtain ⟨⟨s, hstep, hdependencies⟩, hearlier⟩ := h
    cases earlier with
    | nil =>
      have := Definition.le_deepest_descend steps (fuel + 1) level v id
      simp only [List.length_nil]
      omega
    | cons b earlier =>
      obtain ⟨hid, hnd⟩ := List.nodup_cons.mp hnd
      have hunvisited : ¬ v.visited.contains id = true := by
        simpa using hnew id List.mem_cons_self
      have hrest : ∀ a ∈ b :: earlier, a ∉ id :: v.visited := by
        intro a ha
        rw [List.mem_cons, not_or]
        exact ⟨fun heq => hid (heq ▸ ha), hnew a (List.mem_cons_of_mem _ ha)⟩
      have := ih (v := ⟨id :: v.visited, max v.deepest level⟩) hearlier hnd (level + 1) hrest
        (by simpa using hfuel)
      simp only [descend, hstep, hdependencies, if_neg hunvisited, List.head?_cons,
        Option.toList_some, List.foldl_cons, List.foldl_nil, List.length_cons] at this ⊢
      omega

/-! ## All visits -/

/-- The end of a row is a row. -/
theorem IsRow.of_append {later : List String} (h : IsRow steps (later ++ earlier)) :
    IsRow steps earlier := by
  induction later with
  | nil => exact h
  | cons id later ih => exact ih h.2

theorem deepest_foldl_le {visitOne : Descent → String → Descent}
    (hvisit : ∀ v, ∀ id ∈ targets, (visitOne v id).deepest ≤ max v.deepest n) (v : Descent) :
    (targets.foldl visitOne v).deepest ≤ max v.deepest n := by
  induction targets generalizing v with
  | nil => exact le_max_left _ _
  | cons id targets ih =>
    have hfirst := hvisit v id List.mem_cons_self
    have hrest := ih (fun v a ha => hvisit v a (List.mem_cons_of_mem _ ha)) (visitOne v id)
    rw [List.foldl_cons]
    omega

/-- **Never are there more visits inside each other than ids in the row.** -/
theorem visitDepth_le (hrow : IsRow d.steps row) (hsub : d.ids ⊆ row) :
    d.visitDepth ≤ row.length := by
  have hvisit (v : Descent) (id : String) (hid : id ∈ d.ids) :
      (descend d.steps d.steps.length 1 v id).deepest ≤ max v.deepest row.length := by
    obtain ⟨later, earlier, rfl⟩ := List.append_of_mem (hsub hid)
    have := hrow.of_append.deepest_descend_le d.steps.length 1 v
    rw [List.length_append, List.length_cons]
    omega
  have := deepest_foldl_le hvisit {}
  rw [visitDepth]
  simpa using this

/-- **And there are as many if the row is visited from its last step on.** -/
theorem visitDepth_eq (hrow : IsRow d.steps d.ids) (hids : d.ids.Nodup) :
    d.visitDepth = d.ids.length := by
  refine le_antisymm (visitDepth_le hrow (List.Subset.refl _)) ?_
  have hlength : d.steps.length = d.ids.length := (List.length_map _).symm
  rw [visitDepth, hlength]
  cases hd : d.ids with
  | nil => exact Nat.zero_le _
  | cons id earlier =>
    rw [hd] at hrow hids
    have hgrow : ∀ v id, v.deepest ≤ (descend d.steps (id :: earlier).length 1 v id).deepest :=
      fun v id => (le_max_left _ _).trans (le_deepest_descend _ _ _ v id)
    have hfirst : 1 + earlier.length ≤
        (descend d.steps (id :: earlier).length 1 {} id).deepest :=
      hrow.le_deepest_descend hids 1 (by simp) (by simp)
    calc (id :: earlier).length = 1 + earlier.length := Nat.add_comm _ _
      _ ≤ (descend d.steps (id :: earlier).length 1 {} id).deepest := hfirst
      _ ≤ _ := le_deepest_foldl hgrow earlier _

end StepFlow.Definition
