import StepFlow.Proofs.Definition.Settling
import StepFlow.Proofs.Entries
/-!
# Counting dependencies off

The last check of a definition does not look at what a step lists, only at a counter. Between any
two rounds the counter of each step is the number of its dependencies that are not settled, each as
often as the step lists it (`Counting`). A round counts the settled id off for each time that it is
listed, so the counters stay right, and a counter comes down to zero exactly for the steps that
become ready (`Counting.foldl_countOff`). The check therefore settles the same ids in the same order
as settling by readiness does (`drained_eq_settled`).
-/

namespace StepFlow.Definition

variable {steps : List Step} {counts : Entries String Int} {done waiting : List String}
variable {a id : String} {s : Step}

/-- How many of the dependencies that a step lists are not settled. -/
def unsettledCount (done : List String) (s : Step) : Nat :=
  s.dependencies.countP (· ∉ done)

/-- **The counters are right:** each holds the number of dependencies that are not settled. -/
def Counting (steps : List Step) (done : List String) (counts : Entries String Int) : Prop :=
  ∀ s ∈ steps, counts.get? s.id = some (unsettledCount done s : Int)

/-! ## One step -/

/-- A newly settled id was counted as often as it is listed. -/
theorem unsettledCount_cons (hid : id ∉ done) (s : Step) :
    unsettledCount done s = unsettledCount (id :: done) s + s.dependencies.count id := by
  rw [unsettledCount, unsettledCount]
  induction s.dependencies with
  | nil => rfl
  | cons b rest ih =>
    rw [List.countP_cons, List.countP_cons, List.count_cons, ih]
    by_cases hb : b = id
    · simp [hb, hid]
      omega
    · simp [hb]
      omega

/-- A step is released if it lists the id and nothing else is left. -/
theorem released_cons (s : Step) (steps : List Step) (done : List String) (id : String) :
    released (s :: steps) done id =
      if 0 < s.dependencies.count id ∧ unsettledCount (id :: done) s = 0 then
        s.id :: released steps done id
      else released steps done id := by
  have hready : (s.dependencies.contains id && isReady (id :: done) s) = true ↔
      0 < s.dependencies.count id ∧ unsettledCount (id :: done) s = 0 := by
    rw [Bool.and_eq_true, List.contains_iff_mem, isReady_iff, List.count_pos_iff, unsettledCount,
      List.countP_eq_zero]
    simp [or_iff_not_imp_left]
  simp only [released, List.filter_cons, hready]
  split <;> rfl

/-- A step stands among the dependents as often as it lists the id. -/
theorem dependents_cons (s : Step) (steps : List Step) (id : String) :
    dependents (s :: steps) id =
      List.replicate (s.dependencies.count id) s.id ++ dependents steps id := by
  rw [dependents, List.flatMap_cons, List.map_const', List.count_eq_length_filter]
  rfl

/-- **Counting off as often as the counter allows.** The counter loses what is counted off, the
others stay as they are, and the step joins those that wait if nothing is left. -/
theorem foldl_countOff_replicate {k m : Nat} (h : counts.get? a = some ((m + k : Nat) : Int))
    (waiting : List String) :
    ∃ counts', (List.replicate k a).foldl countOff (counts, waiting) =
        (counts', if 0 < k ∧ m = 0 then waiting ++ [a] else waiting) ∧
      ∀ b, counts'.get? b = if a = b then some (m : Int) else counts.get? b := by
  induction k generalizing counts waiting with
  | zero =>
    refine ⟨counts, by simp, fun b => ?_⟩
    by_cases hb : a = b
    · rw [if_pos hb, ← hb, h, Nat.add_zero]
    · rw [if_neg hb]
  | succ k ih =>
    have hleft : ((m + (k + 1) : Nat) : Int) - 1 = ((m + k : Nat) : Int) := by omega
    have hoff : countOff (counts, waiting) a = (counts.put a ((m + k : Nat) : Int),
        if m + k = 0 then waiting ++ [a] else waiting) := by
      simp only [countOff, h, Option.getD_some, hleft, Int.natCast_eq_zero]
    obtain ⟨counts', hfold, hget⟩ := ih (Entries.get?_put_self counts a ((m + k : Nat) : Int))
      (if m + k = 0 then waiting ++ [a] else waiting)
    refine ⟨counts', ?_, fun b => ?_⟩
    · rw [List.replicate_succ, List.foldl_cons, hoff, hfold]
      -- the step is let in by the last count, which comes now if `k` is zero
      by_cases hm : m = 0
      · by_cases hk : k = 0 <;> simp [hm, hk]
      · simp [hm]
    · rw [hget, Entries.get?_put]
      by_cases hb : a = b <;> simp [hb]

/-! ## A round -/

/-- **A round keeps the counters right** and lets in exactly the steps that become ready, in
order. -/
theorem Counting.foldl_countOff (h : Counting steps done counts)
    (hids : (steps.map (·.id)).Nodup) (hid : id ∉ done) (waiting : List String) :
    ∃ counts', (dependents steps id).foldl countOff (counts, waiting) =
        (counts', waiting ++ released steps done id) ∧
      Counting steps (id :: done) counts' ∧
      ∀ b, b ∉ steps.map (·.id) → counts'.get? b = counts.get? b := by
  induction steps generalizing counts waiting with
  | nil => exact ⟨counts, by simp [dependents, released], by simp [Counting], fun _ _ => rfl⟩
  | cons s steps ih =>
    obtain ⟨hfresh, hids⟩ := List.nodup_cons.mp hids
    obtain ⟨hs, hsteps⟩ := List.forall_mem_cons.mp h
    rw [unsettledCount_cons hid] at hs
    obtain ⟨counts₁, hfold₁, hget₁⟩ := foldl_countOff_replicate hs waiting
    -- the counters of the other steps are those from before
    have hrest : Counting steps done counts₁ := by
      intro t ht
      have hne : s.id ≠ t.id := fun heq => hfresh (List.mem_map.mpr ⟨t, ht, heq.symm⟩)
      rw [hget₁, if_neg hne, hsteps t ht]
    obtain ⟨counts₂, hfold₂, hcounting, hget₂⟩ := ih hrest hids
      (if 0 < s.dependencies.count id ∧ unsettledCount (id :: done) s = 0 then waiting ++ [s.id]
        else waiting)
    refine ⟨counts₂, ?_, List.forall_mem_cons.mpr ⟨?_, hcounting⟩, fun b hb => ?_⟩
    · rw [dependents_cons, List.foldl_append, hfold₁, hfold₂, released_cons]
      split
      · rw [List.append_assoc, List.singleton_append]
      · rfl
    · rw [hget₂ _ hfresh, hget₁, if_pos rfl]
    · obtain ⟨hne, hb⟩ := not_or.mp (mt List.mem_cons.mpr hb)
      rw [hget₂ b hb, hget₁, if_neg fun heq => hne heq.symm]

/-! ## All rounds -/

/-- **The counters lead through the same rounds.** -/
theorem drain_eq_settleFrom (hids : (steps.map (·.id)).Nodup) (fuel : Nat)
    (hfair : Fair steps done waiting) (hcounts : Counting steps done counts) :
    drain steps fuel counts done waiting = settleFrom steps fuel done waiting := by
  induction fuel generalizing counts done waiting with
  | zero => rw [drain, settleFrom]
  | succ fuel ih =>
    cases waiting with
    | nil => rfl
    | cons id waiting =>
      have hid : id ∉ done := fun hmem =>
        (List.nodup_cons.mp (List.nodup_middle.mp hfair.nodup)).1 (List.mem_append_left _ hmem)
      obtain ⟨counts', hfold, hcounts', -⟩ := hcounts.foldl_countOff hids hid waiting
      rw [drain, hfold, settleFrom]
      exact ih (hfair.settle hids) hcounts'

/-- At first nothing is settled, and each counter holds the number of all dependencies. -/
theorem counting_listedCounts (hids : (steps.map (·.id)).Nodup) :
    Counting steps [] (listedCounts steps) := by
  intro s hs
  have hkeys : (listedCounts steps).Pairwise fun e f => ¬ (e.1 == f.1) = true := by
    refine List.pairwise_map.mpr ((List.pairwise_map.mp hids).imp fun hne heq => ?_)
    exact hne (beq_iff_eq.mp heq)
  refine Entries.get?_of_mem hkeys (List.mem_map.mpr ⟨s, hs, ?_⟩) BEq.rfl
  simp [unsettledCount]

/-- **Counting settles what readiness settles.** -/
theorem drained_eq_settled (hids : (steps.map (·.id)).Nodup) : drained steps = settled steps := by
  have hfirst : ((listedCounts steps).filter fun e => e.2 = 0).map (·.1) =
      (steps.filter fun s => s.dependencies.isEmpty).map (·.id) := by
    rw [listedCounts, List.filter_map, List.map_map]
    congr 1
    refine List.filter_congr fun s _ => ?_
    rw [Bool.eq_iff_iff]
    simp
  rw [drained, settled, hfirst]
  exact drain_eq_settleFrom hids _ (fair_nil hids) (counting_listedCounts hids)

end StepFlow.Definition
