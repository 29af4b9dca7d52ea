import StepFlow.Proofs.Definition.Flaw
import StepFlow.Proofs.Definition.Visiting
/-!
# The check and the order agree

Two procedures look at the dependencies of a definition: the check settles steps in turn, the order
visits them depth first. Both come down to circles. A step placed too early shows a circle, since
its dependency then depends on it; and on a circle some step is placed too early, since places
cannot decrease all the way round.
-/

namespace StepFlow.Definition

open Relation

variable {d : Definition} {order : List String}

/-- Some step stands before one of its dependencies, or in the same place. -/
def Misplaced (steps : List Step) (order : List String) : Prop :=
  ∃ s ∈ steps, ∃ b ∈ s.dependencies, ∃ i j : Nat,
    order[i]? = some s.id ∧ order[j]? = some b ∧ i ≤ j

/-- In a list without repetitions the place of a member is its index. -/
theorem idxOf_eq_of_getElem? {a : String} {i : Nat} (hnd : order.Nodup) (h : order[i]? = some a) :
    order.idxOf a = i := by
  obtain ⟨hi, rfl⟩ := List.getElem?_eq_some_iff.mp h
  exact hnd.idxOf_getElem i hi

/-- A misplaced step stands on a circle. -/
theorem cyclic_of_misplaced (hids : d.ids.Nodup) (h : Misplaced d.steps d.executionOrder) :
    Cyclic d.steps := by
  obtain ⟨s, hs, b, hb, i, j, hi, hj, hij⟩ := h
  have hperm := executionOrder_perm d hids
  have hnd : d.executionOrder.Nodup := hperm.nodup_iff.mpr hids
  have hneeds : Needs d.steps s.id b := ⟨s, hs, rfl, hb⟩
  have hstep : b ∈ d.ids := hperm.mem_iff.mp (List.mem_of_getElem? hj)
  by_contra hacyclic
  have hback : ¬ Reaches d.steps b s.id := fun hback =>
    hacyclic ⟨s.id, TransGen.head' hneeds hback⟩
  have hlt := idxOf_executionOrder_lt d hids hneeds hstep hback
  rw [idxOf_eq_of_getElem? hnd hi, idxOf_eq_of_getElem? hnd hj] at hlt
  omega

/-- On a circle some step is misplaced. -/
theorem misplaced_of_cyclic (hcoherent : d.Coherent) (h : Cyclic d.steps) :
    Misplaced d.steps d.executionOrder := by
  by_contra hplaced
  refine not_cyclic_of_rank d.executionOrder.idxOf ?_ h
  rintro a b ⟨s, hs, rfl, hb⟩
  have hperm := executionOrder_perm d hcoherent.distinct
  have hplace : ∀ c ∈ d.ids, d.executionOrder[d.executionOrder.idxOf c]? = some c := by
    intro c hc
    have hlt := List.idxOf_lt_length_of_mem (hperm.mem_iff.mpr hc)
    rw [List.getElem?_eq_getElem hlt, List.getElem_idxOf]
  by_contra hle
  exact hplaced ⟨s, hs, b, hb, _, _, hplace s.id (List.mem_map_of_mem hs),
    hplace b (hcoherent.known s hs b hb), Nat.not_lt.mp hle⟩

/-- An order that is found without too many visits inside each other is the order of execution. -/
theorem eq_executionOrder_of_ordered (h : d.ordered = .ok order) : order = d.executionOrder := by
  rw [ordered] at h
  split at h
  · exact (Except.ok.inj h).symm
  · cases h

/-- **The check finds a circle exactly if the order misplaces a step.** -/
theorem check_eq_cycle_iff_misplaced (d : Definition) (hids : d.ids.Nodup)
    (hjoined : ∀ c ∈ d.connections, c.source ∈ d.ids ∧ c.target ∈ d.ids)
    (hknown : ∀ s ∈ d.steps, ∀ b ∈ s.dependencies, b ∈ d.ids) :
    (d.check = .error .cycle ↔ Misplaced d.steps d.executionOrder) ∧
      ∀ order, d.ordered = .ok order → (d.check = .error .cycle ↔ Misplaced d.steps order) := by
  have hcoherent : d.Coherent := ⟨hids, hjoined, hknown⟩
  have hagree : d.check = .error .cycle ↔ Misplaced d.steps d.executionOrder := by
    rw [hcoherent.check_eq_cycle_iff]
    exact ⟨misplaced_of_cyclic hcoherent, cyclic_of_misplaced hids⟩
  refine ⟨hagree, fun order horder => ?_⟩
  rw [eq_executionOrder_of_ordered horder]
  exact hagree

/-- A draft that waits for its review and for itself, a review that waits for the draft, and a step
apart from them. -/
def circling : Definition where
  steps := [
    { id := "draft", name := "Draft", order := 1, kind := .action,
      dependencies := ["review", "draft"] },
    { id := "review", name := "Review", order := 2, kind := .condition,
      dependencies := ["draft"] },
    { id := "file", name := "File", order := 3, kind := .storage }]
  connections := [{ source := "draft", target := "review" }]

/-- The circle is found, and the order shows it. -/
theorem misplaced_circling :
    (circling.ids.Nodup ∧
      (∀ c ∈ circling.connections, c.source ∈ circling.ids ∧ c.target ∈ circling.ids) ∧
      ∀ s ∈ circling.steps, ∀ b ∈ s.dependencies, b ∈ circling.ids) ∧
    circling.check = .error .cycle ∧ circling.executionOrder = ["review", "draft", "file"] ∧
    Misplaced circling.steps circling.executionOrder :=
  ⟨⟨by decide, by decide, by decide⟩, by decide, by decide,
    (check_eq_cycle_iff_misplaced circling (by decide) (by decide) (by decide)).1.mp (by decide)⟩

end StepFlow.Definition
