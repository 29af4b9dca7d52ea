import StepFlow.Proofs.Definition.Order
import StepFlow.Proofs.Definition.Verdict
/-!
# What comes before what

The order of execution of every definition with distinct ids, circles, unknown dependencies and
steps that depend on themselves included: each step has one place, behind each dependency that does
not depend on it in turn (`IsOrder`). Of a sound definition these are all dependencies.

The visits are counted down from the number of steps. That number is no limit of the search: each
visit inside another marks an id that was not marked before (`Marked`), so the search ends by itself
and any greater number gives the same order (`visit_add`).
-/

namespace StepFlow.Definition

variable {d : Definition} {steps : List Step} {v : Visits} {id : String} {order : List String}
variable {fuel : Nat}

/-! ## The search ends by itself -/

/-- Only steps are marked as visited, and none twice. -/
def Visits.Marked (steps : List Step) (v : Visits) : Prop :=
  v.visited.Nodup ∧ v.visited ⊆ steps.map (·.id)

/-- **Visits only mark more.** -/
structure Visits.Advances (steps : List Step) (v w : Visits) : Prop where
  marked : w.Marked steps
  length_le : v.visited.length ≤ w.visited.length

open Visits

theorem foldl_advances {visitOne : Visits → String → Visits}
    (hvisit : ∀ v id, v.Marked steps → Advances steps v (visitOne v id)) (h : v.Marked steps)
    (targets : List String) : Advances steps v (targets.foldl visitOne v) := by
  induction targets generalizing v with
  | nil => exact ⟨h, le_rfl⟩
  | cons id targets ih =>
    have hfirst := hvisit v id h
    have hrest := ih hfirst.marked
    exact ⟨hrest.marked, hfirst.length_le.trans hrest.length_le⟩

/-- A visit of what is visited, or of no step, does nothing. -/
theorem visit_eq_self (fuel : Nat) (h : id ∈ v.visited ∨ id ∉ steps.map (·.id)) :
    visit steps fuel v id = v := by
  cases fuel with
  | zero => rfl
  | succ fuel =>
    rw [visit]
    by_cases hvisited : id ∈ v.visited
    · rw [if_pos (List.contains_iff_mem.mpr hvisited)]
    · rw [if_neg (by simpa using hvisited)]
      cases hstep : lastStep? steps id with
      | none => rfl
      | some s =>
        obtain ⟨hs, rfl⟩ := lastStep?_eq_some hstep
        exact absurd (List.mem_map_of_mem hs) (h.resolve_left hvisited)

/-- Any other visit marks the id, visits what its last step depends on, and places the id. -/
theorem exists_visit_eq (h : ¬ (id ∈ v.visited ∨ id ∉ steps.map (·.id))) :
    ∃ s : Step, ∀ fuel, visit steps (fuel + 1) v id =
      let inner := s.dependencies.foldl (visit steps fuel) { v with visited := id :: v.visited }
      { inner with placed := id :: inner.placed } := by
  obtain ⟨hnew, hid⟩ := not_or.mp h
  cases hstep : lastStep? steps id with
  | none => exact absurd (lastStep?_eq_none hstep) hid
  | some s =>
    refine ⟨s, fun fuel => ?_⟩
    rw [visit, if_neg (by simpa using hnew), hstep]

/-- Marking such an id makes one more. -/
theorem Visits.Marked.mark (hv : v.Marked steps) (h : ¬ (id ∈ v.visited ∨ id ∉ steps.map (·.id))) :
    Marked steps { v with visited := id :: v.visited } := by
  obtain ⟨hnew, hid⟩ := not_or.mp h
  exact ⟨List.nodup_cons.mpr ⟨hnew, hv.1⟩, List.cons_subset.mpr ⟨not_not.mp hid, hv.2⟩⟩

theorem visit_advances (fuel : Nat) (id : String) (hv : v.Marked steps) :
    Advances steps v (visit steps fuel v id) := by
  induction fuel generalizing v id with
  | zero => exact ⟨hv, le_rfl⟩
  | succ fuel ih =>
    by_cases hidle : id ∈ v.visited ∨ id ∉ steps.map (·.id)
    · rw [visit_eq_self _ hidle]
      exact ⟨hv, le_rfl⟩
    · obtain ⟨s, hvisit⟩ := exists_visit_eq hidle
      have hinner := foldl_advances (fun v id hv => ih id hv) (hv.mark hidle) s.dependencies
      rw [hvisit]
      exact ⟨hinner.marked, (Nat.le_succ _).trans hinner.length_le⟩

/-- Visits in turn are the same if each is, as long as so many steps at most are left to mark. -/
theorem foldl_visit_congr {visitOne : Visits → String → Visits}
    (heq : ∀ v id, v.Marked steps → steps.length ≤ fuel + v.visited.length →
      visitOne v id = visit steps fuel v id)
    (hv : v.Marked steps) (hfuel : steps.length ≤ fuel + v.visited.length) (targets : List String) :
    targets.foldl visitOne v = targets.foldl (visit steps fuel) v := by
  induction targets generalizing v with
  | nil => rfl
  | cons id targets ih =>
    have hfirst := visit_advances fuel id hv
    have hlength := hfirst.length_le
    rw [List.foldl_cons, List.foldl_cons, heq v id hv hfuel]
    exact ih hfirst.marked (by omega)

/-- **More visits than there are steps left to mark change nothing.** -/
theorem visit_add (more : Nat) (hv : v.Marked steps)
    (hfuel : steps.length ≤ fuel + v.visited.length) :
    visit steps (fuel + more) v id = visit steps fuel v id := by
  induction fuel generalizing v id with
  | zero =>
    -- every step is marked already, so there is nothing to do
    have hlength : (steps.map (·.id)).length ≤ v.visited.length := by
      rw [List.length_map]
      omega
    have hall := (List.subperm_of_subset hv.1 hv.2).perm_of_length_le hlength
    have hidle : id ∈ v.visited ∨ id ∉ steps.map (·.id) := by
      rw [← hall.mem_iff]
      exact em _
    rw [visit_eq_self _ hidle, visit_eq_self _ hidle]
  | succ fuel ih =>
    by_cases hidle : id ∈ v.visited ∨ id ∉ steps.map (·.id)
    · rw [visit_eq_self _ hidle, visit_eq_self _ hidle]
    · obtain ⟨s, hvisit⟩ := exists_visit_eq hidle
      have hlength : steps.length ≤ fuel + (id :: v.visited).length := by
        rw [List.length_cons]
        omega
      rw [Nat.add_right_comm, hvisit, hvisit,
        foldl_visit_congr (fun v id hv hfuel => ih hv hfuel) (hv.mark hidle) hlength]

/-- **Any number of visits from that of the steps on gives the order of execution.** -/
theorem executionOrder_eq_of_le (d : Definition) (hfuel : d.steps.length ≤ fuel) :
    (d.ids.foldl (visit d.steps fuel) {}).placed.reverse = d.executionOrder := by
  obtain ⟨more, rfl⟩ := Nat.exists_eq_add_of_le hfuel
  rw [executionOrder, foldl_visit_congr (fun v id hv hfuel => visit_add more hv hfuel)
    ⟨List.nodup_nil, List.nil_subset _⟩ (Nat.le_add_right _ _)]

/-! ## The order -/

/-- **An order of the steps by their dependencies.** Every step has one place, and comes strictly
after each step that it lists as a dependency, unless that depends on it in turn. -/
structure IsOrder (d : Definition) (order : List String) : Prop where
  nodup : order.Nodup
  mem_iff : ∀ id, id ∈ order ↔ id ∈ d.ids
  after : ∀ s ∈ d.steps, ∀ b ∈ s.dependencies, b ∈ d.ids → ¬ Reaches d.steps b s.id →
    order.idxOf b < order.idxOf s.id

/-- In such an order of a sound definition every step comes after all its dependencies. -/
theorem IsOrder.idxOf_lt (h : IsOrder d order) (hcheck : d.check = .ok ()) {s : Step} {b : String}
    (hs : s ∈ d.steps) (hb : b ∈ s.dependencies) : order.idxOf b < order.idxOf s.id := by
  obtain ⟨hcoherent, hacyclic⟩ := check_eq_ok_iff.mp hcheck
  exact h.after s hs b hb (hcoherent.known s hs b hb) fun hback =>
    hacyclic ⟨s.id, Relation.TransGen.head' ⟨s, hs, rfl, hb⟩ hback⟩

/-- **The order of execution orders the steps of every definition with distinct ids,** circles or
not, and is the one that the search finds, however many visits are made inside each other. -/
theorem isOrder_executionOrder (d : Definition) (hids : d.ids.Nodup) :
    IsOrder d d.executionOrder ∧
      (d.check = .ok () → ∀ s ∈ d.steps, ∀ b ∈ s.dependencies,
        d.executionOrder.idxOf b < d.executionOrder.idxOf s.id) ∧
      (∀ fuel, d.steps.length ≤ fuel →
        (d.ids.foldl (visit d.steps fuel) {}).placed.reverse = d.executionOrder) ∧
      ∀ order, d.ordered = .ok order → order = d.executionOrder := by
  have hperm := executionOrder_perm d hids
  have horder : IsOrder d d.executionOrder :=
    ⟨hperm.nodup_iff.mpr hids, fun id => hperm.mem_iff, fun s hs b hb =>
      idxOf_executionOrder_lt d hids ⟨s, hs, rfl, hb⟩⟩
  exact ⟨horder, fun hcheck s hs b hb => horder.idxOf_lt hcheck hs hb,
    fun fuel hfuel => executionOrder_eq_of_le d hfuel,
    fun order h => eq_executionOrder_of_ordered h⟩

/-- A bill that waits for the parcel and for something unknown, a parcel that waits for its contents
and for itself, and two parts that wait for each other. -/
def tangled : Definition where
  steps := [
    { id := "bill", name := "Bill", order := 1, kind := .action,
      dependencies := ["parcel", "stamp"] },
    { id := "parcel", name := "Parcel", order := 2, kind := .action,
      dependencies := ["parcel", "lid"] },
    { id := "lid", name := "Lid", order := 3, kind := .action, dependencies := ["box"] },
    { id := "box", name := "Box", order := 4, kind := .action, dependencies := ["lid"] }]

/-- The bill and the parcel alone, with the contents twice. -/
def untangled : Definition where
  steps := [
    { id := "bill", name := "Bill", order := 1, kind := .action, dependencies := ["parcel"] },
    { id := "parcel", name := "Parcel", order := 2, kind := .action,
      dependencies := ["lid", "lid"] },
    { id := "lid", name := "Lid", order := 3, kind := .action }]

/-- The order in a tangle, and the order of what passes the check. -/
theorem isOrder_tangled :
    tangled.ids.Nodup ∧ tangled.executionOrder = ["box", "lid", "parcel", "bill"] ∧
      IsOrder tangled tangled.executionOrder ∧
      untangled.ids.Nodup ∧ untangled.check = .ok () ∧
      ∀ s ∈ untangled.steps, ∀ b ∈ s.dependencies,
        untangled.executionOrder.idxOf b < untangled.executionOrder.idxOf s.id :=
  ⟨by decide, by decide, (isOrder_executionOrder tangled (by decide)).1, by decide, by decide,
    (isOrder_executionOrder untangled (by decide)).2.1 (by decide)⟩

end StepFlow.Definition
