import StepFlow.Definition.Order
import StepFlow.Proofs.Definition.Dependency
/-!
# Visiting steps depth first

What the order of execution guarantees, circles or not. An id that is visited but not yet placed is
pending: it stands on the way to the id being visited, so it depends on that id. A visit leaves
exactly the pending ids pending (`visit_extends`), hence a dependency that is not placed when its
step is placed depends on that step in turn. Every id is placed once (`executionOrder_perm`), and
after each of its dependencies that does not depend on it (`idxOf_executionOrder_lt`).
-/

namespace StepFlow.Definition

open Relation

variable {steps : List Step} {v w : Visits} {a b id : String}

/-- `a` depends on `b`, directly, through others, or by being the same. -/
def Reaches (steps : List Step) (a b : String) : Prop :=
  ReflTransGen (Needs steps) a b

/-- What an id must come after: its dependencies among the steps, unless they depend on it. -/
def Precedes (steps : List Step) (a b : String) : Prop :=
  Needs steps a b ∧ b ∈ steps.map (·.id) ∧ ¬ Reaches steps b a

namespace Visits

/-- Visited but not yet placed. -/
def Pending (v : Visits) (a : String) : Prop :=
  a ∈ v.visited ∧ a ∉ v.placed

/-- **What holds between two visits.** -/
structure Sound (steps : List Step) (v : Visits) : Prop where
  visited_nodup : v.visited.Nodup
  placed_nodup : v.placed.Nodup
  placed_subset : v.placed ⊆ v.visited
  known : v.visited ⊆ steps.map (·.id)
  grounded : Grounded (Precedes steps) v.placed

/-- **What a visit of some ids does.** It visits those of them that are steps, and leaves pending
what was pending. -/
structure Extends (steps : List Step) (v w : Visits) (targets : List String) : Prop where
  sound : w.Sound steps
  visited_subset : v.visited ⊆ w.visited
  length_le : v.visited.length ≤ w.visited.length
  pending_iff : ∀ a, w.Pending a ↔ v.Pending a
  reached : ∀ b ∈ targets, b ∈ steps.map (·.id) → b ∈ w.visited

/-- Visiting nothing changes nothing. -/
theorem Sound.extends_nil (h : v.Sound steps) : Extends steps v v [] :=
  ⟨h, fun _ ha => ha, le_rfl, fun _ => Iff.rfl, by simp⟩

/-- One visit after another. -/
theorem Extends.cons {u : Visits} {targets : List String} (h₁ : Extends steps u v [id])
    (h₂ : Extends steps v w targets) : Extends steps u w (id :: targets) where
  sound := h₂.sound
  visited_subset := fun _ ha => h₂.visited_subset (h₁.visited_subset ha)
  length_le := h₁.length_le.trans h₂.length_le
  pending_iff := fun a => (h₂.pending_iff a).trans (h₁.pending_iff a)
  reached := by
    intro b hb hstep
    rcases List.mem_cons.mp hb with rfl | hb
    · exact h₂.visited_subset (h₁.reached b List.mem_cons_self hstep)
    · exact h₂.reached b hb hstep

/-- A visit of an id that is visited already, or that is no step, does nothing. -/
theorem Sound.extends_self (h : v.Sound steps)
    (hid : id ∈ steps.map (·.id) → id ∈ v.visited) : Extends steps v v [id] where
  sound := h
  visited_subset := fun _ ha => ha
  length_le := le_rfl
  pending_iff := fun _ => Iff.rfl
  reached := by simpa using hid

end Visits

open Visits

/-! ## One visit -/

theorem lastStep?_eq_some {s : Step} (h : lastStep? steps id = some s) : s ∈ steps ∧ s.id = id := by
  rw [lastStep?, List.findRev?_eq_find?_reverse] at h
  exact ⟨List.mem_reverse.mp (List.mem_of_find?_eq_some h), by simpa using List.find?_some h⟩

theorem lastStep?_eq_none (h : lastStep? steps id = none) : id ∉ steps.map (·.id) := by
  rw [lastStep?, List.findRev?_eq_find?_reverse, List.find?_eq_none] at h
  rintro hid
  obtain ⟨s, hs, rfl⟩ := List.mem_map.mp hid
  exact h s (List.mem_reverse.mpr hs) (by simp)

/-- Where as many ids are visited as there are steps, every step is. -/
theorem Visits.Sound.mem_visited (h : v.Sound steps) (hlen : steps.length ≤ v.visited.length)
    (hid : id ∈ steps.map (·.id)) : id ∈ v.visited := by
  have hperm := (List.subperm_of_subset h.visited_nodup h.known).perm_of_length_le (by simpa)
  exact hperm.mem_iff.mpr hid

/-- Marking an id as visited makes it pending and changes nothing else. -/
theorem Visits.Sound.mark (h : v.Sound steps) (hid : id ∈ steps.map (·.id))
    (hnew : id ∉ v.visited) : Sound steps { v with visited := id :: v.visited } where
  visited_nodup := List.nodup_cons.mpr ⟨hnew, h.visited_nodup⟩
  placed_nodup := h.placed_nodup
  placed_subset := fun _ ha => List.mem_cons_of_mem _ (h.placed_subset ha)
  known := List.cons_subset.mpr ⟨hid, h.known⟩
  grounded := h.grounded

theorem Visits.Sound.pending_mark (h : v.Sound steps) (hnew : id ∉ v.visited) :
    ({ v with visited := id :: v.visited } : Visits).Pending a ↔ a = id ∨ v.Pending a := by
  simp only [Pending, List.mem_cons]
  constructor
  · rintro ⟨rfl | ha, hna⟩
    · exact .inl rfl
    · exact .inr ⟨ha, hna⟩
  · rintro (rfl | ⟨ha, hna⟩)
    · exact ⟨.inl rfl, fun hp => hnew (h.placed_subset hp)⟩
    · exact ⟨.inr ha, hna⟩

/-- **Placing an id after the visits of its dependencies.** A dependency that is still pending then
was pending all the time, so it depends on the id. -/
theorem Visits.Extends.place {s : Step} (hids : (steps.map (·.id)).Nodup) (hs : s ∈ steps)
    (hv : v.Sound steps) (hnew : s.id ∉ v.visited)
    (hpending : ∀ a, v.Pending a → Reaches steps a s.id)
    (h : Extends steps { v with visited := s.id :: v.visited } w s.dependencies) :
    Extends steps v { w with placed := s.id :: w.placed } [s.id] := by
  have hw : ∀ a, w.Pending a ↔ a = s.id ∨ v.Pending a := fun a =>
    (h.pending_iff a).trans (hv.pending_mark hnew)
  have hid : w.Pending s.id := (hw s.id).mpr (.inl rfl)
  refine ⟨⟨h.sound.visited_nodup, List.nodup_cons.mpr ⟨hid.2, h.sound.placed_nodup⟩,
    List.cons_subset.mpr ⟨hid.1, h.sound.placed_subset⟩, h.sound.known, ?_, h.sound.grounded⟩,
    fun a ha => h.visited_subset (List.mem_cons_of_mem _ ha), ?_, ?_, ?_⟩
  · rintro b ⟨hneeds, hstep, hback⟩
    have hb : b ∈ w.visited := h.reached b ((needs_iff_mem hids hs).mp hneeds) hstep
    by_contra hnot
    rcases (hw b).mp ⟨hb, hnot⟩ with rfl | hb
    · exact hback .refl
    · exact hback (hpending b hb)
  · exact (Nat.le_succ _).trans h.length_le
  · intro a
    have hwa := hw a
    have hne : v.Pending a → a ≠ s.id := fun ha heq => hnew (heq ▸ ha.1)
    simp only [Pending, List.mem_cons, not_or] at hwa hne ⊢
    tauto
  · intro b hb _
    rw [List.mem_singleton.mp hb]
    exact hid.1

/-- Visits of several ids in turn extend, if each visit does. -/
theorem foldl_visit_extends {fuel : Nat}
    (hvisit : ∀ v id, v.Sound steps → (∀ a, v.Pending a → Reaches steps a id) →
      steps.length ≤ fuel + v.visited.length → Extends steps v (visit steps fuel v id) [id]) :
    ∀ (targets : List String) (v : Visits), v.Sound steps →
      (∀ a, v.Pending a → ∀ b ∈ targets, Reaches steps a b) →
      steps.length ≤ fuel + v.visited.length →
      Extends steps v (targets.foldl (visit steps fuel) v) targets := by
  intro targets
  induction targets with
  | nil => intro v hv _ _; exact hv.extends_nil
  | cons id targets ih =>
    intro v hv hpending hfuel
    have hfirst := hvisit v id hv (fun a ha => hpending a ha id List.mem_cons_self) hfuel
    refine hfirst.cons (ih _ hfirst.sound (fun a ha b hb => ?_) ?_)
    · exact hpending a ((hfirst.pending_iff a).mp ha) b (List.mem_cons_of_mem _ hb)
    · have := hfirst.length_le
      omega

/-- **A visit extends**, if everything pending depends on the id visited. -/
theorem visit_extends (hids : (steps.map (·.id)).Nodup) :
    ∀ (fuel : Nat) (v : Visits) (id : String), v.Sound steps →
      (∀ a, v.Pending a → Reaches steps a id) → steps.length ≤ fuel + v.visited.length →
      Extends steps v (visit steps fuel v id) [id] := by
  intro fuel
  induction fuel with
  | zero =>
    intro v id hv _ hfuel
    rw [visit]
    exact hv.extends_self (hv.mem_visited (by omega))
  | succ fuel ih =>
    intro v id hv hpending hfuel
    rw [visit]
    by_cases hvisited : id ∈ v.visited
    · rw [if_pos (List.contains_iff_mem.mpr hvisited)]
      exact hv.extends_self fun _ => hvisited
    · rw [if_neg (by simpa using hvisited)]
      cases hstep : lastStep? steps id with
      | none => exact hv.extends_self fun hid => absurd hid (lastStep?_eq_none hstep)
      | some s =>
        obtain ⟨hs, rfl⟩ := lastStep?_eq_some hstep
        have hmark := hv.mark (List.mem_map_of_mem hs) hvisited
        refine Extends.place hids hs hv hvisited hpending
          (foldl_visit_extends ih s.dependencies _ hmark (fun a ha b hb => ?_) ?_)
        · -- whatever is pending during the inner visits depends on `s`, hence on its dependencies
          have hsb : Needs steps s.id b := ⟨s, hs, rfl, hb⟩
          rcases (hv.pending_mark hvisited).mp ha with rfl | ha
          · exact .single hsb
          · exact (hpending a ha).tail hsb
        · simp only [List.length_cons]
          omega

/-! ## The order -/

/-- The visits of all steps, one after another. -/
theorem foldl_visit_ids_extends (d : Definition) (hids : d.ids.Nodup) :
    Extends d.steps {} (d.ids.foldl (visit d.steps d.steps.length) {}) d.ids :=
  foldl_visit_extends (visit_extends hids _) d.ids {}
    ⟨by simp, by simp, by simp, by simp, trivial⟩ (by simp [Pending]) (by simp)

/-- **Every step has exactly one place.** -/
theorem executionOrder_perm (d : Definition) (hids : d.ids.Nodup) :
    d.executionOrder.Perm d.ids := by
  have h := foldl_visit_ids_extends d hids
  refine (List.reverse_perm _).trans ((List.perm_ext_iff_of_nodup h.sound.placed_nodup hids).mpr ?_)
  intro a
  constructor
  · intro ha
    exact h.sound.known (h.sound.placed_subset ha)
  · intro ha
    -- what is visited in the end is placed, since nothing was pending at the start
    by_contra hna
    have := (h.pending_iff a).mp ⟨h.reached a ha ha, hna⟩
    simp [Pending] at this

/-- **A dependency comes first, unless it depends on its dependent.** -/
theorem idxOf_executionOrder_lt (d : Definition) (hids : d.ids.Nodup) (h : Needs d.steps a b)
    (hb : b ∈ d.ids) (hback : ¬ Reaches d.steps b a) :
    d.executionOrder.idxOf b < d.executionOrder.idxOf a := by
  have hsound := (foldl_visit_ids_extends d hids).sound
  refine hsound.grounded.idxOf_reverse_lt hsound.placed_nodup ?_ ⟨h, hb, hback⟩
  have := (executionOrder_perm d hids).mem_iff.mpr h.mem_ids
  simpa [executionOrder] using this

end StepFlow.Definition
