import StepFlow.Definition.Check
import StepFlow.Proofs.Definition.Dependency
/-!
# Settling steps in turn

What the last check of a definition computes, told without its counters: a step is ready when all
that it lists is settled. Five facts hold between any two rounds of settling
(`Fair`), a round keeps them (`Fair.settle`), and the number of rounds is enough to let every
waiting step have its turn (`settleFrom_fair`). So the ids settled in the end are exactly those that
can be: all of them if and only if no step depends on itself (`length_settled_eq_iff`).
-/

namespace StepFlow.Definition

open Relation

variable {steps : List Step} {done waiting : List String} {a b id : String}

/-! ## Rounds -/

/-- Whether all dependencies of a step are settled. -/
def isReady (settled : List String) (s : Step) : Bool :=
  s.dependencies.all settled.contains

/-- The steps that become ready as `id` is settled after `settled`. -/
def released (steps : List Step) (settled : List String) (id : String) : List String :=
  (steps.filter fun s => s.dependencies.contains id && isReady (id :: settled) s).map (·.id)

/-- Settles the waiting steps in turn, each releasing further steps, for at most `fuel` steps; gives
all steps settled, the last one first. -/
def settleFrom (steps : List Step) :
    (fuel : Nat) → (settled waiting : List String) → List String
  | 0, settled, _ => settled
  | _, settled, [] => settled
  | fuel + 1, settled, id :: waiting =>
    settleFrom steps fuel (id :: settled) (waiting ++ released steps settled id)

/-- The ids of the steps that can be settled; no step is settled twice, so there are at most as many
as steps. -/
def settled (steps : List Step) : List String :=
  settleFrom steps steps.length [] ((steps.filter fun s => s.dependencies.isEmpty).map (·.id))

/-! ## Between two rounds -/

/-- **What holds between two rounds.** No id is settled twice or waits twice, only steps are, what
is settled was ready for it, what waits is ready, and nothing that is ready is forgotten. -/
structure Fair (steps : List Step) (done waiting : List String) : Prop where
  nodup : (done ++ waiting).Nodup
  known : ∀ id ∈ done ++ waiting, id ∈ steps.map (·.id)
  grounded : Grounded (Needs steps) done
  ready : ∀ a ∈ waiting, ∀ b, Needs steps a b → b ∈ done
  complete : ∀ s ∈ steps, (∀ b ∈ s.dependencies, b ∈ done) → s.id ∈ done ++ waiting

theorem isReady_iff {s : Step} : isReady done s = true ↔ ∀ b ∈ s.dependencies, b ∈ done := by
  simp [isReady]

/-- An id is released by the last of its dependencies that is settled. -/
theorem mem_released :
    a ∈ released steps done id ↔
      ∃ s ∈ steps, s.id = a ∧ id ∈ s.dependencies ∧ ∀ b ∈ s.dependencies, b ∈ id :: done := by
  simp only [released, List.mem_map, List.mem_filter, Bool.and_eq_true, isReady_iff,
    List.contains_iff_mem]
  constructor
  · rintro ⟨s, ⟨hs, hid, hready⟩, rfl⟩
    exact ⟨s, hs, rfl, hid, hready⟩
  · rintro ⟨s, hs, rfl, hid, hready⟩
    exact ⟨s, ⟨hs, hid, hready⟩, rfl⟩

/-- An id that waits for `id` is neither settled nor waiting before `id` is settled. -/
theorem Fair.notMem_of_needs (h : Fair steps done (id :: waiting)) (hab : Needs steps a id) :
    a ∉ done ++ id :: waiting := by
  intro ha
  have hnd := List.nodup_middle.mp h.nodup
  have hid : id ∈ done := by
    rcases List.mem_append.mp ha with ha | ha
    · exact h.grounded.mem_of_needs ha hab
    · exact h.ready a ha id hab
  exact (List.nodup_cons.mp hnd).1 (List.mem_append_left _ hid)

/-- **A round keeps these facts.** -/
theorem Fair.settle (hids : (steps.map (·.id)).Nodup) (h : Fair steps done (id :: waiting)) :
    Fair steps (id :: done) (waiting ++ released steps done id) where
  nodup := by
    have hreleased : (released steps done id).Nodup :=
      hids.sublist (List.filter_sublist.map _)
    have hold : (id :: (done ++ waiting)).Nodup := List.nodup_middle.mp h.nodup
    rw [List.cons_append, ← List.append_assoc, ← List.cons_append, List.nodup_append]
    refine ⟨hold, hreleased, ?_⟩
    rintro a ha b hb rfl
    obtain ⟨s, hs, rfl, hid, -⟩ := mem_released.mp hb
    exact h.notMem_of_needs ⟨s, hs, rfl, hid⟩ (by simpa [or_left_comm] using ha)
  known := by
    intro a ha
    rw [List.cons_append, ← List.append_assoc, ← List.cons_append] at ha
    rcases List.mem_append.mp ha with ha | ha
    · exact h.known a (by simpa [or_left_comm] using ha)
    · obtain ⟨s, hs, rfl, -, -⟩ := mem_released.mp ha
      exact List.mem_map_of_mem hs
  grounded := ⟨h.ready id List.mem_cons_self, h.grounded⟩
  ready := by
    intro a ha b hab
    rcases List.mem_append.mp ha with ha | ha
    · exact List.mem_cons_of_mem _ (h.ready a (List.mem_cons_of_mem _ ha) b hab)
    · obtain ⟨s, hs, rfl, -, hready⟩ := mem_released.mp ha
      exact hready b ((needs_iff_mem hids hs).mp hab)
  complete := by
    intro s hs hready
    -- a step that is ready now either waited for `id` or was ready before
    by_cases hid : id ∈ s.dependencies
    · have := mem_released.mpr ⟨s, hs, rfl, hid, hready⟩
      simp [this]
    · have hdone : ∀ b ∈ s.dependencies, b ∈ done := fun b hb =>
        (List.mem_cons.mp (hready b hb)).resolve_left fun hbid => hid (hbid ▸ hb)
      have := h.complete s hs hdone
      simp only [List.mem_append, List.mem_cons] at this ⊢
      tauto

/-- **Settling ends with nobody waiting**, given as many rounds as there are ids left. -/
theorem settleFrom_fair (hids : (steps.map (·.id)).Nodup) :
    ∀ (fuel : Nat) (done waiting : List String), Fair steps done waiting →
      steps.length ≤ fuel + done.length → Fair steps (settleFrom steps fuel done waiting) [] := by
  intro fuel
  induction fuel with
  | zero =>
    intro done waiting h hfuel
    -- as many ids are settled as there are steps, so none is left to wait
    have hle : (done ++ waiting).length ≤ (steps.map (·.id)).length :=
      (List.subperm_of_subset h.nodup h.known).length_le
    rw [List.length_append, List.length_map] at hle
    have hnone : waiting = [] := List.length_eq_zero_iff.mp (by omega)
    rw [settleFrom]
    exact hnone ▸ h
  | succ fuel ih =>
    intro done waiting h hfuel
    cases waiting with
    | nil => exact h
    | cons id waiting =>
      rw [settleFrom]
      exact ih _ _ (h.settle hids) (by rw [List.length_cons]; omega)

/-- At first the ids that need nothing wait. -/
theorem fair_nil (hids : (steps.map (·.id)).Nodup) :
    Fair steps [] ((steps.filter fun s => s.dependencies.isEmpty).map (·.id)) where
  nodup := hids.sublist (List.filter_sublist.map _)
  known := fun _ h => (List.filter_sublist.map _).subset h
  grounded := trivial
  ready := by
    intro a ha b hab
    obtain ⟨s, hs, rfl⟩ := List.mem_map.mp ha
    obtain ⟨hs, hempty⟩ := List.mem_filter.mp hs
    have hb := (needs_iff_mem hids hs).mp hab
    simp [List.isEmpty_iff.mp hempty] at hb
  complete := by
    intro s hs hready
    refine List.mem_map_of_mem (List.mem_filter.mpr ⟨hs, ?_⟩)
    exact List.isEmpty_iff.mpr (List.eq_nil_iff_forall_not_mem.mpr fun b hb => by
      simpa using hready b hb)

/-- In the end the settled ids are fair with nobody waiting. -/
theorem settled_fair (hids : (steps.map (·.id)).Nodup) : Fair steps (settled steps) [] :=
  settleFrom_fair hids _ _ _ (fair_nil hids) (by simp)

/-- An id that is never settled needs another such id. -/
theorem exists_needs_of_unsettled (hids : (steps.map (·.id)).Nodup) {s : Step} (hs : s ∈ steps)
    (hunsettled : s.id ∉ settled steps) : ∃ b, Needs steps s.id b ∧ b ∉ settled steps := by
  have h := settled_fair hids
  by_contra hnone
  push Not at hnone
  refine hunsettled ?_
  simpa using h.complete s hs fun b hb => hnone b ⟨s, hs, rfl, hb⟩

/-- **All ids are settled exactly if no step depends on itself**, where all dependencies are
steps. -/
theorem length_settled_eq_iff (hids : (steps.map (·.id)).Nodup)
    (hknown : ∀ s ∈ steps, ∀ b ∈ s.dependencies, b ∈ steps.map (·.id)) :
    (settled steps).length = steps.length ↔ ¬ Cyclic steps := by
  have h := settled_fair hids
  have hnd : (settled steps).Nodup := by simpa using h.nodup
  have hsub : settled steps ⊆ steps.map (·.id) := fun a ha => h.known a (by simpa using ha)
  constructor
  · intro hlen
    have hperm := (List.subperm_of_subset hnd hsub).perm_of_length_le (by simp [hlen])
    exact not_cyclic_of_rank (settled steps).reverse.idxOf fun a b hab =>
      h.grounded.idxOf_reverse_lt hnd (hperm.mem_iff.mpr hab.mem_ids) hab
  · intro hacyclic
    suffices hall : steps.map (·.id) ⊆ settled steps by
      have := ((List.subperm_of_subset hnd hsub).antisymm
        (List.subperm_of_subset hids hall)).length_eq
      simpa using this
    by_contra hsome
    -- the ids left over always lead on to each other
    let left := (steps.map (·.id)).filter (· ∉ settled steps)
    have hleft : left ≠ [] := by
      simp only [List.subset_def, not_forall] at hsome
      obtain ⟨a, ha, hna⟩ := hsome
      exact List.ne_nil_of_mem (List.mem_filter.mpr ⟨ha, by simpa using hna⟩)
    have hnext : ∀ a ∈ left, ∃ b ∈ left, Needs steps a b := by
      intro a ha
      obtain ⟨ha, hna⟩ := List.mem_filter.mp ha
      obtain ⟨s, hs, rfl⟩ := List.mem_map.mp ha
      obtain ⟨b, hab, hb⟩ := exists_needs_of_unsettled hids hs (by simpa using hna)
      have hbs := hknown s hs b ((needs_iff_mem hids hs).mp hab)
      exact ⟨b, List.mem_filter.mpr ⟨hbs, by simpa using hb⟩, hab⟩
    obtain ⟨a, -, ha⟩ := exists_transGen_self hleft hnext
    exact hacyclic ⟨a, ha⟩

end StepFlow.Definition
