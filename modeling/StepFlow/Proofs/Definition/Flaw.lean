import StepFlow.Proofs.Definition.Counting
/-!
# The flaws of a definition

What each of the four checks finds, in terms of the definition alone. The first three look for a
repeated id, a loose connection and an unknown dependency; a definition without these is coherent,
and of a coherent definition the last check says whether its dependencies form a circle
(`Coherent.check_eq_cycle_iff`), wherever its steps are stored.
-/

namespace StepFlow.Definition

variable {d : Definition} {ids : List String} {steps : List Step}

/-- **No repeated ids, no loose connections, no unknown dependencies.** -/
structure Coherent (d : Definition) : Prop where
  distinct : d.ids.Nodup
  joined : ∀ c ∈ d.connections, c.source ∈ d.ids ∧ c.target ∈ d.ids
  known : ∀ s ∈ d.steps, ∀ b ∈ s.dependencies, b ∈ d.ids

/-! ## The first three checks -/

/-- No id is repeated if the ids are distinct and none was seen before. -/
theorem firstRepeated?_eq_none_iff {seen : List String} :
    firstRepeated? seen ids = none ↔ ids.Nodup ∧ ∀ a ∈ ids, a ∉ seen := by
  induction ids generalizing seen with
  | nil => simp [firstRepeated?]
  | cons id rest ih =>
    rw [firstRepeated?]
    by_cases hid : id ∈ seen
    · simp [hid]
    · rw [if_neg (by simpa using hid), ih, List.nodup_cons]
      constructor
      · rintro ⟨hnd, hseen⟩
        refine ⟨⟨fun hrest => hseen id hrest List.mem_cons_self, hnd⟩, ?_⟩
        rintro a (_ | ⟨_, ha⟩)
        · exact hid
        · exact fun has => hseen a ha (List.mem_cons_of_mem _ has)
      · rintro ⟨⟨hrest, hnd⟩, hseen⟩
        refine ⟨hnd, fun a ha => ?_⟩
        rintro (_ | ⟨_, has⟩)
        · exact hrest ha
        · exact hseen a (List.mem_cons_of_mem _ ha) has

theorem firstLoose?_eq_none_iff {connections : List Connection} :
    firstLoose? ids connections = none ↔
      ∀ c ∈ connections, c.source ∈ ids ∧ c.target ∈ ids := by
  simp [firstLoose?]

theorem firstUnknown?_eq_none_iff {steps : List Step} :
    firstUnknown? ids steps = none ↔ ∀ s ∈ steps, ∀ b ∈ s.dependencies, b ∈ ids := by
  simp [firstUnknown?]

/-! ## The whole check -/

/-- Of a coherent definition only the last check remains. -/
theorem Coherent.check_eq (h : d.Coherent) :
    d.check = if (settled d.steps).length = d.steps.length then .ok () else .error .cycle := by
  have hrepeated : firstRepeated? [] d.ids = none :=
    firstRepeated?_eq_none_iff.mpr ⟨h.distinct, by simp⟩
  rw [check, hrepeated, firstLoose?_eq_none_iff.mpr h.joined,
    firstUnknown?_eq_none_iff.mpr h.known, ← drained_eq_settled h.distinct]

/-- **A coherent definition passes exactly if no step depends on itself.** -/
theorem Coherent.check_eq_ok_iff (h : d.Coherent) : d.check = .ok () ↔ ¬ Cyclic d.steps := by
  rw [← length_settled_eq_iff h.distinct h.known, h.check_eq]
  split <;> simp_all

/-- **And fails with a circle exactly if one does.** -/
theorem Coherent.check_eq_cycle_iff (h : d.Coherent) :
    d.check = .error .cycle ↔ Cyclic d.steps := by
  rw [← not_iff_not, ← length_settled_eq_iff h.distinct h.known, h.check_eq]
  split <;> simp_all

/-! ## Steps stored in another order -/

theorem needs_of_perm (hperm : steps.Perm d.steps) : Needs steps = Needs d.steps := by
  ext a b
  simp only [Needs, hperm.mem_iff]

/-- Coherence does not depend on where the steps are stored. -/
theorem Coherent.of_perm (h : d.Coherent) (hperm : steps.Perm d.steps) :
    { d with steps }.Coherent := by
  have hids : ({ d with steps } : Definition).ids.Perm d.ids := hperm.map _
  refine ⟨hids.nodup_iff.mpr h.distinct, fun c hc => ?_, fun s hs b hb => ?_⟩
  · obtain ⟨hsource, htarget⟩ := h.joined c hc
    exact ⟨hids.mem_iff.mpr hsource, hids.mem_iff.mpr htarget⟩
  · exact hids.mem_iff.mpr (h.known s (hperm.mem_iff.mp hs) b hb)

/-- **Nor does the last check.** -/
theorem Coherent.check_of_perm (h : d.Coherent) (hperm : steps.Perm d.steps)
    (hcheck : d.check = .ok ()) : { d with steps }.check = .ok () := by
  rw [(h.of_perm hperm).check_eq_ok_iff, Cyclic, needs_of_perm hperm]
  exact h.check_eq_ok_iff.mp hcheck

end StepFlow.Definition
