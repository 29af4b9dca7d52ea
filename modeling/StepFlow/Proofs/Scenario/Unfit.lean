import StepFlow.Proofs.Condition.Unfit
import StepFlow.Proofs.First
import StepFlow.Proofs.Scenario.Listing
/-!
# Workflows without scenarios

A workflow whose data is plain has no scenarios if the type of its trigger or one of its conditions
is unfit, and else it has all of them. The trigger goes before the conditions and a condition before
those behind it, so the first that is unfit decides what the obstacle is: an integer that is too
large, or a list or a record that is no key (`answers_of_plain`).
-/

namespace StepFlow.Scenario

variable {stamp : Payload.Stamp} {canvas : Canvas} {node trigger : CanvasNode} {e : Obstacle}

/-! ## Conditions -/

/-- **How a condition fails:** the value goes before the field, and no other one has a type. -/
inductive ConditionFails (data : Record) : Obstacle → Prop where
  /-- The value is too large. -/
  | value (hwritten : ¬ Condition.IsWritten data) (hvalue : Condition.HasUnfitValue data) :
    ConditionFails data .tooLarge
  /-- The type or the field is a list or a record. -/
  | key (hunfit : Condition.IsUnfit data) (hvalue : ¬ Condition.HasUnfitValue data) :
    ConditionFails data .notAKey

theorem exists_label (h : Value.EntriesPlain node.data) : ∃ label, node.label = .ok label := by
  rw [CanvasNode.label]
  split
  · exact Value.exists_display (h.field _)
  · exact ⟨_, rfl⟩

/-- A plain condition whose field can be a key gives a probe. -/
theorem exists_ofNode {c : Condition} (hplain : Value.EntriesPlain node.data)
    (hread : Condition.read node.data = .ok c) (hc : c.IsPlain)
    (hfield : ¬ c.field.isCollection = true) : ∃ p, Probe.ofNode node = .ok p := by
  obtain ⟨key, pass, fail, hkey, hsamples⟩ := Condition.exists_samples hc hfield
  obtain ⟨label, hlabel⟩ := exists_label hplain
  obtain ⟨text, htext⟩ := Condition.exists_display hc
  simp only [Probe.ofNode, bind_eq_ok_iff, pure_eq_ok_iff]
  exact ⟨_, c, hread, _, hsamples, key, hkey, label, hlabel, text, htext, rfl⟩

/-- A condition that is not unfit gives a probe. -/
theorem exists_ofNode_of_not_isUnfit (hplain : Value.EntriesPlain node.data)
    (h : ¬ Condition.IsUnfit node.data) : ∃ p, Probe.ofNode node = .ok p := by
  by_cases hwritten : Condition.IsWritten node.data
  · obtain ⟨c, hread, hc, hfield⟩ := Condition.exists_read_of_isWritten hwritten
    exact exists_ofNode hplain hread hc hfield
  · simp only [Condition.IsUnfit, hwritten, not_false_eq_true, true_and, not_or] at h
    obtain ⟨htype, hvalue, hfield⟩ := h
    obtain ⟨c, hread, hc, hiff⟩ := Condition.exists_ofProperties hplain htype hvalue
    rw [← Condition.read_of_not_isWritten hwritten] at hread
    exact exists_ofNode hplain hread hc (hiff.not.mpr hfield)

/-- The type of a trigger is a list or a record that is not empty. -/
def HasUnfitTrigger (trigger : CanvasNode) : Prop :=
  let selected := (Value.field trigger.data "triggerType").orElse (Value.field trigger.data "type")
  selected.isGiven = true ∧ selected.isCollection = true

theorem isCollection_triggerType_iff :
    (triggerType trigger).isCollection = true ↔ HasUnfitTrigger trigger := by
  rw [triggerType, HasUnfitTrigger]
  generalize (Value.field trigger.data "triggerType").orElse _ = selected
  rw [Value.orElse]
  by_cases hgiven : selected.isGiven = true
  · rw [if_pos hgiven]
    exact ⟨fun h => ⟨hgiven, h⟩, fun h => h.2⟩
  · rw [if_neg hgiven]
    exact iff_of_false Bool.false_ne_true fun h => hgiven h.1

theorem isPlain_triggerType (hplain : Value.EntriesPlain trigger.data) :
    (triggerType trigger).IsPlain :=
  ((hplain.field _).orElse (hplain.field _)).orElse trivial

theorem exists_ofTrigger (stamp : Payload.Stamp) (hplain : Value.EntriesPlain trigger.data)
    (h : ¬ HasUnfitTrigger trigger) :
    ∃ base, Payload.ofTrigger stamp (triggerType trigger) = .ok base := by
  cases hkey : (triggerType trigger).asKey with
  | error e =>
    have hcollection := ((Value.asKey_eq_error_iff (isPlain_triggerType hplain)).mp hkey).1
    exact absurd (isCollection_triggerType_iff.mp hcollection) h
  | ok key =>
    simp only [Payload.ofTrigger, hkey, bind, Except.bind]
    split <;> exact ⟨_, rfl⟩

/-! ## Workflows -/

/-- **What keeps a workflow from having scenarios.** -/
def IsUnfit (canvas : Canvas) : Prop :=
  ∃ trigger, canvas.trigger? = some trigger ∧
    (HasUnfitTrigger trigger ∨ ∃ node ∈ canvas.conditions, Condition.IsUnfit node.data)

/-- **How a workflow fails:** by its trigger, or else by the first condition that is unfit. -/
inductive Fails (canvas : Canvas) : Obstacle → Prop where
  /-- The type of the trigger is a list or a record. -/
  | trigger {trigger : CanvasNode} (htrigger : canvas.trigger? = some trigger)
    (hunfit : HasUnfitTrigger trigger) : Fails canvas .notAKey
  /-- A condition fails, and none before it is unfit. -/
  | condition {trigger node : CanvasNode} {before after : List CanvasNode} {e : Obstacle}
    (htrigger : canvas.trigger? = some trigger) (hfit : ¬ HasUnfitTrigger trigger)
    (hsplit : canvas.conditions = before ++ node :: after)
    (hbefore : ∀ b ∈ before, ¬ Condition.IsUnfit b.data) (hnode : ConditionFails node.data e) :
    Fails canvas e

section Plain

variable (hplain : ∀ node ∈ canvas.nodes, Value.EntriesPlain node.data)
include hplain

theorem plain_of_trigger? (htrigger : canvas.trigger? = some trigger) :
    Value.EntriesPlain trigger.data :=
  hplain _ (List.mem_of_find?_eq_some htrigger)

theorem plain_of_mem_conditions (hnode : node ∈ canvas.conditions) :
    Value.EntriesPlain node.data :=
  hplain _ (List.mem_filter.mp hnode).1

theorem exists_generate (stamp : Payload.Stamp) (h : ¬ IsUnfit canvas) :
    ∃ scenarios, generate stamp canvas = .ok scenarios ∧ scenarios.map (·.id) =
      if canvas.trigger?.isSome then listedIds canvas.conditions.length else [] := by
  cases htrigger : canvas.trigger? with
  | none => exact ⟨[], by simp only [generate, htrigger]; rfl, rfl⟩
  | some trigger =>
    have hfit : ¬ HasUnfitTrigger trigger := fun hunfit => h ⟨trigger, htrigger, .inl hunfit⟩
    have htplain := plain_of_trigger? hplain htrigger
    obtain ⟨label, hlabel⟩ := exists_label htplain
    obtain ⟨base, hbase⟩ := exists_ofTrigger stamp htplain hfit
    have hprobe : ∀ node ∈ canvas.conditions, ∃ p, Probe.ofNode node = .ok p := fun node hnode =>
      exists_ofNode_of_not_isUnfit (plain_of_mem_conditions hplain hnode)
        fun hunfit => h ⟨trigger, htrigger, .inr ⟨node, hnode, hunfit⟩⟩
    obtain ⟨probes, hprobes⟩ := exists_mapM hprobe
    refine ⟨all base label probes, ?_, ?_⟩
    · simp only [generate, htrigger, hlabel, hbase, hprobes, bind, Except.bind]
      rfl
    · rw [map_id_all, length_of_mapM_eq_ok hprobes]
      rfl

end Plain

/-- **What the generation of scenarios answers.** -/
structure Answers (stamp : Payload.Stamp) (canvas : Canvas) : Prop where
  /-- It fails exactly for unfit workflows. -/
  fails : (∃ e, generate stamp canvas = .error e) ↔ IsUnfit canvas
  /-- The first thing that is unfit decides how. -/
  obstacle : ∀ e, generate stamp canvas = .error e ↔ Fails canvas e
  /-- For all others it lists all scenarios, and none without a trigger. -/
  lists : ¬ IsUnfit canvas →
    ∃ scenarios, generate stamp canvas = .ok scenarios ∧ scenarios.map (·.id) =
      if canvas.trigger?.isSome then listedIds canvas.conditions.length else []

end StepFlow.Scenario
