import StepFlow.Proofs.Condition.Threshold
import StepFlow.Proofs.Scenario.Listing
/-!
# Scenarios of thresholds

Whatever a workflow starts with and whatever its other nodes are, the two scenarios of a condition
that compares a field with an integer do what they are for: the condition holds of the data of the
one and fails with the data of the other (`holds_of_generate`).
-/

namespace StepFlow.Scenario

variable {stamp : Payload.Stamp} {canvas : Canvas} {scenarios : List Scenario} {node : CanvasNode}
variable {c : Condition} {p : Probe} {n : Int} {i : Nat} {f : String}

/-- What a probe takes from its condition. -/
theorem samples_of_ofNode (h : Probe.ofNode node = .ok p)
    (hread : Condition.read node.data = .ok c) (hfield : c.field = .text f) :
    c.samples = .ok (p.pass, p.fail) ∧ p.key = payloadKey (.text f) := by
  obtain ⟨c', field, hread', hsamples, hfield', hkey⟩ := exists_of_ofNode h
  obtain rfl : c = c' := Except.ok.inj (hread.symm.trans hread')
  obtain rfl : Scalar.text f = field := Value.scalar.inj (hfield.symm.trans hfield')
  exact ⟨hsamples, hkey⟩

/-- **The scenarios of a threshold do what they are for.** -/
theorem holds_of_generate (h : generate stamp canvas = .ok scenarios)
    (htrigger : canvas.trigger?.isSome) (hnode : canvas.conditions[i]? = some node)
    (hread : Condition.read node.data = .ok c) (hc : c.IsThreshold n) :
    ∃ pass fail, scenarios.filter (·.id == conditionId "pass" (i + 1)) = [pass] ∧
      scenarios.filter (·.id == conditionId "fail" (i + 1)) = [fail] ∧
      c.holds pass.data = .ok true ∧ c.holds fail.data = .ok false := by
  obtain ⟨trigger, htrigger⟩ := Option.isSome_iff_exists.mp htrigger
  obtain ⟨label, base, probes, -, -, hprobes, rfl⟩ := exists_of_generate h htrigger
  obtain ⟨p, hp, hprobe⟩ := exists_of_mapM_eq_ok hprobes hnode
  obtain ⟨f, hfield, hplain⟩ := hc.field
  obtain ⟨hsamples, hkey⟩ := samples_of_ofNode hprobe hread hfield
  obtain ⟨hpass, hfail⟩ := mem_ofProbes base label 1 hp
  rw [Nat.add_comm 1 i] at hpass hfail
  have hnodup := nodup_ids base label probes
  have hof : ∀ s ∈ ofProbes base label 1 probes, s ∈ all base label probes := fun s hs => by
    simp [all, hs]
  refine ⟨_, _, filter_id_eq_singleton hnodup (hof _ hpass),
    filter_id_eq_singleton hnodup (hof _ hfail), ?_⟩
  -- the field is its own key, since it is not the unknown one
  have hown : payloadKey (.text f) = .text f := by
    simp only [List.mem_cons, not_or] at hplain
    rw [payloadKey, Condition.unknownField, if_neg hplain.1]
  rw [passing, failing, hkey, hown]
  exact hc.holds_put hfield hsamples base

/-! ## A deal of more than ten thousand -/

/-- The condition. -/
def expensive : Condition where
  field := .text "deal_value"
  operator := .text ">"
  value := .text "10000"

/-- The condition in a node. -/
def expensiveNode : CanvasNode where
  id := "check"
  kind := "condition"
  data := [(.text "condition", .text "deal_value > 10000")]

/-- A workflow with this node alone. -/
def expensiveCanvas : Canvas where
  nodes := [{ id := "start", kind := "trigger" }, expensiveNode]

theorem read_expensive : Condition.read expensiveNode.data = .ok expensive := rfl

theorem isThreshold_expensive : expensive.IsThreshold 10000 where
  field := ⟨"deal_value", rfl, by decide⟩
  operator := ⟨">", by decide, rfl⟩
  value := by
    have hread : Double.read? "10000".toList =
        some (.finite ((10000 : Int) < 0) ((10000 : Int).natAbs * Double.one)) := by
      decide +kernel
    have hvalue : expensive.value.toNumber =
        .ok ((Double.read? "10000".toList).map Number.ofDouble) := rfl
    rw [hvalue, hread, Option.map_some,
      Number.ofDouble_of_toInt? (Double.toInt?_finite_mul_one 10000)]
  bound := by decide

theorem exists_probe_expensive : ∃ p, Probe.ofNode expensiveNode = .ok p := by
  simp only [Probe.ofNode, bind_eq_ok_iff, pure_eq_ok_iff]
  exact ⟨_, _, read_expensive, _, isThreshold_expensive.samples_eq rfl, _, rfl, _, rfl, _, rfl, rfl⟩

theorem exists_generate_expensive (stamp : Payload.Stamp) :
    ∃ scenarios, generate stamp expensiveCanvas = .ok scenarios := by
  obtain ⟨p, hp⟩ := exists_probe_expensive
  have htrigger : expensiveCanvas.trigger? = some { id := "start", kind := "trigger" } := rfl
  have hconditions : expensiveCanvas.conditions = [expensiveNode] := rfl
  simp only [generate, htrigger, hconditions, List.mapM_cons, List.mapM_nil, bind_eq_ok_iff,
    pure_eq_ok_iff]
  exact ⟨_, _, rfl, _, rfl, _, ⟨p, hp, _, rfl, rfl⟩, rfl⟩

theorem holds_of_generate_expensive :
    ∃ scenarios, generate ⟨"run", "now"⟩ expensiveCanvas = .ok scenarios ∧
      ∃ pass fail, scenarios.filter (·.id == conditionId "pass" 1) = [pass] ∧
        scenarios.filter (·.id == conditionId "fail" 1) = [fail] ∧
        expensive.holds pass.data = .ok true ∧ expensive.holds fail.data = .ok false := by
  obtain ⟨scenarios, hgenerate⟩ := exists_generate_expensive ⟨"run", "now"⟩
  have hnode : expensiveCanvas.conditions[0]? = some expensiveNode := rfl
  exact ⟨scenarios, hgenerate,
    holds_of_generate hgenerate rfl hnode read_expensive isThreshold_expensive⟩

end StepFlow.Scenario
