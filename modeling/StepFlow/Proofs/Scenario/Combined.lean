import StepFlow.Proofs.Scenario.Soundness
/-!
# The scenario of all conditions

The payload for all conditions together is that of the trigger with the passing sample of each
condition written to it in order. So at each key the last condition decides, and a key without a
condition keeps what the trigger gives (`Combines`). A condition is evaluated at its field, which is
its key, except that the unknown field has a key of its own that no condition is evaluated at; so a
condition that is not overwritten holds of the whole exactly if it holds of its own scenario
(`combines_of_generate`).
-/

namespace StepFlow.Scenario

variable {stamp : Payload.Stamp} {canvas : Canvas} {scenarios : List Scenario}
variable {trigger : CanvasNode} {nodes : List CanvasNode} {c c' : Condition} {p : Probe}
variable {probes : List Probe} {base : Record} {k k' key field : Scalar} {v v' : Value}
variable {i : Nat}

/-- **What the `i`-th node writes:** its condition has the key `k` in payloads, and the sample that
should pass it is `v`. -/
structure Writes (nodes : List CanvasNode) (i : Nat) (c : Condition) (k : Scalar) (v : Value) :
    Prop where
  read : ∃ node, nodes[i]? = some node ∧ Condition.read node.data = .ok c
  key : ∃ field, c.field = .scalar field ∧ k = payloadKey field
  sample : ∃ fail, c.samples = .ok (v, fail)

/-- No node behind the `i`-th writes to the key. -/
def IsLast (nodes : List CanvasNode) (i : Nat) (key : Scalar) : Prop :=
  ∀ j c k v, i < j → Writes nodes j c k v → ¬ (k == key) = true

/-- No two nodes write to the same key. -/
def DistinctKeys (nodes : List CanvasNode) : Prop :=
  ∀ i j c c' k k' v v', i ≠ j → Writes nodes i c k v → Writes nodes j c' k' v' → ¬ (k' == k) = true

/-- **What the payload for all conditions is,** among the scenarios of the nodes and over the
payload of the trigger. -/
structure Combines (nodes : List CanvasNode) (base : Record) (scenarios : List Scenario)
    (combined : Record) : Prop where
  /-- Every node writes. -/
  writes : ∀ i < nodes.length, ∃ c k v, Writes nodes i c k v
  /-- The key of a condition holds the sample of the last node with the key. -/
  written : ∀ key, (∃ i c k v, Writes nodes i c k v ∧ (k == key) = true) →
    ∃ i c k v, Writes nodes i c k v ∧ (k == key) = true ∧ IsLast nodes i key ∧
      combined.get? key = some v
  /-- Any other key holds what the trigger gives, if anything. -/
  kept : ∀ key, (∀ i c k v, Writes nodes i c k v → ¬ (k == key) = true) →
    combined.get? key = base.get? key
  /-- A condition that is not overwritten is evaluated as in its own scenario. -/
  agrees : ∀ i c k v, Writes nodes i c k v → IsLast nodes i k →
    ∃ pass, scenarios.filter (·.id == conditionId "pass" (i + 1)) = [pass] ∧
      c.holds combined = c.holds pass.data
  /-- If none is overwritten and each holds of its own scenario, all hold together. -/
  holds : DistinctKeys nodes →
    (∀ i c k v, Writes nodes i c k v →
      ∀ pass ∈ scenarios, pass.id = conditionId "pass" (i + 1) → c.holds pass.data = .ok true) →
    ∀ i c k v, Writes nodes i c k v → c.holds combined = .ok true

/-! ## Nodes and probes -/

/-- A probe writes what its node does. -/
theorem exists_writes (hprobes : nodes.mapM Probe.ofNode = .ok probes)
    (hp : probes[i]? = some p) : ∃ c, Writes nodes i c p.key p.pass := by
  obtain ⟨node, hnode, hprobe⟩ := exists_of_getElem?_mapM hprobes hp
  obtain ⟨c, field, hread, hsamples, hfield, hkey⟩ := exists_of_ofNode hprobe
  exact ⟨c, ⟨node, hnode, hread⟩, ⟨field, hfield, hkey⟩, p.fail, hsamples⟩

/-- A node writes one thing. -/
theorem Writes.unique (h : Writes nodes i c k v) (h' : Writes nodes i c' k' v') :
    c = c' ∧ k = k' ∧ v = v' := by
  obtain ⟨node, hnode, hread⟩ := h.read
  obtain ⟨node', hnode', hread'⟩ := h'.read
  obtain rfl : node = node' := Option.some.inj (hnode.symm.trans hnode')
  obtain rfl : c = c' := Except.ok.inj (hread.symm.trans hread')
  obtain ⟨field, hfield, rfl⟩ := h.key
  obtain ⟨field', hfield', rfl⟩ := h'.key
  obtain ⟨fail, hsample⟩ := h.sample
  obtain ⟨fail', hsample'⟩ := h'.sample
  rw [hfield, Value.scalar.injEq] at hfield'
  rw [hsample, Except.ok.injEq, Prod.mk.injEq] at hsample'
  exact ⟨rfl, congrArg payloadKey hfield', hsample'.1⟩

theorem Writes.lt_length (h : Writes nodes i c k v) : i < nodes.length := by
  obtain ⟨node, hnode, -⟩ := h.read
  exact (List.getElem?_eq_some_iff.mp hnode).1

/-- So it writes what its probe does. -/
theorem Writes.exists_probe (hprobes : nodes.mapM Probe.ofNode = .ok probes)
    (h : Writes nodes i c k v) : ∃ p, probes[i]? = some p ∧ k = p.key ∧ v = p.pass := by
  obtain ⟨node, hnode, -⟩ := h.read
  obtain ⟨p, hp, -⟩ := exists_of_mapM_eq_ok hprobes hnode
  obtain ⟨c', hwrites⟩ := exists_writes hprobes hp
  exact ⟨p, hp, (h.unique hwrites).2⟩

/-! ## Fields and keys -/

/-- The unknown field is no key. -/
theorem payloadKey_ne_unknown (field : Scalar) :
    ¬ (payloadKey field == .text Condition.unknownField) = true := by
  intro h
  have hkey : payloadKey field = .text Condition.unknownField :=
    Scalar.text_beq_iff.mp (BEq.symm h)
  cases field with
  | text s =>
    by_cases hs : s = Condition.unknownField
    · rw [payloadKey, if_pos hs] at hkey
      exact absurd (Scalar.text.inj hkey) (by decide)
    · rw [payloadKey, if_neg hs] at hkey
      exact hs (Scalar.text.inj hkey)
  | _ => cases hkey

/-- Any other field is its own key. -/
theorem payloadKey_eq_self (h : field ≠ .text Condition.unknownField) :
    payloadKey field = field := by
  cases field with
  | text s => rw [payloadKey, if_neg fun hs => h (congrArg Scalar.text hs)]
  | _ => rfl

/-! ## Writes in order -/

/-- The writes of the probes. -/
def writesOf (probes : List Probe) : List (Scalar × Value) :=
  probes.map fun p => (p.key, p.pass)

/-- A key that a node writes has a last node. -/
theorem exists_isLast {i : Nat} {c : Condition} {k : Scalar} {v : Value} (h : Writes nodes i c k v)
    (hkey : (k == key) = true) :
    ∃ i c k v, Writes nodes i c k v ∧ (k == key) = true ∧ IsLast nodes i key := by
  by_cases hlast : IsLast nodes i key
  · exact ⟨i, c, k, v, h, hkey, hlast⟩
  · -- a node behind this one has the key, and no node is behind the last one
    obtain ⟨j, c', k', v', hij, h', hkey'⟩ :
        ∃ j c' k' v', i < j ∧ Writes nodes j c' k' v' ∧ (k' == key) = true := by
      simpa [IsLast] using hlast
    have hj := h'.lt_length
    exact exists_isLast h' hkey'
  termination_by nodes.length - i

/-- Of the writes to a key the last one is seen. -/
theorem get?_of_isLast (hprobes : nodes.mapM Probe.ofNode = .ok probes)
    (h : Writes nodes i c k v) (hkey : (k == key) = true) (hlast : IsLast nodes i key)
    (base : Record) : (base.putAll (writesOf probes)).get? key = some v := by
  obtain ⟨p, hp, rfl, rfl⟩ := h.exists_probe hprobes
  obtain ⟨hi, hget⟩ := List.getElem?_eq_some_iff.mp hp
  have hsplit : writesOf probes =
      writesOf (probes.take i) ++ (p.key, p.pass) :: writesOf (probes.drop (i + 1)) := by
    conv_lhs => rw [← List.take_append_drop i probes, List.drop_eq_getElem_cons hi, hget]
    simp [writesOf]
  rw [hsplit]
  refine Entries.get?_putAll_append hkey (fun e he => ?_) base
  obtain ⟨q, hq, rfl⟩ := List.mem_map.mp he
  obtain ⟨j, hj⟩ := List.mem_iff_getElem?.mp hq
  obtain ⟨c', hwrites⟩ := exists_writes hprobes (List.getElem?_drop ▸ hj)
  exact hlast _ _ _ _ (by omega) hwrites

/-- Where no node writes, nothing changes. -/
theorem get?_of_forall (hprobes : nodes.mapM Probe.ofNode = .ok probes)
    (h : ∀ i c k v, Writes nodes i c k v → ¬ (k == key) = true) (base : Record) :
    (base.putAll (writesOf probes)).get? key = base.get? key := by
  refine Entries.get?_putAll_of_forall (fun e he => ?_) base
  obtain ⟨p, hp, rfl⟩ := List.mem_map.mp he
  obtain ⟨i, hi⟩ := List.mem_iff_getElem?.mp hp
  obtain ⟨c, hwrites⟩ := exists_writes hprobes hi
  exact h _ _ _ _ hwrites

/-- A condition that is not overwritten says of all writes what it says of its own. -/
theorem holds_of_isLast (hprobes : nodes.mapM Probe.ofNode = .ok probes)
    (h : Writes nodes i c k v) (hlast : IsLast nodes i k) (base : Record) :
    c.holds (base.putAll (writesOf probes)) = c.holds (base.put k v) := by
  have hall := get?_of_isLast hprobes h BEq.rfl hlast base
  have hunknown : (base.putAll (writesOf probes)).get? (.text Condition.unknownField) =
      base.get? (.text Condition.unknownField) := by
    refine get?_of_forall hprobes (fun i c k v hw => ?_) base
    obtain ⟨field, -, rfl⟩ := hw.key
    exact payloadKey_ne_unknown field
  obtain ⟨field, hfield, rfl⟩ := h.key
  refine Condition.holds_congr hfield ?_
  by_cases hf : field = .text Condition.unknownField
  · rw [hf, hunknown, Entries.get?_put, if_neg (payloadKey_ne_unknown _)]
  · rw [payloadKey_eq_self hf] at hall ⊢
    rw [hall, Entries.get?_put_self]

/-! ## The payload for all conditions -/

theorem DistinctKeys.isLast (h : DistinctKeys nodes) (hw : Writes nodes i c k v) :
    IsLast nodes i k :=
  fun j _ _ _ hij hw' => h i j _ _ _ _ _ _ (Nat.ne_of_lt hij) hw hw'

/-- **All conditions together:** the last one decides at each key, and a condition that is not
overwritten holds exactly if it holds of its own scenario. -/
theorem combines_of_generate (h : generate stamp canvas = .ok scenarios)
    (htrigger : canvas.trigger? = some trigger) (htwo : 2 ≤ canvas.conditions.length) :
    ∃ base combined, Payload.ofTrigger stamp (triggerType trigger) = .ok base ∧
      scenarios.filter (·.id == "pass_all_conditions") = [combined] ∧
      Combines canvas.conditions base scenarios combined.data := by
  obtain ⟨label, base, probes, -, hbase, hprobes, rfl⟩ := exists_of_generate h htrigger
  have hnodup := nodup_ids base label probes
  have hlength : probes.length = canvas.conditions.length := length_of_mapM_eq_ok hprobes
  have hmem : passingAll base label probes ∈ all base label probes := by
    simp [all, hlength, htwo]
  -- the scenario of one condition
  have hpass {i : Nat} {c : Condition} {k : Scalar} {v : Value}
      (hw : Writes canvas.conditions i c k v) :
      ∃ pass, (all base label probes).filter (·.id == conditionId "pass" (i + 1)) = [pass] ∧
        pass.data = base.put k v := by
    obtain ⟨p, hp, rfl, rfl⟩ := hw.exists_probe hprobes
    obtain ⟨hpass, -⟩ := mem_ofProbes base label 1 hp
    rw [Nat.add_comm 1 i] at hpass
    have hmem : passing base label (i + 1) p ∈ all base label probes := by simp [all, hpass]
    exact ⟨_, filter_id_eq_singleton hnodup hmem, rfl⟩
  refine ⟨base, _, hbase, filter_id_eq_singleton hnodup hmem, ?_⟩
  constructor
  case writes =>
    intro i hi
    obtain ⟨c, hw⟩ := exists_writes hprobes (List.getElem?_eq_getElem (hlength ▸ hi))
    exact ⟨c, _, _, hw⟩
  case written =>
    rintro key ⟨i, c, k, v, hw, hkey⟩
    obtain ⟨i, c, k, v, hw, hkey, hlast⟩ := exists_isLast hw hkey
    exact ⟨i, c, k, v, hw, hkey, hlast, get?_of_isLast hprobes hw hkey hlast base⟩
  case kept => exact fun key hkey => get?_of_forall hprobes hkey base
  case agrees =>
    intro i c k v hw hlast
    obtain ⟨pass, hfilter, hdata⟩ := hpass hw
    exact ⟨pass, hfilter, hdata ▸ holds_of_isLast hprobes hw hlast base⟩
  case holds =>
    intro hdistinct hholds i c k v hw
    obtain ⟨pass, hfilter, hdata⟩ := hpass hw
    have hof := List.mem_filter.mp (hfilter ▸ List.mem_singleton_self pass)
    have heach := hholds i c k v hw pass hof.1 (beq_iff_eq.mp hof.2)
    rw [← heach, hdata]
    exact holds_of_isLast hprobes hw (hdistinct.isLast hw) base

/-! ## An expensive deal that is won -/

/-- A node for a won deal. -/
def wonNode : CanvasNode where
  id := "won"
  kind := "condition"
  data := [(.text "condition", .text "stage == Won")]

/-- A workflow with two conditions. -/
def wonCanvas : Canvas where
  nodes := [{ id := "start", kind := "trigger" }, expensiveNode, wonNode]

theorem exists_generate_won (stamp : Payload.Stamp) :
    ∃ scenarios, generate stamp wonCanvas = .ok scenarios := by
  obtain ⟨p, hp⟩ := exists_probe_expensive
  have hwon : Condition.read wonNode.data =
      .ok { field := .text "stage", operator := .text "==", value := .text "Won" } := rfl
  obtain ⟨q, hq⟩ : ∃ q, Probe.ofNode wonNode = .ok q := by
    simp only [Probe.ofNode, hwon]
    exact ⟨_, rfl⟩
  have htrigger : wonCanvas.trigger? = some { id := "start", kind := "trigger" } := rfl
  have hconditions : wonCanvas.conditions = [expensiveNode, wonNode] := rfl
  simp only [generate, htrigger, hconditions, List.mapM_cons, List.mapM_nil, bind_eq_ok_iff,
    pure_eq_ok_iff]
  exact ⟨_, _, rfl, _, rfl, _, ⟨p, hp, _, ⟨q, hq, _, rfl, rfl⟩, rfl⟩, rfl⟩

theorem combines_of_generate_won :
    ∃ scenarios, generate ⟨"run", "now"⟩ wonCanvas = .ok scenarios ∧
      ∃ base combined, Payload.ofTrigger ⟨"run", "now"⟩ (.text "default") = .ok base ∧
        scenarios.filter (·.id == "pass_all_conditions") = [combined] ∧
        Combines [expensiveNode, wonNode] base scenarios combined.data := by
  obtain ⟨scenarios, hgenerate⟩ := exists_generate_won ⟨"run", "now"⟩
  have htrigger : wonCanvas.trigger? = some { id := "start", kind := "trigger" } := rfl
  exact ⟨scenarios, hgenerate, combines_of_generate hgenerate htrigger (by decide)⟩

end StepFlow.Scenario
