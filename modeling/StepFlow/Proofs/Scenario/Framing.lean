import StepFlow.Proofs.Scenario.Combined
import StepFlow.Proofs.Scenario.Unfit
/-!
# What scenarios change

Every scenario starts from the payload of the trigger, and its own payload differs from that only
where the scenario is about something (`Overrides`, `Lacks`): those of a condition at the key of
this condition, whatever the other conditions are, and the edge cases at fixed keys. So the edge
cases of a workflow are those of any other workflow with the same trigger (`lists_of_generate`).
-/

namespace StepFlow.Scenario

variable {stamp : Payload.Stamp} {canvas : Canvas} {scenarios : List Scenario}
variable {trigger node : CanvasNode} {nodes : List CanvasNode} {p : Probe} {probes : List Probe}
variable {base data entries : Record} {key : Scalar} {pass fail : Value} {label : String} {i : Nat}

/-- **What a payload has of its own:** it holds the entries, and at every other key it holds what
the base payload holds there, if anything. -/
structure Overrides (base data entries : Record) : Prop where
  written : ∀ e ∈ entries, data.get? e.1 = some e.2
  kept : ∀ key, (∀ e ∈ entries, ¬ (e.1 == key) = true) → data.get? key = base.get? key

/-- **What a payload lacks:** it has none of the names, and at every other key it holds what the
base payload holds there, if anything. -/
structure Lacks (base data : Record) (names : List String) : Prop where
  dropped : ∀ name ∈ names, data.get? (.text name) = none
  kept : ∀ key, (∀ name ∈ names, ¬ (Scalar.text name == key) = true) →
    data.get? key = base.get? key

/-- The condition of a node has the key in payloads, and these are its samples. -/
def Asks (node : CanvasNode) (key : Scalar) (pass fail : Value) : Prop :=
  ∃ c field, Condition.read node.data = .ok c ∧ c.samples = .ok (pass, fail) ∧
    c.field = .scalar field ∧ key = payloadKey field

/-- One scenario has the id, and its payload is as described. -/
def HasPayload (scenarios : List Scenario) (id : String) (IsPayload : Record → Prop) : Prop :=
  ∃ s, scenarios.filter (·.id == id) = [s] ∧ IsPayload s.data

/-- The ids of the edge cases. -/
def edgeIds : List String :=
  ["missing_required_fields", "invalid_data", "boundary_values"]

/-- **What the listing for some condition nodes is,** over the payload of the trigger. -/
structure Lists (nodes : List CanvasNode) (base : Record) (scenarios : List Scenario) : Prop where
  /-- The ids, in their order. -/
  ids : scenarios.map (·.id) = listedIds nodes.length
  /-- No two of them are equal. -/
  distinct : (scenarios.map (·.id)).Nodup
  /-- The two payloads of a condition hold its samples and are else the base payload. -/
  condition : ∀ i node, nodes[i]? = some node → ∃ key pass fail, Asks node key pass fail ∧
    HasPayload scenarios (conditionId "pass" (i + 1)) (Overrides base · [(key, pass)]) ∧
    HasPayload scenarios (conditionId "fail" (i + 1)) (Overrides base · [(key, fail)])
  /-- Without conditions there is the base payload. -/
  basic : nodes = [] → HasPayload scenarios "basic_flow" (· = base)
  /-- The base payload without the two required keys. -/
  missing : HasPayload scenarios "missing_required_fields" (Lacks base · ["deal_id", "deal_name"])
  /-- The base payload with values of wrong types. -/
  invalid : HasPayload scenarios "invalid_data" (Overrides base · (Payload.keyed invalidValues))
  /-- The base payload with values at the limits. -/
  boundary : HasPayload scenarios "boundary_values"
    (Overrides base · (Payload.keyed boundaryValues))

/-! ## Payloads -/

/-- **Writes to keys of which no two match change these keys only.** -/
theorem overrides_putAll (hentries : entries.Pairwise fun e f => ¬ (e.1 == f.1) = true)
    (base : Record) : Overrides base (base.putAll entries) entries where
  written := fun _ he => Entries.get?_putAll_of_mem he hentries base
  kept := fun _ hkey => Entries.get?_putAll_of_forall hkey base

theorem overrides_put (base : Record) (key : Scalar) (v : Value) :
    Overrides base (base.put key v) [(key, v)] := by
  have hentries : [(key, v)].Pairwise fun e f : Scalar × Value => ¬ (e.1 == f.1) = true :=
    List.pairwise_singleton _ _
  exact overrides_putAll hentries base

/-- Distinct names make keys of which no two match. -/
theorem pairwise_keyed (entries : List (String × Value)) (h : (entries.map (·.1)).Nodup) :
    (Payload.keyed entries).Pairwise fun e f => ¬ (e.1 == f.1) = true := by
  refine List.pairwise_map.mpr ((List.pairwise_map.mp h).imp fun hne hkey => hne ?_)
  exact (Scalar.text.inj (Scalar.text_beq_iff.mp hkey)).symm

/-- A key is required if it is one of the two names. -/
theorem isRequired_iff : isRequired key = true ↔
    ∃ name ∈ ["deal_id", "deal_name"], (Scalar.text name == key) = true := by
  simp only [Scalar.text_beq_iff]
  cases key with
  | text s => simp [isRequired, requiredKeys]
  | _ => simp [isRequired]

theorem isRequired_congr {k l : Scalar} (h : (k == l) = true) : isRequired k = isRequired l := by
  rw [Bool.eq_iff_iff, isRequired_iff, isRequired_iff]
  simp only [BEq.congr_right h]

theorem lacks_without (base : Record) :
    Lacks base (base.without isRequired) ["deal_id", "deal_name"] := by
  have hget := Entries.get?_without (fun _ _ => isRequired_congr) base
  constructor
  case dropped =>
    intro name hname
    rw [hget, if_pos (isRequired_iff.mpr ⟨name, hname, BEq.rfl⟩)]
  case kept =>
    intro key hkey
    rw [hget, if_neg]
    rw [isRequired_iff]
    rintro ⟨name, hname, h⟩
    exact hkey name hname h

/-! ## Listings -/

/-- A scenario of a listing is the one with its id. -/
theorem hasPayload_of_mem {s : Scenario} {IsPayload : Record → Prop}
    (hs : s ∈ all base label probes) (hdata : IsPayload s.data) :
    HasPayload (all base label probes) s.id IsPayload :=
  ⟨s, filter_id_eq_singleton (nodup_ids base label probes) hs, hdata⟩

/-- The scenarios of conditions are no edge cases. -/
theorem filter_ofProbes (base : Record) (label : String) (n : Nat) (probes : List Probe) :
    (ofProbes base label n probes).filter (·.id ∈ edgeIds) = [] := by
  refine List.filter_eq_nil_iff.mpr fun s hs => ?_
  have hid : s.id ∈ (ofProbes base label n probes).map (·.id) := List.mem_map_of_mem hs
  rw [map_id_ofProbes] at hid
  obtain ⟨m, -, hm⟩ := List.mem_flatMap.mp hid
  have hnone := notMem_otherIds hm
  simp only [otherIds, List.mem_cons, not_or] at hnone
  simp [edgeIds, hnone]

/-- **The edge cases of a listing** are those of the base payload and the label. -/
theorem filter_all (base : Record) (label : String) (probes : List Probe) :
    (all base label probes).filter (·.id ∈ edgeIds) = edgeCases base label := by
  have hcombined : (if 2 ≤ probes.length then [passingAll base label probes] else []).filter
      (·.id ∈ edgeIds) = [] := by
    split <;> rfl
  have hbasic : (if probes.isEmpty then [basicFlow base label] else []).filter
      (·.id ∈ edgeIds) = [] := by
    split <;> rfl
  rw [all, List.filter_append, List.filter_append, List.filter_append, filter_ofProbes, hcombined,
    hbasic]
  rfl

/-- The listing of conditions that could be read. -/
theorem lists_all (hprobes : nodes.mapM Probe.ofNode = .ok probes) (base : Record)
    (label : String) : Lists nodes base (all base label probes) := by
  have hlength := length_of_mapM_eq_ok hprobes
  have hmem : ∀ s ∈ ofProbes base label 1 probes, s ∈ all base label probes := fun s hs => by
    simp [all, hs]
  have hedge : ∀ s ∈ edgeCases base label, s ∈ all base label probes := fun s hs => by
    simp [all, hs]
  constructor
  case ids => rw [map_id_all, hlength]
  case distinct => exact nodup_ids base label probes
  case condition =>
    intro i node hnode
    obtain ⟨p, hp, hprobe⟩ := exists_of_mapM_eq_ok hprobes hnode
    obtain ⟨c, field, hread, hsamples, hfield, hkey⟩ := exists_of_ofNode hprobe
    obtain ⟨hpass, hfail⟩ := mem_ofProbes base label 1 hp
    rw [Nat.add_comm 1 i] at hpass hfail
    exact ⟨p.key, p.pass, p.fail, ⟨c, field, hread, hsamples, hfield, hkey⟩,
      hasPayload_of_mem (hmem _ hpass) (overrides_put base p.key p.pass),
      hasPayload_of_mem (hmem _ hfail) (overrides_put base p.key p.fail)⟩
  case basic =>
    intro hnone
    have hempty : probes = [] := List.length_eq_zero_iff.mp (by rw [hlength, hnone]; rfl)
    exact hasPayload_of_mem (s := basicFlow base label) (by simp [all, hempty]) rfl
  case missing => exact hasPayload_of_mem (hedge _ List.mem_cons_self) (lacks_without base)
  case invalid =>
    exact hasPayload_of_mem (hedge _ (List.mem_cons_of_mem _ List.mem_cons_self))
      (overrides_putAll (pairwise_keyed invalidValues (by decide)) base)
  case boundary =>
    exact hasPayload_of_mem
      (hedge _ (List.mem_cons_of_mem _ (List.mem_cons_of_mem _ List.mem_cons_self)))
      (overrides_putAll (pairwise_keyed boundaryValues (by decide)) base)

/-- **What the scenarios of a workflow are.** Their ids depend on the number of conditions alone,
each payload changes what its scenario is about and nothing else, and the edge cases depend on no
node but the trigger. -/
theorem lists_of_generate (h : generate stamp canvas = .ok scenarios)
    (htrigger : canvas.trigger? = some trigger) :
    ∃ base, Payload.ofTrigger stamp (triggerType trigger) = .ok base ∧
      Lists canvas.conditions base scenarios ∧
      ∀ canvas' scenarios', canvas'.trigger? = some trigger →
        generate stamp canvas' = .ok scenarios' →
        scenarios'.filter (·.id ∈ edgeIds) = scenarios.filter (·.id ∈ edgeIds) := by
  obtain ⟨label, base, probes, hlabel, hbase, hprobes, rfl⟩ := exists_of_generate h htrigger
  refine ⟨base, hbase, lists_all hprobes base label, fun canvas' scenarios' htrigger' h' => ?_⟩
  obtain ⟨label', base', probes', hlabel', hbase', -, rfl⟩ := exists_of_generate h' htrigger'
  obtain rfl : label' = label := Except.ok.inj (hlabel'.symm.trans hlabel)
  obtain rfl : base' = base := Except.ok.inj (hbase'.symm.trans hbase)
  rw [filter_all, filter_all]

/-! ## Conditions at the keys of edge cases -/

/-- A node that asks for the name of a deal. -/
def nameNode : CanvasNode where
  id := "name"
  kind := "condition"
  data := [(.text "condition", .text "deal_name == Acme")]

/-- A node that asks for its value. -/
def valueNode : CanvasNode where
  id := "value"
  kind := "condition"
  data := [(.text "condition", .text "value < 3")]

/-- A workflow that asks for a required key once and for an overridden one twice. -/
def namedCanvas : Canvas where
  nodes := [{ id := "start", kind := "trigger" }, nameNode, valueNode, valueNode]

theorem exists_generate_named (stamp : Payload.Stamp) :
    ∃ scenarios, generate stamp namedCanvas = .ok scenarios := by
  have hplain : ∀ node ∈ namedCanvas.nodes, Value.EntriesPlain node.data := by
    simp only [namedCanvas, List.mem_cons, List.not_mem_nil, or_false, forall_eq_or_imp, forall_eq]
    exact ⟨trivial, ⟨rfl, trivial, trivial⟩, ⟨rfl, trivial, trivial⟩, rfl, trivial, trivial⟩
  have hwritten : ∀ node ∈ namedCanvas.conditions, Condition.IsWritten node.data := by
    have hconditions : namedCanvas.conditions = [nameNode, valueNode, valueNode] := rfl
    simp only [hconditions, List.mem_cons, List.not_mem_nil, or_false, forall_eq_or_imp, forall_eq]
    exact ⟨⟨_, _, rfl, rfl⟩, ⟨_, _, rfl, rfl⟩, _, _, rfl, rfl⟩
  have hfit : ¬ IsUnfit namedCanvas := by
    rintro ⟨trigger, htrigger, htype | ⟨node, hnode, hunfit⟩⟩
    · obtain rfl := Option.some.inj htrigger
      exact absurd htype.1 (by decide)
    · exact hunfit.1 (hwritten node hnode)
  obtain ⟨scenarios, hscenarios, -⟩ := exists_generate hplain stamp hfit
  exact ⟨scenarios, hscenarios⟩

theorem lists_of_generate_named :
    ∃ scenarios, generate ⟨"run", "now"⟩ namedCanvas = .ok scenarios ∧
      ∃ base, Payload.ofTrigger ⟨"run", "now"⟩ (.text "default") = .ok base ∧
        Lists [nameNode, valueNode, valueNode] base scenarios ∧
        ∀ canvas' scenarios', canvas'.trigger? = some { id := "start", kind := "trigger" } →
          generate ⟨"run", "now"⟩ canvas' = .ok scenarios' →
          scenarios'.filter (·.id ∈ edgeIds) = scenarios.filter (·.id ∈ edgeIds) := by
  obtain ⟨scenarios, hgenerate⟩ := exists_generate_named ⟨"run", "now"⟩
  have htrigger : namedCanvas.trigger? = some { id := "start", kind := "trigger" } := rfl
  exact ⟨scenarios, hgenerate, lists_of_generate hgenerate htrigger⟩

end StepFlow.Scenario
