import Mathlib.Data.List.Flatten
import Mathlib.Data.List.Nodup
import StepFlow.Proofs.Result
import StepFlow.Proofs.Text.Digit
import StepFlow.Scenario.Basic
/-!
# The listing of scenarios

Scenarios of conditions are named by their positions, and no other scenario is named like one, so no
two scenarios share an id (`nodup_ids`): an id stands for one scenario of the listing
(`filter_id_eq_singleton`). A listing is made from a payload, a label and the conditions as they are
read one by one (`exists_of_generate`).
-/

namespace StepFlow.Scenario

open Text

variable {what : String} {m n i : Nat} {s : Scenario} {p : Probe} {probes : List Probe}
variable {scenarios : List Scenario}

/-! ## Ids -/

theorem toList_conditionId (what : String) (n : Nat) :
    (conditionId what n).toList = what.toList ++ "_condition_".toList ++ decimal n := by
  simp [conditionId]

theorem conditionId_injective (h : conditionId what m = conditionId what n) : m = n := by
  have hlist := congrArg String.toList h
  rw [toList_conditionId, toList_conditionId, List.append_cancel_left_eq] at hlist
  exact decimal_injective hlist

theorem conditionId_pass_ne_fail (m n : Nat) : conditionId "pass" m ≠ conditionId "fail" n := by
  intro h
  have hlist := congrArg (fun id => id.toList.head?) h
  simp [toList_conditionId] at hlist

/-- The ids of a condition at a position. -/
def conditionIds (n : Nat) : List String :=
  [conditionId "pass" n, conditionId "fail" n]

/-- The ids of all other scenarios. -/
def otherIds : List String :=
  ["pass_all_conditions", "basic_flow", "missing_required_fields", "invalid_data",
    "boundary_values"]

/-- No other scenario is named like one of a condition. -/
theorem notMem_otherIds {id : String} (hid : id ∈ conditionIds n) : id ∉ otherIds := by
  have hnone : ∀ what ∈ ["pass", "fail"], ∀ other ∈ otherIds,
      ¬ what.toList ++ "_condition_".toList <+: other.toList := by decide
  obtain ⟨what, hwhat, rfl⟩ : ∃ what ∈ ["pass", "fail"], conditionId what n = id := by
    simpa [conditionIds, eq_comm] using hid
  refine fun hother => hnone what hwhat _ hother ?_
  rw [toList_conditionId]
  exact List.prefix_append _ _

/-! ## Distinct ids -/

theorem map_id_ofProbes (base : Record) (label : String) (n : Nat) (probes : List Probe) :
    (ofProbes base label n probes).map (·.id) =
      (List.range' n probes.length).flatMap conditionIds := by
  induction probes generalizing n with
  | nil => rfl
  | cons p probes ih =>
    rw [ofProbes, List.map_cons, List.map_cons, ih, List.length_cons, List.range'_succ,
      List.flatMap_cons]
    rfl

theorem nodup_flatMap_conditionIds (n count : Nat) :
    ((List.range' n count).flatMap conditionIds).Nodup := by
  refine List.nodup_flatMap.mpr ⟨fun m _ => ?_, ?_⟩
  · simp [conditionIds, conditionId_pass_ne_fail]
  · -- an id of two positions makes them equal
    refine (List.nodup_range' 1).imp fun {a b} hne id ha hb => hne ?_
    simp only [conditionIds, List.mem_cons, List.not_mem_nil, or_false] at ha hb
    rcases ha with rfl | rfl <;> rcases hb with hb | hb
    · exact conditionId_injective hb
    · exact absurd hb (conditionId_pass_ne_fail _ _)
    · exact absurd hb.symm (conditionId_pass_ne_fail _ _)
    · exact conditionId_injective hb

/-- The ids of a listing for so many conditions: those of the conditions, and then others. -/
def listedIds (count : Nat) : List String :=
  (List.range' 1 count).flatMap conditionIds ++
    (if 2 ≤ count then ["pass_all_conditions"] else []) ++
    (if count = 0 then ["basic_flow"] else []) ++
    ["missing_required_fields", "invalid_data", "boundary_values"]

theorem map_id_all (base : Record) (label : String) (probes : List Probe) :
    (all base label probes).map (·.id) = listedIds probes.length := by
  rw [all, List.map_append, List.map_append, List.map_append, map_id_ofProbes, listedIds]
  have hempty : probes.isEmpty = true ↔ probes.length = 0 := by simp
  congr 2
  · congr 1
    split <;> rfl
  · simp only [hempty]
    split <;> rfl

theorem nodup_listedIds (count : Nat) : (listedIds count).Nodup := by
  have hsub : ((if 2 ≤ count then ["pass_all_conditions"] else []) ++
      ((if count = 0 then ["basic_flow"] else []) ++
      ["missing_required_fields", "invalid_data", "boundary_values"])).Sublist otherIds := by
    split <;> split <;> decide
  rw [listedIds, List.append_assoc, List.append_assoc]
  refine List.nodup_append'.mpr
    ⟨nodup_flatMap_conditionIds _ _, hsub.nodup (by decide), fun id hid hother => ?_⟩
  obtain ⟨n, -, hn⟩ := List.mem_flatMap.mp hid
  exact notMem_otherIds hn (hsub.subset hother)

/-- **No two scenarios of a listing share an id.** -/
theorem nodup_ids (base : Record) (label : String) (probes : List Probe) :
    ((all base label probes).map (·.id)).Nodup := by
  rw [map_id_all]
  exact nodup_listedIds _

/-- **An id stands for one scenario.** -/
theorem filter_id_eq_singleton (hnodup : (scenarios.map (·.id)).Nodup) (hs : s ∈ scenarios) :
    scenarios.filter (·.id == s.id) = [s] := by
  induction scenarios with
  | nil => cases hs
  | cons t rest ih =>
    rw [List.map_cons, List.nodup_cons] at hnodup
    rcases List.mem_cons.mp hs with rfl | hs
    · have hrest : rest.filter (·.id == s.id) = [] := by
        refine List.filter_eq_nil_iff.mpr fun t ht heq => hnodup.1 ?_
        exact List.mem_map.mpr ⟨t, ht, by simpa using heq⟩
      rw [List.filter_cons_of_pos (by simp), hrest]
    · have hne : ¬ (t.id == s.id) = true := fun heq =>
        hnodup.1 (List.mem_map.mpr ⟨s, hs, by simpa using (beq_iff_eq.mp heq).symm⟩)
      rw [List.filter_cons, if_neg hne, ih hnodup.2 hs]

/-! ## Scenarios of conditions -/

/-- The two scenarios of a condition are listed. -/
theorem mem_ofProbes (base : Record) (label : String) (n : Nat) (hp : probes[i]? = some p) :
    passing base label (n + i) p ∈ ofProbes base label n probes ∧
      failing base label (n + i) p ∈ ofProbes base label n probes := by
  induction probes generalizing n i with
  | nil => simp at hp
  | cons q probes ih =>
    rw [ofProbes]
    cases i with
    | zero =>
      obtain rfl : q = p := by simpa using hp
      simp
    | succ i =>
      obtain ⟨hpass, hfail⟩ := ih (n + 1) (by simpa using hp)
      rw [Nat.add_assoc, Nat.add_comm 1] at hpass hfail
      simp [hpass, hfail]

/-! ## Generation -/

/-- A probe is made from a condition that could be read, at a field that is a key. -/
theorem exists_of_ofNode {node : CanvasNode} (h : Probe.ofNode node = .ok p) :
    ∃ c field, Condition.read node.data = .ok c ∧ c.samples = .ok (p.pass, p.fail) ∧
      c.field = .scalar field ∧ p.key = payloadKey field := by
  simp only [Probe.ofNode, bind_eq_ok_iff, pure_eq_ok_iff] at h
  obtain ⟨c, hread, ⟨pass, fail⟩, hsamples, field, hfield, label, -, text, -, rfl⟩ := h
  refine ⟨c, field, hread, hsamples, ?_, rfl⟩
  cases hc : c.field with
  | scalar s =>
    rw [hc] at hfield
    rw [Except.ok.inj hfield]
  | _ =>
    rw [hc] at hfield
    cases hfield

/-- **A listing is made from the conditions as they are read,** and from what the trigger gives. -/
theorem exists_of_generate {stamp : Payload.Stamp} {c : Canvas} {trigger : CanvasNode}
    (h : generate stamp c = .ok scenarios) (htrigger : c.trigger? = some trigger) :
    ∃ label base probes, trigger.label = .ok label ∧
      Payload.ofTrigger stamp (triggerType trigger) = .ok base ∧
      c.conditions.mapM Probe.ofNode = .ok probes ∧ scenarios = all base label probes := by
  simp only [generate, htrigger, bind_eq_ok_iff, pure_eq_ok_iff] at h
  obtain ⟨label, hlabel, base, hbase, probes, hprobes, rfl⟩ := h
  exact ⟨label, base, probes, hlabel, hbase, hprobes, rfl⟩

end StepFlow.Scenario
