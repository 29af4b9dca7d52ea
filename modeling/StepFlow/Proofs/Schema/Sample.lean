import Mathlib.Tactic.FinCases
import StepFlow.Proofs.Entries
import StepFlow.Proofs.Result
import StepFlow.Schema.Check
import StepFlow.Schema.Synthesis
/-!
# Samples conform to their schemas

The properties of an output, the sample of it and the names of types are three tables of their own.
They agree for each kind of step, whatever its title and the record that stands for its input
(`conforms_sample`): a sample has the properties of the schema in their order, and the check finds
each of them of its type.
-/

namespace StepFlow.Schema

variable {name type what stepId title : String} {kind : StepKind} {data : Record} {value : Value}
variable {schema : Schema}

/-- **The record conforms to the schema.** It has the properties of the schema and no others, and
each of them passes its check. -/
structure Conforms (schema : Schema) (data : Record) : Prop where
  keys : data.keys = schema.properties.keys.map .text
  passed : ∃ findings, schema.check data = .ok findings ∧
    findings.map (·.rule) = schema.properties.keys.map ("type:" ++ ·) ∧
    ∀ finding ∈ findings, finding.passed = true

/-! ## Records with text keys -/

/-- The entries of a record with text keys. -/
def keyed (entries : Entries String Value) : Record :=
  entries.map fun (k, v) => (.text k, v)

theorem keys_keyed (entries : Entries String Value) :
    (keyed entries).keys = entries.keys.map .text := by
  simp [keyed, Entries.keys]

theorem get?_keyed (entries : Entries String Value) (name : String) :
    (keyed entries).get? (.text name) = entries.get? name := by
  induction entries with
  | nil => rfl
  | cons e rest ih =>
    obtain ⟨k, v⟩ := e
    rw [Entries.get?, ← ih, ← Scalar.text_beq_text]
    rfl

/-! ## Properties of their types -/

/-- What is found on a property of its type. -/
def fitting (name : String) : Finding where
  rule := "type:" ++ name
  passed := true
  message := "Field \"" ++ name ++ "\" has correct type"
  severity := "info"

/-- A property of its type has one finding, which is passed. -/
theorem checkProperty_eq (hvalue : data.get? (.text name) = some value) (htype : type ≠ "")
    (hfits : typeFits (typeName value) (.text type) = true) :
    checkProperty data name (property type what) = .ok [fitting name] := by
  have hgiven : (Value.text type).isGiven = true := by simpa [Value.isGiven] using htype
  have hexpected : ((property type what).get? "type").getD .null = .text type := rfl
  rw [checkProperty, hexpected, hvalue]
  simp only [hgiven, if_true, checkType, hfits]
  rfl

/-- **Each property of an output has a sample of its type.** -/
theorem exists_sampleEntries (stepId title : String) (kind : StepKind) (data : Record) :
    ∀ field ∈ outputFields kind, ∃ value,
      Entries.get? (sampleEntries stepId title kind data) field.1 = some value ∧ field.2.1 ≠ "" ∧
        typeFits (typeName value) (.text field.2.1) = true := by
  intro field hfield
  cases kind <;> fin_cases hfield <;> exact ⟨_, rfl, by decide, rfl⟩

/-- The sample has the properties of the output, in order. -/
theorem keys_sampleEntries (stepId title : String) (kind : StepKind) (data : Record) :
    Entries.keys (sampleEntries stepId title kind data) = (outputFields kind).map (·.1) := by
  cases kind <;> rfl

/-! ## Samples -/

theorem keys_output (title : String) (kind : StepKind) :
    (output title kind).properties.keys = (outputFields kind).map (·.1) := by
  simp [output, Entries.keys]

/-- **Every property of a sample passes.** -/
theorem check_sample (stepId name title : String) (kind : StepKind) (data : Record) :
    (output title kind).check (keyed (sampleEntries stepId name kind data)) =
      .ok ((output title kind).properties.keys.map fitting) := by
  have hchecks : ∀ e ∈ (output title kind).properties,
      checkProperty (keyed (sampleEntries stepId name kind data)) e.1 e.2 = .ok [fitting e.1] := by
    intro e he
    obtain ⟨field, hfield, rfl⟩ := List.mem_map.mp he
    obtain ⟨value, hvalue, hne, hfits⟩ := exists_sampleEntries stepId name kind data field hfield
    exact checkProperty_eq ((get?_keyed _ _).trans hvalue) hne hfits
  -- no name of an output is required
  calc (output title kind).check (keyed (sampleEntries stepId name kind data))
      = ((output title kind).properties.mapM fun e =>
          checkProperty (keyed (sampleEntries stepId name kind data)) e.1 e.2) >>=
            fun types => .ok types.flatten := rfl
    _ = .ok ((output title kind).properties.map fun e => [fitting e.1]).flatten := by
        rw [mapM_eq_ok hchecks]
        rfl
    _ = .ok ((output title kind).properties.keys.map fitting) := by
        rw [Entries.keys, List.map_map]
        exact congrArg Except.ok List.map_eq_flatMap.symm

/-- **The sample of a step's output conforms to the schema of its output.** -/
theorem conforms_sample (stepId name title : String) (kind : StepKind) (data : Record) :
    Conforms (output title kind) (keyed (sampleEntries stepId name kind data)) where
  keys := by rw [keys_keyed, keys_sampleEntries, keys_output]
  passed := by
    refine ⟨_, check_sample stepId name title kind data, ?_, fun finding hfinding => ?_⟩
    · rw [List.map_map]
      rfl
    · obtain ⟨name, -, rfl⟩ := List.mem_map.mp hfinding
      rfl

end StepFlow.Schema
