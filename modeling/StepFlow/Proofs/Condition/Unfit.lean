import StepFlow.Condition.Reading
import StepFlow.Condition.Samples
import StepFlow.Proofs.Double.Range
import StepFlow.Proofs.Value.Plain
/-!
# Conditions that cannot be read

A condition that a text writes can always be read. Properties fail in two ways: the type is a list
or a record, which is no key of the table of types, or the type names the field itself and the value
is too large to be tried as a number (`ofProperties_of_hasUnfitType`,
`ofProperties_of_hasUnfitValue`). All else gives a condition, of which only the field may be unfit
(`exists_ofProperties`); an unfit field is met when samples are made (`samples_of_isCollection`).
-/

namespace StepFlow.Condition

variable {data : Record} {c : Condition} {t : Typing} {e : Obstacle}
variable {type given field typed v : Value}

/-! ## Unfit data -/

/-- A text writes the condition. -/
def IsWritten (data : Record) : Prop :=
  ∃ s c, Value.field data "condition" = .text s ∧ ofText? s = some c

/-- The type is a list or a record. -/
def HasUnfitType (data : Record) : Prop :=
  (typeOf data).isCollection = true

/-- The type names the field itself: it is a text, and none of the known types. -/
def NamesField (type : Value) : Prop :=
  ∃ name, type = .text name ∧ name ≠ "" ∧
    name ∉ ["value_check", "value_greater_than", "stage_check", "activity_type"]

/-- The type names the field itself, and the value is an integer that is too large for a double. -/
def HasUnfitValue (data : Record) : Prop :=
  NamesField (typeOf data) ∧ ∃ n, givenValue data = .int n ∧ Double.intOverflow ≤ n.natAbs

/-- The field is a list or a record that is not empty. -/
def HasUnfitField (data : Record) : Prop :=
  (Value.field data "field").isGiven = true ∧ (Value.field data "field").isCollection = true

/-- **No text writes the condition, and the type, the value or the field is unfit.** -/
def IsUnfit (data : Record) : Prop :=
  ¬ IsWritten data ∧ (HasUnfitType data ∨ HasUnfitValue data ∨ HasUnfitField data)

/-! ## Types -/

/-- Absent or a text. -/
def IsName (v : Value) : Prop :=
  v = .null ∨ ∃ s, v = .text s

theorem IsName.isPlain (h : IsName v) : v.IsPlain := by
  rcases h with rfl | ⟨s, rfl⟩ <;> trivial

theorem IsName.not_isCollection (h : IsName v) : ¬ v.isCollection = true := by
  rcases h with rfl | ⟨s, rfl⟩ <;> simp [Value.isCollection]

/-- What a text says as a type. -/
theorem exists_typing_text (name : String) :
    ∃ t, typing (.text name) = .ok t ∧ IsName t.field ∧
      (t.isNamed = true ↔ NamesField (.text name)) := by
  by_cases hknown : name ∈ ["value_check", "value_greater_than", "stage_check", "activity_type"]
  · have hnot : ¬ NamesField (.text name) := by
      rintro ⟨_, heq, -, hnew⟩
      obtain rfl : name = _ := by simpa using heq
      exact hnew hknown
    simp only [List.mem_cons, List.not_mem_nil, or_false] at hknown
    rcases hknown with rfl | rfl | rfl | rfl <;>
      exact ⟨_, rfl, .inr ⟨_, rfl⟩, iff_of_false (by simp) hnot⟩
  · by_cases hempty : name = ""
    · subst hempty
      exact ⟨_, rfl, .inl rfl, iff_of_false (by simp) (by simp [NamesField])⟩
    · have hnone : knownTypes.lookup name = none := by
        simp only [List.mem_cons, List.not_mem_nil, or_false, not_or, ← beq_eq_false_iff_ne]
          at hknown
        obtain ⟨hcheck, hgreater, hstage, hactivity⟩ := hknown
        simp only [knownTypes, List.lookup_cons, List.lookup_nil, hcheck, hgreater, hstage,
          hactivity]
      refine ⟨⟨.text name, "==", true⟩, ?_, .inr ⟨_, rfl⟩, iff_of_true rfl ⟨_, rfl, hempty, hknown⟩⟩
      simp only [typing, Value.asKey, bind, Except.bind, hnone]
      rw [if_neg (by simpa using hempty)]
      rfl

/-- Any other plain value is a type. -/
theorem exists_typing (hplain : type.IsPlain) (h : ¬ type.isCollection = true) :
    ∃ t, typing type = .ok t ∧ IsName t.field ∧ (t.isNamed = true ↔ NamesField type) := by
  cases type with
  | scalar s =>
    cases s with
    | text name => exact exists_typing_text name
    | _ => exact ⟨⟨.null, "==", false⟩, rfl, .inl rfl, by simp [NamesField]⟩
  | pair _ _ => exact hplain.elim
  | set _ => exact hplain.elim
  | _ => exact absurd rfl h

/-! ## Fields -/

theorem exists_mentionsActivity (h : Value.EntriesPlain data) :
    ∃ b, mentionsActivity data = .ok b := by
  obtain ⟨label, hlabel⟩ :=
    Value.exists_display (h.getD (v := .text "") trivial (.text "label"))
  rw [mentionsActivity, hlabel]
  exact ⟨_, rfl⟩

/-- The field is the one that the data gives, or a name. -/
theorem exists_fieldOf (h : Value.EntriesPlain data) (htyped : IsName typed) :
    ∃ field, fieldOf data typed = .ok field ∧
      ((Value.field data "field").isGiven = true ∧ field = Value.field data "field" ∨
        ¬ (Value.field data "field").isGiven = true ∧ IsName field) := by
  obtain ⟨b, hb⟩ := exists_mentionsActivity h
  rw [fieldOf, Value.orElse]
  by_cases hgiven : (Value.field data "field").isGiven = true
  · rw [if_pos hgiven, if_pos hgiven]
    exact ⟨_, rfl, .inl ⟨hgiven, rfl⟩⟩
  · rw [if_neg hgiven, hb]
    split
    · exact ⟨_, rfl, .inr ⟨hgiven, htyped⟩⟩
    · cases b with
      | true => exact ⟨_, rfl, .inr ⟨hgiven, .inr ⟨_, rfl⟩⟩⟩
      | false => exact ⟨_, rfl, .inr ⟨hgiven, htyped⟩⟩

/-! ## Values -/

/-- The value that a condition with the given field is compared with. -/
def valueOf (field given : Value) : Value :=
  match given with
  | .null => if field.isText "activity_type" then .text "proposal_sent" else .null
  | v => v

theorem ofProperties_eq (data : Record) :
    ofProperties data = do
      let t ← typing (typeOf data)
      let field ← fieldOf data t.field
      let value := valueOf field (givenValue data)
      let operator ← defaultOperator t value
      let value ← asText value
      if field.isGiven then
        return { field, operator := (Value.field data "operator").orElse (.text operator), value }
      else return { field := .text unknownField, value } :=
  rfl

theorem isPlain_valueOf (field : Value) (h : given.IsPlain) : (valueOf field given).IsPlain := by
  unfold valueOf
  split
  · split <;> trivial
  · exact h

/-- A value is an integer as it is given. -/
theorem valueOf_eq_int_iff {n : Int} : valueOf field given = .int n ↔ given = .int n := by
  unfold valueOf
  split
  · split <;> simp
  · rfl

theorem isPlain_givenValue (h : Value.EntriesPlain data) : (givenValue data).IsPlain := by
  rw [givenValue]
  cases hfind : (valueKeys.map (Value.field data)).find? (!·.isBlank) with
  | none => trivial
  | some v =>
    obtain ⟨name, -, rfl⟩ := List.mem_map.mp (List.mem_of_find?_eq_some hfind)
    exact h.field name

theorem exists_asText (h : v.IsPlain) : ∃ w, asText v = .ok w ∧ IsName w := by
  unfold asText
  split
  · exact ⟨_, rfl, .inl rfl⟩
  · obtain ⟨s, hs⟩ := Value.exists_display h
    exact ⟨_, by rw [hs]; rfl, .inr ⟨s, rfl⟩⟩

/-! ## Operators -/

theorem exists_defaultOperator (h : t.isNamed = true → ∀ e, v.toNumber ≠ .error e) :
    ∃ operator, defaultOperator t v = .ok operator := by
  rw [defaultOperator]
  split
  · rename_i hnamed
    cases hnumber : v.toNumber with
    | error e => exact absurd hnumber (h hnamed e)
    | ok number => cases number <;> exact ⟨_, rfl⟩
  · exact ⟨_, rfl⟩

/-! ## Properties -/

/-- A condition whose parts are plain and whose value is a text, if there is one. -/
structure IsPlain (c : Condition) : Prop where
  field : c.field.IsPlain
  operator : c.operator.IsPlain
  value : IsName c.value

/-- **All other properties give a condition,** and its field is unfit if theirs is. -/
theorem exists_ofProperties (hplain : Value.EntriesPlain data) (htype : ¬ HasUnfitType data)
    (hvalue : ¬ HasUnfitValue data) :
    ∃ c, ofProperties data = .ok c ∧ c.IsPlain ∧
      (c.field.isCollection = true ↔ HasUnfitField data) := by
  have hplainType : (typeOf data).IsPlain := (hplain.field _).orElse (hplain.field _)
  obtain ⟨t, ht, hname, hnamed⟩ := exists_typing hplainType htype
  obtain ⟨field, hfield, hgiven⟩ := exists_fieldOf hplain hname
  obtain ⟨operator, hoperator⟩ : ∃ operator,
      defaultOperator t (valueOf field (givenValue data)) = .ok operator := by
    refine exists_defaultOperator fun hself e herror => hvalue ?_
    obtain ⟨⟨n, hn, hlarge⟩, -⟩ := Value.toNumber_eq_error_iff.mp herror
    exact ⟨hnamed.mp hself, n, valueOf_eq_int_iff.mp hn, hlarge⟩
  obtain ⟨value, hasText, hvalueName⟩ :=
    exists_asText (isPlain_valueOf field (isPlain_givenValue hplain))
  simp only [ofProperties_eq, ht, hfield, hoperator, hasText, bind, Except.bind]
  rcases hgiven with ⟨hgiven, rfl⟩ | ⟨hgiven, hfieldName⟩
  · rw [if_pos hgiven]
    exact ⟨_, rfl, ⟨hplain.field _, (hplain.field _).orElse trivial, hvalueName⟩,
      ⟨fun h => ⟨hgiven, h⟩, fun h => h.2⟩⟩
  · -- a name is no list or record, nor is the unknown field
    have hnone : ¬ HasUnfitField data := fun h => hgiven h.1
    split
    · exact ⟨_, rfl, ⟨hfieldName.isPlain, (hplain.field _).orElse trivial, hvalueName⟩,
        iff_of_false hfieldName.not_isCollection hnone⟩
    · exact ⟨_, rfl, ⟨trivial, trivial, hvalueName⟩, iff_of_false Bool.false_ne_true hnone⟩

/-! ## Reading -/

/-- A written condition can be read, whatever the properties are. -/
theorem exists_read_of_isWritten (h : IsWritten data) :
    ∃ c, read data = .ok c ∧ c.IsPlain ∧ ¬ c.field.isCollection = true := by
  obtain ⟨s, c, htext, hc⟩ := h
  refine ⟨c, by simp only [read, htext, hc], ?_⟩
  obtain ⟨parts, -, rfl⟩ := Option.map_eq_some_iff.mp hc
  exact ⟨⟨trivial, trivial, .inr ⟨_, rfl⟩⟩, Bool.false_ne_true⟩

theorem read_of_not_isWritten (h : ¬ IsWritten data) : read data = ofProperties data := by
  rw [read]
  split
  · rename_i s hs
    cases hc : ofText? s with
    | none => rfl
    | some c => exact absurd ⟨s, c, hs, hc⟩ h
  · rfl

/-! ## Samples and texts -/

theorem IsName.exists_toNumber (h : IsName v) : ∃ number, v.toNumber = .ok number := by
  rcases h with rfl | ⟨s, rfl⟩ <;> exact ⟨_, rfl⟩

theorem exists_samples (hc : c.IsPlain) (h : ¬ c.field.isCollection = true) :
    ∃ key pass fail, c.field.asKey = .ok key ∧ c.samples = .ok (pass, fail) := by
  obtain ⟨number, hnumber⟩ := hc.value.exists_toNumber
  cases hkey : c.field.asKey with
  | error e => exact absurd ((Value.asKey_eq_error_iff hc.field).mp hkey).1 h
  | ok key =>
    simp only [samples, hnumber, hkey, bind, Except.bind]
    split
    · exact ⟨key, _, _, rfl, rfl⟩
    · split <;> exact ⟨key, _, _, rfl, rfl⟩

theorem exists_display (hc : c.IsPlain) : ∃ s, c.display = .ok s := by
  obtain ⟨field, hfield⟩ := Value.exists_display hc.field
  obtain ⟨operator, hoperator⟩ := Value.exists_display hc.operator
  obtain ⟨value, hvalue⟩ := Value.exists_display hc.value.isPlain
  rw [display, hfield, hoperator, hvalue]
  exact ⟨_, rfl⟩

end StepFlow.Condition
