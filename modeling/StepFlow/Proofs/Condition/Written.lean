import StepFlow.Condition.Reading
import StepFlow.Proofs.Text.Blank
import StepFlow.Proofs.Text.Word
/-!
# Written conditions

A condition as it is written down: a word, operator characters and a value, with blanks around each
and possibly quotes around the value. The types hold what can be written and nothing else. The value
may hold whatever a line without quotes can, other operators and whole conditions included, but
where neither a blank nor a quote stands in front of it, it must not begin like an operator.

The three parts are found again (`readParts?_core`), and what stands around them is dropped. So
every written condition is read as the condition that is meant, and a condition in words is one of
them (`read_phrase`).
-/

namespace StepFlow.Condition.Written

open Text

/-! ## What is written -/

/-- Characters of one kind, at least one. -/
structure Run (kind : Char → Bool) where
  /-- The characters. -/
  text : List Char
  ne_nil : text ≠ []
  all : ∀ c ∈ text, kind c = true

/-- Blanks, possibly over several lines, possibly none. -/
structure Gap where
  /-- The characters. -/
  text : List Char
  blank : ∀ c ∈ text, isBlank c = true

/-- A text on one line, without quotes and with nothing around it. -/
structure Literal where
  /-- The characters. -/
  text : List Char
  ne_nil : text ≠ []
  tight : Tight text
  unbroken : '\n' ∉ text
  unquoted : '"' ∉ text ∧ '\'' ∉ text

/-- What stands on both sides of a value. -/
inductive Mark where
  /-- Nothing. -/
  | none
  /-- A single quote. -/
  | single
  /-- A double quote. -/
  | double
deriving DecidableEq

/-- The mark as it is written. -/
def Mark.text : Mark → List Char
  | none => []
  | single => ['\'']
  | double => ['"']

/-- The three parts of a condition. -/
structure Phrase where
  /-- The field. -/
  field : Run isWord
  /-- The operator. -/
  operator : Run isOperatorChar
  /-- The value. -/
  value : Literal

/-- **The condition that is meant.** -/
def Phrase.condition (p : Phrase) : Condition where
  field := .text (String.ofList p.field.text)
  operator := .text (String.ofList p.operator.text)
  value := .text (String.ofList p.value.text)

/-- What stands around the parts of a condition. -/
structure Setting (p : Phrase) where
  /-- The blanks in front of all. -/
  before : Gap
  /-- The blanks in front of the operator. -/
  beforeOperator : Gap
  /-- The blanks in front of the value. -/
  beforeValue : Gap
  /-- What stands on both sides of the value. -/
  mark : Mark
  /-- The blanks behind all. -/
  after : Gap
  /-- The value can be told from the operator. -/
  parted : beforeValue.text ≠ [] ∨ mark ≠ .none ∨
    ∀ c ∈ p.value.text.head?, isOperatorChar c = false

namespace Setting

variable {p : Phrase}

/-- The value between its marks. -/
def marked (s : Setting p) : List Char :=
  s.mark.text ++ (p.value.text ++ s.mark.text)

/-- What stands from the field to the value. -/
def core (s : Setting p) : List Char :=
  p.field.text ++ (s.beforeOperator.text ++ (p.operator.text ++ (s.beforeValue.text ++ s.marked)))

/-- The condition as it is written. -/
def print (s : Setting p) : String :=
  String.ofList (s.before.text ++ (s.core ++ s.after.text))

end Setting

/-- **A text is read as a condition** wherever it stands, whatever other properties there are. -/
def IsReadAs (text : String) (c : Condition) : Prop :=
  ∀ data : Record, data.get? (.text "condition") = some (.text text) → read data = .ok c

/-! ## Where the parts end -/

variable {p : Phrase} {c : Char} {kind : Char → Bool}

theorem eq_of_isOperatorChar (h : isOperatorChar c = true) :
    c = '>' ∨ c = '<' ∨ c = '=' ∨ c = '!' := by
  simpa [isOperatorChar, or_assoc] using h

theorem isBlank_of_isOperatorChar (h : isOperatorChar c = true) : isBlank c = false := by
  rcases eq_of_isOperatorChar h with rfl | rfl | rfl | rfl <;> rfl

theorem isWord_of_isOperatorChar (h : isOperatorChar c = true) : isWord c = false := by
  rcases eq_of_isOperatorChar h with rfl | rfl | rfl | rfl <;> rfl

theorem isOperatorChar_of_isBlank (h : isBlank c = true) : isOperatorChar c = false := by
  by_contra hoperator
  rw [isBlank_of_isOperatorChar (by simpa using hoperator)] at h
  cases h

theorem Run.head?_append (run : Run kind) (tail : List Char) :
    ∀ c ∈ (run.text ++ tail).head?, kind c = true := by
  intro c hc
  rw [List.head?_append_of_ne_nil _ run.ne_nil] at hc
  exact run.all c (List.mem_of_mem_head? hc)

namespace Setting

theorem marked_ne_nil (s : Setting p) : s.marked ≠ [] := by
  simp [marked, p.value.ne_nil]

/-- **A value is tight with its marks.** -/
theorem tight_marked (s : Setting p) : Tight s.marked := by
  cases hmark : s.mark with
  | none => simpa [marked, hmark, Mark.text] using p.value.tight
  | single => simpa [marked, hmark, Mark.text] using tight_between (q := '\'') rfl
  | double => simpa [marked, hmark, Mark.text] using tight_between (q := '"') rfl

theorem unbroken_marked (s : Setting p) : ∀ c ∈ s.marked, c ≠ '\n' := by
  have hmark : ∀ c ∈ s.mark.text, c ≠ '\n' := by
    cases s.mark <;> simp [Mark.text]
  have hvalue : ∀ c ∈ p.value.text, c ≠ '\n' := fun c hc h => p.value.unbroken (h ▸ hc)
  simp only [marked, List.forall_mem_append]
  exact ⟨hmark, hvalue, hmark⟩

/-- **The operator ends in front of the value,** even if the value begins like one. -/
theorem isOperatorChar_head? (s : Setting p) :
    ∀ c ∈ (s.beforeValue.text ++ s.marked).head?, isOperatorChar c = false := by
  have hblank : ∀ c ∈ s.beforeValue.text, isOperatorChar c = false := fun c hc =>
    isOperatorChar_of_isBlank (s.beforeValue.blank c hc)
  rcases s.parted with hgap | hrest
  · rw [List.head?_append_of_ne_nil _ hgap]
    exact fun c hc => hblank c (List.mem_of_mem_head? hc)
  · refine forall_head?_append hblank ?_
    cases heq : s.mark with
    | none =>
      have hvalue := hrest.resolve_left (not_not_intro heq)
      simpa [marked, heq, Mark.text] using hvalue
    | single => simp [marked, heq, Mark.text, isOperatorChar]
    | double => simp [marked, heq, Mark.text, isOperatorChar]

theorem tight_core (s : Setting p) : Tight s.core where
  first := fun c hc => isBlank_of_isWord (p.field.head?_append _ c hc)
  last := by
    have hcore : s.core = p.field.text ++ (s.beforeOperator.text ++
        (p.operator.text ++ s.beforeValue.text)) ++ s.marked := by
      simp [core]
    rw [hcore, List.getLast?_append_of_ne_nil _ s.marked_ne_nil]
    exact s.tight_marked.last

/-! ## What is read -/

/-- **The parts are found again,** the value with its marks. -/
theorem readParts?_core (s : Setting p) :
    readParts? s.core = some (p.field.text, p.operator.text, s.marked) := by
  have hoperator := p.operator.head?_append (s.beforeValue.text ++ s.marked)
  have hfield : spanWord s.core = (p.field.text,
      s.beforeOperator.text ++ (p.operator.text ++ (s.beforeValue.text ++ s.marked))) :=
    spanWord_append p.field.all <| forall_head?_append
      (fun c hc => isWord_of_isBlank (s.beforeOperator.blank c hc))
      fun c hc => isWord_of_isOperatorChar (hoperator c hc)
  have htrim : trimStart (s.beforeOperator.text ++
      (p.operator.text ++ (s.beforeValue.text ++ s.marked))) =
        p.operator.text ++ (s.beforeValue.text ++ s.marked) := by
    rw [trimStart_append s.beforeOperator.blank, trimStart_eq_self]
    exact fun c hc => isBlank_of_isOperatorChar (hoperator c hc)
  obtain ⟨htake, hdrop⟩ := takeWhile_run p.operator.all s.isOperatorChar_head?
  have hvalue : trimStart (s.beforeValue.text ++ s.marked) = s.marked := by
    rw [trimStart_append s.beforeValue.blank, trimStart_eq_self s.tight_marked.first]
  have hline : s.marked.takeWhile (· != '\n') = s.marked :=
    List.takeWhile_eq_self_iff.mpr fun c hc => bne_iff_ne.mpr (s.unbroken_marked c hc)
  simp only [readParts?, hfield, htrim, htake, hdrop, hvalue, hline]
  rw [if_neg, if_neg]
  · simp [s.marked_ne_nil]
  · simp [p.field.ne_nil, p.operator.ne_nil]

/-- The value is what stands between the marks. -/
theorem stripQuotes_marked (s : Setting p) : stripQuotes s.marked = p.value.text := by
  have hkeep : p.value.text.filter (fun c => c != '"' && c != '\'') = p.value.text := by
    rw [List.filter_eq_self]
    intro c hc
    rw [Bool.and_eq_true, bne_iff_ne, bne_iff_ne]
    exact ⟨fun h => p.value.unquoted.1 (h ▸ hc), fun h => p.value.unquoted.2 (h ▸ hc)⟩
  have hmark : s.mark.text.filter (fun c => c != '"' && c != '\'') = [] := by
    cases s.mark <;> rfl
  rw [stripQuotes, s.tight_marked.trim_eq, marked, List.filter_append, List.filter_append, hmark,
    hkeep, List.nil_append, List.append_nil]

theorem ofText?_print (s : Setting p) : ofText? s.print = some p.condition := by
  rw [ofText?, print, String.toList_ofList, trim_between s.before.blank s.after.blank,
    s.tight_core.trim_eq, s.readParts?_core]
  simp only [Option.map_some, s.stripQuotes_marked]
  rfl

theorem isReadAs_print (s : Setting p) : IsReadAs s.print p.condition := by
  intro data hget
  have hfield : Value.field data "condition" = .text s.print := by
    rw [Value.field, hget]
    rfl
  simp only [read, hfield, s.ofText?_print]

end Setting

/-! ## Conditions in words -/

theorem isBlank_of_mem_nil : ∀ c ∈ ([] : List Char), isBlank c = true :=
  List.forall_mem_nil _

theorem isBlank_of_mem_space : ∀ c ∈ [' '], isBlank c = true :=
  List.forall_mem_singleton.mpr rfl

/-- One space. -/
def space : Gap where
  text := [' ']
  blank := isBlank_of_mem_space

/-- **The condition in words** has single spaces between its parts and no marks. -/
def Phrase.spaced (p : Phrase) : Setting p where
  before := ⟨[], isBlank_of_mem_nil⟩
  beforeOperator := space
  beforeValue := space
  mark := .none
  after := ⟨[], isBlank_of_mem_nil⟩
  parted := .inl (by decide)

theorem Phrase.display_condition (p : Phrase) : p.condition.display = .ok p.spaced.print := by
  have hwords : p.condition.display = .ok (String.ofList p.field.text ++ " " ++
      String.ofList p.operator.text ++ " " ++ String.ofList p.value.text) := rfl
  rw [hwords, Except.ok.injEq, ← String.toList_inj]
  simp [Setting.print, Setting.core, Setting.marked, spaced, space, Mark.text]

/-- **Every written condition is read back,** however it is laid out, and so is the condition in
words. -/
theorem read_phrase (p : Phrase) : (∀ s : Setting p, IsReadAs s.print p.condition) ∧
    ∃ words, p.condition.display = .ok words ∧ IsReadAs words p.condition :=
  ⟨Setting.isReadAs_print, p.spaced.print, p.display_condition, p.spaced.isReadAs_print⟩

/-- A value with a comparison in it, which is not read as one. -/
theorem read_phrase_comparison :
    read [(.text "field", .text "stage"), (.text "condition", .text "\tamount>='a > b'\n")] =
      .ok ⟨.text "amount", .text ">=", .text "a > b"⟩ := by
  let p : Phrase := {
    field := ⟨"amount".toList, by decide, List.all_eq_true.mp rfl⟩
    operator := ⟨['>', '='], by decide, List.all_eq_true.mp rfl⟩
    value := ⟨"a > b".toList, by decide, tight_of_ends ⟨'a', rfl, rfl⟩ ⟨'b', rfl, rfl⟩,
      by decide, by decide⟩ }
  let s : Setting p := {
    before := ⟨['\t'], List.all_eq_true.mp rfl⟩
    beforeOperator := ⟨[], List.all_eq_true.mp rfl⟩
    beforeValue := ⟨[], List.all_eq_true.mp rfl⟩
    mark := .single
    after := ⟨['\n'], List.all_eq_true.mp rfl⟩
    parted := .inr (.inl (by decide)) }
  exact (read_phrase p).1 s _ rfl

end StepFlow.Condition.Written
