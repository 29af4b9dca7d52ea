import StepFlow.Process.Compile
import StepFlow.Proofs.Process.Assembly
import StepFlow.Proofs.Process.Outline
/-!
# What a compilation answers

Each stage of a compilation either goes through or fails in its own way: a text is oversized, or a
heading is overlong. What is assembled is sound whatever the texts say, so the last check never
fails, and an answer that is no failure is a sound definition (`compile_outcome`). If a definition
is compiled, it is assembled from the steps of the description and the arrows of the diagram
(`exists_of_compile`).
-/

namespace StepFlow.Compile

open Text

variable {opts : Options} {description diagram name text : String} {limit : Option Int}
variable {d : Definition} {outline : List Outline.Step}

/-- The definition of an outline and the arrows of a diagram. -/
def assembled (opts : Options) (outline : List Outline.Step) (edges : List Edge) : Definition :=
  Assembly.assemble opts.toOptions ((Classify.steps outline).map Schema.complete) edges

/-- **The text is refused:** there is a limit, and the text is not empty and has more lines, counted
by line feeds. -/
def Oversized (limit : Option Int) (text : String) : Prop :=
  ∃ n, limit = some n ∧ text ≠ "" ∧ n < (text.toList.count '\n' : Int) + 1

/-- One of the two texts is refused. -/
def AnyOversized (opts : Options) (description diagram : String) : Prop :=
  Oversized opts.lineLimit description ∨ Oversized opts.lineLimit diagram

/-- **The description cannot be read:** a line without the blanks around it is a heading with more
digits than are read. -/
def Overlong (description : String) : Prop :=
  ∃ raw ∈ lines description.toList, ∃ digits, Outline.HasHeadingForm digits (trim raw) ∧
    digitLimit < digits.length

/-! ## Steps -/

/-- Classified steps are those of the outline. -/
theorem map_step_stepsFrom (total : Int) (index : Nat) (outline : List Outline.Step) :
    (Classify.stepsFrom total index outline).map (·.step) = outline := by
  induction outline generalizing index with
  | nil => rfl
  | cons s rest ih => rw [Classify.stepsFrom, List.map_cons, ih]

/-- Each step of the outline is compiled to one step. -/
theorem length_steps_assembled (opts : Options) (outline : List Outline.Step) (edges : List Edge) :
    (assembled opts outline edges).steps.length = outline.length := by
  have hclassified := congrArg List.length (map_step_stepsFrom outline.length 0 outline)
  rw [List.length_map] at hclassified
  rw [← hclassified, ← List.length_map Schema.complete]
  exact Assembly.length_buildSteps _ _ _ _

/-! ## The stages -/

/-- The size of a text is refused exactly if the text is oversized. -/
theorem checkSize_cases (name text : String) (limit : Option Int) :
    (checkSize name text limit = .ok () ∧ ¬ Oversized limit text) ∨
      ((∃ count n, checkSize name text limit = .error (.oversized name count n)) ∧
        Oversized limit text) := by
  cases limit with
  | none =>
    refine .inl ⟨rfl, ?_⟩
    rintro ⟨n, hn, -⟩
    cases hn
  | some n =>
    by_cases hfit : text.isEmpty ∨ ((lineFeeds text.toList + 1 : Nat) : Int) ≤ n
    · refine .inl ⟨if_pos hfit, ?_⟩
      rintro ⟨m, hm, hne, hlt⟩
      obtain rfl := Option.some.inj hm
      rcases hfit with hempty | hle
      · exact hne (String.isEmpty_iff.mp hempty)
      · rw [lineFeeds] at hle
        omega
    · refine .inr ⟨⟨_, n, if_neg hfit⟩, n, rfl, ?_⟩
      rw [not_or, lineFeeds] at hfit
      exact ⟨fun hempty => hfit.1 (String.isEmpty_iff.mpr hempty), by omega⟩

/-- The steps of a description are refused exactly if it is overlong. -/
theorem readSteps_cases (description : String) :
    ((∃ outline, Outline.read description = .ok outline ∧
        readSteps description = .ok ((Classify.steps outline).map Schema.complete)) ∧
      ¬ Overlong description) ∨
      ((∃ digits, readSteps description = .error (.overlong digits)) ∧ Overlong description) := by
  cases hread : Outline.read description with
  | ok outline =>
    refine .inl ⟨⟨outline, rfl, by rw [readSteps, hread]⟩, fun hover => ?_⟩
    obtain ⟨e, he⟩ := Outline.read_isError_iff.mpr hover
    rw [hread] at he
    cases he
  | error e =>
    exact .inr ⟨⟨e.digits, by rw [readSteps, hread]⟩, Outline.read_isError_iff.mp ⟨e, hread⟩⟩

/-- **The last stage never fails.** -/
theorem build_eq_ok (opts : Assembly.Options) (steps : List Classified) (edges : List Edge) :
    build opts steps edges = .ok (Assembly.assemble opts steps edges) := by
  simp only [build, Assembly.check_assemble]

/-! ## The whole -/

/-- **The three answers of a compilation**, and when each is given. -/
theorem compile_cases (opts : Options) (description diagram : String) :
    ((∃ name count n, compile opts description diagram = .error (.oversized name count n)) ∧
        AnyOversized opts description diagram) ∨
      ((∃ digits, compile opts description diagram = .error (.overlong digits)) ∧
        ¬ AnyOversized opts description diagram ∧ Overlong description) ∨
      ((∃ outline, Outline.read description = .ok outline ∧
          compile opts description diagram =
            .ok (assembled opts outline (Diagram.read diagram).edges)) ∧
        ¬ AnyOversized opts description diagram ∧ ¬ Overlong description) := by
  rw [compile]
  -- the stages in order: an earlier failure hides what a later one would say
  rcases checkSize_cases "description" description opts.lineLimit with
    ⟨h₁, hfit₁⟩ | ⟨⟨count, n, h₁⟩, hover⟩
  · rcases checkSize_cases "mermaid_code" diagram opts.lineLimit with
      ⟨h₂, hfit₂⟩ | ⟨⟨count, n, h₂⟩, hover⟩
    · have hfit : ¬ AnyOversized opts description diagram := not_or.mpr ⟨hfit₁, hfit₂⟩
      rcases readSteps_cases description with
        ⟨⟨outline, hread, h₃⟩, hshort⟩ | ⟨⟨digits, h₃⟩, hlong⟩
      · refine .inr (.inr ⟨⟨outline, hread, ?_⟩, hfit, hshort⟩)
        rw [h₁, h₂, h₃]
        exact build_eq_ok _ _ _
      · refine .inr (.inl ⟨⟨digits, ?_⟩, hfit, hlong⟩)
        rw [h₁, h₂, h₃]
        rfl
    · refine .inl ⟨⟨"mermaid_code", count, n, ?_⟩, .inr hover⟩
      rw [h₁, h₂]
      rfl
  · refine .inl ⟨⟨"description", count, n, ?_⟩, .inl hover⟩
    rw [h₁]
    rfl

/-- **A compiled definition is assembled** from the steps of the description and the arrows of the
diagram. -/
theorem exists_of_compile (h : compile opts description diagram = .ok d) :
    ∃ outline, Outline.read description = .ok outline ∧
      d = assembled opts outline (Diagram.read diagram).edges := by
  rcases compile_cases opts description diagram with
    ⟨⟨name, count, n, hc⟩, -⟩ | ⟨⟨digits, hc⟩, -⟩ | ⟨⟨outline, hread, hc⟩, -⟩
  · rw [h] at hc
    cases hc
  · rw [h] at hc
    cases hc
  · exact ⟨outline, hread, Except.ok.inj (h.symm.trans hc)⟩

/-- A compiled definition is coherent and sound. -/
theorem coherent_of_compile (h : compile opts description diagram = .ok d) :
    d.Coherent ∧ d.check = .ok () := by
  obtain ⟨outline, -, rfl⟩ := exists_of_compile h
  exact ⟨Assembly.coherent_assemble _ _ _, Assembly.check_assemble _ _ _⟩

/-- What is compiled is not oversized. -/
theorem not_anyOversized_of_compile (h : compile opts description diagram = .ok d) :
    ¬ AnyOversized opts description diagram := by
  rcases compile_cases opts description diagram with
    ⟨⟨name, count, n, hc⟩, -⟩ | ⟨⟨digits, hc⟩, -⟩ | ⟨-, hfit, -⟩
  · rw [h] at hc
    cases hc
  · rw [h] at hc
    cases hc
  · exact hfit

/-- What is refused for its size is oversized. -/
theorem anyOversized_of_compile {count : Nat} {n : Int}
    (h : compile opts description diagram = .error (.oversized name count n)) :
    AnyOversized opts description diagram := by
  rcases compile_cases opts description diagram with
    ⟨-, hover⟩ | ⟨⟨digits, hc⟩, -⟩ | ⟨⟨outline, -, hc⟩, -⟩
  · exact hover
  · rw [h] at hc
    cases hc
  · rw [h] at hc
    cases hc

/-- Texts within the limit are compiled if the description can be read. -/
theorem compile_of_fits (hfit : ¬ AnyOversized opts description diagram)
    (hread : Outline.read description = .ok outline) :
    compile opts description diagram =
      .ok (assembled opts outline (Diagram.read diagram).edges) := by
  rcases compile_cases opts description diagram with
    ⟨-, hover⟩ | ⟨-, -, hlong⟩ | ⟨⟨outline', hread', hc⟩, -⟩
  · exact absurd hover hfit
  · obtain ⟨e, he⟩ := Outline.read_isError_iff.mpr hlong
    rw [hread] at he
    cases he
  · rw [hread] at hread'
    rw [hc, ← Except.ok.inj hread']

/-- Without a limit all texts are within it. -/
theorem compile_of_read (hlimit : opts.lineLimit = none)
    (hread : Outline.read description = .ok outline) (diagram : String) :
    compile opts description diagram =
      .ok (assembled opts outline (Diagram.read diagram).edges) := by
  refine compile_of_fits ?_ hread
  rintro (⟨n, hn, -⟩ | ⟨n, hn, -⟩) <;> simp [hlimit] at hn

/-- **Compiling fails in two ways only.** It refuses an oversized text before anything else, then an
overlong description, and otherwise answers with a sound definition; its own last check never
fails. -/
theorem compile_outcome (opts : Options) (description diagram : String) :
    ((∃ name count n, compile opts description diagram = .error (.oversized name count n)) ↔
        AnyOversized opts description diagram) ∧
      ((∃ digits, compile opts description diagram = .error (.overlong digits)) ↔
        ¬ AnyOversized opts description diagram ∧ Overlong description) ∧
      ((∃ d, compile opts description diagram = .ok d ∧ d.check = .ok ()) ↔
        ¬ AnyOversized opts description diagram ∧ ¬ Overlong description) ∧
      ¬ ∃ flaw, compile opts description diagram = .error (.unsound flaw) := by
  rcases compile_cases opts description diagram with
    ⟨⟨name, count, n, hc⟩, hover⟩ | ⟨⟨digits, hc⟩, hfit, hlong⟩ |
      ⟨⟨outline, hread, hc⟩, hfit, hshort⟩
  · simp [hc, hover]
  · simp [hc, hfit, hlong]
  · have hsound : (assembled opts outline (Diagram.read diagram).edges).check = .ok () :=
      Assembly.check_assemble _ _ _
    simp [hc, hfit, hshort, hsound]

end StepFlow.Compile
