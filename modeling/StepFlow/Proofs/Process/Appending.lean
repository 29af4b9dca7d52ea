import StepFlow.Proofs.Process.Compile
/-!
# Appending steps

When steps are added at the end of a description, the earlier ones are compiled as before. The
number of all steps matters in one place: a step without keywords notifies if it is the last one.
The step that is no longer the last then becomes an action (`exists_steps_append`), and none of its
other fields shows it, since notifications and actions have the same output and are tested alike
(`complete_promoted`, `buildStep_promoted`).
-/

namespace StepFlow

variable {index total total' : Int} {title description : String}
variable {outline later : List Outline.Step}

/-! ## Kinds -/

namespace Classify

/-- In front of the last place it does not matter how many places there are. -/
theorem kind_eq_of_lt (h : index < total - 1) (h' : index < total' - 1) :
    kind title description index total = kind title description index total' := by
  rw [kind, kind, kindAt, kindAt, if_neg (by omega : ¬ index = total - 1),
    if_neg (by omega : ¬ index = total' - 1)]

/-- **In the last place a notification may be one by its place only**, and then it is an action
elsewhere. -/
theorem kind_last (title description : String) (h : index + 1 < total) :
    kind title description index total = kind title description index (index + 1) ∨
      kind title description index (index + 1) = .notification ∧
        kind title description index total = .action := by
  rw [kind, kind]
  cases firstRule? kindRules (searched title description) with
  | some k => exact .inl rfl
  | none =>
    by_cases hfirst : index = 0
    · simp [kindAt, hfirst]
    · have hlast : ¬ index = total - 1 := by omega
      right
      simp [kindAt, hfirst, hlast]

theorem stepsFrom_append (total : Int) (index : Nat) (front later : List Outline.Step) :
    stepsFrom total index (front ++ later) =
      stepsFrom total index front ++ stepsFrom total (index + front.length) later := by
  induction front generalizing index with
  | nil => rfl
  | cons s front ih =>
    rw [List.cons_append, stepsFrom, ih, stepsFrom, List.cons_append, List.length_cons,
      Nat.add_right_comm, Nat.add_assoc]

theorem stepsFrom_congr {index : Nat} (h : (index + outline.length : Int) < total)
    (h' : (index + outline.length : Int) < total') :
    stepsFrom total index outline = stepsFrom total' index outline := by
  induction outline generalizing index with
  | nil => rfl
  | cons s outline ih =>
    rw [List.length_cons] at h h'
    rw [stepsFrom, stepsFrom, kind_eq_of_lt (by omega) (by omega : (index : Int) < total' - 1),
      ih (by omega) (by omega)]

/-- **Steps in front of others are classified as they are alone,** apart from the last one. -/
theorem exists_steps_append (front : List Outline.Step) (s : Outline.Step) (hlater : later ≠ []) :
    ∃ before last last' rest, steps (front ++ [s]) = before ++ [last] ∧
      steps (front ++ s :: later) = before ++ last' :: rest ∧ rest ≠ [] ∧
      (last' = last ∨ last.kind = .notification ∧ last' = { last with kind := .action }) := by
  have hlength := List.length_pos_iff.mpr hlater
  have hbefore : stepsFrom (front ++ [s]).length 0 front =
      stepsFrom (front ++ s :: later).length 0 front :=
    stepsFrom_congr (by simp) (by simp)
  rw [steps, steps, stepsFrom_append, stepsFrom_append, hbefore, stepsFrom, stepsFrom]
  refine ⟨_, _, _, _, rfl, rfl, ?_, ?_⟩
  · cases later with
    | nil => exact absurd rfl hlater
    | cons t later => simp [stepsFrom]
  · have htotal : ((front ++ [s]).length : Int) = (0 + front.length : Nat) + 1 := by simp
    have hlt : ((0 + front.length : Nat) : Int) + 1 < (front ++ s :: later).length := by
      rw [List.length_append, List.length_cons]
      omega
    rw [htotal]
    rcases kind_last s.title s.description hlt with heq | ⟨hlast, hlt⟩
    · exact .inl (by rw [heq])
    · exact .inr ⟨hlast, by rw [hlt]⟩

end Classify

/-! ## What the kind does not show in -/

variable {c : Classified} {opts : Assembly.Options} {p : Nat} {prev : Option String}

/-- Notifications and actions have the same output. -/
theorem Schema.complete_promoted (h : c.kind = .notification) :
    complete { c with kind := .action } = { complete c with kind := .action } := by
  simp only [complete, output, h, outputFields]

namespace Assembly

/-- They are tested alike, and neither needs the real service. -/
theorem buildStep_promoted (opts : Options) (p : Nat) (prev : Option String)
    (h : c.kind = .notification) :
    buildStep opts p prev { c with kind := .action } =
      { buildStep opts p prev c with kind := .action } := by
  simp only [buildStep, h, needsService]
  rfl

/-- **Steps are built from what stands in front of them.** -/
theorem exists_buildSteps_append (opts : Options) (p : Nat) (prev : Option String)
    (front : List Classified) :
    ∃ q prev', ∀ later, buildSteps opts p prev (front ++ later) =
      buildSteps opts p prev front ++ buildSteps opts q prev' later := by
  induction front generalizing p prev with
  | nil => exact ⟨p, prev, fun later => rfl⟩
  | cons c front ih =>
    obtain ⟨q, prev', hbuild⟩ := ih (p + 1) (some (buildStep opts p prev c).id)
    refine ⟨q, prev', fun later => ?_⟩
    rw [List.cons_append, buildSteps, hbuild, buildSteps, List.cons_append]

theorem buildSteps_ne_nil {cs : List Classified} (h : cs ≠ []) :
    buildSteps opts p prev cs ≠ [] := by
  cases cs with
  | nil => exact absurd rfl h
  | cons c cs => exact List.cons_ne_nil _ _

end Assembly

/-! ## Compilations -/

namespace Compile

open Assembly

variable {opts : Options} {more diagram diagram' : String} {d d' : Definition}

theorem steps_assembled (opts : Options) (outline : List Outline.Step) (edges : List Edge) :
    (assembled opts outline edges).steps =
      buildSteps opts.toOptions 1 none ((Classify.steps outline).map Schema.complete) :=
  rfl

/-- **And built as they are alone.** -/
theorem exists_steps_assembled_append (opts : Options) (front : List Outline.Step)
    (s : Outline.Step) (hlater : later ≠ []) (edges edges' : List Edge) :
    ∃ before last last' rest, (assembled opts (front ++ [s]) edges).steps = before ++ [last] ∧
      (assembled opts (front ++ s :: later) edges').steps = before ++ last' :: rest ∧ rest ≠ [] ∧
      (last' = last ∨ last.kind = .notification ∧ last' = { last with kind := .action }) := by
  obtain ⟨before, last, last', rest, hsteps, hsteps', hrest, hlast⟩ :=
    Classify.exists_steps_append front s hlater
  obtain ⟨q, prev, hbuild⟩ :=
    exists_buildSteps_append opts.toOptions 1 none (before.map Schema.complete)
  rw [steps_assembled, steps_assembled, hsteps, hsteps', List.map_append, List.map_append, hbuild,
    hbuild, List.map_cons, List.map_cons, buildSteps, buildSteps]
  refine ⟨_, _, _, _, rfl, rfl, ?_, ?_⟩
  · exact buildSteps_ne_nil (by simpa using hrest)
  · rcases hlast with rfl | ⟨hkind, rfl⟩
    · exact .inl rfl
    · have hkind' : (Schema.complete last).kind = .notification := hkind
      refine .inr ⟨hkind', ?_⟩
      rw [Schema.complete_promoted hkind, buildStep_promoted _ _ _ hkind']

/-- **Appending steps leaves the steps before them alone,** whatever the diagrams are. Only the last
one can turn from a notification into an action. -/
theorem steps_compile_append (h : compile opts description diagram = .ok d)
    (h' : compile opts (description ++ "\n" ++ more) diagram' = .ok d')
    (hmore : Outline.OpensWithHeading more) :
    ∃ later ≠ [], d'.steps = d.steps ++ later ∨
      ∃ front last, d.steps = front ++ [last] ∧ last.kind = .notification ∧
        d'.steps = front ++ { last with kind := .action } :: later := by
  obtain ⟨outline, hread, rfl⟩ := exists_of_compile h
  obtain ⟨outline', hread', rfl⟩ := exists_of_compile h'
  rw [Outline.read_joined hmore, hread] at hread'
  cases hlater : Outline.read more with
  | error e =>
    rw [hlater] at hread'
    cases hread'
  | ok later =>
    rw [hlater] at hread'
    obtain rfl : outline ++ later = outline' := Except.ok.inj hread'
    have hne := hmore.read_ne_nil hlater
    rcases List.eq_nil_or_concat' outline with rfl | ⟨front, s, rfl⟩
    · cases later with
      | nil => exact absurd rfl hne
      | cons t later =>
        exact ⟨_, buildSteps_ne_nil (List.cons_ne_nil _ _), .inl (List.nil_append _).symm⟩
    · rw [List.append_assoc, List.singleton_append]
      obtain ⟨before, last, last', rest, hsteps, hsteps', hrest, rfl | ⟨hkind, rfl⟩⟩ :=
        exists_steps_assembled_append opts front s hne (Diagram.read diagram).edges
          (Diagram.read diagram').edges
      · exact ⟨rest, hrest, .inl (by rw [hsteps, hsteps', List.append_cons])⟩
      · exact ⟨rest, hrest, .inr ⟨before, last, hsteps, hkind, hsteps'⟩⟩

/-- The second of two steps notifies by its place, and a third one is appended. -/
theorem steps_compile_append_stop :
    ∃ d d',
      compile { lineLimit := none } "1. Start\n2. Go" "" = .ok d ∧
      compile { lineLimit := none } ("1. Start\n2. Go" ++ "\n" ++ "3. Stop") "a --> b" = .ok d' ∧
      ∃ later ≠ [], d'.steps = d.steps ++ later ∨
        ∃ front last, d.steps = front ++ [last] ∧ last.kind = .notification ∧
          d'.steps = front ++ { last with kind := .action } :: later := by
  have hread : Outline.read "1. Start\n2. Go" = .ok [⟨1, "Start", "", []⟩, ⟨2, "Go", "", []⟩] := rfl
  have hread' : Outline.read ("1. Start\n2. Go" ++ "\n" ++ "3. Stop") =
      .ok [⟨1, "Start", "", []⟩, ⟨2, "Go", "", []⟩, ⟨3, "Stop", "", []⟩] := rfl
  have hdigit : Text.isDigit '3' = true := rfl
  have hopens : Outline.OpensWithHeading "3. Stop" :=
    ⟨"3. Stop".toList, ['3'], rfl, Outline.hasHeadingForm_iff.mpr
      ⟨by decide, by simpa using hdigit, ' ', "Stop".toList, by decide, rfl⟩⟩
  have hcompile (diagram : String) :
      compile { lineLimit := none } "1. Start\n2. Go" diagram = .ok _ :=
    compile_of_read rfl hread diagram
  have hlonger (diagram : String) :
      compile { lineLimit := none } ("1. Start\n2. Go" ++ "\n" ++ "3. Stop") diagram = .ok _ :=
    compile_of_read rfl hread' diagram
  exact ⟨_, _, hcompile "", hlonger "a --> b",
    steps_compile_append (hcompile "") (hlonger "a --> b") hopens⟩

end Compile

end StepFlow
