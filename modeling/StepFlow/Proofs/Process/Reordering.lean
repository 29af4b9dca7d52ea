import StepFlow.Proofs.Definition.Row
import StepFlow.Proofs.Process.LineLimit
/-!
# Compiled steps stored in another order

Compiled steps stand in a row, each depending on the one before it (`isRow_buildSteps`). So wherever
they are stored they have one order of execution, that of the prose, and the definition stays sound
(`executionOrder_of_perm`). The order is found by visits inside each other. Of these there are at
most as many as steps, so it is found for all definitions of up to `visitLimit` steps; but a longer
one that is stored backwards takes too many of them (`ordered_reverse`), though it is sound and its
steps have an order (`chainTooLong_headings`).
-/

namespace StepFlow.Assembly

open Definition

variable {steps : List Step} {earlier : List String} {opts : Options} {p : Nat}
variable {prev : Option String} {cs : List Classified}

/-- **Built steps stand in a row,** behind the one that the first of them depends on. -/
theorem isRow_buildSteps (hids : (steps.map (·.id)).Nodup)
    (hsub : buildSteps opts p prev cs ⊆ steps) (hrow : IsRow steps earlier)
    (hprev : earlier.head? = prev) :
    IsRow steps (((buildSteps opts p prev cs).map (·.id)).reverse ++ earlier) := by
  induction cs generalizing p prev earlier with
  | nil => exact hrow
  | cons c cs ih =>
    rw [buildSteps] at hsub ⊢
    obtain ⟨hs, hrest⟩ := List.cons_subset.mp hsub
    rw [List.map_cons, List.reverse_cons, List.append_assoc, List.singleton_append]
    refine ih hrest ⟨⟨_, lastStep?_id hids hs, ?_⟩, hrow⟩ rfl
    rw [hprev, buildStep]

end StepFlow.Assembly

namespace StepFlow.Compile

open Text Definition

variable {opts : Options} {description diagram : String} {d : Definition} {steps : List Step}
variable {n : Nat}

/-! ## Any order -/

/-- Compiled steps stand in a row, wherever they are stored. -/
theorem isRow_of_perm (h : compile opts description diagram = .ok d) (hperm : steps.Perm d.steps) :
    IsRow steps d.ids.reverse := by
  have hids : (steps.map (·.id)).Nodup :=
    (hperm.map _).nodup_iff.mpr (coherent_of_compile h).1.distinct
  obtain ⟨outline, -, rfl⟩ := exists_of_compile h
  have hrow : IsRow steps (_ ++ []) :=
    Assembly.isRow_buildSteps hids (fun s hs => hperm.mem_iff.mpr hs) trivial rfl
  rwa [List.append_nil] at hrow

/-- **Compiled steps have one order of execution,** that of the prose, and stay sound wherever they
are stored. The order is found if there are not too many of them. -/
theorem executionOrder_of_perm (h : compile opts description diagram = .ok d)
    (hperm : steps.Perm d.steps) :
    { d with steps }.check = .ok () ∧ { d with steps }.executionOrder = d.ids ∧
      (d.steps.length ≤ visitLimit → { d with steps }.ordered = .ok d.ids) := by
  have hrow := isRow_of_perm h hperm
  obtain ⟨hsound, hcheck⟩ := coherent_of_compile h
  have hcheck := hsound.check_of_perm hperm hcheck
  have hcoherent := hsound.of_perm hperm
  have hids : ({ d with steps } : Definition).ids.Perm d.ids := hperm.map _
  have horder : { d with steps }.executionOrder = d.ids := by
    have := executionOrder_eq hcoherent.distinct (hcoherent.check_eq_ok_iff.mp hcheck) hrow
      (by rwa [List.reverse_reverse])
    rwa [List.reverse_reverse] at this
  refine ⟨hcheck, horder, fun hlength => ?_⟩
  have hdepth : { d with steps }.visitDepth ≤ visitLimit := by
    refine (visitDepth_le hrow fun a ha => ?_).trans ?_
    · exact List.mem_reverse.mpr (hids.mem_iff.mp ha)
    · rwa [List.length_reverse, Definition.ids, List.length_map]
  rw [ordered, if_pos hdepth, horder]

/-- Three steps that are stored backwards. -/
theorem executionOrder_of_perm_three :
    ∃ d, compile { lineLimit := none } "1. Start\n2. Go\n3. Stop" "" = .ok d ∧
      d.steps.reverse.Perm d.steps ∧ d.ids = ["step_1_start", "step_2_go", "step_3_stop"] ∧
      { d with steps := d.steps.reverse }.check = .ok () ∧
      { d with steps := d.steps.reverse }.executionOrder = d.ids ∧
      (d.steps.length ≤ visitLimit →
        { d with steps := d.steps.reverse }.ordered = .ok d.ids) := by
  have hread : Outline.read "1. Start\n2. Go\n3. Stop" =
      .ok [⟨1, "Start", "", []⟩, ⟨2, "Go", "", []⟩, ⟨3, "Stop", "", []⟩] := rfl
  have hcompile : compile { lineLimit := none } "1. Start\n2. Go\n3. Stop" "" = .ok _ :=
    compile_of_read rfl hread ""
  exact ⟨_, hcompile, List.reverse_perm _, by decide +kernel,
    executionOrder_of_perm hcompile (List.reverse_perm _)⟩

/-! ## Backwards -/

/-- **A long definition that is stored backwards takes too many visits inside each other.** -/
theorem ordered_reverse (h : compile opts description diagram = .ok d)
    (hlong : visitLimit < d.steps.length) :
    { d with steps := d.steps.reverse }.ordered = .error .chainTooLong := by
  have hperm : d.steps.reverse.Perm d.steps := List.reverse_perm _
  have hids : ({ d with steps := d.steps.reverse } : Definition).ids = d.ids.reverse :=
    List.map_reverse
  have hdistinct : d.ids.Nodup := (coherent_of_compile h).1.distinct
  have hdepth : ({ d with steps := d.steps.reverse } : Definition).visitDepth = d.steps.length := by
    rw [visitDepth_eq (by rw [hids]; exact isRow_of_perm h hperm)
      (by rw [hids]; exact List.nodup_reverse.mpr hdistinct), hids, List.length_reverse]
    exact List.length_map _
  rw [ordered, hdepth, if_neg hlong.not_ge]

/-- So many headings, one on each line. -/
def headings (n : Nat) : String :=
  String.ofList ((List.replicate n "1. a".toList).flatMap (· ++ ['\n']))

theorem lines_headings (n : Nat) : lines (headings n).toList = List.replicate n "1. a".toList := by
  have hall : ("1. a".toList.all (!isBreak ·)) = true := by decide
  have hunbroken : ∀ line ∈ List.replicate n "1. a".toList, ∀ c ∈ line, isBreak c = false := by
    intro line hline c hc
    rw [List.eq_of_mem_replicate hline] at hc
    simpa using List.all_eq_true.mp hall c hc
  rw [headings, String.toList_ofList, ← List.append_nil (List.flatMap _ _),
    lines_flatMap_append hunbroken, lines, List.append_nil]

/-- Each of them opens a step. -/
theorem read_headings (n : Nat) :
    Outline.read (headings n) = .ok (List.replicate n ⟨1, "a", "", []⟩) := by
  have hline : Outline.Line.read? "1. a".toList = some (.heading ⟨['1'], ['a'], []⟩) := rfl
  have hfold (n : Nat) (steps : List Outline.Step) :
      (List.replicate n (Outline.Line.heading ⟨['1'], ['a'], []⟩)).foldlM Outline.addLine steps =
        .ok (List.replicate n ⟨1, "a", "", []⟩ ++ steps) := by
    induction n generalizing steps with
    | zero => rfl
    | succ n ih =>
      rw [List.replicate_succ, List.foldlM_cons, List.replicate_succ', List.append_assoc]
      exact ih _
  rw [Outline.read, lines_headings, List.filterMap_replicate_of_some hline, hfold,
    List.append_nil]
  simp [Except.map]

/-- **A sound definition whose order is not found.** Its 1100 steps are stored backwards. -/
theorem chainTooLong_headings :
    ∃ d, compile {} (headings 1100) "" = .ok d ∧ d.steps.reverse.Perm d.steps ∧
      { d with steps := d.steps.reverse }.check = .ok () ∧
      { d with steps := d.steps.reverse }.ordered = .error .chainTooLong := by
  have hfit : ¬ AnyOversized {} (headings 1100) "" := by
    rintro (hover | hover)
    · obtain ⟨-, hle⟩ := oversized_iff.mp hover
      rw [lines_headings, List.length_replicate, defaultLineLimit] at hle
      split at hle <;> omega
    · exact (oversized_iff.mp hover).1 rfl
  have hcompile := compile_of_fits hfit (read_headings 1100)
  obtain ⟨hsound, hcheck⟩ := coherent_of_compile hcompile
  refine ⟨_, hcompile, List.reverse_perm _, ?_, ordered_reverse hcompile ?_⟩
  · exact hsound.check_of_perm (List.reverse_perm _) hcheck
  · rw [length_steps_assembled, List.length_replicate]
    decide

end StepFlow.Compile
