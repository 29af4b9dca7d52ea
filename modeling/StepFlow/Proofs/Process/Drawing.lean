import StepFlow.Proofs.Definition.Drawing
import StepFlow.Proofs.Process.Compile
import StepFlow.Session
/-!
# Drawings of compiled definitions

Whatever a definition is compiled from, it can be drawn (`drawable_of_compile`): ids are made of
plain characters, titles and labels were cut out of lines, and labels stood between bars. So its
drawing is read as the diagram it shows (`read_draw_of_compile`).
-/

namespace StepFlow.Compile

open Text Definition

variable {opts : Options} {description diagram : String} {d : Definition}

/-! ## What can be drawn -/

theorem isStepId_stepId (n : Nat) (title : String) : IsStepId (Assembly.stepId n title) where
  start := ⟨_, (Assembly.toList_stepId n title).symm⟩
  plain := fun _ hc => Assembly.isPlain_of_mem_stepId hc

/-- **A compiled definition can be drawn.** -/
theorem drawable_of_compile (h : compile opts description diagram = .ok d) : Drawable d := by
  obtain ⟨outline, hread, rfl⟩ := exists_of_compile h
  have hcoherent : (assembled opts outline (Diagram.read diagram).edges).Coherent :=
    Assembly.coherent_assemble _ _ _
  refine ⟨hcoherent.distinct, ?_, ?_, hcoherent.joined, ?_⟩
  · intro id hid
    obtain ⟨s, hs, rfl⟩ := List.mem_map.mp hid
    obtain ⟨q, c, -, -, hq, -⟩ := Assembly.exists_of_mem_buildSteps hs
    exact hq ▸ isStepId_stepId q _
  · intro s hs
    obtain ⟨q, c, hc, -, -, hname⟩ := Assembly.exists_of_mem_buildSteps hs
    obtain ⟨c', hc', rfl⟩ := List.mem_map.mp hc
    have hstep : c'.step ∈ outline := by
      rw [← map_step_stepsFrom outline.length 0 outline]
      exact List.mem_map_of_mem hc'
    rw [hname]
    exact Outline.inline_of_mem_read hread hstep
  · intro c hc l hl
    obtain ⟨e, he, hlabel⟩ := Assembly.exists_label_of_mem_connections hc hl
    exact Diagram.of_mem_read_edges he hlabel

/-! ## What is read back -/

/-- **The drawing of a compiled definition is read as the diagram it shows:** a node for each step
and an arrow for each connection, in order, and no sections. -/
theorem read_draw_of_compile (h : compile opts description diagram = .ok d)
    (hname : ∀ s ∈ d.steps, s.name ≠ "" ∧ String.ofList (drawnText s.name) ≠ s.id)
    (hclosed : ∀ s ∈ d.steps, ¬ closer s.kind <:+: s.name.toList) :
    Diagram.read (d.draw Session.defaultDirection) =
      { nodes := d.steps.map drawnNode, edges := d.connections.map drawnEdge, sections := [] } := by
  refine read_draw (drawable_of_compile h) hclosed fun s hs => ⟨(hname s hs).1, fun heq => ?_⟩
  refine (hname s hs).2 ?_
  rw [heq, String.ofList_toList]

/-- Two steps and an arrow between them. -/
def asking : Definition :=
  assembled {} [⟨1, "Ask \"who\"", "", []⟩, ⟨2, "Go", "", []⟩] [⟨"step_1", "step_2", some "yes"⟩]

theorem compile_asking :
    compile { lineLimit := none } "1. Ask \"who\"\n2. Go" "step_1 -->|yes| step_2" =
      .ok asking := by
  have hread : Outline.read "1. Ask \"who\"\n2. Go" =
      .ok [⟨1, "Ask \"who\"", "", []⟩, ⟨2, "Go", "", []⟩] := rfl
  have hedges : (Diagram.read "step_1 -->|yes| step_2").edges =
      [⟨"step_1", "step_2", some "yes"⟩] := by decide
  rw [compile_of_read rfl hread, hedges]
  rfl

theorem parts_asking :
    asking.steps.map (fun s => (s.id, s.name, s.kind)) =
      [("step_1_ask_who", "Ask \"who\"", .trigger), ("step_2_go", "Go", .notification)] := by
  have hask : Assembly.stepId (1 : Nat) "Ask \"who\"" = "step_1_ask_who" := by
    refine String.toList_injective ?_
    rw [Assembly.toList_stepId, decimal_of_lt (by decide)]
    decide
  have hgo : Assembly.stepId (2 : Nat) "Go" = "step_2_go" := by
    refine String.toList_injective ?_
    rw [Assembly.toList_stepId, decimal_of_lt (by decide)]
    decide
  rw [← hask, ← hgo]
  rfl

theorem of_mem_asking {s : Step} (hs : s ∈ asking.steps) :
    (s.id, s.name, s.kind) ∈
      [("step_1_ask_who", "Ask \"who\"", .trigger), ("step_2_go", "Go", .notification)] :=
  parts_asking ▸ List.mem_map_of_mem hs

/-- No title of the example holds what closes its brackets. -/
theorem not_closer_asking : ∀ s ∈ asking.steps, ¬ closer s.kind <:+: s.name.toList := by
  have hparts : ∀ x ∈ [("step_1_ask_who", "Ask \"who\"", StepKind.trigger),
      ("step_2_go", "Go", .notification)], ¬ closer x.2.2 <:+: x.2.1.toList := by decide
  exact fun s hs => hparts _ (of_mem_asking hs)

theorem read_draw_asking :
    Diagram.read (asking.draw Session.defaultDirection) =
      { nodes := asking.steps.map drawnNode, edges := asking.connections.map drawnEdge,
        sections := [] } := by
  have hparts : ∀ x ∈ [("step_1_ask_who", "Ask \"who\"", StepKind.trigger),
      ("step_2_go", "Go", .notification)],
      x.2.1 ≠ "" ∧ String.ofList (drawnText x.2.1) ≠ x.1 := by decide
  exact read_draw_of_compile compile_asking (fun s hs => hparts _ (of_mem_asking hs))
    not_closer_asking

end StepFlow.Compile
