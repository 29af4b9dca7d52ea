import StepFlow.Proofs.Process.Drawing
/-!
# Compiling a drawing again

A definition whose ids can be told apart, whose labels are clean and whose titles leave their
brackets closed is drawn with arrows that stand for its connections again: those of the chain have
no label and add nothing, and each added one finds its own ends (`connection?_drawnEdge`). Taken in
after the chain they are added again, in the same order, so a drawing with more lines below it
compiles to what the first diagram with these lines compiles to (`compile_draw_append`).
-/

namespace StepFlow.Assembly

open Text Definition

variable {opts : Options} {cs : List Classified} {id condition : String} {ids : List String}
variable {edges : List Edge} {c : Connection}

/-- No id occurs in an earlier one. -/
def Apart (ids : List String) : Prop :=
  ids.Pairwise fun earlier later => ¬ later.toList <:+: earlier.toList

/-! ## Arrows of a drawing -/

/-- **Each id finds itself** among ids of which none occurs in an earlier one. -/
theorem resolve?_of_mem (hids : ∀ id ∈ ids, IsStepId id) (hapart : Apart ids)
    (hid : id ∈ ids) : resolve? id ids = some id := by
  obtain ⟨earlier, later, rfl⟩ := List.append_of_mem hid
  have hplain := hids id hid
  have hfresh : ∀ e ∈ earlier, ¬ id.toList <:+: e.toList := fun e he =>
    (List.pairwise_append.mp hapart).2.2 e he id List.mem_cons_self
  refine resolve?_self ?_ hplain.plain hfresh
  rintro rfl
  exact hplain.ne_nil rfl

/-- A clean label is drawn as it is. -/
theorem arrowLabel_toList {label : String} (hne : label ≠ "") (htight : Tight label.toList)
    (hquote : ¬ Diagram.IsQuotation label.toList) :
    Diagram.Progress.arrowLabel (some label.toList) = some label := by
  have hclean := Diagram.cleanLabel_eq_self htight hquote
  refine Diagram.arrowLabel_eq_some_iff.mpr ⟨_, rfl, ?_, ?_⟩
  · rw [hclean, String.ofList_toList]
  · rw [hclean]
    simpa using hne

/-- **The arrow of an added connection stands for it again.** -/
theorem connection?_drawnEdge {e : Edge} (hids : ∀ id ∈ ids, IsStepId id)
    (hapart : Apart ids) (he : connection? ids e = some c)
    (hlabel : ∀ l, c.label = some l → Tight l.toList ∧ ¬ Diagram.IsQuotation l.toList) :
    connection? ids (drawnEdge c) = some c := by
  obtain ⟨l, -, hne, hsource, htarget, hdiff, hcondition, hl⟩ := connection?_eq_some_iff.mp he
  obtain ⟨htight, hquote⟩ := hlabel l hl
  refine connection?_eq_some_iff.mpr ⟨l, ?_, hne, ?_, ?_, hdiff, hcondition, hl⟩
  · rw [drawnEdge, hl]
    exact arrowLabel_toList hne htight hquote
  · exact resolve?_of_mem hids hapart (mem_of_resolve? hsource)
  · exact resolve?_of_mem hids hapart (mem_of_resolve? htarget)

/-- An arrow without a label stands for nothing. -/
theorem connection?_drawnEdge_of_none (hl : c.label = none) :
    connection? ids (drawnEdge c) = none := by
  have hlabel : (drawnEdge c).label = none := by
    rw [drawnEdge, hl]
    rfl
  rw [connection?, hlabel]
  rfl

/-! ## Connections of a drawing -/

/-- **The connections are added again, and then all others.** -/
theorem connections_drawnEdge_append (hids : ∀ id ∈ ids, IsStepId id) (hapart : Apart ids)
    (hlabel : ∀ c ∈ connections ids edges condition, ∀ l, c.label = some l →
      Tight l.toList ∧ ¬ Diagram.IsQuotation l.toList) (more : List Edge) :
    connections ids ((connections ids edges condition).map drawnEdge ++ more) condition =
      connections ids (edges ++ more) condition := by
  obtain ⟨added, heq, hsub, hagain⟩ := exists_connections ids edges condition
  -- the chain is drawn without labels, so only the added connections come back as arrows
  have hchain : ((chain condition ids).map drawnEdge).filterMap (connection? ids) = [] := by
    rw [List.filterMap_map]
    refine List.filterMap_eq_nil_iff.mpr fun c hc => ?_
    exact connection?_drawnEdge_of_none (of_mem_chain hc).2.2
  have hadded : (added.map drawnEdge).filterMap (connection? ids) = added := by
    rw [List.filterMap_map]
    refine (List.filterMap_eq_map_iff_forall_eq_some.mpr fun c hc => ?_).trans (List.map_id added)
    obtain ⟨e, -, he⟩ := List.mem_filterMap.mp (hsub hc)
    refine connection?_drawnEdge hids hapart he (hlabel c ?_)
    rw [heq]
    exact List.mem_append_right _ hc
  have hdrawn : connections ids ((connections ids edges condition).map drawnEdge) condition =
      connections ids edges condition := by
    rw [heq, connections, List.map_append, List.filterMap_append, hchain, hadded, List.nil_append,
      hagain]
  rw [connections_append, hdrawn, connections_append]

/-- Arrows matter only through the connections. -/
theorem assemble_congr {more : List Edge}
    (h : connections ((buildSteps opts 1 none cs).map (·.id)) edges =
      connections ((buildSteps opts 1 none cs).map (·.id)) more) :
    assemble opts cs edges = assemble opts cs more := by
  simp only [assemble, h]

end StepFlow.Assembly

namespace StepFlow.Compile

open Text Definition Assembly

variable {opts : Options} {description diagram : String} {d : Definition}

/-- **A definition that can be compiled from its drawing.** No id occurs in an earlier one, no label
is a quotation, and no title holds what closes its brackets. -/
structure Redrawable (d : Definition) : Prop where
  apart : Apart d.ids
  unquoted : ∀ c ∈ d.connections, ∀ l, c.label = some l → ¬ Diagram.IsQuotation l.toList
  closed : ∀ s ∈ d.steps, ¬ closer s.kind <:+: s.name.toList

/-! ## Compiling again -/

/-- **A drawing with more lines compiles like the diagram with these lines**, and the drawing alone
compiles to the definition. -/
theorem compile_draw_append (h : compile opts description diagram = .ok d)
    (hlimit : opts.lineLimit = none) (hd : Redrawable d) (more : String) :
    (∃ next, compile opts description (diagram ++ "\n" ++ more) = .ok next ∧
      compile opts description (d.draw Session.defaultDirection ++ more) = .ok next) ∧
      compile opts description (d.draw Session.defaultDirection) = .ok d := by
  obtain ⟨outline, hread, hassemble⟩ := exists_of_compile h
  have hdraw := drawable_of_compile h
  have hcompile := compile_of_read hlimit hread
  have hedges (more : String) :
      assembled opts outline (Diagram.read (d.draw Session.defaultDirection ++ more)).edges =
        assembled opts outline ((Diagram.read diagram).edges ++ (Diagram.read more).edges) := by
    rw [Session.defaultDirection, read_draw_append_edges hdraw hd.closed]
    subst hassemble
    refine assemble_congr (connections_drawnEdge_append hdraw.plain hd.apart ?_ _)
    exact fun c hc l hl => ⟨(hdraw.labelled c hc l hl).2.2.tight, hd.unquoted c hc l hl⟩
  refine ⟨⟨_, hcompile _, ?_⟩, ?_⟩
  · rw [hcompile, hedges, Diagram.read_edges_append]
  · have hnone := hedges ""
    have hempty : (Diagram.read "").edges = [] := rfl
    rw [hempty, List.append_nil, String.append_empty] at hnone
    rw [hcompile, hnone, hassemble]

theorem redrawable_asking : Redrawable asking where
  apart := by
    have hids : asking.ids = ["step_1_ask_who", "step_2_go"] := by
      have := congrArg (List.map (·.1)) parts_asking
      simpa [Definition.ids, Function.comp_def] using this
    rw [Apart, hids]
    decide
  unquoted := by
    intro c hc l hl
    obtain ⟨e, he, hlabel⟩ := exists_label_of_mem_connections hc hl
    rw [List.mem_singleton.mp he] at hlabel
    rw [← Option.some.inj hlabel, ← Diagram.isQuoted_iff]
    decide
  closed := not_closer_asking

theorem compile_draw_asking :
    (∃ next,
      compile { lineLimit := none } "1. Ask \"who\"\n2. Go"
        ("step_1 -->|yes| step_2" ++ "\n" ++ "step_2 -->|no| step_1") = .ok next ∧
      compile { lineLimit := none } "1. Ask \"who\"\n2. Go"
        (asking.draw Session.defaultDirection ++ "step_2 -->|no| step_1") = .ok next) ∧
      compile { lineLimit := none } "1. Ask \"who\"\n2. Go"
        (asking.draw Session.defaultDirection) = .ok asking :=
  compile_draw_append compile_asking rfl redrawable_asking "step_2 -->|no| step_1"

end StepFlow.Compile
