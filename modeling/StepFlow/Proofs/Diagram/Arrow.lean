import StepFlow.Proofs.Diagram.Frame
/-!
# Reading arrows

The source of an arrow is the first reading of what stands in front of the arrow; other readings
reach the same arrow or none (`exists_sources_eq_cons`), so neither an arrow tried before it nor one
with a label can be found elsewhere on the line. Arrows are read as they are written
(`readEdge?_text`), and so are nodes, on whose lines no arrow is found (`readEdge?_node`).
-/

namespace StepFlow.Diagram

open Text Written

variable {rest line : List Char} {arrow : Arrow}

/-! ## Ids and targets -/

namespace Written

/-- What a framed label starts with. -/
theorem Framed.head?_text (f : Framed) (rest : List Char) : ∀ c ∈ (f.text ++ rest).head?,
    isWord c = false ∧ isBlank c = false ∧ ∀ a ∈ arrows, a.head? ≠ some c := by
  obtain ⟨frame, label⟩ := f
  intro c hc
  cases frame <;>
    · simp only [text, Frame.opening, List.cons_append, List.head?_cons, Option.mem_some_iff] at hc
      subst hc
      decide

theorem Word.readId?_append (w : Word) (hrest : ∀ c ∈ rest.head?, Text.isWord c = false) :
    readId? (w.text ++ rest) = some (w.text, trimStart rest) :=
  Diagram.readId?_append w.ne_nil w.isWord hrest

theorem Word.readId?_framed (w : Word) (f : Framed) (rest : List Char) :
    readId? (w.text ++ (f.text ++ rest)) = some (w.text, f.text ++ rest) := by
  rw [w.readId?_append fun c hc => (f.head?_text rest c hc).1,
    trimStart_eq_self fun c hc => (f.head?_text rest c hc).2.1]

/-- **The target of an arrow is read back.** -/
theorem End.readTarget?_text (t : End) : readTarget? t.text = some t.endpoint := by
  obtain ⟨id, framed?⟩ := t
  cases framed? with
  | none =>
    have hid : readId? (id.text ++ []) = _ := id.readId?_append (by simp)
    have hbody : bodies (trimStart []) = [] := bodies_eq_nil (by decide)
    rw [List.append_nil] at hid
    simp [readTarget?, text, hid, hbody, endpoint]
  | some f =>
    have hid := id.readId?_framed f []
    obtain ⟨others, hbody⟩ := exists_bodies_eq_cons f []
    rw [List.append_nil] at hid hbody
    simp [readTarget?, text, hid, hbody, endpoint]

end Written

/-! ## Sources -/

/-- **The source of an arrow is read first as what is written,** and other readings lead to no arrow
or to the same. -/
theorem exists_sources_eq_cons (source : End) (tail : List Char)
    (hword : ∀ c ∈ tail.head?, isWord c = false)
    (hclosers : EndsInClosers tail) (hbodies : bodies (trimStart tail) = []) :
    ∃ others, sources (source.text ++ tail) = (source.endpoint, trimStart tail) :: others ∧
      ∀ p ∈ others, ∀ a ∈ arrows, a <+: p.2 → p.2 = trimStart tail := by
  obtain ⟨id, framed?⟩ := source
  cases framed? with
  | none =>
    refine ⟨[], ?_, by simp⟩
    simp only [End.text, Option.map_none, Option.getD_none, List.append_nil]
    exact sources_append id.ne_nil id.isWord hword hbodies
  | some f =>
    obtain ⟨others, hothers⟩ := exists_bodies_eq_cons f tail
    have hsources : sources (End.text ⟨id, some f⟩ ++ tail) =
        (⟨id.text, some f.body⟩, trimStart tail) ::
          ((others.map fun p => (⟨id.text, some p.1⟩, trimStart p.2)) ++
            [(⟨id.text, none⟩, f.text ++ tail)]) := by
      simp [End.text, sources, id.readId?_framed, hothers]
    refine ⟨_, hsources, fun p hp a ha hpre => ?_⟩
    rcases List.mem_append.mp hp with hp | hp
    · obtain ⟨⟨body, after⟩, hbody, rfl⟩ := List.mem_map.mp hp
      have hmem : (body, after) ∈ bodies (f.text ++ tail) := hothers ▸ List.mem_cons_of_mem _ hbody
      rw [eq_of_arrow_isPrefix hmem ha hpre hclosers]
    · -- without its frame the id is followed by the opening bracket
      obtain rfl := List.mem_singleton.mp hp
      have hopening := fun c hc => (f.head?_text tail c hc).2.2
      exact absurd hpre (not_arrow_isPrefix_of_head? hopening a ha)

/-! ## Arrows -/

theorem Written.Arrow.text_mem_arrows (a : Arrow) : a.text ∈ arrows := by
  cases a <;> decide

/-- Where an arrow stands, no other arrow does. -/
theorem eq_of_isPrefix_arrow {a : List Char} (ha : a ∈ arrows) (hpre : a <+: arrow.text ++ rest) :
    a = arrow.text := by
  simp only [arrows, List.mem_cons, List.not_mem_nil, or_false] at ha
  cases arrow <;> rcases ha with rfl | rfl | rfl <;> simp_all [Arrow.text]

/-- Where only one element counts, it is the one that is found. -/
theorem findSome?_eq_of_forall_ne {α β : Type} {f : α → Option β} {xs : List α} {x : α}
    (hx : x ∈ xs) (h : ∀ y ∈ xs, y ≠ x → f y = none) : xs.findSome? f = f x := by
  cases hf : f x with
  | none =>
    refine List.findSome?_eq_none_iff.mpr fun y hy => ?_
    by_cases hyx : y = x
    · rw [hyx, hf]
    · exact h y hy hyx
  | some b =>
    obtain ⟨front, back, rfl, hfront⟩ := List.eq_append_cons_of_mem hx
    refine List.findSome?_eq_some_iff.mpr ⟨front, x, back, rfl, hf, fun y hy => ?_⟩
    exact h y (List.mem_append_left _ hy) fun hyx => hfront (hyx ▸ hy)

/-- The arrow of a line is of the form that stands behind its sources. -/
theorem readEdge?_eq_or
    (hsources : ∀ p ∈ sources line, ∀ a ∈ arrows, a <+: p.2 → p.2 = arrow.text ++ rest) :
    readEdge? line =
      ((sources line).findSome? fun p => readLabelled? arrow.text p.1 p.2).or
        ((sources line).findSome? fun p => readPlain? arrow.text p.1 p.2) := by
  refine findSome?_eq_of_forall_ne arrow.text_mem_arrows fun a ha hne => ?_
  have hafter : ∀ p ∈ sources line, after? a p.2 = none := by
    refine fun p hp => after?_eq_none_iff.mpr fun hpre => hne ?_
    exact eq_of_isPrefix_arrow ha (hsources p hp a ha hpre ▸ hpre)
  rw [Option.or_eq_none_iff, List.findSome?_eq_none_iff, List.findSome?_eq_none_iff]
  exact ⟨fun p hp => by simp [readLabelled?, hafter p hp],
    fun p hp => by simp [readPlain?, hafter p hp]⟩

/-! ## What stands behind an arrow -/

section Behind

variable {gap label behind : List Char} {target : Endpoint}

/-- **A label between bars is read back**, with the target that is read behind it. -/
theorem readLabelled?_barred (a : Arrow) (e : Endpoint) (hgap : ∀ c ∈ gap, isBlank c = true)
    (hlabel : '|' ∉ label) (htarget : readTarget? (trimStart behind) = some target) :
    readLabelled? a.text e (a.text ++ (gap ++ '|' :: (label ++ '|' :: behind))) =
      some (.edge e (some label) target) := by
  have hbar : trimStart ('|' :: (label ++ '|' :: behind)) = '|' :: (label ++ '|' :: behind) := rfl
  have hcut : splitAt? ['|'] (label ++ '|' :: behind) = some (label, behind) :=
    splitAt?_singleton_iff.mpr ⟨hlabel, rfl⟩
  simp [readLabelled?, after?_append, trimStart_append hgap, hbar, readBarred?, hcut, htarget]

/-- Such a label is not taken for a target. -/
theorem readPlain?_barred (a : Arrow) (e : Endpoint) (hgap : ∀ c ∈ gap, isBlank c = true)
    (behind : List Char) : readPlain? a.text e (a.text ++ (gap ++ '|' :: behind)) = none := by
  have hbar : trimStart ('|' :: behind) = '|' :: behind := rfl
  have hspan : spanWord ([] ++ '|' :: behind) = ([], '|' :: behind) :=
    spanWord_append (by simp) fun c hc => Option.some.inj hc ▸ by decide
  rw [List.nil_append] at hspan
  simp [readPlain?, after?_append, trimStart_append hgap, hbar, readTarget?, readId?, hspan]

/-- **A target without a label before it is read back.** -/
theorem readPlain?_of_target (a : Arrow) (e : Endpoint)
    (htarget : readTarget? (trimStart behind) = some target) :
    readPlain? a.text e (a.text ++ behind) = some (.edge e none target) := by
  simp [readPlain?, after?_append, htarget]

/-- A target is not taken for a label. -/
theorem readLabelled?_of_target (a : Arrow) (e : Endpoint)
    (hword : ∀ c ∈ (trimStart behind).head?, isWord c = true) :
    readLabelled? a.text e (a.text ++ behind) = none := by
  have hbar : readBarred? (trimStart behind) = none := by
    rw [readBarred?]
    rintro cs hcs
    exact absurd (hword '|' (by rw [hcs]; rfl)) (by decide)
  simp [readLabelled?, after?_append, hbar]

end Behind

namespace Written

theorem isBlank_of_mem_gap (more : Nat) : ∀ c ∈ gap more, isBlank c = true := fun _ hc =>
  (List.eq_of_mem_replicate hc) ▸ rfl

theorem trimStart_gap (more : Nat) (cs : List Char) : trimStart (gap more ++ cs) = trimStart cs :=
  trimStart_append (isBlank_of_mem_gap more)

/-- What an end of an arrow starts with. -/
theorem End.head?_text (e : End) (rest : List Char) :
    ∀ c ∈ (e.text ++ rest).head?, isWord c = true := by
  intro c hc
  rw [text, List.append_assoc, List.head?_append_of_ne_nil _ e.id.ne_nil] at hc
  exact e.id.isWord c (List.mem_of_mem_head? hc)

theorem End.trimStart_text (e : End) : trimStart e.text = e.text := by
  refine trimStart_eq_self fun c hc => isBlank_of_isWord (e.head?_text [] c ?_)
  rwa [List.append_nil]

theorem trimStart_behindArrow_none (beforeTarget : Nat) (target : End) :
    trimStart (behindArrow none beforeTarget target) = target.text := by
  rw [behindArrow, Option.map_none, Option.getD_none, List.nil_append, trimStart_gap,
    target.trimStart_text]

theorem readLabelled?_behindArrow (a : Arrow) (e : Endpoint) (l : ArrowLabel) (beforeTarget : Nat)
    (target : End) :
    readLabelled? a.text e (a.text ++ behindArrow (some l) beforeTarget target) =
      some (.edge e (some l.caption.text) target.endpoint) := by
  have hbar : '|' ∉ l.caption.text := fun h => l.caption.free _ h List.mem_cons_self
  have htarget : readTarget? (trimStart (gap beforeTarget ++ target.text)) =
      some target.endpoint := by
    rw [trimStart_gap, target.trimStart_text, target.readTarget?_text]
  simpa [behindArrow, ArrowLabel.text] using
    readLabelled?_barred a e (isBlank_of_mem_gap l.more) hbar htarget

theorem readLabelled?_behindArrow_none (a : Arrow) (e : Endpoint) (beforeTarget : Nat)
    (target : End) :
    readLabelled? a.text e (a.text ++ behindArrow none beforeTarget target) = none := by
  refine readLabelled?_of_target a e ?_
  rw [trimStart_behindArrow_none, ← List.append_nil target.text]
  exact target.head?_text []

theorem readPlain?_behindArrow (a : Arrow) (e : Endpoint) (beforeTarget : Nat) (target : End) :
    readPlain? a.text e (a.text ++ behindArrow none beforeTarget target) =
      some (.edge e none target.endpoint) := by
  refine readPlain?_of_target a e ?_
  rw [trimStart_behindArrow_none, target.readTarget?_text]

/-! ## Lines with an arrow -/

theorem End.endsInClosers (e : End) : EndsInClosers e.text := by
  obtain ⟨id, framed?⟩ := e
  cases framed? with
  | none => exact EndsInClosers.append id.notMem_closers ⟨[], [], rfl, by simp, by simp⟩
  | some f => exact f.endsInClosers.append id.notMem_closers

theorem notMem_closers_gap (more : Nat) : ∀ c ∈ gap more, c ∉ closers :=
  notMem_closers_of_isBlank (isBlank_of_mem_gap more)

theorem ArrowLabel.notMem_closers (l : ArrowLabel) : ∀ c ∈ l.text, c ∉ closers :=
  List.forall_mem_append.mpr ⟨notMem_closers_gap l.more, l.caption.notMem_closers_barred⟩

theorem endsInClosers_behindArrow (label? : Option ArrowLabel) (beforeTarget : Nat)
    (target : End) : EndsInClosers (behindArrow label? beforeTarget target) := by
  refine (target.endsInClosers.append (notMem_closers_gap _)).append ?_
  cases label? with
  | none => simp
  | some l => exact l.notMem_closers

/-- **On a line with an arrow** the written source comes first, the written arrow behind it, and
no other source has another arrow behind it. -/
theorem exists_sources_arrow (source : End) (behindSource : Nat) (arrow : Arrow)
    {behind : List Char} (hclosers : EndsInClosers behind) :
    ∃ others, sources (source.text ++ (gap behindSource ++ (arrow.text ++ behind))) =
        (source.endpoint, arrow.text ++ behind) :: others ∧
      ∀ p ∈ others, ∀ a ∈ arrows, a <+: p.2 → p.2 = arrow.text ++ behind := by
  have hstart : trimStart (gap behindSource ++ (arrow.text ++ behind)) = arrow.text ++ behind := by
    rw [trimStart_gap]
    cases arrow <;> rfl
  have hword : ∀ c ∈ (gap behindSource ++ (arrow.text ++ behind)).head?, isWord c = false := by
    intro c hc
    rw [← Option.some.inj hc]
    decide
  have hends : EndsInClosers (gap behindSource ++ (arrow.text ++ behind)) :=
    (hclosers.append arrow.notMem_closers).append (notMem_closers_gap _)
  have hbodies : bodies (arrow.text ++ behind) = [] :=
    bodies_eq_nil (by cases arrow <;> simp [brackets, Arrow.text])
  have hcons := exists_sources_eq_cons source _ hword hends (by rw [hstart, hbodies])
  rwa [hstart] at hcons

/-- **A line with an arrow is read back.** -/
theorem readEdge?_text (source : End) (behindSource : Nat) (arrow : Arrow)
    (label? : Option ArrowLabel) (beforeTarget : Nat) (target : End) :
    readEdge? (Sentence.edge source behindSource arrow label? beforeTarget target).text =
      some (.edge source.endpoint (label?.map (·.caption.text)) target.endpoint) := by
  obtain ⟨others, hsources, hothers⟩ := exists_sources_arrow source behindSource arrow
    (endsInClosers_behindArrow label? beforeTarget target)
  rw [Sentence.text]
  generalize source.text ++ (gap behindSource ++ (arrow.text ++
    behindArrow label? beforeTarget target)) = line at hsources ⊢
  have hall : ∀ p ∈ sources line, ∀ a ∈ arrows, a <+: p.2 →
      p.2 = arrow.text ++ behindArrow label? beforeTarget target := by
    rw [hsources, List.forall_mem_cons]
    exact ⟨fun _ _ _ => rfl, hothers⟩
  rw [readEdge?_eq_or hall]
  cases label? with
  | some l =>
    rw [hsources, List.findSome?_cons]
    simp only [readLabelled?_behindArrow, Option.some_or, Option.map_some]
  | none =>
    -- no source is followed by a label, since each that is followed by an arrow has this target
    have hnone : (sources line).findSome? (fun p => readLabelled? arrow.text p.1 p.2) = none := by
      refine List.findSome?_eq_none_iff.mpr fun p hp => ?_
      by_cases hpre : arrow.text <+: p.2
      · rw [hall p hp _ arrow.text_mem_arrows hpre, readLabelled?_behindArrow_none]
      · simp [readLabelled?, after?_eq_none_iff.mpr hpre]
    rw [hnone, hsources, List.findSome?_cons]
    simp only [readPlain?_behindArrow, Option.none_or, Option.map_none]

/-! ## Lines with a node -/

/-- **No arrow is found on a line with a node.** -/
theorem readEdge?_node (id : Word) (f : Framed) : readEdge? (id.text ++ f.text) = none := by
  have hnil : ∀ a ∈ arrows, ¬ a <+: [] := by decide
  obtain ⟨others, hsources, hothers⟩ := exists_sources_eq_cons ⟨id, some f⟩ [] (by simp)
    ⟨[], [], rfl, by simp, by simp⟩ (bodies_eq_nil (by decide))
  rw [List.append_nil] at hsources
  refine readEdge?_eq_none fun p hp a ha hpre => hnil a ha ?_
  have hp' : p ∈ sources (End.text ⟨id, some f⟩) := hp
  rw [hsources] at hp'
  rcases List.mem_cons.mp hp' with rfl | hp'
  · exact hpre
  · rwa [hothers p hp' a ha hpre] at hpre

/-- **A line with a node is read back.** -/
theorem readNode?_text (id : Word) (f : Framed) :
    readNode? (id.text ++ f.text) = some (.node id.text f.body) := by
  have hid := id.readId?_framed f []
  obtain ⟨others, hbody⟩ := exists_bodies_eq_cons f []
  rw [List.append_nil] at hid hbody
  simp [readNode?, hid, hbody]

end Written

end StepFlow.Diagram
