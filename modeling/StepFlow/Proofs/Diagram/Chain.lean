import StepFlow.Proofs.Diagram.RoundTrip
/-!
# Chains of arrows

A line can hold several arrows one behind another, as in `a[First] --> b ==>|then| c`. A line says
one arrow only, and which one that is depends on the forms of the arrows, which are tried in a fixed
order (`readEdge?_eq_findSome?`). From every arrow of a chain that a reading of the line comes to,
its label and its target are read as they are written (`readForm_link`), and an arrow comes behind a
bracket only where the frame of a node closes (`exists_links_eq`).
-/

namespace StepFlow.Diagram

open Text Written

variable {before rest line arrow tail : List Char} {c : Char} {ls : List Link} {s : Statement}

namespace Written

/-! ## What is written -/

/-- A node of a chain: an id and, behind blanks, a label in a frame where the chain defines the node
in passing. -/
structure Stop where
  /-- The id. -/
  id : Word
  /-- The blanks and the label. -/
  framed? : Option (Blanks × Framed)

namespace Stop

/-- The node as it is written. -/
def text (s : Stop) : List Char :=
  s.id.text ++ (s.framed?.map fun f => f.1.text ++ f.2.text).getD []

/-- The id and the body. -/
def endpoint (s : Stop) : Endpoint :=
  ⟨s.id.text, s.framed?.map (·.2.body)⟩

end Stop

/-- An arrow of a chain and the node that it leads to. -/
structure Link where
  /-- The blanks behind the node before. -/
  beforeArrow : Blanks
  /-- The arrow. -/
  arrow : Arrow
  /-- The label between bars, with the blanks in front of it. -/
  label? : Option (Blanks × Caption ('|' :: bracketChars))
  /-- The blanks in front of the node. -/
  beforeTarget : Blanks
  /-- The node. -/
  target : Stop

namespace Link

/-- The label as it is written. -/
def labelText (l : Link) : List Char :=
  (l.label?.map fun x => x.1.text ++ '|' :: (x.2.text ++ ['|'])).getD []

/-- What stands behind the arrow. -/
def behind (l : Link) : List Char :=
  l.labelText ++ (l.beforeTarget.text ++ l.target.text)

/-- The arrow and the node as they are written. -/
def text (l : Link) : List Char :=
  l.beforeArrow.text ++ (l.arrow.text ++ l.behind)

/-- What the arrow says if it leaves the given node. -/
def statement (l : Link) (source : Endpoint) : Statement :=
  .edge source (l.label?.map (·.2.text)) l.target.endpoint

end Link

/-- Several links as they are written. -/
def linksText (ls : List Link) : List Char :=
  ls.flatMap Link.text

/-! ## The forms of arrows -/

deriving instance DecidableEq for Arrow

/-- The forms of arrows in the order in which they are tried, each with a label before it is tried
without one. -/
def forms : List (Arrow × Bool) :=
  [Arrow.thin, .thick, .dotted].flatMap fun a => [(a, true), (a, false)]

theorem mem_forms (form : Arrow × Bool) : form ∈ forms := by
  obtain ⟨arrow, labelled⟩ := form
  cases arrow <;> cases labelled <;> decide

/-- The form of the arrow. -/
def Link.form (l : Link) : Arrow × Bool :=
  (l.arrow, l.label?.isSome)

/-- The place of the form in the order in which forms are tried. -/
def Link.rank (l : Link) : Nat :=
  forms.idxOf l.form

end Written

/-- The arrow of a form that stands behind a source. -/
def readForm (form : Arrow × Bool) (p : Endpoint × List Char) : Option Statement :=
  if form.2 then readLabelled? form.1.text p.1 p.2 else readPlain? form.1.text p.1 p.2

/-- The first result of several is that of the first element or of the others. -/
theorem findSome?_cons_eq_or {α β : Type} (f : α → Option β) (x : α) (xs : List α) :
    (x :: xs).findSome? f = (f x).or (xs.findSome? f) := by
  rw [List.findSome?_cons]
  cases f x <;> rfl

/-- **The arrow of a line** has the first form of which there is one behind a source. -/
theorem readEdge?_eq_findSome? :
    readEdge? line = forms.findSome? fun form => (sources line).findSome? (readForm form) := by
  simp only [readEdge?, arrows, forms, List.flatMap_cons, List.flatMap_nil, List.cons_append,
    List.nil_append, List.append_nil, findSome?_cons_eq_or, List.findSome?_nil, Option.or_assoc]
  rfl

namespace Written

/-! ## What stands where -/

theorem Blanks.head?_append (gap : Blanks) (h : ∀ c ∈ tail.head?, isWord c = false) :
    ∀ c ∈ (gap.text ++ tail).head?, isWord c = false :=
  forall_head?_append (fun c hc => isWord_of_isBlank (gap.isBlank c hc)) h

/-- Nothing of a word stands behind a node of a chain. -/
theorem head?_linksText (ls : List Link) : ∀ c ∈ (linksText ls).head?, isWord c = false := by
  cases ls with
  | nil => simp [linksText]
  | cons l ls =>
    have harrow : ∀ c ∈ (l.arrow.text ++ (l.behind ++ linksText ls)).head?, isWord c = false := by
      cases l.arrow <;> exact fun c hc => Option.some.inj hc ▸ by decide
    simpa [linksText, Link.text] using Blanks.head?_append l.beforeArrow harrow

theorem trimStart_linksText_cons (l : Link) (ls : List Link) :
    trimStart (linksText (l :: ls)) = l.arrow.text ++ (l.behind ++ linksText ls) := by
  have hsplit : linksText (l :: ls) =
      l.beforeArrow.text ++ (l.arrow.text ++ (l.behind ++ linksText ls)) := by
    simp [linksText, Link.text]
  rw [hsplit, trimStart_append l.beforeArrow.isBlank]
  cases l.arrow <;> rfl

/-- No body starts behind a node of a chain. -/
theorem bodies_linksText (ls : List Link) : bodies (trimStart (linksText ls)) = [] := by
  cases ls with
  | nil => exact bodies_eq_nil (by decide)
  | cons l ls =>
    rw [trimStart_linksText_cons]
    exact bodies_eq_nil (by cases l.arrow <;> simp [brackets, Arrow.text])

/-! ## Reading the nodes -/

namespace Stop

theorem readId?_of_framed {s : Stop} {f : Blanks × Framed} (hf : s.framed? = some f)
    (tail : List Char) : readId? (s.text ++ tail) = some (s.id.text, f.2.text ++ tail) := by
  have hhead := f.2.head?_text tail
  have htext : s.text ++ tail = s.id.text ++ (f.1.text ++ (f.2.text ++ tail)) := by
    simp [text, hf]
  rw [htext, s.id.readId?_append (Blanks.head?_append f.1 fun c hc => (hhead c hc).1),
    trimStart_append f.1.isBlank, trimStart_eq_self fun c hc => (hhead c hc).2.1]

theorem readId?_of_not_framed {s : Stop} (hf : s.framed? = none)
    (htail : ∀ c ∈ tail.head?, Text.isWord c = false) :
    readId? (s.text ++ tail) = some (s.id.text, trimStart tail) := by
  have htext : s.text ++ tail = s.id.text ++ tail := by simp [text, hf]
  rw [htext, s.id.readId?_append htail]

/-- **A node is read back as the target of an arrow,** whatever links follow it. -/
theorem readTarget?_text (s : Stop) (ls : List Link) :
    readTarget? (s.text ++ linksText ls) = some s.endpoint := by
  cases hf : s.framed? with
  | none =>
    have hid := readId?_of_not_framed hf (head?_linksText ls)
    simp [readTarget?, hid, bodies_linksText, endpoint, hf]
  | some f =>
    have hid := readId?_of_framed hf (linksText ls)
    obtain ⟨others, hbodies⟩ := exists_bodies_eq_cons f.2 (linksText ls)
    simp [readTarget?, hid, hbodies, endpoint, hf]

theorem head?_text (s : Stop) (rest : List Char) :
    ∀ c ∈ (s.text ++ rest).head?, Text.isWord c = true := by
  intro c hc
  rw [text, List.append_assoc, List.head?_append_of_ne_nil _ s.id.ne_nil] at hc
  exact s.id.isWord c (List.mem_of_mem_head? hc)

theorem trimStart_text (s : Stop) (rest : List Char) :
    trimStart (s.text ++ rest) = s.text ++ rest :=
  trimStart_eq_self fun c hc => isBlank_of_isWord (s.head?_text rest c hc)

end Stop

end Written

/-! ## Reading the arrows -/

/-- An arrow is read in no form but its own. -/
theorem readForm_eq_none_of_ne {form : Arrow × Bool} {a : Arrow} (e : Endpoint)
    (h : form.1 ≠ a) : readForm form (e, a.text ++ rest) = none := by
  have hafter : after? form.1.text (a.text ++ rest) = none := by
    rw [after?_eq_none_iff]
    intro hpre
    refine h ?_
    have htext := eq_of_isPrefix_arrow form.1.text_mem_arrows hpre
    revert htext
    cases form.1 <;> cases a <;> simp [Arrow.text]
  simp [readForm, readLabelled?, readPlain?, hafter]

/-- **From an arrow of a chain on the line is read as it is written:** in the arrow's own form, with
its label and its target. -/
theorem readForm_link (form : Arrow × Bool) (e : Endpoint) (l : Link) (ls : List Link) :
    readForm form (e, l.arrow.text ++ (l.behind ++ linksText ls)) =
      if form = l.form then some (l.statement e) else none := by
  by_cases harrow : form.1 = l.arrow
  · obtain ⟨arrow, labelled⟩ := form
    obtain rfl : arrow = l.arrow := harrow
    have htarget :
        readTarget? (trimStart (l.beforeTarget.text ++ (l.target.text ++ linksText ls))) =
          some l.target.endpoint := by
      rw [trimStart_append l.beforeTarget.isBlank, l.target.trimStart_text,
        l.target.readTarget?_text]
    cases hlabel : l.label? with
    | none =>
      have hbehind : l.behind ++ linksText ls =
          l.beforeTarget.text ++ (l.target.text ++ linksText ls) := by
        simp [Link.behind, Link.labelText, hlabel]
      have hword : ∀ c ∈ (trimStart (l.beforeTarget.text ++
          (l.target.text ++ linksText ls))).head?, isWord c = true := by
        rw [trimStart_append l.beforeTarget.isBlank, l.target.trimStart_text]
        exact l.target.head?_text _
      rw [hbehind]
      cases labelled with
      | true => simp [readForm, readLabelled?_of_target l.arrow e hword, Link.form, hlabel]
      | false =>
        simp [readForm, readPlain?_of_target l.arrow e htarget, Link.form, Link.statement, hlabel]
    | some x =>
      have hbar : '|' ∉ x.2.text := fun h => x.2.free _ h List.mem_cons_self
      have hbehind : l.behind ++ linksText ls = x.1.text ++
          '|' :: (x.2.text ++ '|' :: (l.beforeTarget.text ++ (l.target.text ++ linksText ls))) := by
        simp [Link.behind, Link.labelText, hlabel]
      rw [hbehind]
      cases labelled with
      | true =>
        simp [readForm, readLabelled?_barred l.arrow e x.1.isBlank hbar htarget, Link.form,
          Link.statement, hlabel]
      | false => simp [readForm, readPlain?_barred l.arrow e x.1.isBlank, Link.form, hlabel]
  · have hform : form ≠ l.form := fun h => harrow (h ▸ rfl)
    rw [readForm_eq_none_of_ne e harrow, if_neg hform]

/-! ## Closing brackets in a chain -/

namespace Written

theorem Link.notMem_closers_labelText (l : Link) : ∀ c ∈ l.labelText, c ∉ closers := by
  rw [labelText]
  cases l.label? with
  | none => simp
  | some x =>
    rw [Option.map_some, Option.getD_some, List.forall_mem_append]
    exact ⟨notMem_closers_of_isBlank x.1.isBlank, x.2.notMem_closers_barred⟩

/-- The frame of its node is all that closes in a link. -/
theorem Link.exists_text_eq (l : Link) : ∃ front, (∀ c ∈ front, c ∉ closers) ∧
    l.text = front ++ (l.target.framed?.map (·.2.text)).getD [] := by
  have hblanks (gap : Blanks) : ∀ c ∈ gap.text, c ∉ closers := notMem_closers_of_isBlank gap.isBlank
  have hlead : ∀ c ∈ l.beforeArrow.text ++ (l.arrow.text ++
      (l.labelText ++ (l.beforeTarget.text ++ l.target.id.text))), c ∉ closers := by
    simp only [List.forall_mem_append]
    exact ⟨hblanks l.beforeArrow, l.arrow.notMem_closers, l.notMem_closers_labelText,
      hblanks l.beforeTarget, l.target.id.notMem_closers⟩
  cases hf : l.target.framed? with
  | none => exact ⟨_, hlead, by simp [text, behind, Stop.text, hf]⟩
  | some f =>
    refine ⟨_, List.forall_mem_append.mpr ⟨hlead, hblanks f.1⟩, ?_⟩
    simp [text, behind, Stop.text, hf]

/-- A closing bracket in a link ends its frame if an arrow stands behind the bracket. -/
theorem Link.of_text_eq_append {l : Link} {more : List Char} (htext : l.text = before ++ c :: more)
    (hc : c ∈ closers) (harrow : arrow ∈ arrows) (hpre : arrow <+: trimStart (more ++ rest)) :
    more = [] ∧ ∃ f, l.target.framed? = some f := by
  obtain ⟨lead, hlead, hl⟩ := l.exists_text_eq
  cases hf : l.target.framed? with
  | none =>
    -- without a frame nothing closes in the link
    simp only [hf, Option.map_none, Option.getD_none, List.append_nil] at hl
    refine absurd hc (hlead c ?_)
    rw [← hl, htext]
    exact List.mem_append_right _ List.mem_cons_self
  | some f =>
    simp only [hf, Option.map_some, Option.getD_some] at hl
    have hends : EndsInClosers l.text := hl ▸ f.2.endsInClosers.append hlead
    have hafter := (htext ▸ hends).of_mem_after hc
    cases more with
    | nil => exact ⟨rfl, f, rfl⟩
    | cons d more =>
      -- another bracket follows, not an arrow
      refine absurd hpre (not_arrow_isPrefix_of_closers (fun x hx => ?_) arrow harrow)
      obtain rfl : d = x := Option.some.inj hx
      exact hafter d List.mem_cons_self

/-- **A closing bracket in front of an arrow closes the frame of a node,** and the arrow is the one
behind this node. -/
theorem exists_links_eq (h : linksText ls = before ++ c :: rest) (hc : c ∈ closers)
    (harrow : arrow ∈ arrows) (hpre : arrow <+: trimStart rest) :
    ∃ front k l back, ls = front ++ k :: l :: back ∧ rest = linksText (l :: back) ∧
      ∃ f, k.target.framed? = some f := by
  induction ls generalizing before with
  | nil => simp [linksText] at h
  | cons k ls ih =>
    have hsplit : k.text ++ linksText ls = before ++ c :: rest := by
      rw [← h, linksText, linksText, List.flatMap_cons]
    -- a bracket behind the first link is found among the others
    have hlater {before : List Char} (hlater : linksText ls = before ++ c :: rest) :
        ∃ front k' l back, k :: ls = front ++ k' :: l :: back ∧ rest = linksText (l :: back) ∧
          ∃ f, k'.target.framed? = some f := by
      obtain ⟨front, k', l, back, rfl, hrest⟩ := ih hlater
      exact ⟨k :: front, k', l, back, rfl, hrest⟩
    rcases List.append_eq_append_iff.mp hsplit with ⟨more, -, hmore⟩ | ⟨more, htext, hmore⟩
    · exact hlater hmore
    · cases more with
      | nil =>
        have hfirst : linksText ls = [] ++ c :: rest := hmore.symm
        exact hlater hfirst
      | cons m more =>
        obtain ⟨rfl, rfl⟩ := List.cons.inj hmore
        obtain ⟨rfl, hframe⟩ := Link.of_text_eq_append htext hc harrow hpre
        cases ls with
        | nil =>
          have hnil : ∀ a ∈ arrows, ¬ a <+: [] := by decide
          exact absurd hpre (hnil arrow harrow)
        | cons l back => exact ⟨[], k, l, back, rfl, rfl, hframe⟩

end Written

end StepFlow.Diagram
