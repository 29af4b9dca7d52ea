import Mathlib.Data.Bool.AllAny
import StepFlow.Proofs.Diagram.Written
/-!
# Reading framed labels

A framed label is read first as what is written (`exists_bodies_eq_cons`): no bracket tried before
its own opens, and its first closing bracket is the written one. Other readings take a bracket that
stands further behind, or one of two that close together, for the end of the label. None of them
matters for an arrow: a closing bracket is followed by the rest of the line, by another closing
bracket or by nothing, so an arrow stands behind the written end only (`eq_of_arrow_isPrefix`).
-/

namespace StepFlow.Diagram

open Text Written

variable {cs front back before after rest tail arrow : List Char} {c : Char} {f : Framed}
variable {body : Body}

/-! ## Closing brackets -/

/-- The characters of closing brackets. -/
def closers : List Char := [')', ']', '}']

/-- Closing brackets stand at the end only. -/
def EndsInClosers (cs : List Char) : Prop :=
  ∃ front back, cs = front ++ back ∧ (∀ c ∈ front, c ∉ closers) ∧ ∀ c ∈ back, c ∈ closers

/-- Behind a closing bracket there are others at most. -/
theorem EndsInClosers.of_mem_after (h : EndsInClosers (before ++ c :: after)) (hc : c ∈ closers) :
    ∀ d ∈ after, d ∈ closers := by
  obtain ⟨front, back, heq, hfront, hback⟩ := h
  rcases List.append_eq_append_iff.mp heq with ⟨more, rfl, hmore⟩ | ⟨more, rfl, rfl⟩
  · cases more with
    | nil =>
      rw [List.nil_append] at hmore
      exact fun d hd => hback d (hmore ▸ List.mem_cons_of_mem c hd)
    | cons m more =>
      obtain ⟨rfl, -⟩ := List.cons.inj hmore
      exact absurd hc (hfront c (by simp))
  · exact fun d hd => hback d (by simp [hd])

theorem EndsInClosers.append (hfront : ∀ c ∈ front, c ∉ closers) (h : EndsInClosers back) :
    EndsInClosers (front ++ back) := by
  obtain ⟨front', back', rfl, hfront', hback'⟩ := h
  refine ⟨front ++ front', back', by simp, fun c hc => ?_, hback'⟩
  exact (List.mem_append.mp hc).elim (hfront c) (hfront' c)

/-- No arrow stands where none of their first characters does. -/
theorem not_arrow_isPrefix_of_head? (h : ∀ c ∈ cs.head?, ∀ a ∈ arrows, a.head? ≠ some c) :
    ∀ a ∈ arrows, ¬ a <+: cs := by
  have hne : ∀ a ∈ arrows, a ≠ [] := by decide
  intro a ha hpre
  cases a with
  | nil => exact hne [] ha rfl
  | cons x a =>
    cases cs with
    | nil => simp at hpre
    | cons c cs =>
      obtain ⟨rfl, -⟩ := List.cons_prefix_cons.mp hpre
      exact h x rfl _ ha rfl

/-- No arrow stands where a closing bracket does, or nothing. -/
theorem not_arrow_isPrefix_of_closers (h : ∀ d ∈ cs.head?, d ∈ closers) :
    ∀ a ∈ arrows, ¬ a <+: trimStart cs := by
  have hclosers : ∀ d ∈ closers, isBlank d = false ∧ ∀ a ∈ arrows, a.head? ≠ some d :=
    List.all_iff_forall_prop.mp rfl
  rw [trimStart_eq_self fun d hd => (hclosers d (h d hd)).1]
  exact not_arrow_isPrefix_of_head? fun d hd => (hclosers d (h d hd)).2

theorem EndsInClosers.not_arrow_isPrefix (h : EndsInClosers (before ++ c :: after))
    (hc : c ∈ closers) : ∀ a ∈ arrows, ¬ a <+: trimStart after :=
  not_arrow_isPrefix_of_closers fun d hd => h.of_mem_after hc d (List.mem_of_mem_head? hd)

theorem notMem_closers_of_isBlank (h : ∀ c ∈ cs, isBlank c = true) : ∀ c ∈ cs, c ∉ closers := by
  have hblank : ∀ c ∈ closers, isBlank c = false := List.all_iff_forall_prop.mp rfl
  intro c hc hclose
  have hc' := h c hc
  rw [hblank c hclose] at hc'
  cases hc'

/-! ## Frames -/

namespace Written

theorem Word.notMem_closers (w : Word) : ∀ c ∈ w.text, c ∉ closers := by
  have hword : ∀ c ∈ closers, Text.isWord c = false := List.all_iff_forall_prop.mp rfl
  intro c hc hclose
  have hc' := w.isWord c hc
  rw [hword c hclose] at hc'
  cases hc'

theorem Arrow.notMem_closers (a : Arrow) : ∀ c ∈ a.text, c ∉ closers := by
  cases a <;> exact List.all_iff_forall_prop.mp rfl

/-- A label between bars. -/
theorem Caption.notMem_closers_barred (l : Caption ('|' :: bracketChars)) :
    ∀ c ∈ '|' :: (l.text ++ ['|']), c ∉ closers := by
  have hall : ∀ c ∈ closers, c ∈ '|' :: bracketChars := List.all_iff_forall_prop.mp rfl
  have hbar : '|' ∉ closers := by decide
  simp only [List.forall_mem_cons, List.forall_mem_append]
  exact ⟨hbar, fun c hc hclose => l.free c hc (hall c hclose), hbar, by simp⟩

theorem Caption.notMem_closers (l : Caption bracketChars) : ∀ c ∈ l.text, c ∉ closers := by
  have hall : ∀ c ∈ closers, c ∈ bracketChars := List.all_iff_forall_prop.mp rfl
  exact fun c hc hclose => l.free c hc (hall c hclose)

theorem Frame.notMem_closers (f : Frame) : ∀ c ∈ f.opening, c ∉ closers := by
  cases f <;> exact List.all_iff_forall_prop.mp rfl

theorem Frame.mem_closers (f : Frame) : ∀ c ∈ f.closing, c ∈ closers := by
  cases f <;> exact List.all_iff_forall_prop.mp rfl

theorem Framed.endsInClosers (f : Framed) : EndsInClosers f.text := by
  refine ⟨f.frame.opening ++ f.label.text, f.frame.closing, by simp [text], fun c hc => ?_,
    f.frame.mem_closers⟩
  exact (List.mem_append.mp hc).elim (f.frame.notMem_closers c) (f.label.notMem_closers c)

/-- What the label and the brackets behind it start with. -/
theorem Framed.head?_inner (f : Framed) (rest : List Char) :
    ∀ c ∈ (f.label.text ++ (f.frame.closing ++ rest)).head?, c ≠ '(' ∧ c ≠ '[' := by
  have hbracket : '(' ∈ bracketChars ∧ '[' ∈ bracketChars := by decide
  intro c hc
  cases hlabel : f.label.text with
  | nil =>
    have hclosing : ∀ c ∈ (f.frame.closing ++ rest).head?, c ≠ '(' ∧ c ≠ '[' := by
      cases f.frame <;> simp [Frame.closing]
    exact hclosing c (by simpa [hlabel] using hc)
  | cons d label =>
    have hd : d ∈ f.label.text := hlabel ▸ List.mem_cons_self
    have hfree := f.label.free d hd
    simp only [hlabel, List.cons_append, List.head?_cons, Option.mem_some_iff] at hc
    subst hc
    exact ⟨fun h => hfree (h ▸ hbracket.1), fun h => hfree (h ▸ hbracket.2)⟩

/-- The frame among the brackets: those tried before it do not open the label. -/
theorem Framed.exists_brackets_eq (f : Framed) (rest : List Char) :
    ∃ earlier later, brackets =
      earlier ++ ⟨f.frame.opening, f.frame.closing, f.frame.shape⟩ :: later ∧
      ∀ b ∈ earlier, ¬ b.opening <+: f.text ++ rest := by
  have hinner (c : Char) (hc : c = '(' ∨ c = '[') :
      ¬ [c] <+: f.label.text ++ (f.frame.closing ++ rest) := by
    rintro ⟨more, hmore⟩
    have hhead := f.head?_inner rest c (by rw [← hmore]; rfl)
    exact hc.elim hhead.1 hhead.2
  obtain ⟨frame, label⟩ := f
  cases frame with
  | circle => exact ⟨[], brackets.drop 1, rfl, by simp⟩
  | doubledBox =>
    exact ⟨brackets.take 1, brackets.drop 2, rfl, by simp [brackets, text, Frame.opening]⟩
  | rhombus =>
    exact ⟨brackets.take 2, brackets.drop 3, rfl, by simp [brackets, text, Frame.opening]⟩
  | cylinder =>
    exact ⟨brackets.take 3, brackets.drop 4, rfl, by simp [brackets, text, Frame.opening]⟩
  | box =>
    -- the doubled box and the cylinder open with the same bracket, but a second one behind it
    have hround := hinner '(' (.inl rfl)
    have hsquare := hinner '[' (.inr rfl)
    simp only [Frame.closing, List.singleton_append] at hround hsquare
    exact ⟨brackets.take 4, brackets.drop 5, rfl,
      by simp [brackets, text, Frame.opening, Frame.closing, hround, hsquare]⟩
  | flag =>
    exact ⟨brackets.take 5, brackets.drop 6, rfl, by simp [brackets, text, Frame.opening]⟩

end Written

/-- **The first reading of a framed label is what is written.** -/
theorem exists_bodies_eq_cons (f : Framed) (rest : List Char) :
    ∃ others, bodies (f.text ++ rest) = (f.body, rest) :: others := by
  obtain ⟨earlier, later, hbrackets, hearlier⟩ := f.exists_brackets_eq rest
  have hnone : earlier.flatMap (·.bodies (f.text ++ rest)) = [] := by
    refine List.flatMap_eq_nil_iff.mpr fun b hb => ?_
    rw [Bracket.bodies, after?_eq_none_iff.mpr (hearlier b hb)]
  have hafter : after? f.frame.opening (f.text ++ rest) =
      some (f.label.text ++ (f.frame.closing ++ rest)) := by
    rw [after?_eq_some_iff]
    simp [Framed.text]
  have hcut : ∃ others, splits f.frame.closing (f.label.text ++ (f.frame.closing ++ rest)) =
      (f.label.text, rest) :: others := by
    cases hclosing : f.frame.closing with
    | nil => cases hframe : f.frame <;> simp [hframe, Frame.closing] at hclosing
    | cons m mark =>
      refine exists_splits_eq_cons fun hm => f.label.notMem_closers m hm ?_
      exact f.frame.mem_closers m (hclosing ▸ List.mem_cons_self)
  obtain ⟨others, hothers⟩ := hcut
  rw [bodies, hbrackets, List.flatMap_append, hnone, List.nil_append, List.flatMap_cons,
    Bracket.bodies, hafter]
  simp only [hothers, List.map_cons, List.cons_append]
  exact ⟨_, rfl⟩

/-- **An arrow that stands behind a reading of a framed label** stands behind the written end of the
label, or behind a closing bracket further on. -/
theorem eq_or_exists_closer (hbody : (body, rest) ∈ bodies (f.text ++ tail))
    (harrow : arrow ∈ arrows) (hpre : arrow <+: trimStart rest) :
    rest = tail ∨ ∃ before, ∃ c ∈ closers, tail = before ++ c :: rest := by
  obtain ⟨b, hb, -, heq⟩ := mem_bodies_iff.mp hbody
  have hclosing : ∀ b ∈ brackets, b.closing ≠ [] ∧ b.closing.all (· ∈ closers) = true := by decide
  obtain ⟨hne, hclosers⟩ := hclosing b hb
  obtain ⟨front, c, hlast⟩ := (List.eq_nil_or_concat' _).resolve_left hne
  have hc : c ∈ closers := by
    simpa using List.all_eq_true.mp hclosers c (by simp [hlast])
  -- where the last character of the closing bracket stands
  have hcut : f.text ++ tail = (b.opening ++ (body.label ++ front)) ++ c :: rest := by
    rw [heq, hlast]
    simp
  rcases List.append_eq_append_iff.mp hcut with ⟨more, -, htail⟩ | ⟨more, htext, hrest⟩
  · exact .inr ⟨more, c, hc, htail⟩
  · cases more with
    | nil => exact .inr ⟨[], c, hc, hrest.symm⟩
    | cons m more =>
      rw [List.cons_append, List.cons.injEq] at hrest
      obtain ⟨rfl, rfl⟩ := hrest
      cases more with
      | nil => exact .inl rfl
      | cons m more =>
        -- the first of two that close together: the second one follows
        have hafter := (htext ▸ f.endsInClosers).of_mem_after hc
        refine absurd hpre (not_arrow_isPrefix_of_closers (fun d hd => ?_) arrow harrow)
        rw [List.cons_append, List.head?_cons, Option.mem_some_iff] at hd
        exact hd ▸ hafter m List.mem_cons_self

/-- **An arrow stands behind the written end only**, if closing brackets end the line. -/
theorem eq_of_arrow_isPrefix (hbody : (body, rest) ∈ bodies (f.text ++ tail))
    (harrow : arrow ∈ arrows) (hpre : arrow <+: trimStart rest) (htail : EndsInClosers tail) :
    rest = tail := by
  rcases eq_or_exists_closer hbody harrow hpre with h | ⟨before, c, hc, rfl⟩
  · exact h
  · exact absurd hpre (htail.not_arrow_isPrefix hc arrow harrow)

end StepFlow.Diagram
