import StepFlow.Proofs.Diagram.Statement
/-!
# Recognising framed labels

The body of a node is read from the start of a text, and it can be read from its frame alone: a text
is recognised as the body of the first brackets that stand around it (`wholeBody?`). The two
readings agree. Of the bodies that a text can start with, the first one that leaves a given rest is
the one as which all in front of the rest is recognised (`find?_bodies`), and the readers of a line
always take a first one. So whatever body an end of an arrow has, right behind its id the line has a
frame that is recognised as this body (`of_readEdge?_edge`).
-/

namespace StepFlow.Diagram

open Text

variable {cs rest line framed : List Char} {b : Bracket} {body : Body} {e e' : Endpoint}
variable {earlier later : List (Body × List Char)} {label? : Option (List Char)}

/-! ## Frames as a whole -/

/-- The body of a text that stands between the brackets. -/
def Bracket.wholeBody? (b : Bracket) (cs : List Char) : Option Body := do
  let inner ← after? b.opening cs
  if b.closing <:+ inner then some ⟨b.shape, inner.take (inner.length - b.closing.length)⟩
  else none

/-- The body of a text in brackets; the first brackets that stand around it count. -/
def wholeBody? (cs : List Char) : Option Body :=
  brackets.findSome? (·.wholeBody? cs)

theorem Bracket.wholeBody?_eq_some_iff :
    b.wholeBody? cs = some body ↔
      body.shape = b.shape ∧ cs = b.opening ++ (body.label ++ b.closing) := by
  simp only [wholeBody?, Option.bind_eq_bind, Option.bind_eq_some_iff, after?_eq_some_iff,
    Option.ite_none_right_eq_some, Option.some.injEq]
  constructor
  · rintro ⟨_, rfl, ⟨label, rfl⟩, rfl⟩
    simp
  · rintro ⟨hshape, rfl⟩
    refine ⟨_, rfl, List.suffix_append _ _, ?_⟩
    obtain ⟨shape, label⟩ := body
    simpa using hshape.symm

/-- Of the bodies in one kind of brackets that leave a given rest there is one at most. -/
theorem Bracket.find?_bodies (b : Bracket) (cs rest : List Char) :
    (b.bodies (cs ++ rest)).find? (·.2 = rest) = (b.wholeBody? cs).map (·, rest) := by
  cases hfind : (b.bodies (cs ++ rest)).find? (·.2 = rest) with
  | none =>
    have hnone : b.wholeBody? cs = none := by
      refine Option.eq_none_iff_forall_ne_some.mpr fun body hbody => ?_
      obtain ⟨hshape, rfl⟩ := wholeBody?_eq_some_iff.mp hbody
      have hmem : (body, rest) ∈ b.bodies (b.opening ++ (body.label ++ b.closing) ++ rest) :=
        mem_bodies_iff.mpr ⟨hshape, by simp⟩
      exact List.find?_eq_none.mp hfind _ hmem (by simp)
    rw [hnone, Option.map_none]
  | some p =>
    obtain ⟨body, rest'⟩ := p
    obtain rfl : rest' = rest := by simpa using List.find?_some hfind
    obtain ⟨hshape, hcs⟩ := mem_bodies_iff.mp (List.mem_of_find?_eq_some hfind)
    have hwhole : cs = b.opening ++ (body.label ++ b.closing) :=
      List.append_cancel_right (by simpa using hcs)
    rw [wholeBody?_eq_some_iff.mpr ⟨hshape, hwhole⟩, Option.map_some]

/-- **The first body that leaves a given rest** is what all in front of the rest is as a whole. -/
theorem find?_bodies (cs rest : List Char) :
    (bodies (cs ++ rest)).find? (·.2 = rest) = (wholeBody? cs).map (·, rest) := by
  rw [bodies, List.find?_flatMap, wholeBody?, List.map_findSome?]
  exact congrArg brackets.findSome? (funext fun b => b.find?_bodies cs rest)

/-- A body is recognised in its frame if none before it leaves the same rest. -/
theorem exists_wholeBody? (h : bodies cs = earlier ++ (body, rest) :: later)
    (hfirst : ∀ p ∈ earlier, p.2 ≠ rest) :
    ∃ framed, cs = framed ++ rest ∧ wholeBody? framed = some body := by
  have hmem : (body, rest) ∈ bodies cs := h ▸ by simp
  obtain ⟨b, -, -, hcs⟩ := mem_bodies_iff.mp hmem
  refine ⟨b.opening ++ (body.label ++ b.closing), by simp [hcs], ?_⟩
  have hfind : (bodies cs).find? (·.2 = rest) = some (body, rest) := by
    have hnone : earlier.find? (·.2 = rest) = none :=
      List.find?_eq_none.mpr fun p hp => by simpa using hfirst p hp
    rw [h, List.find?_append, hnone, Option.none_or, List.find?_cons_of_pos (by simp)]
  have hsplit : cs = b.opening ++ (body.label ++ b.closing) ++ rest := by simp [hcs]
  rw [hsplit, find?_bodies] at hfind
  obtain ⟨body', hbody', heq⟩ := Option.map_eq_some_iff.mp hfind
  exact hbody'.trans (congrArg some (Prod.mk.inj heq).1)

/-! ## Nodes on a line -/

/-- If the node has a body, it stands on the line behind the id and blanks, in a frame that is
recognised as this body. -/
def Endpoint.StandsOn (e : Endpoint) (line : List Char) : Prop :=
  ∀ body ∈ e.body?, ∃ before gap framed rest, line = before ++ (e.id ++ (gap ++ (framed ++ rest))) ∧
    (∀ c ∈ gap, isBlank c = true) ∧ wholeBody? framed = some body

theorem Endpoint.StandsOn.of_isInfix (h : e.StandsOn cs) (hin : cs <:+: line) :
    e.StandsOn line := by
  intro body hbody
  obtain ⟨front, back, rfl⟩ := hin
  obtain ⟨before, gap, framed, rest, rfl, hgap, hwhole⟩ := h body hbody
  exact ⟨front ++ before, gap, framed, rest ++ back, by simp, hgap, hwhole⟩

/-- **The body of a target** is recognised in its frame. -/
theorem of_readTarget? (h : readTarget? cs = some e) : IsId e.id ∧ e.StandsOn cs := by
  simp only [readTarget?, Option.bind_eq_bind, Option.bind_eq_some_iff, Option.some.injEq,
    Prod.exists] at h
  obtain ⟨id, rest, hid, rfl⟩ := h
  obtain ⟨hword, gap, hgap, rfl⟩ := of_readId? hid
  refine ⟨hword, fun body hbody => ?_⟩
  obtain ⟨⟨body', after⟩, hhead, rfl⟩ := Option.map_eq_some_iff.mp hbody
  obtain ⟨others, hothers⟩ := List.head?_eq_some_iff.mp hhead
  have hfirst : bodies rest = [] ++ (body', after) :: others := hothers
  obtain ⟨framed, rfl, hwhole⟩ := exists_wholeBody? hfirst (by simp)
  exact ⟨[], gap, framed, after, rfl, hgap, hwhole⟩

/-! ## Arrows on a line -/

/-- Reading what stands behind a source: the source makes no difference, and the body of the target
is recognised in its frame. -/
def ReadsBehind (read : Endpoint → Option Statement) (cs : List Char) : Prop :=
  ∃ found? : Option (Option (List Char) × Endpoint),
    (∀ e, read e = found?.map fun x => .edge e x.1 x.2) ∧
      ∀ x ∈ found?, IsId x.2.id ∧ x.2.StandsOn cs

/-- **What is read from one source** is read from every other one. -/
theorem ReadsBehind.of_eq_edge {read : Endpoint → Option Statement} {source : Endpoint}
    (hread : ReadsBehind read cs) (h : read source = some (.edge e label? e')) :
    e = source ∧ (IsId e'.id ∧ e'.StandsOn cs) ∧ ∀ other, read other ≠ none := by
  obtain ⟨found?, hfound?, htarget⟩ := hread
  obtain ⟨x, hx, heq⟩ := Option.map_eq_some_iff.mp ((hfound? source).symm.trans h)
  injection heq with hsource hlabel hend
  subst hsource hlabel hend
  refine ⟨rfl, htarget x hx, fun other hnone => ?_⟩
  have hsome := (hfound? other).symm.trans hnone
  rw [hx] at hsome
  cases hsome

theorem readsBehind_readPlain? (arrow cs : List Char) :
    ReadsBehind (readPlain? arrow · cs) cs := by
  cases hafter : after? arrow cs with
  | none => exact ⟨none, fun e => by simp [readPlain?, hafter], by simp⟩
  | some behind =>
    have hin : trimStart behind <:+: cs :=
      (trimStart_suffix.trans ⟨arrow, (after?_eq_some_iff.mp hafter).symm⟩).isInfix
    refine ⟨(readTarget? (trimStart behind)).map (none, ·), fun e => ?_, fun x hx => ?_⟩
    · cases htarget : readTarget? (trimStart behind) <;> simp [readPlain?, hafter, htarget]
    · obtain ⟨target, htarget, rfl⟩ := Option.map_eq_some_iff.mp hx
      obtain ⟨hid, hstands⟩ := of_readTarget? htarget
      exact ⟨hid, hstands.of_isInfix hin⟩

/-- What is left behind a label between bars is the end of the text. -/
theorem suffix_of_readBarred? {label : List Char} (h : readBarred? cs = some (label, rest)) :
    rest <:+ cs := by
  rw [readBarred?.eq_def] at h
  split at h
  · simp only [Option.map_eq_some_iff, Prod.exists, Prod.mk.injEq] at h
    obtain ⟨before, after, hcut, -, rfl⟩ := h
    obtain ⟨-, rfl⟩ := splitAt?_singleton_iff.mp hcut
    exact trimStart_suffix.trans ⟨'|' :: (before ++ ['|']), by simp⟩
  · cases h

theorem readsBehind_readLabelled? (arrow cs : List Char) :
    ReadsBehind (readLabelled? arrow · cs) cs := by
  cases hafter : after? arrow cs with
  | none => exact ⟨none, fun e => by simp [readLabelled?, hafter], by simp⟩
  | some behind =>
    cases hbar : readBarred? (trimStart behind) with
    | none => exact ⟨none, fun e => by simp [readLabelled?, hafter, hbar], by simp⟩
    | some p =>
      have hin : p.2 <:+: cs := ((suffix_of_readBarred? hbar).trans <|
        trimStart_suffix.trans ⟨arrow, (after?_eq_some_iff.mp hafter).symm⟩).isInfix
      refine ⟨(readTarget? p.2).map (some p.1, ·), fun e => ?_, fun x hx => ?_⟩
      · cases htarget : readTarget? p.2 <;> simp [readLabelled?, hafter, hbar, htarget]
      · obtain ⟨target, htarget, rfl⟩ := Option.map_eq_some_iff.mp hx
        obtain ⟨hid, hstands⟩ := of_readTarget? htarget
        exact ⟨hid, hstands.of_isInfix hin⟩

/-- **The body of a source** is recognised in its frame, since the first source with the arrow
behind it counts. -/
theorem of_findSome?_sources {read : Endpoint → List Char → Option Statement}
    (hread : ∀ cs, ReadsBehind (read · cs) cs)
    (h : (sources line).findSome? (fun p => read p.1 p.2) = some (.edge e label? e')) :
    (IsId e.id ∧ IsId e'.id) ∧ e.StandsOn line ∧ e'.StandsOn line := by
  cases hid : readId? line with
  | none => simp [sources, hid] at h
  | some p =>
    obtain ⟨id, rest⟩ := p
    obtain ⟨hword, gap, hgap, rfl⟩ := of_readId? hid
    have hrest : rest <:+ id ++ (gap ++ rest) :=
      (List.suffix_append gap rest).trans (List.suffix_append id _)
    simp only [sources, hid, List.findSome?_append, List.findSome?_map,
      Option.or_eq_some_iff] at h
    rcases h with h | ⟨-, h⟩
    · obtain ⟨earlier, ⟨body, after⟩, later, hbodies, hfound, hearlier⟩ :=
        List.findSome?_eq_some_iff.mp h
      obtain ⟨rfl, ⟨hid', hstands⟩, hothers⟩ := (hread (trimStart after)).of_eq_edge hfound
      -- a body before it that left the same rest would have been taken
      have hfirst : ∀ p ∈ earlier, p.2 ≠ after := fun p hp hsame =>
        hothers ⟨id, some p.1⟩ (hsame ▸ hearlier p hp)
      obtain ⟨framed, rfl, hwhole⟩ := exists_wholeBody? hbodies hfirst
      have hin : trimStart after <:+: id ++ (gap ++ (framed ++ after)) :=
        (trimStart_suffix.trans ((List.suffix_append framed after).trans hrest)).isInfix
      refine ⟨⟨hword, hid'⟩, fun body' hbody' => ?_, hstands.of_isInfix hin⟩
      obtain rfl := Option.some.inj hbody'
      exact ⟨[], gap, framed, after, rfl, hgap, hwhole⟩
    · have hfound : read ⟨id, none⟩ rest = some (.edge e label? e') := by
        simpa using h
      obtain ⟨rfl, ⟨hid', hstands⟩, -⟩ := (hread rest).of_eq_edge hfound
      have hnone : Endpoint.StandsOn ⟨id, none⟩ (id ++ (gap ++ rest)) := fun body hbody => by
        cases hbody
      exact ⟨⟨hword, hid'⟩, hnone, hstands.of_isInfix hrest.isInfix⟩

/-- **The ends of an arrow** have ids, and their bodies are recognised in their frames. -/
theorem of_readEdge?_edge (h : readEdge? line = some (.edge e label? e')) :
    (IsId e.id ∧ IsId e'.id) ∧ e.StandsOn line ∧ e'.StandsOn line := by
  obtain ⟨arrow, -, h⟩ := List.exists_of_findSome?_eq_some h
  rcases Option.or_eq_some_iff.mp h with h | ⟨-, h⟩
  · exact of_findSome?_sources (readsBehind_readLabelled? arrow) h
  · exact of_findSome?_sources (readsBehind_readPlain? arrow) h

end StepFlow.Diagram
