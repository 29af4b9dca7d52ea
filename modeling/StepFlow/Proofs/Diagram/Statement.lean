import Mathlib.Data.List.Infix
import StepFlow.Diagram.Statement
import StepFlow.Proofs.Text.Blank
import StepFlow.Proofs.Text.Find
import StepFlow.Proofs.Text.Word
/-!
# What lines say

The bodies that a text can start with are its cuts around the brackets (`mem_bodies_iff`). A line
says an arrow only where an arrow stands behind one of these bodies or behind the id
(`readEdge?_eq_none`), and what stands between its bars is a part of the line without bars
(`of_read?_eq_edge`). The two forms of arrow that drawings use are read back
(`readEdge?_plain`, `readEdge?_labelled`).
-/

namespace StepFlow.Diagram

open Text

variable {cs line raw gap word rest source target label : List Char} {b : Bracket} {body : Body}
variable {e e' : Endpoint} {s : Statement}

/-! ## Lines and ids -/

/-- Blanks in front of a line and semicolons behind it make no difference, and a line that neither
starts nor ends with a blank and does not end with a semicolon is bare. -/
theorem bareLine_append_replicate (hgap : ∀ c ∈ gap, isBlank c = true) (htight : Tight line)
    (hlast : ∀ c ∈ line.getLast?, c ≠ ';') (count : Nat) :
    bareLine (gap ++ (line ++ List.replicate count ';')) = line := by
  have hblank : isBlank ';' = false := by decide
  have houter : Tight (line ++ List.replicate count ';') := by
    refine ⟨fun c hc => ?_, fun c hc => ?_⟩
    · rw [List.head?_append] at hc
      rcases Option.or_eq_some_iff.mp hc with hc | ⟨-, hc⟩
      · exact htight.first c hc
      · rwa [List.eq_of_mem_replicate (List.mem_of_mem_head? hc)]
    · rw [List.getLast?_append] at hc
      rcases Option.or_eq_some_iff.mp hc with hc | ⟨-, hc⟩
      · rwa [List.eq_of_mem_replicate (List.mem_of_mem_getLast? hc)]
      · exact htight.last c hc
  have hkeep : dropEndWhile (· == ';') line = line :=
    dropEndWhile_eq_self fun c hc => beq_eq_false_iff_ne.mpr (hlast c hc)
  have hdrop : ∀ c ∈ List.replicate count ';', (c == ';') = true := fun c hc =>
    beq_iff_eq.mpr (List.eq_of_mem_replicate hc)
  rw [bareLine, trim_append hgap, houter.trim_eq, dropEndWhile_append hdrop, hkeep, htight.trim_eq]

theorem bareLine_append (hgap : ∀ c ∈ gap, isBlank c = true) (htight : Tight line)
    (hlast : ∀ c ∈ line.getLast?, c ≠ ';') : bareLine (gap ++ line) = line := by
  simpa using bareLine_append_replicate hgap htight hlast 0

/-- Blanks at the end of a line make no difference. -/
theorem bareLine_append_blanks (hgap : ∀ c ∈ gap, isBlank c = true) (raw : List Char) :
    bareLine (raw ++ gap) = bareLine raw := by
  rw [bareLine, trim_append_blanks hgap, bareLine]

theorem bareLine_isInfix : bareLine raw <:+: raw :=
  trim_isInfix.trans (dropEndWhile_isPrefix.isInfix.trans trim_isInfix)

/-- An id is read as far as it goes. -/
theorem readId?_append (hne : word ≠ []) (hword : ∀ c ∈ word, isWord c = true)
    (hrest : ∀ c ∈ rest.head?, isWord c = false) :
    readId? (word ++ rest) = some (word, trimStart rest) := by
  rw [readId?, spanWord_append hword hrest]
  exact if_neg (by simpa using hne)

/-- The id of a node: a word that is not empty. -/
structure IsId (cs : List Char) : Prop where
  ne_nil : cs ≠ []
  isWord : ∀ c ∈ cs, isWord c = true

/-- Behind an id that is read there are blanks, and then what is left. -/
theorem of_readId? (h : readId? cs = some (word, rest)) :
    IsId word ∧ ∃ gap, (∀ c ∈ gap, isBlank c = true) ∧ cs = word ++ (gap ++ rest) := by
  simp only [readId?, spanWord, List.span_eq_takeWhile_dropWhile] at h
  split at h
  · cases h
  · rename_i hne
    obtain ⟨rfl, rfl⟩ := Prod.mk.inj (Option.some.inj h)
    refine ⟨⟨by simpa using hne, fun c hc => List.mem_takeWhile_imp hc⟩,
      (cs.dropWhile Text.isWord).takeWhile isBlank, fun c hc => List.mem_takeWhile_imp hc, ?_⟩
    rw [trimStart, List.takeWhile_append_dropWhile, List.takeWhile_append_dropWhile]

theorem suffix_of_readId? (h : readId? cs = some (word, rest)) : rest <:+ cs := by
  obtain ⟨-, gap, -, rfl⟩ := of_readId? h
  exact (List.suffix_append gap rest).trans (List.suffix_append word _)

/-! ## Bodies -/

theorem Bracket.mem_bodies_iff :
    (body, rest) ∈ b.bodies cs ↔
      body.shape = b.shape ∧ cs = b.opening ++ (body.label ++ b.closing ++ rest) := by
  rw [Bracket.bodies]
  cases hafter : after? b.opening cs with
  | none =>
    simp only [List.not_mem_nil, false_iff, not_and]
    rintro - rfl
    exact after?_eq_none_iff.mp hafter (List.prefix_append _ _)
  | some inner =>
    obtain rfl := after?_eq_some_iff.mp hafter
    simp only [List.mem_map, Prod.exists, Prod.mk.injEq, mem_splits, List.append_cancel_left_eq]
    constructor
    · rintro ⟨before, after, rfl, rfl, rfl⟩
      exact ⟨rfl, rfl⟩
    · rintro ⟨hshape, rfl⟩
      exact ⟨body.label, rest, rfl, by rw [← hshape], rfl⟩

/-- **The bodies that a text can start with.** -/
theorem mem_bodies_iff :
    (body, rest) ∈ bodies cs ↔
      ∃ b ∈ brackets, body.shape = b.shape ∧
        cs = b.opening ++ (body.label ++ b.closing ++ rest) := by
  simp only [bodies, List.mem_flatMap, Bracket.mem_bodies_iff]

/-- Where no bracket opens there is no body. -/
theorem bodies_eq_nil (h : ∀ b ∈ brackets, ¬ b.opening <+: cs) : bodies cs = [] := by
  refine List.eq_nil_iff_forall_not_mem.mpr fun (body, rest) hmem => ?_
  obtain ⟨b, hb, -, rfl⟩ := mem_bodies_iff.mp hmem
  exact h b hb (List.prefix_append _ _)

/-! ## Sources -/

/-- What stands behind a source is an end of the line. -/
theorem suffix_of_mem_sources (h : (e, rest) ∈ sources line) : rest <:+ line := by
  rw [sources] at h
  cases hid : readId? line with
  | none => simp [hid] at h
  | some p =>
    obtain ⟨id, after⟩ := p
    have hafter := suffix_of_readId? hid
    simp only [hid, List.mem_append, List.mem_map, Prod.exists, Prod.mk.injEq,
      List.mem_singleton] at h
    rcases h with ⟨body, after', hbody, -, rfl⟩ | ⟨-, rfl⟩
    · obtain ⟨b, -, -, rfl⟩ := mem_bodies_iff.mp hbody
      refine trimStart_suffix.trans (List.IsSuffix.trans ?_ hafter)
      exact (List.suffix_append _ _).trans (List.suffix_append _ _)
    · exact hafter

/-- An id without a body is the only source. -/
theorem sources_append (hne : word ≠ []) (hword : ∀ c ∈ word, isWord c = true)
    (hrest : ∀ c ∈ rest.head?, isWord c = false) (hbody : bodies (trimStart rest) = []) :
    sources (word ++ rest) = [(⟨word, none⟩, trimStart rest)] := by
  simp [sources, readId?_append hne hword hrest, hbody]

/-! ## Arrows -/

/-- **No arrow behind a source, no arrow.** -/
theorem readEdge?_eq_none
    (h : ∀ p ∈ sources line, ∀ arrow ∈ arrows, ¬ arrow <+: p.2) : readEdge? line = none := by
  rw [readEdge?, List.findSome?_eq_none_iff]
  intro arrow harrow
  rw [Option.or_eq_none_iff, List.findSome?_eq_none_iff, List.findSome?_eq_none_iff]
  constructor
  · rintro p hp
    simp [readLabelled?, after?_eq_none_iff.mpr (h p hp arrow harrow)]
  · rintro p hp
    simp [readPlain?, after?_eq_none_iff.mpr (h p hp arrow harrow)]

/-! ## Arrows between plain ids -/

/-- Plain text starts with no blank, so it is read right behind one. -/
theorem trimStart_cons_plain (htarget : ∀ c ∈ target, IsPlain c) :
    trimStart (' ' :: target) = target := by
  have hgap : ∀ c ∈ [' '], isBlank c = true := List.all_eq_true.mp rfl
  have hdrop : trimStart ([' '] ++ target) = trimStart target := trimStart_append hgap
  have hstart : ∀ c ∈ target.head?, isBlank c = false := fun c hc =>
    (htarget c (List.mem_of_mem_head? hc)).isBlank
  rw [← List.singleton_append, hdrop, trimStart_eq_self hstart]

/-- The target of an id at the end of a line. -/
theorem readTarget?_eq (hne : target ≠ []) (htarget : ∀ c ∈ target, IsPlain c) :
    readTarget? target = some ⟨target, none⟩ := by
  have hend : ∀ c ∈ ([] : List Char).head?, isWord c = false := by simp
  have hid := readId?_append hne (fun c hc => (htarget c hc).isWord) hend
  have hbody : bodies (trimStart []) = [] := bodies_eq_nil (by decide)
  rw [List.append_nil] at hid
  simp [readTarget?, hid, hbody]

/-- The source of an arrow is the id in front of it. -/
theorem sources_arrow (hne : source ≠ []) (hsource : ∀ c ∈ source, IsPlain c) (rest : List Char) :
    sources (source ++ (" -->".toList ++ rest)) = [(⟨source, none⟩, "-->".toList ++ rest)] := by
  have hbody : bodies ("-->".toList ++ rest) = [] := bodies_eq_nil (by simp [brackets])
  have hspace : ∀ c ∈ (" -->".toList ++ rest).head?, isWord c = false := by
    intro c hc
    rw [← Option.some.inj hc]
    decide
  exact sources_append hne (fun c hc => (hsource c hc).isWord) hspace hbody

/-- **An arrow without a label is read back.** -/
theorem readEdge?_plain (hs : source ≠ []) (hsource : ∀ c ∈ source, IsPlain c)
    (ht : target ≠ []) (htarget : ∀ c ∈ target, IsPlain c) :
    readEdge? (source ++ (" -->".toList ++ ' ' :: target)) =
      some (.edge ⟨source, none⟩ none ⟨target, none⟩) := by
  have hbar : readBarred? target = none := by
    rw [readBarred?]
    rintro cs rfl
    exact absurd (htarget '|' List.mem_cons_self) (by decide)
  rw [readEdge?, sources_arrow hs hsource]
  simp [arrows, readLabelled?, readPlain?, after?, trimStart_cons_plain htarget, hbar,
    readTarget?_eq ht htarget]

/-- **And so is one with a label** without bars. -/
theorem readEdge?_labelled (hs : source ≠ []) (hsource : ∀ c ∈ source, IsPlain c)
    (hlabel : '|' ∉ label) (ht : target ≠ []) (htarget : ∀ c ∈ target, IsPlain c) :
    readEdge? (source ++ (" -->".toList ++ '|' :: (label ++ '|' :: ' ' :: target))) =
      some (.edge ⟨source, none⟩ (some label) ⟨target, none⟩) := by
  have hcut : splitAt? ['|'] (label ++ '|' :: ' ' :: target) = some (label, ' ' :: target) :=
    splitAt?_singleton_iff.mpr ⟨hlabel, rfl⟩
  have hbar : trimStart ('|' :: (label ++ '|' :: ' ' :: target)) =
      '|' :: (label ++ '|' :: ' ' :: target) := rfl
  rw [readEdge?, sources_arrow hs hsource]
  simp [arrows, readLabelled?, after?, hbar, readBarred?, hcut, trimStart_cons_plain htarget,
    readTarget?_eq ht htarget]

/-! ## Labels of arrows -/

/-- A label stands between two bars. -/
theorem of_readLabelled? {arrow : List Char} (h : readLabelled? arrow e cs = some s) :
    ∃ label e', s = .edge e (some label) e' ∧ '|' ∉ label ∧ label <:+: cs := by
  simp only [readLabelled?, Option.bind_eq_bind, Option.bind_eq_some_iff, Option.some.injEq,
    Prod.exists] at h
  obtain ⟨behind, hafter, label, rest, hbar, target, -, rfl⟩ := h
  refine ⟨label, target, rfl, ?_⟩
  cases hbehind : trimStart behind with
  | nil => simp [hbehind, readBarred?] at hbar
  | cons c inner =>
    by_cases hc : c = '|'
    · subst hc
      simp only [hbehind, readBarred?, Option.map_eq_some_iff, Prod.exists, Prod.mk.injEq] at hbar
      obtain ⟨label', rest', hcut, rfl, -⟩ := hbar
      obtain ⟨hlabel, rfl⟩ := splitAt?_singleton_iff.mp hcut
      have hinner : label' <:+: trimStart behind := hbehind ▸ ⟨['|'], '|' :: rest', by simp⟩
      have hsuffix : behind <:+ cs := ⟨arrow, (after?_eq_some_iff.mp hafter).symm⟩
      exact ⟨hlabel, hinner.trans (trimStart_suffix.trans hsuffix).isInfix⟩
    · simp [hbehind, readBarred?, hc] at hbar

theorem of_readPlain? {arrow : List Char} (h : readPlain? arrow e cs = some s) :
    ∃ e', s = .edge e none e' := by
  simp only [readPlain?, Option.bind_eq_bind, Option.bind_eq_some_iff, Option.some.injEq] at h
  obtain ⟨behind, -, target, -, rfl⟩ := h
  exact ⟨target, rfl⟩

/-- The label of an arrow is a part of its line and has no bar. -/
theorem of_readEdge? (h : readEdge? line = some s) :
    ∃ e label? e', s = .edge e label? e' ∧ ∀ label ∈ label?, '|' ∉ label ∧ label <:+: line := by
  -- one arrow, and one source for it, with a label or without
  obtain ⟨arrow, -, h⟩ := List.exists_of_findSome?_eq_some h
  rcases Option.or_eq_some_iff.mp h with h | ⟨-, h⟩
  · obtain ⟨⟨source, rest⟩, hp, h⟩ := List.exists_of_findSome?_eq_some h
    obtain ⟨label, e', rfl, hbar, hlabel⟩ := of_readLabelled? h
    refine ⟨source, some label, e', rfl, fun l hl => ?_⟩
    rw [← Option.some.inj hl]
    exact ⟨hbar, hlabel.trans (suffix_of_mem_sources hp).isInfix⟩
  · obtain ⟨⟨source, rest⟩, hp, h⟩ := List.exists_of_findSome?_eq_some h
    obtain ⟨e', rfl⟩ := of_readPlain? h
    exact ⟨source, none, e', rfl, fun l hl => by cases hl⟩

/-! ## Whole lines -/

/-- An empty line says nothing. -/
theorem read?_nil : Statement.read? [] = none := by decide

/-- Where no section begins or ends, a line says an arrow if it can and else a node. -/
theorem read?_eq_or_of_readOpening? (hcomment : ¬ ['%', '%'] <+: bareLine raw)
    (hopening : readOpening? (bareLine raw) = none) (hend : bareLine raw ≠ "end".toList) :
    Statement.read? raw = (readEdge? (bareLine raw)).or (readNode? (bareLine raw)) := by
  have hstart : ¬ startsWith ['%', '%'] (bareLine raw) = true := fun h =>
    hcomment (List.isPrefixOf_iff_prefix.mp h)
  simp only [Statement.read?, if_neg hstart, hopening, if_neg hend, Option.none_or]

theorem read?_eq_or (hcomment : ¬ ['%', '%'] <+: bareLine raw)
    (hopening : ¬ "subgraph".toList <+: bareLine raw) (hend : bareLine raw ≠ "end".toList) :
    Statement.read? raw = (readEdge? (bareLine raw)).or (readNode? (bareLine raw)) := by
  refine read?_eq_or_of_readOpening? hcomment ?_ hend
  simp only [readOpening?, after?_eq_none_iff.mpr hopening]
  rfl

theorem of_readOpening? (h : readOpening? line = some s) :
    ∃ id label?, s = .opening id label? ∧ IsId id := by
  simp only [readOpening?, Option.bind_eq_bind, Option.bind_eq_some_iff, spanWord,
    List.span_eq_takeWhile_dropWhile] at h
  obtain ⟨rest, -, first, -, h⟩ := h
  split at h
  · split at h
    · cases h
    · rename_i hne
      obtain rfl := Option.some.inj h
      exact ⟨_, _, rfl, by simpa using hne, fun c hc => List.mem_takeWhile_imp hc⟩
  · cases h

theorem of_readNode? (h : readNode? line = some s) :
    ∃ id body rest after, s = .node id body ∧ readId? line = some (id, rest) ∧
      (bodies rest).head? = some (body, after) := by
  simp only [readNode?, Option.bind_eq_bind, Option.bind_eq_some_iff, Option.some.injEq] at h
  obtain ⟨⟨id, rest⟩, hid, ⟨body, after⟩, hbody, rfl⟩ := h
  exact ⟨id, body, rest, after, rfl, hid, hbody⟩

/-- **What a line says** is the opening or the end of a section, an arrow or a node. -/
theorem of_read? (h : Statement.read? raw = some s) :
    readOpening? (bareLine raw) = some s ∨ s = .closing ∨ readEdge? (bareLine raw) = some s ∨
      readNode? (bareLine raw) = some s := by
  simp only [Statement.read?] at h
  split at h
  · cases h
  · rcases Option.or_eq_some_iff.mp h with h | ⟨-, h⟩
    · exact .inl h
    · rcases Option.or_eq_some_iff.mp h with h | ⟨-, h⟩
      · split at h
        · exact .inr (.inl (Option.some.inj h).symm)
        · cases h
      · exact .inr (.inr ((Option.or_eq_some_iff.mp h).imp_right And.right))

theorem readEdge?_of_read? {label? : Option (List Char)}
    (h : Statement.read? raw = some (.edge e label? e')) :
    readEdge? (bareLine raw) = some (.edge e label? e') := by
  rcases of_read? h with h | h | h | h
  · obtain ⟨id, label?, hs, -⟩ := of_readOpening? h
    cases hs
  · cases h
  · exact h
  · obtain ⟨id, body, rest, after, hs, -⟩ := of_readNode? h
    cases hs

/-- **The label of an arrow** is a part of its line and has no bar. -/
theorem of_read?_eq_edge (h : Statement.read? raw = some (.edge e (some label) e')) :
    '|' ∉ label ∧ label <:+: raw := by
  obtain ⟨_, _, _, hs, hlabel⟩ := of_readEdge? (readEdge?_of_read? h)
  cases hs
  obtain ⟨hbar, hinfix⟩ := hlabel label rfl
  exact ⟨hbar, hinfix.trans bareLine_isInfix⟩

end StepFlow.Diagram
