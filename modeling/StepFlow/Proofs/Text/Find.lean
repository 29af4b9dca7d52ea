import Mathlib.Data.List.Infix
import StepFlow.Text.Find
/-!
# Occurrences

What the functions that look for one text in another find, said with prefixes and infixes of lists:
`occursIn` decides whether a text is an infix, and `splits` lists the ways of cutting a text around
a mark. A mark that occurs only at the very end of a text leaves one way (`splits_of_last`), which
is how a closing bracket is found.
-/

namespace StepFlow.Text

variable {mark cs before rest : List Char}

/-- **A text occurs in another exactly if it is an infix.** -/
theorem occursIn_iff : occursIn mark cs = true ↔ mark <:+: cs := by
  induction cs with
  | nil => simp [occursIn, List.isEmpty_iff]
  | cons c cs ih =>
    rw [occursIn, Bool.or_eq_true, ih, startsWith, List.isPrefixOf_iff_prefix,
      List.infix_cons_iff]

/-- What follows a start is what is left of the text. -/
theorem after?_eq_some_iff : after? mark cs = some rest ↔ cs = mark ++ rest := by
  induction mark generalizing cs with
  | nil => simp [after?, eq_comm]
  | cons s mark ih =>
    cases cs with
    | nil => simp [after?]
    | cons c cs =>
      rw [after?]
      by_cases hs : s = c
      · rw [if_pos hs, ih, hs]
        simp
      · rw [if_neg hs]
        simp [Ne.symm hs]

theorem after?_append : after? mark (mark ++ rest) = some rest :=
  after?_eq_some_iff.mpr rfl

theorem after?_eq_none_iff : after? mark cs = none ↔ ¬ mark <+: cs := by
  rw [Option.eq_none_iff_forall_not_mem]
  constructor
  · rintro h ⟨rest, rfl⟩
    exact h rest after?_append
  · intro h rest hrest
    exact h ⟨rest, (after?_eq_some_iff.mp hrest).symm⟩

/-- **The cuts around a mark.** -/
theorem mem_splits : (before, rest) ∈ splits mark cs ↔ cs = before ++ mark ++ rest := by
  induction cs generalizing before with
  | nil => simp [splits, after?_eq_some_iff]; tauto
  | cons c cs ih =>
    simp only [splits, List.mem_append, Option.mem_toList, Option.map_eq_some_iff,
      after?_eq_some_iff, List.mem_map, Prod.mk.injEq, Prod.exists]
    cases before with
    | nil => simp
    | cons b before =>
      simp only [reduceCtorEq, false_and, and_false, exists_false, List.cons.injEq, false_or,
        List.cons_append]
      constructor
      · rintro ⟨before', rest', hmem, ⟨rfl, rfl⟩, rfl⟩
        exact ⟨rfl, ih.mp hmem⟩
      · rintro ⟨rfl, hcs⟩
        exact ⟨before, rest, ih.mpr hcs, ⟨rfl, rfl⟩, rfl⟩

/-- Without the mark there is no cut. -/
theorem splits_eq_nil (h : ¬ mark <:+: cs) : splits mark cs = [] := by
  refine List.eq_nil_iff_forall_not_mem.mpr fun (before, rest) hmem => h ?_
  exact ⟨before, rest, (mem_splits.mp hmem).symm⟩

/-- **A mark that occurs at the end only leaves one cut.** -/
theorem splits_of_last (h : ¬ mark <:+: (before ++ mark).dropLast) (hmark : mark ≠ []) :
    splits mark (before ++ mark) = [(before, [])] := by
  induction before with
  | nil =>
    cases mark with
    | nil => exact absurd rfl hmark
    | cons m mark =>
      have hshort : splits (m :: mark) mark = [] := by
        refine splits_eq_nil fun hin => ?_
        have := hin.length_le
        rw [List.length_cons] at this
        omega
      simp [splits, hshort, after?_eq_some_iff]
  | cons b before ih =>
    have hne : before ++ mark ≠ [] := by simp [hmark]
    rw [List.cons_append, List.dropLast_cons_of_ne_nil hne, List.infix_cons_iff, not_or] at h
    have hnone : after? mark (b :: (before ++ mark)) = none := by
      rw [after?_eq_none_iff]
      intro hpre
      refine h.1 (List.prefix_of_prefix_length_le hpre
        (List.cons_prefix_cons.mpr ⟨rfl, List.dropLast_prefix _⟩) ?_)
      simp only [List.length_cons, List.length_dropLast, List.length_append]
      omega
    rw [List.cons_append, splits, hnone, ih h.2]
    rfl

/-- The first cut is around the first mark if no character before it starts a mark. -/
theorem exists_splits_eq_cons {m : Char} (h : m ∉ before) :
    ∃ others, splits (m :: mark) (before ++ (m :: mark ++ rest)) = (before, rest) :: others := by
  induction before with
  | nil =>
    have hafter : after? (m :: mark) (m :: (mark ++ rest)) = some rest := after?_append
    rw [List.nil_append, List.cons_append, splits, hafter]
    exact ⟨_, rfl⟩
  | cons b before ih =>
    obtain ⟨hb, hbefore⟩ := not_or.mp (mt List.mem_cons.mpr h)
    obtain ⟨others, hothers⟩ := ih hbefore
    rw [List.cons_append, splits, after?, if_neg hb, hothers]
    exact ⟨_, rfl⟩

/-- **The cut at the first of several marks** leaves none in front. -/
theorem splitAt?_singleton_iff {q : Char} :
    splitAt? [q] cs = some (before, rest) ↔ q ∉ before ∧ cs = before ++ q :: rest := by
  induction cs generalizing before with
  | nil => simp [splitAt?, after?]
  | cons c cs ih =>
    rw [splitAt?]
    by_cases hq : q = c
    · subst hq
      cases before with
      | nil => simp [after?]
      | cons b before => simp [after?]; tauto
    · simp only [after?, hq, if_false, Option.map_eq_some_iff, Prod.exists, Prod.mk.injEq]
      constructor
      · rintro ⟨before', rest', hcut, rfl, rfl⟩
        obtain ⟨hbefore, rfl⟩ := ih.mp hcut
        exact ⟨by simp [hq, hbefore], rfl⟩
      · rintro ⟨hbefore, hcs⟩
        cases before with
        | nil => exact absurd (List.cons.inj hcs).1.symm hq
        | cons b before =>
          rw [List.cons_append, List.cons.injEq] at hcs
          obtain ⟨rfl, hcs⟩ := hcs
          exact ⟨before, rest, ih.mpr ⟨fun h => hbefore (List.mem_cons_of_mem _ h), hcs⟩, rfl, rfl⟩

/-- A start of a text with a `q` in front is empty or has the `q`. -/
theorem eq_nil_of_prefix_cons {q : Char} (h : mark <+: q :: rest) (hq : q ∉ mark) : mark = [] := by
  cases mark with
  | nil => rfl
  | cons m mark =>
    rw [List.cons_prefix_cons] at h
    simp [h.1] at hq

theorem prefix_of_prefix_append_cons {q : Char} (h : mark <+: before ++ q :: rest)
    (hq : q ∉ mark) : mark <+: before := by
  rcases List.prefix_or_prefix_of_prefix h (List.prefix_append before (q :: rest)) with h' | h'
  · exact h'
  · obtain ⟨more, rfl⟩ := h'
    have hmore : more <+: q :: rest := (List.prefix_append_right_inj before).mp h
    rw [eq_nil_of_prefix_cons hmore fun hmem => hq (List.mem_append_right _ hmem), List.append_nil]

/-- A text without the character `q` that occurs around a `q` occurs on one side of it. -/
theorem infix_or_infix_of_notMem {q : Char} (h : mark <:+: before ++ q :: rest) (hq : q ∉ mark) :
    mark <:+: before ∨ mark <:+: rest := by
  rcases List.infix_append_iff_ne_nil.mp h with h | h | ⟨l₁, l₂, -, hne, rfl, -, h⟩
  · exact .inl h
  · rcases List.infix_cons_iff.mp h with h | h
    · exact .inl (eq_nil_of_prefix_cons h hq ▸ List.nil_infix)
    · exact .inr h
  · -- a mark across the border would go on with the `q`
    refine absurd (eq_nil_of_prefix_cons h ?_) hne
    exact fun hq₂ => hq (List.mem_append_right _ hq₂)

/-- **A text that opens with a `q` occurs behind all that has none.** -/
theorem infix_of_infix_append {q : Char} (h : q :: mark <:+: before ++ rest) (hq : q ∉ before) :
    q :: mark <:+: rest := by
  induction before with
  | nil => exact h
  | cons b before ih =>
    obtain ⟨hb, hbefore⟩ := not_or.mp (mt List.mem_cons.mpr hq)
    rcases List.infix_cons_iff.mp h with h | h
    · exact absurd (List.cons_prefix_cons.mp h).1 hb
    · exact ih h hbefore

/-- **A cut behind a `q`.** If a mark without a `q` does not occur in front of the `q`, every cut
around the mark lies behind it. -/
theorem suffix_of_cut {q : Char} {left right : List Char}
    (h : left ++ q :: right = before ++ mark ++ rest) (hq : q ∉ mark) (hmark : mark ≠ [])
    (hleft : ¬ mark <:+: left) : rest <:+ right := by
  have hsplit : (left ++ [q]) ++ right = (before ++ mark) ++ rest := by simpa using h
  rcases List.append_eq_append_iff.mp hsplit with ⟨more, -, hright⟩ | ⟨more, hfront, -⟩
  · exact ⟨more, hright.symm⟩
  · -- a longer rest would leave the mark in front of the `q` or around it
    have hin : mark <:+: left ++ q :: [] := ⟨before, more, hfront.symm⟩
    rcases infix_or_infix_of_notMem hin hq with hin | hin
    · exact absurd hin hleft
    · exact absurd (List.infix_nil.mp hin) hmark

/-- Without the old character nothing is replaced. -/
theorem replaceChar_eq_self {old new : Char} (h : old ∉ cs) : replaceChar old new cs = cs := by
  refine (List.map_congr_left fun c hc => ?_).trans (List.map_id cs)
  rw [if_neg (ne_of_mem_of_not_mem hc h), id]

/-- Replacing a character brings about no new occurrence of a text without the new one. -/
theorem infix_of_infix_replaceChar {old new : Char} (h : mark <:+: replaceChar old new cs)
    (hnew : new ∉ mark) : mark <:+: cs := by
  obtain ⟨s, t, h⟩ := h
  obtain ⟨u, v, rfl, hu, -⟩ := List.map_eq_append_iff.mp h.symm
  obtain ⟨x, y, rfl, -, rfl⟩ := List.map_eq_append_iff.mp hu
  have hold : old ∉ y := fun hold => hnew (List.mem_map.mpr ⟨old, hold, if_pos rfl⟩)
  have hsame : replaceChar old new y = y := replaceChar_eq_self hold
  rw [replaceChar] at hsame
  rw [hsame]
  exact ⟨x, v, rfl⟩

end StepFlow.Text
