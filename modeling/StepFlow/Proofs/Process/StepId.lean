import StepFlow.Process.Assembly
import StepFlow.Proofs.Text.Digit
import StepFlow.Proofs.Text.Find
import StepFlow.Proofs.Text.Word
/-!
# Step ids

A step id is made of plain characters (`isPlain_of_mem_stepId`), so diagrams can use it as it is,
and its position can be read off its digits (`stepId_injective`), so steps at different positions
have different ids whatever their titles. Looking an id up again finds the step itself, unless the
id occurs in that of an earlier step (`resolve?_self`).
-/

namespace StepFlow.Assembly

open Text

variable {p : Char → Bool} {c : Char} {cs run sep : List Char} {n m : Nat} {title other : String}

/-! ## Slugs -/

theorem of_mem_splitRuns (hrun : run ∈ splitRuns p cs) (hc : c ∈ run) : p c = false := by
  fun_induction splitRuns p cs generalizing run c with
  | case1 => simp at hrun
  | case2 d rest hd ih => exact ih hrun hc
  | case3 d hd =>
    rw [List.mem_singleton.mp hrun, List.mem_singleton] at hc
    simpa [hc] using hd
  | case4 d hd e rest he ih =>
    rcases List.mem_cons.mp hrun with rfl | hrun
    · rw [List.mem_singleton.mp hc]
      simpa using hd
    · exact ih hrun hc
  | case5 d hd e rest he hnone ih =>
    rw [hnone] at hrun
    rw [List.mem_singleton.mp hrun, List.mem_singleton] at hc
    simpa [hc] using hd
  | case6 d hd e rest he first others hsome ih =>
    rw [hsome] at hrun ih
    rcases List.mem_cons.mp hrun with rfl | hrun
    · rcases List.mem_cons.mp hc with rfl | hc
      · simpa using hd
      · exact ih List.mem_cons_self hc
    · exact ih (List.mem_cons_of_mem _ hrun) hc

theorem of_mem_joinWith {runs : List (List Char)} (h : c ∈ joinWith sep runs) :
    c ∈ sep ∨ ∃ run ∈ runs, c ∈ run := by
  fun_induction joinWith sep runs with
  | case1 => simp at h
  | case2 run => exact .inr ⟨run, List.mem_singleton_self run, h⟩
  | case3 run rest hrest ih =>
    rcases List.mem_append.mp h with h | h
    · rcases List.mem_append.mp h with h | h
      · exact .inr ⟨run, List.mem_cons_self, h⟩
      · exact .inl h
    · rcases ih h with h | ⟨run, hrun, hc⟩
      · exact .inl h
      · exact .inr ⟨run, List.mem_cons_of_mem _ hrun, hc⟩

theorem mem_of_mem_takeUpTo {limit : Int} (h : c ∈ takeUpTo limit cs) : c ∈ cs := by
  rw [takeUpTo] at h
  split at h
  · exact List.mem_of_mem_take h
  · exact List.mem_of_mem_take h

theorem isPlain_of_isSlugChar (h : isSlugChar c = true) : IsPlain c := by
  simp only [isSlugChar, Bool.or_eq_true, Bool.and_eq_true, decide_eq_true_eq] at h
  rcases h with ⟨ha, hz⟩ | ⟨h0, h9⟩
  · exact .inl ⟨UInt32.le_iff_toNat_le.mp ha, UInt32.le_iff_toNat_le.mp hz⟩
  · exact .inr (.inl ⟨UInt32.le_iff_toNat_le.mp h0, UInt32.le_iff_toNat_le.mp h9⟩)

/-- A slug is made of plain characters, cut anywhere. -/
theorem isPlain_of_mem_slug {limit : Int} (h : c ∈ slug title limit) : IsPlain c := by
  rcases of_mem_joinWith (mem_of_mem_takeUpTo h) with h | ⟨run, hrun, hc⟩
  · exact .inr (.inr (List.mem_singleton.mp h))
  · exact isPlain_of_isSlugChar (by simpa using of_mem_splitRuns hrun hc)

/-! ## Ids -/

/-- The parts of an id. -/
theorem toList_stepId (n : Nat) (title : String) :
    (stepId n title).toList = "step_".toList ++ (decimal n ++ '_' :: slug title slugLimit) := by
  have h : (stepId n title).toList = "step_".toList ++ integer n ++ '_' :: slug title slugLimit :=
    String.toList_ofList
  rw [h, integer_natCast, List.append_assoc]

/-- **An id is made of plain characters.** -/
theorem isPlain_of_mem_stepId (h : c ∈ (stepId n title).toList) : IsPlain c := by
  rw [toList_stepId, List.mem_append, List.mem_append, List.mem_cons] at h
  rcases h with h | h | rfl | h
  · have hstep : "step_".toList.all (fun c => isSlugChar c || c == '_') = true := rfl
    have hc := List.all_eq_true.mp hstep c h
    rw [Bool.or_eq_true, beq_iff_eq] at hc
    rcases hc with h | rfl
    · exact isPlain_of_isSlugChar h
    · exact .inr (.inr rfl)
  · exact isPlain_of_isAsciiDigit (isAsciiDigit_of_mem_decimal h)
  · exact .inr (.inr rfl)
  · exact isPlain_of_mem_slug h

/-- The digits of an id end at the underscore behind them. -/
theorem takeWhile_isAsciiDigit (n : Nat) (cs : List Char) :
    (decimal n ++ '_' :: cs).takeWhile isAsciiDigit = decimal n := by
  have hstop : ∀ c ∈ ('_' :: cs).head?, isAsciiDigit c = false := fun _ hc =>
    Option.some.inj hc ▸ rfl
  exact (takeWhile_run (fun _ hc => isAsciiDigit_of_mem_decimal hc) hstop).1

/-- An id that starts with another one has its position. -/
theorem eq_of_stepId_isPrefix (h : (stepId n title).toList <+: (stepId m other).toList) : n = m := by
  rw [toList_stepId, toList_stepId, List.prefix_append_right_inj] at h
  obtain ⟨rest, hrest⟩ := h
  rw [List.append_assoc, List.cons_append] at hrest
  refine decimal_injective ?_
  -- the digits of both end at the first underscore, whatever the slugs are
  rw [← takeWhile_isAsciiDigit n, hrest, takeWhile_isAsciiDigit]

/-- **Ids of different positions are different**, whatever the titles. -/
theorem stepId_injective (h : stepId n title = stepId m other) : n = m := by
  have hprefix : (stepId n title).toList <+: (stepId m other).toList := by rw [h]
  exact eq_of_stepId_isPrefix hprefix

theorem stepId_ne_empty (n : Nat) (title : String) : stepId n title ≠ "" := by
  intro h
  have hlist := congrArg String.toList h
  rw [toList_stepId] at hlist
  cases hlist

/-! ## Looking ids up -/

/-- What is found is one of the ids. -/
theorem mem_of_resolve? {nodeId id : String} {ids : List String}
    (h : resolve? nodeId ids = some id) : id ∈ ids := by
  simp only [resolve?] at h
  split at h
  · cases h
  · exact List.mem_of_find?_eq_some h

/-- An id of plain characters is looked for as it stands. -/
theorem resolve?_eq_find? {id : String} (hne : id ≠ "") (hplain : ∀ c ∈ id.toList, IsPlain c)
    (ids : List String) :
    resolve? id ids = ids.find? fun other => occursIn id.toList other.toList := by
  have hempty : ¬ id.toList.isEmpty = true := by simpa using hne
  simp only [resolve?, lower_eq_self hplain, if_neg hempty]

/-- **An id of plain characters finds itself**, unless it occurs in an id before it. -/
theorem resolve?_self {id : String} {earlier later : List String} (hne : id ≠ "")
    (hplain : ∀ c ∈ id.toList, IsPlain c) (hfresh : ∀ e ∈ earlier, ¬ id.toList <:+: e.toList) :
    resolve? id (earlier ++ id :: later) = some id := by
  have hfind : ∀ e ∈ earlier, ¬ occursIn id.toList e.toList = true := fun e he =>
    fun ho => hfresh e he (occursIn_iff.mp ho)
  rw [resolve?_eq_find? hne hplain, List.find?_append, List.find?_eq_none.mpr hfind,
    Option.none_or, List.find?_cons_of_pos]
  exact occursIn_iff.mpr List.infix_rfl

end StepFlow.Assembly
