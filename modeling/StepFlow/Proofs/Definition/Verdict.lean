import StepFlow.Proofs.Definition.Flaw
import StepFlow.Proofs.First
/-!
# The verdict of the check

What the check answers for every definition, however many flaws it has. The kinds of flaws come in a
fixed order, and of the first kind that there is, the first offender is named: the id where it is
first repeated, the first connection with a loose end, and the first unknown dependency, where
dependencies are listed step by step (`FirstFlaw`). A circle is reported only of a coherent
definition, and what has none of these passes (`check_decides`).
-/

namespace StepFlow.Definition

variable {d : Definition} {flaw : Flaw} {ids : List String} {steps : List Step} {id : String}

/-- An element has the property, and none before it has. -/
def IsFirst {α : Type} (p : α → Prop) (xs : List α) (x : α) : Prop :=
  ∃ before after, xs = before ++ x :: after ∧ p x ∧ ∀ y ∈ before, ¬ p y

/-- An end of the connection is none of the ids. -/
def IsLoose (ids : List String) (c : Connection) : Prop :=
  c.source ∉ ids ∨ c.target ∉ ids

/-- What the steps list as dependencies, in order: the id of the step, and what it depends on. -/
def listed (steps : List Step) : List (String × String) :=
  steps.flatMap fun s => s.dependencies.map fun b => (s.id, b)

/-- **The first flaw of a definition:** there is none of an earlier kind, and none of its kind before
it. -/
def FirstFlaw (d : Definition) : Flaw → Prop
  | .duplicateStep id =>
    ∃ before after, d.ids = before ++ id :: after ∧ before.Nodup ∧ id ∈ before
  | .unknownEndpoint source target =>
    d.ids.Nodup ∧
      ∃ c, IsFirst (IsLoose d.ids) d.connections c ∧ c.source = source ∧ c.target = target
  | .unknownDependency step dependency =>
    d.ids.Nodup ∧ (∀ c ∈ d.connections, ¬ IsLoose d.ids c) ∧
      IsFirst (fun e => e.2 ∉ d.ids) (listed d.steps) (step, dependency)
  | .cycle => d.Coherent ∧ Cyclic d.steps

/-! ## First offenders -/

theorem find?_eq_some_iff_isFirst {α : Type} {p : α → Bool} {xs : List α} {x : α} :
    xs.find? p = some x ↔ IsFirst (fun y => p y = true) xs x := by
  rw [List.find?_eq_some_iff_append]
  constructor
  · rintro ⟨hx, before, after, hxs, hbefore⟩
    exact ⟨before, after, hxs, hx, by simpa using hbefore⟩
  · rintro ⟨before, after, hxs, hx, hbefore⟩
    exact ⟨hx, before, after, hxs, by simpa using hbefore⟩

/-- Where there is an element with the property, there is a first one. -/
theorem exists_isFirst_iff {α : Type} {p : α → Prop} {xs : List α} :
    (∃ x, IsFirst p xs x) ↔ ∃ x ∈ xs, p x := by
  constructor
  · rintro ⟨x, before, after, rfl, hx, -⟩
    exact ⟨x, List.mem_append_right _ List.mem_cons_self, hx⟩
  · intro h
    obtain ⟨before, x, after, hxs, hbefore, hx⟩ := exists_first h
    exact ⟨x, before, after, hxs, hx, hbefore⟩

/-- **The id that is named was met before,** and it is the first such. -/
theorem firstRepeated?_eq_some_iff {seen : List String} :
    firstRepeated? seen ids = some id ↔
      ∃ before after, ids = before ++ id :: after ∧ before.Nodup ∧ (∀ a ∈ before, a ∉ seen) ∧
        (id ∈ before ∨ id ∈ seen) := by
  induction ids generalizing seen with
  | nil => simp [firstRepeated?]
  | cons head rest ih =>
    rw [firstRepeated?]
    by_cases hhead : head ∈ seen
    · rw [if_pos (List.contains_iff_mem.mpr hhead), Option.some.injEq]
      constructor
      · rintro rfl
        exact ⟨[], rest, rfl, List.nodup_nil, by simp, .inr hhead⟩
      · rintro ⟨before, after, hids, -, hbefore, -⟩
        cases before with
        | nil => exact (List.cons.inj hids).1
        | cons a before =>
          obtain ⟨rfl, -⟩ := List.cons.inj hids
          exact absurd hhead (hbefore head List.mem_cons_self)
    · rw [if_neg (by simpa using hhead), ih]
      constructor
      · rintro ⟨before, after, rfl, hnd, hbefore, hid⟩
        refine ⟨head :: before, after, rfl, List.nodup_cons.mpr ⟨fun hmem => ?_, hnd⟩, ?_, ?_⟩
        · exact hbefore head hmem List.mem_cons_self
        · rintro a (_ | ⟨_, ha⟩)
          · exact hhead
          · exact fun hseen => hbefore a ha (List.mem_cons_of_mem _ hseen)
        · simp only [List.mem_cons] at hid ⊢
          tauto
      · rintro ⟨before, after, hids, hnd, hbefore, hid⟩
        cases before with
        | nil =>
          obtain ⟨rfl, -⟩ := List.cons.inj hids
          exact absurd (hid.resolve_left (by simp)) hhead
        | cons a before =>
          obtain ⟨rfl, rfl⟩ := List.cons.inj hids
          obtain ⟨hfresh, hnd⟩ := List.nodup_cons.mp hnd
          refine ⟨before, after, rfl, hnd, fun b hb => ?_, ?_⟩
          · rw [List.mem_cons, not_or]
            exact ⟨fun heq => hfresh (heq ▸ hb), hbefore b (List.mem_cons_of_mem _ hb)⟩
          · simp only [List.mem_cons] at hid ⊢
            tauto

theorem firstLoose?_eq_some_iff {connections : List Connection} {c : Connection} :
    firstLoose? ids connections = some c ↔ IsFirst (IsLoose ids) connections c := by
  have hloose : (fun e : Connection => (!ids.contains e.source || !ids.contains e.target) = true) =
      IsLoose ids := by
    ext e
    simp [IsLoose]
  rw [firstLoose?, find?_eq_some_iff_isFirst, hloose]

/-- Unknown dependencies are looked for in the order in which they are listed. -/
theorem firstUnknown?_eq_some_iff {e : String × String} :
    firstUnknown? ids steps = some e ↔ IsFirst (fun e => e.2 ∉ ids) (listed steps) e := by
  have hfind : firstUnknown? ids steps = (listed steps).find? fun e => !ids.contains e.2 := by
    rw [listed, List.find?_flatMap, firstUnknown?]
    congr 1
    ext s : 1
    rw [List.find?_map]
    rfl
  have hunknown : (fun e : String × String => (!ids.contains e.2) = true) = fun e => e.2 ∉ ids := by
    ext e
    simp
  rw [hfind, find?_eq_some_iff_isFirst, hunknown]

theorem exists_mem_listed_iff :
    (∃ e ∈ listed steps, e.2 ∉ ids) ↔ ∃ s ∈ steps, ∃ b ∈ s.dependencies, b ∉ ids := by
  simp only [listed, List.mem_flatMap, List.mem_map]
  constructor
  · rintro ⟨_, ⟨s, hs, b, hb, rfl⟩, hunknown⟩
    exact ⟨s, hs, b, hb, hunknown⟩
  · rintro ⟨s, hs, b, hb, hunknown⟩
    exact ⟨(s.id, b), ⟨s, hs, b, hb, rfl⟩, hunknown⟩

/-! ## One check after another -/

theorem nodup_ids_iff : firstRepeated? [] ids = none ↔ ids.Nodup := by
  simp [firstRepeated?_eq_none_iff]

theorem firstLoose?_eq_none_iff_not_isLoose {connections : List Connection} :
    firstLoose? ids connections = none ↔ ∀ c ∈ connections, ¬ IsLoose ids c := by
  simp [firstLoose?_eq_none_iff, IsLoose]

/-- A definition is coherent if the first three checks find nothing. -/
theorem coherent_iff : d.Coherent ↔ firstRepeated? [] d.ids = none ∧
    firstLoose? d.ids d.connections = none ∧ firstUnknown? d.ids d.steps = none := by
  rw [nodup_ids_iff, firstLoose?_eq_none_iff, firstUnknown?_eq_none_iff]
  exact ⟨fun h => ⟨h.distinct, h.joined, h.known⟩, fun h => ⟨h.1, h.2.1, h.2.2⟩⟩

/-- **The four ways through the check:** it stops at one of the first three stages, or the definition
is coherent. -/
theorem check_cases (d : Definition) :
    (∃ id, firstRepeated? [] d.ids = some id ∧ d.check = .error (.duplicateStep id)) ∨
      (firstRepeated? [] d.ids = none ∧ ∃ c, firstLoose? d.ids d.connections = some c ∧
        d.check = .error (.unknownEndpoint c.source c.target)) ∨
      (firstRepeated? [] d.ids = none ∧ firstLoose? d.ids d.connections = none ∧
        ∃ e, firstUnknown? d.ids d.steps = some e ∧
          d.check = .error (.unknownDependency e.1 e.2)) ∨
      d.Coherent := by
  rw [check]
  cases hrepeated : firstRepeated? [] d.ids with
  | some id => exact .inl ⟨id, rfl, rfl⟩
  | none =>
    cases hloose : firstLoose? d.ids d.connections with
    | some c => exact .inr (.inl ⟨rfl, c, rfl, rfl⟩)
    | none =>
      cases hunknown : firstUnknown? d.ids d.steps with
      | some e => exact .inr (.inr (.inl ⟨rfl, rfl, e, rfl, rfl⟩))
      | none => exact .inr (.inr (.inr (coherent_iff.mpr ⟨hrepeated, hloose, hunknown⟩)))

/-- What passes is coherent. -/
theorem coherent_of_check (h : d.check = .ok ()) : d.Coherent := by
  rcases check_cases d with ⟨id, -, hc⟩ | ⟨-, c, -, hc⟩ | ⟨-, -, e, -, hc⟩ | hcoherent
  · rw [h] at hc
    cases hc
  · rw [h] at hc
    cases hc
  · rw [h] at hc
    cases hc
  · exact hcoherent

/-- What fails has the flaw first. -/
theorem firstFlaw_of_check (h : d.check = .error flaw) : FirstFlaw d flaw := by
  rcases check_cases d with
    ⟨id, hid, hc⟩ | ⟨hids, c, hloose, hc⟩ | ⟨hids, hjoined, e, hunknown, hc⟩ | hcoherent
  · obtain rfl := Except.error.inj (h.symm.trans hc)
    obtain ⟨before, after, heq, hnd, -, hmem⟩ := firstRepeated?_eq_some_iff.mp hid
    exact ⟨before, after, heq, hnd, hmem.resolve_right List.not_mem_nil⟩
  · obtain rfl := Except.error.inj (h.symm.trans hc)
    exact ⟨nodup_ids_iff.mp hids, c, firstLoose?_eq_some_iff.mp hloose, rfl, rfl⟩
  · obtain rfl := Except.error.inj (h.symm.trans hc)
    exact ⟨nodup_ids_iff.mp hids, firstLoose?_eq_none_iff_not_isLoose.mp hjoined,
      firstUnknown?_eq_some_iff.mp hunknown⟩
  · by_cases hcyclic : Cyclic d.steps
    · have hc := hcoherent.check_eq_cycle_iff.mpr hcyclic
      obtain rfl := Except.error.inj (h.symm.trans hc)
      exact ⟨hcoherent, hcyclic⟩
    · rw [hcoherent.check_eq_ok_iff.mpr hcyclic] at h
      cases h

/-- **The check names the first flaw.** -/
theorem check_eq_error_iff : d.check = .error flaw ↔ FirstFlaw d flaw := by
  refine ⟨firstFlaw_of_check, fun h => ?_⟩
  cases flaw with
  | duplicateStep id =>
    obtain ⟨before, after, heq, hnd, hmem⟩ := h
    have hid : firstRepeated? [] d.ids = some id := firstRepeated?_eq_some_iff.mpr
      ⟨before, after, heq, hnd, fun _ _ => List.not_mem_nil, .inl hmem⟩
    rw [check, hid]
  | unknownEndpoint source target =>
    obtain ⟨hids, c, hloose, rfl, rfl⟩ := h
    rw [check, nodup_ids_iff.mpr hids, firstLoose?_eq_some_iff.mpr hloose]
  | unknownDependency step dependency =>
    obtain ⟨hids, hjoined, hunknown⟩ := h
    rw [check, nodup_ids_iff.mpr hids, firstLoose?_eq_none_iff_not_isLoose.mpr hjoined,
      firstUnknown?_eq_some_iff.mpr hunknown]
  | cycle =>
    obtain ⟨hcoherent, hcyclic⟩ := h
    exact hcoherent.check_eq_cycle_iff.mpr hcyclic

/-- **A definition passes exactly if it is coherent and no step depends on itself.** -/
theorem check_eq_ok_iff : d.check = .ok () ↔ d.Coherent ∧ ¬ Cyclic d.steps := by
  constructor
  · intro h
    have hcoherent := coherent_of_check h
    exact ⟨hcoherent, hcoherent.check_eq_ok_iff.mp h⟩
  · rintro ⟨hcoherent, hacyclic⟩
    exact hcoherent.check_eq_ok_iff.mpr hacyclic

/-- **The check decides what is wrong with a definition,** kind by kind, and names the first
offender of the first kind. -/
theorem check_decides (d : Definition) :
    ((∃ id, d.check = .error (.duplicateStep id)) ↔ ¬ d.ids.Nodup) ∧
      ((∃ source target, d.check = .error (.unknownEndpoint source target)) ↔
        d.ids.Nodup ∧ ∃ c ∈ d.connections, c.source ∉ d.ids ∨ c.target ∉ d.ids) ∧
      ((∃ step dependency, d.check = .error (.unknownDependency step dependency)) ↔
        d.ids.Nodup ∧ (∀ c ∈ d.connections, c.source ∈ d.ids ∧ c.target ∈ d.ids) ∧
          ∃ s ∈ d.steps, ∃ b ∈ s.dependencies, b ∉ d.ids) ∧
      (d.check = .error .cycle ↔ d.Coherent ∧ Cyclic d.steps) ∧
      (d.check = .ok () ↔ d.Coherent ∧ ¬ Cyclic d.steps) ∧
      ∀ flaw, d.check = .error flaw ↔ FirstFlaw d flaw := by
  refine ⟨?_, ?_, ?_, check_eq_error_iff, check_eq_ok_iff, fun flaw => check_eq_error_iff⟩
  · simp only [check_eq_error_iff, FirstFlaw]
    rw [← nodup_ids_iff, ← Ne, Option.ne_none_iff_exists']
    simp [firstRepeated?_eq_some_iff]
  · simp only [check_eq_error_iff, FirstFlaw, exists_and_left]
    refine and_congr_right fun _ => Iff.trans ?_ exists_isFirst_iff
    constructor
    · rintro ⟨source, target, c, hc, -⟩
      exact ⟨c, hc⟩
    · rintro ⟨c, hc⟩
      exact ⟨c.source, c.target, c, hc, rfl, rfl⟩
  · have hjoined : (∀ c ∈ d.connections, ¬ IsLoose d.ids c) ↔
        ∀ c ∈ d.connections, c.source ∈ d.ids ∧ c.target ∈ d.ids := by
      rw [← firstLoose?_eq_none_iff_not_isLoose, firstLoose?_eq_none_iff]
    have hunknown : (∃ step dependency, IsFirst (fun e => e.2 ∉ d.ids) (listed d.steps)
        (step, dependency)) ↔ ∃ s ∈ d.steps, ∃ b ∈ s.dependencies, b ∉ d.ids := by
      rw [← Prod.exists', exists_isFirst_iff, exists_mem_listed_iff]
    simp only [check_eq_error_iff, FirstFlaw, exists_and_left, hjoined, hunknown]

end StepFlow.Definition
