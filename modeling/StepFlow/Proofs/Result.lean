/-!
# Results that may fail

A computation in steps has a result exactly if each of its steps has one, and else the first step
without one decides how it fails. Where all steps can fail in one way only, it is enough to know
when each of them does (`SucceedsIff`).
-/

namespace StepFlow

variable {ε α β : Type} {f : α → Except ε β} {x : α} {xs : List α} {ys : List β} {i : Nat}

theorem bind_eq_ok_iff {step : Except ε α} {b : β} :
    step >>= f = .ok b ↔ ∃ a, step = .ok a ∧ f a = .ok b := by
  cases step <;> simp [bind, Except.bind]

theorem pure_eq_ok_iff {a b : α} : (pure a : Except ε α) = .ok b ↔ a = b := by
  simp [pure, Except.pure]

/-- There are as many results as there are things to compute. -/
theorem length_of_mapM_eq_ok (h : xs.mapM f = .ok ys) : ys.length = xs.length := by
  induction xs generalizing ys with
  | nil =>
    rw [List.mapM_nil, pure_eq_ok_iff] at h
    simp [← h]
  | cons x xs ih =>
    simp only [List.mapM_cons, bind_eq_ok_iff, pure_eq_ok_iff] at h
    obtain ⟨y, -, rest, hrest, rfl⟩ := h
    rw [List.length_cons, List.length_cons, ih hrest]

/-- **What is computed one by one stands in its place.** -/
theorem exists_of_mapM_eq_ok (h : xs.mapM f = .ok ys) (hx : xs[i]? = some x) :
    ∃ y, ys[i]? = some y ∧ f x = .ok y := by
  induction xs generalizing ys i with
  | nil => simp at hx
  | cons head xs ih =>
    simp only [List.mapM_cons, bind_eq_ok_iff, pure_eq_ok_iff] at h
    obtain ⟨y, hy, rest, hrest, rfl⟩ := h
    cases i with
    | zero =>
      obtain rfl : head = x := by simpa using hx
      exact ⟨y, rfl, hy⟩
    | succ i => simpa using ih hrest (by simpa using hx)

/-- What stands in a place was computed for it. -/
theorem exists_of_getElem?_mapM {y : β} (h : xs.mapM f = .ok ys) (hy : ys[i]? = some y) :
    ∃ x, xs[i]? = some x ∧ f x = .ok y := by
  induction xs generalizing ys i with
  | nil =>
    rw [List.mapM_nil, pure_eq_ok_iff] at h
    simp [← h] at hy
  | cons head xs ih =>
    simp only [List.mapM_cons, bind_eq_ok_iff, pure_eq_ok_iff] at h
    obtain ⟨first, hfirst, rest, hrest, rfl⟩ := h
    cases i with
    | zero =>
      obtain rfl : first = y := by simpa using hy
      exact ⟨head, rfl, hfirst⟩
    | succ i => simpa using ih hrest (by simpa using hy)

/-- What can be computed one by one can be computed. -/
theorem exists_mapM (h : ∀ x ∈ xs, ∃ y, f x = .ok y) : ∃ ys, xs.mapM f = .ok ys := by
  induction xs with
  | nil => exact ⟨[], rfl⟩
  | cons x xs ih =>
    obtain ⟨⟨y, hy⟩, hxs⟩ := List.forall_mem_cons.mp h
    obtain ⟨ys, hys⟩ := ih hxs
    simp only [List.mapM_cons, bind_eq_ok_iff, pure_eq_ok_iff]
    exact ⟨_, y, hy, ys, hys, rfl⟩

/-- Where each result is known, all are. -/
theorem mapM_eq_ok {g : α → β} (h : ∀ x ∈ xs, f x = .ok (g x)) : xs.mapM f = .ok (xs.map g) := by
  induction xs with
  | nil => rfl
  | cons x xs ih =>
    obtain ⟨hx, hxs⟩ := List.forall_mem_cons.mp h
    rw [List.mapM_cons, hx, ih hxs]
    rfl

/-- **The computation has a result exactly if `P` holds,** and else it fails with `e`. -/
structure SucceedsIff (P : Prop) (e : ε) (step : Except ε α) : Prop where
  ok : P → ∃ a, step = .ok a
  error : ¬ P → step = .error e

namespace SucceedsIff

variable {P Q : Prop} {e : ε} {step : Except ε α}

/-- What is always done succeeds. -/
theorem of_ok (hP : P) (a : α) : SucceedsIff P e (.ok a) :=
  ⟨fun _ => ⟨a, rfl⟩, fun h => absurd hP h⟩

theorem congr (h : SucceedsIff P e step) (hPQ : P ↔ Q) : SucceedsIff Q e step :=
  ⟨fun hQ => h.ok (hPQ.mpr hQ), fun hQ => h.error (mt hPQ.mp hQ)⟩

/-- A computation and then one that cannot fail. -/
theorem map (h : SucceedsIff P e step) (g : α → β) :
    SucceedsIff P e (step >>= fun a => pure (g a)) where
  ok := fun hP => by
    obtain ⟨a, ha⟩ := h.ok hP
    exact ⟨g a, by rw [ha]; rfl⟩
  error := fun hP => by
    rw [h.error hP]
    rfl

/-- **Two computations in turn,** of which the second may use the result of the first. -/
theorem bind {next : α → Except ε β} (h : SucceedsIff P e step)
    (hnext : ∀ a, SucceedsIff Q e (next a)) : SucceedsIff (P ∧ Q) e (step >>= next) where
  ok := fun ⟨hP, hQ⟩ => by
    obtain ⟨a, ha⟩ := h.ok hP
    obtain ⟨b, hb⟩ := (hnext a).ok hQ
    exact ⟨b, by rw [ha]; exact hb⟩
  error := fun hPQ => by
    by_cases hP : P
    · obtain ⟨a, ha⟩ := h.ok hP
      rw [ha]
      exact (hnext a).error fun hQ => hPQ ⟨hP, hQ⟩
    · rw [h.error hP]
      rfl

/-- **One computation for each thing.** -/
theorem mapM {P : α → Prop} (h : ∀ x, SucceedsIff (P x) e (f x)) (xs : List α) :
    SucceedsIff (∀ x ∈ xs, P x) e (xs.mapM f) := by
  induction xs with
  | nil => exact of_ok (by simp) []
  | cons x xs ih =>
    rw [List.mapM_cons]
    exact ((h x).bind fun y => ih.map (y :: ·)).congr List.forall_mem_cons.symm

end SucceedsIff

end StepFlow
