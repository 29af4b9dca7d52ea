import Mathlib.Data.List.Induction
import Mathlib.Data.List.Nodup
import StepFlow.Entries
import StepFlow.Value.Basic
/-!
# Writing to tables

A look-up sees the last write to its key (`get?_put`, `get?_putAll_append`). Writing the table that
a list of writes leaves is writing the list (`putAll_ofList`): an entry stands where its key was
first written and holds what was written last, whether the writes go to one table or through
another. Writes to new keys go to the end (`put_of_forall`, `putAll_eq_append`).

Records are tables at scalar keys, which match by what they denote. A text matches no other key
(`Scalar.text_beq_iff`).
-/

namespace StepFlow

namespace Entries

variable {κ α : Type} {t s : Entries κ α} {k l : κ} {v w : α}

/-! ## New keys -/

section NewKeys

variable [BEq κ]

/-- A write to a key that matches none goes to the end. -/
theorem put_of_forall (h : ∀ e ∈ t, ¬ (e.1 == k) = true) : t.put k v = t ++ [(k, v)] := by
  induction t with
  | nil => rfl
  | cons e rest ih =>
    obtain ⟨he, hrest⟩ := List.forall_mem_cons.mp h
    rw [put, if_neg he, ih hrest, List.cons_append]

/-- **Writes to keys of which no two match** stand behind each other. -/
theorem putAll_eq_append {es : List (κ × α)} (hnew : ∀ e ∈ t, ∀ f ∈ es, ¬ (e.1 == f.1) = true)
    (hes : es.Pairwise fun e f => ¬ (e.1 == f.1) = true) : t.putAll es = t ++ es := by
  induction es generalizing t with
  | nil => exact (List.append_nil t).symm
  | cons f es ih =>
    obtain ⟨hf, hes⟩ := List.pairwise_cons.mp hes
    have hput : t.put f.1 f.2 = t ++ [f] :=
      put_of_forall fun e he => hnew e he f List.mem_cons_self
    have hnew' : ∀ e ∈ t ++ [f], ∀ g ∈ es, ¬ (e.1 == g.1) = true := by
      intro e he g hg
      rcases List.mem_append.mp he with he | he
      · exact hnew e he g (List.mem_cons_of_mem _ hg)
      · rw [List.mem_singleton.mp he]
        exact hf g hg
    rw [putAll, List.foldl_cons, hput, ← putAll, ih hnew' hes, List.append_assoc,
      List.singleton_append]

/-- If no two keys match, a look-up finds each entry. -/
theorem get?_of_mem (ht : t.Pairwise fun e f => ¬ (e.1 == f.1) = true) (he : (k, v) ∈ t)
    (hk : (k == k) = true) : t.get? k = some v := by
  induction t with
  | nil => cases he
  | cons e rest ih =>
    obtain ⟨hfresh, hrest⟩ := List.pairwise_cons.mp ht
    rcases List.mem_cons.mp he with rfl | he
    · exact if_pos hk
    · exact (if_neg (hfresh _ he)).trans (ih hrest he)

end NewKeys

/-! ## Look-ups -/

section LookUp

variable [BEq κ] [EquivBEq κ]

/-- **A look-up sees what was just written** at its key, and else what was there. -/
theorem get?_put (t : Entries κ α) (k key : κ) (v : α) :
    (t.put k v).get? key = if k == key then some v else t.get? key := by
  induction t with
  | nil => rfl
  | cons e rest ih =>
    obtain ⟨l, w⟩ := e
    rw [put]
    by_cases hl : (l == k) = true
    · -- the written key and the one in its place find the same
      rw [if_pos hl, get?, get?, BEq.congr_left hl]
      split <;> rfl
    · rw [if_neg hl, get?, get?, ih]
      by_cases hkey : (l == key) = true
      · have hk : ¬ (k == key) = true := fun hk => hl (BEq.trans hkey (BEq.symm hk))
        rw [if_pos hkey, if_pos hkey, if_neg hk]
      · rw [if_neg hkey, if_neg hkey]

theorem get?_put_self (t : Entries κ α) (k : κ) (v : α) : (t.put k v).get? k = some v := by
  rw [get?_put, if_pos BEq.rfl]

/-- Writes to other keys are not seen. -/
theorem get?_putAll_of_forall {es : List (κ × α)} (h : ∀ e ∈ es, ¬ (e.1 == k) = true)
    (t : Entries κ α) : (t.putAll es).get? k = t.get? k := by
  induction es generalizing t with
  | nil => rfl
  | cons e es ih =>
    obtain ⟨he, hes⟩ := List.forall_mem_cons.mp h
    rw [putAll, List.foldl_cons, ← putAll, ih hes, get?_put, if_neg he]

/-- **Of many writes the last one to the key is seen.** -/
theorem get?_putAll_append {before after : List (κ × α)} (hkey : (l == k) = true)
    (h : ∀ e ∈ after, ¬ (e.1 == k) = true) (t : Entries κ α) :
    (t.putAll (before ++ (l, v) :: after)).get? k = some v := by
  rw [putAll, List.foldl_append, List.foldl_cons, ← putAll, get?_putAll_of_forall h, get?_put,
    if_pos hkey]

/-- **Of writes to keys of which no two match every one is seen.** -/
theorem get?_putAll_of_mem {es : List (κ × α)} {e : κ × α} (he : e ∈ es)
    (hes : es.Pairwise fun e f => ¬ (e.1 == f.1) = true) (t : Entries κ α) :
    (t.putAll es).get? e.1 = some e.2 := by
  obtain ⟨before, after, rfl⟩ := List.append_of_mem he
  have hafter := (List.pairwise_cons.mp (List.pairwise_append.mp hes).2.1).1
  exact get?_putAll_append BEq.rfl (fun f hf hkey => hafter f hf (BEq.symm hkey)) t

omit [EquivBEq κ] in
/-- A look-up does not see what was taken out. -/
theorem get?_without {p : κ → Bool} (hp : ∀ k l, (k == l) = true → p k = p l) (t : Entries κ α)
    (key : κ) : (t.without p).get? key = if p key then none else t.get? key := by
  induction t with
  | nil => simp [without, get?]
  | cons e rest ih =>
    obtain ⟨l, w⟩ := e
    rw [without] at ih ⊢
    rw [List.filter_cons, get?]
    by_cases hl : (l == key) = true
    · -- the key is taken out with its entry
      rw [if_pos hl]
      cases hkey : p key with
      | true => simpa [hp l key hl, hkey] using ih
      | false => simp [hp l key hl, hkey, get?, hl]
    · rw [if_neg hl, ← ih]
      cases p l with
      | true => rfl
      | false => simp [get?, hl]

end LookUp

/-! ## Keys -/

variable [BEq κ] [LawfulBEq κ]

/-- The keys of a table. -/
def keys (t : Entries κ α) : List κ :=
  t.map (·.1)

/-- A write to a key that is there changes no key. -/
theorem keys_put_of_mem (h : k ∈ t.keys) : (t.put k v).keys = t.keys := by
  induction t with
  | nil => simp [keys] at h
  | cons e rest ih =>
    obtain ⟨l, w⟩ := e
    rw [put]
    by_cases hl : l = k
    · rw [if_pos (beq_iff_eq.mpr hl)]
      rfl
    · have hrest : k ∈ keys rest := (List.mem_cons.mp h).resolve_left (Ne.symm hl)
      rw [if_neg (by simpa using hl)]
      exact congrArg (l :: ·) (ih hrest)

/-- A write to a new key goes to the end. -/
theorem put_of_notMem (h : k ∉ t.keys) : t.put k v = t ++ [(k, v)] :=
  put_of_forall fun e he heq => h (List.mem_map.mpr ⟨e, he, beq_iff_eq.mp heq⟩)

theorem keys_put_of_notMem (h : k ∉ t.keys) : (t.put k v).keys = t.keys ++ [k] := by
  rw [put_of_notMem h, keys, List.map_append]
  rfl

theorem mem_keys_put : k ∈ (t.put k v).keys := by
  by_cases h : k ∈ t.keys
  · rwa [keys_put_of_mem h]
  · simp [keys_put_of_notMem h]

/-- What is in a table after a write was written, or was there under another key. -/
theorem eq_or_mem_of_mem_put {e : κ × α} (hkeys : t.keys.Nodup) (he : e ∈ t.put k v) :
    e = (k, v) ∨ e ∈ t ∧ e.1 ≠ k := by
  induction t with
  | nil => exact .inl (List.mem_singleton.mp he)
  | cons head rest ih =>
    obtain ⟨l, w⟩ := head
    obtain ⟨hl, hrest⟩ := List.nodup_cons.mp hkeys
    rw [put] at he
    by_cases hlk : l = k
    · subst hlk
      rw [if_pos BEq.rfl] at he
      refine (List.mem_cons.mp he).imp_right fun he => ⟨List.mem_cons_of_mem _ he, fun heq => ?_⟩
      exact hl (List.mem_map.mpr ⟨e, he, heq⟩)
    · rw [if_neg (by simpa using hlk)] at he
      rcases List.mem_cons.mp he with rfl | he
      · exact .inr ⟨List.mem_cons_self, hlk⟩
      · exact (ih hrest he).imp_right fun ⟨he, hne⟩ => ⟨List.mem_cons_of_mem _ he, hne⟩

/-- A look-up fails for keys that are not there, and else finds an entry. -/
theorem get?_cases (t : Entries κ α) (k : κ) :
    (t.get? k = none ∧ k ∉ t.keys) ∨ ∃ v, t.get? k = some v ∧ (k, v) ∈ t := by
  induction t with
  | nil => exact .inl ⟨rfl, List.not_mem_nil⟩
  | cons head rest ih =>
    obtain ⟨l, w⟩ := head
    rw [get?]
    by_cases hlk : l = k
    · rw [if_pos (beq_iff_eq.mpr hlk)]
      exact .inr ⟨w, rfl, hlk ▸ List.mem_cons_self⟩
    · rw [if_neg (by simpa using hlk)]
      rcases ih with ⟨hnone, hrest⟩ | ⟨v, hv, hmem⟩
      · exact .inl ⟨hnone, fun h => (List.mem_cons.mp h).elim (fun h => hlk h.symm) hrest⟩
      · exact .inr ⟨v, hv, List.mem_cons_of_mem _ hmem⟩

/-! ## Writes in another order -/

/-- Of two writes to one key the second counts. -/
theorem put_put_self : (t.put k v).put k w = t.put k w := by
  induction t with
  | nil => simp [put]
  | cons e rest ih =>
    obtain ⟨l, u⟩ := e
    by_cases hl : l = k
    · simp [put, hl]
    · simp [put, hl, ih]

/-- A write to a key that is there can be made after one to another key. -/
theorem put_comm_of_mem (hne : k ≠ l) (h : k ∈ t.keys) :
    (t.put k v).put l w = (t.put l w).put k v := by
  induction t with
  | nil => simp [keys] at h
  | cons e rest ih =>
    obtain ⟨m, u⟩ := e
    by_cases hk : m = k
    · subst hk
      simp [put, hne]
    · have hrest : k ∈ keys rest := (List.mem_cons.mp h).resolve_left (Ne.symm hk)
      by_cases hl : m = l
      · simp [put, hl, Ne.symm hne]
      · simp [put, hk, hl, ih hrest]

/-- A write to a key that is there can be made after writes to others. -/
theorem putAll_put_of_mem (h : k ∈ t.keys) (hfree : k ∉ s.keys) :
    (t.put k v).putAll s = (t.putAll s).put k v := by
  induction s generalizing t with
  | nil => rfl
  | cons e rest ih =>
    obtain ⟨l, w⟩ := e
    obtain ⟨hne, hrest⟩ := not_or.mp (mt List.mem_cons.mpr hfree)
    have hstill : k ∈ (t.put l w).keys := by
      by_cases hl : l ∈ t.keys
      · rwa [keys_put_of_mem hl]
      · rw [keys_put_of_notMem hl]
        exact List.mem_append_left _ h
    have := ih hstill hrest
    simp only [putAll, List.foldl_cons] at this ⊢
    rw [put_comm_of_mem hne h, this]

/-! ## Tables of writes -/

/-- Keys stay distinct. -/
theorem nodup_keys_put (h : t.keys.Nodup) : (t.put k v).keys.Nodup := by
  by_cases hk : k ∈ t.keys
  · rwa [keys_put_of_mem hk]
  · rw [keys_put_of_notMem hk]
    exact h.append (List.nodup_singleton k) (List.disjoint_singleton.mpr hk)

theorem nodup_keys_putAll (h : t.keys.Nodup) (es : List (κ × α)) : (t.putAll es).keys.Nodup := by
  induction es generalizing t with
  | nil => exact h
  | cons e es ih => exact ih (nodup_keys_put h)

/-- What is in a table was there or was written. -/
theorem mem_or_mem_of_mem_putAll {e : κ × α} {es : List (κ × α)} (h : t.keys.Nodup)
    (he : e ∈ t.putAll es) : e ∈ t ∨ e ∈ es := by
  induction es generalizing t with
  | nil => exact .inl he
  | cons f es ih =>
    rcases ih (nodup_keys_put h) he with hmem | hmem
    · rcases eq_or_mem_of_mem_put h hmem with rfl | ⟨hmem, -⟩
      · exact .inr List.mem_cons_self
      · exact .inl hmem
    · exact .inr (List.mem_cons_of_mem f hmem)

theorem mem_of_mem_ofList {e : κ × α} {es : List (κ × α)} (he : e ∈ ofList es) : e ∈ es :=
  (mem_or_mem_of_mem_putAll (t := []) List.nodup_nil he).resolve_left List.not_mem_nil

/-- A table with distinct keys and one write more is written like the table and then the write. -/
theorem putAll_put (t : Entries κ α) (hs : s.keys.Nodup) :
    t.putAll (s.put k v) = (t.putAll s).put k v := by
  induction s generalizing t with
  | nil => rfl
  | cons e rest ih =>
    obtain ⟨l, w⟩ := e
    obtain ⟨hfresh, hrest⟩ := List.nodup_cons.mp hs
    rw [put]
    by_cases hl : l = k
    · subst hl
      have := putAll_put_of_mem (v := v) (mem_keys_put (t := t) (k := l) (v := w)) hfresh
      rw [put_put_self] at this
      simpa [putAll] using this
    · have := ih (t.put l w) hrest
      simpa [putAll, hl] using this

/-- **A table of writes is written like the writes themselves.** -/
theorem putAll_ofList (t : Entries κ α) (es : List (κ × α)) :
    t.putAll (ofList es) = t.putAll es := by
  induction es using List.reverseRecOn with
  | nil => rfl
  | append_singleton es e ih =>
    have hlast (t : Entries κ α) : t.putAll (es ++ [e]) = (t.putAll es).put e.1 e.2 :=
      List.foldl_append
    have hdistinct : (ofList es).keys.Nodup := nodup_keys_putAll (t := []) List.nodup_nil es
    rw [ofList, hlast, ← ofList, putAll_put t hdistinct, ih, hlast]

end Entries

/-! ## Keys of records -/

/-- Scalars that match as keys are interchangeable. -/
instance : EquivBEq Scalar where
  rfl := by simp [BEq.beq]
  symm h := by simpa [BEq.beq, eq_comm] using h
  trans h h' := by
    simp only [BEq.beq, decide_eq_true_eq] at *
    exact h.trans h'

/-- Only the same text matches a text. -/
theorem Scalar.text_beq_iff {s : String} {k : Scalar} :
    (Scalar.text s == k) = true ↔ k = .text s := by
  constructor
  · intro h
    have hkey : k.key = .text s := (of_decide_eq_true h).symm
    cases k with
    | text t => rw [Key.text.inj hkey]
    | real x =>
      simp only [Scalar.key] at hkey
      split at hkey <;> cases hkey
    | moment m =>
      simp only [Scalar.key] at hkey
      split at hkey <;> cases hkey
    | _ => cases hkey
  · rintro rfl
    exact BEq.rfl

theorem Scalar.text_beq_text (a b : String) : (Scalar.text a == Scalar.text b) = (a == b) := by
  rw [Bool.eq_iff_iff, text_beq_iff, Scalar.text.injEq, beq_iff_eq, eq_comm]

end StepFlow
