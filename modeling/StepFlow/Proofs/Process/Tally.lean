import Mathlib.Data.List.ReduceOption
import StepFlow.Process.Assembly
import StepFlow.Proofs.Entries
/-!
# Tallies

A tally has one entry for each name, in the order in which the names first appear, and the entry
holds how often the name appears (`Counts`); one more name keeps this (`Counts.concat`). Its leader
is the first entry with the greatest number, so it is the most frequent name, and of several the one
that appears first (`Counts.isPrimary`).
-/

namespace StepFlow.Assembly

variable {names : List String} {name p q : String} {t : Entries String Nat} {e : String × Nat}
variable {services : List (Option String)}

/-! ## Counting -/

/-- **The table counts the names.** It has an entry for each of them, in the order in which they
first appear, with how often they do. -/
structure Counts (names : List String) (t : Entries String Nat) : Prop where
  mem_keys_iff : ∀ name, name ∈ t.keys ↔ name ∈ names
  eq_count : ∀ e ∈ t, e.2 = names.count e.1
  sorted : t.keys.Pairwise fun a b => names.idxOf a < names.idxOf b

theorem Counts.nodup_keys (h : Counts names t) : t.keys.Nodup := by
  refine h.sorted.imp ?_
  rintro a _ hlt rfl
  exact Nat.lt_irrefl _ hlt

/-- A look-up gives the count, also of what does not appear. -/
theorem Counts.getD_get? (h : Counts names t) (name : String) :
    (t.get? name).getD 0 = names.count name := by
  rcases t.get?_cases name with ⟨hnone, hkey⟩ | ⟨n, hn, hmem⟩
  · rw [hnone, List.count_eq_zero_of_not_mem fun hmem => hkey ((h.mem_keys_iff name).mpr hmem)]
    rfl
  · rw [hn, Option.getD_some, ← h.eq_count _ hmem]

/-- **One more name is counted.** -/
theorem Counts.concat (h : Counts names t) (name : String) :
    Counts (names ++ [name]) (t.put name ((t.get? name).getD 0 + 1)) := by
  rw [h.getD_get?]
  have hcount (other : String) (hne : other ≠ name) :
      (names ++ [name]).count other = names.count other := by
    rw [List.count_append, List.count_singleton, if_neg (by simpa using hne.symm), Nat.add_zero]
  have heq : ∀ e ∈ t.put name (names.count name + 1), e.2 = (names ++ [name]).count e.1 := by
    intro e he
    rcases Entries.eq_or_mem_of_mem_put h.nodup_keys he with rfl | ⟨he, hne⟩
    · rw [List.count_append, List.count_singleton_self]
    · rw [hcount _ hne, h.eq_count e he]
  have hidx : t.keys.Pairwise fun a b => (names ++ [name]).idxOf a < (names ++ [name]).idxOf b := by
    refine h.sorted.imp_of_mem fun ha hb hlt => ?_
    rwa [List.idxOf_append_of_mem ((h.mem_keys_iff _).mp ha),
      List.idxOf_append_of_mem ((h.mem_keys_iff _).mp hb)]
  by_cases hkey : name ∈ t.keys
  · have hmem : name ∈ names := (h.mem_keys_iff name).mp hkey
    have hkeys := Entries.keys_put_of_mem (v := names.count name + 1) hkey
    refine ⟨fun other => ?_, heq, by rwa [hkeys]⟩
    rw [hkeys, h.mem_keys_iff, List.mem_append, List.mem_singleton, or_iff_left_of_imp]
    rintro rfl
    exact hmem
  · -- a new name stands behind all others, in the table as in the list
    have hmem : name ∉ names := fun hmem => hkey ((h.mem_keys_iff name).mpr hmem)
    have hkeys := Entries.keys_put_of_notMem (v := names.count name + 1) hkey
    refine ⟨fun other => ?_, heq, ?_⟩
    · rw [hkeys, List.mem_append, List.mem_append, h.mem_keys_iff]
    · rw [hkeys, List.pairwise_append]
      refine ⟨hidx, List.pairwise_singleton _ _, fun a ha b hb => ?_⟩
      have ha : a ∈ names := (h.mem_keys_iff a).mp ha
      rw [List.mem_singleton.mp hb, List.idxOf_append_of_mem ha, List.idxOf_append_of_notMem hmem]
      exact Nat.lt_add_right _ (List.idxOf_lt_length_of_mem ha)

/-- **A tally counts the services** that are no empty texts. -/
theorem counts_tally (cs : List Classified) :
    Counts ((cs.filterMap (·.integration)).filter (!·.isEmpty)) (tally cs) := by
  rw [tally]
  induction cs.filterMap (·.integration) using List.reverseRecOn with
  | nil => exact ⟨by simp [Entries.keys], by simp, List.Pairwise.nil⟩
  | append_singleton names name ih =>
    rw [List.foldl_append, List.foldl_cons, List.foldl_nil, List.filter_append]
    by_cases hempty : name.isEmpty = true
    · simpa [hempty] using ih
    · simpa [hempty] using ih.concat name

/-! ## The leader -/

theorem leader?_eq_none (h : leader? t = none) : t = [] := by
  cases t with
  | nil => rfl
  | cons head rest =>
    rw [leader?] at h
    split at h
    · cases h
    · split at h <;> cases h

/-- **The leader is the first entry with the greatest number.** -/
theorem exists_of_leader? (h : leader? t = some e) :
    ∃ before after, t = before ++ e :: after ∧ (∀ f ∈ before, f.2 < e.2) ∧
      ∀ f ∈ after, f.2 ≤ e.2 := by
  induction t generalizing e with
  | nil => cases h
  | cons head rest ih =>
    rw [leader?] at h
    cases hbest : leader? rest with
    | none =>
      obtain rfl := leader?_eq_none hbest
      obtain rfl : head = e := by simpa [hbest] using h
      exact ⟨[], [], rfl, by simp, by simp⟩
    | some best =>
      obtain ⟨before, after, hrest, hbefore, hafter⟩ := ih hbest
      simp only [hbest] at h
      by_cases hlt : head.2 < best.2
      · rw [if_pos hlt] at h
        obtain rfl := Option.some.inj h
        exact ⟨head :: before, after, by rw [hrest, List.cons_append],
          List.forall_mem_cons.mpr ⟨hlt, hbefore⟩, hafter⟩
      · rw [if_neg hlt] at h
        obtain rfl := Option.some.inj h
        refine ⟨[], rest, rfl, by simp, fun f hf => ?_⟩
        rw [hrest, List.mem_append, List.mem_cons] at hf
        rcases hf with hf | rfl | hf
        · have := hbefore f hf
          omega
        · omega
        · have := hafter f hf
          omega

/-! ## The primary service -/

/-- **The service of the most steps,** given the services of all steps in order: no service has more,
and one that has as many first appears at a later step. -/
structure IsPrimary (services : List (Option String)) (p : String) : Prop where
  mem : some p ∈ services
  count_le : ∀ q : String, services.count (some q) ≤ services.count (some p)
  idxOf_lt : ∀ q : String, q ≠ p → services.count (some q) = services.count (some p) →
    services.idxOf (some p) < services.idxOf (some q)

/-- Leaving out the steps without a service keeps the order of the others. -/
theorem idxOf_lt_of_idxOf_reduceOption_lt
    (h : services.reduceOption.idxOf p < services.reduceOption.idxOf q) :
    services.idxOf (some p) < services.idxOf (some q) := by
  induction services with
  | nil => simp at h
  | cons service services ih =>
    cases service with
    | none =>
      rw [List.reduceOption_cons_of_none] at h
      rw [List.idxOf_cons_ne _ (Option.some_ne_none p).symm,
        List.idxOf_cons_ne _ (Option.some_ne_none q).symm]
      exact Nat.succ_lt_succ (ih h)
    | some name =>
      rw [List.reduceOption_cons_of_some] at h
      have hq : name ≠ q := by
        rintro rfl
        simp at h
      have hq' : some name ≠ some q := fun h => hq (Option.some.inj h)
      by_cases hp : name = p
      · rw [hp, List.idxOf_cons_self, ← hp, List.idxOf_cons_ne _ hq']
        exact Nat.succ_pos _
      · have hp' : some name ≠ some p := fun h => hp (Option.some.inj h)
        rw [List.idxOf_cons_ne _ hp, List.idxOf_cons_ne _ hq] at h
        rw [List.idxOf_cons_ne _ hp', List.idxOf_cons_ne _ hq']
        exact Nat.succ_lt_succ (ih (Nat.lt_of_succ_lt_succ h))

theorem count_reduceOption (services : List (Option String)) (p : String) :
    services.reduceOption.count p = services.count (some p) := by
  rw [List.reduceOption, List.count_filterMap]
  rfl

/-- A service that some step has is counted in an entry. -/
theorem Counts.exists_entry (h : Counts services.reduceOption t) (hq : some q ∈ services) :
    ∃ f ∈ t, f.1 = q ∧ f.2 = services.count (some q) := by
  have hkey : q ∈ t.keys := (h.mem_keys_iff q).mpr (List.reduceOption_mem_iff.mpr hq)
  obtain ⟨f, hf, rfl⟩ := List.mem_map.mp hkey
  exact ⟨f, hf, rfl, by rw [h.eq_count f hf, count_reduceOption]⟩

/-- **The leader of a count is the primary service.** -/
theorem Counts.isPrimary (h : Counts services.reduceOption t) (hlead : leader? t = some e) :
    IsPrimary services e.1 := by
  obtain ⟨before, after, ht, hbefore, hafter⟩ := exists_of_leader? hlead
  have hentries (f : String × Nat) (hf : f ∈ t) : f ∈ before ∨ f = e ∨ f ∈ after := by
    simpa [ht] using hf
  have he : e ∈ t := ht ▸ List.mem_append_right _ List.mem_cons_self
  have hcount : e.2 = services.count (some e.1) := by rw [h.eq_count e he, count_reduceOption]
  have hmem : some e.1 ∈ services :=
    List.reduceOption_mem_iff.mp ((h.mem_keys_iff e.1).mp (List.mem_map_of_mem he))
  refine ⟨hmem, fun q => ?_, fun q hne heq => ?_⟩
  · by_cases hq : some q ∈ services
    · obtain ⟨f, hf, -, hfcount⟩ := h.exists_entry hq
      rw [← hcount, ← hfcount]
      rcases hentries f hf with hf | rfl | hf
      · exact Nat.le_of_lt (hbefore f hf)
      · exact Nat.le_refl _
      · exact hafter f hf
    · rw [List.count_eq_zero_of_not_mem hq]
      exact Nat.zero_le _
  · have hq : some q ∈ services := by
      rw [← List.count_pos_iff, heq, List.count_pos_iff]
      exact hmem
    obtain ⟨f, hf, rfl, hfcount⟩ := h.exists_entry hq
    -- an entry with the same number stands behind the leader, so its name appears later
    have hbehind : f ∈ after := by
      rcases hentries f hf with hf | rfl | hf
      · have := hbefore f hf
        omega
      · exact absurd rfl hne
      · exact hf
    have hsorted := h.sorted
    rw [ht, Entries.keys, List.map_append, List.map_cons, List.pairwise_append] at hsorted
    have hlater := (List.pairwise_cons.mp hsorted.2.1).1 f.1 (List.mem_map_of_mem hbehind)
    exact idxOf_lt_of_idxOf_reduceOption_lt hlater

end StepFlow.Assembly
