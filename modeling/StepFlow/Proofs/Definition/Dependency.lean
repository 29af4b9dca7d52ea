import Mathlib.Data.Fintype.Card
import Mathlib.Data.List.Perm.Subperm
import Mathlib.Data.Set.Finite.List
import Mathlib.Logic.Relation
import StepFlow.Definition.Basic
/-!
# Dependencies between steps

The relation "lists as a dependency" on ids, and the two forms in which it is used: a circle is a
walk along it that returns to its start, and a list of ids is grounded if each id stands in front of
all that it needs. Settling steps and visiting them both build grounded lists from the back, so
what such a list says about positions is proved here once.
-/

namespace StepFlow.Definition

open Relation

variable {steps : List Step} {needs : String → String → Prop} {placed : List String} {a b : String}

/-- A step of the id `a` lists `b` as a dependency. -/
def Needs (steps : List Step) (a b : String) : Prop :=
  ∃ s ∈ steps, s.id = a ∧ b ∈ s.dependencies

/-- Some id needs itself, directly or through others. -/
def Cyclic (steps : List Step) : Prop :=
  ∃ a, TransGen (Needs steps) a a

/-- In a list with the latest id first, each id has all that it needs behind it. -/
def Grounded (needs : String → String → Prop) : List String → Prop
  | [] => True
  | id :: earlier => (∀ b, needs id b → b ∈ earlier) ∧ Grounded needs earlier

/-! ## What distinct ids give -/

/-- **Distinct ids name one step each.** -/
theorem eq_of_id_eq (hids : (steps.map (·.id)).Nodup) {s t : Step} (hs : s ∈ steps)
    (ht : t ∈ steps) (h : s.id = t.id) : s = t :=
  List.inj_on_of_nodup_map hids hs ht h

/-- So what an id needs is what its one step lists. -/
theorem needs_iff_mem (hids : (steps.map (·.id)).Nodup) {s : Step} (hs : s ∈ steps) :
    Needs steps s.id b ↔ b ∈ s.dependencies := by
  constructor
  · rintro ⟨t, ht, hid, hb⟩
    rwa [← eq_of_id_eq hids ht hs hid]
  · intro hb
    exact ⟨s, hs, rfl, hb⟩

/-- An id that needs something is the id of a step. -/
theorem Needs.mem_ids (h : Needs steps a b) : a ∈ steps.map (·.id) := by
  obtain ⟨s, hs, rfl, -⟩ := h
  exact List.mem_map_of_mem hs

/-! ## Grounded lists -/

/-- A grounded list is closed under what its members need. -/
theorem Grounded.mem_of_needs (h : Grounded needs placed) (ha : a ∈ placed) (hab : needs a b) :
    b ∈ placed := by
  induction placed with
  | nil => simp at ha
  | cons id earlier ih =>
    rcases List.mem_cons.mp ha with rfl | ha
    · exact List.mem_cons_of_mem _ (h.1 b hab)
    · exact List.mem_cons_of_mem _ (ih h.2 ha)

/-- **In the order that a grounded list keeps backwards, an id comes strictly after all that it
needs.** -/
theorem Grounded.idxOf_reverse_lt (h : Grounded needs placed) (hnd : placed.Nodup)
    (ha : a ∈ placed) (hab : needs a b) : placed.reverse.idxOf b < placed.reverse.idxOf a := by
  induction placed with
  | nil => simp at ha
  | cons id earlier ih =>
    obtain ⟨hid, hearlier⟩ := List.nodup_cons.mp hnd
    have hb : b ∈ earlier.reverse := by
      rcases List.mem_cons.mp ha with rfl | ha
      · exact List.mem_reverse.mpr (h.1 b hab)
      · exact List.mem_reverse.mpr (h.2.mem_of_needs ha hab)
    rw [List.reverse_cons, List.idxOf_append_of_mem hb]
    rcases List.mem_cons.mp ha with rfl | ha
    · rw [List.idxOf_append_of_notMem (by simpa using hid)]
      have := List.idxOf_lt_length_of_mem hb
      omega
    · rw [List.idxOf_append_of_mem (by simpa using ha)]
      exact ih h.2 hearlier ha

/-! ## Circles -/

/-- Ids that can be ranked, each above all that it needs, stand on no circle. -/
theorem not_cyclic_of_rank (rank : String → Nat)
    (h : ∀ a b, Needs steps a b → rank b < rank a) : ¬ Cyclic steps := by
  rintro ⟨a, ha⟩
  have hdown : ∀ b, TransGen (Needs steps) a b → rank b < rank a := by
    intro b hb
    induction hb with
    | single hab => exact h _ _ hab
    | tail _ hbc ih => exact lt_trans (h _ _ hbc) ih
  exact lt_irrefl _ (hdown a ha)

/-- In a list without repetitions, what stands before another has the smaller index. -/
theorem idxOf_lt_of_sublist {ids : List String} (hnd : ids.Nodup) (h : [b, a].Sublist ids) :
    ids.idxOf b < ids.idxOf a := by
  induction ids with
  | nil => cases h
  | cons id ids ih =>
    obtain ⟨hid, hnd⟩ := List.nodup_cons.mp hnd
    cases h with
    | cons _ h =>
      have hb : id ≠ b := fun heq => hid (heq ▸ h.subset List.mem_cons_self)
      have ha : id ≠ a := fun heq => hid (heq ▸ h.subset (by simp))
      rw [List.idxOf_cons_ne _ hb, List.idxOf_cons_ne _ ha]
      exact Nat.succ_lt_succ (ih hnd h)
    | cons_cons _ h =>
      have ha : b ≠ a := fun heq => hid (heq ▸ h.subset List.mem_cons_self)
      rw [List.idxOf_cons_self, List.idxOf_cons_ne _ ha]
      exact Nat.succ_pos _

/-- **Ids that can be listed, each behind all that it needs, stand on no circle.** -/
theorem not_cyclic_of_sublist {ids : List String} (hnd : ids.Nodup)
    (h : ∀ a b, Needs steps a b → [b, a].Sublist ids) : ¬ Cyclic steps :=
  not_cyclic_of_rank ids.idxOf fun a b hab => idxOf_lt_of_sublist hnd (h a b hab)

/-- A walk that can always go on inside a finite list meets itself. -/
theorem exists_transGen_self {ids : List String} (hne : ids ≠ [])
    (hnext : ∀ a ∈ ids, ∃ b ∈ ids, needs a b) : ∃ a ∈ ids, TransGen needs a a := by
  by_contra hno
  let r : {a // a ∈ ids} → {a // a ∈ ids} → Prop := fun b a => TransGen needs a.1 b.1
  have : Finite {a // a ∈ ids} := List.finite_toSet ids
  have : IsTrans _ r := ⟨fun a b c hab hbc => hbc.trans hab⟩
  have : Std.Irrefl r := ⟨fun a ha => hno ⟨a.1, a.2, ha⟩⟩
  -- without a circle, "can be walked to" is a strict order on finitely many ids and has a last one
  obtain ⟨first, hfirst⟩ := List.exists_mem_of_ne_nil ids hne
  obtain ⟨last, -, hlast⟩ :=
    (Finite.wellFounded_of_trans_of_irrefl r).has_min Set.univ ⟨⟨first, hfirst⟩, trivial⟩
  obtain ⟨b, hb, hab⟩ := hnext last.1 last.2
  exact hlast ⟨b, hb⟩ trivial (.single hab)

end StepFlow.Definition
