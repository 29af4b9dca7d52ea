import StepFlow.Proofs.Process.Assembly
import StepFlow.Proofs.Text.Case
/-!
# Which arrows are taken in

The connections of a list of step ids and a list of arrows, said without the table of what is in
use. A connection leaves a step under a condition, its slot, and no two connections share one. The
chain takes the slots of the default condition at all steps but the last. An arrow that stands for a
connection is taken in if no arrow before it stands for one in the same slot and the chain has not
taken it (`Admitted`), so what the arrows add can be read off them one by one (`Adds`). The two are
shown to be the same from the last arrow backwards (`connects_connections`).
-/

namespace StepFlow.Assembly

open Text

variable {ids : List String} {condition nodeId id : String} {base row added : List Connection}
variable {c d : Connection} {e : Edge} {edges more : List Edge} {slot : String × String}

/-! ## What arrows stand for -/

/-- The first id in which the id of a node occurs, in lower case. -/
def IsFound (ids : List String) (nodeId id : String) : Prop :=
  nodeId ≠ "" ∧ ∃ before after, ids = before ++ id :: after ∧
    lower nodeId.toList <:+: id.toList ∧ ∀ other ∈ before, ¬ lower nodeId.toList <:+: other.toList

/-- **The connection that an arrow stands for.** The arrow has a label that is not empty, which is
the condition, and its ends are found among the ids as those of two different steps. -/
structure StandsFor (ids : List String) (e : Edge) (c : Connection) : Prop where
  label : e.label = some c.condition
  label_ne : c.condition ≠ ""
  labelled : c.label = some c.condition
  source : IsFound ids e.source c.source
  target : IsFound ids e.target c.target
  ends_ne : c.source ≠ c.target

/-- **Looking up finds the first id with the node's id in it.** -/
theorem resolve?_eq_some_iff : resolve? nodeId ids = some id ↔ IsFound ids nodeId id := by
  by_cases hempty : nodeId = ""
  · subst hempty
    simp [resolve?, IsFound, lower, lowerAfter]
  · have hlower : ¬ (lower nodeId.toList).isEmpty = true := by
      rwa [List.isEmpty_iff, lower_eq_nil_iff, String.toList_eq_nil_iff]
    rw [resolve?, if_neg hlower, List.find?_eq_some_iff_append]
    simp only [occursIn_iff, Bool.not_eq_true', ← Bool.not_eq_true]
    constructor
    · rintro ⟨hin, before, after, hids, hbefore⟩
      exact ⟨hempty, before, after, hids, hin, hbefore⟩
    · rintro ⟨-, before, after, hids, hin, hbefore⟩
      exact ⟨hin, before, after, hids, hbefore⟩

theorem connection?_eq_some_iff_standsFor : connection? ids e = some c ↔ StandsFor ids e c := by
  rw [connection?_eq_some_iff]
  constructor
  · rintro ⟨l, hl, hne, hsource, htarget, hdiff, rfl, hlabel⟩
    exact ⟨hl, hne, hlabel, resolve?_eq_some_iff.mp hsource, resolve?_eq_some_iff.mp htarget, hdiff⟩
  · intro h
    exact ⟨c.condition, h.label, h.label_ne, resolve?_eq_some_iff.mpr h.source,
      resolve?_eq_some_iff.mpr h.target, h.ends_ne, rfl, h.labelled⟩

/-! ## Slots -/

/-- What a connection takes up: the step it leaves, under the condition. -/
def slotOf (c : Connection) : String × String :=
  (c.source, c.condition)

theorem clashes_iff : clashes c d = true ↔ slotOf d = slotOf c := by
  simp only [clashes, slotOf, Bool.and_eq_true, beq_iff_eq, Prod.mk.injEq]
  exact and_congr eq_comm eq_comm

theorem any_clashes_iff : base.any (clashes c) = true ↔ slotOf c ∈ base.map slotOf := by
  simp only [List.any_eq_true, List.mem_map, clashes_iff]

/-- A connection in a slot that is in use is not added. -/
theorem addConnection_of_mem (h : slotOf c ∈ base.map slotOf) : addConnection base c = base :=
  if_pos (any_clashes_iff.mpr h)

theorem addConnection_of_notMem (h : slotOf c ∉ base.map slotOf) :
    addConnection base c = base ++ [c] :=
  if_neg (mt any_clashes_iff.mp h)

/-- **Adding a connection takes its slot,** whether it is added or not. -/
theorem mem_slots_addConnection :
    slot ∈ (addConnection base c).map slotOf ↔ slot ∈ base.map slotOf ∨ slot = slotOf c := by
  by_cases h : slotOf c ∈ base.map slotOf
  · rw [addConnection_of_mem h]
    refine ⟨.inl, ?_⟩
    rintro (hslot | rfl)
    · exact hslot
    · exact h
  · rw [addConnection_of_notMem h, List.map_append, List.mem_append, List.map_singleton,
      List.mem_singleton]

/-- **Slots stay distinct.** -/
theorem nodup_slots_addConnection (h : (base.map slotOf).Nodup) (c : Connection) :
    ((addConnection base c).map slotOf).Nodup := by
  by_cases hc : slotOf c ∈ base.map slotOf
  · rwa [addConnection_of_mem hc]
  · rw [addConnection_of_notMem hc, List.map_append]
    exact h.append (List.nodup_singleton _) (List.disjoint_singleton.mpr hc)

theorem mem_slots_foldl :
    slot ∈ (row.foldl addConnection base).map slotOf ↔
      slot ∈ base.map slotOf ∨ slot ∈ row.map slotOf := by
  induction row generalizing base with
  | nil => simp
  | cons c row ih =>
    rw [List.foldl_cons, ih, mem_slots_addConnection, List.map_cons, List.mem_cons, or_assoc]

theorem nodup_slots_foldl (h : (base.map slotOf).Nodup) (row : List Connection) :
    ((row.foldl addConnection base).map slotOf).Nodup := by
  induction row generalizing base with
  | nil => exact h
  | cons c row ih => exact ih (nodup_slots_addConnection h c)

/-! ## The chain -/

/-- One link for each two neighbours. -/
theorem chain_eq_map_zip (condition : String) : (ids : List String) →
    chain condition ids =
      (ids.zip ids.tail).map fun (a, b) => { source := a, target := b, condition }
  | [] => rfl
  | [_] => rfl
  | a :: b :: rest => by
    rw [chain, chain_eq_map_zip condition (b :: rest)]
    rfl

/-- The chain takes the slots of all steps but the last one. -/
theorem slots_chain (condition : String) : (ids : List String) →
    (chain condition ids).map slotOf = ids.dropLast.map fun id => (id, condition)
  | [] => rfl
  | [_] => rfl
  | a :: b :: rest => by
    rw [chain, List.map_cons, slots_chain condition (b :: rest)]
    rfl

theorem nodup_slots_chain (hids : ids.Nodup) (condition : String) :
    ((chain condition ids).map slotOf).Nodup := by
  rw [slots_chain]
  exact (hids.sublist (List.dropLast_sublist ids)).map fun a b h => (Prod.mk.inj h).1

/-- Neighbours of distinct ids differ. -/
theorem ends_ne_of_mem_chain (hids : ids.Nodup) (hc : c ∈ chain condition ids) :
    c.source ≠ c.target := by
  fun_induction chain condition ids with
  | case1 a b rest ih =>
    obtain ⟨ha, hrest⟩ := List.nodup_cons.mp hids
    rcases List.mem_cons.mp hc with rfl | hc
    · intro (h : a = b)
      exact ha (h ▸ List.mem_cons_self)
    · exact ih hrest hc
  | case2 => simp at hc

/-- What is not the last of distinct elements stands in front of it. -/
theorem mem_dropLast_iff {α : Type} {xs : List α} {a : α} (h : xs.Nodup) (ha : a ∈ xs) :
    a ∈ xs.dropLast ↔ xs.getLast? ≠ some a := by
  rcases List.eq_nil_or_concat' xs with rfl | ⟨front, last, rfl⟩
  · cases ha
  · rw [List.dropLast_concat, List.getLast?_concat, Ne, Option.some.injEq]
    have hlast : last ∉ front := fun hmem =>
      (List.nodup_append'.mp h).2.2 hmem (List.mem_singleton_self last)
    constructor
    · rintro hfront rfl
      exact hlast hfront
    · intro hne
      rcases List.mem_append.mp ha with ha | ha
      · exact ha
      · exact absurd (List.mem_singleton.mp ha).symm hne

/-! ## Arrows one by one -/

/-- **An arrow behind others is taken in.** It stands for a connection, none of the others stands for
one in its slot, and its slot is not in the chain: the chain leaves all steps but the last one, under
the default condition. -/
structure Admitted (ids : List String) (condition : String) (earlier : List Edge) (e : Edge)
    (c : Connection) : Prop where
  standsFor : StandsFor ids e c
  unused : ∀ e' ∈ earlier, ∀ c', StandsFor ids e' c' →
    ¬ (c'.source = c.source ∧ c'.condition = c.condition)
  outside : ¬ (c.condition = condition ∧ ids.getLast? ≠ some c.source)

/-- **What arrows add** behind others: one connection for each that is taken in behind those before
it, in order. -/
inductive Adds (ids : List String) (condition : String) :
    (earlier edges : List Edge) → List Connection → Prop
  | nil {earlier : List Edge} : Adds ids condition earlier [] []
  | take {earlier edges : List Edge} {added : List Connection} {e : Edge} {c : Connection} :
      Admitted ids condition earlier e c → Adds ids condition (earlier ++ [e]) edges added →
      Adds ids condition earlier (e :: edges) (c :: added)
  | pass {earlier edges : List Edge} {added : List Connection} {e : Edge} :
      (∀ c, ¬ Admitted ids condition earlier e c) → Adds ids condition (earlier ++ [e]) edges added →
      Adds ids condition earlier (e :: edges) added

/-- The slots in use are those of the chain and those that arrows stand for. -/
theorem mem_slots_connections :
    slot ∈ (connections ids edges condition).map slotOf ↔
      slot ∈ (chain condition ids).map slotOf ∨
        ∃ e ∈ edges, ∃ c, StandsFor ids e c ∧ slotOf c = slot := by
  rw [connections, mem_slots_foldl]
  simp only [List.mem_map (f := slotOf) (l := List.filterMap _ _), List.mem_filterMap,
    connection?_eq_some_iff_standsFor]
  refine or_congr_right ⟨?_, ?_⟩
  · rintro ⟨c, ⟨e, he, hc⟩, hslot⟩
    exact ⟨e, he, c, hc, hslot⟩
  · rintro ⟨e, he, c, hc, hslot⟩
    exact ⟨c, ⟨e, he, hc⟩, hslot⟩

/-- **An arrow is taken in exactly if its slot is free.** -/
theorem admitted_iff (hids : ids.Nodup) (h : StandsFor ids e c) :
    Admitted ids condition edges e c ↔
      slotOf c ∉ (connections ids edges condition).map slotOf := by
  have hsource : c.source ∈ ids := mem_of_resolve? (resolve?_eq_some_iff.mpr h.source)
  have hchain : slotOf c ∈ (chain condition ids).map slotOf ↔
      c.condition = condition ∧ ids.getLast? ≠ some c.source := by
    rw [slots_chain, ← mem_dropLast_iff hids hsource, List.mem_map]
    constructor
    · rintro ⟨id, hid, hslot⟩
      obtain ⟨rfl, rfl⟩ := Prod.mk.inj hslot
      exact ⟨rfl, hid⟩
    · rintro ⟨rfl, hid⟩
      exact ⟨c.source, hid, rfl⟩
  rw [mem_slots_connections, not_or, hchain]
  constructor
  · rintro ⟨-, hunused, houtside⟩
    refine ⟨houtside, ?_⟩
    rintro ⟨e', he', c', hc', hslot⟩
    exact hunused e' he' c' hc' (Prod.mk.inj hslot)
  · rintro ⟨houtside, hunused⟩
    exact ⟨h, fun e' he' c' hc' ⟨hs, hcond⟩ => hunused ⟨e', he', c', hc', Prod.ext hs hcond⟩,
      houtside⟩

/-- An arrow is taken in as one connection at most. -/
theorem Admitted.unique {earlier : List Edge} (hc : Admitted ids condition earlier e c)
    (hd : Admitted ids condition earlier e d) : c = d :=
  Option.some.inj ((connection?_eq_some_iff_standsFor.mpr hc.standsFor).symm.trans
    (connection?_eq_some_iff_standsFor.mpr hd.standsFor))

/-- So what arrows add is one list. -/
theorem Adds.unique {earlier : List Edge} {other : List Connection}
    (h : Adds ids condition earlier edges added) (h' : Adds ids condition earlier edges other) :
    added = other := by
  induction h generalizing other with
  | nil =>
    cases h'
    rfl
  | take hc _ ih =>
    cases h' with
    | take hd hrest => rw [hc.unique hd, ih hrest]
    | pass hnone _ => exact absurd hc (hnone _)
  | pass hnone _ ih =>
    cases h' with
    | take hd _ => exact absurd hd (hnone _)
    | pass _ hrest => exact ih hrest

/-- **One arrow more** adds its connection at the end, or nothing. -/
theorem connections_concat (hids : ids.Nodup) (edges : List Edge) (e : Edge) (condition : String) :
    (∃ c, Admitted ids condition edges e c ∧
        connections ids (edges ++ [e]) condition = connections ids edges condition ++ [c]) ∨
      (∀ c, ¬ Admitted ids condition edges e c) ∧
        connections ids (edges ++ [e]) condition = connections ids edges condition := by
  rw [connections_append]
  cases hc : connection? ids e with
  | none =>
    refine .inr ⟨fun c h => ?_, by simp [hc]⟩
    rw [connection?_eq_some_iff_standsFor.mpr h.standsFor] at hc
    cases hc
  | some c =>
    have hstands := connection?_eq_some_iff_standsFor.mp hc
    have hone : [e].filterMap (connection? ids) = [c] := by simp [hc]
    rw [hone, List.foldl_cons, List.foldl_nil]
    by_cases hslot : slotOf c ∈ (connections ids edges condition).map slotOf
    · refine .inr ⟨fun d h => ?_, addConnection_of_mem hslot⟩
      obtain rfl : c = d := Option.some.inj
        (hc.symm.trans (connection?_eq_some_iff_standsFor.mpr h.standsFor))
      exact (admitted_iff hids hstands).mp h hslot
    · exact .inl ⟨c, (admitted_iff hids hstands).mpr hslot, addConnection_of_notMem hslot⟩

/-- **More arrows** add theirs at the end. -/
theorem exists_adds (hids : ids.Nodup) (earlier edges : List Edge) (condition : String) :
    ∃ added, Adds ids condition earlier edges added ∧
      connections ids (earlier ++ edges) condition = connections ids earlier condition ++ added := by
  induction edges generalizing earlier with
  | nil => exact ⟨[], .nil, by rw [List.append_nil, List.append_nil]⟩
  | cons e edges ih =>
    obtain ⟨added, hadds, hrest⟩ := ih (earlier ++ [e])
    rw [List.append_assoc, List.singleton_append] at hrest
    rcases connections_concat hids earlier e condition with ⟨c, hc, hone⟩ | ⟨hnone, hsame⟩
    · refine ⟨c :: added, .take hc hadds, ?_⟩
      rw [hrest, hone, List.append_assoc, List.singleton_append]
    · exact ⟨added, .pass hnone hadds, by rw [hrest, hsame]⟩

/-! ## The connections -/

/-- **What the connections of steps and arrows are:** one unlabelled link for each two neighbours
under the default condition, and then what the arrows add. All have slots of their own, join two
different steps, and stay in front when there are more arrows. -/
structure Connects (ids : List String) (edges : List Edge) (condition : String) : Prop where
  eq_append : ∃ added, (∀ other, Adds ids condition [] edges other ↔ other = added) ∧
    connections ids edges condition =
      (ids.zip ids.tail).map (fun (a, b) => { source := a, target := b, condition, label := none }) ++
        added
  slots : ((connections ids edges condition).map fun c => (c.source, c.condition)).Nodup
  ends : ∀ c ∈ connections ids edges condition,
    c.source ∈ ids ∧ c.target ∈ ids ∧ c.source ≠ c.target
  stays : ∀ more, connections ids edges condition <+: connections ids (edges ++ more) condition

/-- **The connections of distinct steps are the chain and the arrows that are taken in.** -/
theorem connects_connections (hids : ids.Nodup) (edges : List Edge) (condition : String) :
    Connects ids edges condition where
  eq_append := by
    obtain ⟨added, hadds, heq⟩ := exists_adds hids [] edges condition
    refine ⟨added, fun other => ⟨fun h => h.unique hadds, fun h => h ▸ hadds⟩, ?_⟩
    rw [List.nil_append] at heq
    rw [heq, ← chain_eq_map_zip]
    rfl
  slots := nodup_slots_foldl (nodup_slots_chain hids condition) _
  ends := by
    intro c hc
    obtain ⟨hsource, htarget⟩ := mem_ids_of_mem_connections hc
    refine ⟨hsource, htarget, ?_⟩
    rcases of_mem_connections hc with hc | ⟨e, -, he⟩
    · exact ends_ne_of_mem_chain hids hc
    · exact (connection?_eq_some_iff_standsFor.mp he).ends_ne
  stays := by
    intro more
    obtain ⟨added, -, heq⟩ := exists_adds hids edges more condition
    exact ⟨added, heq.symm⟩

/-- An enquiry in three steps. -/
def enquiry : List String :=
  ["step_1_ask", "step_2_check", "step_3_close"]

/-- Arrows between its steps: one that is taken in, three that are not (its slot is in use, the chain
has the slot, an end is no step), and one under the default condition from the last step. -/
def enquiryArrows : List Edge := [
  { source := "Check", target := "ask", label := some "No" },
  { source := "step_2", target := "close", label := some "No" },
  { source := "ask", target := "close", label := some "success" },
  { source := "check", target := "archive", label := some "Yes" },
  { source := "close", target := "ask", label := some "success" }]

/-- Two of the five arrows are taken in. -/
theorem connects_enquiry :
    enquiry.Nodup ∧ Connects enquiry enquiryArrows "success" ∧
      connections enquiry enquiryArrows "success" = [
        { source := "step_1_ask", target := "step_2_check" },
        { source := "step_2_check", target := "step_3_close" },
        { source := "step_2_check", target := "step_1_ask", condition := "No", label := some "No" },
        { source := "step_3_close", target := "step_1_ask", label := some "success" }] :=
  ⟨by decide, connects_connections (by decide) _ _, by decide +kernel⟩

end StepFlow.Assembly
