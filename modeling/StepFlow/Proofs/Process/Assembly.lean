import StepFlow.Proofs.Definition.Flaw
import StepFlow.Proofs.Process.StepId
/-!
# What is assembled

The steps of an assembled definition have ids by position and depend on the step before them, so
their ids are distinct and their dependencies go one way. Its connections are the chain of steps and
then those arrows, in order, that were added: taking in the added ones again adds them again and
nothing else (`exists_added`). Every end of a connection is a step. Together these make the whole
sound (`check_assemble`), whatever the steps and the arrows are.
-/

namespace StepFlow.Assembly

open Definition

variable {opts : Options} {p : Nat} {prev : Option String} {cs : List Classified} {s : Step}
variable {ids : List String} {condition : String} {c : Connection} {edges : List Edge}

/-! ## Steps -/

/-- Each step is built from one that was classified, at its position. -/
theorem exists_eq_buildStep (hs : s ∈ buildSteps opts p prev cs) :
    ∃ q prev', ∃ c ∈ cs, p ≤ q ∧ s = buildStep opts q prev' c := by
  induction cs generalizing p prev with
  | nil => simp [buildSteps] at hs
  | cons c cs ih =>
    rw [buildSteps] at hs
    rcases List.mem_cons.mp hs with rfl | hs
    · exact ⟨p, prev, c, List.mem_cons_self, le_rfl, rfl⟩
    · obtain ⟨q, prev', c', hc', hq, rfl⟩ := ih hs
      exact ⟨q, prev', c', List.mem_cons_of_mem _ hc', by omega, rfl⟩

/-- What a step takes from its position and from its outline. -/
theorem exists_of_mem_buildSteps (hs : s ∈ buildSteps opts p prev cs) :
    ∃ q : Nat, ∃ c ∈ cs, p ≤ q ∧ s.id = stepId q c.step.title ∧ s.name = c.step.title := by
  obtain ⟨q, -, c, hc, hq, rfl⟩ := exists_eq_buildStep hs
  exact ⟨q, c, hc, hq, rfl, rfl⟩

/-- **Built ids are distinct.** -/
theorem nodup_buildSteps (opts : Options) (p : Nat) (prev : Option String) (cs : List Classified) :
    ((buildSteps opts p prev cs).map (·.id)).Nodup := by
  induction cs generalizing p prev with
  | nil => exact List.nodup_nil
  | cons c cs ih =>
    rw [buildSteps, List.map_cons, List.nodup_cons]
    refine ⟨fun hmem => ?_, ih _ _⟩
    obtain ⟨s, hs, hid⟩ := List.mem_map.mp hmem
    obtain ⟨q, c', -, hq, hid', -⟩ := exists_of_mem_buildSteps hs
    have := stepId_injective (hid'.symm.trans hid)
    omega

/-- One step is built for each. -/
theorem length_buildSteps (opts : Options) (p : Nat) (prev : Option String) (cs : List Classified) :
    (buildSteps opts p prev cs).length = cs.length := by
  induction cs generalizing p prev with
  | nil => rfl
  | cons c cs ih => rw [buildSteps, List.length_cons, List.length_cons, ih]

/-- **A built step stands right behind what it depends on.** -/
theorem sublist_of_mem_dependencies {b : String} (hs : s ∈ buildSteps opts p prev cs)
    (hb : b ∈ s.dependencies) :
    [b, s.id].Sublist (prev.toList ++ (buildSteps opts p prev cs).map (·.id)) := by
  induction cs generalizing p prev with
  | nil => simp [buildSteps] at hs
  | cons c cs ih =>
    rw [buildSteps] at hs ⊢
    rw [List.map_cons]
    rcases List.mem_cons.mp hs with rfl | hs
    · have hprev : prev = some b := by simpa [buildStep] using hb
      rw [hprev]
      exact (List.nil_sublist _).cons_cons _ |>.cons_cons _
    · have := ih hs
      rw [Option.toList_some, List.singleton_append] at this
      exact this.trans (List.sublist_append_right _ _)

/-! ## The chain -/

theorem of_mem_chain (hc : c ∈ chain condition ids) :
    c.source ∈ ids ∧ c.target ∈ ids ∧ c.label = none := by
  fun_induction chain condition ids with
  | case1 a b rest ih =>
    rcases List.mem_cons.mp hc with rfl | hc
    · simp
    · obtain ⟨hsource, htarget, hlabel⟩ := ih hc
      exact ⟨List.mem_cons_of_mem _ hsource, List.mem_cons_of_mem _ htarget, hlabel⟩
  | case2 => simp at hc

/-! ## Arrows -/

/-- **What an arrow stands for.** -/
theorem connection?_eq_some_iff {e : Edge} :
    connection? ids e = some c ↔
      ∃ l, e.label = some l ∧ l ≠ "" ∧ resolve? e.source ids = some c.source ∧
        resolve? e.target ids = some c.target ∧ c.source ≠ c.target ∧
        c.condition = l ∧ c.label = some l := by
  simp only [connection?, Option.bind_eq_bind, Option.bind_eq_some_iff]
  constructor
  · rintro ⟨l, hl, source, hsource, target, htarget, hc⟩
    split at hc
    · cases hc
    · rename_i hok
      rw [not_or] at hok
      obtain rfl := Option.some.inj hc
      exact ⟨l, hl, by simpa using hok.1, hsource, htarget, hok.2, rfl, rfl⟩
  · rintro ⟨l, hl, hne, hsource, htarget, hdiff, hcondition, hlabel⟩
    refine ⟨l, hl, _, hsource, _, htarget, ?_⟩
    rw [if_neg (by simpa [hne] using hdiff), ← hcondition]
    rw [← hcondition] at hlabel
    simp [← hlabel]

/-- **Added connections are added again.** What a row of connections adds to a list is a part of
the row, and that part alone adds the same. -/
theorem exists_added (base row : List Connection) :
    ∃ added, row.foldl addConnection base = base ++ added ∧ added ⊆ row ∧
      added.foldl addConnection base = base ++ added := by
  -- what is added goes to the end of the base, so the second round meets the same clashes
  induction row generalizing base with
  | nil => exact ⟨[], by simp, by simp, by simp⟩
  | cons c row ih =>
    by_cases hclash : base.any (clashes c) = true
    · have hsame : addConnection base c = base := if_pos hclash
      obtain ⟨added, hrow, hsub, hagain⟩ := ih base
      refine ⟨added, ?_, fun x hx => List.mem_cons_of_mem _ (hsub hx), hagain⟩
      rw [List.foldl_cons, hsame, hrow]
    · have hmore : addConnection base c = base ++ [c] := if_neg hclash
      obtain ⟨added, hrow, hsub, hagain⟩ := ih (base ++ [c])
      refine ⟨c :: added, ?_, List.cons_subset_cons _ hsub, ?_⟩
      · rw [List.foldl_cons, hmore, hrow, List.append_assoc, List.singleton_append]
      · rw [List.foldl_cons, hmore, hagain, List.append_assoc, List.singleton_append]

/-- **The connections are the chain and the added arrows**, and with more arrows these come
first. -/
theorem exists_connections (ids : List String) (edges : List Edge) (condition : String) :
    ∃ added, connections ids edges condition = chain condition ids ++ added ∧
      added ⊆ edges.filterMap (connection? ids) ∧
      added.foldl addConnection (chain condition ids) = chain condition ids ++ added :=
  exists_added _ _

/-- More arrows are taken in after the others. -/
theorem connections_append (ids : List String) (edges more : List Edge) (condition : String) :
    connections ids (edges ++ more) condition =
      (more.filterMap (connection? ids)).foldl addConnection (connections ids edges condition) := by
  rw [connections, List.filterMap_append, List.foldl_append, connections]

/-- A connection is a link of the chain, or an arrow stands for it. -/
theorem of_mem_connections (hc : c ∈ connections ids edges condition) :
    c ∈ chain condition ids ∨ ∃ e ∈ edges, connection? ids e = some c := by
  obtain ⟨added, heq, hsub, -⟩ := exists_connections ids edges condition
  rw [heq] at hc
  rcases List.mem_append.mp hc with hc | hc
  · exact .inl hc
  · exact .inr (List.mem_filterMap.mp (hsub hc))

/-- Both ends of a connection are steps. -/
theorem mem_ids_of_mem_connections (hc : c ∈ connections ids edges condition) :
    c.source ∈ ids ∧ c.target ∈ ids := by
  rcases of_mem_connections hc with hc | ⟨e, -, he⟩
  · exact ⟨(of_mem_chain hc).1, (of_mem_chain hc).2.1⟩
  · obtain ⟨l, -, -, hsource, htarget, -⟩ := connection?_eq_some_iff.mp he
    exact ⟨mem_of_resolve? hsource, mem_of_resolve? htarget⟩

/-- The label of a connection is that of an arrow. -/
theorem exists_label_of_mem_connections {label : String} (hc : c ∈ connections ids edges condition)
    (hlabel : c.label = some label) : ∃ e ∈ edges, e.label = some label := by
  rcases of_mem_connections hc with hc | ⟨e, hmem, he⟩
  · rw [(of_mem_chain hc).2.2] at hlabel
    cases hlabel
  · obtain ⟨l, hl, -, -, -, -, -, hcl⟩ := connection?_eq_some_iff.mp he
    exact ⟨e, hmem, hl.trans (hcl.symm.trans hlabel)⟩

/-! ## The whole -/

/-- An assembled definition is coherent. -/
theorem coherent_assemble (opts : Options) (cs : List Classified) (edges : List Edge) :
    (assemble opts cs edges).Coherent where
  distinct := nodup_buildSteps opts 1 none cs
  joined := fun _ hc => mem_ids_of_mem_connections hc
  known := by
    intro s hs b hb
    have h := sublist_of_mem_dependencies hs hb
    exact h.subset List.mem_cons_self

/-- **An assembled definition is sound.** -/
theorem check_assemble (opts : Options) (cs : List Classified) (edges : List Edge) :
    (assemble opts cs edges).check = .ok () := by
  have h := coherent_assemble opts cs edges
  refine h.check_eq_ok_iff.mpr (not_cyclic_of_sublist h.distinct ?_)
  rintro a b ⟨s, hs, rfl, hb⟩
  exact sublist_of_mem_dependencies hs hb

end StepFlow.Assembly
