import StepFlow.Proofs.First
import StepFlow.Proofs.Process.StepId
/-!
# Finding step ids again

A diagram that names a step by its id means that step, unless the title of an earlier step quotes
the id. An id opens with its position between two underscores, and the letter that it opens with
occurs nowhere in front of a slug but there. So the id of one step cannot occur in that of another
across the border of the slug: it occurs in the slug, or not at all (`infix_slug`). What is found is
then the first step whose slug quotes the id, or the step itself (`resolve?_stepIds`).
-/

namespace StepFlow.Assembly

open Text

variable {titles : List String} {title other id : String} {i n m : Nat}

/-- The ids of steps with the given titles, which are numbered from one. -/
def stepIds (titles : List String) : List String :=
  titles.mapIdx fun i title => stepId (i + 1 : Nat) title

/-- **An id of the given position and slug.** It is made of plain characters, and the slug has at most
thirty of them. -/
structure HasParts (position : Nat) (slug : List Char) (id : String) : Prop where
  toList_eq : id.toList = "step_".toList ++ (decimal position ++ '_' :: slug)
  isPlain : ∀ c ∈ id.toList, IsPlain c
  length_le : slug.length ≤ 30

/-! ## Ids by position -/

theorem getElem?_stepIds_eq_some_iff :
    (stepIds titles)[i]? = some id ↔
      ∃ title, titles[i]? = some title ∧ stepId (i + 1 : Nat) title = id := by
  rw [stepIds, List.getElem?_mapIdx, Option.map_eq_some_iff]

/-- The steps that are built have these ids. -/
theorem map_id_buildSteps (opts : Options) (p : Nat) (prev : Option String) (cs : List Classified) :
    (buildSteps opts p prev cs).map (·.id) =
      (cs.map (·.step.title)).mapIdx fun i title => stepId (i + p : Nat) title := by
  induction cs generalizing p prev with
  | nil => rfl
  | cons c cs ih =>
    rw [buildSteps, List.map_cons, ih, List.map_cons, List.mapIdx_cons]
    congr 1
    · rw [Nat.zero_add]
      rfl
    · congr 1
      funext i title
      rw [Nat.add_right_comm, Nat.add_assoc]

/-- A slug is cut at the limit. -/
theorem length_slug_le (title : String) : (slug title slugLimit).length ≤ 30 := by
  rw [slug, takeUpTo, if_pos (by decide)]
  exact List.length_take_le _ _

theorem hasParts_stepId (n : Nat) (title : String) :
    HasParts n (slug title slugLimit) (stepId n title) :=
  ⟨toList_stepId n title, fun _ hc => isPlain_of_mem_stepId hc, length_slug_le title⟩

/-- **No two of the ids are the same**, since their positions differ. -/
theorem nodup_stepIds (titles : List String) : (stepIds titles).Nodup := by
  unfold stepIds List.Nodup
  rw [List.pairwise_iff_getElem]
  intro i j hi hj hlt heq
  rw [List.getElem_mapIdx, List.getElem_mapIdx] at heq
  have := stepId_injective heq
  omega

/-! ## One id in another -/

/-- The letter that an id opens with stands nowhere else in front of a slug. -/
theorem notMem_front (n : Nat) : 's' ∉ "tep_".toList ++ (decimal n ++ ['_']) := by
  intro h
  rcases List.mem_append.mp h with htep | hrest
  · exact absurd htep (by decide)
  · rcases List.mem_append.mp hrest with hdigit | hmark
    · exact absurd (isAsciiDigit_of_mem_decimal hdigit) (by decide)
    · exact absurd hmark (by decide)

/-- **An id occurs in that of another position only in its slug.** -/
theorem infix_slug (hne : n ≠ m) (h : (stepId n title).toList <:+: (stepId m other).toList) :
    (stepId n title).toList <:+: slug other slugLimit := by
  have hopens : (stepId n title).toList =
      's' :: ("tep_".toList ++ (decimal n ++ '_' :: slug title slugLimit)) := toList_stepId n title
  have hparts : (stepId m other).toList =
      's' :: (("tep_".toList ++ (decimal m ++ ['_'])) ++ slug other slugLimit) := by
    rw [toList_stepId]
    simp
  rcases List.infix_cons_iff.mp (hparts ▸ h) with hstart | hlater
  · -- it would start with the same digits
    rw [← hparts] at hstart
    exact absurd (eq_of_stepId_isPrefix hstart) hne
  · rw [hopens] at hlater ⊢
    exact infix_of_infix_append hlater (notMem_front m)

/-! ## What an id finds -/

/-- **The id of the step at one place finds the step at another:** the first whose slug quotes the
id, or its own step if no slug before it does. -/
structure Finds (titles : List String) (id : String) (i j : Nat) : Prop where
  le : j ≤ i
  quoted : j < i → ∃ title, titles[j]? = some title ∧ id.toList <:+: slug title slugLimit
  first : ∀ k < j, ∀ title, titles[k]? = some title → ¬ id.toList <:+: slug title slugLimit

/-- A slug occurs in its id. -/
theorem slug_isInfix (n : Nat) (title : String) :
    slug title slugLimit <:+: (stepId n title).toList := by
  rw [toList_stepId, ← List.append_assoc, ← List.singleton_append, ← List.append_assoc]
  exact List.infix_append_right

/-- **Each id finds the first step that quotes it, or its own.** -/
theorem exists_finds (hid : (stepIds titles)[i]? = some id) :
    ∃ j found, (stepIds titles)[j]? = some found ∧ resolve? id (stepIds titles) = some found ∧
      Finds titles id i j := by
  obtain ⟨title, -, rfl⟩ := getElem?_stepIds_eq_some_iff.mp hid
  have hresolve := resolve?_eq_find? (stepId_ne_empty (i + 1) title)
    (fun _ hc => isPlain_of_mem_stepId hc) (stepIds titles)
  have hself : occursIn (stepId (i + 1 : Nat) title).toList (stepId (i + 1 : Nat) title).toList =
      true := occursIn_iff.mpr List.infix_rfl
  have hsome : (resolve? (stepId (i + 1 : Nat) title) (stepIds titles)).isSome = true := by
    rw [hresolve, List.find?_isSome]
    exact ⟨_, List.mem_of_getElem? hid, hself⟩
  obtain ⟨found, hfound⟩ := Option.isSome_iff_exists.mp hsome
  obtain ⟨j, hat, hin, hfirst⟩ := find?_eq_some_iff_getElem?.mp (hresolve ▸ hfound)
  refine ⟨j, found, hat, hfound, ?_, ?_, ?_⟩
  · -- no id is passed over where it stands itself
    by_contra hlater
    have hmissed := hfirst i (Nat.not_le.mp hlater) _ hid
    rw [hself] at hmissed
    cases hmissed
  · intro hlt
    obtain ⟨other, hother, rfl⟩ := getElem?_stepIds_eq_some_iff.mp hat
    exact ⟨other, hother, infix_slug (by omega) (occursIn_iff.mp hin)⟩
  · intro k hk other hother hquoted
    have hmissed := hfirst k hk _ (getElem?_stepIds_eq_some_iff.mpr ⟨other, hother, rfl⟩)
    rw [occursIn_iff.mpr (hquoted.trans (slug_isInfix _ other))] at hmissed
    cases hmissed

/-- **Step ids tell steps apart, and find them again.** The ids that steps with any titles are given
are plain, have slugs of at most thirty characters and are all different. An id finds the first step
whose slug quotes it if that stands before its own, and else its own. -/
theorem resolve?_stepIds (titles : List String) :
    (∀ (opts : Options) (cs : List Classified) (edges : List Edge),
      cs.map (·.step.title) = titles → (assemble opts cs edges).ids = stepIds titles) ∧
    (∀ (i : Nat) (id : String), (stepIds titles)[i]? = some id →
      ∃ title, titles[i]? = some title ∧ HasParts (i + 1) (slug title slugLimit) id) ∧
    (stepIds titles).Nodup ∧
    ∀ (i : Nat) (id : String), (stepIds titles)[i]? = some id →
      ∃ j found, (stepIds titles)[j]? = some found ∧
        resolve? id (stepIds titles) = some found ∧ Finds titles id i j := by
  refine ⟨fun opts cs edges hcs => ?_, fun i id hid => ?_, nodup_stepIds titles,
    fun i id hid => exists_finds hid⟩
  · rw [← hcs]
    exact map_id_buildSteps opts 1 none cs
  · obtain ⟨title, htitle, rfl⟩ := getElem?_stepIds_eq_some_iff.mp hid
    exact ⟨title, htitle, hasParts_stepId (i + 1) title⟩

/-- Titles of which the first quotes the id of the second step, and the third those of both. -/
def quoting : List String :=
  ["See step 2 go", "Go", "As step 1 see step 2 go", ""]

/-- The second step is mistaken for the first. -/
theorem resolve?_stepIds_quoting :
    stepIds quoting =
        ["step_1_see_step_2_go", "step_2_go", "step_3_as_step_1_see_step_2_go", "step_4_"] ∧
      (stepIds quoting)[1]? = some "step_2_go" ∧
      resolve? "step_2_go" (stepIds quoting) = some "step_1_see_step_2_go" ∧
      (∃ title, quoting[1]? = some title ∧ HasParts 2 (slug title slugLimit) "step_2_go") ∧
      Finds quoting "step_2_go" 1 0 := by
  obtain ⟨-, hparts, -, hfinds⟩ := resolve?_stepIds quoting
  have hids : stepIds quoting =
      ["step_1_see_step_2_go", "step_2_go", "step_3_as_step_1_see_step_2_go", "step_4_"] := by
    decide +kernel
  have hid : (stepIds quoting)[1]? = some "step_2_go" := by rw [hids]; rfl
  have hfirst : resolve? "step_2_go" (stepIds quoting) = some "step_1_see_step_2_go" := by
    rw [hids]
    decide +kernel
  obtain ⟨j, found, hat, hfound, hj⟩ := hfinds 1 "step_2_go" hid
  have hplace : j = 0 := by
    obtain rfl : found = "step_1_see_step_2_go" := Option.some.inj (hfound.symm.trans hfirst)
    by_contra hlater
    obtain rfl : j = 1 := by have := hj.le; omega
    exact absurd (hid.symm.trans hat) (by decide)
  subst hplace
  exact ⟨hids, hid, hfirst, hparts 1 "step_2_go" hid, hj⟩

end StepFlow.Assembly
