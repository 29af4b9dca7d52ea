import StepFlow.Process.Classify
import StepFlow.Proofs.First
import StepFlow.Proofs.Text.Case
/-!
# More text promotes a step

The kind and the service of a step are those of the first rule that has a keyword in its text. Text
that is put in front of the title or behind the description leaves all keywords where they are: they
are searched for in lower case, and no keyword has a sigma, the one letter whose lower-case form
depends on the letters around it (`mentions_of_infix`). So a rule that decided before still has a
keyword, and only an earlier rule can take its place (`Decides.exists_le`).
-/

namespace StepFlow.Classify

open Text

variable {α : Type} {rules : List (α × List String)} {text more : List Char} {place : Nat}
variable {words : List String} {a : α}

/-! ## Which rule decides -/

/-- **The rule at a place decides for its result:** it has a keyword in the text, and no rule before
it has one. -/
structure Decides (rules : List (α × List String)) (text : List Char) (place : Nat) (result : α) :
    Prop where
  stands : ∃ words, rules[place]? = some (result, words) ∧ mentions text words = true
  first : ∀ earlier < place, ∀ rule, rules[earlier]? = some rule → mentions text rule.2 = false

/-- The result of the first rule is that of a rule that decides. -/
theorem firstRule?_eq_some_iff :
    firstRule? rules text = some a ↔ ∃ place, Decides rules text place a := by
  unfold firstRule?
  rw [Option.map_eq_some_iff]
  constructor
  · rintro ⟨⟨result, words⟩, hfind, rfl⟩
    obtain ⟨place, hrule, hwords, hfirst⟩ := find?_eq_some_iff_getElem?.mp hfind
    exact ⟨place, ⟨words, hrule, hwords⟩, hfirst⟩
  · rintro ⟨place, ⟨words, hrule, hwords⟩, hfirst⟩
    exact ⟨(a, words), find?_eq_some_iff_getElem?.mpr ⟨place, hrule, hwords, hfirst⟩, rfl⟩

/-- Some rule decides if some rule has a keyword. -/
theorem exists_decides (h : ∃ rule ∈ rules, mentions text rule.2 = true) :
    ∃ place a, Decides rules text place a := by
  obtain ⟨rule, hrule, hwords⟩ := h
  have hfound : (firstRule? rules text).isSome = true := by
    unfold firstRule?
    rw [Option.isSome_map, List.find?_isSome]
    exact ⟨rule, hrule, hwords⟩
  obtain ⟨a, ha⟩ := Option.isSome_iff_exists.mp hfound
  obtain ⟨place, hplace⟩ := firstRule?_eq_some_iff.mp ha
  exact ⟨place, a, hplace⟩

/-- **If no rule loses its keywords, no later rule decides.** -/
theorem Decides.exists_le (h : Decides rules text place a)
    (hkept : ∀ rule ∈ rules, mentions text rule.2 = true → mentions more rule.2 = true) :
    ∃ place' ≤ place, ∃ b, Decides rules more place' b := by
  obtain ⟨words, hrule, hwords⟩ := h.stands
  have hwords' : mentions more words = true := hkept _ (List.mem_of_getElem? hrule) hwords
  obtain ⟨place', b, hdecides⟩ := exists_decides ⟨_, List.mem_of_getElem? hrule, hwords'⟩
  refine ⟨place', ?_, b, hdecides⟩
  by_contra hlater
  have hnone := hdecides.first place (Nat.not_le.mp hlater) _ hrule
  rw [hwords'] at hnone
  cases hnone

/-- **The result for the longer text is promoted from that for the shorter one:** its rule stands at
the same place or earlier. -/
def Promotes (rules : List (α × List String)) (text more : List Char) (a b : α) : Prop :=
  ∃ place place', Decides rules text place a ∧ Decides rules more place' b ∧ place' ≤ place

/-! ## What more text does -/

/-- The keywords of a table have no sigma. -/
def IsSigmaFree (rules : List (α × List String)) : Prop :=
  ∀ rule ∈ rules, ∀ word ∈ rule.2, 'ς' ∉ word.toList ∧ 'σ' ∉ word.toList

theorem isSigmaFree_kindRules : IsSigmaFree kindRules := by
  unfold IsSigmaFree
  decide

theorem isSigmaFree_integrationRules : IsSigmaFree integrationRules := by
  unfold IsSigmaFree
  decide

/-- A keyword of a part of a text is a keyword of the text. -/
theorem mentions_of_infix (hwords : ∀ word ∈ words, 'ς' ∉ word.toList ∧ 'σ' ∉ word.toList)
    (h : text <:+: more) (hmentions : mentions (lower text) words = true) :
    mentions (lower more) words = true := by
  obtain ⟨word, hword, hoccurs⟩ := List.any_eq_true.mp hmentions
  refine List.any_eq_true.mpr ⟨word, hword, ?_⟩
  rw [occursIn_iff] at hoccurs ⊢
  exact infix_lower_of_infix (hwords word hword) h hoccurs

/-- **More text promotes what a table decides.** -/
theorem exists_promotes (hrules : IsSigmaFree rules) (h : text <:+: more)
    (hfirst : firstRule? rules (lower text) = some a) :
    ∃ b, firstRule? rules (lower more) = some b ∧ Promotes rules (lower text) (lower more) a b := by
  obtain ⟨place, hplace⟩ := firstRule?_eq_some_iff.mp hfirst
  obtain ⟨place', hle, b, hplace'⟩ := hplace.exists_le fun rule hrule =>
    mentions_of_infix (hrules rule hrule) h
  exact ⟨b, firstRule?_eq_some_iff.mpr ⟨place', hplace'⟩, place, place', hplace, hplace', hle⟩

/-! ## Steps -/

/-- The words of a step stand in those of the step with more in front and behind. -/
theorem searched_isInfix (before title description after : String) :
    title.toList ++ ' ' :: description.toList <:+:
      (before ++ title).toList ++ ' ' :: (description ++ after).toList :=
  ⟨before.toList, after.toList, by simp⟩

/-- **More text promotes a step.** The kind of a step with keywords does not depend on where the
step stands. With text put in front of the title and behind the description it is the kind of the
same rule or of an earlier one, and a service stays that of the same rule or becomes that of an
earlier one. -/
theorem kind_and_integration_promote (before title description after : String) :
    ((∃ rule ∈ kindRules, mentions (searched title description) rule.2 = true) →
      ∃ a b, Promotes kindRules (searched title description)
          (searched (before ++ title) (description ++ after)) a b ∧
        ∀ index total, kind title description index total = a ∧
          kind (before ++ title) (description ++ after) index total = b) ∧
    ∀ service, integration? title description = some service →
      ∃ other, integration? (before ++ title) (description ++ after) = some other ∧
        Promotes integrationRules (searched title description)
          (searched (before ++ title) (description ++ after)) service other := by
  have hinfix := searched_isInfix before title description after
  refine ⟨fun hwords => ?_, fun service hservice => ?_⟩
  · obtain ⟨place, a, hplace⟩ := exists_decides hwords
    have ha := firstRule?_eq_some_iff.mpr ⟨place, hplace⟩
    obtain ⟨b, hb, hpromotes⟩ := exists_promotes isSigmaFree_kindRules hinfix ha
    refine ⟨a, b, hpromotes, fun index total => ⟨?_, ?_⟩⟩
    · rw [kind, ha, Option.getD_some]
    · rw [kind, searched, hb, Option.getD_some]
  · exact exists_promotes isSigmaFree_integrationRules hinfix hservice

/-- A step that stores a message of a channel, and the same step with a process in front of its title
and a deal behind its description. -/
theorem kind_and_integration_promote_store :
    (∃ rule ∈ kindRules, mentions (searched "Store" "the channel message") rule.2 = true) ∧
      integration? "Store" "the channel message" = some "slack" ∧
      (Promotes kindRules (searched "Store" "the channel message")
          (searched ("Process: " ++ "Store") ("the channel message" ++ " for a CRM deal"))
          .storage .action ∧
        ∀ index total, kind "Store" "the channel message" index total = .storage ∧
          kind ("Process: " ++ "Store") ("the channel message" ++ " for a CRM deal") index total =
            .action) ∧
      Promotes integrationRules (searched "Store" "the channel message")
        (searched ("Process: " ++ "Store") ("the channel message" ++ " for a CRM deal"))
        "slack" "hubspot" := by
  have hwords : ∃ rule ∈ kindRules,
      mentions (searched "Store" "the channel message") rule.2 = true := by decide +kernel
  have hservice : integration? "Store" "the channel message" = some "slack" := by decide +kernel
  obtain ⟨hkind, hintegration⟩ :=
    kind_and_integration_promote "Process: " "Store" "the channel message" " for a CRM deal"
  obtain ⟨a, b, hpromotes, hkinds⟩ := hkind hwords
  obtain ⟨other, hother, hpromotes'⟩ := hintegration "slack" hservice
  have ha : a = .storage := (hkinds 1 3).1.symm.trans (by decide +kernel)
  have hb : b = .action := (hkinds 1 3).2.symm.trans (by decide +kernel)
  have hhubspot : other = "hubspot" := Option.some.inj (hother.symm.trans (by decide +kernel))
  subst ha hb hhubspot
  exact ⟨hwords, hservice, ⟨hpromotes, hkinds⟩, hpromotes'⟩

end StepFlow.Classify
