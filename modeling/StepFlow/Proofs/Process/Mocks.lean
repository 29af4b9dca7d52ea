import StepFlow.Proofs.Process.Appending
import StepFlow.Proofs.Process.Tally
import StepFlow.Proofs.Schema.Sample
/-!
# Canned responses

A compiled definition has canned responses for the service of the most steps (`mocks_of_compile`):
one for each of the steps that work with it, in their order and under their ids. The ids are
distinct, so that no response takes the place of another, and each response is a sample of its
step's output, so that it conforms to the schema that the step declares.
-/

namespace StepFlow

/-! ## Services of classified steps -/

namespace Classify

variable {total : Int} {index : Nat} {outline : List Outline.Step} {c : Classified}

/-- What a table of rules gives stands in the table. -/
theorem exists_mem_of_firstRule? {α : Type} {rules : List (α × List String)} {text : List Char}
    {a : α} (h : firstRule? rules text = some a) : ∃ words, (a, words) ∈ rules := by
  obtain ⟨rule, hrule, rfl⟩ := Option.map_eq_some_iff.mp h
  exact ⟨rule.2, List.mem_of_find?_eq_some hrule⟩

/-- No service is named by the empty text. -/
theorem integration?_ne_empty (title description : String) :
    integration? title description ≠ some "" := by
  intro h
  obtain ⟨words, hmem⟩ := exists_mem_of_firstRule? h
  have hnamed : ∀ rule ∈ integrationRules, rule.1 ≠ "" := by decide
  exact hnamed _ hmem rfl

theorem integration_ne_empty (hc : c ∈ stepsFrom total index outline) :
    c.integration ≠ some "" := by
  induction outline generalizing index with
  | nil => cases hc
  | cons s outline ih =>
    rw [stepsFrom] at hc
    rcases List.mem_cons.mp hc with rfl | hc
    · exact integration?_ne_empty s.title s.description
    · exact ih hc

end Classify

namespace Assembly

variable {cs : List Classified} {built : List Step} {s : Step} {p : String}

theorem map_integration_buildSteps (opts : Options) (position : Nat) (previous : Option String)
    (cs : List Classified) :
    (buildSteps opts position previous cs).map (·.integration) = cs.map (·.integration) := by
  induction cs generalizing position previous with
  | nil => rfl
  | cons c cs ih => rw [buildSteps, List.map_cons, ih, List.map_cons, buildStep]

/-! ## The primary service of steps -/

/-- If every service has a name, a tally counts all of them. -/
theorem counts_services (hnamed : ∀ c ∈ cs, c.integration ≠ some "") :
    Counts (cs.map (·.integration)).reduceOption (tally cs) := by
  have hall : ∀ name ∈ cs.filterMap (·.integration), (!name.isEmpty) = true := by
    intro name hname
    obtain ⟨c, hc, hservice⟩ := List.mem_filterMap.mp hname
    have hne : name ≠ "" := fun heq => hnamed c hc (heq ▸ hservice)
    simpa using hne
  have hservices : (cs.map (·.integration)).reduceOption = cs.filterMap (·.integration) := by
    rw [List.reduceOption, List.filterMap_map]
    rfl
  rw [hservices, ← List.filter_eq_self.mpr hall]
  exact counts_tally cs

/-- **There is a primary service if any step has a service.** -/
theorem primaryIntegration_cases (hnamed : ∀ c ∈ cs, c.integration ≠ some "") :
    (primaryIntegration cs = none ∧ ∀ service ∈ cs.map (·.integration), service = none) ∨
      ∃ p, primaryIntegration cs = some p ∧ IsPrimary (cs.map (·.integration)) p := by
  have hcounts := counts_services hnamed
  rw [primaryIntegration]
  cases hlead : leader? (tally cs) with
  | none =>
    refine .inl ⟨rfl, fun service hservice => ?_⟩
    cases service with
    | none => rfl
    | some name =>
      have hkey := (hcounts.mem_keys_iff name).mpr (List.reduceOption_mem_iff.mpr hservice)
      rw [leader?_eq_none hlead] at hkey
      cases hkey
  | some e => exact .inr ⟨e.1, rfl, hcounts.isPrimary hlead⟩

/-! ## Responses -/

/-- The samples of the steps that work with a service, under their ids. -/
def responses (service : String) (built : List Step) : Record :=
  (built.filter fun s => s.integration = some service).map fun s =>
    (.text s.id, Schema.sample s.id s.name s.kind [])

theorem keys_responses (service : String) (built : List Step) :
    (responses service built).keys =
      (built.filter fun s => s.integration = some service).map fun s => .text s.id := by
  rw [responses, Entries.keys, List.map_map]
  rfl

/-- Distinct ids are distinct as keys. -/
theorem pairwise_responses (service : String) (hids : (built.map (·.id)).Nodup) :
    (responses service built).Pairwise fun e f => ¬ (e.1 == f.1) = true := by
  refine List.pairwise_map.mpr (((List.pairwise_map.mp hids).filter _).imp fun hne heq => ?_)
  rw [Scalar.text_beq_text, beq_iff_eq] at heq
  exact hne heq

/-- **No response takes the place of another**, so a look-up finds that of each step. -/
theorem get?_responses (hids : (built.map (·.id)).Nodup) (hs : s ∈ built)
    (hservice : s.integration = some p) :
    (responses p built).get? (.text s.id) = some (Schema.sample s.id s.name s.kind []) := by
  refine Entries.get?_of_mem (pairwise_responses p hids) ?_ ?_
  · exact List.mem_map.mpr ⟨s, List.mem_filter.mpr ⟨hs, by simpa using hservice⟩, rfl⟩
  · exact BEq.rfl

/-- The canned responses are those of the primary service. -/
theorem mocks_eq (hids : (built.map (·.id)).Nodup) (hp : primaryIntegration cs = some p) :
    mocks cs built =
      [(p, Schema.record [("enabled", .bool true), ("responses", .record (responses p built))])] := by
  have hwrites : Entries.putAll [] (responses p built) = responses p built :=
    Entries.putAll_eq_append (by simp) (pairwise_responses p hids)
  rw [mocks, hp, ← hwrites, Entries.putAll, responses, List.foldl_map, List.foldl_filter]
  simp only [decide_eq_true_eq]

/-! ## The responses of a definition -/

/-- **The definition has canned responses for one service.** It is the service of the most steps.
There is a response for each of its steps, in their order, and it conforms to the schema of the
step's output. -/
structure Mocks (d : Definition) (service : String) (responses : Record) : Prop where
  primary : IsPrimary (d.steps.map (·.integration)) service
  bucket : d.mocks =
    [(service, Schema.record [("enabled", .bool true), ("responses", .record responses)])]
  keys : responses.keys =
    (d.steps.filter fun s => s.integration = some service).map fun s => .text s.id
  conforms : ∀ s ∈ d.steps, s.integration = some service →
    ∃ response, responses.get? (.text s.id) = some (.record response) ∧
      Schema.Conforms s.output response

variable {d : Definition} {canned : Record}

theorem Mocks.ne_nil (h : Mocks d p canned) : d.mocks ≠ [] := by
  rw [h.bucket]
  exact List.cons_ne_nil _ _

/-- The service is that of a step. -/
theorem Mocks.exists_integration (h : Mocks d p canned) :
    ¬ ∀ s ∈ d.steps, s.integration = none := by
  intro hnone
  obtain ⟨s, hs, hservice⟩ := List.mem_map.mp h.primary.mem
  rw [hnone s hs] at hservice
  cases hservice

/-- **An assembled definition has canned responses** if any of its steps has a service. -/
theorem mocks_assemble_cases (opts : Options) (edges : List Edge)
    (hnamed : ∀ c ∈ cs, c.integration ≠ some "")
    (houtput : ∀ c ∈ cs, c.output = some (Schema.output c.step.title c.kind)) :
    ((assemble opts cs edges).mocks = [] ∧
        ∀ s ∈ (assemble opts cs edges).steps, s.integration = none) ∨
      ∃ service responses, Mocks (assemble opts cs edges) service responses := by
  have hids : ((assemble opts cs edges).steps.map (·.id)).Nodup := nodup_buildSteps opts 1 none cs
  have hservices : (assemble opts cs edges).steps.map (·.integration) = cs.map (·.integration) :=
    map_integration_buildSteps opts 1 none cs
  rcases primaryIntegration_cases hnamed with ⟨hnone, hall⟩ | ⟨p, hp, hprimary⟩
  · rw [← hservices] at hall
    refine .inl ⟨?_, fun s hs => hall _ (List.mem_map_of_mem hs)⟩
    rw [assemble, mocks, hnone]
  · rw [← hservices] at hprimary
    refine .inr ⟨p, responses p (assemble opts cs edges).steps, hprimary, mocks_eq hids hp,
      keys_responses p _, fun s hs hservice => ⟨_, get?_responses hids hs hservice, ?_⟩⟩
    -- the sample and the schema are both told from the name and the kind of the step
    obtain ⟨q, previous, c, hc, -, rfl⟩ := exists_eq_buildStep hs
    have hdeclared : (buildStep opts q previous c).output = Schema.output c.step.title c.kind := by
      rw [buildStep, houtput c hc, Option.getD_some]
    rw [hdeclared]
    exact Schema.conforms_sample _ _ _ _ _

end Assembly

/-! ## Compiled definitions -/

namespace Compile

open Assembly

variable {opts : Options} {description diagram : String} {d : Definition}

/-- **A compiled definition has canned responses unless no step has a service.** They are then the
samples for the service of the most steps. -/
theorem mocks_of_compile (h : compile opts description diagram = .ok d) :
    (d.mocks = [] ↔ ∀ s ∈ d.steps, s.integration = none) ∧
      (d.mocks ≠ [] → ∃ service responses, Mocks d service responses) := by
  obtain ⟨outline, -, rfl⟩ := exists_of_compile h
  have hnamed : ∀ c ∈ (Classify.steps outline).map Schema.complete, c.integration ≠ some "" := by
    intro c hc
    obtain ⟨c', hc', rfl⟩ := List.mem_map.mp hc
    have hne : c'.integration ≠ some "" := Classify.integration_ne_empty hc'
    exact hne
  have houtput : ∀ c ∈ (Classify.steps outline).map Schema.complete,
      c.output = some (Schema.output c.step.title c.kind) := by
    intro c hc
    obtain ⟨c', -, rfl⟩ := List.mem_map.mp hc
    rfl
  rcases mocks_assemble_cases opts.toOptions (Diagram.read diagram).edges hnamed houtput with
    ⟨hempty, hall⟩ | ⟨service, responses, hmocks⟩
  · exact ⟨iff_of_true hempty hall, fun hne => absurd hempty hne⟩
  · exact ⟨iff_of_false hmocks.ne_nil hmocks.exists_integration, fun _ => ⟨_, _, hmocks⟩⟩

/-- The first step works with another service than the two that follow. -/
theorem mocks_of_compile_busy :
    ∃ d, compile { lineLimit := none } "1. Ask Slack\n2. Read HubSpot\n3. Tell HubSpot" "" = .ok d ∧
      d.mocks ≠ [] ∧ ∃ responses, Mocks d "hubspot" responses := by
  have hread : Outline.read "1. Ask Slack\n2. Read HubSpot\n3. Tell HubSpot" =
      .ok [⟨1, "Ask Slack", "", []⟩, ⟨2, "Read HubSpot", "", []⟩, ⟨3, "Tell HubSpot", "", []⟩] := rfl
  have hcompile : compile { lineLimit := none } "1. Ask Slack\n2. Read HubSpot\n3. Tell HubSpot" "" =
      .ok _ := compile_of_read rfl hread ""
  obtain ⟨hempty, hfull⟩ := mocks_of_compile hcompile
  have hne := mt hempty.mp (by decide +kernel)
  obtain ⟨service, responses, hmocks⟩ := hfull hne
  have hservice := congrArg Entries.keys hmocks.bucket
  obtain rfl : service = "hubspot" := List.singleton_inj.mp (hservice.symm.trans (by decide +kernel))
  exact ⟨_, hcompile, hne, responses, hmocks⟩

end Compile

end StepFlow
