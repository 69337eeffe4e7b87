import PiaOs.Memory.Governance

/-!
# Laws of the governance evaluation

An evaluation depends on the rules of a version only through those that apply,
whatever the order in which they stand: the canonical order decides which one is
cited, and the identifiers are what makes that order strict.
-/

namespace PiaOs.Memory

/-- No two rules of the list share an identifier. -/
def DistinctIds (rules : List GovernanceRule) : Prop :=
  (rules.map GovernanceRule.ruleId).Nodup

/-- The rules of a version can be read exactly when their identifiers differ. -/
theorem typedRules_eq_ok {policy : GovernancePolicy} {rules : List GovernanceRule} :
    policy.typedRules = .ok rules ↔ DistinctIds policy.rules ∧ rules = policy.rules := by
  have hnone := @Support.firstRepeated_eq_none String _ [] (policy.rules.map GovernanceRule.ruleId)
  simp only [List.not_mem_nil, not_false_eq_true, implies_true, and_true] at hnone
  rw [DistinctIds, ← hnone, GovernancePolicy.typedRules]
  cases Support.firstRepeated [] (policy.rules.map GovernanceRule.ruleId) with
  | none => simp [eq_comm]
  | some ruleId => simp

theorem DistinctIds.perm {rules rules' : List GovernanceRule} (h : DistinctIds rules)
    (hperm : rules.Perm rules') : DistinctIds rules' :=
  (hperm.map _).nodup h

/-- Among rules with distinct identifiers the canonical order is strict. -/
theorem DistinctIds.eq_of_sortKey {rules : List GovernanceRule} (h : DistinctIds rules)
    {r r' : GovernanceRule} (hr : r ∈ rules) (hr' : r' ∈ rules) (hkey : r.sortKey = r'.sortKey) :
    r = r' := by
  have hid : r.ruleId = r'.ruleId := (Prod.mk.inj (toLex_inj.mp hkey)).2
  exact List.inj_on_of_nodup_map h hr hr' hid

namespace GovernanceManager

variable {policy : GovernancePolicy} {operation : CognitiveOperation} {context : MemoryContext}
  {rules rules' : List GovernanceRule}

theorem aplicaveis_perm : (aplicaveis operation context rules).Perm
    (rules.filter (applies operation context)) :=
  (List.perm_insertionSort _ _).filter _

theorem aplicaveis_sorted :
    (aplicaveis operation context rules).Pairwise fun r r' => r.sortKey ≤ r'.sortKey := by
  have htotal : Std.Total fun r r' : GovernanceRule => r.sortKey ≤ r'.sortKey :=
    ⟨fun r r' => le_total _ _⟩
  have htrans : IsTrans GovernanceRule fun r r' => r.sortKey ≤ r'.sortKey :=
    ⟨fun _ _ _ => le_trans⟩
  exact (List.pairwise_insertionSort _ rules).filter _

theorem mem_aplicaveis {r : GovernanceRule} : r ∈ aplicaveis operation context rules ↔
    r ∈ rules ∧ applies operation context r = true := by
  rw [aplicaveis_perm.mem_iff, List.mem_filter]

/-- The applicable rules and their order depend only on which rules apply. -/
theorem aplicaveis_congr (h : DistinctIds rules)
    (hperm : (rules.filter (applies operation context)).Perm
      (rules'.filter (applies operation context))) :
    aplicaveis operation context rules = aplicaveis operation context rules' := by
  have hboth := aplicaveis_perm.trans (hperm.trans aplicaveis_perm.symm)
  refine List.Perm.eq_of_pairwise ?_ aplicaveis_sorted aplicaveis_sorted hboth
  intro r r' hr hr' hle hle'
  exact h.eq_of_sortKey (mem_aplicaveis.mp hr).1
    (mem_aplicaveis.mp (hboth.mem_iff.mpr hr')).1 (le_antisymm hle hle')

/-- A policy of distinct identifiers is decided, by the rules that apply. -/
theorem evaluate_distinct (h : DistinctIds policy.rules) : evaluate policy operation context =
    .ok (conclude policy operation context (aplicaveis operation context policy.rules)) := by
  have hrules : policy.typedRules = .ok policy.rules := typedRules_eq_ok.mpr ⟨h, rfl⟩
  rw [evaluate, hrules]
  rfl

/-- A policy that is decided has distinct identifiers. -/
theorem evaluate_eq_ok {decided : GovernanceDecision}
    (h : evaluate policy operation context = .ok decided) : DistinctIds policy.rules ∧
      decided = conclude policy operation context
        (aplicaveis operation context policy.rules) := by
  rw [evaluate] at h
  cases hrules : policy.typedRules with
  | error text =>
    rw [hrules] at h
    cases h
  | ok rules =>
    obtain ⟨hdistinct, rfl⟩ := typedRules_eq_ok.mp hrules
    rw [hrules] at h
    exact ⟨hdistinct, (Except.ok.inj h).symm⟩

/-- The three outcomes, by what the applicable rules hold. -/
theorem conclude_outcome (found : List GovernanceRule) :
    (conclude policy operation context found).outcome =
      if found = [] then .notApplicable
      else if ∃ r ∈ found, r.effect = .deny then .inadmissible
      else .admissible := by
  cases found with
  | nil => rfl
  | cons primeira outras =>
    simp only [conclude, reduceCtorEq, if_false]
    split
    case h_1 negacao rest hdenied =>
      have hmem : negacao ∈ (primeira :: outras).filter (·.effect = .deny) :=
        hdenied ▸ List.mem_cons_self
      obtain ⟨hfound, heffect⟩ := List.mem_filter.mp hmem
      rw [if_pos ⟨negacao, hfound, of_decide_eq_true heffect⟩]
      rfl
    case h_2 hdenied =>
      have hnone := List.filter_eq_nil_iff.mp hdenied
      rw [if_neg]
      · rfl
      · rintro ⟨r, hr, heffect⟩
        exact hnone r hr (decide_eq_true heffect)

/-- A decision cites one of the applicable rules, unless there is none. -/
theorem conclude_cited (found : List GovernanceRule) :
    let decided := conclude policy operation context found
    (decided.outcome = .notApplicable ∧ decided.matchedRuleId = none) ∨
      ∃ rule ∈ found, (decided.outcome = .admissible ∨ decided.outcome = .inadmissible) ∧
        decided.matchedRuleId = some rule.ruleId := by
  cases found with
  | nil => exact .inl ⟨rfl, rfl⟩
  | cons primeira outras =>
    right
    simp only [conclude]
    split
    case h_1 negacao rest hdenied =>
      have hmem : negacao ∈ (primeira :: outras).filter (·.effect = .deny) :=
        hdenied ▸ List.mem_cons_self
      exact ⟨negacao, (List.mem_filter.mp hmem).1, .inr rfl, rfl⟩
    case h_2 => exact ⟨primeira, List.mem_cons_self, .inl rfl, rfl⟩

/-- What a decision says of where it comes from. -/
theorem conclude_origin (found : List GovernanceRule) :
    let decided := conclude policy operation context found
    decided.policyKey = policy.policyKey ∧ decided.policyVersion = policy.version ∧
      decided.policyId = policy.id ∧ decided.contextDomainIds = context.domainIds ∧
      decided.contextActorRef = context.actorRef ∧ decided.contextPurpose = context.purpose := by
  cases found with
  | nil => exact ⟨rfl, rfl, rfl, rfl, rfl, rfl⟩
  | cons primeira outras =>
    simp only [conclude]
    split <;> exact ⟨rfl, rfl, rfl, rfl, rfl, rfl⟩

end GovernanceManager

open GovernanceManager

/-- The policy version with other rules. -/
def GovernancePolicy.withRules (policy : GovernancePolicy) (rules : List GovernanceRule) :
    GovernancePolicy := { policy with rules := rules }

/-- What holds of the evaluation of any list of rules: the order of the rules and
the rules that do not apply make no difference, a denial decides, and one more
denial never admits. A list that repeats an identifier is refused. -/
structure EvaluationLaws (policy : GovernancePolicy) (operation : CognitiveOperation)
    (context : MemoryContext) : Prop where
  permutation : ∀ rules rules', DistinctIds rules → rules.Perm rules' →
    evaluate (policy.withRules rules') operation context =
      evaluate (policy.withRules rules) operation context
  inapplicable : ∀ rules rules', DistinctIds rules → DistinctIds rules' →
    (rules.filter (applies operation context)).Perm
      (rules'.filter (applies operation context)) →
    evaluate (policy.withRules rules') operation context =
      evaluate (policy.withRules rules) operation context
  denial : ∀ rules, DistinctIds rules →
    (∃ rule ∈ rules, rule.effect = .deny ∧ applies operation context rule = true) →
    ∃ decided, evaluate (policy.withRules rules) operation context = .ok decided ∧
      decided.outcome = .inadmissible
  addition : ∀ rules rules' rule, rule.effect = .deny → rules'.Perm (rule :: rules) →
    ∀ decided', evaluate (policy.withRules rules') operation context = .ok decided' →
      decided'.outcome = .admissible →
      ∃ decided, evaluate (policy.withRules rules) operation context = .ok decided ∧
        decided.outcome = .admissible
  decided : ∀ rules, (∃ decided,
    evaluate (policy.withRules rules) operation context = .ok decided) ↔ DistinctIds rules

section Laws

variable {policy : GovernancePolicy} {operation : CognitiveOperation} {context : MemoryContext}

private theorem evaluate_withRules {rules : List GovernanceRule} (h : DistinctIds rules) :
    evaluate (policy.withRules rules) operation context =
      .ok (conclude (policy.withRules rules) operation context
        (aplicaveis operation context rules)) :=
  evaluate_distinct h

private theorem evaluate_congr {rules rules' : List GovernanceRule} (h : DistinctIds rules)
    (h' : DistinctIds rules')
    (hperm : (rules.filter (applies operation context)).Perm
      (rules'.filter (applies operation context))) :
    evaluate (policy.withRules rules') operation context =
      evaluate (policy.withRules rules) operation context := by
  have hsame := aplicaveis_congr h hperm
  rw [evaluate_withRules h, evaluate_withRules h', hsame]
  rfl

/-- A denial among the applicable rules decides. -/
private theorem denied {rules : List GovernanceRule} (h : DistinctIds rules)
    {rule : GovernanceRule} (hmem : rule ∈ rules) (heffect : rule.effect = .deny)
    (happlies : applies operation context rule = true) :
    ∃ decided, evaluate (policy.withRules rules) operation context = .ok decided ∧
      decided.outcome = .inadmissible := by
  have hfound := mem_aplicaveis.mpr ⟨hmem, happlies⟩
  refine ⟨_, evaluate_withRules h, ?_⟩
  have hne : aplicaveis operation context rules ≠ [] := List.ne_nil_of_mem hfound
  have houtcome := @conclude_outcome (policy.withRules rules) operation context
    (aplicaveis operation context rules)
  rwa [if_neg hne, if_pos ⟨rule, hfound, heffect⟩] at houtcome

/-- What admits after one more denial admitted before it, on the same grounds. -/
private theorem admitted_before {rules rules' : List GovernanceRule} {rule : GovernanceRule}
    (heffect : rule.effect = .deny) (hperm : rules'.Perm (rule :: rules))
    {decided' : GovernanceDecision}
    (h : evaluate (policy.withRules rules') operation context = .ok decided')
    (hadmissible : decided'.outcome = .admissible) :
    ∃ decided, evaluate (policy.withRules rules) operation context = .ok decided ∧
      decided.outcome = .admissible := by
  have hdistinct' : DistinctIds rules' := (evaluate_eq_ok h).1
  have hall : DistinctIds (rule :: rules) := DistinctIds.perm hdistinct' hperm
  have hdistinct : DistinctIds rules := (List.nodup_cons.mp hall).2
  have hunmatched : applies operation context rule = false := by
    -- Otherwise the added rule itself denies.
    by_contra happlies
    rw [Bool.not_eq_false] at happlies
    obtain ⟨decided, hdecided, houtcome⟩ :
        ∃ decided, evaluate (policy.withRules rules') operation context = .ok decided ∧
          decided.outcome = .inadmissible :=
      denied hdistinct' (hperm.mem_iff.mpr List.mem_cons_self) heffect happlies
    rw [h] at hdecided
    obtain rfl := Except.ok.inj hdecided
    rw [hadmissible] at houtcome
    cases houtcome
  refine ⟨decided', ?_, hadmissible⟩
  rw [← h]
  refine evaluate_congr hdistinct' hdistinct ?_
  have hfilter := hperm.filter (applies operation context)
  rwa [List.filter_cons_of_neg (by simp [hunmatched])] at hfilter

end Laws

/-- The laws hold of every policy, operation and context. -/
theorem evaluation_laws (policy : GovernancePolicy) (operation : CognitiveOperation)
    (context : MemoryContext) : EvaluationLaws policy operation context where
  permutation rules rules' hdistinct hperm :=
    evaluate_congr hdistinct (hdistinct.perm hperm) (hperm.filter _)
  inapplicable _ _ hdistinct hdistinct' hperm := evaluate_congr hdistinct hdistinct' hperm
  denial rules hdistinct := by
    rintro ⟨rule, hmem, heffect, happlies⟩
    exact denied hdistinct hmem heffect happlies
  addition _ _ _ heffect hperm _ h hadmissible := admitted_before heffect hperm h hadmissible
  decided rules :=
    ⟨fun ⟨_, h⟩ => (evaluate_eq_ok h).1,
      fun h => ⟨_, evaluate_withRules h⟩⟩

/-- A rule that does not apply changes the answer when it repeats an identifier. -/
theorem unmatched_rule_refused :
    let admitting : GovernanceRule := { ruleId := "r", effect := .admits }
    let other : GovernanceRule := { ruleId := "r", effect := .admits, operations := {.legalErasure} }
    let policy (rules : List GovernanceRule) : GovernancePolicy := ⟨⟨1⟩, "p", 1, rules⟩
    applies .read {} other = false ∧
      (evaluate (policy [admitting]) .read {}).toOption.map GovernanceDecision.outcome =
        some .admissible ∧
      (evaluate (policy [admitting, other]) .read {}).toOption.map GovernanceDecision.outcome =
        none := by
  decide

end PiaOs.Memory
