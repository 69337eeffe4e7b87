import PiaOs.Memory.Isolation

/-!
# One domain at a time

Isolation asks governance about each declared domain on its own, retrieval about
all of them at once. A rule that selects by domain applies to the whole context
exactly when it applies to one of its domains, so a denial decides for the whole
as soon as it decides for a part, and parts that are all admitted admit the whole.
-/

namespace PiaOs.Memory

open Support GovernanceManager

/-- What it takes for a rule to apply, dimension by dimension. -/
theorem GovernanceRule.matches_iff {rule : GovernanceRule} {operation : CognitiveOperation}
    {domainIds : Finset Uuid} {actorRef purpose : Option String} :
    rule.matches operation domainIds actorRef purpose = true ↔
      (rule.operations ≠ ∅ → operation ∈ rule.operations) ∧
      (rule.operations = ∅ → operation ∈ emptyOperationsScopeV1) ∧
      (rule.domainIds ≠ ∅ → ∃ d ∈ domainIds, d ∈ rule.domainIds) ∧
      (rule.actorRefs ≠ ∅ → ∃ actor ∈ actorRef, actor ∈ rule.actorRefs) ∧
      (rule.purposes ≠ ∅ → ∃ text ∈ purpose, text ∈ rule.purposes) := by
  have hdomains : rule.domainIds ∩ domainIds = ∅ ↔ ¬∃ d ∈ domainIds, d ∈ rule.domainIds := by
    rw [Finset.eq_empty_iff_forall_notMem]
    simp only [Finset.mem_inter, not_and, not_exists]
    exact ⟨fun h d hd hrule => h d hrule hd, fun h d hrule hd => h d hd hrule⟩
  unfold GovernanceRule.matches
  split_ifs with hoperation hscope hdomain hactor
  · exact iff_of_false (by simp) fun h => hoperation.2 (h.1 hoperation.1)
  · exact iff_of_false (by simp) fun h => hscope.2 (h.2.1 hscope.1)
  · refine iff_of_false (by simp) fun h => ?_
    exact hdomains.mp hdomain.2 (h.2.2.1 hdomain.1)
  · refine iff_of_false (by simp) fun h => ?_
    obtain ⟨actor, hactorRef, hmem⟩ := h.2.2.2.1 hactor.1
    exact hactor.2 actor hactorRef hmem
  · rw [hdomains] at hdomain
    simp only [Bool.not_eq_true', decide_eq_false_iff_not]
    grind

namespace GovernanceManager

variable {policy : GovernancePolicy} {operation : CognitiveOperation} {context : MemoryContext}

/-- A rule applies to a context exactly when it applies to one of its domains. -/
theorem applies_iff_restricted (hnonempty : context.domainIds ≠ []) {rule : GovernanceRule} :
    applies operation context rule = true ↔
      ∃ d ∈ context.domainIds, applies operation (context.restricted d) rule = true := by
  have hsingleton (d : Uuid) : (context.restricted d).domainIds.toFinset = {d} := rfl
  have hactor (d : Uuid) : (context.restricted d).actorRef = context.actorRef := rfl
  have hpurpose (d : Uuid) : (context.restricted d).purpose = context.purpose := rfl
  simp only [applies, GovernanceRule.matches_iff, hsingleton, hactor, hpurpose,
    Finset.mem_singleton, List.mem_toFinset, exists_eq_left]
  constructor
  · rintro ⟨hoperation, hscope, hdomain, hactors, hpurposes⟩
    by_cases hany : rule.domainIds = ∅
    · -- The rule does not select by domain: the first domain will do.
      obtain ⟨d, hd⟩ := List.exists_mem_of_ne_nil _ hnonempty
      exact ⟨d, hd, hoperation, hscope, fun h => absurd hany h, hactors, hpurposes⟩
    · obtain ⟨d, hd, hrule⟩ := hdomain hany
      exact ⟨d, hd, hoperation, hscope, fun _ => hrule, hactors, hpurposes⟩
  · rintro ⟨d, hd, hoperation, hscope, hdomain, hactors, hpurposes⟩
    exact ⟨hoperation, hscope, fun h => ⟨d, hd, hdomain h⟩, hactors, hpurposes⟩

/-- The policy decides the operation in the context, with the outcome. -/
def Decides (policy : GovernancePolicy) (operation : CognitiveOperation) (context : MemoryContext)
    (outcome : GovernanceOutcome) : Prop :=
  ∃ decided, evaluate policy operation context = .ok decided ∧ decided.outcome = outcome

theorem decides_iff (outcome : GovernanceOutcome) : Decides policy operation context outcome ↔
    DistinctIds policy.rules ∧
      (conclude policy operation context
        (aplicaveis operation context policy.rules)).outcome = outcome := by
  constructor
  · rintro ⟨decided, hdecided, houtcome⟩
    obtain ⟨hdistinct, rfl⟩ := evaluate_eq_ok hdecided
    exact ⟨hdistinct, houtcome⟩
  · rintro ⟨hdistinct, houtcome⟩
    exact ⟨_, evaluate_distinct hdistinct, houtcome⟩

/-- A version denies when a rule of denial applies. -/
theorem decides_inadmissible : Decides policy operation context .inadmissible ↔
    DistinctIds policy.rules ∧ ∃ rule ∈ policy.rules,
      applies operation context rule = true ∧ rule.effect = .deny := by
  rw [decides_iff, conclude_outcome]
  refine and_congr_right fun _ => ?_
  split_ifs with hnone hdenied
  · refine iff_of_false (by simp) ?_
    rintro ⟨rule, hmem, happlies, -⟩
    have hfound := mem_aplicaveis.mpr ⟨hmem, happlies⟩
    rw [hnone] at hfound
    cases hfound
  · obtain ⟨rule, hfound, heffect⟩ := hdenied
    obtain ⟨hmem, happlies⟩ := mem_aplicaveis.mp hfound
    exact iff_of_true rfl ⟨rule, hmem, happlies, heffect⟩
  · refine iff_of_false (by simp) ?_
    rintro ⟨rule, hmem, happlies, heffect⟩
    exact hdenied ⟨rule, mem_aplicaveis.mpr ⟨hmem, happlies⟩, heffect⟩

/-- A version has nothing to say when none of its rules applies. -/
theorem decides_notApplicable : Decides policy operation context .notApplicable ↔
    DistinctIds policy.rules ∧ ∀ rule ∈ policy.rules, ¬applies operation context rule = true := by
  rw [decides_iff, conclude_outcome]
  refine and_congr_right fun _ => ?_
  have hempty : aplicaveis operation context policy.rules = [] ↔
      ∀ rule ∈ policy.rules, ¬applies operation context rule = true := by
    rw [List.eq_nil_iff_forall_not_mem]
    simp only [mem_aplicaveis, not_and]
  rw [← hempty]
  split_ifs with hnone hdenied
  · exact iff_of_true rfl hnone
  · exact iff_of_false (by simp) hnone
  · exact iff_of_false (by simp) hnone

/-- A version admits when some rule applies and none that applies denies. -/
theorem decides_admissible : Decides policy operation context .admissible ↔
    DistinctIds policy.rules ∧ (∃ rule ∈ policy.rules, applies operation context rule = true) ∧
      ∀ rule ∈ policy.rules, applies operation context rule = true → rule.effect ≠ .deny := by
  rw [decides_iff, conclude_outcome]
  refine and_congr_right fun _ => ?_
  split_ifs with hnone hdenied
  · refine iff_of_false (by simp) ?_
    rintro ⟨⟨rule, hmem, happlies⟩, -⟩
    have hfound := mem_aplicaveis.mpr ⟨hmem, happlies⟩
    rw [hnone] at hfound
    cases hfound
  · obtain ⟨rule, hfound, heffect⟩ := hdenied
    obtain ⟨hmem, happlies⟩ := mem_aplicaveis.mp hfound
    exact iff_of_false (by simp) fun h => h.2 rule hmem happlies heffect
  · obtain ⟨rule, hfound⟩ := List.exists_mem_of_ne_nil _ hnone
    refine iff_of_true rfl ⟨⟨rule, mem_aplicaveis.mp hfound⟩, ?_⟩
    intro rule' hmem happlies heffect
    exact hdenied ⟨rule', mem_aplicaveis.mpr ⟨hmem, happlies⟩, heffect⟩

theorem inadmissible_restricted (hnonempty : context.domainIds ≠ []) :
    Decides policy operation context .inadmissible ↔
      ∃ d ∈ context.domainIds, Decides policy operation (context.restricted d) .inadmissible := by
  simp only [decides_inadmissible, applies_iff_restricted hnonempty]
  constructor
  · rintro ⟨hdistinct, rule, hmem, ⟨d, hd, happlies⟩, heffect⟩
    exact ⟨d, hd, hdistinct, rule, hmem, happlies, heffect⟩
  · rintro ⟨d, hd, hdistinct, rule, hmem, happlies, heffect⟩
    exact ⟨hdistinct, rule, hmem, ⟨d, hd, happlies⟩, heffect⟩

theorem notApplicable_restricted (hnonempty : context.domainIds ≠ []) :
    Decides policy operation context .notApplicable ↔
      ∀ d ∈ context.domainIds, Decides policy operation (context.restricted d) .notApplicable := by
  simp only [decides_notApplicable, applies_iff_restricted hnonempty]
  constructor
  · rintro ⟨hdistinct, hnone⟩ d hd
    exact ⟨hdistinct, fun rule hmem happlies => hnone rule hmem ⟨d, hd, happlies⟩⟩
  · intro hall
    obtain ⟨d, hd⟩ := List.exists_mem_of_ne_nil _ hnonempty
    refine ⟨(hall d hd).1, ?_⟩
    rintro rule hmem ⟨d', hd', happlies⟩
    exact (hall d' hd').2 rule hmem happlies

theorem admissible_restricted (hnonempty : context.domainIds ≠ [])
    (hall : ∀ d ∈ context.domainIds,
      Decides policy operation (context.restricted d) .admissible) :
    Decides policy operation context .admissible := by
  simp only [decides_admissible, applies_iff_restricted hnonempty] at hall ⊢
  obtain ⟨d, hd⟩ := List.exists_mem_of_ne_nil _ hnonempty
  obtain ⟨hdistinct, ⟨rule, hmem, happlies⟩, -⟩ := hall d hd
  refine ⟨hdistinct, ⟨rule, hmem, d, hd, happlies⟩, ?_⟩
  rintro rule' hmem' ⟨d', hd', happlies'⟩
  exact (hall d' hd').2.2 rule' hmem' happlies'

variable {policies : PolicyTable} {descriptor : CapabilityDescriptor}
  {policyKey : Option String} {agora : Datetime}

/-- Governance authorizes the request. -/
def Authorizes (policies : PolicyTable) (descriptor : CapabilityDescriptor)
    (context : MemoryContext) (policyKey : Option String) (agora : Datetime) : Prop :=
  ∃ r, resolve policies descriptor context policyKey agora = .ok r ∧ r.executionAuthorized = true

/-- An authorization is the admission of a version in force, under a silent boundary. -/
theorem authorizes_iff : Authorizes policies descriptor context policyKey agora ↔
    ¬descriptor.Forbidden ∧ ∃ key ∈ policyKey, ∃ policy,
      policies.effectiveVersionAt key agora.instant = some policy ∧
        Decides policy descriptor.operation context .admissible := by
  obtain ⟨r, hr, hcases⟩ := resolve_cases policies descriptor context policyKey agora
  have honly : Authorizes policies descriptor context policyKey agora ↔
      r.outcome = .admissible := by
    constructor
    · rintro ⟨r', hr', hauthorized⟩
      obtain rfl := Except.ok.inj (hr.symm.trans hr')
      exact of_decide_eq_true hauthorized
    · exact fun h => ⟨r, hr, decide_eq_true h⟩
  rw [honly]
  rcases hcases with ⟨hforbidden, houtcome⟩ | ⟨hsilent, houtcome, hnone⟩ |
    ⟨hsilent, key, hkey, policy, decisao, hpolicy, hdecisao, houtcome⟩
  · rw [houtcome]
    exact iff_of_false (by simp) fun h => h.1 hforbidden
  · rw [houtcome]
    refine iff_of_false (by simp) ?_
    rintro ⟨-, key, hkey, policy, hpolicy, -⟩
    rw [hnone key hkey] at hpolicy
    cases hpolicy
  · rw [houtcome]
    constructor
    · exact fun h => ⟨hsilent, key, hkey, policy, hpolicy, decisao, hdecisao, h⟩
    · rintro ⟨-, key', hkey', policy', hpolicy', decisao', hdecisao', houtcome'⟩
      obtain rfl := Option.some.inj (hkey.symm.trans hkey')
      obtain rfl := Option.some.inj (hpolicy.symm.trans hpolicy')
      obtain rfl := Except.ok.inj (hdecisao.symm.trans hdecisao')
      exact houtcome'

/-- What governance authorizes domain by domain it authorizes as a whole. -/
theorem authorizes_restricted (hnonempty : context.domainIds ≠ [])
    (hall : ∀ d ∈ context.domainIds,
      Authorizes policies descriptor (context.restricted d) policyKey agora) :
    Authorizes policies descriptor context policyKey agora := by
  obtain ⟨d, hd⟩ := List.exists_mem_of_ne_nil _ hnonempty
  obtain ⟨hsilent, key, hkey, policy, hpolicy, -⟩ := authorizes_iff.mp (hall d hd)
  refine authorizes_iff.mpr ⟨hsilent, key, hkey, policy, hpolicy, ?_⟩
  refine admissible_restricted hnonempty fun d' hd' => ?_
  obtain ⟨-, key', hkey', policy', hpolicy', hdecides⟩ := authorizes_iff.mp (hall d' hd')
  obtain rfl := Option.some.inj (hkey.symm.trans hkey')
  obtain rfl := Option.some.inj (hpolicy.symm.trans hpolicy')
  exact hdecides

end GovernanceManager

namespace MemoryIsolationManager

/-- A request without domains asks nothing. -/
theorem retrieveIsolated_unscoped {retrieval : RetrievalRequest → Passo MemoryRetrievalResult}
    {request : RetrievalRequest} (h : request.context.domainIds = []) :
    ∃ e, retrieveIsolated retrieval request = .done (.error e) := by
  unfold retrieveIsolated validarArgumentos
  by_cases hread : request.descriptor.operation ≠ .read
  · rw [if_pos hread]
    exact ⟨_, rfl⟩
  · rw [if_neg hread, if_pos h]
    exact ⟨_, rfl⟩

/-- Every reading of the policies in the log gave the same table. -/
def StablePolicies (log : List (Answered Consulta Consulta.Resposta)) (policies : PolicyTable) :
    Prop :=
  ∀ tabela ∈ tabelasLidas log, tabela = policies

/-- Once isolation has gone past its decisions, the whole context is authorized too. -/
theorem authorized_jointly {retrieval : RetrievalRequest → Passo MemoryRetrievalResult}
    {request : RetrievalRequest} {log : List (Answered Consulta Consulta.Resposta)}
    {q : Passo MemoryIsolationResult} {policies : PolicyTable}
    (hpath : Proc.Path (retrieveIsolated retrieval request) log q)
    (hstable : StablePolicies log policies) {e : Answered Consulta Consulta.Resposta}
    (he : e ∈ log) (htouch : e.call.tocaPatrimonio = true) :
    ∃ instante : UtcInstant, (∀ moment ∈ request.moment, instante.instant = moment.instant) ∧
      Authorizes policies request.descriptor request.context request.policyKey
        instante.toDatetime := by
  obtain ⟨front, post, hlog⟩ := List.append_of_mem he
  have hnonempty : request.context.domainIds ≠ [] := by
    intro hempty
    obtain ⟨e, herror⟩ := @retrieveIsolated_unscoped retrieval request hempty
    rw [herror] at hpath
    cases hpath
    cases he
  obtain ⟨instante, hmoment, hauthorized⟩ :=
    (retrieveIsolated_obeys retrieval request).calls hpath hlog htouch
  refine ⟨instante, hmoment, authorizes_restricted hnonempty fun d hd => ?_⟩
  have hordered : d ∈ dominiosEmOrdem request.context :=
    (List.perm_insertionSort _ _).mem_iff.mpr hd
  obtain ⟨i, hi⟩ := List.getElem?_of_mem hordered
  obtain ⟨r, hr, tabela, hread, hresolved⟩ := hauthorized i d hi
  have hmem : tabela ∈ tabelasLidas log := by
    rw [hlog, tabelasLidas_append]
    exact List.mem_append_left _ (List.mem_of_getElem? hread)
  exact ⟨r, hstable tabela hmem ▸ hresolved, hr⟩

end MemoryIsolationManager

open MemoryIsolationManager

/-- What holds of an answer over many domains and the answers over each of them. A list
of rules that repeats an identifier gives no answer, neither to the whole nor to a part. -/
structure DecompositionLaws (context : MemoryContext) : Prop where
  inadmissible : context.domainIds ≠ [] → ∀ policy operation,
    (Decides policy operation context .inadmissible ↔
      ∃ d ∈ context.domainIds, Decides policy operation (context.restricted d) .inadmissible)
  notApplicable : context.domainIds ≠ [] → ∀ policy operation,
    (Decides policy operation context .notApplicable ↔
      ∀ d ∈ context.domainIds, Decides policy operation (context.restricted d) .notApplicable)
  admissible : context.domainIds ≠ [] → ∀ policy operation,
    (∀ d ∈ context.domainIds, Decides policy operation (context.restricted d) .admissible) →
      Decides policy operation context .admissible
  resolution : context.domainIds ≠ [] → ∀ policies descriptor policyKey agora,
    (∀ d ∈ context.domainIds,
      Authorizes policies descriptor (context.restricted d) policyKey agora) →
      Authorizes policies descriptor context policyKey agora
  isolation : ∀ retrieval request log q policies, request.context = context →
    Proc.Path (retrieveIsolated retrieval request) log q → StablePolicies log policies →
    (∃ e ∈ log, e.call.tocaPatrimonio = true) →
    ∃ instante : UtcInstant, (∀ moment ∈ request.moment, instante.instant = moment.instant) ∧
      Authorizes policies request.descriptor context request.policyKey instante.toDatetime

/-- The laws hold of every context. -/
theorem decomposition_laws (context : MemoryContext) : DecompositionLaws context where
  inadmissible hnonempty _ _ := inadmissible_restricted hnonempty
  notApplicable hnonempty _ _ := notApplicable_restricted hnonempty
  admissible hnonempty _ _ hall := admissible_restricted hnonempty hall
  resolution hnonempty _ _ _ _ hall := authorizes_restricted hnonempty hall
  isolation _ request _ _ _ hcontext hpath hstable := by
    rintro ⟨e, he, htouch⟩
    subst hcontext
    exact authorized_jointly hpath hstable he htouch

end PiaOs.Memory
