import PiaOs.Memory.ComplianceEvaluator

/-!
# Laws of the compliance evaluation

The verdict on a governed operation is a function of what was observed and of
the outcome of `GovernanceManager.evaluate` under the same rules; and every
evaluation ends in a report, but for a retention candidate that does not exist
yet.
-/

namespace PiaOs.Memory

open Support GovernanceManager

namespace Compliance

/-- What the observed state of an operation means, given what governance answers. -/
def veredito : ObservedOperationState → GovernanceOutcome →
    ComplianceOutcome × List ComplianceCode
  | .executed, .inadmissible => (.violationConfirmed, [.governanceOperationExecutedAgainstDeny])
  | .executed, .notApplicable => (.violationConfirmed, [.governanceOperationExecutedWithoutRule])
  | .notExecuted, .notApplicable => (.policyNotApplicable, [])
  | .notObserved, .inadmissible => (.insufficientInformation, [])
  | .notObserved, .notApplicable => (.insufficientInformation, [])
  | _, _ => (.compliant, [])

/-- Only an execution that governance does not admit is a violation. -/
theorem veredito_violation {estado : ObservedOperationState} {outcome : GovernanceOutcome}
    (h : outcome ≠ .prohibited) : (veredito estado outcome).1 = .violationConfirmed ↔
      estado = .executed ∧ outcome ≠ .admissible := by
  cases estado <;> cases outcome <;> simp_all [veredito]

/-- The observation is about the perspective that a context describes. -/
structure Observes (observation : GovernedOperationObservation) (context : MemoryContext) :
    Prop where
  domains : observation.domainIds.toFinset = context.domainIds.toFinset
  actor : observation.actorRef = context.actorRef
  purpose : observation.purpose = context.purpose

section Governance

variable {subject : ComplianceSubject} {policy : EvaluatedPolicy} {evaluatedAt : Datetime}
  {observation : GovernedOperationObservation} {context : MemoryContext}
  {version : GovernancePolicy}

/-- The rules that the evaluator takes are those that governance applies. -/
theorem rules_applied (hrules : policy.rules = .governance version.rules)
    (hobserves : Observes observation context) :
    (policy.rules.governanceRules.filter fun regra =>
      regra.matches observation.operation observation.domainIds.toFinset observation.actorRef
        observation.purpose) = version.rules.filter (applies observation.operation context) := by
  rw [hrules, hobserves.domains, hobserves.actor, hobserves.purpose]
  rfl

theorem rules_distinct (hrules : policy.rules = .governance version.rules) :
    DistinctIds version.rules := by
  have hdistinct := policy.ids_distinct
  rwa [hrules] at hdistinct

/-- The outcome of governance, by the rules that apply in any order. -/
theorem evaluate_outcome {decided : GovernanceDecision} {operation : CognitiveOperation}
    (h : evaluate version operation context = .ok decided) :
    decided.outcome =
      if version.rules.filter (applies operation context) = [] then .notApplicable
      else if (version.rules.filter (applies operation context)).filter (·.effect = .deny) ≠ [] then
        .inadmissible
      else .admissible := by
  obtain ⟨-, rfl⟩ := evaluate_eq_ok h
  have hperm := @aplicaveis_perm operation context version.rules
  have hempty : aplicaveis operation context version.rules = [] ↔
      version.rules.filter (applies operation context) = [] :=
    ⟨fun h => (h ▸ hperm).nil_eq.symm, fun h => (h ▸ hperm).eq_nil⟩
  have hdenied : (∃ r ∈ aplicaveis operation context version.rules, r.effect = .deny) ↔
      (version.rules.filter (applies operation context)).filter (·.effect = .deny) ≠ [] := by
    simp only [hperm.mem_iff, ne_eq, List.filter_eq_nil_iff, decide_eq_true_eq, not_forall,
      not_not, exists_prop]
  rw [conclude_outcome]
  simp only [hempty, hdenied]

/-- The verdict is what governance's outcome makes of the observation. -/
theorem avaliarGovernanca_verdict (hrules : policy.rules = .governance version.rules)
    (hobserves : Observes observation context) {report : ComplianceReport}
    (hreport : avaliarGovernanca subject policy observation evaluatedAt = .ok report)
    {decided : GovernanceDecision}
    (hdecided : evaluate version observation.operation context = .ok decided) :
    (report.outcome, report.violationCodes) =
      veredito observation.observedState decided.outcome := by
  have hplain {desfecho : ComplianceOutcome} {janela : PolicyWindowState} {regras : List String}
      {faltantes : List MissingObservation}
      (h : relatorio desfecho subject policy evaluatedAt janela regras faltantes = .ok report) :
      (report.outcome, report.violationCodes) = (desfecho, []) := by
    obtain ⟨houtcome, hcodes⟩ := of_relatorio h
    rw [houtcome, hcodes]
  have hviolation {codigo : ComplianceCode} {severidade : ErrorSeverity} {regras : List String}
      (h : relatorioComViolacao subject policy evaluatedAt codigo severidade regras =
        .ok report) :
      (report.outcome, report.violationCodes) = (.violationConfirmed, [codigo]) := by
    obtain ⟨houtcome, hcodes⟩ := of_relatorioComViolacao h
    rw [houtcome, hcodes]
  rw [evaluate_outcome hdecided]
  unfold avaliarGovernanca at hreport
  simp only [rules_applied hrules hobserves] at hreport
  generalize version.rules.filter (applies observation.operation context) = found at hreport ⊢
  generalize found.filter (·.effect = .deny) = denied at hreport ⊢
  generalize observation.observedState = estado at hreport ⊢
  by_cases hfound : found = []
  · -- No rule applies: only an execution that was seen is a finding.
    simp only [hfound, if_true, ne_eq, not_true_eq_false, false_and, if_false] at hreport ⊢
    cases estado with
    | executed => exact hviolation (by simpa using hreport)
    | notExecuted => exact hplain (by simpa using hreport)
    | notObserved => exact hplain (by simpa using hreport)
  · by_cases hdenied : denied = []
    · simp only [hfound, hdenied, if_false, ne_eq, not_false_eq_true, not_true_eq_false,
        true_and, false_and, if_true, ite_self] at hreport ⊢
      cases estado <;> exact hplain hreport
    · simp only [hfound, hdenied, if_false, ne_eq, not_false_eq_true, true_and, and_false,
        if_true] at hreport ⊢
      cases estado with
      | executed => exact hviolation (by simpa using hreport)
      | notExecuted => exact hplain (by simpa using hreport)
      | notObserved => exact hplain (by simpa using hreport)

end Governance

/-- Rules that are named and differ can be cited, all or some of them. -/
theorem citable_filter {α : Type} {name : α → String} {rules : List α}
    (hstated : ∀ rule, blank (name rule) = false) (hdistinct : (rules.map name).Nodup)
    (p : α → Bool) : Citable ((rules.filter p).map name) where
  stated item hitem := by
    obtain ⟨rule, -, rfl⟩ := List.mem_map.mp hitem
    exact hstated rule
  distinct := hdistinct.sublist (List.filter_sublist.map _)

section Total

variable {subject : ComplianceSubject} {policy : EvaluatedPolicy} {evaluatedAt : Datetime}

/-- Governance is evaluated whatever was observed. -/
theorem avaliarGovernanca_eq_ok (hpolicy : policy.kind = .governance)
    (hkind : subject.kind = sujeitoPorPolitica policy.kind) (hinstant : evaluatedAt.Representable)
    (observation : GovernedOperationObservation) :
    ∃ report, avaliarGovernanca subject policy observation evaluatedAt = .ok report := by
  have hdistinct : (policy.rules.governanceRules.map GovernanceRule.ruleId).Nodup := by
    have hids := policy.ids_distinct
    cases hrules : policy.rules with
    | governance rules => rwa [hrules] at hids
    | accessibility rules => exact List.nodup_nil
    | retention rules => exact List.nodup_nil
  have hcodes : codigosPorPolitica policy.kind =
      [.governanceOperationExecutedAgainstDeny, .governanceOperationExecutedWithoutRule] := by
    rw [hpolicy]
    rfl
  unfold avaliarGovernanca
  generalize hfound : (policy.rules.governanceRules.filter fun regra =>
    regra.matches observation.operation observation.domainIds.toFinset observation.actorRef
      observation.purpose) = found
  have hcitable : Citable (found.map GovernanceRule.ruleId) :=
    hfound ▸ citable_filter GovernanceRule.ruleId_stated hdistinct _
  have hall : found ≠ [] → ∃ report, relatorio .compliant subject policy evaluatedAt .effective
      (ordenados (found.map GovernanceRule.ruleId)) = .ok report := by
    intro hne
    have hids : ordenados (found.map GovernanceRule.ruleId) ≠ [] :=
      ordenados_ne_nil (by simpa using hne)
    exact relatorio_eq_ok hkind hinstant (ordenados_citable hcitable) List.nodup_nil ⟨hids, rfl⟩
  simp only
  split
  case isTrue =>
    split
    case isTrue h => exact hall h.1
    case isFalse => exact relatorio_eq_ok hkind hinstant citable_nil (by simp) (by simp [Fecha])
  case isFalse =>
    split
    case isTrue =>
      split
      case isTrue =>
        exact relatorioComViolacao_eq_ok hkind hinstant citable_nil (by simp [hcodes])
      case isFalse =>
        exact relatorio_eq_ok hkind hinstant citable_nil List.nodup_nil ⟨rfl, rfl⟩
    case isFalse hne =>
      split
      case isTrue =>
        have hdenied := citable_filter GovernanceRule.ruleId_stated hcitable.distinct
          (·.effect = .deny)
        exact relatorioComViolacao_eq_ok hkind hinstant (ordenados_citable hdenied)
          (by simp [hcodes])
      case isFalse => exact hall hne

/-- So is accessibility. -/
theorem avaliarAcessibilidade_eq_ok (hpolicy : policy.kind = .accessibility)
    (hkind : subject.kind = sujeitoPorPolitica policy.kind) (hinstant : evaluatedAt.Representable)
    (observation : AccessibilityStateObservation) :
    ∃ report, avaliarAcessibilidade subject policy observation evaluatedAt = .ok report := by
  have hdistinct : (policy.rules.accessibilityRules.map AccessibilityRule.ruleId).Nodup := by
    have hids := policy.ids_distinct
    cases hrules : policy.rules with
    | governance rules => exact List.nodup_nil
    | accessibility rules => rwa [hrules] at hids
    | retention rules => exact List.nodup_nil
  have hcodes : codigosPorPolitica policy.kind =
      [.accessibilityTransitionAgainstDeny, .accessibilityExtinctionWithoutEvidence,
        .accessibilityTransitionWithoutRule] := by
    rw [hpolicy]
    rfl
  unfold avaliarAcessibilidade
  split
  case h_1 =>
    refine relatorio_eq_ok hkind hinstant citable_nil ?_ (by simp [Fecha])
    split <;> simp
  case h_2 origem horigem =>
    simp only
    split
    case isTrue => exact relatorio_eq_ok hkind hinstant citable_nil (by simp) (by simp [Fecha])
    case isFalse =>
      split
      case isTrue =>
        exact relatorioComViolacao_eq_ok hkind hinstant citable_nil (by simp [hcodes])
      case isFalse =>
        have hfound := citable_filter AccessibilityRule.ruleId_stated hdistinct
          fun regra => regra.matches origem observation.currentState
        split
        case isTrue =>
          exact relatorioComViolacao_eq_ok hkind hinstant citable_nil (by simp [hcodes])
        case isFalse hne =>
          split
          case isTrue =>
            have hdenied := citable_filter AccessibilityRule.ruleId_stated hfound.distinct
              (·.effect = .deny)
            exact relatorioComViolacao_eq_ok hkind hinstant (ordenados_citable hdenied)
              (by simp [hcodes])
          case isFalse =>
            exact relatorio_eq_ok hkind hinstant (ordenados_citable hfound) List.nodup_nil
              ⟨ordenados_ne_nil (by simpa using hne), rfl⟩

/-- An assessment of retention always has its report. -/
theorem conformidadeDaRetencao_eq_ok (hpolicy : policy.kind = .retention)
    (hkind : subject.kind = sujeitoPorPolitica policy.kind) (hinstant : evaluatedAt.Representable)
    (observation : RetentionAgeObservation) (avaliacao : RetentionAssessment) :
    ∃ report, conformidadeDaRetencao subject policy observation evaluatedAt avaliacao =
      .ok report := by
  obtain ⟨⟨hdistinct, hstated⟩, hdistinct', hstated'⟩ := avaliacao.cites
  have hcodes : codigosPorPolitica policy.kind = [.retentionAssessmentInformationAbsent] := by
    rw [hpolicy]
    rfl
  have hcited (hne : avaliacao.decision ≠ .policyNotEffective)
      (hne' : avaliacao.decision ≠ .outOfScope) :
      ∃ report, relatorio .compliant subject policy evaluatedAt .effective
        (ordenados avaliacao.applicableRuleIds) = .ok report := by
    have hids := ordenados_ne_nil (avaliacao.grounded hne hne')
    exact relatorio_eq_ok hkind hinstant (ordenados_citable ⟨hstated, hdistinct⟩) List.nodup_nil
      ⟨hids, rfl⟩
  unfold conformidadeDaRetencao
  cases hdecision : avaliacao.decision with
  | policyNotEffective =>
    exact relatorio_eq_ok hkind hinstant citable_nil List.nodup_nil ⟨rfl, rfl⟩
  | outOfScope => exact relatorio_eq_ok hkind hinstant citable_nil List.nodup_nil ⟨rfl, rfl⟩
  | preserveLegacyProtected => exact hcited (by simp [hdecision]) (by simp [hdecision])
  | notYetDue => exact hcited (by simp [hdecision]) (by simp [hdecision])
  | assessAndInform =>
    cases observation.assessmentInformation with
    | notObserved =>
      exact relatorio_eq_ok hkind hinstant citable_nil (by simp) (by simp [Fecha])
    | absent =>
      exact relatorioComViolacao_eq_ok hkind hinstant (ordenados_citable ⟨hstated', hdistinct'⟩)
        (by simp [hcodes])
    | present => exact hcited (by simp [hdecision]) (by simp [hdecision])

/-- The item that a retention candidate and an observation of it describe. -/
def candidato (subject : ComplianceSubject) (observation : RetentionAgeObservation)
    (createdAt : Datetime) (domainId : Uuid) : RetentionCandidate :=
  ⟨subject.subjectCoid, domainId, createdAt, observation.legacyProtectionState⟩

theorem janela (policy : EvaluatedPolicy) :
    Janela policy.rules.retentionRules policy.effectiveFrom policy.effectiveUntil where
  ordered := (EvaluatedPolicyFields.violation_eq_none.mp policy.accepted).2.2.1
  distinct := by
    have hids := policy.ids_distinct
    cases hrules : policy.rules with
    | governance rules => exact List.nodup_nil
    | accessibility rules => exact List.nodup_nil
    | retention rules => rwa [hrules] at hids

/-- The anchor lies in the past, and the rules that reach the candidate fall due on a
date that can be written. -/
def Assessable (subject : ComplianceSubject) (policy : EvaluatedPolicy)
    (observation : RetentionAgeObservation) (evaluatedAt : Datetime) : Prop :=
  ∀ createdAt ∈ observation.anchorAt, createdAt.instant ≤ evaluatedAt.instant ∧
    ∀ domainId ∈ subject.domainId, ∀ regra ∈ policy.rules.retentionRules,
      alcanca (candidato subject observation createdAt domainId) regra = true →
        ∃ due, dueAt (candidato subject observation createdAt domainId) regra = .ok due

theorem avaliarRetencao_eq_ok (hpolicy : policy.kind = .retention)
    (hkind : subject.kind = sujeitoPorPolitica policy.kind) (hinstant : evaluatedAt.Representable)
    {observation : RetentionAgeObservation}
    (hassessable : Assessable subject policy observation evaluatedAt) :
    ∃ report, avaliarRetencao subject policy observation evaluatedAt = .ok report := by
  unfold avaliarRetencao
  cases hanchor : observation.anchorAt with
  | none => exact relatorio_eq_ok hkind hinstant citable_nil (by simp) (by simp [Fecha])
  | some createdAt =>
    obtain ⟨hborn, hdue⟩ := hassessable createdAt hanchor
    have hplaced := subject.candidate_placed (by rw [hkind, hpolicy]; rfl)
    obtain ⟨domainId, hdomain⟩ := Option.isSome_iff_exists.mp hplaced
    obtain ⟨avaliacao, havaliacao⟩ := @Memory.avaliarRetencao_eq_ok
      (candidato subject observation createdAt domainId) evaluatedAt _ _ _ (janela policy) hborn
      (hdue domainId hdomain)
    obtain ⟨report, hreport⟩ :=
      conformidadeDaRetencao_eq_ok hpolicy hkind hinstant observation avaliacao
    refine ⟨report, ?_⟩
    simp only [hdomain]
    exact bind_eq_ok.mpr ⟨avaliacao, havaliacao, hreport⟩

/-- A candidate whose anchor lies in the future is refused. -/
theorem avaliarRetencao_unborn (hpolicy : policy.kind = .retention)
    (hkind : subject.kind = sujeitoPorPolitica policy.kind)
    {observation : RetentionAgeObservation} {createdAt : Datetime}
    (hanchor : observation.anchorAt = some createdAt)
    (hunborn : evaluatedAt.instant < createdAt.instant) :
    avaliarRetencao subject policy observation evaluatedAt =
      .error ("candidate.created_at posterior a evaluated_at — um item não é avaliado " ++
        "antes de existir") := by
  have hplaced := subject.candidate_placed (by rw [hkind, hpolicy]; rfl)
  obtain ⟨domainId, hdomain⟩ := Option.isSome_iff_exists.mp hplaced
  have hrefused := @Memory.avaliarRetencao_unborn
    (candidato subject observation createdAt domainId) evaluatedAt _ _ _ (janela policy) hunborn
  rw [candidato] at hrefused
  unfold avaliarRetencao
  simp only [hanchor, hdomain, hrefused]
  rfl

end Total

/-- What the compliance of an operation has to do with the governance of the context it
was observed in. -/
structure GovernanceAgreement (version : GovernancePolicy) (context : MemoryContext) : Prop where
  refused : ∀ (f : EvaluatedPolicyFields) (operation : CognitiveOperation) (text : String),
    f.rules = .governance version.rules → evaluate version operation context = .error text →
      ∃ text', EvaluatedPolicy.make f = .error text'
  decided : ∀ (policy : EvaluatedPolicy) (operation : CognitiveOperation),
    policy.rules = .governance version.rules →
      ∃ decided, evaluate version operation context = .ok decided
  dispatched : ∀ (subject : ComplianceSubject) (policy : EvaluatedPolicy)
    (observation : GovernedOperationObservation) (evaluatedAt : Datetime),
    policy.rules = .governance version.rules → subject.kind = .governedOperation →
      policy.windowAt evaluatedAt = .effective →
      avaliarConformidade subject policy (.governedOperation observation) evaluatedAt =
        avaliarGovernanca subject policy observation evaluatedAt
  verdict : ∀ (subject : ComplianceSubject) (policy : EvaluatedPolicy)
    (observation : GovernedOperationObservation) (evaluatedAt : Datetime)
    (report : ComplianceReport) (decided : GovernanceDecision),
    policy.rules = .governance version.rules → Observes observation context →
      avaliarGovernanca subject policy observation evaluatedAt = .ok report →
      evaluate version observation.operation context = .ok decided →
      (report.outcome, report.violationCodes) =
          veredito observation.observedState decided.outcome ∧
        (report.outcome = .violationConfirmed ↔
          observation.observedState = .executed ∧ decided.outcome ≠ .admissible)
  unobserved : ∀ (subject : ComplianceSubject) (policy : EvaluatedPolicy)
    (observation : GovernedOperationObservation) (evaluatedAt : Datetime)
    (report : ComplianceReport),
    observation.observedState = .notObserved →
      avaliarGovernanca subject policy observation evaluatedAt = .ok report →
      report.outcome = .compliant → ∀ estado, ∃ report',
        avaliarGovernanca subject policy { observation with observedState := estado }
          evaluatedAt = .ok report' ∧ report'.outcome = .compliant

/-- An unobserved execution is compliant where every observation would be. -/
theorem avaliarGovernanca_unobserved {subject : ComplianceSubject} {policy : EvaluatedPolicy}
    {observation : GovernedOperationObservation} {evaluatedAt : Datetime}
    {report : ComplianceReport} (hstate : observation.observedState = .notObserved)
    (hreport : avaliarGovernanca subject policy observation evaluatedAt = .ok report)
    (hcompliant : report.outcome = .compliant) (estado : ObservedOperationState) :
    ∃ report', avaliarGovernanca subject policy { observation with observedState := estado }
      evaluatedAt = .ok report' ∧ report'.outcome = .compliant := by
  refine ⟨report, ?_, hcompliant⟩
  unfold avaliarGovernanca at hreport ⊢
  simp only [hstate, if_true] at hreport ⊢
  generalize (policy.rules.governanceRules.filter fun regra =>
    regra.matches observation.operation observation.domainIds.toFinset observation.actorRef
      observation.purpose) = found at hreport ⊢
  split at hreport
  case isTrue hadmitted =>
    obtain ⟨hfound, hdenied⟩ := hadmitted
    simp only [hfound, hdenied, ne_eq, not_false_eq_true, not_true_eq_false, and_self, false_and,
      if_true, if_false, ite_self]
    exact hreport
  case isFalse =>
    have hmissing := (of_relatorio hreport).1
    rw [hcompliant] at hmissing
    cases hmissing

/-- Compliance agrees with governance: for every list of rules and every context. -/
theorem governance_agreement (version : GovernancePolicy) (context : MemoryContext) :
    GovernanceAgreement version context where
  refused f operation text hrules htext := by
    cases hmake : EvaluatedPolicy.make f with
    | error text' => exact ⟨text', rfl⟩
    | ok policy =>
      obtain ⟨haccepted, -⟩ := of_checked hmake
      have hdistinct : DistinctIds version.rules := by
        have hids := (EvaluatedPolicyFields.violation_eq_none.mp haccepted).2.2.2
        rwa [hrules] at hids
      rw [evaluate_distinct hdistinct] at htext
      cases htext
  decided _ _ hrules := ⟨_, evaluate_distinct (rules_distinct hrules)⟩
  dispatched subject policy observation evaluatedAt hrules hkind hwindow := by
    have hpolicy : policy.kind = .governance := by
      rw [EvaluatedPolicy.kind, hrules]
      rfl
    unfold avaliarConformidade
    simp only [hpolicy, hkind, hwindow, sujeitoPorPolitica, ComplianceObservation.kind, ne_eq,
      not_true_eq_false, if_false]
  verdict _ _ observation _ report decided hrules hobserves hreport hdecided := by
    have hverdict := avaliarGovernanca_verdict hrules hobserves hreport hdecided
    refine ⟨hverdict, ?_⟩
    have houtcome := evaluate_outcome hdecided
    have hother : decided.outcome ≠ .prohibited := by
      rw [houtcome]
      split_ifs <;> simp
    have hfst : report.outcome =
        (veredito observation.observedState decided.outcome).1 := congrArg Prod.fst hverdict
    rw [hfst]
    exact veredito_violation hother
  unobserved _ _ _ _ _ hstate hreport hcompliant estado :=
    avaliarGovernanca_unobserved hstate hreport hcompliant estado

/-- How the evaluation of a subject, a policy and an observation ends. -/
structure EvaluationEnds (subject : ComplianceSubject) (policy : EvaluatedPolicy)
    (observation : ComplianceObservation) (evaluatedAt : Datetime) : Prop where
  other_subject : subject.kind ≠ sujeitoPorPolitica policy.kind →
    avaliarConformidade subject policy observation evaluatedAt =
      .error ("política " ++ policy.kind.value ++ " avalia sujeito " ++
        (sujeitoPorPolitica policy.kind).value ++ ", recebido " ++ subject.kind.value)
  other_observation : subject.kind = sujeitoPorPolitica policy.kind →
    observation.kind ≠ policy.kind →
    avaliarConformidade subject policy observation evaluatedAt =
      .error ("política " ++ policy.kind.value ++ " exige " ++
        ComplianceObservation.className policy.kind ++ ", recebido " ++
        ComplianceObservation.className observation.kind)
  reported : subject.kind = sujeitoPorPolitica policy.kind → observation.kind = policy.kind →
    evaluatedAt.Representable →
    (∀ age, observation = .retentionAge age → policy.windowAt evaluatedAt = .effective →
      Assessable subject policy age evaluatedAt) →
    ∃ report, avaliarConformidade subject policy observation evaluatedAt = .ok report
  unborn : subject.kind = sujeitoPorPolitica policy.kind → policy.kind = .retention →
    policy.windowAt evaluatedAt = .effective →
    ∀ age createdAt, observation = .retentionAge age → age.anchorAt = some createdAt →
      evaluatedAt.instant < createdAt.instant →
      avaliarConformidade subject policy observation evaluatedAt =
        .error ("candidate.created_at posterior a evaluated_at — um item não é avaliado " ++
          "antes de existir")

section Ends

variable {subject : ComplianceSubject} {policy : EvaluatedPolicy} {evaluatedAt : Datetime}

/-- Outside the window of the policy there is nothing to evaluate. -/
theorem outside_reported {observation : ComplianceObservation}
    (hkind : subject.kind = sujeitoPorPolitica policy.kind)
    (hobservation : observation.kind = policy.kind) (hinstant : evaluatedAt.Representable)
    (hwindow : policy.windowAt evaluatedAt ≠ .effective) :
    ∃ report, avaliarConformidade subject policy observation evaluatedAt = .ok report := by
  unfold avaliarConformidade
  simp only [hkind, hobservation, hwindow, ne_eq, not_true_eq_false, not_false_eq_true, if_false,
    if_true]
  exact relatorio_eq_ok hkind hinstant citable_nil List.nodup_nil ⟨rfl, rfl⟩

private theorem unborn_refused (hkind : subject.kind = sujeitoPorPolitica policy.kind)
    (hpolicy : policy.kind = .retention) (hwindow : policy.windowAt evaluatedAt = .effective)
    {age : RetentionAgeObservation} {createdAt : Datetime} (hanchor : age.anchorAt = some createdAt)
    (hunborn : evaluatedAt.instant < createdAt.instant) :
    avaliarConformidade subject policy (.retentionAge age) evaluatedAt =
      .error ("candidate.created_at posterior a evaluated_at — um item não é avaliado " ++
        "antes de existir") := by
  have hrefused := avaliarRetencao_unborn hpolicy hkind hanchor hunborn
  unfold avaliarConformidade
  simp only [hkind, hwindow, hpolicy, ComplianceObservation.kind, ne_eq, not_true_eq_false,
    if_false]
  exact hrefused

end Ends

/-- A candidate for retention, in a domain. -/
def umCandidato : ComplianceSubject :=
  ⟨.retentionCandidate, ⟨1⟩, some ⟨2⟩, fun _ => rfl⟩

/-- A policy of retention that is always in force. -/
def umaPolitica : EvaluatedPolicy where
  policyId := ⟨3⟩
  policyKey := "retention"
  policyVersion := 1
  effectiveFrom := .epoch
  effectiveUntil := none
  rules := .retention
    [{ ruleId := "r", scopeKind := .allLocalPatrimony, minimumAgeDays := 1,
       ruleId_opaque := by decide +kernel, age_positive := by decide, scope_matches := by simp }]
  accepted := by decide +kernel

end Compliance

end PiaOs.Memory
