import PiaOs.Memory.Compliance
import PiaOs.Memory.Evaluation
import PiaOs.Memory.Retention

/-!
# The evaluation of compliance

`avaliar_conformidade` compares what was observed with what one version of a
policy says, for each of the three families. It decides nothing and changes
nothing: it reports.
-/

namespace PiaOs.Memory

open Support

inductive ObservedOperationState
  | executed | notExecuted | notObserved
  deriving DecidableEq, Repr

inductive CausalEvidencePresence
  | present | absent | notObserved
  deriving DecidableEq, Repr

inductive AssessmentInformationState
  | present | absent | notObserved
  deriving DecidableEq, Repr

inductive AccessibilityState
  | active | latent | inaccessible | causallyExtinct
  deriving DecidableEq, Repr

/-- One edge between two states. The source keeps each end as a set of one token. -/
structure AccessibilityRule where
  ruleId : String
  effect : GovernanceEffect
  sourceState : AccessibilityState
  targetState : AccessibilityState
  ruleId_stated : blank ruleId = false
  no_selfLoop : sourceState ≠ targetState

def AccessibilityRule.«matches» (rule : AccessibilityRule) (source target : AccessibilityState) :
    Bool := source = rule.sourceState && target = rule.targetState

/-- What is evaluated. A candidate for retention names its domain. -/
structure ComplianceSubject where
  kind : ComplianceSubjectKind
  subjectCoid : Uuid
  domainId : Option Uuid := none
  candidate_placed : kind = .retentionCandidate → domainId.isSome

def ComplianceSubject.toRef (subject : ComplianceSubject) : ComplianceSubjectRef :=
  { kind := subject.kind, subjectCoid := subject.subjectCoid, domainId := subject.domainId }

/-- The rules of a policy, all of its family. -/
inductive PolicyRules
  | governance (rules : List GovernanceRule)
  | accessibility (rules : List AccessibilityRule)
  | retention (rules : List RetentionRule)

namespace PolicyRules

def kind : PolicyRules → PolicyKind
  | .governance _ => .governance
  | .accessibility _ => .accessibility
  | .retention _ => .retention

def ids : PolicyRules → List String
  | .governance rules => rules.map GovernanceRule.ruleId
  | .accessibility rules => rules.map AccessibilityRule.ruleId
  | .retention rules => rules.map RetentionRule.ruleId

def governanceRules : PolicyRules → List GovernanceRule
  | .governance rules => rules
  | _ => []

def accessibilityRules : PolicyRules → List AccessibilityRule
  | .accessibility rules => rules
  | _ => []

def retentionRules : PolicyRules → List RetentionRule
  | .retention rules => rules
  | _ => []

end PolicyRules

structure EvaluatedPolicyFields where
  policyId : Uuid
  policyKey : String
  policyVersion : Int
  effectiveFrom : Datetime
  effectiveUntil : Option Datetime
  rules : PolicyRules

/-- The checks of `__post_init__`, in order. -/
def EvaluatedPolicyFields.violation (f : EvaluatedPolicyFields) : Option String :=
  firstOf
    [refuse (blank f.policyKey) "policy_key deve ser texto não vazio",
      refuse (f.policyVersion < 1) "policy_version deve ser >= 1",
      refuse (f.effectiveUntil.any fun fim => fim.instant ≤ f.effectiveFrom.instant)
        ("effective_until deve ser posterior a effective_from — janela " ++
          "vazia ou invertida não é janela"),
      (firstRepeated [] f.rules.ids).map fun ruleId =>
        "rule_id repetido: " ++ pyRepr ruleId ++
          " — a ordem de declaração passaria a mudar o resultado"]

/-- A policy with its rules and its window, the first instant included and the last not. -/
structure EvaluatedPolicy extends EvaluatedPolicyFields where
  accepted : toEvaluatedPolicyFields.violation = none

def EvaluatedPolicy.make (f : EvaluatedPolicyFields) : Except String EvaluatedPolicy :=
  checked _ fun h => ⟨f, h⟩

theorem EvaluatedPolicyFields.violation_eq_none {f : EvaluatedPolicyFields} :
    f.violation = none ↔ blank f.policyKey = false ∧ 1 ≤ f.policyVersion ∧
      (∀ fim ∈ f.effectiveUntil, f.effectiveFrom.instant < fim.instant) ∧ f.rules.ids.Nodup := by
  have hrepeated := @firstRepeated_eq_none String _ [] f.rules.ids
  simp only [List.not_mem_nil, not_false_eq_true, implies_true, and_true] at hrepeated
  simp only [violation, firstOf_eq_none, List.forall_mem_cons, refuse_eq_none,
    Option.map_eq_none_iff, hrepeated, decide_eq_false_iff_not, Int.not_lt, List.not_mem_nil,
    false_implies, implies_true, and_true]
  cases f.effectiveUntil with
  | none => simp
  | some fim => simp [Option.any_some]

namespace EvaluatedPolicy

variable (policy : EvaluatedPolicy)

def kind : PolicyKind := policy.rules.kind

def toRef : PolicyReference where
  kind := policy.kind
  policyId := policy.policyId
  policyKey := policy.policyKey
  policyVersion := policy.policyVersion
  policyKey_stated := (EvaluatedPolicyFields.violation_eq_none.mp policy.accepted).1
  policyVersion_positive := (EvaluatedPolicyFields.violation_eq_none.mp policy.accepted).2.1

theorem ids_distinct : policy.rules.ids.Nodup :=
  (EvaluatedPolicyFields.violation_eq_none.mp policy.accepted).2.2.2

def windowAt (instante : Datetime) : PolicyWindowState :=
  if instante.instant < policy.effectiveFrom.instant then .beforeWindow
  else if policy.effectiveUntil.any fun fim => fim.instant ≤ instante.instant then .afterWindow
  else .effective

end EvaluatedPolicy

/-- What was observed of a governed operation. -/
structure GovernedOperationObservation where
  operation : CognitiveOperation
  observedState : ObservedOperationState
  actorRef : Option String := none
  purpose : Option String := none
  domainIds : List Uuid := []

structure AccessibilityStateObservation where
  currentState : AccessibilityState
  declaredSource : Option AccessibilityState := none
  causalEvidence : CausalEvidencePresence := .notObserved

structure RetentionAgeObservation where
  anchorAt : Option Datetime
  legacyProtectionState : LegacyProtectionState
  assessmentInformation : AssessmentInformationState := .notObserved

inductive ComplianceObservation
  | governedOperation (observation : GovernedOperationObservation)
  | accessibilityState (observation : AccessibilityStateObservation)
  | retentionAge (observation : RetentionAgeObservation)

namespace ComplianceObservation

/-- The family of policies that asks for the observation. -/
def kind : ComplianceObservation → PolicyKind
  | .governedOperation _ => .governance
  | .accessibilityState _ => .accessibility
  | .retentionAge _ => .retention

/-- `OBSERVACAO_POR_POLITICA`, by the names of the classes. -/
def className : PolicyKind → String
  | .governance => "GovernedOperationObservation"
  | .accessibility => "AccessibilityStateObservation"
  | .retention => "RetentionAgeObservation"

end ComplianceObservation

namespace Compliance

/-- `sorted` of identifiers. -/
def ordenados (ids : List String) : List String := ids.insertionSort (· ≤ ·)

/-- `_relatorio`: a report without findings. -/
def relatorio (desfecho : ComplianceOutcome) (subject : ComplianceSubject)
    (policy : EvaluatedPolicy) (evaluatedAt : Datetime) (janela : PolicyWindowState)
    (regras : List String := []) (faltantes : List MissingObservation := []) :
    Except String ComplianceReport := do
  let evidence ← ReportEvidence.make
    { policyWindow := janela, applicableRuleIds := regras, missingObservations := faltantes }
  ComplianceReport.make
    { outcome := desfecho, subjectRef := subject.toRef, policyRef := policy.toRef,
      policyVersion := policy.policyVersion, evaluatedAt, evidence }

/-- `_relatorio_com_violacao`: a report with one finding. -/
def relatorioComViolacao (subject : ComplianceSubject) (policy : EvaluatedPolicy)
    (evaluatedAt : Datetime) (codigo : ComplianceCode) (severidade : ErrorSeverity)
    (regras : List String) : Except String ComplianceReport := do
  let finding ← ComplianceFinding.make
    { code := codigo, severity := severidade, subjectRef := subject.toRef,
      policyRef := policy.toRef, policyVersion := policy.policyVersion, evaluatedAt,
      matchedRuleIds := regras }
  let evidence ← ReportEvidence.make { policyWindow := .effective, applicableRuleIds := regras }
  ComplianceReport.make
    { outcome := .violationConfirmed, subjectRef := subject.toRef, policyRef := policy.toRef,
      policyVersion := policy.policyVersion, evaluatedAt, evidence, findings := [finding] }

/-- `_avaliar_governanca`. -/
def avaliarGovernanca (subject : ComplianceSubject) (policy : EvaluatedPolicy)
    (observation : GovernedOperationObservation) (evaluatedAt : Datetime) :
    Except String ComplianceReport :=
  let aplicaveis := policy.rules.governanceRules.filter fun regra =>
    regra.matches observation.operation observation.domainIds.toFinset observation.actorRef
      observation.purpose
  let negacoes := aplicaveis.filter (·.effect = .deny)
  let identificadores := ordenados (aplicaveis.map GovernanceRule.ruleId)
  if observation.observedState = .notObserved then
    if aplicaveis ≠ [] ∧ negacoes = [] then
      relatorio .compliant subject policy evaluatedAt .effective identificadores
    else
      relatorio .insufficientInformation subject policy evaluatedAt .effective []
        [.observedOperationState]
  else if aplicaveis = [] then
    if observation.observedState = .executed then
      relatorioComViolacao subject policy evaluatedAt .governanceOperationExecutedWithoutRule
        .warning []
    else relatorio .policyNotApplicable subject policy evaluatedAt .effective
  else if negacoes ≠ [] ∧ observation.observedState = .executed then
    relatorioComViolacao subject policy evaluatedAt .governanceOperationExecutedAgainstDeny .error
      (ordenados (negacoes.map GovernanceRule.ruleId))
  else relatorio .compliant subject policy evaluatedAt .effective identificadores

/-- `_avaliar_acessibilidade`. -/
def avaliarAcessibilidade (subject : ComplianceSubject) (policy : EvaluatedPolicy)
    (observation : AccessibilityStateObservation) (evaluatedAt : Datetime) :
    Except String ComplianceReport :=
  let extinto := observation.currentState = .causallyExtinct
  let semEvidencia := extinto ∧ observation.causalEvidence = .notObserved
  match observation.declaredSource with
  | none =>
    relatorio .insufficientInformation subject policy evaluatedAt .effective []
      (.declaredSourceState :: if semEvidencia then [.causalEvidence] else [])
  | some origem =>
    let aplicaveis := policy.rules.accessibilityRules.filter
      fun regra => regra.matches origem observation.currentState
    let negacoes := aplicaveis.filter (·.effect = .deny)
    if semEvidencia then
      relatorio .insufficientInformation subject policy evaluatedAt .effective [] [.causalEvidence]
    else if extinto ∧ observation.causalEvidence = .absent then
      relatorioComViolacao subject policy evaluatedAt .accessibilityExtinctionWithoutEvidence
        .critical []
    else if aplicaveis = [] then
      relatorioComViolacao subject policy evaluatedAt .accessibilityTransitionWithoutRule
        .warning []
    else if negacoes ≠ [] then
      relatorioComViolacao subject policy evaluatedAt .accessibilityTransitionAgainstDeny .error
        (ordenados (negacoes.map AccessibilityRule.ruleId))
    else
      relatorio .compliant subject policy evaluatedAt .effective
        (ordenados (aplicaveis.map AccessibilityRule.ruleId))

/-- What an assessment of retention means for compliance. -/
def conformidadeDaRetencao (subject : ComplianceSubject) (policy : EvaluatedPolicy)
    (observation : RetentionAgeObservation) (evaluatedAt : Datetime)
    (avaliacao : RetentionAssessment) : Except String ComplianceReport :=
  let aplicaveis := ordenados avaliacao.applicableRuleIds
  match avaliacao.decision with
  | .policyNotEffective | .outOfScope =>
    relatorio .policyNotApplicable subject policy evaluatedAt .effective
  | .preserveLegacyProtected | .notYetDue =>
    relatorio .compliant subject policy evaluatedAt .effective aplicaveis
  | .assessAndInform =>
    match observation.assessmentInformation with
    | .notObserved =>
      relatorio .insufficientInformation subject policy evaluatedAt .effective []
        [.assessmentInformation]
    | .absent =>
      relatorioComViolacao subject policy evaluatedAt .retentionAssessmentInformationAbsent
        .warning (ordenados avaliacao.dueRuleIds)
    | .present => relatorio .compliant subject policy evaluatedAt .effective aplicaveis

/-- `_avaliar_retencao`. -/
def avaliarRetencao (subject : ComplianceSubject) (policy : EvaluatedPolicy)
    (observation : RetentionAgeObservation) (evaluatedAt : Datetime) :
    Except String ComplianceReport :=
  match observation.anchorAt with
  | none =>
    relatorio .insufficientInformation subject policy evaluatedAt .effective [] [.anchorTimestamp]
  | some createdAt =>
    match subject.domainId with
    | none => .error ("candidato de retenção sem domain_id — o construtor de ComplianceSubject " ++
        "já recusa este estado, e a segunda camada existe para que uma futura " ++
        "flexibilização daquele contrato não passe em silêncio por aqui")
    | some domainId => do
      let avaliacao ← Memory.avaliarRetencao
        ⟨subject.subjectCoid, domainId, createdAt, observation.legacyProtectionState⟩
        policy.rules.retentionRules policy.effectiveFrom policy.effectiveUntil evaluatedAt
      conformidadeDaRetencao subject policy observation evaluatedAt avaliacao

/-- `avaliar_conformidade`. -/
def avaliarConformidade (subject : ComplianceSubject) (policy : EvaluatedPolicy)
    (observation : ComplianceObservation) (evaluatedAt : Datetime) :
    Except String ComplianceReport :=
  if subject.kind ≠ sujeitoPorPolitica policy.kind then
    .error ("política " ++ policy.kind.value ++ " avalia sujeito " ++
      (sujeitoPorPolitica policy.kind).value ++ ", recebido " ++ subject.kind.value)
  else if observation.kind ≠ policy.kind then
    .error ("política " ++ policy.kind.value ++ " exige " ++
      ComplianceObservation.className policy.kind ++ ", recebido " ++
      ComplianceObservation.className observation.kind)
  else if policy.windowAt evaluatedAt ≠ .effective then
    relatorio .policyNotApplicable subject policy evaluatedAt (policy.windowAt evaluatedAt)
  else
    match observation with
    | .governedOperation observation => avaliarGovernanca subject policy observation evaluatedAt
    | .accessibilityState observation =>
      avaliarAcessibilidade subject policy observation evaluatedAt
    | .retentionAge observation => avaliarRetencao subject policy observation evaluatedAt

/-- The cells of the matrix of a report without findings. -/
def Fecha (regras : List String) (faltantes : List MissingObservation) :
    ComplianceOutcome → Prop
  | .compliant => regras ≠ [] ∧ faltantes = []
  | .policyNotApplicable => regras = [] ∧ faltantes = []
  | .insufficientInformation => faltantes ≠ []
  | .violationConfirmed => False

section Reports

variable {subject : ComplianceSubject} {policy : EvaluatedPolicy} {evaluatedAt : Datetime}
  {regras : List String}

theorem ordenados_citable (h : Citable regras) : Citable (ordenados regras) where
  stated item hitem := h.stated item ((List.perm_insertionSort _ _).mem_iff.mp hitem)
  distinct := (List.perm_insertionSort _ _).nodup_iff.mpr h.distinct

theorem ordenados_ne_nil (h : regras ≠ []) : ordenados regras ≠ [] := by
  intro hnil
  have hperm : (ordenados regras).Perm regras := List.perm_insertionSort _ _
  rw [hnil] at hperm
  exact h hperm.nil_eq.symm

theorem citable_nil : Citable [] := ⟨by simp, List.nodup_nil⟩

/-- A report without findings is built in every cell of its matrix. -/
theorem relatorio_eq_ok {desfecho : ComplianceOutcome} {janela : PolicyWindowState}
    {faltantes : List MissingObservation} (hkind : subject.kind = sujeitoPorPolitica policy.kind)
    (hinstant : evaluatedAt.Representable) (hids : Citable regras) (hmissing : faltantes.Nodup)
    (hcell : Fecha regras faltantes desfecho) :
    ∃ report, relatorio desfecho subject policy evaluatedAt janela regras faltantes =
      .ok report := by
  obtain ⟨evidence, hevidence, hfields⟩ := ReportEvidence.make_eq_ok
    (f := ⟨janela, regras, faltantes⟩) hids hmissing
  have hcoherent : ComplianceReportFields.coerencia
      ⟨desfecho, subject.toRef, policy.toRef, policy.policyVersion, evaluatedAt, evidence, []⟩ =
        none := by
    unfold ComplianceReportFields.coerencia
    cases desfecho with
    | compliant => simp [hfields, hcell.1, hcell.2]
    | policyNotApplicable => simp [hfields, hcell.1, hcell.2]
    | insufficientInformation =>
      have hsome : faltantes ≠ [] := hcell
      simp [hfields, hsome]
    | violationConfirmed => exact hcell.elim
  obtain ⟨report, hreport, -⟩ := ComplianceReport.make_eq_ok
    (f := ⟨desfecho, subject.toRef, policy.toRef, policy.policyVersion, evaluatedAt, evidence, []⟩)
    rfl hinstant hkind (by simp) (by simp) hcoherent
  exact ⟨report, by rw [relatorio, hevidence, ok_bind, hreport]⟩

/-- A report with a finding is built for every code of the family. -/
theorem relatorioComViolacao_eq_ok {codigo : ComplianceCode} {severidade : ErrorSeverity}
    (hkind : subject.kind = sujeitoPorPolitica policy.kind) (hinstant : evaluatedAt.Representable)
    (hids : Citable regras) (hcode : codigo ∈ codigosPorPolitica policy.kind) :
    ∃ report, relatorioComViolacao subject policy evaluatedAt codigo severidade regras =
      .ok report := by
  obtain ⟨finding, hfinding, -, hsubject, hpolicy, hversion, hat⟩ := ComplianceFinding.make_eq_ok
    (f := ⟨codigo, severidade, subject.toRef, policy.toRef, policy.policyVersion, evaluatedAt,
      regras⟩) rfl hinstant hids.stated hcode hkind
  obtain ⟨evidence, hevidence, -⟩ := ReportEvidence.make_eq_ok
    (f := ⟨.effective, regras, []⟩) hids List.nodup_nil
  obtain ⟨report, hreport, -⟩ := ComplianceReport.make_eq_ok
    (f := ⟨.violationConfirmed, subject.toRef, policy.toRef, policy.policyVersion, evaluatedAt,
      evidence, [finding]⟩) rfl hinstant hkind (by simp)
    (by simpa using ⟨hsubject, hpolicy, hversion, hat⟩)
    (by simp [ComplianceReportFields.coerencia])
  exact ⟨report, by rw [relatorioComViolacao, hfinding, ok_bind, hevidence, ok_bind, hreport]⟩

theorem of_relatorio {desfecho : ComplianceOutcome} {janela : PolicyWindowState}
    {faltantes : List MissingObservation} {report : ComplianceReport}
    (h : relatorio desfecho subject policy evaluatedAt janela regras faltantes = .ok report) :
    report.outcome = desfecho ∧ report.violationCodes = [] := by
  obtain ⟨evidence, -, hmake⟩ := bind_eq_ok.mp h
  obtain ⟨houtcome, hfindings⟩ := ComplianceReport.of_make hmake
  exact ⟨houtcome, by rw [ComplianceReport.violationCodes, hfindings]; rfl⟩

theorem of_relatorioComViolacao {codigo : ComplianceCode} {severidade : ErrorSeverity}
    {report : ComplianceReport}
    (h : relatorioComViolacao subject policy evaluatedAt codigo severidade regras = .ok report) :
    report.outcome = .violationConfirmed ∧ report.violationCodes = [codigo] := by
  obtain ⟨finding, hfinding, hrest⟩ := bind_eq_ok.mp h
  obtain ⟨evidence, -, hmake⟩ := bind_eq_ok.mp hrest
  obtain ⟨houtcome, hfindings⟩ := ComplianceReport.of_make hmake
  have hcode : finding.code = codigo := ComplianceFinding.of_make hfinding
  exact ⟨houtcome, by rw [ComplianceReport.violationCodes, hfindings, List.map_singleton, hcode]⟩

end Reports

end Compliance

end PiaOs.Memory
