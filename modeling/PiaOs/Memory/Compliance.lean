import PiaOs.Memory.Datetime
import PiaOs.Memory.Resolution

/-!
# Compliance reports

A report says how one subject stands against one version of one policy. Its
constructor closes the matrix of outcome, findings and evidence.
-/

namespace PiaOs.Memory

open Support

inductive ComplianceOutcome
  | compliant | policyNotApplicable | insufficientInformation | violationConfirmed
  deriving DecidableEq, Repr

def ComplianceOutcome.value : ComplianceOutcome → String
  | .compliant => "compliant"
  | .policyNotApplicable => "policy_not_applicable"
  | .insufficientInformation => "insufficient_information"
  | .violationConfirmed => "violation_confirmed"

inductive PolicyKind
  | governance | accessibility | retention
  deriving DecidableEq, Repr

def PolicyKind.value : PolicyKind → String
  | .governance => "governance"
  | .accessibility => "accessibility"
  | .retention => "retention"

inductive ComplianceSubjectKind
  | governedOperation | accessibilityTransition | retentionCandidate
  deriving DecidableEq, Repr

def ComplianceSubjectKind.value : ComplianceSubjectKind → String
  | .governedOperation => "governed_operation"
  | .accessibilityTransition => "accessibility_transition"
  | .retentionCandidate => "retention_candidate"

inductive PolicyWindowState
  | effective | beforeWindow | afterWindow
  deriving DecidableEq, Repr

inductive MissingObservation
  | anchorTimestamp | declaredSourceState | observedOperationState | causalEvidence
  | assessmentInformation
  deriving DecidableEq, Repr

inductive ErrorSeverity
  | warning | error | critical
  deriving DecidableEq, Repr

inductive ComplianceCode
  | governanceOperationExecutedAgainstDeny | governanceOperationExecutedWithoutRule
  | accessibilityTransitionAgainstDeny | accessibilityExtinctionWithoutEvidence
  | accessibilityTransitionWithoutRule | retentionAssessmentInformationAbsent
  deriving DecidableEq, Repr

def ComplianceCode.value : ComplianceCode → String
  | .governanceOperationExecutedAgainstDeny => "COMPLIANCE-GOV-001"
  | .governanceOperationExecutedWithoutRule => "COMPLIANCE-GOV-002"
  | .accessibilityTransitionAgainstDeny => "COMPLIANCE-ACC-001"
  | .accessibilityExtinctionWithoutEvidence => "COMPLIANCE-ACC-002"
  | .accessibilityTransitionWithoutRule => "COMPLIANCE-ACC-003"
  | .retentionAssessmentInformationAbsent => "COMPLIANCE-RET-001"

/-- `SUJEITO_POR_POLITICA`. -/
def sujeitoPorPolitica : PolicyKind → ComplianceSubjectKind
  | .governance => .governedOperation
  | .accessibility => .accessibilityTransition
  | .retention => .retentionCandidate

/-- `CODIGOS_POR_POLITICA`. -/
def codigosPorPolitica : PolicyKind → List ComplianceCode
  | .governance =>
    [.governanceOperationExecutedAgainstDeny, .governanceOperationExecutedWithoutRule]
  | .accessibility =>
    [.accessibilityTransitionAgainstDeny, .accessibilityExtinctionWithoutEvidence,
      .accessibilityTransitionWithoutRule]
  | .retention => [.retentionAssessmentInformationAbsent]

/-- The policy that was evaluated. -/
structure PolicyReference where
  kind : PolicyKind
  policyId : Uuid
  policyKey : String
  policyVersion : Int
  policyKey_stated : blank policyKey = false
  policyVersion_positive : 1 ≤ policyVersion

theorem PolicyReference.eq_iff {p q : PolicyReference} : p = q ↔ p.kind = q.kind ∧
    p.policyId = q.policyId ∧ p.policyKey = q.policyKey ∧ p.policyVersion = q.policyVersion := by
  cases p
  cases q
  simp

instance : DecidableEq PolicyReference := fun _ _ => decidable_of_iff _ PolicyReference.eq_iff.symm

/-- The subject, by its identifiers only. -/
structure ComplianceSubjectRef where
  kind : ComplianceSubjectKind
  subjectCoid : Uuid
  domainId : Option Uuid := none
  deriving DecidableEq

/-- The texts of the entries that are blank. -/
def textosVazios (nome : String) (valor : List String) : List (Option String) :=
  valor.mapIdx fun indice item =>
    refuse (blank item)
      (nome ++ "[" ++ toString indice ++ "] não pode ser vazio ou apenas espaços")

theorem textosVazios_eq_none {nome : String} {valor : List String}
    (h : ∀ item ∈ valor, blank item = false) : ∀ check ∈ textosVazios nome valor, check = none := by
  intro check hcheck
  obtain ⟨indice, hindice, rfl⟩ := List.mem_mapIdx.mp hcheck
  exact refuse_eq_none.mpr (h _ (List.getElem_mem hindice))

/-- The pairing that a finding and a report both ask for. -/
def sujeitoIncompativel (subjectRef : ComplianceSubjectRef) (policyRef : PolicyReference) :
    Option String :=
  refuse (subjectRef.kind ≠ sujeitoPorPolitica policyRef.kind)
    ("sujeito " ++ subjectRef.kind.value ++ " é incompatível com política " ++
      policyRef.kind.value)

structure ComplianceFindingFields where
  code : ComplianceCode
  severity : ErrorSeverity
  subjectRef : ComplianceSubjectRef
  policyRef : PolicyReference
  policyVersion : Int
  evaluatedAt : Datetime
  matchedRuleIds : List String := []

/-- The checks that follow the canonical instant. -/
def ComplianceFindingFields.violation (f : ComplianceFindingFields) : Option String :=
  firstOf (textosVazios "matched_rule_ids" f.matchedRuleIds ++
    [refuse (f.code ∉ codigosPorPolitica f.policyRef.kind)
        (f.code.value ++ " não pertence à família " ++ f.policyRef.kind.value ++
          " — um finding não cita regra que a política avaliada não tem"),
      sujeitoIncompativel f.subjectRef f.policyRef])

/-- A condition located in a subject, dated in UTC. -/
structure ComplianceFinding extends ComplianceFindingFields where
  one_version : policyVersion = policyRef.policyVersion
  evaluatedAt_utc : evaluatedAt.offset = 0
  accepted : toComplianceFindingFields.violation = none

def ComplianceFinding.make (f : ComplianceFindingFields) : Except String ComplianceFinding :=
  if h : f.policyVersion = f.policyRef.policyVersion then do
    let instante ← f.evaluatedAt.astimezoneUtc
    let canonical := { f with evaluatedAt := instante.toDatetime }
    checked canonical.violation fun accepted => ⟨canonical, h, instante.utc, accepted⟩
  else .error ("policy_version diverge de policy_ref.policy_version — um finding " ++
    "não pode citar duas versões da mesma política")

/-- `sort_key`. -/
def ComplianceFinding.sortKey (finding : ComplianceFinding) : String ×ₗ String :=
  toLex (finding.code.value, finding.subjectRef.subjectCoid.str)

structure ReportEvidenceFields where
  policyWindow : PolicyWindowState
  applicableRuleIds : List String := []
  missingObservations : List MissingObservation := []

def ReportEvidenceFields.violation (f : ReportEvidenceFields) : Option String :=
  firstOf (textosVazios "applicable_rule_ids" f.applicableRuleIds ++
    [refuse (¬f.applicableRuleIds.Nodup)
        "applicable_rule_ids repetido — cada regra é citada uma vez",
      refuse (¬f.missingObservations.Nodup) "missing_observations repetido"])

/-- What the outcomes without findings rest on. -/
structure ReportEvidence extends ReportEvidenceFields where
  accepted : toReportEvidenceFields.violation = none

def ReportEvidence.make (f : ReportEvidenceFields) : Except String ReportEvidence :=
  checked _ fun h => ⟨f, h⟩

structure ComplianceReportFields where
  outcome : ComplianceOutcome
  subjectRef : ComplianceSubjectRef
  policyRef : PolicyReference
  policyVersion : Int
  evaluatedAt : Datetime
  evidence : ReportEvidence
  findings : List ComplianceFinding := []

namespace ComplianceReportFields

/-- `_exigir_vinculo_exato`, for the finding at an index. -/
def vinculo (f : ComplianceReportFields) (indice : Nat) (finding : ComplianceFinding) :
    Option String :=
  let achado := "findings[" ++ toString indice ++ "]"
  firstOf
    [refuse (finding.subjectRef ≠ f.subjectRef)
        (achado ++ " descreve outro sujeito — o relatório é de uma avaliação, não de um lote"),
      refuse (finding.policyVersion ≠ f.policyVersion)
        (achado ++ " cita a versão " ++ toString finding.policyVersion ++
          " e o relatório avalia a " ++ toString f.policyVersion),
      refuse (finding.policyRef ≠ f.policyRef) (achado ++ " cita outra política"),
      refuse (finding.evaluatedAt.instant ≠ f.evaluatedAt.instant)
        (achado ++ " tem instante diferente do relatório — um " ++
          "diagnóstico é datado, e duas datas descrevem duas avaliações")]

/-- `_exigir_ordem_canonica`. -/
def ordem (f : ComplianceReportFields) : Option String :=
  let chaves := f.findings.map ComplianceFinding.sortKey
  firstOf
    [refuse (chaves.insertionSort (· ≤ ·) ≠ chaves)
        ("findings fora da ordem canônica (code, subject_coid) — ordem " ++
          "instável tornaria o resultado não determinístico"),
      refuse (¬chaves.Nodup)
        ("finding repetido: o mesmo código para o mesmo sujeito seria contado " ++
          "duas vezes por quem lê")]

/-- `_exigir_coerencia_do_desfecho`. -/
def coerencia (f : ComplianceReportFields) : Option String :=
  let temFinding := !f.findings.isEmpty
  let faltantes := !f.evidence.missingObservations.isEmpty
  let aplicaveis := !f.evidence.applicableRuleIds.isEmpty
  let semFinding := refuse temFinding
    (f.outcome.value ++ " não admite finding — só a violação confirmada " ++
      "localiza condição no sujeito")
  let semFaltantes := refuse faltantes
    (f.outcome.value ++ " não admite missing_observations — decidir com " ++
      "observação faltante é afirmar o que ninguém observou")
  match f.outcome with
  | .violationConfirmed => refuse (!temFinding)
      ("violation_confirmed exige ao menos um finding — uma violação sem " ++
        "evidência localizada é acusação, não diagnóstico")
  | .insufficientInformation => firstOf
      [semFinding, refuse (!faltantes)
        ("insufficient_information exige missing_observations — uma " ++
          "insuficiência que não diz o que falta não é acionável")]
  | .policyNotApplicable => firstOf
      [semFinding, semFaltantes, refuse aplicaveis
        ("policy_not_applicable não admite applicable_rule_ids — se alguma " ++
          "regra alcança o sujeito, a política se aplica")]
  | .compliant => firstOf
      [semFinding, semFaltantes, refuse (!aplicaveis)
        ("compliant exige applicable_rule_ids — conformidade sem regra " ++
          "avaliada seria indistinguível de nada ter sido olhado")]

/-- The checks that follow the canonical instant. -/
def violation (f : ComplianceReportFields) : Option String :=
  firstOf ([sujeitoIncompativel f.subjectRef f.policyRef] ++ f.findings.mapIdx f.vinculo ++
    [f.ordem, f.coerencia])

end ComplianceReportFields

/-- The result of one evaluation, dated in UTC. -/
structure ComplianceReport extends ComplianceReportFields where
  one_version : policyVersion = policyRef.policyVersion
  evaluatedAt_utc : evaluatedAt.offset = 0
  accepted : toComplianceReportFields.violation = none

def ComplianceReport.make (f : ComplianceReportFields) : Except String ComplianceReport :=
  if h : f.policyVersion = f.policyRef.policyVersion then do
    let instante ← f.evaluatedAt.astimezoneUtc
    let canonical := { f with evaluatedAt := instante.toDatetime }
    checked canonical.violation fun accepted => ⟨canonical, h, instante.utc, accepted⟩
  else .error "policy_version diverge de policy_ref.policy_version"

/-- The codes of the findings, in their order. -/
def ComplianceReport.violationCodes (report : ComplianceReport) : List ComplianceCode :=
  report.findings.map fun finding => finding.code

/-- Names that are stated and differ can stand as evidence. -/
structure Citable (ids : List String) : Prop where
  stated : ∀ item ∈ ids, blank item = false
  distinct : ids.Nodup

theorem ReportEvidence.make_eq_ok {f : ReportEvidenceFields} (hids : Citable f.applicableRuleIds)
    (hmissing : f.missingObservations.Nodup) :
    ∃ evidence, ReportEvidence.make f = .ok evidence ∧
      evidence.toReportEvidenceFields = f := by
  have hnone : f.violation = none := by
    rw [ReportEvidenceFields.violation, firstOf_eq_none]
    intro check hcheck
    rcases List.mem_append.mp hcheck with htext | hrest
    · exact textosVazios_eq_none hids.stated check htext
    · have hdistinct := hids.distinct
      simp only [List.mem_cons, List.not_mem_nil, or_false] at hrest
      rcases hrest with rfl | rfl
      · simpa using hdistinct
      · simpa using hmissing
  exact ⟨⟨f, hnone⟩, checked_eq_ok hnone, rfl⟩

/-- A finding is built of a code of the family, about a subject of its kind. -/
theorem ComplianceFinding.make_eq_ok {f : ComplianceFindingFields}
    (hversion : f.policyVersion = f.policyRef.policyVersion) (hinstant : f.evaluatedAt.Representable)
    (hids : ∀ item ∈ f.matchedRuleIds, blank item = false)
    (hcode : f.code ∈ codigosPorPolitica f.policyRef.kind)
    (hsubject : f.subjectRef.kind = sujeitoPorPolitica f.policyRef.kind) :
    ∃ finding, ComplianceFinding.make f = .ok finding ∧ finding.code = f.code ∧
      finding.subjectRef = f.subjectRef ∧ finding.policyRef = f.policyRef ∧
      finding.policyVersion = f.policyVersion ∧
      finding.evaluatedAt.instant = f.evaluatedAt.instant := by
  obtain ⟨instante, hcanonical, hsame⟩ := Datetime.astimezoneUtc_eq_ok hinstant
  have hnone : { f with evaluatedAt := instante.toDatetime }.violation = none := by
    rw [ComplianceFindingFields.violation, firstOf_eq_none]
    intro check hcheck
    rcases List.mem_append.mp hcheck with htext | hrest
    · exact textosVazios_eq_none hids check htext
    · simp only [List.mem_cons, List.not_mem_nil, or_false] at hrest
      rcases hrest with rfl | rfl
      · simpa using hcode
      · simpa [sujeitoIncompativel] using hsubject
  refine ⟨⟨{ f with evaluatedAt := instante.toDatetime }, hversion, instante.utc, hnone⟩, ?_,
    rfl, rfl, rfl, rfl, hsame⟩
  rw [ComplianceFinding.make, dif_pos hversion, hcanonical, ok_bind]
  exact checked_eq_ok hnone

/-- A report with one finding at most is built once its matrix closes. -/
theorem ComplianceReport.make_eq_ok {f : ComplianceReportFields}
    (hversion : f.policyVersion = f.policyRef.policyVersion) (hinstant : f.evaluatedAt.Representable)
    (hsubject : f.subjectRef.kind = sujeitoPorPolitica f.policyRef.kind)
    (hshort : f.findings.length ≤ 1)
    (hbound : ∀ finding ∈ f.findings, finding.subjectRef = f.subjectRef ∧
      finding.policyRef = f.policyRef ∧ finding.policyVersion = f.policyVersion ∧
      finding.evaluatedAt.instant = f.evaluatedAt.instant)
    (hcoherent : f.coerencia = none) :
    ∃ report, ComplianceReport.make f = .ok report ∧ report.outcome = f.outcome ∧
      report.findings = f.findings := by
  obtain ⟨instante, hcanonical, hsame⟩ := Datetime.astimezoneUtc_eq_ok hinstant
  have hnone : { f with evaluatedAt := instante.toDatetime }.violation = none := by
    rw [ComplianceReportFields.violation, firstOf_eq_none]
    intro check hcheck
    simp only [List.mem_append, List.mem_cons, List.not_mem_nil, or_false] at hcheck
    rcases hcheck with (rfl | hlink) | rfl | rfl
    · simpa [sujeitoIncompativel] using hsubject
    · obtain ⟨indice, hindice, rfl⟩ := List.mem_mapIdx.mp hlink
      obtain ⟨hsubj, hpolicy, hver, hat⟩ := hbound _ (List.getElem_mem hindice)
      simp [ComplianceReportFields.vinculo, hsubj, hpolicy, hver, hat, hsame]
    · cases hfindings : f.findings with
      | nil => simp [ComplianceReportFields.ordem]
      | cons finding rest =>
        rw [hfindings, List.length_cons] at hshort
        have hrest : rest = [] := List.eq_nil_of_length_eq_zero (by omega)
        simp [ComplianceReportFields.ordem, hrest]
    · exact hcoherent
  refine ⟨⟨{ f with evaluatedAt := instante.toDatetime }, hversion, instante.utc, hnone⟩, ?_,
    rfl, rfl⟩
  rw [ComplianceReport.make, dif_pos hversion, hcanonical, ok_bind]
  exact checked_eq_ok hnone

/-- A finding that was built has the code it was built with. -/
theorem ComplianceFinding.of_make {f : ComplianceFindingFields} {finding : ComplianceFinding}
    (h : ComplianceFinding.make f = .ok finding) : finding.code = f.code := by
  unfold ComplianceFinding.make at h
  split at h
  case isTrue =>
    obtain ⟨instante, -, hchecked⟩ := bind_eq_ok.mp h
    obtain ⟨-, rfl⟩ := of_checked hchecked
    rfl
  case isFalse => cases h

/-- What a report says is what it was built from. -/
theorem ComplianceReport.of_make {f : ComplianceReportFields} {report : ComplianceReport}
    (h : ComplianceReport.make f = .ok report) :
    report.outcome = f.outcome ∧ report.findings = f.findings := by
  unfold ComplianceReport.make at h
  split at h
  case isTrue =>
    obtain ⟨instante, -, hchecked⟩ := bind_eq_ok.mp h
    obtain ⟨-, rfl⟩ := of_checked hchecked
    exact ⟨rfl, rfl⟩
  case isFalse => cases h

end PiaOs.Memory
