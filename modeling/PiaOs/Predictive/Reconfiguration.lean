import PiaOs.Predictive.Evaluation
import PiaOs.Support.Process

/-!
# Governed reconfiguration

The gates that promote a candidate or reactivate an earlier one, and the repository of their
events. The statements that reach the database are calls of a program, each answered at once.
-/

namespace PiaOs.Predictive

open Support Memory Piap

/-! ## Candidates and events -/

/-- A text that is not only spaces. -/
def Declarado (t : Texto) : Prop := t.all CodePoint.isSpace = false

instance (t : Texto) : Decidable (Declarado t) := inferInstanceAs (Decidable (_ = _))

structure PredictiveReconfigurationCandidate where
  candidateRef : Referencia
  subjectKey : String
  modelRef : Texto
  hypothesisRefs : List Texto
  validationRef : Texto
  costRef : Texto
  responsibleRef : Texto
  rollbackPlanRef : Texto
  candidatePayloadSha256 : String
  expectedVersion : ℤ
  proposedVersion : ℤ
  metadados : ∀ t ∈ [modelRef, validationRef, costRef, responsibleRef, rollbackPlanRef], Declarado t
  hipoteses : hypothesisRefs ≠ [] ∧ (∀ t ∈ hypothesisRefs, Declarado t) ∧
    hypothesisRefs.Pairwise fun a b => a.antes b = true
  digestos : gramaticaSha256Hex subjectKey.toList = true ∧
    gramaticaSha256Hex candidatePayloadSha256.toList = true
  versoes : 0 ≤ expectedVersion ∧ proposedVersion = expectedVersion + 1

inductive PredictiveReconfigurationEventKind
  | promote
  | rollback
  deriving DecidableEq

structure PredictiveReconfigurationEvent where
  eventId : Referencia
  subjectKey : String
  eventKind : PredictiveReconfigurationEventKind
  fromVersion : ℤ
  toVersion : ℤ
  activeCandidateRef : Referencia
  candidatePayloadSha256 : String
  modelRef : Texto
  hypothesisRefs : List Texto
  validationRef : Texto
  costRef : Texto
  responsibleRef : Texto
  rollbackPlanRef : Texto
  approvalReference : Texto
  approvalVersion : ℤ
  approvalScope : List Texto
  approvalJurisdiction : Option Texto
  approvalBoundKind : BoundObjectKind
  approvalBoundRef : Referencia
  rollbackOfEventId : Option Referencia
  recordedAt : Instant
  deriving DecidableEq

abbrev Evento : Type := PredictiveReconfigurationEvent

inductive PredictiveReconfigurationDecision
  | promoted
  | replayed
  | lostConcurrentRace
  | notApplicable
  | rejectedApproval
  | rejectedValidation
  deriving DecidableEq

structure PredictiveEvaluatedReconfigurationOutcome where
  decision : PredictiveReconfigurationDecision
  eventId : Option Referencia
  subjectKey : String
  resultingVersion : Option ℤ
  reason : String
  deriving DecidableEq

abbrev Desfecho : Type := PredictiveEvaluatedReconfigurationOutcome

/-! ## Statements -/

inductive Chamada
  | get (eventId : Referencia)
  | current (subjectKey : String)
  | insert (event : Evento)

/-- How an insertion under a savepoint ends. -/
inductive Insercao
  | feita
  | identidade
  | versao
  | falha
  deriving DecidableEq

/-- What a statement answers. A query that raises answers nothing. -/
def Resposta : Chamada → Type
  | .get _ | .current _ => Option (Option Evento)
  | .insert _ => Insercao

abbrev Programa (α : Type) : Type := Proc Chamada Resposta (Except Erro α)

/-- The result of a query. -/
def lido {α : Type} : Option α → Programa α
  | none => .done (.error .banco)
  | some a => .done (.ok a)

namespace PredictiveReconfigurationRepository

/-- `get`. -/
def get (eventId : Referencia) : Programa (Option Evento) := .call (.get eventId) lido

/-- `current`. -/
def current (subjectKey : String) : Programa (Option Evento) := .call (.current subjectKey) lido

/-- `_CANONICAL_FIELDS`, and whether two events agree on each. -/
def camposCanonicos (a b : Evento) : List (String × Bool) :=
  [("subject_key", a.subjectKey == b.subjectKey),
    ("event_kind", a.eventKind == b.eventKind),
    ("from_version", a.fromVersion == b.fromVersion),
    ("to_version", a.toVersion == b.toVersion),
    ("active_candidate_ref", a.activeCandidateRef == b.activeCandidateRef),
    ("candidate_payload_sha256", a.candidatePayloadSha256 == b.candidatePayloadSha256),
    ("model_ref", a.modelRef == b.modelRef),
    ("hypothesis_refs", a.hypothesisRefs == b.hypothesisRefs),
    ("validation_ref", a.validationRef == b.validationRef),
    ("cost_ref", a.costRef == b.costRef),
    ("responsible_ref", a.responsibleRef == b.responsibleRef),
    ("rollback_plan_ref", a.rollbackPlanRef == b.rollbackPlanRef),
    ("approval_reference", a.approvalReference == b.approvalReference),
    ("approval_version", a.approvalVersion == b.approvalVersion),
    ("approval_scope", a.approvalScope == b.approvalScope),
    ("approval_jurisdiction", a.approvalJurisdiction == b.approvalJurisdiction),
    ("approval_bound_kind", a.approvalBoundKind == b.approvalBoundKind),
    ("approval_bound_ref", a.approvalBoundRef == b.approvalBoundRef),
    ("rollback_of_event_id", a.rollbackOfEventId == b.rollbackOfEventId),
    ("recorded_at", a.recordedAt == b.recordedAt)]

/-- The fields whose values differ. -/
def divergentes (a b : Evento) : List String :=
  (camposCanonicos a b).filterMap fun campo => if campo.2 then none else some campo.1

/-- Events with one identifier that agree on every field are one event. -/
theorem divergentes_eq_nil {a b : Evento} (hid : a.eventId = b.eventId) :
    divergentes a b = [] ↔ a = b := by
  have hall : divergentes a b = [] ↔ ∀ campo ∈ camposCanonicos a b, campo.2 = true := by
    unfold divergentes
    rw [List.filterMap_eq_nil_iff]
    refine forall₂_congr fun campo _ => ?_
    cases campo.2 <;> simp
  rw [hall]
  constructor
  · intro h
    unfold camposCanonicos at h
    simp only [List.mem_cons, List.not_mem_nil, or_false, forall_eq_or_imp, forall_eq,
      beq_iff_eq] at h
    cases a
    cases b
    simp_all
  · rintro rfl
    simp [camposCanonicos]

/-- `_reconcile`. -/
def reconcile (existing candidate : Evento) : Except Erro Evento :=
  match divergentes existing candidate with
  | [] => .ok existing
  | campos => .error (.identidade campos)

/-- An event is reconciled only with itself. -/
theorem reconcile_eq_ok {existing candidate e : Evento}
    (hid : existing.eventId = candidate.eventId) :
    reconcile existing candidate = .ok e ↔ e = existing ∧ existing = candidate := by
  have hnone := divergentes_eq_nil hid
  unfold reconcile
  constructor
  · intro h
    split at h
    case h_1 hempty => exact ⟨(Except.ok.inj h).symm, hnone.mp hempty⟩
    case h_2 => cases h
  · rintro ⟨rfl, hsame⟩
    rw [hnone.mpr hsame]

/-- The event that an identifier has already, compared with the one to be appended. -/
def repetido (existing event : Evento) :
    Except Erro (PredictiveReconfigurationDecision × Option Evento) :=
  (reconcile existing event).map fun e => (.replayed, some e)

/-- `append`. -/
def append (event : Evento) : Programa (PredictiveReconfigurationDecision × Option Evento) :=
  (get event.eventId).attempt fun
    | some existing => .done (repetido existing event)
    | none => .call (.insert event) fun
      | .feita => .done (.ok (.promoted, some event))
      | .identidade => (get event.eventId).attempt fun
        | none => .done (.error .banco)
        | some concurrent => .done (repetido concurrent event)
      | .versao => (current event.subjectKey).attempt fun atual =>
        .done (.ok (.lostConcurrentRace, atual))
      | .falha => .done (.error .banco)

end PredictiveReconfigurationRepository

open PredictiveReconfigurationRepository

/-! ## Gates -/

/-- The version of the current event. -/
def versaoDe (current : Option Evento) : ℤ := (current.map (·.toVersion)).getD 0

/-- The outcome of a gate that found another version. -/
def corridaPerdida (subjectKey : String) (current : Option Evento) : Desfecho where
  decision := .lostConcurrentRace
  eventId := current.map (·.eventId)
  subjectKey
  resultingVersion := some (versaoDe current)
  reason := "expected_version não é a versão corrente"

/-- The outcome of a gate that appends. -/
def anexado (subjectKey : String) (actualVersion : ℤ) (motivo : String)
    (appended : PredictiveReconfigurationDecision × Option Evento) : Desfecho where
  decision := appended.1
  eventId := appended.2.map (·.eventId)
  subjectKey
  resultingVersion := some ((appended.2.map (·.toVersion)).getD actualVersion)
  reason := if appended.2.isSome then motivo else "corrida concorrente perdida"

/-- From the current version to the append: what the two gates have in common. -/
def anexarSeCorrente (subjectKey : String) (expectedVersion : ℤ) (event : Evento)
    (motivo : String) : Programa Desfecho :=
  (current subjectKey).attempt fun atual =>
    if versaoDe atual ≠ expectedVersion then .done (.ok (corridaPerdida subjectKey atual))
    else (append event).attempt fun appended =>
      .done (.ok (anexado subjectKey (versaoDe atual) motivo appended))

/-- An outcome that touches nothing. -/
def semEscrita (decision : PredictiveReconfigurationDecision) (subjectKey motivo : String) :
    Programa Desfecho :=
  .done (.ok ⟨decision, none, subjectKey, none, motivo⟩)

/-- A call of the promotion gate. -/
structure Promocao where
  evaluation : PredictiveClaimEvaluationResult
  envelope : PiapEnvelope
  candidate : PredictiveReconfigurationCandidate
  eventId : Referencia
  recordedAt : Datetime

/-- `valid_binding`, but for the outcome of the evaluation. -/
def Promocao.vinculada (p : Promocao) (approval : ApprovalBinding) : Bool :=
  approval.boundTo.kind = .promotionCandidate && approval.boundTo.ref = p.candidate.candidateRef &&
    approval.approvalVersion = p.candidate.proposedVersion

/-- The event of a promotion. -/
def Promocao.evento (p : Promocao) (approval : ApprovalBinding) : Evento where
  eventId := p.eventId
  subjectKey := p.candidate.subjectKey
  eventKind := .promote
  fromVersion := p.candidate.expectedVersion
  toVersion := p.candidate.proposedVersion
  activeCandidateRef := p.candidate.candidateRef
  candidatePayloadSha256 := p.candidate.candidatePayloadSha256
  modelRef := p.candidate.modelRef
  hypothesisRefs := p.candidate.hypothesisRefs
  validationRef := p.candidate.validationRef
  costRef := p.candidate.costRef
  responsibleRef := p.candidate.responsibleRef
  rollbackPlanRef := p.candidate.rollbackPlanRef
  approvalReference := approval.approvalReference
  approvalVersion := approval.approvalVersion
  approvalScope := approval.approvalScope
  approvalJurisdiction := approval.approvalJurisdiction
  approvalBoundKind := approval.boundTo.kind
  approvalBoundRef := approval.boundTo.ref
  rollbackOfEventId := none
  recordedAt := p.recordedAt.instant

/-- `predictive_reconfiguration_gate`. -/
def predictiveReconfigurationGate (p : Promocao) : Programa Desfecho :=
  if p.candidate.subjectKey ≠ p.evaluation.claim.subjectKey then .done (.error .contrato)
  else if p.evaluation.regime.status ≠ .regimeShiftCandidate then
    semEscrita .notApplicable p.candidate.subjectKey "mudança de regime não é candidata"
  else if p.evaluation.evidence.aMinus.le (.finite 0) ∨ p.evaluation.state ≠ .predictable then
    semEscrita .rejectedValidation p.candidate.subjectKey
      "avaliação cega não demonstrou ganho previsível"
  else
    match p.envelope.authority.approval with
    | some approval =>
      if p.evaluation.approvalValidationOutcome = .valid ∧ p.vinculada approval = true then
        anexarSeCorrente p.candidate.subjectKey p.candidate.expectedVersion (p.evento approval)
          "evento persistido"
      else
        semEscrita .rejectedApproval p.candidate.subjectKey
          "aprovação ausente, inválida ou vinculada a outro candidato/versão"
    | none =>
      semEscrita .rejectedApproval p.candidate.subjectKey
        "aprovação ausente, inválida ou vinculada a outro candidato/versão"

/-- A call of the rollback gate. -/
structure Reversao where
  eventId : Referencia
  subjectKey : String
  rollbackOfEventId : Referencia
  expectedVersion : ℤ
  requiredScope : List Texto
  expectedJurisdiction : Option Texto
  recordedAt : Datetime
  envelope : PiapEnvelope

/-- `valid`, but for the outcome of the validation. -/
def Reversao.vinculada (r : Reversao) (approval : ApprovalBinding) (target : Evento) : Bool :=
  target.subjectKey = r.subjectKey && approval.boundTo.kind = .promotionCandidate &&
    approval.boundTo.ref = target.activeCandidateRef &&
    approval.approvalVersion = r.expectedVersion + 1

/-- The event of a rollback. -/
def Reversao.evento (r : Reversao) (approval : ApprovalBinding) (target : Evento) : Evento where
  eventId := r.eventId
  subjectKey := r.subjectKey
  eventKind := .rollback
  fromVersion := r.expectedVersion
  toVersion := r.expectedVersion + 1
  activeCandidateRef := target.activeCandidateRef
  candidatePayloadSha256 := target.candidatePayloadSha256
  modelRef := target.modelRef
  hypothesisRefs := target.hypothesisRefs
  validationRef := target.validationRef
  costRef := target.costRef
  responsibleRef := target.responsibleRef
  rollbackPlanRef := target.rollbackPlanRef
  approvalReference := approval.approvalReference
  approvalVersion := approval.approvalVersion
  approvalScope := approval.approvalScope
  approvalJurisdiction := approval.approvalJurisdiction
  approvalBoundKind := approval.boundTo.kind
  approvalBoundRef := approval.boundTo.ref
  rollbackOfEventId := some target.eventId
  recordedAt := r.recordedAt.instant

/-- The validation of the approval of a rollback, against the candidate of its target. -/
def Reversao.validacao (r : Reversao) (target : Evento) :
    Except Violacao ApprovalValidationOutcome :=
  validateApproval r.envelope.authority (.ciente r.recordedAt) (r.expectedVersion + 1) r.requiredScope
    r.expectedJurisdiction ⟨.promotionCandidate, target.activeCandidateRef⟩

/-- The refusal of a rollback. -/
def Reversao.recusada (r : Reversao) : Programa Desfecho :=
  semEscrita .rejectedApproval r.subjectKey "rollback sem alvo compatível e aprovação válida"

/-- What a rollback does with the outcome of its validation. -/
def Reversao.decidir (r : Reversao) (target : Evento) :
    Except Violacao ApprovalValidationOutcome → Programa Desfecho
  | .error violacao => .done (.error (.valor violacao))
  | .ok outcome =>
    match r.envelope.authority.approval with
    | some approval =>
      if outcome = .valid ∧ r.vinculada approval target = true then
        anexarSeCorrente r.subjectKey r.expectedVersion (r.evento approval target)
          "rollback registrado"
      else r.recusada
    | none => r.recusada

/-- `predictive_rollback_gate`. -/
def predictiveRollbackGate (r : Reversao) : Programa Desfecho :=
  (get r.rollbackOfEventId).attempt fun
    | none => r.recusada
    | some target => r.decidir target (r.validacao target)

end PiaOs.Predictive
