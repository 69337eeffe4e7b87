import PiaOs.Model.Scheduling

/-!
# What is read of a work

`OrchestrationQueryService` and the answers that the tools `attempts.list` and `governance.read`
make of its projections. The tools look some attributes up by name, and a projection that has no
such attribute answers with the default.
-/

namespace PiaOs

open Support Transactions

/-! ## Projections -/

structure ResultProjection where
  status : HandoffResultStatus
  expectedOutputContract : String
  outputMediaType : String
  outputSha256 : String
  outputBytes : Nat
  declaredOutputRef : Option String
  validationCodes : List String

structure AttributionProjection where
  declaredProviderId : Option String
  declaredModelId : Option String
  declaredInstanceId : String
  role : String
  declaredAt : Instant
  selfDeclared : Bool
  provenanceRecordRef : Option Uuid

/-- An attempt, with its verdict and attribution when there are any. -/
structure AttemptProjection where
  attemptId : Uuid
  stepId : Uuid
  attemptNumber : Nat
  envelopeVersion : String
  contentSha256 : String
  state : AttemptState
  createdAt : Instant
  result : Option ResultProjection
  attribution : Option AttributionProjection

structure DelegationProjection where
  delegationId : Uuid
  stepId : Uuid
  contentSha256 : String
  scope : String
  state : DelegationState
  validUntil : Instant
  consumedAt : Option Instant
  consumedByAttemptId : Option Uuid

structure ControlEventProjection where
  eventId : Uuid
  stepId : Option Uuid
  eventKind : ControlEventKind
  reasonCode : ControlReasonCode
  stopConditionCategory : Option StopConditionCategory
  occurredAt : Instant

structure ObservationProjection where
  observationId : Uuid
  stepId : Uuid
  observationKind : ObservationKind
  previousAttemptId : Uuid
  currentAttemptId : Uuid
  previousDeclaredProviderId : Option String
  currentDeclaredProviderId : Option String
  selfDeclared : Bool
  observedAt : Instant

structure AuditOpinionProjection where
  opinionId : Uuid
  handoffResultId : Uuid
  opinion : AuditOpinionKind
  reasonCodes : List String
  auditorExecutionRef : String
  issuedAt : Instant

/-- All that the governance of a work shows. -/
structure GovernanceProjection where
  scheduleId : Uuid
  scheduleState : ScheduleState
  delegations : List DelegationProjection
  controlEvents : List ControlEventProjection
  observations : List ObservationProjection
  auditOpinions : List AuditOpinionProjection

namespace OrchestrationQueryService

open Repository

def projetarResultado (resultado : HandoffResult) : ResultProjection :=
  ⟨resultado.status, resultado.expectedOutputContract, resultado.outputMediaType,
    resultado.outputSha256, resultado.outputBytes, resultado.declaredOutputRef,
    resultado.validationCodes⟩

def projetarAtribuicao (atribuicao : HandoffAttribution) : AttributionProjection :=
  ⟨atribuicao.declaredProviderId, atribuicao.declaredModelId, atribuicao.declaredInstanceId,
    atribuicao.role, atribuicao.declaredAt, atribuicao.selfDeclared,
    atribuicao.provenanceRecordRef⟩

def projetarDelegacao (delegacao : ServiceDelegation) : DelegationProjection :=
  ⟨delegacao.id, delegacao.stepId, delegacao.contentSha256, delegacao.scope, delegacao.state,
    delegacao.validUntil, delegacao.consumedAt, delegacao.consumedByAttemptId⟩

def projetarEvento (evento : OrchestrationControlEvent) : ControlEventProjection :=
  ⟨evento.id, evento.stepId, evento.eventKind, evento.reasonCode, evento.stopConditionCategory,
    evento.occurredAt⟩

def projetarObservacao (observacao : ExecutionObservation) : ObservationProjection :=
  ⟨observacao.id, observacao.stepId, observacao.observationKind, observacao.previousAttemptId,
    observacao.currentAttemptId, observacao.previousDeclaredProviderId,
    observacao.currentDeclaredProviderId, observacao.selfDeclared, observacao.observedAt⟩

def projetarParecer (parecer : AuditOpinion) : AuditOpinionProjection :=
  ⟨parecer.id, parecer.handoffResultId, parecer.opinion, parecer.reasonCodes,
    parecer.auditorExecutionRef, parecer.issuedAt⟩

def projetarAttempt (tentativa : HandoffAttempt) (resultado : Option HandoffResult)
    (atribuicao : Option HandoffAttribution) : AttemptProjection :=
  ⟨tentativa.id, tentativa.stepId, tentativa.attemptNumber, tentativa.envelopeVersion,
    tentativa.contentSha256, tentativa.state, tentativa.createdAt,
    resultado.map projetarResultado, atribuicao.map projetarAtribuicao⟩

/-- The Schedule is read first, so that what is not the caller's is refused and not empty. -/
def listAttempts (controlPrincipalRef : String) (scheduleId : Uuid) :
    Action (List AttemptProjection) := do
  let _ ← ScheduleService.getSchedule controlPrincipalRef scheduleId
  let tentativas ← Repository.listAttempts controlPrincipalRef scheduleId
  Prog.collect (fun tentativa => do
    let resultado ← getHandoffResult controlPrincipalRef scheduleId tentativa.id
    let atribuicao ← getHandoffAttribution controlPrincipalRef scheduleId tentativa.id
    pure (some (projetarAttempt tentativa resultado atribuicao))) tentativas

def readGovernance (controlPrincipalRef : String) (scheduleId : Uuid) :
    Action GovernanceProjection := do
  let agenda ← ScheduleService.getSchedule controlPrincipalRef scheduleId
  let delegacoes ← listDelegations controlPrincipalRef scheduleId
  let eventos ← listControlEvents controlPrincipalRef scheduleId
  let observacoes ← listExecutionObservations controlPrincipalRef scheduleId
  let pareceres ← listAuditOpinions controlPrincipalRef scheduleId
  pure ⟨scheduleId, agenda.state, delegacoes.map projetarDelegacao, eventos.map projetarEvento,
    observacoes.map projetarObservacao, pareceres.map projetarParecer⟩

end OrchestrationQueryService

/-! ## Attributes by name -/

def HandoffResultStatus.value : HandoffResultStatus → String
  | .validated => "validated"
  | .rejected => "rejected"

/-- An attribute, as far as the tools look at it: the text of an identifier or of an enumeration,
`None`, a tuple by its length, or anything else. -/
inductive Atributo
  | rotulo (value : String)
  | vazio
  | tupla (tamanho : Nat)
  | outro

/-- `str(getattr(x, "value", x))`, unless the attribute is `None`. -/
def Atributo.rotulo? : Atributo → Option String
  | .rotulo value => some value
  | _ => none

/-- `len(x or ())`. -/
def Atributo.tamanho : Atributo → Nat
  | .tupla tamanho => tamanho
  | _ => 0

/-- The attributes of the dataclass. -/
def AttemptProjection.atributos (p : AttemptProjection) : List (String × Atributo) :=
  [("attempt_id", .rotulo p.attemptId.str), ("step_id", .rotulo p.stepId.str),
    ("attempt_number", .outro), ("envelope_version", .rotulo p.envelopeVersion),
    ("content_sha256", .rotulo p.contentSha256), ("state", .rotulo p.state.value),
    ("created_at", .outro), ("result", p.result.elim .vazio fun _ => .outro),
    ("attribution", p.attribution.elim .vazio fun _ => .outro)]

def GovernanceProjection.atributos (p : GovernanceProjection) : List (String × Atributo) :=
  [("schedule_id", .rotulo p.scheduleId.str), ("schedule_state", .rotulo p.scheduleState.value),
    ("delegations", .tupla p.delegations.length), ("control_events", .tupla p.controlEvents.length),
    ("observations", .tupla p.observations.length),
    ("audit_opinions", .tupla p.auditOpinions.length)]

/-! ## The tools -/

/-- An attempt in the answer of `attempts.list`. -/
structure TentativaLida where
  attemptId : String
  state : String
  outcome : Option String
  deriving DecidableEq, Repr

structure AttemptsList where
  scheduleId : String
  attempts : List TentativaLida
  schemaVersion : String

structure GovernanceRead where
  scheduleId : String
  scheduleState : String
  delegationCount : Nat
  eventCount : Nat
  schemaVersion : String
  deriving DecidableEq, Repr

/-- `projetar_tentativa`: the outcome is the attribute of that name, when there is one. -/
def projetarTentativa (projecao : AttemptProjection) : TentativaLida where
  attemptId := projecao.attemptId.str
  state := projecao.state.value
  outcome := (projecao.atributos.lookup "outcome").bind Atributo.rotulo?

/-- `projetar_governanca`. -/
def projetarGovernanca (schemaVersion : String) (projecao : GovernanceProjection) :
    GovernanceRead where
  scheduleId := projecao.scheduleId.str
  scheduleState := projecao.scheduleState.value
  delegationCount := ((projecao.atributos.lookup "delegations").map Atributo.tamanho).getD 0
  eventCount := ((projecao.atributos.lookup "events").map Atributo.tamanho).getD 0
  schemaVersion := schemaVersion

/-- `attempts.list`, under the version of its schema. -/
def attemptsList (schemaVersion principalRef : String) (scheduleId : Uuid) :
    Action AttemptsList := do
  let tentativas ← OrchestrationQueryService.listAttempts principalRef scheduleId
  pure ⟨scheduleId.str, tentativas.map projetarTentativa, schemaVersion⟩

/-- `governance.read`. -/
def governanceRead (schemaVersion principalRef : String) (scheduleId : Uuid) :
    Action GovernanceRead := do
  let projecao ← OrchestrationQueryService.readGovernance principalRef scheduleId
  pure (projetarGovernanca schemaVersion projecao)

end PiaOs
