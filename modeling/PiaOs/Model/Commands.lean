import PiaOs.Model.ManualExport
import PiaOs.Model.Returns

/-!
# Command idempotency

`CommandReceiptService`. Each operation claims its triple before its effect, and
only the call that inserted the receipt runs the effect.
-/

/-! ## Delegations and audit opinions

`DelegationService` and `AuditService`. A grant works under the locks of the
Schedule and the step; a revocation reads its delegation without a lock and then
revokes whatever is active for the same Schedule, step and scope. -/

namespace PiaOs

open Support Transactions

namespace DelegationService

open Repository

variable [Runtime]

def grant (controlPrincipalRef : String) (scheduleId stepId : Uuid) (validUntil : DateTime)
    (delegationId : Uuid) : Action ServiceDelegation := do
  let _ ← Prog.orRaise (← lockSchedule controlPrincipalRef scheduleId) (scheduleMissing scheduleId)
  let etapa ← Prog.orRaise (← lockStep controlPrincipalRef scheduleId stepId)
    (stepMissing scheduleId stepId)
  let exigencia ← match gateRequirement etapa.draft.constraints with
    | .ok exigencia => pure exigencia
    | .error e => Prog.raise e
  Prog.require exigencia.isSome
    ⟨.contractViolation, "etapa sem gate declarado não admite delegação",
      [("step_id", .str stepId.str)]⟩
  let validoAte ← Prog.orRaise validUntil.instant
    ⟨.contractViolation, "valid_until exige fuso horário explícito", []⟩
  let agora ← databaseNow
  Prog.require (agora < validoAte)
    ⟨.contractViolation, "valid_until precisa ser futuro em relação ao relógio do banco", []⟩
  let _ ← expireStaleDelegations controlPrincipalRef scheduleId stepId
  let conteudo ← HandoffService.buildEnvelopeContent controlPrincipalRef scheduleId stepId
  let _ ← revokeActiveDelegations controlPrincipalRef scheduleId stepId gateScopeDispatch
  createDelegation controlPrincipalRef delegationId scheduleId stepId conteudo.contentSha256
    gateScopeDispatch controlPrincipalRef validoAte

/-- The second read meets the row that the session already holds: a raw `UPDATE`
does not refresh it, so the answer shows the delegation as it was first read. -/
def fromIdentityMap (held : ServiceDelegation) (found : Option ServiceDelegation) :
    Option ServiceDelegation := found.map fun _ => held

def revoke (controlPrincipalRef : String) (scheduleId stepId delegationId : Uuid) :
    Action ServiceDelegation := do
  let delegacao ← Prog.orRaise (← getDelegation controlPrincipalRef scheduleId delegationId)
    ⟨.scopeViolation, "delegação inexistente neste Schedule sob este principal",
      [("schedule_id", .str scheduleId.str), ("delegation_id", .str delegationId.str)]⟩
  Prog.require (delegacao.stepId == stepId)
    ⟨.scopeViolation, "delegação não pertence à etapa declarada no path",
      [("step_id", .str stepId.str), ("delegation_id", .str delegationId.str)]⟩
  Prog.require (delegacao.state == .active)
    ⟨.lifecycleViolation, s!"delegação já está em estado terminal {delegacao.state.value}",
      [("current_state", .str delegacao.state.value)]⟩
  let _ ← revokeActiveDelegations controlPrincipalRef scheduleId delegacao.stepId delegacao.scope
  let atual ← getDelegation controlPrincipalRef scheduleId delegationId
  Prog.orRaise (fromIdentityMap delegacao atual)
    ⟨.runtimeError, "delegação desapareceu dentro da transação", []⟩

def listForSchedule (controlPrincipalRef : String) (scheduleId : Uuid) :
    Action (List ServiceDelegation) :=
  listDelegations controlPrincipalRef scheduleId

end DelegationService

namespace AuditService

open Repository

def auditReasonCodes : List String :=
  [AuditReasonCode.contractConforms, .contractNonconformity, .evidenceMissing,
    .scopeExcluded].map AuditReasonCode.value

/-- Sorted, without repetition and inside the closed vocabulary. -/
def canonicalAuditReasonCodes (codigos : List String) : Except String (List String) :=
  if codigos.isEmpty then .error "um parecer sem motivo não é um parecer"
  else
    match codigos.find? fun c => !auditReasonCodes.contains c with
    | some codigo => .error ("reason_code fora do vocabulário fechado: " ++ pyRepr codigo)
    | none => .ok (codigos.dedup.insertionSort (· ≤ ·))

/-- Opinion and reason have to agree. -/
def assertOpinionMatrix (opinion : AuditOpinionKind) (codigos : List String) :
    Except String Unit :=
  let admitidos := (auditOpinionReasonMatrix opinion).map AuditReasonCode.value
  let fora := codigos.dedup.filter fun c => !admitidos.contains c
  if fora.isEmpty then .ok ()
  else .error ("motivo incompatível com o parecer " ++ pyRepr opinion.value ++ ": " ++
    pyList ((fora.insertionSort (· ≤ ·)).map pyRepr))

/-- The reasons of an admissible opinion. -/
def admittedReasons (opinion : AuditOpinionKind) (reasonCodes : List String) :
    Except String (List String) := do
  let codigos ← canonicalAuditReasonCodes reasonCodes
  assertOpinionMatrix opinion codigos
  .ok codigos

def issue (controlPrincipalRef : String) (scheduleId attemptId : Uuid)
    (opinion : AuditOpinionKind) (reasonCodes : List String) (auditorExecutionRef : String)
    (opinionId : Uuid) : Action AuditOpinion := do
  Prog.require (!blank auditorExecutionRef)
    ⟨.contractViolation, "auditor_execution_ref não pode ser vazio", []⟩
  let codigos ← match admittedReasons opinion reasonCodes with
    | .ok codigos => pure codigos
    | .error texto => Prog.raise ⟨.contractViolation, texto, []⟩
  let resultado ← Prog.orRaise (← getHandoffResult controlPrincipalRef scheduleId attemptId)
    ⟨.scopeViolation, "resultado inexistente nesta tentativa sob este principal",
      [("schedule_id", .str scheduleId.str), ("attempt_id", .str attemptId.str)]⟩
  let agora ← databaseNow
  createAuditOpinion opinionId controlPrincipalRef scheduleId resultado.id opinion codigos
    auditorExecutionRef controlPrincipalRef agora

def listForSchedule (controlPrincipalRef : String) (scheduleId : Uuid) :
    Action (List AuditOpinion) :=
  listAuditOpinions controlPrincipalRef scheduleId

end AuditService

/-! ## Command idempotency -/

/-! ## The supervised export

`SupervisedAutomaticHandoffExportService`, the export of the MCP composition. It
locks the step alone, asks the human protection gate and moves the step directly to
`AWAITING_RETURN`. -/

inductive GatePosition
  | g1 | g2 | g3 | g4
  deriving DecidableEq, Repr

def GatePosition.value : GatePosition → String
  | .g1 => "g1"
  | .g2 => "g2"
  | .g3 => "g3"
  | .g4 => "g4"

/-- What the protection composition answers. When it allows, it writes to no table
of the orchestration. -/
structure ProtectionDecision where
  allowed : Bool
  decisionFingerprint : String
  deriving DecidableEq, Repr

structure SupervisedExportOutcome where
  attemptId : Uuid
  attemptNumber : Nat
  receiptId : Uuid
  contentSha256 : String
  stepState : StepState
  handoffMode : HandoffMode
  deriving DecidableEq, Repr

def handoffBlocked (gatePosition : GatePosition) (decisao : ProtectionDecision) : Failure :=
  ⟨.handoffBlocked, s!"handoff bloqueado em {gatePosition.value}",
    [("fingerprint", .str decisao.decisionFingerprint)]⟩

namespace SupervisedAutomaticHandoffExportService

open Repository

variable [Runtime]

def exportStep (protecao : GatePosition → ProtectionDecision) (attemptId : Uuid)
    (controlPrincipalRef : String) (scheduleId stepId : Uuid) (sealerRef : String) :
    Action SupervisedExportOutcome := do
  let _ ← Prog.orRaise (← lockStep controlPrincipalRef scheduleId stepId)
    ⟨.lookupError, "etapa inexistente neste Schedule sob este principal", []⟩
  Prog.require (protecao .g3).allowed (handoffBlocked .g3 (protecao .g3))
  let selado ← HandoffService.sealStepForExport attemptId controlPrincipalRef scheduleId stepId
    sealerRef
  setStepState controlPrincipalRef scheduleId stepId .awaitingReturn
  pure ⟨selado.attemptId, selado.attemptNumber, selado.receiptId, selado.contentSha256,
    .awaitingReturn, .supervisedAutomaticHandoff⟩

end SupervisedAutomaticHandoffExportService

/-! ## Command idempotency -/

structure CommandOutcome where
  receiptId : Uuid
  technicalPrincipalRef : String
  operation : CommandOperation
  commandKey : String
  outcomeRef : Uuid
  replayed : Bool
  deriving DecidableEq, Repr

namespace CommandReceiptService

def maxCommandKeyLength : Nat := 255

variable [Runtime]

/-- `_impressao_digital`: the hash of the canonical JSON of a request. -/
def impressaoDigital (payload : List (String × Json)) : String :=
  Runtime.sha256 (Json.dumps (.obj payload))

/-- The checks on the triple that precede the claim. -/
def requireTriple (triple : CommandTriple) : Action Unit := do
  Prog.require (!blank triple.technicalPrincipalRef)
    ⟨.contractViolation, "technical_principal_ref não pode ser vazio", []⟩
  Prog.require (triple.technicalPrincipalRef.length ≤ maxRefLength)
    ⟨.contractViolation, s!"technical_principal_ref excede {maxRefLength} caracteres", []⟩
  Prog.require (!blank triple.commandKey)
    ⟨.contractViolation, "command_key não pode ser vazia", []⟩
  Prog.require (triple.commandKey.length ≤ maxCommandKeyLength)
    ⟨.contractViolation, s!"command_key excede {maxCommandKeyLength} caracteres", []⟩

/-- The refusal of a key that was used for another request. -/
def conflict (operation : CommandOperation) : Failure :=
  ⟨.lifecycleViolation, "command_key já usada para uma requisição diferente; " ++
      "use chave nova para um pedido novo",
    [("operation", .str operation.value)]⟩

/-- `_executar_uma_vez`: the outcome, and what the effect gave when it ran. -/
def executarUmaVez {α : Type} (triple : CommandTriple) (proposedOutcomeRef : Uuid)
    (requestSha256 : String) (efeito : Action α) : Action (CommandOutcome × Option α) := do
  requireTriple triple
  let (recibo, reivindicado) ← Repository.claimCommand triple.technicalPrincipalRef
    triple.operation triple.commandKey proposedOutcomeRef requestSha256
  Prog.require (reivindicado || recibo.requestSha256 == some requestSha256)
    (conflict triple.operation)
  let saida ← if reivindicado then some <$> efeito else pure none
  pure (⟨recibo.id, recibo.triple.technicalPrincipalRef, triple.operation,
    recibo.triple.commandKey, recibo.outcomeRef, !reivindicado⟩, saida)

/-! ## The fingerprint of each operation -/

def stepPayload (etapa : StepDraft) : Json :=
  .obj [("role", .str etapa.role), ("instruction_ref", .str etapa.instructionRef),
    ("expected_output_contract", .str etapa.expectedOutputContract),
    ("context_refs", .arr (etapa.contextRefs.map ContextRef.asContent)),
    ("constraints", .obj (etapa.constraints.map fun p => (p.1, .str p.2)))]

def impressaoCreate (draft : ScheduleDraft) (executionMode : HandoffMode) : String :=
  impressaoDigital [("operation", .str CommandOperation.createSchedule.value),
    ("title", .str draft.title), ("execution_mode", .str executionMode.value),
    ("steps", .arr (draft.steps.map stepPayload))]

/-- Sealing and exporting fingerprint the same fields under their own operation. -/
def impressaoSelo (operation : CommandOperation) (scheduleId stepId : Uuid)
    (sealerRef : String) : String :=
  impressaoDigital [("operation", .str operation.value), ("schedule_id", .str scheduleId.str),
    ("step_id", .str stepId.str), ("sealer_ref", .str sealerRef)]

def impressaoSeal (scheduleId stepId : Uuid) (sealerRef : String) : String :=
  impressaoSelo .sealHandoff scheduleId stepId sealerRef

def impressaoExport (scheduleId stepId : Uuid) (sealerRef : String) : String :=
  impressaoSelo .exportHandoff scheduleId stepId sealerRef

def impressaoImport (scheduleId stepId attemptId : Uuid) (raw : RawReturn)
    (attribution : DeclaredAttribution) : String :=
  impressaoDigital [("operation", .str CommandOperation.importReturn.value),
    ("schedule_id", .str scheduleId.str), ("step_id", .str stepId.str),
    ("attempt_id", .str attemptId.str), ("media_type", .str raw.mediaType),
    ("content_sha256", .str (Runtime.sha256 raw.content)),
    ("declared_output_ref", .ofOption raw.declaredOutputRef),
    ("declared_provider_id", .ofOption attribution.declaredProviderId),
    ("declared_model_id", .ofOption attribution.declaredModelId),
    ("declared_instance_id", .str attribution.declaredInstanceId)]

def impressaoGrant (scheduleId stepId : Uuid) (validUntil : DateTime) : String :=
  impressaoDigital [("operation", .str CommandOperation.grantDelegation.value),
    ("schedule_id", .str scheduleId.str), ("step_id", .str stepId.str),
    ("valid_until", .str validUntil.isoformat)]

def impressaoRevoke (scheduleId stepId delegationId : Uuid) : String :=
  impressaoDigital [("operation", .str CommandOperation.revokeDelegation.value),
    ("schedule_id", .str scheduleId.str), ("step_id", .str stepId.str),
    ("delegation_id", .str delegationId.str)]

def impressaoControl (scheduleId : Uuid) (action : String)
    (stopConditionCategory : Option StopConditionCategory) : String :=
  impressaoDigital [("operation", .str CommandOperation.controlSchedule.value),
    ("schedule_id", .str scheduleId.str), ("action", .str action),
    ("stop_condition_category",
      .ofOption (stopConditionCategory.map StopConditionCategory.value))]

def impressaoAudit (scheduleId attemptId : Uuid) (opinion : AuditOpinionKind)
    (reasonCodes : List String) (auditorExecutionRef : String) : String :=
  impressaoDigital [("operation", .str CommandOperation.issueAuditOpinion.value),
    ("schedule_id", .str scheduleId.str), ("attempt_id", .str attemptId.str),
    ("opinion", .str opinion.value),
    ("reason_codes", .arr ((reasonCodes.insertionSort (· ≤ ·)).map Json.str)),
    ("auditor_execution_ref", .str auditorExecutionRef)]

/-! ## The eight operations -/

def createScheduleOnce (technicalPrincipalRef commandKey : String) (draft : ScheduleDraft)
    (executionMode : HandoffMode) : Action (CommandOutcome × Option ScheduleView) := do
  let scheduleId ← newUuid
  executarUmaVez ⟨technicalPrincipalRef, .createSchedule, commandKey⟩ scheduleId
    (impressaoCreate draft executionMode)
    (ScheduleService.createSchedule scheduleId technicalPrincipalRef draft executionMode)

def sealHandoffOnce (technicalPrincipalRef commandKey : String) (scheduleId stepId : Uuid)
    (sealerRef : String) : Action (CommandOutcome × Option SealOutcome) := do
  let attemptId ← newUuid
  executarUmaVez ⟨technicalPrincipalRef, .sealHandoff, commandKey⟩ attemptId
    (impressaoSeal scheduleId stepId sealerRef)
    (HandoffService.sealStep attemptId technicalPrincipalRef scheduleId stepId sealerRef)

/-- `export_handoff_once` over the export service of its composition. -/
def exportHandoffOnce {α : Type} (exportStep : Uuid → Action α)
    (technicalPrincipalRef commandKey : String) (scheduleId stepId : Uuid) (sealerRef : String) :
    Action (CommandOutcome × Option α) := do
  let attemptId ← newUuid
  executarUmaVez ⟨technicalPrincipalRef, .exportHandoff, commandKey⟩ attemptId
    (impressaoExport scheduleId stepId sealerRef) (exportStep attemptId)

def importReturnOnce (comControle : Bool) (technicalPrincipalRef commandKey : String)
    (scheduleId stepId attemptId : Uuid) (raw : RawReturn) (attribution : DeclaredAttribution) :
    Action (CommandOutcome × Option ReturnOutcome) :=
  executarUmaVez ⟨technicalPrincipalRef, .importReturn, commandKey⟩ attemptId
    (impressaoImport scheduleId stepId attemptId raw attribution)
    (ReturnValidationService.importReturn comControle technicalPrincipalRef scheduleId stepId
      attemptId raw attribution)

def grantDelegationOnce (technicalPrincipalRef commandKey : String) (scheduleId stepId : Uuid)
    (validUntil : DateTime) : Action (CommandOutcome × Option ServiceDelegation) := do
  let delegationId ← newUuid
  executarUmaVez ⟨technicalPrincipalRef, .grantDelegation, commandKey⟩ delegationId
    (impressaoGrant scheduleId stepId validUntil)
    (DelegationService.grant technicalPrincipalRef scheduleId stepId validUntil delegationId)

def revokeDelegationOnce (technicalPrincipalRef commandKey : String)
    (scheduleId stepId delegationId : Uuid) :
    Action (CommandOutcome × Option ServiceDelegation) :=
  executarUmaVez ⟨technicalPrincipalRef, .revokeDelegation, commandKey⟩ delegationId
    (impressaoRevoke scheduleId stepId delegationId)
    (DelegationService.revoke technicalPrincipalRef scheduleId stepId delegationId)

def controlScheduleOnce (technicalPrincipalRef commandKey : String) (scheduleId : Uuid)
    (action : String) (stopConditionCategory : Option StopConditionCategory) :
    Action (CommandOutcome × Option ControlOutcome) := do
  let eventId ← newUuid
  executarUmaVez ⟨technicalPrincipalRef, .controlSchedule, commandKey⟩ eventId
    (impressaoControl scheduleId action stopConditionCategory)
    (ControlService.apply technicalPrincipalRef scheduleId action eventId stopConditionCategory)

def issueAuditOpinionOnce (technicalPrincipalRef commandKey : String)
    (scheduleId attemptId : Uuid) (opinion : AuditOpinionKind) (reasonCodes : List String)
    (auditorExecutionRef : String) : Action (CommandOutcome × Option AuditOpinion) := do
  let opinionId ← newUuid
  executarUmaVez ⟨technicalPrincipalRef, .issueAuditOpinion, commandKey⟩ opinionId
    (impressaoAudit scheduleId attemptId opinion reasonCodes auditorExecutionRef)
    (AuditService.issue technicalPrincipalRef scheduleId attemptId opinion reasonCodes
      auditorExecutionRef opinionId)

end CommandReceiptService

end PiaOs
