import PiaOs.Model.Scheduling
import PiaOs.Model.Control

/-!
# The manual export

`ManualHandoffExportService` with the connection profile and the execution receipt
that it writes. The preflight decides under the locks of the Schedule and the step,
before any row exists.
-/

namespace PiaOs

open Support Transactions

/-! ## Connection profiles and execution receipts -/

namespace Connections

/-- The manual profile of the principal that is not in a terminal state. -/
def getManualProfile (controlPrincipalRef : String) : Action (Option ConnectionProfile) :=
  query fun _ db => oneOrNone (Table.select
    (fun p => p.controlPrincipalRef == controlPrincipalRef && p.method == .manualHandoff &&
      !terminalConnectionStates.contains p.state)
    (fun p => ((0 : Int), p.id.int)) db.profiles)

/-- `pg_advisory_xact_lock`, kept until the transaction ends. -/
def acquireManualProfileLock (controlPrincipalRef : String) : Action Unit :=
  Prog.readLocked (fun _ _ => [.manualProfile controlPrincipalRef]) fun _ _ => ()

/-- The partial unique index: one manual profile out of terminal states. -/
def manualProfileTaken (controlPrincipalRef : String) (db : Db) : Bool :=
  (Table.rows db.profiles).any fun p =>
    p.controlPrincipalRef == controlPrincipalRef && p.method == .manualHandoff &&
      !terminalConnectionStates.contains p.state

/-- Get or create: the profile is read again once the lock is held. The insertion
runs in a savepoint, so a refusal of the index leaves the transaction usable. -/
def ensureManualProfile (controlPrincipalRef : String) : Action (ConnectionProfile × Bool) := do
  Prog.require (!blank controlPrincipalRef)
    ⟨.connectionContractViolation, "control_principal_ref não pode ser vazio",
      [("control_principal_ref", .str controlPrincipalRef)]⟩
  match ← getManualProfile controlPrincipalRef with
  | some existente => pure (existente, false)
  | none => do
    acquireManualProfileLock controlPrincipalRef
    match ← getManualProfile controlPrincipalRef with
    | some existente => pure (existente, false)
    | none => do
      let perfil : ConnectionProfile :=
        ⟨← newUuid, controlPrincipalRef, .manualHandoff, .available, none, none⟩
      let criado ← Prog.step ⟨fun _ _ => [.manualProfile controlPrincipalRef], fun _ db =>
        if manualProfileTaken controlPrincipalRef db then .ok (false, [])
        else .ok (true, [.insertProfile perfil])⟩
      if criado then pure (perfil, true)
      else do
        let vencedor ← Prog.orRaise (← getManualProfile controlPrincipalRef)
          ⟨.integrityError, "ix_connection_profiles_single_manual", []⟩
        pure (vencedor, false)

/-- The attribution of a manual handoff: no operator, no model, no attestation. -/
structure ExecutionAttribution where
  connectionId : Uuid
  connectionMethod : ConnectionMethod
  accessProvider : Option String
  requestedModel : Option String
  observedModel : Option String
  modelAttestationLevel : ModelAttestationLevel
  deriving DecidableEq, Repr

def manualAttribution (connectionId : Uuid) : ExecutionAttribution :=
  ⟨connectionId, .manualHandoff, none, none, none, .unknown⟩

def recordExecution (controlPrincipalRef : String) (scheduleId stepId attemptId : Uuid)
    (attribution : ExecutionAttribution) (observedAt : Instant) :
    Action ConnectionExecutionReceipt := do
  Prog.require (!blank controlPrincipalRef)
    ⟨.connectionContractViolation, "control_principal_ref não pode ser vazio",
      [("attempt_id", .str attemptId.str)]⟩
  let perfil ← Prog.read fun _ db => (db.profiles.lookup attribution.connectionId).filter fun p =>
    p.controlPrincipalRef == controlPrincipalRef
  let _ ← Prog.orRaise perfil
    ⟨.connectionScopeViolation, "conexão inexistente sob este principal de controle",
      [("connection_id", .str attribution.connectionId.str)]⟩
  let recibo : ConnectionExecutionReceipt :=
    ⟨← newUuid, controlPrincipalRef, scheduleId, stepId, attemptId, attribution.connectionId,
      attribution.connectionMethod, attribution.accessProvider, attribution.requestedModel,
      attribution.observedModel, attribution.modelAttestationLevel, observedAt⟩
  write [.attempt attemptId]
    (Repository.perAttempt Db.executions attemptId "uq_connection_execution_receipts_attempt")
    (.insertExecution recibo)
  pure recibo

end Connections

/-! ## Preflight -/

/-- A preflight that passed. Its identity in the registry of the service is left out:
`export_step` obtains it and uses it in the same call. -/
structure DispatchAuthorized where
  contentSha256 : String
  delegationId : Option Uuid
  firstDispatch : Bool
  deriving DecidableEq, Repr

/-- A preflight that a gate refused. -/
structure DispatchBlocked where
  reasonCode : ControlReasonCode
  contentSha256 : Option String
  deriving DecidableEq, Repr

inductive PreflightResult
  | authorized (a : DispatchAuthorized)
  | blocked (b : DispatchBlocked)
  deriving DecidableEq, Repr

/-- What crosses the boundary in a manual handoff. -/
structure ExportedHandoff where
  scheduleId : Uuid
  stepId : Uuid
  attemptId : Uuid
  attemptNumber : Nat
  receiptId : Uuid
  contentSha256 : String
  sealedAt : Instant
  envelope : EnvelopeContent

structure ExportOutcome where
  exported : ExportedHandoff
  stepState : StepState
  attemptState : AttemptState

/-- The decision of a human gate. -/
structure GateDecision where
  granted : Bool
  reasonCode : GateReasonCode
  deriving DecidableEq, Repr

/-- `DenyAllHumanGate`, the only adapter of the human gate outside the tests. -/
def denyAllHumanGate : GateDecision := ⟨false, .humanAuthorityUnavailable⟩

namespace ManualHandoffExportService

open Repository

variable [Runtime]

/-- `AttemptState`, `ScheduleState` and mode are judged on the locked Schedule. -/
def requireDispatchable (agenda : Schedule) : Action Unit := do
  Prog.require (!([ScheduleState.stopped, .cancelled].contains agenda.state))
    ⟨.lifecycleViolation, s!"Schedule {agenda.state.value} não despacha",
      [("current_state", .str agenda.state.value)]⟩
  Prog.require (agenda.state != .paused)
    ⟨.lifecycleViolation, "Schedule PAUSED exige retomada explícita antes de exportar",
      [("current_state", .str agenda.state.value)]⟩
  Prog.require (agenda.state == .active)
    ⟨.lifecycleViolation, s!"exportação exige Schedule ACTIVE; estado atual {agenda.state.value}",
      [("current_state", .str agenda.state.value)]⟩
  Prog.require (executableHandoffModes.contains agenda.executionMode)
    (HandoffService.modeNotExecutable agenda.executionMode)

/-- Predecessors, open attempt and state of the locked step. -/
def requireExportable (controlPrincipalRef : String) (scheduleId stepId : Uuid)
    (etapa : ScheduleStep) : Action Unit := do
  Prog.require (etapa.state != .cancelled)
    ⟨.lifecycleViolation, "etapa cancelada não despacha",
      [("current_state", .str etapa.state.value)]⟩
  let pendentes ← ScheduleService.advance controlPrincipalRef scheduleId etapa.position
  Prog.require pendentes.isEmpty
    ⟨.lifecycleViolation, "exportação exige todas as posições anteriores RETURNED; pendentes: " ++
        pyList (pendentes.map toString),
      [("position", .int etapa.position),
        ("unreturned_positions", .arr (pendentes.map fun n => .int n))]⟩
  let aberta ← getOpenAttempt controlPrincipalRef scheduleId stepId
  Prog.require aberta.isNone
    ⟨.lifecycleViolation, "já existe tentativa OPEN nesta etapa; importe ou rejeite antes",
      [("open_attempt_id", .str (aberta.elim "" fun a => a.id.str))]⟩
  Prog.require ([StepState.pending, .awaitingReturn].contains etapa.state)
    ⟨.lifecycleViolation, s!"exportação não admite etapa em {etapa.state.value}",
      [("current_state", .str etapa.state.value)]⟩

/-- The delegation part of the preflight, for a step with a gate. -/
def preflightDelegation (controlPrincipalRef : String) (scheduleId stepId : Uuid)
    (exigencia : GateRequirement) (hashCorrente : String) (primeira : Bool) :
    Action PreflightResult := do
  let _ ← expireStaleDelegations controlPrincipalRef scheduleId stepId
  match ← getActiveDelegation controlPrincipalRef scheduleId stepId exigencia.scope with
  | none => pure (.blocked ⟨.delegationMissing, some hashCorrente⟩)
  | some delegacao =>
    if delegacao.contentSha256 = hashCorrente then
      pure (.authorized ⟨hashCorrente, some delegacao.id, primeira⟩)
    else pure (.blocked ⟨.delegationContentChanged, some hashCorrente⟩)

def preflight (humanGate : GateDecision) (controlPrincipalRef : String)
    (scheduleId stepId : Uuid) : Action PreflightResult := do
  let agenda ← Prog.orRaise (← lockSchedule controlPrincipalRef scheduleId)
    (scheduleMissing scheduleId)
  requireDispatchable agenda
  let etapa ← Prog.orRaise (← lockStep controlPrincipalRef scheduleId stepId)
    (stepMissing scheduleId stepId)
  requireExportable controlPrincipalRef scheduleId stepId etapa
  let conteudo ← HandoffService.buildEnvelopeContent controlPrincipalRef scheduleId stepId
  let hashCorrente := conteudo.contentSha256
  let primeira := etapa.state == .pending
  match gateRequirement etapa.draft.constraints with
  | .error e => Prog.raise e
  | .ok none => pure (.authorized ⟨hashCorrente, none, primeira⟩)
  | .ok (some exigencia) =>
    if exigencia.requiresHuman && !(humanGate.granted && humanGate.reasonCode == .authorized) then
      pure (.blocked ⟨.humanGateUnavailable, some hashCorrente⟩)
    else
      preflightDelegation controlPrincipalRef scheduleId stepId exigencia hashCorrente primeira

/-- Pauses the Schedule for a blocked gate and answers with the refusal to raise. -/
def registerBlock (controlPrincipalRef : String) (scheduleId stepId : Uuid)
    (blocked : DispatchBlocked) : Action Failure := do
  let _ ← ControlService.registerPause controlPrincipalRef scheduleId stepId blocked.reasonCode
  pure ⟨.dispatchBlocked, s!"despacho bloqueado: {blocked.reasonCode.value}",
    [("schedule_id", .str scheduleId.str), ("step_id", .str stepId.str),
      ("reason_code", .str blocked.reasonCode.value)]⟩

/-! ## Dispatch -/

/-- Consumes the delegation of the authorization, when it has one. -/
def consumirDelegacao (controlPrincipalRef : String) (scheduleId stepId attemptId : Uuid)
    (autorizacao : DispatchAuthorized) : Action Unit := do
  match autorizacao.delegationId with
  | none => pure ()
  | some delegationId => do
    let consumida ← consumeDelegation controlPrincipalRef scheduleId stepId delegationId
      autorizacao.contentSha256 gateScopeDispatch attemptId
    Prog.require consumida
      ⟨.dispatchBlocked, "delegação deixou de ser consumível entre o preflight e o efeito",
        [("schedule_id", .str scheduleId.str), ("step_id", .str stepId.str),
          ("delegation_id", .str delegationId.str)]⟩

/-- The checks of `ExportedHandoff.__post_init__`. -/
def checkedHandoff (repasse : ExportedHandoff) : Action ExportedHandoff := do
  Prog.require (1 ≤ repasse.attemptNumber) ⟨.valueError, "attempt_number começa em 1", []⟩
  Prog.require (repasse.envelope.contentSha256 == repasse.contentSha256)
    ⟨.valueError, "content_sha256 não corresponde ao envelope exportado; " ++
      "o repasse descreveria conteúdo diferente do selado", []⟩
  pure repasse

/-- Everything after the authorization: the content is compared again, the
delegation consumed, the attempt sealed and attributed, and the step moved. -/
def dispatch (attemptId : Uuid) (controlPrincipalRef : String) (scheduleId stepId : Uuid)
    (sealerRef : String) (autorizacao : DispatchAuthorized) : Action ExportOutcome := do
  let etapa ← Prog.orRaise (← lockStep controlPrincipalRef scheduleId stepId)
    (stepMissing scheduleId stepId)
  let conteudoAgora ← HandoffService.buildEnvelopeContent controlPrincipalRef scheduleId stepId
  Prog.require (conteudoAgora.contentSha256 == autorizacao.contentSha256)
    ⟨.dispatchBlocked, "o conteúdo mudou entre a autorização e o despacho",
      [("schedule_id", .str scheduleId.str), ("step_id", .str stepId.str),
        ("reason_code", .str "content_changed_after_authorization")]⟩
  consumirDelegacao controlPrincipalRef scheduleId stepId attemptId autorizacao
  let selado ← HandoffService.sealStepForExport attemptId controlPrincipalRef scheduleId stepId
    sealerRef
  let perfil ← Connections.ensureManualProfile controlPrincipalRef
  let agora ← databaseNow
  let _ ← Connections.recordExecution controlPrincipalRef scheduleId stepId selado.attemptId
    (Connections.manualAttribution perfil.1.id) agora
  -- `ManualTransport.export` gives back the handoff as it was sealed.
  let entregue ← checkedHandoff ⟨scheduleId, stepId, selado.attemptId, selado.attemptNumber,
    selado.receiptId, selado.contentSha256, selado.sealedAt,
    EnvelopeContent.ofDraft scheduleId stepId etapa.draft⟩
  if autorizacao.firstDispatch then
    setStepState controlPrincipalRef scheduleId stepId .dispatched
  setStepState controlPrincipalRef scheduleId stepId .awaitingReturn
  pure ⟨entregue, .awaitingReturn, .open⟩

/-- Without an authorization of its caller, `export_step` runs the preflight. -/
def exportStep (humanGate : GateDecision) (attemptId : Uuid) (controlPrincipalRef : String)
    (scheduleId stepId : Uuid) (sealerRef : String) : Action ExportOutcome := do
  match ← preflight humanGate controlPrincipalRef scheduleId stepId with
  | .blocked bloqueio => do
    let recusa ← registerBlock controlPrincipalRef scheduleId stepId bloqueio
    Prog.raise recusa
  | .authorized autorizacao =>
    dispatch attemptId controlPrincipalRef scheduleId stepId sealerRef autorizacao

end ManualHandoffExportService

end PiaOs
