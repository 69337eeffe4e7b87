import PiaOs.Model.Store

/-!
# The orchestration repository

The only path to the tables of the orchestration. Every method of
`OrchestrationRepository` is a few statements; each imposes the declared principal
and the declared Schedule on the rows it touches.
-/

namespace PiaOs

open Support Transactions

/-- A piece of a transaction over the store. -/
abbrev Action := Prog Db Write Lock Failure

/-! ## Scoped reads of one store -/

namespace Db

/-- The Schedule, when the principal controls it. -/
def scheduleOf (db : Db) (controlPrincipalRef : String) (scheduleId : Uuid) : Option Schedule :=
  (db.schedules.lookup scheduleId).filter fun s => s.controlPrincipalRef == controlPrincipalRef

def owned (db : Db) (controlPrincipalRef : String) (scheduleId : Uuid) : Bool :=
  (db.scheduleOf controlPrincipalRef scheduleId).isSome

/-- The step, when it belongs to that Schedule of that principal. -/
def stepOf (db : Db) (controlPrincipalRef : String) (scheduleId stepId : Uuid) :
    Option ScheduleStep :=
  (db.steps.lookup stepId).filter fun s =>
    s.scheduleId == scheduleId && db.owned controlPrincipalRef scheduleId

def attemptOf (db : Db) (controlPrincipalRef : String) (scheduleId attemptId : Uuid) :
    Option HandoffAttempt :=
  (db.attempts.lookup attemptId).filter fun a =>
    a.scheduleId == scheduleId && db.owned controlPrincipalRef scheduleId

def delegationOf (db : Db) (controlPrincipalRef : String) (scheduleId delegationId : Uuid) :
    Option ServiceDelegation :=
  (db.delegations.lookup delegationId).filter fun d =>
    d.scheduleId == scheduleId && db.owned controlPrincipalRef scheduleId

/-- Steps of the Schedule by position. -/
def stepsOf (db : Db) (controlPrincipalRef : String) (scheduleId : Uuid) : List ScheduleStep :=
  Table.select
    (fun s => s.scheduleId == scheduleId && db.owned controlPrincipalRef scheduleId)
    (fun s => (s.position, s.id.int)) db.steps

/-- Attempts of the Schedule in order of creation. -/
def attemptsOf (db : Db) (controlPrincipalRef : String) (scheduleId : Uuid) :
    List HandoffAttempt :=
  Table.select
    (fun a => a.scheduleId == scheduleId && db.owned controlPrincipalRef scheduleId)
    (fun a => (a.createdAt, a.id.int)) db.attempts

def delegationsOf (db : Db) (controlPrincipalRef : String) (scheduleId : Uuid) :
    List ServiceDelegation :=
  Table.select
    (fun d => d.scheduleId == scheduleId && db.owned controlPrincipalRef scheduleId)
    (fun d => (d.createdAt, d.id.int)) db.delegations

def eventsOf (db : Db) (controlPrincipalRef : String) (scheduleId : Uuid) :
    List OrchestrationControlEvent :=
  Table.select
    (fun e => e.scheduleId == scheduleId && db.owned controlPrincipalRef scheduleId)
    (fun e => (e.occurredAt, e.id.int)) db.events

def observationsOf (db : Db) (controlPrincipalRef : String) (scheduleId : Uuid) :
    List ExecutionObservation :=
  Table.select
    (fun o => o.scheduleId == scheduleId && db.owned controlPrincipalRef scheduleId)
    (fun o => (o.observedAt, o.id.int)) db.observations

/-- The result of an attempt, reached through the attempt and its Schedule. -/
def resultOf (db : Db) (controlPrincipalRef : String) (scheduleId attemptId : Uuid) :
    Option HandoffResult :=
  (db.attemptOf controlPrincipalRef scheduleId attemptId).bind fun _ => db.results.lookup attemptId

def attributionOf (db : Db) (controlPrincipalRef : String) (scheduleId attemptId : Uuid) :
    Option HandoffAttribution :=
  (db.attemptOf controlPrincipalRef scheduleId attemptId).bind fun _ =>
    db.attributions.lookup attemptId

def sealOf (db : Db) (controlPrincipalRef : String) (scheduleId attemptId : Uuid) :
    Option SealReceipt :=
  (db.attemptOf controlPrincipalRef scheduleId attemptId).bind fun _ => db.seals.lookup attemptId

/-- The identifiers of the results stored under the Schedule. -/
def resultIdsOf (db : Db) (controlPrincipalRef : String) (scheduleId : Uuid) : List Uuid :=
  (db.attemptsOf controlPrincipalRef scheduleId).filterMap fun a =>
    (db.results.lookup a.id).map HandoffResult.id

def opinionsOf (db : Db) (controlPrincipalRef : String) (scheduleId : Uuid) :
    List AuditOpinion :=
  Table.select
    (fun o => (db.resultIdsOf controlPrincipalRef scheduleId).contains o.handoffResultId)
    (fun o => (o.issuedAt, o.id.int)) db.opinions

/-- Attempts of a step, whichever Schedule they are declared under. -/
def attemptsOfStep (db : Db) (stepId : Uuid) : List HandoffAttempt :=
  Table.select (fun a => a.stepId == stepId) (fun a => (a.attemptNumber, a.id.int)) db.attempts

end Db

/-! ## Statement forms -/

/-- A statement that only reads and may raise. -/
def query {α : Type} (f : Env → Db → Except Failure α) : Action α :=
  Prog.step ⟨fun _ _ => [], fun env db => (f env db).map fun a => (a, [])⟩

/-- A single insert or update: the locks it takes, the constraint it may violate
and the write. -/
def write (locks : List Lock) (violated : Db → Option String) (w : Write) : Action Unit :=
  Prog.step ⟨fun _ _ => locks, fun _ db =>
    match violated db with
    | some name => .error ⟨.integrityError, name, []⟩
    | none => .ok ((), [w])⟩

/-- `one_or_none()`. -/
def oneOrNone {α : Type} : List α → Except Failure (Option α)
  | [] => .ok none
  | [a] => .ok (some a)
  | _ => .error ⟨.multipleResultsFound, "Multiple rows were found when one or none was required", []⟩

/-- Locks a row that is still among the rows of the statement, and writes to it. -/
def lockRow {ρ : Type} (lock : Uuid → Lock) (row : Env → Db → Uuid → Option ρ)
    (writes : Uuid → List Write) (id : Uuid) : Action (Option ρ) :=
  Prog.step ⟨fun env db => if (row env db id).isSome then [lock id] else [],
    fun env db =>
      match row env db id with
      | some r => .ok (some r, writes id)
      | none => .ok (none, [])⟩

/-- Rows to lock: the candidates of the statement's snapshot, each locked and then
examined again as it is once the lock is held. -/
def scanLocked {ρ : Type} (candidates : Env → Db → List Uuid) (lock : Uuid → Lock)
    (row : Env → Db → Uuid → Option ρ) (writes : Uuid → List Write) : Action (List ρ) := do
  let ids ← Prog.read candidates
  Prog.collect (lockRow lock row writes) ids

/-- `uuid.uuid4()`: no row has the identifier and no other transaction draws it. -/
def newUuid : Action Uuid :=
  Prog.readLocked (fun env _ => [.identifier ⟨env.fresh⟩]) fun env _ => ⟨env.fresh⟩

namespace Repository

/-! ## Clock and Schedules -/

def databaseNow : Action Instant := Prog.read fun env _ => env.now

def scheduleMissing (scheduleId : Uuid) : Failure :=
  ⟨.scopeViolation, "Schedule inexistente sob este principal de controle",
    [("schedule_id", .str scheduleId.str)]⟩

def stepMissing (scheduleId stepId : Uuid) : Failure :=
  ⟨.scopeViolation, "etapa inexistente neste Schedule sob este principal",
    [("schedule_id", .str scheduleId.str), ("step_id", .str stepId.str)]⟩

def attemptMissing (scheduleId attemptId : Uuid) : Failure :=
  ⟨.scopeViolation, "tentativa inexistente neste Schedule sob este principal",
    [("schedule_id", .str scheduleId.str), ("attempt_id", .str attemptId.str)]⟩

def createSchedule (scheduleId : Uuid) (controlPrincipalRef title : String)
    (executionMode : HandoffMode) (steps : List StepDraft) : Action Unit := do
  write [.schedule scheduleId]
    (fun db => if (db.schedules.lookup scheduleId).isSome then some "schedules_pkey" else none)
    (.insertSchedule ⟨scheduleId, title, .draft, executionMode, controlPrincipalRef⟩)
  Prog.each (fun p => do
    let stepId ← newUuid
    write [.step stepId, .schedule scheduleId]
      (fun db => if (db.steps.lookup stepId).isSome then some "schedule_steps_pkey" else none)
      (.insertStep ⟨stepId, scheduleId, p.2 + 1, p.1, .pending⟩)) steps.zipIdx

def getSchedule (controlPrincipalRef : String) (scheduleId : Uuid) : Action (Option Schedule) :=
  Prog.read fun _ db => db.scheduleOf controlPrincipalRef scheduleId

def lockSchedule (controlPrincipalRef : String) (scheduleId : Uuid) : Action (Option Schedule) :=
  Prog.readLocked
    (fun _ db => if db.owned controlPrincipalRef scheduleId then [.schedule scheduleId] else [])
    fun _ db => db.scheduleOf controlPrincipalRef scheduleId

def setScheduleState (controlPrincipalRef : String) (scheduleId : Uuid) (state : ScheduleState) :
    Action Unit := do
  let _ ← Prog.orRaise (← lockSchedule controlPrincipalRef scheduleId) (scheduleMissing scheduleId)
  write [.schedule scheduleId] (fun _ => none) (.setScheduleState scheduleId state)

def listSteps (controlPrincipalRef : String) (scheduleId : Uuid) : Action (List ScheduleStep) :=
  Prog.read fun _ db => db.stepsOf controlPrincipalRef scheduleId

def getStep (controlPrincipalRef : String) (scheduleId stepId : Uuid) :
    Action (Option ScheduleStep) :=
  Prog.read fun _ db => db.stepOf controlPrincipalRef scheduleId stepId

/-- The scope check that precedes most writes. -/
def requireStep (controlPrincipalRef : String) (scheduleId stepId : Uuid) : Action Unit := do
  let _ ← Prog.orRaise (← getStep controlPrincipalRef scheduleId stepId)
    (stepMissing scheduleId stepId)

def requireAttempt (controlPrincipalRef : String) (scheduleId attemptId : Uuid) :
    Action Unit := do
  let _ ← Prog.orRaise
    (← Prog.read fun _ db => db.attemptOf controlPrincipalRef scheduleId attemptId)
    (attemptMissing scheduleId attemptId)

/-! ## Attempts and seal receipts -/

def lockStep (controlPrincipalRef : String) (scheduleId stepId : Uuid) :
    Action (Option ScheduleStep) :=
  Prog.readLocked
    (fun _ db =>
      if (db.stepOf controlPrincipalRef scheduleId stepId).isSome then [.step stepId] else [])
    fun _ db => db.stepOf controlPrincipalRef scheduleId stepId

/-- Locks the step row, then reads the greatest number. -/
def nextAttemptNumber (controlPrincipalRef : String) (scheduleId stepId : Uuid) :
    Action Nat := do
  let _ ← Prog.orRaise (← lockStep controlPrincipalRef scheduleId stepId)
    (stepMissing scheduleId stepId)
  let maximo ← Prog.read fun _ db =>
    (db.attemptsOfStep stepId).foldl (fun n a => max n a.attemptNumber) 0
  pure (maximo + 1)

/-- The unique keys of `handoff_attempts`: the identifier, the number within the
step, and the partial index on the open attempt. -/
def attemptViolates (row : HandoffAttempt) (db : Db) : Option String :=
  if (db.attempts.lookup row.id).isSome then some "handoff_attempts_pkey"
  else if (db.attemptsOfStep row.stepId).any fun a => a.attemptNumber == row.attemptNumber then
    some "uq_handoff_attempts_step_number"
  else if (db.attemptsOfStep row.stepId).any fun a => a.state == .open then
    some "ix_handoff_attempts_single_open"
  else none

def createAttempt (controlPrincipalRef : String) (attemptId scheduleId stepId : Uuid)
    (attemptNumber : Nat) (envelopeVersion contentSha256 : String) : Action HandoffAttempt := do
  requireStep controlPrincipalRef scheduleId stepId
  let agora ← databaseNow
  let tentativa : HandoffAttempt :=
    ⟨attemptId, scheduleId, stepId, attemptNumber, envelopeVersion, contentSha256, .open, agora⟩
  write [.attempt attemptId, .step stepId] (attemptViolates tentativa) (.insertAttempt tentativa)
  pure tentativa

/-- A row that belongs to one attempt is refused when the attempt has one already. -/
def perAttempt {ρ : Type} (table : Db → Table Uuid ρ) (attemptId : Uuid) (name : String)
    (db : Db) : Option String :=
  if ((table db).lookup attemptId).isSome then some name else none

def createSealReceipt (controlPrincipalRef : String) (scheduleId attemptId : Uuid)
    (contentSha256 : String) (sealedAt : Instant) (sealerRef : String) : Action SealReceipt := do
  requireAttempt controlPrincipalRef scheduleId attemptId
  let recibo : SealReceipt := ⟨← newUuid, attemptId, contentSha256, sealedAt, sealerRef⟩
  write [.attempt attemptId] (perAttempt Db.seals attemptId "uq_seal_receipts_attempt")
    (.insertSeal recibo)
  pure recibo

def getAttempt (controlPrincipalRef : String) (scheduleId attemptId : Uuid) :
    Action (Option HandoffAttempt) :=
  Prog.read fun _ db => db.attemptOf controlPrincipalRef scheduleId attemptId

def getSealReceiptByAttempt (controlPrincipalRef : String) (scheduleId attemptId : Uuid) :
    Action (Option SealReceipt) :=
  Prog.read fun _ db => db.sealOf controlPrincipalRef scheduleId attemptId

def listAttempts (controlPrincipalRef : String) (scheduleId : Uuid) :
    Action (List HandoffAttempt) :=
  Prog.read fun _ db => db.attemptsOf controlPrincipalRef scheduleId

/-! ## Command idempotency -/

/-- `INSERT ... ON CONFLICT DO UPDATE ... RETURNING`: the triple is locked, and the
row that comes back is the new one exactly when its identifier is the proposed one. -/
def claimCommand (technicalPrincipalRef : String) (operation : CommandOperation)
    (commandKey : String) (proposedOutcomeRef : Uuid) (requestSha256 : String) :
    Action (CommandReceipt × Bool) := do
  let receiptId ← newUuid
  let proposto : CommandReceipt :=
    ⟨receiptId, ⟨technicalPrincipalRef, operation, commandKey⟩, proposedOutcomeRef,
      some requestSha256⟩
  let recibo ← Prog.step ⟨fun _ _ => [.receipt proposto.triple], fun _ db =>
    match db.receipts.lookup proposto.triple with
    | some existente => .ok (existente, [])
    | none => .ok (proposto, [.insertReceipt proposto])⟩
  pure (recibo, recibo.id == receiptId)

def getCommandReceipt (triple : CommandTriple) : Action (Option CommandReceipt) :=
  Prog.read fun _ db => db.receipts.lookup triple

/-! ## Transport, verdict and attribution -/

def setStepState (controlPrincipalRef : String) (scheduleId stepId : Uuid) (state : StepState) :
    Action Unit := do
  let _ ← Prog.orRaise (← lockStep controlPrincipalRef scheduleId stepId)
    (stepMissing scheduleId stepId)
  write [.step stepId] (fun _ => none) (.setStepState stepId state)

def lockAttempt (controlPrincipalRef : String) (scheduleId attemptId : Uuid) :
    Action (Option HandoffAttempt) :=
  Prog.readLocked
    (fun _ db =>
      if (db.attemptOf controlPrincipalRef scheduleId attemptId).isSome then [.attempt attemptId]
      else [])
    fun _ db => db.attemptOf controlPrincipalRef scheduleId attemptId

def setAttemptState (controlPrincipalRef : String) (scheduleId attemptId : Uuid)
    (state : AttemptState) : Action Unit := do
  let _ ← Prog.orRaise (← lockAttempt controlPrincipalRef scheduleId attemptId)
    (attemptMissing scheduleId attemptId)
  write [.attempt attemptId] (fun _ => none) (.setAttemptState attemptId state)

def getOpenAttempt (controlPrincipalRef : String) (scheduleId stepId : Uuid) :
    Action (Option HandoffAttempt) :=
  query fun _ db => oneOrNone
    ((db.attemptsOf controlPrincipalRef scheduleId).filter fun a =>
      a.stepId == stepId && a.state == .open)

def listUnreturnedPredecessors (controlPrincipalRef : String) (scheduleId : Uuid)
    (position : Nat) : Action (List Nat) :=
  Prog.read fun _ db =>
    ((db.stepsOf controlPrincipalRef scheduleId).filter fun s =>
      s.position < position && s.state != .returned).map ScheduleStep.position

def createHandoffResult (controlPrincipalRef : String) (scheduleId attemptId : Uuid)
    (status : HandoffResultStatus)
    (expectedOutputContract outputMediaType outputSha256 : String) (outputBytes : Nat)
    (declaredOutputRef : Option String) (validationCodes : List String) :
    Action HandoffResult := do
  requireAttempt controlPrincipalRef scheduleId attemptId
  let resultado : HandoffResult :=
    ⟨← newUuid, attemptId, status, expectedOutputContract, outputMediaType, outputSha256,
      outputBytes, declaredOutputRef, validationCodes⟩
  write [.attempt attemptId] (perAttempt Db.results attemptId "uq_handoff_results_attempt")
    (.insertResult resultado)
  pure resultado

def createHandoffAttribution (controlPrincipalRef : String) (scheduleId attemptId : Uuid)
    (role : String) (declaredProviderId declaredModelId : Option String)
    (declaredInstanceId : String) (declaredAt : Instant) : Action HandoffAttribution := do
  requireAttempt controlPrincipalRef scheduleId attemptId
  let atribuicao : HandoffAttribution :=
    ⟨← newUuid, attemptId, role, declaredProviderId, declaredModelId, declaredInstanceId,
      declaredAt, true, none⟩
  write [.attempt attemptId]
    (perAttempt Db.attributions attemptId "uq_handoff_attributions_attempt")
    (.insertAttribution atribuicao)
  pure atribuicao

def getHandoffResult (controlPrincipalRef : String) (scheduleId attemptId : Uuid) :
    Action (Option HandoffResult) :=
  Prog.read fun _ db => db.resultOf controlPrincipalRef scheduleId attemptId

def getHandoffAttribution (controlPrincipalRef : String) (scheduleId attemptId : Uuid) :
    Action (Option HandoffAttribution) :=
  Prog.read fun _ db => db.attributionOf controlPrincipalRef scheduleId attemptId

/-! ## Delegations -/

/-- The current row of a delegation, when it is still among those of an `UPDATE`. -/
def delegationWhere (p : Instant → ServiceDelegation → Bool) (now : Instant) (db : Db)
    (id : Uuid) : Option ServiceDelegation :=
  (db.delegations.lookup id).filter (p now)

/-- Locks the delegations that satisfy a condition and writes to each of them. -/
def delegationsWhere (p : Instant → ServiceDelegation → Bool) (write : Uuid → Write) :
    Action (List ServiceDelegation) :=
  scanLocked
    (fun env db =>
      (Table.select (p env.now) (fun d => (d.createdAt, d.id.int)) db.delegations).map
        ServiceDelegation.id)
    Lock.delegation (fun env => delegationWhere p env.now) fun id => [write id]

/-- Active delegations of the step that are past their validity. -/
def stale (scheduleId stepId : Uuid) (now : Instant) (d : ServiceDelegation) : Bool :=
  d.scheduleId == scheduleId && d.stepId == stepId && d.state == .active && d.validUntil ≤ now

def expireStaleDelegations (controlPrincipalRef : String) (scheduleId stepId : Uuid) :
    Action Nat := do
  requireStep controlPrincipalRef scheduleId stepId
  let linhas ← delegationsWhere (stale scheduleId stepId) fun id => .setDelegationState id .expired
  pure linhas.length

/-- The active delegations of the Schedule, the step and the scope. -/
def activeFor (scheduleId stepId : Uuid) (scope : String) (d : ServiceDelegation) : Bool :=
  d.scheduleId == scheduleId && d.stepId == stepId && d.scope == scope && d.state == .active

def revokeActiveDelegations (controlPrincipalRef : String) (scheduleId stepId : Uuid)
    (scope : String) : Action Nat := do
  requireStep controlPrincipalRef scheduleId stepId
  let linhas ← delegationsWhere (fun _ => activeFor scheduleId stepId scope)
    fun id => .setDelegationState id .revoked
  pure linhas.length

/-- The identifier and the partial index on the active delegation. -/
def delegationViolates (row : ServiceDelegation) (db : Db) : Option String :=
  if (db.delegations.lookup row.id).isSome then some "service_delegations_pkey"
  else if (Table.rows db.delegations).any (activeFor row.scheduleId row.stepId row.scope) then
    some "ix_service_delegations_single_active"
  else none

def createDelegation (controlPrincipalRef : String) (delegationId scheduleId stepId : Uuid)
    (contentSha256 scope grantedByPrincipalRef : String) (validUntil : Instant) :
    Action ServiceDelegation := do
  requireStep controlPrincipalRef scheduleId stepId
  let agora ← databaseNow
  let delegacao : ServiceDelegation :=
    ⟨delegationId, scheduleId, stepId, contentSha256, scope, grantedByPrincipalRef, validUntil,
      .active, none, none, agora⟩
  write [.delegation delegationId, .step stepId] (delegationViolates delegacao)
    (.insertDelegation delegacao)
  pure delegacao

/-- The active delegation of the triple, locked. -/
def getActiveDelegation (controlPrincipalRef : String) (scheduleId stepId : Uuid)
    (scope : String) : Action (Option ServiceDelegation) := do
  let linhas ← scanLocked
    (fun _ db => ((db.delegationsOf controlPrincipalRef scheduleId).filter fun d =>
      d.stepId == stepId && d.scope == scope && d.state == .active).map ServiceDelegation.id)
    Lock.delegation
    (fun _ db id => (db.delegationOf controlPrincipalRef scheduleId id).filter fun d =>
      d.stepId == stepId && d.scope == scope && d.state == .active)
    fun _ => []
  match oneOrNone linhas with
  | .ok linha => pure linha
  | .error e => Prog.raise e

def getDelegation (controlPrincipalRef : String) (scheduleId delegationId : Uuid) :
    Action (Option ServiceDelegation) :=
  Prog.read fun _ db => db.delegationOf controlPrincipalRef scheduleId delegationId

/-- The conditional `UPDATE`: the whole binding is checked again where it is used. -/
def consumable (scheduleId stepId : Uuid) (contentSha256 scope : String) (now : Instant)
    (d : ServiceDelegation) : Bool :=
  d.scheduleId == scheduleId && d.stepId == stepId && d.scope == scope &&
    d.contentSha256 == contentSha256 && d.state == .active && now < d.validUntil

def consumeDelegation (controlPrincipalRef : String) (scheduleId stepId delegationId : Uuid)
    (contentSha256 scope : String) (attemptId : Uuid) : Action Bool := do
  requireStep controlPrincipalRef scheduleId stepId
  let p := consumable scheduleId stepId contentSha256 scope
  Prog.step ⟨fun env db =>
      if (delegationWhere p env.now db delegationId).isSome then [.delegation delegationId] else [],
    fun env db =>
      match delegationWhere p env.now db delegationId with
      | some _ => .ok (true, [.consumeDelegation delegationId env.now attemptId])
      | none => .ok (false, [])⟩

def listDelegations (controlPrincipalRef : String) (scheduleId : Uuid) :
    Action (List ServiceDelegation) :=
  Prog.read fun _ db => db.delegationsOf controlPrincipalRef scheduleId

/-! ## Control events -/

def createControlEvent (eventId : Uuid) (controlPrincipalRef : String) (scheduleId : Uuid)
    (stepId : Option Uuid) (eventKind : ControlEventKind) (reasonCode : ControlReasonCode)
    (stopConditionCategory : Option StopConditionCategory) (declaredByPrincipalRef : String)
    (occurredAt : Instant) : Action OrchestrationControlEvent := do
  let _ ← Prog.orRaise (← getSchedule controlPrincipalRef scheduleId) (scheduleMissing scheduleId)
  let evento : OrchestrationControlEvent :=
    ⟨eventId, scheduleId, stepId, eventKind, reasonCode, stopConditionCategory,
      declaredByPrincipalRef, occurredAt⟩
  write [] (fun db => if (db.events.lookup eventId).isSome then some "control_events_pkey" else none)
    (.insertEvent evento)
  pure evento

def listControlEvents (controlPrincipalRef : String) (scheduleId : Uuid) :
    Action (List OrchestrationControlEvent) :=
  Prog.read fun _ db => db.eventsOf controlPrincipalRef scheduleId

/-- Pauses with this reason since the last resumption. The resumption is looked up
by Schedule alone. -/
def countOpenPauseEvents (controlPrincipalRef : String) (scheduleId : Uuid)
    (reasonCode : ControlReasonCode) : Action Nat :=
  Prog.read fun _ db =>
    let ultimoResume := (((Table.rows db.events).filter fun e =>
      e.scheduleId == scheduleId && e.eventKind == .resumed).map
        OrchestrationControlEvent.occurredAt).max?
    ((db.eventsOf controlPrincipalRef scheduleId).filter fun e =>
      e.eventKind == .paused && e.reasonCode == reasonCode &&
        ultimoResume.all fun t => t < e.occurredAt).length

def getControlEvent (controlPrincipalRef : String) (scheduleId eventId : Uuid) :
    Action (Option OrchestrationControlEvent) :=
  Prog.read fun _ db => (db.events.lookup eventId).filter fun e =>
    e.scheduleId == scheduleId && db.owned controlPrincipalRef scheduleId

/-- Open attempts of the work, each locked, in order of creation. -/
def listOpenAttemptsOfSchedule (controlPrincipalRef : String) (scheduleId : Uuid) :
    Action (List HandoffAttempt) :=
  scanLocked
    (fun _ db => ((db.attemptsOf controlPrincipalRef scheduleId).filter fun a =>
      a.state == .open).map HandoffAttempt.id)
    Lock.attempt
    (fun _ db id => (db.attemptOf controlPrincipalRef scheduleId id).filter fun a =>
      a.state == .open)
    fun _ => []

/-- Counts the steps that are not `RETURNED`; none means the work is done. -/
def allStepsReturned (controlPrincipalRef : String) (scheduleId : Uuid) : Action Bool :=
  Prog.read fun _ db =>
    ((db.stepsOf controlPrincipalRef scheduleId).filter fun s => s.state != .returned).length == 0

/-! ## Observations and opinions -/

/-- The attribution of the latest other attempt of the step, not created after this
one. The instant of this attempt is looked up by its identifier alone. -/
def getLastAttributionBefore (controlPrincipalRef : String) (scheduleId stepId attemptId : Uuid) :
    Action (Option HandoffAttribution) :=
  Prog.read fun _ db =>
    match db.attempts.lookup attemptId with
    | none => none
    | some atual =>
      (((db.attemptsOf controlPrincipalRef scheduleId).filter fun a =>
        a.stepId == stepId && a.id != attemptId && a.createdAt ≤ atual.createdAt).filterMap
          fun a => db.attributions.lookup a.id).getLast?

def createExecutionObservation (controlPrincipalRef : String) (scheduleId stepId : Uuid)
    (observationKind : ObservationKind) (previousAttemptId currentAttemptId : Uuid)
    (previousDeclaredProviderId currentDeclaredProviderId : Option String)
    (observedAt : Instant) : Action Unit := do
  requireStep controlPrincipalRef scheduleId stepId
  let observacao : ExecutionObservation :=
    ⟨← newUuid, scheduleId, stepId, observationKind, previousAttemptId, currentAttemptId,
      previousDeclaredProviderId, currentDeclaredProviderId, true, observedAt⟩
  write [] (fun _ => none) (.insertObservation observacao)

def listExecutionObservations (controlPrincipalRef : String) (scheduleId : Uuid) :
    Action (List ExecutionObservation) :=
  Prog.read fun _ db => db.observationsOf controlPrincipalRef scheduleId

def createAuditOpinion (opinionId : Uuid) (controlPrincipalRef : String)
    (scheduleId handoffResultId : Uuid) (opinion : AuditOpinionKind) (reasonCodes : List String)
    (auditorExecutionRef issuedByPrincipalRef : String) (issuedAt : Instant) :
    Action AuditOpinion := do
  let pertence ← Prog.read fun _ db =>
    (db.resultIdsOf controlPrincipalRef scheduleId).contains handoffResultId
  Prog.require pertence
    ⟨.scopeViolation, "resultado inexistente neste Schedule sob este principal",
      [("schedule_id", .str scheduleId.str), ("result_id", .str handoffResultId.str)]⟩
  let parecer : AuditOpinion :=
    ⟨opinionId, handoffResultId, opinion, reasonCodes, auditorExecutionRef, issuedByPrincipalRef,
      issuedAt⟩
  write []
    (fun db => if (db.opinions.lookup opinionId).isSome then some "audit_opinions_pkey" else none)
    (.insertOpinion parecer)
  pure parecer

def listAuditOpinions (controlPrincipalRef : String) (scheduleId : Uuid) :
    Action (List AuditOpinion) :=
  Prog.read fun _ db => db.opinionsOf controlPrincipalRef scheduleId

def getAuditOpinion (controlPrincipalRef : String) (scheduleId opinionId : Uuid) :
    Action (Option AuditOpinion) :=
  Prog.read fun _ db => (db.opinions.lookup opinionId).filter fun o =>
    (db.resultIdsOf controlPrincipalRef scheduleId).contains o.handoffResultId

end Repository

end PiaOs
