import PiaOs.Model.Envelope
import PiaOs.Support.Table
import PiaOs.Transactions.System

/-!
# The store of the orchestration

The rows of the orchestration tables, the connection profiles and execution
receipts that an export writes, and every write that the repositories make.
-/

namespace PiaOs

open Support

/-! ## Rows -/

structure Schedule where
  id : Uuid
  title : String
  state : ScheduleState
  executionMode : HandoffMode
  controlPrincipalRef : String
  deriving DecidableEq, Repr

/-- A stored step keeps the draft it was created from. -/
structure ScheduleStep where
  id : Uuid
  scheduleId : Uuid
  position : Nat
  draft : StepDraft
  state : StepState
  deriving DecidableEq

structure HandoffAttempt where
  id : Uuid
  scheduleId : Uuid
  stepId : Uuid
  attemptNumber : Nat
  envelopeVersion : String
  contentSha256 : String
  state : AttemptState
  createdAt : Instant
  deriving DecidableEq, Repr

structure SealReceipt where
  id : Uuid
  attemptId : Uuid
  contentSha256 : String
  sealedAt : Instant
  sealerRef : String
  deriving DecidableEq, Repr

/-- The scope of command idempotency. -/
structure CommandTriple where
  technicalPrincipalRef : String
  operation : CommandOperation
  commandKey : String
  deriving DecidableEq, Repr

/-- `outcomeRef` is stored as the text of the identifier it names. -/
structure CommandReceipt where
  id : Uuid
  triple : CommandTriple
  outcomeRef : Uuid
  requestSha256 : Option String
  deriving DecidableEq, Repr

structure HandoffResult where
  id : Uuid
  attemptId : Uuid
  status : HandoffResultStatus
  expectedOutputContract : String
  outputMediaType : String
  outputSha256 : String
  outputBytes : Nat
  declaredOutputRef : Option String
  validationCodes : List String
  deriving DecidableEq, Repr

structure HandoffAttribution where
  id : Uuid
  attemptId : Uuid
  role : String
  declaredProviderId : Option String
  declaredModelId : Option String
  declaredInstanceId : String
  declaredAt : Instant
  selfDeclared : Bool
  provenanceRecordRef : Option Uuid
  deriving DecidableEq, Repr

structure ServiceDelegation where
  id : Uuid
  scheduleId : Uuid
  stepId : Uuid
  contentSha256 : String
  scope : String
  grantedByPrincipalRef : String
  validUntil : Instant
  state : DelegationState
  consumedAt : Option Instant
  consumedByAttemptId : Option Uuid
  createdAt : Instant
  deriving DecidableEq, Repr

structure OrchestrationControlEvent where
  id : Uuid
  scheduleId : Uuid
  stepId : Option Uuid
  eventKind : ControlEventKind
  reasonCode : ControlReasonCode
  stopConditionCategory : Option StopConditionCategory
  declaredByPrincipalRef : String
  occurredAt : Instant
  deriving DecidableEq, Repr

structure ExecutionObservation where
  id : Uuid
  scheduleId : Uuid
  stepId : Uuid
  observationKind : ObservationKind
  previousAttemptId : Uuid
  currentAttemptId : Uuid
  previousDeclaredProviderId : Option String
  currentDeclaredProviderId : Option String
  selfDeclared : Bool
  observedAt : Instant
  deriving DecidableEq, Repr

structure AuditOpinion where
  id : Uuid
  handoffResultId : Uuid
  opinion : AuditOpinionKind
  reasonCodes : List String
  auditorExecutionRef : String
  issuedByPrincipalRef : String
  issuedAt : Instant
  deriving DecidableEq, Repr

structure ConnectionProfile where
  id : Uuid
  controlPrincipalRef : String
  method : ConnectionMethod
  state : ConnectionState
  endpointRef : Option String
  displayName : Option String
  deriving DecidableEq, Repr

structure ConnectionExecutionReceipt where
  id : Uuid
  controlPrincipalRef : String
  scheduleId : Uuid
  stepId : Uuid
  attemptId : Uuid
  connectionId : Uuid
  connectionMethod : ConnectionMethod
  accessProvider : Option String
  requestedModel : Option String
  observedModel : Option String
  modelAttestationLevel : ModelAttestationLevel
  observedAt : Instant
  deriving DecidableEq, Repr

/-! ## Tables -/

/-- The store. A result, an attribution, a seal and an execution receipt belong to
one attempt each and are kept under its identifier, as their unique keys say. -/
structure Db where
  schedules : Table Uuid Schedule
  steps : Table Uuid ScheduleStep
  attempts : Table Uuid HandoffAttempt
  delegations : Table Uuid ServiceDelegation
  receipts : Table CommandTriple CommandReceipt
  seals : Table Uuid SealReceipt
  results : Table Uuid HandoffResult
  attributions : Table Uuid HandoffAttribution
  executions : Table Uuid ConnectionExecutionReceipt
  profiles : Table Uuid ConnectionProfile
  events : Table Uuid OrchestrationControlEvent
  observations : Table Uuid ExecutionObservation
  opinions : Table Uuid AuditOpinion

def Db.empty : Db := ⟨∅, ∅, ∅, ∅, ∅, ∅, ∅, ∅, ∅, ∅, ∅, ∅, ∅⟩

/-- A change to one row. -/
inductive Write
  | insertSchedule (row : Schedule)
  | setScheduleState (id : Uuid) (state : ScheduleState)
  | insertStep (row : ScheduleStep)
  | setStepState (id : Uuid) (state : StepState)
  | insertAttempt (row : HandoffAttempt)
  | setAttemptState (id : Uuid) (state : AttemptState)
  | insertDelegation (row : ServiceDelegation)
  | setDelegationState (id : Uuid) (state : DelegationState)
  | consumeDelegation (id : Uuid) (consumedAt : Instant) (attemptId : Uuid)
  | insertReceipt (row : CommandReceipt)
  | insertSeal (row : SealReceipt)
  | insertResult (row : HandoffResult)
  | insertAttribution (row : HandoffAttribution)
  | insertExecution (row : ConnectionExecutionReceipt)
  | insertProfile (row : ConnectionProfile)
  | insertEvent (row : OrchestrationControlEvent)
  | insertObservation (row : ExecutionObservation)
  | insertOpinion (row : AuditOpinion)

/-- What a write does to the store. -/
def Db.apply : Write → Db → Db
  | .insertSchedule row, db => { db with schedules := db.schedules.insert row.id row }
  | .setScheduleState id state, db =>
    { db with schedules := db.schedules.modify id fun r => { r with state } }
  | .insertStep row, db => { db with steps := db.steps.insert row.id row }
  | .setStepState id state, db =>
    { db with steps := db.steps.modify id fun r => { r with state } }
  | .insertAttempt row, db => { db with attempts := db.attempts.insert row.id row }
  | .setAttemptState id state, db =>
    { db with attempts := db.attempts.modify id fun r => { r with state } }
  | .insertDelegation row, db => { db with delegations := db.delegations.insert row.id row }
  | .setDelegationState id state, db =>
    { db with delegations := db.delegations.modify id fun r => { r with state } }
  | .consumeDelegation id consumedAt attemptId, db =>
    { db with delegations := db.delegations.modify id fun r =>
        { r with
          state := .consumed
          consumedAt := some consumedAt
          consumedByAttemptId := some attemptId } }
  | .insertReceipt row, db => { db with receipts := db.receipts.insert row.triple row }
  | .insertSeal row, db => { db with seals := db.seals.insert row.attemptId row }
  | .insertResult row, db => { db with results := db.results.insert row.attemptId row }
  | .insertAttribution row, db =>
    { db with attributions := db.attributions.insert row.attemptId row }
  | .insertExecution row, db => { db with executions := db.executions.insert row.attemptId row }
  | .insertProfile row, db => { db with profiles := db.profiles.insert row.id row }
  | .insertEvent row, db => { db with events := db.events.insert row.id row }
  | .insertObservation row, db => { db with observations := db.observations.insert row.id row }
  | .insertOpinion row, db => { db with opinions := db.opinions.insert row.id row }

/-- Row locks, the lock of a receipt triple, the advisory lock of a principal's
manual profile, and the sole use of an identifier that was just drawn. Inserting a
row locks its key. -/
inductive Lock
  | schedule (id : Uuid)
  | step (id : Uuid)
  | attempt (id : Uuid)
  | delegation (id : Uuid)
  | receipt (triple : CommandTriple)
  | manualProfile (controlPrincipalRef : String)
  | identifier (id : Uuid)
  deriving DecidableEq, Repr

/-- No row of the store has this identifier. -/
def Db.isFresh (n : Nat) (db : Db) : Bool :=
  let id : Uuid := ⟨n⟩
  (db.schedules.lookup id).isNone && (db.steps.lookup id).isNone &&
    (db.attempts.lookup id).isNone && (db.delegations.lookup id).isNone &&
    (db.profiles.lookup id).isNone && (db.events.lookup id).isNone &&
    (db.observations.lookup id).isNone && (db.opinions.lookup id).isNone &&
    (Table.rows db.receipts).all (fun r => r.id != id) &&
    (Table.rows db.seals).all (fun r => r.id != id) &&
    (Table.rows db.results).all (fun r => r.id != id) &&
    (Table.rows db.attributions).all (fun r => r.id != id) &&
    (Table.rows db.executions).all fun r => r.id != id

/-- The deferred foreign key of a consumed delegation: the consuming attempt is an
attempt of the same step and schedule. -/
def Db.admits (db : Db) : Bool :=
  (Table.rows db.delegations).all fun d =>
    match d.consumedByAttemptId with
    | none => true
    | some id =>
      match db.attempts.lookup id with
      | none => false
      | some a => a.stepId == d.stepId && a.scheduleId == d.scheduleId

end PiaOs
