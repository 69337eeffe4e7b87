import PiaOs.Model.Repository

/-!
# Creating, activating and sealing work

`ScheduleService` and `HandoffService`. Sealing reads the Schedule and the step
without locking them; only the numbering of the attempt locks the step.
-/

namespace PiaOs

open Support Transactions

/-- A persisted work with its steps in order of position. -/
structure ScheduleView where
  scheduleId : Uuid
  title : String
  state : ScheduleState
  executionMode : HandoffMode
  controlPrincipalRef : String
  steps : List ScheduleStep

namespace ScheduleService

open Repository

def getSchedule (controlPrincipalRef : String) (scheduleId : Uuid) : Action ScheduleView := do
  let agenda ← Prog.orRaise (← Repository.getSchedule controlPrincipalRef scheduleId)
    (scheduleMissing scheduleId)
  let etapas ← listSteps controlPrincipalRef scheduleId
  pure ⟨agenda.id, agenda.title, agenda.state, agenda.executionMode, agenda.controlPrincipalRef,
    etapas⟩

def modeNotExecutable (executionMode : HandoffMode) : Failure :=
  ⟨.contractViolation, "modo " ++ pyRepr executionMode.value ++
      " pertence ao vocabulário congelado, mas não é executável nesta entrega",
    [("declared_mode", .str executionMode.value),
      ("executable_modes", .arr (executableHandoffModes.map fun m => .str m.value))]⟩

def createSchedule (scheduleId : Uuid) (controlPrincipalRef : String) (draft : ScheduleDraft)
    (executionMode : HandoffMode) : Action ScheduleView := do
  Prog.require (executableHandoffModes.contains executionMode) (modeNotExecutable executionMode)
  Prog.require (!blank controlPrincipalRef)
    ⟨.contractViolation, "todo Schedule exige control_principal_ref não vazio", []⟩
  Repository.createSchedule scheduleId controlPrincipalRef draft.title executionMode draft.steps
  getSchedule controlPrincipalRef scheduleId

/-- `DRAFT -> ACTIVE`, decided on the locked row. -/
def activate (controlPrincipalRef : String) (scheduleId : Uuid) : Action ScheduleView := do
  let agenda ← Prog.orRaise (← lockSchedule controlPrincipalRef scheduleId)
    (scheduleMissing scheduleId)
  Prog.require (e71ScheduleTransitions.contains (agenda.state, .active))
    ⟨.lifecycleViolation, s!"transição {agenda.state.value} -> active não pertence à E7.1",
      [("current_state", .str agenda.state.value)]⟩
  setScheduleState controlPrincipalRef scheduleId .active
  getSchedule controlPrincipalRef scheduleId

/-- The earlier positions that have not returned; none means the next may go. -/
def advance (controlPrincipalRef : String) (scheduleId : Uuid) (position : Nat) :
    Action (List Nat) :=
  listUnreturnedPredecessors controlPrincipalRef scheduleId position

end ScheduleService

/-- What a sealing produces. -/
structure SealOutcome where
  attemptId : Uuid
  attemptNumber : Nat
  contentSha256 : String
  envelopeVersion : String
  receiptId : Uuid
  sealedAt : Instant
  sealerRef : String
  deriving DecidableEq, Repr

namespace HandoffService

open Repository

variable [Runtime]

def buildEnvelopeContent (controlPrincipalRef : String) (scheduleId stepId : Uuid) :
    Action EnvelopeContent := do
  let _ ← Prog.orRaise (← getSchedule controlPrincipalRef scheduleId) (scheduleMissing scheduleId)
  let etapa ← Prog.orRaise (← getStep controlPrincipalRef scheduleId stepId)
    (stepMissing scheduleId stepId)
  pure (EnvelopeContent.ofDraft scheduleId stepId etapa.draft)

/-- The checks of `SealOutcome.__post_init__`. -/
def checkedOutcome (saida : SealOutcome) : Action SealOutcome := do
  Prog.require (1 ≤ saida.attemptNumber) ⟨.valueError, "attempt_number começa em 1", []⟩
  Prog.require (saida.contentSha256.length == 64)
    ⟨.valueError, "content_sha256 deve ter 64 caracteres hexadecimais", []⟩
  pure saida

def modeNotExecutable (executionMode : HandoffMode) : Failure :=
  ⟨.lifecycleViolation, "modo " ++ pyRepr executionMode.value ++ " não é executável nesta entrega",
    [("execution_mode", .str executionMode.value)]⟩

/-- `_seal`: neither the Schedule nor the step is locked while their states are
judged. -/
def sealWith (attemptId : Uuid) (controlPrincipalRef : String) (scheduleId stepId : Uuid)
    (sealerRef : String) (estadosAdmitidos : List StepState) : Action SealOutcome := do
  let agenda ← Prog.orRaise (← getSchedule controlPrincipalRef scheduleId)
    (scheduleMissing scheduleId)
  Prog.require (agenda.state == .active)
    ⟨.lifecycleViolation, s!"selamento exige Schedule ACTIVE; estado atual {agenda.state.value}",
      [("current_state", .str agenda.state.value)]⟩
  Prog.require (executableHandoffModes.contains agenda.executionMode)
    (modeNotExecutable agenda.executionMode)
  let etapa ← Prog.orRaise (← getStep controlPrincipalRef scheduleId stepId)
    (stepMissing scheduleId stepId)
  Prog.require (estadosAdmitidos.contains etapa.state)
    ⟨.lifecycleViolation,
      "selamento admite etapa em [" ++ ", ".intercalate (estadosAdmitidos.map StepState.value) ++
        "]; estado atual " ++ etapa.state.value,
      [("current_state", .str etapa.state.value)]⟩
  Prog.require (!blank sealerRef) ⟨.lifecycleViolation, "sealer_ref não pode ser vazio", []⟩
  let conteudo := EnvelopeContent.ofDraft scheduleId stepId etapa.draft
  let numero ← nextAttemptNumber controlPrincipalRef scheduleId stepId
  let tentativa ← createAttempt controlPrincipalRef attemptId scheduleId stepId numero
    conteudo.envelopeVersion conteudo.contentSha256
  let sealedAt ← databaseNow
  let recibo ← createSealReceipt controlPrincipalRef scheduleId tentativa.id
    conteudo.contentSha256 sealedAt sealerRef
  checkedOutcome ⟨tentativa.id, tentativa.attemptNumber, conteudo.contentSha256,
    conteudo.envelopeVersion, recibo.id, recibo.sealedAt, recibo.sealerRef⟩

/-- Sealing alone admits a `PENDING` step and leaves it `PENDING`. -/
def sealStep (attemptId : Uuid) (controlPrincipalRef : String) (scheduleId stepId : Uuid)
    (sealerRef : String) : Action SealOutcome :=
  sealWith attemptId controlPrincipalRef scheduleId stepId sealerRef [.pending]

/-- Sealing for an export also admits a retry on an `AWAITING_RETURN` step. -/
def sealStepForExport (attemptId : Uuid) (controlPrincipalRef : String)
    (scheduleId stepId : Uuid) (sealerRef : String) : Action SealOutcome :=
  sealWith attemptId controlPrincipalRef scheduleId stepId sealerRef [.pending, .awaitingReturn]

end HandoffService

end PiaOs
