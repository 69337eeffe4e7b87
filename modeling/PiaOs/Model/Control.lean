import PiaOs.Model.Repository

/-!
# Cooperative control

`ControlService`: pause, resume, stop and cancel, the pause of a blocked gate and
the completion of a work whose steps have all returned.
-/

namespace PiaOs

open Support Transactions

structure ControlOutcome where
  scheduleId : Uuid
  scheduleState : ScheduleState
  event : OrchestrationControlEvent
  cancelledSteps : Nat
  closedAttempts : Nat
  deriving DecidableEq, Repr

namespace ControlService

open Repository

def acaoDestino : String → Option ScheduleState
  | "pause" => some .paused
  | "resume" => some .active
  | "stop" => some .stopped
  | "cancel" => some .cancelled
  | _ => none

def acaoEvento : ScheduleState → ControlEventKind
  | .paused => .paused
  | .stopped => .stopped
  | .cancelled => .cancelled
  | _ => .resumed

/-- Cancels the steps that have not returned and closes the open attempts. -/
def cancelarConteudo (controlPrincipalRef : String) (scheduleId : Uuid) : Action (Nat × Nat) := do
  let etapas ← listSteps controlPrincipalRef scheduleId
  let canceladas := etapas.filter fun e => [StepState.pending, .awaitingReturn].contains e.state
  Prog.each (fun e => setStepState controlPrincipalRef scheduleId e.id .cancelled) canceladas
  let fechadas ← listOpenAttemptsOfSchedule controlPrincipalRef scheduleId
  Prog.each (fun a => setAttemptState controlPrincipalRef scheduleId a.id .closedCancelled)
    fechadas
  pure (canceladas.length, fechadas.length)

/-- The category goes with `stop`, and only with it. -/
def motivoDe (action : String) (categoria : Option StopConditionCategory) :
    Except Failure ControlReasonCode :=
  if action = "stop" then
    if categoria.isNone then
      .error ⟨.contractViolation, "parar exige categoria de Stop Condition", []⟩
    else .ok .stopConditionDeclared
  else if categoria.isSome then
    .error ⟨.contractViolation, "categoria de Stop Condition só se aplica a stop", []⟩
  else .ok .operatorRequested

def apply (controlPrincipalRef : String) (scheduleId : Uuid) (action : String) (eventId : Uuid)
    (stopConditionCategory : Option StopConditionCategory) : Action ControlOutcome := do
  let destino ← Prog.orRaise (acaoDestino action)
    ⟨.contractViolation, "ação de controle desconhecida: " ++ pyRepr action, []⟩
  let agenda ← Prog.orRaise (← lockSchedule controlPrincipalRef scheduleId)
    (scheduleMissing scheduleId)
  Prog.require (e73ScheduleTransitions.contains (agenda.state, destino))
    ⟨.lifecycleViolation, s!"transição {agenda.state.value} -> {destino.value} não é executável",
      [("current_state", .str agenda.state.value)]⟩
  let motivo ← match motivoDe action stopConditionCategory with
    | .ok motivo => pure motivo
    | .error e => Prog.raise e
  let contagem ←
    if destino = .cancelled then cancelarConteudo controlPrincipalRef scheduleId
    else pure (0, 0)
  setScheduleState controlPrincipalRef scheduleId destino
  let agora ← databaseNow
  let evento ← createControlEvent eventId controlPrincipalRef scheduleId none (acaoEvento destino)
    motivo stopConditionCategory controlPrincipalRef agora
  pure ⟨scheduleId, destino, evento, contagem.1, contagem.2⟩

/-- The pause of a blocked gate. Repeating it while `PAUSED` for the same reason
records nothing. -/
def registerPause (controlPrincipalRef : String) (scheduleId stepId : Uuid)
    (reasonCode : ControlReasonCode) : Action (Option OrchestrationControlEvent) := do
  let agenda ← Prog.orRaise (← lockSchedule controlPrincipalRef scheduleId)
    (scheduleMissing scheduleId)
  let registrar ←
    if agenda.state = .paused then do
      let pausas ← countOpenPauseEvents controlPrincipalRef scheduleId reasonCode
      pure (pausas == 0)
    else if agenda.state = .active then do
      setScheduleState controlPrincipalRef scheduleId .paused
      pure true
    else pure false
  if registrar then do
    let eventId ← newUuid
    let agora ← databaseNow
    let evento ← createControlEvent eventId controlPrincipalRef scheduleId (some stepId) .paused
      reasonCode none controlPrincipalRef agora
    pure (some evento)
  else pure none

/-- `ACTIVE -> COMPLETED` once every step has returned. -/
def completeIfAllReturned (controlPrincipalRef : String) (scheduleId : Uuid) :
    Action (Option OrchestrationControlEvent) := do
  match ← lockSchedule controlPrincipalRef scheduleId with
  | none => pure none
  | some agenda =>
    if agenda.state = .active then do
      if ← allStepsReturned controlPrincipalRef scheduleId then do
        setScheduleState controlPrincipalRef scheduleId .completed
        let eventId ← newUuid
        let agora ← databaseNow
        let evento ← createControlEvent eventId controlPrincipalRef scheduleId none .completed
          .allStepsReturned none controlPrincipalRef agora
        pure (some evento)
      else pure none
    else pure none

def listEvents (controlPrincipalRef : String) (scheduleId : Uuid) :
    Action (List OrchestrationControlEvent) :=
  listControlEvents controlPrincipalRef scheduleId

end ControlService

end PiaOs
