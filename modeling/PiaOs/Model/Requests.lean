import PiaOs.Model.Commands

/-!
# The transactions of the orchestration

Every entry point that opens a transaction: the HTTP routes, the tools of the MCP
composition, the idempotent operations on their own and the delegation updates of
the repository. A transaction that raises is rolled back.
-/

namespace PiaOs

open Support Transactions

/-- Who asks for an idempotent operation, and under which key. -/
structure Caller where
  principalRef : String
  commandKey : String
  deriving DecidableEq, Repr

/-- What can be asked of the orchestration, with everything the caller sends. -/
inductive Request
  | createScheduleOnce (caller : Caller) (draft : ScheduleDraft) (executionMode : HandoffMode)
  | criarSchedule (caller : Caller) (draft : ScheduleDraft) (executionMode : HandoffMode)
  | activate (controlPrincipalRef : String) (scheduleId : Uuid)
  | sealHandoffOnce (caller : Caller) (scheduleId stepId : Uuid) (sealerRef : String)
  | exportHandoffOnce (humanGate : GateDecision) (caller : Caller) (scheduleId stepId : Uuid)
      (sealerRef : String)
  | exportarHandoff (humanGate : GateDecision) (caller : Caller) (scheduleId stepId : Uuid)
  | exportarMcp (protecao : GatePosition → ProtectionDecision) (caller : Caller)
      (scheduleId stepId : Uuid)
  | importReturnOnce (comControle : Bool) (caller : Caller) (scheduleId stepId attemptId : Uuid)
      (raw : RawReturn) (attribution : DeclaredAttribution)
  | grantDelegationOnce (caller : Caller) (scheduleId stepId : Uuid) (validUntil : DateTime)
  | revokeDelegationOnce (caller : Caller) (scheduleId stepId delegationId : Uuid)
  | controlScheduleOnce (caller : Caller) (scheduleId : Uuid) (action : String)
      (stopConditionCategory : Option StopConditionCategory)
  | issueAuditOpinionOnce (caller : Caller) (scheduleId attemptId : Uuid)
      (opinion : AuditOpinionKind) (reasonCodes : List String) (auditorExecutionRef : String)
  | expireStaleDelegations (controlPrincipalRef : String) (scheduleId stepId : Uuid)
  | revokeActiveDelegations (controlPrincipalRef : String) (scheduleId stepId : Uuid)
      (scope : String)
  | consumeDelegation (controlPrincipalRef : String) (scheduleId stepId delegationId : Uuid)
      (contentSha256 scope : String) (attemptId : Uuid)

/-- What an entry point answers when its transaction may commit. -/
inductive Answer
  | schedule (view : ScheduleView)
  | created (recibo : CommandOutcome) (view : Option ScheduleView)
  | sealed (recibo : CommandOutcome) (saida : Option SealOutcome)
  | exported (recibo : CommandOutcome) (saida : Option ExportOutcome)
  | supervised (recibo : CommandOutcome) (saida : Option SupervisedExportOutcome)
  | blocked (recusa : Failure)
  | imported (recibo : CommandOutcome) (saida : Option ReturnOutcome)
  | delegation (recibo : CommandOutcome) (saida : Option ServiceDelegation)
  | controlled (recibo : CommandOutcome) (saida : Option ControlOutcome)
  | opinion (recibo : CommandOutcome) (saida : Option AuditOpinion)
  | affected (rows : Nat)
  | consumed (done : Bool)

/-- The receipt in an answer. -/
def Answer.recibo : Answer → Option CommandOutcome
  | .created r _ | .sealed r _ | .exported r _ | .supervised r _ | .imported r _
  | .delegation r _ | .controlled r _ | .opinion r _ => some r
  | .schedule _ | .blocked _ | .affected _ | .consumed _ => none

section Routes

open Repository CommandReceiptService

variable [Runtime]

/-- `criar_schedule`: creates and activates in one transaction. A replay only reads. -/
def criarSchedule (caller : Caller) (draft : ScheduleDraft) (executionMode : HandoffMode) :
    Action Answer := do
  let fora := draft.steps.find? fun e => (contractMediaType e.expectedOutputContract).isNone
  Prog.require fora.isNone
    ⟨.contractViolation, "expected_output_contract fora do vocabulário público da E7.2: " ++
      fora.elim "" fun e => pyRepr e.expectedOutputContract, []⟩
  let (recibo, _) ← createScheduleOnce caller.principalRef caller.commandKey draft executionMode
  if recibo.replayed then
    let vista ← ScheduleService.getSchedule caller.principalRef recibo.outcomeRef
    pure (.created recibo (some vista))
  else do
    let _ ← ScheduleService.activate caller.principalRef recibo.outcomeRef
    let vista ← ScheduleService.getSchedule caller.principalRef recibo.outcomeRef
    pure (.created recibo (some vista))

/-- `_replay_de_export`: the receipt of the triple, when it is of the same request. -/
def replayDeExport (triple : CommandTriple) (impressao : String) :
    Action (Option CommandReceipt) := do
  let recibo ← getCommandReceipt triple
  Prog.require (recibo.all fun r => r.requestSha256 == some impressao)
    ⟨.lifecycleViolation,
      "command_key já usada para uma requisição diferente; use chave nova",
      [("operation", .str CommandOperation.exportHandoff.value)]⟩
  pure recibo

/-- `exportar_handoff`. A gate that blocks leaves its pause committed; otherwise the
export runs its own preflight again, since no authorization is passed on. -/
def exportarHandoff (humanGate : GateDecision) (caller : Caller) (scheduleId stepId : Uuid) :
    Action Answer := do
  let triple : CommandTriple := ⟨caller.principalRef, .exportHandoff, caller.commandKey⟩
  let impressao := impressaoExport scheduleId stepId caller.principalRef
  let antes ← replayDeExport triple impressao
  let replay ←
    if antes.isSome then pure antes
    else do
      let _ ← Prog.orRaise (← lockSchedule caller.principalRef scheduleId)
        (scheduleMissing scheduleId)
      replayDeExport triple impressao
  let recusa ←
    if replay.isSome then pure none
    else do
      match ← ManualHandoffExportService.preflight humanGate caller.principalRef scheduleId
        stepId with
      | .authorized _ => pure none
      | .blocked bloqueio =>
        some <$> ManualHandoffExportService.registerBlock caller.principalRef scheduleId stepId
          bloqueio
  match recusa with
  | some recusa => pure (.blocked recusa)
  | none => do
    let (recibo, saida) ← exportHandoffOnce
      (fun attemptId => ManualHandoffExportService.exportStep humanGate attemptId
        caller.principalRef scheduleId stepId caller.principalRef)
      caller.principalRef caller.commandKey scheduleId stepId caller.principalRef
    pure (.exported recibo saida)

/-- `SupervisedHandoffAdapter.exportar`: G2 before the claim, G3 inside the effect. -/
def exportarMcp (protecao : GatePosition → ProtectionDecision) (caller : Caller)
    (scheduleId stepId : Uuid) : Action Answer := do
  Prog.require (protecao .g2).allowed (handoffBlocked .g2 (protecao .g2))
  let (recibo, saida) ← exportHandoffOnce
    (fun attemptId => SupervisedAutomaticHandoffExportService.exportStep protecao attemptId
      caller.principalRef scheduleId stepId caller.principalRef)
    caller.principalRef caller.commandKey scheduleId stepId caller.principalRef
  pure (.supervised recibo saida)

/-- The program of each entry point. -/
def requestProgram : Request → Action Answer
  | .createScheduleOnce caller draft mode => do
    let (recibo, saida) ← createScheduleOnce caller.principalRef caller.commandKey draft mode
    pure (.created recibo saida)
  | .criarSchedule caller draft mode => criarSchedule caller draft mode
  | .activate principal scheduleId => do
    let vista ← ScheduleService.activate principal scheduleId
    pure (.schedule vista)
  | .sealHandoffOnce caller scheduleId stepId sealerRef => do
    let (recibo, saida) ← sealHandoffOnce caller.principalRef caller.commandKey scheduleId stepId
      sealerRef
    pure (.sealed recibo saida)
  | .exportHandoffOnce humanGate caller scheduleId stepId sealerRef => do
    let (recibo, saida) ← exportHandoffOnce
      (fun attemptId => ManualHandoffExportService.exportStep humanGate attemptId
        caller.principalRef scheduleId stepId sealerRef)
      caller.principalRef caller.commandKey scheduleId stepId sealerRef
    pure (.exported recibo saida)
  | .exportarHandoff humanGate caller scheduleId stepId =>
    exportarHandoff humanGate caller scheduleId stepId
  | .exportarMcp protecao caller scheduleId stepId =>
    exportarMcp protecao caller scheduleId stepId
  | .importReturnOnce comControle caller scheduleId stepId attemptId raw attribution => do
    let (recibo, saida) ← importReturnOnce comControle caller.principalRef caller.commandKey
      scheduleId stepId attemptId raw attribution
    pure (.imported recibo saida)
  | .grantDelegationOnce caller scheduleId stepId validUntil => do
    let (recibo, saida) ← grantDelegationOnce caller.principalRef caller.commandKey scheduleId
      stepId validUntil
    pure (.delegation recibo saida)
  | .revokeDelegationOnce caller scheduleId stepId delegationId => do
    let (recibo, saida) ← revokeDelegationOnce caller.principalRef caller.commandKey scheduleId
      stepId delegationId
    pure (.delegation recibo saida)
  | .controlScheduleOnce caller scheduleId action categoria => do
    let (recibo, saida) ← controlScheduleOnce caller.principalRef caller.commandKey scheduleId
      action categoria
    pure (.controlled recibo saida)
  | .issueAuditOpinionOnce caller scheduleId attemptId opinion reasons auditor => do
    let (recibo, saida) ← issueAuditOpinionOnce caller.principalRef caller.commandKey scheduleId
      attemptId opinion reasons auditor
    pure (.opinion recibo saida)
  | .expireStaleDelegations principal scheduleId stepId => do
    let linhas ← expireStaleDelegations principal scheduleId stepId
    pure (.affected linhas)
  | .revokeActiveDelegations principal scheduleId stepId scope => do
    let linhas ← revokeActiveDelegations principal scheduleId stepId scope
    pure (.affected linhas)
  | .consumeDelegation principal scheduleId stepId delegationId hash scope attemptId => do
    let feito ← consumeDelegation principal scheduleId stepId delegationId hash scope attemptId
    pure (.consumed feito)

/-- The whole orchestration as a system of transactions. -/
def orchestration : Database Db Write Lock Failure Answer Request where
  apply := Db.apply
  program := requestProgram
  isFresh := Db.isFresh
  admits := Db.admits

end Routes

/-- A state of the orchestration: its committed store, its transactions in progress
and the commits so far. -/
abbrev Orchestration := Sys Db Write Lock Failure Answer Request

/-- A committed transaction of the orchestration. -/
abbrev Commit := Committed Db Write Answer Request

/-- The states that any run of the entry points reaches from the empty store. -/
def Reachable [Runtime] (s : Orchestration) : Prop := Sys.Reachable orchestration Db.empty s

end PiaOs
