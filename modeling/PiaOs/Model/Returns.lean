import PiaOs.Model.Control

/-!
# Importing a return

The closed output contracts and `ReturnValidationService`. The state of the
Schedule is not examined: the attempt must be open and the step awaiting a return.
-/

namespace PiaOs

open Support Transactions

/-! ## Output contracts -/

def outputNonEmptyTextV1 : String := "pia://orchestration/output/non-empty-text/v1"
def outputJsonObjectV1 : String := "pia://orchestration/output/json-object/v1"

def mediaTypeTextPlain : String := "text/plain"
def mediaTypeApplicationJson : String := "application/json"

/-- The media type of a supported contract. -/
def contractMediaType (contract : String) : Option String :=
  if contract = outputNonEmptyTextV1 then some mediaTypeTextPlain
  else if contract = outputJsonObjectV1 then some mediaTypeApplicationJson
  else none

def codeUnsupportedOutputContract : String := "unsupported_output_contract"
def codeMediaTypeMismatch : String := "media_type_mismatch"
def codeExpectedNonEmptyText : String := "expected_non_empty_text"
def codeExpectedJsonObject : String := "expected_json_object"
def codeNonCanonicalJsonNumber : String := "non_canonical_json_number"

/-- The measure of a return, without its content. A return is accepted exactly when
no code speaks against it. -/
structure ValidatedOutput where
  accepted : Bool
  mediaType : String
  outputSha256 : String
  outputBytes : Nat
  validationCodes : List String
  coherent : accepted = validationCodes.isEmpty
  sha256_ok : isSha256 outputSha256 = true

section Validation

variable [Runtime]

def rejeitar (brutos mediaType codigo : String) : ValidatedOutput :=
  ⟨false, mediaType, Runtime.sha256 brutos, brutos.utf8ByteSize, [codigo], rfl,
    Runtime.sha256_hex brutos⟩

def aceitar (canonico mediaType : String) : ValidatedOutput :=
  ⟨true, mediaType, Runtime.sha256 canonico, canonico.utf8ByteSize, [], rfl,
    Runtime.sha256_hex canonico⟩

/-- Measures a return against the contract and never executes its content. -/
def validateOutput (expectedOutputContract mediaType content : String) : ValidatedOutput :=
  match contractMediaType expectedOutputContract with
  | none => rejeitar content mediaType codeUnsupportedOutputContract
  | some esperado =>
    if mediaType ≠ esperado then rejeitar content mediaType codeMediaTypeMismatch
    else if expectedOutputContract = outputNonEmptyTextV1 then
      if blank content then rejeitar content esperado codeExpectedNonEmptyText
      else aceitar content esperado
    else
      match Runtime.loads content with
      | .nonCanonicalNumber => rejeitar content esperado codeNonCanonicalJsonNumber
      | .malformed => rejeitar content esperado codeExpectedJsonObject
      | .notObject => rejeitar content esperado codeExpectedJsonObject
      | .object canonico => aceitar canonico esperado

end Validation

/-! ## The service -/

def maxDeclaredRefLength : Nat := 1024
def maxDeclaredIdLength : Nat := 255

/-- A raw return, with the checks of its constructor. -/
structure RawReturn where
  mediaType : String
  content : String
  declaredOutputRef : Option String
  mediaType_ok : blank mediaType = false

/-- Who says to have answered, with the checks of its constructor. -/
structure DeclaredAttribution where
  declaredInstanceId : String
  declaredProviderId : Option String
  declaredModelId : Option String
  declaredInstanceId_ok : blank declaredInstanceId = false
  lengths_ok : declaredInstanceId.length ≤ maxDeclaredIdLength ∧
    (∀ p ∈ declaredProviderId, p.length ≤ maxDeclaredIdLength) ∧
    ∀ m ∈ declaredModelId, m.length ≤ maxDeclaredIdLength

structure ReturnOutcome where
  attemptId : Uuid
  resultId : Uuid
  attributionId : Uuid
  status : HandoffResultStatus
  expectedOutputContract : String
  outputMediaType : String
  outputSha256 : String
  outputBytes : Nat
  declaredOutputRef : Option String
  validationCodes : List String
  attemptState : AttemptState
  stepState : StepState
  role : String
  declaredProviderId : Option String
  declaredModelId : Option String
  declaredInstanceId : String
  declaredAt : Instant
  selfDeclared : Bool
  provenanceRecordRef : Option Uuid
  deriving DecidableEq, Repr

namespace ReturnValidationService

open Repository

/-- Records a declared switch of provider since the last attribution of the step. -/
def observarTrocaDeProvedor (controlPrincipalRef : String) (scheduleId stepId attemptId : Uuid)
    (provedorAtual : Option String) : Action Unit := do
  match ← getLastAttributionBefore controlPrincipalRef scheduleId stepId attemptId with
  | none => pure ()
  | some anterior =>
    if anterior.declaredProviderId = provedorAtual then pure ()
    else do
      let agora ← databaseNow
      createExecutionObservation controlPrincipalRef scheduleId stepId .declaredProviderSwitch
        anterior.attemptId attemptId anterior.declaredProviderId provedorAtual agora

variable [Runtime]

/-- The locked rows that an import needs, in the states that it admits. -/
def requireImportable (controlPrincipalRef : String) (scheduleId stepId attemptId : Uuid)
    (raw : RawReturn) : Action ScheduleStep := do
  let _ ← Prog.orRaise (← lockSchedule controlPrincipalRef scheduleId) (scheduleMissing scheduleId)
  let etapa ← Prog.orRaise (← lockStep controlPrincipalRef scheduleId stepId)
    (stepMissing scheduleId stepId)
  let tentativa ← Prog.orRaise
    ((← lockAttempt controlPrincipalRef scheduleId attemptId).filter fun a => a.stepId == stepId)
    ⟨.scopeViolation, "tentativa inexistente nesta etapa sob este principal",
      [("schedule_id", .str scheduleId.str), ("step_id", .str stepId.str),
        ("attempt_id", .str attemptId.str)]⟩
  Prog.require (tentativa.state == .open)
    ⟨.lifecycleViolation, s!"importação exige tentativa OPEN; estado atual {tentativa.state.value}",
      [("current_state", .str tentativa.state.value)]⟩
  Prog.require (etapa.state == .awaitingReturn)
    ⟨.lifecycleViolation,
      s!"importação exige etapa AWAITING_RETURN; estado atual {etapa.state.value}",
      [("current_state", .str etapa.state.value)]⟩
  Prog.require (raw.declaredOutputRef.all fun r => r.length ≤ maxDeclaredRefLength)
    ⟨.contractViolation, s!"declared_output_ref excede {maxDeclaredRefLength} caracteres", []⟩
  pure etapa

/-- `import_return`. The HTTP composition passes a control service; that of the MCP
does not. -/
def importReturn (comControle : Bool) (controlPrincipalRef : String)
    (scheduleId stepId attemptId : Uuid) (raw : RawReturn) (attribution : DeclaredAttribution) :
    Action ReturnOutcome := do
  let etapa ← requireImportable controlPrincipalRef scheduleId stepId attemptId raw
  let medido := validateOutput etapa.draft.expectedOutputContract raw.mediaType raw.content
  let status : HandoffResultStatus := if medido.accepted then .validated else .rejected
  let resultado ← createHandoffResult controlPrincipalRef scheduleId attemptId status
    etapa.draft.expectedOutputContract medido.mediaType medido.outputSha256 medido.outputBytes
    raw.declaredOutputRef medido.validationCodes
  let declaradoEm ← databaseNow
  let atribuicao ← createHandoffAttribution controlPrincipalRef scheduleId attemptId
    etapa.draft.role attribution.declaredProviderId attribution.declaredModelId
    attribution.declaredInstanceId declaradoEm
  let novoEstado : AttemptState := if medido.accepted then .closedOk else .closedRejected
  setAttemptState controlPrincipalRef scheduleId attemptId novoEstado
  observarTrocaDeProvedor controlPrincipalRef scheduleId stepId attemptId
    attribution.declaredProviderId
  let estadoEtapa ←
    if medido.accepted then do
      setStepState controlPrincipalRef scheduleId stepId .returned
      if comControle then
        let _ ← ControlService.completeIfAllReturned controlPrincipalRef scheduleId
        pure StepState.returned
      else pure StepState.returned
    else pure StepState.awaitingReturn
  pure ⟨attemptId, resultado.id, atribuicao.id, status, resultado.expectedOutputContract,
    resultado.outputMediaType, resultado.outputSha256, resultado.outputBytes,
    resultado.declaredOutputRef, resultado.validationCodes, novoEstado, estadoEtapa,
    atribuicao.role, atribuicao.declaredProviderId, atribuicao.declaredModelId,
    atribuicao.declaredInstanceId, atribuicao.declaredAt, atribuicao.selfDeclared,
    atribuicao.provenanceRecordRef⟩

end ReturnValidationService

end PiaOs
