import PiaOs.Memory.Approval

/-!
# Effects and receipts

What is asked of an effect adapter, what it may answer, and the receipt of an
observed attempt. The receipt checks its fields again, under limits of its own.
-/

namespace PiaOs.Memory

open Support

inductive ErasureOutcome
  | succeeded | failed | partially
  deriving DecidableEq, Repr

def ErasureOutcome.value : ErasureOutcome → String
  | .succeeded => "succeeded"
  | .failed => "failed"
  | .partially => "partial"

inductive MaterialAttemptRefusalReason
  | adapterUnavailable | operationNotSupported | capabilityRefusedBeforeAttempt
  | providerPreconditionRefused
  deriving DecidableEq, Repr

/-! ## The request -/

/-- The record that an approval was consumed, as the adapter receives it. -/
structure ConsumedApprovalEvidence where
  approvalId : Uuid
  operation : DestructiveOperation
  tenantId : Uuid
  workspaceId : Uuid
  principalRef : String
  consumedAt : Instant
  accepted : validarTextoOpaco "principal_ref" principalRef = none

/-- The checks of the request; the class and the capability were checked by the
descriptor. -/
def ErasureEffectRequest.violation (descriptor : ErasureTargetDescriptor)
    (authorization : ConsumedApprovalEvidence) : Option String :=
  let escopo := descriptor.controlScope
  firstOf
    [refuse (!classesDeConteudo.contains descriptor.targetClass) (descriptor.targetClass.value ++
        " não é conteúdo apagável — metadado cognitivo e referência não resolvida não chegam à " ++
          "fronteira de efeito"),
      refuse (!descriptor.capability.verified)
        ("capacidade não verificada — a fronteira de efeito exige capacidade que alguém observou, e " ++
          "não a presença do campo"),
      refuse (escopo.tenantId ≠ authorization.tenantId)
        "tenant do descritor diverge do tenant da aprovação consumida",
      refuse (escopo.workspaceId ≠ authorization.workspaceId)
        "workspace do descritor diverge do workspace da aprovação consumida",
      refuse (escopo.controlPrincipalRef ≠ authorization.principalRef)
        ("principal de controle do alvo diverge do principal da aprovação consumida — sem modelo de " ++
          "delegação, os dois têm de coincidir")]

/-- A fresh target and the proof of its authorisation. -/
structure ErasureEffectRequest where
  descriptor : ErasureTargetDescriptor
  authorization : ConsumedApprovalEvidence
  accepted : ErasureEffectRequest.violation descriptor authorization = none

def ErasureEffectRequest.make (descriptor : ErasureTargetDescriptor)
    (authorization : ConsumedApprovalEvidence) : Except String ErasureEffectRequest :=
  checked _ fun h => ⟨descriptor, authorization, h⟩

/-! ## The answer -/

/-- No material attempt was made. -/
structure MaterialAttemptNotStarted where
  approvalId : Uuid
  subjectCoid : Uuid
  reason : MaterialAttemptRefusalReason
  observedAt : Instant
  deriving DecidableEq

def ObservedAttemptResult.violation (targetClass : ErasureTargetClass) (outcome : ErasureOutcome)
    (executorRef : String) (attemptedAt completedAt : Instant) (failureCode : Option String) :
    Option String :=
  firstOf
    [refuse (!classesDeConteudo.contains targetClass) (targetClass.value ++
        " não é conteúdo apagável — não há tentativa material sobre metadado cognitivo"),
      validarTextoOpaco "executor_ref" executorRef,
      refuse (completedAt < attemptedAt)
        "completed_at anterior a attempted_at — uma tentativa não termina antes de começar",
      match outcome, failureCode with
      | .succeeded, some _ => some
        "succeeded não carrega failure_code — sucesso com código de falha é estado impossível"
      | .succeeded, none => none
      | _, none => some (outcome.value ++
        " exige failure_code — uma falha que não diz o que falhou é irrecorrível")
      | _, some code => validarTextoOpaco "failure_code" code]

/-- What an adapter saw of an attempt that was made. -/
structure ObservedAttemptResult where
  approvalId : Uuid
  subjectCoid : Uuid
  targetClass : ErasureTargetClass
  outcome : ErasureOutcome
  executorRef : String
  attemptedAt : Instant
  completedAt : Instant
  failureCode : Option String
  accepted : ObservedAttemptResult.violation targetClass outcome executorRef attemptedAt completedAt
    failureCode = none
  deriving DecidableEq

inductive ErasureEffectResult
  | notStarted (result : MaterialAttemptNotStarted)
  | observed (result : ObservedAttemptResult)
  deriving DecidableEq

def ErasureEffectResult.approvalId : ErasureEffectResult → Uuid
  | .notStarted result => result.approvalId
  | .observed result => result.approvalId

def ErasureEffectResult.subjectCoid : ErasureEffectResult → Uuid
  | .notStarted result => result.subjectCoid
  | .observed result => result.subjectCoid

/-! ## The receipt -/

def maxIdentifierLength : Nat := 256

def maxFailureCodeLength : Nat := 64

/-- `_validar_opaco`: stated, without control characters, and short. -/
def validarOpaco (valor campo : String) (tamanho : Nat) : Option String :=
  firstOf
    [refuse (blank valor) (campo ++ " não pode ser vazio ou apenas espaços"),
      refuse (valor.toList.any fun c => c.toNat ≤ 0x1f || c.toNat = 0x7f)
        (campo ++ " não pode conter caracteres de controle"),
      refuse (tamanho < valor.length) (campo ++ " excede o tamanho máximo de " ++
        toString tamanho ++ " caracteres")]

/-- What a receipt is built from. No retention policy is cited. -/
structure ReceiptFields where
  subjectIdentifier : String
  targetClass : ErasureTargetClass
  scopeToken : String
  outcome : ErasureOutcome
  governancePolicyId : Uuid
  governancePolicyKey : String
  governancePolicyVersion : Int
  governanceRuleId : String
  governanceResolutionRef : String
  approvalRef : String
  executorRef : String
  attemptedAt : Instant
  completedAt : Instant
  failureCode : Option String
  deriving DecidableEq

/-- The checks of `ErasureRecordAppend`. -/
def ReceiptFields.violation (f : ReceiptFields) : Option String :=
  firstOf
    [validarOpaco f.subjectIdentifier "subject_identifier" maxIdentifierLength,
      validarOpaco f.scopeToken "scope_token" maxIdentifierLength,
      validarOpaco f.governancePolicyKey "governance_policy_key" maxIdentifierLength,
      refuse (f.governancePolicyVersion < 1) "governance_policy_version deve ser >= 1",
      validarOpaco f.governanceRuleId "governance_rule_id" maxIdentifierLength,
      validarOpaco f.governanceResolutionRef "governance_resolution_ref" maxIdentifierLength,
      validarOpaco f.approvalRef "approval_ref" maxIdentifierLength,
      validarOpaco f.executorRef "executor_ref" maxIdentifierLength,
      f.failureCode.bind fun code => validarOpaco code "failure_code" maxFailureCodeLength,
      refuse (f.completedAt < f.attemptedAt) "completed_at não pode ser anterior a attempted_at",
      refuse (f.outcome = .succeeded ∧ f.failureCode.isSome)
        "failure_code é proibido quando outcome é SUCCEEDED",
      refuse (f.outcome ≠ .succeeded ∧ f.failureCode.isNone)
        ("failure_code é obrigatório quando outcome é " ++ f.outcome.value)]

/-- `ErasureRecordAppend`: an attempt that was seen, ready to be recorded. -/
structure ErasureRecordAppend extends ReceiptFields where
  accepted : toReceiptFields.violation = none
  deriving DecidableEq

def ErasureRecordAppend.make (f : ReceiptFields) : Except String ErasureRecordAppend :=
  checked _ fun h => ⟨f, h⟩

/-- The row of a receipt. -/
structure ErasureRecord extends ReceiptFields where
  id : Uuid
  deriving DecidableEq

end PiaOs.Memory
