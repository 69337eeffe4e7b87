import PiaOs.Memory.Database

/-!
# Destructive execution

`DestructiveExecutionService.execute`: the batch is checked and resolved again, the
approval is consumed and the consumption committed, and only then is each target
attempted. Each attempt that was observed gets a receipt in a transaction of its own.
-/

namespace PiaOs.Memory

open Support

/-! ## The request -/

inductive PreConsumptionRefusalReason
  | batchCardinalityMismatch | referenceDoesNotMatchApprovedTarget | duplicateSubjectInBatch
  | targetResolutionRefused | freshSnapshotDiverged | governanceProvenanceIncomplete
  deriving DecidableEq, Repr

def PreConsumptionRefusalReason.value : PreConsumptionRefusalReason → String
  | .batchCardinalityMismatch => "batch_cardinality_mismatch"
  | .referenceDoesNotMatchApprovedTarget => "reference_does_not_match_approved_target"
  | .duplicateSubjectInBatch => "duplicate_subject_in_batch"
  | .targetResolutionRefused => "target_resolution_refused"
  | .freshSnapshotDiverged => "fresh_snapshot_diverged"
  | .governanceProvenanceIncomplete => "governance_provenance_incomplete"

/-- The fields of a snapshot that are compared. -/
inductive SnapshotDivergenceField
  | targetClass | subjectCoid | controlScope | custodyNamespace | origin | legacyProtectionState
  | versionEtag
  deriving DecidableEq, Repr

inductive AdapterContractViolation
  | approvalMismatch | subjectMismatch | targetClassMismatch
  deriving DecidableEq, Repr

/-- The exact approval and where to look for its targets again. -/
structure DestructiveExecutionRequest where
  envelope : DestructiveApprovalEnvelope
  references : List ErasureTargetReference
  accepted : refuse references.isEmpty
    ("execução destrutiva exige ao menos uma referência — um lote vazio não corresponde a nenhum " ++
      "lote aprovado") = none

namespace DestructiveExecutionRequest

def approvalId (request : DestructiveExecutionRequest) : Uuid := request.envelope.approvalId

def operation (request : DestructiveExecutionRequest) : DestructiveOperation :=
  request.envelope.proposal.operation

/-- The targets that were approved. -/
def aprovados (request : DestructiveExecutionRequest) : List SafeTargetSnapshot :=
  request.envelope.proposal.targets

end DestructiveExecutionRequest

/-! ## The outcomes -/

/-- `RAZOES_DE_LOTE`: the refusals of a whole batch. -/
def razoesDeLote : List PreConsumptionRefusalReason :=
  [.batchCardinalityMismatch, .governanceProvenanceIncomplete]

/-- The matrix of coherence of a refusal. -/
def PreConsumptionRefusal.violation (reason : PreConsumptionRefusalReason) (position : Option Nat)
    (divergedField : Option SnapshotDivergenceField)
    (resolutionRefusal : Option TargetResolutionRefusalReason) : Option String :=
  firstOf
    [refuse (reason = .freshSnapshotDiverged ∧ divergedField.isNone)
        ("fresh_snapshot_diverged exige diverged_field — uma divergência que não diz qual campo " ++
          "divergiu não é acionável"),
      refuse (reason ≠ .freshSnapshotDiverged ∧ divergedField.isSome) (reason.value ++
        " não admite diverged_field — só a comparação com o snapshot aprovado observa campo " ++
          "divergente"),
      refuse (reason = .targetResolutionRefused ∧ resolutionRefusal.isNone)
        ("target_resolution_refused exige resolution_refusal — a porta devolve motivo tipado e " ++
          "perdê-lo faria toda recusa parecer igual"),
      refuse (reason ≠ .targetResolutionRefused ∧ resolutionRefusal.isSome)
        (reason.value ++ " não admite resolution_refusal"),
      refuse (reason ∉ razoesDeLote ∧ position.isNone) (reason.value ++
        " exige position — a recusa observou um alvo específico do lote"),
      refuse (reason ∈ razoesDeLote ∧ position.isSome) (reason.value ++
        " não admite position — a divergência é do lote inteiro, não de um alvo")]

/-- The batch stopped before anything was written. -/
structure PreConsumptionRefusal where
  approvalId : Uuid
  operation : DestructiveOperation
  reason : PreConsumptionRefusalReason
  position : Option Nat := none
  divergedField : Option SnapshotDivergenceField := none
  resolutionRefusal : Option TargetResolutionRefusalReason := none
  accepted : PreConsumptionRefusal.violation reason position divergedField resolutionRefusal = none
  deriving DecidableEq

structure ApprovalConsumptionRefusal where
  approvalId : Uuid
  operation : DestructiveOperation
  reason : ApprovalUsageRefusalReason
  deriving DecidableEq

structure TargetNotAttempted where
  position : Nat
  subjectCoid : Uuid
  reason : MaterialAttemptRefusalReason
  observedAt : Instant
  deriving DecidableEq

def TargetAttempted.violation (targetClass : ErasureTargetClass)
    (attemptedAt completedAt : Instant) : Option String :=
  firstOf
    [refuse (!classesDeConteudo.contains targetClass) (targetClass.value ++
        " não é conteúdo apagável — não há tentativa material sobre metadado cognitivo"),
      refuse (completedAt < attemptedAt) "completed_at anterior a attempted_at"]

/-- An attempt that was observed, with its one receipt. -/
structure TargetAttempted where
  position : Nat
  subjectCoid : Uuid
  targetClass : ErasureTargetClass
  outcome : ErasureOutcome
  erasureRecordId : Uuid
  attemptedAt : Instant
  completedAt : Instant
  accepted : TargetAttempted.violation targetClass attemptedAt completedAt = none
  deriving DecidableEq

inductive TargetExecutionOutcome
  | notAttempted (target : TargetNotAttempted)
  | attempted (target : TargetAttempted)
  deriving DecidableEq

namespace TargetExecutionOutcome

def position : TargetExecutionOutcome → Nat
  | .notAttempted target => target.position
  | .attempted target => target.position

def subjectCoid : TargetExecutionOutcome → Uuid
  | .notAttempted target => target.subjectCoid
  | .attempted target => target.subjectCoid

def recibo : TargetExecutionOutcome → Option Uuid
  | .notAttempted _ => none
  | .attempted target => some target.erasureRecordId

end TargetExecutionOutcome

/-- The checks of a report, one target after another. -/
def DestructiveExecutionReport.targetsViolation : Nat → List Uuid → List Uuid →
    List TargetExecutionOutcome → Option String
  | _, _, _, [] => none
  | indice, sujeitos, recibos, alvo :: resto =>
    firstOf
      [refuse (alvo.position ≠ indice) ("targets[" ++ toString indice ++ "] declara position=" ++
          toString alvo.position ++ " — a posição é a do lote aprovado e não é reordenada"),
        refuse (sujeitos.contains alvo.subjectCoid) ("sujeito repetido no relatório: " ++
          alvo.subjectCoid.str ++ " — cada alvo do lote aprovado é distinto"),
        alvo.recibo.bind fun recibo => refuse (recibos.contains recibo) ("recibo repetido: " ++
          recibo.str ++ " — um recibo registra exatamente uma tentativa observada"),
        targetsViolation (indice + 1) (alvo.subjectCoid :: sujeitos)
          (alvo.recibo.toList ++ recibos) resto]

/-- The approval was consumed and the batch processed. -/
structure DestructiveExecutionReport where
  approvalId : Uuid
  operation : DestructiveOperation
  consumedAt : Instant
  targets : List TargetExecutionOutcome
  accepted : firstOf
    [refuse targets.isEmpty
        ("relatório de execução exige ao menos um alvo — consumir aprovação e não processar nada " ++
          "não é desfecho representável"),
      DestructiveExecutionReport.targetsViolation 0 [] [] targets] = none
  deriving DecidableEq

def DestructiveExecutionReport.make (approvalId : Uuid) (operation : DestructiveOperation)
    (consumedAt : Instant) (targets : List TargetExecutionOutcome) :
    Except String DestructiveExecutionReport :=
  checked _ fun h => ⟨approvalId, operation, consumedAt, targets, h⟩

inductive DestructiveExecutionResult
  | preConsumption (refusal : PreConsumptionRefusal)
  | consumptionRefusal (refusal : ApprovalConsumptionRefusal)
  | report (report : DestructiveExecutionReport)

/-- How much of the batch was fact before the ambiguity. -/
structure PartialExecutionEvidence where
  approvalId : Uuid
  failedPosition : Nat
  subjectCoid : Uuid
  attemptsObserved : Nat
  receiptsPersisted : Nat
  targetsNotAttempted : Nat
  accepted : receiptsPersisted ≤ attemptsObserved
  deriving DecidableEq

/-- What `execute` raises. -/
inductive ExecutionError
  | resolver
  | database (error : TransitionError)
  | transaction
  | value (texto : String)
  | persistedRowInvalid (approvalId : Uuid) (campo causa : String)
  | validation (texto : String)
  | persistence
  | unknownMaterialState (evidence : PartialExecutionEvidence)
  | adapterContractViolation (violation : AdapterContractViolation)
      (evidence : PartialExecutionEvidence)
  | receiptNotPersisted (outcome : ErasureOutcome) (evidence : PartialExecutionEvidence)

/-- How an execution ends. -/
abbrev Fim := Except ExecutionError DestructiveExecutionResult

/-! ## Before the consumption -/

/-- The four sources that a receipt cites. -/
structure GovernanceProvenance where
  policyId : Uuid
  policyKey : String
  policyVersion : Int
  matchedRuleId : String
  accepted : firstOf
    [refuse (blank policyKey) "policy_key não pode ser vazio ou apenas espaços",
      refuse (blank matchedRuleId) "matched_rule_id não pode ser vazio ou apenas espaços",
      refuse (policyVersion < 1) "policy_version deve ser >= 1"] = none
  deriving DecidableEq

def GovernanceProvenance.make (policyId : Uuid) (policyKey : String) (policyVersion : Int)
    (matchedRuleId : String) : Except String GovernanceProvenance :=
  checked _ fun h => ⟨policyId, policyKey, policyVersion, matchedRuleId, h⟩

namespace DestructiveExecutionService

/-- `_proveniencia`: the sources, when the resolution states all four. -/
def proveniencia (resolucao : GovernanceResolution) :
    Except String (Option GovernanceProvenance) :=
  match resolucao.policyId, resolucao.policyKey, resolucao.policyVersion,
      resolucao.matchedRuleId with
  | some policyId, some policyKey, some policyVersion, some matchedRuleId =>
    (GovernanceProvenance.make policyId policyKey policyVersion matchedRuleId).map some
  | _, _, _, _ => .ok none

/-- `_referencia_corresponde`. -/
def referenciaCorresponde (referencia : ErasureTargetReference) (aprovado : SafeTargetSnapshot) :
    Bool :=
  referencia.subjectCoid == aprovado.subjectCoid && referencia.origin == aprovado.origin &&
    referencia.controlScope == aprovado.controlScope &&
    match referencia.expectedNamespace with
    | none => true
    | some esperado => esperado == aprovado.custodyNamespace

/-- The references of a batch, in order: none repeats a subject, each describes the
target approved at its position. -/
def validarReferencias : Nat → List Uuid → List (ErasureTargetReference × SafeTargetSnapshot) →
    Option (PreConsumptionRefusalReason × Nat)
  | _, _, [] => none
  | posicao, vistos, (referencia, aprovado) :: resto =>
    if vistos.contains referencia.subjectCoid then some (.duplicateSubjectInBatch, posicao)
    else if !referenciaCorresponde referencia aprovado then
      some (.referenceDoesNotMatchApprovedTarget, posicao)
    else validarReferencias (posicao + 1) (referencia.subjectCoid :: vistos) resto

/-- A refusal of the whole batch. -/
def recusaDoLote (request : DestructiveExecutionRequest) (reason : PreConsumptionRefusalReason)
    (h : PreConsumptionRefusal.violation reason none none none = none) : Fim :=
  .ok (.preConsumption ⟨request.approvalId, request.operation, reason, none, none, none, h⟩)

/-- A refusal of one target. -/
def recusaDoAlvo (request : DestructiveExecutionRequest) (reason : PreConsumptionRefusalReason)
    (posicao : Nat) (divergedField : Option SnapshotDivergenceField)
    (resolutionRefusal : Option TargetResolutionRefusalReason) : Fim :=
  match checked (PreConsumptionRefusal.violation reason (some posicao) divergedField
      resolutionRefusal) fun h => (⟨request.approvalId, request.operation, reason, some posicao,
        divergedField, resolutionRefusal, h⟩ : PreConsumptionRefusal) with
  | .ok refusal => .ok (.preConsumption refusal)
  | .error texto => .error (.value texto)

/-- `_validar_lote`, with the sources that the receipts will cite. -/
def validarLote (request : DestructiveExecutionRequest) : Except Fim GovernanceProvenance :=
  if request.references.length ≠ request.aprovados.length then
    .error (recusaDoLote request .batchCardinalityMismatch rfl)
  else match validarReferencias 0 [] (request.references.zip request.aprovados) with
    | some (reason, posicao) => .error (recusaDoAlvo request reason posicao none none)
    | none =>
      match proveniencia request.envelope.proposal.governanceResolution with
      | .error texto => .error (.error (.value texto))
      | .ok none => .error (recusaDoLote request .governanceProvenanceIncomplete rfl)
      | .ok (some proveniencia) => .ok proveniencia

/-- `CAMPOS_DO_BINDING`: the seven fields, in order, with whether two snapshots
differ in it. -/
def camposDoBinding (fresco aprovado : SafeTargetSnapshot) :
    List (SnapshotDivergenceField × Bool) :=
  [(.targetClass, fresco.targetClass != aprovado.targetClass),
    (.subjectCoid, fresco.subjectCoid != aprovado.subjectCoid),
    (.controlScope, fresco.controlScope != aprovado.controlScope),
    (.custodyNamespace, fresco.custodyNamespace != aprovado.custodyNamespace),
    (.origin, fresco.origin != aprovado.origin),
    (.legacyProtectionState, fresco.legacyProtectionState != aprovado.legacyProtectionState),
    (.versionEtag, fresco.versionEtag != aprovado.versionEtag)]

/-- `_comparar`: the first field in which two snapshots differ. -/
def comparar (fresco aprovado : SafeTargetSnapshot) : Option SnapshotDivergenceField :=
  ((camposDoBinding fresco aprovado).find? Prod.snd).map Prod.fst

/-- Phase A: every reference is resolved again and compared with its approved target. -/
def resolverLote (request : DestructiveExecutionRequest) :
    Nat → List (ErasureTargetReference × SafeTargetSnapshot) →
      Proc Chamada Resposta (Except Fim (List ErasureTargetDescriptor))
  | _, [] => .done (.ok [])
  | posicao, (referencia, aprovado) :: resto =>
    .call (.resolver referencia) fun (resultado : Option TargetResolutionResult) =>
      match resultado with
      | none => .done (.error (.error .resolver))
      | some (.refusal motivo) =>
        .done (.error (recusaDoAlvo request .targetResolutionRefused posicao none (some motivo)))
      | some (.descriptor descritor) =>
        match comparar (.fromDescriptor descritor) aprovado with
        | some campo =>
          .done (.error (recusaDoAlvo request .freshSnapshotDiverged posicao (some campo) none))
        | none => (resolverLote request (posicao + 1) resto).bind fun frescos =>
          .done (frescos.map (descritor :: ·))

/-! ## The consumption -/

/-- Phase B: the approval is consumed in a transaction of its own, which is committed
before anything else. -/
def consumirAprovacao (request : DestructiveExecutionRequest) :
    Proc Chamada Resposta (Except Fim Instant) :=
  .call (.consumir request.envelope) fun (registro : Except TransitionError ApprovalRecord) =>
    match registro with
    | .error (.notUsable _ reason) => .call .fechar fun _ =>
      .done (.error (.ok (.consumptionRefusal ⟨request.approvalId, request.operation, reason⟩)))
    | .error erro => .call .fechar fun _ => .done (.error (.error (.database erro)))
    | .ok registro => .call .commit fun (feito : Except DatabaseError Unit) =>
      .call .fechar fun _ => .done <| match feito, registro.consumedAt with
        | .error _, _ => .error (.error .transaction)
        | .ok (), none => .error (.error (.persistedRowInvalid request.approvalId "consumed_at"
            "transição para CONSUMED sem instante de consumo"))
        | .ok (), some consumidoEm => .ok consumidoEm

/-- The proof of the consumption that the effect is given. -/
def autorizacao (request : DestructiveExecutionRequest) (consumidoEm : Instant) :
    ConsumedApprovalEvidence where
  approvalId := request.approvalId
  operation := request.operation
  tenantId := request.envelope.context.tenantId
  workspaceId := request.envelope.context.workspaceId
  principalRef := request.envelope.identity.principalRef
  consumedAt := consumidoEm
  accepted := request.envelope.identity.accepted

/-! ## The effects -/

/-- `_verificar_correspondencia`: whether the answer describes the request. -/
def verificarCorrespondencia (request : DestructiveExecutionRequest)
    (descritor : ErasureTargetDescriptor) (observado : ErasureEffectResult) :
    Option AdapterContractViolation :=
  if observado.approvalId ≠ request.approvalId then some .approvalMismatch
  else if observado.subjectCoid ≠ descritor.subjectCoid then some .subjectMismatch
  else match observado with
    | .notStarted _ => none
    | .observed tentativa =>
      if tentativa.targetClass ≠ descritor.targetClass then some .targetClassMismatch else none

def recibosDosAlvos (desfechos : List TargetExecutionOutcome) : List Uuid :=
  desfechos.filterMap TargetExecutionOutcome.recibo

/-- `_evidencia_parcial`. -/
def evidenciaParcial (approvalId : Uuid) (posicao : Nat) (descritor : ErasureTargetDescriptor)
    (desfechos : List TargetExecutionOutcome) : PartialExecutionEvidence where
  approvalId := approvalId
  failedPosition := posicao
  subjectCoid := descritor.subjectCoid
  attemptsObserved := (recibosDosAlvos desfechos).length
  receiptsPersisted := (recibosDosAlvos desfechos).length
  targetsNotAttempted := desfechos.length - (recibosDosAlvos desfechos).length
  accepted := Nat.le_refl _

/-- `referencia_de_resolucao_de_governanca`. -/
def referenciaDeResolucaoDeGovernanca (approvalId : Uuid) : String :=
  "approval:" ++ approvalId.str ++ ":governance-resolution"

/-- What the receipt of an observed attempt states. -/
def camposDoRecibo (operacao : DestructiveOperation) (proveniencia : GovernanceProvenance)
    (observado : ObservedAttemptResult) : ReceiptFields where
  subjectIdentifier := observado.subjectCoid.str
  targetClass := observado.targetClass
  scopeToken := operacao.value
  outcome := observado.outcome
  governancePolicyId := proveniencia.policyId
  governancePolicyKey := proveniencia.policyKey
  governancePolicyVersion := proveniencia.policyVersion
  governanceRuleId := proveniencia.matchedRuleId
  governanceResolutionRef := referenciaDeResolucaoDeGovernanca observado.approvalId
  approvalRef := observado.approvalId.str
  executorRef := observado.executorRef
  attemptedAt := observado.attemptedAt
  completedAt := observado.completedAt
  failureCode := observado.failureCode

/-- What goes wrong with a receipt. -/
inductive FalhaDeRecibo
  | validation (texto : String)
  | persistence
  | transaction

/-- `_registrar_recibo`: one receipt, in a transaction of its own. -/
def registrarRecibo (operacao : DestructiveOperation) (proveniencia : GovernanceProvenance)
    (observado : ObservedAttemptResult) : Proc Chamada Resposta (Except FalhaDeRecibo Uuid) :=
  match ErasureRecordAppend.make (camposDoRecibo operacao proveniencia observado) with
  | .error texto => .done (.error (.validation texto))
  | .ok entrada => .call (.registrar entrada) fun (recibo : Except DatabaseError Uuid) =>
    match recibo with
    | .error _ => .call .fechar fun _ => .done (.error .persistence)
    | .ok id => .call .commit fun (feito : Except DatabaseError Unit) =>
      .call .fechar fun _ => .done (match feito with
        | .error _ => .error .transaction
        | .ok () => .ok id)

/-- An observed attempt passes the checks of its outcome. -/
theorem attempted_accepted (observado : ObservedAttemptResult) :
    TargetAttempted.violation observado.targetClass observado.attemptedAt observado.completedAt =
      none := by
  have h := observado.accepted
  simp only [ObservedAttemptResult.violation, firstOf_eq_none, List.mem_cons, forall_eq_or_imp,
    refuse_eq_none] at h
  have hclass : observado.targetClass ∈ classesDeConteudo := by simpa using h.1
  simp [TargetAttempted.violation, hclass, h.2.2.1]

def desfechoObservado (posicao : Nat) (observado : ObservedAttemptResult) (recibo : Uuid) :
    TargetExecutionOutcome :=
  .attempted ⟨posicao, observado.subjectCoid, observado.targetClass, observado.outcome, recibo,
    observado.attemptedAt, observado.completedAt, attempted_accepted observado⟩

def desfechoNaoIniciado (posicao : Nat) (resultado : MaterialAttemptNotStarted) :
    TargetExecutionOutcome :=
  .notAttempted ⟨posicao, resultado.subjectCoid, resultado.reason, resultado.observedAt⟩

/-- Phase C: each target is attempted once, in order. -/
def tentarAlvos (request : DestructiveExecutionRequest) (autorizacao : ConsumedApprovalEvidence)
    (proveniencia : GovernanceProvenance) :
    List ErasureTargetDescriptor → List TargetExecutionOutcome →
      Proc Chamada Resposta (Except ExecutionError (List TargetExecutionOutcome))
  | [], desfechos => .done (.ok desfechos)
  | descritor :: resto, desfechos =>
    let posicao := desfechos.length
    let evidencia := evidenciaParcial request.approvalId posicao descritor desfechos
    match ErasureEffectRequest.make descritor autorizacao with
    | .error texto => .done (.error (.value texto))
    | .ok pedido => .call (.tentar pedido) fun (resultado : Option ErasureEffectResult) =>
      match resultado with
      | none => .done (.error (.unknownMaterialState evidencia))
      | some observado =>
        match verificarCorrespondencia request descritor observado with
        | some violacao => .done (.error (.adapterContractViolation violacao evidencia))
        | none =>
          match observado with
          | .notStarted resultado => tentarAlvos request autorizacao proveniencia resto
              (desfechos ++ [desfechoNaoIniciado posicao resultado])
          | .observed observado =>
            (registrarRecibo request.operation proveniencia observado).bind fun
              | .error (.validation texto) => .done (.error (.validation texto))
              | .error .persistence => .done (.error .persistence)
              | .error .transaction =>
                .done (.error (.receiptNotPersisted observado.outcome evidencia))
              | .ok recibo => tentarAlvos request autorizacao proveniencia resto
                  (desfechos ++ [desfechoObservado posicao observado recibo])

/-- The report of a batch that was processed to its end. -/
def relatorio (request : DestructiveExecutionRequest) (consumidoEm : Instant)
    (desfechos : List TargetExecutionOutcome) : Fim :=
  match DestructiveExecutionReport.make request.approvalId request.operation consumidoEm
      desfechos with
  | .ok report => .ok (.report report)
  | .error texto => .error (.value texto)

/-- Phase A, then B, then C; stops at the first impediment. -/
def execute (request : DestructiveExecutionRequest) : Proc Chamada Resposta Fim :=
  match validarLote request with
  | .error fim => .done fim
  | .ok proveniencia =>
    (resolverLote request 0 (request.references.zip request.aprovados)).bind fun
      | .error fim => .done fim
      | .ok frescos => (consumirAprovacao request).bind fun
        | .error fim => .done fim
        | .ok consumidoEm =>
          (tentarAlvos request (autorizacao request consumidoEm) proveniencia frescos []).bind fun
            | .error erro => .done (.error erro)
            | .ok desfechos => .done (relatorio request consumidoEm desfechos)

end DestructiveExecutionService

end PiaOs.Memory
