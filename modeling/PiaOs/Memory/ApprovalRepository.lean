import PiaOs.Memory.ApprovalRecord
import PiaOs.Support.Enumerated

/-!
# The approval repository

`ApprovalRecordRepository`: the rows of an envelope, and the envelope rebuilt from
its rows.
-/

namespace PiaOs.Memory

open Support

namespace ApprovalRecordRepository

/-! ## Writing -/

/-- The parent row of an envelope. -/
def registroDe (envelope : DestructiveApprovalEnvelope) : ApprovalRecord :=
  let proposta := envelope.proposal
  let resolucao := proposta.governanceResolution
  { id := envelope.approvalId
    nonce := envelope.nonce
    state := .active
    consumedAt := none
    revokedAt := none
    operation := proposta.operation
    principalRef := envelope.identity.principalRef
    assuranceLevel := envelope.identity.assuranceLevel
    authenticatedAt := envelope.identity.authenticatedAt
    tenantId := envelope.context.tenantId
    workspaceId := envelope.context.workspaceId
    domainId := envelope.context.domainId
    purposeRef := envelope.context.purposeRef
    channel := envelope.provenance.channel
    voiceReview := envelope.provenance.voiceReview
    impactItemCount := proposta.impact.itemCount
    impactVolumeKind := proposta.impact.volumeKind
    impactBytesTotal := proposta.impact.bytesTotal
    governanceOutcome := resolucao.outcome
    governanceOperation := resolucao.operation
    governanceActorRef := resolucao.contextActorRef
    governancePurpose := resolucao.contextPurpose
    governanceSafetyBoundaryVersion := resolucao.safetyBoundaryVersion
    governanceSafetyRationale := resolucao.safetyRationale
    governancePreservedIntent := resolucao.preservedIntent
    governancePolicyKey := resolucao.policyKey
    governancePolicyVersion := resolucao.policyVersion
    governancePolicyId := resolucao.policyId
    governanceMatchedRuleId := resolucao.matchedRuleId
    governancePolicyRationale := resolucao.policyRationale
    materializedAt := proposta.materializedAt
    issuedAt := envelope.issuedAt
    confirmedAt := envelope.confirmedAt
    expiresAt := envelope.expiresAt }

/-- The row of a target at its position. -/
def alvoDe (approvalId : Uuid) (alvo : SafeTargetSnapshot) (posicao : Nat) :
    ApprovalRecordTarget where
  approvalRecordId := approvalId
  position := posicao
  targetClass := alvo.targetClass
  subjectCoid := alvo.subjectCoid
  controlWorkspaceId := alvo.controlScope.workspaceId
  controlTenantId := alvo.controlScope.tenantId
  controlPrincipalRef := alvo.controlScope.controlPrincipalRef
  custodyProvider := alvo.custodyNamespace.provider
  custodyNamespace := alvo.custodyNamespace.namespace
  originKind := alvo.origin.origin
  originPosition := alvo.origin.position
  legacyProtectionState := alvo.legacyProtectionState
  versionEtag := alvo.versionEtag

def alvosDe (envelope : DestructiveApprovalEnvelope) : List ApprovalRecordTarget :=
  enumerated (alvoDe envelope.approvalId) envelope.proposal.targets

/-- `_TEXTUAIS`: the kinds whose value is a text, with the collection of each. -/
def textuais (resolucao : GovernanceResolution) : GovernanceItemKind → List String
  | .admissibleAlternative => resolucao.admissibleAlternatives
  | .constraint => resolucao.constraints
  | .declaredPreservation => resolucao.declaredPreservations
  | .declaredLoss => resolucao.declaredLosses
  | .domainId | .blockedCapability => []

def itemTextual (approvalId : Uuid) (kind : GovernanceItemKind) (texto : String) (posicao : Nat) :
    ApprovalRecordGovernanceItem :=
  ⟨approvalId, kind, posicao, none, none, some texto⟩

/-- The rows of one kind. -/
def itensDoTipo (approvalId : Uuid) (resolucao : GovernanceResolution) :
    GovernanceItemKind → List ApprovalRecordGovernanceItem
  | .domainId => enumerated (fun dominio posicao =>
      ⟨approvalId, .domainId, posicao, some dominio, none, none⟩) resolucao.contextDomainIds
  | .blockedCapability => enumerated (fun capacidade posicao =>
      ⟨approvalId, .blockedCapability, posicao, none, some capacidade, none⟩)
      resolucao.blockedCapabilities
  | kind => enumerated (itemTextual approvalId kind) (textuais resolucao kind)

def kinds : List GovernanceItemKind :=
  [.domainId, .blockedCapability, .admissibleAlternative, .constraint, .declaredPreservation,
    .declaredLoss]

/-- `_itens_de_governanca`. -/
def itensDeGovernanca (approvalId : Uuid) (resolucao : GovernanceResolution) :
    List ApprovalRecordGovernanceItem :=
  kinds.flatMap (itensDoTipo approvalId resolucao)

/-- The tables with the rows of an envelope added, as the columns take them. -/
def withRows (t : ApprovalTables) (envelope : DestructiveApprovalEnvelope) : ApprovalTables where
  records := t.records ++ [(registroDe envelope).assigned]
  targets := t.targets ++ (alvosDe envelope).map ApprovalRecordTarget.assigned
  items := t.items ++ (itensDeGovernanca envelope.approvalId
    envelope.proposal.governanceResolution).map ApprovalRecordGovernanceItem.assigned

def appendApproved (store : ApprovalStore) (envelope : DestructiveApprovalEnvelope) :
    Except DatabaseError ApprovalStore :=
  (withRows store.toApprovalTables envelope).settle

/-! ## Reading -/

/-- The instants that the driver turns into a `datetime` of UTC: years 1 to 9999. -/
def readable (t : Instant) : Bool := -62135596800000000 ≤ t && t < 253402300800000000

/-- What a read raises. -/
inductive ReadError
  | driver
  | persistedRowInvalid (id : Uuid) (campo causa : String)
  deriving DecidableEq, Repr

def snapshotDe (alvo : ApprovalRecordTarget) : Except String SafeTargetSnapshot := do
  let escopo ← ControlScope.make alvo.controlWorkspaceId alvo.controlTenantId
    alvo.controlPrincipalRef
  let custodia ← CustodyNamespace.make alvo.custodyProvider alvo.custodyNamespace
  let origem ← ReferenceProvenance.make alvo.originKind alvo.originPosition
  SafeTargetSnapshot.make alvo.targetClass alvo.subjectCoid escopo custodia origem
    alvo.legacyProtectionState alvo.versionEtag

def reconstruirGovernanca (t : ApprovalTables) (registro : ApprovalRecord) :
    Except String GovernanceResolution :=
  let textos kind := (t.itemsOf registro.id kind).filterMap (·.valueText)
  GovernanceResolution.make
    { outcome := registro.governanceOutcome
      operation := registro.governanceOperation
      contextDomainIds := (t.itemsOf registro.id .domainId).filterMap (·.valueUuid)
      contextActorRef := registro.governanceActorRef
      contextPurpose := registro.governancePurpose
      safetyBoundaryVersion := registro.governanceSafetyBoundaryVersion
      safetyRationale := registro.governanceSafetyRationale
      blockedCapabilities := (t.itemsOf registro.id .blockedCapability).filterMap (·.valueEnum)
      preservedIntent := registro.governancePreservedIntent
      admissibleAlternatives := textos .admissibleAlternative
      constraints := textos .constraint
      declaredPreservations := textos .declaredPreservation
      declaredLosses := textos .declaredLoss
      policyKey := registro.governancePolicyKey
      policyVersion := registro.governancePolicyVersion
      policyId := registro.governancePolicyId
      matchedRuleId := registro.governanceMatchedRuleId
      policyRationale := registro.governancePolicyRationale }

/-- The envelope of a row, through the public constructors. -/
def reconstruir (t : ApprovalTables) (registro : ApprovalRecord) :
    Except String DestructiveApprovalEnvelope := do
  let resolucao ← reconstruirGovernanca t registro
  let snapshots ← (t.targetsOf registro.id).mapM snapshotDe
  let contexto ← ApprovalContext.make registro.tenantId registro.workspaceId registro.domainId
    registro.purposeRef
  let proveniencia ← SafeVoiceProvenance.make registro.channel registro.voiceReview
  let impacto ← PresentedImpact.make registro.impactItemCount registro.impactVolumeKind
    registro.impactBytesTotal
  let proposta ← DestructiveApprovalProposal.make
    { operation := registro.operation
      targets := snapshots
      impact := impacto
      governanceResolution := resolucao
      context := contexto
      provenance := proveniencia
      blockers := []
      materializedAt := registro.materializedAt }
  let identidade ← IdentityEvidence.make registro.principalRef registro.assuranceLevel
    registro.authenticatedAt
  DestructiveApprovalEnvelope.make
    { proposal := proposta
      approvalId := registro.id
      nonce := registro.nonce
      identity := identidade
      context := contexto
      provenance := proveniencia
      issuedAt := registro.issuedAt
      confirmedAt := registro.confirmedAt
      expiresAt := registro.expiresAt }

/-- The instants of a row. -/
def instantes (registro : ApprovalRecord) : List Instant :=
  [registro.authenticatedAt, registro.materializedAt, registro.issuedAt, registro.confirmedAt,
    registro.expiresAt] ++ registro.consumedAt.toList ++ registro.revokedAt.toList

/-- `get_materialized`, in a session of its own. -/
def getMaterialized (t : ApprovalTables) (approvalId : Uuid) :
    Except ReadError (Option DestructiveApprovalEnvelope) :=
  match t.get approvalId with
  | none => .ok none
  | some registro =>
    if (instantes registro).all readable then
      match reconstruir t registro with
      | .ok envelope => .ok (some envelope)
      | .error causa => .error (.persistedRowInvalid registro.id "envelope" causa)
    else .error .driver

end ApprovalRecordRepository

end PiaOs.Memory
