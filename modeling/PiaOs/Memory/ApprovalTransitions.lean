import PiaOs.Memory.ApprovalRepository

/-!
# Consumption and revocation

The two transitions of an approval. Each is a single conditional `UPDATE`, whose
condition names every column of the binding and, by subqueries, every child row;
the clock is the one of the database at that moment.
-/

namespace PiaOs.Memory

open Support

inductive ApprovalUsageRefusalReason
  | notFound | alreadyConsumed | revoked | expired | bindingMismatch
  deriving DecidableEq, Repr

/-- What a transition raises. -/
inductive TransitionError
  | database (error : DatabaseError)
  | driver
  | notUsable (approvalId : Uuid) (reason : ApprovalUsageRefusalReason)
  deriving DecidableEq, Repr

/-- What `clock_timestamp()` gives: when a row is judged, when it is written and
when a refusal is explained. -/
structure Relogio where
  julgado : Instant
  escrito : Instant
  diagnosticado : Instant
  deriving DecidableEq, Repr

namespace ApprovalRecordRepository

/-! ## The condition -/

/-- `_condicoes_de_binding`. -/
def condicoesDeBinding (expected : DestructiveApprovalEnvelope) (r : ApprovalRecord) : List Bool :=
  let proposta := expected.proposal
  let resolucao := proposta.governanceResolution
  [ r.id == expected.approvalId,
    r.nonce == expected.nonce,
    r.state == .active,
    r.operation == proposta.operation,
    r.purposeRef == expected.context.purposeRef,
    r.principalRef == expected.identity.principalRef,
    r.assuranceLevel == expected.identity.assuranceLevel,
    r.authenticatedAt == expected.identity.authenticatedAt,
    r.tenantId == expected.context.tenantId,
    r.workspaceId == expected.context.workspaceId,
    r.domainId == expected.context.domainId,
    r.channel == expected.provenance.channel,
    r.voiceReview == expected.provenance.voiceReview,
    r.impactItemCount == proposta.impact.itemCount,
    r.impactVolumeKind == proposta.impact.volumeKind,
    r.impactBytesTotal == proposta.impact.bytesTotal,
    r.governanceOutcome == resolucao.outcome,
    r.governanceOperation == resolucao.operation,
    r.governanceActorRef == resolucao.contextActorRef,
    r.governancePurpose == resolucao.contextPurpose,
    r.governanceSafetyBoundaryVersion == resolucao.safetyBoundaryVersion,
    r.governanceSafetyRationale == resolucao.safetyRationale,
    r.governancePreservedIntent == resolucao.preservedIntent,
    r.governancePolicyKey == resolucao.policyKey,
    r.governancePolicyVersion == resolucao.policyVersion,
    r.governancePolicyId == resolucao.policyId,
    r.governanceMatchedRuleId == resolucao.matchedRuleId,
    r.governancePolicyRationale == resolucao.policyRationale,
    r.materializedAt == proposta.materializedAt,
    r.issuedAt == expected.issuedAt,
    r.confirmedAt == expected.confirmedAt,
    r.expiresAt == expected.expiresAt ]

/-- The row of a target stands at its position. -/
def existeAlvo (t : ApprovalTables) (r : ApprovalRecord) (alvo : SafeTargetSnapshot)
    (posicao : Nat) : Bool :=
  t.targets.any fun row =>
    row.approvalRecordId == r.id && row.position == posicao &&
      row.targetClass == alvo.targetClass && row.subjectCoid == alvo.subjectCoid &&
      row.controlWorkspaceId == alvo.controlScope.workspaceId &&
      row.controlTenantId == alvo.controlScope.tenantId &&
      row.controlPrincipalRef == alvo.controlScope.controlPrincipalRef &&
      row.custodyProvider == alvo.custodyNamespace.provider &&
      row.custodyNamespace == alvo.custodyNamespace.namespace &&
      row.originKind == alvo.origin.origin && row.originPosition == alvo.origin.position &&
      row.legacyProtectionState == alvo.legacyProtectionState && row.versionEtag == alvo.versionEtag

/-- A row of the kind stands at its position and holds the value. -/
def existeItem (t : ApprovalTables) (r : ApprovalRecord) (kind : GovernanceItemKind)
    (valor : ApprovalRecordGovernanceItem → Bool) (posicao : Nat) : Bool :=
  t.items.any fun row =>
    row.approvalRecordId == r.id && row.kind == kind && row.position == posicao && valor row

/-- What the rows of a kind have to hold, in order. -/
def esperados (resolucao : GovernanceResolution) :
    GovernanceItemKind → List (ApprovalRecordGovernanceItem → Bool)
  | .domainId => resolucao.contextDomainIds.map fun dominio row => row.valueUuid == some dominio
  | .blockedCapability =>
    resolucao.blockedCapabilities.map fun capacidade row => row.valueEnum == some capacidade
  | kind => (textuais resolucao kind).map fun texto row => row.valueText == some texto

/-- `_condicoes_das_filhas`: each expected row is there, and there are no others. -/
def condicoesDasFilhas (t : ApprovalTables) (expected : DestructiveApprovalEnvelope)
    (r : ApprovalRecord) : List Bool :=
  let alvos := expected.proposal.targets
  let resolucao := expected.proposal.governanceResolution
  enumerated (existeAlvo t r) alvos ++
    [(t.targets.filter (·.approvalRecordId == r.id)).length == alvos.length] ++
    kinds.flatMap (fun kind => enumerated (existeItem t r kind) (esperados resolucao kind)) ++
    kinds.map fun kind =>
      (t.items.filter fun row => row.approvalRecordId == r.id && row.kind == kind).length ==
        (esperados resolucao kind).length

/-- The row satisfies the `WHERE` of a transition. -/
def escolhido (t : ApprovalTables) (expected : DestructiveApprovalEnvelope)
    (exigirNaoVencida : Bool) (agora : Instant) (r : ApprovalRecord) : Bool :=
  (condicoesDeBinding expected r ++ condicoesDasFilhas t expected r ++
    if exigirNaoVencida then [decide (agora < r.expiresAt)] else []).all id

/-! ## The command -/

/-- The driver and the casts of the statement take every parameter. -/
def parametrosAceitos (expected : DestructiveApprovalEnvelope) : Bool :=
  let texto (s : String) := !s.toList.contains (Char.ofNat 0)
  let registro := registroDe expected
  let itens := itensDeGovernanca expected.approvalId expected.proposal.governanceResolution
  registro.texts.all texto && registro.integers.all fitsInteger &&
    (alvosDe expected).all (fun r => r.texts.all texto && r.integers.all fitsInteger) &&
    itens.all fun r => r.valueText.all texto && fitsInteger r.position

/-- The values that a transition writes. -/
def transitado (destino : ApprovalLifecycleState) (agora : Instant) (r : ApprovalRecord) :
    ApprovalRecord :=
  if destino = .consumed then { r with state := destino, consumedAt := some agora }
  else { r with state := destino, revokedAt := some agora }

/-- The tables once the chosen rows have been written. -/
def atualizado (t : ApprovalTables) (escolhe : ApprovalRecord → Bool)
    (destino : ApprovalLifecycleState) (agora : Instant) : ApprovalTables :=
  { t with records := t.records.map fun r => if escolhe r then transitado destino agora r else r }

/-- `_diagnosticar`: why no row was chosen. -/
def diagnosticar (t : ApprovalTables) (approvalId : Uuid) (exigirNaoVencida : Bool)
    (agora : Instant) : TransitionError :=
  match t.get approvalId with
  | none => .notUsable approvalId .notFound
  | some registro =>
    if !(instantes registro).all readable then .driver
    else .notUsable approvalId <|
      match registro.state with
      | .consumed => .alreadyConsumed
      | .revoked => .revoked
      | .active =>
        if exigirNaoVencida && registro.expiresAt ≤ agora then .expired else .bindingMismatch

/-- `_transicionar`, with the tables as the transaction sees them afterwards. The row
is read back before it is returned. -/
def transicionar (store : ApprovalStore) (expected : DestructiveApprovalEnvelope)
    (destino : ApprovalLifecycleState) (exigirNaoVencida : Bool) (relogio : Relogio) :
    Except TransitionError ApprovalRecord × ApprovalStore :=
  let t := store.toApprovalTables
  let escolhe := escolhido t expected exigirNaoVencida relogio.julgado
  if !parametrosAceitos expected then (.error (.database .data), store)
  else if !t.records.any escolhe then
    (.error (diagnosticar t expected.approvalId exigirNaoVencida relogio.diagnosticado), store)
  else match (atualizado t escolhe destino relogio.escrito).settle with
    | .error erro => (.error (.database erro), store)
    | .ok store' =>
      match store'.get expected.approvalId with
      | none => (.error (.notUsable expected.approvalId .notFound), store')
      | some registro =>
        if (instantes registro).all readable then (.ok registro, store') else (.error .driver, store')

def consumeOnce (store : ApprovalStore) (expected : DestructiveApprovalEnvelope)
    (relogio : Relogio) : Except TransitionError ApprovalRecord × ApprovalStore :=
  transicionar store expected .consumed true relogio

/-- An expired approval can still be revoked. -/
def revokeOnce (store : ApprovalStore) (expected : DestructiveApprovalEnvelope)
    (relogio : Relogio) : Except TransitionError ApprovalRecord × ApprovalStore :=
  transicionar store expected .revoked false relogio

end ApprovalRecordRepository

end PiaOs.Memory
