import PiaOs.Memory.Resolution
import PiaOs.Memory.Targets

/-!
# Destructive proposals and approvals

A proposal is what the user was shown; an envelope is the approval of exactly
that proposal. Both exist only if every binding between their parts holds.
-/

namespace PiaOs.Memory

open Support

inductive DestructiveOperation
  | moveToTrash | permanentErasure
  deriving DecidableEq, Repr

def DestructiveOperation.value : DestructiveOperation → String
  | .moveToTrash => "move_to_trash"
  | .permanentErasure => "permanent_erasure"

/-- The question that the governance has to have answered. -/
def operacaoDeGovernanca : DestructiveOperation → CognitiveOperation
  | .moveToTrash => .retentionDisposition
  | .permanentErasure => .legalErasure

inductive AssuranceLevel
  | unauthenticated | authenticated | stepUpVerified
  deriving DecidableEq, Repr

def AssuranceLevel.value : AssuranceLevel → String
  | .unauthenticated => "unauthenticated"
  | .authenticated => "authenticated"
  | .stepUpVerified => "step_up_verified"

def AssuranceLevel.satisfies : AssuranceLevel → DestructiveOperation → Bool
  | .unauthenticated, _ => false
  | level, .permanentErasure => level = .stepUpVerified
  | _, .moveToTrash => true

inductive InputChannel
  | text | voice
  deriving DecidableEq, Repr

inductive VoiceReviewState
  | notApplicable | notReviewed | lowConfidence | ambiguous | reviewedAndConfirmed
  deriving DecidableEq, Repr

def VoiceReviewState.value : VoiceReviewState → String
  | .notApplicable => "not_applicable"
  | .notReviewed => "not_reviewed"
  | .lowConfidence => "low_confidence"
  | .ambiguous => "ambiguous"
  | .reviewedAndConfirmed => "reviewed_and_confirmed"

def VoiceReviewState.permiteProposta (review : VoiceReviewState) : InputChannel → Bool
  | .text => review = .notApplicable
  | .voice => review = .reviewedAndConfirmed

inductive ApprovalBlockerKind
  | legalHold | retentionPolicyConflict | causalHistoryDependency | externalProviderUnavailable
  | capabilityNotVerified | controlScopeConflict
  deriving DecidableEq, Repr

def ApprovalBlockerKind.value : ApprovalBlockerKind → String
  | .legalHold => "legal_hold"
  | .retentionPolicyConflict => "retention_policy_conflict"
  | .causalHistoryDependency => "causal_history_dependency"
  | .externalProviderUnavailable => "external_provider_unavailable"
  | .capabilityNotVerified => "capability_not_verified"
  | .controlScopeConflict => "control_scope_conflict"

inductive ImpactVolumeKind
  | known | unknown
  deriving DecidableEq, Repr

def PresentedImpact.violation (itemCount : Int) (volumeKind : ImpactVolumeKind)
    (bytesTotal : Option Int) : Option String :=
  firstOf
    [refuse (itemCount < 0) "item_count deve ser >= 0",
      match volumeKind, bytesTotal with
      | .known, none =>
        some "volume KNOWN exige bytes_total — um volume conhecido sem número não é conhecido"
      | .known, some bytes => refuse (bytes < 0) "bytes_total deve ser >= 0"
      | .unknown, some _ =>
        some ("volume UNKNOWN não pode ter bytes_total — fabricar número para o desconhecido é a " ++
          "mesma coisa que mentir o impacto")
      | .unknown, none => none]

/-- The impact that was shown. -/
structure PresentedImpact where
  itemCount : Int
  volumeKind : ImpactVolumeKind
  bytesTotal : Option Int
  accepted : PresentedImpact.violation itemCount volumeKind bytesTotal = none
  deriving DecidableEq

def PresentedImpact.make (itemCount : Int) (volumeKind : ImpactVolumeKind)
    (bytesTotal : Option Int) : Except String PresentedImpact :=
  checked _ fun h => ⟨itemCount, volumeKind, bytesTotal, h⟩

/-- What an external boundary says that it verified. -/
structure IdentityEvidence where
  principalRef : String
  assuranceLevel : AssuranceLevel
  authenticatedAt : Instant
  accepted : validarTextoOpaco "principal_ref" principalRef = none
  deriving DecidableEq

def IdentityEvidence.make (principalRef : String) (assuranceLevel : AssuranceLevel)
    (authenticatedAt : Instant) : Except String IdentityEvidence :=
  checked _ fun h => ⟨principalRef, assuranceLevel, authenticatedAt, h⟩

/-- The scope of the binding. -/
structure ApprovalContext where
  tenantId : Uuid
  workspaceId : Uuid
  domainId : Uuid
  purposeRef : String
  accepted : validarTextoOpaco "purpose_ref" purposeRef = none
  deriving DecidableEq

def ApprovalContext.make (tenantId workspaceId domainId : Uuid) (purposeRef : String) :
    Except String ApprovalContext :=
  checked _ fun h => ⟨tenantId, workspaceId, domainId, purposeRef, h⟩

def SafeVoiceProvenance.violation (channel : InputChannel) (voiceReview : VoiceReviewState) :
    Option String :=
  firstOf
    [refuse (channel = .text ∧ voiceReview ≠ .notApplicable)
        ("canal TEXT exige voice_review NOT_APPLICABLE — declarar revisão de voz onde não houve voz " ++
          "falsifica a proveniência"),
      refuse (channel = .voice ∧ voiceReview = .notApplicable)
        ("canal VOICE não pode declarar NOT_APPLICABLE — a revisão tem de ser afirmada ou negada, " ++
          "nunca omitida")]

/-- The channel of the intent and the state of its review. -/
structure SafeVoiceProvenance where
  channel : InputChannel
  voiceReview : VoiceReviewState
  accepted : SafeVoiceProvenance.violation channel voiceReview = none
  deriving DecidableEq

def SafeVoiceProvenance.make (channel : InputChannel) (voiceReview : VoiceReviewState) :
    Except String SafeVoiceProvenance :=
  checked _ fun h => ⟨channel, voiceReview, h⟩

/-- What a proposal is built from. -/
structure ProposalFields where
  operation : DestructiveOperation
  targets : List SafeTargetSnapshot
  impact : PresentedImpact
  governanceResolution : GovernanceResolution
  context : ApprovalContext
  provenance : SafeVoiceProvenance
  blockers : List ApprovalBlockerKind
  materializedAt : Instant
  deriving DecidableEq

namespace ProposalFields

/-- The binding between the resolution and the rest of the proposal. -/
def governanceViolation (p : ProposalFields) : Option String :=
  let resolucao := p.governanceResolution
  let esperada := operacaoDeGovernanca p.operation
  firstOf
    [refuse (resolucao.outcome ≠ .admissible) ("governança respondeu " ++ resolucao.outcome.value ++
        " — proposta destrutiva exige ADMISSIBLE. INADMISSIBLE, NOT_APPLICABLE e PROHIBITED não " ++
          "concedem, e confirmação humana não cria autoridade ausente"),
      refuse (!resolucao.executionAuthorized)
        ("governança não autoriza execução — outcome admissível sem execution_authorized não é " ++
          "autorização"),
      refuse (resolucao.operation ≠ esperada) (p.operation.value ++ " exige resolução de " ++
        esperada.value ++ ", e a apresentada avaliou " ++ resolucao.operation.value ++
        " — resolução de outra ação não autoriza esta"),
      refuse (resolucao.contextDomainIds ≠ [p.context.domainId])
        ("domínio avaliado pela governança diverge do domínio da proposta — subconjunto, " ++
          "interseção e conjunto mais amplo não são a mesma pergunta"),
      refuse (resolucao.contextPurpose ≠ some p.context.purposeRef)
        ("finalidade avaliada pela governança diverge da finalidade da proposta — finalidade " ++
          "aproximada não é a mesma pergunta")]

def targetViolation (p : ProposalFields) (alvo : SafeTargetSnapshot) : Option String :=
  firstOf
    [refuse (alvo.controlScope.workspaceId ≠ p.context.workspaceId)
        "workspace do alvo diverge do contexto da proposta",
      refuse (alvo.controlScope.tenantId ≠ p.context.tenantId)
        "tenant do alvo diverge do contexto da proposta"]

/-- The checks of `__post_init__`, in order. -/
def violation (p : ProposalFields) : Option String :=
  firstOf
    [refuse p.targets.isEmpty
        ("proposta destrutiva exige lote não vazio — apresentar zero alvos e pedir confirmação não " ++
          "confirma nada"),
      (firstRepeated [] (p.targets.map SafeTargetSnapshot.subjectCoid)).map fun coid =>
        "alvo duplicado no lote: " ++ coid.str ++
          " — duplicata torna a quantidade apresentada ambígua",
      refuse (p.impact.itemCount ≠ p.targets.length) ("impacto apresentado (" ++
        toString p.impact.itemCount ++ ") diverge do lote (" ++ toString p.targets.length ++
        ") — o usuário confirmaria uma quantidade e a operação alcançaria outra"),
      (firstRepeated [] p.blockers).map fun bloqueio => "blocker duplicado: " ++ bloqueio.value ++
        " — repetição não é absorvida nem reordenada, é recusada",
      refuse (!p.provenance.voiceReview.permiteProposta p.provenance.channel)
        ("entrada de voz em estado " ++ p.provenance.voiceReview.value ++
          " não forma proposta — baixa confiança, ambiguidade e ausência de revisão pertencem à " ++
            "fronteira anterior e não são corrigidas aqui"),
      p.governanceViolation,
      p.targets.findSome? p.targetViolation]

end ProposalFields

/-- What was shown to the user. -/
structure DestructiveApprovalProposal extends ProposalFields where
  accepted : toProposalFields.violation = none
  deriving DecidableEq

def DestructiveApprovalProposal.make (p : ProposalFields) :
    Except String DestructiveApprovalProposal := checked _ fun h => ⟨p, h⟩

/-- What an envelope is built from. -/
structure EnvelopeFields where
  proposal : DestructiveApprovalProposal
  approvalId : Uuid
  nonce : Uuid
  identity : IdentityEvidence
  context : ApprovalContext
  provenance : SafeVoiceProvenance
  issuedAt : Instant
  confirmedAt : Instant
  expiresAt : Instant
  deriving DecidableEq

namespace EnvelopeFields

/-- The position of the first target that another principal controls. -/
def foreignTarget (e : EnvelopeFields) : Option Nat :=
  e.proposal.targets.findIdx? fun alvo =>
    alvo.controlScope.controlPrincipalRef ≠ e.identity.principalRef

def temporalViolation (e : EnvelopeFields) : Option String :=
  firstOf
    [refuse (e.identity.authenticatedAt < e.proposal.materializedAt)
        ("authenticated_at anterior à materialização da proposta — sessão antiga não é step-up " ++
          "vinculado a esta ação"),
      refuse (e.confirmedAt < e.identity.authenticatedAt)
        ("authenticated_at posterior à confirmação — uma autenticação que ocorre depois não pode " ++
          "ser o fundamento dela"),
      refuse (e.issuedAt < e.proposal.materializedAt)
        "issued_at não pode preceder a materialização da proposta",
      refuse (e.confirmedAt < e.issuedAt) "confirmed_at não pode preceder issued_at",
      refuse (e.expiresAt ≤ e.confirmedAt)
        ("expires_at deve ser posterior a confirmed_at — uma aprovação que expira ao ser confirmada " ++
          "nunca foi válida")]

/-- The checks of `__post_init__`, in order. -/
def violation (e : EnvelopeFields) : Option String :=
  firstOf
    [refuse (e.approvalId = e.nonce)
        ("nonce não pode ser igual a approval_id — seria o mesmo valor com dois nomes, e nenhum dos " ++
          "dois seria nonce"),
      refuse (!e.proposal.blockers.isEmpty)
        ("proposta com bloqueio não forma envelope — aprovar sobre legal hold ou conflito " ++
          "produziria autorização que a governança já negou"),
      refuse (!e.identity.assuranceLevel.satisfies e.proposal.operation)
        (e.proposal.operation.value ++ " não é admissível com assurance " ++
          e.identity.assuranceLevel.value ++
          " — apagamento definitivo exige step-up, e nenhuma operação aceita ausência de evidência"),
      refuse (e.context ≠ e.proposal.context)
        ("contexto do envelope diverge da proposta — tenant, workspace, domínio ou finalidade " ++
          "mudaram, e mudança exige nova proposta"),
      refuse (e.provenance ≠ e.proposal.provenance)
        ("canal do envelope diverge da proposta — a confirmação vincula o canal em que a intenção " ++
          "foi apresentada"),
      refuse (e.proposal.governanceResolution.contextActorRef ≠ some e.identity.principalRef)
        ("ator avaliado pela governança diverge do principal declarado autenticado — a governança " ++
          "respondeu sobre outra pessoa"),
      e.foreignTarget.map fun indice => "alvo[" ++ toString indice ++
        "] é controlado por outro principal — sem modelo de delegação, apenas o próprio " ++
          "controlador forma envelope",
      e.temporalViolation]

end EnvelopeFields

/-- The approval of one exact proposal. -/
structure DestructiveApprovalEnvelope extends EnvelopeFields where
  accepted : toEnvelopeFields.violation = none
  deriving DecidableEq

def DestructiveApprovalEnvelope.make (e : EnvelopeFields) :
    Except String DestructiveApprovalEnvelope := checked _ fun h => ⟨e, h⟩

end PiaOs.Memory
