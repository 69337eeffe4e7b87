import PiaOs.Envelope.Content

/-!
# Bindings, applications and views

The value objects of the human protection: the binding of a question to a gate, the application
of a decision that an event registers, and the view of a resolution that crosses the port. Each
constructor runs its checks in order; the texts of the checks are those of the source.
-/

namespace PiaOs.Protection

open Support Memory Piap Envelope

/-! ## Vocabularies -/

inductive BoundaryOperation
  | read
  | reference
  | derive
  | transform
  | expose
  | synchronize
  | consolidate
  | accessibilityTransition
  | retentionAssessment
  | retentionDisposition
  | legalErasure
  deriving DecidableEq

def BoundaryOperation.value : BoundaryOperation → String
  | .read => "read"
  | .reference => "reference"
  | .derive => "derive"
  | .transform => "transform"
  | .expose => "expose"
  | .synchronize => "synchronize"
  | .consolidate => "consolidate"
  | .accessibilityTransition => "accessibility_transition"
  | .retentionAssessment => "retention_assessment"
  | .retentionDisposition => "retention_disposition"
  | .legalErasure => "legal_erasure"

inductive BoundaryCapability
  | childSexualExploitation
  | minorTargetingForExploitation
  | weaponOfMassDestructionEnablement
  | catastrophicHarmEnablement
  deriving DecidableEq

def BoundaryCapability.value : BoundaryCapability → String
  | .childSexualExploitation => "child_sexual_exploitation"
  | .minorTargetingForExploitation => "minor_targeting_for_exploitation"
  | .weaponOfMassDestructionEnablement => "weapon_of_mass_destruction_enablement"
  | .catastrophicHarmEnablement => "catastrophic_harm_enablement"

inductive BoundaryEngagement
  | operationalEnablement
  | analytical
  | preventive
  | unspecified
  deriving DecidableEq

inductive BoundaryOutcome
  | admissible
  | inadmissible
  | notApplicable
  | prohibited
  deriving DecidableEq

def BoundaryOutcome.value : BoundaryOutcome → String
  | .admissible => "admissible"
  | .inadmissible => "inadmissible"
  | .notApplicable => "not_applicable"
  | .prohibited => "prohibited"

inductive GatePosition
  | g1
  | g2
  | g3
  | g4
  deriving DecidableEq

def GatePosition.value : GatePosition → String
  | .g1 => "g1"
  | .g2 => "g2"
  | .g3 => "g3"
  | .g4 => "g4"

inductive ProtectionOutcome
  | allowed
  | blocked
  | reviewRequired
  deriving DecidableEq

def producerRef : String := "orchestration.protection.bridge.v1"

def fingerprintAlgoVersion : String := "1"

def bindingAlgoVersion : String := "1"

/-- `valor.strip()` is empty. -/
def vazio (t : Texto) : Bool := t.all CodePoint.isSpace

def maxClassifierVersionLength : ℕ := 16

/-- `_texto`. -/
def texto (nome : String) (valor : Texto) (limite : ℕ) : Option String :=
  firstOf
    [refuse (vazio valor) (nome ++ " não pode ser vazio ou apenas espaços"),
      refuse (limite < valor.length) (nome ++ " excede " ++ toString limite ++ " caracteres")]

/-- `SHA256_LOWER_HEX`. -/
def sha256LowerHex : Regex CodePoint :=
  .seq .start (.seq (.times 64 (.char hexMinusculo)) .lineEnd)

/-! ## The binding -/

structure GovernanceBindingFields where
  operation : BoundaryOperation
  principalRef : Texto
  scheduleId : Option Referencia
  stepId : Option Referencia
  attemptId : Option Referencia
  objectiveSha256 : Texto
  gatePosition : GatePosition
  boundaryVersion : ℤ
  classifierVersion : Texto
  validUntil : Momento

/-- A reading with the offset of its clock. -/
def ciente : Momento → Bool
  | .ciente _ => true
  | .ingenuo _ => false

namespace GovernanceBindingFields

/-- `_validar_posicao`. -/
def posicao (f : GovernanceBindingFields) : Option String :=
  firstOf
    [refuse (f.gatePosition = .g1 ∧ (f.scheduleId.isSome ∨ f.stepId.isSome))
        "g1 avalia antes da criação — schedule_id e step_id devem ser nulos",
      refuse (f.gatePosition ≠ .g1 ∧ (f.scheduleId.isNone ∨ f.stepId.isNone))
        (f.gatePosition.value ++ " exige schedule_id e step_id"),
      refuse (f.gatePosition = .g3 ∧ f.attemptId.isNone) "g3 exige attempt_id prealocado",
      refuse (f.gatePosition ≠ .g3 ∧ f.attemptId.isSome)
        "somente g3 carrega attempt_id no binding"]

/-- `GovernanceBinding.__post_init__`. -/
def violation (f : GovernanceBindingFields) : Option String :=
  firstOf
    [texto "principal_ref" f.principalRef PiaOs.maxRefLength,
      texto "classifier_version" f.classifierVersion maxClassifierVersionLength,
      refuse (!casa sha256LowerHex f.objectiveSha256)
        "objective_sha256 deve ser sha-256 hexadecimal minúsculo de 64 dígitos",
      refuse (f.boundaryVersion < 1) "boundary_version deve ser >= 1",
      refuse (!ciente f.validUntil)
        "valid_until deve ser datetime com fuso — instante ingênuo não é instante",
      f.posicao]

end GovernanceBindingFields

/-- The question that a gate asked about an objective. -/
structure GovernanceBinding extends GovernanceBindingFields where
  valido : toGovernanceBindingFields.violation = none

/-! ## The application -/

/-- `_SHA256`. -/
def sha256Aplicacao : Regex CodePoint :=
  .seq .start (.seq (.times 64 (.char hexMinusculo)) .lineEnd)

/-- `_ENGAGEMENTS_QUE_BLOQUEIAM`. -/
def engagementsQueBloqueiam : List BoundaryEngagement := [.operationalEnablement, .unspecified]

structure HumanProtectionApplicationFields where
  controlPrincipalRef : Texto
  scheduleId : Option Referencia
  stepId : Option Referencia
  attemptId : Option Referencia
  bindingAttemptId : Option Referencia
  objectiveSha256 : Texto
  decisionFingerprint : Texto
  fingerprintAlgoVersion : Texto
  bindingSha256 : Texto
  bindingAlgoVersion : Texto
  outcome : ProtectionOutcome
  capabilityEngagement : Option BoundaryEngagement
  boundaryVersion : ℤ
  classifierVersion : Texto
  cognitiveOperation : BoundaryOperation
  gatePosition : GatePosition
  producerRef : Texto
  pauseApplied : Bool
  delegationsRevoked : ℤ
  blockedCapabilities : List BoundaryCapability
  deriving DecidableEq

namespace HumanProtectionApplicationFields

/-- `_validar_tipos`. -/
def tipos (f : HumanProtectionApplicationFields) : Option String :=
  firstOf
    [refuse (vazio f.controlPrincipalRef) "control_principal_ref é obrigatório",
      refuse (vazio f.classifierVersion) "classifier_version é obrigatório",
      refuse (f.delegationsRevoked < 0) "delegations_revoked não pode ser negativo",
      refuse (f.boundaryVersion < 1) "boundary_version deve ser >= 1",
      refuse (¬f.blockedCapabilities.Nodup) "blocked_capabilities não aceita repetição"]

/-- One hash of the application. -/
def digesto (campo : String) (valor : Texto) : Option String :=
  refuse (!casa sha256Aplicacao valor)
    (campo ++ " deve ser sha-256 hexadecimal minúsculo de 64 dígitos")

/-- `_validar_versoes_e_hashes`. -/
def versoesEHashes (f : HumanProtectionApplicationFields) : Option String :=
  firstOf
    [digesto "objective_sha256" f.objectiveSha256,
      digesto "decision_fingerprint" f.decisionFingerprint,
      digesto "binding_sha256" f.bindingSha256,
      refuse (f.fingerprintAlgoVersion ≠ Texto.of Protection.fingerprintAlgoVersion)
        "fingerprint_algo_version desconhecida",
      refuse (f.bindingAlgoVersion ≠ Texto.of Protection.bindingAlgoVersion)
        "binding_algo_version desconhecida",
      refuse (f.producerRef ≠ Texto.of Protection.producerRef)
        "producer_ref não é o produtor autorizado desta ponte"]

/-- `_validar_posicao`. -/
def posicao (f : HumanProtectionApplicationFields) : Option String :=
  firstOf
    [refuse (f.gatePosition = .g1 ∧ (f.scheduleId.isSome ∨ f.stepId.isSome))
        "g1 registra schedule_id e step_id nulos",
      refuse (f.gatePosition ≠ .g1 ∧ (f.scheduleId.isNone ∨ f.stepId.isNone))
        (f.gatePosition.value ++ " exige schedule_id e step_id"),
      refuse (f.gatePosition = .g1 ∧ f.pauseApplied)
        "g1 não pausa — não há Schedule pausável antes da criação",
      refuse (f.gatePosition = .g3 ∧ f.bindingAttemptId.isNone)
        "g3 exige binding_attempt_id prealocado",
      refuse (f.gatePosition ≠ .g3 ∧ f.bindingAttemptId.isSome)
        "somente g3 carrega binding_attempt_id"]

/-- `_validar_desfecho`. -/
def desfecho (f : HumanProtectionApplicationFields) : Option String :=
  let g3Permitido := f.gatePosition = .g3 ∧ f.outcome = .allowed
  firstOf
    [refuse (f.attemptId.isSome ∧ ¬g3Permitido) "somente g3 permitido materializa tentativa",
      refuse (f.attemptId.isSome ∧ f.attemptId ≠ f.bindingAttemptId)
        "attempt_id materializada diverge da tentativa do binding",
      refuse (f.attemptId.isNone ∧ g3Permitido) "g3 permitido exige tentativa materializada",
      refuse (f.outcome = .allowed ∧ (f.pauseApplied ∨ f.delegationsRevoked ≠ 0))
        "allowed não pausa nem revoga — o fluxo seguiu",
      refuse (f.outcome = .allowed ∧ f.capabilityEngagement.isSome)
        ("allowed não carrega engajamento de capacidade — não houve capacidade " ++
          "a engajar, e registrar uma seria categoria sem produtor"),
      refuse (f.outcome = .blocked ∧ ∀ e ∈ engagementsQueBloqueiam, f.capabilityEngagement ≠ some e)
        ("bloqueio exige engajamento operacional ou não especificado — " ++
          "analítico e preventivo não habilitam capacidade"),
      refuse (f.outcome = .blocked ∧ f.gatePosition ≠ .g1 ∧ !f.pauseApplied)
        ("bloqueio fora de g1 exige pausa aplicada — sem ela o evento " ++
          "afirmaria que o trabalho seguiu depois da recusa"),
      refuse (f.outcome ≠ .blocked ∧ f.delegationsRevoked ≠ 0)
        "somente bloqueio revoga delegação",
      refuse (f.outcome = .reviewRequired)
        ("review_required não possui produtor autorizado em v1 — " ++
          "a fronteira da E4 é binária")]

/-- `HumanProtectionApplication.__post_init__`. -/
def violation (f : HumanProtectionApplicationFields) : Option String :=
  firstOf [f.tipos, f.versoesEHashes, f.posicao, f.desfecho]

end HumanProtectionApplicationFields

/-- The fact that an event registers. -/
structure HumanProtectionApplication extends HumanProtectionApplicationFields where
  valida : toHumanProtectionApplicationFields.violation = none

/-! ## The view -/

/-- `ACCEPTED_BOUNDARY_OUTCOMES`. -/
def acceptedBoundaryOutcomes : List BoundaryOutcome := [.prohibited, .notApplicable]

structure GovernanceResolutionViewFields where
  outcome : BoundaryOutcome
  capabilityEngagement : BoundaryEngagement
  boundaryVersion : ℤ
  classifierVersion : Texto
  decisionFingerprint : Texto
  bindingSha256 : Texto
  evaluatedAt : Momento
  validUntil : Momento
  blockedCapabilities : List BoundaryCapability

/-- `_hash`. -/
def hash (nome : String) (valor : Texto) : Option String :=
  refuse (!casa sha256LowerHex valor)
    (nome ++ " deve ser sha-256 hexadecimal minúsculo de 64 dígitos")

/-- `_instante`. -/
def instante (nome : String) (valor : Momento) : Option String :=
  refuse (!ciente valor) (nome ++ " deve ser datetime com fuso")

namespace GovernanceResolutionViewFields

/-- `_validar_coerencia`. -/
def coerencia (f : GovernanceResolutionViewFields) : Option String :=
  firstOf
    [refuse (f.outcome = .prohibited ∧ f.blockedCapabilities = [])
        "prohibited exige ao menos uma capacidade bloqueada",
      refuse (f.outcome ≠ .prohibited ∧ f.blockedCapabilities ≠ [])
        (f.outcome.value ++ " não pode carregar capacidades bloqueadas")]

/-- `GovernanceResolutionView.__post_init__`. -/
def violation (f : GovernanceResolutionViewFields) : Option String :=
  firstOf
    [refuse (f.outcome ∉ acceptedBoundaryOutcomes)
        ("a ponte não interpreta '" ++ f.outcome.value ++ "' — apenas prohibited e " ++
          "not_applicable; qualquer outro é indisponibilidade técnica"),
      refuse (¬f.blockedCapabilities.Nodup) "blocked_capabilities não aceita repetição",
      refuse (f.boundaryVersion < 1) "boundary_version deve ser >= 1",
      refuse (vazio f.classifierVersion) "classifier_version é obrigatório",
      hash "decision_fingerprint" f.decisionFingerprint,
      hash "binding_sha256" f.bindingSha256,
      instante "evaluated_at" f.evaluatedAt,
      instante "valid_until" f.validUntil,
      refuse (f.validUntil.instant ≤ f.evaluatedAt.instant)
        "valid_until deve ser posterior a evaluated_at — validade inexistente",
      f.coerencia]

end GovernanceResolutionViewFields

/-- The answer of the governance, by value. -/
structure GovernanceResolutionView extends GovernanceResolutionViewFields where
  valida : toGovernanceResolutionViewFields.violation = none

end PiaOs.Protection
