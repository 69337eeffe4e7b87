import PiaOs.Memory.Erasure
import PiaOs.Piap.Repr
import PiaOs.Protection.Fingerprint

/-!
# What a rendering shows

`__repr__` and `__str__` of the value objects on the destructive path. The free texts are any
`str`; the checks across fields are left to the value objects themselves, since no rendering
reads them.
-/

namespace PiaOs.Memory.Rendering

open Support Piap

/-! ## Values -/

/-- The texts that `validar_texto_opaco` accepts. -/
abbrev TextoOpaco : Type :=
  { t : Texto // t.all CodePoint.isSpace = false ∧ t.any CodePoint.proibido = false ∧
    t.length ≤ maxOpaqueLength }

/-- A `datetime` with a time zone, of which only the `repr` is looked at. -/
structure Datahora where
  year : ℕ
  month : ℕ
  day : ℕ
  hour : ℕ
  minute : ℕ
  second : ℕ
  microsecond : ℕ
  fold : Bool
  tzinfo : Texto

structure ControlScope where
  workspaceId : Referencia
  tenantId : Referencia
  controlPrincipalRef : TextoOpaco

structure CustodyNamespace where
  provider : TextoOpaco
  «namespace» : TextoOpaco

structure VerifiedDeletionCapability where
  operation : TextoOpaco
  scope : TextoOpaco
  verified : Bool

structure ErasureTargetReference where
  subjectCoid : Referencia
  opaqueReference : TextoOpaco
  origin : ReferenceProvenance
  controlScope : ControlScope
  expectedNamespace : Option CustodyNamespace

/-- The classes that can be content. -/
abbrev ClasseDeConteudo : Type := { c : ErasureTargetClass // c ∈ classesDeConteudo }

structure ErasureTargetDescriptor where
  targetClass : ClasseDeConteudo
  subjectCoid : Referencia
  controlScope : ControlScope
  custodyNamespace : CustodyNamespace
  capability : VerifiedDeletionCapability
  resolvedAt : Datahora
  origin : ReferenceProvenance
  legacyProtectionState : LegacyProtectionState
  transientLocator : TextoOpaco
  versionEtag : Option TextoOpaco
  isVerified : capability.verified = true

structure SafeTargetSnapshot where
  targetClass : ClasseDeConteudo
  subjectCoid : Referencia
  controlScope : ControlScope
  custodyNamespace : CustodyNamespace
  origin : ReferenceProvenance
  legacyProtectionState : LegacyProtectionState
  versionEtag : Option TextoOpaco

structure IdentityEvidence where
  principalRef : TextoOpaco
  assuranceLevel : AssuranceLevel
  authenticatedAt : Datahora

structure ApprovalContext where
  tenantId : Referencia
  workspaceId : Referencia
  domainId : Referencia
  purposeRef : TextoOpaco

structure DestructiveApprovalProposal where
  operation : DestructiveOperation
  targets : List SafeTargetSnapshot
  impact : PresentedImpact
  governanceResolution : Protection.GovernanceResolution
  context : ApprovalContext
  provenance : SafeVoiceProvenance
  blockers : List ApprovalBlockerKind
  materializedAt : Datahora

structure DestructiveApprovalEnvelope where
  proposal : DestructiveApprovalProposal
  approvalId : Referencia
  nonce : Referencia
  identity : IdentityEvidence
  context : ApprovalContext
  provenance : SafeVoiceProvenance
  issuedAt : Datahora
  confirmedAt : Datahora
  expiresAt : Datahora

structure ConsumedApprovalEvidence where
  approvalId : Referencia
  operation : DestructiveOperation
  tenantId : Referencia
  workspaceId : Referencia
  principalRef : TextoOpaco
  consumedAt : Datahora

structure ErasureEffectRequest where
  descriptor : ErasureTargetDescriptor
  «authorization» : ConsumedApprovalEvidence

structure ObservedAttemptResult where
  approvalId : Referencia
  subjectCoid : Referencia
  targetClass : ClasseDeConteudo
  outcome : ErasureOutcome
  executorRef : TextoOpaco
  attemptedAt : Datahora
  completedAt : Datahora
  failureCode : Option TextoOpaco

structure DestructiveExecutionRequest where
  envelope : DestructiveApprovalEnvelope
  references : List ErasureTargetReference

def DestructiveExecutionRequest.approvalId (r : DestructiveExecutionRequest) : Referencia :=
  r.envelope.approvalId

def DestructiveExecutionRequest.operation (r : DestructiveExecutionRequest) :
    DestructiveOperation :=
  r.envelope.proposal.operation

/-- The texts with something left by `strip`. -/
abbrev TextoNaoVazio : Type := { t : Texto // t.all CodePoint.isSpace = false }

structure GovernanceProvenance where
  policyId : Referencia
  policyKey : TextoNaoVazio
  policyVersion : { n : ℤ // 1 ≤ n }
  matchedRuleId : TextoNaoVazio

/-! ## Texts in the place of others -/

def localizadorOculto : String := "<locator:redacted>"

def referenciaOculta : String := "<opaque_reference:redacted>"

def textoOculto : String := "<text:redacted>"

def resolucaoOculta : String := "<governance_resolution:redacted>"

def descritorOculto : String := "<erasure_target_descriptor:redacted>"

/-! ## `repr` of the types of the language

`none` is the `ValueError` of a number with too many digits. -/

variable (printable : CodePoint → Bool)

/-- The texts with a comma between them. -/
def juntar : List Texto → Texto
  | [] => []
  | [item] => item
  | item :: itens => item ++ Texto.of ", " ++ juntar itens

def reprTexto (s : String) : Texto := (Texto.of s).repr printable

/-- `int.__repr__`. -/
def reprInteiro (n : ℤ) : Option Texto :=
  if n.natAbs < 10 ^ intMaxStrDigits then some (Texto.of (toString n)) else none

def reprBool (b : Bool) : Texto := Texto.of (if b then "True" else "False")

/-- `repr` of a `str` that may be absent. -/
def reprOpcional : Option String → Texto
  | none => Texto.of "None"
  | some s => reprTexto printable s

def reprUuid (u : Referencia) : Texto :=
  Texto.of "UUID(" ++ reprTexto printable u.str ++ Texto.of ")"

/-- `repr` of a member of a `StrEnum`. The name of every member is its value in capitals. -/
def reprMembro (classe valor : String) : Texto :=
  Texto.of ("<" ++ classe ++ "." ++ valor.toUpper ++ ": ") ++ reprTexto printable valor ++
    Texto.of ">"

/-- `repr` of a tuple. -/
def reprTupla : List Texto → Texto
  | [item] => Texto.of "(" ++ item ++ Texto.of ",)"
  | itens => Texto.of "(" ++ juntar itens ++ Texto.of ")"

/-- `datetime.__repr__`. Seconds and microseconds that are zero are left out. -/
def Datahora.repr (d : Datahora) : Texto :=
  let segundos :=
    if d.microsecond ≠ 0 then [d.second, d.microsecond]
    else if d.second ≠ 0 then [d.second]
    else []
  let numeros := [d.year, d.month, d.day, d.hour, d.minute] ++ segundos
  let fold := if d.fold then [Texto.of "fold=1"] else []
  Texto.of "datetime.datetime(" ++
    juntar ((numeros.map fun n => Texto.of (toString n)) ++ fold ++
      [Texto.of "tzinfo=" ++ d.tzinfo]) ++ Texto.of ")"

/-- `Nome(campo=valor, …)`: the form of every written rendering, and of those that a dataclass
generates. -/
def objeto (nome : String) (campos : List (String × Option Texto)) : Option Texto :=
  let escrever : String × Option Texto → Option Texto := fun (campo, valor) =>
    valor.map fun texto => Texto.of (campo ++ "=") ++ texto
  (campos.mapM escrever).map fun partes =>
    Texto.of (nome ++ "(") ++ juntar partes ++ Texto.of ")"

/-- `{x!r}` of a value that may be absent. -/
def reprOu {α : Type} (rep : α → Option Texto) : Option α → Option Texto
  | none => some (Texto.of "None")
  | some a => rep a

/-! ## Renderings -/

/-- Generated. -/
def reprReferenceProvenance (p : ReferenceProvenance) : Option Texto :=
  objeto "ReferenceProvenance"
    [("origin", some (reprMembro printable "ReferenceOrigin" p.origin.value)),
      ("position", reprOu reprInteiro p.position)]

def ControlScope.repr (s : ControlScope) : Option Texto :=
  objeto "ControlScope"
    [("workspace_id", some (reprUuid printable s.workspaceId)),
      ("tenant_id", some (reprUuid printable s.tenantId)),
      ("control_principal_ref", some (Texto.of textoOculto))]

def CustodyNamespace.repr (_ : CustodyNamespace) : Option Texto :=
  objeto "CustodyNamespace"
    [("provider", some (Texto.of textoOculto)), ("namespace", some (Texto.of textoOculto))]

def VerifiedDeletionCapability.repr (c : VerifiedDeletionCapability) : Option Texto :=
  objeto "VerifiedDeletionCapability"
    [("operation", some (Texto.of textoOculto)), ("scope", some (Texto.of textoOculto)),
      ("verified", some (reprBool c.verified))]

def ErasureTargetReference.repr (r : ErasureTargetReference) : Option Texto :=
  objeto "ErasureTargetReference"
    [("subject_coid", some (reprUuid printable r.subjectCoid)),
      ("origin", reprReferenceProvenance printable r.origin),
      ("control_scope", r.controlScope.repr printable),
      ("expected_namespace", reprOu CustodyNamespace.repr r.expectedNamespace),
      ("opaque_reference", some (Texto.of referenciaOculta))]

/-- `TEXTO_OCULTO if texto else None`. -/
def seHouver (t : Option TextoOpaco) : Option String :=
  t.bind fun texto => if texto.val.isEmpty then none else some textoOculto

def LegacyProtectionState.value : LegacyProtectionState → String
  | .isProtected => "protected"
  | .notProtected => "not_protected"

def ErasureTargetDescriptor.repr (d : ErasureTargetDescriptor) : Option Texto :=
  objeto "ErasureTargetDescriptor"
    [("target_class", some (reprTexto printable d.targetClass.val.value)),
      ("subject_coid", some (reprUuid printable d.subjectCoid)),
      ("custody_namespace", d.custodyNamespace.repr),
      ("capability", d.capability.repr),
      ("legacy_protection_state",
        some (reprTexto printable (LegacyProtectionState.value d.legacyProtectionState))),
      ("resolved_at", some d.resolvedAt.repr),
      ("version_etag", some (reprOpcional printable (seHouver d.versionEtag))),
      ("transient_locator", some (Texto.of localizadorOculto))]

def SafeTargetSnapshot.repr (s : SafeTargetSnapshot) : Option Texto :=
  objeto "SafeTargetSnapshot"
    [("target_class", some (reprTexto printable s.targetClass.val.value)),
      ("subject_coid", some (reprUuid printable s.subjectCoid)),
      ("control_scope", s.controlScope.repr printable),
      ("custody_namespace", s.custodyNamespace.repr),
      ("origin", reprReferenceProvenance printable s.origin),
      ("legacy_protection_state",
        some (reprTexto printable (LegacyProtectionState.value s.legacyProtectionState))),
      ("version_etag", some (reprOpcional printable (seHouver s.versionEtag)))]

def ImpactVolumeKind.value : ImpactVolumeKind → String
  | .known => "known"
  | .unknown => "unknown"

/-- Generated. -/
def reprPresentedImpact (i : PresentedImpact) : Option Texto :=
  objeto "PresentedImpact"
    [("item_count", reprInteiro i.itemCount),
      ("volume_kind",
        some (reprMembro printable "ImpactVolumeKind" (ImpactVolumeKind.value i.volumeKind))),
      ("bytes_total", reprOu reprInteiro i.bytesTotal)]

def IdentityEvidence.repr (e : IdentityEvidence) : Option Texto :=
  objeto "IdentityEvidence"
    [("principal_ref", some (Texto.of textoOculto)),
      ("assurance_level", some (reprTexto printable e.assuranceLevel.value)),
      ("authenticated_at", some e.authenticatedAt.repr)]

def ApprovalContext.repr (c : ApprovalContext) : Option Texto :=
  objeto "ApprovalContext"
    [("tenant_id", some (reprUuid printable c.tenantId)),
      ("workspace_id", some (reprUuid printable c.workspaceId)),
      ("domain_id", some (reprUuid printable c.domainId)),
      ("purpose_ref", some (Texto.of textoOculto))]

def InputChannel.value : InputChannel → String
  | .text => "text"
  | .voice => "voice"

/-- Generated. -/
def reprSafeVoiceProvenance (p : SafeVoiceProvenance) : Option Texto :=
  objeto "SafeVoiceProvenance"
    [("channel", some (reprMembro printable "InputChannel" (InputChannel.value p.channel))),
      ("voice_review", some (reprMembro printable "VoiceReviewState" p.voiceReview.value))]

def DestructiveApprovalProposal.repr (p : DestructiveApprovalProposal) : Option Texto :=
  objeto "DestructiveApprovalProposal"
    [("operation", some (reprTexto printable p.operation.value)),
      ("targets", (p.targets.mapM (SafeTargetSnapshot.repr printable)).map reprTupla),
      ("impact", reprPresentedImpact printable p.impact),
      ("governance_resolution", some (Texto.of resolucaoOculta)),
      ("context", p.context.repr printable),
      ("provenance", reprSafeVoiceProvenance printable p.provenance),
      ("blockers", some (reprTupla (p.blockers.map fun bloqueio =>
        reprMembro printable "ApprovalBlockerKind" bloqueio.value))),
      ("materialized_at", some p.materializedAt.repr)]

def DestructiveApprovalEnvelope.repr (e : DestructiveApprovalEnvelope) : Option Texto :=
  objeto "DestructiveApprovalEnvelope"
    [("approval_id", some (reprUuid printable e.approvalId)),
      ("nonce", some (reprUuid printable e.nonce)),
      ("proposal", e.proposal.repr printable),
      ("identity", e.identity.repr printable),
      ("context", e.context.repr printable),
      ("provenance", reprSafeVoiceProvenance printable e.provenance),
      ("issued_at", some e.issuedAt.repr),
      ("confirmed_at", some e.confirmedAt.repr),
      ("expires_at", some e.expiresAt.repr)]

def ConsumedApprovalEvidence.repr (e : ConsumedApprovalEvidence) : Option Texto :=
  objeto "ConsumedApprovalEvidence"
    [("approval_id", some (reprUuid printable e.approvalId)),
      ("operation", some (reprTexto printable e.operation.value)),
      ("tenant_id", some (reprUuid printable e.tenantId)),
      ("workspace_id", some (reprUuid printable e.workspaceId)),
      ("principal_ref", some (Texto.of textoOculto)),
      ("consumed_at", some e.consumedAt.repr)]

/-- It never delegates to the descriptor. -/
def ErasureEffectRequest.repr (r : ErasureEffectRequest) : Option Texto :=
  objeto "ErasureEffectRequest"
    [("descriptor", some (Texto.of descritorOculto)),
      ("authorization", r.authorization.repr printable)]

def ObservedAttemptResult.repr (r : ObservedAttemptResult) : Option Texto :=
  objeto "ObservedAttemptResult"
    [("approval_id", some (reprUuid printable r.approvalId)),
      ("subject_coid", some (reprUuid printable r.subjectCoid)),
      ("target_class", some (reprTexto printable r.targetClass.val.value)),
      ("outcome", some (reprTexto printable r.outcome.value)),
      ("executor_ref", some (Texto.of textoOculto)),
      ("attempted_at", some r.attemptedAt.repr),
      ("completed_at", some r.completedAt.repr),
      ("failure_code", some (reprOpcional printable (seHouver r.failureCode)))]

def DestructiveExecutionRequest.repr (r : DestructiveExecutionRequest) : Option Texto :=
  objeto "DestructiveExecutionRequest"
    [("approval_id", some (reprUuid printable r.approvalId)),
      ("operation", some (reprTexto printable r.operation.value)),
      ("reference_count", some (Texto.of (toString r.references.length)))]

/-- Generated: the class writes no rendering of its own. -/
def GovernanceProvenance.repr (g : GovernanceProvenance) : Option Texto :=
  objeto "GovernanceProvenance"
    [("policy_id", some (reprUuid printable g.policyId)),
      ("policy_key", some (g.policyKey.val.repr printable)),
      ("policy_version", reprInteiro g.policyVersion.val),
      ("matched_rule_id", some (g.matchedRuleId.val.repr printable))]

/-! ## The value objects -/

inductive Objeto
  | controlScope (x : ControlScope)
  | custodyNamespace (x : CustodyNamespace)
  | verifiedDeletionCapability (x : VerifiedDeletionCapability)
  | erasureTargetReference (x : ErasureTargetReference)
  | erasureTargetDescriptor (x : ErasureTargetDescriptor)
  | safeTargetSnapshot (x : SafeTargetSnapshot)
  | identityEvidence (x : IdentityEvidence)
  | approvalContext (x : ApprovalContext)
  | destructiveApprovalProposal (x : DestructiveApprovalProposal)
  | destructiveApprovalEnvelope (x : DestructiveApprovalEnvelope)
  | consumedApprovalEvidence (x : ConsumedApprovalEvidence)
  | erasureEffectRequest (x : ErasureEffectRequest)
  | observedAttemptResult (x : ObservedAttemptResult)
  | destructiveExecutionRequest (x : DestructiveExecutionRequest)
  | governanceProvenance (x : GovernanceProvenance)

def Objeto.repr : Objeto → Option Texto
  | .controlScope x => x.repr printable
  | .custodyNamespace x => x.repr
  | .verifiedDeletionCapability x => x.repr
  | .erasureTargetReference x => x.repr printable
  | .erasureTargetDescriptor x => x.repr printable
  | .safeTargetSnapshot x => x.repr printable
  | .identityEvidence x => x.repr printable
  | .approvalContext x => x.repr printable
  | .destructiveApprovalProposal x => x.repr printable
  | .destructiveApprovalEnvelope x => x.repr printable
  | .consumedApprovalEvidence x => x.repr printable
  | .erasureEffectRequest x => x.repr printable
  | .observedAttemptResult x => x.repr printable
  | .destructiveExecutionRequest x => x.repr printable
  | .governanceProvenance x => x.repr printable

/-- `__str__` is `__repr__`, written or inherited. -/
def Objeto.str (x : Objeto) : Option Texto := x.repr printable

end PiaOs.Memory.Rendering
