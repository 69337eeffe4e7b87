import PiaOs.Model.Values
import PiaOs.Support.Checked

/-!
# Erasure targets

References, descriptors and the snapshots that an approval binds. A snapshot is
what the user was shown of a target: seven fields, and no locator.
-/

namespace PiaOs.Memory

open Support

inductive ErasureTargetClass
  | piaManagedArtifact | authorizedConnectorReferent | cognitiveMetadataRecord
  | unresolvedOpaqueReference
  deriving DecidableEq, Repr

def ErasureTargetClass.value : ErasureTargetClass → String
  | .piaManagedArtifact => "pia_managed_artifact"
  | .authorizedConnectorReferent => "authorized_connector_referent"
  | .cognitiveMetadataRecord => "cognitive_metadata_record"
  | .unresolvedOpaqueReference => "unresolved_opaque_reference"

/-- The classes that can be content. -/
def classesDeConteudo : List ErasureTargetClass := [.piaManagedArtifact, .authorizedConnectorReferent]

inductive LegacyProtectionState
  | isProtected | notProtected
  deriving DecidableEq, Repr

inductive ReferenceOrigin
  | payloadRef | sourceRef | evidenceRefs | inputRefs | outputRefs
  deriving DecidableEq, Repr

def ReferenceOrigin.value : ReferenceOrigin → String
  | .payloadRef => "payload_ref"
  | .sourceRef => "source_ref"
  | .evidenceRefs => "evidence_refs"
  | .inputRefs => "input_refs"
  | .outputRefs => "output_refs"

/-- The origins that are lists, where a position means something. -/
def origensPlurais : List ReferenceOrigin := [.evidenceRefs, .inputRefs, .outputRefs]

def maxOpaqueLength : Nat := 512

/-- `validar_texto_opaco` with its default bound. -/
def validarTextoOpaco (nome valor : String) : Option String :=
  opaqueText nome valor maxOpaqueLength

def validarOpcional (nome : String) : Option String → Option String
  | none => none
  | some valor => validarTextoOpaco nome valor

namespace ReferenceProvenance

def violation (origin : ReferenceOrigin) : Option Int → Option String
  | none => none
  | some position => firstOf
    [refuse (position < 0) "position deve ser >= 0",
      refuse (!origensPlurais.contains origin) (origin.value ++
        " é campo escalar na E3 e não admite position — uma posição ali não significaria nada")]

end ReferenceProvenance

/-- Where a reference came from. -/
structure ReferenceProvenance where
  origin : ReferenceOrigin
  position : Option Int
  accepted : ReferenceProvenance.violation origin position = none
  deriving DecidableEq

def ReferenceProvenance.make (origin : ReferenceOrigin) (position : Option Int) :
    Except String ReferenceProvenance :=
  checked (violation origin position) fun h => ⟨origin, position, h⟩

/-- Who controls a target. -/
structure ControlScope where
  workspaceId : Uuid
  tenantId : Uuid
  controlPrincipalRef : String
  accepted : validarTextoOpaco "control_principal_ref" controlPrincipalRef = none
  deriving DecidableEq

def ControlScope.make (workspaceId tenantId : Uuid) (controlPrincipalRef : String) :
    Except String ControlScope :=
  checked _ fun h => ⟨workspaceId, tenantId, controlPrincipalRef, h⟩

def CustodyNamespace.violation (provider «namespace» : String) : Option String :=
  firstOf [validarTextoOpaco "provider" provider, validarTextoOpaco "namespace" «namespace»]

/-- Where the content lives. -/
structure CustodyNamespace where
  provider : String
  «namespace» : String
  accepted : CustodyNamespace.violation provider «namespace» = none
  deriving DecidableEq

def CustodyNamespace.make (provider «namespace» : String) : Except String CustodyNamespace :=
  checked _ fun h => ⟨provider, «namespace», h⟩

/-- What the account was seen to be able to erase. -/
structure VerifiedDeletionCapability where
  operation : String
  scope : String
  verified : Bool
  deriving DecidableEq

structure ErasureTargetReference where
  subjectCoid : Uuid
  opaqueReference : String
  origin : ReferenceProvenance
  controlScope : ControlScope
  expectedNamespace : Option CustodyNamespace
  deriving DecidableEq

/-- A resolved target. It is content, and its capability was verified. -/
structure ErasureTargetDescriptor where
  targetClass : ErasureTargetClass
  subjectCoid : Uuid
  controlScope : ControlScope
  custodyNamespace : CustodyNamespace
  capability : VerifiedDeletionCapability
  resolvedAt : Instant
  origin : ReferenceProvenance
  legacyProtectionState : LegacyProtectionState
  transientLocator : String
  versionEtag : Option String
  isContent : targetClass ∈ classesDeConteudo
  isVerified : capability.verified = true
  versionEtag_accepted : validarOpcional "version_etag" versionEtag = none
  deriving DecidableEq

inductive TargetResolutionRefusalReason
  | unresolvedOpaqueReference | cognitiveMetadataIsNotContent | controlScopeMismatch
  | deletionCapabilityNotVerified | providerNamespaceOutOfScope | legacyProtectionStateUnresolved
  | staleResolution
  deriving DecidableEq, Repr

/-- What the resolver answers. -/
inductive TargetResolutionResult
  | descriptor (descriptor : ErasureTargetDescriptor)
  | refusal (reason : TargetResolutionRefusalReason)

namespace SafeTargetSnapshot

def violation (targetClass : ErasureTargetClass) (versionEtag : Option String) : Option String :=
  firstOf
    [refuse (!classesDeConteudo.contains targetClass) (targetClass.value ++
        " não é conteúdo apagável — metadado cognitivo e referência não resolvida não entram em " ++
          "proposta destrutiva"),
      validarOpcional "version_etag" versionEtag]

end SafeTargetSnapshot

/-- A target as it was shown. -/
structure SafeTargetSnapshot where
  targetClass : ErasureTargetClass
  subjectCoid : Uuid
  controlScope : ControlScope
  custodyNamespace : CustodyNamespace
  origin : ReferenceProvenance
  legacyProtectionState : LegacyProtectionState
  versionEtag : Option String
  accepted : SafeTargetSnapshot.violation targetClass versionEtag = none
  deriving DecidableEq

namespace SafeTargetSnapshot

def make (targetClass : ErasureTargetClass) (subjectCoid : Uuid) (controlScope : ControlScope)
    (custodyNamespace : CustodyNamespace) (origin : ReferenceProvenance)
    (legacyProtectionState : LegacyProtectionState) (versionEtag : Option String) :
    Except String SafeTargetSnapshot :=
  checked _ fun h => ⟨targetClass, subjectCoid, controlScope, custodyNamespace, origin,
    legacyProtectionState, versionEtag, h⟩

/-- A descriptor's snapshot. Its class and its version were checked already. -/
def fromDescriptor (descriptor : ErasureTargetDescriptor) : SafeTargetSnapshot where
  targetClass := descriptor.targetClass
  subjectCoid := descriptor.subjectCoid
  controlScope := descriptor.controlScope
  custodyNamespace := descriptor.custodyNamespace
  origin := descriptor.origin
  legacyProtectionState := descriptor.legacyProtectionState
  versionEtag := descriptor.versionEtag
  accepted := by simp [violation, descriptor.isContent, descriptor.versionEtag_accepted]

end SafeTargetSnapshot

end PiaOs.Memory
