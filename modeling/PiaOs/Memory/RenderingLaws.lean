import PiaOs.Memory.Rendering

/-!
# Which texts a rendering hides

Two values that differ only in free texts are rendered alike, whatever they hold. The one
rendering that nobody wrote shows its texts.
-/

namespace PiaOs.Memory.Rendering

open Support Piap

/-! ## Values that differ only in free texts

An absent text stays absent. -/

structure ControlScope.Semelhante (a b : ControlScope) : Prop where
  workspaceId : a.workspaceId = b.workspaceId
  tenantId : a.tenantId = b.tenantId

/-- Both fields are free texts. -/
def CustodyNamespace.Semelhante (_ _ : CustodyNamespace) : Prop := True

structure VerifiedDeletionCapability.Semelhante (a b : VerifiedDeletionCapability) : Prop where
  verified : a.verified = b.verified

structure ErasureTargetReference.Semelhante (a b : ErasureTargetReference) : Prop where
  subjectCoid : a.subjectCoid = b.subjectCoid
  origin : a.origin = b.origin
  controlScope : a.controlScope.Semelhante b.controlScope
  expectedNamespace : Option.Rel CustodyNamespace.Semelhante a.expectedNamespace b.expectedNamespace

structure ErasureTargetDescriptor.Semelhante (a b : ErasureTargetDescriptor) : Prop where
  targetClass : a.targetClass = b.targetClass
  subjectCoid : a.subjectCoid = b.subjectCoid
  controlScope : a.controlScope.Semelhante b.controlScope
  custodyNamespace : a.custodyNamespace.Semelhante b.custodyNamespace
  capability : a.capability.Semelhante b.capability
  resolvedAt : a.resolvedAt = b.resolvedAt
  origin : a.origin = b.origin
  legacyProtectionState : a.legacyProtectionState = b.legacyProtectionState
  versionEtag : a.versionEtag.isSome = b.versionEtag.isSome

structure SafeTargetSnapshot.Semelhante (a b : SafeTargetSnapshot) : Prop where
  targetClass : a.targetClass = b.targetClass
  subjectCoid : a.subjectCoid = b.subjectCoid
  controlScope : a.controlScope.Semelhante b.controlScope
  custodyNamespace : a.custodyNamespace.Semelhante b.custodyNamespace
  origin : a.origin = b.origin
  legacyProtectionState : a.legacyProtectionState = b.legacyProtectionState
  versionEtag : a.versionEtag.isSome = b.versionEtag.isSome

structure IdentityEvidence.Semelhante (a b : IdentityEvidence) : Prop where
  assuranceLevel : a.assuranceLevel = b.assuranceLevel
  authenticatedAt : a.authenticatedAt = b.authenticatedAt

structure ApprovalContext.Semelhante (a b : ApprovalContext) : Prop where
  tenantId : a.tenantId = b.tenantId
  workspaceId : a.workspaceId = b.workspaceId
  domainId : a.domainId = b.domainId

/-- The resolutions may differ in anything: a proposal hides the whole of its own. -/
structure DestructiveApprovalProposal.Semelhante (a b : DestructiveApprovalProposal) : Prop where
  operation : a.operation = b.operation
  targets : List.Forall₂ SafeTargetSnapshot.Semelhante a.targets b.targets
  impact : a.impact = b.impact
  context : a.context.Semelhante b.context
  provenance : a.provenance = b.provenance
  blockers : a.blockers = b.blockers
  materializedAt : a.materializedAt = b.materializedAt

structure DestructiveApprovalEnvelope.Semelhante (a b : DestructiveApprovalEnvelope) : Prop where
  proposal : a.proposal.Semelhante b.proposal
  approvalId : a.approvalId = b.approvalId
  nonce : a.nonce = b.nonce
  identity : a.identity.Semelhante b.identity
  context : a.context.Semelhante b.context
  provenance : a.provenance = b.provenance
  issuedAt : a.issuedAt = b.issuedAt
  confirmedAt : a.confirmedAt = b.confirmedAt
  expiresAt : a.expiresAt = b.expiresAt

structure ConsumedApprovalEvidence.Semelhante (a b : ConsumedApprovalEvidence) : Prop where
  approvalId : a.approvalId = b.approvalId
  operation : a.operation = b.operation
  tenantId : a.tenantId = b.tenantId
  workspaceId : a.workspaceId = b.workspaceId
  consumedAt : a.consumedAt = b.consumedAt

structure ErasureEffectRequest.Semelhante (a b : ErasureEffectRequest) : Prop where
  descriptor : a.descriptor.Semelhante b.descriptor
  «authorization» : a.authorization.Semelhante b.authorization

structure ObservedAttemptResult.Semelhante (a b : ObservedAttemptResult) : Prop where
  approvalId : a.approvalId = b.approvalId
  subjectCoid : a.subjectCoid = b.subjectCoid
  targetClass : a.targetClass = b.targetClass
  outcome : a.outcome = b.outcome
  attemptedAt : a.attemptedAt = b.attemptedAt
  completedAt : a.completedAt = b.completedAt
  failureCode : a.failureCode.isSome = b.failureCode.isSome

structure DestructiveExecutionRequest.Semelhante (a b : DestructiveExecutionRequest) : Prop where
  envelope : a.envelope.Semelhante b.envelope
  references : List.Forall₂ ErasureTargetReference.Semelhante a.references b.references

structure GovernanceProvenance.Semelhante (a b : GovernanceProvenance) : Prop where
  policyId : a.policyId = b.policyId
  policyVersion : a.policyVersion = b.policyVersion

/-- Two values of one type that differ only in free texts. -/
inductive Objeto.Semelhante : Objeto → Objeto → Prop
  | controlScope {a b} (h : ControlScope.Semelhante a b) :
    Semelhante (.controlScope a) (.controlScope b)
  | custodyNamespace {a b} (h : CustodyNamespace.Semelhante a b) :
    Semelhante (.custodyNamespace a) (.custodyNamespace b)
  | verifiedDeletionCapability {a b} (h : VerifiedDeletionCapability.Semelhante a b) :
    Semelhante (.verifiedDeletionCapability a) (.verifiedDeletionCapability b)
  | erasureTargetReference {a b} (h : ErasureTargetReference.Semelhante a b) :
    Semelhante (.erasureTargetReference a) (.erasureTargetReference b)
  | erasureTargetDescriptor {a b} (h : ErasureTargetDescriptor.Semelhante a b) :
    Semelhante (.erasureTargetDescriptor a) (.erasureTargetDescriptor b)
  | safeTargetSnapshot {a b} (h : SafeTargetSnapshot.Semelhante a b) :
    Semelhante (.safeTargetSnapshot a) (.safeTargetSnapshot b)
  | identityEvidence {a b} (h : IdentityEvidence.Semelhante a b) :
    Semelhante (.identityEvidence a) (.identityEvidence b)
  | approvalContext {a b} (h : ApprovalContext.Semelhante a b) :
    Semelhante (.approvalContext a) (.approvalContext b)
  | destructiveApprovalProposal {a b} (h : DestructiveApprovalProposal.Semelhante a b) :
    Semelhante (.destructiveApprovalProposal a) (.destructiveApprovalProposal b)
  | destructiveApprovalEnvelope {a b} (h : DestructiveApprovalEnvelope.Semelhante a b) :
    Semelhante (.destructiveApprovalEnvelope a) (.destructiveApprovalEnvelope b)
  | consumedApprovalEvidence {a b} (h : ConsumedApprovalEvidence.Semelhante a b) :
    Semelhante (.consumedApprovalEvidence a) (.consumedApprovalEvidence b)
  | erasureEffectRequest {a b} (h : ErasureEffectRequest.Semelhante a b) :
    Semelhante (.erasureEffectRequest a) (.erasureEffectRequest b)
  | observedAttemptResult {a b} (h : ObservedAttemptResult.Semelhante a b) :
    Semelhante (.observedAttemptResult a) (.observedAttemptResult b)
  | destructiveExecutionRequest {a b} (h : DestructiveExecutionRequest.Semelhante a b) :
    Semelhante (.destructiveExecutionRequest a) (.destructiveExecutionRequest b)
  | governanceProvenance {a b} (h : GovernanceProvenance.Semelhante a b) :
    Semelhante (.governanceProvenance a) (.governanceProvenance b)

/-! ## One rendering for both -/

section Hidden

variable {printable : CodePoint → Bool}

/-- An accepted text is not empty, so whether it is shown depends on its presence alone. -/
theorem seHouver_eq (t : Option TextoOpaco) :
    seHouver t = if t.isSome then some textoOculto else none := by
  cases t with
  | none => rfl
  | some texto =>
    have hne : texto.val ≠ [] := by
      intro hempty
      have hstated := texto.property.1
      rw [hempty] at hstated
      cases hstated
    simp [seHouver, hne]

theorem seHouver_congr {t t' : Option TextoOpaco} (h : t.isSome = t'.isSome) :
    seHouver t = seHouver t' := by
  rw [seHouver_eq, seHouver_eq, h]

theorem reprOu_congr {α : Type} {r : α → α → Prop} {rep : α → Option Texto} {a b : Option α}
    (hrep : ∀ a b, r a b → rep a = rep b) (h : Option.Rel r a b) : reprOu rep a = reprOu rep b := by
  cases h with
  | none => rfl
  | some hab => exact hrep _ _ hab

/-- Batches whose items are rendered alike are rendered alike. -/
theorem mapM_congr_forall₂ {α : Type} {r : α → α → Prop} {rep : α → Option Texto} {as bs : List α}
    (hrep : ∀ a b, r a b → rep a = rep b) (h : List.Forall₂ r as bs) :
    as.mapM rep = bs.mapM rep := by
  induction h with
  | nil => rfl
  | cons hab _ ih => rw [List.mapM_cons, List.mapM_cons, hrep _ _ hab, ih]

theorem ControlScope.Semelhante.repr_eq {a b : ControlScope} (h : a.Semelhante b) :
    a.repr printable = b.repr printable := by
  unfold ControlScope.repr
  rw [h.workspaceId, h.tenantId]

theorem VerifiedDeletionCapability.Semelhante.repr_eq {a b : VerifiedDeletionCapability}
    (h : a.Semelhante b) : a.repr = b.repr := by
  unfold VerifiedDeletionCapability.repr
  rw [h.verified]

theorem ErasureTargetReference.Semelhante.repr_eq {a b : ErasureTargetReference}
    (h : a.Semelhante b) : a.repr printable = b.repr printable := by
  unfold ErasureTargetReference.repr
  rw [h.subjectCoid, h.origin, h.controlScope.repr_eq,
    reprOu_congr (fun _ _ _ => rfl) h.expectedNamespace]

theorem ErasureTargetDescriptor.Semelhante.repr_eq {a b : ErasureTargetDescriptor}
    (h : a.Semelhante b) : a.repr printable = b.repr printable := by
  unfold ErasureTargetDescriptor.repr
  rw [h.targetClass, h.subjectCoid, h.capability.repr_eq, h.legacyProtectionState, h.resolvedAt,
    seHouver_congr h.versionEtag]
  rfl

theorem SafeTargetSnapshot.Semelhante.repr_eq {a b : SafeTargetSnapshot} (h : a.Semelhante b) :
    a.repr printable = b.repr printable := by
  unfold SafeTargetSnapshot.repr
  rw [h.targetClass, h.subjectCoid, h.controlScope.repr_eq, h.origin, h.legacyProtectionState,
    seHouver_congr h.versionEtag]
  rfl

theorem IdentityEvidence.Semelhante.repr_eq {a b : IdentityEvidence} (h : a.Semelhante b) :
    a.repr printable = b.repr printable := by
  unfold IdentityEvidence.repr
  rw [h.assuranceLevel, h.authenticatedAt]

theorem ApprovalContext.Semelhante.repr_eq {a b : ApprovalContext} (h : a.Semelhante b) :
    a.repr printable = b.repr printable := by
  unfold ApprovalContext.repr
  rw [h.tenantId, h.workspaceId, h.domainId]

theorem DestructiveApprovalProposal.Semelhante.repr_eq {a b : DestructiveApprovalProposal}
    (h : a.Semelhante b) : a.repr printable = b.repr printable := by
  unfold DestructiveApprovalProposal.repr
  have htargets : a.targets.mapM (SafeTargetSnapshot.repr printable) =
      b.targets.mapM (SafeTargetSnapshot.repr printable) :=
    mapM_congr_forall₂ (fun _ _ => SafeTargetSnapshot.Semelhante.repr_eq) h.targets
  rw [h.operation, htargets, h.impact, h.context.repr_eq, h.provenance, h.blockers, h.materializedAt]

theorem DestructiveApprovalEnvelope.Semelhante.repr_eq {a b : DestructiveApprovalEnvelope}
    (h : a.Semelhante b) : a.repr printable = b.repr printable := by
  unfold DestructiveApprovalEnvelope.repr
  rw [h.approvalId, h.nonce, h.proposal.repr_eq, h.identity.repr_eq, h.context.repr_eq,
    h.provenance, h.issuedAt, h.confirmedAt, h.expiresAt]

theorem ConsumedApprovalEvidence.Semelhante.repr_eq {a b : ConsumedApprovalEvidence}
    (h : a.Semelhante b) : a.repr printable = b.repr printable := by
  unfold ConsumedApprovalEvidence.repr
  rw [h.approvalId, h.operation, h.tenantId, h.workspaceId, h.consumedAt]

theorem ErasureEffectRequest.Semelhante.repr_eq {a b : ErasureEffectRequest}
    (h : a.Semelhante b) : a.repr printable = b.repr printable := by
  unfold ErasureEffectRequest.repr
  rw [h.authorization.repr_eq]

theorem ObservedAttemptResult.Semelhante.repr_eq {a b : ObservedAttemptResult}
    (h : a.Semelhante b) : a.repr printable = b.repr printable := by
  unfold ObservedAttemptResult.repr
  rw [h.approvalId, h.subjectCoid, h.targetClass, h.outcome, h.attemptedAt, h.completedAt,
    seHouver_congr h.failureCode]

/-- Of the references it shows how many there are. -/
theorem DestructiveExecutionRequest.Semelhante.repr_eq {a b : DestructiveExecutionRequest}
    (h : a.Semelhante b) : a.repr printable = b.repr printable := by
  have hid : a.approvalId = b.approvalId := h.envelope.approvalId
  have hoperation : a.operation = b.operation := h.envelope.proposal.operation
  unfold DestructiveExecutionRequest.repr
  rw [hid, hoperation, h.references.length_eq]

end Hidden

/-! ## The rendering that nobody wrote -/

section Shown

variable {printable : CodePoint → Bool}

theorem reprInteiro_eq_none {n : ℤ} :
    reprInteiro n = none ↔ 10 ^ intMaxStrDigits ≤ n.natAbs := by
  unfold reprInteiro
  split_ifs with hfits
  · exact iff_of_false (by simp) (not_le.mpr hfits)
  · exact iff_of_true rfl (not_lt.mp hfits)

/-- The rendering of a provenance, when its version has one. -/
theorem GovernanceProvenance.repr_of_some {g : GovernanceProvenance} {versao : Texto}
    (h : reprInteiro g.policyVersion.val = some versao) :
    g.repr printable = some (Texto.of "GovernanceProvenance(" ++
      ((Texto.of "policy_id=" ++ reprUuid printable g.policyId ++ Texto.of ", " ++
        Texto.of "policy_key=") ++ (g.policyKey.val.repr printable ++ (Texto.of ", " ++
        Texto.of "policy_version=" ++ versao ++ Texto.of ", " ++ Texto.of "matched_rule_id=" ++
        (g.matchedRuleId.val.repr printable ++ Texto.of ")"))))) := by
  unfold GovernanceProvenance.repr objeto
  simp [h, juntar, List.append_assoc]

/-- Provenances are rendered alike when their texts are the same, and when none of them is
rendered. -/
theorem GovernanceProvenance.Semelhante.repr_eq_iff {a b : GovernanceProvenance}
    (h : a.Semelhante b) :
    a.repr printable = b.repr printable ↔
      a.policyKey = b.policyKey ∧ a.matchedRuleId = b.matchedRuleId ∨
        10 ^ intMaxStrDigits ≤ a.policyVersion.val := by
  have hbound : 10 ^ intMaxStrDigits ≤ a.policyVersion.val ↔
      reprInteiro a.policyVersion.val = none := by
    have hpositive := a.policyVersion.property
    have habs : (a.policyVersion.val.natAbs : ℤ) = a.policyVersion.val :=
      Int.natAbs_of_nonneg (by omega)
    rw [reprInteiro_eq_none, ← Nat.cast_le (α := ℤ), habs, Nat.cast_pow]
    rfl
  rw [hbound]
  cases hversion : reprInteiro a.policyVersion.val with
  | none =>
    refine iff_of_true ?_ (.inr rfl)
    have hversion' := hversion
    rw [h.policyVersion] at hversion'
    unfold GovernanceProvenance.repr objeto
    simp [hversion, hversion']
  | some versao =>
    have hversion' := hversion
    rw [h.policyVersion] at hversion'
    rw [repr_of_some hversion, repr_of_some hversion', h.policyId]
    constructor
    · intro heq
      have htexts := List.append_cancel_left (List.append_cancel_left (Option.some.inj heq))
      obtain ⟨hkey, hrest⟩ := Texto.repr_append_inj htexts
      obtain ⟨hrule, -⟩ := Texto.repr_append_inj (List.append_cancel_left hrest)
      exact .inl ⟨Subtype.ext hkey, Subtype.ext hrule⟩
    · rintro (⟨hkey, hrule⟩ | hnone)
      · rw [hkey, hrule]
      · cases hnone

end Shown

/-! ## Every value object -/

section Objects

variable {printable : CodePoint → Bool} {x y : Objeto}

/-- The written renderings are the same for values that differ only in free texts. -/
theorem Objeto.Semelhante.repr_eq (h : x.Semelhante y) (hx : ∀ g, x ≠ .governanceProvenance g) :
    x.repr printable = y.repr printable := by
  cases h with
  | governanceProvenance hab => exact absurd rfl (hx _)
  | controlScope hab => exact hab.repr_eq
  | custodyNamespace hab => rfl
  | verifiedDeletionCapability hab => exact hab.repr_eq
  | erasureTargetReference hab => exact hab.repr_eq
  | erasureTargetDescriptor hab => exact hab.repr_eq
  | safeTargetSnapshot hab => exact hab.repr_eq
  | identityEvidence hab => exact hab.repr_eq
  | approvalContext hab => exact hab.repr_eq
  | destructiveApprovalProposal hab => exact hab.repr_eq
  | destructiveApprovalEnvelope hab => exact hab.repr_eq
  | consumedApprovalEvidence hab => exact hab.repr_eq
  | erasureEffectRequest hab => exact hab.repr_eq
  | observedAttemptResult hab => exact hab.repr_eq
  | destructiveExecutionRequest hab => exact hab.repr_eq

/-- Values that differ only in free texts are rendered alike, except for a provenance of the
governance that can be rendered at all: it shows both of its texts. -/
theorem rendering_confidential (h : x.Semelhante y) :
    (x.repr printable = y.repr printable ∧ x.str printable = y.str printable) ↔
      ∀ g g', x = .governanceProvenance g → y = .governanceProvenance g' →
        g.policyKey = g'.policyKey ∧ g.matchedRuleId = g'.matchedRuleId ∨
          10 ^ intMaxStrDigits ≤ g.policyVersion.val := by
  unfold Objeto.str
  rw [and_self]
  by_cases hx : ∃ g, x = .governanceProvenance g
  · obtain ⟨g, rfl⟩ := hx
    cases h with
    | @governanceProvenance _ b hab =>
      refine hab.repr_eq_iff.trans ⟨fun htexts g₁ g₂ heq heq' => ?_, fun hall => hall g b rfl rfl⟩
      cases heq
      cases heq'
      exact htexts
  · have hother : ∀ g, x ≠ .governanceProvenance g := fun g heq => hx ⟨g, heq⟩
    exact iff_of_true (h.repr_eq hother) fun g _ heq => absurd heq (hother g)

end Objects

/-- A control scope of the principal. -/
def escopoDe (principal : TextoOpaco) : Objeto := .controlScope ⟨1, 2, principal⟩

/-- Two principals are not told apart by the rendering of what they control. -/
theorem controlScope_rendered_alike :
    (escopoDe ⟨Texto.of "ana", by decide⟩).repr (fun _ => true) =
        (escopoDe ⟨Texto.of "rui", by decide⟩).repr (fun _ => true) ∧
      (escopoDe ⟨Texto.of "ana", by decide⟩).str (fun _ => true) =
        (escopoDe ⟨Texto.of "rui", by decide⟩).str (fun _ => true) :=
  (rendering_confidential (.controlScope ⟨rfl, rfl⟩)).mpr fun _ _ heq => by cases heq

/-- A provenance under the policy of the key. -/
def provenienciaDe (chave : TextoNaoVazio) : GovernanceProvenance where
  policyId := 1
  policyKey := chave
  policyVersion := ⟨1, le_refl 1⟩
  matchedRuleId := ⟨Texto.of "r1", by decide⟩

/-- Two policies are told apart by the rendering of a provenance. -/
theorem provenance_shows_policy_key :
    (provenienciaDe ⟨Texto.of "folha", by decide⟩).Semelhante
        (provenienciaDe ⟨Texto.of "saude", by decide⟩) ∧
      (provenienciaDe ⟨Texto.of "folha", by decide⟩).repr (fun _ => true) ≠
        (provenienciaDe ⟨Texto.of "saude", by decide⟩).repr (fun _ => true) ∧
      ¬∀ (printable : CodePoint → Bool) (x y : Objeto), x.Semelhante y →
        x.repr printable = y.repr printable ∧ x.str printable = y.str printable := by
  have hsimilar : (provenienciaDe ⟨Texto.of "folha", by decide⟩).Semelhante
      (provenienciaDe ⟨Texto.of "saude", by decide⟩) := ⟨rfl, rfl⟩
  have hshown : (provenienciaDe ⟨Texto.of "folha", by decide⟩).repr (fun _ => true) ≠
      (provenienciaDe ⟨Texto.of "saude", by decide⟩).repr (fun _ => true) := by
    intro heq
    rcases hsimilar.repr_eq_iff.mp heq with ⟨hkey, -⟩ | hlong
    · exact absurd hkey (by decide)
    · exact absurd hlong (by decide +kernel)
  exact ⟨hsimilar, hshown, fun hall =>
    hshown (hall _ _ _ (.governanceProvenance hsimilar)).1⟩

end PiaOs.Memory.Rendering
