import PiaOs.Memory.Approval

/-!
# Stored approvals

The three tables of a stored approval: the record with its scalar binding, its
targets in the confirmed order and the collections of its resolution. The store
carries what the schema enforces, so that a row that breaks it cannot be built.
-/

namespace PiaOs.Memory

open Support

inductive ApprovalLifecycleState
  | active | consumed | revoked
  deriving DecidableEq, Repr

inductive GovernanceItemKind
  | domainId | blockedCapability | admissibleAlternative | constraint | declaredPreservation
  | declaredLoss
  deriving DecidableEq, Repr

structure ApprovalRecord where
  id : Uuid
  nonce : Uuid
  state : ApprovalLifecycleState
  consumedAt : Option Instant
  revokedAt : Option Instant
  operation : DestructiveOperation
  principalRef : String
  assuranceLevel : AssuranceLevel
  authenticatedAt : Instant
  tenantId : Uuid
  workspaceId : Uuid
  domainId : Uuid
  purposeRef : String
  channel : InputChannel
  voiceReview : VoiceReviewState
  impactItemCount : Int
  impactVolumeKind : ImpactVolumeKind
  impactBytesTotal : Option Int
  governanceOutcome : GovernanceOutcome
  governanceOperation : CognitiveOperation
  governanceActorRef : Option String
  governancePurpose : Option String
  governanceSafetyBoundaryVersion : Int
  governanceSafetyRationale : String
  governancePreservedIntent : Option String
  governancePolicyKey : Option String
  governancePolicyVersion : Option Int
  governancePolicyId : Option Uuid
  governanceMatchedRuleId : Option String
  governancePolicyRationale : String
  materializedAt : Instant
  issuedAt : Instant
  confirmedAt : Instant
  expiresAt : Instant
  deriving DecidableEq

structure ApprovalRecordTarget where
  approvalRecordId : Uuid
  position : Nat
  targetClass : ErasureTargetClass
  subjectCoid : Uuid
  controlWorkspaceId : Uuid
  controlTenantId : Uuid
  controlPrincipalRef : String
  custodyProvider : String
  custodyNamespace : String
  originKind : ReferenceOrigin
  originPosition : Option Int
  legacyProtectionState : LegacyProtectionState
  versionEtag : Option String
  deriving DecidableEq

structure ApprovalRecordGovernanceItem where
  approvalRecordId : Uuid
  kind : GovernanceItemKind
  position : Nat
  valueUuid : Option Uuid
  valueEnum : Option CriticalCapability
  valueText : Option String
  deriving DecidableEq

/-! ## Columns -/

/-- What a `VARCHAR(512)` column holds. -/
def fitsText (s : String) : Bool := s.length ≤ 512 && !s.toList.contains (Char.ofNat 0)

/-- What an `INTEGER` column holds. -/
def fitsInteger (n : Int) : Bool := -2147483648 ≤ n && n ≤ 2147483647

/-- What an assignment puts into a `VARCHAR(512)` column: spaces in excess are cut. -/
def varchar (s : String) : String :=
  if 512 < s.length && (s.toList.drop 512).all (· == ' ') then String.ofList (s.toList.take 512)
  else s

theorem varchar_of_fits {s : String} (h : fitsText s = true) : varchar s = s := by
  simp only [fitsText, Bool.and_eq_true, decide_eq_true_eq] at h
  rw [varchar, if_neg]
  simp only [Bool.and_eq_true, decide_eq_true_eq, not_and]
  intro hlong
  omega

namespace ApprovalRecord

def texts (r : ApprovalRecord) : List String :=
  [r.principalRef, r.purposeRef, r.governanceSafetyRationale, r.governancePolicyRationale] ++
    r.governanceActorRef.toList ++ r.governancePurpose.toList ++
    r.governancePreservedIntent.toList ++ r.governancePolicyKey.toList ++
    r.governanceMatchedRuleId.toList

def integers (r : ApprovalRecord) : List Int :=
  [r.impactItemCount, r.governanceSafetyBoundaryVersion] ++ r.impactBytesTotal.toList ++
    r.governancePolicyVersion.toList

def fits (r : ApprovalRecord) : Bool := r.texts.all fitsText && r.integers.all fitsInteger

/-- The row as the columns take it. -/
def assigned (r : ApprovalRecord) : ApprovalRecord :=
  { r with
    principalRef := varchar r.principalRef
    purposeRef := varchar r.purposeRef
    governanceActorRef := r.governanceActorRef.map varchar
    governancePurpose := r.governancePurpose.map varchar
    governanceSafetyRationale := varchar r.governanceSafetyRationale
    governancePreservedIntent := r.governancePreservedIntent.map varchar
    governancePolicyKey := r.governancePolicyKey.map varchar
    governanceMatchedRuleId := r.governanceMatchedRuleId.map varchar
    governancePolicyRationale := varchar r.governancePolicyRationale }

/-- The `CHECK` constraints of the table. -/
def checks (r : ApprovalRecord) : Bool :=
  r.nonce ≠ r.id && 0 ≤ r.impactItemCount &&
    (match r.impactVolumeKind, r.impactBytesTotal with
      | .known, some bytes => 0 ≤ bytes
      | .unknown, none => true
      | _, _ => false) &&
    (r.materializedAt ≤ r.authenticatedAt && r.authenticatedAt ≤ r.confirmedAt &&
      r.materializedAt ≤ r.issuedAt && r.issuedAt ≤ r.confirmedAt && r.confirmedAt < r.expiresAt) &&
    (match r.state with
      | .active => r.consumedAt.isNone && r.revokedAt.isNone
      | .consumed => r.consumedAt.isSome && r.revokedAt.isNone
      | .revoked => r.revokedAt.isSome && r.consumedAt.isNone)

end ApprovalRecord

namespace ApprovalRecordTarget

def texts (r : ApprovalRecordTarget) : List String :=
  [r.controlPrincipalRef, r.custodyProvider, r.custodyNamespace] ++ r.versionEtag.toList

def integers (r : ApprovalRecordTarget) : List Int :=
  (r.position : Int) :: r.originPosition.toList

def fits (r : ApprovalRecordTarget) : Bool := r.texts.all fitsText && r.integers.all fitsInteger

def assigned (r : ApprovalRecordTarget) : ApprovalRecordTarget :=
  { r with
    controlPrincipalRef := varchar r.controlPrincipalRef
    custodyProvider := varchar r.custodyProvider
    custodyNamespace := varchar r.custodyNamespace
    versionEtag := r.versionEtag.map varchar }

def checks (r : ApprovalRecordTarget) : Bool := r.originPosition.all (0 ≤ ·)

end ApprovalRecordTarget

namespace ApprovalRecordGovernanceItem

def fits (r : ApprovalRecordGovernanceItem) : Bool :=
  r.valueText.all fitsText && fitsInteger r.position

def assigned (r : ApprovalRecordGovernanceItem) : ApprovalRecordGovernanceItem :=
  { r with valueText := r.valueText.map varchar }

/-- The value column is the one of the kind. -/
def checks (r : ApprovalRecordGovernanceItem) : Bool :=
  match r.kind with
  | .domainId => r.valueUuid.isSome && r.valueEnum.isNone && r.valueText.isNone
  | .blockedCapability => r.valueEnum.isSome && r.valueUuid.isNone && r.valueText.isNone
  | _ => r.valueText.isSome && r.valueUuid.isNone && r.valueEnum.isNone

end ApprovalRecordGovernanceItem

/-! ## Tables -/

structure ApprovalTables where
  records : List ApprovalRecord := []
  targets : List ApprovalRecordTarget := []
  items : List ApprovalRecordGovernanceItem := []
  deriving DecidableEq

/-- What the schema enforces of the three tables. -/
structure ApprovalTables.Sound (t : ApprovalTables) : Prop where
  record_ids : (t.records.map ApprovalRecord.id).Nodup
  record_nonces : (t.records.map ApprovalRecord.nonce).Nodup
  record_rows : ∀ r ∈ t.records, r.fits = true ∧ r.checks = true
  target_positions : (t.targets.map fun r => (r.approvalRecordId, r.position)).Nodup
  target_subjects : (t.targets.map fun r => (r.approvalRecordId, r.subjectCoid)).Nodup
  target_rows : ∀ r ∈ t.targets, r.fits = true ∧ r.checks = true
  target_records : ∀ r ∈ t.targets, r.approvalRecordId ∈ t.records.map ApprovalRecord.id
  item_positions : (t.items.map fun r => (r.approvalRecordId, r.kind, r.position)).Nodup
  item_rows : ∀ r ∈ t.items, r.fits = true ∧ r.checks = true
  item_records : ∀ r ∈ t.items, r.approvalRecordId ∈ t.records.map ApprovalRecord.id

instance (t : ApprovalTables) : Decidable t.Sound :=
  decidable_of_iff
    ((t.records.map ApprovalRecord.id).Nodup ∧ (t.records.map ApprovalRecord.nonce).Nodup ∧
      (∀ r ∈ t.records, r.fits = true ∧ r.checks = true) ∧
      (t.targets.map fun r => (r.approvalRecordId, r.position)).Nodup ∧
      (t.targets.map fun r => (r.approvalRecordId, r.subjectCoid)).Nodup ∧
      (∀ r ∈ t.targets, r.fits = true ∧ r.checks = true) ∧
      (∀ r ∈ t.targets, r.approvalRecordId ∈ t.records.map ApprovalRecord.id) ∧
      (t.items.map fun r => (r.approvalRecordId, r.kind, r.position)).Nodup ∧
      (∀ r ∈ t.items, r.fits = true ∧ r.checks = true) ∧
      ∀ r ∈ t.items, r.approvalRecordId ∈ t.records.map ApprovalRecord.id)
    ⟨fun ⟨a, b, c, d, e, f, g, h, i, j⟩ => ⟨a, b, c, d, e, f, g, h, i, j⟩,
      fun ⟨a, b, c, d, e, f, g, h, i, j⟩ => ⟨a, b, c, d, e, f, g, h, i, j⟩⟩

/-- The approval tables of a database. -/
structure ApprovalStore extends ApprovalTables where
  sound : toApprovalTables.Sound
  deriving DecidableEq

/-- What a statement raises: a value that the column or the driver does not take, a
violated constraint, or a lost connection. -/
inductive DatabaseError
  | data | integrity | connection
  deriving DecidableEq, Repr

/-- The tables as a statement leaves them, when every row fits and no constraint is
violated. -/
def ApprovalTables.settle (t : ApprovalTables) : Except DatabaseError ApprovalStore :=
  if h : t.Sound then .ok ⟨t, h⟩
  else if t.records.all ApprovalRecord.fits && t.targets.all ApprovalRecordTarget.fits &&
      t.items.all ApprovalRecordGovernanceItem.fits then .error .integrity
  else .error .data

/-! ## Reading -/

namespace ApprovalTables

/-- The row with the given identifier. -/
def get (t : ApprovalTables) (id : Uuid) : Option ApprovalRecord :=
  t.records.find? fun r => r.id == id

/-- The targets of a record, in order. -/
def targetsOf (t : ApprovalTables) (id : Uuid) : List ApprovalRecordTarget :=
  (t.targets.filter (·.approvalRecordId == id)).insertionSort (·.position ≤ ·.position)

/-- The items of one kind of a record, in order. -/
def itemsOf (t : ApprovalTables) (id : Uuid) (kind : GovernanceItemKind) :
    List ApprovalRecordGovernanceItem :=
  (t.items.filter fun r => r.approvalRecordId == id && r.kind == kind).insertionSort
    (·.position ≤ ·.position)

end ApprovalTables

end PiaOs.Memory
