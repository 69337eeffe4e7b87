import Mathlib.Tactic.Common
import PiaOs.Support.Json

/-!
# The closed vocabularies of the orchestration

Life cycles, operations and reasons of `models/enums.py`, with the transitions
that each delivery declares, and the errors that the services raise.
-/

namespace PiaOs

inductive ScheduleState
  | draft | active | paused | completed | cancelled | stopped
  deriving DecidableEq, Repr

inductive StepState
  | pending | dispatched | awaitingReturn | returned | rejected | failed | cancelled
  deriving DecidableEq, Repr

inductive AttemptState
  | open | closedOk | closedRejected | closedTimeout | closedCancelled
  deriving DecidableEq, Repr

inductive HandoffMode
  | manualHandoff | supervisedAutomaticHandoff | restrictedAutomaticContinuation
  deriving DecidableEq, Repr

inductive CommandOperation
  | createSchedule | sealHandoff | exportHandoff | importReturn
  | grantDelegation | revokeDelegation | controlSchedule | issueAuditOpinion
  deriving DecidableEq, Repr

inductive HandoffResultStatus
  | validated | rejected
  deriving DecidableEq, Repr

inductive DelegationState
  | active | consumed | revoked | expired
  deriving DecidableEq, Repr

inductive ControlEventKind
  | paused | resumed | stopped | cancelled | completed
  deriving DecidableEq, Repr

inductive ControlReasonCode
  | operatorRequested | delegationMissing | delegationExpired | delegationContentChanged
  | humanGateUnavailable | stopConditionDeclared | allStepsReturned
  deriving DecidableEq, Repr

inductive StopConditionCategory
  | missingAuthority | scopeOrImpactChange | providerOrToolSwitch | costQuotaOrDurationLimit
  | secretOrPrivacyRisk | artifactIdentityMismatch | mandatoryGateFailed
  | materialAuditFinding | externalEffectRequested | provenanceOrIsolationFailure
  deriving DecidableEq, Repr

inductive ObservationKind
  | declaredProviderSwitch
  deriving DecidableEq, Repr

inductive AuditOpinionKind
  | concur | dissent | insufficientEvidence | outOfScope
  deriving DecidableEq, Repr

inductive AuditReasonCode
  | contractConforms | contractNonconformity | evidenceMissing | scopeExcluded
  deriving DecidableEq, Repr

inductive GateReasonCode
  | authorized | humanAuthorityUnavailable
  deriving DecidableEq, Repr

inductive ConnectionMethod
  | manualHandoff | providerNativeMcpInbound | directProviderApi | providerNativeAgentBridge
  | enterpriseGatewayOrBroker | localModelAdapter | browserAssistedHandoff | watchedInboxOutbox
  deriving DecidableEq, Repr

inductive ConnectionState
  | declared | preflightRequired | implementedPendingAudit | available
  | degraded | revoked | unsupported
  deriving DecidableEq, Repr

inductive ModelAttestationLevel
  | attested | selfDeclared | unknown
  deriving DecidableEq, Repr

/-! ## Values as they stand in messages, fingerprints and receipts -/

def ScheduleState.value : ScheduleState → String
  | .draft => "draft"
  | .active => "active"
  | .paused => "paused"
  | .completed => "completed"
  | .cancelled => "cancelled"
  | .stopped => "stopped"

def StepState.value : StepState → String
  | .pending => "pending"
  | .dispatched => "dispatched"
  | .awaitingReturn => "awaiting_return"
  | .returned => "returned"
  | .rejected => "rejected"
  | .failed => "failed"
  | .cancelled => "cancelled"

def AttemptState.value : AttemptState → String
  | .open => "open"
  | .closedOk => "closed_ok"
  | .closedRejected => "closed_rejected"
  | .closedTimeout => "closed_timeout"
  | .closedCancelled => "closed_cancelled"

def HandoffMode.value : HandoffMode → String
  | .manualHandoff => "manual_handoff"
  | .supervisedAutomaticHandoff => "supervised_automatic_handoff"
  | .restrictedAutomaticContinuation => "restricted_automatic_continuation"

def CommandOperation.value : CommandOperation → String
  | .createSchedule => "orchestration.create_schedule"
  | .sealHandoff => "orchestration.seal_handoff"
  | .exportHandoff => "orchestration.export_handoff"
  | .importReturn => "orchestration.import_return"
  | .grantDelegation => "orchestration.grant_delegation"
  | .revokeDelegation => "orchestration.revoke_delegation"
  | .controlSchedule => "orchestration.control_schedule"
  | .issueAuditOpinion => "orchestration.issue_audit_opinion"

def DelegationState.value : DelegationState → String
  | .active => "active"
  | .consumed => "consumed"
  | .revoked => "revoked"
  | .expired => "expired"

def ControlReasonCode.value : ControlReasonCode → String
  | .operatorRequested => "operator_requested"
  | .delegationMissing => "delegation_missing"
  | .delegationExpired => "delegation_expired"
  | .delegationContentChanged => "delegation_content_changed"
  | .humanGateUnavailable => "human_gate_unavailable"
  | .stopConditionDeclared => "stop_condition_declared"
  | .allStepsReturned => "all_steps_returned"

def StopConditionCategory.value : StopConditionCategory → String
  | .missingAuthority => "missing_authority"
  | .scopeOrImpactChange => "scope_or_impact_change"
  | .providerOrToolSwitch => "provider_or_tool_switch"
  | .costQuotaOrDurationLimit => "cost_quota_or_duration_limit"
  | .secretOrPrivacyRisk => "secret_or_privacy_risk"
  | .artifactIdentityMismatch => "artifact_identity_mismatch"
  | .mandatoryGateFailed => "mandatory_gate_failed"
  | .materialAuditFinding => "material_audit_finding"
  | .externalEffectRequested => "external_effect_requested"
  | .provenanceOrIsolationFailure => "provenance_or_isolation_failure"

def AuditOpinionKind.value : AuditOpinionKind → String
  | .concur => "concur"
  | .dissent => "dissent"
  | .insufficientEvidence => "insufficient_evidence"
  | .outOfScope => "out_of_scope"

def AuditReasonCode.value : AuditReasonCode → String
  | .contractConforms => "contract_conforms"
  | .contractNonconformity => "contract_nonconformity"
  | .evidenceMissing => "evidence_missing"
  | .scopeExcluded => "scope_excluded"

/-! ## Declared sets and transitions -/

def terminalScheduleStates : List ScheduleState := [.completed, .cancelled, .stopped]

def executableHandoffModes : List HandoffMode := [.manualHandoff]

def terminalConnectionStates : List ConnectionState := [.revoked, .unsupported]

def e71ScheduleTransitions : List (ScheduleState × ScheduleState) := [(.draft, .active)]

def e71StepTransitions : List (StepState × StepState) := []

def e71AttemptTransitions : List (AttemptState × AttemptState) := []

def e72StepTransitions : List (StepState × StepState) :=
  [(.pending, .dispatched), (.dispatched, .awaitingReturn), (.awaitingReturn, .returned)]

def e72AttemptTransitions : List (AttemptState × AttemptState) :=
  [(.open, .closedOk), (.open, .closedRejected)]

def e73ScheduleTransitions : List (ScheduleState × ScheduleState) :=
  [(.active, .paused), (.paused, .active), (.active, .stopped), (.paused, .stopped),
    (.active, .cancelled), (.paused, .cancelled), (.active, .completed)]

def e73StepTransitions : List (StepState × StepState) :=
  [(.pending, .cancelled), (.awaitingReturn, .cancelled)]

def e73AttemptTransitions : List (AttemptState × AttemptState) := [(.open, .closedCancelled)]

/-- The docstring of `DelegationState`: `ACTIVE -> CONSUMED | REVOKED | EXPIRED`. -/
def delegationTransitions : List (DelegationState × DelegationState) :=
  [(.active, .consumed), (.active, .revoked), (.active, .expired)]

def auditOpinionReasonMatrix : AuditOpinionKind → List AuditReasonCode
  | .concur => [.contractConforms]
  | .dissent => [.contractNonconformity]
  | .insufficientEvidence => [.evidenceMissing]
  | .outOfScope => [.scopeExcluded]

/-! ## Errors -/

/-- The exception classes that leave the services. -/
inductive ErrorKind
  | contractViolation | scopeViolation | lifecycleViolation | dispatchBlocked
  | connectionContractViolation | connectionScopeViolation | handoffBlocked
  | lookupError | valueError | keyError | runtimeError | integrityError | multipleResultsFound
  deriving DecidableEq, Repr

/-- An exception with its message and its detail. -/
structure Failure where
  kind : ErrorKind
  message : String
  detail : List (String × Support.Json) := []

end PiaOs
