import PiaOs.Runs.Transitions
import PiaOs.Runs.Revocations
import PiaOs.Runs.Cancellation
import PiaOs.Runs.Gates
import PiaOs.Runs.Idempotency
import PiaOs.Access.GateLaws
import PiaOs.Mcp.TokenVerifier
import PiaOs.Memory.Decomposition
import PiaOs.Memory.ComplianceLaws
import PiaOs.Memory.Receipts
import PiaOs.Piap.Boundary
import PiaOs.Predictive.RoutingLaws
import PiaOs.Sync.Import
import PiaOs.Sync.EventOrder
import PiaOs.Integrity.AuditLaws
import PiaOs.Integrity.CycleFinder
import PiaOs.Envelope.Identity
import PiaOs.Memory.RetentionLaws
import PiaOs.Memory.ZonedLaws
import PiaOs.Memory.Codec.RetentionCanonical
import PiaOs.Runs.Authorizations
import PiaOs.Runs.Switches
import PiaOs.Memory.ExperienceLaws
import PiaOs.Predictive.Horizon
import PiaOs.Predictive.Recommendation
import PiaOs.Predictive.ClaimIdentity
import PiaOs.Memory.PreConsumption
import PiaOs.Memory.AuthorityChain
import PiaOs.Cognitive.RelationshipLaws
import PiaOs.Memory.AccessibilityGate
import PiaOs.Connections.ManualProfile
import PiaOs.Connections.OrderlySuccession
import PiaOs.Memory.RenderingLaws
import PiaOs.Memory.PolicyHistory
import PiaOs.Runs.Fingerprints
import PiaOs.Runs.Reads
import PiaOs.Memory.ContinuityLaws
import PiaOs.Runs.Ledger
import PiaOs.Cognitive.VersionRuns
import PiaOs.Protection.GateBoundary
