import Mathlib.Data.Finset.Basic
import Mathlib.Data.Finset.Insert
import Mathlib.Data.Prod.Lex
import PiaOs.Model.Values
import PiaOs.Support.Checked

/-!
# Governance rules, policies and their evaluation

The rules of a policy version and `GovernanceManager.evaluate`. A rule selects
by operation, domain, actor and purpose; an empty selector does not restrict,
except that an empty set of operations stands for the seven of the first scope.
-/

namespace PiaOs.Memory

open Support

inductive CognitiveOperation
  | read | reference | derive | transform | expose | synchronize | consolidate
  | accessibilityTransition | retentionAssessment | retentionDisposition | legalErasure
  deriving DecidableEq, Repr

def CognitiveOperation.value : CognitiveOperation → String
  | .read => "read"
  | .reference => "reference"
  | .derive => "derive"
  | .transform => "transform"
  | .expose => "expose"
  | .synchronize => "synchronize"
  | .consolidate => "consolidate"
  | .accessibilityTransition => "accessibility_transition"
  | .retentionAssessment => "retention_assessment"
  | .retentionDisposition => "retention_disposition"
  | .legalErasure => "legal_erasure"

/-- What a rule without operations reaches: the operations of its time, listed. -/
def emptyOperationsScopeV1 : Finset CognitiveOperation :=
  {.read, .reference, .derive, .transform, .expose, .synchronize, .consolidate}

inductive GovernanceEffect
  | admits | deny
  deriving DecidableEq, Repr

def GovernanceEffect.value : GovernanceEffect → String
  | .admits => "admit"
  | .deny => "deny"

inductive GovernanceOutcome
  | admissible | inadmissible | notApplicable | prohibited
  deriving DecidableEq, Repr

def GovernanceOutcome.value : GovernanceOutcome → String
  | .admissible => "admissible"
  | .inadmissible => "inadmissible"
  | .notApplicable => "not_applicable"
  | .prohibited => "prohibited"

/-- A rule, with what its constructor has checked. -/
structure GovernanceRule where
  ruleId : String
  effect : GovernanceEffect
  operations : Finset CognitiveOperation := ∅
  domainIds : Finset Uuid := ∅
  actorRefs : Finset String := ∅
  purposes : Finset String := ∅
  ruleId_stated : blank ruleId = false := by decide
  actorRefs_stated : ∀ actor ∈ actorRefs, blank actor = false := by decide
  purposes_stated : ∀ purpose ∈ purposes, blank purpose = false := by decide
  deriving DecidableEq

/-- The perspective of a request: its domains are sorted and without repetition. -/
structure MemoryContext where
  domainIds : List Uuid := []
  sessionId : Option String := none
  actorRef : Option String := none
  purpose : Option String := none
  domainIds_canonical : domainIds.Pairwise fun d e => d.int < e.int := by decide
  sessionId_stated : ∀ session ∈ sessionId, blank session = false := by decide
  actorRef_stated : ∀ actor ∈ actorRef, blank actor = false := by decide
  purpose_stated : ∀ text ∈ purpose, blank text = false := by decide

namespace GovernanceRule

/-- The rule applies when every dimension that it restricts does. -/
def «matches» (rule : GovernanceRule) (operation : CognitiveOperation)
    (domainIds : Finset Uuid) (actorRef purpose : Option String) : Bool :=
  if rule.operations ≠ ∅ ∧ operation ∉ rule.operations then false
  else if rule.operations = ∅ ∧ operation ∉ emptyOperationsScopeV1 then false
  else if rule.domainIds ≠ ∅ ∧ rule.domainIds ∩ domainIds = ∅ then false
  else if rule.actorRefs ≠ ∅ ∧ ∀ actor ∈ actorRef, actor ∉ rule.actorRefs then false
  else !decide (rule.purposes ≠ ∅ ∧ ∀ text ∈ purpose, text ∉ rule.purposes)

/-- The canonical order: the effect, then the identifier. -/
def sortKey (rule : GovernanceRule) : String ×ₗ String := toLex (rule.effect.value, rule.ruleId)

end GovernanceRule

/-- A policy version. The table keeps the rules as JSON, which the reader turns
back into rules through their constructor. -/
structure GovernancePolicy where
  id : Uuid
  policyKey : String
  version : Nat
  rules : List GovernanceRule

/-- The rules of the version. A repeated identifier is a `ValueError`. -/
def GovernancePolicy.typedRules (policy : GovernancePolicy) :
    Except String (List GovernanceRule) :=
  match firstRepeated [] (policy.rules.map GovernanceRule.ruleId) with
  | some ruleId => .error ("rule_id duplicado na mesma versão: '" ++ ruleId ++
      "' — duplicata torna o fundamento da decisão ambíguo")
  | none => .ok policy.rules

structure GovernanceDecision where
  outcome : GovernanceOutcome
  operation : CognitiveOperation
  policyKey : String
  policyVersion : Nat
  policyId : Uuid
  contextDomainIds : List Uuid
  contextActorRef : Option String
  contextPurpose : Option String
  matchedRuleId : Option String
  reason : String
  deriving DecidableEq

namespace GovernanceManager

def decision (policy : GovernancePolicy) (operation : CognitiveOperation)
    (context : MemoryContext) (outcome : GovernanceOutcome) (rule : Option GovernanceRule)
    (reason : String) : GovernanceDecision where
  outcome := outcome
  operation := operation
  policyKey := policy.policyKey
  policyVersion := policy.version
  policyId := policy.id
  contextDomainIds := context.domainIds
  contextActorRef := context.actorRef
  contextPurpose := context.purpose
  matchedRuleId := rule.map GovernanceRule.ruleId
  reason := reason

/-- Whether a rule applies to the operation in the context. -/
def applies (operation : CognitiveOperation) (context : MemoryContext) (rule : GovernanceRule) :
    Bool :=
  rule.matches operation context.domainIds.toFinset context.actorRef context.purpose

/-- The rules in canonical order, those that apply. -/
def aplicaveis (operation : CognitiveOperation) (context : MemoryContext)
    (rules : List GovernanceRule) : List GovernanceRule :=
  (rules.insertionSort fun r r' => r.sortKey ≤ r'.sortKey).filter (applies operation context)

/-- The decision that the applicable rules lead to, in their order. -/
def conclude (policy : GovernancePolicy) (operation : CognitiveOperation) (context : MemoryContext) :
    List GovernanceRule → GovernanceDecision
  | [] => decision policy operation context .notApplicable none
      ("nenhuma regra desta versão se aplica ao contexto — " ++
        "ausência de regra não concede admissibilidade")
  | primeira :: outras =>
    match (primeira :: outras).filter (·.effect = .deny) with
    | negacao :: _ => decision policy operation context .inadmissible negacao
        s!"regra '{negacao.ruleId}' nega a operação (DENY_OVERRIDES)"
    | [] => decision policy operation context .admissible primeira
        s!"regra '{primeira.ruleId}' admite a operação"

def evaluate (policy : GovernancePolicy) (operation : CognitiveOperation)
    (context : MemoryContext) : Except String GovernanceDecision := do
  let rules ← policy.typedRules
  .ok (conclude policy operation context (aplicaveis operation context rules))

end GovernanceManager

end PiaOs.Memory
