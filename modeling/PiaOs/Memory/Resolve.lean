import Mathlib.Data.List.MinMax
import PiaOs.Memory.Boundary
import PiaOs.Memory.Datetime
import PiaOs.Memory.Evaluation

/-!
# The canonical path of governance

The table of governance policies only grows, and only by versions that
`add_policy` accepts. A version is in force from its first instant, included, to
its last, excluded; of several in force the highest one counts.

`GovernanceManager.resolve` asks the safety boundary, then the policy version in
force, and builds the resolution of what it found. It always builds one: each of
its three ways satisfies every check of `GovernanceResolution`.
-/

namespace PiaOs.Memory

open Support

/-! ## Published policy versions -/

/-- A row of the table: a version with the window in which it is in force. -/
structure PublishedPolicy extends GovernancePolicy where
  effectiveFrom : Option Instant := none
  effectiveUntil : Option Instant := none

def PublishedPolicy.inForce (row : PublishedPolicy) (moment : Instant) : Bool :=
  row.effectiveFrom.all (· ≤ moment) && row.effectiveUntil.all (moment < ·)

/-- What holds of every row that was published. -/
structure PublishedPolicy.Valid (row : PublishedPolicy) : Prop where
  key_stated : blank row.policyKey = false
  version_positive : 1 ≤ row.version
  rules_distinct : DistinctIds row.rules

/-- The table, with its unique constraint on key and version. -/
structure PolicyTable where
  rows : List PublishedPolicy := []
  rows_valid : ∀ row ∈ rows, row.Valid := by simp
  rows_unique : rows.Pairwise fun row row' =>
    ¬(row.policyKey = row'.policyKey ∧ row.version = row'.version) := by simp

/-- Why a version is not published: a bad argument, or one that exists already. -/
inductive PublicationError
  | valueError (text : String)
  | versionExists (policyKey : String) (version : Int)
  deriving DecidableEq, Repr

namespace PolicyTable

/-- `serialize_rules`: the rules in canonical order, once their identifiers differ. -/
def serializeRules (rules : List GovernanceRule) : Except String (List GovernanceRule) :=
  if duplicados (rules.map GovernanceRule.ruleId) ≠ [] then
    .error ("rule_id duplicado na mesma versão: " ++
      ", ".intercalate (duplicados (rules.map GovernanceRule.ruleId)) ++
      " — duplicata torna o fundamento da decisão ambíguo")
  else .ok (rules.insertionSort fun r r' => r.sortKey ≤ r'.sortKey)

theorem distinct_of_serializeRules {rules written : List GovernanceRule}
    (h : serializeRules rules = .ok written) : DistinctIds written := by
  unfold serializeRules at h
  split at h
  case isTrue => cases h
  case isFalse hnone =>
    obtain rfl := Except.ok.inj h
    have hdistinct : DistinctIds rules := duplicados_eq_nil.mp (not_not.mp hnone)
    exact hdistinct.perm (List.perm_insertionSort _ _).symm

/-- `add_policy`: the new version, or why there is none. -/
def addPolicy (table : PolicyTable) (id : Uuid) (policyKey : String) (version : Int)
    (rules : List GovernanceRule) (effectiveFrom effectiveUntil : Option Instant) :
    Except PublicationError PolicyTable :=
  if hkey : blank policyKey = true then
    .error (.valueError "policy_key não pode ser vazio ou apenas espaços")
  else if hversion : version < 1 then .error (.valueError "version deve ser >= 1")
  else if effectiveFrom.any fun start => effectiveUntil.any (· ≤ start) then
    .error (.valueError "effective_until deve ser posterior a effective_from")
  else match hrules : serializeRules rules with
    | .error text => .error (.valueError text)
    | .ok written =>
      if hnew : ∃ row ∈ table.rows, row.policyKey = policyKey ∧ row.version = version.toNat then
        .error (.versionExists policyKey version)
      else
        .ok
          { rows := table.rows ++
              [{ id, policyKey, version := version.toNat, rules := written, effectiveFrom,
                 effectiveUntil }]
            rows_valid := by
              intro row hrow
              rcases List.mem_append.mp hrow with hold | hlast
              · exact table.rows_valid row hold
              · obtain rfl := List.mem_singleton.mp hlast
                exact ⟨by simpa using hkey, by simp only; omega,
                  distinct_of_serializeRules hrules⟩
            rows_unique := by
              refine List.pairwise_append.mpr ⟨table.rows_unique, List.pairwise_singleton _ _, ?_⟩
              intro row hrow row' hlast hsame
              obtain rfl := List.mem_singleton.mp hlast
              exact hnew ⟨row, hrow, hsame⟩ }

/-- The version in force at an instant: the highest of those whose window holds it. -/
def effectiveVersionAt (table : PolicyTable) (policyKey : String) (moment : Instant) :
    Option GovernancePolicy :=
  let vigentes := table.rows.filter fun row => row.policyKey = policyKey ∧ row.inForce moment
  (vigentes.argmax fun row => row.version).map PublishedPolicy.toGovernancePolicy

/-- The version in force is one that was published under the key. -/
theorem of_effectiveVersionAt {table : PolicyTable} {policyKey : String} {moment : Instant}
    {policy : GovernancePolicy} (h : table.effectiveVersionAt policyKey moment = some policy) :
    ∃ row ∈ table.rows, row.Valid ∧ row.policyKey = policyKey ∧ row.inForce moment = true ∧
      policy = row.toGovernancePolicy := by
  obtain ⟨row, hmax, rfl⟩ := Option.map_eq_some_iff.mp h
  obtain ⟨hrow, hmatch⟩ := List.mem_filter.mp (List.argmax_mem hmax)
  obtain ⟨hkey, hforce⟩ := of_decide_eq_true hmatch
  exact ⟨row, hrow, table.rows_valid row hrow, hkey, hforce, rfl⟩

end PolicyTable

/-! ## The canonical path -/

namespace GovernanceManager

/-- The resolution of a request that the boundary refuses. -/
def prohibitedResolution (descriptor : CapabilityDescriptor) (avaliacao : SafetyAssessment)
    (context : MemoryContext) : ResolutionFields :=
  let preservou := (avaliacao.preservedIntent.map ("finalidade declarada: " ++ ·)).toList ++
    if avaliacao.admissibleAlternatives ≠ [] then
      ["caminhos legítimos de trabalho sobre o assunto"] else []
  let perdeu := "a capacidade operacional solicitada" ::
    if avaliacao.admissibleAlternatives ≠ [] then []
    else ["nenhuma alternativa catalogada para esta capacidade"]
  { outcome := .prohibited
    operation := descriptor.operation
    contextDomainIds := context.domainIds
    contextActorRef := context.actorRef
    contextPurpose := context.purpose
    safetyBoundaryVersion := avaliacao.boundaryVersion
    safetyRationale := avaliacao.rationale
    blockedCapabilities := avaliacao.blockedCapabilities
    preservedIntent := avaliacao.preservedIntent
    admissibleAlternatives := avaliacao.admissibleAlternatives
    constraints :=
      ["a fronteira da plataforma não é sobreponível por policy local, ator, propósito ou domínio",
        "alternativas são propostas; nenhuma é executada automaticamente"]
    declaredPreservations := preservou
    declaredLosses := perdeu }

/-- The boundary is silent and no policy is in force. -/
def noPolicyResolution (descriptor : CapabilityDescriptor) (avaliacao : SafetyAssessment)
    (context : MemoryContext) (nota : String) : ResolutionFields where
  outcome := .notApplicable
  operation := descriptor.operation
  contextDomainIds := context.domainIds
  contextActorRef := context.actorRef
  contextPurpose := context.purpose
  safetyBoundaryVersion := avaliacao.boundaryVersion
  safetyRationale := avaliacao.rationale
  preservedIntent := avaliacao.preservedIntent
  policyRationale := nota

/-- What a policy version decided, under a silent boundary. -/
def decidedResolution (descriptor : CapabilityDescriptor) (avaliacao : SafetyAssessment)
    (decisao : GovernanceDecision) : ResolutionFields where
  outcome := decisao.outcome
  operation := descriptor.operation
  contextDomainIds := decisao.contextDomainIds
  contextActorRef := decisao.contextActorRef
  contextPurpose := decisao.contextPurpose
  safetyBoundaryVersion := avaliacao.boundaryVersion
  safetyRationale := avaliacao.rationale
  preservedIntent := avaliacao.preservedIntent
  policyKey := decisao.policyKey
  policyVersion := (decisao.policyVersion : Int)
  policyId := decisao.policyId
  matchedRuleId := decisao.matchedRuleId
  policyRationale := decisao.reason

/-- What the policies have to say once the boundary is silent. -/
def localResolution (policies : PolicyTable) (descriptor : CapabilityDescriptor)
    (avaliacao : SafetyAssessment) (context : MemoryContext) (agora : Datetime) :
    Option String → Except String ResolutionFields
  | none => .ok (noPolicyResolution descriptor avaliacao context "nenhuma policy local informada")
  | some policyKey =>
    match policies.effectiveVersionAt policyKey agora.instant with
    | none => .ok (noPolicyResolution descriptor avaliacao context
        ("nenhuma versão de '" ++ policyKey ++ "' vigente em " ++ agora.isoformat ++
          " — ausência de policy não concede admissibilidade"))
    | some policy =>
      (evaluate policy descriptor.operation context).map (decidedResolution descriptor avaliacao)

/-- `resolve`. The policies are read only when the boundary is silent. -/
def resolve (policies : PolicyTable) (descriptor : CapabilityDescriptor) (context : MemoryContext)
    (policyKey : Option String) (agora : Datetime) : Except String GovernanceResolution := do
  let avaliacao ← assessCapability descriptor
  if avaliacao.prohibits then
    GovernanceResolution.make (prohibitedResolution descriptor avaliacao context)
  else
    let fields ← localResolution policies descriptor avaliacao context agora policyKey
    GovernanceResolution.make fields

section Built

variable {descriptor : CapabilityDescriptor} {avaliacao : SafetyAssessment}
  {context : MemoryContext}

private theorem built_prohibited (h : avaliacao.prohibits = true) :
    ∃ r, GovernanceResolution.make (prohibitedResolution descriptor avaliacao context) = .ok r ∧
      r.outcome = .prohibited := by
  obtain ⟨hversion, halternatives, hintent, hblocked⟩ := avaliacao.holds
  have hpreserved : ∀ text ∈ (prohibitedResolution descriptor avaliacao context).declaredPreservations,
      blank text = false := by
    intro text htext
    rcases List.mem_append.mp htext with hintent | hway
    · obtain ⟨intent, -, rfl⟩ := Option.map_eq_some_iff.mp (Option.mem_toList.mp hintent)
      rw [blank_append]
      exact Bool.and_eq_false_iff.mpr (.inl (stated_of_head (by decide)))
    · split at hway
      case isTrue =>
        obtain rfl := List.mem_singleton.mp hway
        exact stated_of_head (by decide)
      case isFalse => cases hway
  have hlost : ∀ text ∈ (prohibitedResolution descriptor avaliacao context).declaredLosses,
      blank text = false := by
    intro text htext
    rcases List.mem_cons.mp htext with rfl | hcatalogue
    · exact stated_of_head (by decide)
    · split at hcatalogue
      case isTrue => cases hcatalogue
      case isFalse =>
        obtain rfl := List.mem_singleton.mp hcatalogue
        exact stated_of_head (by decide)
  have hconstraints : ∀ text ∈ (prohibitedResolution descriptor avaliacao context).constraints,
      blank text = false := by
    simp only [prohibitedResolution, List.forall_mem_cons]
    exact ⟨stated_of_head (by decide), stated_of_head (by decide), by simp⟩
  have hstated : (prohibitedResolution descriptor avaliacao context).Stated :=
    { boundaryVersion := hversion, actor := context.actorRef_stated,
      purpose := context.purpose_stated, alternatives := halternatives,
      constraints := hconstraints, preservations := hpreserved, losses := hlost,
      intent := hintent, policyKey := by simp [prohibitedResolution],
      matchedRule := by simp [prohibitedResolution],
      policyVersion := by simp [prohibitedResolution] }
  have hcoherent : (prohibitedResolution descriptor avaliacao context).coherence = none := by
    have hsome : avaliacao.blockedCapabilities.isEmpty = false := by
      simpa [List.isEmpty_iff] using hblocked h
    rw [ResolutionFields.coherence_eq_none]
    simp [ResolutionFields.identidadeParcial, ResolutionFields.temIdentidade,
      prohibitedResolution, hsome]
  obtain ⟨r, hr, hfields⟩ := GovernanceResolution.make_eq_ok hstated hcoherent
  exact ⟨r, hr, by rw [hfields]; rfl⟩

private theorem built_noPolicy {nota : String} :
    ∃ r, GovernanceResolution.make (noPolicyResolution descriptor avaliacao context nota) = .ok r ∧
      r.outcome = .notApplicable := by
  obtain ⟨hversion, -, hintent, -⟩ := avaliacao.holds
  have hstated : (noPolicyResolution descriptor avaliacao context nota).Stated := by
    constructor <;>
      first
      | exact hversion
      | exact context.actorRef_stated
      | exact context.purpose_stated
      | exact hintent
      | simp [noPolicyResolution]
  have hcoherent : (noPolicyResolution descriptor avaliacao context nota).coherence = none := by
    rw [ResolutionFields.coherence_eq_none]
    simp [ResolutionFields.identidadeParcial, ResolutionFields.temIdentidade, noPolicyResolution]
  obtain ⟨r, hr, hfields⟩ := GovernanceResolution.make_eq_ok hstated hcoherent
  exact ⟨r, hr, by rw [hfields]; rfl⟩

/-- What a published version decides is built, with the outcome of the decision. -/
private theorem built_decided {row : PublishedPolicy} (hrow : row.Valid)
    {decisao : GovernanceDecision}
    (h : evaluate row.toGovernancePolicy descriptor.operation context = .ok decisao) :
    ∃ r, GovernanceResolution.make (decidedResolution descriptor avaliacao decisao) = .ok r ∧
      r.outcome = decisao.outcome := by
  obtain ⟨-, rfl⟩ := evaluate_eq_ok h
  set found := aplicaveis descriptor.operation context row.rules
  obtain ⟨hkey, hversion, -, -, hactor, hpurpose⟩ :=
    @conclude_origin row.toGovernancePolicy descriptor.operation context found
  have hcited := @conclude_cited row.toGovernancePolicy descriptor.operation context found
  obtain ⟨hboundary, -, hintent, -⟩ := avaliacao.holds
  generalize conclude row.toGovernancePolicy descriptor.operation context found = decisao at *
  have hrule : ∀ ruleId ∈ decisao.matchedRuleId, blank ruleId = false := by
    intro ruleId hmem
    rcases hcited with ⟨-, hnone⟩ | ⟨rule, -, -, hsome⟩
    · rw [hnone] at hmem
      cases hmem
    · obtain rfl := Option.some.inj (hsome.symm.trans hmem)
      exact rule.ruleId_stated
  have hstated : (decidedResolution descriptor avaliacao decisao).Stated := by
    constructor <;> simp only [decidedResolution, hkey, hversion, hactor, hpurpose]
    case boundaryVersion => exact hboundary
    case actor => exact context.actorRef_stated
    case purpose => exact context.purpose_stated
    case intent => exact hintent
    case matchedRule => exact hrule
    case policyKey => simpa using hrow.key_stated
    case policyVersion =>
      have hpositive := hrow.version_positive
      simp only [Option.mem_def, Option.some.injEq, forall_eq']
      omega
    all_goals simp
  have hcoherent : (decidedResolution descriptor avaliacao decisao).coherence = none := by
    rw [ResolutionFields.coherence_eq_none]
    rcases hcited with ⟨houtcome, hnone⟩ | ⟨rule, -, houtcome | houtcome, hsome⟩ <;>
      simp [ResolutionFields.identidadeParcial, ResolutionFields.temIdentidade,
        decidedResolution, *]
  obtain ⟨r, hr, hfields⟩ := GovernanceResolution.make_eq_ok hstated hcoherent
  exact ⟨r, hr, by rw [hfields]; rfl⟩

end Built

section Resolve

variable {policies : PolicyTable} {descriptor : CapabilityDescriptor} {context : MemoryContext}
  {policyKey : Option String} {agora : Datetime}

/-- The three ways of a resolution: the boundary forbids, no policy is in force, or a
version in force decides. Each builds one. -/
theorem resolve_cases (policies : PolicyTable) (descriptor : CapabilityDescriptor)
    (context : MemoryContext) (policyKey : Option String) (agora : Datetime) :
    ∃ r, resolve policies descriptor context policyKey agora = .ok r ∧
      (descriptor.Forbidden ∧ r.outcome = .prohibited ∨
        ¬descriptor.Forbidden ∧ r.outcome = .notApplicable ∧
          (∀ key ∈ policyKey, policies.effectiveVersionAt key agora.instant = none) ∨
        ¬descriptor.Forbidden ∧ ∃ key ∈ policyKey, ∃ policy decisao,
          policies.effectiveVersionAt key agora.instant = some policy ∧
          evaluate policy descriptor.operation context = .ok decisao ∧
          r.outcome = decisao.outcome) := by
  obtain ⟨avaliacao, havaliacao, hforbidden⟩ := assessCapability_eq_ok descriptor
  rw [resolve, havaliacao, ok_bind]
  by_cases hprohibits : avaliacao.prohibits = true
  · rw [if_pos hprohibits]
    obtain ⟨r, hr, houtcome⟩ := built_prohibited hprohibits
    exact ⟨r, hr, .inl ⟨hforbidden.mp hprohibits, houtcome⟩⟩
  rw [if_neg hprohibits]
  have hsilent : ¬descriptor.Forbidden := fun h => hprohibits (hforbidden.mpr h)
  cases policyKey with
  | none =>
    obtain ⟨r, hr, houtcome⟩ := @built_noPolicy descriptor avaliacao context _
    exact ⟨r, hr, .inr (.inl ⟨hsilent, houtcome, by simp⟩)⟩
  | some key =>
    cases hpolicy : policies.effectiveVersionAt key agora.instant with
    | none =>
      obtain ⟨r, hr, houtcome⟩ := @built_noPolicy descriptor avaliacao context _
      refine ⟨r, ?_, .inr (.inl ⟨hsilent, houtcome, by simpa using hpolicy⟩)⟩
      simp only [localResolution, hpolicy, ok_bind]
      exact hr
    | some policy =>
      obtain ⟨row, -, hrow, -, -, rfl⟩ := PolicyTable.of_effectiveVersionAt hpolicy
      obtain ⟨decisao, hdecisao⟩ : ∃ decisao, evaluate row.toGovernancePolicy
          descriptor.operation context = .ok decisao :=
        ⟨_, evaluate_distinct hrow.rules_distinct⟩
      obtain ⟨r, hr, houtcome⟩ := built_decided hrow hdecisao
      refine ⟨r, ?_, .inr (.inr ⟨hsilent, key, rfl, _, decisao, hpolicy, hdecisao, houtcome⟩)⟩
      simp only [localResolution, hpolicy, hdecisao]
      exact hr

/-- A resolution repeats the question that it answers. -/
structure Bound (descriptor : CapabilityDescriptor) (context : MemoryContext)
    (policyKey : Option String) (r : GovernanceResolution) : Prop where
  operation : r.operation = descriptor.operation
  domains : r.contextDomainIds = context.domainIds
  actor : r.contextActorRef = context.actorRef
  purpose : r.contextPurpose = context.purpose
  policy : ∀ key ∈ r.policyKey, policyKey = some key

private theorem bound_of_make {f : ResolutionFields} {r : GovernanceResolution}
    (h : GovernanceResolution.make f = .ok r) (hoperation : f.operation = descriptor.operation)
    (hdomains : f.contextDomainIds = context.domainIds)
    (hactor : f.contextActorRef = context.actorRef) (hpurpose : f.contextPurpose = context.purpose)
    (hpolicy : ∀ key ∈ f.policyKey, policyKey = some key) :
    Bound descriptor context policyKey r := by
  have hfields := GovernanceResolution.of_make h
  have hsorted : sortedSet Uuid.int context.domainIds = context.domainIds :=
    sortedSet_of_sorted context.domainIds_canonical
  constructor
  · rw [hfields, ← hoperation]
    rfl
  · rw [hfields]
    change sortedSet Uuid.int f.contextDomainIds = context.domainIds
    rw [hdomains, hsorted]
  · rw [hfields, ← hactor]
    rfl
  · rw [hfields, ← hpurpose]
    rfl
  · rw [hfields]
    exact hpolicy

theorem resolve_bound {r : GovernanceResolution}
    (h : resolve policies descriptor context policyKey agora = .ok r) :
    Bound descriptor context policyKey r := by
  unfold resolve at h
  obtain ⟨avaliacao, -, h⟩ := bind_eq_ok.mp h
  split at h
  case isTrue => exact bound_of_make h rfl rfl rfl rfl (by simp [prohibitedResolution])
  case isFalse =>
    obtain ⟨fields, hfields, h⟩ := bind_eq_ok.mp h
    cases policyKey with
    | none =>
      obtain rfl := Except.ok.inj hfields
      exact bound_of_make h rfl rfl rfl rfl (by simp [noPolicyResolution])
    | some key =>
      cases hpolicy : policies.effectiveVersionAt key agora.instant with
      | none =>
        simp only [localResolution, hpolicy, Except.ok.injEq] at hfields
        subst hfields
        exact bound_of_make h rfl rfl rfl rfl (by simp [noPolicyResolution])
      | some policy =>
        obtain ⟨row, -, -, hkey, -, rfl⟩ := PolicyTable.of_effectiveVersionAt hpolicy
        simp only [localResolution, hpolicy] at hfields
        cases hdecisao : evaluate row.toGovernancePolicy descriptor.operation context with
        | error text =>
          rw [hdecisao] at hfields
          cases hfields
        | ok decisao =>
          rw [hdecisao] at hfields
          obtain rfl := Except.ok.inj hfields
          obtain ⟨-, rfl⟩ := evaluate_eq_ok hdecisao
          obtain ⟨hk, -, -, hd, ha, hp⟩ := @conclude_origin row.toGovernancePolicy
            descriptor.operation context
            (aplicaveis descriptor.operation context row.toGovernancePolicy.rules)
          refine bound_of_make h rfl hd ha hp ?_
          intro key' hkey'
          obtain rfl := Option.some.inj hkey'
          rw [hk, hkey]

end Resolve

end GovernanceManager

open GovernanceManager

/-- What holds of every resolution: it is always built; the boundary alone forbids, and
then no policy counts; and an authorized execution rests on a version in force that
admits it by a rule and denies it by none. -/
structure ResolutionLaws (policies : PolicyTable) (descriptor : CapabilityDescriptor)
    (context : MemoryContext) (policyKey : Option String) (agora : Datetime) : Prop where
  built : ∃ r, resolve policies descriptor context policyKey agora = .ok r
  prohibited : ∀ r, resolve policies descriptor context policyKey agora = .ok r →
    (r.outcome = .prohibited ↔ descriptor.capabilities.Nonempty ∧
      (descriptor.engagement = .operationalEnablement ∨ descriptor.engagement = .unspecified))
  independent : descriptor.capabilities.Nonempty →
    (descriptor.engagement = .operationalEnablement ∨ descriptor.engagement = .unspecified) →
    ∀ policies', resolve policies' descriptor context policyKey agora =
      resolve policies descriptor context policyKey agora
  authorized : ∀ r, resolve policies descriptor context policyKey agora = .ok r →
    r.executionAuthorized = true → ∃ key ∈ policyKey, ∃ policy,
      policies.effectiveVersionAt key agora.instant = some policy ∧
      (∃ rule ∈ policy.rules, rule.effect = .admits ∧
        applies descriptor.operation context rule = true) ∧
      ¬∃ rule ∈ policy.rules, rule.effect = .deny ∧
        applies descriptor.operation context rule = true

/-- An admissible decision rests on a rule that admits, and on no denial. -/
theorem admitted_by_rule {policy : GovernancePolicy} {operation : CognitiveOperation}
    {context : MemoryContext} {decisao : GovernanceDecision}
    (h : evaluate policy operation context = .ok decisao) (hadmissible : decisao.outcome = .admissible) :
    (∃ rule ∈ policy.rules, rule.effect = .admits ∧ applies operation context rule = true) ∧
      ¬∃ rule ∈ policy.rules, rule.effect = .deny ∧ applies operation context rule = true := by
  obtain ⟨-, rfl⟩ := evaluate_eq_ok h
  rw [conclude_outcome] at hadmissible
  split at hadmissible
  case isTrue => cases hadmissible
  case isFalse hne =>
    split at hadmissible
    case isTrue => cases hadmissible
    case isFalse hnone =>
      constructor
      · obtain ⟨rule, hrule⟩ := List.exists_mem_of_ne_nil _ hne
        obtain ⟨hmem, happlies⟩ := mem_aplicaveis.mp hrule
        refine ⟨rule, hmem, ?_, happlies⟩
        cases heffect : rule.effect with
        | admits => rfl
        | deny => exact absurd ⟨rule, hrule, heffect⟩ hnone
      · rintro ⟨rule, hmem, heffect, happlies⟩
        exact hnone ⟨rule, mem_aplicaveis.mpr ⟨hmem, happlies⟩, heffect⟩

/-- The laws hold of every request, whatever the table of policies. -/
theorem resolution_laws (policies : PolicyTable) (descriptor : CapabilityDescriptor)
    (context : MemoryContext) (policyKey : Option String) (agora : Datetime) :
    ResolutionLaws policies descriptor context policyKey agora where
  built := by
    obtain ⟨r, hr, -⟩ := resolve_cases policies descriptor context policyKey agora
    exact ⟨r, hr⟩
  prohibited r h := by
    obtain ⟨r', hr', hcases⟩ := resolve_cases policies descriptor context policyKey agora
    obtain rfl := Except.ok.inj (h.symm.trans hr')
    rcases hcases with ⟨hforbidden, houtcome⟩ | ⟨hsilent, houtcome, -⟩ |
      ⟨hsilent, -, -, policy, decisao, -, hdecisao, houtcome⟩
    · exact ⟨fun _ => hforbidden, fun _ => houtcome⟩
    · rw [houtcome]
      exact ⟨by simp, fun hforbidden => absurd hforbidden hsilent⟩
    · rw [houtcome]
      refine ⟨fun hprohibited => ?_, fun hforbidden => absurd hforbidden hsilent⟩
      obtain ⟨-, rfl⟩ := evaluate_eq_ok hdecisao
      rw [conclude_outcome] at hprohibited
      split at hprohibited
      · cases hprohibited
      · split at hprohibited <;> cases hprohibited
  independent hsome hengagement policies' := by
    obtain ⟨avaliacao, havaliacao, hforbidden⟩ := assessCapability_eq_ok descriptor
    have hprohibits := hforbidden.mpr ⟨hsome, hengagement⟩
    rw [resolve, resolve, havaliacao, ok_bind, ok_bind, if_pos hprohibits, if_pos hprohibits]
  authorized r h hauthorized := by
    have hadmissible : r.outcome = .admissible := of_decide_eq_true hauthorized
    obtain ⟨r', hr', hcases⟩ := resolve_cases policies descriptor context policyKey agora
    obtain rfl := Except.ok.inj (h.symm.trans hr')
    rcases hcases with ⟨-, houtcome⟩ | ⟨-, houtcome, -⟩ |
      ⟨-, key, hkey, policy, decisao, hpolicy, hdecisao, houtcome⟩
    · rw [hadmissible] at houtcome
      cases houtcome
    · rw [hadmissible] at houtcome
      cases houtcome
    · exact ⟨key, hkey, policy, hpolicy, admitted_by_rule hdecisao (houtcome ▸ hadmissible)⟩

end PiaOs.Memory
