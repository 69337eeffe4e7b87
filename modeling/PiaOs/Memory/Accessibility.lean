import PiaOs.Cognitive.Lineage
import PiaOs.Memory.ComplianceEvaluator
import PiaOs.Memory.Retrieval

/-!
# Accessibility policies and decisions

A policy of accessibility is published in versions under the authority of a governance policy.
Each of its rules is one edge, from a state to another one, that it admits or denies.
-/

/-! ## The state of accessibility

The manager of the library is the one way to change the state of an object. It asks for a reason
only of an extinction, and changes nothing else of the object. -/

namespace PiaOs.Cognitive

open Support Piap Transactions

def AccessibilityState.value : AccessibilityState → String
  | .active => "active"
  | .latent => "latent"
  | .inaccessible => "inaccessible"
  | .causallyExtinct => "causally_extinct"

theorem AccessibilityState.value_injective {a b : AccessibilityState} (h : a.value = b.value) :
    a = b := by
  cases a <;> cases b <;> first | rfl | exact absurd h (by decide)

namespace AccessibilityManager

/-- `transition`, of the object that the session has under a COID. -/
def transition (coid : Referencia) (targetState : AccessibilityState) (reason : Option String) :
    Op Biblioteca Erro Unit := do
  let row ← entidade coid
  if targetState = row.accessibility then pure ()
  else if targetState = .causallyExtinct ∧ reason.all (· = "") then
    Op.raise (.accessibilityInvalidTransition coid)
  else
    Op.send fun db =>
      (db.updateObject coid { row with accessibility := targetState }).mapError .persistence

end AccessibilityManager

section Specs

variable {coid : Referencia} {targetState : AccessibilityState} {reason : Option String}
  {row : CognitiveObject} {s : Session Biblioteca} {db : Biblioteca}

/-- The index of current revisions does not look at the state. -/
theorem outraCurrent_accessibility :
    db.outraCurrent coid { row with accessibility := targetState } ↔ db.outraCurrent coid row :=
  Iff.rfl

theorem updateObject_error {r : Recusa} (h : db.updateObject coid row = .error r) :
    db.outraCurrent coid row := by
  unfold Biblioteca.updateObject at h
  split at h
  · cases h
  · split at h
    case isTrue hother => exact hother
    case isFalse => cases h

/-- A change of state with a reason fails only where another row has the place of the object in
the index. -/
theorem ends_transition (hrow : s.current.objects.lookup coid = some row)
    (hchange : targetState ≠ row.accessibility)
    (hreason : targetState = .causallyExtinct → reason.all (· = "") = false) :
    Op.Ends (fun _ s' => s'.base = s.base ∧
        Gravado coid { row with accessibility := targetState } s.current s'.current)
      (fun _ s' => s' = s.rollback ∧ s.current.outraCurrent coid row)
      (AccessibilityManager.transition coid targetState reason) s := by
  unfold AccessibilityManager.transition
  refine Op.Ends.bind (ends_entidade_of_lookup hrow) ?_
  rintro found s' ⟨rfl, rfl⟩
  rw [if_neg hchange, if_neg (fun h => Bool.false_ne_true ((hreason h.1).symm.trans h.2))]
  refine Op.Ends.send (fun t ht => ⟨rfl, ?_⟩) fun e he => ⟨rfl, ?_⟩
  · exact updateObject_ok (mapError_eq_ok.mp ht)
  · cases hwrite : s'.current.updateObject coid { found with accessibility := targetState } with
    | ok db =>
      rw [hwrite] at he
      cases he
    | error r => exact outraCurrent_accessibility.mp (updateObject_error hwrite)

end Specs

end PiaOs.Cognitive

/-! ## Accessibility policies and decisions -/

namespace PiaOs.Memory

open Support Piap Transactions Cognitive

/-! ## Tokens of states -/

def AccessibilityState.value : AccessibilityState → String
  | .active => "active"
  | .latent => "latent"
  | .inaccessible => "inaccessible"
  | .causallyExtinct => "causally_extinct"

/-- The state of the library that a token stands for. -/
def AccessibilityState.naBiblioteca : AccessibilityState → Cognitive.AccessibilityState
  | .active => .active
  | .latent => .latent
  | .inaccessible => .inaccessible
  | .causallyExtinct => .causallyExtinct

theorem value_naBiblioteca (state : AccessibilityState) :
    state.naBiblioteca.value = state.value := by
  cases state <;> rfl

theorem naBiblioteca_injective {a b : AccessibilityState}
    (h : a.naBiblioteca = b.naBiblioteca) : a = b := by
  cases a <;> cases b <;> first | rfl | cases h

def accessibilityStates : List AccessibilityState :=
  [.active, .latent, .inaccessible, .causallyExtinct]

/-- `sorted(ACCESSIBILITY_STATE_TOKENS)`, as it is printed. -/
def vocabulario : String :=
  pyList (["active", "causally_extinct", "inaccessible", "latent"].map pyRepr)

/-- The state of a token, when it is one. -/
def estadoDoToken? (token : String) : Option AccessibilityState :=
  accessibilityStates.find? (·.value = token)

theorem estadoDoToken?_value (state : AccessibilityState) :
    estadoDoToken? state.value = some state := by
  cases state <;> decide

/-- What the operations raise. -/
inductive AccessibilityError
  | typeError (campo : String)
  | valueError (text : String)
  | overflow (text : String)
  | unknownDomains (ids : List Uuid)
  | subjectNotFound (coid : Referencia)
  | transitionContractViolation (motivos : List String)
  | cognitivo (e : Cognitive.Erro)
  deriving DecidableEq

/-- The checks that give the text of a `ValueError`. -/
def recusarValor (violacao : Option String) : Except AccessibilityError Unit :=
  match violacao with
  | none => .ok ()
  | some text => .error (.valueError text)

/-- The checks that give the reasons of a contract violation. -/
def recusarContrato (motivos : List String) : Except AccessibilityError Unit :=
  if motivos = [] then .ok () else .error (.transitionContractViolation motivos)

/-! ## Rules -/

/-- A rule as the JSON of a version keeps it. -/
structure RegraGravada where
  ruleId : String
  effect : String
  sourceStates : List String
  targetStates : List String

namespace AccessibilityRule

/-- `GovernanceEffect(...)`. -/
def efeito (token : String) : Except AccessibilityError GovernanceEffect :=
  match [GovernanceEffect.admits, .deny].find? (·.value = token) with
  | some effect => .ok effect
  | none => .error (.valueError (pyRepr token ++ " is not a valid GovernanceEffect"))

/-- `_tokens`, the one state of a set. -/
def tokens (campo : String) (valor : List String) : Except AccessibilityError AccessibilityState :=
  let itens := valor.dedup
  match itens.find? fun item => estadoDoToken? item = none with
  | some item => .error (.valueError (campo ++ " contém " ++ pyRepr item ++
      ", fora do vocabulário da E3 " ++ vocabulario))
  | none =>
    match itens.filterMap estadoDoToken? with
    | [state] => .ok state
    | states => .error (.valueError (campo ++ " deve conter exatamente um token, recebido " ++
        toString states.length ++ ": " ++ pyList ((itens.insertionSort (· ≤ ·)).map pyRepr) ++
        " — uma regra descreve UMA aresta de transição, e conjuntos produziriam um produto " ++
        "cartesiano não declarado"))

/-- The constructor. -/
def make (ruleId : String) (effect : GovernanceEffect) (sourceStates targetStates : List String) :
    Except AccessibilityError AccessibilityRule :=
  if hid : blank ruleId = true then .error (.valueError "rule_id não pode ser vazio")
  else
    (tokens "source_states" sourceStates).bind fun origem =>
    (tokens "target_states" targetStates).bind fun destino =>
    if hloop : origem = destino then
      .error (.valueError ("regra self-loop " ++ pyRepr origem.value ++ " → " ++
        pyRepr destino.value ++ ": uma regra de policy descreve uma mudança real de estado. " ++
        "Same-state é no-op operacional, resolvido antes de a policy ser consultada — esta " ++
        "regra nunca seria avaliada"))
    else .ok ⟨ruleId, effect, origem, destino, Bool.not_eq_true _ ▸ hid, hloop⟩

/-- `sort_key`. -/
def sortKey (rule : AccessibilityRule) : String ×ₗ String :=
  toLex (rule.effect.value, rule.ruleId)

end AccessibilityRule

/-! ## Versions of a policy -/

structure AccessibilityPolicy where
  policyKey : String
  version : ℕ
  governancePolicyKey : String
  rules : List RegraGravada
  effectiveFrom : Option Instant := none
  effectiveUntil : Option Instant := none

namespace AccessibilityPolicy

/-- `deserialize_rules`, through the constructor of each. -/
def deserializeRules (payload : List RegraGravada) :
    Except AccessibilityError (List AccessibilityRule) :=
  payload.mapM fun item =>
    (AccessibilityRule.efeito item.effect).bind fun effect =>
      AccessibilityRule.make item.ruleId effect item.sourceStates item.targetStates

/-- In force from its first instant to its last, excluded. -/
def vigente (policy : AccessibilityPolicy) (moment : Instant) : Bool :=
  policy.effectiveFrom.all (· ≤ moment) && policy.effectiveUntil.all (moment < ·)

/-- `effective_version_at`: the highest version in force. -/
def effectiveVersionAt (policies : List AccessibilityPolicy) (policyKey : String)
    (moment : Instant) : Option AccessibilityPolicy :=
  (policies.filter fun policy => policy.policyKey = policyKey && policy.vigente moment).argmax
    AccessibilityPolicy.version

end AccessibilityPolicy

/-! ## Decisions -/

structure AccessibilityDecisionFields where
  outcome : GovernanceOutcome
  sourceState : AccessibilityState
  targetState : AccessibilityState
  evaluatedAt : UtcInstant
  policyKey : Option String := none
  policyVersion : Option Int := none
  governancePolicyKey : Option String := none
  matchedRuleId : Option String := none

namespace AccessibilityDecisionFields

/-- The identity of the policy, or none of it. -/
def identidadeParcial (f : AccessibilityDecisionFields) : Bool :=
  let presentes := [f.policyKey.isSome, f.policyVersion.isSome, f.governancePolicyKey.isSome]
  presentes.any id && !presentes.all id

/-- The checks of `__post_init__`, in order. -/
def violation (f : AccessibilityDecisionFields) : Option String :=
  firstOf
    [refuse (f.sourceState = f.targetState) ("decisão self-loop " ++ pyRepr f.sourceState.value ++
        " → " ++ pyRepr f.targetState.value ++ ": same-state termina como no-op antes de a " ++
        "policy ser consultada, então nenhuma decisão pode existir sobre essa combinação"),
      refuse (f.outcome = .prohibited)
        ("PROHIBITED pertence à fronteira de segurança da plataforma, não a uma policy local " ++
          "de acessibilidade — a E4.7 não a produz"),
      refuse (f.policyKey.any blank) "policy_key, quando presente, não pode ser vazio",
      refuse (f.governancePolicyKey.any blank)
        "governance_policy_key, quando presente, não pode ser vazio",
      refuse (f.matchedRuleId.any blank) "matched_rule_id, quando presente, não pode ser vazio",
      refuse (f.policyVersion.any (· < 1)) "policy_version deve ser >= 1",
      refuse f.identidadeParcial
        "policy_key e policy_version são tudo-ou-nada — identidade parcial parece identidade",
      refuse (f.matchedRuleId.isSome && f.policyKey.isNone)
        "citar uma regra exige citar a policy que a contém",
      refuse (f.outcome = .notApplicable && f.matchedRuleId.isSome)
        ("NOT_APPLICABLE significa que nenhuma regra se aplicou; citar uma regra contradiz " ++
          "o desfecho"),
      refuse (f.outcome ≠ .notApplicable && f.matchedRuleId.isNone)
        (f.outcome.value ++ " nasce de uma regra que casou; sem regra citada a decisão não é " ++
          "explicável")]

end AccessibilityDecisionFields

structure AccessibilityDecision extends AccessibilityDecisionFields where
  valid : toAccessibilityDecisionFields.violation = none

namespace AccessibilityDecision

def make (f : AccessibilityDecisionFields) : Except AccessibilityError AccessibilityDecision :=
  (checked f.violation fun h => (⟨f, h⟩ : AccessibilityDecision)).mapError .valueError

/-- `is_admissible`. -/
def isAdmissible (d : AccessibilityDecision) : Bool := d.outcome = .admissible

end AccessibilityDecision

/-! ## Results -/

structure AccessibilityTransitionResultFields where
  coid : Referencia
  context : MemoryContext
  governanceResolution : GovernanceResolution
  decision : Option AccessibilityDecision
  requestedTargetState : AccessibilityState
  observedState : Option AccessibilityState
  stateChanged : Bool
  evaluatedAt : UtcInstant
  noChange : Bool := false
  causalEventId : Option Referencia := none

namespace AccessibilityTransitionResultFields

/-- The checks about the decision that a result carries. -/
def decisao (f : AccessibilityTransitionResultFields) : Option String :=
  f.decision.bind fun decision => firstOf
    [refuse (decision.targetState ≠ f.requestedTargetState) ("a decisão autoriza " ++
        pyRepr decision.targetState.value ++ ", mas o pedido é sobre " ++
        pyRepr f.requestedTargetState.value ++ " — apresentar uma como resposta à outra troca " ++
        "o objeto da autorização"),
      refuse (decision.evaluatedAt.instant ≠ f.evaluatedAt.instant)
        ("decisão e resultado citam instantes diferentes; uma operação tem UM instante de " ++
          "avaliação"),
      refuse (decision.governancePolicyKey.isSome &&
          decision.governancePolicyKey ≠ f.governanceResolution.policyKey)
        ("a decisão operou sob " ++ reprOpcional decision.governancePolicyKey ++
          ", mas a autoridade resolvida é " ++ reprOpcional f.governanceResolution.policyKey)]

/-- `_validar_desfecho`: the four ends that there are. -/
def validarDesfecho (f : AccessibilityTransitionResultFields) : Option String :=
  if f.governanceResolution.executionAuthorized = false then firstOf
    [refuse f.decision.isSome ("sem autorização de governança a policy sequer é avaliada; " ++
        "carregar uma decisão afirmaria uma avaliação que não ocorreu"),
      refuse f.observedState.isSome ("sob recusa de governança o sujeito não é lido; um " ++
        "observed_state afirmaria uma observação que não ocorreu"),
      refuse (f.stateChanged || f.noChange) ("governança não autorizou, então nem escrita nem " ++
        "no-op podem ter ocorrido — a recusa é anterior a olhar o sujeito"),
      refuse f.causalEventId.isSome ("recusa de governança não consulta evidência causal; " ++
        "citá-la apresentaria uma evidência real como fundamento de uma operação à qual ela " ++
        "não pertence")]
  else if f.observedState.isNone then
    some ("com governança autorizada o sujeito é lido sob lock, então observed_state não pode " ++
      "ser None")
  else if f.noChange then firstOf
    [refuse f.decision.isSome "no-op não fabrica decisão de policy: não há mudança a admitir",
      refuse (f.observedState ≠ some f.requestedTargetState)
        ("no-op significa que o estado observado (" ++
          reprOpcional (f.observedState.map AccessibilityState.value) ++ ") já é o alvo pedido (" ++
          pyRepr f.requestedTargetState.value ++ ")"),
      refuse f.causalEventId.isSome ("no-op não fabrica evidência causal — inclusive para um " ++
        "objeto que já está causally_extinct")]
  else match f.decision with
    | none => some ("resultado autorizado sem decisão só é possível como no-op; sem no_change, " ++
        "a policy foi necessariamente avaliada")
    | some decision =>
      if decision.isAdmissible = false then firstOf
        [refuse f.stateChanged ("estado só muda sob decisão ADMISSIBLE — mudança sem admissão " ++
            "é escrita sem autoridade"),
          refuse (f.observedState ≠ some decision.sourceState)
            ("sem escrita, o estado observado (" ++
              reprOpcional (f.observedState.map AccessibilityState.value) ++
              ") é o de origem da decisão (" ++ pyRepr decision.sourceState.value ++ ")"),
          refuse f.causalEventId.isSome ("recusa da policy não verifica evidência causal; " ++
            "citá-la seria apresentá-la como fundamento de uma operação que não ocorreu")]
      else firstOf
        [refuse (!f.stateChanged) ("decisão ADMISSIBLE sem no-op descreve uma escrita; " ++
            "state_changed=False afirmaria autorização sem efeito"),
          refuse (f.observedState ≠ some f.requestedTargetState)
            ("estado observado " ++ reprOpcional (f.observedState.map AccessibilityState.value) ++
              " difere do alvo autorizado " ++ pyRepr f.requestedTargetState.value ++
              " — a pós-condição não confirma a transição"),
          if f.requestedTargetState = .causallyExtinct then
            refuse f.causalEventId.isNone ("extinção causal exige evidência causal " ++
              "verificada; sem ela o resultado afirmaria uma extinção sem fundamento")
          else refuse f.causalEventId.isSome ("o alvo " ++ pyRepr f.requestedTargetState.value ++
            " não é extinção causal; citar evidência causal aqui a apresentaria como " ++
            "fundamento de uma operação à qual ela não pertence")]

/-- The checks of `__post_init__`, in order. -/
def violation (f : AccessibilityTransitionResultFields) : Option String :=
  firstOf
    [refuse (f.stateChanged && f.noChange) "state_changed e no_change são mutuamente exclusivos",
      refuse (resolucaoVinculaContexto f.governanceResolution f.context.domainIds
          f.context.actorRef f.context.purpose ≠ [])
        ("a resolução não foi emitida para este contexto: " ++ "; ".intercalate
          (resolucaoVinculaContexto f.governanceResolution f.context.domainIds
            f.context.actorRef f.context.purpose)),
      refuse (f.governanceResolution.operation ≠ .accessibilityTransition)
        ("a resolução é sobre " ++ f.governanceResolution.operation.value ++ "; um resultado " ++
          "de transição de acessibilidade exige autoridade sobre ACCESSIBILITY_TRANSITION"),
      f.decisao,
      f.validarDesfecho]

end AccessibilityTransitionResultFields

structure AccessibilityTransitionResult extends AccessibilityTransitionResultFields where
  valid : toAccessibilityTransitionResultFields.violation = none

def AccessibilityTransitionResult.make (f : AccessibilityTransitionResultFields) :
    Except AccessibilityError AccessibilityTransitionResult :=
  (checked f.violation fun h => (⟨f, h⟩ : AccessibilityTransitionResult)).mapError .valueError

end PiaOs.Memory
