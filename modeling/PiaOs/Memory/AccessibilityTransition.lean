import PiaOs.Cognitive.Derivation
import PiaOs.Memory.Accessibility

/-!
# The transition of accessibility

`AccessibilityPolicyManager.transition` asks governance first, then reads the subject under its
lock, evaluates the policy on the state it has read and, for an extinction, looks for the causal
evidence. The manager of the library writes, through a port; every port is checked for giving what
was asked.
-/

namespace PiaOs.Memory

open Support Piap Transactions Cognitive

/-! ## Ports -/

/-- What a port gives where an identifier is expected. -/
inductive Identificador
  | uuid (id : Referencia)
  | outro (classe : String)
  deriving DecidableEq

/-- The text of an identifier; of another object, its class. -/
def Identificador.str : Identificador → String
  | .uuid id => Piap.Referencia.str id
  | .outro classe => classe

/-- What a port gives: an object with the members that are asked of it, or another one. -/
inductive Visto (α : Type)
  | de (a : α)
  | outro (classe : String)
  deriving DecidableEq

/-- An instance of the subject: the identity that it shows, and which instance it is. -/
structure Sujeito where
  identidade : Visto Identificador
  instancia : ℕ
  deriving DecidableEq

/-- `CausalEventView`. -/
structure CausalEventView where
  id : Identificador
  historyId : Identificador

/-- `CausalHistoryView`. -/
structure CausalHistoryView where
  id : Identificador
  subjectCoid : Identificador

/-- The ports, over the tables that they read. Only `transition` writes. -/
structure Portas (τ : Type) where
  getById : Referencia → τ → Except Cognitive.Erro (Option Sujeito)
  refreshForUpdate : Sujeito → τ → Except Cognitive.Erro Sujeito
  getState : Sujeito → τ → Except Cognitive.Erro (Visto String)
  transition : Sujeito → AccessibilityState → Option String → Op τ Cognitive.Erro Sujeito
  getEvent : Referencia → τ → Except Cognitive.Erro (Option (Visto CausalEventView))
  getBySubject : Referencia → τ → Except Cognitive.Erro (Option (Visto CausalHistoryView))

/-- What else the manager reads: the clock, the domains and the policies. -/
structure Ambiente where
  agora : UtcInstant
  existsDomain : Option (Uuid → Bool)
  governancePolicies : PolicyTable
  accessibilityPolicies : List AccessibilityPolicy

/-! ## The request -/

structure PedidoDeTransicao where
  coid : Arg Referencia
  targetState : Arg String
  context : Arg MemoryContext
  descriptor : Arg CapabilityDescriptor
  governancePolicyKey : Arg String
  accessibilityPolicyKey : Arg String
  reason : Option (Arg String) := none
  causalEventId : Option (Arg Referencia) := none
  moment : Option (Arg Momento) := none

/-- A request whose arguments are valid. -/
structure Transicao where
  coid : Referencia
  targetState : AccessibilityState
  context : MemoryContext
  descriptor : CapabilityDescriptor
  governancePolicyKey : String
  accessibilityPolicyKey : String
  reason : Option String
  causalEventId : Option Referencia

namespace AccessibilityPolicyManager

def exigirTipo {α : Type} (campo : String) : Arg α → Except AccessibilityError α
  | .de a => .ok a
  | .outro => .error (.typeError campo)

def exigirOpcional {α : Type} (campo : String) :
    Option (Arg α) → Except AccessibilityError (Option α)
  | none => .ok none
  | some a => (exigirTipo campo a).map some

def validarChave (nome : String) (chave : Arg String) : Except AccessibilityError String := do
  let texto ← exigirTipo nome chave
  recusarValor (refuse (blank texto) (nome ++ " não pode ser vazio"))
  return texto

def validarAlvo (targetState : Arg String) : Except AccessibilityError AccessibilityState := do
  let token ← exigirTipo "target_state" targetState
  match estadoDoToken? token with
  | some state => .ok state
  | none => .error (.valueError ("target_state " ++ pyRepr token ++
      " está fora do vocabulário da E3 " ++ vocabulario))

/-- `_validar_argumentos`, in its order. A reason is asked for only once the state is known. -/
def validarArgumentos (pedido : PedidoDeTransicao) : Except AccessibilityError Transicao := do
  let coid ← exigirTipo "coid" pedido.coid
  let targetState ← validarAlvo pedido.targetState
  let context ← exigirTipo "context" pedido.context
  let descriptor ← exigirTipo "descriptor" pedido.descriptor
  recusarValor (refuse (descriptor.operation ≠ .accessibilityTransition)
    ("a E4.7 executa apenas CognitiveOperation.ACCESSIBILITY_TRANSITION; recebido " ++
      descriptor.operation.value))
  let reason ← exigirOpcional "reason" pedido.reason
  let causalEventId ← exigirOpcional "causal_event_id" pedido.causalEventId
  let governancePolicyKey ← validarChave "governance_policy_key" pedido.governancePolicyKey
  let accessibilityPolicyKey ←
    validarChave "accessibility_policy_key" pedido.accessibilityPolicyKey
  return { coid, targetState, context, descriptor, governancePolicyKey, accessibilityPolicyKey,
           reason, causalEventId }

/-- `_instante_unico`. -/
def instanteUnico (agora : UtcInstant) :
    Option (Arg Momento) → Except AccessibilityError UtcInstant
  | none => .ok agora
  | some .outro => .error (.typeError "moment")
  | some (.de (.ingenuo _)) => .error (.valueError ("moment deve ser timezone-aware — um " ++
      "instante ingênuo tornaria a vigência dependente do fuso da máquina"))
  | some (.de (.ciente t)) => t.astimezoneUtc.mapError .overflow

/-! ## Governance -/

/-- `ContextManager.validate`. -/
def validarContexto (existsDomain : Option (Uuid → Bool)) (context : MemoryContext) :
    Except AccessibilityError MemoryContext :=
  if context.domainIds = [] then .ok context
  else match existsDomain with
    | none => .error (.valueError "validate() exige um MemoryDomainRepository")
    | some existe =>
      let desconhecidos := context.domainIds.filter fun domainId => !existe domainId
      if desconhecidos = [] then .ok context else .error (.unknownDomains desconhecidos)

/-- `_verificar_fidelidade_do_contexto`. -/
def verificarFidelidadeDoContexto (solicitado confirmado : MemoryContext) :
    Except AccessibilityError Unit :=
  recusarContrato [refuse (!confirmado.iguais solicitado)
    ("ContextManager.validate devolveu contexto diferente do solicitado — " ++
      "validação não substitui a perspectiva pedida")].reduceOption

/-- `_verificar_fidelidade_da_resolucao`. -/
def verificarFidelidadeDaResolucao (resolution : GovernanceResolution) (t : Transicao) :
    Except AccessibilityError Unit :=
  recusarContrato (
    [refuse (resolution.operation ≠ .accessibilityTransition)
        ("a resolução é sobre " ++ resolution.operation.value ++ ", e a E4.7 executa apenas " ++
          "CognitiveOperation.ACCESSIBILITY_TRANSITION"),
      refuse (resolution.operation ≠ t.descriptor.operation)
        ("operação resolvida (" ++ resolution.operation.value ++ ") difere da solicitada (" ++
          t.descriptor.operation.value ++ ")"),
      refuse (resolution.policyKey.isSome && resolution.policyKey ≠ some t.governancePolicyKey)
        ("policy de governança resolvida " ++ reprOpcional resolution.policyKey ++
          " difere da solicitada " ++ pyRepr t.governancePolicyKey)].reduceOption ++
    resolucaoVinculaContexto resolution t.context.domainIds t.context.actorRef t.context.purpose)

/-- The context and the authority, confirmed before anything of the subject is read. -/
def resolverAutoridade (amb : Ambiente) (t : Transicao) (instante : UtcInstant) :
    Except AccessibilityError GovernanceResolution := do
  let confirmado ← validarContexto amb.existsDomain t.context
  verificarFidelidadeDoContexto t.context confirmado
  let resolution ← (GovernanceManager.resolve amb.governancePolicies t.descriptor t.context
    (some t.governancePolicyKey) instante.toDatetime).mapError .valueError
  verificarFidelidadeDaResolucao resolution t
  return resolution

/-! ## The subject -/

/-- `_verificar_identidade`. -/
def verificarIdentidade (sujeito : Sujeito) (coid : Referencia) (origem : String)
    (mesmaInstanciaQue : Option Sujeito) : Except AccessibilityError Unit :=
  match sujeito.identidade with
  | .outro classe => recusarContrato
      [origem ++ " devolveu um objeto sem identidade observável (" ++ classe ++ ")"]
  | .de (.outro classe) => recusarContrato
      [origem ++ " devolveu id do tipo " ++ classe ++ ", não uuid.UUID"]
  | .de (.uuid id) =>
    if id ≠ coid then recusarContrato [origem ++ " devolveu o sujeito " ++ id.str ++
      ", mas o pedido é sobre " ++ coid.str ++
      " — escrever nele alteraria patrimônio que ninguém pediu"]
    else recusarContrato [refuse
      (mesmaInstanciaQue.any fun outro => outro.instancia ≠ sujeito.instancia)
      (origem ++ " devolveu outra instância do sujeito " ++ coid.str ++ " — a identidade do " ++
        "COID coincide, mas a instância bloqueada não foi a alterada, e confirmar a substituta " ++
        "certificaria uma escrita que não ocorreu na linha protegida pelo lock")].reduceOption

/-- `_ler_estado`. -/
def lerEstado {τ : Type} (portas : Portas τ) (sujeito : Sujeito) (db : τ) :
    Except AccessibilityError AccessibilityState := do
  match ← (portas.getState sujeito db).mapError .cognitivo with
  | .outro classe =>
    .error (.transitionContractViolation ["get_state devolveu " ++ classe ++ ", não str"])
  | .de token =>
    match estadoDoToken? token with
    | some state => .ok state
    | none => .error (.transitionContractViolation ["get_state devolveu " ++ pyRepr token ++
        ", fora do vocabulário da E3 " ++ vocabulario])

/-! ## The policy -/

/-- Why a version may not decide under the authority that was asked for. -/
def motivosDaPolicy (policy : AccessibilityPolicy) (t : Transicao)
    (resolution : GovernanceResolution) : List String :=
  [refuse (policy.policyKey ≠ t.accessibilityPolicyKey)
      ("o repositório devolveu a policy " ++ pyRepr policy.policyKey ++ ", não a solicitada " ++
        pyRepr t.accessibilityPolicyKey),
    refuse (policy.governancePolicyKey ≠ t.governancePolicyKey)
      ("a AccessibilityPolicy é subordinada a " ++ pyRepr policy.governancePolicyKey ++
        ", mas a autoridade solicitada é " ++ pyRepr t.governancePolicyKey),
    refuse (some policy.governancePolicyKey ≠ resolution.policyKey)
      ("a AccessibilityPolicy é subordinada a " ++ pyRepr policy.governancePolicyKey ++
        ", mas a autoridade resolvida é " ++ reprOpcional resolution.policyKey)].reduceOption

/-- The rules that match, in their canonical order. -/
def aplicaveis (regras : List AccessibilityRule) (source target : AccessibilityState) :
    List AccessibilityRule :=
  (regras.filter (·.matches source target)).insertionSort fun r r' => r.sortKey ≤ r'.sortKey

/-- The decision of the rules that match: the first denial, or the first of all. -/
def decidir (policy : AccessibilityPolicy) (source target : AccessibilityState)
    (instante : UtcInstant) : List AccessibilityRule → AccessibilityDecisionFields
  | [] =>
    { outcome := .notApplicable
      sourceState := source
      targetState := target
      evaluatedAt := instante }
  | primeira :: outras =>
    let escolhida := ((primeira :: outras).filter (·.effect = .deny)).headD primeira
    { outcome := if escolhida.effect = .deny then .inadmissible else .admissible
      sourceState := source
      targetState := target
      evaluatedAt := instante
      policyKey := some policy.policyKey
      policyVersion := some policy.version
      governancePolicyKey := some policy.governancePolicyKey
      matchedRuleId := some escolhida.ruleId }

/-- What a version in force decides. -/
def avaliarVersao (policy : AccessibilityPolicy) (t : Transicao)
    (resolution : GovernanceResolution) (source : AccessibilityState) (instante : UtcInstant) :
    Except AccessibilityError AccessibilityDecision := do
  recusarContrato (motivosDaPolicy policy t resolution)
  let regras ← AccessibilityPolicy.deserializeRules policy.rules
  AccessibilityDecision.make
    (decidir policy source t.targetState instante (aplicaveis regras source t.targetState))

/-- `_avaliar`. -/
def avaliar (policies : List AccessibilityPolicy) (t : Transicao)
    (resolution : GovernanceResolution) (source : AccessibilityState) (instante : UtcInstant) :
    Except AccessibilityError AccessibilityDecision :=
  match AccessibilityPolicy.effectiveVersionAt policies t.accessibilityPolicyKey
      instante.instant with
  | none => AccessibilityDecision.make
      { outcome := .notApplicable
        sourceState := source
        targetState := t.targetState
        evaluatedAt := instante }
  | some policy => avaliarVersao policy t resolution source instante

/-! ## Causal evidence -/

def tipoErrado (nome : String) : Identificador → Option String
  | .uuid _ => none
  | .outro classe => some (nome ++ " é " ++ classe ++ ", não uuid.UUID")

/-- The fields of the evidence that are no identifiers. -/
def tiposErrados (evento : CausalEventView) (historia : CausalHistoryView) : List String :=
  [tipoErrado "evento.id" evento.id, tipoErrado "evento.history_id" evento.historyId,
    tipoErrado "historia.id" historia.id,
    tipoErrado "historia.subject_coid" historia.subjectCoid].reduceOption

/-- The three equalities that make an event evidence about the subject. -/
def verificarPertencimento (coid causalEventId : Referencia) (evento : CausalEventView)
    (historia : CausalHistoryView) : Except AccessibilityError Referencia := do
  recusarContrato (tiposErrados evento historia)
  recusarContrato
    [refuse (evento.id ≠ .uuid causalEventId) ("a porta devolveu o evento " ++ evento.id.str ++
        ", mas o solicitado foi " ++ causalEventId.str),
      refuse (historia.subjectCoid ≠ .uuid coid) ("a história devolvida pertence a " ++
        historia.subjectCoid.str ++ ", não ao sujeito " ++ coid.str),
      refuse (evento.historyId ≠ historia.id) ("o evento " ++ evento.id.str ++
        " pertence à história " ++ evento.historyId.str ++ ", não à história " ++
        historia.id.str ++ " do sujeito")].reduceOption
  return causalEventId

/-- `_verificar_evidencia_causal`. -/
def verificarEvidenciaCausal {τ : Type} (portas : Portas τ) (coid : Referencia)
    (causalEventId : Option Referencia) (db : τ) : Except AccessibilityError Referencia :=
  match causalEventId with
  | none => .error (.transitionContractViolation
      ["transição para causally_extinct exige causal_event_id — extinção sem evidência seria " ++
        "causalidade fabricada"])
  | some eventId => do
    match ← (portas.getEvent eventId db).mapError .cognitivo with
    | none => .error (.transitionContractViolation
        ["evento causal " ++ eventId.str ++ " não existe"])
    | some (.outro classe) => .error (.transitionContractViolation
        ["get_event devolveu um objeto sem os campos de um evento causal (" ++ classe ++ ")"])
    | some (.de evento) =>
      match ← (portas.getBySubject coid db).mapError .cognitivo with
      | none => .error (.transitionContractViolation
          ["o sujeito " ++ coid.str ++ " não possui história causal; o evento informado não " ++
            "pode pertencer a ele"])
      | some (.outro classe) => .error (.transitionContractViolation
          ["get_by_subject devolveu um objeto sem os campos de uma história causal (" ++
            classe ++ ")"])
      | some (.de historia) => verificarPertencimento coid eventId evento historia

/-! ## The transition -/

section Transition

variable {τ : Type} (portas : Portas τ) (amb : Ambiente) (t : Transicao)
  (resolution : GovernanceResolution) (instante : UtcInstant)

/-- The result of a request, before what was observed is added to it. -/
def resultado (resolution : GovernanceResolution) (instante : UtcInstant) :
    AccessibilityTransitionResultFields where
  coid := t.coid
  context := t.context
  governanceResolution := resolution
  decision := none
  requestedTargetState := t.targetState
  observedState := none
  stateChanged := false
  evaluatedAt := instante

/-- `_verificar_poscondicao`. -/
def verificarPoscondicao (observado alvo : AccessibilityState) : Except AccessibilityError Unit :=
  recusarContrato [refuse (observado ≠ alvo)
    ("pós-condição não confirma a transição: estado observado " ++ pyRepr observado.value ++
      ", alvo autorizado " ++ pyRepr alvo.value)].reduceOption

/-- The evidence of an extinction, and none of another change. -/
def evidencia (db : τ) : Except AccessibilityError (Option Referencia) :=
  if t.targetState = .causallyExtinct then
    (verificarEvidenciaCausal portas t.coid t.causalEventId db).map some
  else .ok none

/-- The write, and what is checked after it. -/
def escrever (bloqueado : Sujeito) (decisao : AccessibilityDecision)
    (evidencia : Option Referencia) : Op τ AccessibilityError AccessibilityTransitionResult := do
  let escrito ← (portas.transition bloqueado t.targetState t.reason).mapError .cognitivo
  Op.lift (verificarIdentidade escrito t.coid "transition" (some bloqueado))
  let observado ← Op.query (lerEstado portas bloqueado)
  Op.lift (verificarPoscondicao observado t.targetState)
  Op.lift (AccessibilityTransitionResult.make { resultado t resolution instante with
    decision := some decisao
    observedState := some observado
    stateChanged := true
    causalEventId := evidencia })

/-- What is done with the subject once its state is known. -/
def decidirEscrita (bloqueado : Sujeito) (atual : AccessibilityState) :
    Op τ AccessibilityError AccessibilityTransitionResult := do
  if atual = t.targetState then
    Op.lift (AccessibilityTransitionResult.make
      { resultado t resolution instante with observedState := some atual, noChange := true })
  else if t.targetState = .causallyExtinct ∧ t.reason.all blank then
    Op.raise (.valueError ("extinção causal exige reason não-vazio — exigência do manager " ++
      "sancionado da E3 (E3.6), que a E4.7 complementa sem substituir"))
  else
    let decisao ← Op.lift (avaliar amb.accessibilityPolicies t resolution atual instante)
    if decisao.isAdmissible = false then
      Op.lift (AccessibilityTransitionResult.make
        { resultado t resolution instante with
          decision := some decisao, observedState := some atual })
    else
      let evidencia ← Op.query (evidencia portas t)
      escrever portas t resolution instante bloqueado decisao evidencia

/-- The part of `transition` that is reached with authority. -/
def executar : Op τ AccessibilityError AccessibilityTransitionResult := do
  match ← Op.query fun db => (portas.getById t.coid db).mapError AccessibilityError.cognitivo with
  | none => Op.raise (.subjectNotFound t.coid)
  | some sujeito =>
    Op.lift (verificarIdentidade sujeito t.coid "get_by_id" none)
    let bloqueado ← Op.query fun db =>
      (portas.refreshForUpdate sujeito db).mapError AccessibilityError.cognitivo
    Op.lift (verificarIdentidade bloqueado t.coid "refresh_for_update" (some sujeito))
    let atual ← Op.query (lerEstado portas bloqueado)
    decidirEscrita portas amb t resolution instante bloqueado atual

/-- `transition`. -/
def transition (pedido : PedidoDeTransicao) :
    Op τ AccessibilityError AccessibilityTransitionResult := do
  let instante ← Op.lift (instanteUnico amb.agora pedido.moment)
  let t ← Op.lift (validarArgumentos pedido)
  let resolution ← Op.lift (resolverAutoridade amb t instante)
  if resolution.executionAuthorized = false then
    Op.lift (AccessibilityTransitionResult.make (resultado t resolution instante))
  else executar portas amb t resolution instante

end Transition

end AccessibilityPolicyManager

/-! ## The ports of the library -/

/-- The instance that a session has for a COID, the only one. -/
def sujeitoDe (coid : Referencia) : Sujeito := ⟨.de (.uuid coid), coid.val⟩

/-- The COID of an instance. -/
def Sujeito.coid? (sujeito : Sujeito) : Option Referencia :=
  match sujeito.identidade with
  | .de (.uuid id) => some id
  | _ => none

/-- The row that the session has for an instance. -/
def linhaDe (sujeito : Sujeito) (db : Biblioteca) : Except Cognitive.Erro CognitiveObject :=
  match sujeito.coid? with
  | none => .error (.typeError "entity")
  | some coid =>
    match db.objects.lookup coid with
    | none => .error (.invalidRequest coid)
    | some row => .ok row

/-- `ObjectRepository`, `AccessibilityManager` and `CausalHistoryRepository` over one session. -/
def portasDaBiblioteca : Portas Biblioteca where
  getById coid db := .ok ((db.objects.lookup coid).map fun _ => sujeitoDe coid)
  refreshForUpdate sujeito db := (linhaDe sujeito db).map fun _ => sujeito
  getState sujeito db := (linhaDe sujeito db).map fun row => .de row.accessibility.value
  transition sujeito targetState reason :=
    match sujeito.coid? with
    | none => Op.raise (.typeError "obj")
    | some coid => do
      AccessibilityManager.transition coid targetState.naBiblioteca reason
      pure sujeito
  getEvent eventId db := .ok ((db.events.lookup eventId).map fun evento =>
    .de ⟨.uuid eventId, .uuid evento.historyId⟩)
  getBySubject coid db := .ok ((db.historyOf coid).bind fun id =>
    (db.histories.lookup id).map fun historia => .de ⟨.uuid id, .uuid historia.subjectCoid⟩)

end PiaOs.Memory
