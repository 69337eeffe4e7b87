import Mathlib.Data.List.ReduceOption
import PiaOs.Memory.Resolve
import PiaOs.Support.Process

/-!
# The admissible view

`MemoryRetrievalManager.retrieve` composes a view of the stored objects for one
context: governance first, then the search in batches, then the filters, and the
page is counted on what they leave. The criteria of a request go to the search
unread, so they are not part of the model.
-/

namespace PiaOs.Memory

open Support

/-- `MAX_LIMIT`. -/
def maxLimit : Int := 100

/-- `SEARCH_BATCH_SIZE`. -/
def searchBatchSize : Nat := 100

def knownAccessibilityTokens : List String := ["active", "latent", "inaccessible", "causally_extinct"]

def knownRevisionTokens : List String := ["current", "superseded"]

def retrievableAccessibilityTokens : List String := ["active", "latent"]

/-- An object as the search port shows it. -/
structure CognitiveObjectView where
  id : Uuid
  clid : Option Uuid := none
  accessibility : String
  revisionStatus : Option String := none
  createdAt : Datetime
  deletedAt : Option Datetime := none

/-- A membership of an object in a domain. -/
structure MembershipView where
  domainId : Uuid
  coid : Uuid

/-- How a candidate gate may answer: a `bool`, an exception or a value of another class. -/
inductive GateAnswer
  | verdict (aprova : Bool)
  | raised (classe : String)
  | other (classe : String)

/-- What the managers ask of the stores, of the search, of a gate and of the clock. -/
inductive Consulta
  | now
  | policies
  | existsDomain (domainId : Uuid)
  | membershipsOfDomain (domainId : Uuid)
  | search (limit offset : Nat)
  | allows (candidate : CognitiveObjectView)

/-- How each question is answered. -/
def Consulta.Resposta : Consulta → Type
  | .now => Datetime
  | .policies => PolicyTable
  | .existsDomain _ => Bool
  | .membershipsOfDomain _ => List MembershipView
  | .search _ _ => List CognitiveObjectView
  | .allows _ => GateAnswer

/-- The questions whose answers show something of what is stored. -/
def Consulta.tocaPatrimonio : Consulta → Bool
  | .membershipsOfDomain _ | .search _ _ | .allows _ => true
  | _ => false

inductive ManagerError
  | value (text : String)
  | overflow (text : String)
  | retrievalContractViolation (motivos : List String)
  | retrievalDuplicateCoid (coid : Uuid)
  | unknownDomains (ids : List Uuid)
  | isolationScopeRequired
  | isolationContractViolation (motivos : List String)
  /-- The run was cut off. The source has no such end. -/
  | unfinished
  deriving DecidableEq

/-- A step of a manager. -/
abbrev Passo (α : Type) := Proc Consulta Consulta.Resposta (Except ManagerError α)

/-- A check that gives the text of a `ValueError`. -/
def exigir : Option String → Except ManagerError Unit
  | none => .ok ()
  | some text => .error (.value text)

def reprOpcional : Option String → String
  | none => "None"
  | some s => pyRepr s

def reprUuids (ids : List Uuid) : String := pyList (ids.map fun d => pyRepr d.str)

/-- `resolucao_vincula_contexto`: why a resolution is not about the context. -/
def resolucaoVinculaContexto (resolution : GovernanceResolution) (domainIds : List Uuid)
    (actorRef purpose : Option String) : List String :=
  [refuse (resolution.contextDomainIds ≠ domainIds)
      ("a resolução foi emitida para os domínios " ++ reprUuids resolution.contextDomainIds ++
        ", mas o contexto solicitado declara " ++ reprUuids domainIds),
    refuse (resolution.contextActorRef ≠ actorRef)
      ("a resolução foi emitida para o ator " ++ reprOpcional resolution.contextActorRef ++
        ", mas o contexto solicitado declara " ++ reprOpcional actorRef),
    refuse (resolution.contextPurpose ≠ purpose)
      ("a resolução foi emitida para o propósito " ++ reprOpcional resolution.contextPurpose ++
        ", mas o contexto solicitado declara " ++ reprOpcional purpose)].reduceOption

theorem reduceOption_eq_nil {α : Type} {checks : List (Option α)} :
    checks.reduceOption = [] ↔ ∀ check ∈ checks, check = none := by
  rw [List.reduceOption_eq_nil_iff]
  constructor
  · rintro ⟨count, rfl⟩ check hcheck
    exact List.eq_of_mem_replicate hcheck
  · exact fun h => ⟨_, List.eq_replicate_of_mem h⟩

/-- A resolution is about the context that its own fields repeat. -/
theorem resolucaoVinculaContexto_eq_nil {resolution : GovernanceResolution}
    {domainIds : List Uuid} {actorRef purpose : Option String} :
    resolucaoVinculaContexto resolution domainIds actorRef purpose = [] ↔
      resolution.contextDomainIds = domainIds ∧ resolution.contextActorRef = actorRef ∧
        resolution.contextPurpose = purpose := by
  rw [resolucaoVinculaContexto, reduceOption_eq_nil]
  simp

/-! ## The view -/

structure RetrievedMemoryItemFields where
  coid : Uuid
  clid : Option Uuid
  accessibility : String
  revisionStatus : Option String
  createdAt : Datetime

def RetrievedMemoryItemFields.violation (f : RetrievedMemoryItemFields) : Option String :=
  firstOf
    [refuse (blank f.accessibility) "accessibility não pode ser vazio",
      refuse (f.revisionStatus.any blank) "revision_status, quando informado, não pode ser vazio",
      refuse (f.revisionStatus.any fun token => token ∉ knownRevisionTokens)
        ("revision_status " ++ reprOpcional f.revisionStatus ++ " não pertence ao vocabulário " ++
          "da E3 ['current', 'superseded'] (corretivo E4.6.1)"),
      refuse (f.accessibility ∉ retrievableAccessibilityTokens)
        ("accessibility " ++ pyRepr f.accessibility ++ " não pertence à vista admissível " ++
          "['active', 'latent'] — INACCESSIBLE e " ++
          "CAUSALLY_EXTINCT existem no patrimônio, mas não são apresentados aqui")]

/-- An object of the view. -/
structure RetrievedMemoryItem extends RetrievedMemoryItemFields where
  accepted : toRetrievedMemoryItemFields.violation = none

structure MemoryRetrievalResultFields where
  context : MemoryContext
  governanceResolution : GovernanceResolution
  items : List RetrievedMemoryItem := []
  searchExecuted : Bool := false
  limit : Int
  offset : Int
  hasMore : Option Bool := none

namespace MemoryRetrievalResultFields

def coids (f : MemoryRetrievalResultFields) : List Uuid := f.items.map fun item => item.coid

def validarAutorizado (f : MemoryRetrievalResultFields) : Option String :=
  firstOf
    [refuse (!f.searchExecuted)
        ("resolução autoriza a execução, mas search_executed é False — " ++
          "um resultado autorizado sem busca não descreve operação alguma"),
      refuse f.hasMore.isNone
        ("busca executada exige has_more booleano: `None` significa que a Search não correu"),
      refuse (f.limit < 1) "busca executada exige limit >= 1",
      refuse (f.hasMore = some true ∧ (f.items.length : Int) ≠ f.limit)
        ("has_more=True com página parcial (" ++ toString f.items.length ++ " de " ++
          toString f.limit ++ ") — o coletor preencheria a página antes de declarar que há mais")]

def validarNegado (f : MemoryRetrievalResultFields) : Option String :=
  firstOf
    [refuse f.searchExecuted
        ("resolução não autoriza a execução, mas search_executed é True — " ++
          "a Search não pode ter sido chamada"),
      refuse (!f.items.isEmpty)
        ("resultado negado não carrega itens: expor patrimônio sob recusa " ++
          "anularia a própria recusa"),
      refuse f.hasMore.isSome
        ("resultado negado tem has_more=None — afirmar True ou False vazaria " ++
          "se existe mais patrimônio sob os critérios recusados")]

/-- The checks of `__post_init__`, in order. -/
def violation (f : MemoryRetrievalResultFields) : Option String :=
  let divergencias := resolucaoVinculaContexto f.governanceResolution f.context.domainIds
    f.context.actorRef f.context.purpose
  firstOf
    [refuse (¬f.coids.Nodup)
        ("o mesmo COID aparece mais de uma vez na vista — objetos cognitivamente " ++
          "distintos nunca são colapsados, e COID repetido é defeito de composição"),
      refuse (divergencias ≠ [])
        ("a resolução não foi emitida para este contexto: " ++ "; ".intercalate divergencias),
      refuse (f.limit < 0) "limit não pode ser negativo",
      refuse (maxLimit < f.limit)
        ("limit não pode exceder MAX_LIMIT (100): " ++ toString f.limit),
      refuse (f.offset < 0) "offset não pode ser negativo",
      refuse (f.governanceResolution.operation ≠ .read)
        ("a resolução é sobre " ++ f.governanceResolution.operation.value ++ ", e a E4.6 " ++
          "executa apenas CognitiveOperation.READ (corretivo E4.6.1)"),
      refuse (f.limit < f.items.length)
        ("a página carrega " ++ toString f.items.length ++ " itens para limit=" ++
          toString f.limit ++ " — o coletor canônico nunca ultrapassa o limite"),
      if f.governanceResolution.executionAuthorized then f.validarAutorizado else f.validarNegado]

end MemoryRetrievalResultFields

/-- The view of one request, or the refusal that there is none. -/
structure MemoryRetrievalResult extends MemoryRetrievalResultFields where
  accepted : toMemoryRetrievalResultFields.violation = none

def MemoryRetrievalResult.make (f : MemoryRetrievalResultFields) :
    Except ManagerError MemoryRetrievalResult :=
  (checked f.violation fun h => (⟨f, h⟩ : MemoryRetrievalResult)).mapError .value

/-! ## The collaborators -/

namespace ContextManager

/-- The declared domains that do not exist. -/
def desconhecidos : List Uuid → Proc Consulta Consulta.Resposta (List Uuid)
  | [] => .done []
  | domainId :: resto => .call (.existsDomain domainId) fun (existe : Bool) =>
    (desconhecidos resto).bind fun outros =>
      .done (if existe then outros else domainId :: outros)

/-- `validate`: every declared domain exists, and the context is given back. -/
def validate (context : MemoryContext) : Passo MemoryContext :=
  (desconhecidos context.domainIds).bind fun ids =>
    .done (if ids = [] then .ok context else .error (.unknownDomains ids))

end ContextManager

/-- The perspective of two contexts is the same. -/
def MemoryContext.iguais (context context' : MemoryContext) : Bool :=
  context.domainIds = context'.domainIds && context.sessionId = context'.sessionId &&
    context.actorRef = context'.actorRef && context.purpose = context'.purpose

/-- `resolve`, at the given moment or now. The table of policies is read once. -/
def resolver (descriptor : CapabilityDescriptor) (context : MemoryContext)
    (policyKey : Option String) (moment : Option Datetime) : Passo GovernanceResolution :=
  let resolverEm (agora : Datetime) : Passo GovernanceResolution :=
    .call .policies fun (policies : PolicyTable) =>
      .done ((GovernanceManager.resolve policies descriptor context policyKey agora).mapError .value)
  match moment with
  | some agora => resolverEm agora
  | none => .call .now resolverEm

/-! ## The manager -/

/-- What a caller asks for. `gated` says whether it passes a candidate gate. -/
structure RetrievalRequest where
  context : MemoryContext
  descriptor : CapabilityDescriptor
  policyKey : Option String := none
  moment : Option Datetime := none
  limit : Int := 50
  offset : Int := 0
  gated : Bool := false

namespace MemoryRetrievalManager

def validarPaginacao (limit offset : Int) : Option String :=
  firstOf
    [refuse (limit < 1) "limit deve ser >= 1",
      refuse (maxLimit < limit) ("limit não pode exceder MAX_LIMIT (100): " ++ toString limit),
      refuse (offset < 0) "offset não pode ser negativo"]

def validarDescritor (descriptor : CapabilityDescriptor) : Option String :=
  refuse (descriptor.operation ≠ .read)
    ("E4.6 executa apenas CognitiveOperation.READ; recebido " ++ descriptor.operation.value)

/-- `_verificar_fidelidade_do_contexto`. -/
def verificarFidelidadeDoContexto (solicitado confirmado : MemoryContext) :
    Except ManagerError Unit :=
  if confirmado.iguais solicitado then .ok ()
  else .error (.retrievalContractViolation
    ["ContextManager.validate devolveu um contexto diferente do " ++
      "solicitado — validação não substitui a perspectiva pedida"])

/-- `_verificar_fidelidade_da_resolucao`. -/
def verificarFidelidadeDaResolucao (resolution : GovernanceResolution)
    (request : RetrievalRequest) : Except ManagerError Unit :=
  let motivos :=
    [refuse (resolution.operation ≠ .read)
        ("a resolução é sobre " ++ resolution.operation.value ++ ", e a E4.6 executa apenas " ++
          "CognitiveOperation.READ"),
      refuse (resolution.operation ≠ request.descriptor.operation)
        ("operação resolvida (" ++ resolution.operation.value ++ ") difere da solicitada (" ++
          request.descriptor.operation.value ++ ")"),
      refuse (resolution.policyKey.isSome ∧ resolution.policyKey ≠ request.policyKey)
        ("policy resolvida " ++ reprOpcional resolution.policyKey ++ " difere da solicitada " ++
          reprOpcional request.policyKey)].reduceOption ++
      resolucaoVinculaContexto resolution request.context.domainIds request.context.actorRef
        request.context.purpose
  if motivos = [] then .ok () else .error (.retrievalContractViolation motivos)

/-- The members of the listed domains. -/
def membros : List Uuid → Proc Consulta Consulta.Resposta (List Uuid)
  | [] => .done []
  | domainId :: resto => .call (.membershipsOfDomain domainId) fun (rows : List MembershipView) =>
    (membros resto).bind fun outros => .done (rows.map MembershipView.coid ++ outros)

/-- `_resolver_escopo`: no restriction, or the members of the declared domains. -/
def resolverEscopo (context : MemoryContext) :
    Proc Consulta Consulta.Resposta (Option (List Uuid)) :=
  if context.domainIds = [] then .done none
  else (membros context.domainIds).bind fun coids => .done (some coids)

/-- `_validar_hit`: the tokens belong to the vocabulary. -/
def validarHit (objeto : CognitiveObjectView) : Except ManagerError Unit :=
  let motivos :=
    [refuse (objeto.accessibility ∉ knownAccessibilityTokens)
        ("accessibility " ++ pyRepr objeto.accessibility ++ " não pertence ao vocabulário da E3 " ++
          "['active', 'causally_extinct', 'inaccessible', 'latent']"),
      refuse (objeto.revisionStatus.any fun token => token ∉ knownRevisionTokens)
        ("revision_status " ++ reprOpcional objeto.revisionStatus ++
          " não pertence ao vocabulário da E3 ['current', 'superseded']")].reduceOption
  if motivos = [] then .ok () else .error (.retrievalContractViolation motivos)

/-- A result is valid when its tokens are known. -/
theorem validarHit_eq_ok {objeto : CognitiveObjectView} : validarHit objeto = .ok () ↔
    objeto.accessibility ∈ knownAccessibilityTokens ∧
      ∀ token ∈ objeto.revisionStatus, token ∈ knownRevisionTokens := by
  unfold validarHit
  simp only [reduceOption_eq_nil, List.forall_mem_cons, refuse_eq_none, Option.any_eq_false,
    List.not_mem_nil, false_implies, implies_true, and_true, decide_not, Bool.not_eq_false',
    decide_eq_true_eq, Option.mem_def]
  split <;> simp_all

/-- `_admissivel`. -/
def admissivel (objeto : CognitiveObjectView) (escopo : Option (List Uuid)) : Bool :=
  objeto.deletedAt.isNone && objeto.accessibility ∈ retrievableAccessibilityTokens &&
    escopo.all fun coids => objeto.id ∈ coids

/-- `_gate_aprova`: only an exact `bool` counts. -/
def gateAprova (objeto : CognitiveObjectView) : Passo Bool :=
  .call (.allows objeto) fun (answer : GateAnswer) => .done <| match answer with
    | .verdict aprova => .ok aprova
    | .raised classe => .error (.retrievalContractViolation
        ["o candidate_gate levantou " ++ classe ++ " ao avaliar o candidato " ++ objeto.id.str ++
          " — falha de colaborador não é decisão sobre a vista"])
    | .other classe => .error (.retrievalContractViolation
        ["o candidate_gate devolveu " ++ classe ++ " ao avaliar o candidato " ++ objeto.id.str ++
          "; o contrato exige bool exato — valor truthy/falsy não é resposta"])

/-- What `_projetar` hands to the constructor. -/
def projecao (objeto : CognitiveObjectView) : RetrievedMemoryItemFields :=
  ⟨objeto.id, objeto.clid, objeto.accessibility, objeto.revisionStatus, objeto.createdAt⟩

def projetar (objeto : CognitiveObjectView) : Except ManagerError RetrievedMemoryItem :=
  (checked (projecao objeto).violation fun h => (⟨projecao objeto, h⟩ : RetrievedMemoryItem)).mapError
    .value

/-- The variables of the loop. -/
structure Coleta where
  admissiveis : List RetrievedMemoryItem := []
  vistos : List Uuid := []
  descartados : Nat := 0

/-- What an approved object adds: it is one of the first `offset`, or one of the page. -/
def acrescentar (offset : Nat) (objeto : CognitiveObjectView) (coleta : Coleta) :
    Except ManagerError Coleta :=
  if coleta.descartados < offset then
    .ok { coleta with descartados := coleta.descartados + 1 }
  else do
    let item ← projetar objeto
    .ok { coleta with admissiveis := coleta.admissiveis ++ [item] }

/-- The inner loop: the objects of a batch, until there is one more than the page holds. -/
def percorrer (escopo : Option (List Uuid)) (gated : Bool) (limit offset : Nat) :
    List CognitiveObjectView → Coleta → Passo Coleta
  | [], coleta => .done (.ok coleta)
  | objeto :: resto, coleta =>
    (Proc.done (validarHit objeto)).attempt fun () =>
      if admissivel objeto escopo = false then percorrer escopo gated limit offset resto coleta
      else if objeto.id ∈ coleta.vistos then .done (.error (.retrievalDuplicateCoid objeto.id))
      else
        let vista := { coleta with vistos := objeto.id :: coleta.vistos }
        (if gated then gateAprova objeto else .done (.ok true)).attempt fun aprova =>
          if aprova = false then percorrer escopo gated limit offset resto vista
          else (Proc.done (acrescentar offset objeto vista)).attempt fun coleta =>
            if limit < coleta.admissiveis.length then .done (.ok coleta)
            else percorrer escopo gated limit offset resto coleta

/-- The outer loop, for `voltas` batches at most. -/
def lotes (escopo : Option (List Uuid)) (gated : Bool) (limit offset : Nat) :
    Nat → Nat → Coleta → Passo Coleta
  | 0, _, _ => .done (.error .unfinished)
  | voltas + 1, posicao, coleta =>
    .call (.search searchBatchSize posicao) fun (lote : List CognitiveObjectView) =>
      if lote = [] then .done (.ok coleta)
      else (percorrer escopo gated limit offset lote coleta).attempt fun coleta =>
        if lote.length < searchBatchSize ∨ limit < coleta.admissiveis.length then
          .done (.ok coleta)
        else lotes escopo gated limit offset voltas (posicao + lote.length) coleta

/-- `_coletar`: the page and whether there is more. -/
def coletar (escopo : Option (List Uuid)) (gated : Bool) (limit offset voltas : Nat) :
    Passo (List RetrievedMemoryItem × Bool) :=
  (lotes escopo gated limit offset voltas 0 {}).attempt fun coleta =>
    .done (.ok (coleta.admissiveis.take limit, limit < coleta.admissiveis.length))

/-- The part of `retrieve` that follows the resolution. -/
def executar (voltas : Nat) (request : RetrievalRequest) (resolution : GovernanceResolution) :
    Passo MemoryRetrievalResult :=
  let resultado : MemoryRetrievalResultFields :=
    { context := request.context, governanceResolution := resolution, limit := request.limit,
      offset := request.offset }
  if resolution.executionAuthorized = false then .done (MemoryRetrievalResult.make resultado)
  else (resolverEscopo request.context).bind fun escopo =>
    (coletar escopo request.gated request.limit.toNat request.offset.toNat voltas).attempt
      fun (itens, hasMore) => .done (MemoryRetrievalResult.make
        { resultado with items := itens, searchExecuted := true, hasMore := some hasMore })

/-- `retrieve`, with at most `voltas` batches read. -/
def retrieve (voltas : Nat) (request : RetrievalRequest) : Passo MemoryRetrievalResult :=
  (Proc.done (exigir (validarPaginacao request.limit request.offset))).attempt fun () =>
  (Proc.done (exigir (validarDescritor request.descriptor))).attempt fun () =>
  (ContextManager.validate request.context).attempt fun confirmado =>
  (Proc.done (verificarFidelidadeDoContexto request.context confirmado)).attempt fun () =>
  (resolver request.descriptor request.context request.policyKey request.moment).attempt
    fun resolution =>
  (Proc.done (verificarFidelidadeDaResolucao resolution request)).attempt fun () =>
  executar voltas request resolution

end MemoryRetrievalManager

end PiaOs.Memory
