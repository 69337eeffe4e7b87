import PiaOs.Cognitive.Lineage

/-!
# Derivation from several sources

A new object is derived from several sources, with one edge from each, one record of the
transformation and the causal history of the new object. Everything is checked before the first
write; the references that only the database can check are checked by it.
-/

namespace PiaOs.Cognitive

open Support Piap Transactions

/-! ## Arguments -/

/-- An argument as a caller may pass it: of the declared type, or of another. -/
inductive Arg (α : Type)
  | de (a : α)
  | outro

structure Pedido where
  sourceCoids : Arg (List (Arg Referencia))
  operationType : Arg Texto
  declaredLosses : Arg (List (Arg Texto))
  declaredPreservations : Arg (List (Arg Texto)) := .de []
  actorRef : Option (Arg Referencia) := none
  policyRef : Option (Arg Texto) := none
  predecessorEventIds : Arg (List (Arg Referencia)) := .de []
  occurredAt : Option (Arg Momento) := none

/-- A request that has passed the preflight. -/
structure PedidoValidado where
  fontes : List Referencia
  operacao : Texto
  perdas : List Texto
  preservacoes : List Texto
  predecessores : List Referencia
  actorRef : Option Referencia
  policyRef : Option Texto
  occurredAt : Option Momento

def operationTypeMaxLength : ℕ := 64

def policyRefMaxLength : ℕ := 255

/-- The items of a collection of identifiers. -/
def identificadores (campo : String) : Arg (List (Arg Referencia)) → Except Erro (List Referencia)
  | .outro => .error (.typeError campo)
  | .de itens => itens.mapM fun
    | .outro => .error (.typeError campo)
    | .de id => .ok id

/-- `_declaracoes`. The texts are kept as they are. -/
def declaracoes (campo : String) (obrigatorio : Bool) :
    Arg (List (Arg Texto)) → Except Erro (List Texto)
  | .outro => .error (.typeError campo)
  | .de itens => do
    let textos ← itens.mapM fun
      | .outro => .error (.typeError campo)
      | .de t => if t.all CodePoint.isSpace then .error (.valueError campo) else .ok t
    if obrigatorio && textos.isEmpty then .error (.valueError campo)
    return textos

/-- `sorted` on identifiers. -/
def ordenados (ids : List Referencia) : List Referencia := ids.insertionSort (· ≤ ·)

/-- `_preflight_fontes`. -/
def preflightFontes (sourceCoids : Arg (List (Arg Referencia))) :
    Except Erro (List Referencia) := do
  let coids ← identificadores "source_coids" sourceCoids
  if coids.length < 2 then .error (.valueError "source_coids")
  if ¬coids.Nodup then .error (.valueError "source_coids")
  return ordenados coids

/-- `_preflight_operation_type`. -/
def preflightOperationType : Arg Texto → Except Erro Texto
  | .outro => .error (.typeError "operation_type")
  | .de t =>
    if t.all CodePoint.isSpace || operationTypeMaxLength < t.length then
      .error (.valueError "operation_type")
    else .ok t

/-- `_preflight_predecessores_tipos`. -/
def preflightPredecessores (predecessorEventIds : Arg (List (Arg Referencia))) :
    Except Erro (List Referencia) := do
  let eventIds ← identificadores "predecessor_event_ids" predecessorEventIds
  if ¬eventIds.Nodup then .error (.valueError "predecessor_event_ids")
  return ordenados eventIds

/-- An optional argument, as it is. -/
def opcional {α : Type} (campo : String) : Option (Arg α) → Except Erro (Option α)
  | none => .ok none
  | some .outro => .error (.typeError campo)
  | some (.de a) => .ok (some a)

/-- The part of `_preflight_opcionais` about `policy_ref`. -/
def preflightPolicyRef (policyRef : Option (Arg Texto)) : Except Erro (Option Texto) := do
  let texto ← opcional "policy_ref" policyRef
  if texto.any fun t => t.all CodePoint.isSpace || policyRefMaxLength < t.length then
    .error (.valueError "policy_ref")
  return texto

/-- The preflight, in the order in which `derive_many` makes its checks. -/
def preflight (pedido : Pedido) : Except Erro PedidoValidado := do
  let fontes ← preflightFontes pedido.sourceCoids
  let operacao ← preflightOperationType pedido.operationType
  let perdas ← declaracoes "declared_losses" true pedido.declaredLosses
  let preservacoes ← declaracoes "declared_preservations" false pedido.declaredPreservations
  let predecessores ← preflightPredecessores pedido.predecessorEventIds
  let actorRef ← opcional "actor_ref" pedido.actorRef
  let policyRef ← preflightPolicyRef pedido.policyRef
  let occurredAt ← opcional "occurred_at" pedido.occurredAt
  return { fontes, operacao, perdas, preservacoes, predecessores, actorRef, policyRef, occurredAt }

/-! ## Sources and predecessors -/

/-- `_carregar_fontes`. Soft deleted sources are loaded as well. -/
def carregarFontes (fontes : List Referencia) : Op Biblioteca Erro (List CognitiveObject) := do
  let achados ← Op.read fun (db : Biblioteca) => fontes.map fun coid => (coid, db.objects.lookup coid)
  let ausentes := (achados.filter fun par => par.2 = none).map (·.1)
  if ausentes ≠ [] then Op.raise (.multiInputSourceNotFound ausentes)
  else pure (achados.filterMap (·.2))

/-- Whether an event is there. One of another subject than the sources is refused at once. -/
def verificarPredecessor (db : Biblioteca) (fontes : List Referencia) (eventId : Referencia) :
    Except Erro Bool :=
  match db.events.lookup eventId with
  | none => .ok false
  | some evento =>
    let sujeito := (db.histories.lookup evento.historyId).map (·.subjectCoid)
    if sujeito.any (· ∈ fontes) then .ok true
    else .error (.causalPredecessorSubjectMismatch eventId sujeito)

/-- `_carregar_predecessores`. -/
def carregarPredecessores (predecessores fontes : List Referencia) :
    Op Biblioteca Erro (List Referencia) := do
  let verificados ← Op.read fun (db : Biblioteca) =>
    predecessores.mapM fun eventId => (verificarPredecessor db fontes eventId).map (eventId, ·)
  let achados ← Op.lift verificados
  let ausentes := (achados.filter fun par => !par.2).map (·.1)
  if ausentes ≠ [] then Op.raise (.causalPredecessorNotFound ausentes)
  else pure predecessores

/-- `_resolver_clid_do_alvo`. -/
def resolverClidDoAlvo (fontes : List CognitiveObject) : Option Referencia :=
  match (fontes.map (·.clid)).dedup with
  | [unico] => unico
  | _ => none

/-! ## Writes -/

/-- The identifiers that the new rows get. -/
structure Ids where
  alvo : Referencia
  arestas : ℕ → Referencia
  registro : Referencia
  historia : Referencia
  eventos : ℕ → Referencia

/-- What the driver and the columns make of a value, when they can store it. -/
structure Motor where
  instante : Momento → Option Instant
  grava : TransformationRecord → Bool

/-- `ObjectRepository.add`. -/
def addObject (id : Referencia) (row : CognitiveObject) : Op Biblioteca Erro Unit :=
  Op.send fun db => (db.insertObject id row).mapError fun
    | .unique => .coidCollision id
    | r => .persistence r

/-- The edge from each source to the new object. -/
def arestasDeMerge (ids : ℕ → Referencia) (alvo : Referencia) :
    ℕ → List Referencia → Op Biblioteca Erro (List (Referencia × LineageEdge))
  | _, [] => pure []
  | n, coid :: fontes => do
    let edge ← LineageRepository.addEdge (ids n) ⟨coid, alvo, .merge⟩
    let edges ← arestasDeMerge ids alvo (n + 1) fontes
    pure ((ids n, edge) :: edges)

/-- `TransformationRepository.add`. -/
def addTransformation (m : Motor) (id : Referencia) (row : TransformationRecord) :
    Op Biblioteca Erro Unit :=
  Op.send fun db =>
    if m.grava row then (db.insertTransformation id row).mapError .persistence
    else .error (.persistence .dados)

namespace CausalHistoryManager

/-- `ensure_history`. -/
def ensureHistory (historyId subjectCoid : Referencia) : Op Biblioteca Erro Referencia := do
  match ← Op.read fun (db : Biblioteca) => db.historyOf subjectCoid with
  | some id => pure id
  | none =>
    Op.send fun (db : Biblioteca) =>
      (db.insertHistory historyId ⟨subjectCoid⟩).mapError Erro.persistence
    pure historyId

/-- The instant of an event, when there is one. -/
def instanteGravado (m : Motor) : Option Momento → Except Recusa (Option Instant)
  | none => .ok none
  | some momento =>
    match m.instante momento with
    | none => .error .dados
    | some instante => .ok (some instante)

/-- `record`, with the identifiers of the history, if it is created, and of the event. -/
def record (m : Motor) (historyId eventId subjectCoid : Referencia) (eventType : CausalEventType)
    (actorRef : Option Referencia) (payloadRef : Option String) (predecessor : Option Referencia)
    (occurredAt : Option Momento) : Op Biblioteca Erro (Referencia × CausalHistoryEvent) := do
  let history ← ensureHistory historyId subjectCoid
  let instante ← Op.read fun (_ : Biblioteca) => instanteGravado m occurredAt
  let evento : CausalHistoryEvent := {
    historyId := history
    eventType
    actorRef
    payloadRef
    predecessorEventId := predecessor
    occurredAt := instante.toOption.join }
  Op.send fun (db : Biblioteca) =>
    (instante.bind fun _ => db.insertEvent eventId evento).mapError Erro.persistence
  pure (eventId, evento)

end CausalHistoryManager

/-- The events of the predecessors, one for each. -/
def eventosDosPredecessores (m : Motor) (ids : Ids) (actorRef : Option Referencia)
    (occurredAt : Option Momento) :
    ℕ → List Referencia → Op Biblioteca Erro (List (Referencia × CausalHistoryEvent))
  | _, [] => pure []
  | n, eventId :: predecessores => do
    let predecessor ← Op.read fun (db : Biblioteca) => (db.events.lookup eventId).map fun _ => eventId
    let evento ← CausalHistoryManager.record m ids.historia (ids.eventos n) ids.alvo .transformed
      actorRef (some ids.registro.str) predecessor occurredAt
    let eventos ← eventosDosPredecessores m ids actorRef occurredAt (n + 1) predecessores
    pure (evento :: eventos)

/-- `_registrar_causalidade`. -/
def registrarCausalidade (m : Motor) (ids : Ids) (predecessores : List Referencia)
    (actorRef : Option Referencia) (occurredAt : Option Momento) :
    Op Biblioteca Erro (List (Referencia × CausalHistoryEvent)) :=
  match predecessores with
  | [] => do
    let evento ← CausalHistoryManager.record m ids.historia (ids.eventos 0) ids.alvo .transformed
      actorRef (some ids.registro.str) none occurredAt
    pure [evento]
  | _ :: _ => eventosDosPredecessores m ids actorRef occurredAt 0 predecessores

/-! ## The receipt -/

structure CamposDoRecibo where
  sourceCoids : List Referencia
  targetCoid : Referencia
  targetClid : Option Referencia
  transformationId : Referencia
  lineageEdgeIds : List Referencia
  causalEventIds : List Referencia
  predecessorEventIds : List Referencia
  deriving DecidableEq

/-- What `__post_init__` asks of a receipt. -/
structure CamposDoRecibo.Coerente (c : CamposDoRecibo) : Prop where
  duas : 2 ≤ c.sourceCoids.length
  distintas : c.sourceCoids.Nodup
  ordem : c.sourceCoids.Pairwise (· ≤ ·)
  alvo : c.targetCoid ∉ c.sourceCoids
  umaPorFonte : c.lineageEdgeIds.length = c.sourceCoids.length
  arestas : c.lineageEdgeIds.Nodup
  predecessores : c.predecessorEventIds.Nodup
  algum : c.causalEventIds ≠ []
  eventos : c.causalEventIds.Nodup
  raiz : c.predecessorEventIds = [] → c.causalEventIds.length = 1
  umPorPredecessor : c.predecessorEventIds ≠ [] →
    c.causalEventIds.length = c.predecessorEventIds.length

instance decidableCoerente (c : CamposDoRecibo) : Decidable c.Coerente :=
  decidable_of_iff (2 ≤ c.sourceCoids.length ∧ c.sourceCoids.Nodup ∧
      c.sourceCoids.Pairwise (· ≤ ·) ∧ c.targetCoid ∉ c.sourceCoids ∧
      c.lineageEdgeIds.length = c.sourceCoids.length ∧ c.lineageEdgeIds.Nodup ∧
      c.predecessorEventIds.Nodup ∧ c.causalEventIds ≠ [] ∧ c.causalEventIds.Nodup ∧
      (c.predecessorEventIds = [] → c.causalEventIds.length = 1) ∧
      (c.predecessorEventIds ≠ [] → c.causalEventIds.length = c.predecessorEventIds.length))
    ⟨fun ⟨h₁, h₂, h₃, h₄, h₅, h₆, h₇, h₈, h₉, h₁₀, h₁₁⟩ =>
        ⟨h₁, h₂, h₃, h₄, h₅, h₆, h₇, h₈, h₉, h₁₀, h₁₁⟩,
      fun h => ⟨h.duas, h.distintas, h.ordem, h.alvo, h.umaPorFonte, h.arestas, h.predecessores,
        h.algum, h.eventos, h.raiz, h.umPorPredecessor⟩⟩

/-- `MultiInputTransformationReceipt`. -/
abbrev Recibo : Type := { c : CamposDoRecibo // c.Coerente }

def Recibo.de (c : CamposDoRecibo) : Except Erro Recibo :=
  if h : c.Coerente then .ok ⟨c, h⟩ else .error (.valueError "receipt")

/-! ## The operation -/

/-- The row of the transformation. -/
def registroDe (ids : Ids) (v : PedidoValidado) : TransformationRecord where
  operationType := v.operacao
  transformationKind := .derivation
  inputRefs := v.fontes.map (·.str)
  outputRefs := [ids.alvo.str]
  actorRef := v.actorRef
  policyRef := v.policyRef
  declaredPreservations := v.preservacoes
  declaredLosses := v.perdas

/-- The part of `derive_many` that writes. -/
def escrever (m : Motor) (ids : Ids) (v : PedidoValidado) (objetos : List CognitiveObject)
    (predecessores : List Referencia) : Op Biblioteca Erro Recibo := do
  addObject ids.alvo {}
  let clidAlvo := resolverClidDoAlvo objetos
  match clidAlvo with
  | some clid => ClidManager.assign ids.alvo clid
  | none => pure ()
  let edges ← arestasDeMerge ids.arestas ids.alvo 0 v.fontes
  addTransformation m ids.registro (registroDe ids v)
  let eventos ← registrarCausalidade m ids predecessores v.actorRef v.occurredAt
  Op.lift (Recibo.de {
    sourceCoids := v.fontes
    targetCoid := ids.alvo
    targetClid := clidAlvo
    transformationId := ids.registro
    lineageEdgeIds := edges.map (·.1)
    causalEventIds := eventos.map (·.1)
    predecessorEventIds := predecessores })

/-- `derive_many`. -/
def deriveMany (m : Motor) (ids : Ids) (pedido : Pedido) : Op Biblioteca Erro Recibo := do
  let v ← Op.lift (preflight pedido)
  let objetos ← carregarFontes v.fontes
  let predecessores ← carregarPredecessores v.predecessores v.fontes
  escrever m ids v objetos predecessores

end PiaOs.Cognitive
