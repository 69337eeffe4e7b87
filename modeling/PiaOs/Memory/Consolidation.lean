import PiaOs.Cognitive.Derivation

/-!
# Consolidation

A consolidation derives one object from several memories and then reads, in the same session,
the evidence that the tables hold about it. What the receipt says is compared with that reading.
-/

namespace PiaOs.Memory

open Support Piap Transactions Cognitive

/-! ## Evidence of continuity -/

inductive PersistenceEvidenceKind
  | clid
  | lineageParent
  | lineageChild
  | transformationInput
  | transformationOutput
  | causalEvent
  deriving DecidableEq

def PersistenceEvidenceKind.value : PersistenceEvidenceKind → String
  | .clid => "clid"
  | .lineageParent => "lineage_parent"
  | .lineageChild => "lineage_child"
  | .transformationInput => "transformation_input"
  | .transformationOutput => "transformation_output"
  | .causalEvent => "causal_event"

/-- The token of `lineage_edges.relation_type`. -/
def tokenDaRelacao : LineageRelation → String
  | .parent => "parent"
  | .child => "child"
  | .branch => "branch"
  | .merge => "merge"
  | .derivedFrom => "derived_from"
  | .transformedFrom => "transformed_from"

/-- The token of `causal_history_events.event_type`, the name of the member. -/
def tokenDoEvento : CausalEventType → String
  | .created => "CREATED"
  | .transformed => "TRANSFORMED"
  | .compared => "COMPARED"
  | .accessed => "ACCESSED"

/-- `PersistenceEvidence`. Each kind has one shape. -/
inductive PersistenceEvidence
  | clid (clid : Referencia)
  | lineageParent (edgeId parentCoid : Referencia) (relationType : LineageRelation)
  | lineageChild (edgeId childCoid : Referencia) (relationType : LineageRelation)
  | transformationInput (recordId : Referencia)
  | transformationOutput (recordId : Referencia)
  | causalEvent (eventId : Referencia) (eventType : CausalEventType)
  deriving DecidableEq

namespace PersistenceEvidence

def kind : PersistenceEvidence → PersistenceEvidenceKind
  | .clid _ => .clid
  | .lineageParent _ _ _ => .lineageParent
  | .lineageChild _ _ _ => .lineageChild
  | .transformationInput _ => .transformationInput
  | .transformationOutput _ => .transformationOutput
  | .causalEvent _ _ => .causalEvent

def reference : PersistenceEvidence → String
  | .clid id | .lineageParent id _ _ | .lineageChild id _ _ | .transformationInput id
  | .transformationOutput id | .causalEvent id _ => id.str

def relatedCoid : PersistenceEvidence → Option Referencia
  | .lineageParent _ coid _ | .lineageChild _ coid _ => some coid
  | _ => none

def qualifier : PersistenceEvidence → Option String
  | .lineageParent _ _ relationType | .lineageChild _ _ relationType =>
    some (tokenDaRelacao relationType)
  | .causalEvent _ eventType => some (tokenDoEvento eventType)
  | _ => none

/-- `sort_key`, as texts. -/
def sortKey (e : PersistenceEvidence) : List Texto :=
  [Texto.of e.kind.value, Texto.of e.reference, (e.relatedCoid.map fun c => Texto.of c.str).getD [],
    Texto.of (e.qualifier.getD "")]

end PersistenceEvidence

/-- `a < b` on tuples of texts. -/
def textosAntes : List Texto → List Texto → Bool
  | a :: as, b :: bs => a.antes b || (a == b && textosAntes as bs)
  | [], _ :: _ => true
  | _, [] => false

/-- `_canonical_evidence`. -/
def canonicalEvidence (itens : List PersistenceEvidence) : List PersistenceEvidence :=
  itens.dedup.insertionSort fun a b => textosAntes b.sortKey a.sortKey = false

inductive PersistenceOutcome
  | subjectNotFound
  | noRecordedContinuityEvidence
  | recordedContinuityEvidence
  deriving DecidableEq

structure CamposDoAssessment where
  coid : Referencia
  outcome : PersistenceOutcome
  evidence : List PersistenceEvidence := []
  clid : Option Referencia := none
  subjectDeleted : Bool := false
  revisionStatus : Option RevisionStatus := none
  deriving DecidableEq

/-- `evidence_of`. -/
def CamposDoAssessment.evidenceOf (a : CamposDoAssessment) (kind : PersistenceEvidenceKind) :
    List PersistenceEvidence :=
  a.evidence.filter (·.kind = kind)

/-- What `__post_init__` asks of an assessment. -/
structure CamposDoAssessment.Coerente (a : CamposDoAssessment) : Prop where
  naoEncontrado : a.outcome = .subjectNotFound →
    a.subjectDeleted = false ∧ a.evidence = [] ∧ a.clid = none ∧ a.revisionStatus = none
  ausente : a.outcome = .noRecordedContinuityEvidence → a.evidence = []
  registrada : a.outcome = .recordedContinuityEvidence → a.evidence ≠ []
  /-- The CLID and its evidence are one fact. -/
  clid : (a.evidenceOf .clid).map (·.reference) = (a.clid.map (·.str)).toList

instance decidableAssessmentCoerente (a : CamposDoAssessment) : Decidable a.Coerente :=
  decidable_of_iff ((a.outcome = .subjectNotFound → a.subjectDeleted = false ∧ a.evidence = [] ∧
        a.clid = none ∧ a.revisionStatus = none) ∧
      (a.outcome = .noRecordedContinuityEvidence → a.evidence = []) ∧
      (a.outcome = .recordedContinuityEvidence → a.evidence ≠ []) ∧
      (a.evidenceOf .clid).map (·.reference) = (a.clid.map (·.str)).toList)
    ⟨fun ⟨h₁, h₂, h₃, h₄⟩ => ⟨h₁, h₂, h₃, h₄⟩,
      fun h => ⟨h.naoEncontrado, h.ausente, h.registrada, h.clid⟩⟩

/-- `PersistenceAssessment`. -/
abbrev PersistenceAssessment : Type := { a : CamposDoAssessment // a.Coerente }

/-! ## Reading the tables -/

namespace ContinuityEvidenceRepository

/-- The rows of a table in the order of their identifiers. -/
def ordenadasPorId {ρ : Type} (t : Table Referencia ρ) : List (Referencia × ρ) :=
  (t.entries.map fun entry => (entry.1, entry.2)).insertionSort (·.1 ≤ ·.1)

/-- `subject_snapshot`. Soft deleted objects have one. -/
def subjectSnapshot (db : Biblioteca) (coid : Referencia) :
    Option (Option Referencia × Option RevisionStatus × Bool) :=
  (db.objects.lookup coid).map fun row => (row.clid, row.revisionStatus, row.deletedAt.isSome)

/-- `lineage_as_child`. -/
def lineageAsChild (db : Biblioteca) (coid : Referencia) : List (Referencia × LineageEdge) :=
  (ordenadasPorId db.edges).filter fun linha => linha.2.childCoid = coid

/-- `lineage_as_parent`. -/
def lineageAsParent (db : Biblioteca) (coid : Referencia) : List (Referencia × LineageEdge) :=
  (ordenadasPorId db.edges).filter fun linha => linha.2.parentCoid = coid

/-- `transformations_citing`: the records that cite a COID as an input, and as an output. -/
def transformationsCiting (db : Biblioteca) (coid : Referencia) :
    List Referencia × List Referencia :=
  (((ordenadasPorId db.transformations).filter fun linha => coid.str ∈ linha.2.inputRefs).map (·.1),
    ((ordenadasPorId db.transformations).filter fun linha => coid.str ∈ linha.2.outputRefs).map (·.1))

/-- `causal_events`. Their order is not that of the source, which is by `created_at` first; the
assessment puts its evidence in another one. -/
def causalEvents (db : Biblioteca) (coid : Referencia) : List (Referencia × CausalHistoryEvent) :=
  (ordenadasPorId db.events).filter fun linha =>
    (db.histories.lookup linha.2.historyId).any fun historia => historia.subjectCoid = coid

end ContinuityEvidenceRepository

/-- Why a consolidation is not what it says. -/
inductive Motivo
  | fontesDoPedido
  | predecessoresDoPedido
  | outroObjeto (coid : Referencia)
  | semSujeito
  | outcome (outcome : PersistenceOutcome)
  | apagado
  | numeroDeArestas (encontradas : ℕ)
  | fontes
  | arestas
  | aresta (edgeId fonte : Referencia) (relatedCoid : Option Referencia)
  | qualifierDaLinhagem (divergentes : List (Option String))
  | numeroDeSaidas (encontradas : ℕ)
  | transformacao (reference : String)
  | numeroDeEventos (encontrados : ℕ)
  | eventos
  | qualifierDosEventos (divergentes : List (Option String))
  | clid (assessmentClid : Option Referencia)
  deriving DecidableEq

/-- What the operations of this module raise. -/
inductive ErroDeConsolidacao
  | cognitivo (e : Cognitive.Erro)
  | valueError (campo : String)
  | consolidationVerification (targetCoid : Referencia) (motivos : List Motivo)

section Assessment

open ContinuityEvidenceRepository

/-- The evidence that `assess` puts together, of a subject with this CLID. -/
def evidencias (db : Biblioteca) (coid : Referencia) (clid : Option Referencia) :
    List PersistenceEvidence :=
  clid.toList.map .clid ++
  (lineageAsChild db coid).map (fun linha =>
    .lineageParent linha.1 linha.2.parentCoid linha.2.relationType) ++
  (lineageAsParent db coid).map (fun linha =>
    .lineageChild linha.1 linha.2.childCoid linha.2.relationType) ++
  (transformationsCiting db coid).1.map .transformationInput ++
  (transformationsCiting db coid).2.map .transformationOutput ++
  (causalEvents db coid).map (fun linha => .causalEvent linha.1 linha.2.eventType)

/-- The fields that `assess` gives to the assessment. -/
def avaliar (coid : Referencia) (db : Biblioteca) : CamposDoAssessment :=
  match subjectSnapshot db coid with
  | none => { coid, outcome := .subjectNotFound }
  | some (clid, revisionStatus, softDeleted) =>
    let itens := evidencias db coid clid
    { coid
      outcome := if itens = [] then .noRecordedContinuityEvidence else .recordedContinuityEvidence
      evidence := canonicalEvidence itens
      clid
      subjectDeleted := softDeleted
      revisionStatus }

/-- `assess`. -/
def assess (coid : Referencia) : Op Biblioteca ErroDeConsolidacao PersistenceAssessment := do
  let campos ← Op.read (avaliar coid)
  if h : campos.Coerente then pure ⟨campos, h⟩ else Op.raise (.valueError "assessment")

end Assessment

/-! ## Verification -/

/-- `verificar_fidelidade_pedido_recibo`. -/
def verificarFidelidadePedidoRecibo (fontes predecessores : List Referencia)
    (recibo : CamposDoRecibo) : List Motivo :=
  (if recibo.sourceCoids ≠ fontes then [.fontesDoPedido] else []) ++
  (if recibo.predecessorEventIds ≠ predecessores then [.predecessoresDoPedido] else [])

def lineageMergeQualifier : String := "merge"

def causalTransformedQualifier : String := "TRANSFORMED"

/-- `set(a) == set(b)`. -/
def MesmoConjunto {α : Type} (as bs : List α) : Prop := as ⊆ bs ∧ bs ⊆ as

instance decidableMesmoConjunto {α : Type} [DecidableEq α] (as bs : List α) :
    Decidable (MesmoConjunto as bs) :=
  inferInstanceAs (Decidable (_ ∧ _))

/-- The qualifiers of the evidence that are not the one asked for. -/
def qualifiersDivergentes (esperado : String) (itens : List PersistenceEvidence) :
    List (Option String) :=
  ((itens.map (·.qualifier)).filter (· ≠ some esperado)).dedup.insertionSort fun a b =>
    (Texto.of (b.getD "None")).antes (Texto.of (a.getD "None")) = false

/-- The edges that should lead to a source and lead elsewhere. -/
def pareamento (linhagem : List PersistenceEvidence) (pares : List (Referencia × Referencia)) :
    List Motivo :=
  pares.filterMap fun par =>
    match linhagem.reverse.find? fun e => e.reference = par.2.str with
    | none => none
    | some e => if e.relatedCoid = some par.1 then none
      else some (.aresta par.2 par.1 e.relatedCoid)

/-- `verificar_coerencia_consolidacao`. -/
def verificarCoerenciaConsolidacao (c : CamposDoRecibo) (a : CamposDoAssessment) : List Motivo :=
  let linhagem := a.evidenceOf .lineageParent
  let saidas := a.evidenceOf .transformationOutput
  let causais := a.evidenceOf .causalEvent
  (if a.coid ≠ c.targetCoid then [.outroObjeto a.coid] else []) ++
  (if a.outcome = .subjectNotFound then [.semSujeito]
    else if a.outcome ≠ .recordedContinuityEvidence then [.outcome a.outcome] else []) ++
  (if a.subjectDeleted then [.apagado] else []) ++
  (if linhagem.length ≠ c.sourceCoids.length then [.numeroDeArestas linhagem.length] else []) ++
  (if ¬MesmoConjunto (linhagem.map (·.relatedCoid)) (c.sourceCoids.map some) then [.fontes]
    else []) ++
  (if ¬MesmoConjunto (linhagem.map (·.reference)) (c.lineageEdgeIds.map (·.str)) then [.arestas]
    else []) ++
  pareamento linhagem (c.sourceCoids.zip c.lineageEdgeIds) ++
  (if qualifiersDivergentes lineageMergeQualifier linhagem ≠ [] then
    [.qualifierDaLinhagem (qualifiersDivergentes lineageMergeQualifier linhagem)] else []) ++
  (match saidas with
    | [saida] => if saida.reference ≠ c.transformationId.str then [.transformacao saida.reference]
      else []
    | _ => [.numeroDeSaidas saidas.length]) ++
  (if causais.length ≠ c.causalEventIds.length then [.numeroDeEventos causais.length] else []) ++
  (if ¬MesmoConjunto (causais.map (·.reference)) (c.causalEventIds.map (·.str)) then [.eventos]
    else []) ++
  (if qualifiersDivergentes causalTransformedQualifier causais ≠ [] then
    [.qualifierDosEventos (qualifiersDivergentes causalTransformedQualifier causais)] else []) ++
  (if a.clid ≠ c.targetClid then [.clid a.clid] else [])

/-- `ConsolidationResult`, which is coherent and verified. -/
abbrev ConsolidationResult : Type :=
  { r : CamposDoRecibo × PersistenceAssessment //
    r.1.Coerente ∧ verificarCoerenciaConsolidacao r.1 r.2.val = [] }

def ConsolidationResult.de (r : CamposDoRecibo × PersistenceAssessment) :
    Except ErroDeConsolidacao ConsolidationResult :=
  if h : r.1.Coerente ∧ verificarCoerenciaConsolidacao r.1 r.2.val = [] then .ok ⟨r, h⟩
  else .error (.valueError "result")

/-! ## The operation -/

structure PedidoDeConsolidacao where
  sourceCoids : Arg (List (Arg Referencia))
  declaredLosses : Arg (List (Arg Texto))
  declaredPreservations : Arg (List (Arg Texto)) := .de []
  actorRef : Option (Arg Referencia) := none
  policyRef : Option (Arg Texto) := none
  predecessorEventIds : Arg (List (Arg Referencia)) := .de []
  occurredAt : Option (Arg Momento) := none

def consolidationOperationType : String := "consolidate"

/-- `_validar_fontes`, with the checks of the writer. -/
def validarFontes (sourceCoids : Arg (List (Arg Referencia))) :
    Except Cognitive.Erro (List Referencia) :=
  preflightFontes sourceCoids

/-- `_validar_predecessores`, with the checks of the writer. -/
def validarPredecessores (predecessorEventIds : Arg (List (Arg Referencia))) :
    Except Cognitive.Erro (List Referencia) :=
  preflightPredecessores predecessorEventIds

/-- What the consolidation asks of the writer, when its own checks pass. -/
def PedidoDeConsolidacao.validar (pedido : PedidoDeConsolidacao) :
    Except Cognitive.Erro (List Referencia × List Referencia × Pedido) := do
  let fontes ← validarFontes pedido.sourceCoids
  let perdas ← declaracoes "declared_losses" true pedido.declaredLosses
  let preservacoes ← declaracoes "declared_preservations" false pedido.declaredPreservations
  let predecessores ← validarPredecessores pedido.predecessorEventIds
  return (fontes, predecessores, {
    sourceCoids := .de (fontes.map .de)
    operationType := .de (Texto.of consolidationOperationType)
    declaredLosses := .de (perdas.map .de)
    declaredPreservations := .de (preservacoes.map .de)
    actorRef := pedido.actorRef
    policyRef := pedido.policyRef
    predecessorEventIds := .de (predecessores.map .de)
    occurredAt := pedido.occurredAt })

/-- `consolidate`, with the real writer and one session. -/
def consolidate (m : Motor) (ids : Ids) (pedido : PedidoDeConsolidacao) :
    Op Biblioteca ErroDeConsolidacao ConsolidationResult := do
  let (fontes, predecessores, derivacao) ← Op.lift (pedido.validar.mapError .cognitivo)
  let recibo ← (deriveMany m ids derivacao).mapError .cognitivo
  let motivos := verificarFidelidadePedidoRecibo fontes predecessores recibo.val
  if motivos ≠ [] then Op.raise (.consolidationVerification recibo.val.targetCoid motivos)
  else
    let assessment ← assess recibo.val.targetCoid
    let motivos := verificarCoerenciaConsolidacao recibo.val assessment.val
    if motivos ≠ [] then Op.raise (.consolidationVerification recibo.val.targetCoid motivos)
    else Op.lift (ConsolidationResult.de (recibo.val, assessment))

end PiaOs.Memory
