import PiaOs.Memory.Consolidation
import PiaOs.Piap.Codec

/-!
# What is recorded of a continuity

`PersistenceManager.assess` over the rows as the database keeps them. Its queries know the columns
by name only, and what they answer goes into value objects that look at it again.
-/

namespace PiaOs.Memory.Continuity

open Support Piap Transactions

/-! ## The rows -/

structure CognitiveObject where
  clid : Option Referencia
  revisionStatus : Option String
  deletedAt : Option Instant

structure LineageEdge where
  parentCoid : Referencia
  childCoid : Referencia
  relationType : String

/-- The references are columns of JSON. -/
structure TransformationRecord where
  inputRefs : String
  outputRefs : String

structure CausalHistory where
  subjectCoid : Referencia

structure CausalHistoryEvent where
  historyId : Referencia
  eventType : String
  createdAt : Instant

structure Patrimonio where
  objects : Table Referencia CognitiveObject := ∅
  edges : Table Referencia LineageEdge := ∅
  transformations : Table Referencia TransformationRecord := ∅
  histories : Table Referencia CausalHistory := ∅
  events : Table Referencia CausalHistoryEvent := ∅

/-- What the driver reads in a column of JSON. Of a number only its truth matters. -/
inductive Coluna
  | nulo
  | logico (b : Bool)
  | numero (zero : Bool)
  | texto (t : Texto)
  | lista (itens : List Valor)
  | objeto (campos : List (Texto × Valor))

/-- The driver of the database: `none` where `json.loads` raises. -/
class Driver where
  loads : String → Option Coluna

/-- The constraints of the schema. The columns of the vocabularies are texts of a bounded length. -/
structure Patrimonio.Valido (db : Patrimonio) : Prop where
  relationType : ∀ id edge, db.edges.lookup id = some edge → edge.relationType.length ≤ 32
  eventType : ∀ id event, db.events.lookup id = some event → event.eventType.length ≤ 32
  revisionStatus : ∀ id row, db.objects.lookup id = some row →
    ∀ status ∈ row.revisionStatus, status.length ≤ 16
  noSelfLink : ∀ id edge, db.edges.lookup id = some edge → edge.parentCoid ≠ edge.childCoid
  uniqueEdge : ∀ id id' edge, db.edges.lookup id = some edge → db.edges.lookup id' = some edge →
    id = id'
  endpoints : ∀ id edge, db.edges.lookup id = some edge →
    db.objects.lookup edge.parentCoid ≠ none ∧ db.objects.lookup edge.childCoid ≠ none
  oneCurrent : ∀ id id' row row', db.objects.lookup id = some row →
    db.objects.lookup id' = some row' → row.revisionStatus = some "current" →
    row'.revisionStatus = some "current" → row.clid ≠ none → row.clid = row'.clid → id = id'
  oneHistory : ∀ id id' history history', db.histories.lookup id = some history →
    db.histories.lookup id' = some history' → history.subjectCoid = history'.subjectCoid → id = id'
  subject : ∀ id history, db.histories.lookup id = some history →
    db.objects.lookup history.subjectCoid ≠ none
  history : ∀ id event, db.events.lookup id = some event →
    db.histories.lookup event.historyId ≠ none

/-- What the assessment raises. -/
inductive Erro
  | typeError
  /-- A value object refuses the field. -/
  | valueError (campo : String)
  /-- The driver could not read a column. -/
  | leitura
  deriving DecidableEq

/-! ## Value objects -/

def PersistenceEvidenceKind.comRelacionado : PersistenceEvidenceKind → Bool
  | .lineageParent | .lineageChild => true
  | _ => false

def PersistenceEvidenceKind.comQualificador : PersistenceEvidenceKind → Bool
  | .lineageParent | .lineageChild | .causalEvent => true
  | _ => false

structure CamposDaEvidencia where
  kind : PersistenceEvidenceKind
  reference : String
  relatedCoid : Option Referencia := none
  qualifier : Option String := none
  deriving DecidableEq

/-- The field that the first failing check names. -/
def primeiroCampo (checks : List (Bool × String)) : Option String :=
  (checks.find? (·.1)).map (·.2)

/-- `__post_init__` of an evidence, with `_validate_shape`. -/
def CamposDaEvidencia.recusado (e : CamposDaEvidencia) : Option String :=
  primeiroCampo
    [((uuidCanonico? (Texto.of e.reference)).isNone, "reference"),
      (e.qualifier.any blank, "qualifier"),
      (PersistenceEvidenceKind.comRelacionado e.kind && e.relatedCoid.isNone, "related_coid"),
      (!PersistenceEvidenceKind.comRelacionado e.kind && e.relatedCoid.isSome, "related_coid"),
      (PersistenceEvidenceKind.comQualificador e.kind && e.qualifier.isNone, "qualifier"),
      (!PersistenceEvidenceKind.comQualificador e.kind && e.qualifier.isSome, "qualifier")]

/-- `PersistenceEvidence`. -/
abbrev PersistenceEvidence : Type := { e : CamposDaEvidencia // e.recusado = none }

def PersistenceEvidence.new (e : CamposDaEvidencia) : Except Erro PersistenceEvidence :=
  match h : e.recusado with
  | none => .ok ⟨e, h⟩
  | some campo => .error (.valueError campo)

/-- `sort_key`, as texts. -/
def CamposDaEvidencia.sortKey (e : CamposDaEvidencia) : List Texto :=
  [Texto.of e.kind.value, Texto.of e.reference,
    Texto.of (e.relatedCoid.elim "" (·.str)), Texto.of (e.qualifier.getD "")]

/-- `_canonical_evidence`. -/
def canonicalEvidence (itens : List PersistenceEvidence) : List PersistenceEvidence :=
  itens.dedup.insertionSort fun a b => textosAntes b.val.sortKey a.val.sortKey = false

structure CamposDoAssessment where
  coid : Referencia
  outcome : PersistenceOutcome
  evidence : List PersistenceEvidence := []
  clid : Option Referencia := none
  subjectDeleted : Bool := false
  revisionStatus : Option String := none

/-- `evidence_of`. -/
def CamposDoAssessment.evidenceOf (a : CamposDoAssessment) (kind : PersistenceEvidenceKind) :
    List PersistenceEvidence :=
  a.evidence.filter (·.val.kind = kind)

/-- `__post_init__` of an assessment, with its two coherences. The evidence is in order. -/
def CamposDoAssessment.recusado (a : CamposDoAssessment) : Option String :=
  primeiroCampo
    [(a.revisionStatus.any blank, "revision_status"),
      (a.outcome = .subjectNotFound && a.subjectDeleted, "subject_deleted"),
      (a.outcome = .subjectNotFound &&
        (!a.evidence.isEmpty || a.clid.isSome || a.revisionStatus.isSome), "outcome"),
      (a.outcome = .noRecordedContinuityEvidence && !a.evidence.isEmpty, "outcome"),
      (a.outcome = .recordedContinuityEvidence && a.evidence.isEmpty, "outcome"),
      ((a.evidenceOf .clid).map (·.val.reference) ≠ a.clid.toList.map (·.str), "clid")]

/-- `PersistenceAssessment`. -/
abbrev PersistenceAssessment : Type := { a : CamposDoAssessment // a.recusado = none }

def PersistenceAssessment.new (a : CamposDoAssessment) : Except Erro PersistenceAssessment :=
  let a := { a with evidence := canonicalEvidence a.evidence }
  match h : a.recusado with
  | none => .ok ⟨a, h⟩
  | some campo => .error (.valueError campo)

/-! ## Queries -/

/-- `alvo in (x or [])`: among the items of a list, the keys of an object or inside a text. -/
def contem (alvo : Texto) : Coluna → Except Erro Bool
  | .nulo | .logico false | .numero true => .ok false
  | .logico true | .numero false => .error .typeError
  | .texto t => .ok (t ≠ [] && t.tails.any fun resto => alvo.isPrefixOf resto)
  | .lista itens => .ok (itens.any fun item => match item with
    | .texto t => t == alvo
    | _ => false)
  | .objeto campos => .ok (campos.any fun campo => campo.1 == alvo)

namespace ContinuityEvidenceRepository

open Memory.ContinuityEvidenceRepository (ordenadasPorId)

/-- `subject_snapshot`. -/
def subjectSnapshot (coid : Referencia) (db : Patrimonio) :
    Option (Option Referencia × Option String × Bool) :=
  (db.objects.lookup coid).map fun row => (row.clid, row.revisionStatus, row.deletedAt.isSome)

/-- `lineage_as_child`. -/
def lineageAsChild (coid : Referencia) (db : Patrimonio) : List (Referencia × LineageEdge) :=
  (ordenadasPorId db.edges).filter fun linha => linha.2.childCoid = coid

/-- `lineage_as_parent`. -/
def lineageAsParent (coid : Referencia) (db : Patrimonio) : List (Referencia × LineageEdge) :=
  (ordenadasPorId db.edges).filter fun linha => linha.2.parentCoid = coid

/-- One column of JSON, asked for a text. -/
def contemNaColuna [Driver] (alvo : Texto) (coluna : String) : Except Erro Bool :=
  match Driver.loads coluna with
  | none => .error .leitura
  | some valor => contem alvo valor

/-- A record, with whether it cites a COID as an input and as an output. -/
def citacao [Driver] (coid : Referencia) (linha : Referencia × TransformationRecord) :
    Except Erro (Referencia × Bool × Bool) := do
  let entrada ← contemNaColuna (Texto.of coid.str) linha.2.inputRefs
  let saida ← contemNaColuna (Texto.of coid.str) linha.2.outputRefs
  return (linha.1, entrada, saida)

/-- `transformations_citing`. -/
def transformationsCiting [Driver] (coid : Referencia) (db : Patrimonio) :
    Except Erro (List Referencia × List Referencia) := do
  let citacoes ← (ordenadasPorId db.transformations).mapM (citacao coid)
  return ((citacoes.filter (·.2.1)).map (·.1), (citacoes.filter (·.2.2)).map (·.1))

/-- `causal_events`, by `created_at` and identifier. -/
def causalEvents (coid : Referencia) (db : Patrimonio) : List (Referencia × CausalHistoryEvent) :=
  let doSujeito := (ordenadasPorId db.events).filter fun linha =>
    (db.histories.lookup linha.2.historyId).any fun history => history.subjectCoid = coid
  doSujeito.insertionSort fun a b => a.2.createdAt ≤ b.2.createdAt

end ContinuityEvidenceRepository

/-! ## The assessment -/

open Continuity.ContinuityEvidenceRepository

/-- An evidence for each row. -/
def evidencias {ρ : Type} (campos : ρ → CamposDaEvidencia) (linhas : List ρ) :
    Op Patrimonio Erro (List PersistenceEvidence) :=
  Op.lift (linhas.mapM fun linha => PersistenceEvidence.new (campos linha))

/-- `PersistenceManager.assess`. -/
def assess [Driver] (coid : Referencia) : Op Patrimonio Erro PersistenceAssessment := do
  let instantaneo ← Op.read (subjectSnapshot coid)
  match instantaneo with
  | none => Op.lift (PersistenceAssessment.new { coid, outcome := .subjectNotFound })
  | some (clid, revisionStatus, softDeleted) =>
    let continuidade ← evidencias (fun clid => ⟨.clid, clid.str, none, none⟩) clid.toList
    let comoFilho ← Op.read (lineageAsChild coid)
    let pais ← evidencias (fun linha => ⟨.lineageParent, linha.1.str, some linha.2.parentCoid,
      some linha.2.relationType⟩) comoFilho
    let comoPai ← Op.read (lineageAsParent coid)
    let filhos ← evidencias (fun linha => ⟨.lineageChild, linha.1.str, some linha.2.childCoid,
      some linha.2.relationType⟩) comoPai
    let (comoEntrada, comoSaida) ← Op.query (transformationsCiting coid)
    let entradas ← evidencias (fun id => ⟨.transformationInput, id.str, none, none⟩) comoEntrada
    let saidas ← evidencias (fun id => ⟨.transformationOutput, id.str, none, none⟩) comoSaida
    let eventos ← Op.read (causalEvents coid)
    let causais ← evidencias (fun linha => ⟨.causalEvent, linha.1.str, none,
      some linha.2.eventType⟩) eventos
    let itens := continuidade ++ pais ++ filhos ++ entradas ++ saidas ++ causais
    Op.lift (PersistenceAssessment.new
      { coid
        outcome := if itens = [] then .noRecordedContinuityEvidence else .recordedContinuityEvidence
        evidence := itens
        clid
        subjectDeleted := softDeleted
        revisionStatus })

end PiaOs.Memory.Continuity
