import PiaOs.Piap.Envelope
import PiaOs.Support.Table
import PiaOs.Transactions.Session

/-!
# The tables of the library

Objects, the lineage between them, the transformations they came from and their causal
histories, with the constraints under which a row is taken.
-/

namespace PiaOs.Cognitive

open Support Piap Transactions

/-! ## Rows, each under its identifier -/

inductive AccessibilityState
  | active
  | latent
  | inaccessible
  | causallyExtinct
  deriving DecidableEq

inductive RevisionStatus
  | current
  | superseded
  deriving DecidableEq

inductive LineageRelation
  | parent
  | child
  | branch
  | merge
  | derivedFrom
  | transformedFrom
  deriving DecidableEq

inductive TransformationKind
  | revision
  | derivation
  deriving DecidableEq

inductive CausalEventType
  | created
  | transformed
  | compared
  | accessed
  deriving DecidableEq

structure CognitiveObject where
  clid : Option Referencia := none
  accessibility : AccessibilityState := .active
  revisionStatus : Option RevisionStatus := none
  deletedAt : Option Instant := none
  deriving DecidableEq

structure LineageEdge where
  parentCoid : Referencia
  childCoid : Referencia
  relationType : LineageRelation
  deriving DecidableEq

/-- References to objects are kept as texts, with no foreign key. -/
structure TransformationRecord where
  operationType : Texto
  transformationKind : TransformationKind
  inputRefs : List String
  outputRefs : List String
  actorRef : Option Referencia
  policyRef : Option Texto
  declaredPreservations : List Texto
  declaredLosses : List Texto
  deriving DecidableEq

structure CausalHistory where
  subjectCoid : Referencia
  deriving DecidableEq

structure CausalHistoryEvent where
  historyId : Referencia
  eventType : CausalEventType
  actorRef : Option Referencia
  payloadRef : Option String
  predecessorEventId : Option Referencia
  occurredAt : Option Instant
  deriving DecidableEq

structure Biblioteca where
  objects : Table Referencia CognitiveObject := ∅
  edges : Table Referencia LineageEdge := ∅
  transformations : Table Referencia TransformationRecord := ∅
  /-- The identifiers of `provenance_records`. -/
  provenance : List Referencia := []
  histories : Table Referencia CausalHistory := ∅
  events : Table Referencia CausalHistoryEvent := ∅

/-! ## Constraints -/

/-- Why the database refuses a statement. -/
inductive Recusa
  | unique
  | foreignKey
  | check
  /-- The value of a column cannot be stored. -/
  | dados
  deriving DecidableEq

/-- What the operations raise. -/
inductive Erro
  | typeError (campo : String)
  | valueError (campo : String)
  | invalidRequest (coid : Referencia)
  | coidCollision (coid : Referencia)
  | clidAlreadySet (coid currentClid attemptedClid : Referencia)
  | lineageSelfLink (coid : Referencia)
  | lineageDuplicateEdge (edge : LineageEdge)
  | lineageEndpointNotFound (coid : Referencia)
  | multiInputSourceNotFound (coids : List Referencia)
  | accessibilityInvalidTransition (coid : Referencia)
  | causalPredecessorNotFound (eventIds : List Referencia)
  | causalPredecessorSubjectMismatch (eventId : Referencia) (subjectCoid : Option Referencia)
  /-- `PersistenceError`, or what a flush raises when nothing translates it. -/
  | persistence (r : Recusa)
  deriving DecidableEq

namespace Biblioteca

/-- `uq_cognitive_objects_one_current_per_clid` has another row for this one. -/
def outraCurrent (db : Biblioteca) (coid : Referencia) (row : CognitiveObject) : Prop :=
  row.revisionStatus = some .current ∧ row.clid ≠ none ∧
    ∃ k r, db.objects.lookup k = some r ∧
      (k ≠ coid ∧ r.revisionStatus = some .current ∧ r.clid = row.clid)

instance decidableOutraCurrent (db : Biblioteca) (coid : Referencia) (row : CognitiveObject) :
    Decidable (db.outraCurrent coid row) :=
  -- over the rows there are, not over all identifiers
  have : Decidable (∃ k r, db.objects.lookup k = some r ∧
      (k ≠ coid ∧ r.revisionStatus = some .current ∧ r.clid = row.clid)) :=
    Table.decidableExists db.objects
  inferInstanceAs (Decidable (_ ∧ _ ∧ _))

/-- `UPDATE cognitive_objects`. A row that stays as it is sends no statement. -/
def updateObject (coid : Referencia) (row : CognitiveObject) (db : Biblioteca) :
    Except Recusa Biblioteca :=
  if db.objects.lookup coid = some row then .ok db
  else if db.outraCurrent coid row then .error .unique
  else .ok { db with objects := db.objects.insert coid row }

/-- `uq_lineage_edges_parent_child_relation`. -/
def ligada (db : Biblioteca) (edge : LineageEdge) : Prop :=
  ∃ k e, db.edges.lookup k = some e ∧ e = edge

instance decidableLigada (db : Biblioteca) (edge : LineageEdge) : Decidable (db.ligada edge) :=
  Table.decidableExists db.edges

/-- `INSERT INTO lineage_edges`. -/
def insertEdge (id : Referencia) (edge : LineageEdge) (db : Biblioteca) :
    Except Recusa Biblioteca :=
  if edge.parentCoid = edge.childCoid then .error .check
  else if (db.edges.lookup id).isSome ∨ db.ligada edge then .error .unique
  else if db.objects.lookup edge.parentCoid = none ∨ db.objects.lookup edge.childCoid = none then
    .error .foreignKey
  else .ok { db with edges := db.edges.insert id edge }

/-- `INSERT INTO cognitive_objects`. -/
def insertObject (id : Referencia) (row : CognitiveObject) (db : Biblioteca) :
    Except Recusa Biblioteca :=
  if (db.objects.lookup id).isSome ∨ db.outraCurrent id row then .error .unique
  else .ok { db with objects := db.objects.insert id row }

/-- `INSERT INTO transformation_records`. -/
def insertTransformation (id : Referencia) (row : TransformationRecord) (db : Biblioteca) :
    Except Recusa Biblioteca :=
  if (db.transformations.lookup id).isSome then .error .unique
  else .ok { db with transformations := db.transformations.insert id row }

/-- `get_by_subject`, its identifier. -/
def historyOf (db : Biblioteca) (subjectCoid : Referencia) : Option Referencia :=
  (db.histories.entries.find? fun entry => entry.2.subjectCoid = subjectCoid).map (·.1)

/-- `INSERT INTO causal_histories`, one for each subject. -/
def insertHistory (id : Referencia) (row : CausalHistory) (db : Biblioteca) :
    Except Recusa Biblioteca :=
  if (db.histories.lookup id).isSome ∨ (db.historyOf row.subjectCoid).isSome then .error .unique
  else if db.objects.lookup row.subjectCoid = none then .error .foreignKey
  else .ok { db with histories := db.histories.insert id row }

/-- `INSERT INTO causal_history_events`. -/
def insertEvent (id : Referencia) (row : CausalHistoryEvent) (db : Biblioteca) :
    Except Recusa Biblioteca :=
  if row.predecessorEventId = some id then .error .check
  else if (db.events.lookup id).isSome then .error .unique
  else if db.histories.lookup row.historyId = none ∨
      row.actorRef.any (fun actorRef => actorRef ∉ db.provenance) ∨
      row.predecessorEventId.any (fun eventId => (db.events.lookup eventId).isNone) then
    .error .foreignKey
  else .ok { db with events := db.events.insert id row }

end Biblioteca

end PiaOs.Cognitive
