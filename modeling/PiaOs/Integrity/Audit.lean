import Mathlib.Data.List.Dedup
import Mathlib.Order.Defs.LinearOrder
import PiaOs.Support.Cycles
import PiaOs.Support.Json

/-!
# The integrity audit

The rows that the audit reads, one query for each invariant, and the report of what was
found. Texts of an enumerated column are kept as they are stored.
-/

namespace PiaOs.Integrity

open Support

/-! ## Rows -/

structure CognitiveObject (Id : Type) where
  coid : Id
  clid : Option Id
  accessibility : String
  revisionStatus : Option String

structure LineageEdge (Id : Type) where
  id : Id
  parentCoid : Id
  childCoid : Id

structure Relationship (Id : Type) where
  id : Id
  sourceCoid : Id
  targetCoid : Id
  relationshipType : String
  /-- `retired_at` is not null. -/
  retired : Bool

structure TransformationRecord (Id : Type) where
  id : Id
  actorRef : Option Id

structure ProvenanceRecord (Id : Type) where
  id : Id
  coid : Id

structure CausalHistory (Id : Type) where
  id : Id
  subjectCoid : Id

structure CausalHistoryEvent (Id : Type) where
  id : Id
  predecessorEventId : Option Id

/-- What the tables hold, each in the order of `created_at` and `id`. -/
structure Patrimonio (Id : Type) where
  objects : List (CognitiveObject Id)
  lineage : List (LineageEdge Id)
  relationships : List (Relationship Id)
  transformations : List (TransformationRecord Id)
  provenance : List (ProvenanceRecord Id)
  histories : List (CausalHistory Id)
  events : List (CausalHistoryEvent Id)

/-- `AccessibilityState`. -/
def accessibilityStates : List String := ["active", "latent", "inaccessible", "causally_extinct"]

/-- `RelationshipType`. -/
def relationshipTypes : List String :=
  ["related_to", "references", "supports", "contradicts", "depends_on"]

/-! ## Queries -/

/-- `group by … having count(*) > 1`. -/
def repetidos {α : Type} [DecidableEq α] (xs : List α) : List (α × ℕ) :=
  (xs.dedup.map fun x => (x, xs.count x)).filter fun par => 1 < par.2

namespace IntegrityRepository

variable {Id : Type} [LinearOrder Id]

/-- `lineage_edges`. -/
def lineageEdges (p : Patrimonio Id) : List (Id × Id × Id) :=
  p.lineage.map fun e => (e.id, e.parentCoid, e.childCoid)

/-- `causal_edges`. -/
def causalEdges (p : Patrimonio Id) : List (Id × Id) :=
  p.events.filterMap fun e => e.predecessorEventId.map (e.id, ·)

/-- `lineage_self_links`. -/
def lineageSelfLinks (p : Patrimonio Id) : List Id :=
  (p.lineage.filter fun e => e.parentCoid = e.childCoid).map (·.id)

/-- `relationship_self_links`. -/
def relationshipSelfLinks (p : Patrimonio Id) : List Id :=
  (p.relationships.filter fun r => r.sourceCoid = r.targetCoid).map (·.id)

/-- `causal_self_predecessors`. -/
def causalSelfPredecessors (p : Patrimonio Id) : List Id :=
  (p.events.filter fun e => e.predecessorEventId = some e.id).map (·.id)

/-- `clids_with_multiple_current`. -/
def clidsWithMultipleCurrent (p : Patrimonio Id) : List (Id × ℕ) :=
  (repetidos ((p.objects.filter fun o => o.revisionStatus = some "current").filterMap
    (·.clid))).mergeSort fun a b => a.1 ≤ b.1

/-- `subjects_with_multiple_histories`. -/
def subjectsWithMultipleHistories (p : Patrimonio Id) : List (Id × ℕ) :=
  (repetidos (p.histories.map (·.subjectCoid))).mergeSort fun a b => a.1 ≤ b.1

/-- The triple of a relationship. -/
def tripla (r : Relationship Id) : Id × Id × String :=
  (r.sourceCoid, r.targetCoid, r.relationshipType)

/-- The rows of `duplicate_active_relationships`, as they are stored. -/
def triplasRepetidas (p : Patrimonio Id) : List ((Id × Id × String) × ℕ) :=
  repetidos ((p.relationships.filter fun r => !r.retired).map tripla)

/-- `duplicate_active_relationships`: a type outside the vocabulary is a `LookupError` when its
row is loaded. -/
def duplicateActiveRelationships (p : Patrimonio Id) :
    Except String (List ((Id × Id × String) × ℕ)) :=
  (triplasRepetidas p).mapM fun linha =>
    if linha.1.2.2 ∈ relationshipTypes then .ok linha else .error linha.1.2.2

/-- `non_canonical_symmetric_relationships`. -/
def nonCanonicalSymmetricRelationships (p : Patrimonio Id) : List Id :=
  (p.relationships.filter fun r =>
    r.relationshipType = "related_to" ∧ r.targetCoid ≤ r.sourceCoid).map (·.id)

/-- `_dangling`: the rows of a table whose reference is no object. -/
def dangling {α : Type} (p : Patrimonio Id) (rows : List α) (column idColumn : α → Id) : List Id :=
  (rows.filter fun row => column row ∉ p.objects.map (·.coid)).map idColumn

/-- `lineage_dangling_endpoints`. -/
def lineageDanglingEndpoints (p : Patrimonio Id) : List Id :=
  dangling p p.lineage (·.parentCoid) (·.id) ++ dangling p p.lineage (·.childCoid) (·.id)

/-- `relationship_dangling_endpoints`. -/
def relationshipDanglingEndpoints (p : Patrimonio Id) : List Id :=
  dangling p p.relationships (·.sourceCoid) (·.id) ++
    dangling p p.relationships (·.targetCoid) (·.id)

/-- `provenance_dangling_coids`. -/
def provenanceDanglingCoids (p : Patrimonio Id) : List Id :=
  dangling p p.provenance (·.coid) (·.id)

/-- `causal_dangling_subjects`. -/
def causalDanglingSubjects (p : Patrimonio Id) : List Id :=
  dangling p p.histories (·.subjectCoid) (·.id)

/-- `transformation_dangling_actor_refs`. -/
def transformationDanglingActorRefs (p : Patrimonio Id) : List Id :=
  (p.transformations.filter fun t =>
    t.actorRef.any fun ref => ref ∉ p.provenance.map (·.id)).map (·.id)

/-- `invalid_accessibility_states`. -/
def invalidAccessibilityStates (p : Patrimonio Id) : List (Id × String) :=
  (p.objects.filter fun o => o.accessibility ∉ accessibilityStates).map fun o =>
    (o.coid, o.accessibility)

/-- `causal_dangling_predecessors`. -/
def causalDanglingPredecessors (p : Patrimonio Id) : List Id :=
  (p.events.filter fun e =>
    e.predecessorEventId.any fun before => before ∉ p.events.map (·.id)).map (·.id)

end IntegrityRepository

/-! ## Findings -/

inductive IntegrityCode
  | lineageCycle
  | lineageSelfLink
  | lineageDanglingEndpoint
  | relationshipSelfLink
  | relationshipNonCanonicalSymmetric
  | relationshipDuplicateActive
  | relationshipDanglingEndpoint
  | versionMultipleCurrentPerClid
  | transformationDanglingActorRef
  | identityInvalidAccessibilityState
  | provenanceDanglingCoid
  | causalCycle
  | causalSelfPredecessor
  | causalMultipleHistoriesPerSubject
  | causalDanglingReference
  deriving DecidableEq

inductive IntegrityCategory
  | identity
  | lineage
  | transformation
  | relationship
  | version
  | provenance
  | causalHistory
  deriving DecidableEq

/-- The area of each code. -/
def IntegrityCode.category : IntegrityCode → IntegrityCategory
  | lineageCycle | lineageSelfLink | lineageDanglingEndpoint => .lineage
  | relationshipSelfLink | relationshipNonCanonicalSymmetric | relationshipDuplicateActive
  | relationshipDanglingEndpoint => .relationship
  | versionMultipleCurrentPerClid => .version
  | transformationDanglingActorRef => .transformation
  | identityInvalidAccessibilityState => .identity
  | provenanceDanglingCoid => .provenance
  | causalCycle | causalSelfPredecessor | causalMultipleHistoriesPerSubject
  | causalDanglingReference => .causalHistory

/-- Each finding has the severity of an error. -/
structure IntegrityFinding (Id : Type) where
  code : IntegrityCode
  category : IntegrityCategory
  entityType : String
  entityRefs : List Id
  message : String
  evidence : List (String × Json)

/-- A finding in the category of its code. -/
def achado {Id : Type} (code : IntegrityCode) (entityType message : String) (entityRefs : List Id)
    (evidence : List (String × Json)) : IntegrityFinding Id where
  code
  category := code.category
  entityType
  entityRefs
  message
  evidence

/-- A finding when there is something to find. -/
def seHouver {α Id : Type} (itens : List α) (achado : IntegrityFinding Id) :
    List (IntegrityFinding Id) :=
  if itens.isEmpty then [] else [achado]

namespace IntegrityManager

open IntegrityRepository

variable {Id : Type} [LinearOrder Id]

/-- `_adjacency`. -/
def adjacency (edges : List (Id × Id)) : Adjacency Id :=
  edges.foldl (fun adj edge => (adj.link edge.1 [edge.2]).link edge.2 []) []

/-- The evidence of a cycle, under the name of its nodes. -/
def caminho (str : Id → String) (cycle : List Id) (nome : String) : List (String × Json) :=
  [("cycle_path", .arr (cycle.map fun v => .str (str v))),
    (nome, .arr (cycle.dropLast.map fun v => .str (str v)))]

/-- `_audit_lineage`. -/
def auditLineage (str : Id → String) (p : Patrimonio Id) : List (IntegrityFinding Id) :=
  let edges := lineageEdges p
  let cycles :=
    match (adjacency (edges.map (·.2))).findCycle with
    | none => []
    | some cycle =>
      let edgeIds := (edges.filter fun e => e.2.1 ∈ cycle ∧ e.2.2 ∈ cycle).map (·.1)
      [achado .lineageCycle "LineageEdge"
        "Ciclo detectado no grafo de linhagem — derivação não pode ser circular." edgeIds
        (caminho str cycle "involved_coids" ++
          [("involved_edge_ids", .arr (edgeIds.map fun e => .str (str e))),
            ("cycle_length", .int (cycle.length - 1))])]
  cycles ++
  seHouver (lineageSelfLinks p)
    (achado .lineageSelfLink "LineageEdge" "Aresta de linhagem com parent_coid == child_coid."
      (lineageSelfLinks p) []) ++
  seHouver (lineageDanglingEndpoints p)
    (achado .lineageDanglingEndpoint "LineageEdge"
      ("Aresta de linhagem referencia CognitiveObject inexistente. O objeto ausente NÃO é " ++
        "criado: referência pendente é diagnóstico, não autorização para fabricar.")
      (lineageDanglingEndpoints p) [])

/-- `_audit_relationships`. -/
def auditRelationships (str : Id → String) (p : Patrimonio Id) :
    Except String (List (IntegrityFinding Id)) := do
  let duplicates ← duplicateActiveRelationships p
  return seHouver (relationshipSelfLinks p)
      (achado .relationshipSelfLink "Relationship" "Relação com source_coid == target_coid."
        (relationshipSelfLinks p) []) ++
    seHouver (nonCanonicalSymmetricRelationships p)
      (achado .relationshipNonCanonicalSymmetric "Relationship"
        ("RELATED_TO gravada fora da ordem canônica (source < target), quebrando a " ++
          "normalização de simetria de E3.5.1.")
        (nonCanonicalSymmetricRelationships p) []) ++
    seHouver duplicates
      (achado .relationshipDuplicateActive "Relationship"
        ("Mais de uma relação ATIVA para a mesma tripla (source, target, type). Relações já " ++
          "retiradas podem repetir a tripla — isso é o lifecycle previsto, não corrupção.")
        []
        [("duplicates", .arr (duplicates.map fun d => .obj
          [("source_coid", .str (str d.1.1)), ("target_coid", .str (str d.1.2.1)),
            ("relationship_type", .str d.1.2.2), ("active_count", .int d.2)]))]) ++
    seHouver (relationshipDanglingEndpoints p)
      (achado .relationshipDanglingEndpoint "Relationship"
        "Relação referencia CognitiveObject inexistente." (relationshipDanglingEndpoints p) [])

/-- `_audit_versions`. -/
def auditVersions (str : Id → String) (p : Patrimonio Id) : List (IntegrityFinding Id) :=
  let duplicates := clidsWithMultipleCurrent p
  seHouver duplicates
    (achado .versionMultipleCurrentPerClid "CognitiveObject"
      ("Mais de um objeto CURRENT para o mesmo CLID — invariante COUNT(CURRENT) <= 1 por CLID " ++
        "violado. Objetos SUPERSEDED continuam patrimônio legítimo e não são contados aqui.")
      (duplicates.map (·.1))
      [("clids", .arr (duplicates.map fun d => .obj
        [("clid", .str (str d.1)), ("current_count", .int d.2)]))])

/-- `_audit_transformations`. -/
def auditTransformations (p : Patrimonio Id) : List (IntegrityFinding Id) :=
  let dangling := transformationDanglingActorRefs p
  seHouver dangling
    (achado .transformationDanglingActorRef "TransformationRecord"
      ("TransformationRecord.actor_ref aponta para um ProvenanceRecord inexistente. actor_ref " ++
        "nulo é válido; o registro ausente NÃO é fabricado.") dangling [])

/-- `_audit_identity`. -/
def auditIdentity (str : Id → String) (p : Patrimonio Id) : List (IntegrityFinding Id) :=
  let invalid := invalidAccessibilityStates p
  seHouver invalid
    (achado .identityInvalidAccessibilityState "CognitiveObject"
      ("CognitiveObject com accessibility fora do vocabulário congelado (active, latent, " ++
        "inaccessible, causally_extinct). Isto é validade estrutural do valor — não julgamento " ++
        "da transição que o produziu.")
      (invalid.map (·.1))
      [("invalid_states", .arr (invalid.map fun i => .obj
        [("coid", .str (str i.1)), ("accessibility", .str i.2)]))])

/-- `_audit_provenance`. -/
def auditProvenance (p : Patrimonio Id) : List (IntegrityFinding Id) :=
  let dangling := provenanceDanglingCoids p
  seHouver dangling
    (achado .provenanceDanglingCoid "ProvenanceRecord"
      "ProvenanceRecord ancorado em CognitiveObject inexistente." dangling [])

/-- `_audit_causal_history`. -/
def auditCausalHistory (str : Id → String) (p : Patrimonio Id) : List (IntegrityFinding Id) :=
  let cycles :=
    match (adjacency (causalEdges p)).findCycle with
    | none => []
    | some cycle =>
      [achado .causalCycle "CausalHistoryEvent"
        ("Ciclo detectado no grafo causal global — um evento não pode ser causalmente anterior " ++
          "a si mesmo.")
        cycle.dropLast
        (caminho str cycle "involved_event_ids" ++ [("cycle_length", .int (cycle.length - 1))])]
  let subjects := subjectsWithMultipleHistories p
  let dangling := causalDanglingSubjects p
  let danglingPredecessors := causalDanglingPredecessors p
  cycles ++
  seHouver (causalSelfPredecessors p)
    (achado .causalSelfPredecessor "CausalHistoryEvent"
      "Evento causal declarado como predecessor de si mesmo." (causalSelfPredecessors p) []) ++
  seHouver subjects
    (achado .causalMultipleHistoriesPerSubject "CausalHistory"
      "Mais de uma CausalHistory para o mesmo sujeito — ONE_HISTORY_PER_SUBJECT violado."
      (subjects.map (·.1))
      [("subjects", .arr (subjects.map fun s => .obj
        [("subject_coid", .str (str s.1)), ("history_count", .int s.2)]))]) ++
  seHouver (dangling ++ danglingPredecessors)
    (achado .causalDanglingReference "CausalHistory/CausalHistoryEvent"
      ("História ou evento causal referencia entidade inexistente. Nada é fabricado para " ++
        "preencher a lacuna.")
      (dangling ++ danglingPredecessors)
      [("dangling_history_subjects", .arr (dangling.map fun i => .str (str i))),
        ("dangling_event_predecessors", .arr (danglingPredecessors.map fun i => .str (str i)))])

/-- `audit`: the findings of the report. -/
def audit (str : Id → String) (p : Patrimonio Id) : Except String (List (IntegrityFinding Id)) := do
  let relationships ← auditRelationships str p
  return auditLineage str p ++ relationships ++ auditVersions str p ++ auditTransformations p ++
    auditProvenance p ++ auditCausalHistory str p ++ auditIdentity str p

end IntegrityManager

end PiaOs.Integrity
