import Mathlib.Data.List.Chain
import PiaOs.Cognitive.Atomicity
import PiaOs.Piap.Canonical
import PiaOs.Support.Chains

/-!
# Versions of an object

Derivations and controlled revisions of one source, and the library as any succession of them
leaves it: its graphs have no cycles and the revisions of a CLID are one chain.
-/

namespace PiaOs.Cognitive

open Support Piap Transactions

/-- What the operations on versions raise. -/
inductive ErroDeVersao
  | biblioteca (e : Erro)
  | valueError (campo : String)
  | revisionStatusInvalidTransition (coid : Referencia) (atual attempted : RevisionStatus)
  | revisionCurrentUniquenessViolation (clid existingCurrentCoid : Option Referencia)
  | multipleResultsFound
  | assertionError
  deriving DecidableEq

structure PedidoDeVersao where
  operationType : Texto
  declaredPreservations : List Texto := []
  declaredLosses : List Texto := []
  policyRef : Option Texto := none
  relationType : LineageRelation := .transformedFrom

/-- The identifiers that the new rows get, and the CLID that `generate` gives. -/
structure IdsDeVersao where
  alvo : Referencia
  clid : Referencia
  aresta : Referencia
  registro : Referencia

/-- `CognitiveObject._reject_invalid_revision_status_transition`, and the assignment. -/
def CognitiveObject.comRevisao (coid : Referencia) (status : RevisionStatus)
    (row : CognitiveObject) : Except ErroDeVersao CognitiveObject :=
  match row.revisionStatus with
  | none => .ok { row with revisionStatus := some status }
  | some atual =>
    if status = atual ∨ atual = .current ∧ status = .superseded then
      .ok { row with revisionStatus := some status }
    else .error (.revisionStatusInvalidTransition coid atual status)

/-- `entity.revision_status = status`, and `BaseRepository.update`. -/
def atribuirRevisao (recusada : Recusa → ErroDeVersao) (coid : Referencia)
    (status : RevisionStatus) : Op Biblioteca ErroDeVersao Unit := do
  let row ← (entidade coid).mapError .biblioteca
  let row ← Op.lift (row.comRevisao coid status)
  Op.send fun db => (db.updateObject coid row).mapError recusada

/-- The rows that `get_current_by_clid` selects. -/
def Biblioteca.currentByClid (db : Biblioteca) (clid : Referencia) : List Referencia :=
  (db.objects.entries.filter fun entry =>
    entry.2.clid = some clid ∧ entry.2.revisionStatus = some .current).map (·.1)

namespace VersionManager

/-- The row of the transformation. -/
def registroDe (kind : TransformationKind) (ids : IdsDeVersao) (source : Referencia)
    (pedido : PedidoDeVersao) : TransformationRecord where
  operationType := pedido.operationType
  transformationKind := kind
  inputRefs := [source.str]
  outputRefs := [ids.alvo.str]
  actorRef := none
  policyRef := pedido.policyRef
  declaredPreservations := pedido.declaredPreservations
  declaredLosses := pedido.declaredLosses

/-- A new object that continues the source. -/
def continuar (ids : IdsDeVersao) (source : Referencia) (relationType : LineageRelation) :
    Op Biblioteca ErroDeVersao LineageEdge := do
  (addObject ids.alvo {}).mapError .biblioteca
  (ClidManager.inherit ids.clid ids.aresta source ids.alvo relationType).mapError .biblioteca

/-- `derive`. -/
def derive (m : Motor) (ids : IdsDeVersao) (source : Referencia) (pedido : PedidoDeVersao) :
    Op Biblioteca ErroDeVersao LineageEdge := do
  if pedido.operationType = [] then Op.raise (.valueError "operation_type")
  else
    let edge ← continuar ids source pedido.relationType
    (addTransformation m ids.registro (registroDe .derivation ids source pedido)).mapError
      .biblioteca
    pure edge

/-- The checks of `revise` on its source, once it is locked. -/
def verificarFonte (source : Referencia) : Op Biblioteca ErroDeVersao Unit := do
  let fonte ← (entidade source).mapError .biblioteca
  if fonte.revisionStatus = some .superseded then
    Op.raise (.revisionStatusInvalidTransition source .superseded .superseded)
  else
    match fonte.clid with
    | none => pure ()
    | some clid =>
      match ← Op.read fun db => db.currentByClid clid with
      | [] => pure ()
      | [existing] =>
        if existing = source then pure ()
        else Op.raise (.revisionCurrentUniquenessViolation (some clid) (some existing))
      | _ => Op.raise .multipleResultsFound

/-- The error of the update that makes the target the current one. -/
def erroDoAlvo (clid : Option Referencia) : Recusa → ErroDeVersao
  | .unique => .revisionCurrentUniquenessViolation clid none
  | r => .biblioteca (.persistence r)

/-- The part of `revise` after the new object: the source is superseded before the target is
current. -/
def promover (m : Motor) (ids : IdsDeVersao) (source : Referencia) (pedido : PedidoDeVersao) :
    Op Biblioteca ErroDeVersao Unit := do
  atribuirRevisao (fun r => .biblioteca (.persistence r)) source .superseded
  let alvo ← (entidade ids.alvo).mapError .biblioteca
  atribuirRevisao (erroDoAlvo alvo.clid) ids.alvo .current
  (addTransformation m ids.registro (registroDe .revision ids source pedido)).mapError .biblioteca

/-- `revise`. -/
def revise (m : Motor) (ids : IdsDeVersao) (source : Referencia) (pedido : PedidoDeVersao) :
    Op Biblioteca ErroDeVersao LineageEdge := do
  if pedido.operationType = [] then Op.raise (.valueError "operation_type")
  else
    verificarFonte source
    let edge ← continuar ids source pedido.relationType
    promover m ids source pedido
    pure edge

end VersionManager

/-- `CausalHistoryManager.correct`: a new event of the same subject that names the one that is
corrected, which the caller has loaded. -/
def CausalHistoryManager.correct (m : Motor) (historyId eventId previousId : Referencia)
    (previous : CausalHistoryEvent) (eventType : CausalEventType) (actorRef : Option Referencia)
    (payloadRef : Option String) (occurredAt : Option Momento) :
    Op Biblioteca ErroDeVersao (Referencia × CausalHistoryEvent) := do
  match ← Op.read fun (db : Biblioteca) => db.histories.lookup previous.historyId with
  | none => Op.raise .assertionError
  | some history =>
    (record m historyId eventId history.subjectCoid eventType actorRef payloadRef (some previousId)
      occurredAt).mapError .biblioteca

/-! ## What holds of the library -/

namespace Biblioteca

/-- One object is recorded as the parent of another one. -/
def Pai (db : Biblioteca) (a b : Referencia) : Prop :=
  ∃ id edge, db.edges.lookup id = some edge ∧ edge.parentCoid = a ∧ edge.childCoid = b

/-- One event is the declared predecessor of another one. -/
def Precede (db : Biblioteca) (a b : Referencia) : Prop :=
  ∃ evento, db.events.lookup b = some evento ∧ evento.predecessorEventId = some a

def status (db : Biblioteca) (coid : Referencia) : Option RevisionStatus :=
  (db.objects.lookup coid).bind (·.revisionStatus)

def clidDe (db : Biblioteca) (coid : Referencia) : Option Referencia :=
  (db.objects.lookup coid).bind (·.clid)

/-- One object is the recorded revision of another one. -/
def Sucede (db : Biblioteca) (a b : Referencia) : Prop :=
  db.Pai a b ∧ ∃ id registro, db.transformations.lookup id = some registro ∧
    registro.transformationKind = .revision ∧ registro.inputRefs = [a.str] ∧
    registro.outputRefs = [b.str]

/-- The objects under revision of a CLID, from the first one to the current one. -/
structure Cadeia (db : Biblioteca) (clid : Referencia) (l : List Referencia) : Prop where
  membros : ∀ k, k ∈ l ↔ db.clidDe k = some clid ∧ db.status k ≠ none
  distintos : l.Nodup
  elos : l.IsChain db.Sucede
  estados : ∀ antes ultimo, l = antes ++ [ultimo] → db.status ultimo = some .current ∧
    ∀ k ∈ antes, db.status k = some .superseded
  dupla : l ≠ [] → 2 ≤ l.length

/-- What every run keeps: references to rows that are there, two graphs without cycles, and the
revisions of each CLID in one chain. -/
structure Coerente (db : Biblioteca) : Prop where
  integra : db.Integra
  predecessores : ∀ id evento, db.events.lookup id = some evento →
    ∀ p, evento.predecessorEventId = some p → db.events.lookup p ≠ none
  linhagem : ∀ x, ¬Relation.TransGen db.Pai x x
  causal : ∀ x, ¬Relation.TransGen db.Precede x x
  comClid : ∀ k, db.status k ≠ none → db.clidDe k ≠ none
  cadeias : ∀ clid, ∃ l, db.Cadeia clid l
  revisoes : ∀ id registro, db.transformations.lookup id = some registro →
    registro.transformationKind = .revision → ∃ a b, registro.inputRefs = [a.str] ∧
      registro.outputRefs = [b.str] ∧ db.status a = some .superseded ∧ db.status b ≠ none ∧
      db.clidDe a = db.clidDe b
  umaRevisao : ∀ id id' r r', db.transformations.lookup id = some r →
    db.transformations.lookup id' = some r' → r.transformationKind = .revision →
    r'.transformationKind = .revision → r.inputRefs = r'.inputRefs → id = id'

section Chains

variable {db : Biblioteca} {clid a b : Referencia} {l : List Referencia}

theorem status_of_lookup {row : CognitiveObject} (h : db.objects.lookup a = some row) :
    db.status a = row.revisionStatus := by
  rw [status, h, Option.bind_some]

theorem clidDe_of_lookup {row : CognitiveObject} (h : db.objects.lookup a = some row) :
    db.clidDe a = row.clid := by
  rw [clidDe, h, Option.bind_some]

theorem exists_ultimo (h : l ≠ []) : ∃ antes ultimo, l = antes ++ [ultimo] :=
  ⟨_, _, (List.dropLast_append_getLast h).symm⟩

/-- The current revision is the last of the chain. -/
theorem Cadeia.eq_of_current (h : db.Cadeia clid l) (hclid : db.clidDe a = some clid)
    (hcurrent : db.status a = some .current) : ∃ antes, l = antes ++ [a] := by
  have hmem : a ∈ l := (h.membros a).mpr ⟨hclid, by simp [hcurrent]⟩
  obtain ⟨antes, ultimo, rfl⟩ := exists_ultimo (List.ne_nil_of_mem hmem)
  obtain ⟨-, hbefore⟩ := h.estados antes ultimo rfl
  rcases List.mem_append.mp hmem with hin | hlast
  · rw [hbefore a hin] at hcurrent
    cases hcurrent
  · rw [List.mem_singleton.mp hlast]
    exact ⟨antes, rfl⟩

/-- At most one object is the current revision of a CLID. -/
theorem Coerente.umCurrent (h : db.Coerente) (hclid : db.clidDe a = db.clidDe b)
    (ha : db.status a = some .current) (hb : db.status b = some .current) : a = b := by
  obtain ⟨clid, hsome⟩ := Option.ne_none_iff_exists'.mp (h.comClid a (by simp [ha]))
  obtain ⟨l, hl⟩ := h.cadeias clid
  obtain ⟨antes, hantes⟩ := hl.eq_of_current hsome ha
  obtain ⟨antes', hantes'⟩ := hl.eq_of_current (hclid ▸ hsome) hb
  have hboth := hantes.symm.trans hantes'
  exact (List.append_inj' hboth rfl).2 |> List.singleton_injective

end Chains

end Biblioteca

section Antigas

variable {ρ : Type} {t : Table Referencia ρ} {id k : Referencia} {r r' : ρ}

theorem ne_of_lookup (hid : t.lookup id = none) (hk : t.lookup k = some r) : k ≠ id := by
  rintro rfl
  rw [hid] at hk
  cases hk

theorem lookup_insert_antiga (hid : t.lookup id = none) (hk : t.lookup k = some r) :
    (t.insert id r').lookup k = some r :=
  (AList.lookup_insert_ne (ne_of_lookup hid hk)).trans hk

end Antigas

/-! ## Changes that leave the revisions alone -/

/-- New objects without a revision, first CLIDs, edges into new objects, transformations that are
no revision, and events after those that were there. -/
structure Neutra (db db' : Biblioteca) : Prop where
  objetos : ∀ k row, db.objects.lookup k = some row → ∃ row', db'.objects.lookup k = some row' ∧
    row'.revisionStatus = row.revisionStatus ∧ row'.deletedAt = row.deletedAt ∧
    ∀ clid, row.clid = some clid → row'.clid = some clid
  novos : ∀ k row, db'.objects.lookup k = some row → db.objects.lookup k = none →
    row.revisionStatus = none
  arestas : ∀ id edge, db.edges.lookup id = some edge → db'.edges.lookup id = some edge
  arestasNovas : ∀ id edge, db'.edges.lookup id = some edge → db.edges.lookup id = some edge ∨
    db.objects.lookup edge.parentCoid ≠ none ∧ db.objects.lookup edge.childCoid = none ∧
      db'.objects.lookup edge.childCoid ≠ none
  transformacoes : ∀ id r, db.transformations.lookup id = some r →
    db'.transformations.lookup id = some r
  transformacoesNovas : ∀ id r, db'.transformations.lookup id = some r →
    db.transformations.lookup id = some r ∨ r.transformationKind ≠ .revision
  historias : ∀ id history, db.histories.lookup id = some history →
    db'.histories.lookup id = some history
  historiasNovas : ∀ id history, db'.histories.lookup id = some history →
    db.histories.lookup id = some history ∨ db'.objects.lookup history.subjectCoid ≠ none
  eventos : ∀ id evento, db.events.lookup id = some evento → db'.events.lookup id = some evento
  eventosNovos : ∀ id evento, db'.events.lookup id = some evento →
    db.events.lookup id = some evento ∨ db.events.lookup id = none ∧
      db'.histories.lookup evento.historyId ≠ none ∧
      ∀ p, evento.predecessorEventId = some p → db.events.lookup p ≠ none
  proveniencia : db'.provenance = db.provenance

namespace Neutra

variable {db db' : Biblioteca}

theorem refl : Neutra db db where
  objetos _ row h := ⟨row, h, rfl, rfl, fun _ => id⟩
  novos _ _ h hnone := by
    rw [hnone] at h
    cases h
  arestas _ _ := id
  arestasNovas _ _ := .inl
  transformacoes _ _ := id
  transformacoesNovas _ _ := .inl
  historias _ _ := id
  historiasNovas _ _ := .inl
  eventos _ _ := id
  eventosNovos _ _ := .inl
  proveniencia := rfl

theorem mantem (h : Neutra db db') {k : Referencia} (hk : db.objects.lookup k ≠ none) :
    db'.objects.lookup k ≠ none := by
  obtain ⟨row, hrow⟩ := Option.ne_none_iff_exists'.mp hk
  obtain ⟨row', hrow', -⟩ := h.objetos k row hrow
  rw [hrow']
  exact Option.some_ne_none row'

theorem status (h : Neutra db db') (k : Referencia) : db'.status k = db.status k := by
  cases hrow : db.objects.lookup k with
  | some row =>
    obtain ⟨row', hrow', hstatus, -⟩ := h.objetos k row hrow
    rw [Biblioteca.status_of_lookup hrow', Biblioteca.status_of_lookup hrow, hstatus]
  | none =>
    cases hrow' : db'.objects.lookup k with
    | none => rw [Biblioteca.status, Biblioteca.status, hrow, hrow']
    | some row' =>
      rw [Biblioteca.status_of_lookup hrow', h.novos k row' hrow' hrow, Biblioteca.status, hrow,
        Option.bind_none]

theorem clidDe (h : Neutra db db') {k clid : Referencia} (hclid : db.clidDe k = some clid) :
    db'.clidDe k = some clid := by
  obtain ⟨row, hrow, hclid⟩ := Option.bind_eq_some_iff.mp hclid
  obtain ⟨row', hrow', -, -, hkept⟩ := h.objetos k row hrow
  rw [Biblioteca.clidDe_of_lookup hrow', hkept clid hclid]

/-- The CLID of an object under revision stays as it is. -/
theorem clidDe_eq (h : Neutra db db') (hdb : db.Coerente) {k : Referencia}
    (hstatus : db.status k ≠ none) : db'.clidDe k = db.clidDe k := by
  obtain ⟨clid, hclid⟩ := Option.ne_none_iff_exists'.mp (hdb.comClid k hstatus)
  rw [hclid, h.clidDe hclid]

theorem pai (h : Neutra db db') {a b : Referencia} (hpai : db.Pai a b) : db'.Pai a b := by
  obtain ⟨id, edge, hedge, hends⟩ := hpai
  exact ⟨id, edge, h.arestas id edge hedge, hends⟩

theorem sucede (h : Neutra db db') {a b : Referencia} (hsucede : db.Sucede a b) :
    db'.Sucede a b := by
  obtain ⟨hpai, id, r, hr, hfields⟩ := hsucede
  exact ⟨h.pai hpai, id, r, h.transformacoes id r hr, hfields⟩

theorem integra (h : Neutra db db') (hdb : db.Integra) : db'.Integra where
  arestas id edge hedge := by
    rcases h.arestasNovas id edge hedge with hold | ⟨hparent, -, hchild⟩
    · obtain ⟨hparent, hchild⟩ := hdb.arestas id edge hold
      exact ⟨h.mantem hparent, h.mantem hchild⟩
    · exact ⟨h.mantem hparent, hchild⟩
  historias id history hhistory := by
    rcases h.historiasNovas id history hhistory with hold | hnew
    · exact h.mantem (hdb.historias id history hold)
    · exact hnew
  eventos id evento hevento := by
    rcases h.eventosNovos id evento hevento with hold | ⟨-, hhistory, -⟩
    · obtain ⟨history, hhistory⟩ := Option.ne_none_iff_exists'.mp (hdb.eventos id evento hold)
      rw [h.historias _ history hhistory]
      exact Option.some_ne_none history
    · exact hhistory

/-- The new edges lead into objects that no edge leaves. -/
theorem linhagem (h : Neutra db db') (hdb : db.Coerente) (x : Referencia) :
    ¬Relation.TransGen db'.Pai x x := by
  refine acyclic_of_sinks (S := fun k => db.objects.lookup k = none) ?_ ?_ hdb.linhagem x
  · rintro a b ⟨id, edge, hedge, rfl, rfl⟩
    rcases h.arestasNovas id edge hedge with hold | ⟨-, hchild, -⟩
    · exact .inl ⟨id, edge, hold, rfl, rfl⟩
    · exact .inr hchild
  · rintro a b ⟨id, edge, hedge, rfl, rfl⟩
    rcases h.arestasNovas id edge hedge with hold | ⟨hparent, -⟩
    · exact (hdb.integra.arestas id edge hold).1
    · exact hparent

/-- The new events come after events that were there. -/
theorem causal (h : Neutra db db') (hdb : db.Coerente) (x : Referencia) :
    ¬Relation.TransGen db'.Precede x x := by
  refine acyclic_of_sinks (S := fun k => db.events.lookup k = none) ?_ ?_ hdb.causal x
  · rintro a b ⟨evento, hevento, hpredecessor⟩
    rcases h.eventosNovos b evento hevento with hold | ⟨hnew, -⟩
    · exact .inl ⟨evento, hold, hpredecessor⟩
    · exact .inr hnew
  · rintro a b ⟨evento, hevento, hpredecessor⟩
    rcases h.eventosNovos b evento hevento with hold | ⟨-, -, hpredecessores⟩
    · exact hdb.predecessores b evento hold a hpredecessor
    · exact hpredecessores a hpredecessor

theorem cadeia (h : Neutra db db') (hdb : db.Coerente) {clid : Referencia} {l : List Referencia}
    (hl : db.Cadeia clid l) : db'.Cadeia clid l where
  membros k := by
    rw [hl.membros, h.status]
    refine and_congr_left fun hstatus => ?_
    rw [h.clidDe_eq hdb hstatus]
  distintos := hl.distintos
  elos := hl.elos.imp fun _ _ => h.sucede
  estados antes ultimo heq := by
    obtain ⟨hlast, hbefore⟩ := hl.estados antes ultimo heq
    exact ⟨(h.status ultimo).trans hlast, fun k hk => (h.status k).trans (hbefore k hk)⟩
  dupla := hl.dupla

theorem coerente (h : Neutra db db') (hdb : db.Coerente) : db'.Coerente where
  integra := h.integra hdb.integra
  predecessores id evento hevento p hp := by
    have hkept : db.events.lookup p ≠ none := by
      rcases h.eventosNovos id evento hevento with hold | ⟨-, -, hpredecessores⟩
      · exact hdb.predecessores id evento hold p hp
      · exact hpredecessores p hp
    obtain ⟨outro, houtro⟩ := Option.ne_none_iff_exists'.mp hkept
    rw [h.eventos p outro houtro]
    exact Option.some_ne_none outro
  linhagem := h.linhagem hdb
  causal := h.causal hdb
  comClid k hstatus := by
    rw [h.status] at hstatus
    rw [h.clidDe_eq hdb hstatus]
    exact hdb.comClid k hstatus
  cadeias clid := by
    obtain ⟨l, hl⟩ := hdb.cadeias clid
    exact ⟨l, h.cadeia hdb hl⟩
  revisoes id r hr hkind := by
    obtain ⟨a, b, hinput, houtput, ha, hb, hclid⟩ := hdb.revisoes id r
      ((h.transformacoesNovas id r hr).resolve_right fun hne => hne hkind) hkind
    refine ⟨a, b, hinput, houtput, (h.status a).trans ha, by rwa [h.status], ?_⟩
    rw [h.clidDe_eq hdb hb, h.clidDe_eq hdb (by simp [ha]), hclid]
  umaRevisao id id' r r' hr hr' hkind hkind' :=
    hdb.umaRevisao id id' r r'
      ((h.transformacoesNovas id r hr).resolve_right fun hne => hne hkind)
      ((h.transformacoesNovas id' r' hr').resolve_right fun hne => hne hkind') hkind hkind'

end Neutra

/-! ## The promotion of a revision -/

/-- What `revise` makes of a source and of the object that continues it. -/
structure Promovida (source alvo registroId : Referencia) (r : TransformationRecord)
    (db db' : Biblioteca) : Prop where
  tipo : r.transformationKind = .revision ∧ r.inputRefs = [source.str] ∧ r.outputRefs = [alvo.str]
  aresta : db.Pai source alvo
  inedito : db.transformations.lookup registroId = none
  objetos : ∃ fonte novo clid, db.objects.lookup source = some fonte ∧
    db.objects.lookup alvo = some novo ∧ fonte.clid = some clid ∧ novo.clid = some clid ∧
    fonte.revisionStatus ≠ some .superseded ∧ novo.revisionStatus = none ∧ source ≠ alvo ∧
    ∀ k, db'.objects.lookup k = if k = alvo then some { novo with revisionStatus := some .current }
      else if k = source then some { fonte with revisionStatus := some .superseded }
      else db.objects.lookup k
  /-- The index would not take a second current object. -/
  unico : ∀ k, db.clidDe k = db.clidDe alvo → db.status k = some .current → k = source
  resto : db' = { db with
    objects := db'.objects
    transformations := db.transformations.insert registroId r }

namespace Promovida

variable {source alvo registroId : Referencia} {r : TransformationRecord} {db db' : Biblioteca}

theorem status (h : Promovida source alvo registroId r db db') (k : Referencia) :
    db'.status k = if k = alvo then some .current else if k = source then some .superseded
      else db.status k := by
  obtain ⟨fonte, novo, clid, -, -, -, -, -, -, -, hobjetos⟩ := h.objetos
  rw [Biblioteca.status, hobjetos]
  split
  · rfl
  · split
    · rfl
    · rfl

theorem clidDe (h : Promovida source alvo registroId r db db') (k : Referencia) :
    db'.clidDe k = db.clidDe k := by
  obtain ⟨fonte, novo, clid, hfonte, hnovo, -, -, -, -, -, hobjetos⟩ := h.objetos
  rw [Biblioteca.clidDe, hobjetos]
  split
  case isTrue hk => rw [hk, Biblioteca.clidDe_of_lookup hnovo, Option.bind_some]
  case isFalse =>
    split
    case isTrue hk => rw [hk, Biblioteca.clidDe_of_lookup hfonte, Option.bind_some]
    case isFalse => rfl

theorem pai (h : Promovida source alvo registroId r db db') {a b : Referencia} :
    db'.Pai a b ↔ db.Pai a b := by
  unfold Biblioteca.Pai
  rw [h.resto]

theorem registro (h : Promovida source alvo registroId r db db') (id : Referencia) :
    db'.transformations.lookup id = if id = registroId then some r
      else db.transformations.lookup id := by
  rw [h.resto]
  exact Table.lookup_insert_ite _ _ _ _

theorem sucede (h : Promovida source alvo registroId r db db') {a b : Referencia}
    (hsucede : db.Sucede a b) : db'.Sucede a b := by
  obtain ⟨hpai, id, r', hr', hfields⟩ := hsucede
  refine ⟨h.pai.mpr hpai, id, r', ?_, hfields⟩
  rw [h.resto]
  exact lookup_insert_antiga h.inedito hr'

theorem sucessor (h : Promovida source alvo registroId r db db') : db'.Sucede source alvo := by
  refine ⟨h.pai.mpr h.aresta, registroId, r, ?_, h.tipo⟩
  rw [h.registro, if_pos rfl]

/-- The chain of the CLID ends in the target now. -/
theorem cadeia_da_fonte (h : Promovida source alvo registroId r db db') {l : List Referencia}
    {clid : Referencia} (hclid : db.clidDe alvo = some clid) (hl : db.Cadeia clid l) :
    ∃ l', db'.Cadeia clid l' := by
  obtain ⟨fonte, novo, c, hfonte, hnovo, hfclid, hnclid, hnotsup, hnone, hne, -⟩ := h.objetos
  have hstatusFonte := Biblioteca.status_of_lookup hfonte
  have hstatusAlvo : db.status alvo = none := (Biblioteca.status_of_lookup hnovo).trans hnone
  have hclidFonte : db.clidDe source = some clid := by
    rw [← hclid, Biblioteca.clidDe_of_lookup hfonte, Biblioteca.clidDe_of_lookup hnovo, hfclid,
      hnclid]
  have hfresh : alvo ∉ l := fun hmem => ((hl.membros alvo).mp hmem).2 hstatusAlvo
  -- The chain before, up to the source: all of it when the source is its end, and nothing when
  -- the source enters the revision only now.
  obtain ⟨antes, hantes, hsup⟩ : ∃ antes, (∀ k, k ∈ antes ++ [source] ↔ k = source ∨ k ∈ l) ∧
      ((antes ++ [source]).Nodup ∧ (antes ++ [source]).IsChain db.Sucede ∧
        ∀ k ∈ antes, db.status k = some .superseded) := by
    cases hstatus : fonte.revisionStatus with
    | none =>
      have hempty : l = [] := by
        by_contra hsome
        obtain ⟨antes, ultimo, rfl⟩ := Biblioteca.exists_ultimo hsome
        obtain ⟨hlast, -⟩ := hl.estados antes ultimo rfl
        have hmember := (hl.membros ultimo).mp (by simp)
        have hsource := h.unico ultimo (hmember.1.trans hclid.symm) hlast
        rw [hsource, hstatusFonte, hstatus] at hlast
        cases hlast
      exact ⟨[], by simp [hempty], by simp⟩
    | some status =>
      cases status with
      | superseded => exact absurd hstatus hnotsup
      | current =>
        obtain ⟨antes, rfl⟩ := hl.eq_of_current hclidFonte (hstatusFonte.trans hstatus)
        obtain ⟨-, hbefore⟩ := hl.estados antes source rfl
        refine ⟨antes, fun k => ⟨.inr, ?_⟩, hl.distintos, hl.elos, hbefore⟩
        rintro (rfl | hk)
        · exact List.mem_append_right _ (List.mem_singleton_self k)
        · exact hk
  obtain ⟨hnodup, helos, hbefore⟩ := hsup
  have hnotmem : alvo ∉ antes ++ [source] := by
    rw [hantes, not_or]
    exact ⟨hne.symm, hfresh⟩
  refine ⟨antes ++ [source] ++ [alvo], fun k => ?_, ?_, ?_, ?_, ?_⟩
  · rw [List.mem_append, List.mem_singleton, hantes, h.clidDe, h.status, hl.membros]
    by_cases hk : k = alvo
    · simp [hk, hclid]
    · by_cases hk' : k = source
      · simp [hk', hne, hclidFonte]
      · simp [hk, hk']
  · exact List.nodup_append.mpr ⟨hnodup, List.nodup_singleton alvo, by
      rintro a ha b hb rfl
      exact hnotmem (List.mem_singleton.mp hb ▸ ha)⟩
  · refine List.IsChain.append (helos.imp fun _ _ => h.sucede) (List.isChain_singleton alvo) ?_
    simpa using h.sucessor
  · intro inicio ultimo heq
    obtain ⟨rfl, hlast⟩ := List.append_inj' heq rfl
    obtain rfl : alvo = ultimo := by simpa using hlast
    refine ⟨by rw [h.status, if_pos rfl], fun k hk => ?_⟩
    have hother : k ≠ alvo := by
      rintro rfl
      exact hnotmem hk
    rw [h.status, if_neg hother]
    split
    case isTrue => rfl
    case isFalse hk' =>
      rcases List.mem_append.mp hk with hin | hin
      · exact hbefore k hin
      · exact absurd (List.mem_singleton.mp hin) hk'
  · intro _
    simp

/-- The chains of the other CLIDs stay as they are. -/
theorem cadeia_de_outro (h : Promovida source alvo registroId r db db') {l : List Referencia}
    {clid : Referencia} (hclid : db.clidDe alvo ≠ some clid) (hl : db.Cadeia clid l) :
    db'.Cadeia clid l := by
  obtain ⟨fonte, novo, c, hfonte, hnovo, hfclid, hnclid, -, -, -, -⟩ := h.objetos
  have hboth : db.clidDe source = db.clidDe alvo := by
    rw [Biblioteca.clidDe_of_lookup hfonte, Biblioteca.clidDe_of_lookup hnovo, hfclid, hnclid]
  have hstatus : ∀ k, db.clidDe k = some clid → db'.status k = db.status k := by
    intro k hk
    rw [h.status, if_neg, if_neg]
    · rintro rfl
      exact hclid (hboth ▸ hk)
    · rintro rfl
      exact hclid hk
  refine ⟨fun k => ?_, hl.distintos, hl.elos.imp fun _ _ => h.sucede, fun antes ultimo heq => ?_,
    hl.dupla⟩
  · rw [hl.membros, h.clidDe]
    exact and_congr_right fun hk => by rw [hstatus k hk]
  · obtain ⟨hlast, hbefore⟩ := hl.estados antes ultimo heq
    have hmember : ∀ k ∈ antes ++ [ultimo], db.clidDe k = some clid := by
      intro k hk
      exact ((hl.membros k).mp (heq ▸ hk)).1
    refine ⟨(hstatus ultimo (hmember ultimo (by simp))).trans hlast, fun k hk => ?_⟩
    exact (hstatus k (hmember k (List.mem_append_left _ hk))).trans (hbefore k hk)

theorem coerente (h : Promovida source alvo registroId r db db') (hdb : db.Coerente) :
    db'.Coerente := by
  obtain ⟨fonte, novo, c, hfonte, hnovo, hfclid, hnclid, hnotsup, hnone, hne, hobjetos⟩ := h.objetos
  obtain ⟨hkind, hinput, houtput⟩ := h.tipo
  have hmantem : ∀ k, db.objects.lookup k ≠ none → db'.objects.lookup k ≠ none := by
    intro k hk
    rw [hobjetos]
    split
    · exact Option.some_ne_none _
    · split
      · exact Option.some_ne_none _
      · exact hk
  have hmantido : ∀ k, db.status k ≠ none → db'.status k ≠ none := by
    intro k hk
    rw [h.status]
    split
    · exact Option.some_ne_none _
    · split
      · exact Option.some_ne_none _
      · exact hk
  -- An object that was superseded is neither the source nor the target.
  have hsuperado : ∀ k, db.status k = some .superseded →
      k ≠ source ∧ db'.status k = some .superseded := by
    intro k hk
    have hsource : k ≠ source := by
      rintro rfl
      exact hnotsup ((Biblioteca.status_of_lookup hfonte).symm.trans hk)
    have halvo : k ≠ alvo := by
      rintro rfl
      rw [Biblioteca.status_of_lookup hnovo, hnone] at hk
      cases hk
    exact ⟨hsource, by rw [h.status, if_neg halvo, if_neg hsource, hk]⟩
  have hedges : db'.edges = db.edges := by rw [h.resto]
  have hhistories : db'.histories = db.histories := by rw [h.resto]
  have hevents : db'.events = db.events := by rw [h.resto]
  refine {
    integra := ⟨fun id edge hedge => ?_, fun id history hhistory => ?_, fun id evento hevento => ?_⟩
    predecessores := by rw [hevents]; exact hdb.predecessores
    linhagem := acyclic_mono (fun _ _ => h.pai.mp) hdb.linhagem
    causal := fun x => ?_
    comClid := fun k hstatus => ?_
    cadeias := fun clid => ?_
    revisoes := fun id r' hr' hkind' => ?_
    umaRevisao := fun id id' r₁ r₂ hr₁ hr₂ hkind₁ hkind₂ hsame => ?_ }
  · obtain ⟨hparent, hchild⟩ := hdb.integra.arestas id edge (hedges ▸ hedge)
    exact ⟨hmantem _ hparent, hmantem _ hchild⟩
  · exact hmantem _ (hdb.integra.historias id history (hhistories ▸ hhistory))
  · rw [hhistories]
    exact hdb.integra.eventos id evento (hevents ▸ hevento)
  · have hprecede : db'.Precede = db.Precede := by
      unfold Biblioteca.Precede
      rw [hevents]
    rw [hprecede]
    exact hdb.causal x
  · rw [h.clidDe]
    by_cases halvo : k = alvo
    · rw [halvo, Biblioteca.clidDe_of_lookup hnovo, hnclid]
      exact Option.some_ne_none c
    · by_cases hsource : k = source
      · rw [hsource, Biblioteca.clidDe_of_lookup hfonte, hfclid]
        exact Option.some_ne_none c
      · rw [h.status, if_neg halvo, if_neg hsource] at hstatus
        exact hdb.comClid k hstatus
  · obtain ⟨l, hl⟩ := hdb.cadeias clid
    by_cases hclid : db.clidDe alvo = some clid
    · exact h.cadeia_da_fonte hclid hl
    · exact ⟨l, h.cadeia_de_outro hclid hl⟩
  · rw [h.registro] at hr'
    split at hr'
    case isTrue =>
      obtain rfl := Option.some.inj hr'
      refine ⟨source, alvo, hinput, houtput, ?_, ?_, ?_⟩
      · rw [h.status, if_neg hne, if_pos rfl]
      · rw [h.status, if_pos rfl]
        exact Option.some_ne_none _
      · rw [h.clidDe, h.clidDe, Biblioteca.clidDe_of_lookup hfonte,
          Biblioteca.clidDe_of_lookup hnovo, hfclid, hnclid]
    case isFalse =>
      obtain ⟨a, b, ha, hb, hsup, hstatus, hclid⟩ := hdb.revisoes id r' hr' hkind'
      exact ⟨a, b, ha, hb, (hsuperado a hsup).2, hmantido b hstatus, by rw [h.clidDe, h.clidDe, hclid]⟩
  · -- No earlier record revises the source, which was not superseded before.
    have hother : ∀ id r', db.transformations.lookup id = some r' →
        r'.transformationKind = .revision → r'.inputRefs ≠ [source.str] := by
      intro id r' hr' hkind' heq
      obtain ⟨a, b, ha, -, hsup, -⟩ := hdb.revisoes id r' hr' hkind'
      have hstr : a.str = source.str := List.singleton_injective (ha.symm.trans heq)
      exact (hsuperado a hsup).1 (uuid_injective hstr)
    rw [h.registro] at hr₁ hr₂
    split at hr₁
    case isTrue hid =>
      split at hr₂
      case isTrue hid' => rw [hid, hid']
      case isFalse =>
        obtain rfl := Option.some.inj hr₁
        exact absurd (hsame.symm.trans hinput) (hother id' r₂ hr₂ hkind₂)
    case isFalse =>
      split at hr₂
      case isTrue =>
        obtain rfl := Option.some.inj hr₂
        exact absurd (hsame.trans hinput) (hother id r₁ hr₁ hkind₁)
      case isFalse => exact hdb.umaRevisao id id' r₁ r₂ hr₁ hr₂ hkind₁ hkind₂ hsame

end Promovida

end PiaOs.Cognitive
