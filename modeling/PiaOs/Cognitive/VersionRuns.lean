import PiaOs.Cognitive.VersionLaws

/-!
# Runs of the library

Whatever commands, commits and rollbacks come before, the graphs of the library have no cycles
and the revisions of a CLID are one chain.
-/

namespace PiaOs.Cognitive

open Support Piap Transactions

/-! ## Runs -/

/-- What a session asks of the library. -/
inductive Comando
  | criar (coid : Referencia)
  | derivar (ids : IdsDeVersao) (source : Referencia) (pedido : PedidoDeVersao)
  | revisar (ids : IdsDeVersao) (source : Referencia) (pedido : PedidoDeVersao)
  | derivarVarias (ids : Ids) (pedido : Pedido)
  | registrar (historyId eventId subjectCoid : Referencia) (eventType : CausalEventType)
    (actorRef : Option Referencia) (payloadRef : Option String) (predecessor : Option Referencia)
    (occurredAt : Option Momento)
  | corrigir (historyId eventId previousId : Referencia) (previous : CausalHistoryEvent)
    (eventType : CausalEventType) (actorRef : Option Referencia) (payloadRef : Option String)
    (occurredAt : Option Momento)
  | transitar (coid : Referencia) (targetState : AccessibilityState) (reason : Option String)

/-- The session after a command, however it ended. -/
def Comando.executar (m : Motor) (s : Session Biblioteca) : Comando → Session Biblioteca
  | .criar coid => (addObject coid {} s).2
  | .derivar ids source pedido => (VersionManager.derive m ids source pedido s).2
  | .revisar ids source pedido => (VersionManager.revise m ids source pedido s).2
  | .derivarVarias ids pedido => (deriveMany m ids pedido s).2
  | .registrar historyId eventId subjectCoid eventType actorRef payloadRef predecessor occurredAt =>
    (CausalHistoryManager.record m historyId eventId subjectCoid eventType actorRef payloadRef
      predecessor occurredAt s).2
  | .corrigir historyId eventId previousId previous eventType actorRef payloadRef occurredAt =>
    (CausalHistoryManager.correct m historyId eventId previousId previous eventType actorRef
      payloadRef occurredAt s).2
  | .transitar coid targetState reason => (AccessibilityManager.transition coid targetState reason s).2

/-- One step of a run: a command, whose error the caller may survive, a commit or a rollback. -/
inductive Passo (m : Motor) : Session Biblioteca → Session Biblioteca → Prop
  | comando (s : Session Biblioteca) (c : Comando) : Passo m s (c.executar m s)
  | commit (s : Session Biblioteca) : Passo m s ⟨s.current, s.current⟩
  | rollback (s : Session Biblioteca) : Passo m s s.rollback

/-- A library without objects, with the actors that it knows. -/
def Biblioteca.vazia (atores : List Referencia) : Biblioteca := { provenance := atores }

/-! ## Derivations from several sources -/

theorem Acrescentadas.ineditos {ρ : Type} {t t' : Table Referencia ρ} {ids : List Referencia}
    {rows : List ρ} (h : Acrescentadas t t' ids rows) {k : Referencia} (hk : k ∈ ids) :
    t.lookup k = none := by
  refine h.novas.ineditas k ?_
  rwa [List.map_fst_zip h.comprimento.le]

theorem mem_predecessoresDosEventos {predecessores : List Referencia} {p : Referencia}
    (h : some p ∈ predecessoresDosEventos predecessores) : p ∈ predecessores := by
  cases predecessores with
  | nil => simp [predecessoresDosEventos] at h
  | cons eventId predecessores =>
    obtain ⟨eventId', hmem, heq⟩ := List.mem_map.mp h
    obtain rfl := Option.some.inj heq
    exact hmem

theorem Derivada.neutra {m : Motor} {ids : Ids} {pedido : Pedido} {v : PedidoValidado}
    {db db' : Biblioteca} {c : CamposDoRecibo} (hdb : db.Integra) (haceita : Aceita db pedido v)
    (h : Derivada m ids v db c db') : Neutra db db' := by
  have halvo := h.historiaDoAlvo hdb
  have hnovo : db'.objects.lookup ids.alvo ≠ none := by
    rw [h.objetos, if_pos rfl]
    exact Option.some_ne_none _
  have hantiga {ρ : Type} {t t' : Table Referencia ρ} {ids : List Referencia} {rows : List ρ}
      (hrows : Acrescentadas t t' ids rows) {k : Referencia} {r : ρ} (hk : t.lookup k = some r) :
      t'.lookup k = some r := by
    rw [hrows.antigo, hk]
    rw [hk]
    exact Option.some_ne_none r
  refine {
    objetos := fun k row hrow => ⟨row, ?_, rfl, rfl, fun _ h => h⟩
    novos := fun k row hrow hnone => ?_
    arestas := fun id edge hedge => hantiga h.arestas hedge
    arestasNovas := fun id edge hedge => ?_
    transformacoes := fun id r hr => hantiga h.registro hr
    transformacoesNovas := fun id r hr => ?_
    historias := fun id history hhistory => hantiga halvo.historia hhistory
    historiasNovas := fun id history hhistory => ?_
    eventos := fun id evento hevento => hantiga halvo.eventos hevento
    eventosNovos := fun id evento hevento => ?_
    proveniencia := h.proveniencia }
  · rw [h.objetos, if_neg (ne_of_lookup h.inedito hrow), hrow]
  · rw [h.objetos, hnone] at hrow
    split at hrow
    · obtain rfl := Option.some.inj hrow
      rfl
    · cases hrow
  · rcases h.arestas.novo_ou_antigo hedge with hnew | ⟨-, hold⟩
    · obtain ⟨coid, hcoid, rfl⟩ := List.mem_map.mp (List.of_mem_zip hnew).2
      exact .inr ⟨haceita.fontes coid hcoid, h.inedito, hnovo⟩
    · exact .inl hold
  · rcases h.registro.novo_ou_antigo hr with hnew | ⟨-, hold⟩
    · obtain rfl := List.mem_singleton.mp (List.of_mem_zip hnew).2
      rw [registroDe]
      exact .inr TransformationKind.noConfusion
    · exact .inl hold
  · rcases halvo.historia.novo_ou_antigo hhistory with hnew | ⟨-, hold⟩
    · obtain rfl := List.mem_singleton.mp (List.of_mem_zip hnew).2
      exact .inr hnovo
    · exact .inl hold
  · rcases halvo.eventos.novo_ou_antigo hevento with hnew | ⟨-, hold⟩
    · have hid := (List.of_mem_zip hnew).1
      obtain ⟨predecessor, hpredecessor, rfl⟩ := List.mem_map.mp (List.of_mem_zip hnew).2
      refine .inr ⟨halvo.eventos.ineditos hid, ?_, fun p hp => ?_⟩
      · rw [eventoDe, halvo.historia.novo List.mem_cons_self]
        exact Option.some_ne_none _
      · obtain rfl : predecessor = some p := hp
        exact verificarPredecessor_ok (haceita.predecessores p (mem_predecessoresDosEventos hpredecessor))
    · exact .inl hold

theorem segue_derivarVarias {m : Motor} {s : Session Biblioteca} (hdb : s.current.Integra)
    (ids : Ids) (pedido : Pedido) : Segue s (deriveMany m ids pedido s).2 := by
  refine Op.Ends.session (ends_deriveMany.mono (fun r s' h => ?_) fun _ s' h => ?_)
  · obtain ⟨hbase, v, haceita, hderivada⟩ := h
    exact .neutra hbase (hderivada.neutra hdb haceita)
  · rcases h with ⟨-, rfl⟩ | ⟨-, hundone⟩
    · exact .refl
    · exact (Inacabada.de_rollback rfl hundone).segue

/-! ## Every run -/

theorem segue_executar {m : Motor} {s : Session Biblioteca} (hdb : s.current.Integra) (c : Comando) :
    Segue s (c.executar m s) := by
  cases c with
  | criar coid => exact segue_criar coid
  | derivar ids source pedido => exact segue_derivar
  | revisar ids source pedido => exact segue_revisar
  | derivarVarias ids pedido => exact segue_derivarVarias hdb ids pedido
  | registrar historyId eventId subjectCoid eventType actorRef payloadRef predecessor occurredAt =>
    exact segue_registrar historyId eventId subjectCoid eventType actorRef payloadRef predecessor
      occurredAt
  | corrigir historyId eventId previousId previous eventType actorRef payloadRef occurredAt =>
    exact segue_corrigir historyId eventId previousId previous eventType actorRef payloadRef
      occurredAt
  | transitar coid targetState reason => exact segue_transitar coid targetState reason

theorem Biblioteca.coerente_vazia (atores : List Referencia) : (vazia atores).Coerente where
  integra := ⟨fun _ _ h => (by cases h), fun _ _ h => (by cases h), fun _ _ h => (by cases h)⟩
  predecessores _ _ h := by cases h
  linhagem x h := by
    obtain ⟨y, ⟨id, edge, hedge, -⟩, -⟩ := Relation.TransGen.head'_iff.mp h
    cases hedge
  causal x h := by
    obtain ⟨y, ⟨evento, hevento, -⟩, -⟩ := Relation.TransGen.head'_iff.mp h
    cases hevento
  comClid k h := absurd rfl h
  cadeias clid := ⟨[], fun k => ⟨fun h => (by cases h), fun h => absurd rfl h.2⟩, List.nodup_nil,
    List.isChain_nil, fun antes ultimo h => (by simp at h), fun h => absurd rfl h⟩
  revisoes _ _ h := by cases h
  umaRevisao _ _ _ _ h := by cases h

section Runs

variable {m : Motor} {s s' : Session Biblioteca}

/-- What a session has between two steps of a run. -/
structure Sessao (s : Session Biblioteca) : Prop where
  base : s.base.Coerente
  current : s.current.Coerente

theorem Passo.sessao (h : Passo m s s') (hs : Sessao s) : Sessao s' := by
  cases h with
  | comando c =>
    have hsegue := segue_executar (m := m) hs.current.integra c
    constructor
    · rw [hsegue.base]
      exact hs.base
    · rcases hsegue.estado with hundone | hchange
      · rw [hundone]
        exact hs.base
      · exact hchange.coerente hs.current
  | commit => exact ⟨hs.current, hs.current⟩
  | rollback => exact ⟨hs.base, hs.base⟩

theorem sessao_of_run (hrun : Relation.ReflTransGen (Passo m) s s') (hs : Sessao s) :
    Sessao s' := by
  induction hrun with
  | refl => exact hs
  | tail _ hstep ih => exact hstep.sessao ih

/-- What the library has before a commit, or after it. -/
theorem coerente_of_run {atores : List Referencia} {db : Biblioteca}
    (hrun : Relation.ReflTransGen (Passo m)
      ⟨Biblioteca.vazia atores, Biblioteca.vazia atores⟩ s)
    (hdb : db = s.base ∨ db = s.current) : db.Coerente := by
  have hvazia := Biblioteca.coerente_vazia atores
  have hsessao := sessao_of_run hrun ⟨hvazia, hvazia⟩
  rcases hdb with rfl | rfl
  · exact hsessao.base
  · exact hsessao.current

end Runs

/-! ## One run -/

/-- A driver that stores every value. -/
def motorPleno : Motor := ⟨fun _ => none, fun _ => true⟩

/-- The first object is revised, and the revision is committed with it. -/
def revisao : List Comando :=
  [.criar 1, .revisar ⟨2, 7, 3, 4⟩ 1 { operationType := [.char 'r'] }]

def revisadas : Session Biblioteca :=
  let s := revisao.foldl (Comando.executar motorPleno) ⟨.vazia [], .vazia []⟩
  ⟨s.current, s.current⟩

theorem run_foldl (m : Motor) (cs : List Comando) (s : Session Biblioteca) :
    Relation.ReflTransGen (Passo m) s (cs.foldl (Comando.executar m) s) := by
  induction cs generalizing s with
  | nil => exact .refl
  | cons c cs ih => exact .head (.comando s c) (ih (c.executar m s))

theorem run_revisadas : Relation.ReflTransGen (Passo motorPleno)
    ⟨Biblioteca.vazia [], Biblioteca.vazia []⟩ revisadas :=
  (run_foldl motorPleno revisao _).tail (.commit _)

/-! ## Graphs without cycles -/

/-- The references of the library name rows that are there, and neither the lineage of the objects
nor the order of the events leads back. -/
structure Biblioteca.SemCiclos (db : Biblioteca) : Prop where
  integra : db.Integra
  predecessores : ∀ id evento, db.events.lookup id = some evento →
    ∀ p, evento.predecessorEventId = some p → db.events.lookup p ≠ none
  linhagem : ∀ x, ¬Relation.TransGen db.Pai x x
  causal : ∀ x, ¬Relation.TransGen db.Precede x x

/-- No order of commands, commits and rollbacks closes a cycle, for all that neither the lineage
nor the causal history is looked through for one. -/
theorem library_acyclic (m : Motor) (atores : List Referencia) (s : Session Biblioteca)
    (hrun : Relation.ReflTransGen (Passo m)
      ⟨Biblioteca.vazia atores, Biblioteca.vazia atores⟩ s)
    (db : Biblioteca) (hdb : db = s.base ∨ db = s.current) : db.SemCiclos := by
  have hcoerente := coerente_of_run hrun hdb
  exact ⟨hcoerente.integra, hcoerente.predecessores, hcoerente.linhagem, hcoerente.causal⟩

theorem library_acyclic_revisadas :
    revisadas.base.edges.lookup 3 = some ⟨1, 2, .transformedFrom⟩ ∧ revisadas.base.SemCiclos :=
  ⟨by decide +kernel,
    library_acyclic motorPleno [] revisadas run_revisadas revisadas.base (.inl rfl)⟩

/-! ## Revisions in one chain -/

namespace Biblioteca

variable {db : Biblioteca} {a b : Referencia}

/-- The recorded revisions lead from any object under revision to the current one of its CLID. -/
theorem Coerente.ateCurrent (h : db.Coerente) (ha : db.status a ≠ none) :
    ∃ b, db.status b = some .current ∧ db.clidDe b = db.clidDe a ∧
      Relation.ReflTransGen db.Sucede a b := by
  obtain ⟨clid, hclid⟩ := Option.ne_none_iff_exists'.mp (h.comClid a ha)
  obtain ⟨l, hl⟩ := h.cadeias clid
  have hmem : a ∈ l := (hl.membros a).mpr ⟨hclid, ha⟩
  obtain ⟨antes, ultimo, rfl⟩ := exists_ultimo (List.ne_nil_of_mem hmem)
  have hlast := (hl.membros ultimo).mp (by simp)
  have hpath : ∀ k ∈ antes, Relation.ReflTransGen db.Sucede k ultimo :=
    hl.elos.backwards_concat_induction _ antes (fun _ _ hxy hyz => .head hxy hyz) .refl
  refine ⟨ultimo, (hl.estados antes ultimo rfl).1, by rw [hlast.1, hclid], ?_⟩
  rcases List.mem_append.mp hmem with hin | hin
  · exact hpath a hin
  · rw [List.mem_singleton.mp hin]

/-- An object is revised once. -/
theorem Coerente.umSucessor (h : db.Coerente) {b' : Referencia} (hb : db.Sucede a b)
    (hb' : db.Sucede a b') : b = b' := by
  obtain ⟨-, id, r, hr, hkind, hinput, houtput⟩ := hb
  obtain ⟨-, id', r', hr', hkind', hinput', houtput'⟩ := hb'
  obtain rfl := h.umaRevisao id id' r r' hr hr' hkind hkind' (hinput.trans hinput'.symm)
  obtain rfl := Option.some.inj (hr.symm.trans hr')
  exact uuid_injective (List.singleton_injective (houtput.symm.trans houtput'))

/-- A revision is one of the same CLID, and what it revises is superseded. -/
theorem Coerente.mesmoClid (h : db.Coerente) (hb : db.Sucede a b) :
    db.status a = some .superseded ∧ db.status b ≠ none ∧ db.clidDe b = db.clidDe a := by
  obtain ⟨-, id, r, hr, hkind, hinput, houtput⟩ := hb
  obtain ⟨x, y, hx, hy, hsup, hstatus, hclid⟩ := h.revisoes id r hr hkind
  obtain rfl : a = x := uuid_injective (List.singleton_injective (hinput.symm.trans hx))
  obtain rfl : b = y := uuid_injective (List.singleton_injective (houtput.symm.trans hy))
  exact ⟨hsup, hstatus, hclid.symm⟩

/-- The controlled revisions of each CLID: at most one is current, each other one has one
successor, and the successors lead to the current one. -/
structure Encadeada (db : Biblioteca) : Prop where
  cadeias : ∀ clid, ∃ l, db.Cadeia clid l
  umCurrent : ∀ a b, db.clidDe a = db.clidDe b → db.status a = some .current →
    db.status b = some .current → a = b
  umSucessor : ∀ a b b', db.Sucede a b → db.Sucede a b' → b = b'
  mesmoClid : ∀ a b, db.Sucede a b →
    db.status a = some .superseded ∧ db.status b ≠ none ∧ db.clidDe b = db.clidDe a
  ateCurrent : ∀ a, db.status a ≠ none → ∃ b, db.status b = some .current ∧
    db.clidDe b = db.clidDe a ∧ Relation.ReflTransGen db.Sucede a b

end Biblioteca

/-- Whatever derivations, revisions and rollbacks come before, the revisions of a CLID are one
chain that ends in its only current object. -/
theorem revisions_form_chains (m : Motor) (atores : List Referencia) (s : Session Biblioteca)
    (hrun : Relation.ReflTransGen (Passo m)
      ⟨Biblioteca.vazia atores, Biblioteca.vazia atores⟩ s)
    (db : Biblioteca) (hdb : db = s.base ∨ db = s.current) : db.Encadeada := by
  have hcoerente := coerente_of_run hrun hdb
  exact ⟨hcoerente.cadeias, fun _ _ => hcoerente.umCurrent, fun _ _ _ => hcoerente.umSucessor,
    fun _ _ => hcoerente.mesmoClid, fun _ => hcoerente.ateCurrent⟩

theorem revisions_form_chains_revisadas :
    revisadas.base.status 1 = some .superseded ∧ revisadas.base.status 2 = some .current ∧
      revisadas.base.Encadeada :=
  ⟨by decide +kernel, by decide +kernel,
    revisions_form_chains motorPleno [] revisadas run_revisadas revisadas.base (.inl rfl)⟩

end PiaOs.Cognitive
