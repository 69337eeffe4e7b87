import PiaOs.Cognitive.Versions
import PiaOs.Memory.Accessibility

/-!
# What each operation on versions leaves

Each operation changes the library in one of two ways, or goes back, and a revision is accepted
exactly when its source may be superseded.
-/

namespace PiaOs.Cognitive

open Support Piap Transactions

/-! ## What each command makes of the library -/

/-- The revision of a source takes a new object first, and makes it the current one then. -/
inductive Mudanca (db db' : Biblioteca) : Prop
  | neutra (h : Neutra db db')
  | revisada (meio : Biblioteca) (source alvo registroId : Referencia) (r : TransformationRecord)
      (h : Neutra db meio) (inedito : db.objects.lookup alvo = none)
      (promovida : Promovida source alvo registroId r meio db')

theorem Mudanca.coerente {db db' : Biblioteca} (h : Mudanca db db') (hdb : db.Coerente) :
    db'.Coerente := by
  cases h with
  | neutra h => exact h.coerente hdb
  | revisada meio source alvo registroId r h _ promovida => exact promovida.coerente (h.coerente hdb)

/-- Nothing is committed, and the session went back or has one change. -/
structure Segue (s s' : Session Biblioteca) : Prop where
  base : s'.base = s.base
  estado : s'.current = s.base ∨ Mudanca s.current s'.current

/-- The session after an error: gone back, or with a part of the work that revises nothing. -/
structure Inacabada (s s' : Session Biblioteca) : Prop where
  base : s'.base = s.base
  estado : s'.current = s.base ∨ Neutra s.current s'.current

theorem Inacabada.refl {s : Session Biblioteca} : Inacabada s s := ⟨rfl, .inr .refl⟩

theorem Inacabada.de_rollback {s s₁ s' : Session Biblioteca} (hbase : s₁.base = s.base)
    (h : s' = s₁.rollback) : Inacabada s s' := by
  subst h
  exact ⟨hbase, .inl hbase⟩

theorem Inacabada.segue {s s' : Session Biblioteca} (h : Inacabada s s') : Segue s s' :=
  ⟨h.base, h.estado.imp_right .neutra⟩

theorem Segue.desfeita {s s' : Session Biblioteca} {e : Erro} (h : Desfeita s e s') : Segue s s' :=
  (Inacabada.de_rollback rfl h).segue

theorem Segue.neutra {s s' : Session Biblioteca} (hbase : s'.base = s.base)
    (h : Neutra s.current s'.current) : Segue s s' :=
  ⟨hbase, .inr (.neutra h)⟩

theorem Segue.refl {s : Session Biblioteca} : Segue s s := .neutra rfl .refl

section Objetos

variable {db db' : Biblioteca} {coid : Referencia} {row : CognitiveObject}

/-- Only objects are written, and nothing of their revision. -/
theorem Neutra.de_objetos (hresto : db' = { db with objects := db'.objects })
    (hobjetos : ∀ k row, db.objects.lookup k = some row → ∃ row',
      db'.objects.lookup k = some row' ∧ row'.revisionStatus = row.revisionStatus ∧
      row'.deletedAt = row.deletedAt ∧ ∀ clid, row.clid = some clid → row'.clid = some clid)
    (hnovos : ∀ k row, db'.objects.lookup k = some row → db.objects.lookup k = none →
      row.revisionStatus = none) : Neutra db db' := by
  rw [hresto]
  exact { (Neutra.refl : Neutra db db) with
    objetos := hobjetos
    novos := hnovos
    arestasNovas := fun _ _ => .inl
    historiasNovas := fun _ _ => .inl }

/-- A written object keeps its status, and its CLID once it has one. -/
theorem Gravado.neutra {antes : CognitiveObject} (h : Gravado coid row db db')
    (hantes : db.objects.lookup coid = some antes)
    (hstatus : row.revisionStatus = antes.revisionStatus) (hdeleted : row.deletedAt = antes.deletedAt)
    (hclid : ∀ clid, antes.clid = some clid → row.clid = some clid) : Neutra db db' := by
  refine Neutra.de_objetos h.resto (fun k found hfound => ?_) fun k found hfound hnone => ?_
  · rw [h.objects]
    split
    case isTrue hk =>
      rw [hk, hantes] at hfound
      obtain rfl := Option.some.inj hfound
      exact ⟨row, rfl, hstatus, hdeleted, hclid⟩
    case isFalse => exact ⟨found, hfound, rfl, rfl, fun _ => id⟩
  · rw [h.objects, if_neg (ne_of_lookup hnone hantes).symm, hnone] at hfound
    cases hfound

end Objetos

section Referencias

variable {db db' : Biblioteca} {id : Referencia}

theorem insertHistory_sujeito {row : CausalHistory} (h : db.insertHistory id row = .ok db') :
    db.objects.lookup row.subjectCoid ≠ none := by
  unfold Biblioteca.insertHistory at h
  split at h
  · cases h
  · split at h
    · cases h
    case isFalse hsubject => exact hsubject

theorem insertEvent_referencias {row : CausalHistoryEvent} (h : db.insertEvent id row = .ok db') :
    db.histories.lookup row.historyId ≠ none ∧
      ∀ p, row.predecessorEventId = some p → db.events.lookup p ≠ none := by
  unfold Biblioteca.insertEvent at h
  split at h
  · cases h
  · split at h
    · cases h
    · split at h
      · cases h
      case isFalse hforeign =>
        obtain ⟨hhistory, hrest⟩ := not_or.mp hforeign
        obtain ⟨-, hpredecessor⟩ := not_or.mp hrest
        refine ⟨hhistory, fun p hp hnone => hpredecessor ?_⟩
        rw [hp, Option.any_some, hnone]
        rfl

theorem updateObject_of_livre {row : CognitiveObject} (hfree : ¬db.outraCurrent id row) :
    ∃ db', db.updateObject id row = .ok db' := by
  unfold Biblioteca.updateObject
  split
  · exact ⟨db, rfl⟩
  · exact ⟨_, rfl⟩

/-- The index takes a row that changes only when no other one is current. -/
theorem updateObject_livre {row : CognitiveObject} (h : db.updateObject id row = .ok db')
    (hchange : db.objects.lookup id ≠ some row) : ¬db.outraCurrent id row := by
  unfold Biblioteca.updateObject at h
  rw [if_neg hchange] at h
  split at h
  · cases h
  case isFalse hfree => exact hfree

end Referencias

section Comandos

variable {m : Motor} {s : Session Biblioteca}

theorem segue_criar (coid : Referencia) : Segue s (addObject coid {} s).2 := by
  refine Op.Ends.session (ends_addObject.mono (fun _ s' h => ?_) fun _ _ h => .desfeita h)
  obtain ⟨hbase, hnone, hdb⟩ := h
  refine .neutra hbase (Neutra.de_objetos (by rw [hdb]) (fun k row hrow => ⟨row, ?_, rfl, rfl,
    fun _ => id⟩) fun k row hrow hk => ?_)
  · rw [hdb]
    exact lookup_insert_antiga hnone hrow
  · have hlookup : s'.current.objects.lookup k = if k = coid then some {} else none := by
      rw [hdb, ← hk]
      exact Table.lookup_insert_ite _ _ _ _
    rw [hlookup] at hrow
    split at hrow
    · obtain rfl := Option.some.inj hrow
      rfl
    · cases hrow

theorem segue_transitar (coid : Referencia) (targetState : AccessibilityState)
    (reason : Option String) :
    Segue s (AccessibilityManager.transition coid targetState reason s).2 := by
  refine Op.Ends.session ?_
  unfold AccessibilityManager.transition
  refine Op.Ends.bind (ends_entidade (Q := fun row s' =>
    s.current.objects.lookup coid = some row ∧ s' = s) (fun _ hrow => ⟨hrow, rfl⟩) .refl) ?_
  rintro row s' ⟨hrow, rfl⟩
  split
  · exact Op.Ends.ret .refl
  · split
    · exact Op.Ends.raise .refl
    · refine Op.Ends.send (fun t ht => ?_) fun _ _ => ⟨rfl, .inl rfl⟩
      have hwritten := updateObject_ok (mapError_eq_ok.mp ht)
      exact .neutra rfl (hwritten.neutra hrow rfl rfl fun _ => id)

/-- A history that is ready is one of the table, or a new one of an object that is there. -/
theorem ends_ensureHistory_sujeito (historyId subjectCoid : Referencia) :
    Op.Ends (fun id s' => s'.base = s.base ∧ s'.current.histories.lookup id ≠ none ∧
        s'.current = { s.current with histories := s'.current.histories } ∧
        (∀ k history, s.current.histories.lookup k = some history →
          s'.current.histories.lookup k = some history) ∧
        ∀ k history, s'.current.histories.lookup k = some history →
          s.current.histories.lookup k = some history ∨
            s.current.objects.lookup history.subjectCoid ≠ none)
      (Desfeita s) (CausalHistoryManager.ensureHistory historyId subjectCoid) s := by
  unfold CausalHistoryManager.ensureHistory
  refine Op.Ends.bind (Op.Ends.read (Q := fun found s' =>
    found = s.current.historyOf subjectCoid ∧ s' = s) ⟨rfl, rfl⟩) ?_
  rintro found s' ⟨hfound, rfl⟩
  cases found with
  | some id =>
    obtain ⟨history, hhistory, -⟩ := historyOf_eq_some hfound.symm
    refine Op.Ends.ret ⟨rfl, ?_, rfl, fun _ _ h => h, fun _ _ => .inl⟩
    rw [hhistory]
    exact Option.some_ne_none history
  | none =>
    refine Op.Ends.bind (ends_send (fun db' => s'.current.insertHistory historyId ⟨subjectCoid⟩ =
      .ok db') fun _ hw => mapError_eq_ok.mp hw) ?_
    rintro - s'' ⟨hbase, hwrite⟩
    obtain ⟨hid, hdb⟩ := insertHistory_ok hwrite
    have hsubject := insertHistory_sujeito hwrite
    have hhistories : s''.current.histories =
        s'.current.histories.insert historyId ⟨subjectCoid⟩ := by rw [hdb]
    refine Op.Ends.ret ⟨hbase, ?_, by rw [hdb], fun k history hk => ?_, fun k history hk => ?_⟩
    · rw [hhistories, AList.lookup_insert]
      exact Option.some_ne_none _
    · rw [hhistories]
      exact lookup_insert_antiga hid hk
    · rw [hhistories] at hk
      rcases Table.insert_cases hk with ⟨-, rfl⟩ | ⟨-, hold⟩
      · exact .inr hsubject
      · exact .inl hold

/-- What a success of `record` adds: one event, and the history of its subject when there was
none. -/
theorem ends_registrar (historyId eventId subjectCoid : Referencia) (eventType : CausalEventType)
    (actorRef : Option Referencia) (payloadRef : Option String) (predecessor : Option Referencia)
    (occurredAt : Option Momento) :
    Op.Ends (fun _ s' => s'.base = s.base ∧ Neutra s.current s'.current) (Desfeita s)
      (CausalHistoryManager.record m historyId eventId subjectCoid eventType actorRef payloadRef
        predecessor occurredAt) s := by
  unfold CausalHistoryManager.record
  refine Op.Ends.bind (ends_ensureHistory_sujeito historyId subjectCoid) ?_
  rintro id s₁ ⟨hbase, hready, hdb, hkept, hnew⟩
  refine Op.Ends.bind (Op.Ends.read (Q := fun instante s' =>
    instante = CausalHistoryManager.instanteGravado m occurredAt ∧ s' = s₁) ⟨rfl, rfl⟩) ?_
  rintro instante s₂ ⟨-, rfl⟩
  generalize hevento : CausalHistoryEvent.mk id eventType actorRef payloadRef predecessor
    instante.toOption.join = evento
  refine Op.Ends.bind ((ends_send (fun db' => s₂.current.insertEvent eventId evento = .ok db')
    fun db' hw => ?_).mono (fun _ _ h => h) fun e s' h => h.of_base hbase) ?_
  · obtain ⟨_, -, hw⟩ := bind_eq_ok.mp (mapError_eq_ok.mp hw)
    exact hw
  · rintro - s₃ ⟨hbase', hwrite⟩
    obtain ⟨hid, hdb'⟩ := insertEvent_ok hwrite
    obtain ⟨hhistory, hpredecessor⟩ := insertEvent_referencias hwrite
    have hevents : s₂.current.events = s.current.events := by rw [hdb]
    rw [hevents] at hid hpredecessor
    have hcurrent : s₃.current = { s.current with
        histories := s₂.current.histories
        events := s.current.events.insert eventId evento } := by rw [hdb', hdb]
    refine Op.Ends.ret ⟨hbase'.trans hbase, ?_⟩
    rw [hcurrent]
    refine { (Neutra.refl : Neutra s.current s.current) with
      historias := hkept
      historiasNovas := hnew
      eventos := fun k outro houtro => lookup_insert_antiga hid houtro
      eventosNovos := fun k outro houtro => ?_ }
    rcases Table.insert_cases houtro with ⟨rfl, rfl⟩ | ⟨-, hold⟩
    · exact .inr ⟨hid, hhistory, hpredecessor⟩
    · exact .inl hold

theorem segue_registrar (historyId eventId subjectCoid : Referencia) (eventType : CausalEventType)
    (actorRef : Option Referencia) (payloadRef : Option String) (predecessor : Option Referencia)
    (occurredAt : Option Momento) :
    Segue s (CausalHistoryManager.record m historyId eventId subjectCoid eventType actorRef
      payloadRef predecessor occurredAt s).2 :=
  Op.Ends.session ((ends_registrar historyId eventId subjectCoid eventType actorRef payloadRef
    predecessor occurredAt).mono (fun _ _ h => .neutra h.1 h.2) fun _ _ h => .desfeita h)

theorem segue_corrigir (historyId eventId previousId : Referencia) (previous : CausalHistoryEvent)
    (eventType : CausalEventType) (actorRef : Option Referencia) (payloadRef : Option String)
    (occurredAt : Option Momento) :
    Segue s (CausalHistoryManager.correct m historyId eventId previousId previous eventType actorRef
      payloadRef occurredAt s).2 := by
  refine Op.Ends.session ?_
  unfold CausalHistoryManager.correct
  refine Op.Ends.bind (Op.Ends.read (Q := fun _ s' => s' = s) rfl) ?_
  rintro found s' rfl
  cases found with
  | none => exact Op.Ends.raise .refl
  | some history =>
    refine Op.Ends.mapError ((ends_registrar historyId eventId history.subjectCoid eventType actorRef
      payloadRef (some previousId) occurredAt).mono (fun _ _ h => .neutra h.1 h.2) fun _ _ h => ?_)
    exact .desfeita h

end Comandos

/-! ## Continuations -/

/-- An object was added that has the CLID of its source, which has one now. -/
structure Continuada (ids : IdsDeVersao) (source : Referencia) (relationType : LineageRelation)
    (pai : CognitiveObject) (db db' : Biblioteca) : Prop where
  fonte : db.objects.lookup source = some pai
  inedito : db.objects.lookup ids.alvo = none
  objetos : ∀ k, db'.objects.lookup k =
    if k = ids.alvo then some { clid := some (pai.clid.getD ids.clid) }
    else if k = source then some { pai with clid := some (pai.clid.getD ids.clid) }
    else db.objects.lookup k
  aresta : db.edges.lookup ids.aresta = none ∧ ¬db.ligada ⟨source, ids.alvo, relationType⟩
  resto : db' = { db with
    objects := db'.objects
    edges := db.edges.insert ids.aresta ⟨source, ids.alvo, relationType⟩ }

namespace Continuada

variable {ids : IdsDeVersao} {source : Referencia} {relationType : LineageRelation}
  {pai : CognitiveObject} {db db' : Biblioteca}

theorem distintos (h : Continuada ids source relationType pai db db') : source ≠ ids.alvo :=
  ne_of_lookup h.inedito h.fonte

theorem edges (h : Continuada ids source relationType pai db db') :
    db'.edges = db.edges.insert ids.aresta ⟨source, ids.alvo, relationType⟩ := by
  rw [h.resto]

theorem neutra (h : Continuada ids source relationType pai db db') : Neutra db db' := by
  rw [h.resto]
  refine { (Neutra.refl : Neutra db db) with
    objetos := fun k row hrow => ?_
    novos := fun k row hrow hnone => ?_
    arestas := fun id edge hedge => lookup_insert_antiga h.aresta.1 hedge
    arestasNovas := fun id edge hedge => ?_
    historiasNovas := fun _ _ => .inl }
  · rw [h.objetos, if_neg (ne_of_lookup h.inedito hrow)]
    split
    case isTrue hk =>
      rw [hk, h.fonte] at hrow
      obtain rfl := Option.some.inj hrow
      refine ⟨_, rfl, rfl, rfl, fun clid hclid => ?_⟩
      dsimp only
      rw [hclid, Option.getD_some]
    case isFalse => exact ⟨row, hrow, rfl, rfl, fun _ h => h⟩
  · rw [h.objetos, if_neg (ne_of_lookup hnone h.fonte).symm, hnone] at hrow
    split at hrow
    · obtain rfl := Option.some.inj hrow
      rfl
    · cases hrow
  · rcases Table.insert_cases hedge with ⟨-, rfl⟩ | ⟨-, hold⟩
    · refine .inr ⟨?_, h.inedito, ?_⟩
      · rw [h.fonte]
        exact Option.some_ne_none pai
      · rw [h.objetos, if_pos rfl]
        exact Option.some_ne_none _
    · exact .inl hold

end Continuada

section Continuar

variable {m : Motor} {ids : IdsDeVersao} {source : Referencia} {relationType : LineageRelation}
  {pedido : PedidoDeVersao} {s : Session Biblioteca}

/-- What is left of an inheritance that fails after the new object was added. -/
theorem Interrompida.inacabada {novo parent : Referencia} {s₁ s' : Session Biblioteca}
    (hbase : s₁.base = s.base) (hnone : s.current.objects.lookup ids.alvo = none)
    (hdb : s₁.current = { s.current with objects := s.current.objects.insert ids.alvo {} })
    (h : Interrompida novo parent s₁ s') : Inacabada s s' := by
  refine ⟨h.base.trans hbase, ?_⟩
  rcases h.estado with hundone | ⟨hresto, hobjects⟩
  · exact .inl (hundone.trans hbase)
  have hlookup : ∀ k, s₁.current.objects.lookup k =
      if k = ids.alvo then some {} else s.current.objects.lookup k := by
    intro k
    rw [hdb]
    exact Table.lookup_insert_ite _ _ _ _
  refine .inr (Neutra.de_objetos ?_ (fun k row hrow => ?_) fun k row hrow hk => ?_)
  · rw [hresto, hdb]
  · have hrow₁ : s₁.current.objects.lookup k = some row := by
      rw [hlookup, if_neg (ne_of_lookup hnone hrow), hrow]
    rcases hobjects k with hsame | ⟨rfl, pai, hpai, hclid, hnew⟩
    · exact ⟨row, hsame.trans hrow₁, rfl, rfl, fun _ h => h⟩
    · obtain rfl := Option.some.inj (hrow₁.symm.trans hpai)
      refine ⟨_, hnew, rfl, rfl, fun clid hsome => ?_⟩
      rw [hclid] at hsome
      cases hsome
  · have hrow₁ : ∀ row₁, s₁.current.objects.lookup k = some row₁ → row₁ = {} := by
      intro row₁ h₁
      rw [hlookup, hk] at h₁
      split at h₁
      · exact (Option.some.inj h₁).symm
      · cases h₁
    rcases hobjects k with hsame | ⟨rfl, pai, hpai, -, hnew⟩
    · obtain rfl := hrow₁ row (hsame.symm.trans hrow)
      rfl
    · obtain rfl := hrow₁ pai hpai
      obtain rfl := Option.some.inj (hnew.symm.trans hrow)
      rfl

theorem ends_continuar :
    Op.Ends (fun edge s' => s'.base = s.base ∧ edge = ⟨source, ids.alvo, relationType⟩ ∧
        ∃ pai, Continuada ids source relationType pai s.current s'.current)
      (fun _ s' => Inacabada s s') (VersionManager.continuar ids source relationType) s := by
  unfold VersionManager.continuar
  refine Op.Ends.bind (Op.Ends.mapError (ends_addObject.mono (fun _ _ h => h)
    fun _ _ h => .de_rollback rfl h)) ?_
  rintro - s₁ ⟨hbase, hnone, hdb⟩
  refine Op.Ends.mapError (ends_inherit.mono ?_ fun _ s' h => h.inacabada hbase hnone hdb)
  rintro edge s' ⟨rfl, hbase', h⟩
  have hother : source ≠ ids.alvo := h.distintos
  have hlookup : ∀ k, s₁.current.objects.lookup k =
      if k = ids.alvo then some {} else s.current.objects.lookup k := by
    intro k
    rw [hdb]
    exact Table.lookup_insert_ite _ _ _ _
  obtain ⟨pai, filho, hpai, hfilho, -, hparent, hchild⟩ := h.continuidade
  rw [hlookup, if_neg hother] at hpai
  rw [hlookup, if_pos rfl] at hfilho
  obtain rfl := Option.some.inj hfilho
  refine ⟨hbase'.trans hbase, rfl, pai, hpai, hnone, fun k => ?_, ?_, ?_⟩
  · split
    case isTrue hk => rw [hk, hchild]
    case isFalse hk =>
      split
      case isTrue hk' => rw [hk', hparent]
      case isFalse hk' => rw [h.outros k hk' hk, hlookup, if_neg hk]
  · have hedges : s₁.current.edges = s.current.edges := by rw [hdb]
    have hfree := h.inedita
    unfold Biblioteca.ligada at hfree ⊢
    rwa [hedges] at hfree
  · rw [h.resto, hdb]

/-- A transformation that is no revision is recorded after the rest. -/
theorem Neutra.comRegistro {db meio db' : Biblioteca} {id : Referencia} {r : TransformationRecord}
    (h : Neutra db meio) (hid : meio.transformations.lookup id = none)
    (hkind : r.transformationKind ≠ .revision)
    (hdb : db' = { meio with transformations := meio.transformations.insert id r }) :
    Neutra db db' := by
  subst hdb
  refine { h with
    transformacoes := fun k r' hr' => lookup_insert_antiga hid (h.transformacoes k r' hr')
    transformacoesNovas := fun k r' hr' => ?_ }
  rcases Table.insert_cases hr' with ⟨-, rfl⟩ | ⟨-, hold⟩
  · exact .inr hkind
  · exact h.transformacoesNovas k r' hold

theorem segue_derivar : Segue s (VersionManager.derive m ids source pedido s).2 := by
  refine Op.Ends.session ?_
  unfold VersionManager.derive
  split
  · exact Op.Ends.raise .refl
  · refine Op.Ends.bind (ends_continuar.mono (fun _ _ h => h) fun _ _ h => h.segue) ?_
    rintro edge s₁ ⟨hbase, -, pai, hcontinuada⟩
    refine Op.Ends.bind (Op.Ends.mapError (ends_addTransformation.mono (fun _ _ h => h)
      fun _ _ h => .desfeita (h.of_base hbase))) ?_
    rintro - s₂ ⟨hbase', hid, hdb⟩
    exact Op.Ends.ret (.neutra (hbase'.trans hbase)
      (hcontinuada.neutra.comRegistro hid TransformationKind.noConfusion hdb))

/-! ## Revisions -/

/-- What `revise` asks of the library. -/
structure Revisavel (m : Motor) (ids : IdsDeVersao) (source : Referencia) (pedido : PedidoDeVersao)
    (db : Biblioteca) : Prop where
  operacao : pedido.operationType ≠ []
  /-- The source is under no revision yet, or it is the only current object of its CLID. -/
  fonte : ∃ fonte, db.objects.lookup source = some fonte ∧
    fonte.revisionStatus ≠ some .superseded ∧
    ∀ k, db.clidDe k = some (fonte.clid.getD ids.clid) → db.status k = some .current → k = source
  alvo : db.objects.lookup ids.alvo = none
  aresta : db.edges.lookup ids.aresta = none ∧
    ¬db.ligada ⟨source, ids.alvo, pedido.relationType⟩
  registro : db.transformations.lookup ids.registro = none
  gravavel : m.grava (VersionManager.registroDe .revision ids source pedido) = true

theorem comRevisao_superseded (coid : Referencia) (row : CognitiveObject) :
    row.comRevisao coid .superseded = .ok { row with revisionStatus := some .superseded } := by
  unfold CognitiveObject.comRevisao
  split
  · rfl
  case h_2 atual _ =>
    rw [if_pos]
    cases atual with
    | current => exact .inr ⟨rfl, rfl⟩
    | superseded => exact .inl rfl

theorem comRevisao_primeira {coid : Referencia} {row : CognitiveObject} {status : RevisionStatus}
    (hnone : row.revisionStatus = none) :
    row.comRevisao coid status = .ok { row with revisionStatus := some status } := by
  rw [CognitiveObject.comRevisao, hnone]

/-- An allowed status is written unless the index refuses it. -/
theorem ends_atribuirRevisao {recusada : Recusa → ErroDeVersao} {coid : Referencia}
    {status : RevisionStatus} {row novo : CognitiveObject}
    (hrow : s.current.objects.lookup coid = some row) (hnovo : row.comRevisao coid status = .ok novo) :
    Op.Ends (fun _ s' => s'.base = s.base ∧ Gravado coid novo s.current s'.current ∧
        (row ≠ novo → ¬s.current.outraCurrent coid novo))
      (fun _ s' => s' = s.rollback ∧ s.current.outraCurrent coid novo)
      (atribuirRevisao recusada coid status) s := by
  unfold atribuirRevisao
  refine Op.Ends.bind (Op.Ends.mapError (ends_entidade_of_lookup hrow)) ?_
  rintro found s' ⟨rfl, rfl⟩
  rw [hnovo]
  refine Op.Ends.lift_bind (fun row' hrow' => ?_) fun e he => by cases he
  obtain rfl := Except.ok.inj hrow'
  refine Op.Ends.send (fun t ht => ⟨rfl, ?_, fun hchange => ?_⟩) fun e he => ⟨rfl, ?_⟩
  · exact updateObject_ok (mapError_eq_ok.mp ht)
  · refine updateObject_livre (mapError_eq_ok.mp ht) fun hsame => hchange ?_
    exact Option.some.inj (hrow.symm.trans hsame)
  · by_contra hfree
    obtain ⟨db', hdb'⟩ := updateObject_of_livre hfree
    rw [hdb'] at he
    cases he

theorem ends_addTransformation_grava {id : Referencia} {row : TransformationRecord} :
    Op.Ends (fun _ s' => s'.base = s.base ∧ m.grava row = true ∧
        s.current.transformations.lookup id = none ∧
        s'.current = { s.current with transformations := s.current.transformations.insert id row })
      (fun e s' => Desfeita s e s' ∧
        ¬(m.grava row = true ∧ s.current.transformations.lookup id = none))
      (addTransformation m id row) s := by
  refine Op.Ends.send (fun t ht => ?_) fun e he => ⟨rfl, ?_⟩
  · split at ht
    case isTrue hgrava =>
      exact ⟨rfl, hgrava, insertTransformation_ok (mapError_eq_ok.mp ht)⟩
    case isFalse => cases ht
  · rintro ⟨hgrava, hnone⟩
    rw [if_pos hgrava, Biblioteca.insertTransformation, hnone] at he
    cases he

/-- The source gives way before the target takes its place, so that the index sees one current
object at most. -/
theorem ends_promover {db : Biblioteca} {pai : CognitiveObject}
    (h : Continuada ids source relationType pai db s.current)
    (hstatus : pai.revisionStatus ≠ some .superseded) :
    Op.Ends (fun _ s' => s'.base = s.base ∧
        m.grava (VersionManager.registroDe .revision ids source pedido) = true ∧
        Promovida source ids.alvo ids.registro
          (VersionManager.registroDe .revision ids source pedido) s.current s'.current)
      (fun _ s' => s' = s.rollback ∧ ¬Revisavel m ids source pedido db)
      (VersionManager.promover m ids source pedido) s := by
  have hfonte := h.fonte
  have h₀ := h
  generalize hclid : pai.clid.getD ids.clid = clid at h
  have hobjetos := h.objetos
  have hother := h.distintos
  rw [hclid] at hobjetos
  have hsource : s.current.objects.lookup source = some { pai with clid := some clid } := by
    rw [hobjetos, if_neg hother, if_pos rfl]
  have halvo : s.current.objects.lookup ids.alvo = some { clid := some clid } := by
    rw [hobjetos, if_pos rfl]
  unfold VersionManager.promover
  refine Op.Ends.bind ((ends_atribuirRevisao hsource (comRevisao_superseded _ _)).mono
    (fun _ _ h => h) fun _ s' h => ⟨h.1, fun _ => by cases h.2.1⟩) ?_
  rintro - s₁ ⟨hbase₁, hgravada, -⟩
  have halvo₁ : s₁.current.objects.lookup ids.alvo = some { clid := some clid } := by
    rw [hgravada.objects, if_neg hother.symm, halvo]
  refine Op.Ends.bind (Op.Ends.mapError (ends_entidade_of_lookup halvo₁)) ?_
  rintro alvo s₂ ⟨rfl, rfl⟩
  have hundone : ∀ s' : Session Biblioteca, s'.base = s.base → s'.rollback = s.rollback := by
    intro s' hbase
    unfold Session.rollback
    rw [hbase]
  refine Op.Ends.bind ((ends_atribuirRevisao halvo₁ (comRevisao_primeira rfl)).mono (fun _ _ h => h)
    fun _ s' h => ⟨h.1.trans (hundone s₂ hbase₁), fun hrevisavel => ?_⟩) ?_
  · -- The index sees another current object of the CLID, which the source is not any more.
    obtain ⟨-, ⟨-, -, k, row, hrow, hk, hrowStatus, hrowClid⟩⟩ := h
    obtain ⟨fonte, hfonte', -, hunica⟩ := hrevisavel.fonte
    obtain rfl := Option.some.inj (hfonte.symm.trans hfonte')
    rw [hclid] at hunica
    rw [hgravada.objects] at hrow
    split at hrow
    · obtain rfl := Option.some.inj hrow
      cases hrowStatus
    case isFalse hne =>
      rw [hobjetos, if_neg hk, if_neg hne] at hrow
      exact hne (hunica k ((Biblioteca.clidDe_of_lookup hrow).trans hrowClid)
        ((Biblioteca.status_of_lookup hrow).trans hrowStatus))
  rintro - s₃ ⟨hbase₃, hgravado, hfree⟩
  have hbase₃ := hbase₃.trans hbase₁
  have htransformations : s₃.current.transformations = s.current.transformations := by
    rw [hgravado.resto, hgravada.resto]
  refine Op.Ends.mapError (ends_addTransformation_grava.mono ?_ fun _ s' h =>
    ⟨h.1.trans (hundone s₃ hbase₃), fun hrevisavel => h.2 ⟨hrevisavel.gravavel, ?_⟩⟩)
  · rintro - s₄ ⟨hbase₄, hgrava, hid, hdb⟩
    have hobjects : s₄.current.objects = s₃.current.objects := by rw [hdb]
    refine ⟨hbase₄.trans hbase₃, hgrava, {
      tipo := ⟨rfl, rfl, rfl⟩
      aresta := ⟨ids.aresta, ⟨source, ids.alvo, relationType⟩, ?_, rfl, rfl⟩
      inedito := htransformations ▸ hid
      objetos := ⟨_, _, clid, hsource, halvo, rfl, rfl, hstatus, rfl, hother, fun k => ?_⟩
      unico := fun k hk hcurrent => ?_
      resto := ?_ }⟩
    · rw [h.edges]
      exact AList.lookup_insert _
    · rw [hobjects, hgravado.objects, hgravada.objects]
    · -- Any other current object would have kept its place in the index.
      by_contra hne
      have hkalvo : k ≠ ids.alvo := by
        rintro rfl
        rw [Biblioteca.status_of_lookup halvo] at hcurrent
        cases hcurrent
      obtain ⟨row, hrow, hrowStatus⟩ := Option.bind_eq_some_iff.mp hcurrent
      rw [Biblioteca.clidDe_of_lookup hrow, Biblioteca.clidDe_of_lookup halvo] at hk
      refine hfree (fun heq => ?_) ⟨rfl, Option.some_ne_none clid, k, row, ?_, hkalvo, hrowStatus, hk⟩
      · cases congrArg CognitiveObject.revisionStatus heq
      · rw [hgravada.objects, if_neg hne, hrow]
    · rw [hdb, hgravado.resto, hgravada.resto]
  · rw [htransformations, h₀.resto]
    exact hrevisavel.registro

theorem mem_currentByClid {db : Biblioteca} {k clid : Referencia} :
    k ∈ db.currentByClid clid ↔ db.clidDe k = some clid ∧ db.status k = some .current := by
  unfold Biblioteca.currentByClid
  rw [List.mem_map]
  constructor
  · rintro ⟨entry, hentry, rfl⟩
    obtain ⟨hmem, hfields⟩ := List.mem_filter.mp hentry
    obtain ⟨hclid, hstatus⟩ := of_decide_eq_true hfields
    have hlookup : db.objects.lookup entry.1 = some entry.2 := AList.mem_lookup_iff.mpr hmem
    exact ⟨(Biblioteca.clidDe_of_lookup hlookup).trans hclid,
      (Biblioteca.status_of_lookup hlookup).trans hstatus⟩
  · rintro ⟨hclid, hstatus⟩
    obtain ⟨row, hrow, hrowStatus⟩ := Option.bind_eq_some_iff.mp hstatus
    rw [Biblioteca.clidDe_of_lookup hrow] at hclid
    refine ⟨⟨k, row⟩, List.mem_filter.mpr ⟨AList.mem_lookup_iff.mp hrow, ?_⟩, rfl⟩
    exact decide_eq_true ⟨hclid, hrowStatus⟩

theorem nodup_currentByClid {db : Biblioteca} {clid : Referencia} :
    (db.currentByClid clid).Nodup :=
  (List.Sublist.map Sigma.fst List.filter_sublist).nodup db.objects.nodupKeys

theorem ends_verificarFonte :
    Op.Ends (fun _ s' => s' = s ∧ ∃ fonte, s.current.objects.lookup source = some fonte ∧
        fonte.revisionStatus ≠ some .superseded)
      (fun _ s' => s' = s ∧ ¬Revisavel m ids source pedido s.current)
      (VersionManager.verificarFonte source) s := by
  unfold VersionManager.verificarFonte
  cases hfonte : s.current.objects.lookup source with
  | none =>
    refine Op.Ends.bind (Op.Ends.mapError (ends_entidade (Q := fun _ _ => False)
      (fun row hrow => ?_) ⟨rfl, fun h => ?_⟩)) fun _ _ h => h.elim
    · cases hfonte.symm.trans hrow
    · obtain ⟨fonte, hfonte', -⟩ := h.fonte
      cases hfonte.symm.trans hfonte'
  | some fonte =>
    refine Op.Ends.bind (Op.Ends.mapError (ends_entidade_of_lookup hfonte)) ?_
    rintro found s' ⟨rfl, rfl⟩
    have hpede : Revisavel m ids source pedido s'.current →
        found.revisionStatus ≠ some .superseded ∧ ∀ clid, found.clid = some clid →
          ∀ k ∈ s'.current.currentByClid clid, k = source := by
      intro h
      obtain ⟨fonte, hfonte', hstatus, hunica⟩ := h.fonte
      obtain rfl := Option.some.inj (hfonte.symm.trans hfonte')
      refine ⟨hstatus, fun clid hclid k hk => ?_⟩
      obtain ⟨hkclid, hkstatus⟩ := mem_currentByClid.mp hk
      exact hunica k (by rw [hkclid, hclid, Option.getD_some]) hkstatus
    split
    case isTrue hstatus => exact Op.Ends.raise ⟨rfl, fun h => (hpede h).1 hstatus⟩
    case isFalse hstatus =>
      split
      · exact Op.Ends.ret ⟨rfl, found, rfl, hstatus⟩
      case h_2 clid hclid =>
        refine Op.Ends.bind (Op.Ends.read (Q := fun existentes s'' =>
          existentes = s'.current.currentByClid clid ∧ s'' = s') ⟨rfl, rfl⟩) ?_
        rintro existentes s'' ⟨rfl, rfl⟩
        have hnodup : (s''.current.currentByClid clid).Nodup := nodup_currentByClid
        split
        · exact Op.Ends.ret ⟨rfl, found, rfl, hstatus⟩
        case h_2 existing hexisting =>
          split
          · exact Op.Ends.ret ⟨rfl, found, rfl, hstatus⟩
          case isFalse hother =>
            refine Op.Ends.raise ⟨rfl, fun h => hother ((hpede h).2 clid hclid existing ?_)⟩
            rw [hexisting]
            exact List.mem_singleton_self existing
        case h_3 hnil hone =>
          refine Op.Ends.raise ⟨rfl, fun h => ?_⟩
          have honly := (hpede h).2 clid hclid
          rcases hlist : s''.current.currentByClid clid with _ | ⟨a, _ | ⟨b, rest⟩⟩
          · exact hnil hlist
          · exact hone a hlist
          · rw [hlist] at honly hnodup
            have hsame : a = b := (honly a (by simp)).trans (honly b (by simp)).symm
            simp [hsame] at hnodup

/-! ## When a revision is accepted -/

variable {coid clid : Referencia} {row : CognitiveObject}

theorem sure_send {ε : Type} {w : Biblioteca → Except ε Biblioteca} {db' : Biblioteca}
    (hw : w s.current = .ok db') :
    Op.Ends (fun _ _ => True) (fun _ _ => False) (Op.send w) s := by
  refine Op.Ends.send (fun _ _ => trivial) fun e he => ?_
  rw [hw] at he
  cases he

theorem sure_atribuirClid (hrow : s.current.objects.lookup coid = some row)
    (hnone : row.clid = none) (hfree : ¬s.current.outraCurrent coid { row with clid := some clid }) :
    Op.Ends (fun _ _ => True) (fun _ _ => False) (atribuirClid coid clid) s := by
  unfold atribuirClid
  refine Op.Ends.bind (ends_entidade_of_lookup hrow) ?_
  rintro found s' ⟨rfl, rfl⟩
  have hnovo : found.comClid coid clid = .ok { found with clid := some clid } := by
    rw [CognitiveObject.comClid, hnone]
  rw [hnovo]
  refine Op.Ends.lift_bind (fun row' hrow' => ?_) fun e he => by cases he
  obtain rfl := Except.ok.inj hrow'
  obtain ⟨db', hdb'⟩ := updateObject_of_livre hfree
  exact sure_send (by rw [hdb']; rfl)

theorem sure_addObject (hnone : s.current.objects.lookup coid = none)
    (hstatus : row.revisionStatus = none) :
    Op.Ends (fun _ _ => True) (fun _ _ => False) (addObject coid row) s := by
  have hfree : ¬((s.current.objects.lookup coid).isSome ∨ s.current.outraCurrent coid row) := by
    rw [hnone]
    rintro (h | ⟨h, -⟩)
    · cases h
    · rw [hstatus] at h
      cases h
  have hwrite : s.current.insertObject coid row =
      .ok { s.current with objects := s.current.objects.insert coid row } := by
    rw [Biblioteca.insertObject, if_neg hfree]
  exact sure_send (by rw [hwrite]; rfl)

theorem sure_addEdge {edge : LineageEdge} (hself : edge.parentCoid ≠ edge.childCoid)
    (hid : s.current.edges.lookup coid = none) (hfree : ¬s.current.ligada edge)
    (hparent : s.current.objects.lookup edge.parentCoid ≠ none)
    (hchild : s.current.objects.lookup edge.childCoid ≠ none) :
    Op.Ends (fun _ _ => True) (fun _ _ => False) (LineageRepository.addEdge coid edge) s := by
  have hwrite : s.current.insertEdge coid edge =
      .ok { s.current with edges := s.current.edges.insert coid edge } := by
    rw [Biblioteca.insertEdge, if_neg hself, if_neg, if_neg]
    · exact not_or.mpr ⟨hparent, hchild⟩
    · rw [hid]
      exact not_or.mpr ⟨Bool.false_ne_true, hfree⟩
  unfold LineageRepository.addEdge
  rw [if_neg hself]
  exact Op.Ends.bind (sure_send (by rw [hwrite]; rfl)) fun _ _ _ => Op.Ends.ret trivial

/-- A new object inherits from a source that the index lets have its CLID. -/
theorem sure_inherit {edgeId child : Referencia} {fonte : CognitiveObject}
    (hparent : s.current.objects.lookup source = some fonte)
    (hchild : s.current.objects.lookup child = some {}) (hself : source ≠ child)
    (hfree : fonte.clid = none → ¬s.current.outraCurrent source { fonte with clid := some clid })
    (hid : s.current.edges.lookup edgeId = none)
    (hedge : ¬s.current.ligada ⟨source, child, relationType⟩) :
    Op.Ends (fun _ _ => True) (fun _ _ => False)
      (ClidManager.inherit clid edgeId source child relationType) s := by
  unfold ClidManager.inherit
  refine Op.Ends.bind (ends_entidade_of_lookup hparent) ?_
  rintro pai s₁ ⟨rfl, rfl⟩
  refine Op.Ends.bind (ends_entidade_of_lookup hchild) ?_
  rintro filho s₂ ⟨rfl, rfl⟩
  -- What is left after the parent has its CLID.
  have hresto : ∀ s' : Session Biblioteca, ∀ pai', s'.current.objects.lookup source = some pai' →
      s'.current.objects.lookup child = some {} → s'.current.edges = s₂.current.edges →
      Op.Ends (fun _ _ => True) (fun _ _ => False) (do
        atribuirClid child (pai.clid.getD clid)
        LineageRepository.addEdge edgeId ⟨source, child, relationType⟩) s' := by
    intro s' pai' hpai' hfilho' hedges
    have hnot : ∀ c : Referencia, ¬s'.current.outraCurrent child { clid := some c } := by
      rintro c ⟨hstatus, -⟩
      cases hstatus
    refine Op.Ends.bind ((ends_atribuirClid hfilho').sure
      (sure_atribuirClid hfilho' rfl (hnot _))) ?_
    rintro - s₃ ⟨-, -, hgravado⟩
    have hedges₃ : s₃.current.edges = s₂.current.edges := by rw [hgravado.resto, ← hedges]
    refine sure_addEdge hself ?_ ?_ ?_ ?_
    · rw [hedges₃, hid]
    · unfold Biblioteca.ligada at hedge ⊢
      rwa [hedges₃]
    · rw [hgravado.objects, if_neg hself, hpai']
      exact Option.some_ne_none pai'
    · rw [hgravado.objects, if_pos rfl]
      exact Option.some_ne_none _
  dsimp only
  split
  case isTrue hnone =>
    refine Op.Ends.bind ((ends_atribuirClid hparent).sure
      (sure_atribuirClid hparent hnone ?_)) ?_
    · rw [hnone]
      exact hfree hnone
    · rintro - s₃ ⟨-, -, hgravado⟩
      refine hresto s₃ { pai with clid := some (pai.clid.getD clid) } ?_ ?_ ?_
      · rw [hgravado.objects, if_pos rfl]
      · rw [hgravado.objects, if_neg hself.symm, hchild]
      · rw [hgravado.resto]
  case isFalse => exact hresto s₂ pai hparent hchild rfl

theorem Revisavel.continuar (h : Revisavel m ids source pedido s.current) :
    Op.Ends (fun _ _ => True) (fun _ _ => False)
      (VersionManager.continuar ids source pedido.relationType) s := by
  obtain ⟨fonte, hfonte, -, hunica⟩ := h.fonte
  have hother : source ≠ ids.alvo := ne_of_lookup h.alvo hfonte
  unfold VersionManager.continuar
  refine Op.Ends.bind (Op.Ends.mapError (ends_addObject.sure (sure_addObject h.alvo rfl))) ?_
  rintro - s₁ ⟨-, -, hdb⟩
  have hobjects : s₁.current.objects = s.current.objects.insert ids.alvo {} := by rw [hdb]
  have hedges : s₁.current.edges = s.current.edges := by rw [hdb]
  refine Op.Ends.mapError (@sure_inherit _ _ _ _ _ _ fonte ?_ ?_ hother ?_ ?_ ?_)
  · rw [hobjects]
    exact lookup_insert_antiga h.alvo hfonte
  · rw [hobjects]
    exact AList.lookup_insert _
  · rintro hnone ⟨hcurrent, -, k, row, hrow, hk, hrowStatus, hrowClid⟩
    rw [hobjects] at hrow
    rcases Table.insert_cases hrow with ⟨-, rfl⟩ | ⟨-, hold⟩
    · cases hrowStatus
    · refine hk (hunica k ?_ ((Biblioteca.status_of_lookup hold).trans hrowStatus))
      rw [Biblioteca.clidDe_of_lookup hold, hrowClid, hnone, Option.getD_none]
  · rw [hedges, h.aresta.1]
  · have hfree := h.aresta.2
    unfold Biblioteca.ligada at hfree ⊢
    rwa [hedges]

/-- What a success of `revise` has made of the library, in two parts. -/
structure Revisada (ids : IdsDeVersao) (source : Referencia) (pedido : PedidoDeVersao)
    (db db' : Biblioteca) : Prop where
  partes : ∃ pai meio, Continuada ids source pedido.relationType pai db meio ∧
    Promovida source ids.alvo ids.registro (VersionManager.registroDe .revision ids source pedido)
      meio db'

theorem Revisada.mudanca {db db' : Biblioteca} (h : Revisada ids source pedido db db') :
    Mudanca db db' := by
  obtain ⟨pai, meio, hcontinuada, hpromovida⟩ := h.partes
  exact .revisada meio source ids.alvo ids.registro _ hcontinuada.neutra hcontinuada.inedito
    hpromovida

theorem ends_revise :
    Op.Ends (fun edge s' => edge = ⟨source, ids.alvo, pedido.relationType⟩ ∧ s'.base = s.base ∧
        Revisavel m ids source pedido s.current ∧
        Revisada ids source pedido s.current s'.current)
      (fun _ s' => Inacabada s s' ∧ ¬Revisavel m ids source pedido s.current)
      (VersionManager.revise m ids source pedido) s := by
  unfold VersionManager.revise
  split
  case isTrue hoperacao => exact Op.Ends.raise ⟨.refl, fun h => h.operacao hoperacao⟩
  case isFalse hoperacao =>
    refine Op.Ends.bind (ends_verificarFonte.mono (fun _ _ h => h) fun _ s' h =>
      ⟨h.1 ▸ .refl, h.2⟩) ?_
    rintro - s₁ ⟨rfl, fonte, hfonte, hstatus⟩
    refine Op.Ends.bind (ends_continuar.unless Revisavel.continuar) ?_
    rintro edge s₂ ⟨hbase, rfl, pai, hcontinuada⟩
    obtain rfl := Option.some.inj (hfonte.symm.trans hcontinuada.fonte)
    refine Op.Ends.bind ((ends_promover hcontinuada hstatus).mono (fun _ _ h => h)
      fun _ s' h => ⟨.de_rollback hbase h.1, h.2⟩) ?_
    rintro - s₃ ⟨hbase', hgrava, hpromovida⟩
    have hneutra := hcontinuada.neutra
    have halvo : s₂.current.clidDe ids.alvo = some (fonte.clid.getD ids.clid) := by
      rw [Biblioteca.clidDe, hcontinuada.objetos, if_pos rfl, Option.bind_some]
    have htransformations : s₂.current.transformations = s₁.current.transformations := by
      rw [hcontinuada.resto]
    refine Op.Ends.ret ⟨rfl, hbase'.trans hbase, {
      operacao := hoperacao
      fonte := ⟨fonte, hfonte, hstatus, fun k hclid hcurrent => ?_⟩
      alvo := hcontinuada.inedito
      aresta := hcontinuada.aresta
      registro := htransformations ▸ hpromovida.inedito
      gravavel := hgrava }, ⟨fonte, s₂.current, hcontinuada, hpromovida⟩⟩
    exact hpromovida.unico k ((hneutra.clidDe hclid).trans halvo.symm)
      ((hneutra.status k).trans hcurrent)

theorem segue_revisar : Segue s (VersionManager.revise m ids source pedido s).2 :=
  Op.Ends.session (ends_revise.mono (fun _ _ h => ⟨h.2.1, .inr h.2.2.2.mudanca⟩)
    fun _ _ h => h.1.segue)

end Continuar

/-- Revisions in the session of a caller, who goes back when one raises. -/
structure RevisaoExata (m : Motor) (ids : IdsDeVersao) (source : Referencia)
    (pedido : PedidoDeVersao) (s : Session Biblioteca) : Prop where
  /-- The check before the writes and the index after them refuse the same sources. -/
  aceita : (∃ edge s', VersionManager.revise m ids source pedido s = (.ok edge, s')) ↔
    Revisavel m ids source pedido s.current
  sucesso : ∀ edge s', VersionManager.revise m ids source pedido s = (.ok edge, s') →
    edge = ⟨source, ids.alvo, pedido.relationType⟩ ∧ s'.base = s.base ∧
      Revisada ids source pedido s.current s'.current
  erro : ∀ e s', VersionManager.revise m ids source pedido s = (.error e, s') → Inacabada s s'

theorem revise_exact (m : Motor) (ids : IdsDeVersao) (source : Referencia)
    (pedido : PedidoDeVersao) (s : Session Biblioteca) : RevisaoExata m ids source pedido s where
  aceita := by
    constructor
    · rintro ⟨edge, s', hrun⟩
      exact (ends_revise.of_ok hrun).2.2.1
    · intro h
      cases hrun : VersionManager.revise m ids source pedido s with
      | mk result s' =>
        cases result with
        | ok edge => exact ⟨edge, s', rfl⟩
        | error e => exact absurd h (ends_revise.of_error hrun).2
  sucesso edge s' hrun := by
    obtain ⟨hedge, hbase, -, hrevisada⟩ := ends_revise.of_ok hrun
    exact ⟨hedge, hbase, hrevisada⟩
  erro e s' hrun := (ends_revise.of_error hrun).1

end PiaOs.Cognitive
