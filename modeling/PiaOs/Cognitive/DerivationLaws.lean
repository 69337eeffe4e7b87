import PiaOs.Cognitive.Derivation

/-!
# What a derivation writes

Each write of a derivation, and from them the whole of it: the rows that a success adds, and
the session that an error leaves.
-/

namespace PiaOs.Cognitive

open Support Piap Transactions

/-! ## One write -/

section Writes

variable {s : Session Biblioteca} {id coid clid : Referencia}

/-- A refused flush. -/
def Desfeita (s : Session Biblioteca) (_ : Erro) (s' : Session Biblioteca) : Prop :=
  s' = s.rollback

theorem Desfeita.of_base {s' : Session Biblioteca} {e : Erro} (h : s'.base = s.base)
    {s'' : Session Biblioteca} (hundone : Desfeita s' e s'') : Desfeita s e s'' := by
  unfold Desfeita Session.rollback at hundone ⊢
  rw [hundone, h]

/-- A flush of one statement, of which only what it found and wrote is kept. -/
theorem ends_send {w : Biblioteca → Except Erro Biblioteca} (P : Biblioteca → Prop)
    (hw : ∀ db', w s.current = .ok db' → P db') :
    Op.Ends (fun _ s' => s'.base = s.base ∧ P s'.current) (Desfeita s) (Op.send w) s :=
  Op.Ends.send (fun t ht => ⟨rfl, hw t ht⟩) fun _ _ => rfl

theorem insertObject_ok {row : CognitiveObject} {db db' : Biblioteca}
    (h : db.insertObject id row = .ok db') : db.objects.lookup id = none ∧
      db' = { db with objects := db.objects.insert id row } := by
  unfold Biblioteca.insertObject at h
  split at h
  · cases h
  case isFalse hfree =>
    obtain ⟨hid, -⟩ := not_or.mp hfree
    exact ⟨by simpa using hid, (Except.ok.inj h).symm⟩

theorem insertTransformation_ok {row : TransformationRecord} {db db' : Biblioteca}
    (h : db.insertTransformation id row = .ok db') : db.transformations.lookup id = none ∧
      db' = { db with transformations := db.transformations.insert id row } := by
  unfold Biblioteca.insertTransformation at h
  split at h
  · cases h
  case isFalse hid => exact ⟨by simpa using hid, (Except.ok.inj h).symm⟩

theorem insertHistory_ok {row : CausalHistory} {db db' : Biblioteca}
    (h : db.insertHistory id row = .ok db') : db.histories.lookup id = none ∧
      db' = { db with histories := db.histories.insert id row } := by
  unfold Biblioteca.insertHistory at h
  split at h
  · cases h
  case isFalse hfree =>
    split at h
    · cases h
    · obtain ⟨hid, -⟩ := not_or.mp hfree
      exact ⟨by simpa using hid, (Except.ok.inj h).symm⟩

theorem insertEvent_ok {row : CausalHistoryEvent} {db db' : Biblioteca}
    (h : db.insertEvent id row = .ok db') : db.events.lookup id = none ∧
      db' = { db with events := db.events.insert id row } := by
  unfold Biblioteca.insertEvent at h
  split at h
  · cases h
  · split at h
    · cases h
    case isFalse hid =>
      split at h
      · cases h
      · exact ⟨by simpa using hid, (Except.ok.inj h).symm⟩

theorem ends_addObject {row : CognitiveObject} :
    Op.Ends (fun _ s' => s'.base = s.base ∧ s.current.objects.lookup id = none ∧
        s'.current = { s.current with objects := s.current.objects.insert id row })
      (Desfeita s) (addObject id row) s :=
  ends_send (fun db' => s.current.objects.lookup id = none ∧
    db' = { s.current with objects := s.current.objects.insert id row })
    fun _ hw => insertObject_ok (mapError_eq_ok.mp hw)

theorem ends_addTransformation {m : Motor} {row : TransformationRecord} :
    Op.Ends (fun _ s' => s'.base = s.base ∧ s.current.transformations.lookup id = none ∧
        s'.current = { s.current with transformations := s.current.transformations.insert id row })
      (Desfeita s) (addTransformation m id row) s := by
  refine ends_send (fun db' => s.current.transformations.lookup id = none ∧
    db' = { s.current with transformations := s.current.transformations.insert id row })
    fun db' hw => ?_
  split at hw
  · exact insertTransformation_ok (mapError_eq_ok.mp hw)
  · cases hw

/-- A new object has no CLID yet. -/
theorem ends_assign {row : CognitiveObject} (hrow : s.current.objects.lookup coid = some row)
    (hnone : row.clid = none) :
    Op.Ends (fun _ s' => s'.base = s.base ∧
        Gravado coid { row with clid := some clid } s.current s'.current)
      (Desfeita s) (ClidManager.assign coid clid) s := by
  unfold ClidManager.assign
  refine Op.Ends.bind (ends_entidade_of_lookup hrow) ?_
  rintro - s' ⟨-, rfl⟩
  refine (ends_atribuirClid hrow).mono (fun _ s'' h => h.2) fun _ s'' h => ?_
  rcases h with ⟨-, hsome⟩ | hundone
  · exact absurd hnone hsome
  · exact hundone

end Writes

/-! ## The edges -/

/-- Rows that a table did not have, under distinct identifiers. -/
structure Novas {ρ : Type} (t : Table Referencia ρ) (rows : List (Referencia × ρ)) : Prop where
  distintas : (rows.map Prod.fst).Nodup
  ineditas : ∀ k ∈ rows.map Prod.fst, t.lookup k = none

theorem Novas.nil {ρ : Type} {t : Table Referencia ρ} : Novas t [] :=
  ⟨List.nodup_nil, by simp⟩

/-- A row comes before rows that are new after it. -/
theorem Novas.cons {ρ : Type} {t : Table Referencia ρ} {rows : List (Referencia × ρ)}
    {id : Referencia} {row : ρ} (hid : t.lookup id = none) (h : Novas (t.insert id row) rows) :
    Novas t ((id, row) :: rows) := by
  have hother {k : Referencia} (hk : k ∈ rows.map Prod.fst) : k ≠ id := by
    rintro rfl
    have hnone := h.ineditas k hk
    rw [AList.lookup_insert] at hnone
    cases hnone
  refine ⟨?_, ?_⟩
  · rw [List.map_cons, List.nodup_cons]
    exact ⟨fun hmem => hother hmem rfl, h.distintas⟩
  · intro k hk
    rw [List.map_cons, List.mem_cons] at hk
    rcases hk with rfl | hk
    · exact hid
    · have hnone := h.ineditas k hk
      rwa [AList.lookup_insert_ne (hother hk)] at hnone

theorem ends_arestasDeMerge {ids : ℕ → Referencia} {alvo : Referencia} {n : ℕ}
    {fontes : List Referencia} {s : Session Biblioteca} (halvo : alvo ∉ fontes) :
    Op.Ends (fun edges s' => s'.base = s.base ∧ Novas s.current.edges edges ∧
        edges.map Prod.snd = fontes.map (⟨·, alvo, .merge⟩) ∧
        s'.current = { s.current with edges := Table.insertAll edges s.current.edges })
      (Desfeita s) (arestasDeMerge ids alvo n fontes) s := by
  induction fontes generalizing n s with
  | nil => exact Op.Ends.ret ⟨rfl, .nil, rfl, rfl⟩
  | cons coid fontes ih =>
    rw [List.mem_cons, not_or] at halvo
    rw [arestasDeMerge]
    refine Op.Ends.bind (ends_addEdge.mono (fun _ _ h => h) fun e s' h => ?_) ?_
    · rcases h with ⟨-, hself⟩ | hundone
      · exact absurd hself.symm halvo.1
      · exact hundone
    · rintro edge s₁ ⟨rfl, hbase, -, hid, -, hdb⟩
      refine Op.Ends.bind ((ih halvo.2).mono (fun _ _ h => h) fun e s' h => h.of_base hbase) ?_
      rintro edges s₂ ⟨hbase', hnew, hrows, hdb'⟩
      have hedges : s₁.current.edges =
          s.current.edges.insert (ids n) ⟨coid, alvo, .merge⟩ := by rw [hdb]
      rw [hedges] at hnew hdb'
      refine Op.Ends.ret ⟨hbase'.trans hbase, hnew.cons hid, ?_, ?_⟩
      · rw [List.map_cons, List.map_cons, hrows]
      · rw [hdb', hdb, Table.insertAll]

/-! ## The causal history -/

/-- The history of a subject after it was ensured: the one it had, or a new one. -/
inductive HistoriaPronta (historyId subjectCoid : Referencia) (db : Biblioteca) :
    Referencia → Table Referencia CausalHistory → Prop
  | existente {id : Referencia} (h : db.historyOf subjectCoid = some id) :
      HistoriaPronta historyId subjectCoid db id db.histories
  | nova (hnone : db.historyOf subjectCoid = none) (hid : db.histories.lookup historyId = none) :
      HistoriaPronta historyId subjectCoid db historyId (db.histories.insert historyId ⟨subjectCoid⟩)

theorem historyOf_congr {db db' : Biblioteca} (h : db'.histories = db.histories)
    (subjectCoid : Referencia) : db'.historyOf subjectCoid = db.historyOf subjectCoid := by
  unfold Biblioteca.historyOf
  rw [h]

theorem HistoriaPronta.historyOf {historyId subjectCoid id : Referencia} {db db' : Biblioteca}
    {histories : Table Referencia CausalHistory}
    (h : HistoriaPronta historyId subjectCoid db id histories) (hdb : db'.histories = histories) :
    db'.historyOf subjectCoid = some id := by
  cases h with
  | existente hsome => rw [historyOf_congr hdb, hsome]
  | nova hnone hid =>
    unfold Biblioteca.historyOf
    rw [hdb, AList.entries_insert_of_notMem (AList.lookup_eq_none.mp hid), List.find?_cons_of_pos]
    · rfl
    · exact decide_eq_true rfl

section Causality

variable {m : Motor} {ids : Ids} {actorRef : Option Referencia} {occurredAt : Option Momento}
  {s : Session Biblioteca} {historyId eventId subjectCoid : Referencia}

theorem ends_ensureHistory :
    Op.Ends (fun id s' => s'.base = s.base ∧
        HistoriaPronta historyId subjectCoid s.current id s'.current.histories ∧
        s'.current = { s.current with histories := s'.current.histories })
      (Desfeita s) (CausalHistoryManager.ensureHistory historyId subjectCoid) s := by
  unfold CausalHistoryManager.ensureHistory
  refine Op.Ends.bind (Op.Ends.read (Q := fun found s' =>
    found = s.current.historyOf subjectCoid ∧ s' = s) ⟨rfl, rfl⟩) ?_
  rintro found s' ⟨hfound, rfl⟩
  cases found with
  | some id => exact Op.Ends.ret ⟨rfl, .existente hfound.symm, rfl⟩
  | none =>
    refine Op.Ends.bind (ends_send (fun db' => s'.current.histories.lookup historyId = none ∧
      db' = { s'.current with
        histories := s'.current.histories.insert historyId ⟨subjectCoid⟩ })
      fun _ hw => insertHistory_ok (mapError_eq_ok.mp hw)) ?_
    rintro - s'' ⟨hbase, hid, hdb⟩
    refine Op.Ends.ret ⟨hbase, ?_, ?_⟩
    · rw [hdb]
      exact .nova hfound.symm hid
    · rw [hdb]

/-- The row of an event. -/
def eventoDe (m : Motor) (ids : Ids) (actorRef : Option Referencia) (occurredAt : Option Momento)
    (historyId : Referencia) (predecessor : Option Referencia) : CausalHistoryEvent where
  historyId := historyId
  eventType := .transformed
  actorRef := actorRef
  payloadRef := some ids.registro.str
  predecessorEventId := predecessor
  occurredAt := (CausalHistoryManager.instanteGravado m occurredAt).toOption.join

/-- The instant of an event can be stored. -/
def InstanteGravavel (m : Motor) (occurredAt : Option Momento) : Prop :=
  ∃ instante, CausalHistoryManager.instanteGravado m occurredAt = .ok instante

theorem ends_record {predecessor : Option Referencia} :
    Op.Ends (fun par s' => s'.base = s.base ∧ InstanteGravavel m occurredAt ∧ ∃ id,
        HistoriaPronta ids.historia ids.alvo s.current id s'.current.histories ∧
        par = (eventId, eventoDe m ids actorRef occurredAt id predecessor) ∧
        s.current.events.lookup eventId = none ∧
        s'.current = { s.current with
          histories := s'.current.histories
          events := s.current.events.insert eventId par.2 })
      (Desfeita s)
      (CausalHistoryManager.record m ids.historia eventId ids.alvo .transformed actorRef
        (some ids.registro.str) predecessor occurredAt) s := by
  unfold CausalHistoryManager.record
  refine Op.Ends.bind ends_ensureHistory ?_
  rintro id s₁ ⟨hbase, hready, hdb⟩
  refine Op.Ends.bind (Op.Ends.read (Q := fun instante s' =>
    instante = CausalHistoryManager.instanteGravado m occurredAt ∧ s' = s₁) ⟨rfl, rfl⟩) ?_
  rintro instante s₂ ⟨rfl, rfl⟩
  refine Op.Ends.bind ((ends_send (fun db' => InstanteGravavel m occurredAt ∧
    s₂.current.events.lookup eventId = none ∧ db' = { s₂.current with
      events := s₂.current.events.insert eventId
        (eventoDe m ids actorRef occurredAt id predecessor) }) fun db' hw => ?_).mono
    (fun _ _ h => h) fun e s' h => h.of_base hbase) ?_
  · have hw := mapError_eq_ok.mp hw
    cases hinstante : CausalHistoryManager.instanteGravado m occurredAt with
    | error r =>
      rw [hinstante] at hw
      cases hw
    | ok instante =>
      rw [hinstante] at hw
      obtain ⟨hid, hnew⟩ := insertEvent_ok hw
      refine ⟨⟨instante, hinstante⟩, hid, ?_⟩
      unfold eventoDe
      rw [hnew, hinstante]
  · rintro - s₃ ⟨hbase', hstorable, hid, hdb'⟩
    have hevents : s₂.current.events = s.current.events := by rw [hdb]
    refine Op.Ends.ret ⟨hbase'.trans hbase, hstorable, id, ?_, rfl, hevents ▸ hid, ?_⟩
    · rw [hdb']
      exact hready
    · rw [hdb', hevents, hdb]
      rfl

/-- Once the history is there, the events of the predecessors are all that is written. -/
theorem ends_eventosDosPredecessores {id : Referencia} {n : ℕ} {predecessores : List Referencia}
    (hhistory : s.current.historyOf ids.alvo = some id)
    (hpredecessores : ∀ eventId ∈ predecessores, s.current.events.lookup eventId ≠ none) :
    Op.Ends (fun eventos s' => s'.base = s.base ∧ Novas s.current.events eventos ∧
        eventos.map Prod.snd =
          predecessores.map (fun eventId => eventoDe m ids actorRef occurredAt id (some eventId)) ∧
        s'.current = { s.current with events := Table.insertAll eventos s.current.events })
      (Desfeita s) (eventosDosPredecessores m ids actorRef occurredAt n predecessores) s := by
  induction predecessores generalizing n s with
  | nil => exact Op.Ends.ret ⟨rfl, .nil, rfl, rfl⟩
  | cons eventId predecessores ih =>
    obtain ⟨evento, hevento⟩ := Option.ne_none_iff_exists'.mp (hpredecessores eventId List.mem_cons_self)
    rw [eventosDosPredecessores]
    refine Op.Ends.bind (Op.Ends.read (Q := fun predecessor s' =>
      predecessor = some eventId ∧ s' = s) ⟨by rw [hevento]; rfl, rfl⟩) ?_
    rintro predecessor s₁ ⟨rfl, rfl⟩
    refine Op.Ends.bind ends_record ?_
    rintro par s₂ ⟨hbase, -, id', hready, rfl, hnew, hdb⟩
    have hsame : id' = id ∧ s₂.current.histories = s₁.current.histories := by
      generalize s₂.current.histories = histories at hready
      cases hready with
      | existente hsome => exact ⟨Option.some.inj (hsome.symm.trans hhistory), rfl⟩
      | nova hnone => exact absurd (hhistory.symm.trans hnone) (Option.some_ne_none id)
    obtain ⟨rfl, hhistories⟩ := hsame
    have hevents : s₂.current.events = s₁.current.events.insert (ids.eventos n)
        (eventoDe m ids actorRef occurredAt id' (some eventId)) := by rw [hdb]
    have hkept : ∀ other ∈ predecessores, s₂.current.events.lookup other ≠ none := by
      intro other hother
      rw [hevents, Table.lookup_insert_ite]
      split
      · exact Option.some_ne_none _
      · exact hpredecessores other (List.mem_cons_of_mem _ hother)
    refine Op.Ends.bind ((ih ((historyOf_congr hhistories _).trans hhistory) hkept).mono
      (fun _ _ h => h) fun e s' h => h.of_base hbase) ?_
    rintro eventos s₃ ⟨hbase', hnovas, hrows, hdb'⟩
    rw [hevents] at hnovas hdb'
    refine Op.Ends.ret ⟨hbase'.trans hbase, hnovas.cons hnew, ?_, ?_⟩
    · rw [List.map_cons, List.map_cons, hrows]
    · rw [hdb', hdb, hhistories]
      rfl

/-- The predecessors of the events: none for the root, one for each otherwise. -/
def predecessoresDosEventos : List Referencia → List (Option Referencia)
  | [] => [none]
  | eventId :: predecessores => (eventId :: predecessores).map some

theorem ends_registrarCausalidade {predecessores : List Referencia}
    (hpredecessores : ∀ eventId ∈ predecessores, s.current.events.lookup eventId ≠ none) :
    Op.Ends (fun eventos s' => s'.base = s.base ∧ InstanteGravavel m occurredAt ∧
        Novas s.current.events eventos ∧ ∃ id,
        HistoriaPronta ids.historia ids.alvo s.current id s'.current.histories ∧
        eventos.map Prod.snd =
          (predecessoresDosEventos predecessores).map (eventoDe m ids actorRef occurredAt id) ∧
        s'.current = { s.current with
          histories := s'.current.histories
          events := Table.insertAll eventos s.current.events })
      (Desfeita s) (registrarCausalidade m ids predecessores actorRef occurredAt) s := by
  cases predecessores with
  | nil =>
    refine Op.Ends.bind ends_record ?_
    rintro par s₁ ⟨hbase, hstorable, id, hready, rfl, hnew, hdb⟩
    exact Op.Ends.ret ⟨hbase, hstorable, Novas.nil.cons hnew, id, hready, rfl, hdb⟩
  | cons eventId predecessores =>
    obtain ⟨evento, hevento⟩ := Option.ne_none_iff_exists'.mp (hpredecessores eventId List.mem_cons_self)
    refine Op.Ends.bind (Op.Ends.read (Q := fun predecessor s' =>
      predecessor = some eventId ∧ s' = s) ⟨by rw [hevento]; rfl, rfl⟩) ?_
    rintro predecessor s₁ ⟨rfl, rfl⟩
    refine Op.Ends.bind ends_record ?_
    rintro par s₂ ⟨hbase, hstorable, id, hready, rfl, hnew, hdb⟩
    have hevents : s₂.current.events = s₁.current.events.insert (ids.eventos 0)
        (eventoDe m ids actorRef occurredAt id (some eventId)) := by rw [hdb]
    have hkept : ∀ other ∈ predecessores, s₂.current.events.lookup other ≠ none := by
      intro other hother
      rw [hevents, Table.lookup_insert_ite]
      split
      · exact Option.some_ne_none _
      · exact hpredecessores other (List.mem_cons_of_mem _ hother)
    refine Op.Ends.bind ((ends_eventosDosPredecessores (hready.historyOf rfl) hkept).mono
      (fun _ _ h => h) fun e s' h => h.of_base hbase) ?_
    rintro eventos s₃ ⟨hbase', hnovas, hrows, hdb'⟩
    have hhistories : s₃.current.histories = s₂.current.histories := by rw [hdb']
    rw [hevents] at hnovas hdb'
    refine Op.Ends.ret ⟨hbase'.trans hbase, hstorable, hnovas.cons hnew, id, ?_, ?_, ?_⟩
    · rw [hhistories]
      exact hready
    · rw [List.map_cons, hrows, predecessoresDosEventos, List.map_map, List.map_cons]
      rfl
    · rw [hdb', hdb]
      rfl

end Causality

end PiaOs.Cognitive
