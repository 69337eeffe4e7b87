import PiaOs.Model.Reads
import PiaOs.Runs.Traces

/-!
# What the reads say of a run

The attempts, the delegations and the control events of a run are counted in its history, and the
two tools are asked at its end. They say the attempts, their states and the number of delegations;
verdicts and control events they never say.
-/

namespace PiaOs

open Support Transactions

/-! ## A program that only reads -/

/-- What a program answers when it runs alone, without a write. -/
def Responde {α : Type} (db : Db) (p : Action α) (resposta : Except Failure α) : Prop :=
  ∀ now ids n, p.run Db.apply now ids n db = (resposta, [])

section Responde

variable {α β : Type} {db : Db} {p : Action α} {f : α → Action β} {a : α} {e : Failure}
  {r : Except Failure β}

theorem Responde.pure : Responde db (Prog.pure a : Action α) (.ok a) := fun _ _ _ => rfl

theorem run_bind_of_ok {now : Instant} {ids : ℕ → ℕ} {n : ℕ} {r : Except Failure β × List Write}
    (hp : p.run Db.apply now ids n db = (.ok a, []))
    (hf : ∀ n, (f a).run Db.apply now ids n db = r) : (p >>= f).run Db.apply now ids n db = r := by
  induction p generalizing n with
  | pure b =>
    obtain rfl : b = a := Except.ok.inj (Prod.mk.inj hp).1
    exact hf n
  | raise e => cases (Prod.mk.inj hp).1
  | stmt s k ih =>
    rw [Prog.stmt_bind]
    unfold Prog.run at hp ⊢
    cases hexec : s.exec ⟨now, ids n⟩ db with
    | error e =>
      rw [hexec] at hp
      cases (Prod.mk.inj hp).1
    | ok answer =>
      obtain ⟨b, ws⟩ := answer
      simp only [hexec] at hp ⊢
      obtain ⟨hanswer, hwrites⟩ := Prod.mk.inj hp
      obtain ⟨rfl, hrest⟩ := List.append_eq_nil_iff.mp hwrites
      have hnext := ih b (Prod.ext hanswer hrest)
      simp only [List.foldl_nil] at hnext ⊢
      rw [hnext]
      rfl

theorem run_bind_of_error {now : Instant} {ids : ℕ → ℕ} {n : ℕ}
    (hp : p.run Db.apply now ids n db = (.error e, [])) :
    (p >>= f).run Db.apply now ids n db = (.error e, []) := by
  induction p generalizing n with
  | pure b => cases (Prod.mk.inj hp).1
  | raise e' =>
    obtain rfl : e' = e := Except.error.inj (Prod.mk.inj hp).1
    rfl
  | stmt s k ih =>
    rw [Prog.stmt_bind]
    unfold Prog.run at hp ⊢
    cases hexec : s.exec ⟨now, ids n⟩ db with
    | error e' =>
      simp only [hexec] at hp ⊢
      obtain rfl : e' = e := Except.error.inj (Prod.mk.inj hp).1
      rfl
    | ok answer =>
      obtain ⟨b, ws⟩ := answer
      simp only [hexec] at hp ⊢
      obtain ⟨hanswer, hwrites⟩ := Prod.mk.inj hp
      obtain ⟨rfl, hrest⟩ := List.append_eq_nil_iff.mp hwrites
      have hnext := ih b (Prod.ext hanswer hrest)
      simp only [List.foldl_nil] at hnext ⊢
      rw [hnext]
      rfl

theorem Responde.bind (hp : Responde db p (.ok a)) (hf : Responde db (f a) r) :
    Responde db (p >>= f) r :=
  fun now ids n => run_bind_of_ok (hp now ids n) (hf now ids)

theorem Responde.bind_error (hp : Responde db p (.error e)) :
    Responde db (p >>= f) (.error e) :=
  fun now ids n => run_bind_of_error (hp now ids n)

theorem Responde.read {f : Env → Db → α} (hf : ∀ env, f env db = a) :
    Responde db (Prog.read f) (.ok a) := by
  intro now ids n
  simp [Prog.read, Prog.step, Prog.run, hf]

theorem Responde.unique {r r' : Except Failure α} (h : Responde db p r) (h' : Responde db p r') :
    r = r' :=
  (Prod.mk.inj ((h 0 id 0).symm.trans (h' 0 id 0))).1

/-- A program for each element, when each of them answers. -/
theorem Responde.collect {f : α → Action (Option β)} {g : α → β} {xs : List α}
    (h : ∀ x, Responde db (f x) (.ok (some (g x)))) :
    Responde db (Prog.collect f xs) (.ok (xs.map g)) := by
  induction xs with
  | nil => exact .pure
  | cons x xs ih => exact .bind (h x) (.bind ih .pure)

end Responde

/-! ## The answers -/

section Answers

variable {db : Db} {agenda : Schedule} {schemaVersion principalRef : String} {scheduleId : Uuid}

open Repository OrchestrationQueryService

theorem responde_getSchedule (h : db.scheduleOf principalRef scheduleId = some agenda) :
    Responde db (ScheduleService.getSchedule principalRef scheduleId) (.ok ⟨agenda.id,
      agenda.title, agenda.state, agenda.executionMode, agenda.controlPrincipalRef,
      db.stepsOf principalRef scheduleId⟩) :=
  .bind (.read fun _ => h) (.bind .pure (.bind (.read fun _ => rfl) .pure))

theorem recusa_getSchedule (h : db.scheduleOf principalRef scheduleId = none) :
    Responde db (ScheduleService.getSchedule principalRef scheduleId)
      (.error (scheduleMissing scheduleId)) :=
  .bind (.read fun _ => h) (.bind_error fun _ _ _ => rfl)

theorem responde_listAttempts (h : db.scheduleOf principalRef scheduleId = some agenda) :
    Responde db (OrchestrationQueryService.listAttempts principalRef scheduleId)
      (.ok ((db.attemptsOf principalRef scheduleId).map fun a =>
        projetarAttempt a (db.resultOf principalRef scheduleId a.id)
          (db.attributionOf principalRef scheduleId a.id))) := by
  refine .bind (responde_getSchedule h) (.bind (.read fun _ => rfl) (.collect fun a => ?_))
  exact .bind (.read fun _ => rfl) (.bind (.read fun _ => rfl) .pure)

theorem recusa_listAttempts (h : db.scheduleOf principalRef scheduleId = none) :
    Responde db (OrchestrationQueryService.listAttempts principalRef scheduleId)
      (.error (scheduleMissing scheduleId)) :=
  .bind_error (recusa_getSchedule h)

theorem recusa_readGovernance (h : db.scheduleOf principalRef scheduleId = none) :
    Responde db (readGovernance principalRef scheduleId) (.error (scheduleMissing scheduleId)) :=
  .bind_error (recusa_getSchedule h)

/-- No attempt is said to have an outcome. -/
theorem responde_attemptsList (h : db.scheduleOf principalRef scheduleId = some agenda) :
    Responde db (attemptsList schemaVersion principalRef scheduleId)
      (.ok ⟨scheduleId.str, (db.attemptsOf principalRef scheduleId).map fun a =>
        ⟨a.id.str, a.state.value, none⟩, schemaVersion⟩) := by
  refine .bind (responde_listAttempts h) ?_
  rw [List.map_map]
  exact .pure

theorem responde_readGovernance (h : db.scheduleOf principalRef scheduleId = some agenda) :
    Responde db (readGovernance principalRef scheduleId) (.ok ⟨scheduleId,
      agenda.state, (db.delegationsOf principalRef scheduleId).map projetarDelegacao,
      (db.eventsOf principalRef scheduleId).map projetarEvento,
      (db.observationsOf principalRef scheduleId).map projetarObservacao,
      (db.opinionsOf principalRef scheduleId).map projetarParecer⟩) :=
  .bind (responde_getSchedule h) (.bind (.read fun _ => rfl) (.bind (.read fun _ => rfl)
    (.bind (.read fun _ => rfl) (.bind (.read fun _ => rfl) .pure))))

/-- The number of delegations is said, that of events is zero. -/
theorem responde_governanceRead (h : db.scheduleOf principalRef scheduleId = some agenda) :
    Responde db (governanceRead schemaVersion principalRef scheduleId)
      (.ok ⟨scheduleId.str, agenda.state.value, (db.delegationsOf principalRef scheduleId).length,
        0, schemaVersion⟩) := by
  have hanswer (p : GovernanceProjection) : projetarGovernanca schemaVersion p =
      ⟨p.scheduleId.str, p.scheduleState.value, p.delegations.length, 0, schemaVersion⟩ := by
    simp [projetarGovernanca, GovernanceProjection.atributos, Atributo.tamanho, List.lookup_cons]
  refine .bind (responde_readGovernance h) ?_
  simp only [hanswer, List.length_map]
  exact .pure

end Answers

/-! ## What a run has recorded -/

/-- What the commits of a run have recorded. -/
def registrados {κ : Type} (registra : Write → Option κ) (s : Orchestration) : List κ :=
  s.history.flatMap fun c => c.log.filterMap registra

/-- What some writes record is in the store from then on, and nothing else is. -/
structure Registra {κ : Type} (registra : Write → Option κ) (Consta : Db → κ → Prop) : Prop extends
    ClosesOnce registra Consta where
  vazio : ∀ k, ¬Consta Db.empty k
  origem : ∀ {V : Db} {w : Write} {k : κ}, w.may V → Consta (Db.apply w V) k →
    Consta V k ∨ registra w = some k

section Registra

variable {κ : Type} {registra : Write → Option κ} {Consta : Db → κ → Prop}

theorem origem_applyAll [Runtime] {V : Db} {ws : List Write} {held : List Lock} {k : κ}
    (h : Registra registra Consta) (hguarded : protocol.Guarded held V ws)
    (hk : Consta (applyAll Db.apply ws V) k) : Consta V k ∨ k ∈ ws.filterMap registra := by
  induction ws generalizing V with
  | nil => exact .inl hk
  | cons w ws ih =>
    obtain ⟨⟨-, hmay⟩, hrest⟩ := hguarded
    rcases ih hrest hk with hthere | hlater
    · rcases h.origem hmay hthere with hbefore | hnew
      · exact .inl hbefore
      · exact .inr (List.mem_filterMap.mpr ⟨w, List.mem_cons_self, hnew⟩)
    · obtain ⟨w', hw', hrecords⟩ := List.mem_filterMap.mp hlater
      exact .inr (List.mem_filterMap.mpr ⟨w', List.mem_cons_of_mem _ hw', hrecords⟩)

/-- A run has recorded what is in the store at its end, each once. -/
theorem mem_registrados [Runtime] {s : Orchestration} (hreach : Reachable s)
    (h : Registra registra Consta) {k : κ} : k ∈ registrados registra s ↔ Consta s.store k := by
  refine ⟨fun hk => (closed_once_run hreach h.toClosesOnce).2 k hk, ?_⟩
  have hcommits := commits_of_reachable hreach
  unfold registrados
  generalize s.history = history at hcommits
  generalize s.store = store at hcommits
  induction hcommits with
  | nil => exact fun hk => absurd hk (h.vazio k)
  | cons c hearlier hsound ih =>
    intro hk
    obtain ⟨held, hguarded⟩ := hsound.guarded
    rw [List.flatMap_cons, List.mem_append]
    rcases origem_applyAll h hguarded hk with hbefore | hnew
    · exact .inr (ih hbefore)
    · exact .inl hnew

theorem nodup_registrados [Runtime] {s : Orchestration} (hreach : Reachable s)
    (h : Registra registra Consta) : (registrados registra s).Nodup :=
  (closed_once_run hreach h.toClosesOnce).1

end Registra

/-- A delegation and its Schedule. -/
def delegacaoDe : Write → Option (Uuid × Uuid)
  | .insertDelegation d => some (d.id, d.scheduleId)
  | _ => none

/-- A control event and its Schedule. -/
def eventoDe : Write → Option (Uuid × Uuid)
  | .insertEvent e => some (e.id, e.scheduleId)
  | _ => none

/-- An attempt and the verdict that its import stores. -/
def vereditoDe : Write → Option (Uuid × HandoffResultStatus)
  | .insertResult r => some (r.attemptId, r.status)
  | _ => none

theorem registra_delegacao : Registra delegacaoDe fun db p =>
    ∃ d, db.delegations.lookup p.1 = some d ∧ d.scheduleId = p.2 where
  later := by
    rintro V W ⟨id, scheduleId⟩ hlater ⟨d, hd, hschedule⟩
    obtain ⟨d', hd', hchanges⟩ := hlater.delegations.stays hd
    exact ⟨d', hd', hchanges.scheduleId.trans hschedule⟩
  closes := by
    intro V w p hmay hp
    cases w with
    | insertDelegation d =>
      obtain rfl := Option.some.inj hp
      exact ⟨by simp [hmay.1], d, by simp [Db.apply], rfl⟩
    | _ => cases hp
  vazio := by simp [Db.empty]
  origem := by
    rintro V w ⟨id, scheduleId⟩ hmay ⟨d, hd, hschedule⟩
    cases w with
    | insertDelegation row =>
      obtain ⟨rfl, rfl⟩ | ⟨-, hd⟩ := Table.insert_cases hd
      · exact .inr (by rw [delegacaoDe, hschedule])
      · exact .inl ⟨d, hd, hschedule⟩
    | setDelegationState k state =>
      obtain ⟨rfl, d₀, hd₀, rfl⟩ | ⟨-, hd⟩ := Table.modify_cases hd
      · exact .inl ⟨d₀, hd₀, hschedule⟩
      · exact .inl ⟨d, hd, hschedule⟩
    | consumeDelegation k consumedAt attemptId =>
      obtain ⟨rfl, d₀, hd₀, rfl⟩ | ⟨-, hd⟩ := Table.modify_cases hd
      · exact .inl ⟨d₀, hd₀, hschedule⟩
      · exact .inl ⟨d, hd, hschedule⟩
    | _ => exact .inl ⟨d, hd, hschedule⟩

theorem registra_evento : Registra eventoDe fun db p =>
    ∃ e, db.events.lookup p.1 = some e ∧ e.scheduleId = p.2 where
  later := by
    rintro V W ⟨id, scheduleId⟩ hlater ⟨e, he, hschedule⟩
    obtain ⟨e', he', rfl⟩ := hlater.events.stays he
    exact ⟨e, he', hschedule⟩
  closes := by
    intro V w p hmay hp
    cases w with
    | insertEvent e =>
      obtain rfl := Option.some.inj hp
      have hfree : V.events.lookup e.id = none := hmay
      exact ⟨by simp [hfree], e, by simp [Db.apply], rfl⟩
    | _ => cases hp
  vazio := by simp [Db.empty]
  origem := by
    rintro V w ⟨id, scheduleId⟩ hmay ⟨e, he, hschedule⟩
    cases w with
    | insertEvent row =>
      obtain ⟨rfl, rfl⟩ | ⟨-, he⟩ := Table.insert_cases he
      · exact .inr (by rw [eventoDe, hschedule])
      · exact .inl ⟨e, he, hschedule⟩
    | _ => exact .inl ⟨e, he, hschedule⟩

theorem registra_veredito : Registra vereditoDe fun db p =>
    ∃ r, db.results.lookup p.1 = some r ∧ r.status = p.2 where
  later := by
    rintro V W ⟨id, status⟩ hlater ⟨r, hr, hstatus⟩
    obtain ⟨r', hr', rfl⟩ := hlater.results.stays hr
    exact ⟨r, hr', hstatus⟩
  closes := by
    intro V w p hmay hp
    cases w with
    | insertResult r =>
      obtain rfl := Option.some.inj hp
      exact ⟨by simp [hmay.1], r, by simp [Db.apply], rfl⟩
    | _ => cases hp
  vazio := by simp [Db.empty]
  origem := by
    rintro V w ⟨id, status⟩ hmay ⟨r, hr, hstatus⟩
    cases w with
    | insertResult row =>
      obtain ⟨rfl, rfl⟩ | ⟨-, hr⟩ := Table.insert_cases hr
      · exact .inr (by rw [vereditoDe, hstatus])
      · exact .inl ⟨r, hr, hstatus⟩
    | _ => exact .inl ⟨r, hr, hstatus⟩

/-- Rows that were recorded under a Schedule are as many as their records. -/
theorem length_eq_countP {ρ : Type} {rows : List ρ} {id : ρ → Uuid} {records : List (Uuid × Uuid)}
    {scheduleId : Uuid} (hrows : (rows.map id).Nodup) (hrecords : records.Nodup)
    (h : ∀ i, i ∈ rows.map id ↔ (i, scheduleId) ∈ records) :
    rows.length = records.countP fun p => p.2 = scheduleId := by
  have hnodup : ((records.filter fun p => p.2 = scheduleId).map Prod.fst).Nodup := by
    refine List.Nodup.map_on ?_ (hrecords.filter _)
    rintro ⟨i, j⟩ hp ⟨i', j'⟩ hp' rfl
    have hj : j = scheduleId := of_decide_eq_true (List.mem_filter.mp hp).2
    have hj' : j' = scheduleId := of_decide_eq_true (List.mem_filter.mp hp').2
    rw [hj, hj']
  have hperm : (rows.map id).Perm ((records.filter fun p => p.2 = scheduleId).map Prod.fst) := by
    refine (List.perm_ext_iff_of_nodup hrows hnodup).mpr fun i => ?_
    rw [h]
    simp
  have hlength := hperm.length_eq
  rwa [List.length_map, List.length_map, ← List.countP_eq_length_filter] at hlength

section Counts

variable [Runtime] {s : Orchestration} {principalRef : String} {scheduleId : Uuid}

/-- The verdict that the import of an attempt has stored. -/
def veredito (s : Orchestration) (attemptId : Uuid) : Option HandoffResultStatus :=
  ((registrados vereditoDe s).find? fun p => p.1 = attemptId).map Prod.snd

theorem veredito_eq (hreach : Reachable s) (attemptId : Uuid) :
    veredito s attemptId = (s.store.results.lookup attemptId).map HandoffResult.status := by
  have hrecorded {status : HandoffResultStatus} :
      (attemptId, status) ∈ registrados vereditoDe s ↔
        ∃ r, s.store.results.lookup attemptId = some r ∧ r.status = status :=
    mem_registrados hreach registra_veredito
  unfold veredito
  cases hfind : (registrados vereditoDe s).find? fun p => p.1 = attemptId with
  | none =>
    cases hrow : s.store.results.lookup attemptId with
    | none => rfl
    | some r =>
      have hnone := List.find?_eq_none.mp hfind _ (hrecorded.mpr ⟨r, hrow, rfl⟩)
      simp at hnone
  | some p =>
    obtain ⟨id, status⟩ := p
    obtain rfl : id = attemptId := by simpa using List.find?_some hfind
    obtain ⟨r, hrow, hstatus⟩ := hrecorded.mp (List.mem_of_find?_eq_some hfind)
    rw [hrow, Option.map_some, Option.map_some, hstatus]

theorem length_delegationsOf (hreach : Reachable s)
    (howned : s.store.owned principalRef scheduleId = true) :
    (s.store.delegationsOf principalRef scheduleId).length =
      (registrados delegacaoDe s).countP fun p => p.2 = scheduleId := by
  have hid := (wellformed_store hreach).delegations_id
  have hnodup : (((s.store.delegationsOf principalRef scheduleId).filter fun _ => true).map
      ServiceDelegation.id).Nodup := Table.select_ids_nodup hid
  rw [List.filter_true] at hnodup
  refine length_eq_countP hnodup (nodup_registrados hreach registra_delegacao) fun i => ?_
  rw [mem_registrados hreach registra_delegacao, List.mem_map]
  simp only [mem_delegationsOf, howned, and_true]
  constructor
  · rintro ⟨d, ⟨⟨k, hd⟩, hschedule⟩, rfl⟩
    exact ⟨d, hid k d hd ▸ hd, hschedule⟩
  · rintro ⟨d, hd, hschedule⟩
    exact ⟨d, ⟨⟨i, hd⟩, hschedule⟩, hid i d hd⟩

/-- No event was recorded exactly when the store has none. -/
theorem countP_eventos_eq_zero (hreach : Reachable s) :
    (registrados eventoDe s).countP (fun p => p.2 = scheduleId) = 0 ↔
      ∀ k e, s.store.events.lookup k = some e → e.scheduleId ≠ scheduleId := by
  rw [List.countP_eq_zero]
  constructor
  · intro hnone k e he hschedule
    have hmem : (k, e.scheduleId) ∈ registrados eventoDe s :=
      (mem_registrados hreach registra_evento).mpr ⟨e, he, rfl⟩
    exact hnone _ hmem (decide_eq_true hschedule)
  · rintro hnone ⟨k, other⟩ hmem hsame
    obtain ⟨e, he, hschedule⟩ := (mem_registrados hreach registra_evento).mp hmem
    exact hnone k e he (hschedule.trans (of_decide_eq_true hsame))

end Counts

/-! ## What the tools say of a run -/

section Reads

variable [Runtime] {s : Orchestration} {schemaVersion principalRef : String} {scheduleId : Uuid}

open OrchestrationQueryService

/-- An attempt as the answer should name it. -/
def tentativaDe (s : Orchestration) (a : HandoffAttempt) : TentativaLida :=
  ⟨a.id.str, a.state.value, (veredito s a.id).map HandoffResultStatus.value⟩

/-- The attempts of a Schedule, each once. -/
def SaoTentativas (s : Orchestration) (scheduleId : Uuid) (tentativas : List HandoffAttempt) : Prop :=
  (tentativas.map HandoffAttempt.id).Nodup ∧
    ∀ a, a ∈ tentativas ↔ s.store.attempts.lookup a.id = some a ∧ a.scheduleId = scheduleId

/-- The two tools, asked at the end of a run, refuse what the query service refuses and say what
the run has done. -/
structure Reflete (schemaVersion : String) (s : Orchestration) (principalRef : String)
    (scheduleId : Uuid) : Prop where
  recusa_attempts : ∀ e, Responde s.store (attemptsList schemaVersion principalRef scheduleId)
    (.error e) ↔ Responde s.store (listAttempts principalRef scheduleId) (.error e)
  recusa_governance : ∀ e, Responde s.store (governanceRead schemaVersion principalRef scheduleId)
    (.error e) ↔ Responde s.store (readGovernance principalRef scheduleId) (.error e)
  attempts : ∀ r, Responde s.store (attemptsList schemaVersion principalRef scheduleId) (.ok r) →
    ∃ tentativas, SaoTentativas s scheduleId tentativas ∧
      r.attempts = tentativas.map (tentativaDe s)
  delegations : ∀ r, Responde s.store (governanceRead schemaVersion principalRef scheduleId)
    (.ok r) → r.delegationCount = (registrados delegacaoDe s).countP fun p => p.2 = scheduleId
  events : ∀ r, Responde s.store (governanceRead schemaVersion principalRef scheduleId) (.ok r) →
    r.eventCount = (registrados eventoDe s).countP fun p => p.2 = scheduleId

/-- The Schedule is not the caller's, or has neither a verdict nor a control event. -/
def SemRegistro (db : Db) (principalRef : String) (scheduleId : Uuid) : Prop :=
  db.owned principalRef scheduleId = false ∨
    (∀ k a, db.attempts.lookup k = some a → a.scheduleId = scheduleId → db.results.lookup k = none) ∧
      ∀ k e, db.events.lookup k = some e → e.scheduleId ≠ scheduleId

instance (db : Db) (principalRef : String) (scheduleId : Uuid) :
    Decidable (SemRegistro db principalRef scheduleId) :=
  have : Decidable (∀ k a, db.attempts.lookup k = some a → a.scheduleId = scheduleId →
      db.results.lookup k = none) := Table.decidableForall db.attempts
  have : Decidable (∀ k e, db.events.lookup k = some e → e.scheduleId ≠ scheduleId) :=
    Table.decidableForall db.events
  inferInstanceAs (Decidable (_ ∨ _ ∧ _))

theorem saoTentativas_attemptsOf (hreach : Reachable s)
    (howned : s.store.owned principalRef scheduleId = true) :
    SaoTentativas s scheduleId (s.store.attemptsOf principalRef scheduleId) := by
  have hid := (wellformed_store hreach).attempts_id
  constructor
  · have hnodup : (((s.store.attemptsOf principalRef scheduleId).filter fun _ => true).map
        HandoffAttempt.id).Nodup := Table.select_ids_nodup hid
    rwa [List.filter_true] at hnodup
  · intro a
    rw [mem_attemptsOf]
    constructor
    · rintro ⟨⟨k, ha⟩, hschedule, -⟩
      exact ⟨hid k a ha ▸ ha, hschedule⟩
    · rintro ⟨ha, hschedule⟩
      exact ⟨⟨a.id, ha⟩, hschedule, howned⟩

theorem reflete_of_semRegistro (hreach : Reachable s)
    (h : SemRegistro s.store principalRef scheduleId) :
    Reflete schemaVersion s principalRef scheduleId := by
  cases hagenda : s.store.scheduleOf principalRef scheduleId with
  | none =>
    have hattempts := recusa_listAttempts hagenda
    have hlist : Responde s.store (attemptsList schemaVersion principalRef scheduleId)
        (.error (Repository.scheduleMissing scheduleId)) := .bind_error hattempts
    have hgovernance := recusa_readGovernance hagenda
    have hread : Responde s.store (governanceRead schemaVersion principalRef scheduleId)
        (.error (Repository.scheduleMissing scheduleId)) := .bind_error hgovernance
    refine ⟨fun e => ?_, fun e => ?_, fun r hr => ?_, fun r hr => ?_, fun r hr => ?_⟩
    · constructor
      · intro hr
        obtain rfl := Except.error.inj (hlist.unique hr)
        exact hattempts
      · intro hr
        obtain rfl := Except.error.inj (hattempts.unique hr)
        exact hlist
    · constructor
      · intro hr
        obtain rfl := Except.error.inj (hread.unique hr)
        exact hgovernance
      · intro hr
        obtain rfl := Except.error.inj (hgovernance.unique hr)
        exact hread
    · cases hlist.unique hr
    · cases hread.unique hr
    · cases hread.unique hr
  | some agenda =>
    have howned : s.store.owned principalRef scheduleId = true := by
      rw [Db.owned, hagenda]
      rfl
    obtain ⟨hverdicts, hevents⟩ := h.resolve_left (by simp [howned])
    have hlist : Responde s.store (attemptsList schemaVersion principalRef scheduleId) _ :=
      responde_attemptsList hagenda
    have hread : Responde s.store (governanceRead schemaVersion principalRef scheduleId) _ :=
      responde_governanceRead hagenda
    refine ⟨fun e => ?_, fun e => ?_, fun r hr => ?_, fun r hr => ?_, fun r hr => ?_⟩
    · refine iff_of_false (fun hr => ?_) fun hr => ?_
      · cases hlist.unique hr
      · cases (responde_listAttempts hagenda).unique hr
    · refine iff_of_false (fun hr => ?_) fun hr => ?_
      · cases hread.unique hr
      · cases (responde_readGovernance hagenda).unique hr
    · obtain rfl := Except.ok.inj (hlist.unique hr)
      have hsao := saoTentativas_attemptsOf hreach howned
      refine ⟨_, hsao, List.map_congr_left fun a ha => ?_⟩
      obtain ⟨hrow, hschedule⟩ := (hsao.2 a).mp ha
      rw [tentativaDe, veredito_eq hreach, hverdicts a.id a hrow hschedule]
      rfl
    · obtain rfl := Except.ok.inj (hread.unique hr)
      exact length_delegationsOf hreach howned
    · obtain rfl := Except.ok.inj (hread.unique hr)
      exact ((countP_eventos_eq_zero hreach).mpr hevents).symm

theorem semRegistro_of_reflete (hreach : Reachable s)
    (h : Reflete schemaVersion s principalRef scheduleId) :
    SemRegistro s.store principalRef scheduleId := by
  cases hagenda : s.store.scheduleOf principalRef scheduleId with
  | none =>
    left
    rw [Db.owned, hagenda]
    rfl
  | some agenda =>
    right
    constructor
    · intro k a ha hschedule
      obtain ⟨tentativas, ⟨-, hmem⟩, hattempts⟩ := h.attempts _ (responde_attemptsList hagenda)
      have hid : a.id = k := (wellformed_store hreach).attempts_id k a ha
      subst hid
      -- the answer names the attempt without an outcome
      have hnamed : tentativaDe s a ∈ tentativas.map (tentativaDe s) :=
        List.mem_map_of_mem ((hmem a).mpr ⟨ha, hschedule⟩)
      rw [← hattempts] at hnamed
      obtain ⟨b, -, hb⟩ := List.mem_map.mp hnamed
      have hnone : (veredito s a.id).map HandoffResultStatus.value = none :=
        (congrArg TentativaLida.outcome hb).symm
      rw [Option.map_eq_none_iff, veredito_eq hreach, Option.map_eq_none_iff] at hnone
      exact hnone
    · exact (countP_eventos_eq_zero hreach).mp (h.events _ (responde_governanceRead hagenda)).symm

/-- The tools reflect a run exactly for the works that have no verdict and no control event, and of
two runs that they reflect they say the same only when the runs have done the same. -/
theorem mcp_reads (hreach : Reachable s) :
    (Reflete schemaVersion s principalRef scheduleId ↔
      SemRegistro s.store principalRef scheduleId) ∧
    ∀ (s' : Orchestration) (r : AttemptsList) (g : GovernanceRead), Reachable s' →
      Reflete schemaVersion s principalRef scheduleId →
      Reflete schemaVersion s' principalRef scheduleId →
      Responde s.store (attemptsList schemaVersion principalRef scheduleId) (.ok r) →
      Responde s'.store (attemptsList schemaVersion principalRef scheduleId) (.ok r) →
      Responde s.store (governanceRead schemaVersion principalRef scheduleId) (.ok g) →
      Responde s'.store (governanceRead schemaVersion principalRef scheduleId) (.ok g) →
      (∃ tentativas tentativas', SaoTentativas s scheduleId tentativas ∧
        SaoTentativas s' scheduleId tentativas' ∧
          tentativas.map (tentativaDe s) = tentativas'.map (tentativaDe s')) ∧
      ((registrados delegacaoDe s).countP fun p => p.2 = scheduleId) =
        ((registrados delegacaoDe s').countP fun p => p.2 = scheduleId) ∧
      ((registrados eventoDe s).countP fun p => p.2 = scheduleId) =
        (registrados eventoDe s').countP fun p => p.2 = scheduleId := by
  refine ⟨⟨semRegistro_of_reflete hreach, reflete_of_semRegistro hreach⟩, ?_⟩
  intro s' r g _ h h' hr hr' hg hg'
  obtain ⟨tentativas, hsao, hattempts⟩ := h.attempts r hr
  obtain ⟨tentativas', hsao', hattempts'⟩ := h'.attempts r hr'
  refine ⟨⟨tentativas, tentativas', hsao, hsao', ?_⟩, ?_, ?_⟩
  · rw [← hattempts, hattempts']
  · rw [← h.delegations g hg, h'.delegations g hg']
  · rw [← h.events g hg, h'.events g hg']

end Reads

/-- A work with one open attempt. -/
def exportedOnce : List (Label Request) :=
  alone 0 (.criarSchedule (Sample.caller "a") Sample.oneStep .manualHandoff) 0 1 15 ++
    alone 1 (.exportHandoffOnce denyAllHumanGate (Sample.caller "b") ⟨1⟩ ⟨5⟩ "p") 1 20 36

theorem mcp_reads_exportedOnce : ∃ s : Orchestration, Reachable s ∧
    (s.store.attempts.lookup ⟨20⟩).map HandoffAttempt.scheduleId = some ⟨1⟩ ∧
      Reflete "1" s "p" ⟨1⟩ := by
  obtain ⟨s, hreach, htest⟩ := exists_reachable exportedOnce (fun s => decide
    ((s.store.attempts.lookup ⟨20⟩).map HandoffAttempt.scheduleId = some ⟨1⟩ ∧
      SemRegistro s.store "p" ⟨1⟩)) (by decide +kernel)
  obtain ⟨hattempt, hsem⟩ := of_decide_eq_true htest
  exact ⟨s, hreach, hattempt, (mcp_reads hreach).1.mpr hsem⟩

/-- The return of the only step is accepted and the work completed. -/
def importedOnce : List (Label Request) :=
  exportedOnce ++ alone 2 (.importReturnOnce true (Sample.caller "d") ⟨1⟩ ⟨5⟩ ⟨20⟩ Sample.answer
    Sample.attribution) 2 60 25

theorem mcp_reads_importedOnce : ¬ ∀ s : Orchestration, Reachable s →
    ∀ principalRef scheduleId, Reflete "1" s principalRef scheduleId := by
  intro hall
  obtain ⟨s, hreach, htest⟩ := exists_reachable importedOnce (fun s => decide
    ((s.store.results.lookup ⟨20⟩).map HandoffResult.status = some .validated ∧
      ¬ SemRegistro s.store "p" ⟨1⟩)) (by decide +kernel)
  obtain ⟨-, hrecorded⟩ := of_decide_eq_true htest
  exact hrecorded (semRegistro_of_reflete hreach (hall s hreach "p" ⟨1⟩))

end PiaOs
