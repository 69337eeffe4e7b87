import PiaOs.Invariants.History

/-!
# What the repository does

One rule for each method of the repository. The rule of a locking read gives the row
as it is at the commit; the rule of a write asks for what makes the write legitimate.
-/

/-! ## Rules for single statements

What a statement of the orchestration may rely on when it runs, and the rules for
the forms in which the repository writes its statements. -/

namespace PiaOs

open Support Transactions

/-- No row of the store has this identifier. -/
structure Unused (db : Db) (id : Uuid) : Prop where
  schedules : db.schedules.lookup id = none
  steps : db.steps.lookup id = none
  attempts : db.attempts.lookup id = none
  delegations : db.delegations.lookup id = none
  profiles : db.profiles.lookup id = none
  events : db.events.lookup id = none
  observations : db.observations.lookup id = none
  opinions : db.opinions.lookup id = none
  receipts : ∀ k r, db.receipts.lookup k = some r → r.id ≠ id
  seals : ∀ k r, db.seals.lookup k = some r → r.id ≠ id
  results : ∀ k r, db.results.lookup k = some r → r.id ≠ id
  attributions : ∀ k r, db.attributions.lookup k = some r → r.id ≠ id
  executions : ∀ k r, db.executions.lookup k = some r → r.id ≠ id

theorem unused_of_isFresh {v : Db} {n : Nat} (h : v.isFresh n = true) : Unused v ⟨n⟩ := by
  simp only [Db.isFresh, Bool.and_eq_true, Option.isNone_iff_eq_none, List.all_eq_true,
    Table.mem_rows, forall_exists_index, bne_iff_ne] at h
  obtain ⟨⟨⟨⟨⟨⟨⟨⟨⟨⟨⟨⟨h1, h2⟩, h3⟩, h4⟩, h5⟩, h6⟩, h7⟩, h8⟩, h9⟩, h10⟩, h11⟩, h12⟩, h13⟩ := h
  exact ⟨h1, h2, h3, h4, h5, h6, h7, h8, fun k r => h9 r k, fun k r => h10 r k,
    fun k r => h11 r k, fun k r => h12 r k, fun k r => h13 r k⟩

/-- A free key whose identifier is held by the transaction stays free. -/
private theorem stays_unused {ρ : Type} {G : RowRules Uuid ρ} {t t' : Table Uuid ρ} {id : Uuid}
    (h : G.Later t t') (hnone : t.lookup id = none) (harrives : ∀ r, ¬ G.arrives id r) :
    t'.lookup id = none := by
  cases hr : t'.lookup id with
  | none => rfl
  | some r =>
    obtain ⟨r', hr', -⟩ | ⟨-, -, hin⟩ := h.origin hr
    · rw [hnone] at hr'
      simp at hr'
    · exact (harrives r hin).elim

/-- Rows that appear do not have an identifier that the transaction holds. -/
private theorem stays_unlike {κ ρ : Type} [DecidableEq κ] {locked : κ → Prop} {held : List Lock}
    {t t' : Table κ ρ} {rowId : ρ → Uuid} {id : Uuid}
    (h : (RowRules.frozen locked fun _ r => .identifier (rowId r) ∉ held).Later t t')
    (hunlike : ∀ k r, t.lookup k = some r → rowId r ≠ id) (hid : .identifier id ∈ held) (k : κ)
    (r : ρ) (hr : t'.lookup k = some r) : rowId r ≠ id := by
  obtain ⟨r', hr', rfl⟩ | ⟨-, -, hin⟩ := h.origin hr
  · exact hunlike k r' hr'
  · rintro rfl
    exact hin hid

theorem Unused.later {v f : Db} {held : List Lock} {id : Uuid} (h : Unused v id) (hlater : Later held v f)
    (hid : .identifier id ∈ held) : Unused f id where
  schedules := stays_unused hlater.schedules h.schedules fun _ hr => hr hid
  steps := stays_unused hlater.steps h.steps fun _ hr => hr.1 hid
  attempts := stays_unused hlater.attempts h.attempts fun _ hr => hr.1 hid
  delegations := stays_unused hlater.delegations h.delegations fun _ hr => hr.1 hid
  profiles := stays_unused hlater.profiles h.profiles fun _ hr => hr.1 hid
  events := stays_unused hlater.events h.events fun _ hr => hr hid
  observations := stays_unused hlater.observations h.observations fun _ hr => hr hid
  opinions := stays_unused hlater.opinions h.opinions fun _ hr => hr hid
  receipts := stays_unlike hlater.receipts h.receipts hid
  seals := stays_unlike hlater.seals h.seals hid
  results := stays_unlike hlater.results h.results hid
  attributions := stays_unlike hlater.attributions h.attributions hid
  executions := stays_unlike hlater.executions h.executions hid

variable [Runtime]

/-- What is known when a statement finds the committed store `db` and, with the
writes of its own transaction, sees `v`. -/
structure Finds (S : Scene protocol) (past : Db) (held : List Lock) (log : List Write)
    (db v : Db) : Prop where
  eq : v = applyAll Db.apply log db
  later : Later held v (S.view log)
  past : Later [] past db
  wf : Wellformed v
  view_wf : Wellformed (S.view log)
  settled : Settled db
  final_settled : Settled S.final

variable {S : Scene protocol} {past db v : Db} {held : List Lock} {log : List Write}

theorem finds_of_sees (h : S.Sees past held log db) :
    Finds S past held log db (applyAll Db.apply log db) := by
  have hdb : protocol.Evolve [] Db.empty db := h.origin_past.trans h.past_db
  have hfinal : protocol.Evolve [] Db.empty S.final := hdb.trans h.db_final.free
  exact {
    eq := rfl
    later := (Later.of_evolve h.db_final).applyAll_both h.guarded_db
    past := Later.of_evolve h.past_db
    wf := (wellformed_of_evolve hdb).applyAll h.guarded_db
    view_wf := (wellformed_of_evolve hfinal).applyAll h.guarded_final
    settled := hdb.settled settled_empty
    final_settled := hfinal.settled settled_empty }

/-! ## Rules -/

variable {β γ : Type} {Q : β → Db → List Lock → List Write → Prop} {E : Failure → List Write → Prop}

theorem ends_read {f : Env → Db → β}
    (h : ∀ fresh db v, Finds S past held log db v → Db.isFresh fresh v = true →
      Q (f ⟨S.now, fresh⟩ v) db held log) :
    S.Ends Q E (Prog.read f) past held log :=
  .read fun fresh db hsees hfresh => h fresh db _ (finds_of_sees hsees) hfresh

theorem ends_readLocked {locks : Env → Db → List Lock} {f : Env → Db → β}
    (h : ∀ fresh db v, Finds S past (held ++ locks ⟨S.now, fresh⟩ v) log db v →
      Db.isFresh fresh v = true →
      Q (f ⟨S.now, fresh⟩ v) db (held ++ locks ⟨S.now, fresh⟩ v) log) :
    S.Ends Q E (Prog.readLocked locks f) past held log :=
  .readLocked fun fresh db hsees hfresh => h fresh db _ (finds_of_sees hsees) hfresh

theorem ends_step {s : Stmt Db Write Lock Failure β}
    (h : ∀ fresh db v, Finds S past (held ++ s.locks ⟨S.now, fresh⟩ v) log db v →
      Db.isFresh fresh v = true →
      S.Settles (fun b => Q b db (held ++ s.locks ⟨S.now, fresh⟩ v)) E
        (held ++ s.locks ⟨S.now, fresh⟩ v) log (s.exec ⟨S.now, fresh⟩ v)) :
    S.Ends Q E (Prog.step s) past held log :=
  .step fun fresh db hsees hfresh => h fresh db _ (finds_of_sees hsees) hfresh

theorem yields_query {f : Env → Db → Except Failure β}
    (h : ∀ fresh db v b, Finds S past held log db v → f ⟨S.now, fresh⟩ v = .ok b →
      Q b db held log) :
    S.Yields Q (query f) past held log := by
  refine ends_step fun fresh db v hfinds _ => ?_
  simp only [List.append_nil] at hfinds ⊢
  cases hf : f ⟨S.now, fresh⟩ v with
  | error e => trivial
  | ok b => exact ⟨trivial, by simpa using h fresh db v b hfinds hf⟩

/-- A write whose constraint is respected has to be legitimate at the commit. -/
theorem yields_write {Q : Unit → Db → List Lock → List Write → Prop} {locks : List Lock}
    {violated : Db → Option String} {w : Write}
    (h : ∀ db v, Finds S past (held ++ locks) log db v → violated v = none →
      (∀ l ∈ w.needs (S.view log), l ∈ held ++ locks) ∧ w.may (S.view log) ∧
        Q () db (held ++ locks) (log ++ [w])) :
    S.Yields Q (write locks violated w) past held log := by
  refine ends_step fun fresh db v hfinds _ => ?_
  cases hviolated : violated v with
  | some name => simp [Scene.Settles, hviolated]
  | none =>
    simp only [hviolated]
    obtain ⟨hneeds, hmay, hQ⟩ := h db v hfinds hviolated
    exact ⟨⟨⟨hneeds, hmay⟩, trivial⟩, hQ⟩

theorem ends_newUuid {Q : Uuid → Db → List Lock → List Write → Prop}
    (h : ∀ id db v, Finds S past (held ++ [.identifier id]) log db v → Unused (S.view log) id →
      Q id db (held ++ [.identifier id]) log) :
    S.Ends Q E newUuid past held log :=
  ends_readLocked fun _ db v hfinds hfresh =>
    h _ db v hfinds ((unused_of_isFresh hfresh).later hfinds.later (by simp))

/-- A program that has to find something before it goes on. -/
theorem yields_orRaise {p : Action (Option γ)} {e : Failure} {k : γ → Action β}
    (h : S.Yields (fun o past' held' log' => ∀ c, o = some c → S.Yields Q (k c) past' held' log')
      p past held log) :
    S.Yields Q (p >>= fun o => Prog.orRaise o e >>= k) past held log :=
  .bind (h.mono (fun _ _ _ _ ho => .bind (.orRaise (fun _ => trivial) ho)) fun _ _ h => h)

theorem yields_require {c : Bool} {e : Failure} {k : Unit → Action β}
    (h : c = true → S.Yields Q (k ()) past held log) :
    S.Yields Q (Prog.require c e >>= k) past held log :=
  .bind (.require (fun _ => trivial) h)

end PiaOs

/-! ## What the repository does -/

namespace PiaOs

open Support Transactions

/-! ## Scoped lookups -/

section Lookups

variable {db : Db} {principal : String} {scheduleId id : Uuid}

theorem scheduleOf_eq_some {r : Schedule} : db.scheduleOf principal scheduleId = some r ↔
    db.schedules.lookup scheduleId = some r ∧ r.controlPrincipalRef = principal := by
  simp [Db.scheduleOf, Option.filter_eq_some_iff]

theorem owned_iff : db.owned principal scheduleId = true ↔
    ∃ r, db.schedules.lookup scheduleId = some r ∧ r.controlPrincipalRef = principal := by
  simp [Db.owned, Option.isSome_iff_exists, scheduleOf_eq_some]

theorem stepOf_eq_some {r : ScheduleStep} : db.stepOf principal scheduleId id = some r ↔
    db.steps.lookup id = some r ∧ r.scheduleId = scheduleId ∧
      db.owned principal scheduleId = true := by
  simp [Db.stepOf, Option.filter_eq_some_iff]

theorem attemptOf_eq_some {a : HandoffAttempt} : db.attemptOf principal scheduleId id = some a ↔
    db.attempts.lookup id = some a ∧ a.scheduleId = scheduleId ∧
      db.owned principal scheduleId = true := by
  simp [Db.attemptOf, Option.filter_eq_some_iff]

theorem delegationOf_eq_some {d : ServiceDelegation} :
    db.delegationOf principal scheduleId id = some d ↔
      db.delegations.lookup id = some d ∧ d.scheduleId = scheduleId ∧
        db.owned principal scheduleId = true := by
  simp [Db.delegationOf, Option.filter_eq_some_iff]

theorem mem_stepsOf {r : ScheduleStep} : r ∈ db.stepsOf principal scheduleId ↔
    (∃ k, db.steps.lookup k = some r) ∧ r.scheduleId = scheduleId ∧
      db.owned principal scheduleId = true := by
  simp [Db.stepsOf, Table.mem_select]

theorem mem_attemptsOf {a : HandoffAttempt} : a ∈ db.attemptsOf principal scheduleId ↔
    (∃ k, db.attempts.lookup k = some a) ∧ a.scheduleId = scheduleId ∧
      db.owned principal scheduleId = true := by
  simp [Db.attemptsOf, Table.mem_select]

theorem mem_delegationsOf {d : ServiceDelegation} : d ∈ db.delegationsOf principal scheduleId ↔
    (∃ k, db.delegations.lookup k = some d) ∧ d.scheduleId = scheduleId ∧
      db.owned principal scheduleId = true := by
  simp [Db.delegationsOf, Table.mem_select]

theorem mem_attemptsOfStep {a : HandoffAttempt} : a ∈ db.attemptsOfStep id ↔
    (∃ k, db.attempts.lookup k = some a) ∧ a.stepId = id := by
  simp [Db.attemptsOfStep, Table.mem_select]

end Lookups

namespace Repository

/-! ## Constraints -/

/-- The greatest number among the attempts of a step. -/
private theorem foldl_max_eq {attempts : List HandoffAttempt} {n : Nat}
    (h : ∀ m, (∃ a ∈ attempts, a.attemptNumber = m) ↔ 1 ≤ m ∧ m ≤ n) :
    attempts.foldl (fun n a => max n a.attemptNumber) 0 = n := by
  have hge : ∀ (l : List HandoffAttempt) (b : Nat),
      b ≤ l.foldl (fun n a => max n a.attemptNumber) b ∧
        ∀ a ∈ l, a.attemptNumber ≤ l.foldl (fun n a => max n a.attemptNumber) b := by
    intro l
    induction l with
    | nil => simp
    | cons c l ih =>
      intro b
      have := ih (max b c.attemptNumber)
      simp only [List.foldl_cons, List.mem_cons, forall_eq_or_imp]
      exact ⟨by omega, by omega, this.2⟩
  have hle : ∀ (l : List HandoffAttempt) (b : Nat), b ≤ n → (∀ a ∈ l, a.attemptNumber ≤ n) →
      l.foldl (fun n a => max n a.attemptNumber) b ≤ n := by
    intro l
    induction l with
    | nil => simp
    | cons c l ih =>
      intro b hb hl
      simp only [List.mem_cons, forall_eq_or_imp] at hl
      exact ih _ (max_le hb hl.1) hl.2
  have hupper := hle attempts 0 (Nat.zero_le _) fun a ha => ((h _).mp ⟨a, ha, rfl⟩).2
  rcases Nat.eq_zero_or_pos n with rfl | hpos
  · omega
  · obtain ⟨a, ha, hnumber⟩ := (h n).mpr ⟨hpos, le_refl n⟩
    have := (hge attempts 0).2 a ha
    omega

theorem attemptViolates_eq_none {row : HandoffAttempt} {db : Db} :
    attemptViolates row db = none ↔ db.attempts.lookup row.id = none ∧
      (∀ k a, db.attempts.lookup k = some a → a.stepId = row.stepId →
        a.attemptNumber ≠ row.attemptNumber) ∧
      ∀ k a, db.attempts.lookup k = some a → a.stepId = row.stepId → a.state ≠ .open := by
  unfold attemptViolates
  cases hlookup : db.attempts.lookup row.id with
  | some r => simp
  | none =>
    have hany : ∀ p : HandoffAttempt → Bool, (db.attemptsOfStep row.stepId).any p = false ↔
        ∀ k a, db.attempts.lookup k = some a → a.stepId = row.stepId → p a = false := by
      intro p
      simp only [List.any_eq_false, mem_attemptsOfStep, Bool.not_eq_true]
      constructor
      · exact fun h k a ha hstep => h a ⟨⟨k, ha⟩, hstep⟩
      · rintro h a ⟨⟨k, ha⟩, hstep⟩
        exact h k a ha hstep
    simp only [Option.isSome_none, Bool.false_eq_true, if_false, true_and]
    split
    case isTrue hnumber =>
      refine ⟨by simp, fun h => ?_⟩
      rw [(hany _).mpr fun k a ha hstep => by simpa using h.1 k a ha hstep] at hnumber
      simp at hnumber
    case isFalse hnumber =>
      rw [Bool.not_eq_true, hany] at hnumber
      split
      case isTrue hopen =>
        refine ⟨by simp, fun h => ?_⟩
        rw [(hany _).mpr fun k a ha hstep => by simpa using h.2 k a ha hstep] at hopen
        simp at hopen
      case isFalse hopen =>
        rw [Bool.not_eq_true, hany] at hopen
        exact ⟨fun _ => ⟨fun k a ha hstep => by simpa using hnumber k a ha hstep,
          fun k a ha hstep => by simpa using hopen k a ha hstep⟩, fun _ => rfl⟩

theorem perAttempt_eq_none {ρ : Type} {attemptId : Uuid} {table : Db → Table Uuid ρ} {name : String} {db : Db} :
    perAttempt table attemptId name db = none ↔ (table db).lookup attemptId = none := by
  unfold perAttempt
  cases (table db).lookup attemptId <;> simp

variable [Runtime] {S : Scene protocol} {past : Db} {held : List Lock} {log : List Write}
  {principal : String} {scheduleId stepId attemptId : Uuid}
  {E : Failure → List Write → Prop}

/-! ## Schedules and steps -/

section Schedules

theorem ends_databaseNow {Q : Instant → Db → List Lock → List Write → Prop}
    (h : ∀ db, Q S.now db held log) : S.Ends Q E databaseNow past held log :=
  ends_read fun _ db _ _ _ => h db

theorem ends_lockSchedule {Q : Option Schedule → Db → List Lock → List Write → Prop}
    (hnone : ∀ db v, Finds S past held log db v → v.scheduleOf principal scheduleId = none →
      Q none db held log)
    (hsome : ∀ db v held' r, Finds S past held' log db v → held ⊆ held' →
      .schedule scheduleId ∈ held' → (S.view log).schedules.lookup scheduleId = some r →
      r.controlPrincipalRef = principal → Q (some r) db held' log) :
    S.Ends Q E (lockSchedule principal scheduleId) past held log := by
  refine ends_readLocked fun fresh db v hfinds _ => ?_
  cases hr : v.scheduleOf principal scheduleId with
  | none =>
    have howned : v.owned principal scheduleId = false := by simp [Db.owned, hr]
    simp only [howned, Bool.false_eq_true, if_false, List.append_nil] at hfinds ⊢
    exact hnone db v hfinds hr
  | some r =>
    have howned : v.owned principal scheduleId = true := by simp [Db.owned, hr]
    obtain ⟨hlookup, hprincipal⟩ := scheduleOf_eq_some.mp hr
    simp only [howned, if_true] at hfinds ⊢
    have hlock : Lock.schedule scheduleId ∈ held ++ [.schedule scheduleId] := by simp
    refine hsome db v _ r hfinds (List.subset_append_left _ _) hlock ?_ hprincipal
    rw [← hfinds.later.schedules.locked_eq hlock]
    exact hlookup

theorem yields_setScheduleState {Q : Unit → Db → List Lock → List Write → Prop}
    {state : ScheduleState}
    (h : ∀ db held' r, held ⊆ held' → .schedule scheduleId ∈ held' →
      (S.view log).schedules.lookup scheduleId = some r → r.controlPrincipalRef = principal →
      Write.may (S.view log) (.setScheduleState scheduleId state) ∧
        Q () db held' (log ++ [.setScheduleState scheduleId state])) :
    S.Yields Q (setScheduleState principal scheduleId state) past held log := by
  refine yields_orRaise (ends_lockSchedule (by simp) ?_)
  rintro db v held' r - hheld hlock hr hprincipal _ -
  refine yields_write fun db' v' _ _ => ?_
  obtain ⟨hmay, hQ⟩ := h db' (held' ++ [.schedule scheduleId]) r
    (List.subset_append_of_subset_left _ hheld) (by simp) hr hprincipal
  exact ⟨by simp [Write.needs], hmay, hQ⟩

theorem ends_lockStep {Q : Option ScheduleStep → Db → List Lock → List Write → Prop}
    (hnone : ∀ db held', held ⊆ held' → Q none db held' log)
    (hsome : ∀ db v held' r, Finds S past held' log db v → held ⊆ held' →
      .step stepId ∈ held' → (S.view log).steps.lookup stepId = some r →
      r.scheduleId = scheduleId → Q (some r) db held' log) :
    S.Ends Q E (lockStep principal scheduleId stepId) past held log := by
  refine ends_readLocked fun fresh db v hfinds _ => ?_
  cases hr : v.stepOf principal scheduleId stepId with
  | none => exact hnone _ _ (List.subset_append_left _ _)
  | some r =>
    obtain ⟨hlookup, hschedule, -⟩ := stepOf_eq_some.mp hr
    simp only [hr, Option.isSome_some, if_true] at hfinds ⊢
    have hlock : Lock.step stepId ∈ held ++ [.step stepId] := by simp
    refine hsome db v _ r hfinds (List.subset_append_left _ _) hlock ?_ hschedule
    rw [← hfinds.later.steps.locked_eq hlock]
    exact hlookup

/-- A step write takes the lock of the step; that of its Schedule has to be there. -/
theorem yields_setStepState {Q : Unit → Db → List Lock → List Write → Prop} {state : StepState}
    (hschedule : state = .awaitingReturn ∨ .schedule scheduleId ∈ held)
    (h : ∀ db held' r, held ⊆ held' → .step stepId ∈ held' →
      (S.view log).steps.lookup stepId = some r → r.scheduleId = scheduleId →
      Write.may (S.view log) (.setStepState stepId state) ∧
        Q () db held' (log ++ [.setStepState stepId state])) :
    S.Yields Q (setStepState principal scheduleId stepId state) past held log := by
  refine yields_orRaise (ends_lockStep (by simp) ?_)
  rintro db v held' r - hheld hlock hr hscheduleId _ -
  refine yields_write fun db' v' _ _ => ?_
  obtain ⟨hmay, hQ⟩ := h db' (held' ++ [.step stepId]) r
    (List.subset_append_of_subset_left _ hheld) (by simp) hr hscheduleId
  refine ⟨?_, hmay, hQ⟩
  intro l hl
  simp only [Write.needs, hr, Option.map_some, Option.toList_some, hscheduleId, List.mem_cons] at hl
  rcases hl with rfl | hl
  · simp
  · split at hl
    · simp at hl
    · obtain rfl : l = .schedule scheduleId := by simpa using hl
      exact List.mem_append_left _ (hheld (hschedule.resolve_left ‹_›))

theorem ends_requireStep {Q : Unit → Db → List Lock → List Write → Prop}
    (h : ∀ db v r r', Finds S past held log db v → v.steps.lookup stepId = some r →
      r.scheduleId = scheduleId → (S.view log).steps.lookup stepId = some r' →
      StepChange held r r' → v.owned principal scheduleId = true → Q () db held log) :
    S.Yields Q (requireStep principal scheduleId stepId) past held log := by
  refine yields_orRaise (ends_read ?_)
  intro fresh db v hfinds _ r hr
  obtain ⟨hlookup, hschedule, howned⟩ := stepOf_eq_some.mp hr
  obtain ⟨r', hr', hchange⟩ := hfinds.later.steps.stays hlookup
  exact h db v r r' hfinds hlookup hschedule hr' hchange howned

end Schedules

/-! ## Attempts and what belongs to one attempt -/

section Attempts

theorem yields_nextAttemptNumber {Q : Nat → Db → List Lock → List Write → Prop}
    (h : ∀ db held' n r, held ⊆ held' → .step stepId ∈ held' →
      (S.view log).steps.lookup stepId = some r → r.scheduleId = scheduleId → 1 ≤ n →
      (∀ m, (S.view log).Numbered stepId m ↔ 1 ≤ m ∧ m < n) → Q n db held' log) :
    S.Yields Q (nextAttemptNumber principal scheduleId stepId) past held log := by
  refine yields_orRaise (ends_lockStep (by simp) ?_)
  rintro db v held' r - hheld hlock hr hschedule _ -
  refine .bind (ends_read fun fresh db' v' hfinds _ => ?_)
  have hsame : ∀ m, (S.view log).Numbered stepId m ↔ v'.Numbered stepId m := by
    intro m
    constructor
    · rintro ⟨k, a, ha, hstep, hnumber⟩
      obtain ⟨a', ha', hchange⟩ | ⟨-, -, -, hfree⟩ := hfinds.later.attempts.origin ha
      · exact ⟨k, a', ha', hchange.stepId ▸ hstep, hchange.attemptNumber ▸ hnumber⟩
      · exact (hfree (hstep ▸ hlock)).elim
    · rintro ⟨k, a, ha, hstep, hnumber⟩
      obtain ⟨a', ha', hchange⟩ := hfinds.later.attempts.stays ha
      exact ⟨k, a', ha', hchange.stepId.trans hstep, hchange.attemptNumber.trans hnumber⟩
  obtain ⟨n, hn⟩ := hfinds.wf.numbering stepId
  have hnumbers : ∀ m, (∃ a ∈ v'.attemptsOfStep stepId, a.attemptNumber = m) ↔
      1 ≤ m ∧ m ≤ n := fun m => by
    rw [← hn m]
    constructor
    · rintro ⟨a, ha, hnumber⟩
      obtain ⟨⟨k, hk⟩, hstep⟩ := mem_attemptsOfStep.mp ha
      exact ⟨k, a, hk, hstep, hnumber⟩
    · rintro ⟨k, a, hk, hstep, hnumber⟩
      exact ⟨a, mem_attemptsOfStep.mpr ⟨⟨k, hk⟩, hstep⟩, hnumber⟩
  rw [foldl_max_eq hnumbers]
  refine h db' held' (n + 1) r hheld hlock hr hschedule (by omega) fun m => ?_
  rw [hsame, hn]
  omega

/-- The attempts of a locked step are those that were found, and none has reopened. -/
theorem no_open_of_locked {db v : Db} (hfinds : Finds S past held log db v)
    (hlock : .step stepId ∈ held)
    (hopen : ∀ k a, v.attempts.lookup k = some a → a.stepId = stepId → a.state ≠ .open) :
    ∀ k a, (S.view log).attempts.lookup k = some a → a.stepId = stepId → a.state ≠ .open := by
  intro k a ha hstep hstate
  obtain ⟨a', ha', hchange⟩ | ⟨-, -, -, hfree⟩ := hfinds.later.attempts.origin ha
  · have hclosed := hopen k a' ha' (hchange.stepId ▸ hstep)
    exact hclosed (hchange.closed hclosed ▸ hstate)
  · exact hfree (hstep ▸ hlock)

theorem yields_createAttempt {Q : HandoffAttempt → Db → List Lock → List Write → Prop}
    {attemptNumber : Nat} {envelopeVersion contentSha256 : String}
    (hid : .identifier attemptId ∈ held) (hlock : .step stepId ∈ held)
    (hunused : (S.view log).attempts.lookup attemptId = none) (hpos : 1 ≤ attemptNumber)
    (hnumber : ∀ m, (S.view log).Numbered stepId m ↔ 1 ≤ m ∧ m < attemptNumber)
    (hstep : ∃ r s, (S.view log).steps.lookup stepId = some r ∧ r.scheduleId = scheduleId ∧
      (S.view log).schedules.lookup scheduleId = some s ∧ s.state ≠ .draft)
    (h : ∀ db held' a, held ⊆ held' → .attempt attemptId ∈ held' →
      a = ⟨attemptId, scheduleId, stepId, attemptNumber, envelopeVersion, contentSha256, .open,
        S.now⟩ →
      (∀ k b, (S.view log).attempts.lookup k = some b → b.stepId = stepId → b.state ≠ .open) →
      Q a db held' (log ++ [.insertAttempt a])) :
    S.Yields Q (createAttempt principal attemptId scheduleId stepId attemptNumber envelopeVersion
      contentSha256) past held log := by
  refine .bind (ends_requireStep fun db v r r' _ _ _ _ _ _ => ?_)
  refine .bind (ends_databaseNow fun db' => ?_)
  refine .bind (yields_write fun db'' v'' hfinds hviolated => ?_)
  obtain ⟨-, -, hopen⟩ := attemptViolates_eq_none.mp hviolated
  have hopen' := no_open_of_locked hfinds (List.mem_append_left _ hlock) hopen
  refine ⟨?_, ⟨hunused, rfl, hpos, hnumber, hopen', hstep⟩, ?_⟩
  · simp [Write.needs, hid]
  · exact h db'' _ _ (List.subset_append_left _ _) (by simp) rfl hopen'

/-- The check that the attempt is one of the Schedule. -/
theorem yields_requireAttempt {Q : Unit → Db → List Lock → List Write → Prop}
    (h : ∀ db v a, Finds S past held log db v →
      (S.view log).attempts.lookup attemptId = some a → a.scheduleId = scheduleId →
      Q () db held log) :
    S.Yields Q (requireAttempt principal scheduleId attemptId) past held log := by
  refine yields_orRaise (ends_read ?_)
  intro fresh db v hfinds _ a ha
  obtain ⟨hlookup, hschedule, -⟩ := attemptOf_eq_some.mp ha
  obtain ⟨a', ha', hchange⟩ := hfinds.later.attempts.stays hlookup
  exact h db v a' hfinds ha' (hchange.scheduleId.trans hschedule)

theorem yields_createSealReceipt {Q : SealReceipt → Db → List Lock → List Write → Prop}
    {contentSha256 sealerRef : String} {sealedAt : Instant}
    (h : ∀ db held' id, held ⊆ held' →
      Q ⟨id, attemptId, contentSha256, sealedAt, sealerRef⟩ db held'
        (log ++ [.insertSeal ⟨id, attemptId, contentSha256, sealedAt, sealerRef⟩])) :
    S.Yields Q (createSealReceipt principal scheduleId attemptId contentSha256 sealedAt sealerRef)
      past held log := by
  refine .bind (yields_requireAttempt fun db v a _ ha _ => ?_)
  refine .bind (ends_newUuid fun id db' v' _ _ => ?_)
  refine .bind (yields_write fun db'' v'' hfinds hviolated => ?_)
  rw [perAttempt_eq_none, hfinds.later.seals.locked_eq (List.mem_append_right _ (by simp))]
    at hviolated
  exact ⟨by simp [Write.needs], ⟨hviolated, a, ha⟩, h db'' _ id (by simp)⟩

theorem ends_lockAttempt {Q : Option HandoffAttempt → Db → List Lock → List Write → Prop}
    (hnone : ∀ db held', held ⊆ held' → Q none db held' log)
    (hsome : ∀ db v held' a, Finds S past held' log db v → held ⊆ held' →
      .attempt attemptId ∈ held' → (S.view log).attempts.lookup attemptId = some a →
      a.scheduleId = scheduleId → Q (some a) db held' log) :
    S.Ends Q E (lockAttempt principal scheduleId attemptId) past held log := by
  refine ends_readLocked fun fresh db v hfinds _ => ?_
  cases ha : v.attemptOf principal scheduleId attemptId with
  | none => exact hnone _ _ (List.subset_append_left _ _)
  | some a =>
    obtain ⟨hlookup, hschedule, -⟩ := attemptOf_eq_some.mp ha
    simp only [ha, Option.isSome_some, if_true] at hfinds ⊢
    have hlock : Lock.attempt attemptId ∈ held ++ [.attempt attemptId] := by simp
    refine hsome db v _ a hfinds (List.subset_append_left _ _) hlock ?_ hschedule
    rw [← hfinds.later.attempts.locked_eq hlock]
    exact hlookup

theorem yields_setAttemptState {Q : Unit → Db → List Lock → List Write → Prop}
    {state : AttemptState} (hschedule : .schedule scheduleId ∈ held)
    (h : ∀ db held' a, held ⊆ held' → .attempt attemptId ∈ held' →
      (S.view log).attempts.lookup attemptId = some a → a.scheduleId = scheduleId →
      Write.may (S.view log) (.setAttemptState attemptId state) ∧
        Q () db held' (log ++ [.setAttemptState attemptId state])) :
    S.Yields Q (setAttemptState principal scheduleId attemptId state) past held log := by
  refine yields_orRaise (ends_lockAttempt (by simp) ?_)
  rintro db v held' a - hheld hlock ha hscheduleId _ -
  refine yields_write fun db' v' _ _ => ?_
  obtain ⟨hmay, hQ⟩ := h db' (held' ++ [.attempt attemptId]) a
    (List.subset_append_of_subset_left _ hheld) (by simp) ha hscheduleId
  refine ⟨?_, hmay, hQ⟩
  have hin : Lock.schedule scheduleId ∈ held' := hheld hschedule
  simp [Write.needs, ha, hscheduleId, hin]

theorem yields_createHandoffResult {Q : HandoffResult → Db → List Lock → List Write → Prop}
    {status : HandoffResultStatus} {contract mediaType sha256 : String} {bytes : Nat}
    {ref : Option String} {codes : List String}
    (hopen : ∃ a, (S.view log).attempts.lookup attemptId = some a ∧ a.state = .open)
    (h : ∀ db held' id, held ⊆ held' →
      Q ⟨id, attemptId, status, contract, mediaType, sha256, bytes, ref, codes⟩ db held'
        (log ++ [.insertResult
          ⟨id, attemptId, status, contract, mediaType, sha256, bytes, ref, codes⟩])) :
    S.Yields Q (createHandoffResult principal scheduleId attemptId status contract mediaType sha256
      bytes ref codes) past held log := by
  refine .bind (yields_requireAttempt fun db v a _ ha _ => ?_)
  refine .bind (ends_newUuid fun id db' v' _ hunused => ?_)
  refine .bind (yields_write fun db'' v'' hfinds hviolated => ?_)
  rw [perAttempt_eq_none, hfinds.later.results.locked_eq (List.mem_append_right _ (by simp))]
    at hviolated
  exact ⟨by simp [Write.needs], ⟨hviolated, hunused.results, hopen⟩, h db'' _ id (by simp)⟩

theorem yields_createHandoffAttribution
    {Q : HandoffAttribution → Db → List Lock → List Write → Prop}
    {role : String} {provider model : Option String} {instanceId : String} {declaredAt : Instant}
    (hopen : ∃ a, (S.view log).attempts.lookup attemptId = some a ∧ a.state = .open)
    (h : ∀ db held' id, held ⊆ held' →
      Q ⟨id, attemptId, role, provider, model, instanceId, declaredAt, true, none⟩ db held'
        (log ++ [.insertAttribution
          ⟨id, attemptId, role, provider, model, instanceId, declaredAt, true, none⟩])) :
    S.Yields Q (createHandoffAttribution principal scheduleId attemptId role provider model
      instanceId declaredAt) past held log := by
  refine .bind (yields_requireAttempt fun db v a _ ha _ => ?_)
  refine .bind (ends_newUuid fun id db' v' _ _ => ?_)
  refine .bind (yields_write fun db'' v'' hfinds hviolated => ?_)
  rw [perAttempt_eq_none, hfinds.later.attributions.locked_eq (List.mem_append_right _ (by simp))]
    at hviolated
  exact ⟨by simp [Write.needs], ⟨hviolated, hopen⟩, h db'' _ id (by simp)⟩

end Attempts

end Repository

end PiaOs
