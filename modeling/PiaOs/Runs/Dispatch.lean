import PiaOs.Runs.Traces

/-!
# When a step is dispatched

Every move to `AWAITING_RETURN` is the last write of one of the two exports. The manual
export makes it under the lock of the Schedule, so the order of the steps and the gate
hold at that moment; the supervised export judges neither.
-/

namespace PiaOs

open Support Transactions Repository

/-- The rows of a manual export. -/
def Dispatch.rows (m : Dispatch) (now : Instant) : List Write :=
  setAll m.expired .expired ++
    (m.consumed.map fun d => .consumeDelegation d.id now m.attempt.id).toList ++
    [.insertAttempt m.attempt, .insertSeal m.receipt] ++ (m.profile.map .insertProfile).toList ++
    [.insertExecution m.execution]

/-- The writes of a manual export before its last one. -/
def Dispatch.front (m : Dispatch) (now : Instant) (stepId : Uuid) : List Write :=
  m.rows now ++ if m.first then [.setStepState stepId .dispatched] else []

section Front

variable {m : Dispatch} {now : Instant} {stepId : Uuid}

theorem Dispatch.writes_eq :
    m.writes now stepId = m.front now stepId ++ [.setStepState stepId .awaitingReturn] := by
  simp only [Dispatch.writes, Dispatch.front, Dispatch.rows, moves, List.append_assoc]

theorem Dispatch.mem_rows {w : Write} (hw : w ∈ m.rows now) :
    w.table ∉ [TableName.schedules, .steps, .results] := by
  simp only [Dispatch.rows, List.mem_append, List.mem_cons, List.not_mem_nil, or_false,
    Option.mem_toList, Option.map_eq_some_iff, List.mem_map] at hw
  obtain (((⟨_, -, rfl⟩ | ⟨_, -, rfl⟩) | rfl | rfl) | ⟨_, -, rfl⟩) | rfl := hw <;>
    simp [Write.table]

/-- What a step is like after the first writes of a manual export. -/
theorem Dispatch.front_steps (V : Db) (k : Uuid) :
    (applyAll Db.apply (m.front now stepId) V).steps.lookup k =
      if k = stepId ∧ m.first = true then
        (V.steps.lookup k).map fun r => { r with state := .dispatched }
      else V.steps.lookup k := by
  have hrows : (applyAll Db.apply (m.rows now) V).steps = V.steps :=
    sameTable_applyAll (t := .steps) fun w hw heq => m.mem_rows hw (by simp [heq])
  rw [Dispatch.front, applyAll_append]
  cases m.first with
  | false => simp [hrows]
  | true =>
    simp only [if_true, applyAll_cons, applyAll_nil, Db.apply, Table.lookup_modify, and_true, hrows]
    by_cases hk : k = stepId
    · subst hk
      simp
    · simp [hk]

theorem Dispatch.front_schedules (V : Db) :
    (applyAll Db.apply (m.front now stepId) V).schedules = V.schedules := by
  refine sameTable_applyAll (t := .schedules) fun w hw heq => ?_
  rcases List.mem_append.mp hw with hw | hw
  · exact m.mem_rows hw (by simp [heq])
  · split at hw
    · obtain rfl := List.mem_singleton.mp hw
      simp [Write.table] at heq
    · simp at hw

theorem Dispatch.moved_notMem_front {k : Uuid} :
    .setStepState k .awaitingReturn ∉ m.front now stepId := by
  intro hw
  rcases List.mem_append.mp hw with hw | hw
  · exact m.mem_rows hw (by simp [Write.table])
  · split at hw <;> simp at hw

end Front

section Deeds

variable [Runtime] {began V : Db} {now : Instant} {request : Request} {a : Answer}

/-- A move to `AWAITING_RETURN` is made by an export. -/
inductive Moved (began V : Db) (now : Instant) (stepId : Uuid) :
    Request → List Write → List Write → Prop
  | manual (request : Request) (principal : String) (scheduleId outcomeRef : Uuid) (m : Dispatch) :
    Exported V now principal scheduleId stepId outcomeRef m →
    Moved began V now stepId request (m.front now stepId) []
  | supervised (protecao : GatePosition → ProtectionDecision) (caller : Caller) (scheduleId : Uuid)
      (outcomeRef : Uuid) (row : HandoffAttempt) (s : SealReceipt) (r : ScheduleStep) :
    Opened began V caller.principalRef scheduleId stepId outcomeRef row →
    V.steps.lookup stepId = some r → r.state = .pending ∨ r.state = .awaitingReturn →
    Moved began V now stepId (.exportarMcp protecao caller scheduleId stepId)
      [.insertAttempt row, .insertSeal s] []

theorem Deed.moved {core mid post : List Write} {k : Uuid}
    (h : Deed began V now request a core) (hcore : core = mid ++ .setStepState k .awaitingReturn :: post) :
    Moved began V now k request mid post := by
  have hmem : .setStepState k .awaitingReturn ∈ core := by simp [hcore]
  cases h with
  | idle _ _ ws hws => exact absurd (hws _ hmem) (by simp [Write.table, workTables])
  | created _ _ scheduleId principal draft mode ids post hpost =>
    rcases hpost with rfl | rfl <;> simp [creation] at hmem
  | activated => simp at hmem
  | paused => simp at hmem
  | sealed => simp at hmem
  | exported request a principal scheduleId stepId outcomeRef m hexported =>
    rw [m.writes_eq] at hcore
    obtain ⟨rfl, hw, rfl⟩ := (List.append_cons_inj_of_notMem m.moved_notMem_front
      (by simp)).mp hcore
    obtain ⟨rfl, -⟩ := Write.setStepState.inj hw
    exact .manual request principal scheduleId outcomeRef m hexported
  | supervised protecao caller scheduleId stepId a outcomeRef row s r hopened hr hstate =>
    obtain ⟨rfl, hw, rfl⟩ := (@List.append_cons_inj_of_notMem _ [_, _] _ _ _ _ _ (by simp)
      (by simp)).mp hcore
    obtain ⟨rfl, -⟩ := Write.setStepState.inj hw
    exact .supervised protecao caller scheduleId outcomeRef row s r hopened hr hstate
  | imported comControle caller scheduleId stepId attemptId raw attribution a m accepted ws himported =>
    obtain ⟨g, -, -, hafter⟩ := himported.schedule
    rcases List.mem_append.mp hmem with hin | hin
    · exact absurd (ReturnRows.writes_table hin) (by simp [Write.table])
    · cases hafter with
      | rejected => simp at hin
      | alone => simp at hin
      | controlled ws _ hcompletion => cases hcompletion <;> simp at hin
  | controlled caller scheduleId action categoria recibo g e destino counts ws _ _ _ hcontent =>
    cases hcontent <;> simp [cancelWrites] at hmem

end Deeds

/-- The moves to `AWAITING_RETURN` of a commit: the store right before each of them, and the
step as it is there. -/
def dispatches (c : Commit) : List (Db × ScheduleStep) :=
  (trail Db.apply c.log c.before).filterMap fun p =>
    match p.2 with
    | .setStepState stepId .awaitingReturn =>
      ((p.1.steps.lookup stepId).filter fun r => r.state != .awaitingReturn).map fun r => (p.1, r)
    | _ => none

theorem mem_dispatches {c : Commit} {V : Db} {r : ScheduleStep} : (V, r) ∈ dispatches c ↔
    ∃ front stepId post, c.log = front ++ .setStepState stepId .awaitingReturn :: post ∧
      V = applyAll Db.apply front c.before ∧ V.steps.lookup stepId = some r ∧
      r.state ≠ .awaitingReturn := by
  simp only [dispatches, List.mem_filterMap, Prod.exists, mem_trail]
  constructor
  · rintro ⟨V', w, ⟨front, post, hlog, hV⟩, hw⟩
    split at hw
    case h_1 stepId =>
      obtain ⟨r', hr', heq⟩ := Option.map_eq_some_iff.mp hw
      obtain ⟨rfl, rfl⟩ := Prod.mk.inj heq
      obtain ⟨hlookup, hstate⟩ := Option.filter_eq_some_iff.mp hr'
      exact ⟨front, stepId, post, hlog, hV, hlookup, by simpa using hstate⟩
    case h_2 => simp at hw
  · rintro ⟨front, stepId, post, hlog, hV, hlookup, hstate⟩
    exact ⟨V, _, ⟨front, post, hlog, hV⟩, by simp [hlookup, hstate, Option.filter]⟩

/-- The step of a supervised export that ran, as it was right before the commit. -/
def supervisedStep (c : Commit) : Option ScheduleStep :=
  match c.request with
  | .exportarMcp _ _ _ stepId => if c.log.isEmpty then none else c.before.steps.lookup stepId
  | _ => none

/-- A write to the work stands after the receipts and delegations of its commit. -/
theorem Done.at_write [Runtime] {c : Commit} {pre core front post : List Write} {w : Write}
    (h : Done c pre core) (hlog : c.log = front ++ w :: post) (hw : w.table ∈ workTables) :
    ∃ mid, front = pre ++ mid ∧ core = mid ++ w :: post := by
  rw [h.log] at hlog
  rcases List.append_eq_append_iff.mp hlog with ⟨mid, hfront, hcore⟩ | ⟨mid, hpre, hcore⟩
  · exact ⟨mid, hfront, hcore⟩
  · cases mid with
    | nil => exact ⟨[], by simpa using hpre.symm, by simpa using hcore.symm⟩
    | cons x mid =>
      -- The write would be a receipt or a delegation.
      obtain ⟨rfl, -⟩ := List.cons.inj hcore
      rcases h.aside.table (w := w) (by simp [hpre]) with heq | heq <;> simp [heq, workTables] at hw

section Order

/-- The Schedule of a step is active and every earlier step of it has returned. -/
structure InOrder (db : Db) (r : ScheduleStep) : Prop where
  active : ∃ g, db.schedules.lookup r.scheduleId = some g ∧ g.state = .active
  predecessors : ∀ k s, db.steps.lookup k = some s → s.scheduleId = r.scheduleId →
    s.position < r.position → s.state = .returned

instance (db : Db) (r : ScheduleStep) : Decidable (InOrder db r) :=
  decidable_of_iff
    ((∃ g ∈ db.schedules.lookup r.scheduleId, g.state = .active) ∧
      ∀ s ∈ Table.rows db.steps, s.scheduleId = r.scheduleId → s.position < r.position →
        s.state = .returned)
    ⟨fun h => ⟨h.1, fun k s hs => h.2 s (Table.mem_rows.mpr ⟨k, hs⟩)⟩, fun h => ⟨h.active,
      fun s hs => by
        obtain ⟨k, hk⟩ := Table.mem_rows.mp hs
        exact h.predecessors k s hk⟩⟩

/-- The order only looks at the Schedules, and at the steps without the step itself. -/
theorem InOrder.transfer {db db' : Db} {k : Uuid} {r r' : ScheduleStep} (h : InOrder db r)
    (hr' : db'.steps.lookup k = some r') (hschedule : r'.scheduleId = r.scheduleId)
    (hposition : r'.position = r.position) (hschedules : db'.schedules = db.schedules)
    (hsteps : ∀ k', k' ≠ k → db'.steps.lookup k' = db.steps.lookup k') : InOrder db' r' where
  active := by
    rw [hschedules, hschedule]
    exact h.active
  predecessors := by
    intro k' s hs hs' hlt
    have hne : k' ≠ k := by
      rintro rfl
      obtain rfl := Option.some.inj (hs.symm.trans hr')
      exact absurd hlt (lt_irrefl _)
    rw [hsteps k' hne] at hs
    exact h.predecessors k' s hs (hs'.trans hschedule) (hposition ▸ hlt)

variable [Runtime] {s : Orchestration}

/-- A manual export moves its step in order. -/
theorem Exported.in_order {V : Db} {now : Instant} {principal : String}
    {scheduleId stepId outcomeRef : Uuid} {m : Dispatch} {r : ScheduleStep}
    (h : Exported V now principal scheduleId stepId outcomeRef m)
    (hr : (applyAll Db.apply (m.front now stepId) V).steps.lookup stepId = some r) :
    InOrder (applyAll Db.apply (m.front now stepId) V) r := by
  obtain ⟨g, hg, -, hactive⟩ := h.schedule
  obtain ⟨r₀, gate, hr₀, hschedule, -, hpredecessors, -⟩ := h.step
  have hsame : r.scheduleId = r₀.scheduleId ∧ r.position = r₀.position := by
    rw [m.front_steps, hr₀] at hr
    split at hr <;> obtain rfl := Option.some.inj hr <;> exact ⟨rfl, rfl⟩
  have horder : InOrder V r₀ :=
    ⟨⟨g, hschedule ▸ hg, hactive⟩, fun k s hs hs' => hpredecessors k s hs (hs'.trans hschedule)⟩
  refine horder.transfer hr hsame.1 hsame.2 (m.front_schedules V) fun k' hk => ?_
  rw [m.front_steps, if_neg fun h => hk h.1]

/-- Whenever an export moves a step to `AWAITING_RETURN`, its Schedule is active and every
earlier step has returned, provided that this is so of the stores to which the supervised
exports of pending steps are committed. -/
theorem dispatched_in_order (h : Reachable s)
    (hsupervised : ∀ c ∈ s.history, ∀ r ∈ supervisedStep c, r.state = .pending →
      InOrder c.before r) :
    ∀ c ∈ s.history, ∀ p ∈ dispatches c, InOrder p.1 p.2 := by
  rintro c hc ⟨V, r⟩ hp
  obtain ⟨front, stepId, post, hlog, rfl, hr, hstate⟩ := mem_dispatches.mp hp
  obtain ⟨pre, core, hdone⟩ := done_of_sound ((commits_of_reachable h).sound hc)
  obtain ⟨mid, rfl, hcore⟩ := hdone.at_write hlog (by simp [Write.table, workTables])
  have hmoved := hdone.deed.moved hcore
  rw [applyAll_append] at hr ⊢
  generalize hrequest : c.request = request at hmoved
  cases hmoved with
  | manual request principal scheduleId outcomeRef m hexported => exact hexported.in_order hr
  | supervised protecao caller scheduleId outcomeRef row receipt r₀ hopened hr₀ hpending =>
    -- The seal and its attempt leave the steps and the Schedules alone.
    obtain rfl : r₀ = r := Option.some.inj (hr₀.symm.trans hr)
    have hfound : r₀ ∈ supervisedStep c := by
      simp [supervisedStep, hrequest, hlog, ← hdone.same.steps, hr₀]
    refine (hsupervised c hc r₀ hfound (hpending.resolve_right hstate)).transfer hr rfl rfl
      hdone.same.schedules fun k' _ => ?_
    exact congrArg (AList.lookup k') hdone.same.steps

end Order

/-- A supervised export of the first step of an active Schedule. -/
def inOrder : List (Label Request) :=
  alone 0 (.criarSchedule (Sample.caller "a") Sample.twoSteps .manualHandoff) 0 1 17 ++
    alone 1 (.exportarMcp Sample.allow (Sample.caller "b") ⟨1⟩ ⟨5⟩) 1 20 17

theorem dispatched_in_order_first : ∃ s : Orchestration, Reachable s ∧
    s.history.flatMap dispatches ≠ [] ∧ ∀ c ∈ s.history, ∀ p ∈ dispatches c, InOrder p.1 p.2 := by
  obtain ⟨s, hreach, htest⟩ := exists_reachable inOrder (fun s =>
    decide (s.history.flatMap dispatches ≠ [] ∧ ∀ c ∈ s.history, ∀ r ∈ supervisedStep c,
      r.state = .pending → InOrder c.before r)) (by decide +kernel)
  obtain ⟨hsome, hsupervised⟩ := of_decide_eq_true htest
  exact ⟨s, hreach, hsome, dispatched_in_order hreach hsupervised⟩

/-- A supervised export of the second step before the first has returned. -/
def outOfOrder : List (Label Request) :=
  alone 0 (.criarSchedule (Sample.caller "a") Sample.twoSteps .manualHandoff) 0 1 17 ++
    alone 1 (.exportarMcp Sample.allow (Sample.caller "b") ⟨1⟩ ⟨7⟩) 1 20 17

theorem dispatched_out_of_order :
    ¬ ∀ s : Orchestration, Reachable s → ∀ c ∈ s.history, ∀ p ∈ dispatches c, InOrder p.1 p.2 := by
  intro hall
  obtain ⟨s, hreach, htest⟩ := exists_reachable outOfOrder
    (fun s => decide (¬ ∀ c ∈ s.history, ∀ p ∈ dispatches c, InOrder p.1 p.2)) (by decide +kernel)
  exact of_decide_eq_true htest (hall s hreach)

end PiaOs
