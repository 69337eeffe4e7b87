import PiaOs.Runs.Attempts

/-!
# After the end of a work

A transaction that finds its Schedule in a terminal state changes nothing under it, with
two exceptions: the return of an attempt that was left open can still be imported into a
stopped work, and a seal that began before the end does not see it.
-/

namespace PiaOs

open Support Transactions Repository

/-- The rows that satisfy `under` are the same in both tables. -/
def Untouched {ρ : Type} (under : Uuid → ρ → Prop) (t t' : Table Uuid ρ) : Prop :=
  ∀ k r, under k r → (t.lookup k = some r ↔ t'.lookup k = some r)

/-- The steps, attempts and results under a Schedule are the same. To which Schedule a
result belongs is read from the attempts of `W`. -/
structure SameUnder (W : Db) (id : Uuid) (db db' : Db) : Prop where
  steps : Untouched (fun _ r => r.scheduleId = id) db.steps db'.steps
  attempts : Untouched (fun _ a => a.scheduleId = id) db.attempts db'.attempts
  results : Untouched (fun k _ => ∃ a, W.attempts.lookup k = some a ∧ a.scheduleId = id)
    db.results db'.results

section Untouched

variable {ρ : Type} {under : Uuid → ρ → Prop} {t t' t'' : Table Uuid ρ}

theorem Untouched.refl : Untouched under t t := fun _ _ _ => Iff.rfl

theorem Untouched.trans (h : Untouched under t t') (h' : Untouched under t' t'') :
    Untouched under t t'' := fun k r hu => (h k r hu).trans (h' k r hu)

theorem Untouched.insert {k : Uuid} {row : ρ} (hfree : t.lookup k = none) (hrow : ¬ under k row) :
    Untouched under t (t.insert k row) := by
  intro k' r hu
  rw [Table.lookup_insert_ite]
  split
  case isTrue heq =>
    subst heq
    rw [hfree]
    refine iff_of_false (by simp) fun h => ?_
    obtain rfl := Option.some.inj h
    exact hrow hu
  case isFalse => rfl

theorem Untouched.modify {k : Uuid} {f : ρ → ρ}
    (h : ∀ r, t.lookup k = some r → ¬ under k r ∧ ¬ under k (f r)) :
    Untouched under t (Table.modify k f t) := by
  intro k' r hu
  rw [Table.lookup_modify]
  split
  case isTrue heq =>
    subst heq
    refine iff_of_false (fun hr => (h r hr).1 hu) fun hr => ?_
    obtain ⟨r₀, hr₀, rfl⟩ := Option.map_eq_some_iff.mp hr
    exact (h r₀ hr₀).2 hu
  case isFalse => rfl

end Untouched

/-- A write that concerns no row under the Schedule, as the store is in the end. -/
def Write.Avoids (W : Db) (id : Uuid) : Write → Prop
  | .insertStep row => row.scheduleId ≠ id
  | .setStepState k _ => ∀ r, W.steps.lookup k = some r → r.scheduleId ≠ id
  | .insertAttempt row => row.scheduleId ≠ id
  | .setAttemptState k _ => ∀ a, W.attempts.lookup k = some a → a.scheduleId ≠ id
  | .insertResult row => ∀ a, W.attempts.lookup row.attemptId = some a → a.scheduleId ≠ id
  | _ => True

section Store

variable {V W : Db} {w : Write} {ws : List Write} {id : Uuid} {held : List Lock}

theorem Write.Avoids.of_table (h : w.table ∉ workTables) : w.Avoids W id := by
  cases w with
  | insertStep => simp [Write.table, workTables] at h
  | setStepState => simp [Write.table, workTables] at h
  | insertAttempt => simp [Write.table, workTables] at h
  | setAttemptState => simp [Write.table, workTables] at h
  | insertResult => simp [Write.table, workTables] at h
  | _ => trivial

theorem SameUnder.refl : SameUnder W id V V := ⟨.refl, .refl, .refl⟩

theorem SameUnder.apply (hlater : Later held V W) (hmay : w.may V) (hw : w.Avoids W id) :
    SameUnder W id V (Db.apply w V) := by
  have hrefl : SameUnder W id V V := .refl
  cases w with
  | insertStep row => exact { hrefl with steps := .insert hmay.1 hw }
  | setStepState k state =>
    refine { hrefl with steps := .modify fun r hr => ?_ }
    obtain ⟨r', hr', hchange⟩ := hlater.steps.stays hr
    have hne : r.scheduleId ≠ id := hchange.scheduleId ▸ hw r' hr'
    exact ⟨hne, hne⟩
  | insertAttempt row => exact { hrefl with attempts := .insert hmay.1 hw }
  | setAttemptState k state =>
    refine { hrefl with attempts := .modify fun a ha => ?_ }
    obtain ⟨a', ha', hchange⟩ := hlater.attempts.stays ha
    have hne : a.scheduleId ≠ id := hchange.scheduleId ▸ hw a' ha'
    exact ⟨hne, hne⟩
  | insertResult row =>
    exact { hrefl with results := .insert hmay.1 fun ⟨a, ha, heq⟩ => hw a ha heq }
  | _ => exact { hrefl with }

variable [Runtime]

/-- Writes that avoid a Schedule leave everything under it as it is. -/
theorem SameUnder.applyAll (hguarded : protocol.Guarded held V ws)
    (hlater : Later [] (applyAll Db.apply ws V) W) (hws : ∀ w ∈ ws, w.Avoids W id) :
    SameUnder W id V (applyAll Db.apply ws V) := by
  induction ws generalizing V with
  | nil => exact .refl
  | cons w ws ih =>
    obtain ⟨⟨-, hmay⟩, hrest⟩ := hguarded
    have hfirst : SameUnder W id V (Db.apply w V) := .apply
      ((Later.of_write (by simp) hmay).trans ((Later.of_guarded hrest).trans hlater)) hmay
      (hws w List.mem_cons_self)
    have hrest' := ih hrest hlater fun w' hw' => hws w' (List.mem_cons_of_mem _ hw')
    exact ⟨hfirst.steps.trans hrest'.steps, hfirst.attempts.trans hrest'.attempts,
      hfirst.results.trans hrest'.results⟩

end Store

/-- The return of an attempt that was left open, and nothing else under the Schedule. -/
structure LateReturn (c : Commit) (id stepId attemptId : Uuid) : Prop where
  attempt : ∃ a closed, c.before.attempts.lookup attemptId = some a ∧ a.scheduleId = id ∧
    a.stepId = stepId ∧ a.state = .open ∧ closed ≠ .open ∧
    (after c).attempts.lookup attemptId = some { a with state := closed }
  step : ∃ r, c.before.steps.lookup stepId = some r ∧ r.state = .awaitingReturn ∧
    ((after c).steps.lookup stepId = some r ∨
      (after c).steps.lookup stepId = some { r with state := .returned })
  result : ∃ x, (after c).results.lookup attemptId = some x
  attempts : ∀ k, k ≠ attemptId → (after c).attempts.lookup k = c.before.attempts.lookup k
  results : ∀ k, k ≠ attemptId → (after c).results.lookup k = c.before.results.lookup k
  steps : ∀ k, k ≠ stepId → (after c).steps.lookup k = c.before.steps.lookup k

/-- The steps and results are the same, and so is every attempt that was there. -/
structure OnlyOpens (c : Commit) (id : Uuid) : Prop where
  steps : Untouched (fun _ r => r.scheduleId = id) c.before.steps (after c).steps
  attempts : ∀ k a, c.before.attempts.lookup k = some a → (after c).attempts.lookup k = some a
  results : (after c).results = c.before.results

/-- A seal or a supervised export of a step of the Schedule. -/
def Request.seals (id : Uuid) : Request → Prop
  | .sealHandoffOnce _ scheduleId _ _ | .exportarMcp _ _ scheduleId _ => scheduleId = id
  | _ => False

/-- What a commit may do under a Schedule that it finds in a terminal state. -/
inductive AfterTerminal (c : Commit) (id : Uuid) (state : ScheduleState) : Prop
  | untouched : SameUnder (after c) id c.before (after c) → AfterTerminal c id state
  | imported (comControle : Bool) (caller : Caller) (stepId attemptId : Uuid) (raw : RawReturn)
      (attribution : DeclaredAttribution) :
    c.request = .importReturnOnce comControle caller id stepId attemptId raw attribution →
    state = .stopped → LateReturn c id stepId attemptId → AfterTerminal c id state
  | overtaken : c.request.seals id →
    (∀ g, c.began.schedules.lookup id = some g → g.state ∉ terminalScheduleStates) →
    (state ≠ .stopped → OnlyOpens c id) → AfterTerminal c id state

section Runs

variable {V : Db} {ws : List Write}

theorem ReturnRows.results {m : ReturnRows} {attemptId : Uuid} {accepted : Bool}
    (hm : m.result.attemptId = attemptId) (k : Uuid) :
    (applyAll Db.apply (m.writes attemptId accepted) V).results.lookup k =
      if k = attemptId then some m.result else V.results.lookup k := by
  have hobservation : ∀ V, SameTable .results
      (applyAll Db.apply (m.observation.map .insertObservation).toList V) V := by
    intro V
    refine sameTable_applyAll fun w hw => ?_
    obtain ⟨o, -, rfl⟩ := Option.map_eq_some_iff.mp (Option.mem_toList.mp hw)
    simp [Write.table]
  rw [ReturnRows.writes, applyAll_append,
    show (applyAll Db.apply (Option.toList _) _).results = _ from hobservation _]
  simp only [applyAll_cons, applyAll_nil, Db.apply, Table.lookup_insert_ite, hm]

/-- What follows the rows of a return changes at most its step and its Schedule. -/
theorem AfterImport.tables {comControle accepted : Bool} {scheduleId stepId : Uuid} {g : Schedule}
    (h : AfterImport V comControle scheduleId stepId g accepted ws) :
    (applyAll Db.apply ws V).attempts = V.attempts ∧ (applyAll Db.apply ws V).results = V.results ∧
      ((applyAll Db.apply ws V).steps = V.steps ∨ (applyAll Db.apply ws V).steps =
        Table.modify stepId (fun r => { r with state := .returned }) V.steps) := by
  cases h with
  | rejected => exact ⟨rfl, rfl, .inl rfl⟩
  | alone => exact ⟨rfl, rfl, .inr rfl⟩
  | controlled ws _ hcompletion =>
    cases hcompletion <;> exact ⟨rfl, rfl, .inr rfl⟩

theorem AfterImport.mem_writes {comControle accepted : Bool} {scheduleId stepId : Uuid} {g : Schedule}
    (h : AfterImport V comControle scheduleId stepId g accepted ws) {w : Write} (hw : w ∈ ws) :
    w = .setStepState stepId .returned ∨ (∃ state, w = .setScheduleState scheduleId state) ∨
      ∃ e, w = .insertEvent e := by
  cases h with
  | rejected => simp at hw
  | alone => exact .inl (List.mem_singleton.mp hw)
  | controlled ws _ hcompletion =>
    rcases List.mem_cons.mp hw with rfl | hw
    · exact .inl rfl
    · cases hcompletion with
      | inactive => simp at hw
      | unfinished => simp at hw
      | done e =>
        simp only [List.mem_cons, List.not_mem_nil, or_false] at hw
        obtain rfl | rfl := hw
        · exact .inr (.inl ⟨_, rfl⟩)
        · exact .inr (.inr ⟨_, rfl⟩)

/-- A terminal work with a step that is not done has been stopped. -/
theorem stopped_of_step (hwf : Wellformed V) {id k : Uuid} {g : Schedule} {r : ScheduleStep}
    (hg : V.schedules.lookup id = some g) (hterminal : g.state ∈ terminalScheduleStates)
    (hr : V.steps.lookup k = some r) (hschedule : r.scheduleId = id)
    (hstate : r.state = .pending ∨ r.state = .awaitingReturn) : g.state = .stopped := by
  obtain ⟨g', hg', -, hcompleted, hcancelled⟩ := hwf.steps_schedule k r hr
  obtain rfl := Option.some.inj (hg.symm.trans (hschedule ▸ hg'))
  simp only [terminalScheduleStates, List.mem_cons, List.not_mem_nil, or_false] at hterminal
  obtain h | h | h := hterminal
  · have := hcompleted h
    rcases hstate with heq | heq <;> simp [heq] at this
  · have := hcancelled h
    rcases hstate with heq | heq <;> simp [heq] at this
  · exact h

variable [Runtime]

/-- A transaction that opens an attempt began before the end of its work. -/
theorem Opened.began_open {began : Db} {principal : String} {scheduleId stepId attemptId : Uuid}
    {a : HandoffAttempt} (h : Opened began V principal scheduleId stepId attemptId a) (g : Schedule)
    (hg : began.schedules.lookup scheduleId = some g) : g.state ∉ terminalScheduleStates := by
  intro hterminal
  obtain ⟨db, g', hlater, hg', hactive⟩ := h.seen
  have hsame := (hlater.schedules.changed hg hg').terminal hterminal
  rw [← hsame, hactive] at hterminal
  simp [terminalScheduleStates] at hterminal

theorem Imported.late {c : Commit} {comControle accepted : Bool} {principal : String}
    {scheduleId stepId attemptId : Uuid} {raw : RawReturn} {m : ReturnRows}
    (h : Imported V comControle principal scheduleId stepId attemptId raw m accepted ws)
    (hbefore : SameWork V c.before)
    (hafter : after c = applyAll Db.apply (m.writes attemptId accepted ++ ws) V) :
    LateReturn c scheduleId stepId attemptId := by
  obtain ⟨g, -, -, hrest⟩ := h.schedule
  obtain ⟨r, hr, -, hawaiting, -⟩ := h.step
  obtain ⟨a, ha, haschedule, hastep, hopen⟩ := h.attempt
  obtain ⟨hattempts, hresults, hsteps⟩ := hrest.tables
  rw [applyAll_append] at hafter
  rw [← hafter] at hattempts hresults hsteps
  have hsame : (applyAll Db.apply (m.writes attemptId accepted) V).steps = V.steps :=
    ReturnRows.sameTable (t := .steps) (by simp)
  rw [hsame] at hsteps
  refine {
    attempt := ⟨a, if accepted then .closedOk else .closedRejected, ?_, haschedule, hastep, hopen,
      ?_, ?_⟩
    step := ⟨r, ?_, hawaiting, ?_⟩
    result := ⟨m.result, ?_⟩
    attempts := fun k hk => ?_
    results := fun k hk => ?_
    steps := fun k hk => ?_ }
  · rw [← hbefore.attempts, ha]
  · cases accepted <;> simp
  · rw [hattempts, ReturnRows.attempts, if_pos rfl, ha]
    rfl
  · rw [← hbefore.steps, hr]
  · rcases hsteps with heq | heq
    · exact .inl (by rw [heq, hr])
    · exact .inr (by rw [heq, Table.lookup_modify, if_pos rfl, hr, Option.map_some])
  · rw [hresults, ReturnRows.results h.result_attempt, if_pos rfl]
  · rw [hattempts, ReturnRows.attempts, if_neg hk, hbefore.attempts]
  · rw [hresults, ReturnRows.results h.result_attempt, if_neg hk, hbefore.results]
  · rcases hsteps with heq | heq
    · rw [heq, hbefore.steps]
    · rw [heq, Table.lookup_modify, if_neg hk, hbefore.steps]

/-- What a commit may do under a Schedule that it finds in a terminal state. -/
theorem Done.afterTerminal {c : Commit} {pre core : List Write} {id : Uuid} {g : Schedule}
    (h : Done c pre core) (hg : c.before.schedules.lookup id = some g)
    (hterminal : g.state ∈ terminalScheduleStates) : AfterTerminal c id g.state := by
  obtain ⟨held, hguarded⟩ := h.guarded
  have hdeed := h.deed
  have hwf := h.wf
  have hsame := h.same
  have hafter : after c = applyAll Db.apply core (applyAll Db.apply pre c.before) := by
    rw [after, h.log, applyAll_append]
  generalize applyAll Db.apply pre c.before = V at *
  have hg' : V.schedules.lookup id = some g := hsame.schedules ▸ hg
  -- Writes that avoid the Schedule leave it as the commit found it.
  have havoid : (∀ w ∈ core, w.Avoids (after c) id) → AfterTerminal c id g.state := by
    intro hws
    have huntouched := SameUnder.applyAll (W := after c) hguarded (hafter ▸ .refl) hws
    rw [← hafter] at huntouched
    exact .untouched ⟨hsame.steps ▸ huntouched.steps, hsame.attempts ▸ huntouched.attempts,
      hsame.results ▸ huntouched.results⟩
  have hlater : Later [] V (after c) := hafter ▸ .of_guarded hguarded
  -- Rows of another Schedule stay rows of another Schedule.
  have hstep : ∀ {k r}, V.steps.lookup k = some r → r.scheduleId ≠ id →
      ∀ r', (after c).steps.lookup k = some r' → r'.scheduleId ≠ id := by
    intro k r hr hne r' hr'
    exact (hlater.steps.changed hr hr').scheduleId ▸ hne
  have hattempt : ∀ {k a}, V.attempts.lookup k = some a → a.scheduleId ≠ id →
      ∀ a', (after c).attempts.lookup k = some a' → a'.scheduleId ≠ id := by
    intro k a ha hne a' ha'
    exact (hlater.attempts.changed ha ha').scheduleId ▸ hne
  generalize hrequest : c.request = request at hdeed
  generalize c.answer = answer at hdeed
  cases hdeed with
  | idle _ _ _ hws => exact havoid fun w hw => .of_table (hws w hw)
  | created _ _ scheduleId principal draft mode ids post hpost =>
    have hne : scheduleId ≠ id := by
      rintro rfl
      obtain ⟨⟨-, hnew, -⟩, -⟩ := hguarded
      simp [hg'] at hnew
    refine havoid fun w hw => ?_
    simp only [creation, List.mem_append, List.mem_cons, List.mem_map] at hw
    obtain (rfl | ⟨row, hrow, rfl⟩) | hw := hw
    · trivial
    · exact fun heq => hne ((mem_stepRows hrow).1.symm.trans heq)
    · rcases hpost with rfl | rfl <;> simp at hw
      subst hw
      trivial
  | activated => exact havoid (by simp [Write.Avoids])
  | paused => exact havoid (by simp [Write.Avoids])
  | sealed caller scheduleId stepId sealerRef _ outcomeRef row s hopened =>
    by_cases heq : scheduleId = id
    · subst heq
      obtain ⟨⟨-, hnew, -⟩, -⟩ := hguarded
      refine .overtaken (by simp [hrequest, Request.seals]) hopened.began_open fun _ => ?_
      refine ⟨?_, fun k a ha => ?_, ?_⟩
      · rw [hafter, ← hsame.steps]
        exact .refl
      · rw [← hsame.attempts] at ha
        simp only [hafter, applyAll_cons, applyAll_nil, Db.apply, Table.lookup_insert_ite]
        rw [if_neg, ha]
        rintro rfl
        simp [hnew] at ha
      · rw [hafter, ← hsame.results]
        rfl
    · exact havoid (by simp [Write.Avoids, hopened.attempt_schedule, heq])
  | exported _ _ principal scheduleId stepId outcomeRef m hexported =>
    obtain ⟨g₁, hg₁, -, hactive⟩ := hexported.schedule
    obtain ⟨r, -, hr, hschedule, -⟩ := hexported.step
    have hne : scheduleId ≠ id := by
      rintro rfl
      obtain rfl := Option.some.inj (hg'.symm.trans hg₁)
      simp [hactive, terminalScheduleStates] at hterminal
    refine havoid fun w hw => ?_
    simp only [Dispatch.writes, moves, List.mem_append, List.mem_cons, List.not_mem_nil,
      or_false, Option.mem_toList, Option.map_eq_some_iff, List.mem_map] at hw
    obtain ((((⟨_, -, rfl⟩ | ⟨_, -, rfl⟩) | rfl | rfl) | ⟨_, -, rfl⟩) | rfl) | hw | rfl := hw
    any_goals trivial
    · exact fun heq => hne (hexported.attempt_schedule.symm.trans heq)
    · split at hw <;> simp at hw
      subst hw
      exact hstep hr (hschedule ▸ hne)
    · exact hstep hr (hschedule ▸ hne)
  | supervised protecao caller scheduleId stepId _ outcomeRef row s r hopened hr hstate =>
    obtain ⟨r₁, hr₁, hschedule, -⟩ := hopened.step
    obtain rfl := Option.some.inj (hr.symm.trans hr₁)
    by_cases heq : scheduleId = id
    · subst heq
      refine .overtaken (by simp [hrequest, Request.seals]) hopened.began_open fun hstopped => ?_
      exact (hstopped (stopped_of_step hwf hg' hterminal hr hschedule hstate)).elim
    · refine havoid fun w hw => ?_
      simp only [List.mem_cons, List.not_mem_nil, or_false] at hw
      obtain rfl | rfl | rfl := hw
      · exact fun heq' => heq (hopened.attempt_schedule.symm.trans heq')
      · trivial
      · exact hstep hr (hschedule ▸ heq)
  | imported comControle caller scheduleId stepId attemptId raw attribution _ m accepted ws himported =>
    obtain ⟨r, hr, hschedule, hawaiting, -⟩ := himported.step
    obtain ⟨a, ha, haschedule, -, -⟩ := himported.attempt
    by_cases heq : scheduleId = id
    · subst heq
      exact .imported comControle caller stepId attemptId raw attribution hrequest
        (stopped_of_step hwf hg' hterminal hr hschedule (.inr hawaiting))
        (himported.late hsame hafter)
    · have hresult := himported.result_attempt
      obtain ⟨g₁, -, -, hrest⟩ := himported.schedule
      refine havoid fun w hw => ?_
      rcases List.mem_append.mp hw with hw | hw
      · simp only [ReturnRows.writes, List.mem_append, List.mem_cons, List.not_mem_nil, or_false,
          Option.mem_toList, Option.map_eq_some_iff] at hw
        obtain (rfl | rfl | rfl) | ⟨_, -, rfl⟩ := hw
        · rw [Write.Avoids, hresult]
          exact hattempt ha (haschedule ▸ heq)
        · trivial
        · exact hattempt ha (haschedule ▸ heq)
        · trivial
      · rcases hrest.mem_writes hw with rfl | ⟨state, rfl⟩ | ⟨e, rfl⟩
        · exact hstep hr (hschedule ▸ heq)
        · trivial
        · trivial
  | controlled caller scheduleId action categoria recibo g₁ e destino counts ws hdestino hg₁ htrans hcontent =>
    have hne : scheduleId ≠ id := by
      rintro rfl
      obtain rfl := Option.some.inj (hg'.symm.trans hg₁)
      revert htrans hterminal
      cases g.state <;> simp [terminalScheduleStates, e73ScheduleTransitions]
    refine havoid fun w hw => ?_
    simp only [List.mem_append, List.mem_cons, List.not_mem_nil, or_false] at hw
    obtain hw | rfl | rfl := hw
    · cases hcontent with
      | other => simp at hw
      | cancel steps attempts hcancelled =>
        simp only [cancelWrites, List.mem_append, List.mem_map] at hw
        obtain ⟨k, hk, rfl⟩ | ⟨k, hk, rfl⟩ := hw
        · obtain ⟨r, hr, hschedule, -⟩ := (hcancelled.mem_steps k).mp hk
          exact hstep hr (hschedule ▸ hne)
        · obtain ⟨a, ha, hschedule, -⟩ := hcancelled.attempts_open k hk
          exact hattempt ha (hschedule ▸ hne)
    · trivial
    · trivial

/-- A terminal state never changes, and under a Schedule in a terminal state a commit
changes nothing, but for the return of an attempt that was left open in a stopped work, and
for a seal that began before the end. -/
theorem terminal_freeze {s : Orchestration} (h : Reachable s) : ∀ c ∈ s.history, ∀ id g,
    c.before.schedules.lookup id = some g → g.state ∈ terminalScheduleStates →
    (∃ g', s.store.schedules.lookup id = some g' ∧ g'.state = g.state) ∧
      AfterTerminal c id g.state := by
  intro c hc id g hg hterminal
  obtain ⟨hafter, hstore⟩ := later_store h hc
  obtain ⟨g', hg', hchange⟩ := (hafter.trans hstore).schedules.stays hg
  obtain ⟨pre, core, hdone⟩ := done_of_sound ((commits_of_reachable h).sound hc)
  exact ⟨⟨g', hg', hchange.terminal hterminal⟩, hdone.afterTerminal hg hterminal⟩

end Runs

/-- A return arrives after its work was stopped. -/
def returnedLate : List (Label Request) :=
  alone 0 (.criarSchedule (Sample.caller "a") Sample.oneStep .manualHandoff) 0 1 15 ++
    alone 1 (.exportHandoffOnce denyAllHumanGate (Sample.caller "b") ⟨1⟩ ⟨5⟩ "p") 1 20 36 ++
    alone 2 (.controlScheduleOnce (Sample.caller "c") ⟨1⟩ "stop" (some .missingAuthority)) 2 60 9 ++
    alone 3 (.importReturnOnce true (Sample.caller "d") ⟨1⟩ ⟨5⟩ ⟨20⟩ Sample.answer
      Sample.attribution) 3 80 18

theorem exists_returnedLate : ∃ s : Orchestration, Reachable s ∧ ∃ c ∈ s.history,
    (∃ g ∈ c.before.schedules.lookup (⟨1⟩ : Uuid), g.state = .stopped) ∧
      ∃ r ∈ c.before.steps.lookup (⟨5⟩ : Uuid), r.scheduleId = ⟨1⟩ ∧
        (after c).steps.lookup ⟨5⟩ ≠ some r := by
  refine (exists_reachable returnedLate (fun s => decide _) ?_).imp
    fun s h => h.imp_right of_decide_eq_true
  decide +kernel

theorem terminal_freeze_returnedLate : ∃ s : Orchestration, Reachable s ∧
    ∃ c ∈ s.history, ∃ g, c.before.schedules.lookup ⟨1⟩ = some g ∧ g.state = .stopped ∧
      (∃ g', s.store.schedules.lookup ⟨1⟩ = some g' ∧ g'.state = g.state) ∧
      AfterTerminal c ⟨1⟩ g.state := by
  obtain ⟨s, hreach, c, hc, ⟨g, hg, hstopped⟩, -⟩ := exists_returnedLate
  exact ⟨s, hreach, c, hc, g, hg, hstopped, terminal_freeze hreach c hc ⟨1⟩ g hg
    (by simp [hstopped, terminalScheduleStates])⟩

theorem changed_after_end : ¬ ∀ s : Orchestration, Reachable s → ∀ c ∈ s.history, ∀ id g,
    c.before.schedules.lookup id = some g → g.state ∈ terminalScheduleStates →
    SameUnder (after c) id c.before (after c) := by
  intro hall
  obtain ⟨s, hreach, c, hc, ⟨g, hg, hstopped⟩, r, hr, hschedule, hne⟩ := exists_returnedLate
  have hterminal : g.state ∈ terminalScheduleStates := by simp [hstopped, terminalScheduleStates]
  exact hne (((hall s hreach c hc ⟨1⟩ g hg hterminal).steps ⟨5⟩ r hschedule).mp hr)

end PiaOs
