import PiaOs.Runs.Dispatch

/-!
# Where an open attempt stands

Every operation but the plain seal leaves an open attempt only on a step that waits for
its return. The plain seal judges its step without a lock, so it may open an attempt on a
step that has been cancelled or has returned in between.
-/

namespace PiaOs

open Support Transactions Repository

/-- Every open attempt, but for those of the skipped steps, is of a step in one of these
states. -/
def OpenOn (states : List StepState) (skip : List Uuid) (db : Db) : Prop :=
  ∀ k a, db.attempts.lookup k = some a → a.state = .open → a.stepId ∉ skip →
    ∃ r, db.steps.lookup a.stepId = some r ∧ r.state ∈ states

/-- A write that concerns a skipped step, or moves a step to one of these states. -/
def Write.KeepsOpen (states : List StepState) (skip : List Uuid) : Write → Prop
  | .insertAttempt row => row.stepId ∈ skip
  | .setStepState id state => id ∈ skip ∨ state ∈ states
  | _ => True

/-- The step of a plain seal that ran, as it was right before the commit. -/
def sealedStep (c : Commit) : Option ScheduleStep :=
  match c.request with
  | .sealHandoffOnce _ _ stepId _ => if c.log.isEmpty then none else c.before.steps.lookup stepId
  | _ => none

section Store

variable {states : List StepState} {skip : List Uuid} {V V' : Db} {w : Write} {ws : List Write}

theorem OpenOn.apply (h : OpenOn states skip V) (hmay : w.may V) (hw : w.KeepsOpen states skip) :
    OpenOn states skip (Db.apply w V) := by
  intro k a ha hopen hskip
  cases w with
  | insertStep row =>
    obtain ⟨r, hr, hstate⟩ := h k a ha hopen hskip
    refine ⟨r, ?_, hstate⟩
    simp only [Db.apply, Table.lookup_insert_ite]
    rw [if_neg, hr]
    intro heq
    rw [heq, hmay.1] at hr
    simp at hr
  | setStepState id state =>
    obtain ⟨r, hr, hstate⟩ := h k a ha hopen hskip
    simp only [Db.apply, Table.lookup_modify]
    by_cases hid : a.stepId = id
    · subst hid
      exact ⟨{ r with state }, by simp [hr], hw.resolve_left hskip⟩
    · exact ⟨r, by simp [hid, hr], hstate⟩
  | insertAttempt row =>
    obtain ⟨-, rfl⟩ | ⟨-, ha⟩ := Table.insert_cases ha
    · exact (hskip hw).elim
    · exact h k a ha hopen hskip
  | setAttemptState id state =>
    obtain ⟨rfl, a₀, ha₀, rfl⟩ | ⟨-, ha⟩ := Table.modify_cases ha
    · obtain ⟨a₁, -, htrans⟩ := hmay
      subst hopen
      simp [e72AttemptTransitions, e73AttemptTransitions] at htrans
    · exact h k a ha hopen hskip
  | _ => exact h k a ha hopen hskip

theorem OpenOn.applyAll [Runtime] {held : List Lock} (h : OpenOn states skip V)
    (hguarded : protocol.Guarded held V ws) (hws : ∀ w ∈ ws, w.KeepsOpen states skip) :
    OpenOn states skip (applyAll Db.apply ws V) := by
  induction ws generalizing V with
  | nil => exact h
  | cons w ws ih =>
    obtain ⟨⟨-, hmay⟩, hrest⟩ := hguarded
    exact ih (h.apply hmay (hws w List.mem_cons_self)) hrest fun w' hw' =>
      hws w' (List.mem_cons_of_mem _ hw')

theorem OpenOn.weaken (h : OpenOn states [] V) : OpenOn states skip V :=
  fun k a ha hopen _ => h k a ha hopen (by simp)

/-- The skipped steps are in one of the states too, or have no open attempt. -/
theorem OpenOn.complete (h : OpenOn states skip V)
    (hskip : ∀ k a, V.attempts.lookup k = some a → a.state = .open → a.stepId ∈ skip →
      ∃ r, V.steps.lookup a.stepId = some r ∧ r.state ∈ states) : OpenOn states [] V := by
  intro k a ha hopen _
  by_cases hmem : a.stepId ∈ skip
  · exact hskip k a ha hopen hmem
  · exact h k a ha hopen hmem

theorem OpenOn.congr (h : OpenOn states skip V) (hsteps : V'.steps = V.steps)
    (hattempts : V'.attempts = V.attempts) : OpenOn states skip V' := by
  intro k a ha hopen hskip
  rw [hattempts] at ha
  rw [hsteps]
  exact h k a ha hopen hskip

/-- An import closes its attempt. -/
theorem ReturnRows.attempts {m : ReturnRows} {attemptId : Uuid} {accepted : Bool} (k : Uuid) :
    (Transactions.applyAll Db.apply (m.writes attemptId accepted) V).attempts.lookup k =
      if k = attemptId then (V.attempts.lookup attemptId).map fun a =>
        { a with state := if accepted then .closedOk else .closedRejected }
      else V.attempts.lookup k := by
  have hobservation : ∀ V, SameTable .attempts
      (Transactions.applyAll Db.apply (m.observation.map .insertObservation).toList V) V := by
    intro V
    refine sameTable_applyAll fun w hw => ?_
    obtain ⟨o, -, rfl⟩ := Option.map_eq_some_iff.mp (Option.mem_toList.mp hw)
    simp [Write.table]
  rw [ReturnRows.writes, applyAll_append,
    show (Transactions.applyAll Db.apply (Option.toList _) _).attempts = _ from hobservation _]
  simp only [applyAll_cons, applyAll_nil, Db.apply, Table.lookup_modify]

/-- After an import no attempt of its step is open. -/
theorem Imported.closed [Runtime] {comControle accepted : Bool} {principal : String}
    {scheduleId stepId attemptId : Uuid} {raw : RawReturn} {m : ReturnRows} (hwf : Wellformed V)
    (h : Imported V comControle principal scheduleId stepId attemptId raw m accepted ws) {k : Uuid}
    {a : HandoffAttempt} (ha : (Transactions.applyAll Db.apply (m.writes attemptId accepted)
      V).attempts.lookup k = some a) (hopen : a.state = .open) : a.stepId ≠ stepId := by
  obtain ⟨a₀, ha₀, -, hstep, hopen₀⟩ := h.attempt
  rw [ReturnRows.attempts, ha₀] at ha
  split at ha
  case isTrue =>
    obtain rfl := Option.some.inj ha
    cases accepted <;> simp at hopen
  case isFalse hk =>
    exact fun heq => hk (hwf.single_open k attemptId a a₀ ha ha₀ (heq.trans hstep.symm) hopen hopen₀)

/-- After a cancellation no attempt of a cancelled step is open. -/
theorem Cancelled.closed {scheduleId : Uuid} {steps attempts : List Uuid} (hwf : Wellformed V)
    (h : Cancelled V scheduleId steps attempts) {k : Uuid} {a : HandoffAttempt}
    (ha : (Transactions.applyAll Db.apply (cancelWrites steps attempts) V).attempts.lookup k = some a)
    (hopen : a.state = .open) : V.attempts.lookup k = some a ∧ a.stepId ∉ steps := by
  rw [cancelWrites_attempts] at ha
  split at ha
  case isTrue =>
    obtain ⟨a₀, -, rfl⟩ := Option.map_eq_some_iff.mp ha
    simp at hopen
  case isFalse hk =>
    refine ⟨ha, fun hmem => ?_⟩
    obtain ⟨r, hr, hschedule, -⟩ := (h.mem_steps _).mp hmem
    obtain ⟨r', _, hr', hsame, -⟩ := hwf.attempts_step k a ha
    obtain rfl := Option.some.inj (hr.symm.trans hr')
    exact (h.attempts_all k a ha (hsame.symm.trans hschedule) hopen).elim hk fun hfree => hfree hmem

end Store

section Runs

variable [Runtime] {states : List StepState} {c : Commit} {pre core : List Write}

/-- A commit keeps the open attempts on steps in these states, if its plain seal does. -/
theorem Done.openOn (h : Done c pre core) (hawaiting : .awaitingReturn ∈ states)
    (hseal : ∀ r ∈ sealedStep c, r.state ∈ states) (hopen : OpenOn states [] c.before) :
    OpenOn states [] (after c) := by
  have hran : core ≠ [] → c.log ≠ [] := fun hcore => by simp [h.log, hcore]
  have hstart : OpenOn states [] (applyAll Db.apply pre c.before) :=
    hopen.congr h.same.steps h.same.attempts
  obtain ⟨held, hguarded⟩ := h.guarded
  have hdeed := h.deed
  have hwf := h.wf
  rw [after, h.log, applyAll_append]
  generalize hV : applyAll Db.apply pre c.before = V at *
  -- The end of a commit that opens an attempt on one step.
  have hone : ∀ stepId, (∀ w ∈ core, w.KeepsOpen states [stepId]) →
      (∃ r, (applyAll Db.apply core V).steps.lookup stepId = some r ∧ r.state ∈ states) →
      OpenOn states [] (applyAll Db.apply core V) := by
    intro stepId hws hr
    refine (hstart.weaken.applyAll hguarded hws).complete fun k a _ _ hmem => ?_
    rwa [List.mem_singleton.mp hmem]
  generalize hrequest : c.request = request at hdeed
  generalize c.answer = answer at hdeed
  cases hdeed with
  | idle _ _ _ hws =>
    have hsame := sameWork_applyAll (V := V) hws
    exact hstart.congr hsame.steps hsame.attempts
  | created _ _ scheduleId principal draft mode ids post hpost =>
    refine hstart.applyAll hguarded fun w hw => ?_
    simp only [creation, List.mem_append, List.mem_cons, List.mem_map] at hw
    obtain (rfl | ⟨_, -, rfl⟩) | hw := hw
    · trivial
    · trivial
    · rcases hpost with rfl | rfl <;> simp at hw
      subst hw
      trivial
  | activated => exact hstart.applyAll hguarded (by simp [Write.KeepsOpen])
  | paused => exact hstart.applyAll hguarded (by simp [Write.KeepsOpen])
  | sealed caller scheduleId stepId sealerRef _ outcomeRef row s hopened =>
    obtain ⟨r, hr, -, -⟩ := hopened.step
    refine hone stepId (by simp [Write.KeepsOpen, hopened.attempt_step]) ⟨r, hr, hseal r ?_⟩
    simp [sealedStep, hrequest, hran, ← h.same.steps, hV, hr]
  | exported _ _ principal scheduleId stepId outcomeRef m hexported =>
    obtain ⟨r, -, hr, -⟩ := hexported.step
    refine hone stepId (fun w hw => ?_) ?_
    · simp only [Dispatch.writes, moves, List.mem_append, List.mem_cons, List.not_mem_nil,
        or_false, Option.mem_toList, Option.map_eq_some_iff, List.mem_map] at hw
      obtain ((((⟨_, -, rfl⟩ | ⟨_, -, rfl⟩) | rfl | rfl) | ⟨_, -, rfl⟩) | rfl) | hw | rfl := hw
      any_goals trivial
      · simp [Write.KeepsOpen, hexported.attempt_step]
      · split at hw <;> simp at hw
        simp [hw, Write.KeepsOpen]
      · simp [Write.KeepsOpen]
    · rw [m.writes_eq, applyAll_append, applyAll_cons, applyAll_nil]
      simp only [Db.apply, Table.lookup_modify, if_true, m.front_steps, hr]
      split
      · exact ⟨_, rfl, hawaiting⟩
      · exact ⟨_, rfl, hawaiting⟩
  | supervised protecao caller scheduleId stepId _ outcomeRef row s r hopened hr hstate =>
    refine hone stepId (by simp [Write.KeepsOpen, hopened.attempt_step]) ?_
    exact ⟨{ r with state := .awaitingReturn }, by simp [Db.apply, Table.lookup_modify, hr],
      hawaiting⟩
  | imported comControle caller scheduleId stepId attemptId raw attribution _ m accepted ws himported =>
    obtain ⟨g, -, -, hafter⟩ := himported.schedule
    have hws : ∀ w ∈ ws, w.KeepsOpen states [stepId] ∧ w.table ≠ .attempts := by
      cases hafter with
      | rejected => simp
      | alone => simp [Write.KeepsOpen, Write.table]
      | controlled ws _ hcompletion => cases hcompletion <;> simp [Write.KeepsOpen, Write.table]
    have hweak : OpenOn states [stepId] V := hstart.weaken
    refine (hweak.applyAll hguarded fun w hw => ?_).complete ?_
    · rcases List.mem_append.mp hw with hw | hw
      · simp only [ReturnRows.writes, List.mem_append, List.mem_cons, List.not_mem_nil, or_false,
          Option.mem_toList, Option.map_eq_some_iff] at hw
        obtain (rfl | rfl | rfl) | ⟨_, -, rfl⟩ := hw <;> trivial
      · exact (hws w hw).1
    · intro k a ha hopen hmem
      rw [applyAll_append, show (applyAll Db.apply ws _).attempts = _ from
        sameTable_applyAll (t := .attempts) fun w hw => (hws w hw).2] at ha
      exact (himported.closed hwf ha hopen (List.mem_singleton.mp hmem)).elim
  | controlled caller scheduleId action categoria recibo g e destino counts ws hdestino hg htrans hcontent =>
    cases hcontent with
    | other => exact hstart.applyAll hguarded (by simp [Write.KeepsOpen])
    | cancel steps attempts hcancelled =>
      have hweak : OpenOn states steps V := hstart.weaken
      refine (hweak.applyAll hguarded fun w hw => ?_).complete ?_
      · simp only [cancelWrites, List.mem_append, List.mem_map, List.mem_cons, List.not_mem_nil,
          or_false] at hw
        obtain (⟨id, hid, rfl⟩ | ⟨_, -, rfl⟩) | rfl | rfl := hw
        · exact .inl hid
        all_goals trivial
      · intro k a ha hopen hmem
        rw [applyAll_append] at ha
        exact ((hcancelled.closed hwf ha hopen).2 hmem).elim

/-- Where the open attempts of a run stand, if the plain seals find their steps there. -/
theorem openOn_store {s : Orchestration} (h : Reachable s) (hawaiting : .awaitingReturn ∈ states)
    (hseal : ∀ c ∈ s.history, ∀ r ∈ sealedStep c, r.state ∈ states) :
    (∀ c ∈ s.history, OpenOn states [] c.before) ∧ OpenOn states [] s.store := by
  have hcommits := commits_of_reachable h
  generalize s.history = history at hcommits hseal
  generalize s.store = store at hcommits
  induction hcommits with
  | nil => exact ⟨by simp, fun k a ha => by simp [Db.empty] at ha⟩
  | cons c hearlier hsound ih =>
    obtain ⟨hbefore, hstore⟩ := ih fun c' hc' => hseal c' (List.mem_cons_of_mem _ hc')
    obtain ⟨pre, core, hdone⟩ := done_of_sound hsound
    refine ⟨fun c' hc' => ?_, hdone.openOn hawaiting (hseal c List.mem_cons_self) hstore⟩
    obtain rfl | hc' := List.mem_cons.mp hc'
    · exact hstore
    · exact hbefore c' hc'

end Runs

end PiaOs
