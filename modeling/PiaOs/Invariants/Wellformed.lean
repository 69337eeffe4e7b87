import PiaOs.Invariants.Protocol

/-!
# Well-formed stores

The keys, foreign keys and unique indexes of the tables, and how the states of a
Schedule and of its steps fit together. Every legitimate write keeps them, so they
also hold in the middle of a transaction.
-/

namespace PiaOs

open Support Transactions

/-- The states of a step that its Schedule admits. -/
def StateFits (schedule : ScheduleState) (step : StepState) : Prop :=
  (schedule = .draft → step = .pending) ∧ (schedule = .completed → step = .returned) ∧
    (schedule = .cancelled → step = .returned ∨ step = .cancelled)

/-- The constraints that every store of the orchestration satisfies. -/
structure Wellformed (db : Db) : Prop where
  schedules_id : ∀ k r, db.schedules.lookup k = some r → r.id = k
  steps_id : ∀ k r, db.steps.lookup k = some r → r.id = k
  attempts_id : ∀ k r, db.attempts.lookup k = some r → r.id = k
  delegations_id : ∀ k r, db.delegations.lookup k = some r → r.id = k
  profiles_id : ∀ k r, db.profiles.lookup k = some r → r.id = k
  events_id : ∀ k r, db.events.lookup k = some r → r.id = k
  observations_id : ∀ k r, db.observations.lookup k = some r → r.id = k
  opinions_id : ∀ k r, db.opinions.lookup k = some r → r.id = k
  receipts_key : ∀ k r, db.receipts.lookup k = some r → r.triple = k ∧ r.triple.Admitted
  seals_attempt : ∀ k r, db.seals.lookup k = some r →
    r.attemptId = k ∧ ∃ a, db.attempts.lookup k = some a
  results_attempt : ∀ k r, db.results.lookup k = some r →
    r.attemptId = k ∧ ∃ a, db.attempts.lookup k = some a
  results_unique : ∀ k k' r r', db.results.lookup k = some r → db.results.lookup k' = some r' →
    r.id = r'.id → k = k'
  attributions_attempt : ∀ k r, db.attributions.lookup k = some r →
    r.attemptId = k ∧ ∃ a, db.attempts.lookup k = some a
  executions_attempt : ∀ k r, db.executions.lookup k = some r →
    r.attemptId = k ∧ ∃ a, db.attempts.lookup k = some a
  steps_schedule : ∀ k r, db.steps.lookup k = some r →
    ∃ s, db.schedules.lookup r.scheduleId = some s ∧ StateFits s.state r.state
  attempts_step : ∀ k a, db.attempts.lookup k = some a →
    ∃ r s, db.steps.lookup a.stepId = some r ∧ r.scheduleId = a.scheduleId ∧
      db.schedules.lookup a.scheduleId = some s ∧ s.state ≠ .draft
  numbering : ∀ stepId, ∃ n, ∀ m, db.Numbered stepId m ↔ 1 ≤ m ∧ m ≤ n
  number_unique : ∀ k k' a a', db.attempts.lookup k = some a → db.attempts.lookup k' = some a' →
    a.stepId = a'.stepId → a.attemptNumber = a'.attemptNumber → k = k'
  single_open : ∀ k k' a a', db.attempts.lookup k = some a → db.attempts.lookup k' = some a' →
    a.stepId = a'.stepId → a.state = .open → a'.state = .open → k = k'
  delegations_step : ∀ k d, db.delegations.lookup k = some d →
    ∃ r, db.steps.lookup d.stepId = some r ∧ r.scheduleId = d.scheduleId
  consumption : ∀ k d, db.delegations.lookup k = some d →
    d.state = .consumed ∧ d.consumedAt.isSome ∧ d.consumedByAttemptId.isSome ∨
      d.state ≠ .consumed ∧ d.consumedAt = none ∧ d.consumedByAttemptId = none
  single_active : ∀ k k' d d', db.delegations.lookup k = some d →
    db.delegations.lookup k' = some d' → d.scheduleId = d'.scheduleId → d.stepId = d'.stepId →
    d.scope = d'.scope → d.state = .active → d'.state = .active → k = k'
  single_manual : ∀ k k' p p', db.profiles.lookup k = some p → db.profiles.lookup k' = some p' →
    p.controlPrincipalRef = p'.controlPrincipalRef → p.method = .manualHandoff →
    p'.method = .manualHandoff → p.state ∉ terminalConnectionStates →
    p'.state ∉ terminalConnectionStates → k = k'

theorem wellformed_empty : Wellformed Db.empty where
  schedules_id := by simp [Db.empty]
  steps_id := by simp [Db.empty]
  attempts_id := by simp [Db.empty]
  delegations_id := by simp [Db.empty]
  profiles_id := by simp [Db.empty]
  events_id := by simp [Db.empty]
  observations_id := by simp [Db.empty]
  opinions_id := by simp [Db.empty]
  receipts_key := by simp [Db.empty]
  seals_attempt := by simp [Db.empty]
  results_attempt := by simp [Db.empty]
  results_unique := by simp [Db.empty]
  attributions_attempt := by simp [Db.empty]
  executions_attempt := by simp [Db.empty]
  steps_schedule := by simp [Db.empty]
  attempts_step := by simp [Db.empty]
  numbering := fun _ => ⟨0, fun m => by
    simp only [Db.Numbered, Db.empty, AList.lookup_empty]
    constructor
    · rintro ⟨_, _, h, _⟩
      simp at h
    · omega⟩
  number_unique := by simp [Db.empty]
  single_open := by simp [Db.empty]
  delegations_step := by simp [Db.empty]
  consumption := by simp [Db.empty]
  single_active := by simp [Db.empty]
  single_manual := by simp [Db.empty]

section Apply

variable {db : Db} {w : Write}

theorem Wellformed.apply_steps_schedule (h : Wellformed db) (hmay : w.may db) :
    ∀ k r, (Db.apply w db).steps.lookup k = some r →
      ∃ s, (Db.apply w db).schedules.lookup r.scheduleId = some s ∧
        StateFits s.state r.state := by
  intro k r hr
  cases w with
  | insertSchedule row =>
    obtain ⟨s, hs, hfits⟩ := h.steps_schedule k r hr
    have hne : r.scheduleId ≠ row.id := by
      intro heq
      rw [heq, hmay.1] at hs
      simp at hs
    exact ⟨s, by simpa [Db.apply, Table.lookup_insert_ite, hne] using hs, hfits⟩
  | setScheduleState id state =>
    obtain ⟨s, hs, hfits⟩ := h.steps_schedule k r hr
    obtain ⟨s', hs', htrans, hcompleted, hcancelled⟩ := hmay
    by_cases hid : r.scheduleId = id
    · refine ⟨{ s' with state }, by simp [Db.apply, Table.lookup_modify, hid, hs'], ?_, ?_, ?_⟩
      · rintro rfl
        simp [e71ScheduleTransitions, e73ScheduleTransitions] at htrans
      · exact fun hst => hcompleted hst k r hr hid
      · exact fun hst => hcancelled hst k r hr hid
    · exact ⟨s, by simpa [Db.apply, Table.lookup_modify, hid] using hs, hfits⟩
  | insertStep row =>
    obtain ⟨-, hpending, s, hs, hdraft⟩ := hmay
    obtain ⟨-, rfl⟩ | ⟨-, hr⟩ := Table.insert_cases hr
    · exact ⟨s, hs, by simp [StateFits, hpending, hdraft]⟩
    · exact h.steps_schedule k r hr
  | setStepState id state =>
    obtain ⟨r₀, s, hr₀, hs, hdraft, hstate⟩ := hmay
    obtain ⟨rfl, r₁, hr₁, rfl⟩ | ⟨-, hr⟩ := Table.modify_cases hr
    · obtain rfl := Option.some.inj (hr₀.symm.trans hr₁)
      obtain ⟨s', hs', hfits⟩ := h.steps_schedule k r₀ hr₀
      obtain rfl := Option.some.inj (hs.symm.trans hs')
      refine ⟨s, hs, fun hst => (hdraft hst).elim, fun hst => ?_, fun hst => ?_⟩
      · rw [hfits.2.1 hst] at hstate
        simp [stepWrites, e72StepTransitions, e73StepTransitions] at hstate
      · rcases hfits.2.2 hst with hreturned | hcancelled
        · rw [hreturned] at hstate
          simp [stepWrites, e72StepTransitions, e73StepTransitions] at hstate
        · rw [hcancelled] at hstate
          simp [stepWrites, e72StepTransitions, e73StepTransitions] at hstate
    · exact h.steps_schedule k r hr
  | _ => exact h.steps_schedule k r hr

/-- A Schedule that is no draft stays, and stays no draft. -/
private theorem schedule_stays (hmay : w.may db) {k : Uuid} {s : Schedule}
    (hs : db.schedules.lookup k = some s) (hdraft : s.state ≠ .draft) :
    ∃ s', (Db.apply w db).schedules.lookup k = some s' ∧ s'.state ≠ .draft := by
  cases w with
  | insertSchedule row =>
    have hne : k ≠ row.id := by
      rintro rfl
      rw [hmay.1] at hs
      simp at hs
    exact ⟨s, by simpa [Db.apply, Table.lookup_insert_ite, hne] using hs, hdraft⟩
  | setScheduleState id state =>
    obtain ⟨s', hs', htrans, -⟩ := hmay
    by_cases hid : k = id
    · refine ⟨{ s' with state }, by simp [Db.apply, Table.lookup_modify, hid, hs'], ?_⟩
      rintro rfl
      simp [e71ScheduleTransitions, e73ScheduleTransitions] at htrans
    · exact ⟨s, by simpa [Db.apply, Table.lookup_modify, hid] using hs, hdraft⟩
  | _ => exact ⟨s, hs, hdraft⟩

private theorem step_stays (hmay : w.may db) {k : Uuid} {r : ScheduleStep}
    (hr : db.steps.lookup k = some r) :
    ∃ r', (Db.apply w db).steps.lookup k = some r' ∧ r'.scheduleId = r.scheduleId := by
  cases w with
  | insertStep row =>
    have hne : k ≠ row.id := by
      rintro rfl
      rw [hmay.1] at hr
      simp at hr
    exact ⟨r, by simpa [Db.apply, Table.lookup_insert_ite, hne] using hr, rfl⟩
  | setStepState id state =>
    by_cases hid : k = id
    · exact ⟨{ r with state }, by simp [Db.apply, Table.lookup_modify, ← hid, hr], rfl⟩
    · exact ⟨r, by simpa [Db.apply, Table.lookup_modify, hid] using hr, rfl⟩
  | _ => exact ⟨r, hr, rfl⟩

private theorem attempt_stays (hmay : w.may db) {k : Uuid} {a : HandoffAttempt}
    (ha : db.attempts.lookup k = some a) :
    ∃ a', (Db.apply w db).attempts.lookup k = some a' := by
  cases w with
  | insertAttempt row =>
    have hne : k ≠ row.id := by
      rintro rfl
      rw [hmay.1] at ha
      simp at ha
    exact ⟨a, by simpa [Db.apply, Table.lookup_insert_ite, hne] using ha⟩
  | setAttemptState id state =>
    by_cases hid : k = id
    · exact ⟨{ a with state }, by simp [Db.apply, Table.lookup_modify, ← hid, ha]⟩
    · exact ⟨a, by simpa [Db.apply, Table.lookup_modify, hid] using ha⟩
  | _ => exact ⟨a, ha⟩

theorem Wellformed.apply_attempts_step (h : Wellformed db) (hmay : w.may db) :
    ∀ k a, (Db.apply w db).attempts.lookup k = some a →
      ∃ r s, (Db.apply w db).steps.lookup a.stepId = some r ∧ r.scheduleId = a.scheduleId ∧
        (Db.apply w db).schedules.lookup a.scheduleId = some s ∧ s.state ≠ .draft := by
  have hstays : ∀ a : HandoffAttempt, (∃ r s, db.steps.lookup a.stepId = some r ∧
      r.scheduleId = a.scheduleId ∧ db.schedules.lookup a.scheduleId = some s ∧
      s.state ≠ .draft) → ∃ r s, (Db.apply w db).steps.lookup a.stepId = some r ∧
        r.scheduleId = a.scheduleId ∧
        (Db.apply w db).schedules.lookup a.scheduleId = some s ∧ s.state ≠ .draft := by
    rintro a ⟨r, s, hr, heq, hs, hdraft⟩
    obtain ⟨r', hr', heq'⟩ := step_stays hmay hr
    obtain ⟨s', hs', hdraft'⟩ := schedule_stays hmay hs hdraft
    exact ⟨r', s', hr', heq'.trans heq, hs', hdraft'⟩
  intro k a ha
  refine hstays a ?_
  cases w with
  | insertAttempt row =>
    obtain ⟨-, rfl⟩ | ⟨-, ha⟩ := Table.insert_cases ha
    · exact hmay.2.2.2.2.2
    · exact h.attempts_step k a ha
  | setAttemptState id state =>
    obtain ⟨-, a₀, ha₀, rfl⟩ | ⟨-, ha⟩ := Table.modify_cases ha
    · exact h.attempts_step id a₀ ha₀
    · exact h.attempts_step k a ha
  | _ => exact h.attempts_step k a ha

/-- Only a new attempt adds a number. -/
private theorem numbered_apply (hmay : w.may db) (stepId : Uuid) (m : Nat) :
    (Db.apply w db).Numbered stepId m ↔ db.Numbered stepId m ∨
      ∃ row, w = .insertAttempt row ∧ row.stepId = stepId ∧ row.attemptNumber = m := by
  cases w with
  | insertAttempt row =>
    constructor
    · rintro ⟨k, a, ha, hstep, hnumber⟩
      obtain ⟨-, rfl⟩ | ⟨-, ha⟩ := Table.insert_cases ha
      · exact .inr ⟨a, rfl, hstep, hnumber⟩
      · exact .inl ⟨k, a, ha, hstep, hnumber⟩
    · rintro (⟨k, a, ha, hstep, hnumber⟩ | ⟨row', hrow, hstep, hnumber⟩)
      · have hne : k ≠ row.id := by
          rintro rfl
          rw [hmay.1] at ha
          simp at ha
        exact ⟨k, a, by simpa [Db.apply, Table.lookup_insert_ite, hne] using ha, hstep, hnumber⟩
      · obtain rfl : row = row' := by simpa using hrow
        exact ⟨row.id, row, by simp [Db.apply], hstep, hnumber⟩
  | setAttemptState id state =>
    constructor
    · rintro ⟨k, a, ha, hstep, hnumber⟩
      obtain ⟨-, a₀, ha₀, rfl⟩ | ⟨-, ha⟩ := Table.modify_cases ha
      · exact .inl ⟨id, a₀, ha₀, hstep, hnumber⟩
      · exact .inl ⟨k, a, ha, hstep, hnumber⟩
    · rintro (⟨k, a, ha, hstep, hnumber⟩ | ⟨row, hrow, -⟩)
      · by_cases hid : k = id
        · exact ⟨k, { a with state }, by simp [Db.apply, Table.lookup_modify, ← hid, ha],
            hstep, hnumber⟩
        · exact ⟨k, a, by simpa [Db.apply, Table.lookup_modify, hid] using ha, hstep, hnumber⟩
      · simp at hrow
  | _ => exact ⟨.inl, fun h => h.resolve_right (by simp)⟩

theorem Wellformed.apply_numbering (h : Wellformed db) (hmay : w.may db) (stepId : Uuid) :
    ∃ n, ∀ m, (Db.apply w db).Numbered stepId m ↔ 1 ≤ m ∧ m ≤ n := by
  obtain ⟨n, hn⟩ := h.numbering stepId
  by_cases hrow : ∃ row, w = .insertAttempt row ∧ row.stepId = stepId
  · obtain ⟨row, rfl, rfl⟩ := hrow
    have hnext : ∀ m, (1 ≤ m ∧ m ≤ n) ↔ 1 ≤ m ∧ m < row.attemptNumber := fun m =>
      (hn m).symm.trans (hmay.2.2.2.1 m)
    refine ⟨row.attemptNumber, fun m => ?_⟩
    have hpos := hmay.2.2.1
    rw [numbered_apply hmay, hn, hnext]
    constructor
    · rintro (⟨h1, h2⟩ | ⟨row', hrow', -, hnumber⟩)
      · omega
      · obtain rfl : row = row' := by simpa using hrow'
        omega
    · rintro ⟨h1, h2⟩
      by_cases hlast : m = row.attemptNumber
      · exact .inr ⟨row, rfl, rfl, hlast.symm⟩
      · exact .inl ⟨h1, by omega⟩
  · refine ⟨n, fun m => ?_⟩
    rw [numbered_apply hmay, hn]
    refine ⟨fun h => h.resolve_right ?_, .inl⟩
    rintro ⟨row, hw, hstep, -⟩
    exact hrow ⟨row, hw, hstep⟩

/-- An attempt after a write was there before with the same step and number, and was
open if it is open, or it is new. -/
private theorem attempt_origin {k : Uuid} {a : HandoffAttempt} (hmay : w.may db)
    (ha : (Db.apply w db).attempts.lookup k = some a) :
    (∃ a₀, db.attempts.lookup k = some a₀ ∧ a₀.stepId = a.stepId ∧
      a₀.attemptNumber = a.attemptNumber ∧ (a.state = .open → a₀.state = .open)) ∨
      w = .insertAttempt a ∧ k = a.id := by
  cases w with
  | insertAttempt row =>
    obtain ⟨rfl, rfl⟩ | ⟨-, ha⟩ := Table.insert_cases ha
    · exact .inr ⟨rfl, rfl⟩
    · exact .inl ⟨a, ha, rfl, rfl, id⟩
  | setAttemptState id state =>
    obtain ⟨a₁, ha₁, htrans⟩ := hmay
    obtain ⟨rfl, a₀, ha₀, rfl⟩ | ⟨-, ha⟩ := Table.modify_cases ha
    · refine .inl ⟨a₀, ha₀, rfl, rfl, ?_⟩
      rintro rfl
      simp [e72AttemptTransitions, e73AttemptTransitions] at htrans
    · exact .inl ⟨a, ha, rfl, rfl, fun h => h⟩
  | _ => exact .inl ⟨a, ha, rfl, rfl, id⟩

theorem Wellformed.apply_number_unique (h : Wellformed db) (hmay : w.may db) :
    ∀ k k' a a', (Db.apply w db).attempts.lookup k = some a →
      (Db.apply w db).attempts.lookup k' = some a' → a.stepId = a'.stepId →
      a.attemptNumber = a'.attemptNumber → k = k' := by
  have hnew : ∀ {row : HandoffAttempt} {k : Uuid} {a : HandoffAttempt},
      w = .insertAttempt row → db.attempts.lookup k = some a → a.stepId = row.stepId →
      a.attemptNumber ≠ row.attemptNumber := by
    rintro row k a rfl ha hstep hnumber
    have := (hmay.2.2.2.1 row.attemptNumber).mp ⟨k, a, ha, hstep, hnumber⟩
    omega
  intro k k' a a' ha ha' hstep hnumber
  obtain ⟨b, hb, hbstep, hbnumber, -⟩ | ⟨hw, hk⟩ := attempt_origin hmay ha
  · obtain ⟨b', hb', hbstep', hbnumber', -⟩ | ⟨hw', hk'⟩ := attempt_origin hmay ha'
    · exact h.number_unique k k' b b' hb hb' (by rw [hbstep, hbstep', hstep])
        (by rw [hbnumber, hbnumber', hnumber])
    · exact (hnew hw' hb (hbstep.trans hstep) (hbnumber.trans hnumber)).elim
  · obtain ⟨b', hb', hbstep', hbnumber', -⟩ | ⟨hw', hk'⟩ := attempt_origin hmay ha'
    · exact (hnew hw hb' (hbstep'.trans hstep.symm) (hbnumber'.trans hnumber.symm)).elim
    · obtain rfl : a = a' := by simpa using hw.symm.trans hw'
      rw [hk, hk']

theorem Wellformed.apply_single_open (h : Wellformed db) (hmay : w.may db) :
    ∀ k k' a a', (Db.apply w db).attempts.lookup k = some a →
      (Db.apply w db).attempts.lookup k' = some a' → a.stepId = a'.stepId →
      a.state = .open → a'.state = .open → k = k' := by
  have hnew : ∀ {row : HandoffAttempt} {k : Uuid} {a : HandoffAttempt},
      w = .insertAttempt row → db.attempts.lookup k = some a → a.stepId = row.stepId →
      a.state ≠ .open := by
    rintro row k a rfl ha hstep
    exact hmay.2.2.2.2.1 k a ha hstep
  intro k k' a a' ha ha' hstep hopen hopen'
  obtain ⟨b, hb, hbstep, -, hbopen⟩ | ⟨hw, hk⟩ := attempt_origin hmay ha
  · obtain ⟨b', hb', hbstep', -, hbopen'⟩ | ⟨hw', hk'⟩ := attempt_origin hmay ha'
    · exact h.single_open k k' b b' hb hb' (by rw [hbstep, hbstep', hstep]) (hbopen hopen)
        (hbopen' hopen')
    · exact (hnew hw' hb (hbstep.trans hstep) (hbopen hopen)).elim
  · obtain ⟨b', hb', hbstep', -, hbopen'⟩ | ⟨hw', hk'⟩ := attempt_origin hmay ha'
    · exact (hnew hw hb' (hbstep'.trans hstep.symm) (hbopen' hopen')).elim
    · obtain rfl : a = a' := by simpa using hw.symm.trans hw'
      rw [hk, hk']

theorem Wellformed.apply_delegations_step (h : Wellformed db) (hmay : w.may db) :
    ∀ k d, (Db.apply w db).delegations.lookup k = some d →
      ∃ r, (Db.apply w db).steps.lookup d.stepId = some r ∧ r.scheduleId = d.scheduleId := by
  have hstays : ∀ d : ServiceDelegation,
      (∃ r, db.steps.lookup d.stepId = some r ∧ r.scheduleId = d.scheduleId) →
      ∃ r, (Db.apply w db).steps.lookup d.stepId = some r ∧ r.scheduleId = d.scheduleId := by
    rintro d ⟨r, hr, heq⟩
    obtain ⟨r', hr', heq'⟩ := step_stays hmay hr
    exact ⟨r', hr', heq'.trans heq⟩
  intro k d hd
  refine hstays d ?_
  cases w with
  | insertDelegation row =>
    obtain ⟨-, rfl⟩ | ⟨-, hd⟩ := Table.insert_cases hd
    · exact hmay.2.2.2.2.2
    · exact h.delegations_step k d hd
  | setDelegationState id state =>
    obtain ⟨-, d₀, hd₀, rfl⟩ | ⟨-, hd⟩ := Table.modify_cases hd
    · exact h.delegations_step id d₀ hd₀
    · exact h.delegations_step k d hd
  | consumeDelegation id consumedAt attemptId =>
    obtain ⟨-, d₀, hd₀, rfl⟩ | ⟨-, hd⟩ := Table.modify_cases hd
    · exact h.delegations_step id d₀ hd₀
    · exact h.delegations_step k d hd
  | _ => exact h.delegations_step k d hd

theorem Wellformed.apply_consumption (h : Wellformed db) (hmay : w.may db) :
    ∀ k d, (Db.apply w db).delegations.lookup k = some d →
      d.state = .consumed ∧ d.consumedAt.isSome ∧ d.consumedByAttemptId.isSome ∨
        d.state ≠ .consumed ∧ d.consumedAt = none ∧ d.consumedByAttemptId = none := by
  intro k d hd
  cases w with
  | insertDelegation row =>
    obtain ⟨-, rfl⟩ | ⟨-, hd⟩ := Table.insert_cases hd
    · exact .inr ⟨by simp [hmay.2.1], hmay.2.2.1, hmay.2.2.2.1⟩
    · exact h.consumption k d hd
  | setDelegationState id state =>
    obtain ⟨d₁, hd₁, hactive, hstate⟩ := hmay
    obtain ⟨-, d₀, hd₀, rfl⟩ | ⟨-, hd⟩ := Table.modify_cases hd
    · obtain rfl := Option.some.inj (hd₀.symm.trans hd₁)
      have hold := (h.consumption id d₀ hd₀).resolve_left (by simp [hactive])
      refine .inr ⟨?_, hold.2⟩
      rcases hstate with rfl | rfl <;> simp
    · exact h.consumption k d hd
  | consumeDelegation id consumedAt attemptId =>
    obtain ⟨-, d₀, hd₀, rfl⟩ | ⟨-, hd⟩ := Table.modify_cases hd
    · exact .inl ⟨rfl, rfl, rfl⟩
    · exact h.consumption k d hd
  | _ => exact h.consumption k d hd

/-- A delegation that is active after a write was the same before it, or is new. -/
private theorem active_origin {k : Uuid} {d : ServiceDelegation} (hmay : w.may db)
    (hd : (Db.apply w db).delegations.lookup k = some d) (hactive : d.state = .active) :
    db.delegations.lookup k = some d ∨ w = .insertDelegation d ∧ k = d.id := by
  cases w with
  | insertDelegation row =>
    obtain ⟨rfl, rfl⟩ | ⟨-, hd⟩ := Table.insert_cases hd
    · exact .inr ⟨rfl, rfl⟩
    · exact .inl hd
  | setDelegationState id state =>
    obtain ⟨d₁, hd₁, -, hstate⟩ := hmay
    obtain ⟨-, d₀, hd₀, rfl⟩ | ⟨-, hd⟩ := Table.modify_cases hd
    · obtain rfl : state = .active := hactive
      simp at hstate
    · exact .inl hd
  | consumeDelegation id consumedAt attemptId =>
    obtain ⟨-, d₀, hd₀, rfl⟩ | ⟨-, hd⟩ := Table.modify_cases hd
    · simp at hactive
    · exact .inl hd
  | _ => exact .inl hd

theorem Wellformed.apply_single_active (h : Wellformed db) (hmay : w.may db) :
    ∀ k k' d d', (Db.apply w db).delegations.lookup k = some d →
      (Db.apply w db).delegations.lookup k' = some d' → d.scheduleId = d'.scheduleId →
      d.stepId = d'.stepId → d.scope = d'.scope → d.state = .active → d'.state = .active →
      k = k' := by
  intro k k' d d' hd hd' hschedule hstep hscope hactive hactive'
  rcases active_origin hmay hd hactive with hold | ⟨rfl, hk⟩
  · rcases active_origin hmay hd' hactive' with hold' | ⟨rfl, hk'⟩
    · exact h.single_active k k' d d' hold hold' hschedule hstep hscope hactive hactive'
    · exact (hmay.2.2.2.2.1 k d hold hschedule hstep hscope hactive).elim
  · rcases active_origin hmay hd' hactive' with hold' | ⟨hw', hk'⟩
    · exact (hmay.2.2.2.2.1 k' d' hold' hschedule.symm hstep.symm hscope.symm hactive').elim
    · obtain rfl : d = d' := by simpa using hw'
      rw [hk, hk']

private theorem not_taken {p : ConnectionProfile} {k : Uuid} {controlPrincipalRef : String}
    (h : Connections.manualProfileTaken controlPrincipalRef db = false)
    (hp : db.profiles.lookup k = some p) (hprincipal : p.controlPrincipalRef = controlPrincipalRef)
    (hmethod : p.method = .manualHandoff) : p.state ∈ terminalConnectionStates := by
  simp only [Connections.manualProfileTaken, List.any_eq_false, Table.mem_rows] at h
  have hp' := h p ⟨k, hp⟩
  simpa [hprincipal, hmethod] using hp'

theorem Wellformed.apply_single_manual (h : Wellformed db) (hmay : w.may db) :
    ∀ k k' p p', (Db.apply w db).profiles.lookup k = some p →
      (Db.apply w db).profiles.lookup k' = some p' →
      p.controlPrincipalRef = p'.controlPrincipalRef → p.method = .manualHandoff →
      p'.method = .manualHandoff → p.state ∉ terminalConnectionStates →
      p'.state ∉ terminalConnectionStates → k = k' := by
  intro k k' p p' hp hp' hprincipal hmethod hmethod' hstate hstate'
  cases w with
  | insertProfile row =>
    obtain ⟨hk, hrow⟩ | ⟨-, hp⟩ := Table.insert_cases hp
    · obtain ⟨hk', hrow'⟩ | ⟨-, hp'⟩ := Table.insert_cases hp'
      · rw [hk, hk']
      · exact (hstate' (not_taken hmay.2 hp' (by rw [← hprincipal, hrow]) hmethod')).elim
    · obtain ⟨hk', hrow'⟩ | ⟨-, hp'⟩ := Table.insert_cases hp'
      · exact (hstate (not_taken hmay.2 hp (by rw [hprincipal, hrow']) hmethod)).elim
      · exact h.single_manual k k' p p' hp hp' hprincipal hmethod hmethod' hstate hstate'
  | _ => exact h.single_manual k k' p p' hp hp' hprincipal hmethod hmethod' hstate hstate'

theorem Wellformed.apply_receipts_key (h : Wellformed db) (hmay : w.may db) :
    ∀ k r, (Db.apply w db).receipts.lookup k = some r → r.triple = k ∧ r.triple.Admitted := by
  intro k r hr
  cases w with
  | insertReceipt row =>
    obtain ⟨rfl, rfl⟩ | ⟨-, hr⟩ := Table.insert_cases hr
    · exact ⟨rfl, hmay.2⟩
    · exact h.receipts_key k r hr
  | _ => exact h.receipts_key k r hr

theorem Wellformed.apply_results_unique (h : Wellformed db) (hmay : w.may db) :
    ∀ k k' r r', (Db.apply w db).results.lookup k = some r →
      (Db.apply w db).results.lookup k' = some r' → r.id = r'.id → k = k' := by
  intro k k' r r' hr hr' hid
  cases w with
  | insertResult row =>
    obtain ⟨hk, hrow⟩ | ⟨-, hr⟩ := Table.insert_cases hr
    · obtain ⟨hk', hrow'⟩ | ⟨-, hr'⟩ := Table.insert_cases hr'
      · rw [hk, hk']
      · exact (hmay.2.1 k' r' hr' (by rw [← hid, hrow])).elim
    · obtain ⟨hk', hrow'⟩ | ⟨-, hr'⟩ := Table.insert_cases hr'
      · exact (hmay.2.1 k r hr (by rw [hid, hrow'])).elim
      · exact h.results_unique k k' r r' hr hr' hid
  | _ => exact h.results_unique k k' r r' hr hr' hid

/-- A row of one attempt stays with an attempt that exists. -/
private theorem perAttempt_insert {ρ : Type} {t : Table Uuid ρ} {attemptId : ρ → Uuid} {row : ρ}
    {attempts : Table Uuid HandoffAttempt}
    (h : ∀ k r, t.lookup k = some r → attemptId r = k ∧ ∃ a, attempts.lookup k = some a)
    (hrow : ∃ a, attempts.lookup (attemptId row) = some a) (k : Uuid) (r : ρ)
    (hr : (t.insert (attemptId row) row).lookup k = some r) :
    attemptId r = k ∧ ∃ a, attempts.lookup k = some a := by
  obtain ⟨rfl, rfl⟩ | ⟨-, hr⟩ := Table.insert_cases hr
  · exact ⟨rfl, hrow⟩
  · exact h k r hr

private theorem perAttempt_stays {ρ : Type} {t : Table Uuid ρ} {attemptId : ρ → Uuid}
    (h : ∀ k r, t.lookup k = some r → attemptId r = k ∧ ∃ a, db.attempts.lookup k = some a)
    (hmay : w.may db) (k : Uuid) (r : ρ) (hr : t.lookup k = some r) :
    attemptId r = k ∧ ∃ a, (Db.apply w db).attempts.lookup k = some a := by
  obtain ⟨hk, a, ha⟩ := h k r hr
  exact ⟨hk, attempt_stays hmay ha⟩

/-- A legitimate write keeps every constraint. -/
theorem Wellformed.apply (h : Wellformed db) (hmay : w.may db) : Wellformed (Db.apply w db) where
  schedules_id := by
    cases w with
    | insertSchedule row => exact Table.insert_id h.schedules_id
    | setScheduleState id state => exact Table.modify_id h.schedules_id fun _ => rfl
    | _ => exact h.schedules_id
  steps_id := by
    cases w with
    | insertStep row => exact Table.insert_id h.steps_id
    | setStepState id state => exact Table.modify_id h.steps_id fun _ => rfl
    | _ => exact h.steps_id
  attempts_id := by
    cases w with
    | insertAttempt row => exact Table.insert_id h.attempts_id
    | setAttemptState id state => exact Table.modify_id h.attempts_id fun _ => rfl
    | _ => exact h.attempts_id
  delegations_id := by
    cases w with
    | insertDelegation row => exact Table.insert_id h.delegations_id
    | setDelegationState id state => exact Table.modify_id h.delegations_id fun _ => rfl
    | consumeDelegation id consumedAt attemptId =>
      exact Table.modify_id h.delegations_id fun _ => rfl
    | _ => exact h.delegations_id
  profiles_id := by
    cases w with
    | insertProfile row => exact Table.insert_id h.profiles_id
    | _ => exact h.profiles_id
  events_id := by
    cases w with
    | insertEvent row => exact Table.insert_id h.events_id
    | _ => exact h.events_id
  observations_id := by
    cases w with
    | insertObservation row => exact Table.insert_id h.observations_id
    | _ => exact h.observations_id
  opinions_id := by
    cases w with
    | insertOpinion row => exact Table.insert_id h.opinions_id
    | _ => exact h.opinions_id
  receipts_key := h.apply_receipts_key hmay
  seals_attempt := by
    cases w with
    | insertSeal row => exact perAttempt_insert h.seals_attempt hmay.2
    | _ => exact perAttempt_stays h.seals_attempt hmay
  results_attempt := by
    cases w with
    | insertResult row => exact perAttempt_insert h.results_attempt (hmay.2.2.imp fun _ ha => ha.1)
    | _ => exact perAttempt_stays h.results_attempt hmay
  results_unique := h.apply_results_unique hmay
  attributions_attempt := by
    cases w with
    | insertAttribution row =>
      exact perAttempt_insert h.attributions_attempt (hmay.2.imp fun _ ha => ha.1)
    | _ => exact perAttempt_stays h.attributions_attempt hmay
  executions_attempt := by
    cases w with
    | insertExecution row => exact perAttempt_insert h.executions_attempt hmay.2
    | _ => exact perAttempt_stays h.executions_attempt hmay
  steps_schedule := h.apply_steps_schedule hmay
  attempts_step := h.apply_attempts_step hmay
  numbering := h.apply_numbering hmay
  number_unique := h.apply_number_unique hmay
  single_open := h.apply_single_open hmay
  delegations_step := h.apply_delegations_step hmay
  consumption := h.apply_consumption hmay
  single_active := h.apply_single_active hmay
  single_manual := h.apply_single_manual hmay

end Apply

section Runs

variable [Runtime] {c : Lock → Prop} {held : List Lock} {db db' : Db} {log : List Write}

theorem Wellformed.applyAll (h : Wellformed db) (hlog : protocol.Allowed c db log) :
    Wellformed (applyAll Db.apply log db) :=
  hlog.keeps (fun _ _ hd _ hmay => hd.apply hmay) h

theorem Wellformed.evolve (h : Wellformed db) (hevolve : protocol.Evolve held db db') :
    Wellformed db' :=
  hevolve.keeps h fun _ _ hd _ hmay => hd.apply hmay

/-- Every store of a run is well formed. -/
theorem wellformed_of_evolve (h : protocol.Evolve held Db.empty db) : Wellformed db :=
  wellformed_empty.evolve h

end Runs

end PiaOs
