import PiaOs.Runs.Attempts

/-!
# Cancellation

A cancellation closes what is open under its Schedule. It is total and final as long as no
plain seal opens an attempt on a step that has returned or is cancelled.
-/

namespace PiaOs

open Support Transactions Repository

/-- The Schedule of a cancellation that ran. -/
def cancels (c : Commit) : Option Uuid :=
  match c.request with
  | .controlScheduleOnce _ scheduleId action _ =>
    if ¬ c.log.isEmpty ∧ ControlService.acaoDestino action = some .cancelled then some scheduleId
    else none
  | _ => none

/-- The numbers of steps and attempts that a control action reports. -/
def reported (c : Commit) : Option (Nat × Nat) :=
  match c.answer with
  | .controlled _ (some saida) => some (saida.cancelledSteps, saida.closedAttempts)
  | _ => none

/-- How many rows of a table are not as they were. -/
def changedRows {ρ : Type} [DecidableEq ρ] (t t' : Table Uuid ρ) : Nat :=
  (t.keys.filter fun k => t'.lookup k ≠ t.lookup k).length

/-- No attempt of the Schedule is open. -/
def NoneOpen (db : Db) (scheduleId : Uuid) : Prop :=
  ∀ k a, db.attempts.lookup k = some a → a.scheduleId = scheduleId → a.state ≠ .open

/-- What a cancellation leaves. -/
structure CancelledWhole (c : Commit) (scheduleId : Uuid) : Prop where
  attempts : NoneOpen (after c) scheduleId
  steps : ∀ k r, (after c).steps.lookup k = some r → r.scheduleId = scheduleId →
    r.state = .returned ∨ r.state = .cancelled
  returned : ∀ k r r', c.before.steps.lookup k = some r → (after c).steps.lookup k = some r' →
    r.scheduleId = scheduleId → (r.state = .returned ↔ r'.state = .returned)
  counted : reported c = some (changedRows c.before.steps (after c).steps,
    changedRows c.before.attempts (after c).attempts)

/-- The rows under these keys and no others are not as they were. -/
theorem changedRows_eq {ρ : Type} [DecidableEq ρ] {t t' : Table Uuid ρ} {ids : List Uuid}
    (hnodup : ids.Nodup)
    (hids : ∀ k, k ∈ ids ↔ ∃ r, t.lookup k = some r ∧ t'.lookup k ≠ some r) :
    changedRows t t' = ids.length := by
  refine List.Perm.length_eq ((List.perm_ext_iff_of_nodup ?_ hnodup).mpr fun k => ?_)
  · exact t.keys_nodup.filter _
  · rw [hids, List.mem_filter, ← AList.mem_keys, ← AList.lookup_isSome, Option.isSome_iff_exists]
    simp only [decide_eq_true_eq, ne_eq]
    constructor
    · rintro ⟨⟨r, hr⟩, hne⟩
      exact ⟨r, hr, hr ▸ hne⟩
    · rintro ⟨r, hr, hne⟩
      exact ⟨⟨r, hr⟩, hr ▸ hne⟩

/-- The states in which a step may have an open attempt. -/
def openStates : List StepState := [.pending, .dispatched, .awaitingReturn, .rejected, .failed]

/-- Under a cancelled Schedule no attempt is open. -/
theorem noneOpen_of_cancelled {db : Db} {scheduleId : Uuid} (hwf : Wellformed db) (hopen : OpenOn openStates [] db)
    {g : Schedule} (hg : db.schedules.lookup scheduleId = some g) (hcancelled : g.state = .cancelled) :
    NoneOpen db scheduleId := by
  rintro k a ha rfl hstate
  obtain ⟨r, hr, hfits⟩ := hopen k a ha hstate (by simp)
  obtain ⟨r', _, hr', hsame, -⟩ := hwf.attempts_step k a ha
  obtain rfl := Option.some.inj (hr.symm.trans hr')
  obtain ⟨g', hg', -, -, hdone⟩ := hwf.steps_schedule _ r hr
  obtain rfl := Option.some.inj (hg.symm.trans (hsame ▸ hg'))
  rcases hdone hcancelled with heq | heq <;> simp [heq, openStates] at hfits

section Runs

variable [Runtime] {s : Orchestration} {c : Commit} {scheduleId : Uuid}

/-- A cancellation that ran, over the store that it found. -/
theorem cancelled_of_sound (hsound : c.Sound protocol contract) (hc : scheduleId ∈ cancels c) :
    ∃ steps attempts, Cancelled c.before scheduleId steps attempts ∧
      reported c = some (steps.length, attempts.length) ∧
      (∀ k, (after c).steps.lookup k =
        (applyAll Db.apply (cancelWrites steps attempts) c.before).steps.lookup k) ∧
      (∀ k, (after c).attempts.lookup k =
        (applyAll Db.apply (cancelWrites steps attempts) c.before).attempts.lookup k) ∧
      ∃ g, (after c).schedules.lookup scheduleId = some g ∧ g.state = .cancelled := by
  have hended : Ended c.began c.before c.now c.request c.answer c.log := hsound.commits
  simp only [cancels] at hc
  split at hc
  case h_2 => simp at hc
  case h_1 caller scheduleId' action categoria hrequest =>
    split at hc
    case isFalse => simp at hc
    case isTrue hcond =>
      obtain ⟨hlog, haction⟩ := hcond
      obtain rfl : scheduleId' = scheduleId := by simpa using hc
      rw [hrequest] at hended
      generalize hws : c.log = ws at hended hlog
      cases hended with
      | claimed _ _ _ hclaimed =>
        cases hclaimed with
        | replay => simp at hlog
        | ran _ _ r ws _ _ _ _ _ heffect =>
          obtain ⟨recibo, g, e, destino, counts, ws', hdestino, hg, -, -, -, hcontent, hanswer, rfl⟩ :=
            heffect
          obtain rfl := Option.some.inj (haction.symm.trans hdestino)
          cases hcontent with
          | other _ hne => exact absurd rfl hne
          | cancel steps attempts hcancelled =>
            -- The receipt, the Schedule and the event are in other tables.
            obtain ⟨hnodup, hnodup', hmem, hrest, hopen, hall⟩ := hcancelled
            refine ⟨steps, attempts, ⟨hnodup, hnodup', hmem, hrest, hopen, hall⟩, ?_,
              fun k => ?_, fun k => ?_, { g with state := .cancelled }, ?_, rfl⟩
            · rw [reported, hanswer]
            · rw [after, hws, applyAll_cons, applyAll_append, cancelWrites_steps]
              exact cancelWrites_steps k
            · rw [after, hws, applyAll_cons, applyAll_append, cancelWrites_attempts]
              exact cancelWrites_attempts k
            · rw [after, hws, applyAll_cons, applyAll_append]
              have hsame : (applyAll Db.apply (cancelWrites steps attempts)
                  (Db.apply (.insertReceipt r) c.before)).schedules = c.before.schedules :=
                cancelWrites_sameTable (t := .schedules) (by simp) (by simp)
              have hlookup : c.before.schedules.lookup scheduleId' = some g := hg
              rw [← hsame] at hlookup
              generalize applyAll Db.apply (cancelWrites steps attempts) _ = V at hlookup
              simp [Db.apply, Table.lookup_modify, hlookup]

/-- A cancellation is total if every open attempt stood on a step that it could cancel. -/
theorem cancelledWhole_of_sound (hsound : c.Sound protocol contract)
    (hopen : OpenOn openStates [] c.before) (hc : scheduleId ∈ cancels c) :
    CancelledWhole c scheduleId := by
  obtain ⟨steps, attempts, hcancelled, hreported, hsteps, hattempts, -⟩ :=
    cancelled_of_sound hsound hc
  have hwf : Wellformed c.before := wellformed_of_evolve hsound.origin_before
  constructor
  · intro k a ha hschedule hstate
    rw [hattempts] at ha
    obtain ⟨ha₀, hfree⟩ := hcancelled.closed hwf ha hstate
    obtain ⟨r, hr, hfits⟩ := hopen k a ha₀ hstate (by simp)
    obtain ⟨r', _, hr', hsame, -⟩ := hwf.attempts_step k a ha₀
    obtain rfl := Option.some.inj (hr.symm.trans hr')
    rcases hcancelled.rest _ r hr (hsame.trans hschedule) hfree with heq | heq <;>
      simp [heq, openStates] at hfits
  · intro k r hr hschedule
    exact hcancelled.done k r (hsteps k ▸ hr) hschedule
  · intro k r r' hr hr' hschedule
    rw [hsteps, cancelWrites_steps, hr] at hr'
    split at hr'
    case isTrue hk =>
      obtain ⟨r₀, hr₀, -, hstate⟩ := (hcancelled.mem_steps k).mp hk
      obtain rfl := Option.some.inj (hr.symm.trans hr₀)
      obtain rfl := Option.some.inj hr'
      rcases hstate with heq | heq <;> simp [heq]
    case isFalse =>
      obtain rfl := Option.some.inj hr'
      rfl
  · rw [hreported, changedRows_eq hcancelled.steps_nodup, changedRows_eq hcancelled.attempts_nodup]
    · intro k
      simp only [hattempts, cancelWrites_attempts]
      constructor
      · intro hk
        obtain ⟨a, ha, -, hstate⟩ := hcancelled.attempts_open k hk
        refine ⟨a, ha, ?_⟩
        rw [if_pos hk, ha]
        intro heq
        have hclosed := congrArg HandoffAttempt.state (Option.some.inj heq)
        simp [hstate] at hclosed
      · rintro ⟨a, ha, hne⟩
        by_contra hk
        exact hne (by rw [if_neg hk, ha])
    · intro k
      simp only [hsteps, cancelWrites_steps]
      constructor
      · intro hk
        obtain ⟨r, hr, -, hstate⟩ := (hcancelled.mem_steps k).mp hk
        refine ⟨r, hr, ?_⟩
        rw [if_pos hk, hr]
        intro heq
        have hchanged := congrArg ScheduleStep.state (Option.some.inj heq)
        rcases hstate with hstate | hstate <;> simp [hstate] at hchanged
      · rintro ⟨r, hr, hne⟩
        by_contra hk
        exact hne (by rw [if_neg hk, hr])

/-- Every cancellation of a run is total, and nothing is open under its Schedule in any
later state, provided that no plain seal is committed to a step that has returned or is
cancelled. -/
theorem cancellation_final (h : Reachable s) (hseal : ∀ c ∈ s.history, ∀ r ∈ sealedStep c,
      r.state ≠ .returned ∧ r.state ≠ .cancelled) :
    ∀ c ∈ s.history, ∀ scheduleId ∈ cancels c,
      CancelledWhole c scheduleId ∧ NoneOpen s.store scheduleId := by
  have hopen : (∀ c ∈ s.history, OpenOn openStates [] c.before) ∧ OpenOn openStates [] s.store := by
    refine openOn_store h (by simp [openStates]) fun c hc r hr => ?_
    have hstate := hseal c hc r hr
    revert hstate
    cases r.state <;> simp [openStates]
  intro c hc scheduleId hcancels
  have hsound := (commits_of_reachable h).sound hc
  refine ⟨cancelledWhole_of_sound hsound (hopen.1 c hc) hcancels, ?_⟩
  obtain ⟨_, _, -, -, -, -, g, hg, hcancelled⟩ := cancelled_of_sound hsound hcancels
  obtain ⟨g', hg', hchange⟩ := (later_store h hc).2.schedules.stays hg
  refine noneOpen_of_cancelled (wellformed_store h) hopen.2 hg' ?_
  rw [hchange.terminal (by simp [hcancelled, terminalScheduleStates]), hcancelled]

end Runs

instance (db : Db) (scheduleId : Uuid) : Decidable (NoneOpen db scheduleId) :=
  Table.decidableForall db.attempts

/-- An exported work is cancelled. -/
def cancelledInOrder : List (Label Request) :=
  alone 0 (.criarSchedule (Sample.caller "a") Sample.oneStep .manualHandoff) 0 1 15 ++
    alone 1 (.exportHandoffOnce denyAllHumanGate (Sample.caller "b") ⟨1⟩ ⟨5⟩ "p") 1 20 36 ++
    alone 2 (.controlScheduleOnce (Sample.caller "c") ⟨1⟩ "cancel" none) 2 60 16

theorem cancellation_final_inOrder : ∃ s : Orchestration, Reachable s ∧
    s.history.filterMap reported = [(1, 1)] ∧ ∀ c ∈ s.history, ∀ scheduleId ∈ cancels c,
      CancelledWhole c scheduleId ∧ NoneOpen s.store scheduleId := by
  obtain ⟨s, hreach, htest⟩ := exists_reachable cancelledInOrder (fun s => decide
    (s.history.filterMap reported = [(1, 1)] ∧ ∀ c ∈ s.history, ∀ r ∈ sealedStep c,
      r.state ≠ .returned ∧ r.state ≠ .cancelled)) (by decide +kernel)
  obtain ⟨hreported, hseal⟩ := of_decide_eq_true htest
  exact ⟨s, hreach, hreported, cancellation_final hreach hseal⟩

/-- A seal has read the Schedule and the step when both are cancelled. -/
def sealedTooLate : List (Label Request) :=
  alone 0 (.criarSchedule (Sample.caller "a") Sample.oneStep .manualHandoff) 0 1 15 ++
    .begin (.sealHandoffOnce (Sample.caller "b") ⟨1⟩ ⟨5⟩ "p") 1 ::
      [.exec 1 40, .exec 1 41, .exec 1 42, .exec 1 43, .exec 1 44] ++
    alone 2 (.controlScheduleOnce (Sample.caller "c") ⟨1⟩ "cancel" none) 1 60 13 ++
    (List.range 9).map (fun j => .exec 1 (90 + j)) ++ [.commit 1]

theorem open_after_cancellation : ¬ ∀ s : Orchestration, Reachable s → ∀ c ∈ s.history,
    ∀ scheduleId ∈ cancels c, CancelledWhole c scheduleId ∧ NoneOpen s.store scheduleId := by
  intro hall
  obtain ⟨s, hreach, htest⟩ := exists_reachable sealedTooLate (fun s => decide
    (∃ c ∈ s.history, ∃ scheduleId ∈ cancels c, ¬ NoneOpen s.store scheduleId))
    (by decide +kernel)
  obtain ⟨c, hc, scheduleId, hcancels, hopen⟩ := of_decide_eq_true htest
  exact hopen (hall s hreach c hc scheduleId hcancels).2

end PiaOs
