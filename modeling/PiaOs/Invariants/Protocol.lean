import PiaOs.Model.Requests
import PiaOs.Transactions.Contract

/-!
# The locking protocol of the orchestration

Which locks stand behind each write, when a write is legitimate, and what holds of
every committed store. Nothing here restricts the programs: that they keep to the
protocol is proved of each of them.
-/

namespace PiaOs

open Support Transactions

/-- The changes of a step that some operation makes. The last two are made by the
supervised export, which moves a step without the intermediate state. -/
def stepWrites : List (StepState × StepState) :=
  e72StepTransitions ++ e73StepTransitions ++
    [(.pending, .awaitingReturn), (.awaitingReturn, .awaitingReturn)]

/-- A triple that passes the checks before the claim. -/
structure CommandTriple.Admitted (t : CommandTriple) : Prop where
  principal_named : blank t.technicalPrincipalRef = false
  principal_length : t.technicalPrincipalRef.length ≤ maxRefLength
  key_named : blank t.commandKey = false
  key_length : t.commandKey.length ≤ CommandReceiptService.maxCommandKeyLength

/-- The step has an attempt with this number. -/
def Db.Numbered (db : Db) (stepId : Uuid) (n : Nat) : Prop :=
  ∃ k a, db.attempts.lookup k = some a ∧ a.stepId = stepId ∧ a.attemptNumber = n

/-- The locks behind a write. Only the move to `AWAITING_RETURN` is made without the
lock of the Schedule. -/
def Write.needs (db : Db) : Write → List Lock
  | .insertSchedule row => [.identifier row.id, .schedule row.id]
  | .setScheduleState id _ => [.schedule id]
  | .insertStep row => [.identifier row.id, .step row.id, .schedule row.scheduleId]
  | .setStepState id state =>
    .step id :: if state = .awaitingReturn then [] else
      ((db.steps.lookup id).map fun r => Lock.schedule r.scheduleId).toList
  | .insertAttempt row => [.identifier row.id, .attempt row.id, .step row.stepId]
  | .setAttemptState id _ =>
    .attempt id :: ((db.attempts.lookup id).map fun a => Lock.schedule a.scheduleId).toList
  | .insertDelegation row => [.identifier row.id, .delegation row.id, .step row.stepId]
  | .setDelegationState id _ | .consumeDelegation id _ _ => [.delegation id]
  | .insertReceipt row => [.identifier row.id, .receipt row.triple]
  | .insertSeal row => [.identifier row.id, .attempt row.attemptId]
  | .insertResult row => [.identifier row.id, .attempt row.attemptId]
  | .insertAttribution row => [.identifier row.id, .attempt row.attemptId]
  | .insertExecution row => [.identifier row.id, .attempt row.attemptId]
  | .insertProfile row => [.identifier row.id, .manualProfile row.controlPrincipalRef]
  | .insertEvent row => [.identifier row.id]
  | .insertObservation row => [.identifier row.id]
  | .insertOpinion row => [.identifier row.id]

/-- When a write is legitimate. -/
def Write.may (db : Db) : Write → Prop
  | .insertSchedule row => db.schedules.lookup row.id = none ∧ row.state = .draft
  | .setScheduleState id state =>
    ∃ r, db.schedules.lookup id = some r ∧
      (r.state, state) ∈ e71ScheduleTransitions ++ e73ScheduleTransitions ∧
      (state = .completed → ∀ k s, db.steps.lookup k = some s → s.scheduleId = id →
        s.state = .returned) ∧
      (state = .cancelled → ∀ k s, db.steps.lookup k = some s → s.scheduleId = id →
        s.state = .returned ∨ s.state = .cancelled)
  | .insertStep row =>
    db.steps.lookup row.id = none ∧ row.state = .pending ∧
      ∃ s, db.schedules.lookup row.scheduleId = some s ∧ s.state = .draft
  | .setStepState id state =>
    ∃ r s, db.steps.lookup id = some r ∧ db.schedules.lookup r.scheduleId = some s ∧
      s.state ≠ .draft ∧ (r.state, state) ∈ stepWrites
  | .insertAttempt row =>
    db.attempts.lookup row.id = none ∧ row.state = .open ∧ 1 ≤ row.attemptNumber ∧
      (∀ n, db.Numbered row.stepId n ↔ 1 ≤ n ∧ n < row.attemptNumber) ∧
      (∀ k a, db.attempts.lookup k = some a → a.stepId = row.stepId → a.state ≠ .open) ∧
      ∃ r s, db.steps.lookup row.stepId = some r ∧ r.scheduleId = row.scheduleId ∧
        db.schedules.lookup row.scheduleId = some s ∧ s.state ≠ .draft
  | .setAttemptState id state =>
    ∃ a, db.attempts.lookup id = some a ∧
      (a.state, state) ∈ e72AttemptTransitions ++ e73AttemptTransitions
  | .insertDelegation row =>
    db.delegations.lookup row.id = none ∧ row.state = .active ∧ row.consumedAt = none ∧
      row.consumedByAttemptId = none ∧
      (∀ k d, db.delegations.lookup k = some d → d.scheduleId = row.scheduleId →
        d.stepId = row.stepId → d.scope = row.scope → d.state ≠ .active) ∧
      ∃ r, db.steps.lookup row.stepId = some r ∧ r.scheduleId = row.scheduleId
  | .setDelegationState id state =>
    ∃ d, db.delegations.lookup id = some d ∧ d.state = .active ∧
      (state = .revoked ∨ state = .expired)
  | .consumeDelegation id consumedAt _ =>
    ∃ d, db.delegations.lookup id = some d ∧ d.state = .active ∧ consumedAt < d.validUntil
  | .insertReceipt row => db.receipts.lookup row.triple = none ∧ row.triple.Admitted
  | .insertSeal row =>
    db.seals.lookup row.attemptId = none ∧ ∃ a, db.attempts.lookup row.attemptId = some a
  | .insertResult row =>
    db.results.lookup row.attemptId = none ∧
      (∀ k r, db.results.lookup k = some r → r.id ≠ row.id) ∧
      ∃ a, db.attempts.lookup row.attemptId = some a ∧ a.state = .open
  | .insertAttribution row =>
    db.attributions.lookup row.attemptId = none ∧
      ∃ a, db.attempts.lookup row.attemptId = some a ∧ a.state = .open
  | .insertExecution row =>
    db.executions.lookup row.attemptId = none ∧
      ∃ a, db.attempts.lookup row.attemptId = some a
  | .insertProfile row =>
    db.profiles.lookup row.id = none ∧
      Connections.manualProfileTaken row.controlPrincipalRef db = false
  | .insertEvent row => db.events.lookup row.id = none
  | .insertObservation row => db.observations.lookup row.id = none
  | .insertOpinion row => db.opinions.lookup row.id = none

/-- What every commit restores: no step is caught between two states of an export,
and an attempt with a result or an attribution is closed. -/
structure Settled (db : Db) : Prop where
  steps : ∀ k r, db.steps.lookup k = some r →
    r.state ∈ [StepState.pending, .awaitingReturn, .returned, .cancelled]
  opened : ∀ k a, db.attempts.lookup k = some a → a.state = .open →
    db.results.lookup k = none ∧ db.attributions.lookup k = none

theorem settled_empty : Settled Db.empty where
  steps := by simp [Db.empty]
  opened := by simp [Db.empty]

variable [Runtime]

@[simp] theorem orchestration_apply : orchestration.apply = Db.apply := rfl

@[simp] theorem orchestration_isFresh : orchestration.isFresh = Db.isFresh := rfl

/-- The protocol that every operation keeps. -/
def protocol : Protocol orchestration where
  needs := Write.needs
  may := Write.may
  settled := Settled
  origin := Db.empty
  origin_settled := settled_empty

@[simp] theorem protocol_needs : protocol.needs = Write.needs := rfl

@[simp] theorem protocol_may : protocol.may = Write.may := rfl

@[simp] theorem protocol_settled : protocol.settled = Settled := rfl

@[simp] theorem protocol_origin : protocol.origin = Db.empty := rfl

end PiaOs
