import PiaOs.Invariants.Wellformed
import PiaOs.Support.History

/-!
# What a transaction can count on

The store that a transaction finds becomes the store of its commit only by the
writes of others, who hold none of its locks. Rows stay and keep what identifies
them, closed states stay closed, and what is locked does not change.
-/

namespace PiaOs

open Support Transactions

/-! ## Changes of one row -/

structure ScheduleChange (r r' : Schedule) : Prop where
  id : r'.id = r.id
  title : r'.title = r.title
  executionMode : r'.executionMode = r.executionMode
  controlPrincipalRef : r'.controlPrincipalRef = r.controlPrincipalRef
  terminal : r.state ∈ terminalScheduleStates → r'.state = r.state
  draft : r'.state = .draft → r.state = .draft

/-- While the Schedule is locked a step only moves to `AWAITING_RETURN`. -/
structure StepChange (held : List Lock) (r r' : ScheduleStep) : Prop where
  id : r'.id = r.id
  scheduleId : r'.scheduleId = r.scheduleId
  position : r'.position = r.position
  draft : r'.draft = r.draft
  returned : r.state = .returned → r'.state = .returned
  cancelled : r.state = .cancelled → r'.state = .cancelled
  locked : .schedule r.scheduleId ∈ held → r'.state = r.state ∨
    r'.state = .awaitingReturn ∧ r.state ∈ [StepState.pending, .dispatched, .awaitingReturn]

/-- An attempt closes once, and not while its Schedule is locked. -/
structure AttemptChange (held : List Lock) (a a' : HandoffAttempt) : Prop where
  id : a'.id = a.id
  scheduleId : a'.scheduleId = a.scheduleId
  stepId : a'.stepId = a.stepId
  attemptNumber : a'.attemptNumber = a.attemptNumber
  envelopeVersion : a'.envelopeVersion = a.envelopeVersion
  contentSha256 : a'.contentSha256 = a.contentSha256
  createdAt : a'.createdAt = a.createdAt
  closed : a.state ≠ .open → a'.state = a.state
  locked : .schedule a.scheduleId ∈ held → a'.state = a.state

/-- A delegation that is not active is frozen, and none becomes active. -/
structure DelegationChange (d d' : ServiceDelegation) : Prop where
  id : d'.id = d.id
  scheduleId : d'.scheduleId = d.scheduleId
  stepId : d'.stepId = d.stepId
  contentSha256 : d'.contentSha256 = d.contentSha256
  scope : d'.scope = d.scope
  grantedByPrincipalRef : d'.grantedByPrincipalRef = d.grantedByPrincipalRef
  validUntil : d'.validUntil = d.validUntil
  createdAt : d'.createdAt = d.createdAt
  spent : d.state ≠ .active → d' = d
  active : d'.state = .active → d' = d

/-! ## The rules of each table -/

def scheduleRules (held : List Lock) : RowRules Uuid Schedule where
  locked := fun k => .schedule k ∈ held
  changes := ScheduleChange
  arrives := fun k _ => .identifier k ∉ held
  changes_refl := fun _ => ⟨rfl, rfl, rfl, rfl, fun _ => rfl, id⟩
  changes_trans := fun h h' => ⟨h'.id.trans h.id, h'.title.trans h.title,
    h'.executionMode.trans h.executionMode, h'.controlPrincipalRef.trans h.controlPrincipalRef,
    fun ht => (h'.terminal (h.terminal ht ▸ ht)).trans (h.terminal ht),
    fun hd => h.draft (h'.draft hd)⟩
  arrives_changes := fun h _ => h

def stepRules (held : List Lock) : RowRules Uuid ScheduleStep where
  locked := fun k => .step k ∈ held
  changes := StepChange held
  arrives := fun k r => .identifier k ∉ held ∧ .schedule r.scheduleId ∉ held
  changes_refl := fun _ => ⟨rfl, rfl, rfl, rfl, id, id, fun _ => .inl rfl⟩
  changes_trans := fun {r r' r''} h h' => {
    id := h'.id.trans h.id
    scheduleId := h'.scheduleId.trans h.scheduleId
    position := h'.position.trans h.position
    draft := h'.draft.trans h.draft
    returned := fun hr => h'.returned (h.returned hr)
    cancelled := fun hr => h'.cancelled (h.cancelled hr)
    locked := fun hl => by
      have hfirst := h.locked hl
      have hsecond := h'.locked (h.scheduleId ▸ hl)
      rcases hsecond with heq | ⟨hawaiting, hfrom⟩
      · rw [heq]
        exact hfirst
      · refine .inr ⟨hawaiting, ?_⟩
        rcases hfirst with heq | ⟨-, hfrom'⟩
        · exact heq ▸ hfrom
        · exact hfrom' }
  arrives_changes := fun h hc => ⟨h.1, hc.scheduleId ▸ h.2⟩

def attemptRules (held : List Lock) : RowRules Uuid HandoffAttempt where
  locked := fun k => .attempt k ∈ held
  changes := AttemptChange held
  arrives := fun k a => .identifier k ∉ held ∧ .step a.stepId ∉ held
  changes_refl := fun _ => ⟨rfl, rfl, rfl, rfl, rfl, rfl, rfl, fun _ => rfl, fun _ => rfl⟩
  changes_trans := fun h h' => ⟨h'.id.trans h.id, h'.scheduleId.trans h.scheduleId,
    h'.stepId.trans h.stepId, h'.attemptNumber.trans h.attemptNumber,
    h'.envelopeVersion.trans h.envelopeVersion, h'.contentSha256.trans h.contentSha256,
    h'.createdAt.trans h.createdAt,
    fun hc => (h'.closed (h.closed hc ▸ hc)).trans (h.closed hc),
    fun hl => (h'.locked (h.scheduleId ▸ hl)).trans (h.locked hl)⟩
  arrives_changes := fun h hc => ⟨h.1, hc.stepId ▸ h.2⟩

def delegationRules (held : List Lock) : RowRules Uuid ServiceDelegation where
  locked := fun k => .delegation k ∈ held
  changes := DelegationChange
  arrives := fun k d => .identifier k ∉ held ∧ .step d.stepId ∉ held
  changes_refl := fun _ =>
    ⟨rfl, rfl, rfl, rfl, rfl, rfl, rfl, rfl, fun _ => rfl, fun _ => rfl⟩
  changes_trans := fun {d d' d''} h h' => {
    id := h'.id.trans h.id
    scheduleId := h'.scheduleId.trans h.scheduleId
    stepId := h'.stepId.trans h.stepId
    contentSha256 := h'.contentSha256.trans h.contentSha256
    scope := h'.scope.trans h.scope
    grantedByPrincipalRef := h'.grantedByPrincipalRef.trans h.grantedByPrincipalRef
    validUntil := h'.validUntil.trans h.validUntil
    createdAt := h'.createdAt.trans h.createdAt
    spent := fun hs => by
      obtain rfl := h.spent hs
      exact h'.spent hs
    active := fun ha => by
      obtain rfl := h'.active ha
      exact h.active ha }
  arrives_changes := fun h hc => ⟨h.1, hc.stepId ▸ h.2⟩

def receiptRules (held : List Lock) : RowRules CommandTriple CommandReceipt :=
  .frozen (fun k => .receipt k ∈ held) fun _ r => .identifier r.id ∉ held

/-- The rules of every table that holds at most one row for each attempt. -/
def perAttemptRules {ρ : Type} (held : List Lock) (id : ρ → Uuid) : RowRules Uuid ρ :=
  .frozen (fun k => .attempt k ∈ held) fun _ r => .identifier (id r) ∉ held

def profileRules (held : List Lock) : RowRules Uuid ConnectionProfile :=
  .frozen (fun _ => False) fun k p =>
    .identifier k ∉ held ∧ .manualProfile p.controlPrincipalRef ∉ held

/-- The rules of the tables that are only appended to. -/
def appendRules (held : List Lock) (ρ : Type) : RowRules Uuid ρ :=
  .frozen (fun _ => False) fun k _ => .identifier k ∉ held

/-- The store `f` may be what others have made of the store `d` while the locks in
`held` were held. -/
structure Later (held : List Lock) (d f : Db) : Prop where
  schedules : (scheduleRules held).Later d.schedules f.schedules
  steps : (stepRules held).Later d.steps f.steps
  attempts : (attemptRules held).Later d.attempts f.attempts
  delegations : (delegationRules held).Later d.delegations f.delegations
  receipts : (receiptRules held).Later d.receipts f.receipts
  seals : (perAttemptRules held SealReceipt.id).Later d.seals f.seals
  results : (perAttemptRules held HandoffResult.id).Later d.results f.results
  attributions : (perAttemptRules held HandoffAttribution.id).Later d.attributions f.attributions
  executions :
    (perAttemptRules held ConnectionExecutionReceipt.id).Later d.executions f.executions
  profiles : (profileRules held).Later d.profiles f.profiles
  events : (appendRules held OrchestrationControlEvent).Later d.events f.events
  observations : (appendRules held ExecutionObservation).Later d.observations f.observations
  opinions : (appendRules held AuditOpinion).Later d.opinions f.opinions

namespace Later

variable {held : List Lock} {d e f : Db} {w : Write} {log : List Write}

theorem refl : Later held d d :=
  ⟨.refl, .refl, .refl, .refl, .refl, .refl, .refl, .refl, .refl, .refl, .refl, .refl, .refl⟩

theorem trans (h : Later held d e) (h' : Later held e f) : Later held d f :=
  ⟨h.schedules.trans h'.schedules, h.steps.trans h'.steps, h.attempts.trans h'.attempts,
    h.delegations.trans h'.delegations, h.receipts.trans h'.receipts, h.seals.trans h'.seals,
    h.results.trans h'.results, h.attributions.trans h'.attributions,
    h.executions.trans h'.executions, h.profiles.trans h'.profiles, h.events.trans h'.events,
    h.observations.trans h'.observations, h.opinions.trans h'.opinions⟩

/-- A legitimate write of another transaction. -/
theorem of_write (hneeds : ∀ l ∈ w.needs d, l ∉ held) (hmay : w.may d) :
    Later held d (Db.apply w d) := by
  have hrefl : Later held d d := .refl
  cases w with
  | insertSchedule row =>
    exact { hrefl with
      schedules := .insert_right (hneeds _ (by simp [Write.needs]))
        (hneeds (.identifier row.id) (by simp [Write.needs])) hmay.1 }
  | setScheduleState id state =>
    refine { hrefl with
      schedules := .modify_right (hneeds _ (by simp [Write.needs])) fun r hr => ?_ }
    obtain ⟨r', hr', htrans, -⟩ := hmay
    obtain rfl := Option.some.inj (hr.symm.trans hr')
    refine ⟨rfl, rfl, rfl, rfl, fun hterminal => ?_, ?_⟩
    · revert hterminal htrans
      cases r.state <;> simp [terminalScheduleStates, e71ScheduleTransitions,
        e73ScheduleTransitions]
    · rintro (rfl : state = .draft)
      simp [e71ScheduleTransitions, e73ScheduleTransitions] at htrans
  | insertStep row =>
    exact { hrefl with
      steps := .insert_right (hneeds _ (by simp [Write.needs]))
        ⟨hneeds _ (by simp [Write.needs]), hneeds _ (by simp [Write.needs])⟩ hmay.1 }
  | setStepState id state =>
    refine { hrefl with
      steps := .modify_right (hneeds _ (by simp [Write.needs])) fun r hr => ?_ }
    obtain ⟨r', s, hr', -, -, htrans⟩ := hmay
    obtain rfl := Option.some.inj (hr.symm.trans hr')
    refine ⟨rfl, rfl, rfl, rfl, fun hreturned => ?_, fun hcancelled => ?_, fun hlocked => ?_⟩
    · rw [hreturned] at htrans
      simp [stepWrites, e72StepTransitions, e73StepTransitions] at htrans
    · rw [hcancelled] at htrans
      simp [stepWrites, e72StepTransitions, e73StepTransitions] at htrans
    · by_cases hstate : state = .awaitingReturn
      · subst hstate
        refine .inr ⟨rfl, ?_⟩
        revert htrans
        cases r.state <;> simp [stepWrites, e72StepTransitions, e73StepTransitions]
      · exact (hneeds (.schedule r.scheduleId) (by simp [Write.needs, hstate, hr]) hlocked).elim
  | insertAttempt row =>
    exact { hrefl with
      attempts := .insert_right (hneeds _ (by simp [Write.needs]))
        ⟨hneeds _ (by simp [Write.needs]), hneeds _ (by simp [Write.needs])⟩ hmay.1 }
  | setAttemptState id state =>
    refine { hrefl with
      attempts := .modify_right (hneeds _ (by simp [Write.needs])) fun a ha => ?_ }
    obtain ⟨a', ha', htrans⟩ := hmay
    obtain rfl := Option.some.inj (ha.symm.trans ha')
    refine ⟨rfl, rfl, rfl, rfl, rfl, rfl, rfl, fun hclosed => ?_, fun hlocked => ?_⟩
    · revert htrans hclosed
      cases a.state <;> simp [e72AttemptTransitions, e73AttemptTransitions]
    · exact (hneeds (.schedule a.scheduleId) (by simp [Write.needs, ha]) hlocked).elim
  | insertDelegation row =>
    exact { hrefl with
      delegations := .insert_right (hneeds _ (by simp [Write.needs]))
        ⟨hneeds _ (by simp [Write.needs]), hneeds _ (by simp [Write.needs])⟩ hmay.1 }
  | setDelegationState id state =>
    refine { hrefl with
      delegations := .modify_right (hneeds _ (by simp [Write.needs])) fun r hr => ?_ }
    obtain ⟨r', hr', hactive, hstate⟩ := hmay
    obtain rfl := Option.some.inj (hr.symm.trans hr')
    refine ⟨rfl, rfl, rfl, rfl, rfl, rfl, rfl, rfl, fun hs => (hs hactive).elim, ?_⟩
    rintro (rfl : state = .active)
    simp at hstate
  | consumeDelegation id consumedAt attemptId =>
    refine { hrefl with
      delegations := .modify_right (hneeds _ (by simp [Write.needs])) fun r hr => ?_ }
    obtain ⟨r', hr', hactive, -⟩ := hmay
    obtain rfl := Option.some.inj (hr.symm.trans hr')
    exact ⟨rfl, rfl, rfl, rfl, rfl, rfl, rfl, rfl, fun hs => (hs hactive).elim, by simp⟩
  | insertReceipt row =>
    exact { hrefl with
      receipts := .insert_right (hneeds _ (by simp [Write.needs]))
        (hneeds (.identifier row.id) (by simp [Write.needs])) hmay.1 }
  | insertSeal row =>
    exact { hrefl with
      seals := .insert_right (hneeds _ (by simp [Write.needs]))
        (hneeds (.identifier row.id) (by simp [Write.needs])) hmay.1 }
  | insertResult row =>
    exact { hrefl with
      results := .insert_right (hneeds _ (by simp [Write.needs]))
        (hneeds (.identifier row.id) (by simp [Write.needs])) hmay.1 }
  | insertAttribution row =>
    exact { hrefl with
      attributions := .insert_right (hneeds _ (by simp [Write.needs]))
        (hneeds (.identifier row.id) (by simp [Write.needs])) hmay.1 }
  | insertExecution row =>
    exact { hrefl with
      executions := .insert_right (hneeds _ (by simp [Write.needs]))
        (hneeds (.identifier row.id) (by simp [Write.needs])) hmay.1 }
  | insertProfile row =>
    exact { hrefl with
      profiles := .insert_right id
        ⟨hneeds _ (by simp [Write.needs]), hneeds _ (by simp [Write.needs])⟩ hmay.1 }
  | insertEvent row =>
    exact { hrefl with
      events := .insert_right id (hneeds (.identifier row.id) (by simp [Write.needs])) hmay }
  | insertObservation row =>
    exact { hrefl with
      observations :=
        .insert_right id (hneeds (.identifier row.id) (by simp [Write.needs])) hmay }
  | insertOpinion row =>
    exact { hrefl with
      opinions := .insert_right id (hneeds (.identifier row.id) (by simp [Write.needs])) hmay }

/-- A write of the transaction itself, made in both stores. -/
theorem apply_both (h : Later held d f) (hneeds : ∀ l ∈ w.needs d, l ∈ held) :
    Later held (Db.apply w d) (Db.apply w f) := by
  cases w with
  | insertSchedule row => exact { h with schedules := h.schedules.insert_both _ _ }
  | setScheduleState id state =>
    exact { h with
      schedules := h.schedules.modify_both (hneeds (.schedule id) (by simp [Write.needs])) _ }
  | insertStep row => exact { h with steps := h.steps.insert_both _ _ }
  | setStepState id state =>
    exact { h with
      steps := h.steps.modify_both (hneeds (.step id) (by simp [Write.needs])) _ }
  | insertAttempt row => exact { h with attempts := h.attempts.insert_both _ _ }
  | setAttemptState id state =>
    exact { h with
      attempts := h.attempts.modify_both (hneeds (.attempt id) (by simp [Write.needs])) _ }
  | insertDelegation row => exact { h with delegations := h.delegations.insert_both _ _ }
  | setDelegationState id state =>
    exact { h with
      delegations :=
        h.delegations.modify_both (hneeds (.delegation id) (by simp [Write.needs])) _ }
  | consumeDelegation id consumedAt attemptId =>
    exact { h with
      delegations :=
        h.delegations.modify_both (hneeds (.delegation id) (by simp [Write.needs])) _ }
  | insertReceipt row => exact { h with receipts := h.receipts.insert_both _ _ }
  | insertSeal row => exact { h with seals := h.seals.insert_both _ _ }
  | insertResult row => exact { h with results := h.results.insert_both _ _ }
  | insertAttribution row => exact { h with attributions := h.attributions.insert_both _ _ }
  | insertExecution row => exact { h with executions := h.executions.insert_both _ _ }
  | insertProfile row => exact { h with profiles := h.profiles.insert_both _ _ }
  | insertEvent row => exact { h with events := h.events.insert_both _ _ }
  | insertObservation row => exact { h with observations := h.observations.insert_both _ _ }
  | insertOpinion row => exact { h with opinions := h.opinions.insert_both _ _ }

variable [Runtime]

theorem of_evolve (h : protocol.Evolve held d f) : Later held d f :=
  h.keeps refl fun _ _ hd hneeds hmay => hd.trans (of_write hneeds hmay)

/-- The writes of a transaction themselves. -/
theorem of_guarded (hlog : protocol.Guarded held d log) : Later [] d (applyAll Db.apply log d) := by
  induction log generalizing d with
  | nil => exact .refl
  | cons w log ih =>
    obtain ⟨⟨-, hmay⟩, hrest⟩ := hlog
    exact (of_write (by simp) hmay).trans (ih hrest)

/-- The log of the transaction, made in both stores. -/
theorem applyAll_both (h : Later held d f) (hlog : protocol.Guarded held d log) :
    Later held (applyAll Db.apply log d) (applyAll Db.apply log f) := by
  induction log generalizing d f with
  | nil => exact h
  | cons w log ih => exact ih (h.apply_both hlog.1.1) hlog.2

end Later

end PiaOs
