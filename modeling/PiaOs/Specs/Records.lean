import PiaOs.Specs.Scans

/-!
# Schedules, receipts, events and the records that are only added


-/

/-! ## What the repository does to delegations

 -/

namespace PiaOs

open Support Transactions

namespace Repository

section Conditions

variable {scheduleId stepId : Uuid} {scope contentSha256 : String} {now : Instant}
  {d : ServiceDelegation}

theorem stale_iff : stale scheduleId stepId now d = true ↔ d.scheduleId = scheduleId ∧
    d.stepId = stepId ∧ d.state = .active ∧ d.validUntil ≤ now := by
  simp [stale, and_assoc]

theorem activeFor_iff : activeFor scheduleId stepId scope d = true ↔
    d.scheduleId = scheduleId ∧ d.stepId = stepId ∧ d.scope = scope ∧ d.state = .active := by
  simp [activeFor, and_assoc]

theorem consumable_iff : consumable scheduleId stepId contentSha256 scope now d = true ↔
    d.scheduleId = scheduleId ∧ d.stepId = stepId ∧ d.scope = scope ∧
      d.contentSha256 = contentSha256 ∧ d.state = .active ∧ now < d.validUntil := by
  simp [consumable, and_assoc]

theorem delegationViolates_eq_none {row : ServiceDelegation} {db : Db} :
    delegationViolates row db = none ↔ db.delegations.lookup row.id = none ∧
      ∀ k d, db.delegations.lookup k = some d → d.scheduleId = row.scheduleId →
        d.stepId = row.stepId → d.scope = row.scope → d.state ≠ .active := by
  unfold delegationViolates
  cases hlookup : db.delegations.lookup row.id with
  | some r => simp
  | none =>
    simp only [Option.isSome_none, Bool.false_eq_true, if_false, true_and]
    split
    case isTrue hany =>
      obtain ⟨d, hd, hactive⟩ := List.any_eq_true.mp hany
      obtain ⟨k, hk⟩ := Table.mem_rows.mp hd
      obtain ⟨h1, h2, h3, h4⟩ := activeFor_iff.mp hactive
      exact ⟨by simp, fun h => (h k d hk h1 h2 h3 h4).elim⟩
    case isFalse hany =>
      refine ⟨fun _ k d hk h1 h2 h3 h4 => hany ?_, fun _ => rfl⟩
      exact List.any_eq_true.mpr ⟨d, Table.mem_rows.mpr ⟨k, hk⟩,
        activeFor_iff.mpr ⟨h1, h2, h3, h4⟩⟩

end Conditions

theorem Updated.anti {V past past' : Db} {p : ServiceDelegation → Bool}
    {kept : List ServiceDelegation} (h : Updated V past' p kept) (hpast : Later [] past past') :
    Updated V past p kept where
  rows := h.rows
  nodup := h.nodup
  complete := by
    intro k d hd hp hk
    obtain ⟨d₀, hd₀⟩ := Option.isSome_iff_exists.mp hk
    obtain ⟨d₁, hd₁, -⟩ := hpast.delegations.stays hd₀
    exact h.complete k d hd hp (by simp [hd₁])

variable [Runtime] {S : Scene protocol} {past : Db} {held : List Lock} {log : List Write}
  {principal : String} {scheduleId stepId delegationId : Uuid} {scope contentSha256 : String}

/-- The delegation writes of an `UPDATE`. -/
abbrev setAll (kept : List ServiceDelegation) (state : DelegationState) : List Write :=
  (kept.map ServiceDelegation.id).map fun id => .setDelegationState id state

theorem yields_expireStaleDelegations {Q : Nat → Db → List Lock → List Write → Prop}
    (h : ∀ n kept db held', held ⊆ held' →
      Updated (S.view log) past (stale scheduleId stepId S.now) kept →
      Q n db held' (log ++ setAll kept .expired)) :
    S.Yields Q (expireStaleDelegations principal scheduleId stepId) past held log := by
  refine .bind (ends_requireStep fun db v r r' hfinds _ _ _ _ _ => ?_)
  refine .bind (yields_delegationsWhere (fun d hd => (stale_iff.mp hd).2.2.1) (.inr rfl) ?_)
  exact fun kept db' held' hsub hkept => h _ kept db' held' hsub (hkept.anti hfinds.past)

theorem yields_revokeActiveDelegations {Q : Nat → Db → List Lock → List Write → Prop}
    (h : ∀ n kept db held', held ⊆ held' →
      Updated (S.view log) past (activeFor scheduleId stepId scope) kept →
      Q n db held' (log ++ setAll kept .revoked)) :
    S.Yields Q (revokeActiveDelegations principal scheduleId stepId scope) past held log := by
  refine .bind (ends_requireStep fun db v r r' hfinds _ _ _ _ _ => ?_)
  refine .bind (yields_delegationsWhere (fun d hd => (activeFor_iff.mp hd).2.2.2) (.inl rfl) ?_)
  exact fun kept db' held' hsub hkept => h _ kept db' held' hsub (hkept.anti hfinds.past)

theorem yields_createDelegation {Q : ServiceDelegation → Db → List Lock → List Write → Prop}
    {grantedBy : String} {validUntil : Instant} (hid : .identifier delegationId ∈ held)
    (hlock : .step stepId ∈ held)
    (hunused : (S.view log).delegations.lookup delegationId = none)
    (hstep : ∃ r, (S.view log).steps.lookup stepId = some r ∧ r.scheduleId = scheduleId)
    (h : ∀ db held' d, held ⊆ held' →
      d = ⟨delegationId, scheduleId, stepId, contentSha256, scope, grantedBy, validUntil, .active,
        none, none, S.now⟩ →
      Q d db held' (log ++ [.insertDelegation d])) :
    S.Yields Q (createDelegation principal delegationId scheduleId stepId contentSha256 scope
      grantedBy validUntil) past held log := by
  refine .bind (ends_requireStep fun db v r r' _ _ _ _ _ _ => ?_)
  refine .bind (ends_databaseNow fun db' => ?_)
  refine .bind (yields_write fun db'' v'' hfinds hviolated => ?_)
  obtain ⟨-, hactive⟩ := delegationViolates_eq_none.mp hviolated
  refine ⟨by simp [Write.needs, hid, hlock], ⟨hunused, rfl, rfl, rfl, ?_, hstep⟩,
    h db'' _ _ (List.subset_append_left _ _) rfl⟩
  intro k d hd h1 h2 h3 h4
  obtain ⟨d', hd', hchange⟩ | ⟨-, -, -, hfree⟩ := hfinds.later.delegations.origin hd
  · obtain rfl := hchange.active h4
    exact hactive k d hd' h1 h2 h3 h4
  · exact hfree (List.mem_append_left _ (h2 ▸ hlock))

theorem yields_getActiveDelegation
    {Q : Option ServiceDelegation → Db → List Lock → List Write → Prop}
    (hnone : ∀ db held', held ⊆ held' → Q none db held' log)
    (hsome : ∀ d db held', held ⊆ held' → .delegation d.id ∈ held' →
      (S.view log).delegations.lookup d.id = some d →
      activeFor scheduleId stepId scope d = true → Q (some d) db held' log) :
    S.Yields Q (getActiveDelegation principal scheduleId stepId scope) past held log := by
  refine .bind (.bind (ends_read fun fresh db v hfinds _ => ?_))
  refine yields_lockEach ServiceDelegation.id
    (fun d => (S.view log).delegations.lookup d.id = some d ∧
      activeFor scheduleId stepId scope d = true)
    (fun _ => True) (Table.select_ids_nodup hfinds.wf.delegations_id) ?_
    (fun _ _ _ _ _ _ _ _ _ => trivial) ?_
  · intro fresh' past' held' db' v' k d hsub hfinds' hin hd
    obtain ⟨hd, hactive⟩ := Option.filter_eq_some_iff.mp hd
    obtain ⟨hlookup, hscheduleId, -⟩ := delegationOf_eq_some.mp hd
    obtain rfl := hfinds'.wf.delegations_id k d hlookup
    rw [hfinds'.later.delegations.locked_eq hin] at hlookup
    simp only [Bool.and_eq_true, beq_iff_eq] at hactive
    exact ⟨rfl, hlookup, activeFor_iff.mpr ⟨hscheduleId, hactive.1.1, hactive.1.2, hactive.2⟩⟩
  · intro kept db' held' hsub _ hkept _
    cases kept with
    | nil => exact hnone db' held' hsub
    | cons d rest =>
      cases rest with
      | nil =>
        obtain ⟨hin, hlookup, hactive⟩ := hkept d (by simp)
        exact hsome d db' held' hsub hin hlookup hactive
      | cons d' rest => trivial

theorem yields_consumeDelegation {Q : Bool → Db → List Lock → List Write → Prop}
    {attemptId : Uuid}
    (hfalse : ∀ db held', held ⊆ held' → Q false db held' log)
    (htrue : ∀ d db held', held ⊆ held' →
      (S.view log).delegations.lookup delegationId = some d → d.id = delegationId →
      consumable scheduleId stepId contentSha256 scope S.now d = true →
      Q true db held' (log ++ [.consumeDelegation delegationId S.now attemptId])) :
    S.Yields Q (consumeDelegation principal scheduleId stepId delegationId contentSha256 scope
      attemptId) past held log := by
  refine .bind (ends_requireStep fun db v r r' _ _ _ _ _ _ => ?_)
  refine ends_step fun fresh db' v' hfinds _ => ?_
  cases hd : delegationWhere (consumable scheduleId stepId contentSha256 scope) S.now v'
      delegationId with
  | none =>
    simp only [hd]
    exact ⟨trivial, by simpa using hfalse db' held (List.Subset.refl _)⟩
  | some d =>
    simp only [hd, Option.isSome_some, if_true] at hfinds ⊢
    obtain ⟨hlookup, hconsumable⟩ := Option.filter_eq_some_iff.mp hd
    have hid : d.id = delegationId := hfinds.wf.delegations_id _ d hlookup
    rw [hfinds.later.delegations.locked_eq (List.mem_append_right _ (by simp))] at hlookup
    obtain ⟨-, -, -, -, hactive, hvalid⟩ := consumable_iff.mp hconsumable
    exact ⟨⟨⟨by simp [Write.needs], d, hlookup, hactive, hvalid⟩, trivial⟩,
      htrue d db' _ (List.subset_append_left _ _) hlookup hid hconsumable⟩

end Repository

/-! ## Schedules, receipts, events and the records that are only added -/

/-- The rows of the steps of a new Schedule, under the identifiers drawn for them. -/
def stepRows (scheduleId : Uuid) (ids : List Uuid) (steps : List (StepDraft × Nat)) :
    List ScheduleStep :=
  (ids.zip steps).map fun q => ⟨q.1, scheduleId, q.2.2 + 1, q.2.1, .pending⟩

theorem mem_stepRows {scheduleId : Uuid} {ids : List Uuid} {steps : List (StepDraft × Nat)} {r : ScheduleStep}
    (h : r ∈ stepRows scheduleId ids steps) : r.scheduleId = scheduleId ∧ r.state = .pending := by
  obtain ⟨q, -, rfl⟩ := List.mem_map.mp h
  exact ⟨rfl, rfl⟩

namespace Connections

theorem manualProfileTaken_eq_false {db : Db} {principal : String} :
    manualProfileTaken principal db = false ↔ ∀ k p, db.profiles.lookup k = some p → p.controlPrincipalRef = principal →
      p.method = .manualHandoff → p.state ∈ terminalConnectionStates := by
  simp only [manualProfileTaken, List.any_eq_false, Table.mem_rows, Bool.and_eq_true, beq_iff_eq,
    Bool.not_eq_true', not_and, Bool.not_eq_false, List.contains_iff_mem, forall_exists_index]
  exact ⟨fun h k p hp h1 h2 => h p k hp ⟨h1, h2⟩, fun h p k hp h12 => h k p hp h12.1 h12.2⟩

end Connections

variable [Runtime] {S : Scene protocol} {past : Db} {held : List Lock} {log : List Write}
  {principal : String} {scheduleId stepId attemptId : Uuid}

namespace Repository

/-! ## A new Schedule -/

theorem yields_createSchedule {Q : Unit → Db → List Lock → List Write → Prop} {title : String}
    {mode : HandoffMode} {steps : List StepDraft} (hid : .identifier scheduleId ∈ held)
    (hunused : (S.view log).schedules.lookup scheduleId = none)
    (h : ∀ ids db held', held ⊆ held' → ids.length = steps.length →
      Q () db held' (log ++ .insertSchedule ⟨scheduleId, title, .draft, mode, principal⟩ ::
        (stepRows scheduleId ids steps.zipIdx).map .insertStep)) :
    S.Yields Q (createSchedule scheduleId principal title mode steps) past held log := by
  refine .bind (yields_write fun db v _ _ => ?_)
  refine ⟨by simp [Write.needs, hid], ⟨hunused, rfl⟩, ?_⟩
  refine .each (fun handled _ held' log' => held ++ [.schedule scheduleId] ⊆ held' ∧
    ∃ ids : List Uuid, ids.length = handled.length ∧
      log' = log ++ .insertSchedule ⟨scheduleId, title, .draft, mode, principal⟩ ::
        (stepRows scheduleId ids handled).map .insertStep)
    ⟨List.Subset.refl _, [], rfl, by simp [stepRows]⟩ ?_ ?_
  · rintro handled p rest past' held' _ - ⟨hheld, ids, hlength, rfl⟩
    refine .bind (ends_newUuid fun id db' v' _ hfree => ?_)
    refine yields_write fun db'' v'' _ _ => ?_
    have hlock : Lock.schedule scheduleId ∈ held' := hheld (by simp)
    refine ⟨by simp [Write.needs, hlock], ⟨hfree.steps, rfl, ?_⟩, ?_, ids ++ [id], by simp [hlength],
      ?_⟩
    · refine ⟨⟨scheduleId, title, .draft, mode, principal⟩, ?_, rfl⟩
      have hsame : ∀ db, SameTable .schedules
          (applyAll Db.apply ((stepRows scheduleId ids handled).map .insertStep) db) db :=
        fun db => sameTable_applyAll (by simp [Write.table])
      simp only [Scene.view_append, orchestration_apply, applyAll_cons]
      rw [show (applyAll Db.apply _ _).schedules = _ from hsame _]
      exact AList.lookup_insert _
    · exact List.subset_append_of_subset_left _ (List.subset_append_of_subset_left _ hheld)
    · simp [stepRows, List.zip_append, hlength]
  · rintro past' held' _ ⟨hheld, ids, hlength, rfl⟩
    exact h ids past' held' (fun l hl => hheld (List.mem_append_left _ hl)) (by simpa using hlength)

/-! ## Command receipts -/

/-- The claim of a triple: the transaction that finds it free owns it until its end. -/
theorem ends_claimCommand {E : Failure → List Write → Prop}
    {Q : CommandReceipt × Bool → Db → List Lock → List Write → Prop}
    {operation : CommandOperation} {commandKey : String} {proposed : Uuid} {sha256 : String}
    (hadmitted : (⟨principal, operation, commandKey⟩ : CommandTriple).Admitted)
    (hnew : ∀ r db held', held ⊆ held' → r.triple = ⟨principal, operation, commandKey⟩ →
      r.outcomeRef = proposed → r.requestSha256 = some sha256 → Later [] past db →
      (S.view log).receipts.lookup ⟨principal, operation, commandKey⟩ = none →
      Q (r, true) db held' (log ++ [.insertReceipt r]))
    (hold : ∀ r db held', held ⊆ held' →
      (S.view log).receipts.lookup ⟨principal, operation, commandKey⟩ = some r →
      r.triple = ⟨principal, operation, commandKey⟩ → Q (r, false) db held' log) :
    S.Ends Q E (claimCommand principal operation commandKey proposed sha256) past held log := by
  refine .bind (ends_newUuid fun id db v hfinds hunused => ?_)
  refine .bind (ends_step fun fresh db' v' hfinds' _ => ?_)
  have hlocked := hfinds'.later.receipts.locked_eq (List.mem_append_right _ (List.mem_singleton.mpr rfl))
  cases hr : v'.receipts.lookup ⟨principal, operation, commandKey⟩ with
  | none =>
    simp only [hr]
    rw [hr] at hlocked
    refine ⟨⟨⟨by simp [Write.needs], hlocked.symm, hadmitted⟩, trivial⟩, ?_⟩
    simp only [beq_self_eq_true]
    exact hnew _ db' _ (by simp) rfl rfl rfl (hfinds.past.trans hfinds'.past) hlocked.symm
  | some r =>
    simp only [hr]
    rw [hr] at hlocked
    have hne : (r.id == id) = false := by
      simpa using hunused.receipts _ r hlocked.symm
    refine ⟨trivial, ?_⟩
    simp only [hne, List.append_nil]
    exact hold r db' _ (by simp) hlocked.symm (hfinds'.wf.receipts_key _ r hr).1

/-! ## Control events -/

theorem yields_createControlEvent
    {Q : OrchestrationControlEvent → Db → List Lock → List Write → Prop} {eventId : Uuid}
    {step : Option Uuid} {kind : ControlEventKind} {reason : ControlReasonCode}
    {category : Option StopConditionCategory} {declaredBy : String} {occurredAt : Instant}
    (hid : .identifier eventId ∈ held) (hunused : (S.view log).events.lookup eventId = none)
    (h : ∀ e db held', held ⊆ held' →
      e = ⟨eventId, scheduleId, step, kind, reason, category, declaredBy, occurredAt⟩ →
      Q e db held' (log ++ [.insertEvent e])) :
    S.Yields Q (createControlEvent eventId principal scheduleId step kind reason category declaredBy
      occurredAt) past held log := by
  refine yields_orRaise (ends_read fun fresh db v hfinds _ r hr => ?_)
  refine .bind (yields_write fun db' v' _ _ => ?_)
  exact ⟨by simp [Write.needs, hid], hunused, h _ db' _ (List.subset_append_left _ _) rfl⟩

/-! ## Observations and opinions -/

theorem yields_createExecutionObservation {Q : Unit → Db → List Lock → List Write → Prop}
    {kind : ObservationKind} {previous current : Uuid} {before after : Option String}
    {observedAt : Instant}
    (h : ∀ id db held', held ⊆ held' → Q () db held' (log ++ [.insertObservation
      ⟨id, scheduleId, stepId, kind, previous, current, before, after, true, observedAt⟩])) :
    S.Yields Q (createExecutionObservation principal scheduleId stepId kind previous current before
      after observedAt) past held log := by
  refine .bind (ends_requireStep fun db v r r' _ _ _ _ _ _ => ?_)
  refine .bind (ends_newUuid fun id db' v' _ hunused => ?_)
  refine yields_write fun db'' v'' _ _ => ?_
  exact ⟨by simp [Write.needs], hunused.observations, h id db'' _ (by simp)⟩

theorem yields_createAuditOpinion {Q : AuditOpinion → Db → List Lock → List Write → Prop}
    {opinionId resultId : Uuid} {opinion : AuditOpinionKind} {codes : List String}
    {auditor issuedBy : String} {issuedAt : Instant} (hid : .identifier opinionId ∈ held)
    (hunused : (S.view log).opinions.lookup opinionId = none)
    (h : ∀ o db held', held ⊆ held' →
      o = ⟨opinionId, resultId, opinion, codes, auditor, issuedBy, issuedAt⟩ →
      Q o db held' (log ++ [.insertOpinion o])) :
    S.Yields Q (createAuditOpinion opinionId principal scheduleId resultId opinion codes auditor
      issuedBy issuedAt) past held log := by
  refine .bind (ends_read fun fresh db v _ _ => ?_)
  refine yields_require fun _ => ?_
  refine .bind (yields_write fun db' v' _ _ => ?_)
  exact ⟨by simp [Write.needs, hid], hunused, h _ db' _ (List.subset_append_left _ _) rfl⟩

end Repository

/-! ## Connections -/

namespace Connections

open Repository

theorem yields_getManualProfile
    {Q : Option ConnectionProfile → Db → List Lock → List Write → Prop}
    (h : ∀ o db, Q o db held log) :
    S.Yields Q (getManualProfile principal) past held log :=
  yields_query fun _ db _ o _ _ => h o db

/-- The manual profile: the one that is there, or a new one. -/
theorem yields_ensureManualProfile
    {Q : ConnectionProfile × Bool → Db → List Lock → List Write → Prop}
    (h : ∀ r ws db held', held ⊆ held' → (ws = [] ∨ ws = [.insertProfile r.1]) →
      Q r db held' (log ++ ws)) :
    S.Yields Q (ensureManualProfile principal) past held log := by
  have hold : ∀ r db held', held ⊆ held' → Q r db held' log := fun r db held' hsub => by
    simpa using h r [] db held' hsub (.inl rfl)
  refine yields_require fun _ => ?_
  refine .bind (yields_getManualProfile fun o db => ?_)
  cases o with
  | some p => exact hold _ db _ (List.Subset.refl _)
  | none =>
    refine .bind (ends_readLocked fun fresh db' v' _ _ => ?_)
    refine .bind (yields_getManualProfile fun o db'' => ?_)
    cases o with
    | some p => exact hold _ db'' _ (List.subset_append_left _ _)
    | none =>
      refine .bind (ends_newUuid fun id db₁ v₁ _ hunused => ?_)
      refine .bind (ends_step fun fresh' db₂ v₂ hfinds _ => ?_)
      cases htaken : manualProfileTaken principal v₂ with
      | true =>
        simp only [htaken, if_true]
        refine ⟨trivial, ?_⟩
        simp only [Bool.false_eq_true, if_false, List.append_nil]
        refine .bind (yields_getManualProfile fun o db₃ => ?_)
        refine .bind (.orRaise (fun _ => trivial) fun p _ => ?_)
        exact hold _ db₃ _ (by simp)
      | false =>
        simp only [htaken, Bool.false_eq_true, if_false]
        refine ⟨⟨⟨by simp [Write.needs], hunused.profiles, ?_⟩, trivial⟩, ?_⟩
        · rw [manualProfileTaken_eq_false] at htaken ⊢
          intro k p hp hprincipal hmethod
          obtain ⟨p', hp', rfl⟩ | ⟨-, -, -, hfree⟩ := hfinds.later.profiles.origin hp
          · exact htaken k p' hp' hprincipal hmethod
          · exact (hfree (by simp [hprincipal])).elim
        · exact h (_, true) _ db₂ _ (by simp) (.inr rfl)

theorem yields_recordExecution
    {Q : ConnectionExecutionReceipt → Db → List Lock → List Write → Prop}
    {attribution : ExecutionAttribution} {observedAt : Instant}
    (hattempt : ∃ a, (S.view log).attempts.lookup attemptId = some a)
    (h : ∀ r db held', held ⊆ held' → r.attemptId = attemptId →
      Q r db held' (log ++ [.insertExecution r])) :
    S.Yields Q (recordExecution principal scheduleId stepId attemptId attribution observedAt) past
      held log := by
  refine yields_require fun _ => ?_
  refine .bind (ends_read fun fresh db v _ _ => ?_)
  refine .bind (.orRaise (fun _ => trivial) fun p _ => ?_)
  refine .bind (ends_newUuid fun id db' v' _ _ => ?_)
  refine .bind (yields_write fun db'' v'' hfinds hviolated => ?_)
  rw [perAttempt_eq_none, hfinds.later.executions.locked_eq (List.mem_append_right _ (by simp))]
    at hviolated
  exact ⟨by simp [Write.needs], ⟨hviolated, hattempt⟩, h _ db'' _ (by simp) rfl⟩

end Connections

end PiaOs
