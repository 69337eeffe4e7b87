import PiaOs.Specs.Requests

/-!
# What the entry points commit is settled

Only the two writes of a first dispatch and the first three of an import pass through a
store that is not settled.
-/

namespace PiaOs

open Support Transactions Repository

/-- A write that leads from a settled store to a settled one. -/
def Write.Quiet : Write → Prop
  | .setStepState _ state => state ≠ .dispatched
  | .insertResult _ | .insertAttribution _ => False
  | _ => True

section Store

variable {V : Db} {w : Write} {ws : List Write}

theorem Settled.apply (h : Settled V) (hwf : Wellformed V) (hmay : w.may V) (hquiet : w.Quiet) :
    Settled (Db.apply w V) where
  steps := by
    intro k r hr
    cases w with
    | insertStep row =>
      obtain ⟨-, rfl⟩ | ⟨-, hr⟩ := Table.insert_cases hr
      · simp [hmay.2.1]
      · exact h.steps k r hr
    | setStepState id state =>
      obtain ⟨-, r₀, -, rfl⟩ | ⟨-, hr⟩ := Table.modify_cases hr
      · obtain ⟨r₁, _, -, -, -, htrans⟩ := hmay
        cases state <;> simp [Write.Quiet, stepWrites, e72StepTransitions, e73StepTransitions]
          at hquiet htrans ⊢
      · exact h.steps k r hr
    | _ => exact h.steps k r hr
  opened := by
    intro k a ha hopen
    cases w with
    | insertAttempt row =>
      obtain ⟨rfl, rfl⟩ | ⟨-, ha⟩ := Table.insert_cases ha
      · -- No row can refer to an attempt that was not there.
        constructor
        · refine Option.eq_none_iff_forall_ne_some.mpr fun x hx => ?_
          obtain ⟨-, b, hb⟩ := hwf.results_attempt _ x hx
          simp [hmay.1] at hb
        · refine Option.eq_none_iff_forall_ne_some.mpr fun x hx => ?_
          obtain ⟨-, b, hb⟩ := hwf.attributions_attempt _ x hx
          simp [hmay.1] at hb
      · exact h.opened k a ha hopen
    | setAttemptState id state =>
      obtain ⟨rfl, a₀, ha₀, rfl⟩ | ⟨-, ha⟩ := Table.modify_cases ha
      · obtain ⟨a₁, -, htrans⟩ := hmay
        subst hopen
        simp [e72AttemptTransitions, e73AttemptTransitions] at htrans
      · exact h.opened k a ha hopen
    | insertResult row => exact hquiet.elim
    | insertAttribution row => exact hquiet.elim
    | _ => exact h.opened k a ha hopen

theorem Settled.applyAll [Runtime] {held : List Lock} (h : Settled V) (hwf : Wellformed V)
    (hguarded : protocol.Guarded held V ws) (hquiet : ∀ w ∈ ws, w.Quiet) :
    Settled (applyAll Db.apply ws V) := by
  induction ws generalizing V with
  | nil => exact h
  | cons w ws ih =>
    obtain ⟨⟨-, hmay⟩, hrest⟩ := hguarded
    exact ih (h.apply hwf hmay (hquiet w List.mem_cons_self)) (hwf.apply hmay) hrest fun w' hw' =>
      hquiet w' (List.mem_cons_of_mem _ hw')

/-- The moves of an export end in `AWAITING_RETURN`. -/
theorem Settled.moves (h : Settled V) (stepId : Uuid) (first : Bool) :
    Settled (Transactions.applyAll Db.apply (moves stepId first) V) where
  steps := by
    intro k r hr
    cases first <;>
      simp only [PiaOs.moves, Bool.false_eq_true, if_false, if_true, List.nil_append,
        List.cons_append, applyAll_cons, applyAll_nil, Db.apply] at hr
    · obtain ⟨-, r₀, -, rfl⟩ | ⟨-, hr⟩ := Table.modify_cases hr
      · simp
      · exact h.steps k r hr
    · obtain ⟨-, r₀, -, rfl⟩ | ⟨hk, hr⟩ := Table.modify_cases hr
      · simp
      · obtain ⟨hk', -⟩ | ⟨-, hr⟩ := Table.modify_cases hr
        · exact (hk hk').elim
        · exact h.steps k r hr
  opened := by
    have hsame : ∀ t, t ≠ .steps →
        SameTable t (Transactions.applyAll Db.apply (PiaOs.moves stepId first) V) V := by
      intro t ht
      refine sameTable_applyAll fun w hw => ?_
      cases first <;> simp [PiaOs.moves] at hw <;> rcases hw with rfl | rfl <;>
        simpa [Write.table] using ht.symm
    rw [show (Transactions.applyAll Db.apply _ V).attempts = _ from hsame .attempts (by simp),
      show (Transactions.applyAll Db.apply _ V).results = _ from hsame .results (by simp),
      show (Transactions.applyAll Db.apply _ V).attributions = _ from hsame .attributions (by simp)]
    exact h.opened

/-- An import closes the attempt that it gives a result and an attribution. -/
theorem Settled.imported (h : Settled V) {m : ReturnRows} {attemptId : Uuid} {accepted : Bool}
    (hresult : m.result.attemptId = attemptId) (hattribution : m.attribution.attemptId = attemptId) :
    Settled (Transactions.applyAll Db.apply (m.writes attemptId accepted) V) where
  steps := by
    rw [show (Transactions.applyAll Db.apply _ V).steps = _ from
      ReturnRows.sameTable (t := .steps) (by simp)]
    exact h.steps
  opened := by
    have hobservation : ∀ t, t ≠ .observations → ∀ V,
        SameTable t (Transactions.applyAll Db.apply (m.observation.map .insertObservation).toList V)
          V := by
      intro t ht V
      refine sameTable_applyAll fun w hw => ?_
      obtain ⟨o, -, rfl⟩ := Option.map_eq_some_iff.mp (Option.mem_toList.mp hw)
      exact ht.symm
    intro k a ha hopen
    rw [ReturnRows.writes, applyAll_append,
      show (Transactions.applyAll Db.apply (Option.toList _) _).attempts = _ from
        hobservation .attempts (by simp) _] at ha
    rw [ReturnRows.writes, applyAll_append,
      show (Transactions.applyAll Db.apply (Option.toList _) _).results = _ from
        hobservation .results (by simp) _,
      show (Transactions.applyAll Db.apply (Option.toList _) _).attributions = _ from
        hobservation .attributions (by simp) _]
    obtain ⟨-, a₀, -, rfl⟩ | ⟨hk, ha⟩ := Table.modify_cases ha
    · cases accepted <;> simp at hopen
    · obtain ⟨hr, ht⟩ := h.opened k a ha hopen
      subst hresult
      constructor
      · exact (AList.lookup_insert_ne hk).trans hr
      · exact (AList.lookup_insert_ne (hattribution ▸ hk)).trans ht

end Store

variable {began V : Db} {now : Instant} {request : Request} {a : Answer} {ws : List Write}
  {held : List Lock}

private theorem quiet_creation {scheduleId : Uuid} {principal : String} {draft : ScheduleDraft}
    {mode : HandoffMode} {ids : List Uuid} {w : Write}
    (hw : w ∈ creation scheduleId principal draft mode ids) : w.Quiet := by
  simp only [creation, List.mem_cons, List.mem_map] at hw
  obtain rfl | ⟨_, -, rfl⟩ := hw <;> trivial

private theorem quiet_setAll {kept : List ServiceDelegation} {state : DelegationState} {w : Write}
    (hw : w ∈ setAll kept state) : w.Quiet := by
  obtain ⟨_, -, rfl⟩ := List.mem_map.mp hw
  trivial

private theorem quiet_content {scheduleId : Uuid} {destino : ScheduleState} {counts : Nat × Nat}
    (h : ControlService.Content V scheduleId destino counts ws) {w : Write} (hw : w ∈ ws) :
    w.Quiet := by
  cases h with
  | other => simp at hw
  | cancel steps attempts _ =>
    simp only [cancelWrites, List.mem_append, List.mem_map] at hw
    obtain ⟨_, -, rfl⟩ | ⟨_, -, rfl⟩ := hw
    · simp [Write.Quiet]
    · trivial

private theorem quiet_afterImport {comControle accepted : Bool} {scheduleId stepId : Uuid}
    {g : Schedule} (h : AfterImport V comControle scheduleId stepId g accepted ws) {w : Write}
    (hw : w ∈ ws) : w.Quiet := by
  have hreturned : ∀ id, (Write.setStepState id .returned).Quiet := by simp [Write.Quiet]
  cases h with
  | rejected => simp at hw
  | alone _ =>
    obtain rfl := List.mem_singleton.mp hw
    exact hreturned _
  | controlled ws _ hcompletion =>
    obtain rfl | hw := List.mem_cons.mp hw
    · exact hreturned _
    · cases hcompletion with
      | inactive => simp at hw
      | unfinished => simp at hw
      | done =>
        simp only [List.mem_cons, List.not_mem_nil, or_false] at hw
        obtain rfl | rfl := hw <;> trivial

/-- A manual export is quiet up to its moves. -/
private theorem quiet_dispatch (m : Dispatch) (now : Instant) (stepId : Uuid) :
    ∃ quiet, m.writes now stepId = quiet ++ moves stepId m.first ∧ ∀ w ∈ quiet, w.Quiet := by
  refine ⟨_, rfl, fun w hw => ?_⟩
  simp only [List.mem_append, List.mem_cons, List.not_mem_nil, or_false, Option.mem_toList,
    Option.map_eq_some_iff] at hw
  obtain (((hw | ⟨_, -, rfl⟩) | rfl | rfl) | ⟨_, -, rfl⟩) | rfl := hw
  · exact quiet_setAll hw
  all_goals trivial

variable [Runtime]

theorem Effect.settles {outcomeRef : Uuid} (heffect : Effect began V now outcomeRef request a ws)
    (h : Settled V) (hwf : Wellformed V) (hguarded : protocol.Guarded held V ws) :
    Settled (Transactions.applyAll Db.apply ws V) := by
  have hquiet : (∀ w ∈ ws, w.Quiet) → Settled (Transactions.applyAll Db.apply ws V) :=
    h.applyAll hwf hguarded
  have hdispatch : ∀ (m : Dispatch) (stepId : Uuid), ws = m.writes now stepId →
      Settled (Transactions.applyAll Db.apply ws V) := by
    rintro m stepId rfl
    obtain ⟨quiet, hwrites, hq⟩ := quiet_dispatch m now stepId
    rw [hwrites, applyAll_append]
    rw [hwrites] at hguarded
    exact (h.applyAll hwf (Protocol.Allowed.of_append hguarded).1 hq).moves stepId m.first
  cases request with
  | createScheduleOnce caller draft mode =>
    obtain ⟨ids, -, rfl⟩ := heffect
    exact hquiet fun _ => quiet_creation
  | criarSchedule caller draft mode =>
    obtain ⟨ids, -, rfl⟩ := heffect
    refine hquiet fun w hw => ?_
    obtain hw | hw := List.mem_append.mp hw
    · exact quiet_creation hw
    · obtain rfl := List.mem_singleton.mp hw
      trivial
  | sealHandoffOnce caller scheduleId stepId sealerRef =>
    obtain ⟨a, s, -, -, rfl⟩ := heffect
    exact hquiet (by simp [Write.Quiet])
  | exportHandoffOnce humanGate caller scheduleId stepId sealerRef =>
    obtain ⟨m, -, hws⟩ := heffect
    exact hdispatch m stepId hws
  | exportarHandoff humanGate caller scheduleId stepId =>
    obtain ⟨m, -, hws⟩ := heffect
    exact hdispatch m stepId hws
  | exportarMcp protecao caller scheduleId stepId =>
    obtain ⟨a, s, -, -, -, rfl⟩ := heffect
    exact hquiet (by simp [Write.Quiet])
  | importReturnOnce comControle caller scheduleId stepId attemptId raw attribution =>
    obtain ⟨m, accepted, ws', himported, rfl⟩ := heffect
    obtain ⟨hfirst, hrest⟩ := Protocol.Allowed.of_append hguarded
    obtain ⟨g, -, -, hafter⟩ := himported.schedule
    rw [applyAll_append]
    exact (h.imported himported.result_attempt himported.attribution_attempt).applyAll
      (hwf.applyAll hfirst) hrest fun _ => quiet_afterImport hafter
  | grantDelegationOnce caller scheduleId stepId validUntil =>
    obtain ⟨expired, revoked, d, -, rfl⟩ := heffect
    refine hquiet fun w hw => ?_
    simp only [List.mem_append, List.mem_singleton] at hw
    obtain (hw | hw) | rfl := hw
    · exact quiet_setAll hw
    · exact quiet_setAll hw
    · trivial
  | revokeDelegationOnce caller scheduleId stepId delegationId =>
    obtain ⟨kept, -, rfl⟩ := heffect
    exact hquiet fun _ => quiet_setAll
  | controlScheduleOnce caller scheduleId action categoria =>
    obtain ⟨_, g, e, destino, counts, ws', -, -, -, -, -, hcontent, -, rfl⟩ := heffect
    refine hquiet fun w hw => ?_
    simp only [List.mem_append, List.mem_cons, List.not_mem_nil, or_false] at hw
    obtain hw | rfl | rfl := hw
    · exact quiet_content hcontent hw
    · trivial
    · trivial
  | issueAuditOpinionOnce caller scheduleId attemptId opinion reasons auditor =>
    obtain ⟨o, rfl⟩ := heffect
    exact hquiet (by simp [Write.Quiet])
  | _ => exact heffect.elim

theorem Claimed.settles (hclaimed : Claimed began V now request a ws) (h : Settled V)
    (hwf : Wellformed V) (hguarded : protocol.Guarded held V ws) :
    Settled (Transactions.applyAll Db.apply ws V) := by
  cases hclaimed with
  | replay => exact h
  | ran triple sha256 r ws _ _ _ _ _ heffect =>
    obtain ⟨⟨-, hmay⟩, hrest⟩ := hguarded
    exact heffect.settles (h.apply hwf hmay trivial) (hwf.apply hmay) hrest

/-- What a transaction commits is settled. -/
theorem Ended.settles (hended : Ended began V now request a ws) (h : Settled V)
    (hwf : Wellformed V) (hguarded : protocol.Guarded held V ws) :
    Settled (Transactions.applyAll Db.apply ws V) := by
  have hquiet : (∀ w ∈ ws, w.Quiet) → Settled (Transactions.applyAll Db.apply ws V) :=
    h.applyAll hwf hguarded
  cases hended with
  | claimed _ _ _ hclaimed => exact hclaimed.settles h hwf hguarded
  | cleared gate caller scheduleId stepId a kept ws hclaimed =>
    obtain ⟨hfirst, hrest⟩ := Protocol.Allowed.of_append hguarded
    rw [applyAll_append]
    exact hclaimed.settles (h.applyAll hwf hfirst fun _ => quiet_setAll) (hwf.applyAll hfirst) hrest
  | blocked gate caller scheduleId stepId recusa kept ws reason hpause =>
    refine hquiet fun w hw => ?_
    obtain hw | hw := List.mem_append.mp hw
    · exact quiet_setAll hw
    · cases hpause <;> simp only [List.mem_cons, List.not_mem_nil, or_false] at hw
      · obtain rfl := hw
        trivial
      · obtain rfl | rfl := hw <;> trivial
  | activated => exact hquiet (by simp [Write.Quiet])
  | expired => exact hquiet fun _ => quiet_setAll
  | revoked => exact hquiet fun _ => quiet_setAll
  | unconsumed => exact h
  | consumed => exact hquiet (by simp [Write.Quiet])

end PiaOs
