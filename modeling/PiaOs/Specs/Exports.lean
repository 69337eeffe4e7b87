import PiaOs.Specs.Scheduling
import PiaOs.Specs.Control

/-!
# The two exports

The manual export judges the Schedule, the earlier steps and the gate under the locks
of the Schedule and of the step. The supervised export locks the step alone.
-/

namespace PiaOs

open Support Transactions Repository

/-- The rows that a manual export writes. -/
structure Dispatch where
  expired : List ServiceDelegation
  consumed : Option ServiceDelegation
  attempt : HandoffAttempt
  receipt : SealReceipt
  profile : Option ConnectionProfile
  execution : ConnectionExecutionReceipt
  first : Bool

/-- The changes of the step in an export: two for the first dispatch, one for a retry. -/
def moves (stepId : Uuid) (first : Bool) : List Write :=
  (if first then [.setStepState stepId .dispatched] else []) ++ [.setStepState stepId .awaitingReturn]

/-- The writes of a manual export, in order. -/
def Dispatch.writes (m : Dispatch) (now : Instant) (stepId : Uuid) : List Write :=
  setAll m.expired .expired ++
    (m.consumed.map fun d => .consumeDelegation d.id now m.attempt.id).toList ++
    [.insertAttempt m.attempt, .insertSeal m.receipt] ++ (m.profile.map .insertProfile).toList ++
    [.insertExecution m.execution] ++ moves stepId m.first

/-- Whether a gate was met: without a gate nothing is consumed, and with one the
delegation that is consumed covers the sealed content. -/
def GateMet (V : Db) (now : Instant) (scheduleId stepId : Uuid) (contentSha256 : String)
    (consumed : Option ServiceDelegation) : Option GateRequirement → Prop
  | none => consumed = none
  | some gate => gate.scope = gateScopeDispatch ∧ ∃ d, consumed = some d ∧
    V.delegations.lookup d.id = some d ∧
    consumable scheduleId stepId contentSha256 gateScopeDispatch now d = true

/-- What holds of a manual export at its commit. -/
structure Exported [Runtime] (V : Db) (now : Instant) (principal : String)
    (scheduleId stepId attemptId : Uuid) (m : Dispatch) : Prop where
  schedule : ∃ g, V.schedules.lookup scheduleId = some g ∧ g.controlPrincipalRef = principal ∧
    g.state = .active
  step : ∃ r gate, V.steps.lookup stepId = some r ∧ r.scheduleId = scheduleId ∧
    (r.state = .pending ∧ m.first = true ∨ r.state = .awaitingReturn ∧ m.first = false) ∧
    (∀ k s, V.steps.lookup k = some s → s.scheduleId = scheduleId → s.position < r.position →
      s.state = .returned) ∧
    m.attempt.contentSha256 = (EnvelopeContent.ofDraft scheduleId stepId r.draft).contentSha256 ∧
    gateRequirement r.draft.constraints = .ok gate ∧
    GateMet V now scheduleId stepId m.attempt.contentSha256 m.consumed gate
  attempt_id : m.attempt.id = attemptId
  attempt_schedule : m.attempt.scheduleId = scheduleId
  attempt_step : m.attempt.stepId = stepId
  attempt_open : m.attempt.state = .open
  no_open : ∀ k b, V.attempts.lookup k = some b → b.stepId = stepId → b.state ≠ .open
  expired : ∀ d ∈ m.expired, V.delegations.lookup d.id = some d ∧
    stale scheduleId stepId now d = true

/-- A declared gate has the only scope there is. -/
theorem gateRequirement_scope {pares : ConstraintPairs} {gate : GateRequirement}
    (h : gateRequirement pares = .ok (some gate)) : gate.scope = gateScopeDispatch := by
  unfold gateRequirement at h
  cases hreq : pares.lookup gateKeyRequired with
  | none => simp [hreq] at h
  | some required =>
    cases hscope : pares.lookup gateKeyScope with
    | none => simp [hreq, hscope] at h
    | some scope =>
      simp only [hreq, hscope, GateRequirement.make] at h
      split at h
      case h_1 => simp at h
      case h_2 gate' hmake =>
        simp only [Except.ok.injEq, Option.some.injEq] at h
        subst h
        split at hmake
        case isTrue => simp at hmake
        case isFalse =>
          split at hmake
          case isTrue => simp at hmake
          case isFalse hin =>
            simp only [Except.ok.injEq] at hmake
            subst hmake
            simpa [gateScopeValues] using hin

variable [Runtime] {S : Scene protocol} {past : Db} {held : List Lock} {log : List Write}
  {principal : String} {scheduleId stepId attemptId : Uuid}

namespace ManualHandoffExportService

theorem yields_requireDispatchable {Q : Unit → Db → List Lock → List Write → Prop} {g : Schedule}
    (h : g.state = .active → Q () past held log) :
    S.Yields Q (requireDispatchable g) past held log := by
  refine yields_require fun _ => yields_require fun _ => yields_require fun hactive => ?_
  exact .require (fun _ => trivial) fun _ => h (by simpa using hactive)

theorem ends_getOpenAttempt {Q : Option HandoffAttempt → Db → List Lock → List Write → Prop}
    (h : ∀ o db, Q o db held log) :
    S.Yields Q (getOpenAttempt principal scheduleId stepId) past held log :=
  yields_query fun _ db _ o _ _ => h o db

/-- Every earlier step has returned, and the step waits for its dispatch or a retry. -/
theorem yields_requireExportable {Q : Unit → Db → List Lock → List Write → Prop} {g : Schedule}
    {r : ScheduleStep} (hlock : .schedule scheduleId ∈ held)
    (hg : (S.view log).schedules.lookup scheduleId = some g)
    (hprincipal : g.controlPrincipalRef = principal)
    (h : ∀ db, (∀ k s, (S.view log).steps.lookup k = some s → s.scheduleId = scheduleId →
        s.position < r.position → s.state = .returned) →
      (r.state = .pending ∨ r.state = .awaitingReturn) → Q () db held log) :
    S.Yields Q (requireExportable principal scheduleId stepId r) past held log := by
  refine yields_require fun _ => ?_
  refine .bind (ScheduleService.yields_advance fun _ db v hfinds _ => ?_)
  refine yields_require fun hempty => ?_
  refine .bind (ends_getOpenAttempt fun o db' => ?_)
  refine yields_require fun _ => .require (fun _ => trivial) fun hstate => ?_
  refine h db' (fun k s hs hschedule hposition => ?_) (by simpa using hstate)
  have howned : v.owned principal scheduleId = true := owned_iff.mpr
    ⟨g, (hfinds.later.schedules.locked_eq hlock).trans hg, hprincipal⟩
  obtain ⟨s₀, hs₀, hchange, -⟩ := step_of_locked hfinds hlock hs hschedule
  refine hchange.returned ?_
  by_contra hstate₀
  have hmem : s₀ ∈ (v.stepsOf principal scheduleId).filter fun s =>
      s.position < r.position && s.state != .returned := by
    simp only [List.mem_filter, mem_stepsOf, Bool.and_eq_true, decide_eq_true_eq, bne_iff_ne]
    exact ⟨⟨⟨k, hs₀⟩, hchange.scheduleId ▸ hschedule, howned⟩, hchange.position ▸ hposition,
      hstate₀⟩
  rw [List.isEmpty_iff, List.map_eq_nil_iff] at hempty
  rw [hempty] at hmem
  simp at hmem

/-- What a preflight that passed leaves to be done. -/
structure Cleared (V : Db) (scheduleId stepId : Uuid) (r : ScheduleStep)
    (aut : DispatchAuthorized) : Prop where
  content : aut.contentSha256 = (EnvelopeContent.ofDraft scheduleId stepId r.draft).contentSha256
  first : r.state = .pending ∧ aut.firstDispatch = true ∨
    r.state = .awaitingReturn ∧ aut.firstDispatch = false
  predecessors : ∀ k s, V.steps.lookup k = some s → s.scheduleId = scheduleId →
    s.position < r.position → s.state = .returned
  gate : ∃ gate, gateRequirement r.draft.constraints = .ok gate ∧
    (aut.delegationId.isSome = gate.isSome)

theorem yields_preflightDelegation {Q : PreflightResult → Db → List Lock → List Write → Prop}
    {gate : GateRequirement} {hash : String} {first : Bool}
    (h : ∀ result kept db held', held ⊆ held' →
      Updated (S.view log) past (stale scheduleId stepId S.now) kept →
      (∀ aut, result = .authorized aut → aut.contentSha256 = hash ∧ aut.firstDispatch = first ∧
        aut.delegationId.isSome) →
      Q result db held' (log ++ setAll kept .expired)) :
    S.Yields Q (preflightDelegation principal scheduleId stepId gate hash first) past held log := by
  refine .bind (yields_expireStaleDelegations fun n kept db held₁ hheld₁ hkept => ?_)
  refine .bind (yields_getActiveDelegation ?_ ?_)
  · intro db₂ held₂ hheld₂
    exact h _ kept db₂ held₂ (List.Subset.trans hheld₁ hheld₂) hkept (by simp)
  · intro d db₂ held₂ hheld₂ _ _ _
    by_cases hhash : d.contentSha256 = hash
    · simp only [hhash, if_true]
      refine h _ kept db₂ held₂ (List.Subset.trans hheld₁ hheld₂) hkept ?_
      rintro aut ⟨⟩
      exact ⟨rfl, rfl, rfl⟩
    · simp only [hhash, if_false]
      exact h _ kept db₂ held₂ (List.Subset.trans hheld₁ hheld₂) hkept (by simp)

theorem yields_preflight {Q : PreflightResult → Db → List Lock → List Write → Prop}
    {humanGate : GateDecision}
    (h : ∀ result g r kept db held', held ⊆ held' → .schedule scheduleId ∈ held' →
      .step stepId ∈ held' → (S.view log).schedules.lookup scheduleId = some g →
      g.controlPrincipalRef = principal → g.state = .active →
      (S.view log).steps.lookup stepId = some r → r.scheduleId = scheduleId →
      (∀ d ∈ kept, (S.view log).delegations.lookup d.id = some d ∧
        stale scheduleId stepId S.now d = true) →
      (∀ aut, result = .authorized aut → Cleared (S.view log) scheduleId stepId r aut) →
      Q result db held' (log ++ setAll kept .expired)) :
    S.Yields Q (preflight humanGate principal scheduleId stepId) past held log := by
  refine yields_orRaise (ends_lockSchedule (by simp) ?_)
  rintro db v held₁ g - hheld₁ hlock hg hprincipal _ ⟨⟩
  refine .bind (yields_requireDispatchable fun hactive => ?_)
  refine yields_orRaise (ends_lockStep (by simp) ?_)
  rintro db₂ v₂ held₂ r - hheld₂ hstep hr hschedule _ ⟨⟩
  refine .bind (yields_requireExportable (hheld₂ hlock) hg hprincipal ?_)
  intro db₃ hpredecessors hstate
  refine .bind (HandoffService.yields_buildEnvelopeContent fun r' db₄ hr' _ => ?_)
  obtain rfl := Option.some.inj (hr.symm.trans hr')
  have hheld : held ⊆ held₂ := List.Subset.trans hheld₁ hheld₂
  have hfirst : r.state = .pending ∧ (r.state == .pending) = true ∨
      r.state = .awaitingReturn ∧ (r.state == .pending) = false := by
    rcases hstate with heq | heq <;> simp [heq]
  cases hgate : gateRequirement r.draft.constraints with
  | error e => trivial
  | ok gate =>
    cases gate with
    | none =>
      have := h (.authorized ⟨_, none, _⟩) g r [] db₄ held₂ hheld (hheld₂ hlock) hstep hg hprincipal hactive
        hr hschedule (by simp) (by
          rintro aut ⟨⟩
          exact ⟨rfl, hfirst, hpredecessors, none, hgate, rfl⟩)
      rwa [setAll, List.map_nil, List.map_nil, List.append_nil] at this
    | some gate =>
      have hauthorized : ∀ (result : PreflightResult) kept db held', held₂ ⊆ held' →
          (∀ d ∈ kept, (S.view log).delegations.lookup d.id = some d ∧
            stale scheduleId stepId S.now d = true) →
          (∀ aut, result = .authorized aut →
            aut.contentSha256 = (EnvelopeContent.ofDraft scheduleId stepId r.draft).contentSha256 ∧
            aut.firstDispatch = (r.state == .pending) ∧ aut.delegationId.isSome) →
          Q result db held' (log ++ setAll kept .expired) := by
        intro result kept db held' hheld' hkept hresult
        refine h result g r kept db held' (List.Subset.trans hheld hheld')
          (hheld' (hheld₂ hlock)) (hheld' hstep) hg hprincipal hactive hr hschedule hkept ?_
        intro aut haut
        obtain ⟨hcontent, hfirst', hsome⟩ := hresult aut haut
        exact ⟨hcontent, hfirst' ▸ hfirst, hpredecessors, some gate, hgate, hsome⟩
      simp only
      split
      · have := hauthorized (.blocked ⟨.humanGateUnavailable,
          some (EnvelopeContent.ofDraft scheduleId stepId r.draft).contentSha256⟩) [] db₄ held₂
          (List.Subset.refl _) (by simp) (by simp)
        rwa [setAll, List.map_nil, List.map_nil, List.append_nil] at this
      · refine yields_preflightDelegation fun result kept db₅ held₃ hheld₃ hkept hresult => ?_
        exact hauthorized result kept db₅ held₃ hheld₃ hkept.rows hresult

theorem yields_consumirDelegacao {Q : Unit → Db → List Lock → List Write → Prop}
    {aut : DispatchAuthorized}
    (h : ∀ (c : Option ServiceDelegation) db held', held ⊆ held' →
      c.isSome = aut.delegationId.isSome →
      (∀ d ∈ c, (S.view log).delegations.lookup d.id = some d ∧
        consumable scheduleId stepId aut.contentSha256 gateScopeDispatch S.now d = true) →
      Q () db held' (log ++ (c.map fun d => .consumeDelegation d.id S.now attemptId).toList)) :
    S.Yields Q (consumirDelegacao principal scheduleId stepId attemptId aut) past held log := by
  unfold consumirDelegacao
  cases hid : aut.delegationId with
  | none =>
    have := h none past held (List.Subset.refl _) (by simp [hid]) (by simp)
    rwa [Option.map_none, Option.toList_none, List.append_nil] at this
  | some id =>
    refine .bind (yields_consumeDelegation ?_ ?_)
    · intro db held' _
      trivial
    · rintro d db held' hheld hd rfl hconsumable
      refine .require (fun _ => trivial) fun _ => ?_
      exact h (some d) db held' hheld (by simp [hid]) (by simpa using ⟨hd, hconsumable⟩)

/-- The last writes of an export: the step moves to `AWAITING_RETURN`. -/
theorem yields_moves {β : Type} {Q : β → Db → List Lock → List Write → Prop} {first : Bool} {out : β}
    {g : Schedule} {r : ScheduleStep} (hlock : .schedule scheduleId ∈ held)
    (hg : (S.view log).schedules.lookup scheduleId = some g) (hdraft : g.state ≠ .draft)
    (hr : (S.view log).steps.lookup stepId = some r)
    (hstate : r.state = .pending ∧ first = true ∨ r.state = .awaitingReturn ∧ first = false)
    (h : ∀ db held', held ⊆ held' → Q out db held' (log ++ moves stepId first)) :
    S.Yields Q (do
      if first then setStepState principal scheduleId stepId .dispatched
      setStepState principal scheduleId stepId .awaitingReturn
      pure out) past held log := by
  rcases hstate with ⟨hpending, rfl⟩ | ⟨hawaiting, rfl⟩
  · simp only [if_true]
    refine .bind (yields_setStepState (.inr hlock) fun db held₁ r₁ hheld₁ _ hr₁ hschedule => ?_)
    obtain rfl := Option.some.inj (hr.symm.trans hr₁)
    refine ⟨⟨r, g, hr, hschedule ▸ hg, hdraft, by simp [hpending, stepWrites, e72StepTransitions]⟩,
      ?_⟩
    refine .bind (yields_setStepState (.inl rfl) fun db₂ held₂ r₂ hheld₂ _ hr₂ _ => ?_)
    have hdispatched : r₂ = { r with state := .dispatched } := by
      rw [Scene.view_append] at hr₂
      simpa [Db.apply, Table.lookup_modify, hr, eq_comm] using hr₂
    refine ⟨⟨r₂, g, hr₂, ?_, hdraft, by simp [hdispatched, stepWrites, e72StepTransitions]⟩, ?_⟩
    · rw [Scene.view_append, hdispatched]
      exact hschedule ▸ hg
    · have := h db₂ held₂ (List.Subset.trans hheld₁ hheld₂)
      rwa [moves, if_pos rfl, ← List.append_assoc] at this
  · simp only [Bool.false_eq_true, if_false]
    refine .bind (yields_setStepState (.inl rfl) fun db held₁ r₁ hheld₁ _ hr₁ hschedule => ?_)
    obtain rfl := Option.some.inj (hr.symm.trans hr₁)
    refine ⟨⟨r, g, hr, hschedule ▸ hg, hdraft, by simp [hawaiting, stepWrites]⟩, ?_⟩
    have := h db held₁ hheld₁
    rwa [moves, if_neg (by simp), List.nil_append] at this

/-- The dispatch of a cleared step, under the locks of the preflight. -/
theorem yields_dispatch {Q : ExportOutcome → Db → List Lock → List Write → Prop}
    {sealerRef : String} {aut : DispatchAuthorized} {g : Schedule} {r : ScheduleStep}
    (hid : .identifier attemptId ∈ held)
    (hunused : (S.view log).attempts.lookup attemptId = none)
    (hlock : .schedule scheduleId ∈ held)
    (hg : (S.view log).schedules.lookup scheduleId = some g)
    (hprincipal : g.controlPrincipalRef = principal) (hactive : g.state = .active)
    (hr : (S.view log).steps.lookup stepId = some r)
    (hcleared : Cleared (S.view log) scheduleId stepId r aut)
    (h : ∀ out m db held', held ⊆ held' → m.expired = [] → out.exported.attemptId = attemptId →
      Exported (S.view log) S.now principal scheduleId stepId attemptId m →
      Q out db held' (log ++ m.writes S.now stepId)) :
    S.Yields Q (dispatch attemptId principal scheduleId stepId sealerRef aut) past held log := by
  refine yields_orRaise (ends_lockStep (by simp) ?_)
  rintro db v held₁ r₁ - hheld₁ - hr₁ hschedule _ ⟨⟩
  obtain rfl := Option.some.inj (hr.symm.trans hr₁)
  refine .bind (HandoffService.yields_buildEnvelopeContent fun r₂ db₂ hr₂ _ => ?_)
  obtain rfl := Option.some.inj (hr.symm.trans hr₂)
  refine yields_require fun _ => ?_
  refine .bind (yields_consumirDelegacao ?_)
  intro c db₃ held₃ hheld₃ hsome hconsumed
  have hheldc : held ⊆ held₃ := List.Subset.trans hheld₁ hheld₃
  -- Until the step moves, only other tables are written.
  have hcs : ∀ w ∈ (c.map fun d => Write.consumeDelegation d.id S.now attemptId).toList,
      w.table = .delegations := by
    cases c <;> simp [Write.table]
  generalize hcsdef : (c.map fun d => Write.consumeDelegation d.id S.now attemptId).toList = cs
    at hcs ⊢
  have hview : ∀ t, t ≠ .delegations → SameTable t (S.view (log ++ cs)) (S.view log) := by
    intro t ht
    rw [Scene.view_append]
    exact sameTable_applyAll fun w hw => by simpa [hcs w hw] using ht.symm
  have hattempts : (S.view (log ++ cs)).attempts = (S.view log).attempts := hview .attempts (by simp)
  have hsteps : (S.view (log ++ cs)).steps = (S.view log).steps := hview .steps (by simp)
  refine .bind (HandoffService.yields_sealWith (hheldc hid) (hattempts ▸ hunused) ?_)
  intro selado a s db₄ held₄ hheld₄ _ _ hsealed hout hs hsha
  obtain ⟨r₃, hr₃, -, hcontent, -⟩ := hsealed.step
  obtain rfl := Option.some.inj (hr.symm.trans (hsteps ▸ hr₃))
  refine .bind (Connections.yields_ensureManualProfile fun perfil ws db₅ held₅ hheld₅ hws => ?_)
  refine .bind (ends_databaseNow fun db₆ => ?_)
  have hwsTable : ∀ w ∈ ws, w.table = .profiles := by
    rcases hws with rfl | rfl <;> simp [Write.table]
  refine .bind (Connections.yields_recordExecution ?_ ?_)
  · have hsame : (S.view (log ++ cs ++ [.insertAttempt a, .insertSeal s] ++ ws)).attempts =
        (S.view (log ++ cs ++ [.insertAttempt a, .insertSeal s])).attempts := by
      rw [Scene.view_append ws]
      exact sameTable_applyAll (t := .attempts) fun w hw => by simp [hwsTable w hw]
    refine ⟨a, ?_⟩
    rw [hsame, hout, ← hsealed.attempt_id, Scene.view_append]
    exact AList.lookup_insert _
  intro x db₇ held₇ hheld₇ hx
  have hheld : held ⊆ held₇ := List.Subset.trans hheldc
    (List.Subset.trans hheld₄ (List.Subset.trans hheld₅ hheld₇))
  have hlast : ∀ t, t ∈ [TableName.schedules, .steps] → SameTable t
      (S.view (log ++ cs ++ [.insertAttempt a, .insertSeal s] ++ ws ++ [.insertExecution x]))
      (S.view log) := by
    intro t ht
    have ht' : t = .schedules ∨ t = .steps := by simpa using ht
    refine SameTable.trans ?_ (hview t (by rcases ht' with rfl | rfl <;> simp))
    rw [List.append_assoc, List.append_assoc, Scene.view_append ([_, _] ++ (ws ++ [_]))]
    refine sameTable_applyAll fun w hw => ?_
    simp only [List.mem_append, List.mem_cons, List.not_mem_nil, or_false] at hw
    rcases hw with (rfl | rfl) | hw | rfl
    · rcases ht' with rfl | rfl <;> simp [Write.table]
    · rcases ht' with rfl | rfl <;> simp [Write.table]
    · rcases ht' with rfl | rfl <;> simp [hwsTable w hw]
    · rcases ht' with rfl | rfl <;> simp [Write.table]
  refine .bind (.bind (.require (fun _ => trivial) fun _ => yields_require fun _ => ?_))
  refine yields_moves (g := g) (r := r) (hheld hlock) ?_ (by simp [hactive]) ?_ hcleared.first ?_
  · rw [show (S.view (log ++ _ ++ _ ++ _ ++ _)).schedules = _ from hlast .schedules (by simp)]
    exact hg
  · rw [show (S.view (log ++ _ ++ _ ++ _ ++ _)).steps = _ from hlast .steps (by simp)]
    exact hr
  intro db₈ held₈ hheld₈
  obtain ⟨profile, hprofile⟩ : ∃ o : Option ConnectionProfile, ws = (o.map .insertProfile).toList := by
    rcases hws with rfl | rfl
    · exact ⟨none, rfl⟩
    · exact ⟨some perfil.1, rfl⟩
  obtain ⟨gate, hgate, hgateSome⟩ := hcleared.gate
  have hmet : GateMet (S.view log) S.now scheduleId stepId a.contentSha256 c gate := by
    rw [hgateSome] at hsome
    cases gate with
    | none => exact Option.isSome_eq_false_iff.mp hsome |> Option.isNone_iff_eq_none.mp
    | some gate =>
      obtain ⟨d, rfl⟩ := Option.isSome_iff_exists.mp hsome
      obtain ⟨hd, hconsumable⟩ := hconsumed d rfl
      refine ⟨gateRequirement_scope hgate, d, rfl, hd, ?_⟩
      rwa [hcontent, ← hcleared.content]
  have hexported : Exported (S.view log) S.now principal scheduleId stepId attemptId
      ⟨[], c, a, s, profile, x, aut.firstDispatch⟩ := {
    schedule := ⟨g, hg, hprincipal, hactive⟩
    step := ⟨r, gate, hr, hschedule, hcleared.first, hcleared.predecessors, hcontent, hgate, hmet⟩
    attempt_id := hsealed.attempt_id
    attempt_schedule := hsealed.attempt_schedule
    attempt_step := hsealed.attempt_step
    attempt_open := hsealed.attempt_open
    no_open := hattempts ▸ hsealed.no_open
    expired := by simp }
  have := h ⟨⟨scheduleId, stepId, selado.attemptId, selado.attemptNumber, selado.receiptId,
    selado.contentSha256, selado.sealedAt, EnvelopeContent.ofDraft scheduleId stepId r.draft⟩,
    .awaitingReturn, .open⟩ _ db₈ held₈ (List.Subset.trans hheld hheld₈) rfl hout hexported
  simp only [Dispatch.writes, setAll, List.map_nil, List.nil_append, hsealed.attempt_id, hcsdef,
    ← hprofile, ← List.append_assoc] at this
  exact this

/-- An export without an authorization from its caller. -/
theorem yields_exportStep {Q : ExportOutcome → Db → List Lock → List Write → Prop}
    {humanGate : GateDecision} {sealerRef : String} (hid : .identifier attemptId ∈ held)
    (hunused : (S.view log).attempts.lookup attemptId = none)
    (h : ∀ out m db held', held ⊆ held' → out.exported.attemptId = attemptId →
      Exported (S.view log) S.now principal scheduleId stepId attemptId m →
      Q out db held' (log ++ m.writes S.now stepId)) :
    S.Yields Q (exportStep humanGate attemptId principal scheduleId stepId sealerRef) past held
      log := by
  refine .bind (yields_preflight ?_)
  intro result g r kept db held₁ hheld₁ hlock _ hg hprincipal hactive hr hschedule hkept hcleared
  cases result with
  | blocked bloqueio =>
    refine .bind (.bind (ControlService.yields_registerPause fun _ _ _ _ _ _ => ?_))
    trivial
  | authorized aut =>
    have hview : ∀ t, t ≠ .delegations → SameTable t (S.view (log ++ setAll kept .expired))
        (S.view log) := by
      intro t ht
      rw [Scene.view_append]
      exact sameTable_applyAll (by simpa [Write.table] using fun _ _ => ht.symm)
    have hattempts : (S.view (log ++ setAll kept .expired)).attempts = (S.view log).attempts :=
      hview .attempts (by simp)
    have hschedules : (S.view (log ++ setAll kept .expired)).schedules = (S.view log).schedules :=
      hview .schedules (by simp)
    have hsteps : (S.view (log ++ setAll kept .expired)).steps = (S.view log).steps :=
      hview .steps (by simp)
    obtain ⟨hcontent, hfirst, hpredecessors, hgate⟩ := hcleared aut rfl
    refine yields_dispatch (hheld₁ hid) (hattempts ▸ hunused) hlock (hschedules ▸ hg)
      hprincipal hactive (hsteps ▸ hr) ⟨hcontent, hfirst, hsteps ▸ hpredecessors, hgate⟩ ?_
    intro out m db' held' hheld' hexpired hout hexported
    have := h out { m with expired := kept } db' held' (List.Subset.trans hheld₁ hheld') hout {
      schedule := hschedules ▸ hexported.schedule
      step := by
        obtain ⟨r', gate, hr', hschedule', hfirst', hpred', hcontent', hgate', hmet⟩ := hexported.step
        refine ⟨r', gate, hsteps ▸ hr', hschedule', hfirst', hsteps ▸ hpred', hcontent', hgate', ?_⟩
        cases gate with
        | none => exact hmet
        | some gate =>
          obtain ⟨hscope, d, hd, hlookup, hconsumable⟩ := hmet
          refine ⟨hscope, d, hd, ?_, hconsumable⟩
          rw [Scene.view_append, orchestration_apply, delegations_setAll] at hlookup
          split at hlookup
          case isFalse => exact hlookup
          case isTrue =>
            obtain ⟨d₀, -, rfl⟩ := Option.map_eq_some_iff.mp hlookup
            simp [consumable] at hconsumable
      attempt_id := hexported.attempt_id
      attempt_schedule := hexported.attempt_schedule
      attempt_step := hexported.attempt_step
      attempt_open := hexported.attempt_open
      no_open := hattempts ▸ hexported.no_open
      expired := hkept }
    simp only [Dispatch.writes, hexpired, setAll, List.map_nil, List.nil_append,
      List.append_assoc] at this ⊢
    exact this

end ManualHandoffExportService

namespace SupervisedAutomaticHandoffExportService

/-- The supervised export seals and moves the step, under the lock of the step alone. -/
theorem yields_exportStep {Q : SupervisedExportOutcome → Db → List Lock → List Write → Prop}
    {protecao : GatePosition → ProtectionDecision} {sealerRef : String}
    (hid : .identifier attemptId ∈ held)
    (hunused : (S.view log).attempts.lookup attemptId = none)
    (h : ∀ out a s db db' held' held'', held ⊆ held' → Later [] past db → .step stepId ∈ held' →
      Sealed (S.view log) db held' log [.pending, .awaitingReturn] principal scheduleId stepId
        attemptId a → s.attemptId = attemptId → out.attemptId = attemptId →
      Q out db' held'' (log ++ [.insertAttempt a, .insertSeal s, .setStepState stepId .awaitingReturn])) :
    S.Yields Q (exportStep protecao attemptId principal scheduleId stepId sealerRef) past held
      log := by
  refine yields_orRaise (ends_lockStep (by simp) ?_)
  rintro db v held₁ r hfinds hheld₁ hstep hr hschedule _ ⟨⟩
  refine yields_require fun _ => ?_
  refine .bind (HandoffService.yields_sealWith (hheld₁ hid) hunused ?_)
  intro selado a s db₂ held₂ hheld₂ _ _ hsealed hout hs _
  refine .bind (yields_setStepState (.inl rfl) fun db₃ held₃ r' hheld₃ _ hr' hschedule' => ?_)
  have hview : ∀ t, t ≠ .attempts → t ≠ .seals → SameTable t
      (S.view (log ++ [.insertAttempt a, .insertSeal s])) (S.view log) := by
    intro t h1 h2
    rw [Scene.view_append]
    exact sameTable_applyAll (by simpa [Write.table] using ⟨h1.symm, h2.symm⟩)
  have hsteps : (S.view (log ++ [.insertAttempt a, .insertSeal s])).steps = (S.view log).steps :=
    hview .steps (by simp) (by simp)
  obtain rfl := Option.some.inj (hr.symm.trans (hsteps ▸ hr'))
  obtain ⟨r₁, hr₁, -, -, hadmitted⟩ := hsealed.step
  obtain rfl := Option.some.inj (hr.symm.trans hr₁)
  obtain ⟨g, hg, -, hdraft, -⟩ := hsealed.schedule
  refine ⟨⟨r, g, hr', ?_, hdraft, ?_⟩, ?_⟩
  · rw [show (S.view _).schedules = _ from hview .schedules (by simp) (by simp), hschedule]
    exact hg
  · have hstate := hadmitted hstep
    simp only [List.mem_cons, List.not_mem_nil, or_false] at hstate
    rcases hstate with heq | heq <;> simp [heq, stepWrites]
  · rw [List.append_assoc]
    exact h _ a s db db₃ held₁ held₃ hheld₁ hfinds.past hstep hsealed hs hout

end SupervisedAutomaticHandoffExportService

end PiaOs
