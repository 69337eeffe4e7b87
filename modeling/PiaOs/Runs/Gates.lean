import PiaOs.Runs.Dispatch

/-!
# Delegations and dispatches

A manual export of a step with a gate consumes the one delegation that covers what it
seals. The supervised export never looks at the gate. Whoever consumes it, a delegation is
consumed once.
-/

namespace PiaOs

open Support Transactions Repository

/-- The gate of a step. -/
def gateOf (r : ScheduleStep) : Option GateRequirement :=
  match gateRequirement r.draft.constraints with
  | .ok gate => gate
  | .error _ => none

/-- A delegation as it is when it is consumed, with the instant and the attempt. -/
structure Consumption where
  delegation : ServiceDelegation
  consumedAt : Instant
  attemptId : Uuid
  deriving DecidableEq

/-- The consumptions among some writes. -/
def consumptionsOf (ws : List Write) (V : Db) : List Consumption :=
  (trail Db.apply ws V).filterMap fun p =>
    match p.2 with
    | .consumeDelegation id consumedAt attemptId =>
      (p.1.delegations.lookup id).map fun d => ⟨d, consumedAt, attemptId⟩
    | _ => none

def consumptions (c : Commit) : List Consumption := consumptionsOf c.log c.before

/-- The attempts that some writes open. -/
def openedBy (ws : List Write) : List HandoffAttempt :=
  ws.filterMap fun w =>
    match w with
    | .insertAttempt a => some a
    | _ => none

def opened (c : Commit) : List HandoffAttempt := openedBy c.log

/-- The delegation that a write consumes. -/
def consumedId : Write → Option Uuid
  | .consumeDelegation id _ _ => some id
  | _ => none

/-- The consumption covers the dispatch of the step with this attempt. -/
structure Covers (u : Consumption) (r : ScheduleStep) (gate : GateRequirement)
    (a : HandoffAttempt) : Prop where
  schedule : u.delegation.scheduleId = r.scheduleId
  step : u.delegation.stepId = r.id ∧ a.stepId = r.id
  scope : u.delegation.scope = gate.scope
  active : u.delegation.state = .active
  unexpired : u.consumedAt < u.delegation.validUntil
  content : u.delegation.contentSha256 = a.contentSha256
  attempt : u.attemptId = a.id

section Once

/-- The delegation is no longer active. -/
def Closed (db : Db) (id : Uuid) : Prop :=
  ∃ d, db.delegations.lookup id = some d ∧ d.state ≠ .active

theorem Closed.later {V W : Db} {held : List Lock} {id : Uuid} (h : Closed V id)
    (hlater : Later held V W) : Closed W id := by
  obtain ⟨d, hd, hstate⟩ := h
  obtain ⟨d', hd', hchange⟩ := hlater.delegations.stays hd
  exact ⟨d', hd', hchange.spent hstate ▸ hstate⟩

/-- Only an active delegation is consumed. -/
theorem closesOnce_consume : ClosesOnce consumedId Closed where
  later := fun hlater hclosed => hclosed.later hlater
  closes := by
    intro V w id hmay hid
    cases w with
    | consumeDelegation id' consumedAt attemptId =>
      obtain rfl := Option.some.inj hid
      obtain ⟨d, hd, hactive, -⟩ := hmay
      constructor
      · rintro ⟨d', hd', hstate⟩
        obtain rfl := Option.some.inj (hd.symm.trans hd')
        exact hstate hactive
      · exact ⟨_, by simp [Db.apply, Table.lookup_modify, hd]; rfl, by simp⟩
    | _ => simp [consumedId] at hid

end Once

section Dispatches

variable {V : Db} {ws ws' : List Write}

theorem consumptionsOf_append : consumptionsOf (ws ++ ws') V =
    consumptionsOf ws V ++ consumptionsOf ws' (applyAll Db.apply ws V) := by
  rw [consumptionsOf, trail_append, List.filterMap_append]
  rfl

theorem consumptionsOf_eq_nil (h : ∀ id consumedAt attemptId,
    .consumeDelegation id consumedAt attemptId ∉ ws) : consumptionsOf ws V = [] := by
  refine List.filterMap_eq_nil_iff.mpr fun p hp => ?_
  obtain ⟨front, post, rfl, -⟩ := (mem_trail Db.apply).mp hp
  split
  case h_1 id consumedAt attemptId hw => exact (h id consumedAt attemptId (by simp [hw])).elim
  case h_2 => rfl

theorem openedBy_append : openedBy (ws ++ ws') = openedBy ws ++ openedBy ws' :=
  List.filterMap_append

theorem openedBy_eq_nil (h : ∀ a, .insertAttempt a ∉ ws) : openedBy ws = [] := by
  refine List.filterMap_eq_nil_iff.mpr fun w hw => ?_
  split
  case h_1 a => exact (h a hw).elim
  case h_2 => rfl

theorem Aside.none (h : Aside ws) :
    consumptionsOf ws V = [] ∧ openedBy ws = [] := by
  constructor
  · refine consumptionsOf_eq_nil fun id consumedAt attemptId hw => ?_
    obtain ⟨_, heq⟩ | ⟨_, heq⟩ := h _ hw <;> simp at heq
  · refine openedBy_eq_nil fun a hw => ?_
    obtain ⟨_, heq⟩ | ⟨_, heq⟩ := h _ hw <;> simp at heq

/-- An expiry leaves a delegation alone that is still valid. -/
theorem lookup_expired {now : Instant} {scheduleId stepId : Uuid} {expired : List ServiceDelegation}
    {d : ServiceDelegation} (hexpired : ∀ e ∈ expired, V.delegations.lookup e.id = some e ∧
      stale scheduleId stepId now e = true) (hd : V.delegations.lookup d.id = some d)
    (hvalid : now < d.validUntil) :
    (applyAll Db.apply (setAll expired .expired) V).delegations.lookup d.id = some d := by
  rw [delegations_setAll, if_neg, hd]
  intro hmem
  obtain ⟨e, he, hid⟩ := List.mem_map.mp hmem
  obtain ⟨hlookup, hstale⟩ := hexpired e he
  rw [hid, hd] at hlookup
  obtain rfl := Option.some.inj hlookup
  exact absurd (stale_iff.mp hstale).2.2.2 (not_le.mpr hvalid)

/-- The writes of a manual export after the delegations. -/
def Dispatch.rest (m : Dispatch) (stepId : Uuid) : List Write :=
  [.insertAttempt m.attempt, .insertSeal m.receipt] ++ (m.profile.map .insertProfile).toList ++
    [.insertExecution m.execution] ++ moves stepId m.first

theorem Dispatch.rest_consumes {m : Dispatch} {stepId : Uuid} (id : Uuid) (consumedAt : Instant)
    (attemptId : Uuid) : .consumeDelegation id consumedAt attemptId ∉ m.rest stepId := by
  cases hprofile : m.profile <;> cases hfirst : m.first <;>
    simp [Dispatch.rest, moves, hprofile, hfirst]

theorem Dispatch.rest_opens {m : Dispatch} {stepId : Uuid} :
    openedBy (m.rest stepId) = [m.attempt] := by
  cases hprofile : m.profile <;> cases hfirst : m.first <;>
    simp [Dispatch.rest, moves, hprofile, hfirst, openedBy]

/-- A manual export opens one attempt and consumes what its gate asks for. -/
theorem Exported.covered [Runtime] {now : Instant} {principal : String}
    {scheduleId stepId outcomeRef : Uuid} {m : Dispatch} {r : ScheduleStep} {gate : GateRequirement}
    (hwf : Wellformed V) (h : Exported V now principal scheduleId stepId outcomeRef m)
    (hr : (applyAll Db.apply (m.front now stepId) V).steps.lookup stepId = some r)
    (hgate : gateOf r = some gate) : ∃ u, consumptionsOf (m.writes now stepId) V = [u] ∧
      openedBy (m.writes now stepId) = [m.attempt] ∧ Covers u r gate m.attempt := by
  obtain ⟨r₀, gate₀, hr₀, hschedule, -, -, hcontent, hgate₀, hmet⟩ := h.step
  obtain ⟨hdraft, hid, hsame⟩ : r.draft = r₀.draft ∧ r.id = r₀.id ∧
      r.scheduleId = r₀.scheduleId := by
    rw [m.front_steps, hr₀] at hr
    split at hr <;> obtain rfl := Option.some.inj hr <;> exact ⟨rfl, rfl, rfl⟩
  rw [gateOf, hdraft, hgate₀] at hgate
  obtain rfl : gate₀ = some gate := hgate
  obtain ⟨hscope, d, hconsumed, hd, hconsumable⟩ := hmet
  obtain ⟨hdschedule, hdstep, hdscope, hdcontent, hdactive, hdvalid⟩ := consumable_iff.mp hconsumable
  have hwrites : m.writes now stepId = setAll m.expired .expired ++
      ([.consumeDelegation d.id now m.attempt.id] ++ m.rest stepId) := by
    simp [Dispatch.writes, Dispatch.rest, hconsumed]
  refine ⟨⟨d, now, m.attempt.id⟩, ?_, ?_, ?_⟩
  · rw [hwrites, consumptionsOf_append, consumptionsOf_append, consumptionsOf_eq_nil (by simp),
      consumptionsOf_eq_nil m.rest_consumes]
    have hlookup := lookup_expired h.expired hd hdvalid
    generalize applyAll Db.apply (setAll m.expired .expired) V = V' at hlookup ⊢
    simp [consumptionsOf, trail, hlookup]
  · rw [hwrites, openedBy_append, openedBy_append, openedBy_eq_nil (by simp), m.rest_opens]
    rfl
  · exact {
      schedule := hdschedule.trans (hsame.trans hschedule).symm
      step := ⟨hdstep.trans (hid.trans (hwf.steps_id _ _ hr₀)).symm,
        h.attempt_step.trans (hid.trans (hwf.steps_id _ _ hr₀)).symm⟩
      scope := hdscope.trans hscope.symm
      active := hdactive
      unexpired := hdvalid
      content := hdcontent
      attempt := rfl }

/-- A step with a gate is dispatched only with the one delegation that covers it, provided
that no supervised export is committed to a pending step with a gate; and in any case a run
consumes every delegation at most once. -/
theorem dispatched_with_delegation [Runtime] {s : Orchestration} (h : Reachable s)
    (hsupervised : ∀ c ∈ s.history, ∀ r ∈ supervisedStep c, r.state = .pending → gateOf r = none) :
    (∀ c ∈ s.history, ∀ p ∈ dispatches c, ∀ gate ∈ gateOf p.2,
      ∃ u a, consumptions c = [u] ∧ opened c = [a] ∧ Covers u p.2 gate a) ∧
    (s.history.flatMap fun c => c.log.filterMap consumedId).Nodup := by
  refine ⟨?_, (closed_once_run h closesOnce_consume).1⟩
  rintro c hc ⟨V, r⟩ hp gate hgate
  obtain ⟨front, stepId, post, hlog, rfl, hr, hstate⟩ := mem_dispatches.mp hp
  obtain ⟨pre, core, hdone⟩ := done_of_sound ((commits_of_reachable h).sound hc)
  obtain ⟨mid, rfl, hcore⟩ := hdone.at_write hlog (by simp [Write.table, workTables])
  have hmoved := hdone.deed.moved hcore
  rw [applyAll_append] at hr
  obtain ⟨hconsumes, hopens⟩ := hdone.aside.none (V := c.before)
  rw [consumptions, opened, hdone.log, consumptionsOf_append, openedBy_append, hconsumes, hopens,
    List.nil_append, List.nil_append]
  generalize hrequest : c.request = request at hmoved
  cases hmoved with
  | manual request principal scheduleId outcomeRef m hexported =>
    rw [hcore, ← m.writes_eq]
    obtain ⟨u, hu, ha, hcovers⟩ := hexported.covered hdone.wf hr hgate
    exact ⟨u, m.attempt, hu, ha, hcovers⟩
  | supervised protecao caller scheduleId outcomeRef row receipt r₀ hopened hr₀ hpending =>
    obtain rfl : r₀ = r := Option.some.inj (hr₀.symm.trans hr)
    have hfound : r₀ ∈ supervisedStep c := by
      simp [supervisedStep, hrequest, hlog, ← hdone.same.steps, hr₀]
    simp [hsupervised c hc r₀ hfound (hpending.resolve_right hstate)] at hgate

end Dispatches

/-- A step with a gate is exported by hand after a delegation was granted. -/
def exportedWithDelegation : List (Label Request) :=
  granted ++
    alone 2 (.exportHandoffOnce denyAllHumanGate (Sample.caller "c") ⟨1⟩ ⟨5⟩ "p") 2 60 42

theorem dispatched_with_delegation_granted : ∃ s : Orchestration, Reachable s ∧
    (s.history.flatMap fun c => c.log.filterMap consumedId) = [⟨20⟩] ∧
    (∀ c ∈ s.history, ∀ p ∈ dispatches c, ∀ gate ∈ gateOf p.2,
      ∃ u a, consumptions c = [u] ∧ opened c = [a] ∧ Covers u p.2 gate a) := by
  obtain ⟨s, hreach, htest⟩ := exists_reachable exportedWithDelegation (fun s => decide
    ((s.history.flatMap fun c => c.log.filterMap consumedId) = [⟨20⟩] ∧
      ∀ c ∈ s.history, ∀ r ∈ supervisedStep c, r.state = .pending → gateOf r = none))
    (by decide +kernel)
  obtain ⟨hconsumed, hsupervised⟩ := of_decide_eq_true htest
  exact ⟨s, hreach, hconsumed, (dispatched_with_delegation hreach hsupervised).1⟩

/-- A supervised export of a step with a gate for which nobody delegated. -/
def exportedWithoutDelegation : List (Label Request) :=
  alone 0 (.criarSchedule (Sample.caller "a") Sample.gated .manualHandoff) 0 1 15 ++
    alone 1 (.exportarMcp Sample.allow (Sample.caller "b") ⟨1⟩ ⟨5⟩) 1 20 17

theorem dispatched_without_delegation : ¬ ∀ s : Orchestration, Reachable s →
    ∀ c ∈ s.history, ∀ p ∈ dispatches c, ∀ gate ∈ gateOf p.2,
      ∃ u a, consumptions c = [u] ∧ opened c = [a] ∧ Covers u p.2 gate a := by
  intro hall
  obtain ⟨s, hreach, htest⟩ := exists_reachable exportedWithoutDelegation (fun s => decide
    (∃ c ∈ s.history, ∃ p ∈ dispatches c, (gateOf p.2).isSome ∧ consumptions c = []))
    (by decide +kernel)
  obtain ⟨c, hc, p, hp, hgate, hnothing⟩ := of_decide_eq_true htest
  obtain ⟨gate, hsome⟩ := Option.isSome_iff_exists.mp hgate
  obtain ⟨u, -, hu, -⟩ := hall s hreach c hc p hp gate hsome
  simp [hnothing] at hu

end PiaOs
