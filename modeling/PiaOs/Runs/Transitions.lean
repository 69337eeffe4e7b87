import PiaOs.Runs.Dispatch

/-!
# Which states a row can go through

The protocol allows one change of a step that is not declared: a supervised export takes a
pending step to `AWAITING_RETURN` at once. Every other write moves its row by a declared
pair.
-/

namespace PiaOs

open Support Transactions Repository

def scheduleTransitions : List (ScheduleState × ScheduleState) :=
  e71ScheduleTransitions ++ e73ScheduleTransitions

def stepTransitions : List (StepState × StepState) :=
  e71StepTransitions ++ e72StepTransitions ++ e73StepTransitions

def attemptTransitions : List (AttemptState × AttemptState) :=
  e71AttemptTransitions ++ e72AttemptTransitions ++ e73AttemptTransitions

/-- A row whose state is another one in `t'` has moved by one of the pairs. -/
def RowsMove {κ ρ τ : Type} [DecidableEq κ] (state : ρ → τ) (pairs : List (τ × τ))
    (t t' : Table κ ρ) : Prop :=
  ∀ k r r', t.lookup k = some r → t'.lookup k = some r' → state r' ≠ state r →
    (state r, state r') ∈ pairs

/-- Every change of a state is one that is declared for its entity. -/
structure DeclaredChange (V V' : Db) : Prop where
  schedules : RowsMove Schedule.state scheduleTransitions V.schedules V'.schedules
  steps : RowsMove ScheduleStep.state stepTransitions V.steps V'.steps
  attempts : RowsMove HandoffAttempt.state attemptTransitions V.attempts V'.attempts
  delegations : RowsMove ServiceDelegation.state delegationTransitions V.delegations V'.delegations

section RowsMove

variable {κ ρ τ : Type} [DecidableEq κ] {state : ρ → τ} {pairs : List (τ × τ)} {t : Table κ ρ}

theorem RowsMove.refl : RowsMove state pairs t t := by
  intro k r r' hr hr' hne
  obtain rfl := Option.some.inj (hr.symm.trans hr')
  exact absurd rfl hne

theorem RowsMove.insert {k : κ} {r : ρ} (hfree : t.lookup k = none) :
    RowsMove state pairs t (t.insert k r) := by
  intro k' r₁ r₂ h₁ h₂ hne
  obtain ⟨rfl, -⟩ | ⟨-, h₂⟩ := Table.insert_cases h₂
  · simp [hfree] at h₁
  · exact RowsMove.refl k' r₁ r₂ h₁ h₂ hne

theorem RowsMove.modify {k : κ} {f : ρ → ρ}
    (hmove : ∀ r, t.lookup k = some r → state (f r) ≠ state r → (state r, state (f r)) ∈ pairs) :
    RowsMove state pairs t (Table.modify k f t) := by
  intro k' r₁ r₂ h₁ h₂ hne
  obtain ⟨rfl, r, hr, rfl⟩ | ⟨-, h₂⟩ := Table.modify_cases h₂
  · obtain rfl := Option.some.inj (hr.symm.trans h₁)
    exact hmove r hr hne
  · exact RowsMove.refl k' r₁ r₂ h₁ h₂ hne

end RowsMove

/-- A legitimate write moves its row as declared, unless it dispatches a pending step. -/
theorem DeclaredChange.apply {V : Db} {w : Write} (hmay : w.may V)
    (hstep : ∀ k r, w = .setStepState k .awaitingReturn → V.steps.lookup k = some r →
      r.state ≠ .pending) : DeclaredChange V (Db.apply w V) := by
  have hrefl : DeclaredChange V V := ⟨.refl, .refl, .refl, .refl⟩
  cases w with
  | insertSchedule row => exact { hrefl with schedules := .insert hmay.1 }
  | insertStep row => exact { hrefl with steps := .insert hmay.1 }
  | insertAttempt row => exact { hrefl with attempts := .insert hmay.1 }
  | insertDelegation row => exact { hrefl with delegations := .insert hmay.1 }
  | setScheduleState id state =>
    refine { hrefl with schedules := .modify fun r hr _ => ?_ }
    obtain ⟨r', hr', htrans, -⟩ := hmay
    obtain rfl := Option.some.inj (hr.symm.trans hr')
    exact htrans
  | setStepState id state =>
    refine { hrefl with steps := .modify fun r hr hne => ?_ }
    obtain ⟨r', _, hr', -, -, htrans⟩ := hmay
    obtain rfl := Option.some.inj (hr.symm.trans hr')
    rw [stepWrites, List.mem_append] at htrans
    rcases htrans with hdeclared | hexport
    · simpa [stepTransitions, e71StepTransitions] using hdeclared
    · -- The two writes of the supervised export.
      simp only [List.mem_cons, Prod.mk.injEq, List.not_mem_nil, or_false] at hexport
      rcases hexport with ⟨hpending, rfl⟩ | ⟨hawaiting, rfl⟩
      · exact absurd hpending (hstep id r rfl hr)
      · exact absurd hawaiting.symm hne
  | setAttemptState id state =>
    refine { hrefl with attempts := .modify fun a ha _ => ?_ }
    obtain ⟨a', ha', htrans⟩ := hmay
    obtain rfl := Option.some.inj (ha.symm.trans ha')
    exact htrans
  | setDelegationState id state =>
    refine { hrefl with delegations := .modify fun d hd _ => ?_ }
    obtain ⟨d', hd', hactive, hstate⟩ := hmay
    obtain rfl := Option.some.inj (hd.symm.trans hd')
    rcases hstate with rfl | rfl <;> simp [hactive, delegationTransitions]
  | consumeDelegation id consumedAt attemptId =>
    refine { hrefl with delegations := .modify fun d hd _ => ?_ }
    obtain ⟨d', hd', hactive, -⟩ := hmay
    obtain rfl := Option.some.inj (hd.symm.trans hd')
    simp [hactive, delegationTransitions]
  | _ => exact { hrefl with }

section Runs

variable [Runtime]

/-- A manual export never takes a pending step to `AWAITING_RETURN` at once. -/
theorem Exported.front_state {V : Db} {now : Instant} {principal : String}
    {scheduleId stepId outcomeRef : Uuid} {m : Dispatch} {r : ScheduleStep}
    (h : Exported V now principal scheduleId stepId outcomeRef m)
    (hr : (applyAll Db.apply (m.front now stepId) V).steps.lookup stepId = some r) :
    r.state ≠ .pending := by
  obtain ⟨r₀, -, hr₀, -, hstate, -⟩ := h.step
  rw [m.front_steps, hr₀] at hr
  rcases hstate with ⟨-, hfirst⟩ | ⟨hawaiting, hretry⟩
  · obtain rfl := Option.some.inj (by simpa [hfirst] using hr)
    simp
  · obtain rfl := Option.some.inj (by simpa [hretry] using hr)
    simp [hawaiting]

/-- Every write of every commit changes states as declared, provided that the supervised
exports find no pending step at their commit. -/
theorem declared_transitions {s : Orchestration} (h : Reachable s)
    (hsupervised : ∀ c ∈ s.history, ∀ r ∈ supervisedStep c, r.state ≠ .pending) :
    ∀ c ∈ s.history, ∀ p ∈ trail Db.apply c.log c.before,
      DeclaredChange p.1 (Db.apply p.2 p.1) := by
  rintro c hc ⟨V, w⟩ hp
  obtain ⟨front, post, hlog, rfl⟩ := (mem_trail Db.apply).mp hp
  have hsound := (commits_of_reachable h).sound hc
  obtain ⟨held, hguarded⟩ := hsound.guarded
  rw [hlog] at hguarded
  refine .apply (Protocol.Allowed.at_write hguarded).2 ?_
  rintro k r rfl hr
  obtain ⟨pre, core, hdone⟩ := done_of_sound hsound
  obtain ⟨mid, rfl, hcore⟩ := hdone.at_write hlog (by simp [Write.table, workTables])
  have hmoved := hdone.deed.moved hcore
  rw [applyAll_append] at hr
  generalize hrequest : c.request = request at hmoved
  cases hmoved with
  | manual request principal scheduleId outcomeRef m hexported => exact hexported.front_state hr
  | supervised protecao caller scheduleId outcomeRef row receipt r₀ hopened hr₀ hpending =>
    obtain rfl : r₀ = r := Option.some.inj (hr₀.symm.trans hr)
    refine hsupervised c hc r₀ ?_
    simp [supervisedStep, hrequest, hlog, ← hdone.same.steps, hr₀]

end Runs

/-- A manual export of an active work. -/
def byHand : List (Label Request) :=
  alone 0 (.criarSchedule (Sample.caller "a") Sample.oneStep .manualHandoff) 0 1 15 ++
    alone 1 (.exportHandoffOnce denyAllHumanGate (Sample.caller "b") ⟨1⟩ ⟨5⟩ "p") 1 20 36

theorem declared_transitions_byHand : ∃ s : Orchestration, Reachable s ∧
    (s.store.steps.lookup ⟨5⟩).map ScheduleStep.state = some .awaitingReturn ∧
    ∀ c ∈ s.history, ∀ p ∈ trail Db.apply c.log c.before,
      DeclaredChange p.1 (Db.apply p.2 p.1) := by
  obtain ⟨s, hreach, htest⟩ := exists_reachable byHand (fun s => decide
    ((s.store.steps.lookup ⟨5⟩).map ScheduleStep.state = some .awaitingReturn ∧
      ∀ c ∈ s.history, ∀ r ∈ supervisedStep c, r.state ≠ .pending)) (by decide +kernel)
  obtain ⟨hstate, hsupervised⟩ := of_decide_eq_true htest
  exact ⟨s, hreach, hstate, declared_transitions hreach hsupervised⟩

/-- The write takes a pending step to `AWAITING_RETURN`. -/
def Skips (p : Db × Write) : Prop :=
  (p.1.steps.lookup ⟨5⟩).map ScheduleStep.state = some .pending ∧
    ((Db.apply p.2 p.1).steps.lookup ⟨5⟩).map ScheduleStep.state = some .awaitingReturn

instance : DecidablePred Skips := fun _ => inferInstanceAs (Decidable (_ ∧ _))

theorem undeclared_transition : ¬ ∀ s : Orchestration, Reachable s → ∀ c ∈ s.history,
    ∀ p ∈ trail Db.apply c.log c.before, DeclaredChange p.1 (Db.apply p.2 p.1) := by
  intro hall
  obtain ⟨s, hreach, htest⟩ := exists_reachable inOrder (fun s => decide
    (∃ c ∈ s.history, ∃ p ∈ trail Db.apply c.log c.before, Skips p)) (by decide +kernel)
  obtain ⟨c, hc, p, hp, hfrom, hto⟩ := of_decide_eq_true htest
  obtain ⟨r, hr, hpending⟩ := Option.map_eq_some_iff.mp hfrom
  obtain ⟨r', hr', hawaiting⟩ := Option.map_eq_some_iff.mp hto
  have hdeclared := (hall s hreach c hc p hp).steps _ r r' hr hr' (by simp [hpending, hawaiting])
  simp [hpending, hawaiting, stepTransitions, e71StepTransitions, e72StepTransitions,
    e73StepTransitions] at hdeclared

end PiaOs
