import PiaOs.Runs.Traces

/-!
# The life of a delegation

A revocation updates whatever is active for the triple of its delegation. It revokes
exactly that delegation when the delegation is still active at the commit, and otherwise
not at all.
-/

namespace PiaOs

open Support Transactions Repository

/-- The delegation of a revocation that ran. -/
def revocation (c : Commit) : Option Uuid :=
  match c.request with
  | .revokeDelegationOnce _ _ _ delegationId => if c.log.isEmpty then none else some delegationId
  | _ => none

/-- The commit changes this delegation and no other, and leaves it revoked. -/
structure RevokesExactly (c : Commit) (delegationId : Uuid) : Prop where
  changed : ∀ k, (after c).delegations.lookup k ≠ c.before.delegations.lookup k ↔ k = delegationId
  revoked : ∃ d, (after c).delegations.lookup delegationId = some d ∧ d.state = .revoked

/-- The delegation is active in this store. -/
def ActiveIn (db : Db) (delegationId : Uuid) : Prop :=
  ∃ d, db.delegations.lookup delegationId = some d ∧ d.state = .active

/-- What holds of the delegations in every state of a run. -/
structure DelegationLifecycle (s : Orchestration) : Prop where
  single_active : ∀ k k' d d', s.store.delegations.lookup k = some d →
    s.store.delegations.lookup k' = some d' → d.scheduleId = d'.scheduleId →
    d.stepId = d'.stepId → d.scope = d'.scope → d.state = .active → d'.state = .active → k = k'
  frozen : ∀ c ∈ s.history, ∀ k d, c.before.delegations.lookup k = some d → d.state ≠ .active →
    s.store.delegations.lookup k = some d
  consumption : ∀ k d, s.store.delegations.lookup k = some d →
    (d.state = .consumed ↔ d.consumedAt.isSome ∧ d.consumedByAttemptId.isSome)
  exact : ∀ c ∈ s.history, ∀ delegationId ∈ revocation c, RevokesExactly c delegationId

section SetAll

variable {V : Db} {kept : List ServiceDelegation}

/-- Revoking some active delegations changes exactly these. -/
theorem changed_setAll (hrows : ∀ e ∈ kept, V.delegations.lookup e.id = some e ∧ e.state = .active)
    (k : Uuid) :
    (applyAll Db.apply (setAll kept .revoked) V).delegations.lookup k ≠ V.delegations.lookup k ↔
      k ∈ kept.map ServiceDelegation.id := by
  rw [delegations_setAll]
  split
  case isFalse hk => simp [hk]
  case isTrue hk =>
    obtain ⟨e, he, rfl⟩ := List.mem_map.mp hk
    obtain ⟨hlookup, hactive⟩ := hrows e he
    refine iff_of_true (fun heq => ?_) hk
    rw [hlookup, Option.map_some] at heq
    have hstate := congrArg ServiceDelegation.state (Option.some.inj heq)
    simp [hactive] at hstate

end SetAll

section Runs

variable [Runtime] {s : Orchestration} {c : Commit}

/-- A revocation that ran writes its receipt and then revokes. -/
theorem revoked_of_sound (hsound : c.Sound protocol contract) {delegationId : Uuid}
    (hc : delegationId ∈ revocation c) :
    ∃ scheduleId stepId kept, Revoked c.before scheduleId stepId delegationId kept ∧
      ∀ k, (after c).delegations.lookup k =
        (applyAll Db.apply (setAll kept .revoked) c.before).delegations.lookup k := by
  have hended : Ended c.began c.before c.now c.request c.answer c.log := hsound.commits
  simp only [revocation] at hc
  split at hc
  case h_2 => simp at hc
  case h_1 caller scheduleId stepId d hrequest =>
    split at hc
    case isTrue => simp at hc
    case isFalse hlog =>
      obtain rfl : d = delegationId := by simpa using hc
      rw [hrequest] at hended
      generalize hws : c.log = ws at hended hlog
      cases hended with
      | claimed _ _ _ hclaimed =>
        cases hclaimed with
        | replay => simp at hlog
        | ran _ _ r ws _ _ _ _ _ heffect =>
          obtain ⟨kept, hrevoked, rfl⟩ := heffect
          -- The receipt leaves the delegations alone.
          refine ⟨scheduleId, stepId, kept, ⟨hrevoked.asked, hrevoked.rows, hrevoked.nodup⟩,
            fun k => ?_⟩
          rw [after, hws, applyAll_cons, delegations_setAll, delegations_setAll]
          rfl

/-- A revocation revokes exactly its delegation if that is active at the commit, and
otherwise not. -/
theorem revokesExactly_iff (hsound : c.Sound protocol contract) {delegationId : Uuid}
    (hc : delegationId ∈ revocation c) :
    RevokesExactly c delegationId ↔ ActiveIn c.before delegationId := by
  obtain ⟨scheduleId, stepId, kept, hrevoked, hafter⟩ := revoked_of_sound hsound hc
  obtain ⟨d, hd, hschedule, hstep, hkept, hactive⟩ := hrevoked.asked
  have hwf : Wellformed c.before := wellformed_of_evolve hsound.origin_before
  have hrows : ∀ e ∈ kept, c.before.delegations.lookup e.id = some e ∧ e.state = .active :=
    fun e he => ⟨hrevoked.rows e he, (activeFor_iff.mp (hactive e he)).2.2.2⟩
  constructor
  · intro hexact
    have hchanged := (hexact.changed delegationId).mpr rfl
    rw [hafter, changed_setAll hrows] at hchanged
    obtain ⟨e, he, rfl⟩ := List.mem_map.mp hchanged
    exact ⟨e, hrows e he⟩
  · rintro ⟨d', hd', hstate⟩
    obtain rfl := Option.some.inj (hd.symm.trans hd')
    have hmem := hkept hstate
    have hid := hwf.delegations_id delegationId d hd
    -- Nothing else is active for the same Schedule, step and scope.
    have hsole : ∀ e ∈ kept, e.id = delegationId := by
      intro e he
      obtain ⟨heschedule, hestep, hescope, hestate⟩ := activeFor_iff.mp (hactive e he)
      exact hwf.single_active e.id delegationId e d (hrows e he).1 hd
        (heschedule.trans hschedule.symm) (hestep.trans hstep.symm) hescope hestate hstate
    refine ⟨fun k => ?_, { d with state := .revoked }, ?_, rfl⟩
    · rw [hafter, changed_setAll hrows]
      constructor
      · rintro hk
        obtain ⟨e, he, rfl⟩ := List.mem_map.mp hk
        exact hsole e he
      · rintro rfl
        exact List.mem_map.mpr ⟨d, hmem, hid⟩
    · rw [hafter, delegations_setAll, if_pos (List.mem_map.mpr ⟨d, hmem, hid⟩), hd]
      rfl

theorem frozen_store (h : Reachable s) (hc : c ∈ s.history) {k : Uuid} {d : ServiceDelegation}
    (hd : c.before.delegations.lookup k = some d) (hstate : d.state ≠ .active) :
    s.store.delegations.lookup k = some d := by
  obtain ⟨hafter, hstore⟩ := later_store h hc
  obtain ⟨d', hd', hchange⟩ := (hafter.trans hstore).delegations.stays hd
  rw [hd', hchange.spent hstate]

/-- The life of the delegations in a run is as it should be if and only if every
revocation still finds its delegation active at its commit. -/
theorem delegation_lifecycle (h : Reachable s) : DelegationLifecycle s ↔
    ∀ c ∈ s.history, ∀ delegationId ∈ revocation c, ActiveIn c.before delegationId := by
  have hexact : ∀ c ∈ s.history, ∀ id ∈ revocation c,
      (RevokesExactly c id ↔ ActiveIn c.before id) :=
    fun c hc id hid => revokesExactly_iff ((commits_of_reachable h).sound hc) hid
  have hwf := wellformed_store h
  constructor
  · exact fun hlife c hc id hid => (hexact c hc id hid).mp (hlife.exact c hc id hid)
  · intro hactive
    exact {
      single_active := hwf.single_active
      frozen := fun c hc k d hd hstate => frozen_store h hc hd hstate
      consumption := fun k d hd => by
        obtain ⟨hstate, hat, hby⟩ | ⟨hstate, hat, hby⟩ := hwf.consumption k d hd
        · exact iff_of_true hstate ⟨hat, hby⟩
        · exact iff_of_false hstate (by simp [hat])
      exact := fun c hc id hid => (hexact c hc id hid).mpr (hactive c hc id hid) }

end Runs

/-- The delegation is revoked alone. -/
def revokedAlone : List (Label Request) :=
  granted ++ alone 2 (.revokeDelegationOnce (Sample.caller "c") ⟨1⟩ ⟨5⟩ ⟨20⟩) 2 40 7

theorem delegation_lifecycle_revokedAlone : ∃ s : Orchestration, Reachable s ∧
    s.history.filterMap revocation = [⟨20⟩] ∧ DelegationLifecycle s := by
  obtain ⟨s, hreach, htest⟩ := exists_reachable revokedAlone (fun s => decide
    (s.history.filterMap revocation = [⟨20⟩] ∧ ∀ c ∈ s.history, ∀ id ∈ revocation c,
      ∃ d ∈ c.before.delegations.lookup id, d.state = .active)) (by decide +kernel)
  obtain ⟨hrevoked, hactive⟩ := of_decide_eq_true htest
  exact ⟨s, hreach, hrevoked, (delegation_lifecycle hreach).mpr hactive⟩

/-- Between the read and the update of the revocation another grant takes the place of the
delegation. -/
def revokedTooLate : List (Label Request) :=
  granted ++
    .begin (.revokeDelegationOnce (Sample.caller "c") ⟨1⟩ ⟨5⟩ ⟨20⟩) 2 ::
      [.exec 2 40, .exec 2 41, .exec 2 42] ++
    alone 3 (.grantDelegationOnce (Sample.caller "d") ⟨1⟩ ⟨5⟩ Sample.deadline) 2 60 16 ++
    [.exec 2 90, .exec 2 91, .exec 2 92, .exec 2 93, .commit 2]

theorem revoked_another : ¬ ∀ s : Orchestration, Reachable s → DelegationLifecycle s := by
  intro hall
  obtain ⟨s, hreach, htest⟩ := exists_reachable revokedTooLate (fun s => decide
    (∃ c ∈ s.history, ∃ id ∈ revocation c,
      ¬ ∃ d ∈ c.before.delegations.lookup id, d.state = .active)) (by decide +kernel)
  obtain ⟨c, hc, id, hid, hinactive⟩ := of_decide_eq_true htest
  have hexact := (hall s hreach).exact c hc id hid
  exact hinactive ((revokesExactly_iff ((commits_of_reachable hreach).sound hc) hid).mp hexact)

end PiaOs
