import PiaOs.Specs.Exports
import PiaOs.Specs.Returns

/-!
# The claim of a command

A call that claims its triple holds it until its end, so at its commit the triple was
free. A call that does not claim it meets the receipt of an earlier commit.
-/

/-! ## Granting, revoking and auditing

 -/

namespace PiaOs

open Support Transactions Repository

/-- What holds of a grant at its commit. -/
structure Granted [Runtime] (V : Db) (now : Instant) (scheduleId stepId delegationId : Uuid)
    (expired revoked : List ServiceDelegation) (d : ServiceDelegation) : Prop where
  expired : ∀ e ∈ expired, V.delegations.lookup e.id = some e ∧
    stale scheduleId stepId now e = true
  revoked : ∀ e ∈ revoked, V.delegations.lookup e.id = some e ∧
    activeFor scheduleId stepId gateScopeDispatch e = true
  delegation_id : d.id = delegationId
  delegation_scope : d.scheduleId = scheduleId ∧ d.stepId = stepId ∧ d.scope = gateScopeDispatch
  content : ∃ r, V.steps.lookup stepId = some r ∧
    d.contentSha256 = (EnvelopeContent.ofDraft scheduleId stepId r.draft).contentSha256
  valid : now < d.validUntil

/-- What holds of a revocation at its commit: the delegation was read before without a
lock, and the `UPDATE` covers whatever is active for its triple. -/
structure Revoked (V : Db) (scheduleId stepId delegationId : Uuid)
    (kept : List ServiceDelegation) : Prop where
  asked : ∃ d, V.delegations.lookup delegationId = some d ∧ d.scheduleId = scheduleId ∧
    d.stepId = stepId ∧ (d.state = .active → d ∈ kept) ∧
    ∀ e ∈ kept, activeFor scheduleId stepId d.scope e = true
  rows : ∀ e ∈ kept, V.delegations.lookup e.id = some e
  nodup : (kept.map ServiceDelegation.id).Nodup

/-- After some delegations have left ACTIVE, an active one is as it was. -/
private theorem active_of_setAll {V : Db} {kept : List ServiceDelegation} {state : DelegationState}
    (hstate : state ≠ .active) {d : ServiceDelegation}
    (hd : (applyAll Db.apply (setAll kept state) V).delegations.lookup d.id = some d)
    (hactive : d.state = .active) : V.delegations.lookup d.id = some d := by
  rw [delegations_setAll] at hd
  split at hd
  case isFalse => exact hd
  case isTrue =>
    obtain ⟨e, -, rfl⟩ := Option.map_eq_some_iff.mp hd
    exact (hstate hactive).elim

variable [Runtime] {S : Scene protocol} {past : Db} {held : List Lock} {log : List Write}
  {principal : String} {scheduleId stepId attemptId delegationId : Uuid}

namespace DelegationService

theorem yields_grant {Q : ServiceDelegation → Db → List Lock → List Write → Prop}
    {validUntil : DateTime} (hid : .identifier delegationId ∈ held)
    (hunused : (S.view log).delegations.lookup delegationId = none)
    (h : ∀ expired revoked d db held', held ⊆ held' →
      Granted (S.view log) S.now scheduleId stepId delegationId expired revoked d →
      Q d db held' (log ++ (setAll expired .expired ++ setAll revoked .revoked ++
        [.insertDelegation d]))) :
    S.Yields Q (grant principal scheduleId stepId validUntil delegationId) past held log := by
  refine yields_orRaise (ends_lockSchedule (by simp) ?_)
  rintro db v held₁ g - hheld₁ - - - _ ⟨⟩
  refine yields_orRaise (ends_lockStep (by simp) ?_)
  rintro db₂ v₂ held₂ r - hheld₂ hstep hr hschedule _ ⟨⟩
  cases gateRequirement r.draft.constraints with
  | error e => trivial
  | ok exigencia =>
    refine .bind (.pure ?_)
    refine yields_require fun _ => .bind (.orRaise (fun _ => trivial) fun validoAte _ => ?_)
    refine .bind (ends_databaseNow fun db₃ => ?_)
    refine yields_require fun hvalid => ?_
    refine .bind (yields_expireStaleDelegations fun _ expired db₄ held₄ hheld₄ hexpired => ?_)
    have hsteps : ∀ ws : List Write, (∀ w ∈ ws, w.table = .delegations) →
        (S.view (log ++ ws)).steps = (S.view log).steps := by
      intro ws hws
      rw [Scene.view_append]
      exact sameTable_applyAll (t := .steps) fun w hw => by simp [hws w hw]
    have htable : ∀ (kept : List ServiceDelegation) (state : DelegationState),
        ∀ w ∈ setAll kept state, w.table = .delegations := by
      simp [setAll, Write.table]
    refine .bind (HandoffService.yields_buildEnvelopeContent fun r' db₅ hr' _ => ?_)
    rw [hsteps _ (htable expired .expired)] at hr'
    obtain rfl := Option.some.inj (hr.symm.trans hr')
    refine .bind (yields_revokeActiveDelegations fun _ revoked db₆ held₆ hheld₆ hrevoked => ?_)
    have hheld : held ⊆ held₂ := List.Subset.trans hheld₁ hheld₂
    have hheld' : held₂ ⊆ held₆ := List.Subset.trans hheld₄ hheld₆
    have hnone : (S.view (log ++ setAll expired .expired ++
        setAll revoked .revoked)).delegations.lookup delegationId = none := by
      rw [Scene.view_append, Scene.view_append, orchestration_apply, delegations_setAll,
        delegations_setAll, hunused]
      simp
    refine yields_createDelegation (hheld' (hheld hid)) (hheld' hstep) hnone
      ⟨r, ?_, hschedule⟩ ?_
    · rw [List.append_assoc, hsteps]
      · exact hr
      · intro w hw
        rcases List.mem_append.mp hw with hw | hw
        · exact htable _ _ w hw
        · exact htable _ _ w hw
    · rintro db₇ held₇ d hheld₇ rfl
      rw [List.append_assoc, List.append_assoc, ← List.append_assoc (setAll expired _)]
      refine h expired revoked _ db₇ held₇
        (List.Subset.trans hheld (List.Subset.trans hheld' hheld₇)) ?_
      exact {
        expired := hexpired.rows
        revoked := fun e he => by
          obtain ⟨hlookup, hactive⟩ := hrevoked.rows e he
          rw [Scene.view_append, orchestration_apply] at hlookup
          exact ⟨active_of_setAll (by simp) hlookup (activeFor_iff.mp hactive).2.2.2, hactive⟩
        delegation_id := rfl
        delegation_scope := ⟨rfl, rfl, rfl⟩
        content := ⟨r, hr, rfl⟩
        valid := by simpa using hvalid }

/-- The delegation that was asked for is among the revoked ones if it is still active. -/
theorem yields_revoke {Q : ServiceDelegation → Db → List Lock → List Write → Prop}
    (hlog : ∀ w ∈ log, w.table ≠ .delegations)
    (h : ∀ out kept db held', held ⊆ held' →
      Revoked (S.view log) scheduleId stepId delegationId kept →
      Q out db held' (log ++ setAll kept .revoked)) :
    S.Yields Q (revoke principal scheduleId stepId delegationId) past held log := by
  refine yields_orRaise (ends_read fun _ db v hfinds _ d hd => ?_)
  refine yields_require fun hstep => yields_require fun hactive => ?_
  obtain ⟨hlookup, hschedule, -⟩ := delegationOf_eq_some.mp hd
  obtain rfl : d.stepId = stepId := by simpa using hstep
  obtain ⟨d', hd', hchange⟩ := hfinds.later.delegations.stays hlookup
  have hpast : (db.delegations.lookup delegationId).isSome := by
    rw [← show v.delegations = db.delegations from hfinds.eq ▸
      sameTable_applyAll (t := .delegations) hlog, hlookup]
    rfl
  refine .bind (yields_revokeActiveDelegations fun _ kept db₂ held₂ hheld₂ hkept => ?_)
  refine .bind (ends_read fun _ db₃ _ _ _ => ?_)
  refine .orRaise (fun _ => trivial) fun out _ => ?_
  refine h out kept db₃ held₂ hheld₂ ⟨⟨d', hd', hchange.scheduleId.trans hschedule,
    hchange.stepId, fun hactive' => ?_, fun e he => ?_⟩, fun e he => (hkept.rows e he).1, hkept.nodup⟩
  · refine hkept.complete delegationId d' hd' (activeFor_iff.mpr ?_) hpast
    exact ⟨hchange.scheduleId.trans hschedule, hchange.stepId, hchange.scope, hactive'⟩
  · rw [hchange.scope]
    exact (hkept.rows e he).2

end DelegationService

namespace AuditService

theorem yields_issue {Q : AuditOpinion → Db → List Lock → List Write → Prop}
    {opinion : AuditOpinionKind} {reasons : List String} {auditor : String} {opinionId : Uuid}
    (hid : .identifier opinionId ∈ held)
    (hunused : (S.view log).opinions.lookup opinionId = none)
    (h : ∀ o db held', held ⊆ held' → o.id = opinionId →
      Q o db held' (log ++ [.insertOpinion o])) :
    S.Yields Q (issue principal scheduleId attemptId opinion reasons auditor opinionId) past held
      log := by
  refine yields_require fun _ => ?_
  cases admittedReasons opinion reasons with
  | error texto => trivial
  | ok codigos =>
    refine .bind (.pure ?_)
    refine yields_orRaise (ends_read fun _ db _ _ _ resultado _ => ?_)
    refine .bind (ends_databaseNow fun db' => ?_)
    refine yields_createAuditOpinion hid hunused ?_
    rintro o db'' held' hheld rfl
    exact h _ db'' held' hheld rfl

end AuditService

end PiaOs

/-! ## The claim of a command -/

namespace PiaOs

open Support Transactions Repository

namespace CommandReceiptService

/-- A call that fails although its triple is taken fails for its fingerprint. -/
def Refused (V : Db) (triple : CommandTriple) (requestSha256 : String) (e : Failure) : Prop :=
  ∀ r, V.receipts.lookup triple = some r →
    r.requestSha256 ≠ some requestSha256 ∧ e = conflict triple.operation

variable {triple : CommandTriple} {proposed : Uuid} {requestSha256 : String}

theorem ends_requireTriple [Runtime] {S : Scene protocol} {past : Db} {held : List Lock}
    {log : List Write} {Q : Unit → Db → List Lock → List Write → Prop}
    {E : Failure → List Write → Prop} (herr : ∀ e, ¬ triple.Admitted → E e log)
    (h : triple.Admitted → Q () past held log) :
    S.Ends Q E (requireTriple triple) past held log := by
  refine .bind (.require (fun hc => herr _ ?_) fun h1 => ?_)
  · intro hadmitted
    simp [hadmitted.principal_named] at hc
  refine .bind (.require (fun hc => herr _ ?_) fun h2 => ?_)
  · intro hadmitted
    simp [hadmitted.principal_length] at hc
  refine .bind (.require (fun hc => herr _ ?_) fun h3 => ?_)
  · intro hadmitted
    simp [hadmitted.key_named] at hc
  refine .require (fun hc => herr _ ?_) fun h4 => ?_
  · intro hadmitted
    simp [hadmitted.key_length] at hc
  exact h ⟨by simpa using h1, by simpa using h2, by simpa using h3, by simpa using h4⟩

variable [Runtime] {S : Scene protocol} {past : Db} {held : List Lock} {log : List Write}

/-- The rule of every idempotent operation. -/
theorem ends_executarUmaVez {α : Type}
    {Q : CommandOutcome × Option α → Db → List Lock → List Write → Prop} {efeito : Action α}
    (hwf : Wellformed (S.view log))
    (hran : ∀ r db held', held ⊆ held' → r.triple = triple → r.outcomeRef = proposed →
      r.requestSha256 = some requestSha256 → Later [] past db →
      (S.view log).receipts.lookup triple = none →
      S.Yields (fun a => Q (⟨r.id, r.triple.technicalPrincipalRef, triple.operation,
        r.triple.commandKey, r.outcomeRef, false⟩, some a)) efeito db held'
        (log ++ [.insertReceipt r]))
    (hreplay : ∀ r db held', held ⊆ held' → (S.view log).receipts.lookup triple = some r →
      r.requestSha256 = some requestSha256 →
      Q (⟨r.id, r.triple.technicalPrincipalRef, triple.operation, r.triple.commandKey,
        r.outcomeRef, true⟩, none) db held' log) :
    S.Ends Q (fun e _ => Refused (S.view log) triple requestSha256 e)
      (executarUmaVez triple proposed requestSha256 efeito) past held log := by
  refine .bind (ends_requireTriple (fun e hnot r hr => ?_) fun hadmitted => ?_)
  · obtain ⟨rfl, hadmitted⟩ := hwf.receipts_key triple r hr
    exact (hnot hadmitted).elim
  refine .bind (ends_claimCommand hadmitted ?_ ?_)
  · intro r db held' hheld htriple houtcome hsha hpast hnone
    refine .bind (.require (by simp) fun _ => ?_)
    simp only [if_true]
    refine .bind (.bind ((hran r db held' hheld htriple houtcome hsha hpast hnone).mono ?_ ?_))
    · exact fun a past' held'' log' hQ => hQ
    · intro e _ _ r' hr'
      rw [hnone] at hr'
      simp at hr'
  · intro r db held' hheld hr htriple
    refine .bind (.require (fun hc r' hr' => ?_) fun hc => ?_)
    · obtain rfl := Option.some.inj (hr.symm.trans hr')
      exact ⟨by simpa using hc, rfl⟩
    · simp only [Bool.false_eq_true, if_false]
      exact .bind (.pure (hreplay r db held' hheld hr (by simpa using hc)))

end CommandReceiptService

end PiaOs
