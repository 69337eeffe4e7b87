import PiaOs.Specs.Records

/-!
# Creating, activating and sealing
-/

namespace PiaOs

open Support Transactions Repository

/-- What is known at the commit of a sealing. Nothing was locked while the Schedule and
the step were judged, so their states are known only if the caller locked them. -/
structure Sealed [Runtime] (V past : Db) (held : List Lock) (log : List Write)
    (admitted : List StepState) (principal : String) (scheduleId stepId attemptId : Uuid)
    (a : HandoffAttempt) : Prop where
  attempt_id : a.id = attemptId
  attempt_schedule : a.scheduleId = scheduleId
  attempt_step : a.stepId = stepId
  attempt_open : a.state = .open
  step : ∃ r, V.steps.lookup stepId = some r ∧ r.scheduleId = scheduleId ∧
    a.contentSha256 = (EnvelopeContent.ofDraft scheduleId stepId r.draft).contentSha256 ∧
    (.step stepId ∈ held → r.state ∈ admitted)
  schedule : ∃ g, V.schedules.lookup scheduleId = some g ∧ g.controlPrincipalRef = principal ∧
    g.state ≠ .draft ∧ (.schedule scheduleId ∈ held → g.state = .active)
  seen : ∃ db g, Later [] past db ∧
    (applyAll Db.apply log db).schedules.lookup scheduleId = some g ∧ g.state = .active
  no_open : ∀ k b, V.attempts.lookup k = some b → b.stepId = stepId → b.state ≠ .open

variable [Runtime] {S : Scene protocol} {past : Db} {held : List Lock} {log : List Write}
  {principal : String} {scheduleId stepId attemptId : Uuid}

namespace ScheduleService

theorem yields_getSchedule {Q : ScheduleView → Db → List Lock → List Write → Prop}
    (h : ∀ view db, Q view db held log) :
    S.Yields Q (getSchedule principal scheduleId) past held log := by
  refine yields_orRaise (ends_read fun _ db _ _ _ g _ => ?_)
  exact .bind (ends_read fun _ db' _ _ _ => h _ db')

theorem yields_createSchedule {Q : ScheduleView → Db → List Lock → List Write → Prop}
    {draft : ScheduleDraft} {mode : HandoffMode} (hid : .identifier scheduleId ∈ held)
    (hunused : (S.view log).schedules.lookup scheduleId = none)
    (h : ∀ view ids db held', held ⊆ held' → ids.length = draft.steps.length →
      Q view db held' (log ++ .insertSchedule ⟨scheduleId, draft.title, .draft, mode, principal⟩ ::
        (stepRows scheduleId ids draft.steps.zipIdx).map .insertStep)) :
    S.Yields Q (createSchedule scheduleId principal draft mode) past held log := by
  refine yields_require fun _ => yields_require fun _ => ?_
  refine .bind (Repository.yields_createSchedule hid hunused ?_)
  intro ids db held' hsub hlength
  exact yields_getSchedule fun view db' => h view ids db' held' hsub hlength

/-- The activation of a draft. -/
theorem yields_activate {Q : ScheduleView → Db → List Lock → List Write → Prop}
    (h : ∀ view g db held', held ⊆ held' → .schedule scheduleId ∈ held' →
      (S.view log).schedules.lookup scheduleId = some g → g.state = .draft →
      Q view db held' (log ++ [.setScheduleState scheduleId .active])) :
    S.Yields Q (activate principal scheduleId) past held log := by
  refine yields_orRaise (ends_lockSchedule (by simp) ?_)
  rintro db v held' g - hheld hlock hg - _ ⟨⟩
  refine yields_require fun hstate => ?_
  have hdraft : g.state = .draft := by
    simpa [e71ScheduleTransitions] using hstate
  refine .bind (yields_setScheduleState fun db' held'' g' hheld' hlock' hg' _ => ?_)
  obtain rfl := Option.some.inj (hg.symm.trans hg')
  refine ⟨⟨g, hg, by simp [hdraft, e71ScheduleTransitions], by simp, by simp⟩, ?_⟩
  exact yields_getSchedule fun view db'' =>
    h view g db'' held'' (List.Subset.trans hheld hheld') hlock' hg hdraft

theorem yields_advance {Q : List Nat → Db → List Lock → List Write → Prop} {position : Nat}
    (h : ∀ fresh db v, Finds S past held log db v → Db.isFresh fresh v = true →
      Q (((v.stepsOf principal scheduleId).filter fun s =>
        s.position < position && s.state != .returned).map ScheduleStep.position) db held log) :
    S.Yields Q (advance principal scheduleId position) past held log :=
  ends_read h

end ScheduleService

namespace HandoffService

/-- The content is that of the stored step, which never changes. -/
theorem yields_buildEnvelopeContent {Q : EnvelopeContent → Db → List Lock → List Write → Prop}
    (h : ∀ r db, (S.view log).steps.lookup stepId = some r → r.scheduleId = scheduleId →
      Q (EnvelopeContent.ofDraft scheduleId stepId r.draft) db held log) :
    S.Yields Q (buildEnvelopeContent principal scheduleId stepId) past held log := by
  refine yields_orRaise (ends_read fun _ db _ _ _ g _ => ?_)
  refine yields_orRaise (ends_read fun _ db' v' hfinds _ r hr => ?_)
  obtain ⟨hlookup, hschedule, -⟩ := stepOf_eq_some.mp hr
  obtain ⟨r', hr', hchange⟩ := hfinds.later.steps.stays hlookup
  have := h r' db' hr' (hchange.scheduleId.trans hschedule)
  rwa [hchange.draft] at this

/-- Sealing opens an attempt with the next number and its receipt. -/
theorem yields_sealWith {Q : SealOutcome → Db → List Lock → List Write → Prop}
    {sealerRef : String} {admitted : List StepState} (hid : .identifier attemptId ∈ held)
    (hunused : (S.view log).attempts.lookup attemptId = none)
    (h : ∀ out a s db held', held ⊆ held' → .step stepId ∈ held' → .attempt attemptId ∈ held' →
      Sealed (S.view log) past held log admitted principal scheduleId stepId attemptId a →
      out.attemptId = attemptId → s.attemptId = attemptId → out.contentSha256 = a.contentSha256 →
      Q out db held' (log ++ [.insertAttempt a, .insertSeal s])) :
    S.Yields Q (sealWith attemptId principal scheduleId stepId sealerRef admitted) past held log := by
  refine yields_orRaise (ends_read fun _ db v hfinds _ g hg => ?_)
  obtain ⟨hglookup, hprincipal⟩ := scheduleOf_eq_some.mp hg
  refine yields_require fun hactive => yields_require fun _ => ?_
  have hactive : g.state = .active := by simpa using hactive
  obtain ⟨g', hg', hgchange⟩ := hfinds.later.schedules.stays hglookup
  refine yields_orRaise (ends_read fun _ db' v' hfinds' _ r hr => ?_)
  obtain ⟨hrlookup, hschedule, -⟩ := stepOf_eq_some.mp hr
  obtain ⟨r', hr', hrchange⟩ := hfinds'.later.steps.stays hrlookup
  refine yields_require fun hadmitted => yields_require fun _ => ?_
  refine .bind (yields_nextAttemptNumber ?_)
  intro db₁ held₁ n r₁ hheld₁ hstep hr₁ hschedule₁ hpos hnumber
  obtain rfl := Option.some.inj (hr'.symm.trans hr₁)
  have hdraft : g'.state ≠ .draft := fun hdraft => by simp [hgchange.draft hdraft] at hactive
  refine .bind (yields_createAttempt (hheld₁ hid) hstep hunused hpos hnumber
    ⟨r', g', hr₁, hschedule₁, hg', hdraft⟩ ?_)
  rintro db₂ held₂ a hheld₂ hattempt rfl hopen
  refine .bind (ends_databaseNow fun db₃ => ?_)
  refine .bind (yields_createSealReceipt fun db₄ held₄ id hheld₄ => ?_)
  refine yields_require fun _ => yields_require fun _ => ?_
  rw [List.append_assoc]
  refine h _ _ _ db₄ held₄ (List.Subset.trans hheld₁ (List.Subset.trans hheld₂ hheld₄)) (hheld₄ (hheld₂ hstep))
    (hheld₄ hattempt) ?_ rfl rfl rfl
  exact {
    attempt_id := rfl
    attempt_schedule := rfl
    attempt_step := rfl
    attempt_open := rfl
    step := ⟨r', hr', hschedule₁, by rw [hrchange.draft], fun hin => by
      have heq := hfinds'.later.steps.locked_eq hin
      rw [hrlookup, hr'] at heq
      obtain rfl := Option.some.inj heq
      simpa using hadmitted⟩
    schedule := ⟨g', hg', hgchange.controlPrincipalRef.trans hprincipal, hdraft, fun hin => by
      have heq := hfinds.later.schedules.locked_eq hin
      rw [hglookup, hg'] at heq
      obtain rfl := Option.some.inj heq
      exact hactive⟩
    seen := ⟨db, g, hfinds.past, hfinds.eq ▸ hglookup, hactive⟩
    no_open := hopen }

end HandoffService

end PiaOs
