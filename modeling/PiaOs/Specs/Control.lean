import PiaOs.Specs.Records

/-!
# Cooperative control

A cancellation reads the steps under the lock of the Schedule, so it finds every
step that has not returned, and it closes every open attempt except those opened
under a step that had already returned.
-/

namespace PiaOs

open Support Transactions Repository

/-- The writes of a cancellation before that of the Schedule itself. -/
def cancelWrites (steps attempts : List Uuid) : List Write :=
  steps.map (fun id => .setStepState id .cancelled) ++
    attempts.map fun id => .setAttemptState id .closedCancelled

/-- What a cancellation covers, as the store is at its commit. -/
structure Cancelled (V : Db) (scheduleId : Uuid) (steps attempts : List Uuid) : Prop where
  steps_nodup : steps.Nodup
  attempts_nodup : attempts.Nodup
  mem_steps : ∀ k, k ∈ steps ↔ ∃ r, V.steps.lookup k = some r ∧ r.scheduleId = scheduleId ∧
    (r.state = .pending ∨ r.state = .awaitingReturn)
  rest : ∀ k r, V.steps.lookup k = some r → r.scheduleId = scheduleId → k ∉ steps →
    r.state = .returned ∨ r.state = .cancelled
  attempts_open : ∀ k ∈ attempts, ∃ a, V.attempts.lookup k = some a ∧ a.scheduleId = scheduleId ∧
    a.state = .open
  attempts_all : ∀ k a, V.attempts.lookup k = some a → a.scheduleId = scheduleId →
    a.state = .open → k ∈ attempts ∨ a.stepId ∉ steps

theorem ControlService.acaoDestino_ne_completed {action : String} (h : acaoDestino action = some .completed) :
    False := by
  unfold acaoDestino at h
  split at h <;> simp at h

section CancelWrites

variable {V : Db} {scheduleId : Uuid} {steps attempts : List Uuid}

theorem cancelWrites_table {w : Write} (hw : w ∈ cancelWrites steps attempts) :
    w.table = .steps ∨ w.table = .attempts := by
  simp only [cancelWrites, List.mem_append, List.mem_map] at hw
  rcases hw with ⟨_, _, rfl⟩ | ⟨_, _, rfl⟩
  · exact .inl rfl
  · exact .inr rfl

theorem cancelWrites_sameTable {t : TableName} (hsteps : t ≠ .steps) (hattempts : t ≠ .attempts) :
    SameTable t (applyAll Db.apply (cancelWrites steps attempts) V) V := by
  refine sameTable_applyAll fun w hw => ?_
  rcases cancelWrites_table hw with heq | heq
  · exact heq ▸ hsteps.symm
  · exact heq ▸ hattempts.symm

theorem cancelWrites_steps (k : Uuid) :
    (applyAll Db.apply (cancelWrites steps attempts) V).steps.lookup k =
      if k ∈ steps then (V.steps.lookup k).map fun r => { r with state := .cancelled }
      else V.steps.lookup k := by
  have hsame : SameTable .steps (applyAll Db.apply (cancelWrites steps attempts) V)
      (applyAll Db.apply (steps.map fun id => .setStepState id .cancelled) V) := by
    rw [cancelWrites, applyAll_append]
    exact sameTable_applyAll (by simp [Write.table])
  rw [show (applyAll Db.apply (cancelWrites steps attempts) V).steps = _ from hsame, steps_setAll]

theorem cancelWrites_attempts (k : Uuid) :
    (applyAll Db.apply (cancelWrites steps attempts) V).attempts.lookup k =
      if k ∈ attempts then (V.attempts.lookup k).map fun a => { a with state := .closedCancelled }
      else V.attempts.lookup k := by
  have hsame : SameTable .attempts
      (applyAll Db.apply (steps.map fun id => .setStepState id .cancelled) V) V :=
    sameTable_applyAll (by simp [Write.table])
  rw [cancelWrites, applyAll_append, attempts_setAll,
    show (applyAll Db.apply (steps.map _) V).attempts = _ from hsame]

/-- After the writes of a cancellation every step has returned or is cancelled. -/
theorem Cancelled.done (h : Cancelled V scheduleId steps attempts) (k : Uuid) (r : ScheduleStep)
    (hr : (applyAll Db.apply (cancelWrites steps attempts) V).steps.lookup k = some r)
    (hschedule : r.scheduleId = scheduleId) : r.state = .returned ∨ r.state = .cancelled := by
  rw [cancelWrites_steps] at hr
  split at hr
  case isTrue =>
    obtain ⟨r₀, -, rfl⟩ := Option.map_eq_some_iff.mp hr
    exact .inr rfl
  case isFalse hk => exact h.rest k r hr hschedule hk

end CancelWrites

variable [Runtime] {S : Scene protocol} {past : Db} {held : List Lock} {log : List Write}
  {principal : String} {scheduleId stepId : Uuid}

/-- Under the lock of the Schedule a step is found as it is at the commit, but for a
move to `AWAITING_RETURN`. -/
theorem step_of_locked {db v : Db} {k : Uuid} {r : ScheduleStep}
    (hfinds : Finds S past held log db v) (hlock : .schedule scheduleId ∈ held)
    (hr : (S.view log).steps.lookup k = some r) (hschedule : r.scheduleId = scheduleId) :
    ∃ r₀, v.steps.lookup k = some r₀ ∧ StepChange held r₀ r ∧
      (r.state = r₀.state ∨ r.state = .awaitingReturn ∧
        r₀.state ∈ [StepState.pending, .dispatched, .awaitingReturn]) := by
  obtain ⟨r₀, hr₀, hchange⟩ | ⟨-, -, -, hfree⟩ := hfinds.later.steps.origin hr
  · exact ⟨r₀, hr₀, hchange, hchange.locked (by rwa [← hchange.scheduleId, hschedule])⟩
  · exact (hfree (hschedule ▸ hlock)).elim

/-- No transaction commits a step in a state between two writes of an export. -/
theorem settled_view (hfinal : Settled S.final) (hlog : ∀ w ∈ log, w.table ≠ .steps) {k : Uuid}
    {r : ScheduleStep} (hr : (S.view log).steps.lookup k = some r) :
    r.state ∈ [StepState.pending, .awaitingReturn, .returned, .cancelled] := by
  refine hfinal.steps k r ?_
  rw [← show (S.view log).steps = S.final.steps from sameTable_applyAll (t := .steps) hlog]
  exact hr

namespace ControlService

/-- The steps that a cancellation finds are those that have not returned at its commit. -/
theorem cancelled_steps {db v : Db} {g : Schedule} (hfinds : Finds S past held log db v)
    (hlock : .schedule scheduleId ∈ held)
    (hg : (S.view log).schedules.lookup scheduleId = some g)
    (hprincipal : g.controlPrincipalRef = principal) (hlog : ∀ w ∈ log, w.table ≠ .steps)
    (k : Uuid) :
    k ∈ ((v.stepsOf principal scheduleId).filter fun e =>
      [StepState.pending, .awaitingReturn].contains e.state).map ScheduleStep.id ↔
      ∃ r, (S.view log).steps.lookup k = some r ∧ r.scheduleId = scheduleId ∧
        (r.state = .pending ∨ r.state = .awaitingReturn) := by
  have howned : v.owned principal scheduleId = true :=
    owned_iff.mpr ⟨g, (hfinds.later.schedules.locked_eq hlock).trans hg, hprincipal⟩
  have hsettled : ∀ {r}, v.steps.lookup k = some r →
      r.state ∈ [StepState.pending, .awaitingReturn, .returned, .cancelled] := by
    intro r hr
    refine hfinds.settled.steps k r ?_
    rw [← show v.steps = db.steps from hfinds.eq ▸ sameTable_applyAll (t := .steps) hlog]
    exact hr
  simp only [List.mem_map, List.mem_filter, mem_stepsOf, howned, and_true, List.contains_iff_mem,
    List.mem_cons, List.not_mem_nil, or_false]
  constructor
  · rintro ⟨r, ⟨⟨⟨k', hk'⟩, hschedule⟩, hstate⟩, rfl⟩
    obtain rfl := hfinds.wf.steps_id k' r hk'
    obtain ⟨r', hr', hchange⟩ := hfinds.later.steps.stays hk'
    refine ⟨r', hr', hchange.scheduleId.trans hschedule, ?_⟩
    rcases hchange.locked (hschedule ▸ hlock) with heq | ⟨hawaiting, -⟩
    · exact heq ▸ hstate
    · exact .inr hawaiting
  · rintro ⟨r, hr, hschedule, hstate⟩
    obtain ⟨r₀, hr₀, hchange, hfrom⟩ := step_of_locked hfinds hlock hr hschedule
    refine ⟨r₀, ⟨⟨⟨k, hr₀⟩, hchange.scheduleId ▸ hschedule⟩, ?_⟩, hfinds.wf.steps_id k r₀ hr₀⟩
    rcases hfrom with heq | ⟨-, hfrom⟩
    · exact heq ▸ hstate
    · have := hsettled hr₀
      revert hfrom this
      cases r₀.state <;> simp

/-- Writing the steps one after the other. -/
theorem yields_cancelSteps {Q : Unit → Db → List Lock → List Write → Prop}
    {etapas : List ScheduleStep} (hlock : .schedule scheduleId ∈ held)
    (hnodup : (etapas.map ScheduleStep.id).Nodup)
    (hschedule : ∃ g, (S.view log).schedules.lookup scheduleId = some g ∧ g.state ≠ .draft)
    (hsteps : ∀ k ∈ etapas.map ScheduleStep.id, ∃ r, (S.view log).steps.lookup k = some r ∧
      (r.state = .pending ∨ r.state = .awaitingReturn))
    (h : ∀ db held', held ⊆ held' → (∀ k ∈ etapas.map ScheduleStep.id, .step k ∈ held') →
      Q () db held' (log ++ (etapas.map ScheduleStep.id).map fun id =>
        .setStepState id .cancelled)) :
    S.Yields Q (Prog.each (fun e => setStepState principal scheduleId e.id .cancelled) etapas)
      past held log := by
  refine .each (fun handled _ held' log' => held ⊆ held' ∧
    (∀ k ∈ handled.map ScheduleStep.id, .step k ∈ held') ∧
    log' = log ++ (handled.map ScheduleStep.id).map fun id => .setStepState id .cancelled)
    ⟨List.Subset.refl _, by simp, by simp⟩ ?_ ?_
  · rintro handled e rest past' held' _ hsplit ⟨hheld, hlocks, rfl⟩
    have hnew : e.id ∉ handled.map ScheduleStep.id := by
      intro hin
      rw [hsplit, List.map_append, List.nodup_append] at hnodup
      exact hnodup.2.2 e.id hin e.id (by simp) rfl
    refine yields_setStepState (.inr (hheld hlock)) fun db held'' r hheld' hstep hr hscheduleId => ?_
    have hV : (S.view log).steps.lookup e.id = some r := by
      rw [Scene.view_append, orchestration_apply, steps_setAll, if_neg hnew] at hr
      exact hr
    obtain ⟨r', hr', hstate⟩ := hsteps e.id (by simp [hsplit])
    obtain rfl := Option.some.inj (hV.symm.trans hr')
    obtain ⟨g, hg, hdraft⟩ := hschedule
    refine ⟨⟨r, g, hr, ?_, hdraft, ?_⟩, List.Subset.trans hheld hheld', ?_, by simp⟩
    · have hsame : SameTable .schedules (applyAll Db.apply ((handled.map ScheduleStep.id).map
          fun id => .setStepState id .cancelled) (S.view log)) (S.view log) :=
        sameTable_applyAll (by simp [Write.table])
      rw [Scene.view_append, orchestration_apply, hscheduleId,
        show (applyAll Db.apply _ _).schedules = _ from hsame]
      exact hg
    · rcases hstate with heq | heq <;> simp [heq, stepWrites, e72StepTransitions, e73StepTransitions]
    · intro k hk
      simp only [List.map_append, List.map_cons, List.map_nil, List.mem_append,
        List.mem_singleton] at hk
      rcases hk with hk | rfl
      · exact hheld' (hlocks k hk)
      · exact hstep
  · rintro past' held' _ ⟨hheld, hlocks, rfl⟩
    exact h past' held' hheld hlocks

/-- Closing the attempts one after the other. -/
theorem yields_closeAttempts {Q : Unit → Db → List Lock → List Write → Prop}
    {abertas : List HandoffAttempt} (hlock : .schedule scheduleId ∈ held)
    (hnodup : (abertas.map HandoffAttempt.id).Nodup)
    (hopen : ∀ k ∈ abertas.map HandoffAttempt.id, ∃ a, (S.view log).attempts.lookup k = some a ∧
      a.state = .open)
    (h : ∀ db held', held ⊆ held' → Q () db held'
      (log ++ (abertas.map HandoffAttempt.id).map fun id => .setAttemptState id .closedCancelled)) :
    S.Yields Q (Prog.each
      (fun a => setAttemptState principal scheduleId a.id .closedCancelled) abertas)
      past held log := by
  refine .each (fun handled _ held' log' => held ⊆ held' ∧
    log' = log ++ (handled.map HandoffAttempt.id).map fun id =>
      .setAttemptState id .closedCancelled)
    ⟨List.Subset.refl _, by simp⟩ ?_ ?_
  · rintro handled c rest past' held' _ hsplit ⟨hheld, rfl⟩
    have hnew : c.id ∉ handled.map HandoffAttempt.id := by
      intro hin
      rw [hsplit, List.map_append, List.nodup_append] at hnodup
      exact hnodup.2.2 c.id hin c.id (by simp) rfl
    refine yields_setAttemptState (hheld hlock) fun db held'' a hheld' _ ha _ => ?_
    have hV : (S.view log).attempts.lookup c.id = some a := by
      rw [Scene.view_append, orchestration_apply, attempts_setAll, if_neg hnew] at ha
      exact ha
    obtain ⟨a', ha', hstate⟩ := hopen c.id (by simp [hsplit])
    obtain rfl := Option.some.inj (hV.symm.trans ha')
    exact ⟨⟨a, ha, by simp [hstate, e72AttemptTransitions, e73AttemptTransitions]⟩,
      List.Subset.trans hheld hheld', by simp⟩
  · rintro past' held' _ ⟨hheld, rfl⟩
    exact h past' held' hheld

theorem yields_cancelarConteudo {Q : Nat × Nat → Db → List Lock → List Write → Prop}
    {g : Schedule} (hlock : .schedule scheduleId ∈ held)
    (hg : (S.view log).schedules.lookup scheduleId = some g)
    (hprincipal : g.controlPrincipalRef = principal) (hdraft : g.state ≠ .draft)
    (hlog : ∀ w ∈ log, w.table ≠ .steps ∧ w.table ≠ .attempts)
    (h : ∀ steps attempts db held', held ⊆ held' →
      Cancelled (S.view log) scheduleId steps attempts →
      Q (steps.length, attempts.length) db held' (log ++ cancelWrites steps attempts)) :
    S.Yields Q (cancelarConteudo principal scheduleId) past held log := by
  have hlogSteps : ∀ w ∈ log, w.table ≠ .steps := fun w hw => (hlog w hw).1
  refine .bind (ends_read fun _ db v hfinds _ => ?_)
  have hmem := cancelled_steps hfinds hlock hg hprincipal hlogSteps
  have hnodup : (((v.stepsOf principal scheduleId).filter fun e =>
      [StepState.pending, .awaitingReturn].contains e.state).map ScheduleStep.id).Nodup :=
    Table.select_ids_nodup hfinds.wf.steps_id
  generalize (v.stepsOf principal scheduleId).filter _ = canceladas at hmem hnodup ⊢
  refine .bind (yields_cancelSteps hlock hnodup ⟨g, hg, hdraft⟩ (fun k hk => ?_) ?_)
  · obtain ⟨r, hr, -, hstate⟩ := (hmem k).mp hk
    exact ⟨r, hr, hstate⟩
  intro db₁ held₁ hheld₁ hlocks
  have hview : ∀ t, t ≠ .steps → SameTable t (S.view (log ++
      (canceladas.map ScheduleStep.id).map fun id => .setStepState id .cancelled))
      (S.view log) := by
    intro t ht
    rw [Scene.view_append]
    exact sameTable_applyAll (by simpa [Write.table] using fun _ _ => Ne.symm ht)
  have hattempts : (S.view (log ++ (canceladas.map ScheduleStep.id).map fun id =>
      .setStepState id .cancelled)).attempts = (S.view log).attempts := hview .attempts (by simp)
  refine .bind (yields_listOpenAttempts (hheld₁ hlock) ?_ hprincipal ?_)
  · rw [show (S.view (log ++ _)).schedules = _ from hview .schedules (by simp)]
    exact hg
  intro fechadas db₂ held₂ hheld₂ hkeptNodup hkept hall
  rw [hattempts] at hkept hall
  refine .bind (yields_closeAttempts (hheld₂ (hheld₁ hlock)) hkeptNodup (fun k hk => ?_) ?_)
  · obtain ⟨a, ha, rfl⟩ := List.mem_map.mp hk
    rw [hattempts]
    exact ⟨a, (hkept a ha).2.1, (hkept a ha).2.2.2⟩
  intro db₃ held₃ hheld₃
  have hcancelled : Cancelled (S.view log) scheduleId (canceladas.map ScheduleStep.id)
      (fechadas.map HandoffAttempt.id) := {
    steps_nodup := hnodup
    attempts_nodup := hkeptNodup
    mem_steps := hmem
    rest := by
      intro k r hr hschedule hk
      have hstate := settled_view hfinds.final_settled hlogSteps hr
      simp only [List.mem_cons, List.not_mem_nil, or_false] at hstate
      rcases hstate with heq | heq | hdone
      · exact (hk ((hmem k).mpr ⟨r, hr, hschedule, .inl heq⟩)).elim
      · exact (hk ((hmem k).mpr ⟨r, hr, hschedule, .inr heq⟩)).elim
      · exact hdone
    attempts_open := by
      intro k hk
      obtain ⟨a, ha, rfl⟩ := List.mem_map.mp hk
      exact ⟨a, (hkept a ha).2⟩
    attempts_all := by
      intro k a ha hschedule hopen
      rcases hall k a ha hschedule hopen with hin | hfree
      · exact .inl (List.mem_map.mpr ⟨a, hin, hfinds.view_wf.attempts_id k a ha⟩)
      · exact .inr fun hk => hfree (hlocks a.stepId hk) }
  have hQ := h _ _ db₃ held₃
    (List.Subset.trans hheld₁ (List.Subset.trans hheld₂ hheld₃)) hcancelled
  rw [List.length_map, List.length_map, cancelWrites, ← List.append_assoc] at hQ
  exact hQ

/-- What `apply` writes before the Schedule itself, and the counts it reports. -/
inductive Content (V : Db) (scheduleId : Uuid) : ScheduleState → Nat × Nat → List Write → Prop
  | cancel (steps attempts : List Uuid) : Cancelled V scheduleId steps attempts →
    Content V scheduleId .cancelled (steps.length, attempts.length) (cancelWrites steps attempts)
  | other (destino : ScheduleState) : destino ≠ .cancelled →
    Content V scheduleId destino (0, 0) []

theorem yields_apply {Q : ControlOutcome → Db → List Lock → List Write → Prop} {action : String}
    {eventId : Uuid} {category : Option StopConditionCategory} (hid : .identifier eventId ∈ held)
    (hunused : (S.view log).events.lookup eventId = none)
    (hlog : ∀ w ∈ log, w.table ≠ .steps ∧ w.table ≠ .attempts)
    (h : ∀ out g e destino counts ws db held', held ⊆ held' → acaoDestino action = some destino →
      (S.view log).schedules.lookup scheduleId = some g → g.controlPrincipalRef = principal →
      (g.state, destino) ∈ e73ScheduleTransitions → e.id = eventId → e.scheduleId = scheduleId →
      Content (S.view log) scheduleId destino counts ws →
      out = ⟨scheduleId, destino, e, counts.1, counts.2⟩ →
      Q out db held' (log ++ ws ++ [.setScheduleState scheduleId destino, .insertEvent e])) :
    S.Yields Q (apply principal scheduleId action eventId category) past held log := by
  refine .bind (.orRaise (fun _ => trivial) fun destino hdestino => ?_)
  refine yields_orRaise (ends_lockSchedule (by simp) ?_)
  rintro db v held₁ g - hheld₁ hlock hg hprincipal _ ⟨⟩
  refine yields_require fun htrans => ?_
  have htrans : (g.state, destino) ∈ e73ScheduleTransitions := by simpa using htrans
  have hdraft : g.state ≠ .draft := by
    intro hdraft
    simp [hdraft, e73ScheduleTransitions] at htrans
  cases motivoDe action category with
  | error e => trivial
  | ok motivo =>
    -- The rest is the same whether or not there was something to cancel.
    have hrest : ∀ (counts : Nat × Nat) (ws : List Write) (db : Db) (held₂ : List Lock),
        held₁ ⊆ held₂ → Content (S.view log) scheduleId destino counts ws →
        S.Yields Q (do
          setScheduleState principal scheduleId destino
          let agora ← databaseNow
          let evento ← createControlEvent eventId principal scheduleId none (acaoEvento destino)
            motivo category principal agora
          pure ⟨scheduleId, destino, evento, counts.1, counts.2⟩) db held₂ (log ++ ws) := by
      intro counts ws db₂ held₂ hheld₂ hcontent
      have hview : ∀ t, t ≠ .steps → t ≠ .attempts → SameTable t (S.view (log ++ ws))
          (S.view log) := by
        intro t hsteps hattempts
        rw [Scene.view_append, orchestration_apply]
        cases hcontent with
        | cancel steps attempts _ => exact cancelWrites_sameTable hsteps hattempts
        | other => exact .refl _ _
      have hg' : (S.view (log ++ ws)).schedules.lookup scheduleId = some g := by
        rw [show (S.view (log ++ ws)).schedules = _ from hview .schedules (by simp) (by simp)]
        exact hg
      refine .bind (yields_setScheduleState fun db₃ held₃ g' hheld₃ _ hg'' _ => ?_)
      obtain rfl := Option.some.inj (hg'.symm.trans hg'')
      refine ⟨⟨g, hg', List.mem_append_right _ htrans, ?_, ?_⟩, ?_⟩
      · rintro rfl
        exact (acaoDestino_ne_completed hdestino).elim
      · rintro rfl
        cases hcontent with
        | cancel steps attempts hcancelled =>
          rw [Scene.view_append, orchestration_apply]
          exact hcancelled.done
        | other _ hne => exact (hne rfl).elim
      · refine .bind (ends_databaseNow fun db₄ => ?_)
        refine .bind (yields_createControlEvent (hheld₃ (hheld₂ (hheld₁ hid))) ?_ ?_)
        · have hevents : SameTable .events (S.view (log ++ ws ++
              [.setScheduleState scheduleId destino])) (S.view (log ++ ws)) := by
            rw [Scene.view_append]
            exact sameTable_applyAll (by simp [Write.table])
          rw [show (S.view _).events = _ from
            hevents.trans (hview .events (by simp) (by simp))]
          exact hunused
        · rintro e db₅ held₄ hheld₄ rfl
          rw [List.append_assoc]
          exact h _ g _ destino counts ws db₅ held₄
            (List.Subset.trans hheld₁ (List.Subset.trans hheld₂ (List.Subset.trans hheld₃ hheld₄)))
            hdestino hg hprincipal htrans rfl rfl hcontent rfl
    refine .bind (.pure ?_)
    by_cases hcancel : destino = .cancelled
    · subst hcancel
      simp only [if_true]
      refine .bind (yields_cancelarConteudo hlock hg hprincipal hdraft hlog ?_)
      intro steps attempts db₂ held₂ hheld₂ hcancelled
      exact hrest _ _ db₂ held₂ hheld₂ (.cancel steps attempts hcancelled)
    · simp only [hcancel, if_false]
      refine .bind (.pure ?_)
      have := hrest (0, 0) [] db held₁ (List.Subset.refl _) (.other destino hcancel)
      rwa [List.append_nil] at this

/-- What the pause of a blocked gate writes. -/
inductive Pause (V : Db) (scheduleId stepId : Uuid) (reason : ControlReasonCode) :
    List Write → Prop
  | nothing : Pause V scheduleId stepId reason []
  | again (g : Schedule) (e : OrchestrationControlEvent) :
    V.schedules.lookup scheduleId = some g → g.state = .paused → e.scheduleId = scheduleId →
    Pause V scheduleId stepId reason [.insertEvent e]
  | pause (g : Schedule) (e : OrchestrationControlEvent) :
    V.schedules.lookup scheduleId = some g → g.state = .active → e.scheduleId = scheduleId →
    Pause V scheduleId stepId reason [.setScheduleState scheduleId .paused, .insertEvent e]

/-- The event of a pause, after the writes before it. -/
theorem yields_pauseEvent {Q : Option OrchestrationControlEvent → Db → List Lock → List Write → Prop}
    {reason : ControlReasonCode}
    (h : ∀ e db held', held ⊆ held' → e.scheduleId = scheduleId →
      Q (some e) db held' (log ++ [.insertEvent e])) :
    S.Yields Q (do
      let eventId ← newUuid
      let agora ← databaseNow
      let evento ← createControlEvent eventId principal scheduleId (some stepId) .paused reason none
        principal agora
      pure (some evento)) past held log := by
  refine .bind (ends_newUuid fun id db v _ hunused => ?_)
  refine .bind (ends_databaseNow fun db' => ?_)
  refine .bind (yields_createControlEvent (List.mem_append_right _ (by simp)) hunused.events ?_)
  rintro e db'' held' hsub rfl
  exact h _ db'' held' (fun l hl => hsub (List.mem_append_left _ hl)) rfl

theorem yields_registerPause
    {Q : Option OrchestrationControlEvent → Db → List Lock → List Write → Prop}
    {reason : ControlReasonCode}
    (h : ∀ o ws db held', held ⊆ held' → Pause (S.view log) scheduleId stepId reason ws →
      Q o db held' (log ++ ws)) :
    S.Yields Q (registerPause principal scheduleId stepId reason) past held log := by
  refine yields_orRaise (ends_lockSchedule (by simp) ?_)
  rintro db v held₁ g - hheld₁ hlock hg - _ ⟨⟩
  have hnothing : ∀ db, Q none db held₁ log := fun db => by
    simpa using h none [] db held₁ hheld₁ .nothing
  by_cases hpaused : g.state = .paused
  · simp only [hpaused, if_true]
    refine .bind (ends_read fun _ db' _ _ _ => .bind (.pure ?_))
    split
    · refine yields_pauseEvent fun e db'' held' hsub he => ?_
      exact h _ _ db'' held' (List.Subset.trans hheld₁ hsub) (.again g e hg hpaused he)
    · exact hnothing db'
  · simp only [hpaused, if_false]
    by_cases hactive : g.state = .active
    · simp only [hactive, if_true]
      refine .bind (yields_setScheduleState fun db' held' g' hsub _ hg' _ => ?_)
      obtain rfl := Option.some.inj (hg.symm.trans hg')
      refine ⟨⟨g, hg, by simp [hactive, e71ScheduleTransitions, e73ScheduleTransitions], by simp,
        by simp⟩, .bind (.pure ?_)⟩
      simp only [if_true]
      refine yields_pauseEvent fun e db'' held'' hsub' he => ?_
      rw [List.append_assoc]
      exact h _ _ db'' held'' (List.Subset.trans hheld₁ (List.Subset.trans hsub hsub'))
        (.pause g e hg hactive he)
    · simp only [hactive, if_false]
      exact hnothing db

/-- What the completion of a work writes: its last step has returned, or some step of an
active work has not. -/
inductive Completion (V : Db) (scheduleId : Uuid) (g : Schedule) : List Write → Prop
  | inactive : g.state ≠ .active → Completion V scheduleId g []
  | unfinished (k : Uuid) (r : ScheduleStep) : V.steps.lookup k = some r →
    r.scheduleId = scheduleId → r.state ≠ .returned → Completion V scheduleId g []
  | done (e : OrchestrationControlEvent) : g.state = .active →
    (∀ k r, V.steps.lookup k = some r → r.scheduleId = scheduleId → r.state = .returned) →
    e.scheduleId = scheduleId →
    Completion V scheduleId g [.setScheduleState scheduleId .completed, .insertEvent e]

theorem yields_completeIfAllReturned
    {Q : Option OrchestrationControlEvent → Db → List Lock → List Write → Prop} {g : Schedule}
    (hlock : .schedule scheduleId ∈ held)
    (hg : (S.view log).schedules.lookup scheduleId = some g)
    (hprincipal : g.controlPrincipalRef = principal)
    (h : ∀ o ws db held', held ⊆ held' → Completion (S.view log) scheduleId g ws →
      Q o db held' (log ++ ws)) :
    S.Yields Q (completeIfAllReturned principal scheduleId) past held log := by
  refine .bind (ends_lockSchedule ?_ ?_)
  · intro db v hfinds hnone
    have hfound : v.scheduleOf principal scheduleId = some g :=
      scheduleOf_eq_some.mpr ⟨(hfinds.later.schedules.locked_eq hlock).trans hg, hprincipal⟩
    simp [hfound] at hnone
  rintro db v held₁ g' - hheld₁ - hg' -
  obtain rfl := Option.some.inj (hg.symm.trans hg')
  have hquiet : ∀ db, Completion (S.view log) scheduleId g [] → Q none db held₁ log :=
    fun db hc => by simpa using h none [] db held₁ hheld₁ hc
  by_cases hactive : g.state = .active
  swap
  · simp only [hactive, if_false]
    exact hquiet db (.inactive hactive)
  simp only [hactive, if_true]
  refine .bind (ends_read fun _ db' v' hfinds _ => ?_)
  have howned : v'.owned principal scheduleId = true := owned_iff.mpr
    ⟨g, (hfinds.later.schedules.locked_eq (hheld₁ hlock)).trans hg, hprincipal⟩
  split
  case isFalse hsome =>
    obtain ⟨r, hr⟩ : ∃ r, r ∈ (v'.stepsOf principal scheduleId).filter fun s =>
        s.state != .returned := by
      refine List.exists_mem_of_ne_nil _ fun hnil => ?_
      simp [hnil] at hsome
    simp only [List.mem_filter, mem_stepsOf, bne_iff_ne] at hr
    obtain ⟨⟨⟨k, hk⟩, hschedule, -⟩, hstate⟩ := hr
    obtain ⟨r', hr', hchange⟩ := hfinds.later.steps.stays hk
    refine hquiet db' (.unfinished k r' hr' (hchange.scheduleId.trans hschedule) ?_)
    rcases hchange.locked (hschedule ▸ hheld₁ hlock) with heq | ⟨heq, -⟩
    · exact heq ▸ hstate
    · simp [heq]
  case isTrue hnone =>
    have hall : ∀ k r, (S.view log).steps.lookup k = some r → r.scheduleId = scheduleId →
        r.state = .returned := by
      intro k r hr hschedule
      obtain ⟨r₀, hr₀, hchange, -⟩ := step_of_locked hfinds (hheld₁ hlock) hr hschedule
      refine hchange.returned ?_
      by_contra hstate
      have hmem : r₀ ∈ (v'.stepsOf principal scheduleId).filter fun s =>
          s.state != .returned := by
        simp only [List.mem_filter, mem_stepsOf, bne_iff_ne]
        exact ⟨⟨⟨k, hr₀⟩, hchange.scheduleId ▸ hschedule, howned⟩, hstate⟩
      simp only [beq_iff_eq, List.length_eq_zero_iff] at hnone
      rw [hnone] at hmem
      simp at hmem
    refine .bind (yields_setScheduleState fun db₂ held₂ g' hheld₂ _ hg'' _ => ?_)
    obtain rfl := Option.some.inj (hg.symm.trans hg'')
    refine ⟨⟨g, hg, by simp [hactive, e71ScheduleTransitions, e73ScheduleTransitions],
      fun _ => hall, by simp⟩, ?_⟩
    refine .bind (ends_newUuid fun id db₃ v₃ _ hunused => ?_)
    refine .bind (ends_databaseNow fun db₄ => ?_)
    refine .bind (yields_createControlEvent (List.mem_append_right _ (by simp)) hunused.events ?_)
    rintro e db₅ held₅ hheld₅ rfl
    rw [List.append_assoc]
    exact h _ _ db₅ held₅ (List.Subset.trans hheld₁ (List.Subset.trans hheld₂ fun l hl =>
      hheld₅ (List.mem_append_left _ hl))) (.done _ hactive hall rfl)

end ControlService

end PiaOs
