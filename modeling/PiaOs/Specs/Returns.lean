import PiaOs.Specs.Control
import PiaOs.Specs.Switches

/-!
# Importing a return
-/

namespace PiaOs

open Support Transactions Repository

/-- The rows that an import writes, besides the changes of state. -/
structure ReturnRows where
  result : HandoffResult
  attribution : HandoffAttribution
  observation : Option ExecutionObservation

/-- The writes of an import up to the change of the step. -/
def ReturnRows.writes (m : ReturnRows) (attemptId : Uuid) (accepted : Bool) : List Write :=
  [.insertResult m.result, .insertAttribution m.attribution,
    .setAttemptState attemptId (if accepted then .closedOk else .closedRejected)] ++
    (m.observation.map .insertObservation).toList

/-- What an import does to the step and, if it was the last one, to the Schedule. -/
inductive AfterImport (V : Db) (comControle : Bool) (scheduleId stepId : Uuid) (g : Schedule) :
    Bool → List Write → Prop
  | rejected : AfterImport V comControle scheduleId stepId g false []
  | alone : comControle = false →
    AfterImport V comControle scheduleId stepId g true [.setStepState stepId .returned]
  | controlled (ws : List Write) : comControle = true →
    ControlService.Completion (Db.apply (.setStepState stepId .returned) V) scheduleId g ws →
    AfterImport V comControle scheduleId stepId g true (.setStepState stepId .returned :: ws)

/-- What holds of an import at its commit. -/
structure Imported [Runtime] (V : Db) (comControle : Bool) (principal : String)
    (scheduleId stepId attemptId : Uuid) (raw : RawReturn) (m : ReturnRows) (accepted : Bool)
    (ws : List Write) : Prop where
  schedule : ∃ g, V.schedules.lookup scheduleId = some g ∧ g.controlPrincipalRef = principal ∧
    AfterImport (applyAll Db.apply (m.writes attemptId accepted) V) comControle scheduleId stepId g
      accepted ws
  step : ∃ r, V.steps.lookup stepId = some r ∧ r.scheduleId = scheduleId ∧
    r.state = .awaitingReturn ∧
    accepted = (validateOutput r.draft.expectedOutputContract raw.mediaType raw.content).accepted
  attempt : ∃ a, V.attempts.lookup attemptId = some a ∧ a.scheduleId = scheduleId ∧
    a.stepId = stepId ∧ a.state = .open
  result_attempt : m.result.attemptId = attemptId
  attribution_attempt : m.attribution.attemptId = attemptId

/-- The attribution of an import declares its provider, and a switch of provider since the last
attribution is observed. -/
structure ReturnRows.Observing (V : Db) (stepId attemptId : Uuid) (provedor : Option String)
    (m : ReturnRows) : Prop where
  declared : m.attribution.declaredProviderId = provedor
  observed : ∃ a, V.attempts.lookup attemptId = some a ∧ a.stepId = stepId ∧
    Observed V (CreatedBefore a) creationLe a provedor m.observation

theorem ReturnRows.writes_table {m : ReturnRows} {attemptId : Uuid} {accepted : Bool} {w : Write}
    (hw : w ∈ m.writes attemptId accepted) :
    w.table ∈ [TableName.results, .attributions, .attempts, .observations] := by
  simp only [ReturnRows.writes, List.mem_append, List.mem_cons, List.not_mem_nil, or_false,
    Option.mem_toList, Option.map_eq_some_iff] at hw
  rcases hw with (rfl | rfl | rfl) | ⟨o, -, rfl⟩ <;> simp [Write.table]

theorem ReturnRows.sameTable {m : ReturnRows} {attemptId : Uuid} {accepted : Bool} {V : Db}
    {t : TableName} (ht : t ∉ [TableName.results, .attributions, .attempts, .observations]) :
    SameTable t (applyAll Db.apply (m.writes attemptId accepted) V) V :=
  sameTable_applyAll fun _ hw heq => ht (heq ▸ writes_table hw)

variable [Runtime] {S : Scene protocol} {past : Db} {held : List Lock} {log : List Write}
  {principal : String} {scheduleId stepId attemptId : Uuid}

namespace ReturnValidationService

/-- The three rows are locked, and the attempt and the step are in the states that a
return needs. -/
theorem yields_requireImportable {Q : ScheduleStep → Db → List Lock → List Write → Prop}
    {raw : RawReturn}
    (h : ∀ g r a db held', held ⊆ held' → .schedule scheduleId ∈ held' → .step stepId ∈ held' →
      .attempt attemptId ∈ held' → (S.view log).schedules.lookup scheduleId = some g →
      g.controlPrincipalRef = principal → (S.view log).steps.lookup stepId = some r →
      r.scheduleId = scheduleId → r.state = .awaitingReturn →
      (S.view log).attempts.lookup attemptId = some a → a.scheduleId = scheduleId →
      a.stepId = stepId → a.state = .open → g.state ≠ .draft → Q r db held' log) :
    S.Yields Q (requireImportable principal scheduleId stepId attemptId raw) past held log := by
  refine yields_orRaise (ends_lockSchedule (by simp) ?_)
  rintro db v held₁ g - hheld₁ hlock hg hprincipal _ ⟨⟩
  refine yields_orRaise (ends_lockStep (by simp) ?_)
  rintro db₂ v₂ held₂ r - hheld₂ hstep hr hschedule _ ⟨⟩
  refine .bind (ends_lockAttempt ?_ ?_)
  · intro db₃ held₃ _
    trivial
  intro db₃ v₃ held₃ a hfinds hheld₃ hattempt ha haschedule
  obtain ⟨_, g', _, _, hg', hdraft⟩ := hfinds.view_wf.attempts_step _ _ ha
  obtain rfl := Option.some.inj (hg.symm.trans (haschedule ▸ hg'))
  refine .bind (.orRaise (fun _ => trivial) fun a' ha' => ?_)
  obtain ⟨hsome, hastep⟩ := Option.filter_eq_some_iff.mp ha'
  obtain rfl := Option.some.inj hsome
  refine yields_require fun hopen => yields_require fun hawaiting => yields_require fun _ => ?_
  exact h g r a db₃ held₃ (List.Subset.trans hheld₁ (List.Subset.trans hheld₂ hheld₃))
    (hheld₃ (hheld₂ hlock)) (hheld₃ hstep) hattempt hg hprincipal hr hschedule
    (by simpa using hawaiting) ha haschedule (by simpa using hastep) (by simpa using hopen) hdraft

/-- The end of an import: the step returns, and the work may be complete. -/
theorem yields_afterImport {β : Type} {Q : β → Db → List Lock → List Write → Prop}
    {comControle accepted : Bool} {g : Schedule} {r : ScheduleStep} {k : StepState → Action β}
    (hlock : .schedule scheduleId ∈ held)
    (hg : (S.view log).schedules.lookup scheduleId = some g)
    (hprincipal : g.controlPrincipalRef = principal) (hdraft : g.state ≠ .draft)
    (hr : (S.view log).steps.lookup stepId = some r) (hawaiting : r.state = .awaitingReturn)
    (h : ∀ state ws db held', held ⊆ held' →
      AfterImport (S.view log) comControle scheduleId stepId g accepted ws →
      S.Yields Q (k state) db held' (log ++ ws)) :
    S.Yields Q (if accepted = true then do
        setStepState principal scheduleId stepId .returned
        if comControle = true then do
          let _ ← ControlService.completeIfAllReturned principal scheduleId
          k .returned
        else k .returned
      else k .awaitingReturn) past held log := by
  cases accepted with
  | false =>
    have := h .awaitingReturn [] past held (List.Subset.refl _) .rejected
    rwa [List.append_nil] at this
  | true =>
    simp only [if_true]
    refine .bind (yields_setStepState (.inr hlock) fun db held₁ r' hheld₁ _ hr' hschedule => ?_)
    obtain rfl := Option.some.inj (hr.symm.trans hr')
    refine ⟨⟨r, g, hr, hschedule ▸ hg, hdraft, by
      simp [hawaiting, stepWrites, e72StepTransitions]⟩, ?_⟩
    cases hcontrole : comControle with
    | false =>
      simp only [Bool.false_eq_true, if_false]
      exact h .returned _ db held₁ hheld₁ (.alone hcontrole)
    | true =>
      simp only [if_true]
      refine .bind (ControlService.yields_completeIfAllReturned (g := g) (hheld₁ hlock) ?_ hprincipal
        ?_)
      · rw [Scene.view_append]
        exact hg
      · intro o ws db₂ held₂ hheld₂ hcompletion
        rw [List.append_assoc]
        refine h .returned _ db₂ held₂ (List.Subset.trans hheld₁ hheld₂) (.controlled ws hcontrole ?_)
        rwa [Scene.view_append] at hcompletion

theorem yields_importReturn {Q : ReturnOutcome → Db → List Lock → List Write → Prop}
    {comControle : Bool} {raw : RawReturn} {attribution : DeclaredAttribution}
    (hwf : Wellformed S.final) (hlog : ∀ w ∈ log, w.table = .receipts)
    (h : ∀ out m accepted ws db held', held ⊆ held' →
      Imported (S.view log) comControle principal scheduleId stepId attemptId raw m accepted ws →
      m.Observing S.final stepId attemptId attribution.declaredProviderId →
      Q out db held' (log ++ m.writes attemptId accepted ++ ws)) :
    S.Yields Q (importReturn comControle principal scheduleId stepId attemptId raw attribution) past
      held log := by
  refine .bind (yields_requireImportable ?_)
  intro g r a db held₁ hheld₁ hlock hstep hattempt hg hprincipal hr hschedule hawaiting ha haschedule
    hastep hopen hdraft
  generalize hmedido : validateOutput r.draft.expectedOutputContract raw.mediaType raw.content =
    medido
  refine .bind (yields_createHandoffResult ⟨a, ha, hopen⟩ fun db₂ held₂ id₂ hheld₂ => ?_)
  refine .bind (ends_databaseNow fun db₃ => ?_)
  refine .bind (yields_createHandoffAttribution ⟨a, ?_, hopen⟩ fun db₄ held₄ id₄ hheld₄ => ?_)
  · rw [Scene.view_append]
    exact ha
  refine .bind (yields_setAttemptState (hheld₄ (hheld₂ hlock))
    fun db₅ held₅ a' hheld₅ _ ha' _ => ?_)
  obtain rfl : a = a' := by
    rw [Scene.view_append, Scene.view_append] at ha'
    exact Option.some.inj (ha.symm.trans ha')
  refine ⟨⟨a, ha', ?_⟩, ?_⟩
  · rw [hopen]
    cases medido.accepted <;> simp [e72AttemptTransitions]
  -- Only receipts were written before the rows of the return.
  have hfinal : ∀ t, t ≠ .receipts → SameTable t (S.view log) S.final :=
    fun t ht => sameTable_applyAll fun w hw heq => ht (heq ▸ hlog w hw)
  have hrow : S.final.attempts.lookup attemptId = some a := by
    rw [← show (S.view log).attempts = S.final.attempts from hfinal .attempts (by simp)]
    exact ha
  have hid : a.id = attemptId := hwf.attempts_id attemptId a hrow
  subst attemptId
  have hreturn : AtReturn S held₅ scheduleId stepId a :=
    ⟨hheld₅ (hheld₄ (hheld₂ hlock)), hheld₅ (hheld₄ (hheld₂ hstep)),
      hheld₅ (hheld₄ (hheld₂ hattempt)), hrow, hopen, hastep, haschedule⟩
  refine .bind (hreturn.yields_observar ?_ ?_ fun o db₆ held₆ hheld₆ hobserved => ?_)
  · intro w hw
    simp only [List.mem_append, List.mem_singleton] at hw
    obtain ((hw | rfl) | rfl) | rfl := hw
    · exact .of_table (by simp [hlog w hw])
    · trivial
    · rfl
    · rfl
  · simp only [Scene.view_append]
    exact owned_of_lookup hg hprincipal
  have hheld : held₁ ⊆ held₆ := List.Subset.trans hheld₂
    (List.Subset.trans hheld₄ (List.Subset.trans hheld₅ hheld₆))
  -- The rows written so far, as one list.
  let m : ReturnRows := {
    result := ⟨id₂, a.id, if medido.accepted then .validated else .rejected,
      r.draft.expectedOutputContract, medido.mediaType, medido.outputSha256, medido.outputBytes,
      raw.declaredOutputRef, medido.validationCodes⟩
    attribution := ⟨id₄, a.id, r.draft.role, attribution.declaredProviderId,
      attribution.declaredModelId, attribution.declaredInstanceId, S.now, true, none⟩
    observation := o }
  have hwrites : ∀ x y z : Write, log ++ [x] ++ [y] ++ [z] ++
      (o.map .insertObservation).toList = log ++ ([x, y, z] ++ (o.map .insertObservation).toList) := by
    simp
  rw [hwrites]
  change S.Ends _ _ _ db₆ held₆ (log ++ m.writes a.id medido.accepted)
  have hsame : ∀ t, t ∉ [TableName.results, .attributions, .attempts, .observations] →
      SameTable t (S.view (log ++ m.writes a.id medido.accepted)) (S.view log) := by
    intro t ht
    rw [Scene.view_append]
    exact ReturnRows.sameTable ht
  have hsteps : (S.view (log ++ m.writes a.id medido.accepted)).steps = (S.view log).steps :=
    hsame .steps (by simp)
  have hschedules : (S.view (log ++ m.writes a.id medido.accepted)).schedules =
      (S.view log).schedules := hsame .schedules (by simp)
  extract_lets k
  refine yields_afterImport (k := k) (hheld hlock) (hschedules ▸ hg) hprincipal hdraft
    (hsteps ▸ hr) hawaiting ?_
  intro state ws db₇ held₇ hheld₇ hafter
  rw [Scene.view_append] at hafter
  exact h _ m medido.accepted ws db₇ held₇ (List.Subset.trans hheld₁ (List.Subset.trans hheld hheld₇))
    ⟨⟨g, hg, hprincipal, hafter⟩, ⟨r, hr, hschedule, hawaiting, by rw [hmedido]⟩,
      ⟨a, ha, haschedule, hastep, hopen⟩, rfl, rfl⟩ ⟨rfl, a, hrow, hastep, hobserved⟩

end ReturnValidationService

end PiaOs
