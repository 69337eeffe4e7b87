import PiaOs.Runs.Dispatch

/-!
# Missed completions

A work is completed by the import of its last return, when that import is composed with
the control service and the work is active. An import without control and a resume can
leave an active work in which nothing is left to return.
-/

namespace PiaOs

open Support Transactions Repository

/-- Every step of the Schedule has returned. -/
def AllReturned (db : Db) (scheduleId : Uuid) : Prop :=
  ∀ k r, db.steps.lookup k = some r → r.scheduleId = scheduleId → r.state = .returned

/-- The Schedule is active, has a step and waits for no return. -/
structure Overdue (db : Db) (scheduleId : Uuid) : Prop where
  active : ∃ g, db.schedules.lookup scheduleId = some g ∧ g.state = .active
  step : ∃ k r, db.steps.lookup k = some r ∧ r.scheduleId = scheduleId
  returned : AllReturned db scheduleId

instance (db : Db) (scheduleId : Uuid) : Decidable (AllReturned db scheduleId) :=
  Table.decidableForall db.steps

instance (db : Db) (scheduleId : Uuid) : Decidable (Overdue db scheduleId) :=
  decidable_of_iff
    ((∃ g ∈ db.schedules.lookup scheduleId, g.state = .active) ∧
      (∃ k r, db.steps.lookup k = some r ∧ r.scheduleId = scheduleId) ∧
      AllReturned db scheduleId)
    ⟨fun ⟨hactive, hstep, hreturned⟩ => ⟨hactive, hstep, hreturned⟩,
      fun h => ⟨h.active, h.step, h.returned⟩⟩

/-- A write that cannot make a work overdue. -/
def Write.Calm : Write → Prop
  | .setScheduleState _ state => state ≠ .active
  | .setStepState _ state => state ≠ .returned
  | _ => True

section Store

variable {V V' : Db} {w : Write} {ws : List Write} {id : Uuid}

theorem Write.Calm.of_table (h : w.table ∉ [TableName.schedules, .steps, .results]) : w.Calm := by
  cases w with
  | setScheduleState => simp [Write.table] at h
  | setStepState => simp [Write.table] at h
  | _ => trivial

/-- A new Schedule is a draft. -/
theorem creation_schedule {scheduleId : Uuid} {principal : String} {draft : ScheduleDraft}
    {mode : HandoffMode} {ids : List Uuid} :
    (applyAll Db.apply (creation scheduleId principal draft mode ids) V).schedules.lookup
      scheduleId = some ⟨scheduleId, draft.title, .draft, mode, principal⟩ := by
  rw [creation, applyAll_cons]
  have hsteps : ∀ w ∈ (stepRows scheduleId ids draft.steps.zipIdx).map Write.insertStep,
      w.table ≠ .schedules := by
    simp [Write.table]
  rw [show (applyAll Db.apply _ _).schedules = _ from sameTable_applyAll (t := .schedules) hsteps]
  exact AList.lookup_insert _

theorem Overdue.congr (h : Overdue V id) (hschedules : V'.schedules = V.schedules)
    (hsteps : V'.steps = V.steps) : Overdue V' id := by
  obtain ⟨hactive, hstep, hreturned⟩ := h
  exact ⟨hschedules ▸ hactive, hsteps ▸ hstep, by
    rw [AllReturned, hsteps]
    exact hreturned⟩

/-- A calm write leaves a work overdue only if it was so before. -/
theorem Overdue.of_apply (hmay : w.may V) (hcalm : w.Calm) (h : Overdue (Db.apply w V) id) :
    Overdue V id := by
  obtain ⟨⟨g, hg, hactive⟩, ⟨k, r, hr, hschedule⟩, hreturned⟩ := h
  cases w with
  | insertSchedule row =>
    obtain ⟨-, rfl⟩ | ⟨-, hg⟩ := Table.insert_cases hg
    · simp [hmay.2] at hactive
    · exact ⟨⟨g, hg, hactive⟩, ⟨k, r, hr, hschedule⟩, hreturned⟩
  | setScheduleState id' state =>
    obtain ⟨-, g₀, -, rfl⟩ | ⟨-, hg⟩ := Table.modify_cases hg
    · exact (hcalm hactive).elim
    · exact ⟨⟨g, hg, hactive⟩, ⟨k, r, hr, hschedule⟩, hreturned⟩
  | insertStep row =>
    have hrow : row.scheduleId ≠ id := by
      intro heq
      have := hreturned row.id row (by simp [Db.apply]) heq
      simp [hmay.2.1] at this
    obtain ⟨-, rfl⟩ | ⟨-, hr⟩ := Table.insert_cases hr
    · exact (hrow hschedule).elim
    · refine ⟨⟨g, hg, hactive⟩, ⟨k, r, hr, hschedule⟩, fun k' r' hr' => hreturned k' r' ?_⟩
      rw [show (Db.apply (.insertStep row) V).steps = V.steps.insert row.id row from rfl,
        Table.lookup_insert_ite, if_neg, hr']
      rintro rfl
      simp [hmay.1] at hr'
  | setStepState id' state =>
    have hother : ∀ r', V.steps.lookup id' = some r' → r'.scheduleId ≠ id := by
      intro r' hr' heq
      have := hreturned id' { r' with state } (by simp [Db.apply, Table.lookup_modify, hr']) heq
      exact hcalm this
    obtain ⟨rfl, r₀, hr₀, rfl⟩ | ⟨-, hr⟩ := Table.modify_cases hr
    · exact (hother r₀ hr₀ hschedule).elim
    · refine ⟨⟨g, hg, hactive⟩, ⟨k, r, hr, hschedule⟩, fun k' r' hr' heq => ?_⟩
      refine hreturned k' r' ?_ heq
      simp only [Db.apply, Table.lookup_modify]
      rw [if_neg, hr']
      rintro rfl
      exact hother r' hr' heq
  | _ => exact ⟨⟨g, hg, hactive⟩, ⟨k, r, hr, hschedule⟩, hreturned⟩

theorem Overdue.of_applyAll [Runtime] {held : List Lock} (hguarded : protocol.Guarded held V ws)
    (hcalm : ∀ w ∈ ws, w.Calm) (h : Overdue (applyAll Db.apply ws V) id) : Overdue V id := by
  induction ws generalizing V with
  | nil => exact h
  | cons w ws ih =>
    obtain ⟨⟨-, hmay⟩, hrest⟩ := hguarded
    exact .of_apply hmay (hcalm w List.mem_cons_self)
      (ih hrest (fun w' hw' => hcalm w' (List.mem_cons_of_mem _ hw')) h)

/-- Activating a Schedule changes no other one, and none of the steps. -/
theorem Overdue.of_activate {scheduleId : Uuid}
    (h : Overdue (Db.apply (.setScheduleState scheduleId .active) V) id) :
    Overdue V id ∨ id = scheduleId ∧ (∃ k r, V.steps.lookup k = some r ∧ r.scheduleId = id) ∧
      AllReturned V id := by
  obtain ⟨⟨g, hg, hactive⟩, hstep, hreturned⟩ := h
  obtain ⟨rfl, -⟩ | ⟨-, hg⟩ := Table.modify_cases hg
  · exact .inr ⟨rfl, hstep, hreturned⟩
  · exact .inl ⟨⟨g, hg, hactive⟩, hstep, hreturned⟩

/-- A draft has no step that has returned. -/
theorem Overdue.of_activate_draft (hwf : Wellformed V) {scheduleId : Uuid} {g : Schedule}
    (hg : V.schedules.lookup scheduleId = some g) (hdraft : g.state = .draft)
    (h : Overdue (Db.apply (.setScheduleState scheduleId .active) V) id) : Overdue V id := by
  rcases h.of_activate with h | ⟨rfl, ⟨k, r, hr, rfl⟩, hreturned⟩
  · exact h
  · obtain ⟨g', hg', hfits⟩ := hwf.steps_schedule k r hr
    obtain rfl := Option.some.inj (hg.symm.trans hg')
    have hpending := hfits.1 hdraft
    simp [hreturned k r hr rfl] at hpending

/-- The return of a step concerns its own Schedule only. -/
theorem Overdue.of_return {stepId : Uuid} {r₀ : ScheduleStep} (hr₀ : V.steps.lookup stepId = some r₀)
    (h : Overdue (Db.apply (.setStepState stepId .returned) V) id) :
    Overdue V id ∨ id = r₀.scheduleId ∧ (∃ g, V.schedules.lookup id = some g ∧ g.state = .active) ∧
      ∀ k r, V.steps.lookup k = some r → r.scheduleId = id → k ≠ stepId → r.state = .returned := by
  obtain ⟨hactive, ⟨k, r, hr, hschedule⟩, hreturned⟩ := h
  have hrest : ∀ k r, V.steps.lookup k = some r → r.scheduleId = id → k ≠ stepId →
      r.state = .returned := by
    intro k r hr hschedule hk
    exact hreturned k r (by simp [Db.apply, Table.lookup_modify, hk, hr]) hschedule
  by_cases heq : id = r₀.scheduleId
  · exact .inr ⟨heq, hactive, hrest⟩
  · have hne : ∀ k' r', V.steps.lookup k' = some r' → r'.scheduleId = id → k' ≠ stepId := by
      rintro k' r' hr' hschedule' rfl
      obtain rfl := Option.some.inj (hr'.symm.trans hr₀)
      exact heq hschedule'.symm
    obtain ⟨rfl, r₁, hr₁, rfl⟩ | ⟨hk, hr⟩ := Table.modify_cases hr
    · exact (hne _ _ hr₁ hschedule rfl).elim
    · exact .inl ⟨hactive, ⟨k, r, hr, hschedule⟩, fun k r hr hschedule =>
        hrest k r hr hschedule (hne k r hr hschedule)⟩

/-- What an import does to its step and its Schedule makes a work overdue only without
control. -/
theorem AfterImport.overdue {comControle accepted : Bool} {scheduleId stepId : Uuid} {g : Schedule}
    {r : ScheduleStep} (h : AfterImport V comControle scheduleId stepId g accepted ws)
    (hg : V.schedules.lookup scheduleId = some g) (hr : V.steps.lookup stepId = some r)
    (hschedule : r.scheduleId = scheduleId) (hoverdue : Overdue (applyAll Db.apply ws V) id) :
    Overdue V id ∨ comControle = false ∧ accepted = true ∧
      (∃ g, V.schedules.lookup scheduleId = some g ∧ g.state = .active) ∧
      ∀ k r, V.steps.lookup k = some r → r.scheduleId = scheduleId → k ≠ stepId →
        r.state = .returned := by
  subst hschedule
  cases h with
  | rejected => exact .inl hoverdue
  | alone hcontrole =>
    rcases hoverdue.of_return hr with hsame | ⟨rfl, hactive, hrest⟩
    · exact .inl hsame
    · exact .inr ⟨hcontrole, rfl, hactive, hrest⟩
  | controlled ws hcontrole hcompletion =>
    cases hcompletion with
    | inactive hinactive =>
      rcases hoverdue.of_return hr with hsame | ⟨rfl, ⟨g', hg', hactive⟩, -⟩
      · exact .inl hsame
      · obtain rfl := Option.some.inj (hg.symm.trans hg')
        exact (hinactive hactive).elim
    | unfinished k r' hr' hschedule hstate =>
      have hreturned := hoverdue.returned
      rcases hoverdue.of_return hr with hsame | ⟨rfl, -, -⟩
      · exact .inl hsame
      · exact (hstate (hreturned k r' hr' hschedule)).elim
    | done e _ _ _ =>
      obtain ⟨⟨g', hg', hactive⟩, hstep, hreturned⟩ := hoverdue
      obtain ⟨-, g₀, -, rfl⟩ | ⟨hne, hg'⟩ := Table.modify_cases hg'
      · simp at hactive
      · have hother : Overdue (Db.apply (.setStepState stepId .returned) V) id :=
          ⟨⟨g', hg', hactive⟩, hstep, hreturned⟩
        rcases hother.of_return hr with hsame | ⟨rfl, -, -⟩
        · exact .inl hsame
        · exact (hne rfl).elim

end Store

section Runs

variable [Runtime]

/-- The return is the last one that an active work waits for. -/
structure LastReturn (db : Db) (scheduleId stepId : Uuid) (raw : RawReturn) : Prop where
  active : ∃ g, db.schedules.lookup scheduleId = some g ∧ g.state = .active
  accepted : ∃ r, db.steps.lookup stepId = some r ∧
    (validateOutput r.draft.expectedOutputContract raw.mediaType raw.content).accepted = true
  others : ∀ k r, db.steps.lookup k = some r → r.scheduleId = scheduleId → k ≠ stepId →
    r.state = .returned

/-- The import of a composition without control. -/
def Request.uncontrolled : Request → Option (Uuid × Uuid × RawReturn)
  | .importReturnOnce false _ scheduleId stepId _ raw _ => some (scheduleId, stepId, raw)
  | _ => none

/-- The Schedule that a control action takes back to `ACTIVE`. -/
def Request.resumes : Request → Option Uuid
  | .controlScheduleOnce _ scheduleId action _ =>
    if ControlService.acaoDestino action = some .active then some scheduleId else none
  | _ => none

/-- The commit takes the last return of an active work without control, or resumes a work
whose steps have all returned. -/
def Misses (c : Commit) : Prop :=
  c.log ≠ [] ∧ ((∃ p ∈ c.request.uncontrolled, LastReturn c.before p.1 p.2.1 p.2.2) ∨
    ∃ id ∈ c.request.resumes,
      (∃ k r, c.before.steps.lookup k = some r ∧ r.scheduleId = id) ∧ AllReturned c.before id)

instance (db : Db) (scheduleId stepId : Uuid) (raw : RawReturn) :
    Decidable (LastReturn db scheduleId stepId raw) :=
  decidable_of_iff
    ((∃ g ∈ db.schedules.lookup scheduleId, g.state = .active) ∧
      (∃ r ∈ db.steps.lookup stepId, (validateOutput r.draft.expectedOutputContract raw.mediaType
        raw.content).accepted = true) ∧
      ∀ k r, db.steps.lookup k = some r → r.scheduleId = scheduleId → k ≠ stepId →
        r.state = .returned)
    ⟨fun ⟨hactive, haccepted, hothers⟩ => ⟨hactive, haccepted, hothers⟩,
      fun h => ⟨h.active, h.accepted, h.others⟩⟩

instance : DecidablePred Misses := fun _ => inferInstanceAs (Decidable (_ ∧ (_ ∨ _)))

/-- An import that leaves a work overdue was not composed with control. -/
theorem Imported.overdue {V : Db} {comControle accepted : Bool} {principal : String}
    {scheduleId stepId attemptId id : Uuid} {raw : RawReturn} {m : ReturnRows} {ws : List Write}
    (h : Imported V comControle principal scheduleId stepId attemptId raw m accepted ws)
    (hoverdue : Overdue (applyAll Db.apply (m.writes attemptId accepted ++ ws) V) id) :
    Overdue V id ∨ comControle = false ∧ LastReturn V scheduleId stepId raw := by
  obtain ⟨g, hg, -, hafter⟩ := h.schedule
  obtain ⟨r, hr, hschedule, -, hraw⟩ := h.step
  rw [applyAll_append] at hoverdue
  -- The rows of the return are in other tables.
  have hschedules : (applyAll Db.apply (m.writes attemptId accepted) V).schedules = V.schedules :=
    ReturnRows.sameTable (t := .schedules) (by simp)
  have hsteps : (applyAll Db.apply (m.writes attemptId accepted) V).steps = V.steps :=
    ReturnRows.sameTable (t := .steps) (by simp)
  have hlast := hafter.overdue (hschedules ▸ hg) (hsteps ▸ hr) hschedule hoverdue
  rw [hschedules, hsteps] at hlast
  rcases hlast with hsame | ⟨hcontrole, rfl, hactive, hrest⟩
  · exact .inl (hsame.congr hschedules.symm hsteps.symm)
  · exact .inr ⟨hcontrole, hactive, ⟨r, hr, hraw.symm⟩, hrest⟩
/-- A commit that misses nothing makes no work overdue. -/
theorem Done.overdue {c : Commit} {pre core : List Write} {id : Uuid} (h : Done c pre core)
    (hmiss : ¬ Misses c) (hoverdue : Overdue (after c) id) : Overdue c.before id := by
  have hran : core ≠ [] → c.log ≠ [] := fun hcore => by simp [h.log, hcore]
  have hbefore : Overdue (applyAll Db.apply pre c.before) id → Overdue c.before id :=
    fun h' => h'.congr h.same.schedules.symm h.same.steps.symm
  obtain ⟨held, hguarded⟩ := h.guarded
  have hdeed := h.deed
  rw [after, h.log, applyAll_append] at hoverdue
  have hcalm : (∀ w ∈ core, w.Calm) → Overdue c.before id := fun hcore =>
    hbefore (.of_applyAll hguarded hcore hoverdue)
  generalize hrequest : c.request = request at hdeed
  generalize c.answer = answer at hdeed
  cases hdeed with
  | idle _ _ _ hws =>
    have hsame := sameWork_applyAll (V := applyAll Db.apply pre c.before) hws
    exact hbefore (hoverdue.congr hsame.schedules.symm hsame.steps.symm)
  | created _ _ scheduleId principal draft mode ids post hpost =>
    have hfirst : ∀ w ∈ creation scheduleId principal draft mode ids, w.Calm := by
      simp only [creation, List.mem_cons, List.mem_map]
      rintro w (rfl | ⟨_, -, rfl⟩) <;> trivial
    rcases hpost with rfl | rfl
    · exact hcalm (by simpa using hfirst)
    · -- The new Schedule is a draft until its last write.
      obtain ⟨hcreation, -⟩ := Protocol.Allowed.of_append hguarded
      rw [applyAll_append] at hoverdue
      exact hbefore (.of_applyAll hcreation hfirst
        (hoverdue.of_activate_draft (h.wf.applyAll hcreation) creation_schedule rfl))
  | activated _ _ scheduleId g hg hdraft => exact hbefore (hoverdue.of_activate_draft h.wf hg hdraft)
  | paused => exact hcalm (by simp [Write.Calm])
  | sealed => exact hcalm (by simp [Write.Calm])
  | exported _ _ principal scheduleId stepId outcomeRef m hexported =>
    refine hcalm fun w hw => ?_
    rw [m.writes_eq, Dispatch.front, List.append_assoc] at hw
    rcases List.mem_append.mp hw with hw | hw
    · exact .of_table (by simpa using m.mem_rows hw)
    · rcases List.mem_append.mp hw with hw | hw
      · split at hw <;> simp at hw
        simp [hw, Write.Calm]
      · obtain rfl := List.mem_singleton.mp hw
        simp [Write.Calm]
  | supervised => exact hcalm (by simp [Write.Calm])
  | imported comControle caller scheduleId stepId attemptId raw attribution _ m accepted ws himported =>
    rcases himported.overdue hoverdue with hsame | ⟨rfl, hactive, haccepted, hothers⟩
    · exact hbefore hsame
    · rw [h.same.schedules] at hactive
      rw [h.same.steps] at haccepted hothers
      refine (hmiss ⟨hran (by simp [ReturnRows.writes]), .inl ⟨(scheduleId, stepId, raw), ?_,
        hactive, haccepted, hothers⟩⟩).elim
      rw [hrequest]
      rfl
  | controlled caller scheduleId action categoria recibo g e destino counts ws hdestino hg htrans hcontent =>
    have hws : ∀ w ∈ ws, w.Calm := by
      cases hcontent with
      | other => simp
      | cancel =>
        simp only [cancelWrites, List.mem_append, List.mem_map]
        rintro w (⟨_, -, rfl⟩ | ⟨_, -, rfl⟩) <;> simp [Write.Calm]
    by_cases hresume : destino = .active
    · subst hresume
      cases hcontent
      rcases (hoverdue.congr rfl rfl : Overdue (Db.apply (.setScheduleState scheduleId .active)
        (applyAll Db.apply pre c.before)) id).of_activate with hsame | ⟨rfl, hstep, hreturned⟩
      · exact hbefore hsame
      · rw [h.same.steps] at hstep
        rw [AllReturned, h.same.steps] at hreturned
        refine (hmiss ⟨hran (by simp), .inr ⟨_, ?_, hstep, hreturned⟩⟩).elim
        simp [hrequest, Request.resumes, hdestino]
    · refine hcalm fun w hw => ?_
      simp only [List.mem_append, List.mem_cons, List.not_mem_nil, or_false] at hw
      obtain hw | rfl | rfl := hw
      · exact hws w hw
      · exact hresume
      · trivial

/-- No work of a run is overdue, provided that no commit misses a completion. -/
theorem never_overdue {s : Orchestration} (h : Reachable s) (hmiss : ∀ c ∈ s.history, ¬ Misses c)
    (scheduleId : Uuid) : ¬ Overdue s.store scheduleId := by
  have hcommits := commits_of_reachable h
  generalize s.history = history at hcommits hmiss
  generalize s.store = store at hcommits
  induction hcommits with
  | nil =>
    rintro ⟨⟨g, hg, -⟩, -, -⟩
    simp [Db.empty] at hg
  | cons c hearlier hsound ih =>
    obtain ⟨pre, core, hdone⟩ := done_of_sound hsound
    intro hoverdue
    exact ih (fun c' hc' => hmiss c' (List.mem_cons_of_mem _ hc'))
      (hdone.overdue (hmiss c List.mem_cons_self) hoverdue)

end Runs

/-- The import of the only step of a work, with or without control. -/
def lastReturn (comControle : Bool) (n : Nat) : List (Label Request) :=
  alone 0 (.criarSchedule (Sample.caller "a") Sample.oneStep .manualHandoff) 0 1 15 ++
    alone 1 (.exportHandoffOnce denyAllHumanGate (Sample.caller "b") ⟨1⟩ ⟨5⟩ "p") 1 20 36 ++
    alone 2 (.importReturnOnce comControle (Sample.caller "d") ⟨1⟩ ⟨5⟩ ⟨20⟩ Sample.answer
      Sample.attribution) 2 60 n

theorem exists_lastReturn : ∃ s : Orchestration, Reachable s ∧
    (Table.rows s.store.attempts).map (fun a => (a.attemptNumber, a.state)) = [(1, .closedOk)] ∧
    (s.store.steps.lookup ⟨5⟩).map ScheduleStep.state = some .returned ∧
      ∀ c ∈ s.history, ¬ Misses c := by
  refine (exists_reachable (lastReturn true 25) (fun s => decide _) ?_).imp
    fun s h => h.imp_right of_decide_eq_true
  decide +kernel

theorem never_overdue_lastReturn : ∃ s : Orchestration, Reachable s ∧
    (s.store.steps.lookup ⟨5⟩).map ScheduleStep.state = some .returned ∧ ¬ Overdue s.store ⟨1⟩ := by
  obtain ⟨s, hreach, -, hstate, hmiss⟩ := exists_lastReturn
  exact ⟨s, hreach, hstate, never_overdue hreach hmiss ⟨1⟩⟩

theorem overdue_without_control :
    ¬ ∀ s : Orchestration, Reachable s → ∀ scheduleId, ¬ Overdue s.store scheduleId := by
  intro hall
  obtain ⟨s, hreach, htest⟩ := exists_reachable (lastReturn false 17)
    (fun s => decide (Overdue s.store ⟨1⟩)) (by decide +kernel)
  exact hall s hreach ⟨1⟩ (of_decide_eq_true htest)

end PiaOs
