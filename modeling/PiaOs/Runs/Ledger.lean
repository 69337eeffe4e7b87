import PiaOs.Runs.Completion
import PiaOs.Runs.Freeze

/-!
# The ledger of the attempts

A step has returned exactly when one of its attempts was accepted, and an attempt has a result
exactly when it was judged.
-/

namespace PiaOs

open Support Transactions Repository

/-- What the attempts say of their results and of their steps. -/
structure Judged (db : Db) : Prop where
  results : ∀ k a, db.attempts.lookup k = some a →
    ((∃ x, db.results.lookup k = some x) ↔ a.state = .closedOk ∨ a.state = .closedRejected)
  returned : ∀ id r, db.steps.lookup id = some r →
    (r.state = .returned ↔ ∃ k a, db.attempts.lookup k = some a ∧ a.stepId = id ∧ a.state = .closedOk)
  accepted : ∀ k k' a a', db.attempts.lookup k = some a → db.attempts.lookup k' = some a' →
    a.stepId = a'.stepId → a.state = .closedOk → a'.state = .closedOk → k = k'

/-- The writes that only the judgement of a return makes. -/
def Write.Judges : Write → Prop
  | .insertResult _ => True
  | .setAttemptState _ state => state = .closedOk ∨ state = .closedRejected
  | .setStepState _ state => state = .returned
  | _ => False

section Store

variable {V V' : Db} {w : Write} {ws : List Write}

theorem judged_empty : Judged Db.empty where
  results := by simp [Db.empty]
  returned := by simp [Db.empty]
  accepted := by simp [Db.empty]

theorem Judged.congr (h : Judged V) (hsteps : V'.steps = V.steps)
    (hattempts : V'.attempts = V.attempts) (hresults : V'.results = V.results) : Judged V' where
  results := by
    rw [hattempts, hresults]
    exact h.results
  returned := by
    rw [hattempts, hsteps]
    exact h.returned
  accepted := by
    rw [hattempts]
    exact h.accepted

/-- A new attempt is not judged yet. -/
theorem Judged.insertAttempt (h : Judged V) (hwf : Wellformed V) {row : HandoffAttempt}
    (hmay : (Write.insertAttempt row).may V) : Judged (Db.apply (.insertAttempt row) V) where
  results := by
    intro k a ha
    obtain ⟨rfl, rfl⟩ | ⟨-, ha⟩ := Table.insert_cases ha
    · refine iff_of_false ?_ (by simp [hmay.2.1])
      rintro ⟨x, hx⟩
      obtain ⟨-, b, hb⟩ := hwf.results_attempt _ x hx
      simp [hmay.1] at hb
    · exact h.results k a ha
  returned := by
    intro id r hr
    rw [h.returned id r hr]
    refine exists_congr fun k => exists_congr fun a => and_congr_left fun ⟨_, haccepted⟩ => ?_
    constructor
    · intro ha
      have hne : k ≠ row.id := by
        rintro rfl
        simp [hmay.1] at ha
      simpa [Db.apply, Table.lookup_insert_ite, hne] using ha
    · intro ha
      obtain ⟨-, rfl⟩ | ⟨-, ha⟩ := Table.insert_cases ha
      · simp [hmay.2.1] at haccepted
      · exact ha
  accepted := by
    intro k k' a a' ha ha' hstep haccepted haccepted'
    obtain ⟨-, rfl⟩ | ⟨-, ha⟩ := Table.insert_cases ha
    · simp [hmay.2.1] at haccepted
    · obtain ⟨-, rfl⟩ | ⟨-, ha'⟩ := Table.insert_cases ha'
      · simp [hmay.2.1] at haccepted'
      · exact h.accepted k k' a a' ha ha' hstep haccepted haccepted'

/-- An attempt that is closed without a judgement was open. -/
theorem Judged.setAttemptState (h : Judged V) {id : Uuid} {state : AttemptState}
    (hmay : (Write.setAttemptState id state).may V)
    (hw : ¬(state = .closedOk ∨ state = .closedRejected)) :
    Judged (Db.apply (.setAttemptState id state) V) := by
  obtain ⟨b, hb, htrans⟩ := hmay
  have hopen : b.state = .open := by
    revert htrans
    cases b.state <;> simp [e72AttemptTransitions, e73AttemptTransitions]
  have hbefore : ∀ k a, (Db.apply (.setAttemptState id state) V).attempts.lookup k = some a →
      a.state = .closedOk → V.attempts.lookup k = some a := by
    intro k a ha haccepted
    obtain ⟨-, b', -, rfl⟩ | ⟨-, ha⟩ := Table.modify_cases ha
    · exact absurd (.inl haccepted) hw
    · exact ha
  refine ⟨fun k a ha => ?_, fun stepId r hr => ?_, fun k k' a a' ha ha' hstep hok hok' => ?_⟩
  · obtain ⟨rfl, b', hb', rfl⟩ | ⟨-, ha⟩ := Table.modify_cases ha
    · obtain rfl := Option.some.inj (hb.symm.trans hb')
      have hnone := h.results _ b hb
      rw [hopen] at hnone
      exact iff_of_false (fun hx => by simpa using hnone.mp hx) hw
    · exact h.results k a ha
  · rw [h.returned stepId r hr]
    refine exists_congr fun k => exists_congr fun a => ?_
    constructor
    · rintro ⟨ha, hstep, hok⟩
      have hne : k ≠ id := by
        rintro rfl
        obtain rfl := Option.some.inj (hb.symm.trans ha)
        simp [hopen] at hok
      exact ⟨by simpa [Db.apply, Table.lookup_modify, hne] using ha, hstep, hok⟩
    · rintro ⟨ha, hstep, hok⟩
      exact ⟨hbefore k a ha hok, hstep, hok⟩
  · exact h.accepted k k' a a' (hbefore k a ha hok) (hbefore k' a' ha' hok') hstep hok hok'

/-- Outside a judgement nothing that a result rests on changes. -/
theorem Judged.apply (h : Judged V) (hwf : Wellformed V) (hmay : w.may V) (hw : ¬w.Judges) :
    Judged (Db.apply w V) := by
  cases w with
  | insertAttempt row => exact h.insertAttempt hwf hmay
  | setAttemptState id state => exact h.setAttemptState hmay hw
  | insertResult row => exact absurd trivial hw
  | insertStep row =>
    refine ⟨h.results, fun id r hr => ?_, h.accepted⟩
    obtain ⟨rfl, rfl⟩ | ⟨-, hr⟩ := Table.insert_cases hr
    · refine iff_of_false (by simp [hmay.2.1]) ?_
      rintro ⟨k, a, ha, hstep, -⟩
      obtain ⟨r', _, hr', -⟩ := hwf.attempts_step k a ha
      rw [hstep, hmay.1] at hr'
      cases hr'
    · exact h.returned id r hr
  | setStepState id state =>
    refine ⟨h.results, fun stepId r hr => ?_, h.accepted⟩
    obtain ⟨rfl, r₀, hr₀, rfl⟩ | ⟨-, hr⟩ := Table.modify_cases hr
    · obtain ⟨r₁, _, hr₁, -, -, htrans⟩ := hmay
      obtain rfl := Option.some.inj (hr₀.symm.trans hr₁)
      have hreturned := h.returned stepId r₀ hr₀
      have hbefore : r₀.state ≠ .returned := by
        intro heq
        rw [heq] at htrans
        simp [stepWrites, e72StepTransitions, e73StepTransitions] at htrans
      exact iff_of_false hw fun hex => hbefore (hreturned.mpr hex)
    · exact h.returned stepId r hr
  | _ => exact h.congr rfl rfl rfl

theorem Judged.applyAll [Runtime] {held : List Lock} (h : Judged V) (hwf : Wellformed V)
    (hguarded : protocol.Guarded held V ws) (hws : ∀ w ∈ ws, ¬w.Judges) :
    Judged (applyAll Db.apply ws V) := by
  induction ws generalizing V with
  | nil => exact h
  | cons w ws ih =>
    obtain ⟨⟨-, hmay⟩, hrest⟩ := hguarded
    exact ih (h.apply hwf hmay (hws w List.mem_cons_self)) (hwf.apply hmay) hrest fun w' hw' =>
      hws w' (List.mem_cons_of_mem _ hw')

/-- The tables after an import: its attempt is closed, has its result, and the step has returned
when it was accepted. -/
theorem Imported.tables [Runtime] {comControle accepted : Bool} {principal : String}
    {scheduleId stepId attemptId : Uuid} {raw : RawReturn} {m : ReturnRows}
    (h : Imported V comControle principal scheduleId stepId attemptId raw m accepted ws)
    (hV' : V' = Transactions.applyAll Db.apply (m.writes attemptId accepted ++ ws) V) :
    (∀ k, V'.attempts.lookup k = if k = attemptId then (V.attempts.lookup attemptId).map fun a =>
        { a with state := if accepted then .closedOk else .closedRejected }
      else V.attempts.lookup k) ∧
    (∀ k, V'.results.lookup k = if k = attemptId then some m.result else V.results.lookup k) ∧
    V'.steps = if accepted then Table.modify stepId (fun r => { r with state := .returned }) V.steps
      else V.steps := by
  obtain ⟨g, -, -, hafter⟩ := h.schedule
  obtain ⟨hattempts, hresults, -⟩ := hafter.tables
  have hsame : (Transactions.applyAll Db.apply (m.writes attemptId accepted) V).steps = V.steps :=
    ReturnRows.sameTable (t := .steps) (by simp)
  rw [applyAll_append] at hV'
  subst hV'
  refine ⟨fun k => ?_, fun k => ?_, ?_⟩
  · rw [hattempts, ReturnRows.attempts]
  · rw [hresults, ReturnRows.results h.result_attempt]
  · rw [← hsame]
    generalize Transactions.applyAll Db.apply (m.writes attemptId accepted) V = W at hafter
    cases hafter with
    | rejected => rfl
    | alone => rfl
    | controlled ws _ hcompletion => cases hcompletion <;> rfl

/-- A judgement closes an open attempt of a step that waits, so no other one was accepted. -/
theorem Imported.judged [Runtime] {comControle accepted : Bool} {principal : String}
    {scheduleId stepId attemptId : Uuid} {raw : RawReturn} {m : ReturnRows} (hj : Judged V)
    (h : Imported V comControle principal scheduleId stepId attemptId raw m accepted ws) :
    Judged (Transactions.applyAll Db.apply (m.writes attemptId accepted ++ ws) V) := by
  obtain ⟨a₀, ha₀, -, hstep₀, hopen⟩ := h.attempt
  obtain ⟨r₀, hr₀, -, hawaiting, -⟩ := h.step
  obtain ⟨hattempts, hresults, hsteps⟩ := h.tables rfl
  generalize Transactions.applyAll Db.apply (m.writes attemptId accepted ++ ws) V = V' at *
  -- The step waited, so none of its attempts was accepted.
  have hnone : ∀ k a, V.attempts.lookup k = some a → a.stepId = stepId → a.state ≠ .closedOk := by
    intro k a ha hstep hok
    have hreturned := (hj.returned stepId r₀ hr₀).mpr ⟨k, a, ha, hstep, hok⟩
    rw [hawaiting] at hreturned
    cases hreturned
  have hmine : V'.attempts.lookup attemptId =
      some { a₀ with state := if accepted then .closedOk else .closedRejected } := by
    rw [hattempts, if_pos rfl, ha₀, Option.map_some]
  have hother : ∀ k, k ≠ attemptId → V'.attempts.lookup k = V.attempts.lookup k := by
    intro k hk
    rw [hattempts, if_neg hk]
  have hcases : ∀ k a, V'.attempts.lookup k = some a →
      k = attemptId ∧ a = { a₀ with state := if accepted then .closedOk else .closedRejected } ∨
        k ≠ attemptId ∧ V.attempts.lookup k = some a := by
    intro k a ha
    by_cases hk : k = attemptId
    · rw [hk, hmine] at ha
      exact .inl ⟨hk, (Option.some.inj ha).symm⟩
    · exact .inr ⟨hk, hother k hk ▸ ha⟩
  refine ⟨fun k a ha => ?_, fun id r hr => ?_, fun k k' a a' ha ha' hstep hok hok' => ?_⟩
  · rw [hresults]
    obtain ⟨rfl, rfl⟩ | ⟨hk, ha⟩ := hcases k a ha
    · rw [if_pos rfl]
      cases accepted <;> simp
    · rw [if_neg hk]
      exact hj.results k a ha
  · have hothers : (∃ k a, V'.attempts.lookup k = some a ∧ a.stepId = id ∧ a.state = .closedOk) ↔
        accepted = true ∧ stepId = id ∨
          ∃ k a, V.attempts.lookup k = some a ∧ a.stepId = id ∧ a.state = .closedOk := by
      constructor
      · rintro ⟨k, a, ha, hid, hok⟩
        obtain ⟨-, rfl⟩ | ⟨-, ha⟩ := hcases k a ha
        · left
          cases accepted with
          | false => simp at hok
          | true => exact ⟨rfl, hstep₀.symm.trans hid⟩
        · exact .inr ⟨k, a, ha, hid, hok⟩
      · rintro (⟨haccepted, rfl⟩ | ⟨k, a, ha, hid, hok⟩)
        · exact ⟨attemptId, _, hmine, hstep₀, by simp [haccepted]⟩
        · have hk : k ≠ attemptId := by
            rintro rfl
            obtain rfl := Option.some.inj (ha₀.symm.trans ha)
            simp [hopen] at hok
          exact ⟨k, a, (hother k hk).trans ha, hid, hok⟩
    rw [hothers]
    rw [hsteps] at hr
    cases accepted with
    | false => simpa using hj.returned id r (by simpa using hr)
    | true =>
      rw [if_pos rfl] at hr
      obtain ⟨rfl, r₁, -, rfl⟩ | ⟨hid, hr⟩ := Table.modify_cases hr
      · simp
      · rw [hj.returned id r hr]
        simp [Ne.symm hid]
  · obtain ⟨hk, hownrow⟩ | ⟨hk, ha⟩ := hcases k a ha
    · obtain ⟨hk', -⟩ | ⟨-, ha'⟩ := hcases k' a' ha'
      · rw [hk, hk']
      · subst hownrow
        exact absurd hok' (hnone k' a' ha' (hstep.symm.trans hstep₀))
    · obtain ⟨-, hownrow⟩ | ⟨-, ha'⟩ := hcases k' a' ha'
      · subst hownrow
        exact absurd hok (hnone k a ha (hstep.trans hstep₀))
      · exact hj.accepted k k' a a' ha ha' hstep hok hok'

end Store

section Runs

variable [Runtime] {c : Commit} {pre core : List Write}

omit [Runtime] in
theorem not_judges_of_table {w : Write} (h : w.table ∉ workTables) : ¬w.Judges := by
  cases w with
  | setStepState => simp [Write.table, workTables] at h
  | setAttemptState => simp [Write.table, workTables] at h
  | insertResult => simp [Write.table, workTables] at h
  | _ => exact id

/-- Every commit keeps the judgements, and only an import makes one. -/
theorem Done.judged (h : Done c pre core) (hj : Judged c.before) : Judged (after c) := by
  have hstart : Judged (applyAll Db.apply pre c.before) :=
    hj.congr h.same.steps h.same.attempts h.same.results
  obtain ⟨held, hguarded⟩ := h.guarded
  have hdeed := h.deed
  have hwf := h.wf
  rw [after, h.log, applyAll_append]
  generalize applyAll Db.apply pre c.before = V at *
  have hplain : (∀ w ∈ core, ¬w.Judges) → Judged (applyAll Db.apply core V) :=
    hstart.applyAll hwf hguarded
  generalize c.request = request at hdeed
  generalize c.answer = answer at hdeed
  cases hdeed with
  | idle _ _ _ hws => exact hplain fun w hw => not_judges_of_table (hws w hw)
  | created _ _ scheduleId principal draft mode ids post hpost =>
    refine hplain fun w hw => ?_
    simp only [creation, List.mem_append, List.mem_cons, List.mem_map] at hw
    obtain (rfl | ⟨_, -, rfl⟩) | hw := hw
    · exact id
    · exact id
    · rcases hpost with rfl | rfl <;> simp at hw
      subst hw
      exact id
  | activated => exact hplain (by simp [Write.Judges])
  | paused => exact hplain (by simp [Write.Judges])
  | sealed => exact hplain (by simp [Write.Judges])
  | exported _ _ principal scheduleId stepId outcomeRef m hexported =>
    refine hplain fun w hw => ?_
    simp only [Dispatch.writes, moves, List.mem_append, List.mem_cons, List.not_mem_nil,
      or_false, Option.mem_toList, Option.map_eq_some_iff, List.mem_map, setAll] at hw
    obtain ((((⟨_, -, rfl⟩ | ⟨_, -, rfl⟩) | rfl | rfl) | ⟨_, -, rfl⟩) | rfl) | hw | rfl := hw
    any_goals exact id
    · split at hw <;> simp at hw
      simp [hw, Write.Judges]
    · simp [Write.Judges]
  | supervised => exact hplain (by simp [Write.Judges])
  | imported _ _ _ _ _ _ _ _ _ _ _ himported => exact himported.judged hstart
  | controlled _ _ _ _ _ _ _ _ _ ws _ _ _ hcontent =>
    refine hplain fun w hmem => ?_
    rcases List.mem_append.mp hmem with hw | hw
    · clear hmem
      cases hcontent with
      | other => simp at hw
      | cancel =>
        simp only [cancelWrites, List.mem_append, List.mem_map] at hw
        obtain ⟨_, -, rfl⟩ | ⟨_, -, rfl⟩ := hw <;> simp [Write.Judges]
    · rcases List.mem_cons.mp hw with rfl | hw
      · exact id
      · obtain rfl := List.mem_singleton.mp hw
        exact id

theorem judged_store {s : Orchestration} (h : Reachable s) : Judged s.store := by
  have hcommits := commits_of_reachable h
  generalize s.history = history at hcommits
  generalize s.store = store at hcommits
  induction hcommits with
  | nil => exact judged_empty
  | cons c hearlier hsound ih =>
    obtain ⟨pre, core, hdone⟩ := done_of_sound hsound
    exact hdone.judged ih

/-- The attempts of each step, as every reader finds them. -/
structure AttemptLedger (db : Db) : Prop extends Judged db where
  /-- The numbers of the attempts of a step are 1, 2, … without a gap. -/
  numbered : ∀ stepId, ∃ n, ∀ m, db.Numbered stepId m ↔ 1 ≤ m ∧ m ≤ n
  distinct : ∀ k k' a a', db.attempts.lookup k = some a → db.attempts.lookup k' = some a' →
    a.stepId = a'.stepId → a.attemptNumber = a'.attemptNumber → k = k'
  oneOpen : ∀ k k' a a', db.attempts.lookup k = some a → db.attempts.lookup k' = some a' →
    a.stepId = a'.stepId → a.state = .open → a'.state = .open → k = k'

/-- Whatever the interleaving, the ledger of every reachable store is in order. -/
theorem attempt_ledger {s : Orchestration} (h : Reachable s) : AttemptLedger s.store where
  toJudged := judged_store h
  numbered := (wellformed_store h).numbering
  distinct := (wellformed_store h).number_unique
  oneOpen := (wellformed_store h).single_open

end Runs

/-- The run in which the only step of a work returns. -/
theorem attempt_ledger_lastReturn : ∃ s : Orchestration, Reachable s ∧
    (Table.rows s.store.attempts).map (fun a => (a.attemptNumber, a.state)) = [(1, .closedOk)] ∧
    AttemptLedger s.store := by
  obtain ⟨s, hreach, hattempts, -⟩ := exists_lastReturn
  exact ⟨s, hreach, hattempts, attempt_ledger hreach⟩

end PiaOs
