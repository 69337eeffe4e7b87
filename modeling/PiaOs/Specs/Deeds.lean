import PiaOs.Specs.Settling

/-!
# What a commit does to the work

The entry points differ in what they do to Schedules, steps, attempts and results. The
receipts and the expired delegations that they write before are set apart here.
-/

/-! ## Every entry point keeps the contract

So whatever the interleaving, each commit of a run is one of those described by
`Ended`, made of legitimate writes, and leaves a settled store. -/

namespace PiaOs

open Support Transactions Repository CommandReceiptService

variable [Runtime] {S : Scene protocol} {began past : Db} {held : List Lock} {log : List Write}

/-- An entry point that only claims a triple and shows the outcome. -/
theorem keeps_of_claims {α : Type} {request : Request}
    {wrap : CommandOutcome → Option α → Answer} {p : Action (CommandOutcome × Option α)}
    (h : Claims S began request wrap p began [] []) :
    Keeps protocol contract request began S began [] [] (p >>= fun b => .pure (wrap b.1 b.2)) := by
  refine .bind (h.mono ?_ ?_)
  · rintro b _ _ _ ⟨ws, rfl, hclaimed⟩
    exact .claimed _ _ _ hclaimed
  · exact fun e _ hrefused triple sha256 hcommand _ => hrefused triple sha256 hcommand

/-- `criar_schedule` activates what it has created. -/
theorem keeps_criarSchedule {caller : Caller} {draft : ScheduleDraft} {mode : HandoffMode} :
    Keeps protocol contract (.criarSchedule caller draft mode) began S began [] []
      (criarSchedule caller draft mode) := by
  have hfails : ∀ (e : Failure) (log : List Write),
      contract.fails (.criarSchedule caller draft mode) S.now began S.final e log :=
    fun _ _ _ _ _ h => by simp [Request.direct] at h
  refine .bind (.require (fun _ => hfails _ _) fun _ => ?_)
  have hclaims : Claims S began (.createScheduleOnce caller draft mode) .created
      (createScheduleOnce caller.principalRef caller.commandKey draft mode) began [] [] :=
    claims_createScheduleOnce
  refine .bind (hclaims.mono ?_ fun e log _ => hfails e log)
  rintro ⟨recibo, saida⟩ past' held' _ ⟨ws, rfl, hclaimed⟩
  have hshown : ∀ recibo : CommandOutcome, ∀ past held ws,
      (∀ view, Claimed began S.final S.now (.criarSchedule caller draft mode)
        (.created recibo view) ws) →
      S.Yields (fun a _ _ log => contract.commits (.criarSchedule caller draft mode) S.now began
        S.final a log) (do
          let vista ← ScheduleService.getSchedule caller.principalRef recibo.outcomeRef
          pure (Answer.created recibo (some vista))) past held ws := by
    intro recibo past held ws h
    exact .bind (ScheduleService.yields_getSchedule fun view _ => .claimed _ _ _ (h _))
  cases hclaimed with
  | replay triple sha256 r hcommand hr hsha hrecibo =>
    obtain rfl := Option.some.inj hrecibo
    refine (hshown _ past' held' [] fun view => ?_).mono (fun _ _ _ _ h => h)
      fun e log _ => hfails e log
    exact .replay triple sha256 r hcommand hr hsha rfl
  | ran triple sha256 r ws hcommand hfree htriple hsha hrecibo heffect =>
    obtain rfl := Option.some.inj hrecibo
    obtain ⟨ids, hlength, rfl⟩ := heffect
    refine Scene.Ends.mono (E := fun _ _ => True) (.bind ?_) (fun _ _ _ _ h => h)
      fun e log _ => hfails e log
    refine ScheduleService.yields_activate fun view g db held'' _ _ _ _ => ?_
    refine hshown _ db held'' _ fun view => ?_
    exact .ran triple sha256 r _ hcommand hfree htriple hsha rfl ⟨ids, hlength, rfl⟩

/-- `_replay_de_export` only reads. -/
theorem yields_replayDeExport {Q : Option CommandReceipt → Db → List Lock → List Write → Prop}
    {triple : CommandTriple} {impressao : String} (h : ∀ o db, Q o db held log) :
    S.Yields Q (replayDeExport triple impressao) past held log := by
  refine .bind (ends_read fun _ db _ _ _ => ?_)
  exact yields_require fun _ => h _ db

/-- The last part of `exportar_handoff`: the export itself. -/
private def exportacao (humanGate : GateDecision) (caller : Caller) (scheduleId stepId : Uuid) :
    Action Answer := do
  let (recibo, saida) ← exportHandoffOnce
    (fun attemptId => ManualHandoffExportService.exportStep humanGate attemptId
      caller.principalRef scheduleId stepId caller.principalRef)
    caller.principalRef caller.commandKey scheduleId stepId caller.principalRef
  pure (.exported recibo saida)

/-- `exportar_handoff` pauses the Schedule when the gate blocks, and exports otherwise. -/
theorem keeps_exportarHandoff {humanGate : GateDecision} {caller : Caller}
    {scheduleId stepId : Uuid} :
    Keeps protocol contract (.exportarHandoff humanGate caller scheduleId stepId) began S began [] []
      (exportarHandoff humanGate caller scheduleId stepId) := by
  refine Scene.Ends.mono (E := fun _ _ => True) ?_ (fun _ _ _ _ h => h)
    fun _ _ _ _ _ _ h => by simp [Request.direct] at h
  -- The export itself, after what the preflight has expired.
  have hexport : ∀ past held kept,
      S.Yields (fun a _ _ log => contract.commits (.exportarHandoff humanGate caller scheduleId stepId)
        S.now began S.final a log) (exportacao humanGate caller scheduleId stepId) past held
        (setAll kept .expired) := by
    intro past held kept
    have hclaims : Claims S began (.exportarHandoff humanGate caller scheduleId stepId) .exported
        (exportHandoffOnce (fun attemptId => ManualHandoffExportService.exportStep humanGate
          attemptId caller.principalRef scheduleId stepId caller.principalRef) caller.principalRef
          caller.commandKey scheduleId stepId caller.principalRef) past held (setAll kept .expired) :=
      claims_exportHandoffOnce rfl fun V outcomeRef a m hexported => ⟨m, hexported, rfl⟩
    refine .bind (hclaims.mono ?_ ?_)
    · rintro b _ _ _ ⟨ws, rfl, hclaimed⟩
      exact .cleared _ _ _ _ _ kept ws hclaimed
    · exact fun _ _ _ => trivial
  refine .bind (yields_replayDeExport fun antes db => ?_)
  by_cases hantes : antes.isSome = true
  · rw [if_pos hantes]
    refine .bind (.pure ?_)
    simp only [hantes, if_true]
    exact .bind (.pure (hexport db [] []))
  rw [if_neg hantes]
  refine .bind (.bind (ends_lockSchedule (fun _ _ _ _ => .bind (.orRaise (fun _ => trivial)
    (by simp))) ?_))
  rintro db₂ v held₂ g - - - - -
  refine .bind (.orRaise (fun _ => trivial) fun _ _ => ?_)
  refine .bind (yields_replayDeExport fun replay db₃ => ?_)
  by_cases hreplay : replay.isSome = true
  · simp only [hreplay, if_true]
    exact .bind (.pure (hexport db₃ _ []))
  simp only [hreplay]
  refine .bind (ManualHandoffExportService.yields_preflight ?_)
  intro result g' r kept db₄ held₄ _ _ _ _ _ _ _ _ _ _
  cases result with
  | authorized aut => exact .bind (.pure (hexport db₄ held₄ kept))
  | blocked bloqueio =>
    refine .bind (.bind (.bind (ControlService.yields_registerPause ?_)))
    intro o ws db₅ held₅ _ hpause
    exact Ended.blocked _ _ _ _ _ kept ws _ hpause

/-- Every entry point keeps the contract and commits settled stores. -/
theorem obeys : Obeys protocol contract where
  keeps := by
    intro request began S horigin hbegan
    have hwf : Wellformed S.final := wellformed_of_evolve (horigin.trans hbegan)
    have hfails : ∀ {request : Request} {p : Action Answer}, request.command = none →
        S.Yields (fun a _ _ log => Ended began S.final S.now request a log) p began [] [] →
        Keeps protocol contract request began S began [] [] p := by
      intro request p hnone h
      exact h.mono (fun _ _ _ _ h => h) fun _ _ _ _ _ hcommand => by simp [hnone] at hcommand
    cases request with
    | createScheduleOnce caller draft mode => exact keeps_of_claims claims_createScheduleOnce
    | criarSchedule caller draft mode => exact keeps_criarSchedule
    | sealHandoffOnce caller scheduleId stepId sealerRef =>
      exact keeps_of_claims (claims_sealHandoffOnce .refl)
    | exportHandoffOnce humanGate caller scheduleId stepId sealerRef =>
      exact keeps_of_claims (claims_exportHandoffOnce rfl fun _ _ _ m h => ⟨m, h, rfl⟩)
    | exportarHandoff humanGate caller scheduleId stepId => exact keeps_exportarHandoff
    | exportarMcp protecao caller scheduleId stepId =>
      refine .bind (.require (fun hblocked _ _ _ hdirect => ?_) fun _ =>
        keeps_of_claims (claims_exportMcpOnce .refl))
      simp [Request.direct, hblocked] at hdirect
    | importReturnOnce comControle caller scheduleId stepId attemptId raw attribution =>
      exact keeps_of_claims (claims_importReturnOnce hwf)
    | grantDelegationOnce caller scheduleId stepId validUntil =>
      exact keeps_of_claims claims_grantDelegationOnce
    | revokeDelegationOnce caller scheduleId stepId delegationId =>
      exact keeps_of_claims (claims_revokeDelegationOnce hwf)
    | controlScheduleOnce caller scheduleId action categoria =>
      exact keeps_of_claims claims_controlScheduleOnce
    | issueAuditOpinionOnce caller scheduleId attemptId opinion reasons auditor =>
      exact keeps_of_claims claims_issueAuditOpinionOnce
    | activate principal scheduleId =>
      refine hfails rfl (.bind (ScheduleService.yields_activate fun view g db held _ _ hg hdraft => ?_))
      exact Ended.activated principal scheduleId _ g hg hdraft
    | expireStaleDelegations principal scheduleId stepId =>
      refine hfails rfl (.bind (yields_expireStaleDelegations fun n kept db held _ hkept => ?_))
      exact Ended.expired principal scheduleId stepId _ kept hkept.rows
    | revokeActiveDelegations principal scheduleId stepId scope =>
      refine hfails rfl (.bind (yields_revokeActiveDelegations fun n kept db held _ hkept => ?_))
      exact Ended.revoked principal scheduleId stepId scope _ kept hkept.rows
    | consumeDelegation principal scheduleId stepId delegationId hash scope attemptId =>
      refine hfails rfl (.bind (yields_consumeDelegation (fun db held _ => ?_)
        fun d db held _ hd _ hconsumable => ?_))
      · exact Ended.unconsumed principal scheduleId stepId delegationId hash scope attemptId
      · exact Ended.consumed principal scheduleId stepId delegationId hash scope attemptId d hd
          hconsumable
  settles := by
    intro request now began final a held log hfinal hguarded hended
    exact hended.settles (hfinal.settled settled_empty) (wellformed_of_evolve hfinal) hguarded

/-- The commits of a run, newest first. -/
theorem commits_of_reachable {s : Orchestration} (h : Reachable s) :
    Commits protocol contract s.history s.store :=
  (sound_of_reachable obeys h).commits

/-- The committed store right after a commit. -/
def after (c : Commit) : Db := applyAll Db.apply c.log c.before

section Reachable

variable {s : Orchestration} {c : Commit}

theorem wellformed_store (h : Reachable s) : Wellformed s.store :=
  wellformed_of_evolve (commits_of_reachable h).evolve

theorem wellformed_before (h : Reachable s) (hc : c ∈ s.history) : Wellformed c.before :=
  wellformed_of_evolve ((commits_of_reachable h).sound hc).origin_before

/-- What a commit has left only changes as others may change it. -/
theorem later_store (h : Reachable s) (hc : c ∈ s.history) :
    Later [] c.before (after c) ∧ Later [] (after c) s.store := by
  obtain ⟨newer, earlier, hsplit⟩ := List.append_of_mem hc
  obtain ⟨-, hsound, hlater⟩ := Commits.split (hsplit ▸ commits_of_reachable h)
  exact ⟨.of_evolve hsound.evolve, .of_evolve hlater⟩

end Reachable

end PiaOs

/-! ## What a commit does to the work -/

namespace PiaOs

open Support Transactions Repository

/-- The tables of the work itself. -/
def workTables : List TableName := [.schedules, .steps, .attempts, .results]

/-- What a transaction does to the work, over the store `V` that it finds at its commit. -/
inductive Deed [Runtime] (began V : Db) (now : Instant) : Request → Answer → List Write → Prop
  | idle (request : Request) (a : Answer) (ws : List Write) :
    (∀ w ∈ ws, w.table ∉ workTables) → Deed began V now request a ws
  | created (request : Request) (a : Answer) (scheduleId : Uuid) (principal : String)
      (draft : ScheduleDraft) (mode : HandoffMode) (ids : List Uuid) (post : List Write) :
    post = [] ∨ post = [.setScheduleState scheduleId .active] →
    Deed began V now request a (creation scheduleId principal draft mode ids ++ post)
  | activated (request : Request) (a : Answer) (scheduleId : Uuid) (g : Schedule) :
    V.schedules.lookup scheduleId = some g → g.state = .draft →
    Deed began V now request a [.setScheduleState scheduleId .active]
  | paused (request : Request) (a : Answer) (scheduleId : Uuid) (g : Schedule)
      (e : OrchestrationControlEvent) :
    V.schedules.lookup scheduleId = some g → g.state = .active →
    Deed began V now request a [.setScheduleState scheduleId .paused, .insertEvent e]
  | sealed (caller : Caller) (scheduleId stepId : Uuid) (sealerRef : String) (a : Answer)
      (outcomeRef : Uuid) (row : HandoffAttempt) (s : SealReceipt) :
    Opened began V caller.principalRef scheduleId stepId outcomeRef row →
    Deed began V now (.sealHandoffOnce caller scheduleId stepId sealerRef) a
      [.insertAttempt row, .insertSeal s]
  | exported (request : Request) (a : Answer) (principal : String)
      (scheduleId stepId outcomeRef : Uuid) (m : Dispatch) :
    Exported V now principal scheduleId stepId outcomeRef m →
    Deed began V now request a (m.writes now stepId)
  | supervised (protecao : GatePosition → ProtectionDecision) (caller : Caller)
      (scheduleId stepId : Uuid) (a : Answer) (outcomeRef : Uuid) (row : HandoffAttempt)
      (s : SealReceipt) (r : ScheduleStep) :
    Opened began V caller.principalRef scheduleId stepId outcomeRef row →
    V.steps.lookup stepId = some r → r.state = .pending ∨ r.state = .awaitingReturn →
    Deed began V now (.exportarMcp protecao caller scheduleId stepId) a
      [.insertAttempt row, .insertSeal s, .setStepState stepId .awaitingReturn]
  | imported (comControle : Bool) (caller : Caller) (scheduleId stepId attemptId : Uuid)
      (raw : RawReturn) (attribution : DeclaredAttribution) (a : Answer) (m : ReturnRows)
      (accepted : Bool) (ws : List Write) :
    Imported V comControle caller.principalRef scheduleId stepId attemptId raw m accepted ws →
    Deed began V now
      (.importReturnOnce comControle caller scheduleId stepId attemptId raw attribution) a
      (m.writes attemptId accepted ++ ws)
  | controlled (caller : Caller) (scheduleId : Uuid) (action : String)
      (categoria : Option StopConditionCategory) (recibo : CommandOutcome) (g : Schedule)
      (e : OrchestrationControlEvent) (destino : ScheduleState) (counts : Nat × Nat)
      (ws : List Write) :
    ControlService.acaoDestino action = some destino → V.schedules.lookup scheduleId = some g →
    (g.state, destino) ∈ e73ScheduleTransitions →
    ControlService.Content V scheduleId destino counts ws →
    Deed began V now (.controlScheduleOnce caller scheduleId action categoria)
      (.controlled recibo (some ⟨scheduleId, destino, e, counts.1, counts.2⟩))
      (ws ++ [.setScheduleState scheduleId destino, .insertEvent e])

/-- Two stores with the same work. -/
structure SameWork (db db' : Db) : Prop where
  schedules : db.schedules = db'.schedules
  steps : db.steps = db'.steps
  attempts : db.attempts = db'.attempts
  results : db.results = db'.results

theorem sameWork_applyAll {ws : List Write} {V : Db} (h : ∀ w ∈ ws, w.table ∉ workTables) :
    SameWork (applyAll Db.apply ws V) V := by
  have hsame : ∀ t ∈ workTables, SameTable t (applyAll Db.apply ws V) V :=
    fun t ht => sameTable_applyAll fun w hw heq => h w hw (heq ▸ ht)
  exact ⟨hsame .schedules (by simp [workTables]), hsame .steps (by simp [workTables]),
    hsame .attempts (by simp [workTables]), hsame .results (by simp [workTables])⟩

private theorem setAll_table {kept : List ServiceDelegation} {state : DelegationState} {w : Write}
    (hw : w ∈ setAll kept state) : w.table = .delegations := by
  obtain ⟨_, -, rfl⟩ := List.mem_map.mp hw
  rfl

/-- The receipts and the expired delegations that a transaction writes before it turns to
the work. -/
def Aside (pre : List Write) : Prop :=
  ∀ w ∈ pre, (∃ r, w = .insertReceipt r) ∨ ∃ id, w = .setDelegationState id .expired

theorem Aside.table {pre : List Write} (h : Aside pre) {w : Write} (hw : w ∈ pre) :
    w.table = .receipts ∨ w.table = .delegations := by
  obtain ⟨r, rfl⟩ | ⟨id, rfl⟩ := h w hw
  · exact .inl rfl
  · exact .inr rfl

theorem Aside.sameWork {pre : List Write} {V : Db} (h : Aside pre) :
    SameWork (applyAll Db.apply pre V) V :=
  sameWork_applyAll fun w hw => by rcases h.table hw with heq | heq <;> simp [heq, workTables]

variable [Runtime] {began V : Db} {now : Instant} {request : Request} {a : Answer}
  {ws : List Write}

theorem Effect.deed {outcomeRef : Uuid} (h : Effect began V now outcomeRef request a ws) :
    Deed began V now request a ws := by
  cases request with
  | createScheduleOnce caller draft mode =>
    obtain ⟨ids, -, rfl⟩ := h
    have hcreated : Deed began V now (.createScheduleOnce caller draft mode) a
        (creation outcomeRef caller.principalRef draft mode ids ++ []) :=
      .created _ _ _ _ _ _ _ _ (.inl rfl)
    rwa [List.append_nil] at hcreated
  | criarSchedule caller draft mode =>
    obtain ⟨ids, -, rfl⟩ := h
    exact .created _ _ _ _ _ _ _ _ (.inr rfl)
  | sealHandoffOnce caller scheduleId stepId sealerRef =>
    obtain ⟨row, s, hopened, -, rfl⟩ := h
    exact .sealed caller scheduleId stepId sealerRef a outcomeRef row s hopened
  | exportHandoffOnce humanGate caller scheduleId stepId sealerRef =>
    obtain ⟨m, hexported, rfl⟩ := h
    exact .exported _ _ _ _ _ _ m hexported
  | exportarHandoff humanGate caller scheduleId stepId =>
    obtain ⟨m, hexported, rfl⟩ := h
    exact .exported _ _ _ _ _ _ m hexported
  | exportarMcp protecao caller scheduleId stepId =>
    obtain ⟨row, s, hopened, ⟨r, hr, hstate⟩, -, rfl⟩ := h
    exact .supervised protecao caller scheduleId stepId a outcomeRef row s r hopened hr hstate
  | importReturnOnce comControle caller scheduleId stepId attemptId raw attribution =>
    obtain ⟨m, accepted, ws', himported, rfl⟩ := h
    exact .imported _ _ _ _ _ _ _ _ m accepted ws' himported
  | grantDelegationOnce caller scheduleId stepId validUntil =>
    obtain ⟨expired, revoked, d, -, rfl⟩ := h
    refine .idle _ _ _ fun w hw => ?_
    simp only [List.mem_append, List.mem_singleton] at hw
    obtain (hw | hw) | rfl := hw
    · simp [setAll_table hw, workTables]
    · simp [setAll_table hw, workTables]
    · simp [Write.table, workTables]
  | revokeDelegationOnce caller scheduleId stepId delegationId =>
    obtain ⟨kept, -, rfl⟩ := h
    exact .idle _ _ _ fun w hw => by simp [setAll_table hw, workTables]
  | controlScheduleOnce caller scheduleId action categoria =>
    obtain ⟨recibo, g, e, destino, counts, ws', hdestino, hg, -, htrans, -, hcontent, rfl, rfl⟩ := h
    exact .controlled caller scheduleId action categoria recibo g e destino counts ws' hdestino hg
      htrans hcontent
  | issueAuditOpinionOnce caller scheduleId attemptId opinion reasons auditor =>
    obtain ⟨o, rfl⟩ := h
    exact .idle _ _ _ (by simp [Write.table, workTables])
  | _ => exact h.elim

theorem Claimed.deed (h : Claimed began V now request a ws) :
    ∃ pre core, ws = pre ++ core ∧ Aside pre ∧
      Deed began (applyAll Db.apply pre V) now request a core := by
  cases h with
  | replay => exact ⟨[], [], rfl, by simp [Aside], .idle _ _ _ (by simp)⟩
  | ran triple sha256 r ws _ _ _ _ _ heffect =>
    exact ⟨[.insertReceipt r], ws, rfl, by simp [Aside], heffect.deed⟩

/-- Every commit is a deed, after receipts and delegations. -/
theorem Ended.deed (h : Ended began V now request a ws) :
    ∃ pre core, ws = pre ++ core ∧ Aside pre ∧
      Deed began (applyAll Db.apply pre V) now request a core := by
  have haside : ∀ kept : List ServiceDelegation, Aside (setAll kept .expired) :=
    fun kept w hw => by
      obtain ⟨id, -, rfl⟩ := List.mem_map.mp hw
      exact .inr ⟨id, rfl⟩
  have hidle : (∀ w ∈ ws, w.table ∉ workTables) → ∃ pre core, ws = pre ++ core ∧ Aside pre ∧
      Deed began (applyAll Db.apply pre V) now request a core :=
    fun hws => ⟨[], ws, rfl, by simp [Aside], .idle _ _ _ hws⟩
  cases h with
  | claimed _ _ _ hclaimed => exact hclaimed.deed
  | cleared gate caller scheduleId stepId a kept ws hclaimed =>
    obtain ⟨pre, core, rfl, hpre, hdeed⟩ := hclaimed.deed
    refine ⟨setAll kept .expired ++ pre, core, (List.append_assoc ..).symm, fun w hw => ?_, ?_⟩
    · exact (List.mem_append.mp hw).elim (haside kept w) (hpre w)
    · rw [applyAll_append]
      exact hdeed
  | blocked gate caller scheduleId stepId recusa kept ws reason hpause =>
    refine ⟨setAll kept .expired, ws, rfl, haside kept, ?_⟩
    cases hpause with
    | nothing => exact .idle _ _ _ (by simp)
    | again => exact .idle _ _ _ (by simp [Write.table, workTables])
    | pause g e hg hactive => exact .paused _ _ scheduleId g e hg hactive
  | activated principal scheduleId a g hg hdraft =>
    exact ⟨[], _, rfl, by simp [Aside], .activated _ _ scheduleId g hg hdraft⟩
  | expired => exact hidle fun w hw => by simp [setAll_table hw, workTables]
  | revoked => exact hidle fun w hw => by simp [setAll_table hw, workTables]
  | unconsumed => exact hidle (by simp)
  | consumed => exact hidle (by simp [Write.table, workTables])

/-- What a commit of a run does. -/
structure Done (c : Commit) (pre core : List Write) : Prop where
  log : c.log = pre ++ core
  aside : Aside pre
  same : SameWork (applyAll Db.apply pre c.before) c.before
  deed : Deed c.began (applyAll Db.apply pre c.before) c.now c.request c.answer core
  wf : Wellformed (applyAll Db.apply pre c.before)
  guarded : ∃ held, protocol.Guarded held (applyAll Db.apply pre c.before) core

theorem done_of_sound {c : Commit} (h : c.Sound protocol contract) : ∃ pre core, Done c pre core := by
  obtain ⟨pre, core, hlog, haside, hdeed⟩ := Ended.deed h.commits
  obtain ⟨held, hguarded⟩ := h.guarded
  rw [hlog] at hguarded
  obtain ⟨hpre, hcore⟩ := Protocol.Allowed.of_append hguarded
  exact ⟨pre, core, hlog, haside, haside.sameWork, hdeed,
    (wellformed_of_evolve h.origin_before).applyAll hpre, held, hcore⟩

end PiaOs
