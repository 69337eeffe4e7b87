import PiaOs.Specs.Commands
import PiaOs.Transactions.Soundness

/-!
# What each entry point may commit

One relation describes the commits of every entry point: which receipt they meet or
make, what they write and what holds of the store they write to.
-/

namespace PiaOs

open Support Transactions Repository CommandReceiptService

/-- An attempt that a commit opens. Its Schedule was active at some moment since the
transaction began. -/
structure Opened [Runtime] (began V : Db) (principal : String)
    (scheduleId stepId attemptId : Uuid) (a : HandoffAttempt) : Prop where
  attempt_id : a.id = attemptId
  attempt_schedule : a.scheduleId = scheduleId
  attempt_step : a.stepId = stepId
  attempt_open : a.state = .open
  step : ∃ r, V.steps.lookup stepId = some r ∧ r.scheduleId = scheduleId ∧
    a.contentSha256 = (EnvelopeContent.ofDraft scheduleId stepId r.draft).contentSha256
  schedule : ∃ g, V.schedules.lookup scheduleId = some g ∧ g.controlPrincipalRef = principal ∧
    g.state ≠ .draft
  seen : ∃ db g, Later [] began db ∧ db.schedules.lookup scheduleId = some g ∧ g.state = .active
  no_open : ∀ k b, V.attempts.lookup k = some b → b.stepId = stepId → b.state ≠ .open

/-- The rows of a new Schedule. -/
def creation (scheduleId : Uuid) (principal : String) (draft : ScheduleDraft) (mode : HandoffMode)
    (ids : List Uuid) : List Write :=
  .insertSchedule ⟨scheduleId, draft.title, .draft, mode, principal⟩ ::
    (stepRows scheduleId ids draft.steps.zipIdx).map .insertStep

variable [Runtime]

/-- The triple and the fingerprint of an idempotent request. -/
def Request.command : Request → Option (CommandTriple × String)
  | .createScheduleOnce caller draft mode | .criarSchedule caller draft mode =>
    some (⟨caller.principalRef, .createSchedule, caller.commandKey⟩, impressaoCreate draft mode)
  | .sealHandoffOnce caller scheduleId stepId sealerRef =>
    some (⟨caller.principalRef, .sealHandoff, caller.commandKey⟩,
      impressaoSeal scheduleId stepId sealerRef)
  | .exportHandoffOnce _ caller scheduleId stepId sealerRef =>
    some (⟨caller.principalRef, .exportHandoff, caller.commandKey⟩,
      impressaoExport scheduleId stepId sealerRef)
  | .exportarHandoff _ caller scheduleId stepId | .exportarMcp _ caller scheduleId stepId =>
    some (⟨caller.principalRef, .exportHandoff, caller.commandKey⟩,
      impressaoExport scheduleId stepId caller.principalRef)
  | .importReturnOnce _ caller scheduleId stepId attemptId raw attribution =>
    some (⟨caller.principalRef, .importReturn, caller.commandKey⟩,
      impressaoImport scheduleId stepId attemptId raw attribution)
  | .grantDelegationOnce caller scheduleId stepId validUntil =>
    some (⟨caller.principalRef, .grantDelegation, caller.commandKey⟩,
      impressaoGrant scheduleId stepId validUntil)
  | .revokeDelegationOnce caller scheduleId stepId delegationId =>
    some (⟨caller.principalRef, .revokeDelegation, caller.commandKey⟩,
      impressaoRevoke scheduleId stepId delegationId)
  | .controlScheduleOnce caller scheduleId action categoria =>
    some (⟨caller.principalRef, .controlSchedule, caller.commandKey⟩,
      impressaoControl scheduleId action categoria)
  | .issueAuditOpinionOnce caller scheduleId attemptId opinion reasons auditor =>
    some (⟨caller.principalRef, .issueAuditOpinion, caller.commandKey⟩,
      impressaoAudit scheduleId attemptId opinion reasons auditor)
  | .activate .. | .expireStaleDelegations .. | .revokeActiveDelegations ..
  | .consumeDelegation .. => none

/-- Whether nothing but the claim of its triple can stop a request before its effect. -/
def Request.direct : Request → Bool
  | .criarSchedule .. | .exportarHandoff .. => false
  | .exportarMcp protecao .. => (protecao .g2).allowed
  | _ => true

/-- The effect of an idempotent request: what it writes after its receipt, and what then
holds of the store `V` that it is committed to. -/
def Effect (began V : Db) (now : Instant) (outcomeRef : Uuid) :
    Request → Answer → List Write → Prop
  | .createScheduleOnce caller draft mode, _, ws =>
    ∃ ids, ids.length = draft.steps.length ∧
      ws = creation outcomeRef caller.principalRef draft mode ids
  | .criarSchedule caller draft mode, _, ws =>
    ∃ ids, ids.length = draft.steps.length ∧
      ws = creation outcomeRef caller.principalRef draft mode ids ++
        [.setScheduleState outcomeRef .active]
  | .sealHandoffOnce caller scheduleId stepId _, _, ws =>
    ∃ a s, Opened began V caller.principalRef scheduleId stepId outcomeRef a ∧
      s.attemptId = outcomeRef ∧ ws = [.insertAttempt a, .insertSeal s]
  | .exportHandoffOnce _ caller scheduleId stepId _, _, ws
  | .exportarHandoff _ caller scheduleId stepId, _, ws =>
    ∃ m, Exported V now caller.principalRef scheduleId stepId outcomeRef m ∧
      ws = m.writes now stepId
  | .exportarMcp _ caller scheduleId stepId, _, ws =>
    ∃ a s, Opened began V caller.principalRef scheduleId stepId outcomeRef a ∧
      (∃ r, V.steps.lookup stepId = some r ∧ (r.state = .pending ∨ r.state = .awaitingReturn)) ∧
      s.attemptId = outcomeRef ∧
      ws = [.insertAttempt a, .insertSeal s, .setStepState stepId .awaitingReturn]
  | .importReturnOnce comControle caller scheduleId stepId attemptId raw _, _, ws =>
    ∃ m accepted ws', Imported V comControle caller.principalRef scheduleId stepId attemptId raw m
      accepted ws' ∧ ws = m.writes attemptId accepted ++ ws'
  | .grantDelegationOnce _ scheduleId stepId _, _, ws =>
    ∃ expired revoked d, Granted V now scheduleId stepId outcomeRef expired revoked d ∧
      ws = setAll expired .expired ++ setAll revoked .revoked ++ [.insertDelegation d]
  | .revokeDelegationOnce _ scheduleId stepId delegationId, _, ws =>
    ∃ kept, Revoked V scheduleId stepId delegationId kept ∧ ws = setAll kept .revoked
  | .controlScheduleOnce caller scheduleId action _, a, ws =>
    ∃ recibo g e destino counts ws', ControlService.acaoDestino action = some destino ∧
      V.schedules.lookup scheduleId = some g ∧ g.controlPrincipalRef = caller.principalRef ∧
      (g.state, destino) ∈ e73ScheduleTransitions ∧ e.scheduleId = scheduleId ∧
      ControlService.Content V scheduleId destino counts ws' ∧
      a = .controlled recibo (some ⟨scheduleId, destino, e, counts.1, counts.2⟩) ∧
      ws = ws' ++ [.setScheduleState scheduleId destino, .insertEvent e]
  | .issueAuditOpinionOnce .., _, ws => ∃ o, ws = [.insertOpinion o]
  | .activate .., _, _ | .expireStaleDelegations .., _, _ | .revokeActiveDelegations .., _, _
  | .consumeDelegation .., _, _ => False

/-- How a call that claims its triple may commit: it meets the receipt of an earlier call,
or it writes the receipt and its effect. -/
inductive Claimed (began V : Db) (now : Instant) (request : Request) (a : Answer) :
    List Write → Prop
  | replay (triple : CommandTriple) (sha256 : String) (r : CommandReceipt) :
    request.command = some (triple, sha256) → V.receipts.lookup triple = some r →
    r.requestSha256 = some sha256 →
    a.recibo = some ⟨r.id, r.triple.technicalPrincipalRef, triple.operation, r.triple.commandKey,
      r.outcomeRef, true⟩ → Claimed began V now request a []
  | ran (triple : CommandTriple) (sha256 : String) (r : CommandReceipt) (ws : List Write) :
    request.command = some (triple, sha256) → V.receipts.lookup triple = none →
    r.triple = triple → r.requestSha256 = some sha256 →
    a.recibo = some ⟨r.id, r.triple.technicalPrincipalRef, triple.operation, r.triple.commandKey,
      r.outcomeRef, false⟩ →
    Effect began (Db.apply (.insertReceipt r) V) now r.outcomeRef request a ws →
    Claimed began V now request a (.insertReceipt r :: ws)

/-- How a transaction may commit to the store `V`. -/
inductive Ended (began V : Db) (now : Instant) : Request → Answer → List Write → Prop
  | claimed (request : Request) (a : Answer) (ws : List Write) :
    Claimed began V now request a ws → Ended began V now request a ws
  | cleared (gate : GateDecision) (caller : Caller) (scheduleId stepId : Uuid) (a : Answer)
      (kept : List ServiceDelegation) (ws : List Write) :
    Claimed began (applyAll Db.apply (setAll kept .expired) V) now
      (.exportarHandoff gate caller scheduleId stepId) a ws →
    Ended began V now (.exportarHandoff gate caller scheduleId stepId) a
      (setAll kept .expired ++ ws)
  | blocked (gate : GateDecision) (caller : Caller) (scheduleId stepId : Uuid) (recusa : Failure)
      (kept : List ServiceDelegation) (ws : List Write) (reason : ControlReasonCode) :
    ControlService.Pause (applyAll Db.apply (setAll kept .expired) V) scheduleId stepId reason ws →
    Ended began V now (.exportarHandoff gate caller scheduleId stepId) (.blocked recusa)
      (setAll kept .expired ++ ws)
  | activated (principal : String) (scheduleId : Uuid) (a : Answer) (g : Schedule) :
    V.schedules.lookup scheduleId = some g → g.state = .draft →
    Ended began V now (.activate principal scheduleId) a [.setScheduleState scheduleId .active]
  | expired (principal : String) (scheduleId stepId : Uuid) (a : Answer)
      (kept : List ServiceDelegation) :
    (∀ d ∈ kept, V.delegations.lookup d.id = some d ∧ stale scheduleId stepId now d = true) →
    Ended began V now (.expireStaleDelegations principal scheduleId stepId) a
      (setAll kept .expired)
  | revoked (principal : String) (scheduleId stepId : Uuid) (scope : String) (a : Answer)
      (kept : List ServiceDelegation) :
    (∀ d ∈ kept, V.delegations.lookup d.id = some d ∧
      activeFor scheduleId stepId scope d = true) →
    Ended began V now (.revokeActiveDelegations principal scheduleId stepId scope) a
      (setAll kept .revoked)
  | unconsumed (principal : String) (scheduleId stepId delegationId : Uuid) (hash scope : String)
      (attemptId : Uuid) :
    Ended began V now
      (.consumeDelegation principal scheduleId stepId delegationId hash scope attemptId)
      (.consumed false) []
  | consumed (principal : String) (scheduleId stepId delegationId : Uuid) (hash scope : String)
      (attemptId : Uuid) (d : ServiceDelegation) :
    V.delegations.lookup delegationId = some d →
    consumable scheduleId stepId hash scope now d = true →
    Ended began V now
      (.consumeDelegation principal scheduleId stepId delegationId hash scope attemptId)
      (.consumed true) [.consumeDelegation delegationId now attemptId]

/-- The contract of the orchestration: how its transactions commit, and how a call of an
idempotent operation whose triple is taken may fail. -/
def contract : Contract orchestration where
  commits request now began V a ws := Ended began V now request a ws
  fails request _ _ V e _ := ∀ triple sha256, request.command = some (triple, sha256) →
    request.direct = true → Refused V triple sha256 e

variable {S : Scene protocol} {began past : Db} {held : List Lock} {log : List Write}
  {principal : String} {scheduleId stepId attemptId : Uuid}

theorem Sealed.opened {V db : Db} {admitted : List StepState} {a : HandoffAttempt}
    (h : Sealed V db held log admitted principal scheduleId stepId attemptId a)
    (hbegan : Later [] began db) (hlog : ∀ w ∈ log, w.table ≠ .schedules) :
    Opened began V principal scheduleId stepId attemptId a where
  attempt_id := h.attempt_id
  attempt_schedule := h.attempt_schedule
  attempt_step := h.attempt_step
  attempt_open := h.attempt_open
  step := by
    obtain ⟨r, hr, hschedule, hhash, -⟩ := h.step
    exact ⟨r, hr, hschedule, hhash⟩
  schedule := by
    obtain ⟨g, hg, hprincipal, hdraft, -⟩ := h.schedule
    exact ⟨g, hg, hprincipal, hdraft⟩
  seen := by
    obtain ⟨db', g, hlater, hg, hactive⟩ := h.seen
    rw [show (applyAll Db.apply log db').schedules = db'.schedules from
      sameTable_applyAll (t := .schedules) hlog] at hg
    exact ⟨db', g, hbegan.trans hlater, hg, hactive⟩
  no_open := h.no_open

/-! ## The idempotent operations -/

/-- The condition on the end of an effect. -/
def Effected (S : Scene protocol) (began : Db) (request : Request) (wrap : CommandOutcome → α → Answer)
    (r : CommandReceipt) (pre : List Write) (a : α) (log : List Write) : Prop :=
  ∃ ws, log = pre ++ .insertReceipt r :: ws ∧ Effect began (S.view (pre ++ [.insertReceipt r]))
    S.now r.outcomeRef request (wrap ⟨r.id, r.triple.technicalPrincipalRef, r.triple.operation,
      r.triple.commandKey, r.outcomeRef, false⟩ a) ws

/-- Every way in which a call that claims its triple ends. -/
def Claims {α : Type} (S : Scene protocol) (began : Db) (request : Request)
    (wrap : CommandOutcome → Option α → Answer) (p : Action (CommandOutcome × Option α)) (past : Db)
    (held : List Lock) (log : List Write) : Prop :=
  S.Ends (fun b _ _ log' => ∃ ws, log' = log ++ ws ∧
      Claimed began (S.view log) S.now request (wrap b.1 b.2) ws)
    (fun e _ => ∀ triple sha256, request.command = some (triple, sha256) →
      Refused (S.view log) triple sha256 e) p past held log

theorem claims_executarUmaVez {α : Type} {request : Request} {triple : CommandTriple}
    {sha256 : String} {proposed : Uuid} {efeito : Action α}
    {wrap : CommandOutcome → Option α → Answer}
    (hcommand : request.command = some (triple, sha256))
    (hrecibo : ∀ r s, (wrap r s).recibo = some r) (hwf : Wellformed (S.view log))
    (heffect : ∀ r db held', held ⊆ held' → r.outcomeRef = proposed → Later [] past db →
      S.Yields (fun a _ _ log' => Effected S began request (fun o a => wrap o (some a)) r log a log')
        efeito db held' (log ++ [.insertReceipt r])) :
    Claims S began request wrap (executarUmaVez triple proposed sha256 efeito) past held log := by
  refine (ends_executarUmaVez hwf ?_ ?_).mono (fun _ _ _ _ h => h) ?_
  · intro r db held' hheld htriple houtcome hsha hlater hnone
    refine (heffect r db held' hheld houtcome hlater).mono ?_ fun _ _ h => h
    rintro a _ _ log' ⟨ws, rfl, hws⟩
    refine ⟨.insertReceipt r :: ws, rfl, .ran triple sha256 r ws hcommand hnone htriple hsha
      (hrecibo _ _) ?_⟩
    rw [Scene.view_append, htriple] at hws
    rw [htriple]
    exact hws
  · intro r db held' _ hr hsha
    exact ⟨[], (List.append_nil _).symm, .replay triple sha256 r hcommand hr hsha (hrecibo _ _)⟩
  · intro e _ hrefused triple' sha256' hcommand'
    obtain ⟨rfl, rfl⟩ := Prod.mk.inj (Option.some.inj (hcommand.symm.trans hcommand'))
    exact hrefused

/-- The same for an operation that draws its identifier first. -/
theorem claims_newUuid {α : Type} {request : Request} {triple : CommandTriple} {sha256 : String}
    {efeito : Uuid → Action α} {wrap : CommandOutcome → Option α → Answer}
    (hcommand : request.command = some (triple, sha256))
    (hrecibo : ∀ r s, (wrap r s).recibo = some r)
    (heffect : ∀ r db held', .identifier r.outcomeRef ∈ held' → Unused (S.view log) r.outcomeRef →
      Later [] past db →
      S.Yields (fun a _ _ log' => Effected S began request (fun o a => wrap o (some a)) r log a log')
        (efeito r.outcomeRef) db held' (log ++ [.insertReceipt r])) :
    Claims S began request wrap
      (newUuid >>= fun id => executarUmaVez triple id sha256 (efeito id)) past held log := by
  refine .bind (ends_newUuid fun id db v hfinds hunused => ?_)
  refine claims_executarUmaVez hcommand hrecibo hfinds.view_wf ?_
  rintro r db' held' hheld rfl hlater
  exact heffect r db' held' (hheld (by simp)) hunused (hfinds.past.trans hlater)

section Effects

variable {caller : Caller} {r : CommandReceipt} {held : List Lock} {db : Db}

theorem claims_createScheduleOnce {draft : ScheduleDraft} {mode : HandoffMode} :
    Claims S began (.createScheduleOnce caller draft mode) .created
      (createScheduleOnce caller.principalRef caller.commandKey draft mode) past held [] := by
  refine claims_newUuid rfl (fun _ _ => rfl) ?_
  intro r db held' hid hunused _
  refine ScheduleService.yields_createSchedule hid hunused.schedules ?_
  intro view ids db' held'' _ hlength
  exact ⟨_, rfl, ids, hlength, rfl⟩

theorem claims_sealHandoffOnce {sealerRef : String} (hbegan : Later [] began past) :
    Claims S began (.sealHandoffOnce caller scheduleId stepId sealerRef) .sealed
      (sealHandoffOnce caller.principalRef caller.commandKey scheduleId stepId sealerRef) past held
      [] := by
  refine claims_newUuid rfl (fun _ _ => rfl) ?_
  intro r db held' hid hunused hlater
  refine HandoffService.yields_sealWith hid hunused.attempts ?_
  intro out a s db' held'' _ _ _ hsealed _ hs _
  exact ⟨_, rfl, a, s, hsealed.opened (hbegan.trans hlater) (by simp [Write.table]), hs, rfl⟩

theorem claims_exportHandoffOnce {humanGate : GateDecision} {sealerRef : String}
    {request : Request} {log : List Write}
    (hcommand : request.command = some (⟨caller.principalRef, .exportHandoff, caller.commandKey⟩,
      impressaoExport scheduleId stepId sealerRef))
    (heffect : ∀ V outcomeRef a m, Exported V S.now caller.principalRef scheduleId stepId outcomeRef m →
      Effect began V S.now outcomeRef request a (m.writes S.now stepId)) :
    Claims S began request .exported
      (exportHandoffOnce (fun attemptId => ManualHandoffExportService.exportStep humanGate attemptId
        caller.principalRef scheduleId stepId sealerRef) caller.principalRef caller.commandKey
        scheduleId stepId sealerRef) past held log := by
  refine claims_newUuid hcommand (fun _ _ => rfl) ?_
  intro r db held' hid hunused _
  refine ManualHandoffExportService.yields_exportStep hid ?_ ?_
  · rw [Scene.view_append]
    exact hunused.attempts
  · intro out m db' held'' _ _ hexported
    exact ⟨_, by rw [List.append_assoc]; rfl, heffect _ _ _ m hexported⟩

theorem claims_exportMcpOnce {protecao : GatePosition → ProtectionDecision}
    (hbegan : Later [] began past) :
    Claims S began (.exportarMcp protecao caller scheduleId stepId) .supervised
      (exportHandoffOnce (fun attemptId => SupervisedAutomaticHandoffExportService.exportStep protecao
        attemptId caller.principalRef scheduleId stepId caller.principalRef) caller.principalRef
        caller.commandKey scheduleId stepId caller.principalRef) past held [] := by
  refine claims_newUuid rfl (fun _ _ => rfl) ?_
  intro r db held' hid hunused hlater
  refine SupervisedAutomaticHandoffExportService.yields_exportStep hid hunused.attempts ?_
  intro out a s db' db'' held'' held₃ _ hpast hstep hsealed hs _
  obtain ⟨row, hrow, -, -, hadmitted⟩ := hsealed.step
  exact ⟨_, rfl, a, s, hsealed.opened (hbegan.trans (hlater.trans hpast)) (by simp [Write.table]),
    ⟨row, hrow, by simpa using hadmitted hstep⟩, hs, rfl⟩

theorem claims_importReturnOnce {comControle : Bool} {raw : RawReturn}
    {attribution : DeclaredAttribution} (hwf : Wellformed S.final) :
    Claims S began (.importReturnOnce comControle caller scheduleId stepId attemptId raw attribution)
      .imported (importReturnOnce comControle caller.principalRef caller.commandKey scheduleId stepId
        attemptId raw attribution) past held [] := by
  refine claims_executarUmaVez rfl (fun _ _ => rfl) hwf ?_
  intro r db held' _ _ _
  refine ReturnValidationService.yields_importReturn hwf (by simp [Write.table]) ?_
  intro out m accepted ws db' held'' _ himported _
  exact ⟨_, by simp, m, accepted, ws, himported, rfl⟩

theorem claims_grantDelegationOnce {validUntil : DateTime} :
    Claims S began (.grantDelegationOnce caller scheduleId stepId validUntil) .delegation
      (grantDelegationOnce caller.principalRef caller.commandKey scheduleId stepId validUntil) past
      held [] := by
  refine claims_newUuid rfl (fun _ _ => rfl) ?_
  intro r db held' hid hunused _
  refine DelegationService.yields_grant hid hunused.delegations ?_
  intro expired revoked d db' held'' _ hgranted
  exact ⟨_, rfl, expired, revoked, d, hgranted, rfl⟩

theorem claims_revokeDelegationOnce {delegationId : Uuid} (hwf : Wellformed S.final) :
    Claims S began (.revokeDelegationOnce caller scheduleId stepId delegationId) .delegation
      (revokeDelegationOnce caller.principalRef caller.commandKey scheduleId stepId delegationId)
      past held [] := by
  refine claims_executarUmaVez rfl (fun _ _ => rfl) hwf ?_
  intro r db held' _ _ _
  refine DelegationService.yields_revoke (by simp [Write.table]) ?_
  intro out kept db' held'' _ hrevoked
  exact ⟨_, rfl, kept, hrevoked, rfl⟩

theorem claims_controlScheduleOnce {action : String} {categoria : Option StopConditionCategory} :
    Claims S began (.controlScheduleOnce caller scheduleId action categoria) .controlled
      (controlScheduleOnce caller.principalRef caller.commandKey scheduleId action categoria) past
      held [] := by
  refine claims_newUuid rfl (fun _ _ => rfl) ?_
  intro r db held' hid hunused _
  refine ControlService.yields_apply hid hunused.events (by simp [Write.table]) ?_
  rintro out g e destino counts ws db' held'' _ hdestino hg hprincipal htrans - he hcontent rfl
  exact ⟨_, by simp, _, g, e, destino, counts, ws, hdestino, hg, hprincipal, htrans, he, hcontent,
    rfl, rfl⟩

theorem claims_issueAuditOpinionOnce {opinion : AuditOpinionKind} {reasons : List String}
    {auditor : String} :
    Claims S began (.issueAuditOpinionOnce caller scheduleId attemptId opinion reasons auditor)
      .opinion (issueAuditOpinionOnce caller.principalRef caller.commandKey scheduleId attemptId
        opinion reasons auditor) past held [] := by
  refine claims_newUuid rfl (fun _ _ => rfl) ?_
  intro r db held' hid hunused _
  refine AuditService.yields_issue hid hunused.opinions ?_
  intro o db' held'' _ _
  exact ⟨_, rfl, o, rfl⟩

end Effects

end PiaOs
