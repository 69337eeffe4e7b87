import PiaOs.Specs.ContentIds

/-!
# What the calls of an instance do

The preflight authorizes the content that it read and the delegation that it found; the dispatch
writes nothing before it has compared the content with the authorized one.
-/

namespace PiaOs

open Support Transactions Repository

/-! ## The preflight -/

/-- The writes of a preflight: delegations past their validity. -/
def Write.Previa : Write → Prop
  | .setDelegationState _ _ => True
  | .setScheduleState _ _ => True
  | .insertEvent _ => True
  | _ => False

/-- The writes of a dispatch are for the authorized content and the authorized delegation. -/
def Write.De (campos : DispatchAuthorized) : Write → Prop
  | .consumeDelegation id _ _ => campos.delegationId = some id
  | .insertAttempt a => a.contentSha256 = campos.contentSha256
  | .insertSeal s => s.contentSha256 = campos.contentSha256
  | .insertProfile _ => True
  | .insertExecution _ => True
  | .setStepState _ _ => True
  | _ => False

section Only

variable {W : Write → Prop} {principal : String} {scheduleId stepId : Uuid}

theorem only_query {α : Type} {f : Env → Db → Except Failure α} : (query f).Only W := by
  refine Prog.only_step fun env db b ws hexec w hw => ?_
  simp only at hexec
  cases hf : f env db with
  | error e => simp [hf, Except.map] at hexec
  | ok a =>
    rw [hf] at hexec
    rw [← (Prod.mk.inj (Except.ok.inj hexec)).2] at hw
    cases hw

theorem only_write {locks : List Lock} {violated : Db → Option String} {w : Write} (h : W w) :
    (write locks violated w).Only W := by
  refine Prog.only_step fun env db b ws hexec w' hw' => ?_
  simp only at hexec
  split at hexec
  case h_1 => cases hexec
  case h_2 =>
    rw [← (Prod.mk.inj (Except.ok.inj hexec)).2] at hw'
    exact List.mem_singleton.mp hw' ▸ h

theorem only_scanLocked {ρ : Type} {candidates : Env → Db → List Uuid} {lock : Uuid → Lock}
    {row : Env → Db → Uuid → Option ρ} {writes : Uuid → List Write}
    (h : ∀ id, ∀ w ∈ writes id, W w) : (scanLocked candidates lock row writes).Only W := by
  refine Prog.only_read.bind fun ids => Prog.only_collect (fun id => ?_) ids
  refine Prog.only_step fun env db b ws hexec w hw => ?_
  simp only at hexec
  split at hexec
  all_goals
    rw [← (Prod.mk.inj (Except.ok.inj hexec)).2] at hw
  case h_1 => exact h id w hw
  case h_2 => cases hw

theorem only_requireStep : (requireStep principal scheduleId stepId).Only W :=
  Prog.only_read.bind fun _ => Prog.only_orRaise.bind fun _ => trivial

theorem only_requireAttempt : (requireAttempt principal scheduleId stepId).Only W :=
  Prog.only_read.bind fun _ => Prog.only_orRaise.bind fun _ => trivial

theorem only_buildEnvelopeContent [Runtime] :
    (HandoffService.buildEnvelopeContent principal scheduleId stepId).Only W :=
  Prog.only_read.bind fun _ => Prog.only_orRaise.bind fun _ =>
    Prog.only_read.bind fun _ => Prog.only_orRaise.bind fun _ => trivial

theorem only_setScheduleState {state : ScheduleState} (h : W (.setScheduleState scheduleId state)) :
    (setScheduleState principal scheduleId state).Only W :=
  Prog.only_readLocked.bind fun _ => Prog.only_orRaise.bind fun _ => only_write h

end Only

namespace ManualHandoffExportService

variable [Runtime] {principal : String} {scheduleId stepId attemptId : Uuid}
  {humanGate : GateDecision}

theorem only_preflight : (preflight humanGate principal scheduleId stepId).Only Write.Previa := by
  have hrows (gate : GateRequirement) (hash : String) (first : Bool) :
      (preflightDelegation principal scheduleId stepId gate hash first).Only Write.Previa := by
    refine Prog.Only.bind ?_ fun _ => Prog.Only.bind ?_ fun linha => ?_
    · exact only_requireStep.bind fun _ =>
        (only_scanLocked fun id w hw => List.mem_singleton.mp hw ▸ trivial).bind fun _ => trivial
    · refine (only_scanLocked fun id w hw => absurd hw List.not_mem_nil).bind fun linhas => ?_
      split <;> trivial
    · split
      · trivial
      · split <;> trivial
  refine Prog.only_readLocked.bind fun _ => Prog.only_orRaise.bind fun agenda => ?_
  refine Prog.Only.bind ?_ fun _ => ?_
  · exact Prog.only_require.bind fun _ => Prog.only_require.bind fun _ =>
      Prog.only_require.bind fun _ => Prog.only_require
  refine Prog.only_readLocked.bind fun _ => Prog.only_orRaise.bind fun etapa => ?_
  refine Prog.Only.bind ?_ fun _ => only_buildEnvelopeContent.bind fun conteudo => ?_
  · exact Prog.only_require.bind fun _ => Prog.only_read.bind fun _ => Prog.only_require.bind fun _ =>
      only_query.bind fun _ => Prog.only_require.bind fun _ => Prog.only_require
  split
  · trivial
  · trivial
  · split
    · trivial
    · exact hrows _ _ _

omit [Runtime] in
theorem only_registerBlock {b : DispatchBlocked} :
    (registerBlock principal scheduleId stepId b).Only Write.Previa := by
  refine Prog.Only.bind ?_ fun _ => trivial
  refine Prog.only_readLocked.bind fun _ => Prog.only_orRaise.bind fun agenda => ?_
  have hevent {reason : ControlReasonCode} (eventId : Uuid) (agora : Instant) :
      (createControlEvent eventId principal scheduleId (some stepId) .paused reason none principal
        agora).Only Write.Previa :=
    Prog.only_read.bind fun _ => Prog.only_orRaise.bind fun _ =>
      (only_write trivial).bind fun _ => trivial
  have hrest (registrar : Bool) : (if registrar = true then do
      let eventId ← newUuid
      let agora ← databaseNow
      let evento ← createControlEvent eventId principal scheduleId (some stepId) .paused
        b.reasonCode none principal agora
      pure (some evento)
    else pure none).Only Write.Previa := by
    split
    · exact Prog.only_readLocked.bind fun _ => Prog.only_read.bind fun _ =>
        (hevent _ _).bind fun _ => trivial
    · trivial
  simp only
  split
  · exact Prog.only_read.bind fun _ => hrest _
  · split
    · exact (only_setScheduleState trivial).bind fun _ => hrest true
    · exact hrest false

omit [Runtime] in
/-- The content is that of the step as the statement finds it. -/
theorem runs_buildEnvelopeContent {p q : Place Db Write Lock} {conteudo : EnvelopeContent}
    (h : (HandoffService.buildEnvelopeContent principal scheduleId stepId).Runs entorno p
      (.ok conteudo) q) :
    ∃ etapa, (q.view entorno).steps.lookup stepId = some etapa ∧
      conteudo = EnvelopeContent.ofDraft scheduleId stepId etapa.draft := by
  unfold HandoffService.buildEnvelopeContent at h
  obtain ⟨_, _, -, h⟩ := Prog.runs_bind_ok.mp h
  obtain ⟨_, _, -, h⟩ := Prog.runs_bind_ok.mp h
  obtain ⟨lida, m, hread, h⟩ := Prog.runs_bind_ok.mp h
  obtain ⟨etapa, m', horRaise, h⟩ := Prog.runs_bind_ok.mp h
  obtain ⟨rfl, rfl⟩ := Prog.runs_orRaise_ok.mp horRaise
  obtain ⟨hconteudo, rfl⟩ := h
  obtain ⟨env, db, -, hlida, rfl⟩ := Prog.runs_read.mp hread
  have hrow := (Except.ok.inj hlida).symm
  exact ⟨etapa, (Option.filter_eq_some_iff.mp hrow).1, Except.ok.inj hconteudo⟩

/-- What a preflight that passed has read: the content of the step, and a delegation for it. -/
structure Autoriza (scheduleId stepId : Uuid) (campos : DispatchAuthorized) : Prop where
  content : ∃ draft, campos.contentSha256 =
    (EnvelopeContent.ofDraft scheduleId stepId draft).contentSha256
  delegation : ∀ id ∈ campos.delegationId, ∃ d : ServiceDelegation,
    d.id = id ∧ d.contentSha256 = campos.contentSha256

theorem autoriza_of_runs {p q : Place Db Write Lock} {campos : DispatchAuthorized}
    (h : (preflight humanGate principal scheduleId stepId).Runs entorno p
      (.ok (.authorized campos)) q) : Autoriza scheduleId stepId campos := by
  unfold preflight at h
  obtain ⟨_, _, -, h⟩ := Prog.runs_bind_ok.mp h
  obtain ⟨_, _, -, h⟩ := Prog.runs_bind_ok.mp h
  obtain ⟨_, _, -, h⟩ := Prog.runs_bind_ok.mp h
  obtain ⟨_, _, -, h⟩ := Prog.runs_bind_ok.mp h
  obtain ⟨_, _, -, h⟩ := Prog.runs_bind_ok.mp h
  obtain ⟨_, _, -, h⟩ := Prog.runs_bind_ok.mp h
  obtain ⟨conteudo, m, hcontent, h⟩ := Prog.runs_bind_ok.mp h
  obtain ⟨etapa, -, rfl⟩ := runs_buildEnvelopeContent hcontent
  simp only at h
  split at h
  case h_1 => cases h.1
  case h_2 =>
    obtain rfl := PreflightResult.authorized.inj (Except.ok.inj h.1)
    exact ⟨⟨etapa.draft, rfl⟩, by simp⟩
  case h_3 exigencia _ =>
    split at h
    case isTrue => cases h.1
    case isFalse =>
      unfold preflightDelegation at h
      obtain ⟨_, _, -, h⟩ := Prog.runs_bind_ok.mp h
      obtain ⟨linha, _, -, h⟩ := Prog.runs_bind_ok.mp h
      cases linha with
      | none => cases h.1
      | some delegacao =>
        simp only at h
        split at h
        case isFalse => cases h.1
        case isTrue hhash =>
          obtain rfl := PreflightResult.authorized.inj (Except.ok.inj h.1)
          refine ⟨⟨etapa.draft, rfl⟩, fun id hid => ⟨delegacao, Option.some.inj hid, hhash⟩⟩

/-! ## The dispatch -/


omit [Runtime] in
theorem steps_congr {a b : Db} (h : a.steps.lookup stepId = b.steps.lookup stepId)
    (log : List Write) : (applyAll Db.apply log a).steps.lookup stepId =
      (applyAll Db.apply log b).steps.lookup stepId := by
  induction log generalizing a b with
  | nil => exact h
  | cons w log ih =>
    refine ih ?_
    cases w with
    | insertStep row =>
      simp only [Db.apply, Table.lookup_insert_ite, h]
    | setStepState id state =>
      simp only [Db.apply, Table.lookup_modify]
      by_cases hid : stepId = id
      · subst hid
        rw [if_pos rfl, if_pos rfl, h]
      · rw [if_neg hid, if_neg hid, h]
    | _ => exact h

omit [Runtime] in
/-- A dispatch leaves the declared part of a step as it is. -/
theorem draft_of_writes {campos : DispatchAuthorized} {ws : List Write} {db : Db}
    {etapa : ScheduleStep} (hws : ∀ w ∈ ws, w.De campos)
    (h : db.steps.lookup stepId = some etapa) :
    ∃ etapa', (applyAll Db.apply ws db).steps.lookup stepId = some etapa' ∧
      etapa'.draft = etapa.draft := by
  induction ws generalizing db etapa with
  | nil => exact ⟨etapa, h, rfl⟩
  | cons w ws ih =>
    have hfirst := hws w List.mem_cons_self
    have hrest : ∀ w ∈ ws, w.De campos := fun w hw => hws w (List.mem_cons_of_mem _ hw)
    rw [applyAll_cons]
    cases w with
    | setStepState id state =>
      have hstep : ∃ etapa₁, (Db.apply (.setStepState id state) db).steps.lookup stepId = some etapa₁ ∧
          etapa₁.draft = etapa.draft := by
        simp only [Db.apply, Table.lookup_modify]
        by_cases hid : stepId = id
        · subst hid
          rw [if_pos rfl, h]
          exact ⟨_, rfl, rfl⟩
        · rw [if_neg hid, h]
          exact ⟨_, rfl, rfl⟩
      obtain ⟨etapa₁, h₁, hdraft₁⟩ := hstep
      obtain ⟨etapa', h', hdraft'⟩ := ih hrest h₁
      exact ⟨etapa', h', hdraft'.trans hdraft₁⟩
    | insertStep row => exact absurd hfirst id
    | _ => exact ih hrest h

/-- The step is locked, and this is what was declared of it. -/
structure Travada (stepId : Uuid) (draft : StepDraft) (p : Place Db Write Lock) : Prop where
  held : .step stepId ∈ p.held
  row : ∃ etapa, (p.view entorno).steps.lookup stepId = some etapa ∧ etapa.draft = draft

omit [Runtime] in
theorem Travada.grows {campos : DispatchAuthorized} {draft : StepDraft} {p q : Place Db Write Lock}
    (h : Travada stepId draft p) (hgrows : Grows entorno (Write.De campos) p q) :
    Travada stepId draft q where
  held := hgrows.held h.held
  row := by
    obtain ⟨etapa, hrow, hdraft⟩ := h.row
    obtain ⟨ws, hlog, hws⟩ := hgrows.log
    have hsame : q.db.steps.lookup stepId = p.db.steps.lookup stepId :=
      hgrows.keeps.2.1 stepId h.held
    have hstart : (applyAll Db.apply p.log q.db).steps.lookup stepId = some etapa := by
      rw [steps_congr hsame]
      exact hrow
    obtain ⟨etapa', hrow', hdraft'⟩ := draft_of_writes hws hstart
    refine ⟨etapa', ?_, hdraft'.trans hdraft⟩
    unfold Place.view
    rw [hlog]
    exact (congrArg (fun db : Db => db.steps.lookup stepId)
      (applyAll_append Db.apply p.log ws q.db)).trans hrow'

variable {campos : DispatchAuthorized} {p q : Place Db Write Lock}

omit [Runtime] in
theorem only_consumirDelegacao :
    (consumirDelegacao principal scheduleId stepId attemptId campos).Only (Write.De campos) := by
  unfold consumirDelegacao
  cases hid : campos.delegationId with
  | none => trivial
  | some id =>
    refine (only_requireStep.bind fun _ => Prog.only_step fun env db b ws hexec w hw => ?_).bind
      fun _ => Prog.only_require
    simp only at hexec
    split at hexec
    all_goals
      rw [← (Prod.mk.inj (Except.ok.inj hexec)).2] at hw
    case h_1 =>
      obtain rfl := List.mem_singleton.mp hw
      exact hid
    case h_2 => cases hw

omit [Runtime] in
/-- A delegation that was consumed is the authorized one. -/
theorem runs_consumirDelegacao
    (h : (consumirDelegacao principal scheduleId stepId attemptId campos).Runs entorno p (.ok ()) q)
    {id : Uuid} (hid : campos.delegationId = some id) :
    ∃ ws now, q.log = p.log ++ ws ∧ .consumeDelegation id now attemptId ∈ ws := by
  unfold consumirDelegacao at h
  rw [hid] at h
  obtain ⟨consumida, m, hconsume, h⟩ := Prog.runs_bind_ok.mp h
  obtain ⟨rfl, rfl⟩ := Prog.runs_require_ok.mp h
  obtain ⟨_, m, hstep, hconsume⟩ := Prog.runs_bind_ok.mp hconsume
  have hquiet : m.log = p.log := (only_requireStep.runs hstep).log_eq
  obtain ⟨env, db, -, ⟨e, -, he, -⟩ | ⟨b, ws, hexec, hb, rfl⟩⟩ := Prog.runs_step.mp hconsume
  · cases he
  · simp only at hexec
    split at hexec
    case h_1 =>
      obtain ⟨-, rfl⟩ := Prod.mk.inj (Except.ok.inj hexec)
      exact ⟨_, env.now, by rw [hquiet], List.mem_singleton.mpr rfl⟩
    case h_2 =>
      obtain ⟨rfl, -⟩ := Prod.mk.inj (Except.ok.inj hexec)
      cases hb

/-! ### Sealing -/

omit [Runtime] in
theorem runs_write {locks : List Lock} {violated : Db → Option String} {w : Write}
    (h : (write locks violated w).Runs entorno p (.ok ()) q) : q.log = p.log ++ [w] := by
  obtain ⟨env, db, -, ⟨e, -, he, -⟩ | ⟨b, ws, hexec, -, rfl⟩⟩ := Prog.runs_step.mp h
  · cases he
  · simp only at hexec
    split at hexec
    case h_1 => cases hexec
    case h_2 => rw [← (Prod.mk.inj (Except.ok.inj hexec)).2]

/-- What stands after the content of a sealing is known. -/
def selar (attemptId : Uuid) (principal : String) (scheduleId stepId : Uuid) (sealerRef : String)
    (conteudo : EnvelopeContent) : Action SealOutcome := do
  let numero ← nextAttemptNumber principal scheduleId stepId
  let tentativa ← createAttempt principal attemptId scheduleId stepId numero
    conteudo.envelopeVersion conteudo.contentSha256
  let sealedAt ← databaseNow
  let recibo ← createSealReceipt principal scheduleId tentativa.id conteudo.contentSha256 sealedAt
    sealerRef
  HandoffService.checkedOutcome ⟨tentativa.id, tentativa.attemptNumber, conteudo.contentSha256,
    conteudo.envelopeVersion, recibo.id, recibo.sealedAt, recibo.sealerRef⟩

theorem only_selar {sealerRef : String} {conteudo : EnvelopeContent}
    (h : conteudo.contentSha256 = campos.contentSha256) :
    (selar attemptId principal scheduleId stepId sealerRef conteudo).Only (Write.De campos) := by
  refine Prog.Only.bind ?_ fun numero => Prog.Only.bind ?_ fun tentativa => Prog.only_read.bind
    fun sealedAt => Prog.Only.bind ?_ fun recibo => ?_
  · exact Prog.only_readLocked.bind fun _ => Prog.only_orRaise.bind fun _ =>
      Prog.only_read.bind fun _ => trivial
  · exact only_requireStep.bind fun _ => Prog.only_read.bind fun _ =>
      (only_write h).bind fun _ => trivial
  · exact only_requireAttempt.bind fun _ => Prog.only_readLocked.bind fun _ =>
      (only_write h).bind fun _ => trivial
  · exact Prog.only_require.bind fun _ => Prog.only_require.bind fun _ => trivial

/-- A sealing writes for the authorized content, and seals it if it answers. -/
structure Selou (campos : DispatchAuthorized) (p : Place Db Write Lock)
    (r : Except Failure SealOutcome) (q : Place Db Write Lock) : Prop where
  grows : Grows entorno (Write.De campos) p q
  sealed : ∀ saida, r = .ok saida → saida.contentSha256 = campos.contentSha256 ∧
    ∃ ws s, q.log = p.log ++ ws ∧ .insertSeal s ∈ ws ∧ s.contentSha256 = campos.contentSha256

omit [Runtime] in
theorem Selou.of_error {e : Failure} (h : Grows entorno (Write.De campos) p q) :
    Selou campos p (.error e) q where
  grows := h
  sealed := fun _ hsaida => by cases hsaida

omit [Runtime] in
theorem Selou.after {m : Place Db Write Lock} {r : Except Failure SealOutcome}
    (hgrows : Grows entorno (Write.De campos) p m) (h : Selou campos m r q) : Selou campos p r q where
  grows := hgrows.trans h.grows
  sealed := by
    intro saida hsaida
    obtain ⟨hhash, ws, s, hlog, hs⟩ := h.sealed saida hsaida
    obtain ⟨ws', hlog', -⟩ := hgrows.log
    refine ⟨hhash, ws' ++ ws, s, by rw [hlog, hlog', List.append_assoc], ?_, hs.2⟩
    exact List.mem_append_right _ hs.1

theorem runs_selar {sealerRef : String} {conteudo : EnvelopeContent} {r : Except Failure SealOutcome}
    (hhash : conteudo.contentSha256 = campos.contentSha256)
    (h : (selar attemptId principal scheduleId stepId sealerRef conteudo).Runs entorno p r q) :
    Selou campos p r q where
  grows := (only_selar hhash).runs h
  sealed := by
    rintro saida rfl
    obtain ⟨numero, m₁, hnumero, h⟩ := Prog.runs_bind_ok.mp h
    obtain ⟨tentativa, m₂, htentativa, h⟩ := Prog.runs_bind_ok.mp h
    obtain ⟨sealedAt, m₃, hnow, h⟩ := Prog.runs_bind_ok.mp h
    obtain ⟨recibo, m₄, hrecibo, h⟩ := Prog.runs_bind_ok.mp h
    obtain ⟨_, _, hpositive, h⟩ := Prog.runs_bind_ok.mp h
    obtain ⟨_, _, hwide, h⟩ := Prog.runs_bind_ok.mp h
    obtain ⟨hsaida, rfl⟩ := h
    obtain rfl := Except.ok.inj hsaida
    obtain ⟨_, rfl⟩ := Prog.runs_require_ok.mp hwide
    obtain ⟨_, rfl⟩ := Prog.runs_require_ok.mp hpositive
    refine ⟨hhash, ?_⟩
    -- Of all the statements before the last one it matters only that they add to the log.
    obtain ⟨ws₁, h₁⟩ := hnumero.log
    obtain ⟨ws₂, h₂⟩ := htentativa.log
    obtain ⟨ws₃, h₃⟩ := hnow.log
    obtain ⟨_, m₅, hattempt, hrecibo⟩ := Prog.runs_bind_ok.mp hrecibo
    obtain ⟨reciboId, m₆, huuid, hrecibo⟩ := Prog.runs_bind_ok.mp hrecibo
    obtain ⟨_, m₇, hwrite, -, rfl⟩ := Prog.runs_bind_ok.mp hrecibo
    obtain ⟨ws₅, h₅⟩ := hattempt.log
    obtain ⟨ws₆, h₆⟩ := huuid.log
    have h₇ := runs_write hwrite
    refine ⟨ws₁ ++ ws₂ ++ ws₃ ++ ws₅ ++ ws₆ ++ [_],
      ⟨reciboId, tentativa.id, conteudo.contentSha256, sealedAt, sealerRef⟩, ?_,
      List.mem_append_right _ (List.mem_singleton.mpr rfl), hhash⟩
    rw [h₇, h₆, h₅, h₃, h₂, h₁]
    simp only [List.append_assoc]

/-- Sealing a locked step seals what was declared of it. -/
theorem selou_of_runs {sealerRef : String} {draft : StepDraft} {r : Except Failure SealOutcome}
    (hstep : Travada stepId draft p)
    (hhash : (EnvelopeContent.ofDraft scheduleId stepId draft).contentSha256 = campos.contentSha256)
    (h : (HandoffService.sealStepForExport attemptId principal scheduleId stepId sealerRef).Runs
      entorno p r q) : Selou campos p r q := by
  unfold HandoffService.sealStepForExport HandoffService.sealWith at h
  rcases Prog.only_read.bind_cases h with ⟨e, rfl, h₁⟩ | ⟨_, m₁, -, h₁, h⟩
  · exact .of_error h₁
  refine .after h₁ ?_
  rcases Prog.only_orRaise.bind_cases h with ⟨e, rfl, h₂⟩ | ⟨agenda, m₂, -, h₂, h⟩
  · exact .of_error h₂
  refine .after h₂ ?_
  rcases Prog.only_require.bind_cases h with ⟨e, rfl, h₃⟩ | ⟨_, m₃, -, h₃, h⟩
  · exact .of_error h₃
  refine .after h₃ ?_
  rcases Prog.only_require.bind_cases h with ⟨e, rfl, h₄⟩ | ⟨_, m₄, -, h₄, h⟩
  · exact .of_error h₄
  refine .after h₄ ?_
  rcases Prog.only_read.bind_cases h with ⟨e, rfl, h₅⟩ | ⟨lida, m₅, hread, h₅, h⟩
  · exact .of_error h₅
  refine .after h₅ ?_
  rcases Prog.only_orRaise.bind_cases h with ⟨e, rfl, h₆⟩ | ⟨etapa, m₆, horRaise, h₆, h⟩
  · exact .of_error h₆
  refine .after h₆ ?_
  -- The row that is sealed is the row that has been locked since before the comparison.
  have hdraft : etapa.draft = draft := by
    obtain ⟨rfl, rfl⟩ := Prog.runs_orRaise_ok.mp horRaise
    obtain ⟨_, hrow, hdraft⟩ :=
      (hstep.grows (((h₁.trans h₂).trans (h₃.trans h₄)).trans h₅)).row
    obtain ⟨env, db, -, hlida, rfl⟩ := Prog.runs_read.mp hread
    have hfound := (Option.filter_eq_some_iff.mp (Except.ok.inj hlida).symm).1
    rw [← hdraft]
    exact congrArg ScheduleStep.draft (Option.some.inj (hfound.symm.trans hrow))
  rcases Prog.only_require.bind_cases h with ⟨e, rfl, h₇⟩ | ⟨_, m₇, -, h₇, h⟩
  · exact .of_error h₇
  refine .after h₇ ?_
  rcases Prog.only_require.bind_cases h with ⟨e, rfl, h₈⟩ | ⟨_, m₈, -, h₈, h⟩
  · exact .of_error h₈
  refine .after h₈ ?_
  rw [← hdraft] at hhash
  exact runs_selar hhash h

/-! ### The whole dispatch -/

omit [Runtime] in
theorem only_ensureManualProfile :
    (Connections.ensureManualProfile principal).Only (Write.De campos) := by
  refine Prog.only_require.bind fun _ => only_query.bind fun lido => ?_
  split
  · trivial
  · refine Prog.only_readLocked.bind fun _ => only_query.bind fun lido => ?_
    split
    · trivial
    · refine Prog.only_readLocked.bind fun id => Prog.Only.bind ?_ fun criado => ?_
      · refine Prog.only_step fun env db b ws hexec w hw => ?_
        simp only at hexec
        split at hexec
        all_goals
          rw [← (Prod.mk.inj (Except.ok.inj hexec)).2] at hw
        case isTrue => cases hw
        case isFalse =>
          obtain rfl := List.mem_singleton.mp hw
          trivial
      · split
        · trivial
        · exact only_query.bind fun _ => Prog.only_orRaise.bind fun _ => trivial

omit [Runtime] in
theorem only_recordExecution {attribution : Connections.ExecutionAttribution} {observedAt : Instant} :
    (Connections.recordExecution principal scheduleId stepId attemptId attribution
      observedAt).Only (Write.De campos) :=
  Prog.only_require.bind fun _ => Prog.only_read.bind fun _ => Prog.only_orRaise.bind fun _ =>
    Prog.only_readLocked.bind fun _ => (only_write trivial).bind fun _ => trivial

omit [Runtime] in
theorem only_setStepState {state : StepState} :
    (setStepState principal scheduleId stepId state).Only (Write.De campos) :=
  Prog.only_readLocked.bind fun _ => Prog.only_orRaise.bind fun _ => only_write trivial

theorem only_checkedHandoff {repasse : ExportedHandoff} :
    (checkedHandoff repasse).Only (Write.De campos) :=
  Prog.only_require.bind fun _ => Prog.only_require.bind fun _ => trivial

/-- What a dispatch may do with an authorization. -/
structure Despacha (scheduleId stepId attemptId : Uuid) (campos : DispatchAuthorized)
    (p : Place Db Write Lock) (r : Except Failure ExportOutcome) (q : Place Db Write Lock) :
    Prop where
  grows : Grows entorno (Write.De campos) p q
  content : q.log ≠ p.log ∨ (∃ out, r = .ok out) → ∃ draft,
    campos.contentSha256 = (EnvelopeContent.ofDraft scheduleId stepId draft).contentSha256
  exported : ∀ out, r = .ok out → out.exported.contentSha256 = campos.contentSha256 ∧
    out.exported.envelope.contentSha256 = campos.contentSha256 ∧
      ∃ ws, q.log = p.log ++ ws ∧
        (∃ s, .insertSeal s ∈ ws ∧ s.contentSha256 = campos.contentSha256) ∧
          ∀ id ∈ campos.delegationId, ∃ now, .consumeDelegation id now attemptId ∈ ws

theorem Despacha.quiet {e : Failure} (h : Grows entorno (fun _ => False) p q) :
    Despacha scheduleId stepId attemptId campos p (.error e) q where
  grows := h.mono fun _ hw => hw.elim
  content := by
    rintro (hlog | ⟨out, hout⟩)
    · exact absurd h.log_eq hlog
    · cases hout
  exported := fun _ hout => by cases hout

theorem Despacha.fails {e : Failure} {draft : StepDraft} (h : Grows entorno (Write.De campos) p q)
    (hhash : campos.contentSha256 =
      (EnvelopeContent.ofDraft scheduleId stepId draft).contentSha256) :
    Despacha scheduleId stepId attemptId campos p (.error e) q where
  grows := h
  content := fun _ => ⟨draft, hhash⟩
  exported := fun _ hout => by cases hout

/-- What remains once the content has been sealed. -/
def entregar (principal : String) (scheduleId stepId : Uuid) (draft : StepDraft)
    (firstDispatch : Bool) (selado : SealOutcome) : Action ExportOutcome := do
  let perfil ← Connections.ensureManualProfile principal
  let agora ← databaseNow
  let _ ← Connections.recordExecution principal scheduleId stepId selado.attemptId
    (Connections.manualAttribution perfil.1.id) agora
  let entregue ← checkedHandoff ⟨scheduleId, stepId, selado.attemptId, selado.attemptNumber,
    selado.receiptId, selado.contentSha256, selado.sealedAt,
    EnvelopeContent.ofDraft scheduleId stepId draft⟩
  if firstDispatch then
    setStepState principal scheduleId stepId .dispatched
  setStepState principal scheduleId stepId .awaitingReturn
  pure ⟨entregue, .awaitingReturn, .open⟩

theorem only_entregar {draft : StepDraft} {firstDispatch : Bool} {selado : SealOutcome} :
    (entregar principal scheduleId stepId draft firstDispatch selado).Only (Write.De campos) := by
  refine only_ensureManualProfile.bind fun _ => Prog.only_read.bind fun _ =>
    only_recordExecution.bind fun _ => only_checkedHandoff.bind fun _ => ?_
  cases firstDispatch with
  | false => exact only_setStepState.bind fun _ => trivial
  | true => exact only_setStepState.bind fun _ => only_setStepState.bind fun _ => trivial

/-- What is handed over is what was sealed. -/
theorem runs_entregar {draft : StepDraft} {firstDispatch : Bool} {selado : SealOutcome}
    {out : ExportOutcome}
    (h : (entregar principal scheduleId stepId draft firstDispatch selado).Runs entorno p
      (.ok out) q) :
    out.exported.contentSha256 = selado.contentSha256 ∧
      out.exported.envelope.contentSha256 = selado.contentSha256 := by
  obtain ⟨perfil, m₁, -, h⟩ := Prog.runs_bind_ok.mp h
  obtain ⟨agora, m₂, -, h⟩ := Prog.runs_bind_ok.mp h
  obtain ⟨_, m₃, -, h⟩ := Prog.runs_bind_ok.mp h
  obtain ⟨entregue, m₄, hchecked, h⟩ := Prog.runs_bind_ok.mp h
  have hexported : out.exported = entregue := by
    cases firstDispatch with
    | false =>
      obtain ⟨_, _, -, hout, -⟩ := Prog.runs_bind_ok.mp h
      exact congrArg ExportOutcome.exported (Except.ok.inj hout)
    | true =>
      obtain ⟨_, _, -, h⟩ := Prog.runs_bind_ok.mp h
      obtain ⟨_, _, -, hout, -⟩ := Prog.runs_bind_ok.mp h
      exact congrArg ExportOutcome.exported (Except.ok.inj hout)
  obtain ⟨_, _, -, hchecked⟩ := Prog.runs_bind_ok.mp hchecked
  obtain ⟨_, _, hsame, hentregue, -⟩ := Prog.runs_bind_ok.mp hchecked
  obtain rfl := Except.ok.inj hentregue
  rw [hexported]
  exact ⟨rfl, by simpa using (Prog.runs_require_ok.mp hsame).1⟩

theorem despacha_of_runs {sealerRef : String} {r : Except Failure ExportOutcome}
    (h : (dispatch attemptId principal scheduleId stepId sealerRef campos).Runs entorno p r q) :
    Despacha scheduleId stepId attemptId campos p r q := by
  unfold dispatch at h
  rcases Prog.only_readLocked.bind_cases h with ⟨e, rfl, h₁⟩ | ⟨lida, m₁, hlock, h₁, h⟩
  · exact .quiet h₁
  rcases Prog.only_orRaise.bind_cases h with ⟨e, rfl, h₂⟩ | ⟨etapa, m₂, horRaise, h₂, h⟩
  · exact .quiet (h₁.trans h₂)
  rcases only_buildEnvelopeContent.bind_cases h with ⟨e, rfl, h₃⟩ | ⟨conteudo, m₃, hcontent, h₃, h⟩
  · exact .quiet ((h₁.trans h₂).trans h₃)
  rcases Prog.only_require.bind_cases h with ⟨e, rfl, h₄⟩ | ⟨_, m₄, hrequire, h₄, hrest⟩
  · exact .quiet (((h₁.trans h₂).trans h₃).trans h₄)
  have hquiet : Grows entorno (fun _ => False) p m₄ := ((h₁.trans h₂).trans h₃).trans h₄
  have hbefore : Grows entorno (Write.De campos) p m₄ := hquiet.mono fun _ hw => hw.elim
  obtain ⟨atual, hrow, rfl⟩ := runs_buildEnvelopeContent hcontent
  obtain ⟨hsame, rfl⟩ := Prog.runs_require_ok.mp hrequire
  have hhash : (EnvelopeContent.ofDraft scheduleId stepId atual.draft).contentSha256 =
      campos.contentSha256 := by simpa using hsame
  have hlocked : Travada stepId atual.draft m₄ := by
    refine ⟨(h₂.trans h₃).held ?_, atual, hrow, rfl⟩
    obtain ⟨rfl, rfl⟩ := Prog.runs_orRaise_ok.mp horRaise
    obtain ⟨env, db, -, hlida, rfl⟩ := Prog.runs_readLocked.mp hlock
    rw [← Except.ok.inj hlida]
    simp
  rcases only_consumirDelegacao.bind_cases hrest with ⟨e, rfl, h₅⟩ | ⟨_, m₅, hconsume, h₅, hrest⟩
  · exact .fails (hbefore.trans h₅) hhash.symm
  rcases Prog.runs_bind.mp hrest with ⟨e, rfl, hseal⟩ | ⟨selado, m₆, hseal, hrest⟩
  · exact .fails ((hbefore.trans h₅).trans
      (selou_of_runs (hlocked.grows h₅) hhash hseal).grows) hhash.symm
  have hsealed := selou_of_runs (hlocked.grows h₅) hhash hseal
  have hend : Grows entorno (Write.De campos) m₆ q := only_entregar.runs hrest
  refine ⟨((hbefore.trans h₅).trans hsealed.grows).trans hend, fun _ => ⟨_, hhash.symm⟩, ?_⟩
  rintro out rfl
  obtain ⟨hexported, henvelope⟩ := runs_entregar hrest
  obtain ⟨hselado, ws₆, s, hlog₆, hs⟩ := hsealed.sealed selado rfl
  refine ⟨hexported.trans hselado, henvelope.trans hselado, ?_⟩
  obtain ⟨ws₅, hlog₅, -⟩ := h₅.log
  obtain ⟨ws₇, hlog₇, -⟩ := hend.log
  refine ⟨ws₅ ++ ws₆ ++ ws₇, ?_, ⟨s, ?_, hs.2⟩, fun id hid => ?_⟩
  · rw [hlog₇, hlog₆, hlog₅, hquiet.log_eq]
    simp only [List.append_assoc]
  · exact List.mem_append_left _ (List.mem_append_right _ hs.1)
  · obtain ⟨ws, now, hlog, hw⟩ := runs_consumirDelegacao hconsume hid
    obtain rfl : ws₅ = ws := List.append_cancel_left (hlog₅.symm.trans hlog)
    exact ⟨now, List.mem_append_left _ (List.mem_append_left _ hw)⟩

end ManualHandoffExportService

end PiaOs
