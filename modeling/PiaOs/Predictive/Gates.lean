import PiaOs.Predictive.Log

/-!
# What the gates do

Which events a gate may append, given what it has read, and what its outcome says about the
append. The answers are arbitrary here.
-/

namespace PiaOs.Predictive

open Support Memory Piap PredictiveReconfigurationRepository

/-! ## Authorized events -/

/-- The promotion passes every check before the log is read. -/
structure Promocao.Aprova (p : Promocao) (approval : ApprovalBinding) : Prop where
  sujeito : p.candidate.subjectKey = p.evaluation.claim.subjectKey
  regime : p.evaluation.regime.status = .regimeShiftCandidate
  ganho : p.evaluation.evidence.aMinus.le (.finite 0) = false
  estado : p.evaluation.state = .predictable
  aprovacao : p.envelope.authority.approval = some approval
  desfecho : p.evaluation.approvalValidationOutcome = .valid
  vinculo : p.vinculada approval = true

/-- The rollback to the target passes every check before the current version is read. -/
structure Reversao.Aprova (r : Reversao) (approval : ApprovalBinding) (target : Evento) : Prop where
  validada : r.validacao target = .ok .valid
  aprovacao : r.envelope.authority.approval = some approval
  vinculo : r.vinculada approval target = true

abbrev Respostas : Type := List (Answered Chamada Resposta)

/-- The current version that was read is the one that the event follows. -/
def LeuVersao (past : Respostas) (e : Evento) : Prop :=
  ∃ atual : Option Evento, ⟨.current e.subjectKey, some atual⟩ ∈ past ∧
    versaoDe atual = e.fromVersion

/-- The event is the one that the call stands for, after what it has read. -/
inductive Autoriza (past : Respostas) : Pedido → Evento → Prop
  | promocao {p : Promocao} {approval : ApprovalBinding} (aprova : p.Aprova approval)
      (leu : LeuVersao past (p.evento approval)) :
    Autoriza past (.promocao p) (p.evento approval)
  | reversao {r : Reversao} {approval : ApprovalBinding} {target : Evento}
      (aprova : r.Aprova approval target)
      (alvo : ⟨.get r.rollbackOfEventId, some (some target)⟩ ∈ past)
      (leu : LeuVersao past (r.evento approval target)) :
    Autoriza past (.reversao r) (r.evento approval target)

section Autoriza

variable {past : Respostas} {pedido : Pedido} {e : Evento}

theorem Autoriza.eventId (h : Autoriza past pedido e) : e.eventId = pedido.eventId := by
  cases h <;> rfl

theorem Autoriza.toVersion (h : Autoriza past pedido e) : e.toVersion = e.fromVersion + 1 := by
  cases h with
  | @promocao p approval aprova leu => exact p.candidate.versoes.2
  | reversao aprova alvo leu => rfl

theorem Autoriza.leu (h : Autoriza past pedido e) : LeuVersao past e := by
  cases h with
  | promocao aprova leu => exact leu
  | reversao aprova alvo leu => exact leu

end Autoriza

/-! ## Appends -/

/-- What an append tells: it inserted the event, it found the event, or it lost. -/
inductive Anexo (past : Respostas) (e : Evento) :
    PredictiveReconfigurationDecision → Option Evento → Prop
  | inserido (feita : ⟨.insert e, Insercao.feita⟩ ∈ past) : Anexo past e .promoted (some e)
  | repetido {existing : Evento} (lido : ⟨.get e.eventId, some (some existing)⟩ ∈ past)
      (igual : reconcile existing e = .ok existing) : Anexo past e .replayed (some existing)
  | perdido {atual : Option Evento} : Anexo past e .lostConcurrentRace atual

theorem anexo_of_repetido {past : Respostas} {e existing : Evento}
    {d : PredictiveReconfigurationDecision × Option Evento}
    (hread : ⟨.get e.eventId, some (some existing)⟩ ∈ past)
    (h : repetido existing e = .ok d) : Anexo past e d.1 d.2 := by
  unfold repetido reconcile at h
  split at h
  case h_1 hempty =>
    have hd : (.replayed, some existing) = d := Except.ok.inj h
    rw [← hd]
    refine .repetido hread ?_
    unfold reconcile
    rw [hempty]
  case h_2 => cases h

/-- An append inserts nothing but its event. -/
theorem append_obeys {past : Respostas} {event : Evento} :
    (append event).Obeys (fun _ c => ∀ e, c = .insert e → e = event)
      (fun past r => ∀ d, r = .ok d → Anexo past event d.1 d.2) past := by
  have hget : ∀ (past : Respostas) (id : Referencia),
      (get id).Obeys (fun _ c => ∀ e, c = .insert e → e = event)
        (fun later r => ∀ atual, r = .ok atual → ⟨.get id, some atual⟩ ∈ later) past := by
    intro past id
    refine .call (fun e he => by cases he) fun a => ?_
    cases a with
    | none => exact .done fun atual h => by cases h
    | some atual =>
      refine .done fun other h => ?_
      rw [← Except.ok.inj h]
      exact List.mem_append_right _ List.mem_cons_self
  refine Proc.Obeys.attempt (hget past event.eventId) (fun past e _ d h => by cases h)
    fun past atual hread => ?_
  cases atual with
  | some existing => exact .done fun d h => anexo_of_repetido (hread _ rfl) h
  | none =>
    refine .call (fun e he => (Chamada.insert.inj he).symm) fun a => ?_
    cases a with
    | feita =>
      refine .done fun d h => ?_
      rw [← Except.ok.inj h]
      exact .inserido (List.mem_append_right _ List.mem_cons_self)
    | identidade =>
      refine Proc.Obeys.attempt (hget _ event.eventId) (fun past e _ d h => by cases h)
        fun past atual hread => ?_
      cases atual with
      | some concurrent => exact .done fun d h => anexo_of_repetido (hread _ rfl) h
      | none => exact .done fun d h => by cases h
    | versao =>
      refine .call (fun e he => by cases he) fun a => ?_
      cases a with
      | none => exact .done fun d h => by cases h
      | some atual =>
        refine .done fun d h => ?_
        rw [← Except.ok.inj h]
        exact .perdido
    | falha => exact .done fun d h => by cases h

/-! ## Outcomes -/

/-- What the outcome of a gate says about the append of an authorized event. -/
inductive Conclui (pedido : Pedido) (past : Respostas) (o : Desfecho) : Prop
  | recusado (decision : o.decision ≠ .promoted ∧ o.decision ≠ .replayed)
  | anexado {e : Evento} {persisted : Option Evento} (autoriza : Autoriza past pedido e)
      (anexo : Anexo past e o.decision persisted)
      (identificador : o.eventId = persisted.map (·.eventId))

theorem semEscrita_obeys {pedido : Pedido} {past : Respostas}
    {decision : PredictiveReconfigurationDecision} {subjectKey motivo : String}
    (h : decision ≠ .promoted ∧ decision ≠ .replayed) :
    (semEscrita decision subjectKey motivo).Obeys (fun past c => ∀ e, c = .insert e →
      Autoriza past pedido e) (fun past r => ∀ o, r = .ok o → Conclui pedido past o) past := by
  refine .done fun o ho => ?_
  rw [← Except.ok.inj ho]
  exact .recusado h

/-- Both gates end alike: the event is appended only if its version was read as current. -/
theorem anexarSeCorrente_obeys {pedido : Pedido} {past : Respostas} {event : Evento}
    {subjectKey motivo : String} {expectedVersion : ℤ} (hkey : event.subjectKey = subjectKey)
    (hfrom : event.fromVersion = expectedVersion)
    (h : ∀ later : Respostas, past ⊆ later → LeuVersao later event →
      Autoriza later pedido event) :
    (anexarSeCorrente subjectKey expectedVersion event motivo).Obeys
      (fun past c => ∀ e, c = .insert e → Autoriza past pedido e)
      (fun past r => ∀ o, r = .ok o → Conclui pedido past o) past := by
  refine .call (fun e he => by cases he) fun a => ?_
  cases a with
  | none => exact .done fun o ho => by cases ho
  | some atual =>
    show Proc.Obeys _ _ _ (if versaoDe atual ≠ expectedVersion then _ else _)
    by_cases hversion : versaoDe atual = expectedVersion
    · rw [if_neg (not_not.mpr hversion)]
      have hauthorized : ∀ later : Respostas,
          past ++ [⟨.current subjectKey, some atual⟩] <+: later → Autoriza later pedido event := by
        intro later hlater
        refine h later (fun c hc => hlater.subset (List.mem_append_left _ hc)) ⟨atual, ?_, ?_⟩
        · rw [hkey]
          exact hlater.subset (List.mem_append_right _ List.mem_cons_self)
        · rw [hversion, hfrom]
      refine Proc.Obeys.attempt
        (((@append_obeys _ event).and (Proc.obeys_prefix (append event))).mono ?_ ?_)
        (S := fun past r => ∀ o, r = .ok o → Conclui pedido past o)
        (R := fun later r => (past ++ [⟨.current subjectKey, some atual⟩] <+: later) ∧
          ∀ d, r = .ok d → Anexo later event d.1 d.2) ?_ ?_
      · rintro later c ⟨hinsert, hlater⟩ e he
        rw [hinsert e he]
        exact hauthorized later hlater
      · rintro later r ⟨hanexo, hlater⟩
        exact ⟨hlater, hanexo⟩
      · intro later erro _ o ho
        cases ho
      · rintro later d ⟨hlater, hanexo⟩
        refine .done fun o ho => ?_
        rw [← Except.ok.inj ho]
        exact .anexado (hauthorized later hlater) (hanexo d rfl) rfl
    · rw [if_pos hversion]
      refine .done fun o ho => ?_
      rw [← Except.ok.inj ho]
      have hlost : (corridaPerdida subjectKey atual).decision = .lostConcurrentRace := rfl
      refine .recusado ⟨?_, ?_⟩
      · rw [hlost]
        decide
      · rw [hlost]
        decide

/-- What the promotion gate may insert and what its outcome says. -/
theorem promocao_obeys {p : Promocao} {past : Respostas} :
    (predictiveReconfigurationGate p).Obeys
      (fun past c => ∀ e, c = .insert e → Autoriza past (.promocao p) e)
      (fun past r => ∀ o, r = .ok o → Conclui (.promocao p) past o) past := by
  unfold predictiveReconfigurationGate
  by_cases hsujeito : p.candidate.subjectKey = p.evaluation.claim.subjectKey
  case neg =>
    rw [if_pos hsujeito]
    exact .done fun o ho => by cases ho
  rw [if_neg (not_not.mpr hsujeito)]
  by_cases hregime : p.evaluation.regime.status = .regimeShiftCandidate
  case neg =>
    rw [if_pos hregime]
    exact semEscrita_obeys ⟨by decide, by decide⟩
  rw [if_neg (not_not.mpr hregime)]
  by_cases hfraca : p.evaluation.evidence.aMinus.le (.finite 0) ∨ p.evaluation.state ≠ .predictable
  · rw [if_pos hfraca]
    exact semEscrita_obeys ⟨by decide, by decide⟩
  rw [if_neg hfraca]
  obtain ⟨hganho, hestado⟩ := not_or.mp hfraca
  cases happroval : p.envelope.authority.approval with
  | none => exact semEscrita_obeys ⟨by decide, by decide⟩
  | some approval =>
    show Proc.Obeys _ _ _ (if _ then _ else _)
    by_cases hvalid : p.evaluation.approvalValidationOutcome = .valid ∧ p.vinculada approval = true
    · rw [if_pos hvalid]
      refine anexarSeCorrente_obeys rfl rfl fun later _ hleu => .promocao ?_ hleu
      exact ⟨hsujeito, hregime, Bool.eq_false_iff.mpr hganho, not_not.mp hestado, happroval,
        hvalid.1, hvalid.2⟩
    · rw [if_neg hvalid]
      exact semEscrita_obeys ⟨by decide, by decide⟩

/-- The same for the rollback gate. -/
theorem reversao_obeys {r : Reversao} {past : Respostas} :
    (predictiveRollbackGate r).Obeys
      (fun past c => ∀ e, c = .insert e → Autoriza past (.reversao r) e)
      (fun past result => ∀ o, result = .ok o → Conclui (.reversao r) past o) past := by
  refine .call (fun e he => by cases he) fun a => ?_
  cases a with
  | none => exact .done fun o ho => by cases ho
  | some lido =>
    cases lido with
    | none => exact semEscrita_obeys ⟨by decide, by decide⟩
    | some target =>
      show Proc.Obeys _ _ _ (r.decidir target (r.validacao target))
      cases hvalidacao : r.validacao target with
      | error violacao => exact .done fun o ho => by cases ho
      | ok outcome =>
        unfold Reversao.decidir
        cases happroval : r.envelope.authority.approval with
        | none => exact semEscrita_obeys ⟨by decide, by decide⟩
        | some approval =>
          simp only
          by_cases hvalid : outcome = .valid ∧ r.vinculada approval target = true
          · rw [if_pos hvalid]
            refine anexarSeCorrente_obeys rfl rfl fun later hsub hleu => .reversao ?_ (hsub ?_) hleu
            · exact ⟨by rw [hvalidacao, hvalid.1], happroval, hvalid.2⟩
            · exact List.mem_append_right _ List.mem_cons_self
          · rw [if_neg hvalid]
            exact semEscrita_obeys ⟨by decide, by decide⟩

theorem portao_obeys {pedido : Pedido} {past : Respostas} :
    pedido.portao.Obeys (fun past c => ∀ e, c = .insert e → Autoriza past pedido e)
      (fun past r => ∀ o, r = .ok o → Conclui pedido past o) past := by
  cases pedido with
  | promocao p => exact promocao_obeys
  | reversao r => exact reversao_obeys

end PiaOs.Predictive
