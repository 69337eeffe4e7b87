import PiaOs.Predictive.LogLaws

/-!
# What the log promises

The log of every run that began with an empty table, and what a call gets that repeats the
identifier of a committed event.
-/

namespace PiaOs.Predictive

open Support Memory Piap PredictiveReconfigurationRepository

/-- A state that some run reaches from an empty table. -/
abbrev Alcancavel : Type := { w : Mundo // Passos Mundo.vazio w }

theorem Alcancavel.coerente (w : Alcancavel) : w.val.Coerente := coerente_vazio.passos w.property

/-! ## The log -/

/-- What a promotion was appended for. -/
structure Promovido (w : Mundo) (e : Evento) (p : Promocao) (approval : ApprovalBinding) :
    Prop where
  pedido : .promocao p ∈ w.pedidos
  evento : e = p.evento approval
  estado : p.evaluation.state = .predictable
  ganho : (Double.finite 0).lt p.evaluation.evidence.aMinus = true
  regime : p.evaluation.regime.status = .regimeShiftCandidate
  desfecho : p.evaluation.approvalValidationOutcome = .valid
  aprovacao : p.envelope.authority.approval = some approval
  candidato : approval.boundTo = ⟨.promotionCandidate, e.activeCandidateRef⟩
  versao : approval.approvalVersion = e.toVersion
  /-- When the evaluation is that of the envelope, this approval passed every test. -/
  validada : ∀ (Amostra : Type) (ciencia : Ciencia Amostra) context,
    predictiveEvaluateItem ciencia (.ready p.envelope context) = .ok (.evaluated p.evaluation) →
      Aprovada p.envelope.authority approval context.at_.instant context.expectedVersion
        context.requiredScope context.expectedJurisdiction approval.boundTo

/-- What a rollback goes back to. -/
structure Reativado (log : List Evento) (e target : Evento) : Prop where
  alvo : target ∈ log
  sujeito : target.subjectKey = e.subjectKey
  anterior : target.toVersion < e.toVersion
  referencia : e.rollbackOfEventId = some target.eventId
  candidato : e.activeCandidateRef = target.activeCandidateRef
  conteudo : e.candidatePayloadSha256 = target.candidatePayloadSha256

structure LogDeReconfiguracao (w : Mundo) : Prop where
  versoes : ∀ subjectKey, ∃ n, versoes subjectKey w.log = numeradas n
  passo : ∀ e ∈ w.log, e.fromVersion = e.toVersion - 1
  imutavel : ∀ w', Passos w w' → w.log <+: w'.log
  promocoes : ∀ e ∈ w.log, e.eventKind = .promote → ∃ p approval, Promovido w e p approval
  reversoes : ∀ e ∈ w.log, e.eventKind = .rollback → ∃ target, Reativado w.log e target

theorem promovido_of_aprova {w : Mundo} {p : Promocao} {approval : ApprovalBinding}
    (hpedido : .promocao p ∈ w.pedidos) (h : p.Aprova approval) :
    Promovido w (p.evento approval) p approval := by
  have hvinculo := h.vinculo
  unfold Promocao.vinculada at hvinculo
  simp only [Bool.and_eq_true, decide_eq_true_eq] at hvinculo
  obtain ⟨⟨hkind, href⟩, hversion⟩ := hvinculo
  refine ⟨hpedido, rfl, h.estado, ?_, h.regime, h.desfecho, h.aprovacao, ?_, hversion, ?_⟩
  · exact PredictiveClaimEvaluationResult.aMinus_of_predictable h.estado
  · show approval.boundTo = ⟨.promotionCandidate, p.candidate.candidateRef⟩
    rw [← hkind, ← href]
  · intro Amostra ciencia context heval
    obtain ⟨other, hother⟩ := aprovada_of_evaluated heval h.desfecho
    have hsame : approval = other := Option.some.inj (h.aprovacao.symm.trans hother.vinculo)
    rw [hsame]
    exact hother

theorem reconfiguration_log (w : Alcancavel) : LogDeReconfiguracao w.val where
  versoes := w.coerente.denso
  passo := fun e he => (w.coerente.confirmados e he).passo
  imutavel := fun _ => log_prefix
  promocoes := by
    intro e he hkind
    obtain ⟨p, approval, hpedido, haprova, heq⟩ := (w.coerente.confirmados e he).promocao hkind
    rw [heq]
    exact ⟨p, approval, promovido_of_aprova hpedido haprova⟩
  reversoes := by
    intro e he hkind
    obtain ⟨r, approval, target, -, haprova, heq, htarget, hearlier⟩ :=
      (w.coerente.confirmados e he).reversao hkind
    have hvinculo := haprova.vinculo
    unfold Reversao.vinculada at hvinculo
    simp only [Bool.and_eq_true, decide_eq_true_eq] at hvinculo
    have hsubject : target.subjectKey = e.subjectKey := by
      rw [heq]
      exact hvinculo.1.1.1
    exact ⟨target, htarget, hsubject, hearlier, by rw [heq]; rfl, by rw [heq]; rfl,
      by rw [heq]; rfl⟩

/-! ## Repeated identifiers -/

/-- The two calls are about one candidate. -/
def MesmoCandidato : Pedido → Pedido → Prop
  | .promocao p, .promocao p' => p.candidate = p'.candidate
  | .reversao r, .reversao r' =>
    r.subjectKey = r'.subjectKey ∧ r.rollbackOfEventId = r'.rollbackOfEventId ∧
      r.expectedVersion = r'.expectedVersion
  | _, _ => False

/-- The call is the one that appended the event. -/
def Autor (pedido : Pedido) (e : Evento) : Prop :=
  (∃ p approval, pedido = .promocao p ∧ e = p.evento approval) ∨
    ∃ r approval target, pedido = .reversao r ∧ e = r.evento approval target

/-- What a call should get that repeats the identifier of a committed event. -/
structure ReplayPrometido (e : Evento) (original : Pedido) (ex : Execucao)
    (r : Except Erro Desfecho) : Prop where
  mesmo : MesmoCandidato original ex.pedido → ∃ o, r = .ok o ∧ o.decision = .replayed ∧
    o.eventId = some e.eventId ∧ o.resultingVersion = some e.toVersion
  outro : ¬MesmoCandidato original ex.pedido →
    ∀ o, r = .ok o → o.decision ≠ .promoted ∧ o.decision ≠ .replayed
  nada : ∀ e', ⟨.insert e', Insercao.feita⟩ ∉ ex.feito

/-- A call that began after the event was committed, repeats its identifier and has ended. -/
structure Repete (w : Mundo) (e : Evento) (ex : Execucao) (r : Except Erro Desfecho) : Prop where
  emCurso : ∃ i, w.emCurso i = some ex
  depois : e ∈ ex.inicio
  identificador : ex.pedido.eventId = e.eventId
  fim : ex.resta = .done r

section Repete

variable {w : Mundo} {e : Evento} {ex : Execucao} {r : Except Erro Desfecho}

/-- Nothing with the identifier of a committed event is inserted. -/
theorem Repete.nada (hw : w.Coerente) (h : Repete w e ex r) (e' : Evento) :
    ⟨.insert e', Insercao.feita⟩ ∉ ex.feito := by
  intro hmem
  obtain ⟨i, hex⟩ := h.emCurso
  have hcoerente := hw.execucoes i ex hex
  have hfree := (hcoerente.verdade _ hmem).insert e' rfl e h.depois
  obtain ⟨front, post, hsplit⟩ := List.append_of_mem hmem
  have hautoriza : Autoriza ([] ++ front) ex.pedido e' :=
    (@portao_obeys _ []).calls hcoerente.caminho hsplit e' rfl
  refine hfree (.inl ?_)
  rw [← h.identificador, hautoriza.eventId]

/-- No gate that repeats a committed identifier ends in a promotion or a replay: the version
that it expects was taken before. -/
theorem Repete.recusada (hw : w.Coerente) (h : Repete w e ex r) :
    ∀ o, r = .ok o → o.decision ≠ .promoted ∧ o.decision ≠ .replayed := by
  intro o ho
  obtain ⟨i, hex⟩ := h.emCurso
  have hcoerente := hw.execucoes i ex hex
  have hobeys := (@portao_obeys _ []).path hcoerente.caminho
  rw [h.fim, List.nil_append] at hobeys
  cases hobeys.result o ho with
  | recusado decision => exact decision
  | @anexado event persisted autoriza anexo identificador =>
    generalize hdecision : o.decision = decision at anexo
    cases anexo with
    | inserido feita => exact absurd feita (h.nada hw event)
    | @repetido existing lido igual =>
      obtain ⟨hthere, hid⟩ := (hcoerente.verdade _ lido).get _ _ rfl
      have hsees : e ∈ w.vista i := List.mem_append_left _ (hcoerente.inicio h.depois)
      have hsameId : existing.eventId = e.eventId := by
        rw [hid, autoriza.eventId, h.identificador]
      have hexisting : existing = e := hw.unicos i existing hthere e hsees hsameId
      have hevent : existing = event := ((reconcile_eq_ok hid).mp igual).2
      obtain ⟨atual, hmem, hversion⟩ := autoriza.leu
      obtain ⟨-, hbound⟩ := (hcoerente.verdade _ hmem).current _ _ rfl
      have hkey : e.subjectKey = event.subjectKey := by rw [← hexisting, hevent]
      have hle := hbound e h.depois hkey
      have hto := autoriza.toVersion
      rw [← hevent, hexisting] at hto hversion
      omega
    | perdido => exact ⟨by decide, by decide⟩

end Repete

/-- What repeated calls get. -/
structure LeisDoReplay (w : Mundo) : Prop where
  /-- The promise is kept exactly when the candidate is another one. -/
  exato : ∀ e original ex r, e ∈ w.log → Autor original e → Repete w e ex r →
    (ReplayPrometido e original ex r ↔ ¬MesmoCandidato original ex.pedido)
  /-- With the same candidate too, nothing is appended and nothing is promoted. -/
  inerte : ∀ e ex r, Repete w e ex r →
    (∀ o, r = .ok o → o.decision ≠ .promoted ∧ o.decision ≠ .replayed) ∧
      ∀ e', ⟨.insert e', Insercao.feita⟩ ∉ ex.feito

theorem reconfiguration_replay (w : Alcancavel) : LeisDoReplay w.val where
  exato := by
    intro e original ex r _ _ hrepete
    have hrefused := hrepete.recusada w.coerente
    constructor
    · intro hpromise hsame
      obtain ⟨o, ho, hreplayed, -⟩ := hpromise.mesmo hsame
      exact (hrefused o ho).2 hreplayed
    · intro hother
      exact ⟨fun hsame => absurd hsame hother, fun _ => hrefused, hrepete.nada w.coerente⟩
  inerte := fun e ex r hrepete => ⟨hrepete.recusada w.coerente, hrepete.nada w.coerente⟩

/-! ## A promotion that is repeated -/

theorem portao_of_aprova {p : Promocao} {approval : ApprovalBinding} (h : p.Aprova approval) :
    (Pedido.promocao p).portao = anexarSeCorrente p.candidate.subjectKey
      p.candidate.expectedVersion (p.evento approval) "evento persistido" := by
  show predictiveReconfigurationGate p = _
  unfold predictiveReconfigurationGate
  rw [if_neg (not_not.mpr h.sujeito), if_neg (not_not.mpr h.regime),
    if_neg (not_or.mpr ⟨by simp [h.ganho], not_not.mpr h.estado⟩)]
  simp only [h.aprovacao]
  rw [if_pos ⟨h.desfecho, h.vinculo⟩]

/-- A gate that runs alone: each statement is answered from what the session sees. -/
def sozinho : Programa Desfecho → List Evento → Except Erro Desfecho × List Evento
  | .done r, vista => (r, vista)
  | .call (.get id) k, vista => sozinho (k (some (vista.find? fun e => e.eventId = id))) vista
  | .call (.current subjectKey) k, vista => sozinho (k (some (corrente subjectKey vista))) vista
  | .call (.insert e) k, vista =>
    if vista.any fun e' => e'.eventId = e.eventId then sozinho (k Insercao.identidade) vista
    else if vista.any fun e' => e'.subjectKey = e.subjectKey ∧ e'.toVersion = e.toVersion then
      sozinho (k Insercao.versao) vista
    else sozinho (k Insercao.feita) (vista ++ [e])

/-- No other session has events of its own. -/
def Mundo.Sozinho (w : Mundo) (i : ℕ) : Prop := ∀ j, j ≠ i → w.pendentes j = []

/-- A session that runs alone reaches what its gate gives when it runs alone. -/
theorem sozinho_passos {i : ℕ} (resta : Programa Desfecho) :
    ∀ {w : Mundo} {ex : Execucao}, w.emCurso i = some ex → ex.resta = resta → w.Sozinho i →
      ∃ w' feito, Passos w w' ∧ w'.Sozinho i ∧ w'.log = w.log ∧
        w'.emCurso i = some { ex with feito, resta := .done (sozinho resta (w.vista i)).1 } ∧
        w'.vista i = (sozinho resta (w.vista i)).2 := by
  induction resta with
  | done r =>
    intro w ex hex hresta halone
    refine ⟨w, ex.feito, .refl, halone, rfl, ?_, rfl⟩
    have hend : ex = { ex with resta := .done r } := by rw [← hresta]
    rw [hex]
    exact congrArg some hend
  | call c k ih =>
    -- one answered statement, and the rest by the induction hypothesis
    have hanswer : ∀ {w : Mundo} {ex : Execucao} {a : Resposta c} {pendentes : List Evento},
        w.emCurso i = some ex → ex.resta = .call c k → w.Sozinho i → Responde w i c a pendentes →
        sozinho (.call c k) (w.vista i) = sozinho (k a) (w.log ++ pendentes) →
        ∃ w' feito, Passos w w' ∧ w'.Sozinho i ∧ w'.log = w.log ∧
          w'.emCurso i =
            some { ex with feito, resta := .done (sozinho (.call c k) (w.vista i)).1 } ∧
          w'.vista i = (sozinho (.call c k) (w.vista i)).2 := by
      intro w ex a pendentes hex hresta halone hresponde hsame
      have hstep : Passo w (w.respondido i ex c a (k a) pendentes) :=
        .responder hex hresta hresponde
      have hnext : (w.respondido i ex c a (k a) pendentes).emCurso i =
          some { ex with feito := ex.feito ++ [⟨c, a⟩], resta := k a } := Function.update_self ..
      have hvista : (w.respondido i ex c a (k a) pendentes).vista i = w.log ++ pendentes := by
        unfold Mundo.vista Mundo.respondido
        simp only [Function.update_self]
      have halone' : (w.respondido i ex c a (k a) pendentes).Sozinho i := by
        intro j hj
        unfold Mundo.respondido
        simp only [Function.update_of_ne hj]
        exact halone j hj
      obtain ⟨w', feito, hpassos, hrest⟩ := ih a hnext rfl halone'
      rw [hvista, ← hsame] at hrest
      exact ⟨w', feito, .head hstep hpassos, hrest⟩
    intro w ex hex hresta halone
    cases c with
    | get id => exact hanswer hex hresta halone .get rfl
    | current subjectKey => exact hanswer hex hresta halone .current rfl
    | insert e =>
      by_cases hid : (w.vista i).any fun e' => e'.eventId = e.eventId
      · obtain ⟨e', hmem, hsame⟩ := List.any_eq_true.mp hid
        refine hanswer hex hresta halone (.identidade ⟨e', hmem, of_decide_eq_true hsame⟩) ?_
        rw [sozinho, if_pos hid]
        rfl
      by_cases hversion : (w.vista i).any fun e' =>
          e'.subjectKey = e.subjectKey ∧ e'.toVersion = e.toVersion
      · obtain ⟨e', hmem, hsame⟩ := List.any_eq_true.mp hversion
        refine hanswer hex hresta halone (.versao ⟨e', hmem, of_decide_eq_true hsame⟩) ?_
        rw [sozinho, if_neg hid, if_pos hversion]
        rfl
      · have hfree : ∀ e' ∈ w.vista i, ¬Colide e' e := by
          intro e' hmem hcollide
          rcases hcollide with hsame | hsame
          · exact hid (List.any_eq_true.mpr ⟨e', hmem, decide_eq_true hsame⟩)
          · exact hversion (List.any_eq_true.mpr ⟨e', hmem, decide_eq_true hsame⟩)
        have hwaited : ∀ j, j ≠ i → ∀ e' ∈ w.pendentes j, ¬Colide e' e := by
          intro j hj e' hmem
          rw [halone j hj] at hmem
          cases hmem
        refine hanswer hex hresta halone (.feita hfree hwaited) ?_
        rw [sozinho, if_neg hid, if_neg hversion]
        unfold Mundo.vista
        rw [List.append_assoc]

/-- A session that is alone has a gate served from its start to its end. -/
theorem atendida {w : Mundo} {i : ℕ} (pedido : Pedido) (hidle : w.Ocioso i) (halone : w.Sozinho i) :
    ∃ w' feito, Passos w w' ∧ w'.Sozinho i ∧ w'.log = w.log ∧
      w'.emCurso i = some ⟨pedido, w.log, feito, .done (sozinho pedido.portao (w.vista i)).1⟩ ∧
      w'.vista i = (sozinho pedido.portao (w.vista i)).2 := by
  have hstep : Passo w (w.iniciado i pedido) := .iniciar hidle
  have hstarted : (w.iniciado i pedido).emCurso i = some ⟨pedido, w.log, [], pedido.portao⟩ :=
    Function.update_self ..
  obtain ⟨w', feito, hpassos, hrest⟩ := sozinho_passos pedido.portao hstarted rfl halone
  exact ⟨w', feito, .head hstep hpassos, hrest⟩

section Repetida

variable {p : Promocao} {approval : ApprovalBinding} {vista : List Evento}

/-- Alone over a table without events, the gate inserts the event of version one. -/
theorem sozinho_promovida (h : p.Aprova approval) (hzero : p.candidate.expectedVersion = 0) :
    (sozinho (Pedido.promocao p).portao []).2 = [p.evento approval] := by
  rw [portao_of_aprova h, hzero]
  rfl

/-- From an empty table, a promotion is committed and its call repeated. -/
theorem exists_repete (h : p.Aprova approval) (hzero : p.candidate.expectedVersion = 0) :
    ∃ w ex r, Passos Mundo.vazio w ∧ p.evento approval ∈ w.log ∧
      Repete w (p.evento approval) ex r ∧ ex.pedido = .promocao p := by
  have hquiet : Mundo.vazio.Ocioso 0 := fun ex hex => nomatch hex
  obtain ⟨w₁, feito, hrun, halone, -, hex, hvista⟩ :=
    atendida (i := 0) (.promocao p) hquiet fun _ _ => rfl
  rw [show Mundo.vazio.vista 0 = [] from rfl, sozinho_promovida h hzero] at hvista
  have hidle : w₁.Ocioso 0 := by
    intro other hother
    rw [hex] at hother
    exact ⟨_, congrArg Execucao.resta (Option.some.inj hother).symm⟩
  -- the events of the session are committed
  have hcommit : Passo w₁ (w₁.confirmado 0) := .confirmar hidle
  have hlog : (w₁.confirmado 0).log = [p.evento approval] := hvista
  have halone' : (w₁.confirmado 0).Sozinho 0 := by
    intro j hj
    show Function.update w₁.pendentes 0 [] j = []
    rw [Function.update_of_ne hj]
    exact halone j hj
  obtain ⟨w₂, feito', hrun', -, hlog', hex', -⟩ :=
    atendida (w := w₁.confirmado 0) (.promocao p) hidle halone'
  refine ⟨w₂, _, _, (hrun.tail hcommit).trans hrun', ?_, ⟨⟨0, hex'⟩, ?_, rfl, rfl⟩, rfl⟩
  · rw [hlog', hlog]
    exact List.mem_singleton_self _
  · rw [hlog]
    exact List.mem_singleton_self _

end Repetida

/-! ### One call of the promotion gate -/

theorem gramatica_of_hexdigest {s : String} :
    gramaticaSha256Hex (Sha256.hexdigest s).toList = true := by
  unfold gramaticaSha256Hex
  have hlength := Sha256.length_hexdigest s
  simp only [Bool.and_eq_true, beq_iff_eq, List.all_eq_true]
  exact ⟨hlength, fun c hc => Sha256.isHexDigit_of_mem_hexdigest hc⟩

def aprovacaoExemplo : ApprovalBinding where
  approvalReference := Texto.of "approval-7"
  approvalVersion := 1
  approvalScope := [Texto.of "predictive"]
  approvalExpiry := none
  approvalJurisdiction := none
  boundTo := ⟨.promotionCandidate, 9⟩
  valido := by decide +kernel

def envelopeExemplo : PiapEnvelope where
  contractVersion := .v1_0
  subject :=
    { target := Texto.of "grid.load"
      signal := Texto.of "temperature"
      horizon :=
        { delta := ⟨0, 3600, 0, by decide⟩
          referenceTime := ⟨0, Datetime.epoch.wall_inRange⟩
          availability := .availableAtReferenceTime
          valido := by decide +kernel }
      valido := by decide +kernel }
  provenance :=
    { origin :=
        { kind := Texto.of "dataset"
          ref := 1
          sourceVersion := 1
          contentSha256 := none
          valido := by decide +kernel }
      recordedAt := ⟨0, Datetime.epoch.wall_inRange⟩
      jurisdiction := none
      policyRef := none
      valido := by decide +kernel }
  authority := ⟨.assertedAuthorized, some aprovacaoExemplo, by decide +kernel⟩
  payloadRefs := []
  sealedAt := ⟨0, Datetime.epoch.wall_inRange⟩
  valido := by decide +kernel

def avaliacaoExemplo : PredictiveClaimEvaluationResult where
  claim := predictiveClaimFromEnvelope envelopeExemplo
  registry := ⟨[⟨"temperature", 1, by decide⟩], ["linear"], by decide, by decide⟩
  aRel := .finite 0
  regime := ⟨.finite 1, .finite 0, true, false, false⟩
  evidence :=
    { aMinus := .finite 1
      aUpper := .finite 1
      aStarWorst := .finite 1
      meanGain := .finite 1
      placeboP := .finite 0
      gReal := .finite 1
      gShuffledP95 := .finite 0
      sampleSize := 40
      alphaCorrected := .finite 1 }
  confirmatoryPass := true
  approvalValidationOutcome := .valid

def promocaoExemplo : Promocao where
  evaluation := avaliacaoExemplo
  envelope := envelopeExemplo
  candidate :=
    { candidateRef := 9
      subjectKey := avaliacaoExemplo.claim.subjectKey
      modelRef := Texto.of "model-2"
      hypothesisRefs := [Texto.of "h-1"]
      validationRef := Texto.of "validation-4"
      costRef := Texto.of "cost-4"
      responsibleRef := Texto.of "operator"
      rollbackPlanRef := Texto.of "plan-4"
      candidatePayloadSha256 := avaliacaoExemplo.claim.subjectKey
      expectedVersion := 0
      proposedVersion := 1
      metadados := by decide +kernel
      hipoteses := by decide +kernel
      digestos := ⟨gramatica_of_hexdigest, gramatica_of_hexdigest⟩
      versoes := by decide }
  eventId := 11
  recordedAt := Datetime.epoch

theorem promocaoExemplo_aprova : promocaoExemplo.Aprova aprovacaoExemplo where
  sujeito := by simp only [promocaoExemplo]
  regime := by decide +kernel
  ganho := by decide +kernel
  estado := by decide +kernel
  aprovacao := rfl
  desfecho := rfl
  vinculo := by decide +kernel

/-- The call that committed the first event, repeated as it is, gets no replay. -/
theorem repetida_sem_replay : ∃ w ex r, Passos Mundo.vazio w ∧
    promocaoExemplo.evento aprovacaoExemplo ∈ w.log ∧
    Repete w (promocaoExemplo.evento aprovacaoExemplo) ex r ∧
    ¬ReplayPrometido (promocaoExemplo.evento aprovacaoExemplo) (.promocao promocaoExemplo)
      ex r := by
  obtain ⟨w, ex, r, hrun, hmem, hrepete, hpedido⟩ := exists_repete promocaoExemplo_aprova rfl
  refine ⟨w, ex, r, hrun, hmem, hrepete, fun hpromise => ?_⟩
  have hsame : MesmoCandidato (.promocao promocaoExemplo) ex.pedido := by
    rw [hpedido]
    rfl
  obtain ⟨o, ho, hreplayed, -⟩ := hpromise.mesmo hsame
  exact (hrepete.recusada (coerente_vazio.passos hrun) o ho).2 hreplayed

end PiaOs.Predictive
