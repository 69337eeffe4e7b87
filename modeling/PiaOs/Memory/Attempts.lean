import PiaOs.Memory.Execution
import PiaOs.Memory.SingleUse

/-!
# What an execution does

The calls of an execution, read from its log: which effects it requested and which
receipts it committed. Every effect comes after the committed consumption and is for
the next approved target.
-/

namespace PiaOs.Memory

open Support Banco DestructiveExecutionService

variable {request : DestructiveExecutionRequest} {proveniencia : GovernanceProvenance}
  {past log : List (Answered Chamada Resposta)} {desfechos : List TargetExecutionOutcome}

/-! ## What a log tells -/

abbrev Tentativa := ErasureEffectRequest × Option ErasureEffectResult

def tentativa : Answered Chamada Resposta → Option Tentativa
  | ⟨.tentar pedido, resultado⟩ => some (pedido, resultado)
  | _ => none

/-- The effects that were requested, with the answers. -/
def tentativas (log : List (Answered Chamada Resposta)) : List Tentativa :=
  log.filterMap tentativa

def observada : Tentativa → Option ObservedAttemptResult
  | (_, some (.observed observado)) => some observado
  | _ => none

/-- The attempts that were observed. -/
def observadas (log : List (Answered Chamada Resposta)) : List ObservedAttemptResult :=
  (tentativas log).filterMap observada

/-- The receipts that are committed, and those of the open transaction. -/
structure Escrituracao where
  gravados : List ErasureRecord
  abertos : List ErasureRecord

def Escrituracao.lanca (x : Escrituracao) (e : Answered Chamada Resposta) : Escrituracao :=
  match encerra e with
  | some true => ⟨x.gravados ++ x.abertos, []⟩
  | some false => ⟨x.gravados, []⟩
  | none => ⟨x.gravados, x.abertos ++ (lancado e).toList⟩

def escrituracao (log : List (Answered Chamada Resposta)) : Escrituracao :=
  log.foldl Escrituracao.lanca ⟨[], []⟩

/-- The receipts that the calls have committed. -/
def recibosDe (log : List (Answered Chamada Resposta)) : List ErasureRecord :=
  (escrituracao log).gravados

@[simp] theorem tentativas_append (log log' : List (Answered Chamada Resposta)) :
    tentativas (log ++ log') = tentativas log ++ tentativas log' := List.filterMap_append

@[simp] theorem observadas_append (log log' : List (Answered Chamada Resposta)) :
    observadas (log ++ log') = observadas log ++ observadas log' := by
  simp [observadas]

@[simp] theorem escrituracao_snoc (log : List (Answered Chamada Resposta))
    (e : Answered Chamada Resposta) :
    escrituracao (log ++ [e]) = (escrituracao log).lanca e := by
  simp [escrituracao]

/-! ## The rules of an execution -/

/-- The approval was consumed in a transaction that is committed. -/
def Consumida (request : DestructiveExecutionRequest) (log : List (Answered Chamada Resposta)) :
    Prop :=
  ∃ front registro post, log = front ++ ⟨.consumir request.envelope, .ok registro⟩ :: post ∧
    desfecho post = some true

theorem Consumida.append (h : Consumida request log) (log' : List (Answered Chamada Resposta)) :
    Consumida request (log ++ log') := by
  obtain ⟨front, registro, post, rfl, hpost⟩ := h
  refine ⟨front, registro, post ++ log', by simp, ?_⟩
  induction post with
  | nil => cases hpost
  | cons e post ih =>
    rw [desfecho] at hpost
    rw [List.cons_append, desfecho]
    cases hend : encerra e with
    | some ended => simpa [hend] using hpost
    | none =>
      rw [hend, Option.none_or] at hpost
      rw [Option.none_or, ih hpost]

/-- What is asked of an effect: the proof is that of the consumption, the target is the
next one that was approved. -/
def Autorizado (request : DestructiveExecutionRequest) (log : List (Answered Chamada Resposta)) :
    Chamada → Prop
  | .tentar pedido => Consumida request log ∧
      pedido.authorization.approvalId = request.approvalId ∧
      request.aprovados[(tentativas log).length]? =
        some (SafeTargetSnapshot.fromDescriptor pedido.descriptor)
  | _ => True

/-- The outcome tells what became of the attempt. -/
def Relata (tentativa : Tentativa) (desfecho : TargetExecutionOutcome) : Prop :=
  ∃ observado, tentativa.2 = some observado ∧
    desfecho.subjectCoid = tentativa.1.descriptor.subjectCoid ∧
    match observado with
    | .notStarted resultado => desfecho = desfechoNaoIniciado desfecho.position resultado
    | .observed observado => ∃ recibo, desfecho = desfechoObservado desfecho.position observado recibo

/-- The outcomes account for the log: one for each attempt, and one committed receipt
for each attempt that was observed. -/
structure Contado (request : DestructiveExecutionRequest) (proveniencia : GovernanceProvenance)
    (log : List (Answered Chamada Resposta)) (desfechos : List TargetExecutionOutcome) : Prop where
  relatadas : List.Forall₂ Relata (tentativas log) desfechos
  posicoes : desfechos.map TargetExecutionOutcome.position = List.range desfechos.length
  gravados : (recibosDe log).map ErasureRecord.toReceiptFields =
    (observadas log).map (camposDoRecibo request.operation proveniencia)
  recibos : (recibosDe log).map ErasureRecord.id = recibosDosAlvos desfechos
  abertos : (escrituracao log).abertos = []
  alvos : (tentativas log).map (fun t => SafeTargetSnapshot.fromDescriptor t.1.descriptor) =
    request.aprovados.take desfechos.length

/-- The evidence counts what was fact before the last attempt. -/
structure Evidenciado (request : DestructiveExecutionRequest)
    (log : List (Answered Chamada Resposta)) (descritor : ErasureTargetDescriptor)
    (evidence : PartialExecutionEvidence) : Prop where
  aprovacao : evidence.approvalId = request.approvalId
  posicao : evidence.failedPosition = (tentativas log).length
  sujeito : evidence.subjectCoid = descritor.subjectCoid
  observadas : evidence.attemptsObserved = (observadas log).length
  recibos : evidence.receiptsPersisted = (recibosDe log).length
  naoTentados : evidence.targetsNotAttempted =
    (tentativas log).length - (PiaOs.Memory.observadas log).length

/-- What the log of an execution looks like when it ends. Nothing is said of an observed
attempt whose receipt was refused before its transaction could be committed. -/
def Completo (request : DestructiveExecutionRequest) (log : List (Answered Chamada Resposta)) :
    Fim → Prop
  | .ok (.report report) => (∃ proveniencia, Contado request proveniencia log report.targets) ∧
      report.targets.length = request.aprovados.length
  | .error (.unknownMaterialState evidence) => ∃ antes pedido proveniencia desfechos,
      log = antes ++ [⟨.tentar pedido, none⟩] ∧ Contado request proveniencia antes desfechos ∧
      Evidenciado request antes pedido.descriptor evidence
  | .error (.adapterContractViolation violacao evidence) =>
      ∃ antes pedido observado proveniencia desfechos,
      log = antes ++ [⟨.tentar pedido, some observado⟩] ∧
      verificarCorrespondencia request pedido.descriptor observado = some violacao ∧
      Contado request proveniencia antes desfechos ∧
      Evidenciado request antes pedido.descriptor evidence
  | .error (.receiptNotPersisted outcome evidence) =>
      ∃ antes pedido observado entrada id erro proveniencia desfechos,
      log = antes ++ [⟨.tentar pedido, some (.observed observado)⟩, ⟨.registrar entrada, .ok id⟩,
        ⟨.commit, .error erro⟩, ⟨.fechar, ()⟩] ∧
      outcome = observado.outcome ∧ Contado request proveniencia antes desfechos ∧
      Evidenciado request antes pedido.descriptor evidence
  | .error (.validation _) | .error .persistence => True
  | _ => tentativas log = []

/-! ## The parts -/

theorem comparar_eq_none {fresco aprovado : SafeTargetSnapshot} :
    comparar fresco aprovado = none ↔ fresco = aprovado := by
  obtain ⟨⟩ := fresco
  obtain ⟨⟩ := aprovado
  simp [comparar, camposDoBinding]

/-- A request for an approved target is never refused. -/
theorem pedido_accepted {descritor : ErasureTargetDescriptor} (consumidoEm : Instant)
    (h : SafeTargetSnapshot.fromDescriptor descritor ∈ request.aprovados) :
    ErasureEffectRequest.violation descritor (autorizacao request consumidoEm) = none := by
  have hcontroller := request.envelope.coherent.controllers _ h
  have hscopes := request.envelope.proposal.coherent.scopes _ h
  simp only [SafeTargetSnapshot.fromDescriptor, ← request.envelope.coherent.context]
    at hcontroller hscopes
  simp [ErasureEffectRequest.violation, autorizacao, descritor.isContent, descritor.isVerified,
    hcontroller, hscopes]

theorem subject_of_verificar {descritor : ErasureTargetDescriptor} {observado : ErasureEffectResult}
    (h : verificarCorrespondencia request descritor observado = none) :
    observado.subjectCoid = descritor.subjectCoid := by
  by_contra hsubject
  simp only [verificarCorrespondencia, hsubject, ne_eq, not_false_eq_true, if_true] at h
  split at h <;> cases h

/-- Before the first attempt. -/
theorem contado_nil (htentativas : tentativas log = []) (hrecibos : escrituracao log = ⟨[], []⟩) :
    Contado request proveniencia log [] := by
  constructor <;> simp [htentativas, hrecibos, recibosDe, observadas, recibosDosAlvos]

variable {pedido : ErasureEffectRequest}

/-- An attempt that did not start needs no receipt. -/
theorem Contado.notStarted {resultado : MaterialAttemptNotStarted}
    (h : Contado request proveniencia log desfechos)
    (halvo : request.aprovados[desfechos.length]? = some (.fromDescriptor pedido.descriptor))
    (hverificado : verificarCorrespondencia request pedido.descriptor (.notStarted resultado) = none) :
    Contado request proveniencia (log ++ [⟨.tentar pedido, some (.notStarted resultado)⟩])
      (desfechos ++ [desfechoNaoIniciado desfechos.length resultado]) := by
  have hlanca : escrituracao (log ++ [⟨.tentar pedido, some (.notStarted resultado)⟩]) =
      escrituracao log := by
    simp [Escrituracao.lanca, encerra, lancado]
  constructor
  case relatadas =>
    rw [tentativas_append]
    refine List.rel_append h.relatadas (.cons ?_ .nil)
    exact ⟨_, rfl, subject_of_verificar hverificado, rfl⟩
  case posicoes =>
    simp [h.posicoes, List.range_succ, desfechoNaoIniciado, TargetExecutionOutcome.position]
  case gravados =>
    rw [recibosDe, hlanca, observadas_append, ← recibosDe, h.gravados]
    simp [observadas, tentativas, tentativa, observada]
  case recibos =>
    rw [recibosDe, hlanca, ← recibosDe, h.recibos]
    simp [recibosDosAlvos, desfechoNaoIniciado, TargetExecutionOutcome.recibo]
  case abertos => rw [hlanca, h.abertos]
  case alvos =>
    rw [tentativas_append, List.map_append, h.alvos, List.length_append, List.length_singleton,
      List.take_add_one, halvo]
    rfl

/-- An attempt that was observed, with its committed receipt. -/
theorem Contado.observed {observado : ObservedAttemptResult} {entrada : ErasureRecordAppend}
    {id : Uuid} (h : Contado request proveniencia log desfechos)
    (halvo : request.aprovados[desfechos.length]? = some (.fromDescriptor pedido.descriptor))
    (hverificado : verificarCorrespondencia request pedido.descriptor (.observed observado) = none)
    (hentrada : entrada.toReceiptFields =
      camposDoRecibo request.operation proveniencia observado) :
    Contado request proveniencia
      (log ++ [⟨.tentar pedido, some (.observed observado)⟩] ++ [⟨.registrar entrada, .ok id⟩] ++
        [⟨.commit, .ok ()⟩] ++ [⟨.fechar, ()⟩])
      (desfechos ++ [desfechoObservado desfechos.length observado id]) := by
  have hlanca : escrituracao (log ++ [⟨.tentar pedido, some (.observed observado)⟩] ++
      [⟨.registrar entrada, .ok id⟩] ++ [⟨.commit, .ok ()⟩] ++ [⟨.fechar, ()⟩]) =
      ⟨recibosDe log ++ [⟨entrada.toReceiptFields, id⟩], []⟩ := by
    simp only [escrituracao_snoc, Escrituracao.lanca, encerra, h.abertos, List.nil_append]
    rfl
  have htentativas : tentativas (log ++ [⟨.tentar pedido, some (.observed observado)⟩] ++
      [⟨.registrar entrada, .ok id⟩] ++ [⟨.commit, .ok ()⟩] ++ [⟨.fechar, ()⟩]) =
      tentativas log ++ [(pedido, some (.observed observado))] := by
    simp [tentativas, tentativa]
  constructor
  case relatadas =>
    rw [htentativas]
    refine List.rel_append h.relatadas (.cons ?_ .nil)
    exact ⟨_, rfl, subject_of_verificar hverificado, id, rfl⟩
  case posicoes =>
    simp [h.posicoes, List.range_succ, desfechoObservado, TargetExecutionOutcome.position]
  case gravados =>
    rw [recibosDe, hlanca, observadas, htentativas]
    simp [h.gravados, hentrada, observadas, observada]
  case recibos =>
    rw [recibosDe, hlanca]
    simp [h.recibos, recibosDosAlvos, desfechoObservado, TargetExecutionOutcome.recibo]
  case abertos => rw [hlanca]
  case alvos =>
    rw [htentativas, List.map_append, h.alvos, List.length_append, List.length_singleton,
      List.take_add_one, halvo]
    rfl

theorem Contado.length (h : Contado request proveniencia log desfechos) :
    desfechos.length = (tentativas log).length := h.relatadas.length_eq.symm

/-- The evidence that is built tells what was fact. -/
theorem Contado.evidenciado (h : Contado request proveniencia log desfechos)
    (descritor : ErasureTargetDescriptor) : Evidenciado request log descritor
      (evidenciaParcial request.approvalId desfechos.length descritor desfechos) := by
  have hrecibos : (recibosDosAlvos desfechos).length = (recibosDe log).length := by
    rw [← h.recibos, List.length_map]
  have hobservadas : (recibosDe log).length = (observadas log).length := by
    have hlengths := congrArg List.length h.gravados
    rwa [List.length_map, List.length_map] at hlengths
  constructor
  case aprovacao | sujeito => rfl
  case posicao => exact h.length
  case observadas => exact hrecibos.trans hobservadas
  case recibos => exact hrecibos
  case naoTentados =>
    show desfechos.length - (recibosDosAlvos desfechos).length = _
    rw [hrecibos, hobservadas, h.length]

/-! ## The whole execution -/

/-- What an execution calls and how it ends: as its rules say, or with a report that
would repeat a receipt. -/
def Termina (request : DestructiveExecutionRequest) (log : List (Answered Chamada Resposta))
    (fim : Fim) : Prop :=
  Completo request log fim ∨ ∃ proveniencia desfechos,
    Contado request proveniencia log desfechos ∧ ¬ (recibosDosAlvos desfechos).Nodup

/-- Nothing was attempted and nothing recorded. -/
structure Intacto (log : List (Answered Chamada Resposta)) : Prop where
  tentativas : tentativas log = []
  escrituracao : escrituracao log = ⟨[], []⟩

theorem Intacto.append {e : Answered Chamada Resposta} (h : Intacto log)
    (htentativa : tentativa e = none)
    (hrecibo : Escrituracao.lanca ⟨[], []⟩ e = ⟨[], []⟩) : Intacto (log ++ [e]) := by
  constructor
  · rw [tentativas_append, h.tentativas]
    simp [PiaOs.Memory.tentativas, htentativa]
  · rw [escrituracao_snoc, h.escrituracao, hrecibo]

theorem recusaDoAlvo_cases (request : DestructiveExecutionRequest)
    (reason : PreConsumptionRefusalReason) (posicao : Nat)
    (campo : Option SnapshotDivergenceField) (motivo : Option TargetResolutionRefusalReason) :
    (∃ refusal, recusaDoAlvo request reason posicao campo motivo = .ok (.preConsumption refusal)) ∨
      ∃ texto, recusaDoAlvo request reason posicao campo motivo = .error (.value texto) := by
  rw [recusaDoAlvo]
  split
  · exact .inl ⟨_, rfl⟩
  · exact .inr ⟨_, rfl⟩

theorem completo_recusaDoAlvo (h : tentativas log = []) {reason : PreConsumptionRefusalReason}
    {posicao : Nat} {campo : Option SnapshotDivergenceField}
    {motivo : Option TargetResolutionRefusalReason} :
    Completo request log (recusaDoAlvo request reason posicao campo motivo) := by
  rcases recusaDoAlvo_cases request reason posicao campo motivo with ⟨refusal, heq⟩ | ⟨texto, heq⟩
  all_goals
    rw [heq]
    exact h

theorem completo_validarLote {fim : Fim} (h : tentativas log = [])
    (hfim : validarLote request = .error fim) : Completo request log fim := by
  simp only [validarLote] at hfim
  split at hfim
  · obtain rfl := Except.error.inj hfim
    exact h
  · split at hfim
    · obtain rfl := Except.error.inj hfim
      exact completo_recusaDoAlvo h
    · split at hfim
      · obtain rfl := Except.error.inj hfim
        exact h
      · obtain rfl := Except.error.inj hfim
        exact h
      · cases hfim

/-- An accepted batch has a reference for every approved target. -/
theorem aprovados_le (h : validarLote request = .ok proveniencia) :
    request.aprovados.length ≤ request.references.length := by
  by_contra hlength
  have hne : request.references.length ≠ request.aprovados.length := by omega
  rw [validarLote, if_pos hne] at h
  cases h

theorem resolverLote_obeys {lote : List (ErasureTargetReference × SafeTargetSnapshot)}
    {posicao : Nat} (h : Intacto past) :
    (resolverLote request posicao lote).Obeys (Autorizado request)
      (fun log resultado => match resultado with
        | .error fim => Completo request log fim
        | .ok frescos => Intacto log ∧
            frescos.map SafeTargetSnapshot.fromDescriptor = lote.map Prod.snd) past := by
  induction lote generalizing past posicao with
  | nil => exact .done ⟨h, rfl⟩
  | cons alvo resto ih =>
    obtain ⟨referencia, aprovado⟩ := alvo
    refine .call trivial fun (resultado : Option TargetResolutionResult) => ?_
    have hlog : Intacto (past ++ [⟨.resolver referencia, resultado⟩]) := h.append rfl rfl
    rcases resultado with _ | descritor | motivo
    · exact .done hlog.tentativas
    · simp only
      split
      · exact .done (completo_recusaDoAlvo hlog.tentativas)
      · rename_i hcampo
        refine (ih hlog).bind fun log resultado hresultado => ?_
        cases resultado with
        | error fim => exact .done hresultado
        | ok frescos =>
          refine .done ⟨hresultado.1, ?_⟩
          simp [comparar_eq_none.mp hcampo, hresultado.2]
    · exact .done (completo_recusaDoAlvo hlog.tentativas)

theorem Intacto.contado (h : Intacto log) : Contado request proveniencia log [] :=
  contado_nil h.tentativas h.escrituracao

theorem consumirAprovacao_obeys (h : Intacto past) :
    (consumirAprovacao request).Obeys (Autorizado request)
      (fun log resultado => match resultado with
        | .error fim => Completo request log fim
        | .ok _ => Intacto log ∧ Consumida request log) past := by
  refine .call trivial fun (registro : Except TransitionError ApprovalRecord) => ?_
  have hconsumida : Intacto (past ++ [⟨.consumir request.envelope, registro⟩]) := by
    refine h.append rfl ?_
    rcases registro with (erro | _ | _) | registro <;> rfl
  have hfechada : Intacto (past ++ [⟨.consumir request.envelope, registro⟩] ++ [⟨.fechar, ()⟩]) :=
    hconsumida.append rfl rfl
  rcases registro with (erro | _ | ⟨_, reason⟩) | registro
  · exact .call trivial fun _ => .done hfechada.tentativas
  · exact .call trivial fun _ => .done hfechada.tentativas
  · exact .call trivial fun _ => .done hfechada.tentativas
  · refine .call trivial fun (feito : Except DatabaseError Unit) => .call trivial fun _ => ?_
    have hcommit : Intacto (past ++ [⟨.consumir request.envelope, .ok registro⟩] ++
        [⟨.commit, feito⟩]) := by
      refine hconsumida.append rfl ?_
      cases feito <;> rfl
    have hfim : Intacto (past ++ [⟨.consumir request.envelope, .ok registro⟩] ++
        [⟨.commit, feito⟩] ++ [⟨.fechar, ()⟩]) := hcommit.append rfl rfl
    cases feito with
    | error erro => exact .done hfim.tentativas
    | ok _ =>
      cases hinstante : registro.consumedAt with
      | none => exact .done hfim.tentativas
      | some consumidoEm =>
        exact .done ⟨hfim, past, registro, [⟨.commit, .ok ()⟩, ⟨.fechar, ()⟩],
          by rw [List.append_assoc, List.append_assoc]; rfl, rfl⟩

theorem registrarRecibo_obeys {observado : ObservedAttemptResult} :
    (registrarRecibo request.operation proveniencia observado).Obeys (Autorizado request)
      (fun log resultado => match resultado with
        | .error .transaction => ∃ entrada id erro,
            log = past ++ [⟨.registrar entrada, .ok id⟩, ⟨.commit, .error erro⟩, ⟨.fechar, ()⟩]
        | .ok id => ∃ entrada : ErasureRecordAppend, entrada.toReceiptFields =
              camposDoRecibo request.operation proveniencia observado ∧
            log = past ++ [⟨.registrar entrada, .ok id⟩] ++ [⟨.commit, .ok ()⟩] ++ [⟨.fechar, ()⟩]
        | _ => True) past := by
  rw [registrarRecibo]
  cases hentrada : ErasureRecordAppend.make
      (camposDoRecibo request.operation proveniencia observado) with
  | error texto => exact .done trivial
  | ok entrada =>
    have hcampos : entrada.toReceiptFields =
        camposDoRecibo request.operation proveniencia observado := by
      obtain ⟨-, rfl⟩ := of_checked hentrada
      rfl
    refine .call trivial fun (recibo : Except DatabaseError Uuid) => ?_
    cases recibo with
    | error erro => exact .call trivial fun _ => .done trivial
    | ok id =>
      refine .call trivial fun (feito : Except DatabaseError Unit) => .call trivial fun _ => ?_
      cases feito with
      | error erro =>
        refine .done ⟨entrada, id, erro, ?_⟩
        rw [List.append_assoc, List.append_assoc]
        rfl
      | ok _ => exact .done ⟨entrada, hcampos, rfl⟩

variable {frescos : List ErasureTargetDescriptor} {consumidoEm : Instant}

theorem tentarAlvos_obeys (hcontado : Contado request proveniencia past desfechos)
    (hconsumida : Consumida request past)
    (hfrescos : frescos.map SafeTargetSnapshot.fromDescriptor =
      request.aprovados.drop desfechos.length) :
    (tentarAlvos request (autorizacao request consumidoEm) proveniencia frescos desfechos).Obeys
      (Autorizado request)
      (fun log resultado => match resultado with
        | .error erro => Completo request log (.error erro)
        | .ok desfechos => Contado request proveniencia log desfechos ∧
            request.aprovados.length ≤ desfechos.length) past := by
  induction frescos generalizing past desfechos with
  | nil => exact .done ⟨hcontado, List.drop_eq_nil_iff.mp hfrescos.symm⟩
  | cons descritor resto ih =>
    have halvo : request.aprovados[desfechos.length]? =
        some (SafeTargetSnapshot.fromDescriptor descritor) := by
      rw [← List.head?_drop, ← hfrescos]
      rfl
    have hresto : resto.map SafeTargetSnapshot.fromDescriptor =
        request.aprovados.drop (desfechos.length + 1) := by
      rw [← List.tail_drop, ← hfrescos]
      rfl
    have hpedido := pedido_accepted consumidoEm (List.mem_of_getElem? halvo)
    simp only [tentarAlvos, ErasureEffectRequest.make, checked_eq_ok hpedido]
    have hautorizado : Autorizado request past (.tentar ⟨descritor, autorizacao request consumidoEm,
        hpedido⟩) := ⟨hconsumida, rfl, by rw [← hcontado.length]; exact halvo⟩
    refine .call hautorizado fun (resultado : Option ErasureEffectResult) => ?_
    cases resultado with
    | none => exact .done ⟨past, _, proveniencia, desfechos, rfl, hcontado, hcontado.evidenciado _⟩
    | some observado =>
      cases hviolacao : verificarCorrespondencia request descritor observado with
      | some violacao =>
        simp only [hviolacao]
        exact .done ⟨past, _, observado, proveniencia, desfechos, rfl, hviolacao, hcontado,
          hcontado.evidenciado _⟩
      | none =>
        cases observado with
        | notStarted resultado =>
          simp only [hviolacao]
          exact ih (hcontado.notStarted halvo hviolacao) (hconsumida.append _)
            (by rwa [List.length_append, List.length_singleton])
        | observed observado =>
          simp only [hviolacao]
          refine registrarRecibo_obeys.bind fun log resultado hlog => ?_
          rcases resultado with (texto | _ | _) | recibo
          · exact .done trivial
          · exact .done trivial
          · obtain ⟨entrada, id, erro, rfl⟩ := hlog
            refine .done ?_
            refine ⟨past, ⟨descritor, autorizacao request consumidoEm, hpedido⟩, observado, entrada,
              id, erro, proveniencia, desfechos, ?_, rfl, hcontado, hcontado.evidenciado _⟩
            rw [List.append_assoc]
            rfl
          · obtain ⟨entrada, hentrada, rfl⟩ := hlog
            refine ih (hcontado.observed halvo hviolacao hentrada) ?_
              (by rwa [List.length_append, List.length_singleton])
            exact (((hconsumida.append _).append _).append _).append _

/-- The checks of a report pass when nothing is repeated and the positions are in
order. -/
theorem targetsViolation_eq_none {indice : Nat} {sujeitos recibos : List Uuid}
    (hposicoes : desfechos.map TargetExecutionOutcome.position =
      List.range' indice desfechos.length)
    (hsujeitos : (desfechos.map TargetExecutionOutcome.subjectCoid).Nodup)
    (hnovos : ∀ alvo ∈ desfechos, alvo.subjectCoid ∉ sujeitos)
    (hrecibos : (recibosDosAlvos desfechos).Nodup)
    (hineditos : ∀ recibo ∈ recibosDosAlvos desfechos, recibo ∉ recibos) :
    DestructiveExecutionReport.targetsViolation indice sujeitos recibos desfechos = none := by
  induction desfechos generalizing indice sujeitos recibos with
  | nil => rfl
  | cons alvo resto ih =>
    rw [List.map_cons, List.length_cons, List.range'_succ, List.cons.injEq] at hposicoes
    rw [List.map_cons, List.nodup_cons] at hsujeitos
    have hsujeito := hnovos alvo List.mem_cons_self
    have hdepois : ∀ alvo' ∈ resto, alvo'.subjectCoid ∉ alvo.subjectCoid :: sujeitos := by
      intro alvo' hmem hseen
      rcases List.mem_cons.mp hseen with heq | hseen
      · exact hsujeitos.1 (heq ▸ List.mem_map_of_mem hmem)
      · exact hnovos alvo' (List.mem_cons_of_mem _ hmem) hseen
    cases hrecibo : alvo.recibo with
    | none =>
      have hresto : recibosDosAlvos (alvo :: resto) = recibosDosAlvos resto := by
        simp [recibosDosAlvos, hrecibo]
      rw [hresto] at hrecibos hineditos
      have hrest := ih hposicoes.2 hsujeitos.2 hdepois hrecibos hineditos
      simp [DestructiveExecutionReport.targetsViolation, hposicoes.1, hsujeito, hrecibo, hrest]
    | some recibo =>
      have hresto : recibosDosAlvos (alvo :: resto) = recibo :: recibosDosAlvos resto := by
        simp [recibosDosAlvos, hrecibo]
      rw [hresto] at hrecibos hineditos
      have hnovo := hineditos recibo List.mem_cons_self
      rw [List.nodup_cons] at hrecibos
      have hdiferentes : ∀ recibo' ∈ recibosDosAlvos resto, recibo' ∉ recibo :: recibos := by
        intro recibo' hmem hseen
        rcases List.mem_cons.mp hseen with rfl | hseen
        · exact hrecibos.1 hmem
        · exact hineditos recibo' (List.mem_cons_of_mem _ hmem) hseen
      have hrest := ih hposicoes.2 hsujeitos.2 hdepois hrecibos.2 hdiferentes
      simp [DestructiveExecutionReport.targetsViolation, hposicoes.1, hsujeito, hrecibo, hnovo,
        hrest]

/-- The subjects of the outcomes are those of the approved targets. -/
theorem Contado.sujeitos (h : Contado request proveniencia log desfechos) :
    desfechos.map TargetExecutionOutcome.subjectCoid =
      (request.aprovados.take desfechos.length).map SafeTargetSnapshot.subjectCoid := by
  rw [← h.alvos, List.map_map]
  have hpairs : ∀ {ts : List Tentativa} {ds : List TargetExecutionOutcome},
      List.Forall₂ Relata ts ds → ds.map TargetExecutionOutcome.subjectCoid =
        ts.map (·.1.descriptor.subjectCoid) := by
    intro ts ds hpairs
    induction hpairs with
    | nil => rfl
    | cons hpair _ ih =>
      obtain ⟨-, -, hsubject, -⟩ := hpair
      rw [List.map_cons, List.map_cons, hsubject, ih]
  exact hpairs h.relatadas

/-- A report is refused only when it would repeat a receipt. -/
theorem relatorio_cases (consumidoEm : Instant) (h : Contado request proveniencia log desfechos)
    (hlength : request.aprovados.length ≤ desfechos.length) :
    (∃ report, relatorio request consumidoEm desfechos = .ok (.report report) ∧
        report.targets = desfechos ∧ report.targets.length = request.aprovados.length) ∨
      ¬ (recibosDosAlvos desfechos).Nodup := by
  by_cases hrecibos : (recibosDosAlvos desfechos).Nodup
  case neg => exact .inr hrecibos
  case pos =>
    have hupper : desfechos.length ≤ request.aprovados.length := by
      have htaken := congrArg List.length h.alvos
      rw [List.length_map, ← h.length, List.length_take] at htaken
      omega
    have hsame : desfechos.length = request.aprovados.length := Nat.le_antisymm hupper hlength
    have hsujeitos : (desfechos.map TargetExecutionOutcome.subjectCoid).Nodup := by
      rw [h.sujeitos, hsame, List.take_length]
      exact request.envelope.proposal.coherent.subjects
    have hviolation : DestructiveExecutionReport.targetsViolation 0 [] [] desfechos = none :=
      targetsViolation_eq_none (by rw [h.posicoes, List.range_eq_range']) hsujeitos (by simp) hrecibos (by simp)
    have hempty : desfechos.isEmpty = false := by
      rw [List.isEmpty_eq_false_iff]
      rintro rfl
      exact request.envelope.proposal.coherent.nonempty (List.length_eq_zero_iff.mp hsame.symm)
    refine .inl ⟨⟨request.approvalId, request.operation, consumidoEm, desfechos, ?_⟩, ?_, rfl,
      hsame⟩
    · rw [firstOf_eq_none, List.forall_mem_cons, List.forall_mem_singleton, refuse_eq_none]
      exact ⟨hempty, hviolation⟩
    · rw [relatorio, DestructiveExecutionReport.make, checked_eq_ok]

/-- Every call and the end of an execution are as its rules say. -/
theorem execute_obeys (request : DestructiveExecutionRequest) :
    (execute request).Obeys (Autorizado request) (Termina request) [] := by
  rw [execute]
  cases hlote : validarLote request with
  | error fim => exact .done (.inl (completo_validarLote rfl hlote))
  | ok proveniencia =>
    refine (resolverLote_obeys ⟨rfl, rfl⟩).bind fun log resultado hresultado => ?_
    cases resultado with
    | error fim => exact .done (.inl hresultado)
    | ok frescos =>
      refine (consumirAprovacao_obeys hresultado.1).bind fun log' resultado' hresultado' => ?_
      cases resultado' with
      | error fim => exact .done (.inl hresultado')
      | ok consumidoEm =>
        have hfrescos : frescos.map SafeTargetSnapshot.fromDescriptor = request.aprovados := by
          rw [hresultado.2]
          exact List.map_snd_zip (aprovados_le hlote)
        refine (tentarAlvos_obeys hresultado'.1.contado hresultado'.2 hfrescos).bind
          fun log'' resultado'' hresultado'' => ?_
        cases resultado'' with
        | error erro => exact .done (.inl hresultado'')
        | ok desfechos =>
          rcases relatorio_cases consumidoEm hresultado''.1 hresultado''.2 with
            ⟨report, hreport, rfl, hlength⟩ | hrepeated
          · simp only [hreport]
            exact .done (.inl ⟨⟨proveniencia, hresultado''.1⟩, hlength⟩)
          · exact .done (.inr ⟨proveniencia, desfechos, hresultado''.1, hrepeated⟩)

end PiaOs.Memory
