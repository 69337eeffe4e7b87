import PiaOs.Memory.ExecutionSafety

/-!
# The chain of authority

From an effect back to the resolution of the governance: the target is controlled by the one
who approved, who is the actor of the resolution; the scope of the approval is that of the
target and its domain and purpose are those of the resolution. The proof that the effect is
given states the instant that the consumption wrote.
-/

namespace PiaOs.Memory

open Support Banco ApprovalRecordRepository DestructiveExecutionService

/-! ## The links -/

/-- The checks of a proposal on its resolution. -/
theorem DestructiveApprovalProposal.authorized (p : DestructiveApprovalProposal) :
    p.governanceResolution.executionAuthorized = true ∧
      p.governanceResolution.operation = operacaoDeGovernanca p.operation := by
  have hchecks := p.accepted
  simp only [ProposalFields.violation, ProposalFields.governanceViolation, firstOf_eq_none,
    List.forall_mem_cons, refuse_eq_none, decide_eq_false_iff_not, not_not,
    Bool.not_eq_false'] at hchecks
  obtain ⟨-, -, -, -, -, ⟨-, hauthorized, hoperation, -⟩, -⟩ := hchecks
  exact ⟨hauthorized, hoperation⟩

/-- From the target of an effect to the resolution that its approval rests on. -/
structure Cadeia (request : DestructiveExecutionRequest) (pedido : ErasureEffectRequest) : Prop where
  controller : pedido.descriptor.controlScope.controlPrincipalRef =
    request.envelope.identity.principalRef
  actor : request.envelope.proposal.governanceResolution.contextActorRef =
    some request.envelope.identity.principalRef
  tenant : pedido.descriptor.controlScope.tenantId = request.envelope.context.tenantId
  workspace : pedido.descriptor.controlScope.workspaceId = request.envelope.context.workspaceId
  domain : request.envelope.proposal.governanceResolution.contextDomainIds =
    [request.envelope.context.domainId]
  purpose : request.envelope.proposal.governanceResolution.contextPurpose =
    some request.envelope.context.purposeRef
  admissible : request.envelope.proposal.governanceResolution.outcome = .admissible
  authorized : request.envelope.proposal.governanceResolution.executionAuthorized = true
  operation : request.envelope.proposal.governanceResolution.operation =
    operacaoDeGovernanca request.operation

/-- An approved target is linked to the resolution. -/
theorem cadeia_of_aprovado {request : DestructiveExecutionRequest} {pedido : ErasureEffectRequest}
    (h : SafeTargetSnapshot.fromDescriptor pedido.descriptor ∈ request.aprovados) :
    Cadeia request pedido := by
  have hproposal := request.envelope.proposal.coherent
  have henvelope := request.envelope.coherent
  have hscopes := hproposal.scopes _ h
  obtain ⟨hauthorized, hoperation⟩ := request.envelope.proposal.authorized
  have hdomains := hproposal.domains
  have hpurpose := hproposal.purpose
  rw [← henvelope.context] at hscopes hdomains hpurpose
  exact {
    controller := henvelope.controllers _ h
    actor := henvelope.actor
    tenant := hscopes.2
    workspace := hscopes.1
    domain := hdomains
    purpose := hpurpose
    admissible := hproposal.outcome
    authorized := hauthorized
    operation := hoperation }

/-! ## The instant of the consumption -/

variable {request : DestructiveExecutionRequest} {past log : List (Answered Chamada Resposta)}
  {consumidoEm : Instant}

/-- The approval was consumed at the instant, in a transaction that is committed. -/
def ConsumidaEm (request : DestructiveExecutionRequest) (consumidoEm : Instant)
    (log : List (Answered Chamada Resposta)) : Prop :=
  ∃ front registro post, log = front ++ ⟨.consumir request.envelope, .ok registro⟩ :: post ∧
    registro.consumedAt = some consumidoEm ∧ desfecho post = some true

theorem ConsumidaEm.append (h : ConsumidaEm request consumidoEm past) (hlog : past <+: log) :
    ConsumidaEm request consumidoEm log := by
  obtain ⟨front, registro, post, rfl, hinstant, hpost⟩ := h
  obtain ⟨later, rfl⟩ := hlog
  refine ⟨front, registro, post ++ later, by simp, hinstant, ?_⟩
  rw [desfecho_append, hpost]
  rfl

/-- The proof that an effect is given is that of the consumption. -/
def Provado (request : DestructiveExecutionRequest) (log : List (Answered Chamada Resposta)) :
    Chamada → Prop
  | .tentar pedido => ∃ consumidoEm, pedido.authorization = autorizacao request consumidoEm ∧
      ConsumidaEm request consumidoEm log
  | _ => True

theorem resolverLote_provado {lote : List (ErasureTargetReference × SafeTargetSnapshot)}
    {posicao : Nat} :
    (resolverLote request posicao lote).Obeys (Provado request) (fun _ _ => True) past := by
  induction lote generalizing past posicao with
  | nil => exact .done trivial
  | cons par resto ih =>
    obtain ⟨referencia, aprovado⟩ := par
    refine .call trivial fun (resultado : Option TargetResolutionResult) => ?_
    rcases resultado with _ | descritor | motivo
    · exact .done trivial
    · simp only
      split
      · exact .done trivial
      · refine ih.bind fun log resultado _ => ?_
        exact .done trivial
    · exact .done trivial

theorem consumirAprovacao_provado : (consumirAprovacao request).Obeys (Provado request)
    (fun log resultado => match resultado with
      | .error _ => True
      | .ok consumidoEm => ConsumidaEm request consumidoEm log) past := by
  refine .call trivial fun (registro : Except TransitionError ApprovalRecord) => ?_
  rcases registro with (erro | _ | ⟨_, reason⟩) | registro
  · exact .call trivial fun _ => .done trivial
  · exact .call trivial fun _ => .done trivial
  · exact .call trivial fun _ => .done trivial
  · refine .call trivial fun (feito : Except DatabaseError Unit) => .call trivial fun _ => ?_
    cases feito with
    | error erro => exact .done trivial
    | ok _ =>
      cases hinstant : registro.consumedAt with
      | none => exact .done trivial
      | some consumidoEm =>
        exact .done ⟨past, registro, [⟨.commit, .ok ()⟩, ⟨.fechar, ()⟩],
          by rw [List.append_assoc, List.append_assoc]; rfl, hinstant, rfl⟩

theorem registrarRecibo_provado {operacao : DestructiveOperation}
    {proveniencia : GovernanceProvenance} {observado : ObservedAttemptResult} :
    (registrarRecibo operacao proveniencia observado).Obeys (Provado request)
      (fun _ _ => True) past := by
  unfold registrarRecibo
  cases ErasureRecordAppend.make (camposDoRecibo operacao proveniencia observado) with
  | error texto => exact .done trivial
  | ok entrada =>
    refine .call trivial fun (recibo : Except DatabaseError Uuid) => ?_
    cases recibo with
    | error erro => exact .call trivial fun _ => .done trivial
    | ok id => exact .call trivial fun _ => .call trivial fun _ => .done trivial

theorem tentarAlvos_provado {proveniencia : GovernanceProvenance}
    {frescos : List ErasureTargetDescriptor} {desfechos : List TargetExecutionOutcome}
    (h : ConsumidaEm request consumidoEm past) :
    (tentarAlvos request (autorizacao request consumidoEm) proveniencia frescos desfechos).Obeys
      (Provado request) (fun _ _ => True) past := by
  induction frescos generalizing past desfechos with
  | nil => exact .done trivial
  | cons descritor resto ih =>
    unfold tentarAlvos
    simp only
    split
    case h_1 texto herror => exact .done trivial
    case h_2 pedido hpedido =>
      obtain ⟨haccepted, rfl⟩ := of_checked hpedido
      have hproof : Provado request past (.tentar ⟨descritor, autorizacao request consumidoEm,
          haccepted⟩) := ⟨consumidoEm, rfl, h⟩
      refine .call hproof fun (resultado : Option ErasureEffectResult) => ?_
      cases resultado with
      | none => exact .done trivial
      | some observado =>
        simp only
        split
        case h_1 violacao hviolacao => exact .done trivial
        case h_2 hcorresponde =>
          cases observado with
          | notStarted resultado => exact ih (h.append (List.prefix_append _ _))
          | observed observado =>
            refine (registrarRecibo_provado.and (Proc.obeys_prefix _)).mono
              (fun _ _ hcall => hcall.1) (fun _ _ hlog => hlog.2) |>.bind fun log resultado hlog => ?_
            rcases resultado with (texto | _ | _) | recibo
            · exact .done trivial
            · exact .done trivial
            · exact .done trivial
            · exact ih (h.append ((List.prefix_append _ _).trans hlog))

/-- Every effect of an execution is given the proof of its consumption. -/
theorem execute_provado (request : DestructiveExecutionRequest) :
    (execute request).Obeys (Provado request) (fun _ _ => True) [] := by
  rw [execute]
  cases validarLote request with
  | error fim => exact .done trivial
  | ok proveniencia =>
    refine resolverLote_provado.bind fun log resultado _ => ?_
    cases resultado with
    | error fim => exact .done trivial
    | ok frescos =>
      refine consumirAprovacao_provado.bind fun log resultado hresultado => ?_
      cases resultado with
      | error fim => exact .done trivial
      | ok consumidoEm =>
        refine (tentarAlvos_provado hresultado).bind fun log resultado _ => ?_
        cases resultado <;> exact .done trivial

/-! ## In a run -/

variable {aprovacoes : ApprovalStore} {recibos : List ErasureRecord}
  {w : World Banco Chamada Resposta Fim Escolha}
  {front middle post : List (Event Chamada Resposta Escolha)}
  {e e' : Event Chamada Resposta Escolha} {pedido pedido' : ErasureEffectRequest}

/-- The consumption whose proof the effect is given: the database judged the stored approval
before it expired, and the proof states the instant that was then written. -/
def ConsumoProvado (aprovacoes : ApprovalStore) (recibos : List ErasureRecord)
    (request : DestructiveExecutionRequest) (i : Nat) (pedido : ErasureEffectRequest)
    (events : List (Event Chamada Resposta Escolha)) : Prop :=
  ∃ front s middle registro relogio w₁ r, events = front ++ s :: middle ∧ s.process = i ∧
    s.toAnswered = ⟨.consumir request.envelope, .ok registro⟩ ∧ s.choice = .relogio relogio ∧
    desfecho (callsOf middle i) = some true ∧
    Alcancado aprovacoes recibos w₁ ∧ w₁.events = front ∧
    Holds (w₁.state.vista i).aprovacoes request.envelope r ∧ r.state = .active ∧
    relogio.julgado < request.envelope.expiresAt ∧
    pedido.authorization = autorizacao request relogio.escrito

theorem consumoProvado_of_consumidaEm {i : Nat} (h : Alcancado aprovacoes recibos w)
    (hevents : w.events = front ++ post)
    (hconsumida : ConsumidaEm request consumidoEm (callsOf front i))
    (hproof : pedido.authorization = autorizacao request consumidoEm) :
    ConsumoProvado aprovacoes recibos request i pedido front := by
  obtain ⟨_, registro, _, hcalls, hinstant, hcommitted⟩ := hconsumida
  obtain ⟨before, s, after, rfl, hprocess, hs, -, rfl⟩ := callsOf_split hcalls
  obtain ⟨w₁, b, hreach, hbefore, hanswer⟩ := h.answered
    (hevents.trans (by rw [List.append_assoc, List.cons_append]))
  obtain ⟨⟨c, a⟩, j, choice⟩ := s
  obtain rfl : j = i := hprocess
  cases hs
  rcases transitar_cases (by decide) hanswer with ⟨⟨erro, herro⟩, -⟩ | ⟨⟨erro, herro, -⟩, -⟩ |
    ⟨relogio, store, r, hchoice, hstore, hr, -, hanswered, -⟩
  · cases herro
  · cases herro
  · rw [of_settle hstore] at hr
    have hexpires : r.expiresAt = request.envelope.expiresAt :=
      congrArg ApprovalRecord.expiresAt hr.holds.binding
    have hwritten : consumidoEm = relogio.escrito := by
      obtain rfl := Except.ok.inj (hanswered.resolve_right fun herror => by cases herror)
      exact (Option.some.inj hinstant).symm
    refine ⟨before, _, after, registro, relogio, w₁, r, rfl, rfl, rfl, hchoice, hcommitted, hreach,
      hbefore, hr.holds, hr.active, hexpires ▸ hr.unexpired rfl, ?_⟩
    rw [hproof, hwritten]

/-- What holds of the effects of a run. -/
structure Autoridade (aprovacoes : ApprovalStore) (recibos : List ErasureRecord)
    (w : World Banco Chamada Resposta Fim Escolha) : Prop where
  cadeia : ∀ front e post pedido, w.events = front ++ e :: post → e.call = .tentar pedido →
    ∃ request, w.programs[e.process]? = some (execute request) ∧ Cadeia request pedido ∧
      ConsumoProvado aprovacoes recibos request e.process pedido front
  umaVez : ∀ front e middle e' post pedido pedido',
    w.events = front ++ e :: middle ++ e' :: post → e.process = e'.process →
    e.call = .tentar pedido → e'.call = .tentar pedido' →
    pedido.descriptor.subjectCoid ≠ pedido'.descriptor.subjectCoid

theorem cadeia_of_reachable (h : Alcancado aprovacoes recibos w)
    (hevents : w.events = front ++ e :: post) (he : e.call = .tentar pedido) :
    ∃ request, w.programs[e.process]? = some (execute request) ∧ Cadeia request pedido ∧
      ConsumoProvado aprovacoes recibos request e.process pedido front := by
  obtain ⟨request, hp⟩ := execute_of_tentar h hevents he
  obtain ⟨-, -, halvo⟩ := autorizado_of_execute h hevents he hp
  have hproof : Provado request (callsOf front e.process) (.tentar pedido) := by
    rw [← he]
    exact h.calls hevents hp (execute_provado request)
  obtain ⟨consumidoEm, hauthorization, hconsumida⟩ := hproof
  exact ⟨request, hp, cadeia_of_aprovado (List.mem_of_getElem? halvo),
    consumoProvado_of_consumidaEm h hevents hconsumida hauthorization⟩

/-- Every effect is linked to the resolution of the governance, and no execution has two for one
subject. -/
theorem authority_chain (h : Alcancado aprovacoes recibos w) : Autoridade aprovacoes recibos w where
  cadeia _ _ _ _ hevents he := cadeia_of_reachable h hevents he
  umaVez front e middle e' post pedido pedido' hevents hprocess he he' := by
    have hfirst : w.events = front ++ e :: (middle ++ e' :: post) := by simpa using hevents
    obtain ⟨request, hp⟩ := execute_of_tentar h hfirst he
    obtain ⟨-, hid, -⟩ := autorizado_of_execute h hfirst he hp
    obtain ⟨-, hid', -⟩ := autorizado_of_execute h hevents he' (hprocess ▸ hp)
    exact umaVez_of_reachable h hevents he he' (hid.trans hid'.symm)

/-- A run with one effect. -/
theorem authority_chain_pedidoPequeno : ∃ w e pedido,
    umaExecucao umArquivo pedidoPequeno (ateOEfeito ++ [apagado "lixeira" (by decide)]) = some w ∧
      e ∈ w.events ∧ e.call = .tentar pedido ∧ Autoridade umArquivo [] w := by
  have heffect : (umaExecucao umArquivo pedidoPequeno
      (ateOEfeito ++ [apagado "lixeira" (by decide)])).any (fun w =>
        w.events.any fun e => (tentativa e.toAnswered).isSome) = true := by decide +kernel
  obtain ⟨w, hrun, htest⟩ := (Option.any_eq_true _ _).mp heffect
  obtain ⟨⟨⟨c, a⟩, i, choice⟩, hmem, he⟩ := List.any_eq_true.mp htest
  cases c with
  | tentar pedido =>
    exact ⟨w, _, pedido, hrun, hmem, rfl, authority_chain (umaExecucao_reachable hrun)⟩
  | resolver _ | consumir _ | revogar _ | aprovar _ | registrar _ | commit | fechar => cases he

/-- The run of the small file, with a clock. -/
def comRelogio (relogio : Relogio)
    (h : ObservedAttemptResult.violation .piaManagedArtifact .succeeded "lixeira" 2 2 none = none) :
    Option (World Banco Chamada Resposta Fim Escolha) :=
  umaExecucao umArquivo pedidoPequeno
    [.resolucao (.descriptor descritorPequeno), .relogio relogio, .prossegue, .prossegue,
      apagado "lixeira" h]

/-- The instants of the proofs that the effects of a run were given. -/
def instantesProvados (w : World Banco Chamada Resposta Fim Escolha) : List Instant :=
  w.events.filterMap fun e => (tentativa e.toAnswered).map fun t => t.1.authorization.consumedAt

/-- The small file, of another tenant. -/
def arquivoAlheio : DestructiveApprovalEnvelope :=
  { pequenoArquivo with
    proposal := { pequenoArquivo.proposal with
      targets := pequenoArquivo.proposal.targets.map fun alvo =>
        { alvo with controlScope := { alvo.controlScope with tenantId := ⟨30⟩ } }
      context := { pequenoArquivo.proposal.context with tenantId := ⟨30⟩ }
      accepted := by decide }
    context := { pequenoArquivo.context with tenantId := ⟨30⟩ }
    accepted := by decide }

/-- An approval is consumed before it was confirmed, or written as consumed once it has expired;
and one resolution serves two tenants. -/
theorem consumed_outside_window :
    ((comRelogio ⟨1, 1, 1⟩ (by decide)).any fun w =>
      (instantesProvados w).any (· < pequenoArquivo.confirmedAt)) = true ∧
    ((comRelogio ⟨2, 3, 3⟩ (by decide)).any fun w =>
      (instantesProvados w).any (pequenoArquivo.expiresAt ≤ ·)) = true ∧
    arquivoAlheio.proposal.governanceResolution = pequenoArquivo.proposal.governanceResolution ∧
      arquivoAlheio.context.tenantId ≠ pequenoArquivo.context.tenantId := by
  decide +kernel

end PiaOs.Memory
