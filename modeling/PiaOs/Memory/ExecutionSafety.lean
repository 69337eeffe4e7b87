import PiaOs.Memory.Attempts

/-!
# Execution safety

Executions run next to each other and next to approvals, revocations and any other
program that requests no effect. Every effect follows the one committed consumption
of its approval, and is for one approved target that had none before.
-/

namespace PiaOs.Memory

open Support Banco ApprovalRecordRepository DestructiveExecutionService

/-- A program that requests no effect. -/
def SemEfeito (p : Proc Chamada Resposta Fim) : Prop :=
  p.Obeys (fun _ c => ∀ pedido, c ≠ .tentar pedido) (fun _ _ => True) []

/-- What may run: executions, and programs that request no effect. -/
def Permitido (p : Proc Chamada Resposta Fim) : Prop :=
  (∃ request, p = execute request) ∨ SemEfeito p

variable {aprovacoes : ApprovalStore} {recibos : List ErasureRecord}
  {w : World Banco Chamada Resposta Fim Escolha} {request : DestructiveExecutionRequest}
  {front middle post : List (Event Chamada Resposta Escolha)}
  {e e' s s' : Event Chamada Resposta Escolha} {pedido pedido' : ErasureEffectRequest}

/-- The worlds that are reached from a store of approvals and receipts. -/
abbrev Alcancado (aprovacoes : ApprovalStore) (recibos : List ErasureRecord)
    (w : World Banco Chamada Resposta Fim Escolha) : Prop :=
  World.Reachable Banco.servico Permitido ⟨aprovacoes, recibos, []⟩ w

/-- Among the calls the process consumed the approval of the request and committed:
the record was there, active, held the envelope and had not expired. -/
def Consumo (aprovacoes : ApprovalStore) (recibos : List ErasureRecord)
    (request : DestructiveExecutionRequest) (i : Nat)
    (events : List (Event Chamada Resposta Escolha)) : Prop :=
  ∃ front s middle registro relogio w₁ r, events = front ++ s :: middle ∧ s.process = i ∧
    s.toAnswered = ⟨.consumir request.envelope, .ok registro⟩ ∧ s.choice = .relogio relogio ∧
    desfecho (callsOf middle i) = some true ∧
    Alcancado aprovacoes recibos w₁ ∧ w₁.events = front ∧
    Holds (w₁.state.vista i).aprovacoes request.envelope r ∧ r.state = .active ∧
    relogio.julgado < request.envelope.expiresAt

/-- What holds of the effects in a run. -/
structure Segura (aprovacoes : ApprovalStore) (recibos : List ErasureRecord)
    (w : World Banco Chamada Resposta Fim Escolha) : Prop where
  /-- An effect comes after the committed consumption of its approval, and is for the
  next target of the approval. -/
  depois : ∀ front e post pedido, w.events = front ++ e :: post → e.call = .tentar pedido →
    ∃ request, w.programs[e.process]? = some (execute request) ∧
      pedido.authorization.approvalId = request.approvalId ∧
      Consumo aprovacoes recibos request e.process front ∧
      request.aprovados[(tentativas (callsOf front e.process)).length]? =
        some (SafeTargetSnapshot.fromDescriptor pedido.descriptor)
  /-- Of two consumptions or revocations of an approval the first never commits. -/
  unica : ∀ approvalId front s middle s' post, w.events = front ++ s :: middle ++ s' :: post →
    sucesso approvalId s.toAnswered → sucesso approvalId s'.toAnswered →
    desfecho (callsOf (middle ++ s' :: post) s.process) ≠ some true
  /-- A revocation that commits leaves no effect. -/
  revogada : ∀ front s post envelope registro, w.events = front ++ s :: post →
    s.toAnswered = ⟨.revogar envelope, .ok registro⟩ →
    desfecho (callsOf post s.process) = some true →
    ∀ e ∈ w.events, ∀ pedido, e.call = .tentar pedido →
      pedido.authorization.approvalId ≠ envelope.approvalId
  /-- No two effects are for one target of an approval. -/
  umaVez : ∀ front e middle e' post pedido pedido',
    w.events = front ++ e :: middle ++ e' :: post → e.call = .tentar pedido →
    e'.call = .tentar pedido' →
    pedido.authorization.approvalId = pedido'.authorization.approvalId →
    pedido.descriptor.subjectCoid ≠ pedido'.descriptor.subjectCoid

/-- An effect is requested by an execution. -/
theorem execute_of_tentar (h : Alcancado aprovacoes recibos w)
    (hevents : w.events = front ++ e :: post) (he : e.call = .tentar pedido) :
    ∃ request, w.programs[e.process]? = some (execute request) := by
  have hstarted : e.process < w.programs.length := h.tracked.answered e (by rw [hevents]; simp)
  have hp := List.getElem?_eq_getElem hstarted
  rcases h.started _ (List.getElem_mem hstarted) with ⟨request, hrequest⟩ | hnone
  · exact ⟨request, by rw [hp, hrequest]⟩
  · exact absurd he (h.calls hevents hp hnone pedido)

/-- Its request is as the rules of the execution say. -/
theorem autorizado_of_execute (h : Alcancado aprovacoes recibos w)
    (hevents : w.events = front ++ e :: post) (he : e.call = .tentar pedido)
    (hp : w.programs[e.process]? = some (execute request)) :
    Autorizado request (callsOf front e.process) (.tentar pedido) := by
  rw [← he]
  exact h.calls hevents hp (execute_obeys request)

/-- The consumption that an effect follows. -/
theorem consumo_of_consumida (h : Alcancado aprovacoes recibos w)
    (hevents : w.events = front ++ post) {i : Nat} (hconsumida : Consumida request (callsOf front i)) :
    Consumo aprovacoes recibos request i front := by
  obtain ⟨_, registro, _, hcalls, hcommitted⟩ := hconsumida
  obtain ⟨before, s, after, rfl, hprocess, hs, -, rfl⟩ := callsOf_split hcalls
  obtain ⟨w₁, b, hreach, hbefore, hanswer⟩ := h.answered
    (hevents.trans (by rw [List.append_assoc, List.cons_append]))
  obtain ⟨⟨c, a⟩, j, choice⟩ := s
  obtain rfl : j = i := hprocess
  cases hs
  rcases transitar_cases (by decide) hanswer with ⟨⟨erro, herro⟩, -⟩ | ⟨⟨erro, herro, -⟩, -⟩ |
    ⟨relogio, store, r, hchoice, hstore, hr, -, -, -⟩
  · cases herro
  · cases herro
  · rw [of_settle hstore] at hr
    refine ⟨before, _, after, registro, relogio, w₁, r, rfl, rfl, rfl, hchoice, hcommitted, hreach,
      hbefore, hr.holds, hr.active, ?_⟩
    have hexpires : r.expiresAt = request.envelope.expiresAt :=
      congrArg ApprovalRecord.expiresAt hr.holds.binding
    exact hexpires ▸ hr.unexpired rfl

theorem unica_of_reachable (h : Alcancado aprovacoes recibos w) {approvalId : Uuid}
    (hevents : w.events = front ++ s :: middle ++ s' :: post)
    (hs : sucesso approvalId s.toAnswered) (hs' : sucesso approvalId s'.toAnswered) :
    desfecho (callsOf (middle ++ s' :: post) s.process) ≠ some true :=
  (perdida_of_reachable h hevents hs hs').not_committed

/-- Two transitions of one approval that are both committed are the same call. -/
theorem eq_of_committed (h : Alcancado aprovacoes recibos w) {approvalId : Uuid}
    {front' post' : List (Event Chamada Resposta Escolha)}
    (hevents : w.events = front ++ s :: post) (hevents' : w.events = front' ++ s' :: post')
    (hs : sucesso approvalId s.toAnswered) (hs' : sucesso approvalId s'.toAnswered)
    (hcommitted : desfecho (callsOf post s.process) = some true)
    (hcommitted' : desfecho (callsOf post' s'.process) = some true) : s = s' := by
  rcases split_compare (hevents.symm.trans hevents') with ⟨-, heq, -⟩ | ⟨middle, rfl⟩ |
    ⟨middle, rfl⟩
  · exact heq
  · exact absurd hcommitted (unica_of_reachable h (by simpa using hevents) hs hs')
  · exact absurd hcommitted' (unica_of_reachable h (by simpa using hevents') hs' hs)

/-- The consumption stays committed. -/
theorem Consumo.committed {i : Nat} (h : Consumo aprovacoes recibos request i front)
    (hevents : w.events = front ++ post) :
    ∃ before s after registro, w.events = before ++ s :: after ∧ s.process = i ∧
      s.toAnswered = ⟨.consumir request.envelope, .ok registro⟩ ∧
      desfecho (callsOf after s.process) = some true := by
  obtain ⟨before, s, middle, registro, -, -, -, rfl, rfl, hs, -, hcommitted, -⟩ := h
  refine ⟨before, s, middle ++ post, registro, by simpa using hevents, rfl, hs, ?_⟩
  rw [callsOf_append, desfecho_append, hcommitted]
  rfl

/-- The committed consumption that an effect of an execution follows. -/
theorem committed_of_tentar (h : Alcancado aprovacoes recibos w)
    (hevents : w.events = front ++ e :: post) (he : e.call = .tentar pedido)
    (hp : w.programs[e.process]? = some (execute request)) :
    ∃ before s after registro, w.events = before ++ s :: after ∧ s.process = e.process ∧
      s.toAnswered = ⟨.consumir request.envelope, .ok registro⟩ ∧
      sucesso pedido.authorization.approvalId s.toAnswered ∧
      desfecho (callsOf after s.process) = some true := by
  obtain ⟨hconsumida, hid, -⟩ := autorizado_of_execute h hevents he hp
  obtain ⟨before, s, after, registro, hsplit, hprocess, hs, hcommitted⟩ :=
    (consumo_of_consumida h hevents hconsumida).committed hevents
  refine ⟨before, s, after, registro, hsplit, hprocess, hs, ?_, hcommitted⟩
  rw [hs]
  exact ⟨hid.symm, registro, rfl⟩

theorem depois_of_reachable (h : Alcancado aprovacoes recibos w)
    (hevents : w.events = front ++ e :: post) (he : e.call = .tentar pedido) :
    ∃ request, w.programs[e.process]? = some (execute request) ∧
      pedido.authorization.approvalId = request.approvalId ∧
      Consumo aprovacoes recibos request e.process front ∧
      request.aprovados[(tentativas (callsOf front e.process)).length]? =
        some (SafeTargetSnapshot.fromDescriptor pedido.descriptor) := by
  obtain ⟨request, hp⟩ := execute_of_tentar h hevents he
  obtain ⟨hconsumida, hid, halvo⟩ := autorizado_of_execute h hevents he hp
  exact ⟨request, hp, hid, consumo_of_consumida h hevents hconsumida, halvo⟩

theorem revogada_of_reachable (h : Alcancado aprovacoes recibos w)
    {envelope : DestructiveApprovalEnvelope} {registro : ApprovalRecord}
    (hevents : w.events = front ++ s :: post)
    (hs : s.toAnswered = ⟨.revogar envelope, .ok registro⟩)
    (hcommitted : desfecho (callsOf post s.process) = some true) (hmem : e ∈ w.events)
    (he : e.call = .tentar pedido) :
    pedido.authorization.approvalId ≠ envelope.approvalId := by
  intro hid
  obtain ⟨before, after, hsplit⟩ := List.append_of_mem hmem
  obtain ⟨request, hp⟩ := execute_of_tentar h hsplit he
  obtain ⟨before', s', after', registro', hsplit', -, hs', hsuccess, hcommitted'⟩ :=
    committed_of_tentar h hsplit he hp
  have hrevoked : sucesso pedido.authorization.approvalId s.toAnswered := by
    rw [hs]
    exact ⟨hid.symm, registro, rfl⟩
  have heq := eq_of_committed h hevents hsplit' hrevoked hsuccess hcommitted hcommitted'
  rw [← heq, hs] at hs'
  cases hs'

theorem umaVez_of_reachable (h : Alcancado aprovacoes recibos w)
    (hevents : w.events = front ++ e :: middle ++ e' :: post) (he : e.call = .tentar pedido)
    (he' : e'.call = .tentar pedido')
    (hid : pedido.authorization.approvalId = pedido'.authorization.approvalId) :
    pedido.descriptor.subjectCoid ≠ pedido'.descriptor.subjectCoid := by
  have hfirst : w.events = front ++ e :: (middle ++ e' :: post) := by simpa using hevents
  obtain ⟨request, hp⟩ := execute_of_tentar h hfirst he
  obtain ⟨request', hp'⟩ := execute_of_tentar h hevents he'
  have hprocess : e.process = e'.process := by
    obtain ⟨_, s, _, _, hsplit, hprocess, -, hs, hcommitted⟩ := committed_of_tentar h hfirst he hp
    obtain ⟨_, s', _, _, hsplit', hprocess', -, hs', hcommitted'⟩ :=
      committed_of_tentar h hevents he' hp'
    rw [hid] at hs
    have heq := eq_of_committed h hsplit hsplit' hs hs' hcommitted hcommitted'
    rw [← hprocess, ← hprocess', heq]
  -- within one execution the position grows with every effect
  obtain ⟨-, -, halvo⟩ := autorizado_of_execute h hfirst he hp
  obtain ⟨-, -, halvo'⟩ := autorizado_of_execute h hevents he' (hprocess ▸ hp)
  have hgrows : (tentativas (callsOf front e.process)).length <
      (tentativas (callsOf (front ++ e :: middle) e'.process)).length := by
    have htentativa : (tentativas [e.toAnswered]).length = 1 := by
      obtain ⟨⟨c, a⟩, i, choice⟩ := e
      cases he
      rfl
    rw [callsOf_append, callsOf_cons_self hprocess, tentativas_append, List.length_append,
      ← List.singleton_append, tentativas_append, List.length_append, htentativa, hprocess]
    omega
  intro hsame
  have hsubjects := request.envelope.proposal.coherent.subjects
  have hat := congrArg (Option.map SafeTargetSnapshot.subjectCoid) halvo
  have hat' := congrArg (Option.map SafeTargetSnapshot.subjectCoid) halvo'
  rw [← List.getElem?_map] at hat hat'
  have hbound := (List.getElem?_eq_some_iff.mp hat').1
  refine List.nodup_iff_getElem?_ne_getElem?.mp hsubjects _ _ hgrows hbound ?_
  rw [DestructiveExecutionRequest.aprovados] at hat hat'
  rw [hat, hat']
  simp [SafeTargetSnapshot.fromDescriptor, hsame]

/-- Every run of executions, approvals and revocations is safe. -/
theorem execution_safety (h : Alcancado aprovacoes recibos w) : Segura aprovacoes recibos w where
  depois _ _ _ _ hevents he := depois_of_reachable h hevents he
  unica _ _ _ _ _ _ hevents hs hs' := unica_of_reachable h hevents hs hs'
  revogada _ _ _ _ _ hevents hs hcommitted _ hmem _ he :=
    revogada_of_reachable h hevents hs hcommitted hmem he
  umaVez _ _ _ _ _ _ _ hevents he he' hid := umaVez_of_reachable h hevents he he' hid

def descritorPequeno : ErasureTargetDescriptor where
  targetClass := .piaManagedArtifact
  subjectCoid := ⟨1⟩
  controlScope := umEscopo
  custodyNamespace := umaCustodia
  capability := ⟨"delete_object", "artefatos", true⟩
  resolvedAt := 2
  origin := umaOrigem
  legacyProtectionState := .notProtected
  transientLocator := "artefatos/1"
  versionEtag := none
  isContent := by decide
  isVerified := rfl
  versionEtag_accepted := rfl

/-- The execution of the approval of one small file. -/
def pedidoPequeno : DestructiveExecutionRequest :=
  ⟨pequenoArquivo, [⟨⟨1⟩, "artefatos/1", umaOrigem, umEscopo, none⟩], rfl⟩

/-- The file went to the trash. -/
def apagado (executorRef : String)
    (h : ObservedAttemptResult.violation .piaManagedArtifact .succeeded executorRef 2 2 none =
      none) : Escolha :=
  .efeito (.observed ⟨⟨6⟩, ⟨1⟩, .piaManagedArtifact, .succeeded, executorRef, 2, 2, none, h⟩)

/-- The answers to one execution, up to the effect. -/
def ateOEfeito : List Escolha :=
  [.resolucao (.descriptor descritorPequeno), .relogio ⟨2, 2, 2⟩, .prossegue, .prossegue]

/-- One execution runs alone over a store of approvals, with these answers. -/
def umaExecucao (aprovacoes : ApprovalStore) (request : DestructiveExecutionRequest)
    (escolhas : List Escolha) : Option (World Banco Chamada Resposta Fim Escolha) :=
  (World.initial ⟨aprovacoes, [], []⟩).run Banco.servico
    (.start (execute request) :: escolhas.map (.answer 0))

theorem umaExecucao_reachable {escolhas : List Escolha}
    (h : umaExecucao aprovacoes request escolhas = some w) : Alcancado aprovacoes [] w := by
  refine World.Reachable.run .initial (fun p hp => ?_) h
  rcases List.mem_cons.mp hp with hp | hp
  · cases hp
    exact .inl ⟨_, rfl⟩
  · simp at hp

theorem umaExecucao_program {escolhas : List Escolha}
    (h : umaExecucao aprovacoes request escolhas = some w) :
    w.programs[0]? = some (execute request) := by
  have hkept : ∀ {w₁ : World Banco Chamada Resposta Fim Escolha} {escolhas : List Escolha},
      w₁.run Banco.servico (escolhas.map (.answer 0)) = some w → w.programs = w₁.programs := by
    intro w₁ escolhas hrun
    induction escolhas generalizing w₁ with
    | nil => rw [Option.some.inj hrun]
    | cons escolha rest ih =>
      obtain ⟨w₂, hnext, hrest⟩ := Option.bind_eq_some_iff.mp hrun
      rw [ih hrest]
      rcases World.next_cases hnext with ⟨p, hm, -⟩ | ⟨i, choice, c, k, a, state, -, -, -, rfl⟩ |
        ⟨i, p, hm, -, -⟩
      · cases hm
      · rfl
      · cases hm
  rw [umaExecucao] at h
  obtain ⟨w₁, hstart, hrest⟩ := Option.bind_eq_some_iff.mp h
  obtain rfl := Option.some.inj hstart
  rw [hkept hrest]
  rfl

/-- A run with one effect. -/
theorem execution_safety_pedidoPequeno : ∃ w e pedido,
    umaExecucao umArquivo pedidoPequeno (ateOEfeito ++ [apagado "lixeira" (by decide)]) = some w ∧
      e ∈ w.events ∧ e.call = .tentar pedido ∧ Segura umArquivo [] w := by
  have heffect : (umaExecucao umArquivo pedidoPequeno
      (ateOEfeito ++ [apagado "lixeira" (by decide)])).any (fun w =>
        w.events.any fun e => (tentativa e.toAnswered).isSome) = true := by decide +kernel
  obtain ⟨w, hrun, htest⟩ := (Option.any_eq_true _ _).mp heffect
  obtain ⟨⟨⟨c, a⟩, i, choice⟩, hmem, he⟩ := List.any_eq_true.mp htest
  cases c with
  | tentar pedido =>
    exact ⟨w, _, pedido, hrun, hmem, rfl, execution_safety (umaExecucao_reachable hrun)⟩
  | resolver _ | consumir _ | revogar _ | aprovar _ | registrar _ | commit | fechar => cases he

end PiaOs.Memory
