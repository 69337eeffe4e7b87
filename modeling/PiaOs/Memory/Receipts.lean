import PiaOs.Memory.ExecutionSafety

/-!
# Receipts

The receipts that the calls of a process have committed are rows of the table, each
of them once. When an execution ends, they are those of the attempts that it observed.
-/

namespace PiaOs.Memory

open Support Banco ApprovalRecordRepository DestructiveExecutionService

section Table

variable {b : Banco} {i j : Nat} {ws : List Escrita} {t : Tabelas}

/-- The receipts that writes add. -/
def lancadas (ws : List Escrita) : List ErasureRecord := ws.filterMap lancada

theorem recibos_aplicadas : (ws.foldl Escrita.aplicada t).recibos = t.recibos ++ lancadas ws := by
  induction ws generalizing t with
  | nil => simp [lancadas]
  | cons w ws ih =>
    rw [List.foldl_cons, ih]
    cases w <;> simp [Escrita.aplicada, lancadas, lancada, List.filterMap_cons]

theorem recibos_vista : (b.vista i).recibos = b.recibos ++ lancadas (b.escritasDe i) :=
  recibos_aplicadas

/-- The receipts of all open transactions. -/
def emAberto (b : Banco) : List ErasureRecord := lancadas (b.pendentes.map Prod.snd)

theorem idsDeRecibos_eq : b.idsDeRecibos = (b.recibos ++ emAberto b).map ErasureRecord.id := by
  rw [idsDeRecibos, emAberto, lancadas, List.map_append, List.filterMap_map, List.map_filterMap]
  congr 1
  refine List.filterMap_congr fun p _ => ?_
  obtain ⟨j, w⟩ := p
  cases w <;> rfl

theorem emAberto_desfeito : (emAberto (b.desfeito i)).Sublist (emAberto b) :=
  (List.filter_sublist.map _).filterMap _

/-- The open receipts are those of one transaction and those of the others. -/
theorem emAberto_perm :
    (lancadas (b.escritasDe i) ++ emAberto (b.desfeito i)).Perm (emAberto b) := by
  rw [emAberto, emAberto, lancadas, lancadas, lancadas, ← List.filterMap_append, escritasDe,
    ← List.map_append]
  refine (List.Perm.map _ ?_).filterMap _
  have hperm := List.filter_append_perm (fun p : Nat × Escrita => p.1 == i) b.pendentes
  simpa [desfeito, bne] using hperm

end Table

/-! ## Along a run -/

section Runs

variable {α : Type} {w w' : World Banco Chamada Resposta α Escolha}
  {m : Move Chamada Resposta α Escolha} {allowed : Proc Chamada Resposta α → Prop}
  {aprovacoes : ApprovalStore} {recibos : List ErasureRecord} {i : Nat}

/-- What the calls so far and the table of receipts agree on. -/
structure Escriturado (w : World Banco Chamada Resposta α Escolha) : Prop where
  unicos : w.state.idsDeRecibos.Nodup
  vivos : ∀ p ∈ w.state.pendentes, w.live p.1 ≠ none
  abertos : ∀ i, w.live i ≠ none →
    (escrituracao (callsOf w.events i)).abertos = lancadas (w.state.escritasDe i)
  gravados : ∀ i, (recibosDe (callsOf w.events i)).Sublist w.state.recibos

section Answer

variable {c : Chamada} {a : Resposta c} {choice : Escolha} {k : Resposta c → Proc Chamada Resposta α}
  {b : Banco}

/-- A call of one process leaves the others as they are. -/
theorem Escriturado.of_answer (h : Escriturado w) (hlive : w.live i = some (.call c k))
    (hunicos : b.idsDeRecibos.Nodup) (hvivos : ∀ p ∈ b.pendentes, p ∈ w.state.pendentes ∨ p.1 = i)
    (habertos : ((escrituracao (callsOf w.events i)).lanca ⟨c, a⟩).abertos =
      lancadas (b.escritasDe i))
    (hgravados : ((escrituracao (callsOf w.events i)).lanca ⟨c, a⟩).gravados.Sublist b.recibos)
    (houtras : ∀ j, j ≠ i → b.escritasDe j = w.state.escritasDe j)
    (hgrows : w.state.recibos.Sublist b.recibos) : Escriturado { w with
      state := b
      live := w.setLive i (some (k a))
      events := w.events ++ [⟨⟨c, a⟩, i, choice⟩] } := by
  have hself : callsOf (w.events ++ [⟨⟨c, a⟩, i, choice⟩]) i = callsOf w.events i ++ [⟨c, a⟩] := by
    rw [callsOf_append, callsOf_cons_self rfl, callsOf_nil]
  have hother : ∀ j, j ≠ i →
      callsOf (w.events ++ [⟨⟨c, a⟩, i, choice⟩]) j = callsOf w.events j := by
    intro j hj
    rw [callsOf_append, callsOf_cons_ne hj.symm, callsOf_nil, List.append_nil]
  have halive : ∀ j, w.setLive i (some (k a)) j ≠ none ↔ w.live j ≠ none := by
    intro j
    by_cases hj : j = i
    · simp [World.setLive, hj, hlive]
    · simp [World.setLive, hj]
  constructor
  case unicos => exact hunicos
  case vivos =>
    intro p hp
    rw [halive]
    rcases hvivos p hp with hp | rfl
    · exact h.vivos p hp
    · simp [hlive]
  case abertos =>
    intro j hj
    by_cases hji : j = i
    · rw [hji, hself, escrituracao_snoc, habertos]
    · rw [hother j hji, h.abertos j ((halive j).mp hj), houtras j hji]
  case gravados =>
    intro j
    by_cases hji : j = i
    · rw [hji, hself, recibosDe, escrituracao_snoc]
      exact hgravados
    · rw [hother j hji]
      exact (h.gravados j).trans hgrows

theorem Escriturado.answer (h : Escriturado w) (hlive : w.live i = some (.call c k))
    (hfeito : w.state.Feito i ⟨c, a⟩ b) : Escriturado { w with
      state := b
      live := w.setLive i (some (k a))
      events := w.events ++ [⟨⟨c, a⟩, i, choice⟩] } := by
  have hopen := h.abertos i (by simp [hlive])
  have hkept : (escrituracao (callsOf w.events i)).gravados.Sublist w.state.recibos := h.gravados i
  have hunicos := h.unicos
  rw [idsDeRecibos_eq] at hunicos
  cases hfeito with
  | desfeito hend =>
    refine h.of_answer hlive ?_ (fun p hp => .inl (mem_desfeito.mp hp).1) ?_ ?_ ?_ (.refl _)
    · rw [idsDeRecibos_eq]
      exact hunicos.sublist (((List.Sublist.refl _).append emAberto_desfeito).map _)
    · simp [Escrituracao.lanca, hend, escritasDe_desfeito, lancadas]
    · rw [Escrituracao.lanca, hend]
      exact hkept
    · intro j hj
      rw [escritasDe_desfeito, if_neg hj]
  | nada hend _ hlanca =>
    refine h.of_answer hlive h.unicos (fun p hp => .inl hp) ?_ ?_ (fun _ _ => rfl) (.refl _)
    · simp [Escrituracao.lanca, hend, hlanca, hopen]
    · rw [Escrituracao.lanca, hend]
      exact hkept
  | escrita write hend _ _ hlanca hnovo =>
    refine h.of_answer hlive ?_ ?_ ?_ ?_ ?_ (.refl _)
    · have habertos : emAberto (w.state.anotado i write) =
          emAberto w.state ++ (lancada write).toList := by
        cases hwrite : lancada write <;> simp [emAberto, anotado, lancadas, hwrite]
      rw [idsDeRecibos_eq, habertos, ← List.append_assoc, List.map_append]
      refine List.nodup_append.mpr ⟨hunicos, by cases lancada write <;> simp, ?_⟩
      intro id hid id' hid' heq
      obtain ⟨r, hr, rfl⟩ := List.mem_map.mp hid'
      have hfresh := hnovo r (Option.mem_toList.mp hr)
      rw [idsDeRecibos_eq] at hfresh
      exact hfresh (heq ▸ hid)
    · intro p hp
      rcases List.mem_append.mp hp with hp | hp
      · exact .inl hp
      · exact .inr (by rw [List.mem_singleton.mp hp])
    · have hwritten : lancadas ((w.state.anotado i write).escritasDe i) =
          lancadas (w.state.escritasDe i) ++ (lancada write).toList := by
        cases hwrite : lancada write <;> simp [escritasDe_anotado, lancadas, hwrite]
      rw [hwritten, hlanca]
      simp [Escrituracao.lanca, hend, hopen]
    · rw [Escrituracao.lanca, hend]
      exact hkept
    · intro j hj
      rw [escritasDe_anotado, if_neg hj, List.append_nil]
  | efetivado store hend hstore =>
    have hrecibos : (w.state.efetivado i store).recibos =
        w.state.recibos ++ lancadas (w.state.escritasDe i) := recibos_vista
    refine h.of_answer hlive ?_ (fun p hp => .inl (mem_desfeito.mp hp).1) ?_ ?_ ?_ ?_
    · rw [idsDeRecibos_eq, hrecibos, List.append_assoc]
      exact (((emAberto_perm.append_left _).map _).nodup_iff).mpr hunicos
    · have hnone : (w.state.efetivado i store).escritasDe i = [] := by
        have hdone := escritasDe_desfeito (b := w.state) (i := i) (j := i)
        rwa [if_pos rfl] at hdone
      simp [Escrituracao.lanca, hend, hnone, lancadas]
    · rw [hrecibos]
      rw [Escrituracao.lanca, hend, hopen]
      exact hkept.append (.refl _)
    · intro j hj
      have hkept := escritasDe_desfeito (b := w.state) (i := i) (j := j)
      rwa [if_neg hj] at hkept
    · rw [hrecibos]
      exact List.sublist_append_left _ _

end Answer

theorem Escriturado.next (h : Escriturado w) (htracked : w.Tracked)
    (hnext : w.next Banco.servico m = some w') : Escriturado w' := by
  rcases World.next_cases hnext with ⟨p, -, rfl⟩ | ⟨i, choice, c, k, a, b, -, hlive, hb, rfl⟩ |
    ⟨i, p, -, -, rfl⟩
  · have hold : ∀ {j q}, w.live j = some q → j ≠ w.programs.length := fun hj =>
      Nat.ne_of_lt (htracked.started _ _ hj)
    constructor
    case unicos => exact h.unicos
    case vivos =>
      intro p' hp'
      obtain ⟨q, hq⟩ := Option.ne_none_iff_exists'.mp (h.vivos p' hp')
      simp [World.setLive, hold hq, hq]
    case abertos =>
      intro j hj
      by_cases hnew : j = w.programs.length
      · subst hnew
        have hnone : w.state.escritasDe w.programs.length = [] := by
          rw [List.eq_nil_iff_forall_not_mem]
          intro write hwrite
          obtain ⟨q, hq⟩ := Option.ne_none_iff_exists'.mp (h.vivos _ (mem_escritasDe.mp hwrite))
          exact hold hq rfl
        rw [htracked.callsOf_nil, hnone]
        rfl
      · exact h.abertos j (by simpa [World.setLive, hnew] using hj)
    case gravados => exact h.gravados
  · exact h.answer hlive (Banco.feito_responder hb)
  · constructor
    case unicos =>
      have hunicos := h.unicos
      rw [idsDeRecibos_eq] at hunicos
      show (w.state.desfeito i).idsDeRecibos.Nodup
      rw [idsDeRecibos_eq]
      exact hunicos.sublist (((List.Sublist.refl _).append emAberto_desfeito).map _)
    case vivos =>
      intro p' hp'
      obtain ⟨hp', hne⟩ := mem_desfeito.mp hp'
      simpa [World.setLive, hne] using h.vivos p' hp'
    case abertos =>
      intro j hj
      have hne : j ≠ i := fun heq => hj (by simp [World.setLive, heq])
      have hkept := escritasDe_desfeito (b := w.state) (i := i) (j := j)
      rw [if_neg hne] at hkept
      show (escrituracao (callsOf w.events j)).abertos = lancadas ((w.state.desfeito i).escritasDe j)
      rw [hkept]
      exact h.abertos j (by simpa [World.setLive, hne] using hj)
    case gravados => exact h.gravados

theorem escriturado_of_reachable (hids : (recibos.map ErasureRecord.id).Nodup)
    (h : World.Reachable Banco.servico allowed ⟨aprovacoes, recibos, []⟩ w) : Escriturado w := by
  induction h with
  | initial =>
    refine ⟨?_, by simp [World.initial], by simp [World.initial], fun i => List.nil_sublist _⟩
    rw [idsDeRecibos_eq]
    simpa [World.initial, emAberto, lancadas] using hids
  | move m hreach _ hnext ih => exact ih.next hreach.tracked hnext

end Runs

section Executions

variable {w : World Banco Chamada Resposta Fim Escolha} {allowed : Proc Chamada Resposta Fim → Prop}
  {aprovacoes : ApprovalStore} {recibos : List ErasureRecord} {i : Nat}
  {request : DestructiveExecutionRequest} {fim : Fim}

/-- How the first process has ended. -/
def terminou (w : World Banco Chamada Resposta Fim Escolha) : Option Fim :=
  match w.live 0 with
  | some (.done fim) => some fim
  | _ => none

theorem terminou_eq_some : terminou w = some fim ↔ w.live 0 = some (.done fim) := by
  rw [terminou]
  split
  · rename_i fim' hlive
    simp [hlive]
  · rename_i hother
    simpa using hother fim

/-- The trash answers, and the receipt is stored. -/
def ateOFim (executorRef : String)
    (h : ObservedAttemptResult.violation .piaManagedArtifact .succeeded executorRef 2 2 none =
      none) : List Escolha :=
  ateOEfeito ++ [apagado executorRef h, .identificador ⟨9⟩, .prossegue, .prossegue]

/-- The approval of two files. -/
def doisArquivos : DestructiveApprovalEnvelope :=
  { pequenoArquivo with
    proposal := { pequenoArquivo.proposal with
      targets := pequenoArquivo.proposal.targets ++
        pequenoArquivo.proposal.targets.map fun alvo => { alvo with subjectCoid := ⟨10⟩ }
      impact := ⟨2, .known, some 10, by decide⟩
      accepted := by decide }
    accepted := by decide }

def pedidoDuplo : DestructiveExecutionRequest :=
  ⟨doisArquivos, pedidoPequeno.references ++
    pedidoPequeno.references.map fun referencia => { referencia with subjectCoid := ⟨10⟩ }, rfl⟩

/-- The effect of the first file raises. -/
def primeiroFalha : List Escolha :=
  .resolucao (.descriptor descritorPequeno) ::
    .resolucao (.descriptor { descritorPequeno with subjectCoid := ⟨10⟩ }) ::
    ateOEfeito.tail ++ [.falha]

/-- The file was not erased, for a reason of 65 characters. -/
def naoApagado : Escolha :=
  .efeito (.observed ⟨⟨6⟩, ⟨1⟩, .piaManagedArtifact, .failed, "lixeira", 2, 2,
    some (String.ofList (List.replicate 65 'x')), by decide +kernel⟩)

/-- The error is that of a receipt that the constructor refuses. -/
def porValidacao : Fim → Bool
  | .error (.validation _) => true
  | _ => false

/-- The error is of unknown state, and its evidence counts nothing. -/
def semContagem : Fim → Bool
  | .error (.unknownMaterialState evidence) =>
    evidence.attemptsObserved == 0 && evidence.targetsNotAttempted == 0
  | _ => false

private theorem of_porValidacao {fim : Fim} (h : porValidacao fim = true) :
    ∃ texto, fim = .error (.validation texto) := by
  unfold porValidacao at h
  split at h
  case h_1 texto => exact ⟨texto, rfl⟩
  case h_2 => cases h

private theorem of_semContagem {fim : Fim} (h : semContagem fim = true) :
    ∃ evidence, fim = .error (.unknownMaterialState evidence) ∧ evidence.attemptsObserved = 0 ∧
      evidence.targetsNotAttempted = 0 := by
  unfold semContagem at h
  split at h
  case h_1 evidence =>
    rw [Bool.and_eq_true, beq_iff_eq, beq_iff_eq] at h
    exact ⟨evidence, rfl, h.1, h.2⟩
  case h_2 => cases h

end Executions

end PiaOs.Memory
