import PiaOs.Access.Ledger
import PiaOs.Access.Requests

/-!
# Runs of the gate

What holds of the database and of the calls of every process in every interleaving of
requests, provisionings and revocations.
-/

namespace PiaOs.Access

open Support

abbrev Mundo : Type := World Banco Chamada Resposta Desfecho Escolha

/-- The tasks that run. -/
def Permitido (bearer : HTTPBearer) (secretKey : String) (p : Programa Desfecho) : Prop :=
  ∃ t : Tarefa, p = t.programa bearer secretKey

/-- The worlds that are reached from an empty database. -/
def Alcancado (bearer : HTTPBearer) (secretKey : String) (w : Mundo) : Prop :=
  World.Reachable Banco.servico (Permitido bearer secretKey) {} w

/-- The row was written by the provisioning of its key id, with the digest of its secret. -/
def Provisionada (bearer : HTTPBearer) (secretKey : String) (w : Mundo)
    (linha : ProgrammaticServicePrincipal) : Prop :=
  ∃ (j : Nat) (p : Provisionamento) (relogio : Instant) (canonicos : List String),
    w.programs[j]? = some ((Tarefa.provisionamento p relogio).programa bearer secretKey) ∧
    canonicalScopes p.scopes = .ok canonicos ∧ linha = p.linha secretKey canonicos

/-- The bucket that a request consumes from. -/
def Rota.balde (rota : Rota) (linha : ProgrammaticServicePrincipal) (agora : Instant) : QuotaKey :=
  ⟨linha.id, rota.operation, windowStart agora linha.quotaWindowSeconds⟩

/-- A call that consumes quota. -/
def Chamada.consome : Chamada → Bool
  | .consumeQuota _ _ _ _ => true
  | _ => false

variable {bearer : HTTPBearer} {secretKey : String} {w w' : Mundo}

/-- What holds in every world that is reached. -/
structure Estado (bearer : HTTPBearer) (secretKey : String) (w : Mundo) : Prop where
  coerente : w.state.Coerente
  origem : ∀ linha ∈ w.state.todas, Provisionada bearer secretKey w linha
  lidas : ∀ i keyId linha rest,
    callsOf w.events i = ⟨.getByKeyId keyId, .ok (some linha)⟩ :: rest →
      linha.fixo ∈ w.state.fixas ∧ linha.keyId = keyId
  escritas : ∀ i escrita, (i, escrita) ∈ w.state.pendentes → callsOf w.events i ≠ []
  reservas : ∀ i key, (i, Escrita.incremento key) ∈ w.state.pendentes →
    ∃ e ∈ callsOf w.events i, e.call.consome = true
  consumos : ∀ i key, (i, key) ∈ w.state.incrementos →
    ∃ e ∈ callsOf w.events i, e.call.consome = true
  relogio : ∀ i keyId linha agora, callsOf w.events i = leituras keyId linha agora →
    ∀ q, w.live i = some q → w.state.inicio i = some agora
  reservado : ∀ i keyId linha agora (rota : Rota),
    callsOf w.events i = leituras keyId linha agora ++ [⟨rota.consumo linha, .ok true⟩] →
    ∀ q, w.live i = some q → (i, Escrita.incremento (rota.balde linha agora)) ∈ w.state.pendentes
  consumido : ∀ i keyId linha agora (rota : Rota),
    callsOf w.events i =
      leituras keyId linha agora ++ [⟨rota.consumo linha, .ok true⟩, ⟨.commit, .ok ()⟩] →
    (i, rota.balde linha agora) ∈ w.state.incrementos

/-- A process that is about to call is a task that makes this call now. -/
theorem chama_of_live (h : Alcancado bearer secretKey w) {i : Nat} {c : Chamada}
    {k : Resposta c → Programa Desfecho} (hlive : w.live i = some (.call c k)) :
    ∃ t : Tarefa, w.programs[i]? = some (t.programa bearer secretKey) ∧
      t.Chama secretKey (callsOf w.events i) c := by
  have hstarted := h.tracked.started i _ hlive
  have hprogram : w.programs[i]? = some w.programs[i] := List.getElem?_eq_getElem hstarted
  obtain ⟨t, ht⟩ := h.started _ (List.getElem_mem hstarted)
  rw [ht] at hprogram
  obtain ⟨q, hpath, hq⟩ := h.tracked.paths i _ hprogram
  obtain rfl := hq _ hlive
  have hobeys := t.programa_obeys.path hpath
  rw [List.nil_append] at hobeys
  cases hobeys with
  | call hcall _ => exact ⟨t, hprogram, hcall⟩

theorem Provisionada.mono {linha : ProgrammaticServicePrincipal}
    (h : Provisionada bearer secretKey w linha) (hprograms : w.programs <+: w'.programs) :
    Provisionada bearer secretKey w' linha := by
  obtain ⟨j, p, relogio, canonicos, hj, hscopes, hlinha⟩ := h
  obtain ⟨rest, hrest⟩ := hprograms
  have hlow : j < w.programs.length := (List.getElem?_eq_some_iff.mp hj).1
  exact ⟨j, p, relogio, canonicos, by rwa [← hrest, List.getElem?_append_left hlow], hscopes, hlinha⟩

/-- The calls of a process after one more call. -/
theorem callsOf_snoc (events : List (Event Chamada Resposta Escolha)) (i j : Nat) (c : Chamada)
    (a : Resposta c) (escolha : Escolha) :
    callsOf (events ++ [⟨⟨c, a⟩, i, escolha⟩]) j =
      if j = i then callsOf events j ++ [⟨c, a⟩] else callsOf events j := by
  rw [callsOf_append]
  by_cases hj : j = i
  · rw [if_pos hj, callsOf_cons_self hj.symm, callsOf_nil]
  · rw [if_neg hj, callsOf_cons_ne (fun heq => hj heq.symm), callsOf_nil, List.append_nil]

theorem Estado.start (h : Estado bearer secretKey w) (htracked : w.Tracked)
    (p : Programa Desfecho) : Estado bearer secretKey { w with
      programs := w.programs ++ [p], live := w.setLive w.programs.length (some p) } := by
  have hfresh : callsOf w.events w.programs.length = [] := htracked.callsOf_nil
  have hlive (i : Nat) (q : Programa Desfecho) (hcalled : callsOf w.events i ≠ [])
      (hq : w.setLive w.programs.length (some p) i = some q) : w.live i = some q := by
    have hne : i ≠ w.programs.length := fun heq => hcalled (heq ▸ hfresh)
    simpa [World.setLive, hne] using hq
  constructor
  case coerente => exact h.coerente
  case origem => exact fun linha hlinha => (h.origem linha hlinha).mono (List.prefix_append _ _)
  case lidas => exact h.lidas
  case escritas => exact h.escritas
  case reservas => exact h.reservas
  case consumos => exact h.consumos
  case consumido => exact h.consumido
  case relogio =>
    intro i keyId linha agora hlog q hq
    exact h.relogio i keyId linha agora hlog q (hlive i q (by simp [hlog, leituras]) hq)
  case reservado =>
    intro i keyId linha agora rota hlog q hq
    exact h.reservado i keyId linha agora rota hlog q (hlive i q (by simp [hlog, leituras]) hq)

theorem Estado.stop (h : Estado bearer secretKey w) (i : Nat) : Estado bearer secretKey { w with
    state := w.state.desfeito i, live := w.setLive i none } := by
  have hlive (j : Nat) (q : Programa Desfecho) (hq : w.setLive i none j = some q) :
      j ≠ i ∧ w.live j = some q := by
    simp only [World.setLive] at hq
    split at hq
    · cases hq
    · exact ⟨by assumption, hq⟩
  constructor
  case coerente => exact h.coerente.desfeito i
  case origem =>
    exact fun linha hlinha => h.origem linha (Banco.todas_desfeito.subset hlinha)
  case lidas => exact h.lidas
  case escritas => exact fun j escrita hmem => h.escritas j escrita (List.mem_of_mem_filter hmem)
  case reservas => exact fun j key hmem => h.reservas j key (List.mem_of_mem_filter hmem)
  case consumos => exact h.consumos
  case consumido => exact h.consumido
  case relogio =>
    intro j keyId linha agora hlog q hq
    obtain ⟨hne, hq⟩ := hlive j q hq
    have hinicio := h.relogio j keyId linha agora hlog q hq
    simpa [Banco.desfeito, hne] using hinicio
  case reservado =>
    intro j keyId linha agora rota hlog q hq
    obtain ⟨hne, hq⟩ := hlive j q hq
    have hmem := h.reservado j keyId linha agora rota hlog q hq
    exact List.mem_filter.mpr ⟨hmem, by simpa using hne⟩

/-- Only a provisioning inserts a row, and it is its own. -/
theorem Tarefa.Chama.of_insertPrincipal {t : Tarefa} {past : List (Answered Chamada Resposta)}
    {linha : ProgrammaticServicePrincipal} (h : t.Chama secretKey past (.insertPrincipal linha)) :
    ∃ p relogio canonicos, t = .provisionamento p relogio ∧
      canonicalScopes p.scopes = .ok canonicos ∧ linha = p.linha secretKey canonicos := by
  cases h with
  | @insere p relogio _ canonicos hscopes => exact ⟨p, relogio, canonicos, rfl, hscopes, rfl⟩

/-- Only a request consumes quota, that of the row it has read. -/
theorem Tarefa.Chama.of_consome {t : Tarefa} {past : List (Answered Chamada Resposta)} {c : Chamada}
    (h : t.Chama secretKey past c) (hconsome : c.consome = true) :
    ∃ rota header keyId linha agora, t = .pedido rota header ∧
      past = leituras keyId linha agora ∧ c = rota.consumo linha := by
  cases h with
  | @consome rota header keyId linha agora => exact ⟨rota, header, keyId, linha, agora, rfl, rfl, rfl⟩
  | busca => cases hconsome
  | agora => cases hconsome
  | confirma => cases hconsome
  | insere => cases hconsome
  | provisiona => cases hconsome
  | revoga => cases hconsome
  | revogado => cases hconsome
  | desiste => cases hconsome

/-- Every answer keeps it. -/
theorem Estado.answer (h : Estado bearer secretKey w) (hreach : Alcancado bearer secretKey w)
    {i : Nat} {c : Chamada} {k : Resposta c → Programa Desfecho} {escolha : Escolha}
    {a : Resposta c} {b : Banco} (hlive : w.live i = some (.call c k))
    (hresponde : w.state.responde i c escolha = some (a, b)) : Estado bearer secretKey { w with
      state := b
      live := w.setLive i (some (k a))
      events := w.events ++ [⟨⟨c, a⟩, i, escolha⟩] } := by
  obtain ⟨t, ht, hcall⟩ := chama_of_live hreach hlive
  have hlog (j : Nat) := callsOf_snoc w.events i j c a escolha
  have hgrown (j : Nat) (e : Answered Chamada Resposta) (he : e ∈ callsOf w.events j) :
      e ∈ callsOf (w.events ++ [⟨⟨c, a⟩, i, escolha⟩]) j := by
    rw [callsOf_append]
    exact List.mem_append_left _ he
  have hrest (j : Nat) (q : Programa Desfecho) (hj : j ≠ i)
      (hq : w.setLive i (some (k a)) j = some q) : w.live j = some q := by
    simpa [World.setLive, hj] using hq
  constructor
  case coerente =>
    refine h.coerente.responde hresponde ?_
    rintro principalId operation quotaLimit quotaWindowSeconds rfl
    obtain ⟨rota, header, keyId, linha, agora, -, hpast, hconsumo⟩ := hcall.of_consome rfl
    obtain ⟨rfl, rfl, rfl, rfl⟩ := Chamada.consumeQuota.inj hconsumo
    exact ⟨linha.fixo, (h.lidas i keyId linha _ hpast).1, rfl, rfl⟩
  case origem =>
    intro linha hlinha
    rcases Banco.responde_todas hresponde hlinha with hold | ⟨original, rfl, rfl⟩
    · exact h.origem linha hold
    · obtain ⟨p, relogio, canonicos, rfl, hscopes, rfl⟩ := hcall.of_insertPrincipal
      exact ⟨i, p, relogio, canonicos, ht, hscopes, rfl⟩
  case lidas =>
    intro j keyId linha rest hread
    change callsOf (w.events ++ _) j = _ at hread
    rw [hlog] at hread
    have hkept (resto : List (Answered Chamada Resposta))
        (hj : callsOf w.events j = ⟨.getByKeyId keyId, .ok (some linha)⟩ :: resto) :
        linha.fixo ∈ b.fixas ∧ linha.keyId = keyId := by
      obtain ⟨hfixa, hkey⟩ := h.lidas j keyId linha resto hj
      exact ⟨Banco.responde_fixas hresponde hfixa, hkey⟩
    by_cases hj : j = i
    · subst hj
      rw [if_pos rfl] at hread
      cases hpast : callsOf w.events j with
      | cons e past =>
        rw [hpast] at hread
        obtain ⟨rfl, -⟩ := List.cons.inj hread
        exact hkept past hpast
      | nil =>
        rw [hpast] at hread
        obtain ⟨hfirst, -⟩ := List.cons.inj hread
        obtain ⟨rfl, hanswer⟩ := Answered.mk.inj hfirst
        obtain rfl := eq_of_heq hanswer
        -- The first call of a transaction sees the committed rows.
        have hown : w.state.escritasDe j = [] := by
          refine List.eq_nil_iff_forall_not_mem.mpr fun escrita hescrita => ?_
          exact h.escritas j escrita (Banco.mem_escritasDe.mp hescrita) hpast
        obtain ⟨hmem, hkey⟩ := Banco.of_getByKeyId hresponde
        rw [Banco.vista_eq_self hown] at hmem
        exact ⟨Banco.responde_fixas hresponde (List.mem_map_of_mem hmem), hkey⟩
    · rw [if_neg hj] at hread
      exact hkept rest hread
  case escritas =>
    intro j escrita hmem hnone
    change callsOf (w.events ++ _) j = _ at hnone
    rw [hlog] at hnone
    by_cases hj : j = i
    · rw [if_pos hj] at hnone
      exact absurd hnone (by simp)
    · rw [if_neg hj] at hnone
      exact h.escritas j escrita (((Banco.responde_outros hresponde hj).1 escrita).mp hmem) hnone
  case reservas =>
    intro j key hmem
    by_cases hj : j = i
    · subst hj
      rcases Banco.responde_pendentes hresponde hmem with hold | ⟨agora, hwrite⟩
      · obtain ⟨e, he, hconsome⟩ := h.reservas j key hold
        exact ⟨e, hgrown j e he, hconsome⟩
      · refine ⟨⟨c, a⟩, ?_, ?_⟩
        · change _ ∈ callsOf (w.events ++ _) j
          rw [hlog, if_pos rfl]
          exact List.mem_concat_self
        · cases hwrite with
          | incremento => rfl
    · obtain ⟨e, he, hconsome⟩ := h.reservas j key
        (((Banco.responde_outros hresponde hj).1 _).mp hmem)
      exact ⟨e, hgrown j e he, hconsome⟩
  case consumos =>
    intro j key hmem
    rcases (Banco.responde_incrementos hresponde).2 _ hmem with hold | ⟨hj, hopen⟩
    · obtain ⟨e, he, hconsome⟩ := h.consumos j key hold
      exact ⟨e, hgrown j e he, hconsome⟩
    · obtain rfl : j = i := hj
      obtain ⟨e, he, hconsome⟩ := h.reservas j key hopen
      exact ⟨e, hgrown j e he, hconsome⟩
  case relogio =>
    intro j keyId linha agora hread q hq
    change callsOf (w.events ++ _) j = _ at hread
    rw [hlog] at hread
    by_cases hj : j = i
    · subst hj
      rw [if_pos rfl] at hread
      have hsplit : leituras keyId linha agora =
          [⟨.getByKeyId keyId, .ok (some linha)⟩] ++ [⟨.databaseNow, .ok agora⟩] := rfl
      rw [hsplit] at hread
      obtain ⟨-, hlast⟩ := List.append_inj' hread rfl
      obtain ⟨rfl, hanswer⟩ := Answered.mk.inj (List.singleton_inj.mp hlast)
      obtain rfl := eq_of_heq hanswer
      exact Banco.of_databaseNow hresponde
    · rw [if_neg hj] at hread
      rw [(Banco.responde_outros hresponde hj).2]
      exact h.relogio j keyId linha agora hread q (hrest j q hj hq)
  case reservado =>
    intro j keyId linha agora rota hread q hq
    change callsOf (w.events ++ _) j = _ at hread
    rw [hlog] at hread
    by_cases hj : j = i
    · subst hj
      rw [if_pos rfl] at hread
      obtain ⟨hbefore, hlast⟩ := List.append_inj' hread rfl
      obtain ⟨rfl, hanswer⟩ := Answered.mk.inj (List.singleton_inj.mp hlast)
      obtain rfl := eq_of_heq hanswer
      have hinicio := h.relogio j keyId linha agora hbefore _ hlive
      exact Banco.of_consumeQuota hinicio hresponde
    · rw [if_neg hj] at hread
      exact ((Banco.responde_outros hresponde hj).1 _).mpr
        (h.reservado j keyId linha agora rota hread q (hrest j q hj hq))
  case consumido =>
    intro j keyId linha agora rota hread
    change callsOf (w.events ++ _) j = _ at hread
    rw [hlog] at hread
    by_cases hj : j = i
    · subst hj
      rw [if_pos rfl] at hread
      have hsplit : leituras keyId linha agora ++
          [(⟨rota.consumo linha, .ok true⟩ : Answered Chamada Resposta), ⟨.commit, .ok ()⟩] =
          (leituras keyId linha agora ++ [⟨rota.consumo linha, .ok true⟩]) ++ [⟨.commit, .ok ()⟩] :=
        rfl
      rw [hsplit] at hread
      obtain ⟨hbefore, hlast⟩ := List.append_inj' hread rfl
      obtain ⟨rfl, hanswer⟩ := Answered.mk.inj (List.singleton_inj.mp hlast)
      obtain rfl := eq_of_heq hanswer
      have hopen := h.reservado j keyId linha agora rota hbefore _ hlive
      rw [Banco.of_commit hresponde]
      exact Banco.mem_incrementos_confirmado hopen
    · rw [if_neg hj] at hread
      exact (Banco.responde_incrementos hresponde).1 (h.consumido j keyId linha agora rota hread)

/-- It holds in every world that is reached. -/
theorem Alcancado.estado (h : Alcancado bearer secretKey w) : Estado bearer secretKey w := by
  induction h with
  | initial =>
    constructor
    case coerente =>
      constructor
      case contado => exact fun key => rfl
      case limitado => exact fun key hpositive => absurd hpositive (Nat.lt_irrefl 0)
      case quotaLimit_positive => exact fun linha hlinha => by cases hlinha
      case ids => exact List.nodup_nil
      case keyIds => exact List.nodup_nil
    case origem => exact fun linha hlinha => by cases hlinha
    case lidas => exact fun i keyId linha rest hread => by cases hread
    case escritas => exact fun i escrita hmem => by cases hmem
    case reservas => exact fun i key hmem => by cases hmem
    case consumos => exact fun i key hmem => by cases hmem
    case relogio => exact fun i keyId linha agora hread => by cases hread
    case reservado => exact fun i keyId linha agora rota hread => by cases hread
    case consumido => exact fun i keyId linha agora rota hread => by cases hread
  | move m hreach _ hnext ih =>
    rcases World.next_cases hnext with ⟨p, -, rfl⟩ |
      ⟨i, escolha, c, k, a, b, -, hlive, hresponde, rfl⟩ | ⟨i, p, -, -, rfl⟩
    · exact ih.start hreach.tracked p
    · exact ih.answer hreach hlive hresponde
    · exact ih.stop i

end PiaOs.Access
