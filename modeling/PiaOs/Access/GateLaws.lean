import PiaOs.Access.Runs

/-!
# What passes the gate

In every interleaving a request passes only with the credential of a principal that
was active when it was looked up, and no window lets more requests pass than the
limit of the principal. Everything else that can go wrong with a credential ends in
the one published refusal.
-/

namespace PiaOs.Access

open Support

variable {bearer : HTTPBearer} {secretKey : String} {w : Mundo}

/-- The process is a request of the route with the header, and has ended so. -/
structure Terminou (bearer : HTTPBearer) (secretKey : String) (w : Mundo) (i : Nat) (rota : Rota)
    (header : Option String) (r : Except ApiError ProgrammaticPrincipal) : Prop where
  program : w.programs[i]? = some ((Tarefa.pedido rota header).programa bearer secretKey)
  ended : Proc.Path ((Tarefa.pedido rota header).programa bearer secretKey)
    (callsOf w.events i) (.done (.acesso r))

/-- The row was among the committed ones when the process looked for its key id. -/
def Lida (bearer : HTTPBearer) (secretKey : String) (w : Mundo) (i : Nat) (keyId : String)
    (linha : ProgrammaticServicePrincipal) : Prop :=
  ∃ front escolha post w₁,
    w.events = front ++ ⟨⟨.getByKeyId keyId, .ok (some linha)⟩, i, escolha⟩ :: post ∧
    Alcancado bearer secretKey w₁ ∧ w₁.events = front ∧ linha ∈ w₁.state.principais

/-- Two messages with one hash under the key. -/
def Colisao (secretKey m m' : String) : Prop :=
  m ≠ m' ∧ Sha256.hmacHexdigest secretKey m = Sha256.hmacHexdigest secretKey m'

/-- The digest of the row was computed by its provisioning for this very pair, unless the
pair and the one it was computed for are a collision. -/
def EmitidaPara (bearer : HTTPBearer) (secretKey : String) (w : Mundo) (keyId secret : String)
    (linha : ProgrammaticServicePrincipal) : Prop :=
  ∃ (j : Nat) (p : Provisionamento) (relogio : Instant) (canonicos : List String),
    w.programs[j]? = some ((Tarefa.provisionamento p relogio).programa bearer secretKey) ∧
    canonicalScopes p.scopes = .ok canonicos ∧ linha.fixo = p.linha secretKey canonicos ∧
    p.keyId = keyId ∧
    (p.secret = secret ∨ Colisao secretKey (mensagem keyId p.secret) (mensagem keyId secret))

/-- The calls of a request that has passed. -/
def passagem (rota : Rota) (keyId : String) (linha : ProgrammaticServicePrincipal)
    (agora : Instant) : List (Answered Chamada Resposta) :=
  leituras keyId linha agora ++ [⟨rota.consumo linha, .ok true⟩, ⟨.commit, .ok ()⟩]

/-- The process is a request that has passed and consumed from the bucket. -/
def PassouNo (bearer : HTTPBearer) (secretKey : String) (w : Mundo) (key : QuotaKey) (i : Nat) :
    Prop :=
  ∃ rota header principal keyId linha agora,
    Terminou bearer secretKey w i rota header (.ok principal) ∧
    callsOf w.events i = passagem rota keyId linha agora ∧ key = rota.balde linha agora

theorem Terminou.fim {i : Nat} {rota : Rota} {header : Option String}
    {r : Except ApiError ProgrammaticPrincipal} (h : Terminou bearer secretKey w i rota header r) :
    Fim bearer secretKey rota header (callsOf w.events i) r := by
  have hobeys := (Tarefa.pedido rota header).programa_obeys.path h.ended
  rw [List.nil_append] at hobeys
  obtain ⟨r', hr, hfim⟩ := hobeys.result
  obtain rfl := Desfecho.acesso.inj hr
  exact hfim

theorem compareDigest_true {esperado digest : String} (h : compareDigest esperado digest = .ok true) :
    esperado = digest := by
  unfold compareDigest at h
  split at h
  · simpa using h
  · cases h

/-- Two ways of splitting a text at its first space are one. -/
theorem split_first_space {xs xs' ys ys' : List Char} (hx : ' ' ∉ xs) (hx' : ' ' ∉ xs')
    (h : xs ++ ' ' :: ys = xs' ++ ' ' :: ys') : xs = xs' ∧ ys = ys' := by
  induction xs generalizing xs' with
  | nil =>
    cases xs' with
    | nil => exact ⟨rfl, (List.cons.inj h).2⟩
    | cons x xs' => exact absurd ((List.cons.inj h).1 ▸ List.mem_cons_self) hx'
  | cons x xs ih =>
    cases xs' with
    | nil => exact absurd ((List.cons.inj h).1 ▸ List.mem_cons_self) hx
    | cons x' xs' =>
      obtain ⟨rfl, htail⟩ := List.cons.inj h
      obtain ⟨rfl, rfl⟩ := ih (fun hmem => hx (List.mem_cons_of_mem _ hmem))
        (fun hmem => hx' (List.mem_cons_of_mem _ hmem)) htail
      exact ⟨rfl, rfl⟩

/-- What the verifier accepts of the rebuilt header is what the header itself says. -/
theorem Autenticado.credencial {header : Option String} {keyId secret : String}
    {linha : ProgrammaticServicePrincipal} {agora : Instant}
    (h : Autenticado bearer secretKey header keyId secret linha agora) :
    ∃ value, header = some value ∧ Credencial value keyId secret := by
  obtain ⟨rebuilt, hrebuilt, hcred⟩ := of_parseBearerCredential h.parsed
  obtain ⟨⟨scheme, credentials⟩, hcall, rfl⟩ := Option.map_eq_some_iff.mp hrebuilt
  obtain ⟨value, rest, hvalue, hparts, hspace, hstrip⟩ := bearer.parts header _ _ hcall
  obtain ⟨resto, hresto, htoken⟩ := hcred.token
  have hbearer : bearerPrefix = "Bearer".toList ++ [' '] := by decide
  have hsplit : scheme.toList ++ ' ' :: credentials.toList = "Bearer".toList ++ ' ' :: resto := by
    rw [hbearer] at hresto
    simpa using hresto
  obtain ⟨hscheme, hcredentials⟩ := split_first_space hspace (by decide) hsplit
  refine ⟨value, hvalue, ⟨rest, ?_, ?_⟩, hcred.keyId_undotted, hcred.keyId_stated,
    hcred.secret_stated⟩
  · rw [hparts, hscheme, hbearer, List.append_assoc]
    rfl
  · rw [hstrip, hcredentials, htoken]

/-- A row that was read had been provisioned under its key id. -/
theorem Alcancado.lida (h : Alcancado bearer secretKey w) {i : Nat} {keyId : String}
    {linha : ProgrammaticServicePrincipal} {rest : List (Answered Chamada Resposta)}
    (hread : callsOf w.events i = ⟨.getByKeyId keyId, .ok (some linha)⟩ :: rest) :
    Lida bearer secretKey w i keyId linha ∧ Provisionada bearer secretKey w linha.fixo ∧
      linha.keyId = keyId := by
  obtain ⟨hfixa, hkey⟩ := h.estado.lidas i keyId linha rest hread
  refine ⟨?_, h.estado.origem _ (Banco.fixas_subset_todas hfixa), hkey⟩
  have hhead : callsOf w.events i = [] ++ ⟨.getByKeyId keyId, .ok (some linha)⟩ :: rest := hread
  obtain ⟨front, e, post, hevents, rfl, hcall, hfront, -⟩ := callsOf_split hhead
  obtain ⟨⟨call, answer⟩, process, escolha⟩ := e
  obtain ⟨rfl, hanswer⟩ := Answered.mk.inj hcall
  obtain rfl := eq_of_heq hanswer
  obtain ⟨w₁, b, hreach, hw₁, hresponde⟩ := h.answered hevents
  have hown : w₁.state.escritasDe process = [] := by
    refine List.eq_nil_iff_forall_not_mem.mpr fun escrita hescrita => ?_
    have hpending := Banco.mem_escritasDe.mp hescrita
    exact Alcancado.estado hreach |>.escritas process escrita hpending (hw₁ ▸ hfront)
  obtain ⟨hmem, -⟩ := Banco.of_getByKeyId hresponde
  rw [Banco.vista_eq_self hown] at hmem
  exact ⟨front, escolha, post, w₁, hevents, hreach, hw₁, hmem⟩

/-- What a request rests on once it is authenticated. -/
structure Admitida (bearer : HTTPBearer) (secretKey : String) (w : Mundo) (i : Nat)
    (header : Option String) (keyId secret : String) (linha : ProgrammaticServicePrincipal)
    (agora : Instant) : Prop where
  header_stated : ∃ value, header = some value ∧ Credencial value keyId secret
  own_key : linha.keyId = keyId
  read : Lida bearer secretKey w i keyId linha
  unrevoked : linha.revokedAt = none
  unexpired : ∀ expira ∈ linha.expiresAt, agora < expira
  digest : linha.secretDigest = computeSecretDigest secretKey keyId secret
  emitted : EmitidaPara bearer secretKey w keyId secret linha

theorem Alcancado.admitida (h : Alcancado bearer secretKey w) {i : Nat} {header : Option String}
    {keyId secret : String} {linha : ProgrammaticServicePrincipal} {agora : Instant}
    {rest : List (Answered Chamada Resposta)}
    (hauth : Autenticado bearer secretKey header keyId secret linha agora)
    (hlog : callsOf w.events i = leituras keyId linha agora ++ rest) :
    Admitida bearer secretKey w i header keyId secret linha agora := by
  obtain ⟨hread, hprovisioned, hkey⟩ := h.lida hlog
  obtain ⟨hunrevoked, hunexpired⟩ :=
    ProgrammaticServicePrincipal.isActiveAt_iff.mp hauth.active
  have hdigest : linha.secretDigest = computeSecretDigest secretKey keyId secret :=
    (compareDigest_true hauth.digest).symm
  refine ⟨hauth.credencial, hkey, hread, hunrevoked, hunexpired, hdigest, ?_⟩
  obtain ⟨j, p, relogio, canonicos, hj, hscopes, hlinha⟩ := hprovisioned
  have hpkey : p.keyId = keyId := by
    rw [← hkey]
    exact (congrArg ProgrammaticServicePrincipal.keyId hlinha).symm
  have hwritten : linha.secretDigest = computeSecretDigest secretKey p.keyId p.secret :=
    congrArg ProgrammaticServicePrincipal.secretDigest hlinha
  refine ⟨j, p, relogio, canonicos, hj, hscopes, hlinha, hpkey, ?_⟩
  by_cases hmessage : mensagem keyId p.secret = mensagem keyId secret
  · exact .inl (mensagem_inj hmessage)
  · refine .inr ⟨hmessage, ?_⟩
    rw [hwritten, hpkey] at hdigest
    exact hdigest

/-- What was read can be compared: its digest comes from a provisioning. -/
theorem Alcancado.comparavel (h : Alcancado bearer secretKey w) {i : Nat} {keyId secret : String}
    {linha : ProgrammaticServicePrincipal} {agora : Instant}
    (hlog : callsOf w.events i = leituras keyId linha agora) :
    ∃ igual,
      compareDigest (computeSecretDigest secretKey keyId secret) linha.secretDigest = .ok igual := by
  obtain ⟨-, ⟨j, p, relogio, canonicos, -, -, hlinha⟩, -⟩ := h.lida hlog
  have hwritten : linha.secretDigest = computeSecretDigest secretKey p.keyId p.secret :=
    congrArg ProgrammaticServicePrincipal.secretDigest hlinha
  rw [hwritten]
  exact ⟨_, compareDigest_eq_ok⟩

/-- A list without repetition of processes that each made an increment is no longer than
the list of increments. -/
theorem length_le_countP {incrementos : List (Nat × QuotaKey)} {key : QuotaKey} {js : List Nat}
    (hnodup : js.Nodup) (hmem : ∀ j ∈ js, (j, key) ∈ incrementos) :
    js.length ≤ incrementos.countP (·.2 == key) := by
  have hpairs : (js.map fun j => (j, key)).Subperm (incrementos.filter (·.2 == key)) := by
    refine List.subperm_of_subset (hnodup.map fun j j' heq => (Prod.mk.inj heq).1) ?_
    intro p hp
    obtain ⟨j, hj, rfl⟩ := List.mem_map.mp hp
    exact List.mem_filter.mpr ⟨hmem j hj, by simp⟩
  have hlength := hpairs.length_le
  rwa [List.length_map, ← List.countP_eq_length_filter] at hlength

/-- What holds of the gate in every interleaving. -/
structure GateLaws (bearer : HTTPBearer) (secretKey : String) : Prop where
  pass : ∀ w, Alcancado bearer secretKey w → ∀ i rota header principal,
    Terminou bearer secretKey w i rota header (.ok principal) →
    ∃ keyId secret linha agora, principal = linha.toPrincipal ∧ rota.scope ∈ linha.scopes ∧
      Admitida bearer secretKey w i header keyId secret linha agora ∧
      callsOf w.events i = passagem rota keyId linha agora
  quota : ∀ w, Alcancado bearer secretKey w → ∀ linha ∈ w.state.principais,
    ∀ key : QuotaKey, key.principalId = linha.id → ∀ js : List Nat, js.Nodup →
    (∀ j ∈ js, PassouNo bearer secretKey w key j) → (js.length : Int) ≤ linha.quotaLimit
  exhausted : ∀ w, Alcancado bearer secretKey w → ∀ i rota header detail,
    Terminou bearer secretKey w i rota header (.error (.tooManyRequests detail)) →
    ∃ linha agora w₁ used, Alcancado bearer secretKey w₁ ∧ w₁.events <+: w.events ∧
      w₁.state.used (rota.balde linha agora) = some used ∧ linha.quotaLimit ≤ used ∧
      w₁.state.incrementos.countP (·.2 == rota.balde linha agora) = used
  untouched : ∀ w, Alcancado bearer secretKey w → ∀ i rota header detail,
    (Terminou bearer secretKey w i rota header (.error (.authentication detail)) ∨
      Terminou bearer secretKey w i rota header (.error (.insufficientScope detail))) →
    (∀ e ∈ callsOf w.events i, e.call.leitura = true) ∧ ∀ key, (i, key) ∉ w.state.incrementos
  refused : ∀ w, Alcancado bearer secretKey w → ∀ i rota header r,
    Terminou bearer secretKey w i rota header r →
    r = .error (.authentication publicAuthDetail) ∨ ∃ keyId secret linha agora,
      Admitida bearer secretKey w i header keyId secret linha agora

theorem Alcancado.passed (h : Alcancado bearer secretKey w) {i : Nat} {rota : Rota}
    {header : Option String} {principal : ProgrammaticPrincipal}
    (hend : Terminou bearer secretKey w i rota header (.ok principal)) :
    ∃ keyId secret linha agora, principal = linha.toPrincipal ∧ rota.scope ∈ linha.scopes ∧
      Admitida bearer secretKey w i header keyId secret linha agora ∧
      callsOf w.events i = passagem rota keyId linha agora := by
  have hfim := hend.fim
  generalize hr : (Except.ok principal : Except ApiError ProgrammaticPrincipal) = r at hfim
  generalize hlog : callsOf w.events i = log at hfim
  cases hfim with
  | recusado => cases hr
  | incomparavel => cases hr
  | semEscopo => cases hr
  | semAutoridade => cases hr
  | @decidido keyId secret linha agora liberado hauth hscope =>
    cases liberado with
    | false => cases hr
    | true =>
      obtain rfl := Except.ok.inj hr
      exact ⟨keyId, secret, linha, agora, rfl, hscope, h.admitida hauth hlog, rfl⟩

theorem Alcancado.exhausted (h : Alcancado bearer secretKey w) {i : Nat} {rota : Rota}
    {header : Option String} {detail : String}
    (hend : Terminou bearer secretKey w i rota header (.error (.tooManyRequests detail))) :
    ∃ linha agora w₁ used, Alcancado bearer secretKey w₁ ∧ w₁.events <+: w.events ∧
      w₁.state.used (rota.balde linha agora) = some used ∧ linha.quotaLimit ≤ used ∧
      w₁.state.incrementos.countP (·.2 == rota.balde linha agora) = used := by
  have hfim := hend.fim
  generalize hr : (Except.error (.tooManyRequests detail) :
    Except ApiError ProgrammaticPrincipal) = r at hfim
  generalize hlog : callsOf w.events i = log at hfim
  cases hfim with
  | recusado => cases hr
  | incomparavel => cases hr
  | semEscopo => cases hr
  | semAutoridade _ herror =>
    rcases herror with rfl | rfl
    · cases hr
    · cases hr
  | @decidido keyId secret linha agora liberado hauth hscope =>
    cases liberado with
    | true => cases hr
    | false =>
      obtain ⟨front, e, post, hevents, rfl, hcall, hfront, -⟩ := callsOf_split hlog
      obtain ⟨⟨call, answer⟩, process, escolha⟩ := e
      obtain ⟨rfl, hanswer⟩ := Answered.mk.inj hcall
      obtain rfl := eq_of_heq hanswer
      obtain ⟨w₁, k, b, hreach, hw₁, hlive, hresponde⟩ := h.answered_live hevents
      have hestado := Alcancado.estado hreach
      have hpast : callsOf w₁.events process = leituras keyId linha agora := hw₁ ▸ hfront
      have hinicio := hestado.relogio process keyId linha agora hpast _ hlive
      obtain ⟨used, hused, hlimit⟩ := Banco.of_consumeQuota hinicio hresponde
      -- The transaction itself has consumed nothing yet.
      have hown : w₁.state.reservasDe process (rota.balde linha agora) = 0 := by
        rw [Banco.reservasDe, List.countP_eq_zero]
        intro escrita hescrita hsame
        obtain rfl := eq_of_beq hsame
        obtain ⟨e, he, hconsome⟩ := hestado.reservas process _ (Banco.mem_escritasDe.mp hescrita)
        rw [hpast] at he
        simp only [leituras, List.mem_cons, List.not_mem_nil, or_false] at he
        rcases he with rfl | rfl
        · cases hconsome
        · cases hconsome
      have hcount : (w₁.state.vista process).contagem (rota.balde linha agora) =
          w₁.state.contagem (rota.balde linha agora) := by
        rw [Banco.contagem_vista, hown, Nat.add_zero]
      have hseen := hestado.coerente.contado.vista process (rota.balde linha agora)
      have hcommitted := hestado.coerente.contado (rota.balde linha agora)
      rw [hcount] at hseen
      have hused' : w₁.state.used (rota.balde linha agora) = some used := by
        rw [hcommitted, ← hseen]
        exact hused
      refine ⟨linha, agora, w₁, used, hreach, ?_, hused', hlimit, ?_⟩
      · rw [hw₁, hevents]
        exact List.prefix_append _ _
      · rw [hcommitted] at hused'
        split at hused'
        · cases hused'
        · exact Option.some.inj hused'

theorem Alcancado.untouched (h : Alcancado bearer secretKey w) {i : Nat} {rota : Rota}
    {header : Option String} {detail : String}
    (hend : Terminou bearer secretKey w i rota header (.error (.authentication detail)) ∨
      Terminou bearer secretKey w i rota header (.error (.insufficientScope detail))) :
    (∀ e ∈ callsOf w.events i, e.call.leitura = true) ∧ ∀ key, (i, key) ∉ w.state.incrementos := by
  have hreads : ∀ e ∈ callsOf w.events i, e.call.leitura = true := by
    rcases hend with hend | hend
    · have hfim := hend.fim
      generalize hr : (Except.error (.authentication detail) :
        Except ApiError ProgrammaticPrincipal) = r at hfim
      generalize callsOf w.events i = log at hfim
      cases hfim with
      | recusado hreads => exact hreads
      | incomparavel => cases hr
      | semEscopo => cases hr
      | semAutoridade _ herror => rcases herror with rfl | rfl <;> cases hr
      | @decidido _ _ _ _ liberado => cases liberado <;> cases hr
    · have hfim := hend.fim
      generalize hr : (Except.error (.insufficientScope detail) :
        Except ApiError ProgrammaticPrincipal) = r at hfim
      generalize callsOf w.events i = log at hfim
      cases hfim with
      | recusado hreads => exact hreads
      | incomparavel => cases hr
      | semEscopo =>
        intro e he
        simp only [leituras, List.mem_cons, List.not_mem_nil, or_false] at he
        rcases he with rfl | rfl <;> rfl
      | semAutoridade _ herror => rcases herror with rfl | rfl <;> cases hr
      | @decidido _ _ _ _ liberado => cases liberado <;> cases hr
  refine ⟨hreads, fun key hmem => ?_⟩
  obtain ⟨e, he, hconsome⟩ := h.estado.consumos i key hmem
  have hread := hreads e he
  cases hcall : e.call <;> rw [hcall] at hconsome hread
  case consumeQuota => cases hread
  all_goals cases hconsome

/-- A request that is not refused in the published way was authenticated. -/
theorem Alcancado.refused (h : Alcancado bearer secretKey w) {i : Nat} {rota : Rota}
    {header : Option String} {r : Except ApiError ProgrammaticPrincipal}
    (hend : Terminou bearer secretKey w i rota header r) :
    r = .error (.authentication publicAuthDetail) ∨ ∃ keyId secret linha agora,
      Admitida bearer secretKey w i header keyId secret linha agora := by
  have hfim := hend.fim
  generalize hlog : callsOf w.events i = log at hfim
  cases hfim with
  | recusado => exact .inl rfl
  | incomparavel hraises =>
    obtain ⟨igual, hcompare⟩ := h.comparavel hlog
    exact absurd hcompare (hraises igual)
  | semEscopo hauth => exact .inr ⟨_, _, _, _, h.admitida hauth (hlog.trans (List.append_nil _).symm)⟩
  | semAutoridade hauth => exact .inr ⟨_, _, _, _, h.admitida hauth hlog⟩
  | decidido hauth => exact .inr ⟨_, _, _, _, h.admitida hauth hlog⟩

/-- A principal that is provisioned and then makes a request with the header. -/
def provisionadoEntao (header : String) : List (Move Chamada Resposta Desfecho Escolha) :=
  let provisionamento : Provisionamento :=
    { id := ⟨1⟩, keyId := "chave-01", secret := "s", scopes := [scopePredictiveEvaluate],
      quotaLimit := 1, quotaWindowSeconds := 60 }
  [.start ((Tarefa.provisionamento provisionamento 0).programa .partition "k"),
    .answer 0 (.atende 0), .answer 0 (.atende 0), .answer 0 (.atende 0),
    .start ((Tarefa.pedido rotaPreditiva (some header)).programa .partition "k"),
    .answer 1 (.atende 1), .answer 1 (.atende 1), .answer 1 (.atende 1), .answer 1 (.atende 1)]

/-- Whether a process is a request that has passed. -/
def passou (w : Mundo) (i : Nat) : Bool :=
  match w.live i with
  | some (.done (.acesso (.ok _))) => true
  | _ => false

end PiaOs.Access
