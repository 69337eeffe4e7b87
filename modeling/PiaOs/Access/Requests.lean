import PiaOs.Access.Gate

/-!
# The calls of one request

Which calls a request makes, in which order and with which values, and how it ends.
Each end of a request goes with the calls that led to it.
-/

namespace PiaOs.Access

open Support

/-- The header as the verifier sees it. -/
def HTTPBearer.rebuilt (bearer : HTTPBearer) (header : Option String) : Option String :=
  (bearer.call header).map fun (scheme, credentials) => scheme ++ " " ++ credentials

/-- What an authentication rests on. -/
structure Autenticado (bearer : HTTPBearer) (secretKey : String) (header : Option String)
    (keyId secret : String) (linha : ProgrammaticServicePrincipal) (agora : Instant) : Prop where
  parsed : parseBearerCredential (bearer.rebuilt header) = .ok (keyId, secret)
  digest : compareDigest (computeSecretDigest secretKey keyId secret) linha.secretDigest = .ok true
  active : linha.isActiveAt agora = true

/-- The two readings of an authentication. -/
def leituras (keyId : String) (linha : ProgrammaticServicePrincipal) (agora : Instant) :
    List (Answered Chamada Resposta) :=
  [⟨.getByKeyId keyId, .ok (some linha)⟩, ⟨.databaseNow, .ok agora⟩]

/-- The consumption of the quota of a principal for a route. -/
def Rota.consumo (rota : Rota) (linha : ProgrammaticServicePrincipal) : Chamada :=
  .consumeQuota linha.id rota.operation linha.quotaLimit linha.quotaWindowSeconds

/-- A call that writes nothing and ends no transaction. -/
def Chamada.leitura : Chamada → Bool
  | .getByKeyId _ | .databaseNow => true
  | _ => false

/-- The calls that a task makes, after those it has made. -/
inductive Tarefa.Chama (secretKey : String) :
    Tarefa → List (Answered Chamada Resposta) → Chamada → Prop
  | busca {t : Tarefa} {keyId : String} : Chama secretKey t [] (.getByKeyId keyId)
  | agora {t : Tarefa} {keyId : String} {linha : ProgrammaticServicePrincipal} :
      Chama secretKey t [⟨.getByKeyId keyId, .ok (some linha)⟩] .databaseNow
  | consome {rota : Rota} {header : Option String} {keyId : String}
      {linha : ProgrammaticServicePrincipal} {agora : Instant} :
      Chama secretKey (.pedido rota header) (leituras keyId linha agora) (rota.consumo linha)
  | confirma {rota : Rota} {header : Option String} {keyId : String}
      {linha : ProgrammaticServicePrincipal} {agora : Instant} {liberado : Bool} :
      Chama secretKey (.pedido rota header)
        (leituras keyId linha agora ++ [⟨rota.consumo linha, .ok liberado⟩]) .commit
  | insere {p : Provisionamento} {relogio : Instant} {past : List (Answered Chamada Resposta)}
      {canonicos : List String} (hscopes : canonicalScopes p.scopes = .ok canonicos) :
      Chama secretKey (.provisionamento p relogio) past
        (.insertPrincipal (p.linha secretKey canonicos))
  | provisiona {p : Provisionamento} {relogio : Instant}
      {past : List (Answered Chamada Resposta)} :
      Chama secretKey (.provisionamento p relogio) past .commit
  | revoga {keyId : String} {past : List (Answered Chamada Resposta)} {id : Uuid}
      {moment : Instant} : Chama secretKey (.revogacao keyId) past (.setRevoked id moment)
  | revogado {keyId : String} {past : List (Answered Chamada Resposta)} :
      Chama secretKey (.revogacao keyId) past .commit
  | desiste {t : Tarefa} {past : List (Answered Chamada Resposta)} :
      Chama secretKey t past .rollback

/-- How a request ends, with the calls that led there. -/
inductive Fim (bearer : HTTPBearer) (secretKey : String) (rota : Rota) (header : Option String) :
    List (Answered Chamada Resposta) → Except ApiError ProgrammaticPrincipal → Prop
  | recusado {log : List (Answered Chamada Resposta)}
      (hreads : ∀ e ∈ log, e.call.leitura = true) :
      Fim bearer secretKey rota header log (.error (.authentication publicAuthDetail))
  | incomparavel {keyId secret : String} {linha : ProgrammaticServicePrincipal} {agora : Instant}
      (hraises : ∀ igual,
        compareDigest (computeSecretDigest secretKey keyId secret) linha.secretDigest ≠ .ok igual) :
      Fim bearer secretKey rota header (leituras keyId linha agora) (.error .unhandled)
  | semEscopo {keyId secret : String} {linha : ProgrammaticServicePrincipal} {agora : Instant}
      (hauth : Autenticado bearer secretKey header keyId secret linha agora)
      (hscope : rota.scope ∉ linha.scopes) :
      Fim bearer secretKey rota header (leituras keyId linha agora)
        (.error (.insufficientScope publicScopeDetail))
  | semAutoridade {keyId secret : String} {linha : ProgrammaticServicePrincipal} {agora : Instant}
      {log : List (Answered Chamada Resposta)} {erro : ApiError}
      (hauth : Autenticado bearer secretKey header keyId secret linha agora)
      (herror : erro = .databaseUnavailable quotaAuthorityUnavailableDetail ∨ erro = .unhandled) :
      Fim bearer secretKey rota header (leituras keyId linha agora ++ log) (.error erro)
  | decidido {keyId secret : String} {linha : ProgrammaticServicePrincipal} {agora : Instant}
      {liberado : Bool} (hauth : Autenticado bearer secretKey header keyId secret linha agora)
      (hscope : rota.scope ∈ linha.scopes) :
      Fim bearer secretKey rota header
        (leituras keyId linha agora ++ [⟨rota.consumo linha, .ok liberado⟩, ⟨.commit, .ok ()⟩])
        (if liberado then .ok linha.toPrincipal else .error (.tooManyRequests quotaExceededDetail))

variable {bearer : HTTPBearer} {secretKey : String} {rota : Rota} {header : Option String}

/-- How the authentication of a request ends. -/
inductive Autentica (bearer : HTTPBearer) (secretKey : String) (header : Option String) :
    List (Answered Chamada Resposta) → Except ApiError ProgrammaticPrincipal → Prop
  | recusado {log : List (Answered Chamada Resposta)}
      (hreads : ∀ e ∈ log, e.call.leitura = true) :
      Autentica bearer secretKey header log (.error (.authentication publicAuthDetail))
  | incomparavel {keyId secret : String} {linha : ProgrammaticServicePrincipal} {agora : Instant}
      (hraises : ∀ igual,
        compareDigest (computeSecretDigest secretKey keyId secret) linha.secretDigest ≠ .ok igual) :
      Autentica bearer secretKey header (leituras keyId linha agora) (.error .unhandled)
  | aceito {keyId secret : String} {linha : ProgrammaticServicePrincipal} {agora : Instant}
      (hauth : Autenticado bearer secretKey header keyId secret linha agora) :
      Autentica bearer secretKey header (leituras keyId linha agora) (.ok linha.toPrincipal)

/-- Every refusal of a credential is the one that is published. -/
theorem parseBearerCredential_error {value : Option String} {e : ApiError}
    (h : parseBearerCredential value = .error e) : e = .authentication publicAuthDetail := by
  unfold parseBearerCredential at h
  cases value with
  | none => exact (Except.error.inj h).symm
  | some value =>
    simp only at h
    split at h
    · exact (Except.error.inj h).symm
    · split at h
      · exact (Except.error.inj h).symm
      · split at h
        · exact (Except.error.inj h).symm
        · cases h

theorem compareDigest_error {esperado digest : String} {e : ApiError}
    (h : compareDigest esperado digest = .error e) : e = .unhandled := by
  unfold compareDigest at h
  split at h
  · cases h
  · exact (Except.error.inj h).symm

theorem authenticate_obeys : (getProgrammaticPrincipal bearer secretKey header).Obeys
    ((Tarefa.pedido rota header).Chama secretKey) (Autentica bearer secretKey header) [] := by
  have hreads (keyId : String) (answer : Resposta (.getByKeyId keyId)) :
      ∀ e ∈ [(⟨.getByKeyId keyId, answer⟩ : Answered Chamada Resposta)], e.call.leitura = true := by
    intro e he
    rw [List.mem_singleton.mp he]
    rfl
  unfold getProgrammaticPrincipal authenticateProgrammaticPrincipal
  change Proc.Obeys _ _ _ ((Proc.done (parseBearerCredential (bearer.rebuilt header))).attempt _)
  cases hparsed : parseBearerCredential (bearer.rebuilt header) with
  | error e =>
    rw [parseBearerCredential_error hparsed]
    exact .done (.recusado (by simp))
  | ok credencial =>
    obtain ⟨keyId, secret⟩ := credencial
    refine .call .busca fun found => ?_
    cases found with
    | error failure => exact .done (.recusado (hreads keyId _))
    | ok found =>
      cases found with
      | none => exact .done (.recusado (hreads keyId _))
      | some linha =>
        refine .call .agora fun answer => ?_
        cases answer with
        | error failure =>
          refine .done (.recusado fun e he => ?_)
          rcases List.mem_append.mp he with hfirst | hlast
          · exact hreads keyId _ e hfirst
          · rw [List.mem_singleton.mp hlast]
            rfl
        | ok agora =>
          have hlog : [] ++ [(⟨.getByKeyId keyId, .ok (some linha)⟩ : Answered Chamada Resposta)] ++
            [⟨.databaseNow, .ok agora⟩] = leituras keyId linha agora := rfl
          have hall : ∀ e ∈ leituras keyId linha agora, e.call.leitura = true := by
            simp [leituras, Chamada.leitura]
          rw [hlog]
          refine .done ?_
          unfold verificar
          cases hcompare : compareDigest (computeSecretDigest secretKey keyId secret)
              linha.secretDigest with
          | error e =>
            have hraises : ∀ igual, compareDigest (computeSecretDigest secretKey keyId secret)
                linha.secretDigest ≠ .ok igual := by
              intro igual heq
              rw [hcompare] at heq
              cases heq
            rw [compareDigest_error hcompare]
            exact .incomparavel hraises
          | ok igual =>
            simp only [ok_bind]
            split
            case isTrue => exact .recusado hall
            case isFalse haccepted =>
              simp only [not_or, Bool.not_eq_false] at haccepted
              refine .aceito ⟨hparsed, ?_, haccepted.2⟩
              rw [hcompare, haccepted.1]

theorem cotaIndisponivel_obeys {keyId secret : String} {linha : ProgrammaticServicePrincipal}
    {agora : Instant} (hauth : Autenticado bearer secretKey header keyId secret linha agora)
    (log : List (Answered Chamada Resposta)) :
    cotaIndisponivel.Obeys ((Tarefa.pedido rota header).Chama secretKey)
      (Fim bearer secretKey rota header) (leituras keyId linha agora ++ log) := by
  refine .call .desiste fun answer => ?_
  rw [List.append_assoc]
  cases answer with
  | ok _ => exact .done (.semAutoridade hauth (.inl rfl))
  | error failure => exact .done (.semAutoridade hauth (.inr rfl))

/-- Authentication, scope, quota: what each call is, and what each end goes with. -/
theorem requireAccess_obeys : (requireAccess bearer secretKey rota header).Obeys
    ((Tarefa.pedido rota header).Chama secretKey) (Fim bearer secretKey rota header) [] := by
  unfold requireAccess
  refine authenticate_obeys.bind fun log result hresult => ?_
  cases hresult with
  | recusado hreads => exact .done (.recusado hreads)
  | incomparavel hraises => exact .done (.incomparavel hraises)
  | @aceito keyId secret linha agora hauth =>
    change Proc.Obeys _ _ _ ((Proc.done (requireScope linha.toPrincipal rota.scope)).attempt _)
    have hscope : linha.toPrincipal.hasScope rota.scope = decide (rota.scope ∈ linha.scopes) := by
      simp [ProgrammaticPrincipal.hasScope, ProgrammaticServicePrincipal.toPrincipal,
        normalizePersistedScopes]
    unfold requireScope
    rw [hscope]
    by_cases hgranted : rota.scope ∈ linha.scopes
    · rw [if_pos (decide_eq_true hgranted)]
      change Proc.Obeys _ _ _ (consumirCota linha.toPrincipal rota)
      unfold consumirCota
      split
      case isTrue =>
        have hnone := @cotaIndisponivel_obeys bearer secretKey rota header _ _ _ _ hauth []
        rwa [List.append_nil] at hnone
      case isFalse =>
        refine .call .consome fun answer => ?_
        cases answer with
        | error failure => exact cotaIndisponivel_obeys hauth _
        | ok liberado =>
          refine .call .confirma fun answer => ?_
          rw [List.append_assoc]
          cases answer with
          | error failure => exact .done (.semAutoridade hauth (.inr rfl))
          | ok _ => exact .done (.decidido hauth hgranted)
    · rw [if_neg (by simpa using hgranted)]
      exact .done (.semEscopo hauth hgranted)

/-! ## Every task -/

/-- What is said of the end of a task: all that matters is how requests end. -/
def Tarefa.Termina (bearer : HTTPBearer) (secretKey : String) :
    Tarefa → List (Answered Chamada Resposta) → Desfecho → Prop
  | .pedido rota header, log, desfecho =>
    ∃ r, desfecho = .acesso r ∧ Fim bearer secretKey rota header log r
  | _, _, _ => True

theorem desistir_obeys {α : Type} {t : Tarefa} {past : List (Answered Chamada Resposta)}
    (resultado : α) : (desistir resultado).Obeys (t.Chama secretKey) (fun _ _ => True) past :=
  .call .desiste fun _ => .done trivial

theorem createPrincipal_obeys (p : Provisionamento) (relogio : Instant) :
    (createPrincipal secretKey p relogio).Obeys
      ((Tarefa.provisionamento p relogio).Chama secretKey) (fun _ _ => True) [] := by
  unfold createPrincipal
  cases hscopes : canonicalScopes p.scopes with
  | error text => exact .done trivial
  | ok canonicos =>
    simp only
    split
    case isTrue => exact .done trivial
    case isFalse =>
      refine .call .busca fun found => ?_
      rcases found with failure | (- | linha)
      · exact desistir_obeys _
      · refine .call (.insere hscopes) fun answer => ?_
        cases answer with
        | error failure => exact desistir_obeys _
        | ok _ =>
          refine .call .provisiona fun answer => ?_
          cases answer with
          | error failure => exact desistir_obeys _
          | ok _ => exact .done trivial
      · exact desistir_obeys _

theorem revokePrincipal_obeys (keyId : String) :
    (revokePrincipal keyId).Obeys ((Tarefa.revogacao keyId).Chama secretKey)
      (fun _ _ => True) [] := by
  have hend (existe : Bool) (past : List (Answered Chamada Resposta))
      {k : Resposta Chamada.commit → Programa (Option Bool)} (hok : ∀ u, k (.ok u) = .done (some existe))
      (herror : ∀ failure, k (.error failure) = desistir none) :
      Proc.Obeys ((Tarefa.revogacao keyId).Chama secretKey) (fun _ _ => True) past
        (.call .commit k) := by
    refine .call .revogado fun answer => ?_
    cases answer with
    | error failure =>
      rw [herror]
      exact desistir_obeys _
    | ok u =>
      rw [hok]
      exact .done trivial
  unfold revokePrincipal
  simp only
  split
  case isTrue => exact .done trivial
  case isFalse =>
    refine .call .busca fun found => ?_
    rcases found with failure | (- | linha)
    · exact desistir_obeys _
    · exact hend false _ (fun _ => rfl) fun _ => rfl
    · simp only
      split
      case isTrue => exact hend true _ (fun _ => rfl) fun _ => rfl
      case isFalse =>
        refine .call .agora fun answer => ?_
        cases answer with
        | error failure => exact desistir_obeys _
        | ok agora =>
          refine .call .revoga fun answer => ?_
          cases answer with
          | error failure => exact desistir_obeys _
          | ok _ => exact hend true _ (fun _ => rfl) fun _ => rfl

/-- Each task makes its own calls, and a request ends as requests end. -/
theorem Tarefa.programa_obeys (t : Tarefa) : (t.programa bearer secretKey).Obeys
    (t.Chama secretKey) (t.Termina bearer secretKey) [] := by
  cases t with
  | pedido rota header =>
    exact requireAccess_obeys.bind fun log r hr => .done ⟨r, rfl, hr⟩
  | provisionamento p relogio =>
    exact (createPrincipal_obeys p relogio).bind fun _ _ _ => .done trivial
  | revogacao keyId => exact (revokePrincipal_obeys keyId).bind fun _ _ _ => .done trivial

end PiaOs.Access
