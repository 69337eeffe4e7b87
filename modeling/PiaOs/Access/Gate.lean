import PiaOs.Access.Database

/-!
# The access gate

A guarded request is authenticated, then its scope is required, then one unit of
quota is consumed, and only then does it pass. Next to the requests run the
provisioning and the revocation of principals.
-/

namespace PiaOs.Access

open Support

abbrev Programa (α : Type) : Type := Proc Chamada Resposta α

/-- The scheme that reads the header before the gate does: it takes the text before the
first space as the scheme and what follows, up to spaces around it, as the credentials. -/
structure HTTPBearer where
  call : Option String → Option (String × String)
  parts : ∀ header scheme credentials, call header = some (scheme, credentials) →
    ∃ value rest, header = some value ∧ value.toList = scheme.toList ++ ' ' :: rest ∧
      ' ' ∉ scheme.toList ∧ strip rest = strip credentials.toList

/-- The scheme as the framework reads it, for headers of the bearer scheme. -/
def HTTPBearer.partition : HTTPBearer where
  call header := header.bind fun value =>
    let scheme := value.toList.takeWhile (· ≠ ' ')
    let credentials := (value.toList.dropWhile (· ≠ ' ')).tail
    if scheme.map Char.toLower = "bearer".toList ∧ credentials ≠ [] then
      some (String.ofList scheme, String.ofList credentials)
    else none
  parts header scheme credentials h := by
    obtain ⟨value, hvalue, hcall⟩ := Option.bind_eq_some_iff.mp h
    simp only at hcall
    split at hcall
    case isFalse => cases hcall
    case isTrue hparts =>
      obtain ⟨rfl, rfl⟩ := Prod.mk.inj (Option.some.inj hcall)
      have hspace : ' ' ∈ value.toList := by
        by_contra hnone
        refine hparts.2 ?_
        have hdrop : value.toList.dropWhile (· ≠ ' ') = [] :=
          List.dropWhile_eq_nil_iff.mpr fun c hc => decide_eq_true fun heq => hnone (heq ▸ hc)
        rw [hdrop, List.tail_nil]
      refine ⟨value, (value.toList.dropWhile (· ≠ ' ')).tail, hvalue, ?_, ?_, ?_⟩
      · rw [String.toList_ofList, takeWhile_cons_tail hspace]
      · rw [String.toList_ofList]
        exact notMem_takeWhile ' ' value.toList
      · rw [String.toList_ofList]

/-- A family of guarded routes: its scope and the operation whose quota it consumes. -/
structure Rota where
  scope : String
  operation : String

/-- `require_predictive_evaluate_access`. -/
def rotaPreditiva : Rota := ⟨scopePredictiveEvaluate, operationPredictiveEvaluate⟩

/-- `require_orchestration_operate_access`. -/
def rotaOrquestracao : Rota := ⟨scopeOrchestrationOperate, operationOrchestrationApi⟩

def quotaExceededDetail : String := "cota do principal técnico esgotada para esta janela"

def quotaAuthorityUnavailableDetail : String :=
  "autoridade de cota indisponível; a chamada foi recusada sem avaliar"

/-- `_to_principal`. -/
def ProgrammaticServicePrincipal.toPrincipal (linha : ProgrammaticServicePrincipal) :
    ProgrammaticPrincipal where
  id := linha.id
  keyId := linha.keyId
  scopes := normalizePersistedScopes linha.scopes
  quotaLimit := linha.quotaLimit
  quotaWindowSeconds := linha.quotaWindowSeconds

/-- What the verifier decides once it has the row and the instant of the database. -/
def verificar (secretKey keyId secret : String) (linha : ProgrammaticServicePrincipal)
    (agora : Instant) : Except ApiError ProgrammaticPrincipal := do
  let igual ← compareDigest (computeSecretDigest secretKey keyId secret) linha.secretDigest
  if igual = false ∨ linha.isActiveAt agora = false then
    .error (.authentication publicAuthDetail)
  else .ok linha.toPrincipal

/-- `authenticate_programmatic_principal`. Any failure of the repository is the same
refusal. -/
def authenticateProgrammaticPrincipal (secretKey : String) (header : Option String) :
    Programa (Except ApiError ProgrammaticPrincipal) :=
  (Proc.done (parseBearerCredential header)).attempt fun (keyId, secret) =>
  .call (.getByKeyId keyId) fun
    | .ok (some linha) => .call .databaseNow fun
      | .ok agora => .done (verificar secretKey keyId secret linha agora)
      | .error _ => .done (.error (.authentication publicAuthDetail))
    | _ => .done (.error (.authentication publicAuthDetail))

/-- `get_programmatic_principal`: the header is put together again for the one grammar. -/
def getProgrammaticPrincipal (bearer : HTTPBearer) (secretKey : String)
    (header : Option String) : Programa (Except ApiError ProgrammaticPrincipal) :=
  authenticateProgrammaticPrincipal secretKey
    ((bearer.call header).map fun (scheme, credentials) => scheme ++ " " ++ credentials)

def requireScope (principal : ProgrammaticPrincipal) (scope : String) : Except ApiError Unit :=
  if principal.hasScope scope then .ok ()
  else .error (.insufficientScope publicScopeDetail)

/-- A failure of the authority of quota, after which the transaction is undone. -/
def cotaIndisponivel : Programa (Except ApiError ProgrammaticPrincipal) :=
  .call .rollback fun
    | .ok () => .done (.error (.databaseUnavailable quotaAuthorityUnavailableDetail))
    | .error _ => .done (.error .unhandled)

/-- The quota of the route, in a transaction that ends here. -/
def consumirCota (principal : ProgrammaticPrincipal) (rota : Rota) :
    Programa (Except ApiError ProgrammaticPrincipal) :=
  if principal.quotaLimit ≤ 0 ∨ principal.quotaWindowSeconds ≤ 0 then cotaIndisponivel
  else .call (.consumeQuota principal.id rota.operation principal.quotaLimit
      principal.quotaWindowSeconds) fun
    | .error _ => cotaIndisponivel
    | .ok liberado => .call .commit fun
      | .error _ => .done (.error .unhandled)
      | .ok () => .done (if liberado then .ok principal
        else .error (.tooManyRequests quotaExceededDetail))

/-- The dependency of a guarded route: authentication, scope and quota, in this order. -/
def requireAccess (bearer : HTTPBearer) (secretKey : String) (rota : Rota)
    (header : Option String) : Programa (Except ApiError ProgrammaticPrincipal) :=
  (getProgrammaticPrincipal bearer secretKey header).attempt fun principal =>
  (Proc.done (requireScope principal rota.scope)).attempt fun () =>
  consumirCota principal rota

/-! ## Provisioning -/

def maxQuotaLimit : Int := 1000000

def maxQuotaWindowSeconds : Int := 86400

/-- What the provisioning is told, with the key id, the secret and the id that it draws. -/
structure Provisionamento where
  id : Uuid
  keyId : String
  secret : String
  scopes : List String
  quotaLimit : Int
  quotaWindowSeconds : Int
  description : Option String := none
  expiresAt : Option Instant := none

/-- The row that stands for it. -/
def Provisionamento.linha (p : Provisionamento) (secretKey : String) (canonicos : List String) :
    ProgrammaticServicePrincipal where
  id := p.id
  keyId := p.keyId
  secretDigest := computeSecretDigest secretKey p.keyId p.secret
  scopes := canonicos
  quotaLimit := p.quotaLimit
  quotaWindowSeconds := p.quotaWindowSeconds
  description := p.description
  expiresAt := p.expiresAt

/-- `_validate`, and the test of the expiry. -/
def Provisionamento.validate (p : Provisionamento) (agora : Instant) : Bool :=
  0 < p.quotaLimit && p.quotaLimit ≤ maxQuotaLimit && 0 < p.quotaWindowSeconds &&
    p.quotaWindowSeconds ≤ maxQuotaWindowSeconds && p.expiresAt.all (agora < ·)

/-- The end of a session scope by an exception. -/
def desistir {α : Type} (resultado : α) : Programa α := .call .rollback fun _ => .done resultado

/-- `create_principal`: the key id and the complete token, shown once. -/
def createPrincipal (secretKey : String) (p : Provisionamento) (relogio : Instant) :
    Programa (Option (String × String)) :=
  match canonicalScopes p.scopes with
  | .error _ => .done none
  | .ok canonicos =>
    if p.validate relogio = false then .done none
    else .call (.getByKeyId p.keyId) fun
      | .ok none => .call (.insertPrincipal (p.linha secretKey canonicos)) fun
        | .ok () => .call .commit fun
          | .ok () => .done (some (p.keyId,
              String.ofList tokenPrefix ++ p.keyId ++ "." ++ p.secret))
          | .error _ => desistir none
        | .error _ => desistir none
      | _ => desistir none

/-- `revoke_principal`: whether there is such a principal. -/
def revokePrincipal (keyId : String) : Programa (Option Bool) :=
  let key := String.ofList (strip keyId.toList)
  let fim (existe : Bool) : Programa (Option Bool) := .call .commit fun
    | .ok () => .done (some existe)
    | .error _ => desistir none
  if key = "" then .done none
  else .call (.getByKeyId key) fun
    | .error _ => desistir none
    | .ok none => fim false
    | .ok (some linha) =>
      if linha.revokedAt ≠ none then fim true
      else .call .databaseNow fun
        | .error _ => desistir none
        | .ok agora => .call (.setRevoked linha.id agora) fun
          | .error _ => desistir none
          | .ok () => fim true

/-! ## What runs -/

inductive Tarefa
  | pedido (rota : Rota) (header : Option String)
  | provisionamento (p : Provisionamento) (relogio : Instant)
  | revogacao (keyId : String)

inductive Desfecho
  | acesso (resultado : Except ApiError ProgrammaticPrincipal)
  | provisionado (resultado : Option (String × String))
  | revogado (resultado : Option Bool)

def Tarefa.programa (bearer : HTTPBearer) (secretKey : String) : Tarefa → Programa Desfecho
  | .pedido rota header =>
    (requireAccess bearer secretKey rota header).bind fun r => .done (.acesso r)
  | .provisionamento p relogio =>
    (createPrincipal secretKey p relogio).bind fun r => .done (.provisionado r)
  | .revogacao keyId => (revokePrincipal keyId).bind fun r => .done (.revogado r)

end PiaOs.Access
