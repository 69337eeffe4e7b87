import PiaOs.Piap.Authority
import PiaOs.Transactions.Savepoints

/-!
# Connection profiles

The rows of `connection_profiles` with what the table refuses, and the get-or-create of the
manual profile of a principal: two readings with a lock between them, an insertion under a
savepoint and, when the index refuses it, a reading of the winner.
-/

namespace PiaOs.Connections.Kernel

open Support Transactions.Savepoints

/-! ## Vocabularies -/

inductive ConnectionMethod
  | manualHandoff
  | providerNativeMcpInbound
  | directProviderApi
  | providerNativeAgentBridge
  | enterpriseGatewayOrBroker
  | localModelAdapter
  | browserAssistedHandoff
  | watchedInboxOutbox
  deriving DecidableEq

inductive ConnectionState
  | declared
  | preflightRequired
  | implementedPendingAudit
  | available
  | degraded
  | revoked
  | unsupported
  deriving DecidableEq

/-- `TERMINAL_CONNECTION_STATES`. -/
def ConnectionState.terminal : ConnectionState → Bool
  | .revoked | .unsupported => true
  | _ => false

/-- `BASELINE_METHOD_STATE`. -/
def baselineMethodState : ConnectionMethod → ConnectionState
  | .manualHandoff => .available
  | .providerNativeMcpInbound => .preflightRequired
  | _ => .declared

def manualMethod : ConnectionMethod := .manualHandoff

def manualState : ConnectionState := baselineMethodState .manualHandoff

/-! ## Rows -/

structure ConnectionProfile where
  id : Piap.Referencia
  controlPrincipalRef : String
  method : ConnectionMethod
  endpointRef : Option String
  accessProviderId : Option Piap.Referencia
  state : ConnectionState
  credentialRef : Option String
  displayName : Option String
  deriving DecidableEq

/-- A manual profile that is not terminal. -/
def ConnectionProfile.manualAtivo (l : ConnectionProfile) : Bool :=
  l.method = manualMethod && !l.state.terminal

/-- What the driver or the table says of a row that it does not take. Only a constraint is an
`IntegrityError`. -/
inductive ErroDoBanco
  | caractereNulo (coluna : String)
  | textoLongo (coluna : String)
  | restricao (nome : String)
  deriving DecidableEq

def maxRefLength : ℕ := 255

def maxEndpointRefLength : ℕ := 512

def recusar (c : Bool) (e : ErroDoBanco) : Option ErroDoBanco := if c then some e else none

/-- A `varchar(n)`: no null character, and at most `n` characters. -/
def recusaDoTexto (coluna : String) (n : ℕ) (t : String) : Option ErroDoBanco :=
  (recusar (t.toList.contains '\x00') (.caractereNulo coluna)).or
    (recusar (n < t.length) (.textoLongo coluna))

/-- `length(btrim(t)) > 0`. -/
def preenchido (t : String) : Bool := t.toList.any (· ≠ ' ')

/-- What the driver and the columns refuse, and then the checks of the table. -/
def ConnectionProfile.recusa (l : ConnectionProfile) : Option ErroDoBanco :=
  [recusaDoTexto "control_principal_ref" maxRefLength l.controlPrincipalRef,
    l.endpointRef.bind (recusaDoTexto "endpoint_ref" maxEndpointRefLength),
    l.credentialRef.bind (recusaDoTexto "credential_ref" maxRefLength),
    l.displayName.bind (recusaDoTexto "display_name" maxRefLength),
    recusar (!preenchido l.controlPrincipalRef)
      (.restricao "ck_connection_profiles_principal_not_blank"),
    recusar (l.method = .manualHandoff && l.endpointRef.isSome)
      (.restricao "ck_connection_profiles_manual_has_no_endpoint"),
    recusar (l.state = .available && l.method ≠ .manualHandoff)
      (.restricao "ck_connection_profiles_available_method")].findSome? fun recusa => recusa

/-- The unique keys of the table: the primary key, the singleton of the manual method and the
triple, which does not see absent endpoints. -/
inductive Chave
  | id (id : Piap.Referencia)
  | manual (controlPrincipalRef : String)
  | trinca (controlPrincipalRef : String) (method : ConnectionMethod) (endpointRef : String)
  deriving DecidableEq

def ConnectionProfile.chaves (l : ConnectionProfile) : List Chave :=
  .id l.id :: ((if l.manualAtivo then [.manual l.controlPrincipalRef] else []) ++
    match l.endpointRef with
    | some endpoint =>
      if l.state.terminal then [] else [.trinca l.controlPrincipalRef l.method endpoint]
    | none => [])

theorem ConnectionProfile.chaves_nodup (l : ConnectionProfile) : l.chaves.Nodup := by
  unfold ConnectionProfile.chaves
  cases l.endpointRef with
  | none => by_cases hmanual : l.manualAtivo = true <;> simp [hmanual]
  | some endpoint =>
    by_cases hmanual : l.manualAtivo = true <;> by_cases hterminal : l.state.terminal = true <;>
      simp [hmanual, hterminal]

/-- A write of a transaction: a row of the table, or a write of its caller elsewhere. -/
inductive Escrita (τ : Type)
  | perfil (l : ConnectionProfile)
  | outra (w : τ)
  deriving DecidableEq

def Escrita.perfil? {τ : Type} : Escrita τ → Option ConnectionProfile
  | .perfil l => some l
  | .outra _ => none

/-- The table beside the other tables of the database. Callers write other profiles by
themselves, but no manual one that is not terminal. -/
def banco {τ χ ε : Type} (outras : Engine τ χ ε) :
    Engine (Escrita τ) (Chave ⊕ χ) (ErroDoBanco ⊕ ε) where
  keys
    | .perfil l => l.chaves.map .inl
    | .outra w => (outras.keys w).map .inr
  keys_nodup
    | .perfil l => l.chaves_nodup.map Sum.inl_injective
    | .outra w => (outras.keys_nodup w).map Sum.inr_injective
  refuses
    | .perfil l => l.recusa.map .inl
    | .outra w => (outras.refuses w).map .inr
  direct
    | .perfil l => !l.manualAtivo
    | .outra _ => true

/-! ## The service -/

structure ConnectionProfileView where
  connectionId : Piap.Referencia
  method : ConnectionMethod
  state : ConnectionState
  endpointRef : Option String
  accessProviderSlug : Option String
  displayName : Option String
  deriving DecidableEq

structure ManualProfileOutcome where
  profile : ConnectionProfileView
  created : Bool
  deriving DecidableEq

inductive Erro
  | connectionContractViolation (message : String) (detail : List (String × String))
  | integrityError
  | banco (e : ErroDoBanco)
  | transacaoFalhou
  | multipleResultsFound
  | valueError (message : String)
  deriving DecidableEq

/-- `ConnectionProfileView.__post_init__`. -/
def ConnectionProfileView.postInit (v : ConnectionProfileView) : Except Erro ConnectionProfileView :=
  if v.method = .manualHandoff ∧ v.endpointRef.isSome then
    .error (.valueError "perfil manual não tem endpoint; endpoint_ref precisa ser None")
  else if v.method = .manualHandoff ∧ v.accessProviderSlug.isSome then
    .error (.valueError "perfil manual não tem operador de acesso")
  else if v.state = .available ∧ v.method ≠ .manualHandoff then
    .error (.valueError
      "ENUM_OR_REGISTRY != AVAILABLE: só manual_handoff está disponível nesta entrega")
  else .ok v

/-- `_projetar`. -/
def projetar (perfil : ConnectionProfile) (accessProviderSlug : Option String) :
    Except Erro ConnectionProfileView :=
  ConnectionProfileView.postInit {
    connectionId := perfil.id
    method := perfil.method
    state := perfil.state
    endpointRef := perfil.endpointRef
    accessProviderSlug
    displayName := perfil.displayName }

section Service

variable {τ χ ε : Type}

/-- The profiles that a session sees. -/
def perfis (visto : List (Escrita τ)) : List ConnectionProfile := visto.filterMap Escrita.perfil?

/-- The rows that `get_manual_profile` selects. -/
def manuais (visto : List (Escrita τ)) (controlPrincipalRef : String) : List ConnectionProfile :=
  (perfis visto).filter fun l => l.controlPrincipalRef = controlPrincipalRef && l.manualAtivo

/-- `.one_or_none()`. -/
def oneOrNone : List ConnectionProfile → Except Erro (Option ConnectionProfile)
  | [] => .ok none
  | [l] => .ok (some l)
  | _ :: _ :: _ => .error .multipleResultsFound

/-- The program of a call. -/
abbrev Programa (τ χ ε : Type) : Type :=
  Prog (Escrita τ) (Chave ⊕ χ) (ErroDoBanco ⊕ ε) (Except Erro ManualProfileOutcome)

/-- `get_manual_profile`. The driver does not send a null character. -/
def getManualProfile (controlPrincipalRef : String)
    (k : Option ConnectionProfile → Programa τ χ ε) : Programa τ χ ε :=
  if controlPrincipalRef.toList.contains '\x00' then
    .pure (.error (.banco (.caractereNulo "control_principal_ref")))
  else .select fun
    | none => .pure (.error .transacaoFalhou)
    | some visto =>
      match oneOrNone (manuais visto controlPrincipalRef) with
      | .error e => .pure (.error e)
      | .ok perfil => k perfil

/-- `acquire_manual_profile_lock`. Where there is a lock, waiting for it only takes
interleavings away. -/
def acquireManualProfileLock (k : Programa τ χ ε) : Programa τ χ ε := .draw fun _ => k

/-- What is returned for a profile that was there. -/
def recuperado (perfil : ConnectionProfile) : Except Erro ManualProfileOutcome := do
  let profile ← projetar perfil none
  return { profile, created := false }

/-- The row that `create_profile` inserts, under a drawn identifier. -/
def createProfile (n : ℕ) (controlPrincipalRef : String) (method : ConnectionMethod)
    (state : ConnectionState) (endpointRef : Option String)
    (accessProviderId : Option Piap.Referencia) (displayName credentialRef : Option String) :
    ConnectionProfile where
  id := Fin.ofNat (2 ^ 128) n
  controlPrincipalRef
  method
  endpointRef
  accessProviderId
  state
  credentialRef
  displayName

def perfilManual (n : ℕ) (controlPrincipalRef : String) : ConnectionProfile :=
  createProfile n controlPrincipalRef manualMethod manualState none none none none

/-- After an `IntegrityError` and the return to the savepoint: the winner. -/
def lerVencedor (controlPrincipalRef : String) : Programa τ χ ε :=
  getManualProfile controlPrincipalRef fun
    | none => .pure (.error .integrityError)
    | some vencedor => .pure (recuperado vencedor)

/-- The answer of the database to the insertion, under the savepoint. -/
def responder (criado : ConnectionProfile) :
    Reply (Chave ⊕ χ) (ErroDoBanco ⊕ ε) → Programa τ χ ε
  | .written =>
    match projetar criado none with
    | .error e => .rollback (.pure (.error e))
    | .ok profile => .release (.pure (.ok { profile, created := true }))
  | .duplicate _ | .refused (.inl (.restricao _)) =>
    .rollback (lerVencedor criado.controlPrincipalRef)
  | .refused (.inl e) => .rollback (.pure (.error (.banco e)))
  | .refused (.inr _) | .nothing | .failed => .rollback (.pure (.error .transacaoFalhou))

/-- The insertion under a savepoint. -/
def criarPerfilManual (controlPrincipalRef : String) : Programa τ χ ε :=
  .savepoint fun
    | false => .pure (.error .transacaoFalhou)
    | true => .draw fun n =>
      let criado := perfilManual n controlPrincipalRef
      .insert (.perfil criado) none (responder criado)

/-- `ensure_manual_profile`. -/
def ensureManualProfile (controlPrincipalRef : String) : Programa τ χ ε :=
  if blank controlPrincipalRef then
    .pure (.error (.connectionContractViolation "control_principal_ref não pode ser vazio"
      [("control_principal_ref", controlPrincipalRef)]))
  else getManualProfile controlPrincipalRef fun
    | some existente => .pure (recuperado existente)
    | none => acquireManualProfileLock (getManualProfile controlPrincipalRef fun
      | some existente => .pure (recuperado existente)
      | none => criarPerfilManual controlPrincipalRef)

end Service

end PiaOs.Connections.Kernel
