import Mathlib.Data.List.Infix
import PiaOs.Mcp.AuthLaws

/-!
# The token verifier and the tools behind it

The adapter between the authenticator and the SDK, and the body of a tool, which reads
its principal from the access token of the request.
-/

namespace PiaOs.Mcp

open Support

/-- The SDK's access token with the principal already resolved. -/
structure PiaAccessToken where
  token : String
  scopes : List String
  principalRef : String := ""
  quotaExhausted : Bool := false

/-- What the SDK may hold for a request: its own access token, or one of the verifier. -/
inductive AccessToken
  | sdk (token : String) (scopes : List String)
  | pia (access : PiaAccessToken)

/-- `_insuficiente`: an exhausted quota carries no scope, and a subject without a
principal is no token. -/
def insuficiente (token motivo : String) (escoposDoToken : Option (List String)) :
    Option PiaAccessToken :=
  let cotaEsgotada : Bool := "cota".toList <:+: motivo.toLower.toList
  match escoposDoToken with
  | none =>
    if cotaEsgotada then some { token, scopes := [], quotaExhausted := true } else none
  | some lidos =>
    some { token, scopes := Access.sortedSet lidos, quotaExhausted := cotaEsgotada }

section Runtime

variable {Chave : Type}

/-- The header in which the SDK hands its token on. -/
def bearer (token : String) : List (String × String) := [(header, prefixo ++ token)]

/-- `verify_token`. -/
def verifyToken (rs : ResourceServerAuthenticator Chave) (token : String) (relogios : Relogios) :
    Option PiaAccessToken :=
  match (rs.autenticar (bearer token) [] none relogios).1 with
  | .ok principal =>
    some {
      token
      scopes := Access.sortedSet principal.scopes
      principalRef := principal.principalRef }
  | .error (.recusa (.erroDeAutorizacao motivo escoposDoToken)) =>
    insuficiente token motivo escoposDoToken
  | .error _ => none

/-- `_principal_da_requisicao`. -/
def principalDaRequisicao : Option AccessToken → Except Excecao PrincipalAutenticado
  | none => .error (.permissionError "requisição sem contexto de autenticação")
  | some (.pia access) =>
    if access.principalRef = "" then
      .error (.permissionError "principal não resolvido para a credencial apresentada")
    else PrincipalAutenticado.criar access.principalRef access.scopes access.principalRef
  | some (.sdk _ _) =>
    .error (.permissionError "principal não resolvido para a credencial apresentada")

/-- `_executar`: the tool is called once the principal is read. -/
def executar {Argumentos Saida : Type}
    (chamar : String → Argumentos → PrincipalAutenticado → Saida) (nome : String)
    (contexto : Option AccessToken) (argumentos : Argumentos) : Except Excecao Saida :=
  (principalDaRequisicao contexto).map (chamar nome argumentos)

/-- The context of a request, which the SDK fills with what the verifier returned for its
token, if with anything. -/
structure Contexto (rs : ResourceServerAuthenticator Chave) (token : String)
    (relogios : Relogios) where
  atual : Option AccessToken
  doVerificador : ∀ access, atual = some access →
    ∃ pia, verifyToken rs token relogios = some pia ∧ access = .pia pia

variable {rs : ResourceServerAuthenticator Chave} {token : String} {relogios : Relogios}

/-- A token that is valid and insufficient carries no principal. -/
theorem insuficiente_principalRef {motivo : String} {escoposDoToken : Option (List String)}
    {pia : PiaAccessToken} (h : insuficiente token motivo escoposDoToken = some pia) :
    pia.principalRef = "" := by
  unfold insuficiente at h
  cases escoposDoToken with
  | none =>
    simp only at h
    split at h
    · have hpia := Option.some.inj h
      rw [← hpia]
    · cases h
  | some lidos =>
    have hpia := Option.some.inj h
    rw [← hpia]

/-- A token with a principal comes from an authentication that returned it. -/
theorem autenticar_of_verifyToken {pia : PiaAccessToken}
    (h : verifyToken rs token relogios = some pia) (href : pia.principalRef ≠ "") :
    ∃ p, rs.autenticar (bearer token) [] none relogios = (.ok p, [p.principalRef]) ∧
      pia.principalRef = p.principalRef ∧ pia.scopes = Access.sortedSet p.scopes := by
  unfold verifyToken at h
  split at h
  · next p hp =>
    have hpair : rs.autenticar (bearer token) [] (some relogios.now) relogios =
        (.ok p, (rs.autenticar (bearer token) [] (some relogios.now) relogios).2) := by
      rw [← hp]
      rfl
    obtain ⟨-, -, -, -, -, htaken⟩ := conferir_of_autenticar hpair
    have hpia := Option.some.inj h
    rw [← hpia]
    refine ⟨p, ?_, rfl, rfl⟩
    rw [← htaken, ← hp]
    rfl
  · exact absurd (insuficiente_principalRef h) href
  · cases h

/-- A tool whose body runs has read a principal that an authentication of the token of
the request returned, with its scopes. -/
theorem autenticar_of_executar {Argumentos Saida : Type} (contexto : Contexto rs token relogios)
    {chamar : String → Argumentos → PrincipalAutenticado → Saida} {nome : String}
    {argumentos : Argumentos} {saida : Saida}
    (h : executar chamar nome contexto.atual argumentos = .ok saida) :
    ∃ p lido, rs.autenticar (bearer token) [] none relogios = (.ok p, [p.principalRef]) ∧
      saida = chamar nome argumentos lido ∧ lido.principalRef = p.principalRef ∧
      ∀ escopo, escopo ∈ lido.scopes ↔ escopo ∈ p.scopes := by
  unfold executar at h
  cases hatual : contexto.atual with
  | none =>
    rw [hatual] at h
    cases h
  | some access =>
    obtain ⟨pia, hverify, rfl⟩ := contexto.doVerificador access hatual
    rw [hatual] at h
    unfold principalDaRequisicao at h
    simp only at h
    by_cases hempty : pia.principalRef = ""
    · rw [if_pos hempty] at h
      cases h
    · rw [if_neg hempty] at h
      obtain ⟨p, hp, href, hscopes⟩ := autenticar_of_verifyToken hverify hempty
      unfold PrincipalAutenticado.criar at h
      split at h
      · next hstated =>
        refine ⟨p, ⟨pia.principalRef, pia.scopes, pia.principalRef, hstated⟩, hp, ?_, href, ?_⟩
        · exact (Except.ok.inj h).symm
        · intro escopo
          rw [hscopes, Access.mem_sortedSet]
      · cases h

end Runtime

/-! ## The gate -/

/-- The promise of the gate for one request at an injected instant: what it admits and
refuses, at every reading of the other clocks, and that these make no difference. -/
structure Porta {Chave : Type} (rs : ResourceServerAuthenticator Chave)
    (headers query : List (String × String)) (moment : Momento) : Prop where
  promessa : ∀ relogios, Promessa rs headers query moment relogios
  relogio : ∀ relogios relogios', rs.autenticar headers query (some moment) relogios =
    rs.autenticar headers query (some moment) relogios'

/-- When the gate keeps its promise, as a whole and in each part. -/
structure ResourceServerLaws {Chave : Type} (rs : ResourceServerAuthenticator Chave) : Prop where
  porta : ∀ headers query moment, Porta rs headers query moment ↔
    (∀ relogio, SemDefeito rs headers query moment relogio) ∧
      ¬LeORelogio rs headers query moment
  promessa : ∀ headers query moment relogios, Promessa rs headers query moment relogios ↔
    SemDefeito rs headers query moment relogios.jwt
  relogio : ∀ headers query moment,
    (∀ relogios relogios', rs.autenticar headers query (some moment) relogios =
      rs.autenticar headers query (some moment) relogios') ↔
      ¬LeORelogio rs headers query moment
  ferramenta : ∀ {Argumentos Saida : Type} (token : String) (relogios : Relogios)
    (contexto : Contexto rs token relogios)
    (chamar : String → Argumentos → PrincipalAutenticado → Saida) (nome : String)
    (argumentos : Argumentos) (saida : Saida),
    executar chamar nome contexto.atual argumentos = .ok saida →
      ∃ p lido, rs.autenticar (bearer token) [] none relogios = (.ok p, [p.principalRef]) ∧
        saida = chamar nome argumentos lido ∧ lido.principalRef = p.principalRef ∧
        ∀ escopo, escopo ∈ lido.scopes ↔ escopo ∈ p.scopes

theorem resource_server_laws {Chave : Type} (rs : ResourceServerAuthenticator Chave) :
    ResourceServerLaws rs where
  porta := by
    intro headers query moment
    constructor
    · intro h
      refine ⟨fun relogio => ?_, relogio_iff.mp h.relogio⟩
      exact promessa_iff.mp (h.promessa ⟨moment, relogio⟩)
    · rintro ⟨hclear, hclock⟩
      exact ⟨fun relogios => promessa_iff.mpr (hclear relogios.jwt), relogio_iff.mpr hclock⟩
  promessa := fun _ _ _ _ => promessa_iff
  relogio := fun _ _ _ => relogio_iff
  ferramenta := fun _ _ contexto _ _ _ _ h => autenticar_of_executar contexto h

/-! ## A token of which the answer changes with the second clock -/

/-- The claims of a token that is in order at second 1500. -/
def reivindicacoesDeExemplo : Dicionario :=
  [("iss", .str "https://idp"), ("aud", .str "https://pia"), ("sub", .str "s"),
    ("exp", .int 2000), ("iat", .int 1000), ("scope", .str escopoExigido)]

/-- A library that knows one key and two tokens: one in order, and one whose header names
an array as its algorithm. -/
def jwtDeExemplo : Jwt Unit where
  getUnverifiedHeader token :=
    if token = "a.b.c" then .ok (.obj [("alg", .str "RS256"), ("kid", .str "k")])
    else .ok (.obj [("alg", .arr []), ("kid", .str "k")])
  Assinado _ _ claims := claims = .obj reivindicacoesDeExemplo
  verificado _ _ _ _ _ _ := .ok (.obj reivindicacoesDeExemplo)
  instante nome
    | .obj fields =>
      match Dicionario.get fields nome with
      | .int n => .ok (some n)
      | _ => .ok none
    | _ => .ok none
  assinado h := (Except.ok.inj h).symm

def servidorDeExemplo : ResourceServerAuthenticator Unit where
  config := ⟨"https://idp", "https://pia", "https://pia/mcp", by decide, by decide, by decide⟩
  jwks kid _ := if kid = "k" then .ok () else .error "desconhecido"
  resolver subject := if subject = "s" then some "p" else none
  quota _ _ := true
  jwt := jwtDeExemplo

def instanteDeExemplo : Momento := ⟨true, 1500, by norm_num⟩

/-- At one injected instant the token is admitted when the library's clock shows 1000, and
refused when it shows 999. A header that names an array as its algorithm ends in a
`TypeError`. -/
theorem porta_quebra :
    ¬Porta servidorDeExemplo (bearer "a.b.c") [] instanteDeExemplo ∧
      ¬Porta servidorDeExemplo (bearer "x") [] instanteDeExemplo := by
  have hclock : LeORelogio servidorDeExemplo (bearer "a.b.c") [] instanteDeExemplo := by
    refine ⟨⟨"a.b.c", "RS256", ()⟩, .obj reivindicacoesDeExemplo, 1000, ?_, rfl, ?_⟩
    · exact ⟨by decide, ⟨"Bearer a.b.c", "a.b.c".toList, by decide +kernel, by decide, by decide⟩,
        by decide, rfl, by decide, _, "k", rfl, rfl, rfl, by decide, rfl⟩
    · rfl
  have halg : AlgSemHash servidorDeExemplo (bearer "x") [] instanteDeExemplo :=
    ⟨rfl, "x", [("alg", .arr []), ("kid", .str "k")], by decide +kernel, rfl, rfl⟩
  constructor
  · intro h
    exact relogio_iff.mp h.relogio hclock
  · intro h
    obtain ⟨ref, sub, credencial, claims, hchega, -⟩ | ⟨hclear, -⟩ :=
      promessa_iff.mp (h.promessa ⟨instanteDeExemplo, 0⟩)
    · obtain ⟨falha, herror, -⟩ := ResourceServerAuthenticator.escapa_apresentar.mpr halg
      have hok := ResourceServerAuthenticator.apresentar_eq_ok.mpr hchega.apresenta
      rw [herror] at hok
      cases hok
    · exact hclear halg

end PiaOs.Mcp
