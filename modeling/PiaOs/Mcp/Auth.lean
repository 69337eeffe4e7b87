import PiaOs.Access.Principal
import PiaOs.Support.Doubles

/-!
# The OAuth resource server of the MCP boundary

From the headers of a request to a principal, or a refusal: the checks of the token
in the order in which they run, the JWT library and the three ports around them.
-/

/-! ## Claims of a token

JSON values as Python holds them: the reader also accepts `NaN` and the infinities as
numbers, and integers of any size. A boolean is an `int` to `isinstance`. -/

namespace PiaOs.Mcp

open Support

/-- A value that the JSON reader builds. -/
inductive Valor
  | null
  | bool (b : Bool)
  | int (n : ℤ)
  | float (x : Double)
  | str (s : String)
  | arr (items : List Valor)
  | obj (fields : List (String × Valor))

/-- A `dict` of a header or of claims. -/
abbrev Dicionario : Type := List (String × Valor)

/-- `d.get(nome)`: `None` also when the key is missing. -/
def Dicionario.get (d : Dicionario) (nome : String) : Valor := (d.lookup nome).getD .null

namespace Valor

/-- `valor is None`. -/
def ausente : Valor → Bool
  | null => true
  | _ => false

/-- `bool(valor)`. -/
def verdadeiro : Valor → Bool
  | null => false
  | bool b => b
  | int n => n ≠ 0
  | float x => x ≠ .finite 0
  | str s => s ≠ ""
  | arr items => !items.isEmpty
  | obj fields => !fields.isEmpty

/-- `hash(valor)` returns. -/
def hasheavel : Valor → Bool
  | arr _ | obj _ => false
  | _ => true

/-- The text that a value is. -/
def texto? : Valor → Option String
  | str s => some s
  | _ => none

@[simp] theorem texto?_eq_some {v : Valor} {s : String} : v.texto? = some s ↔ v = .str s := by
  cases v <;> simp [texto?]

/-- What `isinstance(valor, int | float)` and then `float(valor)` make of a value. -/
inductive Leitura
  | naoNumero
  | enorme
  | numero (x : Double)

def leitura : Valor → Leitura
  | bool b => .numero (.finite (if b then 1 else 0))
  | int n =>
    match Double.ofInt n with
    | some q => .numero (.finite q)
    | none => .enorme
  | float x => .numero x
  | _ => .naoNumero

/-- Nothing is read as a number where there is nothing. -/
theorem leitura_of_ausente {v : Valor} (h : v.ausente = true) : v.leitura = .naoNumero := by
  cases v with
  | null => rfl
  | bool | int | float | str | arr | obj => cases h

/-- A JSON number strictly after the instant. -/
def Depois (t : ℚ) : Valor → Prop
  | int n => t < n
  | float x => x.isAfter t = true
  | _ => False

/-- Absent, or a JSON number that the instant has reached. -/
def AusenteOuAlcancado (t : ℚ) : Valor → Prop
  | null => True
  | int n => (n : ℚ) ≤ t
  | float x => x.isReached t = true
  | _ => False

/-- A number to the code and to JSON. A boolean is one to the code only, and the
value that is no number passes every comparison that refuses. -/
def numeroJson : Valor → Bool
  | int _ => true
  | float x => x ≠ .nan
  | _ => false

end Valor

/-! ## The OAuth resource server of the MCP boundary -/

def algoritmosAceitos : List String := ["RS256", "ES256"]

def escopoExigido : String := "orchestration:operate"

def cota : String := "orchestration_api"

def header : String := "Authorization"

def prefixo : String := "Bearer "

def tokenRedacted : String := "[REDACTED_BEARER]"

/-- The typed errors of the boundary: 401, 403 and 400. -/
inductive Recusa
  | erroDeAutenticacao (motivo : String)
  | erroDeAutorizacao (motivo : String) (escoposDoToken : Option (List String))
  | erroDeTransporte (motivo : String)
  deriving DecidableEq

/-- What the authenticator raises: a typed error, or an exception of Python that the
code does not catch. -/
inductive Excecao
  | recusa (r : Recusa)
  | typeError
  | overflowError
  | valueError (texto : String)
  | permissionError (texto : String)
  deriving DecidableEq

def Excecao.autenticacao (motivo : String) : Excecao := .recusa (.erroDeAutenticacao motivo)

/-- The configuration names its issuer and its audience. -/
structure ResourceServerConfig where
  issuer : String
  audience : String
  resourceUrl : String
  issuer_stated : blank issuer = false
  audience_stated : blank audience = false
  resourceUrl_stated : blank resourceUrl = false

/-- What is left of the token once it is validated. -/
structure PrincipalAutenticado where
  principalRef : String
  scopes : List String
  subject : String
  stated : blank principalRef = false

/-- The constructor refuses a blank reference. -/
def PrincipalAutenticado.criar (principalRef : String) (scopes : List String) (subject : String) :
    Except Excecao PrincipalAutenticado :=
  if h : blank principalRef = false then .ok ⟨principalRef, scopes, subject, h⟩
  else .error (.valueError "principal_ref é obrigatório")

/-- An instant: whether it has a zone, and its `timestamp()`. The calendar ends with the
year 9999, so that the double of every instant is exact to the second. -/
structure Momento where
  tzinfo : Bool := true
  timestamp : ℚ
  limite : |timestamp| < 2 ^ 53

/-- The clocks that a call may read: that of the process and that of the library. -/
structure Relogios where
  now : Momento
  jwt : ℚ

/-- The options of `jwt.decode`. A check of the library is made unless it is disabled. -/
structure Opcoes where
  require : List String
  verifyExp : Bool := true
  verifyNbf : Bool := true
  verifyIat : Bool := true

/-- The JWT library. `verificado` gives the claims that are signed under the key and pass
the checks that read no clock; `instante` is the integer that the library reads in a
claim, and nothing when the claim is missing. -/
structure Jwt (Chave : Type) where
  getUnverifiedHeader : String → Except String Valor
  Assinado : String → Chave → Valor → Prop
  verificado : String → Chave → List String → String → String → List String → Except String Valor
  instante : String → Valor → Except String (Option ℤ)
  assinado : ∀ {token chave algorithms audience issuer require claims},
    verificado token chave algorithms audience issuer require = .ok claims →
      Assinado token chave claims

/-- A check of the library against its clock. -/
def conferido (ativa : Bool) (lido : Except String (Option ℤ)) (recusa : ℤ → Bool)
    (texto : String) : Except String Unit :=
  if ativa then
    match lido with
    | .error falha => .error falha
    | .ok none => .ok ()
    | .ok (some n) => if recusa n then .error texto else .ok ()
  else .ok ()

def textoIat : String := "The token is not yet valid (iat)"

/-- `jwt.decode`: the checks of `iat`, `nbf` and `exp` read the clock of the library. -/
def Jwt.decode {Chave : Type} (jwt : Jwt Chave) (token : String) (chave : Chave)
    (algorithms : List String) (audience issuer : String) (options : Opcoes) (relogio : ℚ) :
    Except String Valor := do
  let claims ← jwt.verificado token chave algorithms audience issuer options.require
  conferido options.verifyIat (jwt.instante "iat" claims) (fun n => decide (relogio < n)) textoIat
  conferido options.verifyNbf (jwt.instante "nbf" claims) (fun n => decide (relogio < n))
    "The token is not yet valid (nbf)"
  conferido options.verifyExp (jwt.instante "exp" claims) (fun n => decide (n ≤ relogio))
    "Signature has expired"
  return claims

/-- The authenticator with its configuration, its ports and the library. -/
structure ResourceServerAuthenticator (Chave : Type) where
  config : ResourceServerConfig
  /-- `chave_para`, which raises when the `kid` is not known. -/
  jwks : String → String → Except String Chave
  resolver : String → Option String
  /-- `consumir`, which takes one unit and is `True`, or takes nothing and is `False`. -/
  quota : String → String → Bool
  jwt : Jwt Chave

/-- A token with the algorithm that its header names and the key found for it. -/
structure Credencial (Chave : Type) where
  token : String
  alg : String
  chave : Chave

/-- A check that raises. -/
def exigir (c : Bool) (falha : Excecao) : Except Excecao Unit := if c then .ok () else .error falha

/-- The keys of a query that would carry a token. -/
def chavesDeToken : List String := ["access_token", "token", "bearer"]

/-- The value of the first header whose name is `Authorization` in any case. -/
def authorization (headers : List (String × String)) : Option String :=
  (headers.find? fun h => h.1.toLower = header.toLower).map (·.2)

/-- `extrair_bearer`. A missing query is an empty one. -/
def extrairBearer (headers query : List (String × String)) : Except Excecao String :=
  if chavesDeToken.any fun chave => (query.lookup chave).isSome then
    .error (.autenticacao "token em query string é recusado — vaza em log, proxy e tracing")
  else
    match authorization headers with
    | none => .error (.autenticacao "credencial ausente")
    | some bruto =>
      if prefixo.toList.isPrefixOf bruto.toList then
        let token := Access.strip (bruto.toList.drop prefixo.length)
        if token = [] then .error (.autenticacao "credencial ausente")
        else .ok (String.ofList token)
      else .error (.autenticacao "esquema de autorização não suportado")

/-- `texto.replace(padrao, novo)` from left to right; `pular` characters still belong to
the occurrence that was replaced last. -/
def substituir (padrao novo : List Char) : ℕ → List Char → List Char
  | _, [] => []
  | pular + 1, _ :: cs => substituir padrao novo pular cs
  | 0, c :: cs =>
    if padrao.isPrefixOf (c :: cs) then novo ++ substituir padrao novo (padrao.length - 1) cs
    else c :: substituir padrao novo 0 cs

/-- `redigir`. -/
def redigir (texto token : String) : String :=
  if token = "" then texto
  else String.ofList (substituir token.toList tokenRedacted.toList 0 texto.toList)

/-- `set(audiencia or [])`, or the set of one text: the texts in it. What cannot be
iterated, or holds what cannot be hashed, raises. -/
def audiencias : Valor → Except Excecao (List String)
  | .str s => .ok [s]
  | .arr items =>
    if items.all Valor.hasheavel then .ok (items.filterMap Valor.texto?) else .error .typeError
  | .obj fields => .ok (fields.map (·.1))
  | valor => if valor.verdadeiro then .error .typeError else .ok []

/-- The check of `exp`. -/
def validarExp (exp : Valor) (instante : ℚ) : Except Excecao Unit :=
  match exp.leitura with
  | .naoNumero => .error (.autenticacao "token expirado")
  | .enorme => .error .overflowError
  | .numero x => exigir (!x.isReached instante) (.autenticacao "token expirado")

/-- The check of `nbf`. -/
def validarNbf (nbf : Valor) (instante : ℚ) : Except Excecao Unit :=
  if nbf.ausente then .ok ()
  else
    match nbf.leitura with
    | .naoNumero => .error (.autenticacao "token ainda não é válido")
    | .enorme => .error .overflowError
    | .numero x => exigir (!x.isAfter instante) (.autenticacao "token ainda não é válido")

/-- The check of `iat`: what is no number is let through. -/
def validarIat (iat : Valor) (instante : ℚ) : Except Excecao Unit :=
  match iat.leitura with
  | .naoNumero => .ok ()
  | .enorme => .error .overflowError
  | .numero x => exigir (!x.isAfter instante) (.autenticacao "token emitido no futuro")

/-- `_validar_janela`. -/
def validarJanela (reivindicacoes : Dicionario) (instante : ℚ) : Except Excecao Unit := do
  validarExp (reivindicacoes.get "exp") instante
  validarNbf (reivindicacoes.get "nbf") instante
  validarIat (reivindicacoes.get "iat") instante

/-- `str.split()`. -/
def split (texto : String) : List String :=
  ((texto.toList.splitOnP isSpace).filter fun parte => !parte.isEmpty).map String.ofList

/-- `_escopos`. -/
def escopos (reivindicacoes : Dicionario) : List String :=
  let scope := reivindicacoes.get "scope"
  let scp := reivindicacoes.get "scp"
  let bruto := if scope.verdadeiro then scope else if scp.verdadeiro then scp else .str ""
  match bruto with
  | .str s => split s
  | .arr items => items.filterMap Valor.texto?
  | _ => []

namespace ResourceServerAuthenticator

variable {Chave : Type} (rs : ResourceServerAuthenticator Chave)

/-- `_cabecalho`. -/
def cabecalho (token : String) : Except Excecao Dicionario :=
  match rs.jwt.getUnverifiedHeader token with
  | .error _ => .error (.autenticacao "token malformado")
  | .ok (.obj fields) => .ok fields
  | .ok _ => .error (.autenticacao "cabeçalho do token malformado")

/-- The membership test hashes the value. -/
def algoritmo (cabecalho : Dicionario) : Except Excecao String :=
  match cabecalho.get "alg" with
  | .str alg =>
    if alg ∈ algoritmosAceitos then .ok alg else .error (.autenticacao "algoritmo não aceito")
  | valor =>
    if valor.hasheavel then .error (.autenticacao "algoritmo não aceito") else .error .typeError

def kid (cabecalho : Dicionario) : Except Excecao String :=
  match cabecalho.get "kid" with
  | .str kid => if kid = "" then .error (.autenticacao "kid ausente") else .ok kid
  | _ => .error (.autenticacao "kid ausente")

def chave (kid alg : String) : Except Excecao Chave :=
  (rs.jwks kid alg).mapError fun _ => .autenticacao "kid desconhecido"

/-- The options: the window is left to the code, and `iat` is not named. -/
def opcoes : Opcoes where
  require := ["exp", "iat", "sub", "aud", "iss"]
  verifyExp := false
  verifyNbf := false

/-- `_verificar`. -/
def verificar (token : String) (chave : Chave) (alg : String) (relogio : ℚ) :
    Except Excecao Dicionario :=
  match rs.jwt.decode token chave [alg] rs.config.audience rs.config.issuer opcoes relogio with
  | .error falha => .error (.autenticacao (redigir ("token inválido: " ++ falha) token))
  | .ok (.obj fields) => .ok fields
  | .ok _ => .error (.autenticacao "reivindicações malformadas")

def subject (reivindicacoes : Dicionario) : Except Excecao String :=
  match reivindicacoes.get "sub" with
  | .str sub => if blank sub then .error (.autenticacao "sub ausente") else .ok sub
  | _ => .error (.autenticacao "sub ausente")

def principal (subject : String) : Except Excecao String :=
  match rs.resolver subject with
  | none | some "" =>
    .error (.recusa
      (.erroDeAutorizacao "sub não corresponde a principal programático existente" none))
  | some ref => .ok ref

/-- The checks of the claims, up to the scope: the reference, the scopes and the subject. -/
def conferir (reivindicacoes : Dicionario) (instante : ℚ) :
    Except Excecao (String × List String × String) := do
  exigir ((reivindicacoes.get "iss").texto? = some rs.config.issuer)
    (.autenticacao "issuer não confere")
  let aceitas ← audiencias (reivindicacoes.get "aud")
  exigir (rs.config.audience ∈ aceitas) (.autenticacao "audiência não confere")
  validarJanela reivindicacoes instante
  let sub ← subject reivindicacoes
  let principalRef ← rs.principal sub
  exigir (escopoExigido ∈ escopos reivindicacoes)
    (.recusa (.erroDeAutorizacao "escopo insuficiente" (some (escopos reivindicacoes))))
  return (principalRef, escopos reivindicacoes, sub)

/-- From the headers to the token and the key that its header names. -/
def apresentar (headers query : List (String × String)) (agora : Momento) :
    Except Excecao (Credencial Chave) := do
  let token ← extrairBearer headers query
  exigir agora.tzinfo (.recusa (.erroDeTransporte "instante sem fuso"))
  let cabecalho ← rs.cabecalho token
  let alg ← algoritmo cabecalho
  let kid ← kid cabecalho
  let chave ← rs.chave kid alg
  return ⟨token, alg, chave⟩

/-- The claims of the token. -/
def reivindicacoes (headers query : List (String × String)) (agora : Momento) (relogio : ℚ) :
    Except Excecao Dicionario := do
  let credencial ← rs.apresentar headers query agora
  rs.verificar credencial.token credencial.chave credencial.alg relogio

/-- `autenticar`, with the principals of which a unit of quota was taken. The moment is
the injected one, or else what the clock of the process shows. -/
def autenticar (headers query : List (String × String)) (moment : Option Momento)
    (relogios : Relogios) : Except Excecao PrincipalAutenticado × List String :=
  let agora := moment.getD relogios.now
  match rs.reivindicacoes headers query agora relogios.jwt >>= (rs.conferir · agora.timestamp) with
  | .error falha => (.error falha, [])
  | .ok (principalRef, escopos, subject) =>
    if rs.quota principalRef cota then
      (PrincipalAutenticado.criar principalRef escopos subject, [principalRef])
    else (.error (.recusa (.erroDeAutorizacao "cota esgotada" none)), [])

end ResourceServerAuthenticator

end PiaOs.Mcp
