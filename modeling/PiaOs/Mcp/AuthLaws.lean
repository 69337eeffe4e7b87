import PiaOs.Mcp.Auth

/-!
# What the authenticator admits

The conditions on an admitted request, and exactly when the code keeps to them: the
shapes of claims that pass a comparison they should fail, those that leave through an
exception of Python, and the second clock, which the library reads for `iat`.
-/

namespace PiaOs.Mcp

open Support

/-! ## Exceptions that are no refusal -/

/-- The computation ends with an exception that is none of the typed errors. -/
def Escapa {α : Type} (x : Except Excecao α) : Prop :=
  ∃ falha, x = .error falha ∧ ∀ r, falha ≠ .recusa r

section Escapa

variable {α β : Type}

@[simp] theorem escapa_ok {a : α} : ¬Escapa (.ok a : Except Excecao α) := by
  rintro ⟨falha, herror, -⟩
  cases herror

@[simp] theorem escapa_recusa {r : Recusa} : ¬Escapa (.error (.recusa r) : Except Excecao α) := by
  rintro ⟨falha, herror, hother⟩
  exact hother r (Except.error.inj herror).symm

@[simp] theorem escapa_autenticacao {motivo : String} :
    ¬Escapa (.error (.autenticacao motivo) : Except Excecao α) := escapa_recusa

@[simp] theorem escapa_typeError : Escapa (.error .typeError : Except Excecao α) :=
  ⟨.typeError, rfl, by simp⟩

@[simp] theorem escapa_overflowError : Escapa (.error .overflowError : Except Excecao α) :=
  ⟨.overflowError, rfl, by simp⟩

@[simp] theorem escapa_valueError {texto : String} :
    Escapa (.error (.valueError texto) : Except Excecao α) :=
  ⟨.valueError texto, rfl, by simp⟩

/-- A sequence escapes where its first part does, or its rest after that part. -/
theorem escapa_bind {x : Except Excecao α} {f : α → Except Excecao β} :
    Escapa (x >>= f) ↔ Escapa x ∨ ∃ a, x = .ok a ∧ Escapa (f a) := by
  cases x with
  | error falha =>
    constructor
    · rintro ⟨falha', herror, hother⟩
      have heq : falha = falha' := Except.error.inj herror
      exact .inl ⟨falha, rfl, heq ▸ hother⟩
    · rintro (⟨falha', herror, hother⟩ | ⟨a, hok, -⟩)
      · have heq : falha = falha' := Except.error.inj herror
        exact ⟨falha, rfl, heq ▸ hother⟩
      · cases hok
  | ok a => simp

@[simp] theorem exigir_eq_ok {c : Bool} {falha : Excecao} {u : Unit} :
    exigir c falha = .ok u ↔ c = true := by
  cases c <;> simp [exigir]

@[simp] theorem escapa_exigir {c : Bool} {motivo : Recusa} :
    ¬Escapa (exigir c (.recusa motivo)) := by
  cases c <;> simp [exigir]

@[simp] theorem escapa_exigir_autenticacao {c : Bool} {motivo : String} :
    ¬Escapa (exigir c (.autenticacao motivo)) := escapa_exigir

/-- What neither escapes nor succeeds is a typed refusal. -/
theorem recusa_of_not_escapa {x : Except Excecao α} {falha : Excecao} (herror : x = .error falha)
    (h : ¬Escapa x) : ∃ r, falha = .recusa r := by
  by_contra hnone
  push Not at hnone
  exact h ⟨falha, herror, hnone⟩

end Escapa

/-! ## The token and its key -/

/-- A token is read from the header of authorization, when the query has none. -/
theorem extrairBearer_eq_ok {headers query : List (String × String)} {token : String} :
    extrairBearer headers query = .ok token ↔
      (∀ chave ∈ chavesDeToken, query.lookup chave = none) ∧
      (∃ bruto resto, authorization headers = some bruto ∧
        bruto.toList = prefixo.toList ++ resto ∧ Access.strip resto = token.toList) ∧
      token ≠ "" := by
  unfold extrairBearer
  by_cases hquery : (chavesDeToken.any fun chave => (query.lookup chave).isSome) = true
  · rw [if_pos hquery]
    obtain ⟨chave, hmem, hsome⟩ := List.any_eq_true.mp hquery
    constructor
    · intro h
      cases h
    · rintro ⟨hfree, -⟩
      rw [hfree chave hmem] at hsome
      cases hsome
  · rw [if_neg hquery]
    have hfree : ∀ chave ∈ chavesDeToken, query.lookup chave = none := by
      intro chave hmem
      cases hlookup : query.lookup chave with
      | none => rfl
      | some token =>
        exact absurd (List.any_eq_true.mpr ⟨chave, hmem, by rw [hlookup]; rfl⟩) hquery
    cases hauth : authorization headers with
    | none => simp
    | some bruto =>
      by_cases hcomeca : prefixo.toList.isPrefixOf bruto.toList = true
      · obtain ⟨resto, hresto⟩ := List.isPrefixOf_iff_prefix.mp hcomeca
        have hdrop : bruto.toList.drop prefixo.length = resto := by
          rw [← hresto]
          exact List.drop_left
        simp only [hcomeca, if_true, hdrop]
        constructor
        · intro h
          by_cases hempty : Access.strip resto = []
          · simp [hempty] at h
          · have htoken : String.ofList (Access.strip resto) = token := by simpa [hempty] using h
            have hlist : token.toList = Access.strip resto := by simp [← htoken]
            refine ⟨hfree, ⟨bruto, resto, rfl, hresto.symm, hlist.symm⟩, ?_⟩
            rintro rfl
            exact hempty (by simpa using hlist.symm)
        · rintro ⟨-, ⟨bruto', resto', hbruto, hparts, hstrip⟩, hstated⟩
          have hsame : resto' = resto := by
            have heq : bruto = bruto' := Option.some.inj hbruto
            rw [← heq, ← hresto] at hparts
            exact (List.append_cancel_left hparts).symm
          have hne : token.toList ≠ [] := by simpa using hstated
          simp only [← hsame, hstrip, if_neg hne, String.ofList_toList]
      · simp only [hcomeca]
        constructor
        · intro h
          cases h
        · rintro ⟨-, ⟨bruto', resto, hbruto, hparts, -⟩, -⟩
          have heq : bruto = bruto' := Option.some.inj hbruto
          exact absurd (List.isPrefixOf_iff_prefix.mpr ⟨resto, by rw [heq, hparts]⟩) hcomeca

@[simp] theorem escapa_extrairBearer {headers query : List (String × String)} :
    ¬Escapa (extrairBearer headers query) := by
  unfold extrairBearer
  split
  · simp
  · split
    · simp
    · split
      · simp only
        split <;> simp
      · simp

/-- The condition on what is presented: a token of the header and not of the query, a
header with an accepted algorithm, and a known key. -/
structure Apresenta {Chave : Type} (rs : ResourceServerAuthenticator Chave)
    (headers query : List (String × String)) (agora : Momento)
    (credencial : Credencial Chave) : Prop where
  query_livre : ∀ chave ∈ chavesDeToken, query.lookup chave = none
  bearer : ∃ bruto resto, authorization headers = some bruto ∧
    bruto.toList = prefixo.toList ++ resto ∧ Access.strip resto = credencial.token.toList
  token_stated : credencial.token ≠ ""
  zona : agora.tzinfo = true
  aceito : credencial.alg ∈ algoritmosAceitos
  chave : ∃ cabecalho kid, rs.jwt.getUnverifiedHeader credencial.token = .ok (.obj cabecalho) ∧
    Dicionario.get cabecalho "alg" = .str credencial.alg ∧
    Dicionario.get cabecalho "kid" = .str kid ∧ kid ≠ "" ∧
    rs.jwks kid credencial.alg = .ok credencial.chave

/-- The header of the token names as its algorithm a value that cannot be hashed. -/
def AlgSemHash {Chave : Type} (rs : ResourceServerAuthenticator Chave)
    (headers query : List (String × String)) (agora : Momento) : Prop :=
  agora.tzinfo = true ∧ ∃ token cabecalho, extrairBearer headers query = .ok token ∧
    rs.jwt.getUnverifiedHeader token = .ok (.obj cabecalho) ∧
    (Dicionario.get cabecalho "alg").hasheavel = false

namespace ResourceServerAuthenticator

variable {Chave : Type} {rs : ResourceServerAuthenticator Chave}

theorem cabecalho_eq_ok {token : String} {fields : Dicionario} :
    rs.cabecalho token = .ok fields ↔ rs.jwt.getUnverifiedHeader token = .ok (.obj fields) := by
  unfold cabecalho
  split <;> simp_all

@[simp] theorem escapa_cabecalho {token : String} : ¬Escapa (rs.cabecalho token) := by
  unfold cabecalho
  split <;> simp

theorem algoritmo_eq_ok {fields : Dicionario} {alg : String} :
    algoritmo fields = .ok alg ↔ fields.get "alg" = .str alg ∧ alg ∈ algoritmosAceitos := by
  unfold algoritmo
  cases hvalue : fields.get "alg" with
  | str s => by_cases hmem : s ∈ algoritmosAceitos <;> grind
  | null | bool | int | float | arr | obj => simp [Valor.hasheavel]

@[simp] theorem escapa_algoritmo {fields : Dicionario} :
    Escapa (algoritmo fields) ↔ (fields.get "alg").hasheavel = false := by
  unfold algoritmo
  cases hvalue : fields.get "alg" with
  | str s => by_cases hmem : s ∈ algoritmosAceitos <;> simp [hmem, Valor.hasheavel]
  | null | bool | int | float | arr | obj => simp [Valor.hasheavel]

theorem kid_eq_ok {fields : Dicionario} {k : String} :
    kid fields = .ok k ↔ fields.get "kid" = .str k ∧ k ≠ "" := by
  unfold kid
  cases hvalue : fields.get "kid" with
  | str s => by_cases hempty : s = "" <;> grind
  | null | bool | int | float | arr | obj => simp

@[simp] theorem escapa_kid {fields : Dicionario} : ¬Escapa (kid fields) := by
  unfold kid
  split
  · split <;> simp
  · simp

@[simp] theorem escapa_chave {k alg : String} : ¬Escapa (rs.chave k alg) := by
  unfold chave
  cases rs.jwks k alg <;> simp [Except.mapError]

/-- The credential that the code arrives at is one that meets the conditions. -/
theorem apresentar_eq_ok {headers query : List (String × String)} {agora : Momento}
    {credencial : Credencial Chave} :
    rs.apresentar headers query agora = .ok credencial ↔
      Apresenta rs headers query agora credencial := by
  unfold apresentar
  simp only [bind_eq_ok, exigir_eq_ok, cabecalho_eq_ok, algoritmo_eq_ok, kid_eq_ok, chave,
    mapError_eq_ok, extrairBearer_eq_ok, pure, Except.pure, Except.ok.injEq]
  constructor
  · rintro ⟨token, ⟨hfree, hbearer, hstated⟩, -, hzone, fields, hheader, alg, ⟨halg, hacc⟩,
      k, ⟨hkid, hk⟩, key, hkey, rfl⟩
    exact ⟨hfree, hbearer, hstated, hzone, hacc, fields, k, hheader, halg, hkid, hk, hkey⟩
  · intro h
    obtain ⟨fields, k, hheader, halg, hkid, hk, hkey⟩ := h.chave
    exact ⟨credencial.token, ⟨h.query_livre, h.bearer, h.token_stated⟩, (), h.zona, fields,
      hheader, credencial.alg, ⟨halg, h.aceito⟩, k, ⟨hkid, hk⟩, credencial.chave, hkey, rfl⟩

/-- Before the claims, only the algorithm of the header can escape. -/
theorem escapa_apresentar {headers query : List (String × String)} {agora : Momento} :
    Escapa (rs.apresentar headers query agora) ↔ AlgSemHash rs headers query agora := by
  unfold apresentar
  simp only [escapa_bind, escapa_extrairBearer, escapa_exigir, escapa_cabecalho, escapa_algoritmo,
    escapa_kid, escapa_chave, escapa_ok, exigir_eq_ok, cabecalho_eq_ok, pure, Except.pure,
    and_false, exists_false, or_false, false_or]
  constructor
  · rintro ⟨token, htoken, -, hzone, fields, hheader, halg⟩
    exact ⟨hzone, token, fields, htoken, hheader, halg⟩
  · rintro ⟨hzone, token, fields, htoken, hheader, halg⟩
    exact ⟨token, htoken, (), hzone, fields, hheader, halg⟩

end ResourceServerAuthenticator

/-! ## The claims -/

/-- `set(valor or [])` raises: the value is no collection, or holds one. -/
def Valor.semConjunto : Valor → Bool
  | .str _ | .obj _ => false
  | .arr items => !items.all Valor.hasheavel
  | valor => valor.verdadeiro

@[simp] theorem escapa_audiencias {aud : Valor} :
    Escapa (audiencias aud) ↔ aud.semConjunto = true := by
  unfold audiencias Valor.semConjunto
  cases aud with
  | str | obj => simp
  | arr items => by_cases hall : items.all Valor.hasheavel = true <;> simp [hall]
  | null => simp [Valor.verdadeiro]
  | bool b => by_cases htrue : (Valor.bool b).verdadeiro = true <;> simp [htrue]
  | int n => by_cases htrue : (Valor.int n).verdadeiro = true <;> simp [htrue]
  | float x => by_cases htrue : (Valor.float x).verdadeiro = true <;> simp [htrue]

/-- The audience is one text, or one text of an array. -/
def Destina (audience : String) : Valor → Prop
  | .str s => s = audience
  | .arr items => .str audience ∈ items
  | _ => False

/-- Only the keys of an object pass the test without naming the audience. -/
theorem destina_of_mem {aud : Valor} {aceitas : List String} {audience : String}
    (haud : audiencias aud = .ok aceitas) (hmem : audience ∈ aceitas) :
    Destina audience aud ∨ ∃ fields, aud = .obj fields := by
  unfold audiencias at haud
  cases aud with
  | str s =>
    have heq : [s] = aceitas := Except.ok.inj haud
    rw [← heq, List.mem_singleton] at hmem
    exact .inl hmem.symm
  | arr items =>
    simp only at haud
    split at haud
    · have heq : items.filterMap Valor.texto? = aceitas := Except.ok.inj haud
      rw [← heq, List.mem_filterMap] at hmem
      obtain ⟨item, hitem, htexto⟩ := hmem
      rw [Valor.texto?_eq_some] at htexto
      rw [htexto] at hitem
      exact .inl hitem
    · cases haud
  | obj fields => exact .inr ⟨fields, rfl⟩
  | null | bool | int | float =>
    simp only at haud
    split at haud
    · cases haud
    · have heq : [] = aceitas := Except.ok.inj haud
      rw [← heq] at hmem
      cases hmem

theorem validarExp_eq_ok {exp : Valor} {t : ℚ} {u : Unit} :
    validarExp exp t = .ok u ↔ ∃ x, exp.leitura = .numero x ∧ x.isReached t = false := by
  unfold validarExp
  split <;> simp_all

theorem validarNbf_eq_ok {nbf : Valor} {t : ℚ} {u : Unit} :
    validarNbf nbf t = .ok u ↔
      nbf.ausente = true ∨ ∃ x, nbf.leitura = .numero x ∧ x.isAfter t = false := by
  unfold validarNbf
  by_cases hnone : nbf.ausente = true
  · simp [hnone]
  · simp only [hnone]
    cases nbf.leitura <;> simp

theorem validarIat_eq_ok {iat : Valor} {t : ℚ} {u : Unit} :
    validarIat iat t = .ok u ↔
      iat.leitura = .naoNumero ∨ ∃ x, iat.leitura = .numero x ∧ x.isAfter t = false := by
  unfold validarIat
  split <;> simp_all

@[simp] theorem escapa_validarExp {exp : Valor} {t : ℚ} :
    Escapa (validarExp exp t) ↔ exp.leitura = .enorme := by
  unfold validarExp
  split <;> simp_all

@[simp] theorem escapa_validarNbf {nbf : Valor} {t : ℚ} :
    Escapa (validarNbf nbf t) ↔ nbf.leitura = .enorme := by
  unfold validarNbf
  by_cases hnone : nbf.ausente = true
  · simp [hnone, Valor.leitura_of_ausente hnone]
  · simp only [hnone]
    cases nbf.leitura <;> simp

@[simp] theorem escapa_validarIat {iat : Valor} {t : ℚ} :
    Escapa (validarIat iat t) ↔ iat.leitura = .enorme := by
  unfold validarIat
  split <;> simp_all

theorem Valor.numeroJson_of_depois {t : ℚ} {v : Valor} (h : v.Depois t) :
    v.numeroJson = true := by
  cases v with
  | int n => rfl
  | float x =>
    have hne : x ≠ .nan := by
      rintro rfl
      cases h
    simpa [numeroJson] using hne
  | null | bool | str | arr | obj => cases h

theorem Valor.numeroJson_of_alcancado {t : ℚ} {v : Valor} (h : v.AusenteOuAlcancado t) :
    v.ausente = true ∨ v.numeroJson = true := by
  cases v with
  | null => exact .inl rfl
  | int n => exact .inr rfl
  | float x =>
    have hne : x ≠ .nan := by
      rintro rfl
      cases h
    exact .inr (by simpa [numeroJson] using hne)
  | bool | str | arr | obj => cases h

/-- An expiry that passes the code's test is a number after the instant, if it is a
JSON number at all. -/
theorem Valor.depois_of_validarExp {agora : Momento} {exp : Valor} {u : Unit}
    (hok : validarExp exp agora.timestamp = .ok u) (hnum : exp.numeroJson = true) :
    exp.Depois agora.timestamp := by
  obtain ⟨x, hread, hreached⟩ := validarExp_eq_ok.mp hok
  rw [Double.isReached_eq_false] at hreached
  cases exp with
  | int n =>
    unfold leitura at hread
    simp only at hread
    split at hread
    · next q hq =>
      have hx : Double.finite q = x := Leitura.numero.inj hread
      rw [← hx] at hreached
      obtain hnan | hafter := hreached
      · cases hnan
      · have hlt : agora.timestamp < q := by simpa [Double.isAfter] using hafter
        exact (Double.lt_ofInt_iff hq agora.limite).mp hlt
    · cases hread
  | float y =>
    have hx : y = x := Leitura.numero.inj hread
    rw [← hx] at hreached
    have hne : y ≠ .nan := by simpa [numeroJson] using hnum
    exact hreached.resolve_left hne
  | null | bool | str | arr | obj => cases hnum

/-- A claim that the code reads as not after the instant is reached, if it is a JSON
number at all. -/
theorem Valor.alcancado_of_not_isAfter {agora : Momento} {v : Valor} {x : Double}
    (hread : v.leitura = .numero x) (hafter : x.isAfter agora.timestamp = false)
    (hnum : v.numeroJson = true) : v.AusenteOuAlcancado agora.timestamp := by
  cases v with
  | int n =>
    unfold leitura at hread
    simp only at hread
    split at hread
    · next q hq =>
      have hx : Double.finite q = x := Leitura.numero.inj hread
      have hle : ¬agora.timestamp < q := by simpa [← hx, Double.isAfter] using hafter
      have hint := mt (Double.lt_ofInt_iff hq agora.limite).mpr hle
      exact not_lt.mp hint
    · cases hread
  | float y =>
    have hx : y = x := Leitura.numero.inj hread
    have hne : y ≠ .nan := by simpa [numeroJson] using hnum
    have hreached : y.isReached agora.timestamp = true := by
      by_contra hnot
      have hcases := Double.isReached_eq_false.mp (Bool.not_eq_true _ ▸ hnot)
      obtain hnan | hlater := hcases
      · exact hne hnan
      · rw [hx, hafter] at hlater
        cases hlater
    exact hreached
  | null | bool | str | arr | obj => cases hnum

/-- The conditions on the claims of an admitted token: whom they are from and for, when
they hold, the principal they resolve to, its scope and its unit of quota. -/
structure Admite {Chave : Type} (rs : ResourceServerAuthenticator Chave) (claims : Dicionario)
    (t : ℚ) (ref sub : String) : Prop where
  issuer : claims.get "iss" = .str rs.config.issuer
  audience : Destina rs.config.audience (claims.get "aud")
  exp : (claims.get "exp").Depois t
  nbf : (claims.get "nbf").AusenteOuAlcancado t
  iat : (claims.get "iat").AusenteOuAlcancado t
  assunto : claims.get "sub" = .str sub
  principal : rs.resolver sub = some ref
  existe : blank ref = false
  escopo : escopoExigido ∈ escopos claims
  cota : rs.quota ref cota = true

/-- The shapes that the code's comparisons let pass: an audience that is an object, and
times that JSON does not count as numbers. -/
def Frouxa (claims : Dicionario) : Prop :=
  (∃ fields, claims.get "aud" = .obj fields) ∨
  (claims.get "exp").numeroJson = false ∨
  ((claims.get "nbf").ausente = false ∧ (claims.get "nbf").numeroJson = false) ∨
  ((claims.get "iat").ausente = false ∧ (claims.get "iat").numeroJson = false)

theorem not_frouxa_of_admite {Chave : Type} {rs : ResourceServerAuthenticator Chave}
    {claims : Dicionario} {t : ℚ} {ref sub : String} (h : Admite rs claims t ref sub) :
    ¬Frouxa claims := by
  rintro (⟨fields, haud⟩ | hexp | ⟨hnone, hnbf⟩ | ⟨hnone, hiat⟩)
  · have hnot := h.audience
    rw [haud] at hnot
    exact hnot
  · rw [Valor.numeroJson_of_depois h.exp] at hexp
    cases hexp
  · obtain habsent | hnum := Valor.numeroJson_of_alcancado h.nbf
    · rw [habsent] at hnone
      cases hnone
    · rw [hnum] at hnbf
      cases hnbf
  · obtain habsent | hnum := Valor.numeroJson_of_alcancado h.iat
    · rw [habsent] at hnone
      cases hnone
    · rw [hnum] at hiat
      cases hiat

/-- Some time of the window is an integer too large for the format, and those before it
pass. -/
def JanelaEnorme (claims : Dicionario) (t : ℚ) : Prop :=
  (claims.get "exp").leitura = .enorme ∨
  validarExp (claims.get "exp") t = .ok () ∧
    ((claims.get "nbf").leitura = .enorme ∨
      validarNbf (claims.get "nbf") t = .ok () ∧ (claims.get "iat").leitura = .enorme)

@[simp] theorem escapa_validarJanela {claims : Dicionario} {t : ℚ} :
    Escapa (validarJanela claims t) ↔ JanelaEnorme claims t := by
  unfold validarJanela JanelaEnorme
  simp only [escapa_bind, escapa_validarExp, escapa_validarNbf, escapa_validarIat,
    Unique.exists_iff, PUnit.default_eq_unit]

theorem validarJanela_eq_ok {claims : Dicionario} {t : ℚ} {u : Unit} :
    validarJanela claims t = .ok u ↔ validarExp (claims.get "exp") t = .ok () ∧
      validarNbf (claims.get "nbf") t = .ok () ∧ validarIat (claims.get "iat") t = .ok () := by
  unfold validarJanela
  simp only [bind_eq_ok, Unique.exists_iff, PUnit.default_eq_unit]

/-- The audience cannot be made a set, or it is the right one and the window escapes. -/
def ClaimsEscapam {Chave : Type} (rs : ResourceServerAuthenticator Chave) (claims : Dicionario)
    (t : ℚ) : Prop :=
  claims.get "iss" = .str rs.config.issuer ∧
    ((claims.get "aud").semConjunto = true ∨
      ∃ aceitas, audiencias (claims.get "aud") = .ok aceitas ∧ rs.config.audience ∈ aceitas ∧
        JanelaEnorme claims t)

namespace ResourceServerAuthenticator

variable {Chave : Type} {rs : ResourceServerAuthenticator Chave}

theorem subject_eq_ok {claims : Dicionario} {sub : String} :
    subject claims = .ok sub ↔ claims.get "sub" = .str sub ∧ blank sub = false := by
  unfold subject
  cases hvalue : claims.get "sub" with
  | str s => by_cases hblank : blank s = true <;> grind
  | null | bool | int | float | arr | obj => simp

@[simp] theorem escapa_subject {claims : Dicionario} : ¬Escapa (subject claims) := by
  unfold subject
  split
  · split <;> simp
  · simp

theorem principal_eq_ok {sub ref : String} :
    rs.principal sub = .ok ref ↔ rs.resolver sub = some ref ∧ ref ≠ "" := by
  unfold principal
  split <;> grind

@[simp] theorem escapa_principal {sub : String} : ¬Escapa (rs.principal sub) := by
  unfold principal
  split <;> simp

theorem conferir_eq_ok {claims : Dicionario} {t : ℚ} {ref sub : String} {lidos : List String} :
    rs.conferir claims t = .ok (ref, lidos, sub) ↔
      claims.get "iss" = .str rs.config.issuer ∧
      (∃ aceitas, audiencias (claims.get "aud") = .ok aceitas ∧ rs.config.audience ∈ aceitas) ∧
      validarJanela claims t = .ok () ∧ (claims.get "sub" = .str sub ∧ blank sub = false) ∧
      (rs.resolver sub = some ref ∧ ref ≠ "") ∧ escopoExigido ∈ escopos claims ∧
      lidos = escopos claims := by
  unfold conferir
  simp only [bind_eq_ok, exigir_eq_ok, subject_eq_ok, principal_eq_ok, decide_eq_true_eq, pure,
    Except.pure, Except.ok.injEq, Prod.mk.injEq, Valor.texto?_eq_some, Unique.exists_iff,
    PUnit.default_eq_unit]
  constructor
  · rintro ⟨hiss, aceitas, haud, hmem, hjanela, s, hsub, r, hprincipal, hscope, rfl, rfl, rfl⟩
    exact ⟨hiss, ⟨aceitas, haud, hmem⟩, hjanela, hsub, hprincipal, hscope, rfl⟩
  · rintro ⟨hiss, ⟨aceitas, haud, hmem⟩, hjanela, hsub, hprincipal, hscope, rfl⟩
    exact ⟨hiss, aceitas, haud, hmem, hjanela, sub, hsub, ref, hprincipal, hscope, rfl, rfl, rfl⟩

theorem escapa_conferir {claims : Dicionario} {t : ℚ} :
    Escapa (rs.conferir claims t) ↔ ClaimsEscapam rs claims t := by
  unfold conferir ClaimsEscapam
  simp only [escapa_bind, exigir_eq_ok, escapa_exigir, escapa_exigir_autenticacao,
    escapa_audiencias, escapa_validarJanela, escapa_subject, escapa_principal, escapa_ok,
    decide_eq_true_eq, pure, Except.pure, Valor.texto?_eq_some, and_false, exists_false, or_false,
    false_or, exists_const]

/-- What passes the checks of the code meets the conditions, unless its shape is loose. -/
theorem admite_of_conferir {claims : Dicionario} {agora : Momento} {ref sub : String}
    {lidos : List String} (hok : rs.conferir claims agora.timestamp = .ok (ref, lidos, sub))
    (hstated : blank ref = false) (hquota : rs.quota ref cota = true) (hform : ¬Frouxa claims) :
    Admite rs claims agora.timestamp ref sub := by
  obtain ⟨hiss, ⟨aceitas, haud, hmem⟩, hjanela, hsub, hprincipal, hscope, -⟩ :=
    conferir_eq_ok.mp hok
  obtain ⟨hexp, hnbf, hiat⟩ := validarJanela_eq_ok.mp hjanela
  unfold Frouxa at hform
  push Not at hform
  obtain ⟨hobj, hexpnum, hnbfnum, hiatnum⟩ := hform
  have hreached : ∀ v : Valor, (v.ausente = false → v.numeroJson ≠ false) →
      (v.ausente = true ∨ v.leitura = .naoNumero ∨
        ∃ x, v.leitura = .numero x ∧ x.isAfter agora.timestamp = false) →
      v.AusenteOuAlcancado agora.timestamp := by
    intro v hnum hcases
    by_cases hnone : v.ausente = true
    · cases v with
      | null => trivial
      | bool | int | float | str | arr | obj => cases hnone
    · have hjson : v.numeroJson = true := by
        simpa using hnum (by simpa using hnone)
      obtain habsent | hnot | ⟨x, hread, hafter⟩ := hcases
      · exact absurd habsent hnone
      · cases v with
        | int n =>
          unfold Valor.leitura at hnot
          simp only at hnot
          split at hnot <;> cases hnot
        | float x => cases hnot
        | null | bool | str | arr | obj => cases hjson
      · exact Valor.alcancado_of_not_isAfter hread hafter hjson
  refine ⟨hiss, ?_, ?_, ?_, ?_, hsub.1, hprincipal.1, hstated, hscope, hquota⟩
  · obtain hdest | ⟨fields, hfields⟩ := destina_of_mem haud hmem
    · exact hdest
    · exact absurd hfields (hobj fields)
  · exact Valor.depois_of_validarExp hexp (by simpa using hexpnum)
  · obtain hnone | hread := validarNbf_eq_ok.mp hnbf
    · exact hreached _ hnbfnum (.inl hnone)
    · exact hreached _ hnbfnum (.inr (.inr hread))
  · exact hreached _ hiatnum (.inr (validarIat_eq_ok.mp hiat))

end ResourceServerAuthenticator

/-! ## One authentication -/

section Autenticar

variable {Chave : Type} {rs : ResourceServerAuthenticator Chave}

/-- What the library returns has passed its checks without a clock, and `iat` was not
after its own clock. -/
theorem Jwt.decode_eq_ok {jwt : Jwt Chave} {token alg audience issuer : String} {chave : Chave}
    {relogio : ℚ} {claims : Valor} :
    jwt.decode token chave [alg] audience issuer ResourceServerAuthenticator.opcoes relogio =
        .ok claims ↔
      jwt.verificado token chave [alg] audience issuer
          ResourceServerAuthenticator.opcoes.require = .ok claims ∧
      (jwt.instante "iat" claims = .ok none ∨
        ∃ n : ℤ, jwt.instante "iat" claims = .ok (some n) ∧ (n : ℚ) ≤ relogio) := by
  have hiat : ∀ (lido : Except String (Option ℤ)) (u : Unit),
      conferido true lido (fun n => decide (relogio < n)) textoIat = .ok u ↔
        lido = .ok none ∨ ∃ n : ℤ, lido = .ok (some n) ∧ (n : ℚ) ≤ relogio := by
    intro lido u
    cases lido with
    | error falha => simp [conferido]
    | ok n? =>
      cases n? with
      | none => simp [conferido]
      | some n => by_cases hlt : relogio < n <;> simp [conferido, hlt, not_lt.mp, not_le.mpr]
  have hoff : ∀ (lido : Except String (Option ℤ)) (recusa : ℤ → Bool) (texto : String),
      conferido false lido recusa texto = .ok () := fun _ _ _ => rfl
  unfold Jwt.decode ResourceServerAuthenticator.opcoes
  simp only [bind_eq_ok, hiat, hoff, Unique.exists_iff, true_and, pure, Except.pure,
    Except.ok.injEq]
  constructor
  · rintro ⟨v, hv, hclock, rfl⟩
    exact ⟨hv, hclock⟩
  · rintro ⟨hv, hclock⟩
    exact ⟨claims, hv, hclock, rfl⟩

/-- The request comes as far as the claims of its token. -/
structure Chega (rs : ResourceServerAuthenticator Chave) (headers query : List (String × String))
    (agora : Momento) (relogio : ℚ) (credencial : Credencial Chave) (claims : Dicionario) :
    Prop where
  apresenta : Apresenta rs headers query agora credencial
  decode : rs.jwt.decode credencial.token credencial.chave [credencial.alg] rs.config.audience
    rs.config.issuer ResourceServerAuthenticator.opcoes relogio = .ok (.obj claims)

theorem Chega.assinado {headers query : List (String × String)} {agora : Momento} {relogio : ℚ}
    {credencial : Credencial Chave} {claims : Dicionario}
    (h : Chega rs headers query agora relogio credencial claims) :
    rs.jwt.Assinado credencial.token credencial.chave (.obj claims) :=
  rs.jwt.assinado (Jwt.decode_eq_ok.mp h.decode).1

namespace ResourceServerAuthenticator

theorem verificar_eq_ok {token alg : String} {chave : Chave} {relogio : ℚ} {claims : Dicionario} :
    rs.verificar token chave alg relogio = .ok claims ↔
      rs.jwt.decode token chave [alg] rs.config.audience rs.config.issuer opcoes relogio =
        .ok (.obj claims) := by
  unfold verificar
  split <;> simp_all

@[simp] theorem escapa_verificar {token alg : String} {chave : Chave} {relogio : ℚ} :
    ¬Escapa (rs.verificar token chave alg relogio) := by
  unfold verificar
  split <;> simp

variable {headers query : List (String × String)} {agora : Momento} {relogio : ℚ}

theorem reivindicacoes_eq_ok {claims : Dicionario} :
    rs.reivindicacoes headers query agora relogio = .ok claims ↔
      ∃ credencial, Chega rs headers query agora relogio credencial claims := by
  unfold reivindicacoes
  simp only [bind_eq_ok, apresentar_eq_ok, verificar_eq_ok]
  constructor
  · rintro ⟨credencial, hpresent, hdecode⟩
    exact ⟨credencial, hpresent, hdecode⟩
  · rintro ⟨credencial, hchega⟩
    exact ⟨credencial, hchega.apresenta, hchega.decode⟩

/-- A request escapes by the algorithm of its header, or by its claims. -/
theorem escapa_checks :
    Escapa (rs.reivindicacoes headers query agora relogio >>= (rs.conferir · agora.timestamp)) ↔
      AlgSemHash rs headers query agora ∨
      ∃ credencial claims, Chega rs headers query agora relogio credencial claims ∧
        ClaimsEscapam rs claims agora.timestamp := by
  have hread : Escapa (rs.reivindicacoes headers query agora relogio) ↔
      AlgSemHash rs headers query agora := by
    unfold reivindicacoes
    rw [escapa_bind, escapa_apresentar]
    simp
  rw [escapa_bind, hread]
  simp only [reivindicacoes_eq_ok, escapa_conferir]
  grind

end ResourceServerAuthenticator

/-- Claims for which the code breaks its word: they escape, or pass every check of the
code although their shape is loose or the principal they resolve to has no name. -/
def Defeito (rs : ResourceServerAuthenticator Chave) (claims : Dicionario) (t : ℚ) : Prop :=
  ClaimsEscapam rs claims t ∨
    ∃ ref lidos sub, rs.conferir claims t = .ok (ref, lidos, sub) ∧ rs.quota ref cota = true ∧
      (blank ref = true ∨ Frouxa claims)

/-- The request meets every condition on an admitted one. -/
def Cumpre (rs : ResourceServerAuthenticator Chave) (headers query : List (String × String))
    (agora : Momento) (relogio : ℚ) (ref sub : String) : Prop :=
  ∃ credencial claims, Chega rs headers query agora relogio credencial claims ∧
    rs.jwt.Assinado credencial.token credencial.chave (.obj claims) ∧
    Admite rs claims agora.timestamp ref sub

/-- At one reading of the clocks: a principal is returned only for a request that meets
every condition, with one unit of its quota taken; any other request is refused by a
typed error with nothing taken. -/
structure Promessa (rs : ResourceServerAuthenticator Chave)
    (headers query : List (String × String)) (moment : Momento) (relogios : Relogios) : Prop where
  devolve : ∀ p tomadas, rs.autenticar headers query (some moment) relogios = (.ok p, tomadas) →
    Cumpre rs headers query moment relogios.jwt p.principalRef p.subject ∧
      tomadas = [p.principalRef]
  recusa : (¬∃ ref sub, Cumpre rs headers query moment relogios.jwt ref sub) →
    ∃ r, rs.autenticar headers query (some moment) relogios = (.error (.recusa r), [])

/-- The request meets every condition, or it stays clear of the defects. -/
def SemDefeito (rs : ResourceServerAuthenticator Chave) (headers query : List (String × String))
    (moment : Momento) (relogio : ℚ) : Prop :=
  (∃ ref sub, Cumpre rs headers query moment relogio ref sub) ∨
    (¬AlgSemHash rs headers query moment ∧
      ∀ credencial claims, Chega rs headers query moment relogio credencial claims →
        ¬Defeito rs claims moment.timestamp)

variable {headers query : List (String × String)} {moment : Momento} {relogios : Relogios}

/-- A principal comes from claims that passed every check, with a unit of its quota. -/
theorem conferir_of_autenticar {p : PrincipalAutenticado} {tomadas : List String}
    (h : rs.autenticar headers query (some moment) relogios = (.ok p, tomadas)) :
    ∃ credencial claims, Chega rs headers query moment relogios.jwt credencial claims ∧
      rs.conferir claims moment.timestamp = .ok (p.principalRef, p.scopes, p.subject) ∧
      rs.quota p.principalRef cota = true ∧ tomadas = [p.principalRef] := by
  unfold ResourceServerAuthenticator.autenticar at h
  simp only [Option.getD_some] at h
  split at h
  · cases h
  · next ref lidos sub hchecks =>
    split at h
    · next hquota =>
      obtain ⟨hcriar, htaken⟩ := Prod.mk.inj h
      unfold PrincipalAutenticado.criar at hcriar
      split at hcriar
      · have hp := Except.ok.inj hcriar
        obtain ⟨claims, hclaims, hok⟩ := bind_eq_ok.mp hchecks
        obtain ⟨credencial, hchega⟩ :=
          ResourceServerAuthenticator.reivindicacoes_eq_ok.mp hclaims
        subst hp
        exact ⟨credencial, claims, hchega, hok, hquota, htaken.symm⟩
      · cases hcriar
    · cases h

/-- The claims of a request are determined by it. -/
theorem Chega.claims_eq {agora : Momento} {relogio : ℚ} {credencial credencial' : Credencial Chave}
    {claims claims' : Dicionario}
    (h : Chega rs headers query agora relogio credencial claims)
    (h' : Chega rs headers query agora relogio credencial' claims') : claims = claims' := by
  have hread := ResourceServerAuthenticator.reivindicacoes_eq_ok.mpr ⟨credencial, h⟩
  have hread' := ResourceServerAuthenticator.reivindicacoes_eq_ok.mpr ⟨credencial', h'⟩
  exact Except.ok.inj (hread.symm.trans hread')

/-- A request that meets the conditions has no loose shape. -/
theorem Cumpre.not_frouxa {ref sub : String} {credencial : Credencial Chave} {claims : Dicionario}
    {agora : Momento} {relogio : ℚ} (h : Cumpre rs headers query agora relogio ref sub)
    (hchega : Chega rs headers query agora relogio credencial claims) : ¬Frouxa claims := by
  obtain ⟨credencial', claims', hchega', -, hadmite⟩ := h
  rw [hchega.claims_eq hchega']
  exact not_frouxa_of_admite hadmite

/-- What escapes is no typed refusal. -/
theorem not_recusa_of_escapa {r : Recusa}
    (hescapa : Escapa (rs.reivindicacoes headers query moment relogios.jwt >>=
      (rs.conferir · moment.timestamp))) :
    rs.autenticar headers query (some moment) relogios ≠ (.error (.recusa r), []) := by
  obtain ⟨falha, herror, hother⟩ := hescapa
  intro h
  unfold ResourceServerAuthenticator.autenticar at h
  simp only [Option.getD_some, herror] at h
  exact hother r (Except.error.inj (Prod.mk.inj h).1)

/-- Claims that pass every check, with the quota, are no refusal. -/
theorem not_recusa_of_conferir {credencial : Credencial Chave} {claims : Dicionario}
    {ref sub : String} {lidos : List String} {r : Recusa}
    (hchega : Chega rs headers query moment relogios.jwt credencial claims)
    (hok : rs.conferir claims moment.timestamp = .ok (ref, lidos, sub))
    (hquota : rs.quota ref cota = true) :
    rs.autenticar headers query (some moment) relogios ≠ (.error (.recusa r), []) := by
  intro h
  have hread := ResourceServerAuthenticator.reivindicacoes_eq_ok.mpr ⟨credencial, hchega⟩
  unfold ResourceServerAuthenticator.autenticar at h
  simp only [Option.getD_some, hread, ok_bind, hok, hquota, if_true] at h
  have htaken := (Prod.mk.inj h).2
  cases htaken

/-- The code keeps its word exactly on the requests that stay clear of the defects. -/
theorem promessa_iff : Promessa rs headers query moment relogios ↔
    SemDefeito rs headers query moment relogios.jwt := by
  constructor
  · intro h
    by_cases hcumpre : ∃ ref sub, Cumpre rs headers query moment relogios.jwt ref sub
    · exact .inl hcumpre
    · obtain ⟨r, hr⟩ := h.recusa hcumpre
      refine .inr ⟨fun halg => ?_, fun credencial claims hchega hdefeito => ?_⟩
      · exact not_recusa_of_escapa
          (ResourceServerAuthenticator.escapa_checks.mpr (.inl halg)) hr
      · obtain hescapa | ⟨ref, lidos, sub, hok, hquota, -⟩ := hdefeito
        · exact not_recusa_of_escapa (ResourceServerAuthenticator.escapa_checks.mpr
            (.inr ⟨credencial, claims, hchega, hescapa⟩)) hr
        · exact not_recusa_of_conferir hchega hok hquota hr
  · intro h
    have hdevolve : ∀ p tomadas,
        rs.autenticar headers query (some moment) relogios = (.ok p, tomadas) →
        Cumpre rs headers query moment relogios.jwt p.principalRef p.subject ∧
          tomadas = [p.principalRef] := by
      intro p tomadas hp
      obtain ⟨credencial, claims, hchega, hok, hquota, htaken⟩ := conferir_of_autenticar hp
      have hform : ¬Frouxa claims := by
        obtain ⟨ref, sub, hcumpre⟩ | ⟨-, hclear⟩ := h
        · exact hcumpre.not_frouxa hchega
        · intro hfrouxa
          exact hclear _ _ hchega (.inr ⟨_, _, _, hok, hquota, .inr hfrouxa⟩)
      exact ⟨⟨credencial, claims, hchega, hchega.assinado,
        ResourceServerAuthenticator.admite_of_conferir hok p.stated hquota hform⟩, htaken⟩
    refine ⟨hdevolve, fun hnone => ?_⟩
    obtain hcumpre | ⟨halg, hclear⟩ := h
    · exact absurd hcumpre hnone
    have hquiet : ¬Escapa (rs.reivindicacoes headers query moment relogios.jwt >>=
        (rs.conferir · moment.timestamp)) := by
      rw [ResourceServerAuthenticator.escapa_checks]
      rintro (hbad | ⟨credencial, claims, hchega, hescapa⟩)
      · exact halg hbad
      · exact hclear _ _ hchega (.inl hescapa)
    cases hchecks : rs.reivindicacoes headers query moment relogios.jwt >>=
        (rs.conferir · moment.timestamp) with
    | error falha =>
      obtain ⟨r, rfl⟩ := recusa_of_not_escapa hchecks hquiet
      refine ⟨r, ?_⟩
      unfold ResourceServerAuthenticator.autenticar
      simp only [Option.getD_some, hchecks]
    | ok lido =>
      obtain ⟨ref, lidos, sub⟩ := lido
      obtain ⟨claims, hclaims, hok⟩ := bind_eq_ok.mp hchecks
      obtain ⟨credencial, hchega⟩ := ResourceServerAuthenticator.reivindicacoes_eq_ok.mp hclaims
      by_cases hquota : rs.quota ref cota = true
      · by_cases hblank : blank ref = true
        · exact absurd (.inr ⟨_, _, _, hok, hquota, .inl hblank⟩) (hclear _ _ hchega)
        · have hstated : blank ref = false := by simpa using hblank
          have hp : rs.autenticar headers query (some moment) relogios =
              (.ok ⟨ref, lidos, sub, hstated⟩, [ref]) := by
            unfold ResourceServerAuthenticator.autenticar PrincipalAutenticado.criar
            simp only [Option.getD_some, hchecks, hquota, if_true, dif_pos hstated]
          exact absurd ⟨ref, sub, (hdevolve _ _ hp).1⟩ hnone
      · refine ⟨.erroDeAutorizacao "cota esgotada" none, ?_⟩
        unfold ResourceServerAuthenticator.autenticar
        simp only [Option.getD_some, hchecks, hquota]
        rfl

/-! ## The second clock -/

/-- Replacing leaves a text as it is, or puts the characters of the new part in it. -/
theorem substituir_eq_or_mem (padrao : List Char) {novo : List Char} {c : Char} (hc : c ∈ novo)
    (texto : List Char) :
    substituir padrao novo 0 texto = texto ∨ c ∈ substituir padrao novo 0 texto := by
  induction texto with
  | nil => exact .inl rfl
  | cons d ds ih =>
    unfold substituir
    by_cases hcomeca : padrao.isPrefixOf (d :: ds) = true
    · rw [if_pos hcomeca]
      exact .inr (List.mem_append_left _ hc)
    · rw [if_neg hcomeca]
      obtain hsame | hmem := ih
      · exact .inl (by rw [hsame])
      · exact .inr (List.mem_cons_of_mem _ hmem)

theorem redigir_eq_or_mem (texto token : String) :
    redigir texto token = texto ∨ '[' ∈ (redigir texto token).toList := by
  unfold redigir
  by_cases hempty : token = ""
  · exact .inl (if_pos hempty)
  · rw [if_neg hempty]
    have hbracket : '[' ∈ tokenRedacted.toList := by decide
    obtain hsame | hmem := substituir_eq_or_mem token.toList hbracket texto.toList
    · exact .inl (by rw [hsame, String.ofList_toList])
    · exact .inr (by simpa using hmem)

/-- Every 401 of the computation gives one of the reasons. -/
def FalhaEm {α : Type} (motivos : List String) (x : Except Excecao α) : Prop :=
  ∀ motivo, x = .error (.autenticacao motivo) → motivo ∈ motivos

theorem FalhaEm.bind {α β : Type} {motivos : List String} {x : Except Excecao α}
    {f : α → Except Excecao β} (hx : FalhaEm motivos x) (hf : ∀ a, FalhaEm motivos (f a)) :
    FalhaEm motivos (x >>= f) := by
  intro motivo h
  cases x with
  | error falha =>
    have heq : falha = .autenticacao motivo := Except.error.inj h
    exact hx motivo (by rw [heq])
  | ok a => exact hf a motivo h

theorem falhaEm_error {α : Type} {motivos : List String} {motivo : String} (h : motivo ∈ motivos) :
    FalhaEm motivos (.error (.autenticacao motivo) : Except Excecao α) := by
  intro motivo' herror
  have heq : motivo = motivo' := by simpa [Excecao.autenticacao] using herror
  exact heq ▸ h

theorem falhaEm_exigir {motivos : List String} {c : Bool} {motivo : String}
    (h : motivo ∈ motivos) : FalhaEm motivos (exigir c (.autenticacao motivo)) := by
  cases c with
  | true =>
    intro _ herror
    cases herror
  | false => exact falhaEm_error h

/-- The reasons of the checks of the claims. -/
def motivosDasReivindicacoes : List String :=
  ["issuer não confere", "audiência não confere", "token expirado", "token ainda não é válido",
    "token emitido no futuro", "sub ausente"]

theorem falhaEm_validarJanela {claims : Dicionario} {t : ℚ} :
    FalhaEm motivosDasReivindicacoes (validarJanela claims t) := by
  unfold validarJanela
  refine .bind ?_ fun _ => .bind ?_ fun _ => ?_
  · unfold validarExp
    split
    · exact falhaEm_error (by decide)
    · intro _ h
      cases h
    · exact falhaEm_exigir (by decide)
  · unfold validarNbf
    split
    · intro _ h
      cases h
    · split
      · exact falhaEm_error (by decide)
      · intro _ h
        cases h
      · exact falhaEm_exigir (by decide)
  · unfold validarIat
    split
    · intro _ h
      cases h
    · intro _ h
      cases h
    · exact falhaEm_exigir (by decide)

theorem falhaEm_conferir {claims : Dicionario} {t : ℚ} :
    FalhaEm motivosDasReivindicacoes (rs.conferir claims t) := by
  unfold ResourceServerAuthenticator.conferir
  refine .bind ?_ fun _ => .bind ?_ fun aceitas => .bind ?_ fun _ =>
    .bind falhaEm_validarJanela fun _ => .bind ?_ fun sub => .bind ?_ fun ref => .bind ?_ fun _ => ?_
  · exact falhaEm_exigir (by decide)
  · intro _ h
    unfold audiencias at h
    split at h
    · cases h
    · split at h <;> cases h
    · cases h
    · split at h <;> cases h
  · exact falhaEm_exigir (by decide)
  · unfold ResourceServerAuthenticator.subject
    split
    · split
      · exact falhaEm_error (by decide)
      · intro _ h
        cases h
    · exact falhaEm_error (by decide)
  · intro _ h
    unfold ResourceServerAuthenticator.principal at h
    split at h <;> cases h
  · intro _ h
    unfold exigir at h
    split at h <;> cases h
  · intro _ h
    cases h

/-- The refusal of the library's clock, as the code reports it. -/
def motivoDoRelogio (token : String) : String := redigir ("token inválido: " ++ textoIat) token

/-- No check of the code gives the reason of the library's clock. -/
theorem motivoDoRelogio_notMem (token : String) :
    motivoDoRelogio token ∉ "reivindicações malformadas" :: motivosDasReivindicacoes := by
  intro hmem
  have htexto : "token inválido: " ++ textoIat ∉
      "reivindicações malformadas" :: motivosDasReivindicacoes := by decide
  have hbracket : ∀ motivo ∈ "reivindicações malformadas" :: motivosDasReivindicacoes,
      '[' ∉ motivo.toList := by decide
  obtain hsame | hredacted := redigir_eq_or_mem ("token inválido: " ++ textoIat) token
  · exact htexto (hsame ▸ hmem)
  · exact hbracket _ hmem hredacted

/-- The token passes the checks of the library that read no clock, and has an `iat`. -/
def LeORelogio (rs : ResourceServerAuthenticator Chave) (headers query : List (String × String))
    (agora : Momento) : Prop :=
  ∃ credencial claims, ∃ n : ℤ, Apresenta rs headers query agora credencial ∧
    rs.jwt.verificado credencial.token credencial.chave [credencial.alg] rs.config.audience
      rs.config.issuer ResourceServerAuthenticator.opcoes.require = .ok claims ∧
    rs.jwt.instante "iat" claims = .ok (some n)

/-- The answer of the library where it reads its clock. -/
theorem Jwt.decode_of_instante {jwt : Jwt Chave} {token alg audience issuer : String}
    {chave : Chave} {claims : Valor} {n : ℤ} (relogio : ℚ)
    (hclaims : jwt.verificado token chave [alg] audience issuer
      ResourceServerAuthenticator.opcoes.require = .ok claims)
    (hiat : jwt.instante "iat" claims = .ok (some n)) :
    jwt.decode token chave [alg] audience issuer ResourceServerAuthenticator.opcoes relogio =
      if relogio < n then .error textoIat else .ok claims := by
  unfold Jwt.decode
  rw [hclaims]
  simp only [ok_bind, hiat]
  by_cases hlt : relogio < n
  · simp only [conferido, ResourceServerAuthenticator.opcoes, hlt, if_true, decide_true]
    rfl
  · simp only [conferido, ResourceServerAuthenticator.opcoes, hlt, if_false, decide_false]
    rfl

/-- Where the library reads no clock, its answer does not depend on one. -/
theorem Jwt.decode_congr {jwt : Jwt Chave} {token alg audience issuer : String} {chave : Chave}
    (relogio relogio' : ℚ)
    (h : ∀ claims, jwt.verificado token chave [alg] audience issuer
      ResourceServerAuthenticator.opcoes.require = .ok claims →
      ∀ n, jwt.instante "iat" claims ≠ .ok (some n)) :
    jwt.decode token chave [alg] audience issuer ResourceServerAuthenticator.opcoes relogio =
      jwt.decode token chave [alg] audience issuer ResourceServerAuthenticator.opcoes relogio' := by
  unfold Jwt.decode
  cases hclaims : jwt.verificado token chave [alg] audience issuer
      ResourceServerAuthenticator.opcoes.require with
  | error falha => rfl
  | ok claims =>
    have hnone := h claims hclaims
    cases hiat : jwt.instante "iat" claims with
    | error falha => simp [hiat, conferido, ResourceServerAuthenticator.opcoes]
    | ok n? =>
      cases n? with
      | none => simp [hiat, conferido, ResourceServerAuthenticator.opcoes]
      | some n => exact absurd hiat (hnone n)

/-- The answer at an injected instant depends on a second clock exactly where the library
reads its own for `iat`. -/
theorem relogio_iff :
    (∀ relogios relogios', rs.autenticar headers query (some moment) relogios =
      rs.autenticar headers query (some moment) relogios') ↔
      ¬LeORelogio rs headers query moment := by
  constructor
  · rintro hsame ⟨credencial, claims, n, hpresent, hclaims, hiat⟩
    have hok := ResourceServerAuthenticator.apresentar_eq_ok.mpr hpresent
    have hbefore : ((n : ℚ) - 1) < n := by linarith
    have hrefused : rs.autenticar headers query (some moment) ⟨moment, n - 1⟩ =
        (.error (.autenticacao (motivoDoRelogio credencial.token)), []) := by
      unfold ResourceServerAuthenticator.autenticar ResourceServerAuthenticator.reivindicacoes
        ResourceServerAuthenticator.verificar
      simp only [Option.getD_some, hok, ok_bind, Jwt.decode_of_instante _ hclaims hiat,
        if_pos hbefore]
      rfl
    have hthere := (hsame ⟨moment, n⟩ ⟨moment, n - 1⟩).trans hrefused
    have hdecode := Jwt.decode_of_instante (n : ℚ) hclaims hiat
    rw [if_neg (lt_irrefl _)] at hdecode
    unfold ResourceServerAuthenticator.autenticar ResourceServerAuthenticator.reivindicacoes
      ResourceServerAuthenticator.verificar at hthere
    simp only [Option.getD_some, hok, ok_bind, hdecode] at hthere
    have hmotivo := motivoDoRelogio_notMem credencial.token
    cases claims with
    | obj fields =>
      simp only [ok_bind] at hthere
      cases hchecks : rs.conferir fields moment.timestamp with
      | error falha =>
        simp only [hchecks] at hthere
        have heq := Except.error.inj (Prod.mk.inj hthere).1
        have hmem := falhaEm_conferir _ (heq ▸ hchecks)
        exact hmotivo (List.mem_cons_of_mem _ hmem)
      | ok lido =>
        simp only [hchecks] at hthere
        split at hthere
        · cases (Prod.mk.inj hthere).2
        · cases (Prod.mk.inj hthere).1
    | null | bool | int | float | str | arr =>
      have heq : "reivindicações malformadas" = motivoDoRelogio credencial.token := by
        have herror := Except.error.inj (Prod.mk.inj hthere).1
        simpa [Excecao.autenticacao] using herror
      exact hmotivo (heq ▸ List.mem_cons_self)
  · intro hfree relogios relogios'
    have hread : rs.reivindicacoes headers query moment relogios.jwt =
        rs.reivindicacoes headers query moment relogios'.jwt := by
      unfold ResourceServerAuthenticator.reivindicacoes
      cases hpresent : rs.apresentar headers query moment with
      | error falha => rfl
      | ok credencial =>
        simp only [ok_bind]
        unfold ResourceServerAuthenticator.verificar
        rw [Jwt.decode_congr relogios.jwt relogios'.jwt]
        intro claims hclaims n hiat
        exact hfree ⟨credencial, claims, n,
          ResourceServerAuthenticator.apresentar_eq_ok.mp hpresent, hclaims, hiat⟩
    unfold ResourceServerAuthenticator.autenticar
    simp only [Option.getD_some, hread]

end Autenticar

end PiaOs.Mcp
