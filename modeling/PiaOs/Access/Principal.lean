import Mathlib.Data.List.Dedup
import Mathlib.Data.List.TakeWhile
import PiaOs.Model.Values
import PiaOs.Support.Checked
import PiaOs.Support.Sha256

/-!
# Technical principals and their credentials

A principal of service, the grammar of its bearer credential and the digest that
stands for its secret. The digest binds the secret to the key id by hashing both.
-/

namespace PiaOs.Access

open Support

def scopePredictiveEvaluate : String := "predictive:evaluate"

def scopeOrchestrationOperate : String := "orchestration:operate"

def programmaticScopes : List String := [scopePredictiveEvaluate, scopeOrchestrationOperate]

def operationPredictiveEvaluate : String := "predictive_evaluate"

def operationOrchestrationApi : String := "orchestration_api"

/-- `sorted(set(items))`. -/
def sortedSet (items : List String) : List String := items.dedup.insertionSort (· ≤ ·)

@[simp] theorem mem_sortedSet {items : List String} {s : String} :
    s ∈ sortedSet items ↔ s ∈ items := by
  rw [sortedSet, (List.perm_insertionSort _ _).mem_iff, List.mem_dedup]

/-- `canonical_scopes`: the vocabulary is closed when scopes are written. -/
def canonicalScopes (scopes : List String) : Except String (List String) :=
  match scopes.find? fun item => item ∉ programmaticScopes with
  | some item => .error ("escopo fora do vocabulário fechado da E6.2: " ++ pyRepr item)
  | none =>
    if scopes = [] then .error "um principal técnico sem escopo não conseguiria fazer nada"
    else .ok (sortedSet scopes)

/-- `normalize_persisted_scopes`: nothing is refused when scopes are read. -/
def normalizePersistedScopes (scopes : List String) : List String := sortedSet scopes

/-- A row of the table of principals. -/
structure ProgrammaticServicePrincipal where
  id : Uuid
  keyId : String
  secretDigest : String
  scopes : List String
  quotaLimit : Int
  quotaWindowSeconds : Int
  description : Option String := none
  expiresAt : Option Instant := none
  revokedAt : Option Instant := none
  deriving DecidableEq

def ProgrammaticServicePrincipal.isActiveAt (linha : ProgrammaticServicePrincipal)
    (moment : Instant) : Bool :=
  if linha.revokedAt ≠ none then false else linha.expiresAt.all (moment < ·)

theorem ProgrammaticServicePrincipal.isActiveAt_iff {linha : ProgrammaticServicePrincipal}
    {moment : Instant} : linha.isActiveAt moment = true ↔
      linha.revokedAt = none ∧ ∀ expira ∈ linha.expiresAt, moment < expira := by
  unfold isActiveAt
  by_cases hrevoked : linha.revokedAt = none
  · cases hexpires : linha.expiresAt <;> simp [hrevoked]
  · simp [hrevoked]

/-- The errors that the interface publishes, and an exception that nothing catches. -/
inductive ApiError
  | authentication (detail : String)
  | insufficientScope (detail : String)
  | databaseUnavailable (detail : String)
  | tooManyRequests (detail : String)
  | unhandled
  deriving DecidableEq

def publicAuthDetail : String := "credencial de serviço ausente ou inválida"

def publicScopeDetail : String := "principal técnico sem o escopo exigido para esta operação"

/-- What is left of the principal once it is authenticated. -/
structure ProgrammaticPrincipal where
  id : Uuid
  keyId : String
  scopes : List String
  quotaLimit : Int
  quotaWindowSeconds : Int
  deriving DecidableEq

def ProgrammaticPrincipal.hasScope (principal : ProgrammaticPrincipal) (scope : String) : Bool :=
  scope ∈ principal.scopes

def domainLabel : String := "pia-os/e6.2/programmatic-service-principal/v1"

/-- What is hashed for a pair of key id and secret. -/
def mensagem (keyId secret : String) : String := domainLabel ++ ":" ++ keyId ++ ":" ++ secret

/-- `compute_secret_digest`, under the secret key of the deployment. -/
def computeSecretDigest (secretKey keyId secret : String) : String :=
  Sha256.hmacHexdigest secretKey (mensagem keyId secret)

/-- With the key id fixed, the message determines the secret. -/
theorem mensagem_inj {keyId secret secret' : String}
    (h : mensagem keyId secret = mensagem keyId secret') : secret = secret' := by
  have hchars := congrArg String.toList h
  simp only [mensagem, String.toList_append, List.append_assoc] at hchars
  exact String.toList_injective (List.append_cancel_left (List.append_cancel_left
    (List.append_cancel_left (List.append_cancel_left hchars))))

/-- `hmac.compare_digest` on texts, which raises a `TypeError` outside ASCII. -/
def compareDigest (esperado digest : String) : Except ApiError Bool :=
  if (esperado.toList ++ digest.toList).all (·.toNat < 128) then .ok (esperado == digest)
  else .error .unhandled

/-- A digest as the provisioning writes it can be compared. -/
theorem compareDigest_eq_ok {secretKey keyId secret keyId' secret' : String} :
    compareDigest (computeSecretDigest secretKey keyId secret)
        (computeSecretDigest secretKey keyId' secret') =
      .ok (computeSecretDigest secretKey keyId secret ==
        computeSecretDigest secretKey keyId' secret') := by
  have hhex : ∀ c : Char, isHexDigit c = true → c.toNat < 128 := by
    intro c hc
    simp only [isHexDigit, Bool.or_eq_true, Bool.and_eq_true, decide_eq_true_eq] at hc
    rcases hc with ⟨-, hhigh⟩ | ⟨-, hhigh⟩
    · exact lt_of_le_of_lt hhigh (by decide)
    · exact lt_of_le_of_lt hhigh (by decide)
  unfold compareDigest
  rw [if_pos]
  rw [List.all_append, Bool.and_eq_true, List.all_eq_true, List.all_eq_true]
  refine ⟨fun c hc => decide_eq_true (hhex c ?_), fun c hc => decide_eq_true (hhex c ?_)⟩
  · exact Sha256.isHexDigit_of_mem_hmacHexdigest hc
  · exact Sha256.isHexDigit_of_mem_hmacHexdigest hc

/-! ## The bearer credential -/

def tokenPrefix : List Char := "pia_".toList

def bearerPrefix : List Char := "Bearer ".toList

/-- `str.strip()`. -/
def strip (text : List Char) : List Char :=
  ((text.dropWhile isSpace).reverse.dropWhile isSpace).reverse

/-- A text is what comes before the first of a character, the character and the rest. -/
theorem takeWhile_cons_tail {c : Char} {text : List Char} (h : c ∈ text) :
    text.takeWhile (· ≠ c) ++ c :: (text.dropWhile (· ≠ c)).tail = text := by
  have hne : text.dropWhile (· ≠ c) ≠ [] := by
    intro hnone
    rw [List.dropWhile_eq_nil_iff] at hnone
    exact absurd (hnone c h) (by simp)
  have hhead : (text.dropWhile (· ≠ c)).head hne = c := by
    simpa using List.head_dropWhile_not (· ≠ c) hne
  have hcons := List.cons_head_tail hne
  rw [hhead] at hcons
  rw [hcons, List.takeWhile_append_dropWhile]

theorem notMem_takeWhile (c : Char) (text : List Char) : c ∉ text.takeWhile (· ≠ c) :=
  fun hmem => by simpa using List.mem_takeWhile_imp hmem

/-- `parse_bearer_credential`: every form that does not fit is the same refusal. -/
def parseBearerCredential (header : Option String) : Except ApiError (String × String) :=
  let recusa := .error (.authentication publicAuthDetail)
  match header with
  | none => recusa
  | some value =>
    if ¬bearerPrefix <+: value.toList then recusa
    else
      let token := strip (value.toList.drop bearerPrefix.length)
      if ¬tokenPrefix <+: token then recusa
      else
        let corpo := token.drop tokenPrefix.length
        let keyId := corpo.takeWhile (· ≠ '.')
        let secret := (corpo.dropWhile (· ≠ '.')).tail
        if '.' ∉ corpo ∨ keyId = [] ∨ secret = [] then recusa
        else .ok (String.ofList keyId, String.ofList secret)

/-- What an accepted header looks like: once stripped, what follows the scheme is the
token of the pair. -/
structure Credencial (value keyId secret : String) : Prop where
  token : ∃ resto, value.toList = bearerPrefix ++ resto ∧
    strip resto = tokenPrefix ++ keyId.toList ++ '.' :: secret.toList
  keyId_undotted : '.' ∉ keyId.toList
  keyId_stated : keyId ≠ ""
  secret_stated : secret ≠ ""

theorem of_parseBearerCredential {header : Option String} {keyId secret : String}
    (h : parseBearerCredential header = .ok (keyId, secret)) :
    ∃ value, header = some value ∧ Credencial value keyId secret := by
  unfold parseBearerCredential at h
  cases header with
  | none => cases h
  | some value =>
    simp only at h
    split at h
    case isTrue => cases h
    case isFalse hbearer =>
      obtain ⟨resto, hresto⟩ := not_not.mp hbearer
      rw [← hresto, List.drop_left] at h
      split at h
      case isTrue => cases h
      case isFalse htoken =>
        obtain ⟨corpo, hcorpo⟩ := not_not.mp htoken
        rw [← hcorpo, List.drop_left] at h
        split at h
        case isTrue => cases h
        case isFalse hparts =>
          simp only [not_or, not_not] at hparts
          obtain ⟨hdot, hkey, hsecret⟩ := hparts
          simp only [Except.ok.injEq, Prod.mk.injEq] at h
          obtain ⟨rfl, rfl⟩ := h
          have hwhole : tokenPrefix ++ corpo.takeWhile (· ≠ '.') ++
              '.' :: (corpo.dropWhile (· ≠ '.')).tail = strip resto := by
            rw [List.append_assoc, takeWhile_cons_tail hdot, hcorpo]
          refine ⟨value, rfl, ⟨resto, hresto.symm, ?_⟩, ?_, ?_, ?_⟩
          · simp only [String.toList_ofList]
            exact hwhole.symm
          · simp only [String.toList_ofList]
            exact notMem_takeWhile '.' corpo
          · exact fun heq => hkey (by simpa using congrArg String.toList heq)
          · exact fun heq => hsecret (by simpa using congrArg String.toList heq)

example : parseBearerCredential (some "Bearer  pia_key.se.cret ") = .ok ("key", "se.cret") := by
  decide

example : parseBearerCredential (some "bearer pia_key.secret") =
    .error (.authentication publicAuthDetail) := by decide

end PiaOs.Access
