import PiaOs.Memory.Experience
import PiaOs.Transactions.Savepoints

/-!
# The store of validated experiences

A row holds the values of the vocabularies as text and its evidence as canonical JSON, and a
reading builds the object again. An append looks for its identity, inserts under a savepoint
and, when another session was first, compares what it was asked to record with what is there.
-/

namespace PiaOs.Memory.Experience

open Piap Transactions.Savepoints

/-- What the driver or the database says of a row that it does not take. -/
inductive ErroDoBanco
  | codificacao (coluna : String)
  | caractereNulo (coluna : String)
  | inteiroForaDoIntervalo (coluna : String)
  | textoLongo (coluna : String)
  | restricao (nome : String)
  deriving DecidableEq

inductive Erro
  | conflito (experienceId : Referencia) (campos : List Campo)
  | integridade
  | banco (e : ErroDoBanco)
  | transacaoFalhou
  | recusa (r : Recusa)
  | valorDesconhecido (coluna valor : String)
  deriving DecidableEq

/-! ## Rows -/

structure Linha where
  id : Referencia
  subjectKind : String
  subjectRef : Referencia
  outcomeToken : String
  observedAt : Instante
  primaryEvidenceKind : String
  primaryEvidenceRef : Referencia
  validatorKind : String
  validatorRef : String
  criterionKey : String
  criterionVersion : ℤ
  criterionOrigin : String
  evidenceRefs : List (String × String)
  validatedAt : Instante
  originRef : Referencia
  deriving DecidableEq

/-- `_canonizar`. -/
def canonizar (referencias : List EvidenceReference) : Except Recusa (List EvidenceReference) :=
  let chaves := referencias.map EvidenceReference.sortKey
  match primeiraRecusa [quando referencias.isEmpty .lastroVazio,
    quando (repetidas chaves) .lastroRepetido, quando (foraDeOrdem chaves) .lastroForaDeOrdem] with
  | some r => .error r
  | none => .ok referencias

/-- `process_bind_param`. -/
def processBindParam (referencias : List EvidenceReference) : Except Erro (List (String × String)) :=
  match canonizar referencias with
  | .error r => .error (.recusa r)
  | .ok referencias => .ok (referencias.map EvidenceReference.sortKey)

/-- The member of a vocabulary with the stored value. -/
def membroGravado {α : Type} (coluna : String) (membros : List α) (value : α → String)
    (gravado : String) : Except Erro α :=
  match membros.find? fun m => value m = gravado with
  | some m => .ok m
  | none => .error (.valorDesconhecido coluna gravado)

def evidenceKinds : List EvidenceKind :=
  [.cognitiveObject, .causalEvent, .provenanceRecord, .transformationRecord]

/-- `EvidenceReference(kind=EvidenceKind(item["kind"]), ref=uuid.UUID(item["ref"]))`. A `CHECK` of
the table lets only canonical texts of identifiers in. -/
def evidenciaGravada (item : String × String) : Except Erro EvidenceReference := do
  let kind ← membroGravado "evidence_refs" evidenceKinds EvidenceKind.value item.1
  match uuidCanonico? (Texto.of item.2) with
  | some ref => return ⟨kind, ref⟩
  | none => .error (.valorDesconhecido "evidence_refs" item.2)

/-- `process_result_value`. -/
def processResultValue (itens : List (String × String)) : Except Erro (List EvidenceReference) := do
  let referencias ← itens.mapM evidenciaGravada
  match canonizar referencias with
  | .error r => .error (.recusa r)
  | .ok referencias => return referencias

/-- The driver sends a text in UTF-8. -/
def codificado (coluna : String) (t : Texto) : Except Erro String :=
  match t.string? with
  | some s => .ok s
  | none => .error (.banco (.codificacao coluna))

/-- The parameters of the `INSERT` of an object. -/
def ValidatedExperience.gravar (e : ValidatedExperience) : Except Erro Linha := do
  let evidenceRefs ← processBindParam e.evidenceRefs
  let outcomeToken ← codificado "outcome_token" e.outcomeToken
  let validatorRef ← codificado "validator_ref" e.validatorRef
  let criterionKey ← codificado "criterion_key" e.criterionKey
  return {
    id := e.id
    subjectKind := e.subjectKind.value
    subjectRef := e.subjectRef
    outcomeToken
    observedAt := e.observedAt
    primaryEvidenceKind := e.primaryEvidenceKind.value
    primaryEvidenceRef := e.primaryEvidenceRef
    validatorKind := e.validatorKind.value
    validatorRef
    criterionKey
    criterionVersion := e.criterionVersion
    criterionOrigin := e.criterionOrigin.value
    evidenceRefs
    validatedAt := e.validatedAt
    originRef := e.originRef }

/-- The object of a stored row. -/
def Linha.ler (l : Linha) : Except Erro ValidatedExperience := do
  let subjectKind ← membroGravado "subject_kind" [.cognitiveObject, .causalEvent]
    ExperienceSubjectKind.value l.subjectKind
  let primaryEvidenceKind ← membroGravado "primary_evidence_kind" evidenceKinds
    EvidenceKind.value l.primaryEvidenceKind
  let validatorKind ← membroGravado "validator_kind" [.human, .agent, .system]
    ValidatorKind.value l.validatorKind
  let criterionOrigin ← membroGravado "criterion_origin" [.published, .declared]
    CriterionOriginKind.value l.criterionOrigin
  let evidenceRefs ← processResultValue l.evidenceRefs
  return {
    id := l.id
    subjectKind
    subjectRef := l.subjectRef
    outcomeToken := Texto.of l.outcomeToken
    observedAt := l.observedAt
    primaryEvidenceKind
    primaryEvidenceRef := l.primaryEvidenceRef
    validatorKind
    validatorRef := Texto.of l.validatorRef
    criterionKey := Texto.of l.criterionKey
    criterionVersion := l.criterionVersion
    criterionOrigin
    evidenceRefs
    validatedAt := l.validatedAt
    originRef := l.originRef }

/-! ## What the table refuses -/

def recusar (c : Bool) (e : ErroDoBanco) : Option ErroDoBanco := if c then some e else none

/-- The first check that refuses. -/
def primeiroErro (checks : List (Option ErroDoBanco)) : Option ErroDoBanco := checks.findSome? id

/-- `length(btrim(t)) > 0`. -/
def preenchido (t : String) : Bool := t.toList.any (· ≠ ' ')

/-- A `varchar(n)`: no null character, and at most `n` characters. -/
def recusaDoTexto (coluna : String) (n : ℕ) (t : String) : Option ErroDoBanco :=
  (recusar (t.toList.contains '\x00') (.caractereNulo coluna)).or
    (recusar (n < t.length) (.textoLongo coluna))

/-- `(item ->> 'kind') || '|' || (item ->> 'ref')`. -/
def chaveDoItem (item : String × String) : String := item.1 ++ "|" ++ item.2

/-- The text of an identifier as `str` writes it. -/
def padraoUuid (t : String) : Bool := (uuidCanonico? (Texto.of t)).isSome

/-- `validated_experience_evidence_is_canonical`. -/
def evidenciaCanonica (itens : List (String × String)) (primaria : String × String) : Bool :=
  !itens.isEmpty &&
    itens.all (fun item => evidenceKinds.any (fun k => k.value == item.1) && padraoUuid item.2) &&
    decide (itens.Pairwise fun anterior atual =>
      textoAntes (chaveDoItem anterior) (chaveDoItem atual) = true) &&
    itens.contains primaria

/-- What the driver and the columns refuse, and then the checks of the table. -/
def Linha.recusa (l : Linha) : Option ErroDoBanco := primeiroErro
  [recusaDoTexto "outcome_token" maxTokenLength l.outcomeToken,
    recusaDoTexto "validator_ref" maxRefLength l.validatorRef,
    recusaDoTexto "criterion_key" maxCriterionKeyLength l.criterionKey,
    recusar (!(-2147483648 ≤ l.criterionVersion && l.criterionVersion ≤ 2147483647))
      (.inteiroForaDoIntervalo "criterion_version"),
    recusar (!preenchido l.validatorRef)
      (.restricao "ck_validated_experiences_validator_ref_not_blank"),
    recusar (!preenchido l.criterionKey)
      (.restricao "ck_validated_experiences_criterion_key_not_blank"),
    recusar (!preenchido l.outcomeToken)
      (.restricao "ck_validated_experiences_outcome_token_not_blank"),
    recusar (l.criterionVersion < 1)
      (.restricao "ck_validated_experiences_criterion_version_positive"),
    recusar (l.validatedAt.val < l.observedAt.val)
      (.restricao "ck_validated_experiences_observed_before_validated"),
    recusar (!evidenciaCanonica l.evidenceRefs (l.primaryEvidenceKind, l.primaryEvidenceRef.str))
      (.restricao "ck_validated_experiences_evidence_refs_canonical")]

/-- A write of a transaction: a row of the table, or a write of its caller elsewhere. -/
inductive Escrita (τ : Type)
  | experiencia (l : Linha)
  | outra (w : τ)
  deriving DecidableEq

def Escrita.linha? {τ : Type} : Escrita τ → Option Linha
  | .experiencia l => some l
  | .outra _ => none

/-- The table, with its primary key, beside the other tables of the database. -/
def banco {τ χ ε : Type} (outras : Engine τ χ ε) :
    Engine (Escrita τ) (Referencia ⊕ χ) (ErroDoBanco ⊕ ε) where
  keys
    | .experiencia l => [.inl l.id]
    | .outra w => (outras.keys w).map .inr
  keys_nodup
    | .experiencia _ => List.nodup_singleton _
    | .outra w => (outras.keys_nodup w).map Sum.inr_injective
  refuses
    | .experiencia l => l.recusa.map .inl
    | .outra w => (outras.refuses w).map .inr
  direct
    | .experiencia _ => false
    | .outra _ => true

/-! ## The repository -/

section Repository

variable {τ χ ε : Type}

/-- The rows of the table that a session sees. -/
def linhas (visto : List (Escrita τ)) : List Linha := visto.filterMap Escrita.linha?

def get (visto : List (Escrita τ)) (experienceId : Referencia) :
    Except Erro (Option ValidatedExperience) :=
  match (linhas visto).find? fun l => l.id = experienceId with
  | none => .ok none
  | some l => l.ler.map some

/-- `_materializar`. The assignment of the evidence checks it again. -/
def materializar (entrada : ValidatedExperienceAppend) : Except Recusa ValidatedExperience := do
  let evidenceRefs ← canonizar entrada.evidenceRefs
  return {
    id := entrada.experienceId
    subjectKind := entrada.subjectRef.kind
    subjectRef := entrada.subjectRef.ref
    outcomeToken := entrada.outcomeObserved.outcomeToken
    observedAt := entrada.outcomeObserved.observedAt
    primaryEvidenceKind := entrada.outcomeObserved.primaryEvidenceRef.kind
    primaryEvidenceRef := entrada.outcomeObserved.primaryEvidenceRef.ref
    validatorKind := entrada.validatedBy.validatorKind
    validatorRef := entrada.validatedBy.validatorRef
    criterionKey := entrada.criterionRef.criterionKey
    criterionVersion := entrada.criterionRef.criterionVersion
    criterionOrigin := entrada.criterionRef.criterionOrigin
    evidenceRefs
    validatedAt := entrada.validatedAt
    originRef := entrada.origin }

/-- The canonical fields in which two records differ. -/
def divergentes (existente candidato : ValidatedExperience) : List Campo :=
  camposCanonicos.filter (Campo.diverge existente candidato)

/-- `_reconciliar`. -/
def reconciliar (existente : ValidatedExperience) (entrada : ValidatedExperienceAppend) :
    Except Erro ValidatedExperience :=
  match materializar entrada with
  | .error r => .error (.recusa r)
  | .ok candidato =>
    match divergentes existente candidato with
    | [] => .ok existente
    | campos => .error (.conflito entrada.experienceId campos)

/-- A violation of the primary key, and of no other one. -/
def eColisaoDeIdentidade : Referencia ⊕ χ → Bool
  | .inl _ => true
  | .inr _ => false

/-- The program of an append. -/
abbrev Programa (τ χ ε : Type) : Type :=
  Prog (Escrita τ) (Referencia ⊕ χ) (ErroDoBanco ⊕ ε) (Except Erro ValidatedExperience)

/-- After a collision: the row of the session that was first. -/
def lerConcorrente (entrada : ValidatedExperienceAppend) : Programa τ χ ε :=
  .select fun
    | none => .pure (.error .transacaoFalhou)
    | some visto =>
      match get visto entrada.experienceId with
      | .error e => .pure (.error e)
      | .ok none => .pure (.error .integridade)
      | .ok (some concorrente) => .pure (reconciliar concorrente entrada)

/-- The answer of the database to the `INSERT`, under the savepoint. -/
def responder (entrada : ValidatedExperienceAppend) (registro : ValidatedExperience) :
    Reply (Referencia ⊕ χ) (ErroDoBanco ⊕ ε) → Programa τ χ ε
  | .written => .release (.pure (.ok registro))
  | .duplicate chave =>
    .rollback (if eColisaoDeIdentidade chave then lerConcorrente entrada
      else .pure (.error .integridade))
  | .refused (.inl e) => .rollback (.pure (.error (.banco e)))
  | .refused (.inr _) | .nothing | .failed => .rollback (.pure (.error .transacaoFalhou))

def append (entrada : ValidatedExperienceAppend) : Programa τ χ ε :=
  .select fun
    | none => .pure (.error .transacaoFalhou)
    | some visto =>
      match get visto entrada.experienceId with
      | .error e => .pure (.error e)
      | .ok (some existente) => .pure (reconciliar existente entrada)
      | .ok none =>
        match materializar entrada with
        | .error r => .pure (.error (.recusa r))
        | .ok registro => .savepoint fun
          | false => .pure (.error .transacaoFalhou)
          | true =>
            match registro.gravar with
            | .error e => .rollback (.pure (.error e))
            | .ok linha => .insert (.experiencia linha) none (responder entrada registro)

end Repository

end PiaOs.Memory.Experience
