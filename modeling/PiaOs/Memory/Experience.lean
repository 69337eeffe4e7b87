import PiaOs.Piap.Codec

/-!
# Validated experiences

What an append has to declare: the subject, the outcome with its evidence, who validated, the
criterion, the whole evidence and the instants. Each value object checks its own fields.
-/

namespace PiaOs.Memory.Experience

open Support Piap

inductive ExperienceSubjectKind
  | cognitiveObject | causalEvent
  deriving DecidableEq

inductive ValidatorKind
  | human | agent | system
  deriving DecidableEq

inductive EvidenceKind
  | cognitiveObject | causalEvent | provenanceRecord | transformationRecord
  deriving DecidableEq

inductive CriterionOriginKind
  | published | declared
  deriving DecidableEq

def ExperienceSubjectKind.value : ExperienceSubjectKind → String
  | .cognitiveObject => "cognitive_object"
  | .causalEvent => "causal_event"

def ValidatorKind.value : ValidatorKind → String
  | .human => "human"
  | .agent => "agent"
  | .system => "system"

def EvidenceKind.value : EvidenceKind → String
  | .cognitiveObject => "cognitive_object"
  | .causalEvent => "causal_event"
  | .provenanceRecord => "provenance_record"
  | .transformationRecord => "transformation_record"

def CriterionOriginKind.value : CriterionOriginKind → String
  | .published => "published"
  | .declared => "declared"

/-- What a value object refuses. -/
inductive Recusa
  | vazio (nome : String)
  | excede (nome : String) (tamanho : ℕ)
  | foraDaGramatica (nome : String) (valor : Texto)
  | controle (nome : String)
  | ingenuo (nome : String)
  | foraDoCalendario (nome : String)
  | versaoMenorQueUm
  | lastroVazio
  | lastroRepetido
  | lastroForaDeOrdem
  | observadoDepois
  | primariaForaDoLastro
  deriving DecidableEq

/-- The first check that refuses. -/
def primeiraRecusa (checks : List (Option Recusa)) : Option Recusa := checks.findSome? id

def quando (c : Bool) (r : Recusa) : Option Recusa := if c then some r else none

/-! ## Fields -/

def maxTokenLength : ℕ := 64
def maxRefLength : ℕ := 255
def maxCriterionKeyLength : ℕ := 128

/-- `[a-z]`, `[a-z0-9]` and `[._-]`. -/
def minuscula : CodePoint → Bool
  | .char c => 'a' ≤ c && c ≤ 'z'
  | .surrogate _ => false

def alfanumerico : CodePoint → Bool
  | .char c => ('a' ≤ c && c ≤ 'z') || ('0' ≤ c && c ≤ '9')
  | .surrogate _ => false

def separador : CodePoint → Bool
  | .char c => c == '.' || c == '_' || c == '-'
  | .surrogate _ => false

/-- `[a-z0-9]*(?:[._-][a-z0-9]+)*`. After a separator there has to be something. -/
def gruposDoToken : Bool → Texto → Bool
  | aberto, [] => !aberto
  | aberto, c :: t =>
    if alfanumerico c then gruposDoToken false t
    else separador c && !aberto && gruposDoToken true t

/-- `GRAMATICA_DO_TOKEN.fullmatch(valor)`. -/
def gramaticaDoToken : Texto → Bool
  | [] => false
  | c :: t => minuscula c && gruposDoToken false t

def validarTokenDeResultado (nome : String) (valor : Texto) : Option Recusa :=
  primeiraRecusa
    [quando valor.isEmpty (.vazio nome),
      quando (maxTokenLength < valor.length) (.excede nome maxTokenLength),
      quando (!gramaticaDoToken valor) (.foraDaGramatica nome valor)]

def validarReferenciaOpaca (nome : String) (valor : Texto) (tamanho : ℕ) : Option Recusa :=
  primeiraRecusa
    [quando (valor.all CodePoint.isSpace) (.vazio nome),
      quando (tamanho < valor.length) (.excede nome tamanho),
      quando (valor.any CodePoint.proibido) (.controle nome)]

/-- `canonizar_instante`: an instant of a reading with an offset, on the clock of UTC. -/
def canonizarInstante (nome : String) : Momento → Except Recusa Instante
  | .ingenuo _ => .error (.ingenuo nome)
  | .ciente t => if h : t.Representable then .ok ⟨t.instant, h⟩ else .error (.foraDoCalendario nome)

/-! ## Value objects -/

structure ExperienceSubjectRef where
  kind : ExperienceSubjectKind
  ref : Referencia
  deriving DecidableEq

structure EvidenceReference where
  kind : EvidenceKind
  ref : Referencia
  deriving DecidableEq

/-- `sort_key`. -/
def EvidenceReference.sortKey (e : EvidenceReference) : String × String := (e.kind.value, e.ref.str)

/-- `a < b` on texts and on such keys. -/
def textoAntes (a b : String) : Bool := (Texto.of a).antes (Texto.of b)

def chaveAntes (a b : String × String) : Bool :=
  textoAntes a.1 b.1 || (a.1 == b.1 && textoAntes a.2 b.2)

/-- `len(set(chaves)) != len(chaves)` and `chaves != sorted(chaves)`. -/
def repetidas (chaves : List (String × String)) : Bool := !decide chaves.Nodup

def foraDeOrdem (chaves : List (String × String)) : Bool :=
  !decide (chaves.Pairwise fun a b => chaveAntes b a = false)

structure ObservedOutcome where
  outcomeToken : Texto
  observedAt : Instante
  primaryEvidenceRef : EvidenceReference
  outcomeToken_ok : validarTokenDeResultado "outcome_token" outcomeToken = none

structure AttributedValidator where
  validatorKind : ValidatorKind
  validatorRef : Texto
  validatorRef_ok : validarReferenciaOpaca "validator_ref" validatorRef maxRefLength = none

structure CriterionReference where
  criterionKey : Texto
  criterionVersion : ℤ
  criterionOrigin : CriterionOriginKind
  criterionKey_ok : validarReferenciaOpaca "criterion_key" criterionKey maxCriterionKeyLength = none
  criterionVersion_ok : quando (criterionVersion < 1) .versaoMenorQueUm = none

/-- What is asked to be recorded, before its own checks. -/
structure AppendFields where
  experienceId : Referencia
  subjectRef : ExperienceSubjectRef
  outcomeObserved : ObservedOutcome
  validatedBy : AttributedValidator
  criterionRef : CriterionReference
  evidenceRefs : List EvidenceReference
  validatedAt : Instante
  origin : Referencia

/-- The checks of `ValidatedExperienceAppend`, in their order. -/
def AppendFields.recusa (e : AppendFields) : Option Recusa :=
  primeiraRecusa
    [quando e.evidenceRefs.isEmpty .lastroVazio,
      quando (repetidas (e.evidenceRefs.map EvidenceReference.sortKey)) .lastroRepetido,
      quando (foraDeOrdem (e.evidenceRefs.map EvidenceReference.sortKey)) .lastroForaDeOrdem,
      quando (e.validatedAt.val < e.outcomeObserved.observedAt.val) .observadoDepois,
      quando (!e.evidenceRefs.contains e.outcomeObserved.primaryEvidenceRef) .primariaForaDoLastro]

structure ValidatedExperienceAppend extends AppendFields where
  aceita : toAppendFields.recusa = none

/-! ## The record -/

/-- The object of a row. Its instants are compared as instants. -/
structure ValidatedExperience where
  id : Referencia
  subjectKind : ExperienceSubjectKind
  subjectRef : Referencia
  outcomeToken : Texto
  observedAt : Instante
  primaryEvidenceKind : EvidenceKind
  primaryEvidenceRef : Referencia
  validatorKind : ValidatorKind
  validatorRef : Texto
  criterionKey : Texto
  criterionVersion : ℤ
  criterionOrigin : CriterionOriginKind
  evidenceRefs : List EvidenceReference
  validatedAt : Instante
  originRef : Referencia
  deriving DecidableEq

/-- `CAMPOS_CANONICOS`. -/
inductive Campo
  | subjectKind | subjectRef | outcomeToken | observedAt | primaryEvidenceKind | primaryEvidenceRef
  | validatorKind | validatorRef | criterionKey | criterionVersion | criterionOrigin | evidenceRefs
  | validatedAt | originRef
  deriving DecidableEq

def camposCanonicos : List Campo :=
  [.subjectKind, .subjectRef, .outcomeToken, .observedAt, .primaryEvidenceKind, .primaryEvidenceRef,
    .validatorKind, .validatorRef, .criterionKey, .criterionVersion, .criterionOrigin, .evidenceRefs,
    .validatedAt, .originRef]

def Campo.nome : Campo → String
  | .subjectKind => "subject_kind"
  | .subjectRef => "subject_ref"
  | .outcomeToken => "outcome_token"
  | .observedAt => "observed_at"
  | .primaryEvidenceKind => "primary_evidence_kind"
  | .primaryEvidenceRef => "primary_evidence_ref"
  | .validatorKind => "validator_kind"
  | .validatorRef => "validator_ref"
  | .criterionKey => "criterion_key"
  | .criterionVersion => "criterion_version"
  | .criterionOrigin => "criterion_origin"
  | .evidenceRefs => "evidence_refs"
  | .validatedAt => "validated_at"
  | .originRef => "origin_ref"

/-- `getattr(a, campo) != getattr(b, campo)`. -/
def Campo.diverge (a b : ValidatedExperience) : Campo → Bool
  | .subjectKind => a.subjectKind ≠ b.subjectKind
  | .subjectRef => a.subjectRef ≠ b.subjectRef
  | .outcomeToken => a.outcomeToken ≠ b.outcomeToken
  | .observedAt => a.observedAt ≠ b.observedAt
  | .primaryEvidenceKind => a.primaryEvidenceKind ≠ b.primaryEvidenceKind
  | .primaryEvidenceRef => a.primaryEvidenceRef ≠ b.primaryEvidenceRef
  | .validatorKind => a.validatorKind ≠ b.validatorKind
  | .validatorRef => a.validatorRef ≠ b.validatorRef
  | .criterionKey => a.criterionKey ≠ b.criterionKey
  | .criterionVersion => a.criterionVersion ≠ b.criterionVersion
  | .criterionOrigin => a.criterionOrigin ≠ b.criterionOrigin
  | .evidenceRefs => a.evidenceRefs ≠ b.evidenceRefs
  | .validatedAt => a.validatedAt ≠ b.validatedAt
  | .originRef => a.originRef ≠ b.originRef

/-- The canonical content of two records is the same. -/
def MesmoConteudo (a b : ValidatedExperience) : Prop := ∀ campo ∈ camposCanonicos, campo.diverge a b = false

instance (a b : ValidatedExperience) : Decidable (MesmoConteudo a b) :=
  inferInstanceAs (Decidable (∀ campo ∈ camposCanonicos, campo.diverge a b = false))

/-- The fields that are compared are all but the identity. -/
theorem eq_of_mesmoConteudo {a b : ValidatedExperience} (hid : a.id = b.id)
    (h : MesmoConteudo a b) : a = b := by
  cases a
  cases b
  simp only [MesmoConteudo, camposCanonicos, List.forall_mem_cons, Campo.diverge, ne_eq,
    decide_not, Bool.not_eq_false', decide_eq_true_eq] at h
  obtain ⟨h1, h2, h3, h4, h5, h6, h7, h8, h9, h10, h11, h12, h13, h14, -⟩ := h
  simp only at hid
  subst hid h1 h2 h3 h4 h5 h6 h7 h8 h9 h10 h11 h12 h13 h14
  rfl

end PiaOs.Memory.Experience
