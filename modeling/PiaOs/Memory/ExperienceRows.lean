import PiaOs.Memory.ExperienceStore
import PiaOs.Piap.Canonical

/-!
# The rows of validated experiences

The row of a valid append reads back as the object that was recorded, and it passes every check
of the table unless its criterion version is beyond the column.
-/

namespace PiaOs.Memory.Experience

open Support Piap

/-! ## What a valid append satisfies -/

theorem quando_eq_none {c : Bool} {r : Recusa} : quando c r = none ↔ c = false := by
  cases c <;> simp [quando]

theorem primeiraRecusa_eq_none {checks : List (Option Recusa)} :
    primeiraRecusa checks = none ↔ ∀ check ∈ checks, check = none := by
  simp [primeiraRecusa, List.findSome?_eq_none_iff]

theorem recusar_eq_none {c : Bool} {e : ErroDoBanco} : recusar c e = none ↔ c = false := by
  cases c <;> simp [recusar]

theorem primeiroErro_eq_none {checks : List (Option ErroDoBanco)} :
    primeiroErro checks = none ↔ ∀ check ∈ checks, check = none := by
  simp [primeiroErro, List.findSome?_eq_none_iff]

/-- Evidence that is canonical: some, distinct and in order. -/
structure Canonica (referencias : List EvidenceReference) : Prop where
  nonempty : referencias ≠ []
  distinct : (referencias.map EvidenceReference.sortKey).Nodup
  sorted : (referencias.map EvidenceReference.sortKey).Pairwise fun a b => chaveAntes b a = false

theorem canonizar_eq_ok {referencias lastro : List EvidenceReference} :
    canonizar referencias = .ok lastro ↔ lastro = referencias ∧ Canonica referencias := by
  unfold canonizar
  simp only
  split
  case h_1 r hr =>
    constructor
    · intro h
      cases h
    · rintro ⟨-, h⟩
      have hnone : primeiraRecusa [quando referencias.isEmpty .lastroVazio,
          quando (repetidas (referencias.map EvidenceReference.sortKey)) .lastroRepetido,
          quando (foraDeOrdem (referencias.map EvidenceReference.sortKey)) .lastroForaDeOrdem] =
          none := by
        have hempty := h.nonempty
        have hdistinct := h.distinct
        have hsorted := h.sorted
        simp [primeiraRecusa_eq_none, quando_eq_none, repetidas, foraDeOrdem, *]
      rw [hnone] at hr
      cases hr
  case h_2 hnone =>
    simp only [primeiraRecusa_eq_none, List.forall_mem_cons, quando_eq_none, repetidas, foraDeOrdem,
      Bool.not_eq_false', decide_eq_true_eq, List.isEmpty_eq_false_iff] at hnone
    obtain ⟨hempty, hdistinct, hsorted, -⟩ := hnone
    constructor
    · intro h
      exact ⟨(Except.ok.inj h).symm, hempty, hdistinct, hsorted⟩
    · rintro ⟨rfl, -⟩
      rfl

/-- What the checks of an append leave. -/
structure Coerente (e : AppendFields) : Prop where
  evidence : Canonica e.evidenceRefs
  observed : e.outcomeObserved.observedAt.val ≤ e.validatedAt.val
  primary : e.outcomeObserved.primaryEvidenceRef ∈ e.evidenceRefs

theorem ValidatedExperienceAppend.coerente (e : ValidatedExperienceAppend) :
    Coerente e.toAppendFields := by
  have h := e.aceita
  simp only [AppendFields.recusa, primeiraRecusa_eq_none, List.forall_mem_cons, quando_eq_none,
    repetidas, foraDeOrdem, Bool.not_eq_false', decide_eq_true_eq, List.isEmpty_eq_false_iff,
    decide_eq_false_iff_not, not_lt, List.contains_iff_mem] at h
  obtain ⟨hempty, hdistinct, hsorted, hobserved, hprimary, -⟩ := h
  exact ⟨⟨hempty, hdistinct, hsorted⟩, hobserved, hprimary⟩

/-- The object that a valid append records. -/
def registroDe (entrada : ValidatedExperienceAppend) : ValidatedExperience where
  id := entrada.experienceId
  subjectKind := entrada.subjectRef.kind
  subjectRef := entrada.subjectRef.ref
  outcomeToken := entrada.outcomeObserved.outcomeToken
  observedAt := entrada.outcomeObserved.observedAt
  primaryEvidenceKind := entrada.outcomeObserved.primaryEvidenceRef.kind
  primaryEvidenceRef := entrada.outcomeObserved.primaryEvidenceRef.ref
  validatorKind := entrada.validatedBy.validatorKind
  validatorRef := entrada.validatedBy.validatorRef
  criterionKey := entrada.criterionRef.criterionKey
  criterionVersion := entrada.criterionRef.criterionVersion
  criterionOrigin := entrada.criterionRef.criterionOrigin
  evidenceRefs := entrada.evidenceRefs
  validatedAt := entrada.validatedAt
  originRef := entrada.origin

theorem materializar_eq (entrada : ValidatedExperienceAppend) :
    materializar entrada = .ok (registroDe entrada) := by
  have hcanonica : canonizar entrada.evidenceRefs = .ok entrada.evidenceRefs :=
    canonizar_eq_ok.mpr ⟨rfl, entrada.coerente.evidence⟩
  rw [materializar, hcanonica]
  rfl

/-! ## Written and read -/

theorem membroGravado_value {α : Type} {coluna : String} {membros : List α} {value : α → String}
    {a : α} (ha : a ∈ membros) (hvalue : ∀ b, value b = value a → b = a) :
    membroGravado coluna membros value (value a) = .ok a := by
  unfold membroGravado
  split
  case h_1 b hfind =>
    have hb := List.find?_some hfind
    rw [hvalue b (of_decide_eq_true hb)]
  case h_2 hnone =>
    rw [List.find?_eq_none] at hnone
    simpa using hnone a ha

theorem subjectKind_injective (a b : ExperienceSubjectKind) (h : a.value = b.value) : a = b := by
  cases a <;> cases b <;> simp_all [ExperienceSubjectKind.value]

theorem validatorKind_injective (a b : ValidatorKind) (h : a.value = b.value) : a = b := by
  cases a <;> cases b <;> simp_all [ValidatorKind.value]

theorem evidenceKind_injective (a b : EvidenceKind) (h : a.value = b.value) : a = b := by
  cases a <;> cases b <;> simp_all [EvidenceKind.value]

theorem criterionOriginKind_injective (a b : CriterionOriginKind) (h : a.value = b.value) :
    a = b := by
  cases a <;> cases b <;> simp_all [CriterionOriginKind.value]

theorem mem_evidenceKinds (k : EvidenceKind) : k ∈ evidenceKinds := by
  cases k <;> simp [evidenceKinds]

theorem evidenciaGravada_sortKey (e : EvidenceReference) : evidenciaGravada e.sortKey = .ok e := by
  have hkind : membroGravado "evidence_refs" evidenceKinds EvidenceKind.value e.kind.value =
      .ok e.kind :=
    membroGravado_value (mem_evidenceKinds e.kind) fun b => evidenceKind_injective b e.kind
  simp only [evidenciaGravada, EvidenceReference.sortKey, hkind, ok_bind, uuidCanonico?_str]
  rfl

theorem processResultValue_sortKeys {referencias : List EvidenceReference}
    (h : Canonica referencias) :
    processResultValue (referencias.map EvidenceReference.sortKey) = .ok referencias := by
  have hitens : (referencias.map EvidenceReference.sortKey).mapM evidenciaGravada =
      .ok referencias := by
    rw [mapM_eq_ok, List.forall₂_map_left_iff, List.forall₂_same]
    exact fun e _ => evidenciaGravada_sortKey e
  simp only [processResultValue, hitens, ok_bind, canonizar_eq_ok.mpr ⟨rfl, h⟩]
  rfl

theorem codificado_eq_ok {coluna : String} {t : Texto} {s : String} :
    codificado coluna t = .ok s ↔ t = Texto.of s := by
  unfold codificado
  rw [← string?_eq_some]
  cases t.string? <;> simp

/-- The row of an object, from its texts. -/
def ValidatedExperience.linhaCom (e : ValidatedExperience) (token validator criterion : String) :
    Linha where
  id := e.id
  subjectKind := e.subjectKind.value
  subjectRef := e.subjectRef
  outcomeToken := token
  observedAt := e.observedAt
  primaryEvidenceKind := e.primaryEvidenceKind.value
  primaryEvidenceRef := e.primaryEvidenceRef
  validatorKind := e.validatorKind.value
  validatorRef := validator
  criterionKey := criterion
  criterionVersion := e.criterionVersion
  criterionOrigin := e.criterionOrigin.value
  evidenceRefs := e.evidenceRefs.map EvidenceReference.sortKey
  validatedAt := e.validatedAt
  originRef := e.originRef

theorem gravar_eq_ok {e : ValidatedExperience} {l : Linha} (hcanonica : Canonica e.evidenceRefs) :
    e.gravar = .ok l ↔ ∃ token validator criterion, e.outcomeToken = Texto.of token ∧
      e.validatorRef = Texto.of validator ∧ e.criterionKey = Texto.of criterion ∧
      e.linhaCom token validator criterion = l := by
  have hbind : processBindParam e.evidenceRefs =
      .ok (e.evidenceRefs.map EvidenceReference.sortKey) := by
    rw [processBindParam, canonizar_eq_ok.mpr ⟨rfl, hcanonica⟩]
  simp only [ValidatedExperience.gravar, hbind, ok_bind, bind_eq_ok, codificado_eq_ok]
  constructor
  · rintro ⟨token, htoken, validator, hvalidator, criterion, hcriterion, hl⟩
    exact ⟨token, validator, criterion, htoken, hvalidator, hcriterion, Except.ok.inj hl⟩
  · rintro ⟨token, validator, criterion, htoken, hvalidator, hcriterion, rfl⟩
    exact ⟨token, htoken, validator, hvalidator, criterion, hcriterion, rfl⟩

/-- What is written of an object with canonical evidence is read back. -/
theorem ler_gravar {e : ValidatedExperience} {l : Linha} (h : e.gravar = .ok l)
    (hcanonica : Canonica e.evidenceRefs) : l.id = e.id ∧ l.ler = .ok e := by
  obtain ⟨token, validator, criterion, htoken, hvalidator, hcriterion, rfl⟩ :=
    (gravar_eq_ok hcanonica).mp h
  refine ⟨rfl, ?_⟩
  have hsubject : membroGravado "subject_kind" [.cognitiveObject, .causalEvent]
      ExperienceSubjectKind.value e.subjectKind.value = .ok e.subjectKind :=
    membroGravado_value (by cases e.subjectKind <;> simp) fun b => subjectKind_injective b _
  have hprimary : membroGravado "primary_evidence_kind" evidenceKinds EvidenceKind.value
      e.primaryEvidenceKind.value = .ok e.primaryEvidenceKind :=
    membroGravado_value (mem_evidenceKinds _) fun b => evidenceKind_injective b _
  have hkind : membroGravado "validator_kind" [.human, .agent, .system] ValidatorKind.value
      e.validatorKind.value = .ok e.validatorKind :=
    membroGravado_value (by cases e.validatorKind <;> simp) fun b => validatorKind_injective b _
  have horigin : membroGravado "criterion_origin" [.published, .declared] CriterionOriginKind.value
      e.criterionOrigin.value = .ok e.criterionOrigin :=
    membroGravado_value (by cases e.criterionOrigin <;> simp)
      fun b => criterionOriginKind_injective b _
  simp only [Linha.ler, ValidatedExperience.linhaCom, hsubject, hprimary, hkind, horigin,
    processResultValue_sortKeys hcanonica, ok_bind, ← htoken, ← hvalidator, ← hcriterion]
  rfl

/-! ## The checks of the table -/

theorem antes_append_left (t a b : Texto) : Texto.antes (t ++ a) (t ++ b) = Texto.antes a b := by
  induction t with
  | nil => rfl
  | cons c t ih => simp [Texto.antes, ih]

/-- What comes after the first difference does not matter. -/
theorem antes_append {a b : Texto} (h : Texto.antes a b = true) (hnot : ¬a <+: b) (x y : Texto) :
    Texto.antes (a ++ x) (b ++ y) = true := by
  induction a generalizing b with
  | nil => exact absurd List.nil_prefix hnot
  | cons c a ih =>
    cases b with
    | nil => simp [Texto.antes] at h
    | cons d b =>
      simp only [List.cons_append, Texto.antes, Bool.or_eq_true, Bool.and_eq_true,
        decide_eq_true_eq, beq_iff_eq] at h ⊢
      rcases h with hlt | ⟨heq, hrest⟩
      · exact .inl hlt
      · refine .inr ⟨heq, ih hrest fun hcomum => hnot ?_⟩
        rw [ord_injective heq]
        exact (List.prefix_cons_inj d).mpr hcomum

theorem texto_of_append (a b : String) : Texto.of (a ++ b) = Texto.of a ++ Texto.of b := by
  simp [Texto.of, String.toList_append]

/-- No value of the kinds begins another one. -/
theorem evidenceKind_not_begins {k k' : EvidenceKind} (h : k ≠ k') :
    ¬Texto.of k.value <+: Texto.of k'.value := by
  cases k <;> cases k' <;> first | exact absurd rfl h | decide

theorem antes_of_ne {a b : Texto} (hne : a ≠ b) (h : Texto.antes b a = false) :
    Texto.antes a b = true := by
  rw [antes_eq_false] at h
  rw [antes_iff]
  exact lt_of_le_of_ne h fun heq => hne (List.map_injective_iff.mpr ord_injective heq)

/-- The order of the table is the order of the keys. -/
theorem chaveDoItem_antes {a b : EvidenceReference} (hne : a.sortKey ≠ b.sortKey)
    (h : chaveAntes b.sortKey a.sortKey = false) :
    textoAntes (chaveDoItem a.sortKey) (chaveDoItem b.sortKey) = true := by
  simp only [chaveAntes, EvidenceReference.sortKey, Bool.or_eq_false_iff, textoAntes] at h
  simp only [textoAntes, chaveDoItem, EvidenceReference.sortKey, texto_of_append]
  by_cases hkind : a.kind = b.kind
  · have hrefs : Texto.of a.ref.str ≠ Texto.of b.ref.str := by
      intro heq
      refine hne ?_
      rw [EvidenceReference.sortKey, EvidenceReference.sortKey, hkind, texto_of_injective heq]
    simp only [hkind, beq_self_eq_true, Bool.true_and] at h
    rw [hkind, antes_append_left]
    exact antes_of_ne hrefs h.2
  · have hvalues : Texto.of a.kind.value ≠ Texto.of b.kind.value := fun heq =>
      hkind (evidenceKind_injective _ _ (texto_of_injective heq))
    rw [List.append_assoc, List.append_assoc]
    exact antes_append (antes_of_ne hvalues h.1) (evidenceKind_not_begins hkind) _ _

theorem evidenciaCanonica_sortKeys {referencias : List EvidenceReference} {primaria : EvidenceReference}
    (h : Canonica referencias) (hprimaria : primaria ∈ referencias) :
    evidenciaCanonica (referencias.map EvidenceReference.sortKey) primaria.sortKey = true := by
  simp only [evidenciaCanonica, Bool.and_eq_true, Bool.not_eq_true', List.isEmpty_eq_false_iff,
    List.all_eq_true, List.forall_mem_map, decide_eq_true_eq, List.contains_iff_mem]
  refine ⟨⟨⟨?_, fun e _ => ⟨?_, ?_⟩⟩, ?_⟩, List.mem_map_of_mem hprimaria⟩
  · simpa using h.nonempty
  · exact List.any_eq_true.mpr ⟨e.kind, mem_evidenceKinds e.kind, by simp [EvidenceReference.sortKey]⟩
  · simp [padraoUuid, EvidenceReference.sortKey, uuidCanonico?_str]
  · rw [List.pairwise_map]
    have hdistinct := List.pairwise_map.mp h.distinct
    have hsorted := List.pairwise_map.mp h.sorted
    exact (hdistinct.and hsorted).imp fun hab => chaveDoItem_antes hab.1 hab.2

/-- What a text has to be for its column. -/
structure Cabe (n : ℕ) (s : String) : Prop where
  noNull : '\x00' ∉ s.toList
  short : s.length ≤ n
  filled : preenchido s = true

theorem recusaDoTexto_eq_none {coluna : String} {n : ℕ} {s : String} :
    recusaDoTexto coluna n s = none ↔ '\x00' ∉ s.toList ∧ s.length ≤ n := by
  simp [recusaDoTexto, Option.or_eq_none_iff, recusar_eq_none]

theorem length_textoOf (s : String) : (Texto.of s).length = s.length := by
  rw [Texto.of, List.length_map, String.length_toList]

theorem preenchido_of {s : String} {c : Char} (hc : c ∈ s.toList) (hspace : isSpace c = false) :
    preenchido s = true := by
  refine List.any_eq_true.mpr ⟨c, hc, ?_⟩
  have hne : c ≠ ' ' := by
    rintro rfl
    exact absurd hspace (by decide)
  simpa using hne

/-- An opaque reference fits a column of its length. -/
theorem cabe_of_referencia {nome : String} {n : ℕ} {t : Texto} {s : String} (ht : t = Texto.of s)
    (h : validarReferenciaOpaca nome t n = none) : Cabe n s := by
  subst ht
  simp only [validarReferenciaOpaca, primeiraRecusa_eq_none, List.forall_mem_cons, quando_eq_none,
    decide_eq_false_iff_not, not_lt] at h
  obtain ⟨hblank, hshort, hhidden, -⟩ := h
  obtain ⟨p, hp, hspace⟩ := List.all_eq_false.mp hblank
  obtain ⟨c, hc, rfl⟩ := List.mem_map.mp hp
  refine ⟨fun hnull => ?_, length_textoOf s ▸ hshort, preenchido_of hc (Bool.not_eq_true _ ▸ hspace)⟩
  have hin : CodePoint.char '\x00' ∈ Texto.of s := List.mem_map_of_mem hnull
  exact absurd (List.any_eq_false.mp hhidden _ hin) (by decide)

theorem char_of_gruposDoToken {aberto : Bool} {t : Texto} (h : gruposDoToken aberto t = true) :
    ∀ c ∈ t, alfanumerico c = true ∨ separador c = true := by
  induction t generalizing aberto with
  | nil => simp
  | cons c t ih =>
    rw [gruposDoToken] at h
    split at h
    case isTrue halnum => exact List.forall_mem_cons.mpr ⟨.inl halnum, ih h⟩
    case isFalse =>
      simp only [Bool.and_eq_true] at h
      exact List.forall_mem_cons.mpr ⟨.inr h.1.1, ih h.2⟩

theorem alfanumerico_of_minuscula {c : CodePoint} (h : minuscula c = true) :
    alfanumerico c = true := by
  cases c with
  | char c =>
    simp only [minuscula] at h
    simp [alfanumerico, h]
  | surrogate n => cases h

/-- The characters of a token of an outcome. -/
theorem char_of_token {nome : String} {t : Texto} (h : validarTokenDeResultado nome t = none) :
    ∀ c ∈ t, alfanumerico c = true ∨ separador c = true := by
  simp only [validarTokenDeResultado, primeiraRecusa_eq_none, List.forall_mem_cons, quando_eq_none,
    Bool.not_eq_false'] at h
  obtain ⟨-, -, hgrammar, -⟩ := h
  cases t with
  | nil => simp
  | cons c t =>
    simp only [gramaticaDoToken, Bool.and_eq_true] at hgrammar
    exact List.forall_mem_cons.mpr
      ⟨.inl (alfanumerico_of_minuscula hgrammar.1), char_of_gruposDoToken hgrammar.2⟩

theorem string?_of_token {nome : String} {t : Texto} (h : validarTokenDeResultado nome t = none) :
    ∃ s, t = Texto.of s := by
  have hinteiro : t.Inteiro := by
    intro c hc
    cases c with
    | char c => rfl
    | surrogate n => exact absurd (char_of_token h _ hc) (by simp [alfanumerico, separador])
  obtain ⟨s, hs⟩ := Option.isSome_iff_exists.mp (string?_isSome.mpr hinteiro)
  exact ⟨s, string?_eq_some.mp hs⟩

theorem cabe_of_token {nome : String} {t : Texto} {s : String} (ht : t = Texto.of s)
    (h : validarTokenDeResultado nome t = none) : Cabe maxTokenLength s := by
  have hchars := char_of_token h
  simp only [validarTokenDeResultado, primeiraRecusa_eq_none, List.forall_mem_cons, quando_eq_none,
    decide_eq_false_iff_not, not_lt] at h
  obtain ⟨hempty, hshort, hgrammar, -⟩ := h
  have hnone : ∀ c ∈ s.toList, alfanumerico (.char c) = true ∨ separador (.char c) = true :=
    fun c hc => hchars _ (ht ▸ List.mem_map_of_mem hc)
  refine ⟨fun hnull => absurd (hnone _ hnull) (by decide), ?_, ?_⟩
  · rwa [ht, length_textoOf] at hshort
  · cases hs : s.toList with
    | nil => simp [ht, Texto.of, hs] at hempty
    | cons c cs =>
      have hc : minuscula (.char c) = true := by
        rw [ht, Texto.of, hs] at hgrammar
        simp only [List.map_cons, gramaticaDoToken, Bool.not_eq_false', Bool.and_eq_true] at hgrammar
        exact hgrammar.1
      simp only [preenchido, hs, List.any_cons, Bool.or_eq_true, ne_eq, decide_not,
        Bool.not_eq_true', decide_eq_false_iff_not]
      refine .inl ?_
      rintro rfl
      exact absurd hc (by decide)

/-- A valid append whose row the table takes. -/
structure Gravavel (entrada : ValidatedExperienceAppend) : Prop where
  validatorRef : entrada.validatedBy.validatorRef.Inteiro
  criterionKey : entrada.criterionRef.criterionKey.Inteiro
  criterionVersion : entrada.criterionRef.criterionVersion ≤ 2147483647

theorem recusa_linhaCom (entrada : ValidatedExperienceAppend) {token validator criterion : String}
    (htoken : entrada.outcomeObserved.outcomeToken = Texto.of token)
    (hvalidator : entrada.validatedBy.validatorRef = Texto.of validator)
    (hcriterion : entrada.criterionRef.criterionKey = Texto.of criterion) :
    ((registroDe entrada).linhaCom token validator criterion).recusa = none ↔
      entrada.criterionRef.criterionVersion ≤ 2147483647 := by
  have ht := cabe_of_token htoken entrada.outcomeObserved.outcomeToken_ok
  have hv := cabe_of_referencia hvalidator entrada.validatedBy.validatorRef_ok
  have hc := cabe_of_referencia hcriterion entrada.criterionRef.criterionKey_ok
  have hversion : ¬entrada.criterionRef.criterionVersion < 1 :=
    of_decide_eq_false (quando_eq_none.mp entrada.criterionRef.criterionVersion_ok)
  have hlow : -2147483648 ≤ entrada.criterionRef.criterionVersion := by omega
  have hcoerente := entrada.coerente
  have hevidence := evidenciaCanonica_sortKeys hcoerente.evidence hcoerente.primary
  have hobserved : ¬entrada.validatedAt.val < entrada.outcomeObserved.observedAt.val :=
    not_lt.mpr hcoerente.observed
  simp only [EvidenceReference.sortKey] at hevidence
  simp only [Linha.recusa, primeiroErro_eq_none, List.forall_mem_cons, recusaDoTexto_eq_none,
    recusar_eq_none, decide_eq_false_iff_not, Bool.not_eq_false', Bool.and_eq_true,
    decide_eq_true_eq]
  simp only [ValidatedExperience.linhaCom, registroDe, hevidence, ht.filled, hv.filled, hc.filled,
    ht.noNull, hv.noNull, hc.noNull, ht.short, hv.short, hc.short, hversion, hobserved, hlow]
  simp

/-- The row of a valid append is written, and the table takes it, exactly then. -/
theorem gravavel_iff {entrada : ValidatedExperienceAppend} : Gravavel entrada ↔
    ∃ l, (registroDe entrada).gravar = .ok l ∧ l.recusa = none := by
  have hcanonica : Canonica (registroDe entrada).evidenceRefs := entrada.coerente.evidence
  constructor
  · rintro ⟨hvalidator, hcriterion, hversion⟩
    obtain ⟨token, htoken⟩ := string?_of_token entrada.outcomeObserved.outcomeToken_ok
    obtain ⟨validator, hv⟩ := Option.isSome_iff_exists.mp (string?_isSome.mpr hvalidator)
    obtain ⟨criterion, hc⟩ := Option.isSome_iff_exists.mp (string?_isSome.mpr hcriterion)
    rw [string?_eq_some] at hv hc
    exact ⟨_, (gravar_eq_ok hcanonica).mpr ⟨token, validator, criterion, htoken, hv, hc, rfl⟩,
      (recusa_linhaCom entrada htoken hv hc).mpr hversion⟩
  · rintro ⟨l, hl, hrecusa⟩
    obtain ⟨token, validator, criterion, htoken, hv, hc, rfl⟩ := (gravar_eq_ok hcanonica).mp hl
    refine ⟨?_, ?_, (recusa_linhaCom entrada htoken hv hc).mp hrecusa⟩
    · exact string?_isSome.mp (Option.isSome_of_eq_some (string?_eq_some.mpr hv))
    · exact string?_isSome.mp (Option.isSome_of_eq_some (string?_eq_some.mpr hc))

end PiaOs.Memory.Experience
