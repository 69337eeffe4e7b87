import PiaOs.Memory.Resolution
import PiaOs.Protection.Binding

/-!
# Fingerprints of decisions and bindings

`fingerprint.py`: the fields of a binding, or of a resolution with the version of its classifier,
are reduced to JSON and hashed together with the version of the algorithm.
-/

/-! ## Hash fields

Every hash of the value objects is let through by one of three patterns, and the three are the
same: 64 lowercase hexadecimal digits up to the end of a line. -/

namespace PiaOs.Protection

open Support Memory Piap Envelope

theorem sha256LowerHex_eq : sha256LowerHex = sha256Pattern := rfl

theorem sha256Aplicacao_eq : sha256Aplicacao = sha256Pattern := rfl

section Constructors

variable {s : Texto}

theorem refuse_casa {p : Regex CodePoint} {t : String} :
    refuse (!casa p s) t = none ↔ casa p s = true := by simp

/-- With another hash, a reference is accepted when the pattern lets the hash through. -/
theorem contextRef_hash (r : Envelope.ContextRef) :
    ({ r.toContextRefFields with sha256 := s }).violation = none ↔
      casa sha256Pattern s = true := by
  have hvalid := r.valida
  unfold Envelope.ContextRefFields.violation at hvalid ⊢
  simp only [primeiraRecusa_eq_none, List.mem_cons, List.not_mem_nil, or_false, forall_eq_or_imp,
    forall_eq] at hvalid ⊢
  obtain ⟨huri, -, hbytes⟩ := hvalid
  simp [huri, hbytes]

theorem binding_hash (b : GovernanceBinding) :
    ({ b.toGovernanceBindingFields with objectiveSha256 := s }).violation = none ↔
      casa sha256Pattern s = true := by
  have hvalid := b.valido
  unfold GovernanceBindingFields.violation at hvalid ⊢
  rw [firstOf_eq_none] at hvalid ⊢
  simp only [List.mem_cons, List.not_mem_nil, or_false, forall_eq_or_imp, forall_eq] at hvalid ⊢
  obtain ⟨hprincipal, hversion, -, hboundary, huntil, hposition⟩ := hvalid
  have hsame : ({ b.toGovernanceBindingFields with objectiveSha256 := s }).posicao = none :=
    hposition
  simp only [hprincipal, hversion, hboundary, huntil, hsame, refuse_casa, sha256LowerHex_eq,
    true_and, and_true]

theorem application_hashes (a : HumanProtectionApplication) :
    (({ a.toHumanProtectionApplicationFields with objectiveSha256 := s }).violation = none ↔
        casa sha256Pattern s = true) ∧
      (({ a.toHumanProtectionApplicationFields with decisionFingerprint := s }).violation = none ↔
        casa sha256Pattern s = true) ∧
      (({ a.toHumanProtectionApplicationFields with bindingSha256 := s }).violation = none ↔
        casa sha256Pattern s = true) := by
  have hvalid := a.valida
  unfold HumanProtectionApplicationFields.violation HumanProtectionApplicationFields.versoesEHashes
    HumanProtectionApplicationFields.digesto at hvalid ⊢
  simp only [firstOf_eq_none, List.mem_cons, List.not_mem_nil, or_false, forall_eq_or_imp,
    forall_eq, refuse_casa, sha256Aplicacao_eq] at hvalid ⊢
  obtain ⟨htypes, ⟨hobjective, hdecision, hbinding, hversions⟩, hposition, houtcome⟩ := hvalid
  -- the other checks do not read the hashes
  unfold HumanProtectionApplicationFields.tipos at htypes ⊢
  unfold HumanProtectionApplicationFields.posicao at hposition ⊢
  unfold HumanProtectionApplicationFields.desfecho at houtcome ⊢
  simp only [htypes, hobjective, hdecision, hbinding, hversions, hposition, houtcome, true_and,
    and_true, and_self]

theorem view_hashes (v : GovernanceResolutionView) :
    (({ v.toGovernanceResolutionViewFields with decisionFingerprint := s }).violation = none ↔
        casa sha256Pattern s = true) ∧
      (({ v.toGovernanceResolutionViewFields with bindingSha256 := s }).violation = none ↔
        casa sha256Pattern s = true) := by
  have hvalid := v.valida
  unfold GovernanceResolutionViewFields.violation GovernanceResolutionViewFields.coerencia hash
    at hvalid ⊢
  rw [firstOf_eq_none] at hvalid
  rw [firstOf_eq_none, firstOf_eq_none]
  simp only [List.mem_cons, List.not_mem_nil, or_false, forall_eq_or_imp,
    forall_eq, refuse_casa, sha256LowerHex_eq] at hvalid ⊢
  obtain ⟨houtcome, hrepeated, hversion, hclassifier, hdecision, hbinding, hrest⟩ := hvalid
  simp only [houtcome, hrepeated, hversion, hclassifier, hdecision, hbinding, hrest, true_and,
    and_true, and_self]

end Constructors

/-- Every hash field takes `s` exactly when it is a digest. -/
structure CamposExatos (s : Texto) : Prop where
  contextRef : ∀ r : Envelope.ContextRef,
    ({ r.toContextRefFields with sha256 := s }).violation = none ↔ Digest s
  binding : ∀ b : GovernanceBinding,
    ({ b.toGovernanceBindingFields with objectiveSha256 := s }).violation = none ↔ Digest s
  application : ∀ a : HumanProtectionApplication,
    (({ a.toHumanProtectionApplicationFields with objectiveSha256 := s }).violation = none ↔
        Digest s) ∧
      (({ a.toHumanProtectionApplicationFields with decisionFingerprint := s }).violation = none ↔
        Digest s) ∧
      (({ a.toHumanProtectionApplicationFields with bindingSha256 := s }).violation = none ↔
        Digest s)
  view : ∀ v : GovernanceResolutionView,
    (({ v.toGovernanceResolutionViewFields with decisionFingerprint := s }).violation = none ↔
        Digest s) ∧
      (({ v.toGovernanceResolutionViewFields with bindingSha256 := s }).violation = none ↔
        Digest s)

def zeros : Texto := List.replicate 64 (.char '0')

/-- A reference to an empty artifact. -/
def referenciaVazia : Envelope.ContextRef := ⟨⟨Texto.of "artifact", zeros, 0⟩, by decide +kernel⟩

/-- The fields take digests and nothing else, except that each takes a digest with a line feed
after it as well. -/
theorem hash_fields_exact (s : Texto) :
    CamposExatos s ↔ ¬∃ d, Digest d ∧ s = d ++ [avancoDeLinha] := by
  constructor
  · rintro hexact ⟨d, hd, rfl⟩
    have haccepted := (contextRef_hash referenciaVazia).mpr (casa_sha256.mpr (.inr ⟨d, hd, rfl⟩))
    exact not_digest_feed d ((hexact.contextRef referenciaVazia).mp haccepted)
  · intro hfeed
    have hcasa : casa sha256Pattern s = true ↔ Digest s := by
      rw [casa_sha256]
      exact or_iff_left hfeed
    refine ⟨fun r => ?_, fun b => ?_, fun a => ?_, fun v => ?_⟩
    · exact (contextRef_hash r).trans hcasa
    · exact (binding_hash b).trans hcasa
    · obtain ⟨hobjective, hdecision, hbinding⟩ := application_hashes (s := s) a
      exact ⟨hobjective.trans hcasa, hdecision.trans hcasa, hbinding.trans hcasa⟩
    · obtain ⟨hdecision, hbinding⟩ := view_hashes (s := s) v
      exact ⟨hdecision.trans hcasa, hbinding.trans hcasa⟩

/-- A reference takes a digest with a line feed after it. -/
theorem zeros_feed_accepted :
    ({ referenciaVazia.toContextRefFields with sha256 := zeros ++ [avancoDeLinha] }).violation =
        none ∧
      ¬Digest (zeros ++ [avancoDeLinha]) ∧ ¬∀ s, CamposExatos s := by
  have hzeros : Digest zeros := by decide
  have haccepted := (contextRef_hash referenciaVazia).mpr
    (casa_sha256.mpr (.inr ⟨zeros, hzeros, rfl⟩))
  refine ⟨haccepted, not_digest_feed zeros, fun hall => ?_⟩
  exact not_digest_feed zeros (((hall _).contextRef referenciaVazia).mp haccepted)

end PiaOs.Protection

/-! ## Resolutions on texts of code points

The resolution of the governance as the fingerprint reads it: the constructor of
`GovernanceResolution` on any `str`, halves of surrogate pairs among them. A text without them
is one of the resolutions of the memory. -/

namespace PiaOs.Protection

open Support Memory Piap

structure ResolutionFields where
  outcome : GovernanceOutcome
  operation : CognitiveOperation
  contextDomainIds : List Referencia
  contextActorRef : Option Texto
  contextPurpose : Option Texto
  safetyBoundaryVersion : ℤ
  safetyRationale : Texto := []
  blockedCapabilities : List CriticalCapability := []
  preservedIntent : Option Texto := none
  admissibleAlternatives : List Texto := []
  constraints : List Texto := []
  declaredPreservations : List Texto := []
  declaredLosses : List Texto := []
  policyKey : Option Texto := none
  policyVersion : Option ℤ := none
  policyId : Option Referencia := none
  matchedRuleId : Option Texto := none
  policyRationale : Texto := []

namespace ResolutionFields

/-- The collections in canonical form: sets sorted, curated tuples without repetitions. -/
def canonical (f : ResolutionFields) : ResolutionFields :=
  { f with
    contextDomainIds := sortedSet id f.contextDomainIds
    blockedCapabilities := sortedSet CriticalCapability.value f.blockedCapabilities
    admissibleAlternatives := f.admissibleAlternatives.eraseDups
    constraints := f.constraints.eraseDups
    declaredPreservations := f.declaredPreservations.eraseDups
    declaredLosses := f.declaredLosses.eraseDups }

def evaluatedText (nome : String) (valor : Option Texto) : Option String :=
  refuse (valor.any vazio) (nome ++ ", quando presente, não pode ser vazio — ausência se declara " ++
    "com None, não com espaços")

/-- `_canonical_text_tuple`. -/
def textTuple (nome : String) (itens : List Texto) : Option String :=
  refuse (itens.any vazio) (nome ++ " não aceita entradas vazias ou apenas espaços")

/-- `_optional_text`. -/
def optionalText (nome : String) (valor : Option Texto) : Option String :=
  refuse (valor.any vazio) (nome ++ " não pode ser vazio ou apenas espaços — omita-o")

def temIdentidade (f : ResolutionFields) : Bool :=
  f.policyKey.isSome && f.policyVersion.isSome && f.policyId.isSome

def identidadeParcial (f : ResolutionFields) : Bool :=
  (f.policyKey.isSome || f.policyVersion.isSome || f.policyId.isSome) && !f.temIdentidade

/-- `_validate_coherence`. -/
def coherence (f : ResolutionFields) : Option String :=
  firstOf
    [refuse f.identidadeParcial
        ("proveniência de policy incompleta — policy_key, policy_version e policy_id são " ++
          "tudo-ou-nada; proveniência parcial parece proveniência"),
      refuse (f.matchedRuleId.isSome && !f.temIdentidade)
        ("matched_rule_id sem identidade de policy — uma regra sem a versão de onde veio não " ++
          "identifica nada"),
      if f.outcome = .prohibited then firstOf
        [refuse f.blockedCapabilities.isEmpty
            ("PROHIBITED exige ao menos uma capacidade bloqueada — uma recusa que não diz o que " ++
              "bloqueou é irrecorrível"),
          refuse (f.temIdentidade || f.matchedRuleId.isSome)
            ("PROHIBITED não pode carregar proveniência de policy local — quando a fronteira " ++
              "proíbe, a policy sequer é consultada")]
      else firstOf
        [refuse (!f.blockedCapabilities.isEmpty) (f.outcome.value ++
            " não pode carregar capacidades bloqueadas — capacidade bloqueada é a marca da " ++
              "fronteira de segurança"),
          if f.outcome = .notApplicable then
            refuse f.matchedRuleId.isSome
              "NOT_APPLICABLE não cita regra — se nenhuma se aplicou, não há o que citar"
          else refuse (!f.temIdentidade || f.matchedRuleId.isNone) (f.outcome.value ++
            " exige proveniência local completa (policy_key, policy_version, policy_id e " ++
              "matched_rule_id) — sem ela não se pode dizer sob qual regra a decisão foi tomada")]]

/-- The checks of `__post_init__`, in order. -/
def violation (f : ResolutionFields) : Option String :=
  firstOf
    [refuse (f.safetyBoundaryVersion < 1) "safety_boundary_version deve ser >= 1",
      evaluatedText "context_actor_ref" f.contextActorRef,
      evaluatedText "context_purpose" f.contextPurpose,
      textTuple "admissible_alternatives" f.admissibleAlternatives,
      textTuple "constraints" f.constraints,
      textTuple "declared_preservations" f.declaredPreservations,
      textTuple "declared_losses" f.declaredLosses,
      optionalText "preserved_intent" f.preservedIntent,
      optionalText "policy_key" f.policyKey,
      optionalText "matched_rule_id" f.matchedRuleId,
      refuse (f.policyVersion.any (· < 1)) "policy_version deve ser >= 1",
      f.coherence]

end ResolutionFields

/-- A resolution: its fields are canonical and describe a real state. -/
structure GovernanceResolution extends ResolutionFields where
  isCanonical : toResolutionFields.canonical = toResolutionFields
  accepted : toResolutionFields.violation = none

end PiaOs.Protection

/-! ## Fingerprints of decisions and bindings -/

namespace PiaOs.Protection

open Support Memory Piap Envelope

/-! ## The canonical form -/

/-- A value of a field. -/
inductive Entrada
  | nulo
  | inteiro (n : ℤ)
  | texto (t : Texto)
  /-- A member of an enumeration, by its value. -/
  | membro (valor : String)
  | uuid (u : Referencia)
  | instante (m : Momento)
  | mapa (campos : List (Texto × Entrada))
  | conjunto (itens : List Entrada)
  | sequencia (itens : List Entrada)

def Entrada.opcional {α : Type} (entrada : α → Entrada) (valor : Option α) : Entrada :=
  valor.elim .nulo entrada

mutual

/-- `json.dumps(item, sort_keys=True, ensure_ascii=False)`, the key that orders a set. -/
def chaveDoItem : Documento → Texto
  | .lista itens => .char '[' :: chaveDosItens itens ++ [.char ']']
  | .objeto campos => .char '{' :: chaveDosCampos campos ++ [.char '}']
  | .nulo => Texto.of "null"
  | .inteiro n => Texto.of (toString n)
  | .texto t => aspas t

def chaveDosItens : List Documento → Texto
  | [] => []
  | [item] => chaveDoItem item
  | item :: itens => chaveDoItem item ++ Texto.of ", " ++ chaveDosItens itens

def chaveDosCampos : List (Texto × Documento) → Texto
  | [] => []
  | [(chave, valor)] => aspas chave ++ Texto.of ": " ++ chaveDoItem valor
  | (chave, valor) :: campos =>
    aspas chave ++ Texto.of ": " ++ chaveDoItem valor ++ Texto.of ", " ++ chaveDosCampos campos

end

/-- `valor.astimezone(UTC)`. `none` is the `ValueError` of a reading without an offset, or the
`OverflowError` of an instant that UTC cannot show. -/
def utc? : Momento → Option Instante
  | .ingenuo _ => none
  | .ciente t => if h : t.Representable then some ⟨t.instant, h⟩ else none

mutual

/-- `_canonico`. The fields of a map are in the order that `sort_keys` gives them. -/
def canonico : Entrada → Option Documento
  | .membro valor => some (.ofString valor)
  | .nulo => some .nulo
  | .inteiro n => some (.inteiro n)
  | .texto t => some (.texto t)
  | .uuid u => some (.ofString u.str)
  | .instante m => (utc? m).map fun i => .ofString i.utc.isoformat
  | .mapa campos => (canonicosDosCampos campos).map fun ds => .objeto (porChave ds)
  | .conjunto itens => (canonicos itens).map fun ds =>
      .lista (ds.insertionSort fun a b => (chaveDoItem b).antes (chaveDoItem a) = false)
  | .sequencia itens => (canonicos itens).map .lista

def canonicos : List Entrada → Option (List Documento)
  | [] => some []
  | item :: itens => do
    let d ← canonico item
    let ds ← canonicos itens
    return d :: ds

def canonicosDosCampos : List (Texto × Entrada) → Option (List (Texto × Documento))
  | [] => some []
  | (chave, valor) :: campos => do
    let d ← canonico valor
    let ds ← canonicosDosCampos campos
    return (chave, d) :: ds

end

abbrev Campos : Type := List (String × Entrada)

/-- `serializar_canonicamente`, before the encoding. -/
def serializarCanonicamente (campos : Campos) : Option String :=
  (canonico (.mapa (campos.map fun campo => (Texto.of campo.1, campo.2)))).bind Documento.canonico

def algoKey : String := "__algo_version__"

def comVersao (campos : Campos) (versao : String) : Campos :=
  campos ++ [(algoKey, .texto (Texto.of versao))]

/-- `_digest`. -/
def digest (campos : Campos) (versao : String) : Option String :=
  if algoKey ∈ campos.map (·.1) then none
  else (serializarCanonicamente (comVersao campos versao)).map Sha256.hexdigest

/-- `calcular_decision_fingerprint`. -/
def calcularDecisionFingerprint (campos : Campos) : Option String :=
  if campos.isEmpty then none else digest campos fingerprintAlgoVersion

/-- `campos_do_binding`. -/
def camposDoBinding (b : GovernanceBindingFields) : Campos :=
  [("operation", .membro b.operation.value), ("principal_ref", .texto b.principalRef),
    ("schedule_id", .opcional .uuid b.scheduleId), ("step_id", .opcional .uuid b.stepId),
    ("attempt_id", .opcional .uuid b.attemptId), ("objective_sha256", .texto b.objectiveSha256),
    ("gate_position", .membro b.gatePosition.value),
    ("boundary_version", .inteiro b.boundaryVersion),
    ("classifier_version", .texto b.classifierVersion), ("valid_until", .instante b.validUntil)]

/-- `calcular_binding_sha256`. -/
def calcularBindingSha256 (b : GovernanceBindingFields) : Option String :=
  digest (camposDoBinding b) bindingAlgoVersion

def textos (itens : List Texto) : Entrada := .sequencia (itens.map .texto)

/-- The fields of `CAMPOS_DA_RESOLUCAO`. -/
def camposDaResolucao (r : ResolutionFields) : Campos :=
  [("outcome", .membro r.outcome.value), ("operation", .membro r.operation.value),
    ("context_domain_ids", .sequencia (r.contextDomainIds.map .uuid)),
    ("context_actor_ref", .opcional .texto r.contextActorRef),
    ("context_purpose", .opcional .texto r.contextPurpose),
    ("safety_boundary_version", .inteiro r.safetyBoundaryVersion),
    ("safety_rationale", .texto r.safetyRationale),
    ("blocked_capabilities",
      .sequencia (r.blockedCapabilities.map fun c => .membro c.value)),
    ("preserved_intent", .opcional .texto r.preservedIntent),
    ("admissible_alternatives", textos r.admissibleAlternatives),
    ("constraints", textos r.constraints),
    ("declared_preservations", textos r.declaredPreservations),
    ("declared_losses", textos r.declaredLosses),
    ("policy_key", .opcional .texto r.policyKey),
    ("policy_version", .opcional .inteiro r.policyVersion),
    ("policy_id", .opcional .uuid r.policyId),
    ("matched_rule_id", .opcional .texto r.matchedRuleId),
    ("policy_rationale", .texto r.policyRationale)]

/-- `CAMPO_DA_EVIDENCIA`. -/
def campoDaEvidencia : String := "classifier_version"

/-- `calcular_fingerprint`. -/
def calcularFingerprint (r : ResolutionFields) (classifierVersion : Texto) : Option String :=
  calcularDecisionFingerprint
    (camposDaResolucao r ++ [(campoDaEvidencia, .texto classifierVersion)])

end PiaOs.Protection
