import PiaOs.Protection.FingerprintLaws

/-!
# Bindings and decisions by their fingerprints

Which bindings and which resolutions have a fingerprint, and that it is equal for the same
fields and for no others. No collision of the hash is assumed away: it is the other case.
-/

namespace PiaOs.Protection

open Support Memory Piap Envelope

theorem boundaryOperation_injective (a b : BoundaryOperation) (h : a.value = b.value) : a = b := by
  cases a <;> cases b <;> first | rfl | exact absurd h (by decide)

theorem gatePosition_injective (a b : GatePosition) (h : a.value = b.value) : a = b := by
  cases a <;> cases b <;> first | rfl | exact absurd h (by decide)

theorem governanceOutcome_injective (a b : GovernanceOutcome) (h : a.value = b.value) : a = b := by
  cases a <;> cases b <;> first | rfl | exact absurd h (by decide)

theorem cognitiveOperation_injective (a b : CognitiveOperation) (h : a.value = b.value) :
    a = b := by
  cases a <;> cases b <;> first | rfl | exact absurd h (by decide)

theorem criticalCapability_injective (a b : CriticalCapability) (h : a.value = b.value) :
    a = b := by
  cases a <;> cases b <;> first | rfl | exact absurd h (by decide)

/-! ## Bindings -/

/-- Equal field by field, the deadlines as instants. -/
structure MesmoBinding (a b : GovernanceBindingFields) : Prop where
  operation : a.operation = b.operation
  principalRef : a.principalRef = b.principalRef
  scheduleId : a.scheduleId = b.scheduleId
  stepId : a.stepId = b.stepId
  attemptId : a.attemptId = b.attemptId
  objectiveSha256 : a.objectiveSha256 = b.objectiveSha256
  gatePosition : a.gatePosition = b.gatePosition
  boundaryVersion : a.boundaryVersion = b.boundaryVersion
  classifierVersion : a.classifierVersion = b.classifierVersion
  validUntil : a.validUntil.instant = b.validUntil.instant

/-- The fields of a binding can be written as canonical JSON. -/
structure BindingCanonizavel (b : GovernanceBindingFields) : Prop where
  principalRef : b.principalRef.Inteiro
  classifierVersion : b.classifierVersion.Inteiro
  boundaryVersion : b.boundaryVersion.natAbs < 10 ^ intMaxStrDigits
  validUntil : datetimeMin ≤ b.validUntil.instant ∧ b.validUntil.instant ≤ datetimeMax

/-- The deadline of a binding is an instant, and its objective a text that can be encoded. -/
theorem binding_stated (b : GovernanceBinding) :
    casa sha256Pattern b.objectiveSha256 = true ∧ ∃ t, b.validUntil = .ciente t := by
  have hvalid := b.valido
  unfold GovernanceBindingFields.violation at hvalid
  rw [firstOf_eq_none] at hvalid
  simp only [List.mem_cons, List.not_mem_nil, or_false, forall_eq_or_imp, forall_eq] at hvalid
  obtain ⟨-, -, hobjective, -, huntil, -⟩ := hvalid
  refine ⟨refuse_casa.mp hobjective, ?_⟩
  cases hcase : b.validUntil with
  | ingenuo wall => simp [hcase, ciente] at huntil
  | ciente t => exact ⟨t, rfl⟩

theorem algoKey_binding (b : GovernanceBindingFields) :
    algoKey ∉ (camposDoBinding b).map (·.1) := by
  simp [camposDoBinding, algoKey]

theorem nodup_binding (b : GovernanceBindingFields) : ((camposDoBinding b).map (·.1)).Nodup := by
  simp [camposDoBinding]

theorem plana_binding (b : GovernanceBindingFields) : ∀ campo ∈ camposDoBinding b, campo.2.Plana := by
  have huuid := codifica_uuid.plana_opcional
  simp only [camposDoBinding, List.mem_cons, List.not_mem_nil, or_false, forall_eq_or_imp,
    forall_eq]
  exact ⟨(codifica_membro boundaryOperation_injective).plana _, plana_texto _, huuid _, huuid _,
    huuid _, plana_texto _, (codifica_membro gatePosition_injective).plana _,
    codifica_inteiro.plana _, plana_texto _, plana_instante _⟩

/-- Which bindings have a hash. -/
theorem binding_isSome (b : GovernanceBinding) :
    (calcularBindingSha256 b.toGovernanceBindingFields).isSome = true ↔
      BindingCanonizavel b.toGovernanceBindingFields := by
  obtain ⟨hobjective, t, ht⟩ := binding_stated b
  have hsha := serializa_texto.mpr (inteiro_of_casa hobjective)
  have huuid (u : Option Referencia) : (Entrada.opcional .uuid u).Serializa :=
    serializa_opcional.mpr fun x _ => serializa_uuid x
  have huntil : (Entrada.instante b.validUntil).Serializa ↔
      datetimeMin ≤ b.validUntil.instant ∧ b.validUntil.instant ≤ datetimeMax := by
    rw [ht]
    exact serializa_instante
  unfold calcularBindingSha256
  rw [digest_isSome (algoKey_binding _)]
  simp only [camposDoBinding, List.mem_cons, List.not_mem_nil, or_false, forall_eq_or_imp,
    forall_eq, serializa_membro, huuid, hsha, serializa_texto, serializa_inteiro, huntil, true_and]
  constructor
  · rintro ⟨hprincipal, hversion, hclassifier, hdeadline⟩
    exact ⟨hprincipal, hclassifier, hversion, hdeadline⟩
  · rintro ⟨hprincipal, hclassifier, hversion, hdeadline⟩
    exact ⟨hprincipal, hversion, hclassifier, hdeadline⟩

theorem utc?_congr {t u : Datetime} (h : t.instant = u.instant) :
    utc? (.ciente t) = utc? (.ciente u) := by
  simp only [utc?, Datetime.Representable, h]

/-- The same binding has one hash. -/
theorem binding_congr {a b : GovernanceBinding}
    (h : MesmoBinding a.toGovernanceBindingFields b.toGovernanceBindingFields) :
    calcularBindingSha256 a.toGovernanceBindingFields =
      calcularBindingSha256 b.toGovernanceBindingFields := by
  obtain ⟨-, t, ht⟩ := binding_stated a
  obtain ⟨-, u, hu⟩ := binding_stated b
  have huntil : canonico (.instante a.validUntil) = canonico (.instante b.validUntil) := by
    have hinstant := h.validUntil
    rw [ht, hu] at hinstant ⊢
    rw [canonico, canonico, utc?_congr hinstant]
  refine digest_congr rfl ?_
  simp only [camposDoBinding, List.map_cons, List.map_nil, huntil, h.operation, h.principalRef,
    h.scheduleId, h.stepId, h.attemptId, h.objectiveSha256, h.gatePosition, h.boundaryVersion,
    h.classifierVersion]

/-- Two bindings with one hash are the same, or a collision. -/
theorem binding_eq {a b : GovernanceBinding} {x : String}
    (hx : calcularBindingSha256 a.toGovernanceBindingFields = some x)
    (hx' : calcularBindingSha256 b.toGovernanceBindingFields = some x) :
    MesmoBinding a.toGovernanceBindingFields b.toGovernanceBindingFields ∨
      Colidem (camposDoBinding a.toGovernanceBindingFields)
        (camposDoBinding b.toGovernanceBindingFields) bindingAlgoVersion := by
  have hnames : (camposDoBinding a.toGovernanceBindingFields).map (·.1) =
      (camposDoBinding b.toGovernanceBindingFields).map (·.1) := rfl
  refine (forma_eq_of_digest (algoKey_binding _) hnames (nodup_binding _) (plana_binding _)
    (plana_binding _) hx hx').imp_left ?_
  intro hforms
  have hcanonizavel : ∀ {b : GovernanceBinding},
      calcularBindingSha256 b.toGovernanceBindingFields = some x →
        BindingCanonizavel b.toGovernanceBindingFields := by
    intro b hb
    exact (binding_isSome b).mp (Option.isSome_iff_exists.mpr ⟨x, hb⟩)
  obtain ⟨-, t, ht⟩ := binding_stated a
  obtain ⟨-, u, hu⟩ := binding_stated b
  have hrep := (hcanonizavel hx).validUntil
  have hrep' := (hcanonizavel hx').validUntil
  simp only [camposDoBinding, List.map_cons, List.map_nil, List.cons.injEq, and_true] at hforms
  obtain ⟨hoperation, hprincipal, hschedule, hstep, hattempt, hobjective, hposition, hversion,
    hclassifier, huntil⟩ := hforms
  rw [ht] at hrep
  rw [hu] at hrep'
  rw [ht, hu, forma_instante hrep hrep'] at huntil
  exact {
    operation := (codifica_membro boundaryOperation_injective).injetiva _ _ hoperation
    principalRef := codifica_texto.injetiva _ _ hprincipal
    scheduleId := codifica_uuid.opcional_injetiva hschedule
    stepId := codifica_uuid.opcional_injetiva hstep
    attemptId := codifica_uuid.opcional_injetiva hattempt
    objectiveSha256 := codifica_texto.injetiva _ _ hobjective
    gatePosition := (codifica_membro gatePosition_injective).injetiva _ _ hposition
    boundaryVersion := codifica_inteiro.injetiva _ _ hversion
    classifierVersion := codifica_texto.injetiva _ _ hclassifier
    validUntil := by
      rw [ht, hu]
      exact huntil }

/-! ## Decisions -/

/-- The texts of a resolution. -/
def ResolutionFields.textos (r : ResolutionFields) : List Texto :=
  r.contextActorRef.toList ++ r.contextPurpose.toList ++ [r.safetyRationale] ++
    r.preservedIntent.toList ++ r.admissibleAlternatives ++ r.constraints ++
    r.declaredPreservations ++ r.declaredLosses ++ r.policyKey.toList ++ r.matchedRuleId.toList ++
    [r.policyRationale]

/-- A resolution and the version of a classifier can be written as canonical JSON. -/
structure DecisaoCanonizavel (r : ResolutionFields) (classifierVersion : Texto) : Prop where
  textos : ∀ t ∈ r.textos, t.Inteiro
  boundaryVersion : r.safetyBoundaryVersion.natAbs < 10 ^ intMaxStrDigits
  policyVersion : ∀ n ∈ r.policyVersion, n.natAbs < 10 ^ intMaxStrDigits
  classifierVersion : classifierVersion.Inteiro

/-- `entradas`. -/
def camposDaDecisao (r : ResolutionFields) (classifierVersion : Texto) : Campos :=
  camposDaResolucao r ++ [(campoDaEvidencia, .texto classifierVersion)]

section Decisions

variable {r r' : ResolutionFields} {v v' : Texto}

theorem calcularFingerprint_eq :
    calcularFingerprint r v = digest (camposDaDecisao r v) fingerprintAlgoVersion := rfl

theorem algoKey_decisao : algoKey ∉ (camposDaDecisao r v).map (·.1) := by
  simp [camposDaDecisao, camposDaResolucao, algoKey, campoDaEvidencia]

theorem nodup_decisao : ((camposDaDecisao r v).map (·.1)).Nodup := by
  simp [camposDaDecisao, camposDaResolucao, campoDaEvidencia]

theorem plana_decisao : ∀ campo ∈ camposDaDecisao r v, campo.2.Plana := by
  have htexto := codifica_texto.plana_opcional
  have htextos := codifica_texto.plana_sequencia
  simp only [camposDaDecisao, camposDaResolucao, List.cons_append, List.nil_append, List.mem_cons,
    List.not_mem_nil, or_false, forall_eq_or_imp, forall_eq]
  exact ⟨(codifica_membro governanceOutcome_injective).plana _,
    (codifica_membro cognitiveOperation_injective).plana _, codifica_uuid.plana_sequencia _,
    htexto _, htexto _, codifica_inteiro.plana _, plana_texto _,
    (codifica_membro criticalCapability_injective).plana_sequencia _, htexto _, htextos _,
    htextos _, htextos _, htextos _, htexto _, codifica_inteiro.plana_opcional _,
    codifica_uuid.plana_opcional _, htexto _, plana_texto _, plana_texto _⟩

/-- Which decisions have a fingerprint. -/
theorem decisao_isSome : (calcularFingerprint r v).isSome = true ↔ DecisaoCanonizavel r v := by
  have htexto (t : Option Texto) :
      (Entrada.opcional .texto t).Serializa ↔ ∀ s ∈ t.toList, s.Inteiro := by
    rw [serializa_opcional]
    simp only [serializa_texto, Option.mem_toList, Option.mem_def]
  have htextos (itens : List Texto) :
      (Protection.textos itens).Serializa ↔ ∀ t ∈ itens, t.Inteiro := by
    unfold Protection.textos
    rw [codifica_texto.serializa_sequencia]
    simp only [serializa_texto]
  have hversion : (Entrada.opcional .inteiro r.policyVersion).Serializa ↔
      ∀ n ∈ r.policyVersion, n.natAbs < 10 ^ intMaxStrDigits := by
    rw [serializa_opcional]
    simp only [serializa_inteiro]
  have huuid : (Entrada.opcional .uuid r.policyId).Serializa :=
    serializa_opcional.mpr fun x _ => serializa_uuid x
  have hdomains : (Entrada.sequencia (r.contextDomainIds.map .uuid)).Serializa :=
    codifica_uuid.serializa_sequencia.mpr fun x _ => serializa_uuid x
  have hblocked :
      (Entrada.sequencia (r.blockedCapabilities.map fun c => .membro c.value)).Serializa :=
    (codifica_membro criticalCapability_injective).serializa_sequencia.mpr
      fun c _ => serializa_membro c.value
  rw [calcularFingerprint_eq, digest_isSome algoKey_decisao]
  simp only [camposDaDecisao, camposDaResolucao, List.cons_append, List.nil_append, List.mem_cons,
    List.not_mem_nil, or_false, forall_eq_or_imp, forall_eq, serializa_membro, hdomains, hblocked,
    huuid, htexto, htextos, hversion, serializa_texto, serializa_inteiro, true_and]
  constructor
  · rintro ⟨hactor, hpurpose, hboundary, hsafety, hintent, halternatives, hconstraints, hkept,
      hlost, hkey, hpolicy, hrule, hrationale, hclassifier⟩
    refine ⟨?_, hboundary, hpolicy, hclassifier⟩
    simp only [ResolutionFields.textos, List.forall_mem_append, List.mem_singleton, forall_eq]
    exact ⟨⟨⟨⟨⟨⟨⟨⟨⟨⟨hactor, hpurpose⟩, hsafety⟩, hintent⟩, halternatives⟩, hconstraints⟩, hkept⟩,
      hlost⟩, hkey⟩, hrule⟩, hrationale⟩
  · rintro ⟨hall, hboundary, hpolicy, hclassifier⟩
    simp only [ResolutionFields.textos, List.forall_mem_append, List.mem_singleton, forall_eq]
      at hall
    obtain ⟨⟨⟨⟨⟨⟨⟨⟨⟨⟨hactor, hpurpose⟩, hsafety⟩, hintent⟩, halternatives⟩, hconstraints⟩, hkept⟩,
      hlost⟩, hkey⟩, hrule⟩, hrationale⟩ := hall
    exact ⟨hactor, hpurpose, hboundary, hsafety, hintent, halternatives, hconstraints, hkept,
      hlost, hkey, hpolicy, hrule, hrationale, hclassifier⟩

/-- Two decisions with one fingerprint are the same, or a collision. -/
theorem decisao_eq {x : String} (hx : calcularFingerprint r v = some x)
    (hx' : calcularFingerprint r' v' = some x) :
    (r = r' ∧ v = v') ∨
      Colidem (camposDaDecisao r v) (camposDaDecisao r' v') fingerprintAlgoVersion := by
  rw [calcularFingerprint_eq] at hx hx'
  have hnames : (camposDaDecisao r v).map (·.1) = (camposDaDecisao r' v').map (·.1) := rfl
  refine (forma_eq_of_digest algoKey_decisao hnames nodup_decisao plana_decisao plana_decisao
    hx hx').imp_left ?_
  intro hforms
  simp only [camposDaDecisao, camposDaResolucao, List.cons_append, List.nil_append, List.map_cons,
    List.map_nil, List.cons.injEq, and_true] at hforms
  obtain ⟨houtcome, hoperation, hdomains, hactor, hpurpose, hboundary, hsafety, hblocked, hintent,
    halternatives, hconstraints, hkept, hlost, hkey, hversion, hid, hrule, hrationale,
    hclassifier⟩ := hforms
  refine ⟨?_, codifica_texto.injetiva _ _ hclassifier⟩
  rw [ResolutionFields.mk.injEq]
  exact ⟨(codifica_membro governanceOutcome_injective).injetiva _ _ houtcome,
    (codifica_membro cognitiveOperation_injective).injetiva _ _ hoperation,
    codifica_uuid.sequencia_injetiva hdomains, codifica_texto.opcional_injetiva hactor,
    codifica_texto.opcional_injetiva hpurpose, codifica_inteiro.injetiva _ _ hboundary,
    codifica_texto.injetiva _ _ hsafety,
    (codifica_membro criticalCapability_injective).sequencia_injetiva hblocked,
    codifica_texto.opcional_injetiva hintent, codifica_texto.sequencia_injetiva halternatives,
    codifica_texto.sequencia_injetiva hconstraints, codifica_texto.sequencia_injetiva hkept,
    codifica_texto.sequencia_injetiva hlost, codifica_texto.opcional_injetiva hkey,
    codifica_inteiro.opcional_injetiva hversion, codifica_uuid.opcional_injetiva hid,
    codifica_texto.opcional_injetiva hrule, codifica_texto.injetiva _ _ hrationale⟩

end Decisions

/-! ## Identity -/

/-- The hashes of two bindings exist, and identify them. -/
structure IdentificaBindings (a b : GovernanceBinding) : Prop where
  calcula : (calcularBindingSha256 a.toGovernanceBindingFields).isSome = true ∧
    (calcularBindingSha256 b.toGovernanceBindingFields).isSome = true
  iguais : MesmoBinding a.toGovernanceBindingFields b.toGovernanceBindingFields →
    calcularBindingSha256 a.toGovernanceBindingFields =
      calcularBindingSha256 b.toGovernanceBindingFields
  distintos : calcularBindingSha256 a.toGovernanceBindingFields =
      calcularBindingSha256 b.toGovernanceBindingFields →
    MesmoBinding a.toGovernanceBindingFields b.toGovernanceBindingFields ∨
      Colidem (camposDoBinding a.toGovernanceBindingFields)
        (camposDoBinding b.toGovernanceBindingFields) bindingAlgoVersion

/-- The fingerprints of two decisions exist, and identify them. -/
structure IdentificaDecisoes (r r' : ResolutionFields) (v v' : Texto) : Prop where
  calcula : (calcularFingerprint r v).isSome = true ∧ (calcularFingerprint r' v').isSome = true
  iguais : r = r' ∧ v = v' → calcularFingerprint r v = calcularFingerprint r' v'
  distintos : calcularFingerprint r v = calcularFingerprint r' v' → (r = r' ∧ v = v') ∨
    Colidem (camposDaDecisao r v) (camposDaDecisao r' v') fingerprintAlgoVersion

/-- The fingerprints identify what can be written as canonical JSON, and exist for nothing
else. -/
theorem protection_fingerprints (a b : GovernanceBinding) (r r' : GovernanceResolution)
    (v v' : Texto) :
    (IdentificaBindings a b ↔ BindingCanonizavel a.toGovernanceBindingFields ∧
      BindingCanonizavel b.toGovernanceBindingFields) ∧
      (IdentificaDecisoes r.toResolutionFields r'.toResolutionFields v v' ↔
        DecisaoCanonizavel r.toResolutionFields v ∧
          DecisaoCanonizavel r'.toResolutionFields v') := by
  constructor
  · rw [← binding_isSome, ← binding_isSome]
    refine ⟨fun h => h.calcula, fun hsome => ⟨hsome, binding_congr, fun heq => ?_⟩⟩
    obtain ⟨x, hx⟩ := Option.isSome_iff_exists.mp hsome.1
    exact binding_eq hx (heq ▸ hx)
  · rw [← decisao_isSome, ← decisao_isSome]
    refine ⟨fun h => h.calcula, fun hsome => ⟨hsome, ?_, fun heq => ?_⟩⟩
    · rintro ⟨hresolution, rfl⟩
      rw [hresolution]
    · obtain ⟨x, hx⟩ := Option.isSome_iff_exists.mp hsome.1
      exact decisao_eq hx (heq ▸ hx)

/-- A binding whose principal is half of a surrogate pair. -/
def bindingSurrogado : GovernanceBinding where
  operation := .read
  principalRef := [.surrogate 0]
  scheduleId := none
  stepId := none
  attemptId := none
  objectiveSha256 := zeros
  gatePosition := .g1
  boundaryVersion := 1
  classifierVersion := Texto.of "1"
  validUntil := .ciente .epoch
  valido := by decide +kernel

/-- The constructor takes it, and there is no hash. -/
theorem bindingSurrogado_sem_hash :
    calcularBindingSha256 bindingSurrogado.toGovernanceBindingFields = none ∧
      ¬∀ a b : GovernanceBinding, IdentificaBindings a b := by
  have hnone : ¬(calcularBindingSha256
      bindingSurrogado.toGovernanceBindingFields).isSome = true := by
    rw [binding_isSome]
    intro h
    exact absurd (h.principalRef (.surrogate 0) (by decide)) (by decide)
  refine ⟨by simpa using hnone, fun hall => hnone ?_⟩
  exact (hall bindingSurrogado bindingSurrogado).calcula.1

end PiaOs.Protection
