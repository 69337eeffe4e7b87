import PiaOs.Protection.CompositionLaws

/-!
# The gate under the governance of the platform

With the adapter of the governance as its port, the gate registers an application exactly when
the call is coherent and in time, and the application blocks exactly what the safety boundary
forbids of the classification.
-/

namespace PiaOs.Memory

open Support

theorem nodup_sortedSet {α κ : Type} [DecidableEq α] [LinearOrder κ] {key : α → κ}
    {items : List α} : (sortedSet key items).Nodup :=
  (List.perm_insertionSort _ _).nodup_iff.mpr (List.nodup_dedup items)

namespace GovernanceManager

variable {policies : PolicyTable} {descriptor : CapabilityDescriptor} {context : MemoryContext}
  {agora : Datetime} {r : GovernanceResolution}

/-- What a resolution without a policy says of the boundary. -/
structure DaFronteira (descriptor : CapabilityDescriptor) (r : GovernanceResolution) : Prop where
  versao : r.safetyBoundaryVersion = platformSafetyBoundaryVersion
  semPolicy : r.policyVersion = none
  distintas : r.blockedCapabilities.Nodup
  desfecho : descriptor.Forbidden ∧ r.outcome = .prohibited ∨
    ¬descriptor.Forbidden ∧ r.outcome = .notApplicable
  bloqueadas : ∀ c, c ∈ r.blockedCapabilities ↔ c ∈ descriptor.capabilities ∧ descriptor.Forbidden

theorem mem_assessment_blocked {c : CriticalCapability} :
    c ∈ (assessment descriptor).blockedCapabilities ↔
      c ∈ descriptor.capabilities ∧ descriptor.Forbidden := by
  unfold assessment CapabilityDescriptor.Forbidden
  by_cases hnone : descriptor.capabilities = ∅
  · simp [hnone]
  have hsome : descriptor.capabilities.Nonempty := Finset.nonempty_iff_ne_empty.mpr hnone
  rw [if_neg hnone, ← mem_engagementsThatProhibit]
  by_cases hprohibits : descriptor.engagement ∈ engagementsThatProhibit
  · simp [hprohibits, hsome, CriticalCapability.mem_inOrder]
  · simp [hprohibits]

theorem assessment_version : (assessment descriptor).boundaryVersion =
    platformSafetyBoundaryVersion := by
  unfold assessment
  split_ifs <;> rfl

theorem resolve_sem_policy (policies : PolicyTable) (descriptor : CapabilityDescriptor)
    (context : MemoryContext) (agora : Datetime) :
    ∃ r, resolve policies descriptor context none agora = .ok r ∧ DaFronteira descriptor r := by
  obtain ⟨r, hr, hcases⟩ := resolve_cases policies descriptor context none agora
  refine ⟨r, hr, ?_⟩
  have hdesfecho : descriptor.Forbidden ∧ r.outcome = .prohibited ∨
      ¬descriptor.Forbidden ∧ r.outcome = .notApplicable := by
    rcases hcases with h | ⟨hsilent, houtcome, -⟩ | ⟨-, key, hkey, -⟩
    · exact .inl h
    · exact .inr ⟨hsilent, houtcome⟩
    · cases hkey
  have hdistintas : r.blockedCapabilities.Nodup := by
    rw [← r.isCanonical]
    exact nodup_sortedSet
  obtain ⟨avaliacao, havaliacao, hforbidden⟩ := assessCapability_eq_ok descriptor
  obtain ⟨hvalid, hfields⟩ := of_checked havaliacao
  have hversion : avaliacao.boundaryVersion = platformSafetyBoundaryVersion := by
    rw [hfields]
    exact assessment_version
  have hblocked : ∀ c, c ∈ avaliacao.blockedCapabilities ↔
      c ∈ descriptor.capabilities ∧ descriptor.Forbidden := by
    intro c
    rw [hfields, ← mem_assessment_blocked]
    exact mem_sortedSet
  rw [resolve, havaliacao, ok_bind] at hr
  by_cases hprohibits : avaliacao.prohibits = true
  · rw [if_pos hprohibits] at hr
    have hr := GovernanceResolution.of_make hr
    refine ⟨by rw [hr]; exact hversion, by rw [hr]; rfl, hdistintas, hdesfecho, fun c => ?_⟩
    rw [hr, ← hblocked c]
    exact mem_sortedSet
  · rw [if_neg hprohibits] at hr
    have hr := GovernanceResolution.of_make hr
    refine ⟨by rw [hr]; exact hversion, by rw [hr]; rfl, hdistintas, hdesfecho, fun c => ?_⟩
    rw [hr]
    exact iff_of_false (by simp [noPolicyResolution, ResolutionFields.canonical])
      fun h => hprohibits (hforbidden.mpr h.2)

end GovernanceManager

end PiaOs.Memory

namespace PiaOs.Protection

open Support Memory Piap Envelope

/-! ## The adapter -/

/-- The boundary forbids what a question asks for. -/
def GovernanceQuery.Proibida (q : GovernanceQuery) : Prop :=
  q.descriptorCapabilities.Nonempty ∧
    (q.descriptorEngagement = .operationalEnablement ∨ q.descriptorEngagement = .unspecified)

namespace GovernanceResolutionAdapter

variable {policies : PolicyTable} {avaliadoEm : Datetime} {q : GovernanceQuery}
  {vista : GovernanceResolutionView}

def capacidadeDe : BoundaryCapability → CriticalCapability
  | .childSexualExploitation => .childSexualExploitation
  | .minorTargetingForExploitation => .minorTargetingForExploitation
  | .weaponOfMassDestructionEnablement => .weaponOfMassDestructionEnablement
  | .catastrophicHarmEnablement => .catastrophicHarmEnablement

theorem exists_cognitiveOperation (o : BoundaryOperation) :
    ∃ o', cognitiveOperation o.value = .ok o' := by
  cases o <;> exact ⟨_, rfl⟩

theorem criticalCapability_eq (c : BoundaryCapability) :
    criticalCapability c.value = .ok (capacidadeDe c) := by
  cases c <;> rfl

theorem exists_capabilityEngagement (e : BoundaryEngagement) :
    ∃ e', capabilityEngagement e.value = .ok e' ∧
      (e' = .operationalEnablement ∨ e' = .unspecified ↔
        e = .operationalEnablement ∨ e = .unspecified) := by
  cases e <;> exact ⟨_, rfl, by simp⟩

theorem espelho_capacidadeDe (c : BoundaryCapability) :
    espelhoDaCapacidade (capacidadeDe c) = c := by
  cases c <;> rfl

theorem capacidadeDe_espelho (c : CriticalCapability) :
    capacidadeDe (espelhoDaCapacidade c) = c := by
  cases c <;> rfl

theorem BoundaryCapability.mem_inOrder (c : BoundaryCapability) :
    c ∈ BoundaryCapability.inOrder := by
  cases c <;> decide

/-- The descriptor of a question is the question in the vocabulary of the memory. -/
theorem descritorDe_eq (q : GovernanceQuery) : ∃ d, descritorDe q = .ok d ∧
    (∀ c, c ∈ d.capabilities ↔ espelhoDaCapacidade c ∈ q.descriptorCapabilities) ∧
      (d.Forbidden ↔ q.Proibida) := by
  obtain ⟨l, hl, hmem⟩ : ∃ l, (BoundaryCapability.inOrder.filter
      (· ∈ q.descriptorCapabilities)).mapM (fun c => criticalCapability c.value) = .ok l ∧
        ∀ c, c ∈ l.toFinset ↔ espelhoDaCapacidade c ∈ q.descriptorCapabilities := by
    refine ⟨_, mapM_total criticalCapability_eq _, fun c => ?_⟩
    simp only [List.mem_toFinset, List.mem_map, List.mem_filter, BoundaryCapability.mem_inOrder,
      true_and, decide_eq_true_eq]
    constructor
    · rintro ⟨espelho, hespelho, rfl⟩
      rwa [espelho_capacidadeDe]
    · intro hc
      exact ⟨_, hc, capacidadeDe_espelho c⟩
  obtain ⟨operation, hoperation⟩ := exists_cognitiveOperation q.descriptorOperation
  obtain ⟨engagement, hengagement, hproibe⟩ := exists_capabilityEngagement q.descriptorEngagement
  refine ⟨{ operation, capabilities := l.toFinset, engagement }, ?_, hmem, and_congr ?_ hproibe⟩
  · unfold descritorDe
    rw [hoperation, ok_bind, hl, ok_bind, hengagement]
    rfl
  constructor
  · rintro ⟨c, hc⟩
    exact ⟨_, (hmem c).mp hc⟩
  · rintro ⟨c, hc⟩
    refine ⟨capacidadeDe c, (hmem _).mpr ?_⟩
    rwa [espelho_capacidadeDe]

/-- The fingerprint of a resolution needs only the version of the classifier to be a text that
can be encoded. -/
theorem canonizavel_resolucaoDe {d : CapabilityDescriptor} {r : Memory.GovernanceResolution}
    {versao : Texto} (h : GovernanceManager.DaFronteira d r) (hversao : versao.Inteiro) :
    DecisaoCanonizavel (resolucaoDe r.toResolutionFields) versao where
  textos := by
    have hof : ∀ s : String, (Texto.of s).Inteiro := fun s => inteiro_map s.toList
    have hopcional : ∀ s : Option String, ∀ t ∈ (s.map Texto.of).toList, t.Inteiro := by
      intro s t ht
      cases s with
      | none => cases ht
      | some s =>
        obtain rfl : t = Texto.of s := by simpa using ht
        exact hof s
    have hlista : ∀ l : List String, ∀ t ∈ l.map Texto.of, t.Inteiro := by
      intro l t ht
      obtain ⟨s, -, rfl⟩ := List.mem_map.mp ht
      exact hof s
    simp only [ResolutionFields.textos, resolucaoDe, List.forall_mem_append, List.mem_singleton,
      forall_eq]
    exact ⟨⟨⟨⟨⟨⟨⟨⟨⟨⟨hopcional _, hopcional _⟩, hof _⟩, hopcional _⟩, hlista _⟩, hlista _⟩,
      hlista _⟩, hlista _⟩, hopcional _⟩, hopcional _⟩, hof _⟩
  boundaryVersion := by
    change r.safetyBoundaryVersion.natAbs < _
    rw [h.versao]
    exact Nat.one_lt_pow (by decide) (by decide)
  policyVersion := by
    intro n hn
    change n ∈ r.policyVersion at hn
    rw [h.semPolicy] at hn
    cases hn
  classifierVersion := hversao

theorem casa_of_digest {t : Texto} (h : Digest t) : casa sha256LowerHex t = true :=
  casa_sha256.mpr (.inl h)

theorem digest_of_digest {campos : Campos} {versao x : String}
    (h : Protection.digest campos versao = some x) : Digest (Texto.of x) := by
  unfold Protection.digest at h
  split at h
  case isTrue => cases h
  case isFalse =>
    obtain ⟨s, -, rfl⟩ := Option.map_eq_some_iff.mp h
    exact digest_hexdigest s

/-- A view of the adapter fails only when the question is over before it is answered. -/
theorem camposDaVista_violation {outcome : BoundaryOutcome} {bloqueadas : List BoundaryCapability}
    {fingerprint sha : Texto} (houtcome : outcome = .prohibited ∧ bloqueadas ≠ [] ∨
      outcome = .notApplicable ∧ bloqueadas = []) (hnodup : bloqueadas.Nodup)
    (hfingerprint : Digest fingerprint) (hsha : Digest sha) :
    (camposDaVista q avaliadoEm platformSafetyBoundaryVersion outcome bloqueadas fingerprint
      sha).violation = none ↔ avaliadoEm.instant < q.binding.validUntil.instant := by
  obtain ⟨-, t, ht⟩ := binding_stated q.binding
  have hversao := (binding_violation.mp q.binding.valido).versao.1
  have haccepted : outcome ∈ acceptedBoundaryOutcomes := by
    rcases houtcome with ⟨rfl, -⟩ | ⟨rfl, -⟩ <;> decide
  have hcoerente : (camposDaVista q avaliadoEm platformSafetyBoundaryVersion outcome bloqueadas
      fingerprint sha).coerencia = none := by
    unfold GovernanceResolutionViewFields.coerencia camposDaVista
    rcases houtcome with ⟨rfl, hne⟩ | ⟨rfl, rfl⟩ <;> simp [*]
  have hversion : ¬platformSafetyBoundaryVersion < 1 := by decide
  unfold GovernanceResolutionViewFields.violation hash instante
  rw [firstOf_eq_none]
  simp only [List.mem_cons, List.not_mem_nil, or_false, forall_eq_or_imp, forall_eq, refuse_eq_none,
    hcoerente]
  simp [camposDaVista, haccepted, hnodup, hversion, hversao, casa_of_digest hfingerprint,
    casa_of_digest hsha, ciente, ht, Momento.instant]

/-- What the adapter answers. -/
structure Respondida (avaliadoEm : Datetime) (q : GovernanceQuery)
    (vista : GovernanceResolutionView) : Prop where
  canonizavel : BindingCanonizavel q.binding.toGovernanceBindingFields
  vinculo : ∃ sha, calcularBindingSha256 q.binding.toGovernanceBindingFields = some sha ∧
    vista.bindingSha256 = Texto.of sha
  versao : vista.boundaryVersion = platformSafetyBoundaryVersion ∧
    vista.classifierVersion = q.binding.classifierVersion
  janela : vista.evaluatedAt = .ciente avaliadoEm ∧ vista.validUntil = q.binding.validUntil
  engajamento : vista.capabilityEngagement = q.descriptorEngagement
  desfecho : q.Proibida ∧ vista.outcome = .prohibited ∨
    ¬q.Proibida ∧ vista.outcome = .notApplicable
  bloqueadas : ∀ c, c ∈ vista.blockedCapabilities ↔ c ∈ q.descriptorCapabilities ∧ q.Proibida

/-- The adapter answers exactly the questions that can be written down and are not over yet. -/
theorem resolve_cases (policies : PolicyTable) (avaliadoEm : Datetime) (q : GovernanceQuery) :
    (BindingCanonizavel q.binding.toGovernanceBindingFields ∧
        avaliadoEm.instant < q.binding.validUntil.instant ∧
        ∃ vista, resolve policies avaliadoEm q = .ok vista ∧ Respondida avaliadoEm q vista) ∨
      ¬(BindingCanonizavel q.binding.toGovernanceBindingFields ∧
          avaliadoEm.instant < q.binding.validUntil.instant) ∧
        ∃ f, resolve policies avaliadoEm q = .error f := by
  obtain ⟨d, hd, hmem, hforbidden⟩ := descritorDe_eq q
  obtain ⟨r, hr, hfronteira⟩ := GovernanceManager.resolve_sem_policy policies d q.contexto avaliadoEm
  have hresolver : resolver policies avaliadoEm q = .ok r := by
    rw [resolver, hd]
    simp only [Except.mapError, ok_bind, hr]
  have hbloqueadas : (r.blockedCapabilities.mapM fun c => boundaryCapability c.value) =
      .ok (r.blockedCapabilities.map espelhoDaCapacidade) := mapM_total boundaryCapability_value _
  obtain ⟨outcome, hdesfecho, houtcome⟩ : ∃ outcome, desfecho r = .ok outcome ∧
      (q.Proibida ∧ outcome = .prohibited ∨ ¬q.Proibida ∧ outcome = .notApplicable) := by
    rcases hfronteira.desfecho with ⟨hf, ho⟩ | ⟨hf, ho⟩
    · exact ⟨.prohibited, by rw [desfecho, ho]; rfl, .inl ⟨hforbidden.mp hf, rfl⟩⟩
    · exact ⟨.notApplicable, by rw [desfecho, ho]; rfl, .inr ⟨mt hforbidden.mpr hf, rfl⟩⟩
  have hin : ∀ c, c ∈ r.blockedCapabilities.map espelhoDaCapacidade ↔
      c ∈ q.descriptorCapabilities ∧ q.Proibida := by
    intro c
    rw [List.mem_map, ← hforbidden]
    constructor
    · rintro ⟨c, hc, rfl⟩
      obtain ⟨hasked, hf⟩ := (hfronteira.bloqueadas c).mp hc
      exact ⟨(hmem c).mp hasked, hf⟩
    · rintro ⟨hc, hf⟩
      refine ⟨capacidadeDe c, (hfronteira.bloqueadas _).mpr ⟨(hmem _).mpr ?_, hf⟩,
        espelho_capacidadeDe c⟩
      rwa [espelho_capacidadeDe]
  have hpairs : outcome = .prohibited ∧ r.blockedCapabilities.map espelhoDaCapacidade ≠ [] ∨
      outcome = .notApplicable ∧ r.blockedCapabilities.map espelhoDaCapacidade = [] := by
    rcases houtcome with ⟨hf, ho⟩ | ⟨hf, ho⟩
    · obtain ⟨c, hc⟩ := hf.1
      exact .inl ⟨ho, List.ne_nil_of_mem ((hin c).mpr ⟨hc, hf⟩)⟩
    · exact .inr ⟨ho, List.eq_nil_iff_forall_not_mem.mpr fun c hc => hf ((hin c).mp hc).2⟩
  have hnodup : (r.blockedCapabilities.map espelhoDaCapacidade).Nodup :=
    hfronteira.distintas.map fun c c' h => by
      rw [← capacidadeDe_espelho c, ← capacidadeDe_espelho c', h]
  have hresolve : resolve policies avaliadoEm q = (do
      let fingerprint ← serializado
        (calcularFingerprint (resolucaoDe r.toResolutionFields) q.binding.classifierVersion)
      let sha ← serializado (calcularBindingSha256 q.binding.toGovernanceBindingFields)
      (checked (camposDaVista q avaliadoEm r.safetyBoundaryVersion outcome
        (r.blockedCapabilities.map espelhoDaCapacidade) fingerprint sha).violation fun h =>
          (⟨_, h⟩ : GovernanceResolutionView)).mapError .excecao) := by
    unfold resolve
    rw [hresolver, ok_bind, hdesfecho, ok_bind, hbloqueadas]
    rfl
  rw [hresolve, hfronteira.versao]
  by_cases hcanonizavel : BindingCanonizavel q.binding.toGovernanceBindingFields
  · obtain ⟨sha, hsha⟩ := Option.isSome_iff_exists.mp ((binding_isSome q.binding).mpr hcanonizavel)
    obtain ⟨fingerprint, hfingerprint⟩ := Option.isSome_iff_exists.mp
      (decisao_isSome.mpr (canonizavel_resolucaoDe hfronteira hcanonizavel.classifierVersion))
    have hdigest : Digest (Texto.of fingerprint) := by
      rw [calcularFingerprint_eq] at hfingerprint
      exact digest_of_digest hfingerprint
    have hviolation := @camposDaVista_violation avaliadoEm q _ _ _ _ hpairs hnodup hdigest
      (digest_of_digest hsha)
    rw [hfingerprint, hsha]
    by_cases hcedo : avaliadoEm.instant < q.binding.validUntil.instant
    · refine .inl ⟨hcanonizavel, hcedo, ⟨_, hviolation.mpr hcedo⟩, ?_, {
        canonizavel := hcanonizavel
        vinculo := ⟨sha, hsha, rfl⟩
        versao := ⟨rfl, rfl⟩
        janela := ⟨rfl, rfl⟩
        engajamento := rfl
        desfecho := houtcome
        bloqueadas := hin }⟩
      simp only [serializado, ok_bind, checked_eq_ok (hviolation.mpr hcedo)]
      rfl
    · refine .inr ⟨fun h => hcedo h.2, ?_⟩
      obtain ⟨texto, htexto⟩ := Option.ne_none_iff_exists'.mp (mt hviolation.mp hcedo)
      exact ⟨.excecao texto, by simp only [serializado, ok_bind, checked_of_some htexto]; rfl⟩
  · refine .inr ⟨fun h => hcanonizavel h.1, ?_⟩
    have hnone : calcularBindingSha256 q.binding.toGovernanceBindingFields = none := by
      rw [← Option.not_isSome_iff_eq_none, binding_isSome]
      exact hcanonizavel
    rw [hnone]
    cases calcularFingerprint (resolucaoDe r.toResolutionFields) q.binding.classifierVersion with
    | none => exact ⟨_, rfl⟩
    | some x => exact ⟨_, rfl⟩

end GovernanceResolutionAdapter

/-! ## The bridge -/

section Ponte

open HumanProtectionBridge

variable {ε : Type} {vista : GovernanceResolutionView} {binding : GovernanceBinding}

theorem exigirVinculo_eq_ok (hsha : ∃ sha,
      calcularBindingSha256 binding.toGovernanceBindingFields = some sha ∧
        vista.bindingSha256 = Texto.of sha)
    (hboundary : vista.boundaryVersion = binding.boundaryVersion)
    (hversao : vista.classifierVersion = binding.classifierVersion)
    (huntil : vista.validUntil = binding.validUntil) :
    exigirVinculo (ε := ε) vista binding = .ok () := by
  obtain ⟨sha, hbinding, hvista⟩ := hsha
  unfold exigirVinculo
  rw [hbinding]
  refine recusar_eq_ok.mpr ?_
  simp [hvista, hboundary, hversao, huntil]

theorem exigirValidade_eq_ok {t u : Datetime} {agora : Momento} (hagora : ciente agora = true)
    (hfrom : vista.evaluatedAt = .ciente t) (huntil : vista.validUntil = .ciente u)
    (hafter : t.instant ≤ agora.instant) (hbefore : agora.instant < u.instant) :
    exigirValidade (ε := ε) vista agora = .ok () := by
  cases agora with
  | ingenuo wall => cases hagora
  | ciente v =>
    have hin : v.instant < u.instant := hbefore
    have hnot : ¬v.instant < t.instant := not_lt.mpr hafter
    unfold exigirValidade
    rw [hfrom, huntil]
    refine recusar_eq_ok.mpr ?_
    simp [hin, hnot]

/-- The effects that an outcome may be registered with. -/
structure Cabiveis (c : Chamada) (outcome : ProtectionOutcome) : Prop where
  binaria : outcome = .allowed ∨ outcome = .blocked
  permitida : outcome = .allowed → c.efeitos.pauseApplied = false ∧
    c.efeitos.delegationsRevoked = 0 ∧ c.efeitos.attemptId = c.binding.attemptId
  bloqueada : outcome = .blocked → c.efeitos.attemptId = none ∧
    (c.efeitos.pauseApplied = true ↔ c.binding.gatePosition ≠ .g1) ∧
      c.vista.capabilityEngagement ∈ engagementsQueBloqueiam

/-- What the checks of a view say of its capabilities and its hashes. -/
theorem vista_limpa (vista : GovernanceResolutionView) : vista.blockedCapabilities.Nodup ∧
    casa sha256LowerHex vista.decisionFingerprint = true ∧
      casa sha256LowerHex vista.bindingSha256 = true := by
  have hvalid := vista.valida
  unfold GovernanceResolutionViewFields.violation hash at hvalid
  simp only [firstOf_cons, firstOf_nil, and_true, refuse_eq_none, decide_eq_false_iff_not, not_not,
    Bool.not_eq_false'] at hvalid
  obtain ⟨-, hnodup, -, -, hdecision, hbinding, -⟩ := hvalid
  exact ⟨hnodup, hdecision, hbinding⟩

/-- Nothing is wrong with an application of these effects. -/
theorem camposDaAplicacao_violation {c : Chamada} {outcome : ProtectionOutcome}
    (h : Cabiveis c outcome) : (camposDaAplicacao c outcome).violation = none := by
  have hb := binding_violation.mp c.binding.valido
  obtain ⟨hnodup, hdecision, hbinding⟩ := vista_limpa c.vista
  have htipos : (camposDaAplicacao c outcome).tipos = none := by
    have hcapacidades : (if outcome = .blocked then c.vista.blockedCapabilities else []).Nodup := by
      split <;> simp [hnodup]
    unfold HumanProtectionApplicationFields.tipos camposDaAplicacao
    simp only [firstOf_cons, firstOf_nil, and_true, refuse_eq_none, decide_eq_false_iff_not, not_lt,
      not_not]
    exact ⟨hb.principal.1, hb.versao.1, c.efeitos.naoNegativo, hb.fronteira, hcapacidades⟩
  have hhashes : (camposDaAplicacao c outcome).versoesEHashes = none := by
    unfold HumanProtectionApplicationFields.versoesEHashes HumanProtectionApplicationFields.digesto
      camposDaAplicacao
    simp only [firstOf_cons, firstOf_nil, and_true, refuse_casa]
    refine ⟨hb.objetivo, hdecision, hbinding, ?_, ?_, ?_⟩ <;> simp
  have hposicao : (camposDaAplicacao c outcome).posicao = none := by
    have hvalid := c.binding.valido
    unfold GovernanceBindingFields.violation GovernanceBindingFields.posicao at hvalid
    unfold HumanProtectionApplicationFields.posicao camposDaAplicacao
    simp only [firstOf_cons, firstOf_nil, and_true, refuse_eq_none, decide_eq_false_iff_not]
      at hvalid ⊢
    obtain ⟨-, -, -, -, -, hfirst, hothers, hthird, honly⟩ := hvalid
    refine ⟨hfirst, hothers, ?_, hthird, honly⟩
    rintro ⟨hgate, hpause⟩
    rcases h.binaria with hallowed | hblocked
    · rw [(h.permitida hallowed).1] at hpause
      cases hpause
    · exact (h.bloqueada hblocked).2.1.mp hpause hgate
  have hdesfecho : (camposDaAplicacao c outcome).desfecho = none := by
    unfold HumanProtectionApplicationFields.desfecho camposDaAplicacao
    simp only [firstOf_cons, firstOf_nil, and_true, refuse_eq_none, decide_eq_false_iff_not]
    rcases h.binaria with rfl | rfl
    · obtain ⟨hpause, hrevoked, hattempt⟩ := h.permitida rfl
      have hthird : c.efeitos.attemptId.isSome = true ↔ c.binding.gatePosition = .g3 := by
        rw [hattempt, Option.isSome_iff_ne_none]
        exact hb.tentativa
      simp [hpause, hrevoked, hattempt] at hthird ⊢
      exact ⟨hthird.mp, fun hnone hgate => by simp [hnone] at hthird; exact hthird hgate⟩
    · obtain ⟨hattempt, hpause, hengagement⟩ := h.bloqueada rfl
      have hok : c.vista.capabilityEngagement = .operationalEnablement ∨
          c.vista.capabilityEngagement = .unspecified := by
        simpa [engagementsQueBloqueiam] using hengagement
      simp [hattempt, engagementsQueBloqueiam]
      exact ⟨hok.resolve_left, hpause.mpr⟩
  rw [HumanProtectionApplicationFields.violation, firstOf_eq_none]
  simp [htipos, hhashes, hposicao, hdesfecho]

end Ponte

/-! ## The gate decides as the boundary -/

/-- The safety boundary forbids what was classified. -/
def AuthorizedCapabilityDescriptor.Proibido (d : AuthorizedCapabilityDescriptor) : Prop :=
  d.capabilities.Nonempty ∧
    (d.engagement = .operationalEnablement ∨ d.engagement = .unspecified)

namespace HumanProtectionComposition

open HumanProtectionBridge GovernanceResolutionAdapter

variable {ε : Type} {C : HumanProtectionComposition ε} {p : Pedido}
  {d : AuthorizedCapabilityDescriptor} {q : GovernanceQuery} {policies : PolicyTable}
  {avaliadoEm : Datetime}

/-- The composition over the governance of the platform. -/
def comGovernanca (C : HumanProtectionComposition ε) (policies : PolicyTable)
    (avaliadoEm : Datetime) : HumanProtectionComposition ε :=
  { C with port := porta policies avaliadoEm }

/-- A call that can be decided: there is a descriptor of its objective, its texts can be bound
and written down, its references fit its gate, and the readings of the clock lie before the
deadline, in order. -/
structure Pronta (C : HumanProtectionComposition ε) (p : Pedido)
    (d : AuthorizedCapabilityDescriptor) (avaliadoEm : Datetime) : Prop where
  descritor : IntentAuthorizationBroker.Autoriza C.broker p.objective p.operation p.moment d
  fronteira : C.boundaryVersion = platformSafetyBoundaryVersion
  principal : vazio p.principalRef = false ∧ p.principalRef.length ≤ PiaOs.maxRefLength ∧
    p.principalRef.Inteiro
  versao : d.classifierVersion.length ≤ maxClassifierVersionLength ∧ d.classifierVersion.Inteiro
  primeira : p.gatePosition = .g1 → p.scheduleId = none ∧ p.stepId = none
  outras : p.gatePosition ≠ .g1 → p.scheduleId ≠ none ∧ p.stepId ≠ none
  tentativa : p.attemptId ≠ none ↔ p.gatePosition = .g3
  decidida : avaliadoEm.instant ≤ (p.instante p.agoraAvaliar).instant ∧
    (p.instante p.agoraAvaliar).instant < d.validUntil.val
  registrada : avaliadoEm.instant ≤ (p.instante p.agoraRegistrar).instant ∧
    (p.instante p.agoraRegistrar).instant < d.validUntil.val

/-- The ports that a block needs do what they are asked. -/
structure Suspendivel (C : HumanProtectionComposition ε) (p : Pedido) : Prop where
  pausa : p.gatePosition ≠ .g1 → ∀ s ∈ p.scheduleId, ∀ fp, C.pausePort s fp = none
  revogacao : p.gatePosition = .g4 → ∃ porta, C.revocationPort = some porta ∧
    ∀ s ∈ p.scheduleId, ∀ fp, ∃ n, porta s fp = .valor n ∧ 0 ≤ n

/-- The acts that suspend the work of a schedule and revoke what was asked for. -/
def suspensaoDe (p : Pedido) (fingerprint : Texto) : List Ato :=
  (if p.gatePosition = .g1 then [] else p.scheduleId.toList.map fun s => .pause s fingerprint) ++
    if p.gatePosition = .g4 then p.scheduleId.toList.map fun s => .revoke s fingerprint else []

/-- The gate agrees with the boundary. -/
structure Concorda (C : HumanProtectionComposition ε) (p : Pedido) (policies : PolicyTable)
    (avaliadoEm : Datetime) : Prop where
  pronta : ∀ a, .registrar a ∈ ((C.comGovernanca policies avaliadoEm).aplicar p).1 →
    ∃ d, Pronta C p d avaliadoEm
  permite : ∀ d, Pronta C p d avaliadoEm → p.efeitos = none → ¬d.Proibido →
    ∃ a, (C.comGovernanca policies avaliadoEm).aplicar p = ([.registrar a], C.resposta a) ∧
      a.outcome = .allowed ∧ a.blockedCapabilities = []
  bloqueia : ∀ d, Pronta C p d avaliadoEm → p.efeitos = none → d.Proibido → Suspendivel C p →
    ∃ a, (C.comGovernanca policies avaliadoEm).aplicar p =
        (suspensaoDe p a.decisionFingerprint ++ [.registrar a], C.resposta a) ∧
      a.outcome = .blocked ∧
      a.capabilityEngagement = some (espelhoDoEngajamento d.engagement) ∧
      ∀ c, c ∈ a.blockedCapabilities ↔ c ∈ d.capabilities.image espelhoDaCapacidade

section Pronta

variable {vista : GovernanceResolutionView}

theorem ciente_instante (h : IntentAuthorizationBroker.Autoriza C.broker p.objective p.operation
    p.moment d) (agora : Instante) : ciente (p.instante agora) = true := by
  obtain ⟨m, hm, hutc⟩ := h.relogio
  unfold Pedido.instante
  cases hmoment : p.moment with
  | none => rfl
  | some lido =>
    rw [hmoment] at hm
    obtain rfl : lido = m := Retorno.valor.inj hm
    cases lido with
    | ingenuo wall => cases hutc
    | ciente t => rfl

theorem vinculavel_of_pronta (h : Pronta C p d avaliadoEm) (operation : BoundaryOperation) :
    Vinculavel (C.camposDoVinculo p d operation) where
  principal := ⟨h.principal.1, h.principal.2.1⟩
  versao := ⟨d.version_stated, h.versao.1⟩
  objetivo := casa_of_digest d.digest
  fronteira := C.boundaryVersion_pos
  prazo := rfl
  primeira := h.primeira
  outras := h.outras
  tentativa := h.tentativa

theorem instant_utc (i : Instante) : (i.utc).instant = i.val := by
  simp [Instante.utc, Datetime.instant]

/-- The question of a call that can be decided is asked. -/
theorem exists_pergunta (h : Pronta C p d avaliadoEm) : ∃ q, Pergunta C p d q ∧
    BindingCanonizavel q.binding.toGovernanceBindingFields ∧
      avaliadoEm.instant < q.binding.validUntil.instant := by
  have hvalid := binding_violation.mpr (vinculavel_of_pronta h (espelhoDaOperacao d.operation))
  refine ⟨⟨espelhoDaOperacao d.operation, d.capabilities.image espelhoDaCapacidade,
    espelhoDoEngajamento d.engagement, ⟨_, hvalid⟩, {}, rfl⟩, ⟨rfl, rfl, rfl, rfl⟩, ?_, ?_⟩
  · refine ⟨h.principal.2.2, h.versao.2, ?_, ?_⟩
    · change C.boundaryVersion.natAbs < _
      rw [h.fronteira]
      exact Nat.one_lt_pow (by decide) (by decide)
    · change datetimeMin ≤ d.validUntil.utc.instant ∧ d.validUntil.utc.instant ≤ datetimeMax
      rw [instant_utc]
      exact d.validUntil.property
  · change avaliadoEm.instant < d.validUntil.utc.instant
    rw [instant_utc]
    exact lt_of_le_of_lt h.decidida.1 h.decidida.2

theorem proibida_of_pergunta (h : Pergunta C p d q) : q.Proibida ↔ d.Proibido := by
  have hengagement : (espelhoDoEngajamento d.engagement = .operationalEnablement ∨
      espelhoDoEngajamento d.engagement = .unspecified) ↔
      (d.engagement = .operationalEnablement ∨ d.engagement = .unspecified) := by
    cases d.engagement <;> simp [espelhoDoEngajamento]
  unfold GovernanceQuery.Proibida AuthorizedCapabilityDescriptor.Proibido
  rw [h.capacidades, h.engajamento, Finset.image_nonempty, hengagement]

/-- The governance decides a call that is ready. -/
theorem decidida_of_pronta (h : Pronta C p d avaliadoEm) (policies : PolicyTable) :
    ∃ q vista outcome, Decidida (C.comGovernanca policies avaliadoEm) p d q vista outcome ∧
      Respondida avaliadoEm q vista ∧
      (d.Proibido ∧ outcome = .blocked ∨ ¬d.Proibido ∧ outcome = .allowed) := by
  obtain ⟨q, hpergunta, hcanonizavel, hcedo⟩ := exists_pergunta h
  have huntil : q.binding.validUntil = .ciente d.validUntil.utc := by
    rw [hpergunta.vinculo]
    rfl
  rcases resolve_cases policies avaliadoEm q with ⟨-, -, vista, hresolve, hvista⟩ | ⟨hnot, -⟩
  swap
  · exact absurd ⟨hcanonizavel, hcedo⟩ hnot
  have hboundary : vista.boundaryVersion = q.binding.boundaryVersion := by
    rw [hvista.versao.1, hpergunta.vinculo]
    exact h.fronteira.symm
  obtain ⟨outcome, hdesfecho, houtcome⟩ : ∃ outcome,
      HumanProtectionBridge.desfecho (ε := ε) vista = .ok outcome ∧
        (d.Proibido ∧ outcome = .blocked ∨ ¬d.Proibido ∧ outcome = .allowed) := by
    rw [← proibida_of_pergunta hpergunta]
    rcases hvista.desfecho with ⟨hf, ho⟩ | ⟨hf, ho⟩
    · exact ⟨.blocked, by rw [HumanProtectionBridge.desfecho, ho]; rfl, .inl ⟨hf, rfl⟩⟩
    · exact ⟨.allowed, by rw [HumanProtectionBridge.desfecho, ho]; rfl, .inr ⟨hf, rfl⟩⟩
  refine ⟨q, vista, outcome, {
    descritor := h.descritor
    pergunta := ⟨hpergunta.vinculo, hpergunta.capacidades, hpergunta.engajamento,
      hpergunta.contexto⟩
    resposta := ?_
    vinculo := exigirVinculo_eq_ok hvista.vinculo hboundary hvista.versao.2 hvista.janela.2
    validade := ?_
    desfecho := hdesfecho }, hvista, houtcome⟩
  · change porta policies avaliadoEm q = .valor vista
    rw [porta, hresolve]
  · exact exigirValidade_eq_ok (ciente_instante h.descritor _) hvista.janela.1
      (hvista.janela.2.trans huntil) h.decidida.1 (by rw [instant_utc]; exact h.decidida.2)

/-- A call that is ready is still in time when its application is registered. -/
theorem validade_of_pronta {C' : HumanProtectionComposition ε} {outcome : ProtectionOutcome}
    (h : Pronta C p d avaliadoEm) (hd : Decidida C' p d q vista outcome)
    (hvista : Respondida avaliadoEm q vista) :
    exigirValidade (ε := ε) vista (p.instante p.agoraRegistrar) = .ok () := by
  have huntil : vista.validUntil = .ciente d.validUntil.utc := by
    rw [hvista.janela.2, hd.pergunta.vinculo]
    rfl
  exact exigirValidade_eq_ok (ciente_instante h.descritor _) hvista.janela.1 huntil h.registrada.1
    (by rw [instant_utc]; exact h.registrada.2)

/-- What is decided in time is registered, with effects that its outcome may have. -/
theorem registrar_of_cabiveis {c : Chamada} {outcome : ProtectionOutcome}
    (hvinculo : exigirVinculo (ε := ε) c.vista c.binding = .ok ())
    (hdesfecho : HumanProtectionBridge.desfecho (ε := ε) c.vista = .ok outcome)
    (hvalidade : exigirValidade (ε := ε) c.vista c.agora = .ok ()) (h : Cabiveis c outcome) :
    ∃ a : HumanProtectionApplication, C.registrar c = ([.registrar a], C.resposta a) ∧
      a.toHumanProtectionApplicationFields = camposDaAplicacao c outcome := by
  have hviolation := camposDaAplicacao_violation h
  refine ⟨⟨camposDaAplicacao c outcome, hviolation⟩, ?_, rfl⟩
  have hmontada : montarAplicacao (ε := ε) c = .ok ⟨camposDaAplicacao c outcome, hviolation⟩ := by
    rw [montarAplicacao, hdesfecho, ok_bind]
    simp only [checked_eq_ok hviolation]
    rfl
  have hpreparada : preparar (ε := ε) c = .ok ⟨camposDaAplicacao c outcome, hviolation⟩ := by
    rw [preparar, hvinculo, ok_bind, hmontada, ok_bind, hvalidade]
    rfl
  rw [registrar, hpreparada]
  rfl

/-- With ports that do what they are asked, a block has its effects. -/
theorem Suspendivel.efeitos (h : Suspendivel C p) {binding : GovernanceBinding}
    (hgate : binding.gatePosition = p.gatePosition) (hschedule : binding.scheduleId = p.scheduleId)
    (hsome : p.gatePosition ≠ .g1 → p.scheduleId ≠ none) (vista : GovernanceResolutionView)
    (pedidos : ProtectionEffects) :
    ∃ atos finais, C.efeitosDoBloqueio binding vista pedidos = (atos, .ok finais) ∧
      Suspensa C binding vista pedidos finais atos := by
  rcases efeitosDoBloqueio_cases C binding vista pedidos with
    ⟨-, -, -, -, hnot⟩ | ⟨atos, finais, heq, hsuspensa, -⟩
  · refine absurd ⟨fun hfirst => ?_, fun hlast => ?_⟩ hnot
    · rw [hgate] at hfirst
      obtain ⟨s, hs⟩ := Option.ne_none_iff_exists'.mp (hsome hfirst)
      exact ⟨s, hschedule.trans hs, h.pausa hfirst s hs _⟩
    · rw [hgate] at hlast
      obtain ⟨s, hs⟩ := Option.ne_none_iff_exists'.mp (hsome (by rw [hlast]; decide))
      obtain ⟨porta, hporta, hanswers⟩ := h.revogacao hlast
      obtain ⟨n, hanswer, hn⟩ := hanswers s hs vista.decisionFingerprint
      exact ⟨s, porta, n, hschedule.trans hs, hporta, hanswer, hn⟩
  · exact ⟨atos, finais, heq, hsuspensa⟩

/-- A call with a decision and effects that fit it registers its application. -/
theorem aplicar_of_decidida {outcome : ProtectionOutcome} {antes : List Ato}
    {finais : ProtectionEffects} (hd : Decidida C p d q vista outcome)
    (hfinais : (if outcome = .blocked then
        C.efeitosDoBloqueio q.binding vista (p.efeitos.getD { attemptId := p.attemptId })
      else ([], .ok (p.efeitos.getD { attemptId := p.attemptId }))) = (antes, .ok finais))
    (hcabiveis : Cabiveis (p.chamada q vista finais) outcome)
    (hvalidade : exigirValidade (ε := ε) vista (p.instante p.agoraRegistrar) = .ok ()) :
    ∃ a : HumanProtectionApplication, C.aplicar p = (antes ++ [.registrar a], C.resposta a) ∧
      a.toHumanProtectionApplicationFields =
        camposDaAplicacao (p.chamada q vista finais) outcome := by
  obtain ⟨a, hregistrar, hcampos⟩ := registrar_of_cabiveis (C := C) (c := p.chamada q vista finais)
    hd.vinculo hd.desfecho hvalidade hcabiveis
  refine ⟨a, ?_, hcampos⟩
  unfold aplicar
  rw [decidir_eq_ok.mpr ⟨d, hd⟩]
  dsimp only
  rw [hfinais, Feito.depois_ok, hregistrar]

/-- What the boundary does not forbid is allowed, at once. -/
theorem permitida_of_pronta (h : Pronta C p d avaliadoEm) (policies : PolicyTable)
    (hefeitos : p.efeitos = none) (hlivre : ¬d.Proibido) :
    ∃ a, (C.comGovernanca policies avaliadoEm).aplicar p = ([.registrar a], C.resposta a) ∧
      a.outcome = .allowed ∧ a.blockedCapabilities = [] := by
  obtain ⟨q, vista, outcome, hd, hvista, hcases⟩ := decidida_of_pronta h policies
  obtain rfl : outcome = .allowed := (hcases.resolve_left fun h => hlivre h.1).2
  have hcabiveis : Cabiveis (p.chamada q vista { attemptId := p.attemptId }) .allowed := by
    refine ⟨.inl rfl, fun _ => ⟨rfl, rfl, ?_⟩, fun h => (by cases h)⟩
    change p.attemptId = q.binding.attemptId
    rw [hd.pergunta.vinculo]
    rfl
  obtain ⟨a, haplicar, hcampos⟩ := aplicar_of_decidida hd
    (by rw [if_neg (by decide), hefeitos]; rfl) hcabiveis (validade_of_pronta h hd hvista)
  refine ⟨a, haplicar, by rw [hcampos]; rfl, by rw [hcampos]; rfl⟩

end Pronta

/-- What is registered under the governance of the platform was ready. -/
theorem pronta_of_registrar {a : HumanProtectionApplication}
    (ha : .registrar a ∈ ((C.comGovernanca policies avaliadoEm).aplicar p).1) :
    ∃ d, Pronta C p d avaliadoEm := by
  obtain ⟨d, q, vista, finais, antes, -, -, h⟩ := fundada_of_registrar ha
  have hporta : porta policies avaliadoEm q = .valor vista := h.resposta
  have hvista : Respondida avaliadoEm q vista := by
    rcases resolve_cases policies avaliadoEm q with ⟨-, -, lida, hresolve, hlida⟩ | ⟨-, f, hresolve⟩
    · rw [porta, hresolve] at hporta
      rwa [← Retorno.valor.inj hporta]
    · rw [porta, hresolve] at hporta
      cases hporta
  have hvinculo := h.pergunta.vinculo
  have hv := binding_violation.mp q.binding.valido
  have hcanonizavel := hvista.canonizavel
  have huntil : vista.validUntil.instant = d.validUntil.val := by
    rw [hvista.janela.2, hvinculo]
    exact instant_utc d.validUntil
  have hfrom : vista.evaluatedAt.instant = avaliadoEm.instant := by
    rw [hvista.janela.1]
    rfl
  have hfronteira : platformSafetyBoundaryVersion = q.binding.boundaryVersion :=
    hvista.versao.1.symm.trans h.autorizada.versoes.1
  have hdecidida := h.decidida
  have hregistrada : vista.evaluatedAt.instant ≤ (p.instante p.agoraRegistrar).instant ∧
      (p.instante p.agoraRegistrar).instant < vista.validUntil.instant := h.autorizada.vigente
  rw [hfrom, huntil] at hdecidida hregistrada
  rw [hvinculo] at hv hcanonizavel hfronteira
  exact ⟨d, {
    descritor := h.descritor
    fronteira := hfronteira.symm
    principal := ⟨hv.principal.1, hv.principal.2, hcanonizavel.principalRef⟩
    versao := ⟨hv.versao.2, hcanonizavel.classifierVersion⟩
    primeira := hv.primeira
    outras := hv.outras
    tentativa := hv.tentativa
    decidida := hdecidida
    registrada := hregistrada }⟩

/-- An hour of validity, a classifier that finds one capability, and ports that do what they are
asked. -/
def umaHora (engagement : CapabilityEngagement) : HumanProtectionComposition Unit where
  broker := {
    classifier := {
      classifierVersion := .valor (Texto.of "v1")
      coveredCapabilities := .valor (.itens (CriticalCapability.inOrder.map some))
      classify := fun _ => .valor { capabilities := {.catastrophicHarmEnablement}, engagement } }
    ttl := 3600000000
    clock := .outro
    ttl_pos := by decide }
  port := fun _ => .outro
  repository := fun _ => .ok ()
  boundaryVersion := 1
  pausePort := fun _ _ => none
  revocationPort := none
  resumePort := some fun _ _ => none
  boundaryVersion_pos := Int.one_pos

/-- A call at the second gate, at the epoch. -/
def naEpoca : Pedido where
  objective := Texto.of "objetivo"
  gatePosition := .g2
  principalRef := Texto.of "p"
  operation := .expose
  scheduleId := some 1
  stepId := some 2
  moment := some (.ciente .epoch)
  agoraAvaliar := ⟨0, Datetime.epoch.wall_inRange⟩
  agoraRegistrar := ⟨0, Datetime.epoch.wall_inRange⟩

def descritorDaEpoca (engagement : CapabilityEngagement) : AuthorizedCapabilityDescriptor where
  operation := .expose
  capabilities := {.catastrophicHarmEnablement}
  engagement
  objectiveSha256 := Texto.of (Sha256.hexdigest "objetivo")
  classifierVersion := Texto.of "v1"
  evaluatedAt := ⟨0, Datetime.epoch.wall_inRange⟩
  validUntil := ⟨3600000000, by decide⟩
  statedIntent := none
  digest := digest_hexdigest _
  version_stated := by decide
  janela := by decide
  statedIntent_stated := by simp

theorem naEpoca_pronta (engagement : CapabilityEngagement) :
    Pronta (umaHora engagement) naEpoca (descritorDaEpoca engagement) .epoch where
  descritor := {
    operacao := rfl
    objetivo := ⟨by decide, "objetivo", by decide, rfl⟩
    cobertura := ⟨_, rfl, by decide, fun c => by cases c <;> decide⟩
    classificacao := ⟨_, rfl, rfl, rfl, by cases engagement <;> rfl⟩
    relogio := ⟨.ciente .epoch, rfl, rfl⟩
    versao := rfl
    prazo := rfl }
  fronteira := rfl
  principal := ⟨by decide, by decide, inteiro_map "p".toList⟩
  versao := ⟨by change (Texto.of "v1").length ≤ 16; decide, inteiro_map "v1".toList⟩
  primeira := by decide
  outras := by decide
  tentativa := by decide
  decidida := ⟨le_refl _, by change (0 : ℤ) < 3600000000; decide⟩
  registrada := ⟨le_refl _, by change (0 : ℤ) < 3600000000; decide⟩

theorem resumption_at_epoch : ∃ fingerprint a,
    Retomada ((umaHora .analytical).comGovernanca {} .epoch) naEpoca 1 2 1 fingerprint a := by
  obtain ⟨a, haplicar, houtcome, -⟩ := permitida_of_pronta (naEpoca_pronta .analytical) {} rfl
    fun h => by rcases h.2 with he | he <;> cases he
  refine ⟨_, resumption_needs_permission _ naEpoca 1 2 1 a.decisionFingerprint ?_⟩
  rw [retomar_of_porta rfl (by decide), show naEpoca.deRetomada 1 2 = naEpoca from rfl, haplicar,
    show resposta _ a = .ok a from rfl, Feito.depois_ok, reativar, if_neg (not_not.mpr houtcome)]
  exact List.mem_cons_of_mem _ (List.mem_singleton_self _)

end HumanProtectionComposition

end PiaOs.Protection
