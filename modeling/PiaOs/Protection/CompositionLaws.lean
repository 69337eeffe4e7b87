import Mathlib.Data.Finset.Image
import PiaOs.Protection.Composition
import PiaOs.Protection.Identities

/-!
# What the gate lets through

An application reaches the repository only on a decision of the governance about the descriptor
that the classifier gave, and a block only after the work was suspended. With the governance of
the platform the gate blocks what the safety boundary forbids, and nothing else.
-/

namespace PiaOs.Protection

open Support Memory Piap Envelope

/-! ## The vocabularies agree

Each member of a vocabulary has a mirror with its value in the other one. -/

def espelhoDaOperacao : CognitiveOperation → BoundaryOperation
  | .read => .read
  | .reference => .reference
  | .derive => .derive
  | .transform => .transform
  | .expose => .expose
  | .synchronize => .synchronize
  | .consolidate => .consolidate
  | .accessibilityTransition => .accessibilityTransition
  | .retentionAssessment => .retentionAssessment
  | .retentionDisposition => .retentionDisposition
  | .legalErasure => .legalErasure

def espelhoDaCapacidade : CriticalCapability → BoundaryCapability
  | .childSexualExploitation => .childSexualExploitation
  | .minorTargetingForExploitation => .minorTargetingForExploitation
  | .weaponOfMassDestructionEnablement => .weaponOfMassDestructionEnablement
  | .catastrophicHarmEnablement => .catastrophicHarmEnablement

def espelhoDoEngajamento : CapabilityEngagement → BoundaryEngagement
  | .operationalEnablement => .operationalEnablement
  | .analytical => .analytical
  | .preventive => .preventive
  | .unspecified => .unspecified

theorem boundaryOperation_value (o : CognitiveOperation) :
    boundaryOperation o.value = .ok (espelhoDaOperacao o) := by
  cases o <;> rfl

theorem boundaryCapability_value (c : CriticalCapability) :
    boundaryCapability c.value = .ok (espelhoDaCapacidade c) := by
  cases c <;> rfl

theorem boundaryEngagement_value (e : CapabilityEngagement) :
    boundaryEngagement e.value = .ok (espelhoDoEngajamento e) := by
  cases e <;> rfl

theorem mapM_total {ε α β : Type} {f : α → Except ε β} {g : α → β} (h : ∀ a, f a = .ok (g a))
    (xs : List α) : xs.mapM f = .ok (xs.map g) := by
  rw [mapM_eq_ok, List.forall₂_map_right_iff]
  exact List.forall₂_same.mpr fun a _ => h a

/-- What the checks of a binding let through. -/
structure Vinculavel (b : GovernanceBindingFields) : Prop where
  principal : vazio b.principalRef = false ∧ b.principalRef.length ≤ PiaOs.maxRefLength
  versao : vazio b.classifierVersion = false ∧
    b.classifierVersion.length ≤ maxClassifierVersionLength
  objetivo : casa sha256LowerHex b.objectiveSha256 = true
  fronteira : 1 ≤ b.boundaryVersion
  prazo : ciente b.validUntil = true
  /-- The first gate precedes the schedule, the others look at a step of it. -/
  primeira : b.gatePosition = .g1 → b.scheduleId = none ∧ b.stepId = none
  outras : b.gatePosition ≠ .g1 → b.scheduleId ≠ none ∧ b.stepId ≠ none
  tentativa : b.attemptId ≠ none ↔ b.gatePosition = .g3

theorem binding_violation {b : GovernanceBindingFields} : b.violation = none ↔ Vinculavel b := by
  unfold GovernanceBindingFields.violation GovernanceBindingFields.posicao texto
  simp only [firstOf_cons, firstOf_nil, and_true, refuse_eq_none, decide_eq_false_iff_not, not_lt,
    Bool.not_eq_false']
  constructor
  · rintro ⟨hprincipal, hversao, hobjetivo, hfronteira, hprazo, hfirst, hothers, hthird, honly⟩
    refine ⟨hprincipal, hversao, hobjetivo, hfronteira, hprazo, fun hgate => ?_, fun hgate => ?_,
      fun hattempt => ?_, fun hgate => ?_⟩
    · have hnot := fun h => hfirst ⟨hgate, h⟩
      simpa using hnot
    · have hnot := fun h => hothers ⟨hgate, h⟩
      simpa using hnot
    · by_contra hgate
      exact honly ⟨hgate, Option.isSome_iff_ne_none.mpr hattempt⟩
    · intro hnone
      exact hthird ⟨hgate, by rw [hnone]; rfl⟩
  · rintro ⟨hprincipal, hversao, hobjetivo, hfronteira, hprazo, hfirst, hothers, hattempt⟩
    refine ⟨hprincipal, hversao, hobjetivo, hfronteira, hprazo, ?_, ?_, ?_, ?_⟩
    · rintro ⟨hgate, h⟩
      obtain ⟨hschedule, hstep⟩ := hfirst hgate
      simp [hschedule, hstep] at h
    · rintro ⟨hgate, h⟩
      obtain ⟨hschedule, hstep⟩ := hothers hgate
      simp [hschedule, hstep] at h
    · rintro ⟨hgate, hnone⟩
      exact hattempt.mpr hgate (Option.isNone_iff_eq_none.mp hnone)
    · rintro ⟨hgate, hsome⟩
      exact hgate (hattempt.mp (Option.isSome_iff_ne_none.mp hsome))

namespace HumanProtectionComposition

theorem traduzirOperacao_eq (o : CognitiveOperation) :
    traduzirOperacao o = .ok (espelhoDaOperacao o) := by
  rw [traduzirOperacao, boundaryOperation_value]
  rfl

theorem traduzirEngajamento_eq (e : CapabilityEngagement) :
    traduzirEngajamento e = .ok (espelhoDoEngajamento e) := by
  rw [traduzirEngajamento, boundaryEngagement_value]
  rfl

/-- No capability is lost on the way. -/
theorem traduzirCapacidades_eq (capabilities : Finset CriticalCapability) :
    traduzirCapacidades capabilities = .ok (capabilities.image espelhoDaCapacidade) := by
  rw [traduzirCapacidades, mapM_total (g := espelhoDaCapacidade) fun c => ?_]
  · refine congrArg Except.ok (Finset.ext fun c => ?_)
    simp [CriticalCapability.mem_inOrder]
  · rw [boundaryCapability_value]
    rfl

end HumanProtectionComposition

/-! ## The broker -/

namespace IntentAuthorizationBroker

variable {b : IntentAuthorizationBroker} {objective : Texto} {operation : CognitiveOperation}
  {moment : Option Momento} {d : AuthorizedCapabilityDescriptor}

/-- The classifier covers the whole vocabulary, and declares nothing else. -/
structure Cobre (lidos : List (Option CriticalCapability)) : Prop where
  tipada : none ∉ lidos
  inteira : ∀ c, some c ∈ lidos

theorem requireNonVacuousCoverage_eq_ok : b.requireNonVacuousCoverage = .ok () ↔
    ∃ lidos, b.classifier.coveredCapabilities = .valor (.itens lidos) ∧ Cobre lidos := by
  unfold requireNonVacuousCoverage
  cases hcoberta : b.classifier.coveredCapabilities with
  | outro => simp
  | falha f => simp
  | valor cobertura =>
    cases cobertura with
    | falha texto => simp
    | itens lidos =>
      by_cases hnone : none ∈ lidos
      · simp only [if_pos hnone, reduceCtorEq, Retorno.valor.injEq, Cobertura.itens.injEq,
          exists_eq_left', false_iff]
        exact fun h => h.tipada hnone
      simp only [if_neg hnone, Retorno.valor.injEq, Cobertura.itens.injEq, exists_eq_left']
      split
      case h_1 hall =>
        refine iff_of_true rfl ⟨hnone, fun c => ?_⟩
        have hc := List.filter_eq_nil_iff.mp hall c (CriticalCapability.mem_inOrder c)
        simpa using hc
      case h_2 hsome =>
        refine iff_of_false (fun h => by cases h) fun h => hsome ?_
        exact List.filter_eq_nil_iff.mpr fun c _ => by simp [h.inteira c]

theorem requireClassification_eq_ok {k : SemanticClassification} :
    b.requireClassification objective = .ok k ↔ b.classifier.classify objective = .valor k := by
  unfold requireClassification
  cases b.classifier.classify objective with
  | outro => simp
  | falha f => simp
  | valor lida => simp

/-- What a descriptor says: who classified which objective, and until when. -/
structure Autoriza (b : IntentAuthorizationBroker) (objective : Texto)
    (operation : CognitiveOperation) (moment : Option Momento)
    (d : AuthorizedCapabilityDescriptor) : Prop where
  operacao : d.operation = operation
  objetivo : vazio objective = false ∧
    ∃ s, objective.string? = some s ∧ d.objectiveSha256 = Texto.of (Sha256.hexdigest s)
  cobertura : ∃ lidos, b.classifier.coveredCapabilities = .valor (.itens lidos) ∧ Cobre lidos
  classificacao : ∃ k, b.classifier.classify objective = .valor k ∧
    d.capabilities = k.capabilities ∧ d.engagement = k.engagement ∧
      d.statedIntent = preservableIntent k
  relogio : ∃ m, moment.elim b.clock .valor = .valor m ∧ utc? m = some d.evaluatedAt
  versao : b.classifier.classifierVersion = .valor d.classifierVersion
  prazo : d.validUntil.val = d.evaluatedAt.val + b.ttl

theorem lerInstante_eq_ok {i : Instante} : b.lerInstante moment = .ok i ↔
    ∃ m, moment.elim b.clock .valor = .valor m ∧ utc? m = some i := by
  unfold lerInstante
  cases moment.elim b.clock Retorno.valor with
  | outro => simp
  | falha f => simp
  | valor m =>
    cases m with
    | ingenuo wall => simp [utc?]
    | ciente t =>
      simp only [Retorno.valor.injEq, exists_eq_left']
      cases utc? (.ciente t) with
      | none => simp
      | some instante => simp

theorem lerVersao_eq_ok {v : { versao : Texto // vazio versao = false }} :
    b.lerVersao = .ok v ↔ b.classifier.classifierVersion = .valor v.1 := by
  obtain ⟨versao, hversao⟩ := v
  unfold lerVersao
  cases b.classifier.classifierVersion with
  | outro => simp
  | falha f => simp
  | valor lida =>
    by_cases h : vazio lida = false
    · simp [h]
    · simp only [h, dite_false, reduceCtorEq, Retorno.valor.injEq, false_iff]
      rintro rfl
      exact h hversao

theorem prazo_eq_ok {i : Instante} {fim : { fim : Instante // i.val < fim.val }} :
    b.prazo i = .ok fim ↔ fim.1.val = i.val + b.ttl := by
  obtain ⟨⟨n, hmin, hmax⟩, hlt⟩ := fim
  unfold prazo
  by_cases h : i.val + b.ttl ≤ datetimeMax
  · simp only [h, dite_true, Except.ok.injEq, Subtype.mk.injEq]
    exact eq_comm
  · simp only [h, dite_false, reduceCtorEq, false_iff]
    omega

theorem objectiveDigest_eq_ok {t : { t : Texto // Digest t }} : objectiveDigest objective = .ok t ↔
    vazio objective = false ∧
      ∃ s, objective.string? = some s ∧ t.1 = Texto.of (Sha256.hexdigest s) := by
  obtain ⟨t, ht⟩ := t
  unfold objectiveDigest
  by_cases hvazio : vazio objective = true
  · simp [hvazio]
  have hdito : vazio objective = false := Bool.eq_false_iff.mpr hvazio
  rw [if_neg hvazio]
  cases objective.string? with
  | none => simp
  | some s => simp [hdito, eq_comm]

/-- The exact conditions on which the broker produces a descriptor. -/
theorem authorize_eq_ok :
    b.authorize objective operation moment = .ok d ↔ Autoriza b objective operation moment d := by
  constructor
  · intro h
    unfold authorize at h
    split at h
    case h_1 => cases h
    case h_2 digest hdigest hobjetivo =>
      obtain ⟨u, hcobertura, h⟩ := bind_eq_ok.mp h
      obtain ⟨k, hclassifica, h⟩ := bind_eq_ok.mp h
      obtain ⟨inicio, hinicio, h⟩ := bind_eq_ok.mp h
      obtain ⟨versao, hversao, h⟩ := bind_eq_ok.mp h
      obtain ⟨fim, hfim, h⟩ := bind_eq_ok.mp h
      obtain rfl := Except.ok.inj h
      obtain ⟨hdito, s, hs, hsha⟩ := objectiveDigest_eq_ok.mp hobjetivo
      exact {
        operacao := rfl
        objetivo := ⟨hdito, s, hs, hsha⟩
        cobertura := requireNonVacuousCoverage_eq_ok.mp hcobertura
        classificacao := ⟨k, requireClassification_eq_ok.mp hclassifica, rfl, rfl, rfl⟩
        relogio := lerInstante_eq_ok.mp hinicio
        versao := lerVersao_eq_ok.mp hversao
        prazo := prazo_eq_ok.mp hfim }
  · rintro ⟨hoperacao, ⟨hdito, s, hs, hsha⟩, hcobertura, ⟨k, hk, hcapacidades, hengajamento,
      hintento⟩, hrelogio, hversao, hprazo⟩
    have hobjetivo : objectiveDigest objective = .ok ⟨d.objectiveSha256, d.digest⟩ :=
      objectiveDigest_eq_ok.mpr ⟨hdito, s, hs, hsha⟩
    have hfim : b.prazo d.evaluatedAt = .ok ⟨d.validUntil, d.janela⟩ := prazo_eq_ok.mpr hprazo
    have hlida : b.lerVersao = .ok ⟨d.classifierVersion, d.version_stated⟩ :=
      lerVersao_eq_ok.mpr hversao
    rw [authorize, hobjetivo]
    simp only [requireNonVacuousCoverage_eq_ok.mpr hcobertura, requireClassification_eq_ok.mpr hk,
      lerInstante_eq_ok.mpr hrelogio, hlida, hfim, ok_bind]
    cases d
    subst hoperacao hcapacidades hengajamento hintento
    rfl

end IntentAuthorizationBroker

/-! ## The decision -/

namespace HumanProtectionComposition

open HumanProtectionBridge

variable {ε : Type} {C : HumanProtectionComposition ε} {p : Pedido}
  {d : AuthorizedCapabilityDescriptor} {q : GovernanceQuery} {vista : GovernanceResolutionView}

/-- The question says what the descriptor and the request say. -/
structure Pergunta (C : HumanProtectionComposition ε) (p : Pedido)
    (d : AuthorizedCapabilityDescriptor) (q : GovernanceQuery) : Prop where
  vinculo : q.binding.toGovernanceBindingFields =
    C.camposDoVinculo p d (espelhoDaOperacao d.operation)
  capacidades : q.descriptorCapabilities = d.capabilities.image espelhoDaCapacidade
  engajamento : q.descriptorEngagement = espelhoDoEngajamento d.engagement
  contexto : q.contexto = {}

theorem pergunta_eq_ok : C.pergunta p d = .ok q ↔ Pergunta C p d q := by
  constructor
  · intro h
    obtain ⟨operation, hoperation, h⟩ := bind_eq_ok.mp h
    obtain ⟨binding, hbinding, h⟩ := bind_eq_ok.mp h
    obtain ⟨capacidades, hcapacidades, h⟩ := bind_eq_ok.mp h
    obtain ⟨engajamento, hengajamento, h⟩ := bind_eq_ok.mp h
    obtain rfl := Except.ok.inj h
    obtain rfl := Except.ok.inj ((traduzirOperacao_eq d.operation).symm.trans hoperation)
    obtain rfl := Except.ok.inj ((traduzirCapacidades_eq d.capabilities).symm.trans hcapacidades)
    obtain rfl := Except.ok.inj ((traduzirEngajamento_eq d.engagement).symm.trans hengajamento)
    obtain ⟨hvalid, rfl⟩ := of_checked (mapError_eq_ok.mp hbinding)
    exact ⟨rfl, rfl, rfl, rfl⟩
  · rintro ⟨hvinculo, hcapacidades, hengajamento, hcontexto⟩
    obtain ⟨operation, capacidades, engajamento, ⟨campos, hvalid⟩, contexto, hmesma⟩ := q
    subst hvinculo hcapacidades hengajamento hcontexto
    obtain rfl : operation = espelhoDaOperacao d.operation := hmesma
    refine bind_eq_ok.mpr ⟨_, traduzirOperacao_eq _, ?_⟩
    refine bind_eq_ok.mpr ⟨_, mapError_eq_ok.mpr (checked_eq_ok hvalid), ?_⟩
    refine bind_eq_ok.mpr ⟨_, traduzirCapacidades_eq _, ?_⟩
    exact bind_eq_ok.mpr ⟨_, traduzirEngajamento_eq _, rfl⟩

theorem resolver_eq_ok : C.resolver q = .ok vista ↔ C.port q = .valor vista := by
  unfold resolver
  cases C.port q with
  | outro => simp
  | falha f => cases f <;> simp
  | valor v => simp

/-- What stands behind an outcome of the gate. -/
structure Decidida (C : HumanProtectionComposition ε) (p : Pedido)
    (d : AuthorizedCapabilityDescriptor) (q : GovernanceQuery) (vista : GovernanceResolutionView)
    (outcome : ProtectionOutcome) : Prop where
  descritor : IntentAuthorizationBroker.Autoriza C.broker p.objective p.operation p.moment d
  pergunta : Pergunta C p d q
  resposta : C.port q = .valor vista
  vinculo : exigirVinculo (ε := ε) vista q.binding = .ok ()
  validade : exigirValidade (ε := ε) vista (p.instante p.agoraAvaliar) = .ok ()
  desfecho : HumanProtectionBridge.desfecho (ε := ε) vista = .ok outcome

theorem descritor_eq_ok : C.descritor p = .ok d ↔
    IntentAuthorizationBroker.Autoriza C.broker p.objective p.operation p.moment d := by
  rw [descritor, mapError_eq_ok, IntentAuthorizationBroker.authorize_eq_ok]

theorem decidir_eq_ok {outcome : ProtectionOutcome} :
    C.decidir p = .ok (q, vista, outcome) ↔ ∃ d, Decidida C p d q vista outcome := by
  have hativo : ¬p.gatePosition ∉ gatesAtivos := by
    cases p.gatePosition <;> decide
  unfold decidir
  rw [if_neg hativo]
  constructor
  · intro h
    obtain ⟨d, hd, h⟩ := bind_eq_ok.mp h
    obtain ⟨query, hquery, h⟩ := bind_eq_ok.mp h
    obtain ⟨lida, hlida, h⟩ := bind_eq_ok.mp h
    obtain ⟨saida, hsaida, h⟩ := bind_eq_ok.mp h
    obtain ⟨rfl, rfl, rfl⟩ : query = q ∧ lida = vista ∧ saida = outcome := by
      simpa using Except.ok.inj h
    obtain ⟨resposta, hresposta, hlida⟩ := bind_eq_ok.mp (mapError_eq_ok.mp hlida)
    obtain ⟨⟨⟩, hvinculo, hlida⟩ := bind_eq_ok.mp hlida
    obtain ⟨⟨⟩, hvalidade, hlida⟩ := bind_eq_ok.mp hlida
    obtain rfl := Except.ok.inj hlida
    exact ⟨d, {
      descritor := descritor_eq_ok.mp hd
      pergunta := pergunta_eq_ok.mp (mapError_eq_ok.mp hquery)
      resposta := resolver_eq_ok.mp hresposta
      vinculo := hvinculo
      validade := hvalidade
      desfecho := mapError_eq_ok.mp hsaida }⟩
  · rintro ⟨d, hdescritor, hpergunta, hresposta, hvinculo, hvalidade, hdesfecho⟩
    have havaliar : C.avaliar q (p.instante p.agoraAvaliar) = .ok vista := by
      rw [avaliar, resolver_eq_ok.mpr hresposta, ok_bind, hvinculo, ok_bind, hvalidade]
      rfl
    rw [descritor_eq_ok.mpr hdescritor, ok_bind, pergunta_eq_ok.mpr hpergunta]
    simp only [Except.mapError, ok_bind, havaliar, hdesfecho]
    rfl

/-! ## The effects of a block -/

/-- The acts before a block is registered: the work is suspended unless the caller did, and at
the last gate what was delegated is revoked. -/
def suspensao (binding : GovernanceBinding) (vista : GovernanceResolutionView)
    (pedidos : ProtectionEffects) : List Ato :=
  (if pedidos.pauseApplied = true ∨ binding.gatePosition = .g1 then []
    else binding.scheduleId.toList.map fun s => .pause s vista.decisionFingerprint) ++
  if binding.gatePosition = .g4 then
    binding.scheduleId.toList.map fun s => .revoke s vista.decisionFingerprint
  else []

/-- The effects of a block and how they came about. -/
structure Suspensa (C : HumanProtectionComposition ε) (binding : GovernanceBinding)
    (vista : GovernanceResolutionView) (pedidos finais : ProtectionEffects) (atos : List Ato) :
    Prop where
  atos : atos = suspensao binding vista pedidos
  pausada : finais.pauseApplied = true ↔ binding.gatePosition ≠ .g1
  /-- A pause that was asked for did not fail. -/
  pausou : pedidos.pauseApplied = false → binding.gatePosition ≠ .g1 →
    ∃ s, binding.scheduleId = some s ∧ C.pausePort s vista.decisionFingerprint = none
  revogou : binding.gatePosition = .g4 → ∃ s porta n, binding.scheduleId = some s ∧
    C.revocationPort = some porta ∧ porta s vista.decisionFingerprint = .valor n ∧ 0 ≤ n ∧
      finais.delegationsRevoked = max n pedidos.delegationsRevoked
  mantidas : binding.gatePosition ≠ .g4 → finais.delegationsRevoked = pedidos.delegationsRevoked
  /-- A block materializes no attempt. -/
  semTentativa : pedidos.pauseApplied = false → finais.attemptId = none

section Efeitos

variable {binding : GovernanceBinding} {pedidos finais : ProtectionEffects}

/-- The pause of a block, when it is not refused. -/
structure Pausada (C : HumanProtectionComposition ε) (binding : GovernanceBinding)
    (vista : GovernanceResolutionView) (pedidos pausados : ProtectionEffects) (atos : List Ato) :
    Prop where
  atos : atos = if pedidos.pauseApplied = true then []
    else binding.scheduleId.toList.map fun s => .pause s vista.decisionFingerprint
  aplicada : pausados.pauseApplied = true
  mantidas : pausados.delegationsRevoked = pedidos.delegationsRevoked
  semTentativa : pedidos.pauseApplied = false → pausados.attemptId = none
  pausou : pedidos.pauseApplied = false →
    ∃ s, binding.scheduleId = some s ∧ C.pausePort s vista.decisionFingerprint = none

/-- The ports that a block needs do what they are asked. -/
structure Atendida (C : HumanProtectionComposition ε) (binding : GovernanceBinding)
    (vista : GovernanceResolutionView) : Prop where
  pausa : binding.gatePosition ≠ .g1 →
    ∃ s, binding.scheduleId = some s ∧ C.pausePort s vista.decisionFingerprint = none
  revogacao : binding.gatePosition = .g4 → ∃ s porta n, binding.scheduleId = some s ∧
    C.revocationPort = some porta ∧ porta s vista.decisionFingerprint = .valor n ∧ 0 ≤ n

theorem pausar_cases (C : HumanProtectionComposition ε) (binding : GovernanceBinding)
    (vista : GovernanceResolutionView) (pedidos : ProtectionEffects) :
    (∃ atos e, C.pausar binding vista pedidos = (atos, .error e) ∧
      (∀ ato ∈ atos, ato.suspende = true) ∧
      ¬∃ s, binding.scheduleId = some s ∧ C.pausePort s vista.decisionFingerprint = none) ∨
    ∃ atos pausados, C.pausar binding vista pedidos = (atos, .ok pausados) ∧
      Pausada C binding vista pedidos pausados atos ∧ ∀ ato ∈ atos, ato.suspende = true := by
  unfold pausar
  cases hpause : pedidos.pauseApplied with
  | true =>
    refine .inr ⟨[], pedidos, rfl, ?_, by simp [Ato.suspende]⟩
    exact ⟨by rw [hpause]; rfl, hpause, rfl, by simp [hpause], by simp [hpause]⟩
  | false =>
    cases hschedule : binding.scheduleId with
    | none => exact .inl ⟨_, _, rfl, by simp, by simp⟩
    | some s =>
      cases hport : C.pausePort s vista.decisionFingerprint with
      | some f =>
        exact .inl ⟨_, _, by simp only [hport]; rfl, by simp [Ato.suspende], by simp [hport]⟩
      | none =>
        refine .inr ⟨_, _, by simp only [hport]; rfl, ?_, by simp [Ato.suspende]⟩
        exact ⟨by rw [hpause, hschedule]; rfl, rfl, rfl, fun _ => rfl,
          fun _ => ⟨s, hschedule, hport⟩⟩

theorem revogar_cases (C : HumanProtectionComposition ε) (binding : GovernanceBinding)
    (vista : GovernanceResolutionView) :
    (∃ atos e, C.revogar binding vista = (atos, .error e) ∧
      (∀ ato ∈ atos, ato.suspende = true) ∧
      ¬∃ s porta n, binding.scheduleId = some s ∧ C.revocationPort = some porta ∧
        porta s vista.decisionFingerprint = .valor n ∧ 0 ≤ n) ∨
    ∃ s porta n, ∃ hn : 0 ≤ n, binding.scheduleId = some s ∧ C.revocationPort = some porta ∧
      porta s vista.decisionFingerprint = .valor n ∧
      C.revogar binding vista = ([.revoke s vista.decisionFingerprint], .ok ⟨n, hn⟩) := by
  unfold revogar
  cases hporta : C.revocationPort with
  | none => exact .inl ⟨_, _, rfl, by simp, by simp⟩
  | some porta =>
    cases hschedule : binding.scheduleId with
    | none => exact .inl ⟨_, _, rfl, by simp, by simp⟩
    | some s =>
      cases hresposta : porta s vista.decisionFingerprint with
      | falha f =>
        exact .inl ⟨_, _, by simp only [hresposta]; rfl, by simp [Ato.suspende], by simp [hresposta]⟩
      | outro =>
        exact .inl ⟨_, _, by simp only [hresposta]; rfl, by simp [Ato.suspende], by simp [hresposta]⟩
      | valor n =>
        by_cases hn : 0 ≤ n
        · exact .inr ⟨s, porta, n, hn, rfl, rfl, hresposta, by
            simp only [hresposta, dif_pos hn]⟩
        · exact .inl ⟨_, _, by simp only [hresposta, dif_neg hn]; rfl, by simp [Ato.suspende],
            by simpa [hresposta] using hn⟩

theorem efeitosDoBloqueio_cases (C : HumanProtectionComposition ε) (binding : GovernanceBinding)
    (vista : GovernanceResolutionView) (pedidos : ProtectionEffects) :
    (∃ atos e, C.efeitosDoBloqueio binding vista pedidos = (atos, .error e) ∧
      (∀ ato ∈ atos, ato.suspende = true) ∧ ¬Atendida C binding vista) ∨
    ∃ atos finais, C.efeitosDoBloqueio binding vista pedidos = (atos, .ok finais) ∧
      Suspensa C binding vista pedidos finais atos ∧ ∀ ato ∈ atos, ato.suspende = true := by
  by_cases hlast : binding.gatePosition = .g4
  · simp only [efeitosDoBloqueio, hlast]
    rcases pausar_cases C binding vista pedidos with
      ⟨atos, e, h, hno, hnot⟩ | ⟨atos, pausados, h, hp, hno⟩
    · rw [h]
      exact .inl ⟨atos, e, rfl, hno, fun h => hnot (h.pausa (by simp [hlast]))⟩
    rw [h]
    rcases revogar_cases C binding vista with
      ⟨atos', e, h', hno', hnot⟩ | ⟨s, porta, n, hn, hschedule, hporta, hresposta, h'⟩
    · rw [h']
      exact .inl ⟨atos ++ atos', e, rfl, List.forall_mem_append.mpr ⟨hno, hno'⟩,
        fun h => hnot (h.revogacao hlast)⟩
    rw [h']
    refine .inr ⟨atos ++ [.revoke s vista.decisionFingerprint], _, by simp [Feito.depois]; rfl,
      ?_, List.forall_mem_append.mpr ⟨hno, by simp [Ato.suspende]⟩⟩
    exact {
      atos := by simp [suspensao, hlast, hp.atos, hschedule]
      pausada := iff_of_true hp.aplicada (by simp [hlast])
      pausou := fun hpause _ => hp.pausou hpause
      revogou := fun _ => ⟨s, porta, n, hschedule, hporta, hresposta, hn,
        congrArg (max n) hp.mantidas⟩
      mantidas := fun h => absurd hlast h
      semTentativa := fun _ => rfl }
  by_cases hfirst : binding.gatePosition = .g1
  · refine .inr ⟨[], _, by simp only [efeitosDoBloqueio, hfirst]; rfl, ?_, by simp⟩
    exact {
      atos := by simp [suspensao, hfirst]
      pausada := by simp [hfirst]
      pausou := fun _ h => absurd hfirst h
      revogou := fun h => absurd h hlast
      mantidas := fun _ => rfl
      semTentativa := fun _ => rfl }
  -- Between the first gate and the last a block is the pause.
  have hpausa : C.efeitosDoBloqueio binding vista pedidos = C.pausar binding vista pedidos := by
    cases hgate : binding.gatePosition with
    | g1 => exact absurd hgate hfirst
    | g4 => exact absurd hgate hlast
    | g2 | g3 => simp only [efeitosDoBloqueio, hgate]
  rw [hpausa]
  refine (pausar_cases C binding vista pedidos).imp ?_ ?_
  · rintro ⟨atos, e, h, hno, hnot⟩
    exact ⟨atos, e, h, hno, fun h => hnot (h.pausa hfirst)⟩
  · rintro ⟨atos, efeitos, h, hp, hno⟩
    exact ⟨atos, efeitos, h, {
      atos := by simpa [suspensao, hfirst, hlast] using hp.atos
      pausada := iff_of_true hp.aplicada hfirst
      pausou := fun hpause _ => hp.pausou hpause
      revogou := fun h => absurd h hlast
      mantidas := fun _ => hp.mantidas
      semTentativa := hp.semTentativa }, hno⟩

end Efeitos

/-! ## What an application rests on -/

/-- An application that the repository was given: the classifier covers the vocabulary and gave
the descriptor, the governance answered the question about it, the answer is bound to the
question and in force, and a block comes after its suspension. -/
structure Fundada (C : HumanProtectionComposition ε) (p : Pedido)
    (d : AuthorizedCapabilityDescriptor) (q : GovernanceQuery) (vista : GovernanceResolutionView)
    (finais : ProtectionEffects) (antes : List Ato) (a : HumanProtectionApplication) : Prop where
  descritor : IntentAuthorizationBroker.Autoriza C.broker p.objective p.operation p.moment d
  pergunta : Pergunta C p d q
  resposta : C.port q = .valor vista
  decidida : vista.evaluatedAt.instant ≤ (p.instante p.agoraAvaliar).instant ∧
    (p.instante p.agoraAvaliar).instant < vista.validUntil.instant
  autorizada : Autorizada (p.chamada q vista finais) a
  efeitos : a.pauseApplied = finais.pauseApplied ∧
    a.delegationsRevoked = finais.delegationsRevoked ∧ a.attemptId = finais.attemptId
  binaria : a.outcome = .allowed ∨ a.outcome = .blocked
  livre : a.outcome = .allowed →
    antes = [] ∧ finais = p.efeitos.getD { attemptId := p.attemptId }
  suspensa : a.outcome = .blocked →
    Suspensa C q.binding vista (p.efeitos.getD { attemptId := p.attemptId }) finais antes

/-- The gate fails closed: it registers at most one application, in its last act, and that one
is founded; and it returns only what the repository took. -/
structure Fechado (C : HumanProtectionComposition ε) (p : Pedido) : Prop where
  registrada : ∀ a, .registrar a ∈ (C.aplicar p).1 → ∃ d q vista finais antes,
    (C.aplicar p).1 = antes ++ [.registrar a] ∧ (∀ ato ∈ antes, ato.suspende = true) ∧
      Fundada C p d q vista finais antes a
  devolvida : ∀ a, (C.aplicar p).2 = .ok a →
    .registrar a ∈ (C.aplicar p).1 ∧ C.repository a = .ok ()

/-- What the repository makes of an application. -/
def resposta (C : HumanProtectionComposition ε) (a : HumanProtectionApplication) :
    Except (ErroDoGate ε) HumanProtectionApplication :=
  ((C.repository a).map fun _ => a).mapError .daPonte

theorem registrar_cases (c : Chamada) :
    (∃ e, C.registrar c = ([], .error e)) ∨
    ∃ a, preparar (ε := ε) c = .ok a ∧ C.registrar c = ([.registrar a], C.resposta a) := by
  unfold registrar
  cases h : preparar (ε := ε) c with
  | error e => exact .inl ⟨_, rfl⟩
  | ok a => exact .inr ⟨a, rfl, rfl⟩

/-- A prepared application tells the outcome and the effects that it was prepared from. -/
theorem preparar_campos {c : Chamada} {a : HumanProtectionApplication}
    (h : preparar (ε := ε) c = .ok a) : ∃ outcome,
      HumanProtectionBridge.desfecho (ε := ε) c.vista = .ok outcome ∧
        a.toHumanProtectionApplicationFields = camposDaAplicacao c outcome := by
  obtain ⟨u, -, h⟩ := bind_eq_ok.mp h
  obtain ⟨montada, hmontada, h⟩ := bind_eq_ok.mp h
  obtain ⟨u', -, h⟩ := bind_eq_ok.mp h
  obtain rfl := Except.ok.inj h
  exact montarAplicacao_ok hmontada

/-- How a call of the gate ends: with an error, or with an application that is founded. -/
def Termina (C : HumanProtectionComposition ε) (p : Pedido)
    (f : Feito ε HumanProtectionApplication) : Prop :=
  (∃ atos e, f = (atos, .error e) ∧ ∀ ato ∈ atos, ato.suspende = true) ∨
    ∃ d q vista finais antes a, f = (antes ++ [.registrar a], C.resposta a) ∧
      (∀ ato ∈ antes, ato.suspende = true) ∧ Fundada C p d q vista finais antes a

/-- What is registered after the effects, whichever they are. -/
theorem termina_registrar {outcome : ProtectionOutcome} {antes : List Ato}
    {finais : ProtectionEffects} (hd : Decidida C p d q vista outcome)
    (hno : ∀ ato ∈ antes, ato.suspende = true)
    (hlivre : outcome = .allowed →
      antes = [] ∧ finais = p.efeitos.getD { attemptId := p.attemptId })
    (hsuspensa : outcome = .blocked →
      Suspensa C q.binding vista (p.efeitos.getD { attemptId := p.attemptId }) finais antes) :
    Termina C p (Feito.depois (antes, .ok finais) fun efeitos =>
      C.registrar (p.chamada q vista efeitos)) := by
  rw [Feito.depois_ok]
  rcases registrar_cases (C := C) (p.chamada q vista finais) with
    ⟨e, h⟩ | ⟨a, hpreparada, h⟩
  · rw [h]
    exact .inl ⟨antes ++ [], e, rfl, by simpa using hno⟩
  · rw [h]
    obtain ⟨lido, hlido, hcampos⟩ := preparar_campos hpreparada
    obtain rfl := Except.ok.inj (hd.desfecho.symm.trans hlido)
    have houtcome : a.outcome = outcome := by rw [hcampos, camposDaAplicacao]
    have hbinaria := desfecho_ok (c := ⟨vista, q.binding, finais, p.instante p.agoraAvaliar⟩)
      hd.desfecho
    refine .inr ⟨d, q, vista, finais, antes, a, rfl, hno, {
      descritor := hd.descritor
      pergunta := hd.pergunta
      resposta := hd.resposta
      decidida := exigirValidade_ok
        (c := ⟨vista, q.binding, finais, p.instante p.agoraAvaliar⟩) hd.validade
      autorizada := autorizada_of_preparar hpreparada
      efeitos := by rw [hcampos]; exact ⟨rfl, rfl, rfl⟩
      binaria := ?_
      livre := fun h => hlivre (houtcome.symm.trans h)
      suspensa := fun h => hsuspensa (houtcome.symm.trans h) }⟩
    rw [houtcome]
    exact (hbinaria.imp And.right And.right).symm

theorem termina_aplicar (C : HumanProtectionComposition ε) (p : Pedido) :
    Termina C p (C.aplicar p) := by
  unfold aplicar
  cases hdecidir : C.decidir p with
  | error e => exact .inl ⟨[], e, rfl, by simp [Ato.suspende]⟩
  | ok decisao =>
    obtain ⟨q, vista, outcome⟩ := decisao
    obtain ⟨d, hd⟩ := decidir_eq_ok.mp hdecidir
    dsimp only
    by_cases hblocked : outcome = .blocked
    · rw [if_pos hblocked]
      rcases efeitosDoBloqueio_cases C q.binding vista
        (p.efeitos.getD { attemptId := p.attemptId }) with
        ⟨atos, e, h, hno, -⟩ | ⟨atos, finais, h, hsuspensa, hno⟩
      · rw [h]
        exact .inl ⟨atos, e, rfl, hno⟩
      · rw [h]
        refine termina_registrar hd hno (fun h => ?_) fun _ => hsuspensa
        rw [hblocked] at h
        cases h
    · rw [if_neg hblocked]
      exact termina_registrar hd (by simp) (fun _ => ⟨rfl, rfl⟩)
        fun h => absurd h hblocked

theorem repository_of_ok {a b : HumanProtectionApplication} (h : C.resposta a = .ok b) :
    b = a ∧ C.repository a = .ok () := by
  have hok := mapError_eq_ok.mp h
  cases hrepo : C.repository a with
  | error e =>
    rw [hrepo] at hok
    cases hok
  | ok u =>
    rw [hrepo] at hok
    exact ⟨(Except.ok.inj hok).symm, rfl⟩

/-- The application that is registered is founded. -/
theorem fundada_of_registrar {a : HumanProtectionApplication}
    (ha : .registrar a ∈ (C.aplicar p).1) : ∃ d q vista finais antes,
      (C.aplicar p).1 = antes ++ [.registrar a] ∧ (∀ ato ∈ antes, ato.suspende = true) ∧
        Fundada C p d q vista finais antes a := by
  rcases termina_aplicar C p with ⟨atos, e, h, hno⟩ |
    ⟨d, q, vista, finais, antes, b, h, hno, hfundada⟩
  · rw [h] at ha
    exact absurd (hno _ ha) (by simp [Ato.suspende])
  · rw [h] at ha ⊢
    rcases List.mem_append.mp ha with hin | hlast
    · exact absurd (hno _ hin) (by simp [Ato.suspende])
    · obtain rfl : a = b := by simpa using hlast
      exact ⟨d, q, vista, finais, antes, rfl, hno, hfundada⟩

/-- Whatever the ports answer, the gate fails closed. -/
theorem gate_fails_closed (C : HumanProtectionComposition ε) (p : Pedido) : Fechado C p where
  registrada _ := fundada_of_registrar
  devolvida a ha := by
    rcases termina_aplicar C p with ⟨atos, e, h, hno⟩ |
      ⟨d, q, vista, finais, antes, b, h, hno, hfundada⟩
    · rw [h] at ha
      cases ha
    · rw [h] at ha ⊢
      obtain ⟨rfl, hrepo⟩ := repository_of_ok ha
      exact ⟨List.mem_append_right _ (List.mem_singleton_self _), hrepo⟩

/-! ## The shipped classifiers -/

/-- A classifier whose version does not fit the binding leaves the gate without a decision. -/
theorem aplicar_of_versao_longa {versao : Texto}
    (h : C.broker.classifier.classifierVersion = .valor versao)
    (hlonga : maxClassifierVersionLength < versao.length) : ∃ e, C.aplicar p = ([], .error e) := by
  unfold aplicar
  cases hdecidir : C.decidir p with
  | error e => exact ⟨e, rfl⟩
  | ok decisao =>
    obtain ⟨q, vista, outcome⟩ := decisao
    obtain ⟨d, hd⟩ := decidir_eq_ok.mp hdecidir
    have hversao : q.binding.classifierVersion = versao := by
      have hlida := hd.descritor.versao
      rw [h] at hlida
      rw [hd.pergunta.vinculo]
      exact (Retorno.valor.inj hlida).symm
    have hcurta := (binding_violation.mp q.binding.valido).versao.2
    rw [hversao] at hcurta
    omega

theorem length_doze (texto : String) : (doze texto).length = 12 := by
  have hlength := (digest_hexdigest texto).1
  rw [doze, List.length_take]
  omega

/-- With a shipped classifier the gate never decides: the version that the classifier declares is
longer than a binding takes, so that nothing is asked of a port and nothing is registered. -/
theorem shipped_classifiers_never_decide (C : HumanProtectionComposition ε) (p : Pedido)
    (schema prompt : String) (modelo digest : Texto)
    (classify : Texto → Retorno SemanticClassification) :
    (∃ e, (C.comClassificador (openAI schema prompt modelo classify)).aplicar p =
      ([], .error e)) ∧
    ∃ e, (C.comClassificador (ollama schema prompt modelo digest classify)).aplicar p =
      ([], .error e) := by
  constructor
  · refine aplicar_of_versao_longa rfl ?_
    simp only [List.length_append, length_doze, maxClassifierVersionLength]
    omega
  · refine aplicar_of_versao_longa rfl ?_
    simp only [List.length_append, length_doze, maxClassifierVersionLength]
    omega

/-! ## Resumption -/

/-- What a resumption rests on: an application of this very call that allows, at a gate that
looks at work in progress, about the schedule that is resumed. -/
structure Retomada (C : HumanProtectionComposition ε) (p : Pedido)
    (scheduleId stepId schedule : Referencia) (fingerprint : Texto)
    (a : HumanProtectionApplication) : Prop where
  schedule : schedule = scheduleId
  gate : p.gatePosition = .g2 ∨ p.gatePosition = .g4
  atos : (C.retomar p scheduleId stepId).1 = [.registrar a, .resume scheduleId fingerprint]
  permitida : a.outcome = .allowed ∧ a.decisionFingerprint = fingerprint
  registrada : C.repository a = .ok ()
  lugar : a.scheduleId = some scheduleId ∧ a.stepId = some stepId

theorem retomar_of_porta {porta : Referencia → Texto → Option Falha}
    (hporta : C.resumePort = some porta) (hfirst : p.gatePosition ≠ .g1)
    (scheduleId stepId : Referencia) : C.retomar p scheduleId stepId =
      (C.aplicar (p.deRetomada scheduleId stepId)).depois (reativar porta scheduleId) := by
  simp only [retomar, hporta, if_neg hfirst]

/-- The work is resumed only on a new decision that allows it, and after that one is registered. -/
theorem resumption_needs_permission (C : HumanProtectionComposition ε) (p : Pedido)
    (scheduleId stepId : Referencia) :
    ∀ schedule fingerprint, .resume schedule fingerprint ∈ (C.retomar p scheduleId stepId).1 →
      ∃ a, Retomada C p scheduleId stepId schedule fingerprint a := by
  intro schedule fingerprint h
  have hnot : ∀ {atos : List Ato}, (∀ ato ∈ atos, ato.suspende = true) →
      .resume schedule fingerprint ∉ atos := by
    intro atos hno hin
    simpa [Ato.suspende] using hno _ hin
  cases hporta : C.resumePort with
  | none =>
    simp [retomar, hporta, Feito.recusa] at h
  | some porta =>
    by_cases hfirst : p.gatePosition = .g1
    · simp [retomar, hporta, hfirst, Feito.recusa] at h
    have hretomar := retomar_of_porta hporta hfirst scheduleId stepId
    rcases termina_aplicar C (p.deRetomada scheduleId stepId) with
      ⟨atos, e, haplicar, hno⟩ | ⟨d, q, vista, finais, antes, a, haplicar, hno, hfundada⟩
    · rw [haplicar] at hretomar
      rw [hretomar] at h
      exact absurd h (hnot hno)
    rw [haplicar] at hretomar
    cases hanswer : C.resposta a with
    | error e =>
      rw [hanswer] at hretomar
      rw [hretomar] at h
      simp [Feito.depois, hnot hno] at h
    | ok b =>
      obtain ⟨rfl, hrepo⟩ := repository_of_ok hanswer
      rw [hanswer, Feito.depois_ok] at hretomar
      rw [hretomar] at h
      by_cases hallowed : b.outcome = .allowed
      · obtain ⟨rfl, -⟩ := hfundada.livre hallowed
        rw [reativar, if_neg (not_not.mpr hallowed)] at hretomar h
        obtain ⟨rfl, rfl⟩ : schedule = scheduleId ∧ fingerprint = b.decisionFingerprint := by
          simpa using h
        have hvinculo := hfundada.pergunta.vinculo
        have hschedule : b.scheduleId = q.binding.scheduleId := hfundada.autorizada.dono.2.1
        have hstep : b.stepId = q.binding.stepId := hfundada.autorizada.dono.2.2.1
        refine ⟨b, {
          schedule := rfl
          gate := ?_
          atos := by rw [hretomar]; rfl
          permitida := ⟨hallowed, rfl⟩
          registrada := hrepo
          lugar := ⟨hschedule.trans (by rw [hvinculo]; rfl), hstep.trans (by rw [hvinculo]; rfl)⟩ }⟩
        have hgate : q.binding.gatePosition = p.gatePosition := by rw [hvinculo]; rfl
        have hattempt : q.binding.attemptId = none := by rw [hvinculo]; rfl
        have hthird : p.gatePosition ≠ .g3 := fun h3 =>
          (binding_violation.mp q.binding.valido).tentativa.mpr (hgate.trans h3) hattempt
        cases hposition : p.gatePosition with
        | g1 => exact absurd hposition hfirst
        | g2 => exact .inl rfl
        | g3 => exact absurd hposition hthird
        | g4 => exact .inr rfl
      · rw [reativar, if_pos hallowed] at h
        simp [hnot hno] at h

end HumanProtectionComposition

end PiaOs.Protection
