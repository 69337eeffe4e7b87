import PiaOs.Memory.Resolve
import PiaOs.Protection.Application

/-!
# The composition of the gate

The broker asks the classifier for a descriptor of the objective, the composition binds it to a
position of the gate and asks the governance, and a decision that blocks suspends the work and
revokes what it asked for before the application is registered. Every port may answer anything.
-/

namespace PiaOs.Protection

open Support Memory Piap Envelope

/-- What a port raises: `HumanProtectionGateUnavailableError` or another exception. -/
inductive Falha
  | indisponivel (texto : String)
  | excecao (texto : String)

def Falha.texto : Falha → String
  | .indisponivel texto | .excecao texto => texto

/-- What a call of a port comes to. -/
inductive Retorno (α : Type)
  | valor (a : α)
  /-- A value of another type. -/
  | outro
  | falha (f : Falha)

/-- What leaves the gate when it does not decide. -/
inductive ErroDoGate (ε : Type)
  /-- `HumanProtectionGateUnavailableError`. -/
  | indisponivel (texto : String)
  /-- What the classifier or the clock raises where no handler stands. -/
  | crua (texto : String)
  | overflow
  /-- What else the bridge raises. -/
  | ponte (e : ErroDaPonte ε)

def ErroDoGate.daPonte {ε : Type} : ErroDaPonte ε → ErroDoGate ε
  | .indisponivel texto => .indisponivel texto
  | e => .ponte e

/-! ## The broker -/

structure SemanticClassification where
  capabilities : Finset CriticalCapability := ∅
  engagement : CapabilityEngagement := .unspecified
  rationale : Option Texto := none
  rationale_stated : ∀ t ∈ rationale, vazio t = false := by decide

/-- What `covered_capabilities` iterates over: `none` is no `CriticalCapability`. -/
inductive Cobertura
  | itens (lidos : List (Option CriticalCapability))
  /-- The iteration, or the hash of an item, raises. -/
  | falha (texto : String)

/-- `SemanticCapabilityClassifierPort`: its two properties, read once in a call, and its method. -/
structure Classificador where
  classifierVersion : Retorno Texto
  coveredCapabilities : Retorno Cobertura
  classify : Texto → Retorno SemanticClassification

/-- What the broker raises. -/
inductive ErroDoBroker
  /-- `IntentAuthorizationUnavailableError`, with its reason. -/
  | indisponivel (reason : String)
  | crua (texto : String)
  | overflow

structure AuthorizedCapabilityDescriptor where
  operation : CognitiveOperation
  capabilities : Finset CriticalCapability
  engagement : CapabilityEngagement
  objectiveSha256 : Texto
  classifierVersion : Texto
  evaluatedAt : Instante
  validUntil : Instante
  statedIntent : Option Texto
  digest : Digest objectiveSha256
  version_stated : vazio classifierVersion = false
  janela : evaluatedAt.val < validUntil.val
  statedIntent_stated : ∀ t ∈ statedIntent, vazio t = false

/-- `str` of the `UnicodeEncodeError` of a text with surrogates. -/
def textoUnicode (t : Texto) : String :=
  let antes := (t.takeWhile fun c => c.char?.isSome).length
  let metades := (t.drop antes).takeWhile fun c => c.char?.isNone
  "'utf-8' codec can't encode character" ++
    (match metades with
      | [c] => " '\\u" ++ String.ofList (digits 16 4 c.ord) ++ "' in position " ++ toString antes
      | _ => "s in position " ++ toString antes ++ "-" ++ toString (antes + metades.length - 1)) ++
    ": surrogates not allowed"

theorem digest_hexdigest (s : String) : Digest (Texto.of (Sha256.hexdigest s)) := by
  have hlength : (Sha256.hexdigest s).toList.length = 64 := Sha256.length_hexdigest s
  refine ⟨(List.length_map _).trans hlength, fun c hc => ?_⟩
  obtain ⟨digito, hdigito, rfl⟩ := List.mem_map.mp hc
  exact Sha256.isHexDigit_of_mem_hexdigest hdigito

/-- `objective_digest`. -/
def objectiveDigest (objective : Texto) : Except String { t : Texto // Digest t } :=
  if vazio objective then .error "objective não pode ser vazio ou apenas espaços"
  else match objective.string? with
    | some s => .ok ⟨Texto.of (Sha256.hexdigest s), digest_hexdigest s⟩
    | none => .error (textoUnicode objective)

structure IntentAuthorizationBroker where
  classifier : Classificador
  /-- In microseconds. -/
  ttl : ℤ
  clock : Retorno Momento
  ttl_pos : 0 < ttl

namespace IntentAuthorizationBroker

/-- `_require_non_vacuous_coverage`. -/
def requireNonVacuousCoverage (b : IntentAuthorizationBroker) : Except ErroDoBroker Unit :=
  match b.classifier.coveredCapabilities with
  | .falha f => .error (.indisponivel ("classificador não declarou cobertura: " ++ f.texto))
  | .outro =>
    .error (.indisponivel "covered_capabilities deve ser um iterável de CriticalCapability")
  | .valor (.falha texto) => .error (.crua texto)
  | .valor (.itens lidos) =>
    if none ∈ lidos then
      .error (.indisponivel "covered_capabilities aceita apenas CriticalCapability")
    else
      match CriticalCapability.inOrder.filter fun c => some c ∉ lidos with
      | [] => .ok ()
      | faltando => .error (.indisponivel
          ("classificador não cobre o vocabulário fechado — faltam: " ++
            ", ".intercalate (faltando.map CriticalCapability.value)))

/-- `_require_classification`. -/
def requireClassification (b : IntentAuthorizationBroker) (objective : Texto) :
    Except ErroDoBroker SemanticClassification :=
  match b.classifier.classify objective with
  | .valor classificacao => .ok classificacao
  | .outro => .error (.indisponivel
      ("classificador devolveu tipo fora do contrato — SemanticClassification é obrigatório"))
  | .falha f => .error (.indisponivel ("classificador falhou: " ++ f.texto))

/-- `moment`, or the reading of the clock, on the clock of UTC. -/
def lerInstante (b : IntentAuthorizationBroker) (moment : Option Momento) :
    Except ErroDoBroker Instante :=
  match moment.elim b.clock .valor with
  | .falha f => .error (.crua f.texto)
  | .outro | .valor (.ingenuo _) =>
    .error (.indisponivel "moment deve ser um datetime consciente de fuso")
  | .valor m => match utc? m with
    | some instante => .ok instante
    | none => .error .overflow

/-- `classifier_version`, when it can be used. -/
def lerVersao (b : IntentAuthorizationBroker) :
    Except ErroDoBroker { versao : Texto // vazio versao = false } :=
  match b.classifier.classifierVersion with
  | .falha f => .error (.crua f.texto)
  | .outro =>
    .error (.indisponivel "classificador não declarou classifier_version utilizável")
  | .valor versao =>
    if h : vazio versao = false then .ok ⟨versao, h⟩
    else .error (.indisponivel "classificador não declarou classifier_version utilizável")

/-- `instante + self._ttl`. -/
def prazo (b : IntentAuthorizationBroker) (instante : Instante) :
    Except ErroDoBroker { fim : Instante // instante.val < fim.val } :=
  if h : instante.val + b.ttl ≤ datetimeMax then
    .ok ⟨⟨instante.val + b.ttl, by have := instante.property; have := b.ttl_pos; omega, h⟩,
      Int.lt_add_of_pos_right _ b.ttl_pos⟩
  else .error .overflow

/-- `_preservable_intent`. -/
def preservableIntent (classificacao : SemanticClassification) : Option Texto :=
  if classificacao.engagement ∈ preservableEngagements then classificacao.rationale else none

theorem preservableIntent_stated {classificacao : SemanticClassification} {t : Texto}
    (h : t ∈ preservableIntent classificacao) : vazio t = false := by
  unfold preservableIntent at h
  split at h
  case isTrue => exact classificacao.rationale_stated t h
  case isFalse => cases h

/-- `authorize`. -/
def authorize (b : IntentAuthorizationBroker) (objective : Texto) (operation : CognitiveOperation)
    (moment : Option Momento) : Except ErroDoBroker AuthorizedCapabilityDescriptor :=
  match objectiveDigest objective with
  | .error erro => .error (.indisponivel ("objetivo inválido: " ++ erro))
  | .ok ⟨digest, hdigest⟩ => do
    b.requireNonVacuousCoverage
    let classificacao ← b.requireClassification objective
    let instante ← b.lerInstante moment
    let ⟨versao, hversao⟩ ← b.lerVersao
    let ⟨fim, hfim⟩ ← b.prazo instante
    return {
      operation
      capabilities := classificacao.capabilities
      engagement := classificacao.engagement
      objectiveSha256 := digest
      classifierVersion := versao
      evaluatedAt := instante
      validUntil := fim
      statedIntent := preservableIntent classificacao
      digest := hdigest
      version_stated := hversao
      janela := hfim
      statedIntent_stated := fun _ => preservableIntent_stated }

end IntentAuthorizationBroker

/-! ## The shipped classifiers -/

/-- The first twelve digits of a hash. -/
def doze (texto : String) : Texto := (Texto.of (Sha256.hexdigest texto)).take 12

/-- `OpenAISemanticCapabilityClassifier`: a model, the texts of the schema and of the prompt, and
what the provider is made to answer. -/
def openAI (schema prompt : String) (modelo : Texto)
    (classify : Texto → Retorno SemanticClassification) : Classificador where
  classifierVersion := .valor (Texto.of "openai:" ++ modelo ++ Texto.of ":schema-" ++ doze schema ++
    Texto.of ":prompt-" ++ doze prompt)
  coveredCapabilities := .valor (.itens (CriticalCapability.inOrder.map some))
  classify

/-- `OllamaSemanticCapabilityClassifier`, with the digest of the weights. -/
def ollama (schema prompt : String) (modelo digest : Texto)
    (classify : Texto → Retorno SemanticClassification) : Classificador where
  classifierVersion := .valor (Texto.of "ollama-local:" ++ modelo ++ Texto.of "@" ++
    digest.take 12 ++ Texto.of ":schema-" ++ doze schema ++ Texto.of ":prompt-" ++ doze prompt)
  coveredCapabilities := .valor (.itens (CriticalCapability.inOrder.map some))
  classify

/-! ## The vocabularies -/

/-- The member of an enumeration with a value. -/
def membro {α : Type} (value : α → String) (todos : List α) (nome valor : String) :
    Except String α :=
  match todos.find? fun a => value a = valor with
  | some a => .ok a
  | none => .error ("'" ++ valor ++ "' is not a valid " ++ nome)

def BoundaryEngagement.value : BoundaryEngagement → String
  | .operationalEnablement => "operational_enablement"
  | .analytical => "analytical"
  | .preventive => "preventive"
  | .unspecified => "unspecified"

def boundaryOperation (valor : String) : Except String BoundaryOperation :=
  membro BoundaryOperation.value
    [.read, .reference, .derive, .transform, .expose, .synchronize, .consolidate,
      .accessibilityTransition, .retentionAssessment, .retentionDisposition, .legalErasure]
    "BoundaryOperation" valor

def boundaryCapability (valor : String) : Except String BoundaryCapability :=
  membro BoundaryCapability.value
    [.childSexualExploitation, .minorTargetingForExploitation, .weaponOfMassDestructionEnablement,
      .catastrophicHarmEnablement] "BoundaryCapability" valor

def boundaryEngagement (valor : String) : Except String BoundaryEngagement :=
  membro BoundaryEngagement.value [.operationalEnablement, .analytical, .preventive, .unspecified]
    "BoundaryEngagement" valor

def boundaryOutcome (valor : String) : Except String BoundaryOutcome :=
  membro BoundaryOutcome.value [.admissible, .inadmissible, .notApplicable, .prohibited]
    "BoundaryOutcome" valor

def cognitiveOperation (valor : String) : Except String CognitiveOperation :=
  membro CognitiveOperation.value
    [.read, .reference, .derive, .transform, .expose, .synchronize, .consolidate,
      .accessibilityTransition, .retentionAssessment, .retentionDisposition, .legalErasure]
    "CognitiveOperation" valor

def criticalCapability (valor : String) : Except String CriticalCapability :=
  membro CriticalCapability.value
    [.childSexualExploitation, .minorTargetingForExploitation, .weaponOfMassDestructionEnablement,
      .catastrophicHarmEnablement] "CriticalCapability" valor

def capabilityEngagement (valor : String) : Except String CapabilityEngagement :=
  membro CapabilityEngagement.value [.operationalEnablement, .analytical, .preventive, .unspecified]
    "CapabilityEngagement" valor

def BoundaryCapability.inOrder : List BoundaryCapability :=
  [.catastrophicHarmEnablement, .childSexualExploitation, .minorTargetingForExploitation,
    .weaponOfMassDestructionEnablement]

/-! ## The question -/

/-- The four fields of the context are those of a `MemoryContext`. -/
structure GovernanceQuery where
  descriptorOperation : BoundaryOperation
  descriptorCapabilities : Finset BoundaryCapability
  descriptorEngagement : BoundaryEngagement
  binding : GovernanceBinding
  contexto : MemoryContext := {}
  mesmaOperacao : descriptorOperation = binding.operation

/-! ## The adapter of the governance -/

namespace GovernanceResolutionAdapter

/-- The resolution of the memory, on texts of code points. -/
def resolucaoDe (r : Memory.ResolutionFields) : ResolutionFields where
  outcome := r.outcome
  operation := r.operation
  contextDomainIds := r.contextDomainIds.map fun u => Fin.ofNat (2 ^ 128) u.int
  contextActorRef := r.contextActorRef.map Texto.of
  contextPurpose := r.contextPurpose.map Texto.of
  safetyBoundaryVersion := r.safetyBoundaryVersion
  safetyRationale := Texto.of r.safetyRationale
  blockedCapabilities := r.blockedCapabilities
  preservedIntent := r.preservedIntent.map Texto.of
  admissibleAlternatives := r.admissibleAlternatives.map Texto.of
  constraints := r.constraints.map Texto.of
  declaredPreservations := r.declaredPreservations.map Texto.of
  declaredLosses := r.declaredLosses.map Texto.of
  policyKey := r.policyKey.map Texto.of
  policyVersion := r.policyVersion
  policyId := r.policyId.map fun u => Fin.ofNat (2 ^ 128) u.int
  matchedRuleId := r.matchedRuleId.map Texto.of
  policyRationale := Texto.of r.policyRationale

/-- The descriptor that the governance judges. -/
def descritorDe (query : GovernanceQuery) : Except String CapabilityDescriptor := do
  let operation ← cognitiveOperation query.descriptorOperation.value
  let capabilities ← (BoundaryCapability.inOrder.filter (· ∈ query.descriptorCapabilities)).mapM
    fun c => criticalCapability c.value
  let engagement ← capabilityEngagement query.descriptorEngagement.value
  return { operation, capabilities := capabilities.toFinset, engagement }

/-- `_resolver`. No policy is asked. -/
def resolver (policies : PolicyTable) (avaliadoEm : Datetime) (query : GovernanceQuery) :
    Except Falha Memory.GovernanceResolution := do
  let descritor ← (descritorDe query).mapError .excecao
  (GovernanceManager.resolve policies descritor query.contexto none avaliadoEm).mapError fun _ =>
    .indisponivel "a governança não pôde produzir uma resolução para esta pergunta"

/-- `_desfecho`. -/
def desfecho (resolucao : Memory.GovernanceResolution) : Except Falha BoundaryOutcome := do
  let desfecho ← (boundaryOutcome resolucao.outcome.value).mapError .excecao
  if desfecho ∈ acceptedBoundaryOutcomes then return desfecho
  else .error (.indisponivel
    ("desfecho inesperado '" ++ desfecho.value ++ "' com policy_key=None"))

/-- The fingerprint or the hash, which the serializer may refuse. -/
def serializado : Option String → Except Falha Texto
  | some digest => .ok (Texto.of digest)
  | none => .error (.excecao "")

/-- The fields of the view that answers a question. -/
def camposDaVista (query : GovernanceQuery) (avaliadoEm : Datetime) (boundaryVersion : ℤ)
    (outcome : BoundaryOutcome) (bloqueadas : List BoundaryCapability)
    (decisionFingerprint bindingSha256 : Texto) : GovernanceResolutionViewFields where
  outcome
  capabilityEngagement := query.descriptorEngagement
  boundaryVersion
  classifierVersion := query.binding.classifierVersion
  decisionFingerprint
  bindingSha256
  evaluatedAt := .ciente avaliadoEm
  validUntil := query.binding.validUntil
  blockedCapabilities := bloqueadas

/-- `resolve`, at the instant of `_momento` or of the clock. The bridge reads the text of no
exception that is not its own. -/
def resolve (policies : PolicyTable) (avaliadoEm : Datetime) (query : GovernanceQuery) :
    Except Falha GovernanceResolutionView := do
  let resolucao ← resolver policies avaliadoEm query
  let outcome ← desfecho resolucao
  let bloqueadas ← (resolucao.blockedCapabilities.mapM fun c =>
    boundaryCapability c.value).mapError .excecao
  let decisionFingerprint ← serializado
    (calcularFingerprint (resolucaoDe resolucao.toResolutionFields) query.binding.classifierVersion)
  let bindingSha256 ← serializado
    (calcularBindingSha256 query.binding.toGovernanceBindingFields)
  let campos := camposDaVista query avaliadoEm resolucao.safetyBoundaryVersion outcome bloqueadas
    decisionFingerprint bindingSha256
  (checked campos.violation fun h => (⟨campos, h⟩ : GovernanceResolutionView)).mapError .excecao

/-- The adapter as a port. -/
def porta (policies : PolicyTable) (avaliadoEm : Datetime) (query : GovernanceQuery) :
    Retorno GovernanceResolutionView :=
  match resolve policies avaliadoEm query with
  | .ok vista => .valor vista
  | .error f => .falha f

end GovernanceResolutionAdapter

/-! ## The composition -/

/-- What the ports were asked for, in order. -/
inductive Ato
  | pause (schedule : Referencia) (reasonFingerprint : Texto)
  | revoke (schedule : Referencia) (reasonFingerprint : Texto)
  | registrar (aplicacao : HumanProtectionApplication)
  | resume (schedule : Referencia) (decisionFingerprint : Texto)

/-- The act is one that comes before a registration. -/
def Ato.suspende : Ato → Bool
  | .pause _ _ | .revoke _ _ => true
  | .registrar _ | .resume _ _ => false

/-- The acts of a call and its answer. -/
abbrev Feito (ε α : Type) : Type := List Ato × Except (ErroDoGate ε) α

namespace Feito

variable {ε α β : Type}

def recusa (texto : String) : Feito ε α := ([], .error (.indisponivel texto))

def depois (f : Feito ε α) (k : α → Feito ε β) : Feito ε β :=
  match f.2 with
  | .error e => (f.1, .error e)
  | .ok a => (f.1 ++ (k a).1, (k a).2)

theorem depois_ok (atos : List Ato) (a : α) (k : α → Feito ε β) :
    depois (atos, .ok a) k = (atos ++ (k a).1, (k a).2) := rfl

end Feito

/-- What the composition is made of. A pause or a resumption that does not raise is done,
whatever it returns; a count is used when it is an `int`. -/
structure HumanProtectionComposition (ε : Type) where
  broker : IntentAuthorizationBroker
  port : GovernanceQuery → Retorno GovernanceResolutionView
  repository : HumanProtectionApplication → Except (ErroDaPonte ε) Unit
  boundaryVersion : ℤ
  pausePort : Referencia → Texto → Option Falha
  revocationPort : Option (Referencia → Texto → Retorno ℤ)
  resumePort : Option (Referencia → Texto → Option Falha)
  boundaryVersion_pos : 1 ≤ boundaryVersion

/-- The composition over another classifier. -/
def HumanProtectionComposition.comClassificador {ε : Type} (C : HumanProtectionComposition ε)
    (classifier : Classificador) : HumanProtectionComposition ε :=
  { C with broker := { C.broker with classifier } }

/-- What a call of `aplicar` is given, and what the clock shows when the bridge reads it. -/
structure Pedido where
  objective : Texto
  gatePosition : GatePosition
  principalRef : Texto
  operation : CognitiveOperation
  scheduleId : Option Referencia := none
  stepId : Option Referencia := none
  attemptId : Option Referencia := none
  efeitos : Option ProtectionEffects := none
  moment : Option Momento := none
  agoraAvaliar : Instante
  agoraRegistrar : Instante

/-- `moment`, or a reading of the clock. -/
def Pedido.instante (p : Pedido) (agora : Instante) : Momento := p.moment.getD (.ciente agora.utc)

/-- The call of `registrar_aplicacao`. -/
def Pedido.chamada (p : Pedido) (query : GovernanceQuery) (vista : GovernanceResolutionView)
    (efeitos : ProtectionEffects) : Chamada :=
  ⟨vista, query.binding, efeitos, p.instante p.agoraRegistrar⟩

/-- What a resumption asks `aplicar`. -/
def Pedido.deRetomada (p : Pedido) (scheduleId stepId : Referencia) : Pedido :=
  { p with scheduleId := some scheduleId, stepId := some stepId, attemptId := none, efeitos := none }

namespace HumanProtectionComposition

variable {ε : Type}

/-- `GATES_ATIVOS`. -/
def gatesAtivos : List GatePosition := [.g1, .g2, .g3, .g4]

/-- `traduzir_operacao`. -/
def traduzirOperacao (operation : CognitiveOperation) : Except String BoundaryOperation :=
  (boundaryOperation operation.value).mapError fun _ =>
    "operação '" ++ operation.value ++ "' não existe no espelho da E7"

/-- `traduzir_engajamento`. -/
def traduzirEngajamento (engagement : CapabilityEngagement) : Except String BoundaryEngagement :=
  (boundaryEngagement engagement.value).mapError fun _ =>
    "engajamento '" ++ engagement.value ++ "' não existe no espelho da E7"

/-- `traduzir_capacidades`. -/
def traduzirCapacidades (capabilities : Finset CriticalCapability) :
    Except String (Finset BoundaryCapability) :=
  List.toFinset <$> (CriticalCapability.inOrder.filter (· ∈ capabilities)).mapM fun c =>
    (boundaryCapability c.value).mapError fun _ =>
      "capacidade '" ++ c.value ++ "' não existe no espelho da E7 — " ++
        "capacidade não traduzida jamais vira conjunto vazio"

/-- `_descritor`. -/
def descritor (C : HumanProtectionComposition ε) (p : Pedido) :
    Except (ErroDoGate ε) AuthorizedCapabilityDescriptor :=
  (C.broker.authorize p.objective p.operation p.moment).mapError fun
    | .indisponivel reason =>
      .indisponivel ("a E8 não produziu descritor autorizado: " ++ reason)
    | .crua texto => .crua texto
    | .overflow => .overflow

/-- The fields of the binding of a descriptor. -/
def camposDoVinculo (C : HumanProtectionComposition ε) (p : Pedido)
    (d : AuthorizedCapabilityDescriptor) (operation : BoundaryOperation) :
    GovernanceBindingFields where
  operation
  principalRef := p.principalRef
  scheduleId := p.scheduleId
  stepId := p.stepId
  attemptId := p.attemptId
  objectiveSha256 := d.objectiveSha256
  gatePosition := p.gatePosition
  boundaryVersion := C.boundaryVersion
  classifierVersion := d.classifierVersion
  validUntil := .ciente d.validUntil.utc

/-- The question of a descriptor. -/
def pergunta (C : HumanProtectionComposition ε) (p : Pedido)
    (d : AuthorizedCapabilityDescriptor) : Except String GovernanceQuery := do
  let operation ← traduzirOperacao d.operation
  let campos := C.camposDoVinculo p d operation
  let binding ← (checked campos.violation fun h =>
      (⟨⟨campos, h⟩, rfl⟩ : { b : GovernanceBinding // b.operation = operation })).mapError
    fun falha => "binding incoerente para " ++ p.gatePosition.value ++ ": " ++ falha
  let capacidades ← traduzirCapacidades d.capabilities
  let engajamento ← traduzirEngajamento d.engagement
  return ⟨operation, capacidades, engajamento, binding.1, {}, binding.2.symm⟩

/-- `HumanProtectionBridge._resolver`. -/
def resolver (C : HumanProtectionComposition ε) (query : GovernanceQuery) :
    Except (ErroDaPonte ε) GovernanceResolutionView :=
  match C.port query with
  | .valor vista => .ok vista
  | .outro => .error (.indisponivel "a porta devolveu algo que não é uma resolução de governança")
  | .falha (.indisponivel texto) => .error (.indisponivel texto)
  | .falha (.excecao _) =>
    .error (.indisponivel "a porta de governança falhou ao resolver a pergunta")

/-- `HumanProtectionBridge.avaliar`. -/
def avaliar (C : HumanProtectionComposition ε) (query : GovernanceQuery) (agora : Momento) :
    Except (ErroDaPonte ε) GovernanceResolutionView := do
  let vista ← C.resolver query
  HumanProtectionBridge.exigirVinculo vista query.binding
  HumanProtectionBridge.exigirValidade vista agora
  return vista

/-- `aplicar` up to the outcome of the boundary. -/
def decidir (C : HumanProtectionComposition ε) (p : Pedido) :
    Except (ErroDoGate ε) (GovernanceQuery × GovernanceResolutionView × ProtectionOutcome) :=
  if p.gatePosition ∉ gatesAtivos then
    .error (.indisponivel
      ("posição '" ++ p.gatePosition.value ++ "' não é ativada por esta composição"))
  else do
    let d ← C.descritor p
    let query ← (C.pergunta p d).mapError .indisponivel
    let vista ← (C.avaliar query (p.instante p.agoraAvaliar)).mapError .daPonte
    let outcome ← (HumanProtectionBridge.desfecho vista).mapError .daPonte
    return (query, vista, outcome)

/-- `_pausar`. -/
def pausar (C : HumanProtectionComposition ε) (binding : GovernanceBinding)
    (vista : GovernanceResolutionView) (efeitos : ProtectionEffects) : Feito ε ProtectionEffects :=
  if efeitos.pauseApplied then ([], .ok efeitos)
  else match binding.scheduleId with
    | none => .recusa "bloqueio fora de g1 exige schedule a suspender"
    | some schedule =>
      ([.pause schedule vista.decisionFingerprint],
        match C.pausePort schedule vista.decisionFingerprint with
        | some f => .error (.indisponivel
            ("o trabalho não pôde ser suspenso após o bloqueio: " ++ f.texto))
        | none => .ok ⟨true, efeitos.delegationsRevoked, none, efeitos.naoNegativo⟩)

/-- `_revogar`. -/
def revogar (C : HumanProtectionComposition ε) (binding : GovernanceBinding)
    (vista : GovernanceResolutionView) : Feito ε { n : ℤ // 0 ≤ n } :=
  match C.revocationPort with
  | none => .recusa "g4 bloqueado exige porta de revogação de delegação"
  | some porta => match binding.scheduleId with
    | none => .recusa "g4 exige schedule cuja delegação revogar"
    | some schedule =>
      ([.revoke schedule vista.decisionFingerprint],
        match porta schedule vista.decisionFingerprint with
        | .falha f => .error (.indisponivel
            ("a delegação não pôde ser revogada após o bloqueio: " ++ f.texto))
        | .outro =>
          .error (.indisponivel "a porta de revogação devolveu contagem não utilizável")
        | .valor n =>
          if h : 0 ≤ n then .ok ⟨n, h⟩
          else .error (.indisponivel "a porta de revogação devolveu contagem não utilizável"))

/-- `_efeitos_do_bloqueio`. -/
def efeitosDoBloqueio (C : HumanProtectionComposition ε) (binding : GovernanceBinding)
    (vista : GovernanceResolutionView) (efeitos : ProtectionEffects) : Feito ε ProtectionEffects :=
  match binding.gatePosition with
  | .g1 => ([], .ok ⟨false, efeitos.delegationsRevoked, none, efeitos.naoNegativo⟩)
  | .g2 | .g3 => C.pausar binding vista efeitos
  | .g4 => (C.pausar binding vista efeitos).depois fun pausados =>
      (C.revogar binding vista).depois fun revogadas =>
        ([], .ok ⟨pausados.pauseApplied, max revogadas.1 pausados.delegationsRevoked, none,
          le_max_of_le_left revogadas.2⟩)

/-- `registrar_aplicacao`, on a repository. -/
def registrar (C : HumanProtectionComposition ε) (c : Chamada) :
    Feito ε HumanProtectionApplication :=
  match HumanProtectionBridge.preparar c with
  | .error e => ([], .error (.daPonte e))
  | .ok aplicacao => ([.registrar aplicacao],
      ((C.repository aplicacao).map fun _ => aplicacao).mapError .daPonte)

/-- `aplicar`. -/
def aplicar (C : HumanProtectionComposition ε) (p : Pedido) : Feito ε HumanProtectionApplication :=
  match C.decidir p with
  | .error e => ([], .error e)
  | .ok (query, vista, outcome) =>
    let efeitos := p.efeitos.getD { attemptId := p.attemptId }
    let finais := if outcome = .blocked then C.efeitosDoBloqueio query.binding vista efeitos
      else ([], .ok efeitos)
    finais.depois fun efeitos => C.registrar (p.chamada query vista efeitos)

/-- The resumption after an application that allows. -/
def reativar (porta : Referencia → Texto → Option Falha) (scheduleId : Referencia)
    (aplicacao : HumanProtectionApplication) : Feito ε HumanProtectionApplication :=
  if aplicacao.outcome ≠ .allowed then ([], .ok aplicacao)
  else ([.resume scheduleId aplicacao.decisionFingerprint],
    match porta scheduleId aplicacao.decisionFingerprint with
    | some f => .error (.indisponivel ("o trabalho não pôde ser retomado: " ++ f.texto))
    | none => .ok aplicacao)

/-- `retomar`, of a schedule and a step. -/
def retomar (C : HumanProtectionComposition ε) (p : Pedido) (scheduleId stepId : Referencia) :
    Feito ε HumanProtectionApplication :=
  match C.resumePort with
  | none => .recusa "retomada exige porta de retomada composta"
  | some porta =>
    if p.gatePosition = .g1 then
      .recusa "g1 não retoma — não houve trabalho suspenso antes da criação"
    else (C.aplicar (p.deRetomada scheduleId stepId)).depois (reativar porta scheduleId)

end HumanProtectionComposition

end PiaOs.Protection
