import PiaOs.Predictive.Burden

/-!
# Routing of a batch

A batch is evaluated item by item, the gates of its instructions run one after the other over
the repository, conflicts are assessed over the evaluated claims, and each item gets one
routing outcome at its own position.
-/

namespace PiaOs.Predictive

open Support Memory Piap

/-! ## The final route -/

/-- `_CONSERVADORISMO`. -/
def PredictiveRoute.conservadorismo : PredictiveRoute → ℕ
  | .predict => 0
  | .reconfigure => 1
  | .robust => 2
  | .investigate => 3

structure PredictiveFinalRoutingResult where
  route : Option PredictiveRoute
  recommendedAlternative : Option PredictiveAlternativeKind
  conflictAssessment : PredictiveConflictAssessment
  limits : List String
  reason : String
  assertiveness : PredictiveAssertiveness
  revalidatedRoute : PredictiveRoute
  quality : PredictiveRecommendationQualityResult
  explicada : route = none → limits ≠ []

/-- `abstained`. -/
def PredictiveFinalRoutingResult.abstained (r : PredictiveFinalRoutingResult) : Bool :=
  r.route.isNone

/-- `_escolher_alternativa`: the only alternative that no other dominates, with the limits that
the choice adds. -/
def escolherAlternativa (counterfactual : PredictiveCounterfactualSet)
    (burden : PredictiveBurdenComparison) : Option PredictiveAlternativeKind × List String :=
  if !counterfactual.completeAnswerAllowed then
    (none, ["resposta protetiva incompleta: nenhuma alternativa recomendada"])
  else if !counterfactual.proceduralEndorsementAllowed then
    (none, ["orientação " ++ counterfactual.quality.guidanceOutcome.value ++
      ": nenhuma alternativa recomendada"])
  else
    match burden.incomparable, burden.nonDominated with
    | primeiro :: _, _ => (none, ["ônus incomparável: " ++ primeiro])
    | [], [] => (none, ["todas as alternativas dominadas: nenhuma recomendação"])
    | [], k :: l :: rest =>
      (none, ["mais de uma alternativa não dominada (" ++
        ", ".intercalate ((k :: l :: rest).map (·.value)) ++
        "): sem critério decisivo governado, nenhuma é recomendada"])
    | [], [.a0Inaction] =>
      (some .a0Inaction, ["A0 preservada como única legitimamente não dominada"])
    | [], [.a1ReversibleEscalation] =>
      if (counterfactual.of .a1ReversibleEscalation).any (·.reversible) then
        (some .a1ReversibleEscalation, ["A1 reversível preservada como única não dominada"])
      else (none, ["A1 não reversível: não recomendada"])
    | [], [.a2FullAction] => (some .a2FullAction, [])

/-- The limits that are noted before an alternative is chosen. -/
def limitesDe (evaluation : PredictiveClaimEvaluationResult)
    (quality : PredictiveRecommendationQualityResult) (burden : PredictiveBurdenComparison)
    (conflict : PredictiveConflictAssessment) : List String :=
  let notar (c : Bool) (limite : String) : List String := if c then [limite] else []
  notar conflict.blocksSafeRoute ("conflito real entre alegações: " ++ conflict.reason) ++
  notar (!conflict.incommensurableDimensions.isEmpty)
    ("alegações incomensuráveis permanecem decompostas em " ++
      ", ".intercalate conflict.incommensurableDimensions) ++
  notar (evaluation.approvalValidationOutcome ≠ .valid)
    ("aprovação " ++ valorDe evaluation.approvalValidationOutcome ++ ": ROBUST bloqueado") ++
  notar (!quality.completeAnswerAllowed) "ramo protetivo UNRESOLVED impede resposta completa" ++
  notar (quality.guidanceOutcome ≠ .valid)
    ("orientação " ++ quality.guidanceOutcome.value ++ ": sem detalhe procedimental") ++
  notar (burden.entries.any fun entrada => entrada.2.probabilityValidation = .notValidated)
    "probabilidade não validada: sem perda esperada numérica" ++
  notar (!burden.tradeOffPairs.isEmpty)
    "há trade-offs entre alternativas; não há dominância total" ++
  notar (burden.entries.any fun entrada => entrada.2.touchesVulnerable)
    "incidência sobre população vulnerável preservada"

/-- `entregar`. -/
def entregar (limites : List String) (alternativa : Option PredictiveAlternativeKind)
    (assertiveness : PredictiveAssertiveness) (quality : PredictiveRecommendationQualityResult)
    (conflictAssessment : PredictiveConflictAssessment) (rota : Option PredictiveRoute)
    (motivo : String) : PredictiveFinalRoutingResult where
  route := rota
  recommendedAlternative := if rota.isNone then none else alternativa
  conflictAssessment
  limits := if rota.isNone && limites.isEmpty then ["nenhuma rota segura disponível"] else limites
  reason := motivo
  assertiveness
  revalidatedRoute :=
    match rota with
    | none => assertiveness.nextGovernedRoute
    | some r =>
      if assertiveness.nextGovernedRoute.conservadorismo < r.conservadorismo then r
      else assertiveness.nextGovernedRoute
  quality
  explicada := by
    intro hnone
    cases limites <;> simp [hnone]

/-- `predictive_final_routing`. -/
def predictiveFinalRouting (evaluation : PredictiveClaimEvaluationResult)
    (reconfiguration : Option Desfecho) (assertiveness : PredictiveAssertiveness)
    (quality : PredictiveRecommendationQualityResult)
    (counterfactual : PredictiveCounterfactualSet) (burden : PredictiveBurdenComparison)
    (conflictAssessment : PredictiveConflictAssessment) : PredictiveFinalRoutingResult :=
  let escolha := escolherAlternativa counterfactual burden
  let entregar := entregar (limitesDe evaluation quality burden conflictAssessment ++ escolha.2)
    escolha.1 assertiveness quality conflictAssessment
  let aprovado : Bool := evaluation.approvalValidationOutcome = .valid
  let promovido := reconfiguration.any fun o => o.decision = .promoted
  if conflictAssessment.blocksSafeRoute then
    entregar none "conflito real entre alegações: nenhuma rota segura"
  else if promovido && quality.completeAnswerAllowed && aprovado then
    entregar (some .reconfigure) "reconfiguração promovida e sustentada"
  else if evaluation.state = .predictable then entregar (some .predict) "estado PREDICTABLE"
  else if evaluation.state = .unresolved then entregar (some .investigate) "estado UNRESOLVED"
  else if aprovado && quality.completeAnswerAllowed then
    entregar (some .robust) "inacessibilidade preditiva com limites legítimos e aprovação válida"
  else entregar none "nenhuma rota segura; abster-se"

/-! ## One item -/

/-- The governed inputs of one item. -/
structure PredictiveGovernedQualityInput where
  conclusionSignature : Declaracao
  comparabilityKey : PredictiveComparabilityKey
  decisiveConstraint : Declaracao
  protectionCandidates : List PredictiveProtectionCandidateInput
  guidance : Option PredictiveGuidanceReference
  expectedGuidanceJurisdiction : Texto
  expectedGuidanceVersion : ℤ
  alternatives : List PredictiveAlternative
  burdenEntries : EntradasDeOnus
  materialityRequiredScope : List Texto
  requiredProtectionIdentifiers : List Texto
  protectionInventoryReference : Option Texto
  asymmetryJustification : Option Texto
  inventario : requiredProtectionIdentifiers.Nodup ∧ (requiredProtectionIdentifiers ≠ [] →
    ∃ r, protectionInventoryReference = some r ∧ Declarado r)

inductive PredictiveReconfigurationOutcome
  | evaluated (desfecho : Desfecho)
  | causalRejected (subjectKey reason : String)
  | upstreamUnavailable (sourceReference reason : String)

/-- Only an evaluated outcome tells of a promotion. -/
def PredictiveReconfigurationOutcome.desfecho? : PredictiveReconfigurationOutcome → Option Desfecho
  | .evaluated desfecho => some desfecho
  | _ => none

inductive PredictiveRoutingOutcome
  | final (result : PredictiveFinalRoutingResult)
  | upstreamUnavailable (sourceReference reason : String)
  | causalRejected (subjectKey reason : String)

/-- `route`: the two short outcomes have none. -/
def PredictiveRoutingOutcome.route : PredictiveRoutingOutcome → Option PredictiveRoute
  | .final result => result.route
  | _ => none

/-- The chain of one evaluated item, from its assertiveness to its final route. -/
def rotear (evaluation : PredictiveClaimEvaluationResult) (governed : PredictiveGovernedQualityInput)
    (reconfiguration : Option Desfecho) (approvalBinding : Option ApprovalBinding)
    (conflictAssessment : PredictiveConflictAssessment) (at_ : Momento) :
    Except Erro PredictiveFinalRoutingResult := do
  let assertividade := predictiveAssertiveness evaluation governed.conclusionSignature
    governed.decisiveConstraint conflictAssessment
  let protecao ← predictiveProtectionSet governed.protectionCandidates assertividade evaluation
    approvalBinding conflictAssessment at_ governed.materialityRequiredScope
    governed.requiredProtectionIdentifiers governed.protectionInventoryReference
  let qualidade ← predictiveRecommendationQuality protecao governed.guidance at_
    governed.expectedGuidanceJurisdiction governed.expectedGuidanceVersion
  let contrafactual ← predictiveCounterfactualSet governed.alternatives assertividade protecao
    qualidade governed.asymmetryJustification
  let comparacao ← predictiveBurdenComparison contrafactual governed.burdenEntries
  return predictiveFinalRouting evaluation reconfiguration assertividade qualidade contrafactual
    comparacao conflictAssessment

/-- `predictive_route_item`. -/
def predictiveRouteItem (outcome : PredictiveRequestItemOutcome)
    (governed : Option PredictiveGovernedQualityInput)
    (reconfiguration : PredictiveReconfigurationOutcome) (approvalBinding : Option ApprovalBinding)
    (conflictAssessment : Option PredictiveConflictAssessment) (at_ : Momento) :
    Except Erro PredictiveRoutingOutcome :=
  match outcome with
  | .upstreamUnavailable reference _ =>
    .ok (.upstreamUnavailable reference
      "item indisponível a montante: nenhuma ciência e nenhum roteamento")
  | .causalRejected claim _ =>
    .ok (.causalRejected claim.subjectKey
      "nenhum canal com disponibilidade causal no instante de referência")
  | .evaluated evaluation =>
    match governed, conflictAssessment with
    | none, _ => .error (.incompleto "item avaliado exige entrada governada correspondente")
    | some _, none =>
      .error (.incompleto "item avaliado exige avaliação de conflito correspondente")
    | some governed, some conflict =>
      (rotear evaluation governed reconfiguration.desfecho? approvalBinding conflict at_).map .final

/-! ## The batch -/

variable {Amostra : Type}

/-- `len(envelope.payload_refs)` of a ready item. -/
def PredictiveItem.referencias : PredictiveItem Amostra → ℕ
  | .ready envelope _ => envelope.payloadRefs.length
  | .upstreamUnavailable _ _ => 0

structure PredictiveEvaluationRequest (Amostra : Type) where
  items : List (PredictiveItem Amostra)
  limites : items ≠ [] ∧ items.length ≤ 8 ∧ (items.map (·.referencias)).sum ≤ 512

/-- An instruction aligned with an item. -/
structure PredictiveReconfigurationInstruction where
  candidate : PredictiveReconfigurationCandidate
  eventId : Referencia
  recordedAt : Datetime

/-- The call of the gate for an evaluated item. -/
def promocaoDe (evaluation : PredictiveClaimEvaluationResult) (envelope : PiapEnvelope)
    (instruction : PredictiveReconfigurationInstruction) : Promocao where
  evaluation
  envelope
  candidate := instruction.candidate
  eventId := instruction.eventId
  recordedAt := instruction.recordedAt

/-- The approval that is preserved beside an evaluated item. -/
def vinculoDe (item : PredictiveItem Amostra) (outcome : PredictiveRequestItemOutcome) :
    Option ApprovalBinding :=
  match item, outcome with
  | .ready envelope _, .evaluated _ => envelope.authority.approval
  | _, _ => none

structure PredictiveCoordinatedBatchResult where
  outcomes : List PredictiveRequestItemOutcome
  reconfiguration : List PredictiveReconfigurationOutcome
  approvalBindings : List (Option ApprovalBinding)
  alinhado : outcomes.length = reconfiguration.length ∧ outcomes.length = approvalBindings.length

/-- The body of the loop over the items. -/
def reconfigurarItem (item : PredictiveItem Amostra) (outcome : PredictiveRequestItemOutcome)
    (instruction : Option PredictiveReconfigurationInstruction) :
    Programa PredictiveReconfigurationOutcome :=
  match outcome, instruction, item with
  | .upstreamUnavailable reference _, _, _ =>
    .done (.ok (.upstreamUnavailable reference
      "E5.l não consulta nem escreve quando upstream está indisponível"))
  | .causalRejected claim _, _, _ =>
    .done (.ok (.causalRejected claim.subjectKey
      "E5.l não consulta nem escreve quando a causalidade foi rejeitada"))
  | .evaluated evaluation, none, _ =>
    .done (.ok (.evaluated ⟨.notApplicable, none, evaluation.claim.subjectKey, none,
      "nenhuma promoção foi proposta para o resultado avaliado"⟩))
  | .evaluated evaluation, some instruction, .ready envelope _ =>
    (predictiveReconfigurationGate (promocaoDe evaluation envelope instruction)).attempt
      fun desfecho => .done (.ok (.evaluated desfecho))
  | .evaluated _, some _, .upstreamUnavailable _ _ =>
    .done (.error (.incompleto "outcome avaliado sem ready item correspondente"))

/-- The loop over the items of the batch. -/
def reconfigurarLote : List (PredictiveItem Amostra) → List PredictiveRequestItemOutcome →
    List (Option PredictiveReconfigurationInstruction) →
    Programa (List PredictiveReconfigurationOutcome)
  | item :: items, outcome :: outcomes, instruction :: instructions =>
    (reconfigurarItem item outcome instruction).attempt fun primeiro =>
      (reconfigurarLote items outcomes instructions).attempt fun outros =>
        .done (.ok (primeiro :: outros))
  | [], [], [] => .done (.ok [])
  | _, _, _ => .done (.error .alinhamento)

/-- `predictive_evaluate_and_reconfigure_batch`. -/
def predictiveEvaluateAndReconfigureBatch (ciencia : Ciencia Amostra)
    (request : PredictiveEvaluationRequest Amostra)
    (instructions : List (Option PredictiveReconfigurationInstruction)) :
    Programa PredictiveCoordinatedBatchResult :=
  if instructions.length ≠ request.items.length then .done (.error .alinhamento)
  else
    match request.items.mapM (predictiveEvaluateItem ciencia) with
    | .error e => .done (.error e)
    | .ok outcomes =>
      (reconfigurarLote request.items outcomes instructions).attempt fun sidecar =>
        let bindings := List.zipWith vinculoDe request.items outcomes
        if h : outcomes.length = sidecar.length ∧ outcomes.length = bindings.length then
          .done (.ok ⟨outcomes, sidecar, bindings, h⟩)
        else .done (.error .alinhamento)

/-- The comparable claim of an item that was evaluated and has governed inputs. -/
def alegacaoDe (outcome : PredictiveRequestItemOutcome)
    (governed : Option PredictiveGovernedQualityInput) : Option PredictiveComparableClaim :=
  match outcome, governed with
  | .evaluated evaluation, some g =>
    some ⟨evaluation, g.comparabilityKey, g.conclusionSignature⟩
  | _, _ => none

/-- `predictive_conflict_for_batch`: an assessment for each item, over the claims with its key. -/
def conflitosDoLote (outcomes : List PredictiveRequestItemOutcome)
    (governed : List (Option PredictiveGovernedQualityInput)) :
    List (Option PredictiveConflictAssessment) :=
  let alegacoes := (List.zipWith alegacaoDe outcomes governed).filterMap id
  let preservadas := (outcomes.zip governed).filterMap fun par =>
    if (alegacaoDe par.1 par.2).isNone then some par.1 else none
  (List.zipWith alegacaoDe outcomes governed).map fun alegacao =>
    alegacao.map fun a =>
      predictiveConflictAssessment (alegacoes.filter fun b => b.key = a.key) preservadas

/-- The dimensions in which two keys of the batch differ. -/
def dimensoesDecompostas (outcomes : List PredictiveRequestItemOutcome)
    (governed : List (Option PredictiveGovernedQualityInput)) : List String :=
  let chaves := ((List.zipWith alegacaoDe outcomes governed).filterMap id).map (·.key)
  dimensoesOrdenadas fun nome =>
    chaves.any fun a => chaves.any fun b =>
      (predictiveIncommensurableDimensions a b).contains nome

structure PredictiveRoutingBatchResult where
  outcomes : List PredictiveRoutingOutcome
  decomposedConflictDimensions : List String

/-- The routing outcomes of the items, one after the other. -/
def rotearLote (at_ : Momento) : List PredictiveRequestItemOutcome →
    List PredictiveReconfigurationOutcome → List (Option ApprovalBinding) →
    List (Option PredictiveGovernedQualityInput) → List (Option PredictiveConflictAssessment) →
    Except Erro (List PredictiveRoutingOutcome)
  | outcome :: outcomes, sidecar :: sidecars, binding :: bindings, governed :: inputs,
      conflict :: conflicts => do
    let primeiro ← predictiveRouteItem outcome governed sidecar binding conflict at_
    let outros ← rotearLote at_ outcomes sidecars bindings inputs conflicts
    return primeiro :: outros
  | [], [], [], [], [] => .ok []
  | _, _, _, _, _ => .error .alinhamento

/-- `predictive_route_batch`. -/
def predictiveRouteBatch (coordinated : PredictiveCoordinatedBatchResult)
    (governedInputs : List (Option PredictiveGovernedQualityInput)) (at_ : Momento) :
    Except Erro PredictiveRoutingBatchResult :=
  if governedInputs.length ≠ coordinated.outcomes.length then .error .alinhamento
  else if coordinated.outcomes.isEmpty then
    .error (.incompleto "avaliação de conflito do lote não pode ser vazia")
  else do
    let outcomes ← rotearLote at_ coordinated.outcomes coordinated.reconfiguration
      coordinated.approvalBindings governedInputs
      (conflitosDoLote coordinated.outcomes governedInputs)
    return ⟨outcomes, dimensoesDecompostas coordinated.outcomes governedInputs⟩

end PiaOs.Predictive
