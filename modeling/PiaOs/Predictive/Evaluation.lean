import PiaOs.Piap.Envelope

/-!
# Evaluation of a claim

The claim of an envelope, the causal availability of its channels, the assessment of its
regime, the validation of its approval and the epistemic state of its evidence. The numeric
part, from the samples to the evidence, enters as a function that may fail.
-/

namespace PiaOs.Predictive

open Support Memory Piap

/-! ## Claims -/

structure PredictiveClaim where
  target : Texto
  signal : Texto
  horizon : Timedelta
  referenceTime : Instante

/-- `int(horizon / timedelta(microseconds=1))`: the quotient is a double. -/
def PredictiveClaim.microssegundos (c : PredictiveClaim) : ℤ :=
  ((Double.ofInt c.horizon.total).getD c.horizon.total).floor

/-- `subject_key`. -/
def PredictiveClaim.subjectKey (c : PredictiveClaim) : String :=
  Sha256.hexdigest (Json.dumps (.arr
    [.str (c.target.string?.getD ""), .str (c.signal.string?.getD ""), .int c.microssegundos,
      .str (instanteParaJson c.referenceTime)]))

/-- `predictive_claim_from_envelope`. -/
def predictiveClaimFromEnvelope (envelope : PiapEnvelope) : PredictiveClaim where
  target := envelope.subject.target
  signal := envelope.subject.signal
  horizon := envelope.subject.horizon.delta
  referenceTime := envelope.subject.horizon.referenceTime

/-! ## Channels and regime -/

structure PredictiveChannel where
  name : String
  lag : ℤ
  valido : 1 ≤ lag

/-- The channels and the library that were registered beforehand. -/
structure PredictiveChannelRegistry where
  channels : List PredictiveChannel
  estimatorLibrary : List String
  canais : channels ≠ []
  biblioteca : estimatorLibrary ≠ []

/-- `predictive_availability`. -/
def PredictiveChannel.available (canal : PredictiveChannel) (observedAtOffset : ℤ) : Bool :=
  canal.lag ≤ observedAtOffset

inductive PredictiveRegimeStatus
  | noShift
  | regimeShiftCandidate
  deriving DecidableEq

structure PredictiveRegimeAssessment where
  dRegime : Double
  theta : Double
  beatsFluctuation : Bool
  highPredictionError : Bool
  modelDisagreement : Bool

/-- `predictive_regime_assessment`: the status. Neither the error nor a disagreement counts. -/
def PredictiveRegimeAssessment.status (r : PredictiveRegimeAssessment) : PredictiveRegimeStatus :=
  if r.theta.lt r.dRegime && r.beatsFluctuation then .regimeShiftCandidate else .noShift

/-! ## Evidence and state -/

structure PredictivePowerOutcome where
  aMinus : Double
  aUpper : Double
  aStarWorst : Double
  meanGain : Double
  placeboP : Double
  gReal : Double
  gShuffledP95 : Double
  sampleSize : ℕ
  alphaCorrected : Double

inductive PredictiveEpistemicState
  | predictable
  | unresolved
  | predictivelyInaccessible
  deriving DecidableEq

/-- `predictive_classify_epistemic_state`. -/
def predictiveClassifyEpistemicState (evidence : PredictivePowerOutcome) (aRel : Double)
    (confirmatoryPass : Bool) : PredictiveEpistemicState :=
  if (Double.finite 0).lt evidence.aMinus then
    if confirmatoryPass then .predictable else .unresolved
  else if aRel.le evidence.aStarWorst then .unresolved
  else .predictivelyInaccessible

/-- `CLAIM_EVALUATION_RESULT`, as it is assembled: the state is that of the evidence. -/
structure PredictiveClaimEvaluationResult where
  claim : PredictiveClaim
  registry : PredictiveChannelRegistry
  aRel : Double
  regime : PredictiveRegimeAssessment
  evidence : PredictivePowerOutcome
  confirmatoryPass : Bool
  approvalValidationOutcome : ApprovalValidationOutcome

namespace PredictiveClaimEvaluationResult

def state (e : PredictiveClaimEvaluationResult) : PredictiveEpistemicState :=
  predictiveClassifyEpistemicState e.evidence e.aRel e.confirmatoryPass

def uncertainty (e : PredictiveClaimEvaluationResult) : Double × Double :=
  (e.evidence.aMinus, e.evidence.aUpper)

/-- Only a gain above zero is predictable. -/
theorem aMinus_of_predictable {e : PredictiveClaimEvaluationResult} (h : e.state = .predictable) :
    (Double.finite 0).lt e.evidence.aMinus = true := by
  unfold state predictiveClassifyEpistemicState at h
  by_contra hgain
  rw [if_neg hgain] at h
  split at h <;> cases h

end PredictiveClaimEvaluationResult

/-! ## Items -/

/-- What leaves the layer as an exception. -/
inductive Erro
  | valor (violacao : Violacao)
  | numerico
  | contrato
  | identidade (divergentes : List String)
  | banco
  | comparacao
  | chave (texto : String)
  | alinhamento
  | semEntrada
  | incompleto (texto : String)
  deriving DecidableEq

/-- The inputs of one claim, with the samples that only the numeric part reads. -/
structure PredictiveEvaluationContext (Amostra : Type) where
  registry : PredictiveChannelRegistry
  observedAtOffset : ℤ
  regime : PredictiveRegimeAssessment
  amostra : Amostra
  alphaCorrected : Double
  aRel : Double
  at_ : Momento
  expectedVersion : ℤ
  requiredScope : List Texto
  expectedJurisdiction : Option Texto
  expectedBindingKind : BoundObjectKind

inductive PredictiveItem (Amostra : Type)
  | ready (envelope : PiapEnvelope) (context : PredictiveEvaluationContext Amostra)
  | upstreamUnavailable (reference reason : String)

inductive PredictiveRequestItemOutcome
  | upstreamUnavailable (reference reason : String)
  | causalRejected (claim : PredictiveClaim) (rejectedChannels : List PredictiveChannel)
  | evaluated (evaluation : PredictiveClaimEvaluationResult)

/-- `predictive_approval_validation`: the binding is the approval's own, of the kind that is
expected. -/
def predictiveApprovalValidation {Amostra : Type} (envelope : PiapEnvelope)
    (context : PredictiveEvaluationContext Amostra) : Except Violacao ApprovalValidationOutcome :=
  match envelope.authority.approval with
  | none => .ok .missing
  | some approval =>
    if approval.boundTo.kind ≠ context.expectedBindingKind then .ok .bindingMismatch
    else
      validateApproval envelope.authority context.at_ context.expectedVersion
        context.requiredScope context.expectedJurisdiction approval.boundTo

variable {Amostra : Type}

/-- The numeric part: history, bootstrap, placebo and horizon spectrum. -/
abbrev Ciencia (Amostra : Type) : Type :=
  PredictiveEvaluationContext Amostra → Except Erro PredictivePowerOutcome

/-- `predictive_evaluate_item`. -/
def predictiveEvaluateItem (ciencia : Ciencia Amostra) :
    PredictiveItem Amostra → Except Erro PredictiveRequestItemOutcome
  | .upstreamUnavailable reference reason => .ok (.upstreamUnavailable reference reason)
  | .ready envelope context =>
    let claim := predictiveClaimFromEnvelope envelope
    let indisponiveis :=
      context.registry.channels.filter fun canal => !canal.available context.observedAtOffset
    if indisponiveis ≠ [] then .ok (.causalRejected claim indisponiveis)
    else do
      let evidence ← ciencia context
      let aprovacao ← (predictiveApprovalValidation envelope context).mapError Erro.valor
      return .evaluated
        { claim
          registry := context.registry
          aRel := context.aRel
          regime := context.regime
          evidence
          confirmatoryPass :=
            evidence.placeboP.lt context.alphaCorrected && evidence.gShuffledP95.lt evidence.gReal
          approvalValidationOutcome := aprovacao }

/-- A valid evaluation comes from an approval of its envelope that passed every test. -/
theorem aprovada_of_evaluated {ciencia : Ciencia Amostra} {envelope : PiapEnvelope}
    {context : PredictiveEvaluationContext Amostra} {evaluation : PredictiveClaimEvaluationResult}
    (h : predictiveEvaluateItem ciencia (.ready envelope context) = .ok (.evaluated evaluation))
    (hvalid : evaluation.approvalValidationOutcome = .valid) :
    ∃ approval, Aprovada envelope.authority approval context.at_.instant context.expectedVersion
      context.requiredScope context.expectedJurisdiction approval.boundTo := by
  unfold predictiveEvaluateItem at h
  simp only at h
  split at h
  · cases Except.ok.inj h
  · obtain ⟨evidence, -, h⟩ := bind_eq_ok.mp h
    obtain ⟨aprovacao, haprovacao, h⟩ := bind_eq_ok.mp h
    have heq := PredictiveRequestItemOutcome.evaluated.inj (Except.ok.inj h)
    have hok := mapError_eq_ok.mp haprovacao
    have houtcome : aprovacao = .valid := by
      rw [← heq] at hvalid
      exact hvalid
    rw [houtcome] at hok
    unfold predictiveApprovalValidation at hok
    cases happroval : envelope.authority.approval with
    | none =>
      rw [happroval] at hok
      cases Except.ok.inj hok
    | some approval =>
      simp only [happroval] at hok
      split at hok
      · cases Except.ok.inj hok
      · obtain ⟨other, hother⟩ := aprovada_of_validateApproval hok
        have hsame : approval = other := Option.some.inj (happroval.symm.trans hother.vinculo)
        rw [← hsame] at hother
        exact ⟨approval, hother⟩

end PiaOs.Predictive
