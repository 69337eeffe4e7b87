import PiaOs.Predictive.Protection

/-!
# Alternatives and their burdens

The three alternatives of a counterfactual and the vector of six burdens of each. Vectors are
compared by dominance only, and only when unit, source, version and time agree.
-/

namespace PiaOs.Predictive

open Support Memory Piap

/-! ## The counterfactual -/

inductive PredictiveAlternativeKind
  | a0Inaction
  | a1ReversibleEscalation
  | a2FullAction
  deriving DecidableEq

namespace PredictiveAlternativeKind

def all : List PredictiveAlternativeKind := [a0Inaction, a1ReversibleEscalation, a2FullAction]

theorem mem_all (k : PredictiveAlternativeKind) : k ∈ all := by
  cases k <;> decide

def value : PredictiveAlternativeKind → String
  | a0Inaction => "a0_inaction"
  | a1ReversibleEscalation => "a1_reversible_escalation"
  | a2FullAction => "a2_full_action"

end PredictiveAlternativeKind

inductive PredictiveCostKnowledge
  | known
  | unknown
  deriving DecidableEq

structure PredictiveAlternative where
  kind : PredictiveAlternativeKind
  key : PredictiveComparabilityKey
  costKnowledge : PredictiveCostKnowledge
  costValue : Option Double
  reversible : Bool
  description : Texto
  custo : costKnowledge = .unknown → costValue = none
  escalonada : kind = .a1ReversibleEscalation → reversible = true

/-- `PredictiveCounterfactualSet.__post_init__`. -/
def contrafactualIncompleto (alternatives : List PredictiveAlternative)
    (asymmetryJustification : Option Texto) : Option String :=
  if ¬∀ k ∈ PredictiveAlternativeKind.all, k ∈ alternatives.map (·.kind) then
    some "contrafactual exige A0, A1 e A2"
  else if 1 < (alternatives.map (·.key)).dedup.length ∧
      (asymmetryJustification.getD []).isEmpty then
    some "comparação assimétrica exige justificativa explícita"
  else none

structure PredictiveCounterfactualSet where
  alternatives : List PredictiveAlternative
  asymmetryJustification : Option Texto
  assertiveness : PredictiveAssertiveness
  protection : PredictiveProtectionSet
  quality : PredictiveRecommendationQualityResult
  proceduralEndorsementAllowed : Bool
  completeAnswerAllowed : Bool
  reason : String
  completo : contrafactualIncompleto alternatives asymmetryJustification = none

/-- `of`: the first alternative of a kind. -/
def PredictiveCounterfactualSet.of (c : PredictiveCounterfactualSet)
    (kind : PredictiveAlternativeKind) : Option PredictiveAlternative :=
  c.alternatives.find? fun a => a.kind = kind

/-- `predictive_counterfactual_set`. -/
def predictiveCounterfactualSet (alternatives : List PredictiveAlternative)
    (assertiveness : PredictiveAssertiveness) (protection : PredictiveProtectionSet)
    (quality : PredictiveRecommendationQualityResult) (asymmetryJustification : Option Texto) :
    Except Erro PredictiveCounterfactualSet :=
  match h : contrafactualIncompleto alternatives asymmetryJustification with
  | some texto => .error (.incompleto texto)
  | none =>
    .ok {
      alternatives
      asymmetryJustification
      assertiveness
      protection
      quality
      proceduralEndorsementAllowed := quality.guidanceOutcome = .valid
      completeAnswerAllowed := protection.completeAnswerAllowed
      reason :=
        if quality.guidanceOutcome ≠ .valid then
          "orientação " ++ quality.guidanceOutcome.value ++ ": sem endosso procedimental"
        else if !protection.completeAnswerAllowed then
          "ramo protetivo não resolvido: resposta não pode ser declarada completa"
        else "A0, A1 e A2 comparadas com orientação vigente e proteção resolvida"
      completo := h }

/-! ## Burden vectors -/

inductive PredictiveBurdenDimensionKind
  | financialResources
  | socialHuman
  | criticalServiceContinuity
  | distributionEquity
  | opportunityDelay
  | irreversibilityRecovery
  deriving DecidableEq

namespace PredictiveBurdenDimensionKind

def all : List PredictiveBurdenDimensionKind :=
  [financialResources, socialHuman, criticalServiceContinuity, distributionEquity,
    opportunityDelay, irreversibilityRecovery]

theorem mem_all (k : PredictiveBurdenDimensionKind) : k ∈ all := by
  cases k <;> decide

def value : PredictiveBurdenDimensionKind → String
  | financialResources => "financial_resources"
  | socialHuman => "social_human"
  | criticalServiceContinuity => "critical_service_continuity"
  | distributionEquity => "distribution_equity"
  | opportunityDelay => "opportunity_delay"
  | irreversibilityRecovery => "irreversibility_recovery"

end PredictiveBurdenDimensionKind

inductive PredictiveProbabilityValidation
  | validated
  | notValidated
  deriving DecidableEq

structure PredictiveBurdenDimension where
  kind : PredictiveBurdenDimensionKind
  magnitude : Double
  unit : Texto
  source : Texto
  sourceVersion : ℤ
  observedAt : Texto
  uncertainty : Double × Double
  incidence : Texto
  vulnerableIncidence : Bool
  preenchida : unit ≠ [] ∧ source ≠ [] ∧ incidence ≠ []

/-- One dimension of each kind. -/
structure PredictiveTotalBurdenVector where
  dimensions : List PredictiveBurdenDimension
  probabilityValidation : PredictiveProbabilityValidation
  exatas : (∀ k ∈ PredictiveBurdenDimensionKind.all, k ∈ dimensions.map (·.kind)) ∧
    (dimensions.map (·.kind)).Nodup

namespace PredictiveTotalBurdenVector

/-- A dictionary of the dimensions, at one kind. -/
def dimensao (v : PredictiveTotalBurdenVector) (k : PredictiveBurdenDimensionKind) :
    Option PredictiveBurdenDimension :=
  v.dimensions.find? fun d => d.kind = k

theorem dimensao_isSome (v : PredictiveTotalBurdenVector) (k : PredictiveBurdenDimensionKind) :
    (v.dimensao k).isSome = true := by
  obtain ⟨d, hd, hkind⟩ := List.mem_map.mp (v.exatas.1 k (PredictiveBurdenDimensionKind.mem_all k))
  unfold dimensao
  rw [List.find?_isSome]
  exact ⟨d, hd, decide_eq_true hkind⟩

/-- The dimension of a kind. -/
def at_ (v : PredictiveTotalBurdenVector) (k : PredictiveBurdenDimensionKind) :
    PredictiveBurdenDimension :=
  (v.dimensao k).get (v.dimensao_isSome k)

/-- `touches_vulnerable`. -/
def touchesVulnerable (v : PredictiveTotalBurdenVector) : Bool :=
  v.dimensions.any (·.vulnerableIncidence)

/-- `comparability_failure`. -/
def comparabilityFailure (v other : PredictiveTotalBurdenVector) : Option String :=
  PredictiveBurdenDimensionKind.all.findSome? fun k =>
    let a := v.at_ k
    let c := other.at_ k
    ([("unit", a.unit == c.unit), ("source", a.source == c.source),
      ("source_version", a.sourceVersion == c.sourceVersion),
      ("observed_at", a.observedAt == c.observedAt)].find? fun campo => !campo.2).map
        fun campo => k.value ++ ": " ++ campo.1 ++ " divergente"

/-- `dominates`, on vectors that are comparable. -/
def dominates (v other : PredictiveTotalBurdenVector) : Bool :=
  (PredictiveBurdenDimensionKind.all.all fun k => (other.at_ k).magnitude.le (v.at_ k).magnitude) &&
    PredictiveBurdenDimensionKind.all.any fun k => (other.at_ k).magnitude.lt (v.at_ k).magnitude

/-- `trade_offs` of comparable vectors is not empty. -/
def cruza (v other : PredictiveTotalBurdenVector) : Bool :=
  (PredictiveBurdenDimensionKind.all.any fun k =>
      (other.at_ k).magnitude.lt (v.at_ k).magnitude) &&
    PredictiveBurdenDimensionKind.all.any fun k => (v.at_ k).magnitude.lt (other.at_ k).magnitude

end PredictiveTotalBurdenVector

/-! ## Comparison -/

/-- What the pairs that were compared gave so far. -/
structure Comparado where
  dominadas : List PredictiveAlternativeKind
  cruzamentos : List (PredictiveAlternativeKind × PredictiveAlternativeKind)
  incomparaveis : List String

/-- One pair of vectors. -/
def Comparado.par (c : Comparado) (a b : PredictiveAlternativeKind)
    (va vb : PredictiveTotalBurdenVector) : Comparado :=
  match va.comparabilityFailure vb with
  | some falha =>
    let aviso := a.value ++ " vs " ++ b.value ++ ": " ++ falha
    if aviso ∈ c.incomparaveis then c
    else { c with incomparaveis := c.incomparaveis ++ [aviso] }
  | none =>
    { c with
      dominadas := if va.dominates vb && a ∉ c.dominadas then c.dominadas ++ [a] else c.dominadas
      cruzamentos :=
        if va.cruza vb && (b, a) ∉ c.cruzamentos then c.cruzamentos ++ [(a, b)]
        else c.cruzamentos }

abbrev EntradasDeOnus : Type := List (PredictiveAlternativeKind × PredictiveTotalBurdenVector)

/-- `mapa[k]`: of two entries with one key, the dictionary keeps the last. -/
def vetorDe (entries : EntradasDeOnus) (k : PredictiveAlternativeKind) :
    Except Erro PredictiveTotalBurdenVector :=
  match entries.reverse.find? fun entrada => entrada.1 = k with
  | some entrada => .ok entrada.2
  | none => .error (.chave k.value)

/-- The pairs of different alternatives, in the order of the two loops. -/
def pares : List (PredictiveAlternativeKind × PredictiveAlternativeKind) :=
  (PredictiveAlternativeKind.all.flatMap fun a => PredictiveAlternativeKind.all.map (a, ·)).filter
    fun par => par.1 ≠ par.2

/-- `PredictiveBurdenComparison.__post_init__`. -/
def umaPorAlternativa (entries : EntradasDeOnus) : Prop :=
  (∀ k ∈ PredictiveAlternativeKind.all, k ∈ entries.map (·.1)) ∧ (entries.map (·.1)).Nodup

instance (entries : EntradasDeOnus) : Decidable (umaPorAlternativa entries) := by
  unfold umaPorAlternativa
  infer_instance

structure PredictiveBurdenComparison where
  counterfactual : PredictiveCounterfactualSet
  entries : EntradasDeOnus
  dominated : List PredictiveAlternativeKind
  tradeOffPairs : List (PredictiveAlternativeKind × PredictiveAlternativeKind)
  incomparable : List String
  completa : umaPorAlternativa entries

/-- `non_dominated`. -/
def PredictiveBurdenComparison.nonDominated (b : PredictiveBurdenComparison) :
    List PredictiveAlternativeKind :=
  PredictiveAlternativeKind.all.filter fun k => k ∉ b.dominated

/-- The body of the two loops. -/
def compararPar (entries : EntradasDeOnus) (c : Comparado)
    (par : PredictiveAlternativeKind × PredictiveAlternativeKind) : Except Erro Comparado := do
  let va ← vetorDe entries par.1
  let vb ← vetorDe entries par.2
  return c.par par.1 par.2 va vb

/-- `predictive_burden_comparison`. -/
def predictiveBurdenComparison (counterfactual : PredictiveCounterfactualSet)
    (entries : EntradasDeOnus) : Except Erro PredictiveBurdenComparison := do
  let comparado ← pares.foldlM (compararPar entries) ⟨[], [], []⟩
  if h : umaPorAlternativa entries then
    return {
      counterfactual
      entries
      dominated := comparado.dominadas
      tradeOffPairs := comparado.cruzamentos
      incomparable := comparado.incomparaveis
      completa := h }
  else throw (.incompleto "é preciso um vetor de ônus por alternativa A0, A1 e A2")

end PiaOs.Predictive
