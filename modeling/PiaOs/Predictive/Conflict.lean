import Mathlib.Data.List.Dedup
import PiaOs.Predictive.Reconfiguration

/-!
# Conflicts between claims

Evaluated claims of a batch are compared only under one comparability key. Different
conclusions under one key are a real conflict, and an item in conflict has no safe route.
-/

namespace PiaOs.Predictive

open Support Memory Piap

/-- A text with more than spaces. -/
abbrev Declaracao : Type := { t : Texto // Declarado t }

theorem Declaracao.ne_nil (t : Declaracao) : t.val ≠ [] := by
  intro hempty
  have hdeclared := t.property
  unfold Declarado at hdeclared
  rw [hempty] at hdeclared
  cases hdeclared

/-- The six coordinates that have to agree. -/
structure PredictiveComparabilityKey where
  target : Texto
  population : Texto
  jurisdiction : Texto
  horizon : ℤ
  regime : Texto
  unit : Texto
  deriving DecidableEq

/-- An evaluated claim with its key and its conclusion. -/
structure PredictiveComparableClaim where
  evaluation : PredictiveClaimEvaluationResult
  key : PredictiveComparabilityKey
  conclusionSignature : Declaracao

inductive PredictiveConflictStatus
  | noConflict
  | realConflict
  | falseConflictDecomposed
  deriving DecidableEq

structure PredictiveConflictAssessment where
  status : PredictiveConflictStatus
  compared : List PredictiveComparableClaim
  incommensurableDimensions : List String
  preservedNonEvaluated : List PredictiveRequestItemOutcome
  reason : String
  coerente : (status = .falseConflictDecomposed → incommensurableDimensions ≠ []) ∧
    (status = .realConflict → incommensurableDimensions = [])

namespace PredictiveConflictAssessment

/-- `blocks_safe_route`, and `blocks_material_support`. -/
def blocksSafeRoute (a : PredictiveConflictAssessment) : Bool := a.status = .realConflict

end PredictiveConflictAssessment

/-- `predictive_incommensurable_dimensions`. -/
def predictiveIncommensurableDimensions (a b : PredictiveComparabilityKey) : List String :=
  [("target", a.target == b.target), ("population", a.population == b.population),
    ("jurisdiction", a.jurisdiction == b.jurisdiction), ("horizon", a.horizon == b.horizon),
    ("regime", a.regime == b.regime), ("unit", a.unit == b.unit)].filterMap
      fun campo => if campo.2 then none else some campo.1

/-- `sorted` of a set of dimensions. -/
def dimensoesOrdenadas (contida : String → Bool) : List String :=
  ["horizon", "jurisdiction", "population", "regime", "target", "unit"].filter contida

/-- The same key has no dimension that differs. -/
theorem predictiveIncommensurableDimensions_self (key : PredictiveComparabilityKey) :
    predictiveIncommensurableDimensions key key = [] := by
  simp [predictiveIncommensurableDimensions]

/-- The dimensions in which a claim differs from the first. -/
def divergentesDe (key : PredictiveComparabilityKey) (claims : List PredictiveComparableClaim) :
    List String :=
  dimensoesOrdenadas fun nome =>
    claims.any fun outra => predictiveIncommensurableDimensions key outra.key |>.contains nome

/-- `predictive_conflict_assessment`. -/
def predictiveConflictAssessment (claims : List PredictiveComparableClaim)
    (preservedNonEvaluated : List PredictiveRequestItemOutcome) : PredictiveConflictAssessment :=
  match claims with
  | [] | [_] =>
    { status := .noConflict
      compared := claims
      incommensurableDimensions := []
      preservedNonEvaluated
      reason := "menos de duas alegações avaliadas comparáveis"
      coerente := ⟨nofun, nofun⟩ }
  | primeiro :: outras =>
    if hdivergem : divergentesDe primeiro.key outras ≠ [] then
      { status := .falseConflictDecomposed
        compared := claims
        incommensurableDimensions := divergentesDe primeiro.key outras
        preservedNonEvaluated
        reason := "alegações não são comensuráveis; divergência permanece decomposta"
        coerente := ⟨fun _ => hdivergem, nofun⟩ }
    else if outras.any fun c => c.conclusionSignature ≠ primeiro.conclusionSignature then
      { status := .realConflict
        compared := claims
        incommensurableDimensions := []
        preservedNonEvaluated
        reason := "conclusões incompatíveis sobre a mesma chave"
        coerente := ⟨nofun, fun _ => rfl⟩ }
    else
      { status := .noConflict
        compared := claims
        incommensurableDimensions := []
        preservedNonEvaluated
        reason := "conclusões concordantes sobre a mesma chave"
        coerente := ⟨nofun, nofun⟩ }

/-- Under one key, two conclusions are a real conflict. -/
theorem predictiveConflictAssessment_real {claims : List PredictiveComparableClaim}
    {preserved : List PredictiveRequestItemOutcome} {key : PredictiveComparabilityKey}
    (hkey : ∀ c ∈ claims, c.key = key) :
    (predictiveConflictAssessment claims preserved).status = .realConflict ↔
      ∃ a ∈ claims, ∃ b ∈ claims, a.conclusionSignature ≠ b.conclusionSignature := by
  cases claims with
  | nil => simp [predictiveConflictAssessment]
  | cons c others =>
    cases others with
    | nil => simp [predictiveConflictAssessment]
    | cons d rest =>
      have hsame : divergentesDe c.key (d :: rest) = [] := by
        unfold divergentesDe dimensoesOrdenadas
        rw [List.filter_eq_nil_iff]
        intro nome _
        rw [List.any_eq_true]
        rintro ⟨outra, hmem, hcontains⟩
        rw [hkey c List.mem_cons_self, hkey outra (List.mem_cons_of_mem _ hmem),
          predictiveIncommensurableDimensions_self] at hcontains
        cases hcontains
      unfold predictiveConflictAssessment
      simp only [hsame, ne_eq, not_true_eq_false, dif_neg, not_false_eq_true]
      by_cases hany : (d :: rest).any fun x => x.conclusionSignature ≠ c.conclusionSignature
      · rw [if_pos hany]
        obtain ⟨outra, hmem, hdiffer⟩ := List.any_eq_true.mp hany
        exact iff_of_true rfl ⟨outra, List.mem_cons_of_mem _ hmem, c, List.mem_cons_self,
          of_decide_eq_true hdiffer⟩
      · rw [if_neg hany]
        have hall : ∀ x ∈ c :: d :: rest, x.conclusionSignature = c.conclusionSignature := by
          intro x hx
          rcases List.mem_cons.mp hx with rfl | hlater
          · rfl
          · by_contra hdiffer
            exact hany (List.any_eq_true.mpr ⟨x, hlater, decide_eq_true hdiffer⟩)
        refine iff_of_false (by simp) ?_
        rintro ⟨a, ha, b, hb, hdiffer⟩
        exact hdiffer ((hall a ha).trans (hall b hb).symm)

/-! ## Assertiveness -/

inductive PredictiveAuthorityState
  | authorized
  | notAuthorized
  deriving DecidableEq

inductive PredictiveRoute
  | predict
  | reconfigure
  | investigate
  | robust
  deriving DecidableEq

/-- The components that a claim asserts. -/
structure PredictiveAssertiveness where
  candidateConclusion : Texto
  decisiveConstraint : Texto
  uncertainty : Double × Double
  authorityState : PredictiveAuthorityState
  nextGovernedRoute : PredictiveRoute
  reviewOrStopTrigger : String
  conflictAssessment : PredictiveConflictAssessment
  obrigatorios : candidateConclusion ≠ [] ∧ decisiveConstraint ≠ []

/-- `rotas`. -/
def PredictiveEpistemicState.rota : PredictiveEpistemicState → PredictiveRoute
  | .predictable => .predict
  | .unresolved => .investigate
  | .predictivelyInaccessible => .robust

/-- `predictive_assertiveness`. -/
def predictiveAssertiveness (evaluation : PredictiveClaimEvaluationResult)
    (candidateConclusion decisiveConstraint : Declaracao)
    (conflictAssessment : PredictiveConflictAssessment) : PredictiveAssertiveness where
  candidateConclusion := candidateConclusion.val
  decisiveConstraint :=
    if conflictAssessment.blocksSafeRoute then
      Texto.of "conflito real entre alegações; " ++ decisiveConstraint.val
    else decisiveConstraint.val
  uncertainty := evaluation.uncertainty
  authorityState :=
    if evaluation.approvalValidationOutcome = .valid then .authorized else .notAuthorized
  nextGovernedRoute :=
    if conflictAssessment.blocksSafeRoute then .investigate else evaluation.state.rota
  reviewOrStopTrigger := "revisar ao mudar regime, aprovação ou janela de validade histórica"
  conflictAssessment
  obrigatorios := by
    refine ⟨candidateConclusion.ne_nil, ?_⟩
    split
    · exact List.append_ne_nil_of_right_ne_nil _ decisiveConstraint.ne_nil
    · exact decisiveConstraint.ne_nil

/-- Without a conflict, the state prescribes the route. -/
theorem nextGovernedRoute_of_open {evaluation : PredictiveClaimEvaluationResult}
    {conclusion constraint : Declaracao} {conflict : PredictiveConflictAssessment}
    (h : conflict.blocksSafeRoute = false) :
    (predictiveAssertiveness evaluation conclusion constraint conflict).nextGovernedRoute =
      evaluation.state.rota := by
  have hopen : ¬conflict.blocksSafeRoute = true := by simp [h]
  exact if_neg hopen

end PiaOs.Predictive
