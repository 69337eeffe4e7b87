import Mathlib.Data.Fintype.Card
import Mathlib.Data.Set.Finite.Basic
import PiaOs.Predictive.ProtectionLaws
import PiaOs.Predictive.Routing

/-!
# The recommended alternative

An alternative whose burden is at least as large everywhere and larger somewhere is dominated.
Dominance is a strict order on comparable burdens, so that one alternative at least is not
dominated, and when it is the only one the others are dominated by it.
-/

namespace PiaOs.Predictive

open Support Memory Piap

/-! ## Minimal elements of a finite strict order -/

section Minimal

variable {α : Type} [Finite α] {r : α → α → Prop}

/-- Something is minimal. -/
theorem exists_minimal [Nonempty α] (htrans : ∀ a b c, r a b → r b c → r a c) (hirrefl : ∀ a, ¬r a a) :
    ∃ a, ∀ b, ¬r b a := by
  have : IsTrans α r := ⟨htrans⟩
  have : Std.Irrefl r := ⟨hirrefl⟩
  obtain ⟨a, -, ha⟩ := (Finite.wellFounded_of_trans_of_irrefl r).has_min Set.univ Set.univ_nonempty
  exact ⟨a, fun b => ha b trivial⟩

/-- The only minimal element is below all the others. -/
theorem only_minimal (htrans : ∀ a b c, r a b → r b c → r a c) (hirrefl : ∀ a, ¬r a a) (k : α) :
    (∀ a, (∀ b, ¬r b a) ↔ a = k) ↔ ∀ a, a ≠ k → r k a := by
  have : IsTrans α r := ⟨htrans⟩
  have : Std.Irrefl r := ⟨hirrefl⟩
  constructor
  · intro hminimal a
    induction a using (Finite.wellFounded_of_trans_of_irrefl r).induction with
    | h a ih =>
      intro hne
      have hnot : ¬∀ b, ¬r b a := fun hall => hne ((hminimal a).mp hall)
      simp only [not_forall, not_not] at hnot
      obtain ⟨b, hb⟩ := hnot
      by_cases hbk : b = k
      · exact hbk ▸ hb
      · exact htrans k b a (ih b hb hbk) hb
  · intro hbelow a
    constructor
    · intro hminimal
      by_contra hne
      exact hminimal k (hbelow a hne)
    · rintro rfl b hb
      by_cases hba : b = a
      · exact hirrefl a (hba ▸ hb)
      · exact hirrefl a (htrans a b a (hbelow b hba) hb)

end Minimal

/-! ## Dominance -/

theorem magnitude_le_trans {x y z : Double} (h : x.le y = true) (h' : y.le z = true) :
    x.le z = true := by
  cases x <;> cases y <;> cases z <;> simp only [Double.le, decide_eq_true_eq] at h h' ⊢ <;> grind

theorem magnitude_lt_of_lt_of_le {x y z : Double} (h : x.lt y = true) (h' : y.le z = true) :
    x.lt z = true := by
  cases x <;> cases y <;> cases z <;>
    simp only [Double.le, Double.lt, decide_eq_true_eq] at h h' ⊢ <;> grind

theorem magnitude_lt_irrefl (x : Double) : x.lt x = false := by
  cases x <;> simp [Double.lt]

/-- A burden as large in every dimension, and larger in some. -/
structure Pesa (v w : PredictiveTotalBurdenVector) : Prop where
  everywhere : ∀ k, (w.at_ k).magnitude.le (v.at_ k).magnitude = true
  somewhere : ∃ k, (w.at_ k).magnitude.lt (v.at_ k).magnitude = true

/-- Dimensions with one unit, one source, one version and one time. -/
def Comparavel (v w : PredictiveTotalBurdenVector) : Prop :=
  ∀ k, (v.at_ k).unit = (w.at_ k).unit ∧ (v.at_ k).source = (w.at_ k).source ∧
    (v.at_ k).sourceVersion = (w.at_ k).sourceVersion ∧ (v.at_ k).observedAt = (w.at_ k).observedAt

variable {u v w : PredictiveTotalBurdenVector}

theorem Pesa.trans (h : Pesa u v) (h' : Pesa v w) : Pesa u w := by
  obtain ⟨k, hk⟩ := h'.somewhere
  exact ⟨fun k => magnitude_le_trans (h'.everywhere k) (h.everywhere k),
    k, magnitude_lt_of_lt_of_le hk (h.everywhere k)⟩

theorem not_pesa_self (v : PredictiveTotalBurdenVector) : ¬Pesa v v := by
  intro h
  obtain ⟨k, hk⟩ := h.somewhere
  rw [magnitude_lt_irrefl] at hk
  cases hk

theorem dominates_iff : v.dominates w = true ↔ Pesa v w := by
  simp only [PredictiveTotalBurdenVector.dominates, Bool.and_eq_true, List.all_eq_true,
    List.any_eq_true]
  constructor
  · rintro ⟨hall, k, -, hk⟩
    exact ⟨fun k => hall k (PredictiveBurdenDimensionKind.mem_all k), k, hk⟩
  · rintro ⟨hall, k, hk⟩
    exact ⟨fun k _ => hall k, k, PredictiveBurdenDimensionKind.mem_all k, hk⟩

theorem comparabilityFailure_eq_none : v.comparabilityFailure w = none ↔ Comparavel v w := by
  simp only [PredictiveTotalBurdenVector.comparabilityFailure, List.findSome?_eq_none_iff,
    Option.map_eq_none_iff, List.find?_eq_none, List.forall_mem_cons, Bool.not_eq_true,
    Bool.not_eq_false', beq_iff_eq, List.not_mem_nil, false_imp_iff, implies_true, and_true]
  exact ⟨fun h k => h k (PredictiveBurdenDimensionKind.mem_all k), fun h k _ => h k⟩

/-! ## The comparison of all pairs -/

variable {entries : EntradasDeOnus} {vetor : PredictiveAlternativeKind → PredictiveTotalBurdenVector}

theorem kinds_finite : Finite PredictiveAlternativeKind := by
  refine Set.finite_univ_iff.mp ((List.finite_toSet PredictiveAlternativeKind.all).subset ?_)
  exact fun k _ => PredictiveAlternativeKind.mem_all k

theorem mem_pares {par : PredictiveAlternativeKind × PredictiveAlternativeKind} :
    par ∈ pares ↔ par.1 ≠ par.2 := by
  obtain ⟨a, b⟩ := par
  simp [pares, PredictiveAlternativeKind.mem_all]

/-- Each entry is the burden of its alternative. -/
theorem vetorDe_of_mem (h : umaPorAlternativa entries) {k : PredictiveAlternativeKind}
    (hv : (k, v) ∈ entries) : vetorDe entries k = .ok v := by
  unfold vetorDe
  cases hfind : entries.reverse.find? fun entrada => entrada.1 = k with
  | none =>
    rw [List.find?_eq_none] at hfind
    simpa using hfind _ (List.mem_reverse.mpr hv)
  | some entrada =>
    have hin := List.mem_reverse.mp (List.mem_of_find?_eq_some hfind)
    have hkey : entrada.1 = k := by simpa using List.find?_some hfind
    have hsame := List.inj_on_of_nodup_map h.2 hin hv hkey
    rw [hsame]

/-- What one pair adds. -/
theorem par_spec (c : Comparado) (p : PredictiveAlternativeKind × PredictiveAlternativeKind)
    (v w : PredictiveTotalBurdenVector) :
    ((c.par p.1 p.2 v w).incomparaveis = [] ↔ c.incomparaveis = [] ∧ Comparavel v w) ∧
      ∀ k, k ∈ (c.par p.1 p.2 v w).dominadas ↔
        k ∈ c.dominadas ∨ p.1 = k ∧ Comparavel v w ∧ Pesa v w := by
  unfold Comparado.par
  cases hfailure : v.comparabilityFailure w with
  | some falha =>
    have hnot : ¬Comparavel v w := by
      intro h
      rw [comparabilityFailure_eq_none.mpr h] at hfailure
      cases hfailure
    simp only [hnot, and_false, false_and, or_false, iff_false]
    split
    case isTrue hin => exact ⟨List.ne_nil_of_mem hin, fun _ => Iff.rfl⟩
    case isFalse => exact ⟨by simp, fun _ => Iff.rfl⟩
  | none =>
    have hcomparavel := comparabilityFailure_eq_none.mp hfailure
    simp only [hcomparavel, and_true, true_and]
    intro k
    by_cases hpesa : Pesa v w
    · by_cases hin : p.1 ∈ c.dominadas
      · simp only [dominates_iff.mpr hpesa, hin, not_true_eq_false, decide_false, Bool.and_false,
          Bool.false_eq_true, if_false, hpesa, and_true]
        exact ⟨.inl, fun h => h.elim id (· ▸ hin)⟩
      · simp [dominates_iff.mpr hpesa, hin, hpesa, eq_comm]
    · have hnot : v.dominates w = false := by
        rw [← Bool.not_eq_true, dominates_iff]
        exact hpesa
      simp [hnot, hpesa]

/-- What the pairs up to here gave. -/
theorem compararPar_fold (hvetor : ∀ k, vetorDe entries k = .ok (vetor k))
    {ps : List (PredictiveAlternativeKind × PredictiveAlternativeKind)} {c c' : Comparado}
    (h : ps.foldlM (compararPar entries) c = .ok c') :
    (c'.incomparaveis = [] ↔ c.incomparaveis = [] ∧
        ∀ p ∈ ps, Comparavel (vetor p.1) (vetor p.2)) ∧
      ∀ k, k ∈ c'.dominadas ↔ k ∈ c.dominadas ∨
        ∃ p ∈ ps, p.1 = k ∧ Comparavel (vetor p.1) (vetor p.2) ∧ Pesa (vetor p.1) (vetor p.2) := by
  induction ps generalizing c with
  | nil =>
    obtain rfl := Except.ok.inj h
    simp
  | cons p ps ih =>
    rw [List.foldlM_cons] at h
    simp only [compararPar, hvetor, ok_bind] at h
    obtain ⟨hincomparable, hdominated⟩ := ih h
    obtain ⟨hparIncomparable, hparDominated⟩ := par_spec c p (vetor p.1) (vetor p.2)
    refine ⟨?_, fun k => ?_⟩
    · rw [hincomparable, hparIncomparable, List.forall_mem_cons, and_assoc]
    · rw [hdominated, hparDominated, or_assoc]
      refine or_congr_right ?_
      constructor
      · rintro (hp | ⟨q, hq, hrest⟩)
        · exact ⟨p, List.mem_cons_self, hp⟩
        · exact ⟨q, List.mem_cons_of_mem p hq, hrest⟩
      · rintro ⟨q, hq, hrest⟩
        rcases List.mem_cons.mp hq with rfl | hq
        · exact .inl hrest
        · exact .inr ⟨q, hq, hrest⟩

/-! ## The recommendation -/

/-- Every two burdens can be compared. -/
def TodosComparaveis (entries : EntradasDeOnus) : Prop :=
  ∀ a va b vb, a ≠ b → (a, va) ∈ entries → (b, vb) ∈ entries → Comparavel va vb

/-- The burden of each other alternative is as large everywhere, and larger somewhere. -/
def MenosOnerosa (entries : EntradasDeOnus) (k : PredictiveAlternativeKind) : Prop :=
  ∀ a va vk, a ≠ k → (a, va) ∈ entries → (k, vk) ∈ entries → Pesa va vk

/-- A comparison of burdens: what it found to be incomparable, and who is not dominated. -/
theorem burdenComparison_spec {c : PredictiveCounterfactualSet} {b : PredictiveBurdenComparison}
    (h : predictiveBurdenComparison c entries = .ok b) :
    (b.incomparable = [] ↔ TodosComparaveis entries) ∧
      (TodosComparaveis entries → b.nonDominated ≠ [] ∧
        ∀ k, b.nonDominated = [k] ↔ MenosOnerosa entries k) := by
  unfold predictiveBurdenComparison at h
  obtain ⟨comparado, hfold, h⟩ := bind_eq_ok.mp h
  split at h
  case isFalse => cases h
  case isTrue hcompleta =>
    obtain rfl := Except.ok.inj h
    have hentry : ∀ k, ∃ v, (k, v) ∈ entries := by
      intro k
      obtain ⟨entrada, hin, rfl⟩ :=
        List.mem_map.mp (hcompleta.1 k (PredictiveAlternativeKind.mem_all k))
      exact ⟨entrada.2, hin⟩
    choose vetor hvetor using hentry
    have hlookup : ∀ k, vetorDe entries k = .ok (vetor k) :=
      fun k => vetorDe_of_mem hcompleta (hvetor k)
    have honly : ∀ k v, (k, v) ∈ entries → v = vetor k := by
      intro k v hv
      exact Except.ok.inj ((vetorDe_of_mem hcompleta hv).symm.trans (hlookup k))
    obtain ⟨hincomparable, hdominated⟩ := compararPar_fold hlookup hfold
    have hcomparable : comparado.incomparaveis = [] ↔ TodosComparaveis entries := by
      rw [hincomparable]
      constructor
      · rintro ⟨-, hall⟩ a va b vb hne ha hb
        rw [honly a va ha, honly b vb hb]
        exact hall (a, b) (mem_pares.mpr hne)
      · intro hall
        exact ⟨rfl, fun p hp => hall p.1 _ p.2 _ (mem_pares.mp hp) (hvetor p.1) (hvetor p.2)⟩
    refine ⟨hcomparable, fun hall => ?_⟩
    -- below: an alternative that weighs less
    let below (j k : PredictiveAlternativeKind) : Prop := Pesa (vetor k) (vetor j)
    have htrans : ∀ i j k, below i j → below j k → below i k := fun i j k hij hjk => hjk.trans hij
    have hirrefl : ∀ k, ¬below k k := fun k => not_pesa_self (vetor k)
    have hnonDominated : ∀ k, k ∈ PredictiveAlternativeKind.all.filter (fun k =>
        k ∉ comparado.dominadas) ↔ ∀ j, ¬below j k := by
      intro k
      simp only [List.mem_filter, PredictiveAlternativeKind.mem_all, true_and, decide_eq_true_eq,
        hdominated, List.not_mem_nil, false_or]
      constructor
      · intro hnone j hjk
        have hne : k ≠ j := fun heq => hirrefl k (heq ▸ hjk)
        exact hnone ⟨(k, j), mem_pares.mpr hne, rfl,
          hall k _ j _ hne (hvetor k) (hvetor j), hjk⟩
      · rintro hnone ⟨⟨k', j⟩, -, rfl, -, hpesa⟩
        exact hnone j hpesa
    have hfinite := kinds_finite
    refine ⟨?_, fun k => ?_⟩
    · have : Nonempty PredictiveAlternativeKind := ⟨.a0Inaction⟩
      obtain ⟨k, hk⟩ := exists_minimal htrans hirrefl
      exact List.ne_nil_of_mem ((hnonDominated k).mpr hk)
    · have hnodup : (PredictiveAlternativeKind.all.filter fun k => k ∉ comparado.dominadas).Nodup :=
        List.Nodup.filter _ (by decide)
      have hsingle : PredictiveAlternativeKind.all.filter (fun k => k ∉ comparado.dominadas) = [k] ↔
          ∀ a, (∀ j, ¬below j a) ↔ a = k := by
        rw [← List.perm_singleton, List.perm_ext_iff_of_nodup hnodup (List.nodup_singleton k)]
        simp only [hnonDominated, List.mem_singleton]
      refine hsingle.trans ((only_minimal htrans hirrefl k).trans ?_)
      constructor
      · intro hbelow a va vk hne ha hk
        rw [honly a va ha, honly k vk hk]
        exact hbelow a hne
      · exact fun hless a hne => hless a _ _ hne (hvetor a) (hvetor k)

/-- When an alternative is chosen. -/
theorem escolherAlternativa_eq_some {c : PredictiveCounterfactualSet}
    {b : PredictiveBurdenComparison} {k : PredictiveAlternativeKind} :
    (escolherAlternativa c b).1 = some k ↔ c.completeAnswerAllowed = true ∧
      c.proceduralEndorsementAllowed = true ∧ b.incomparable = [] ∧ b.nonDominated = [k] ∧
        (k = .a1ReversibleEscalation → (c.of k).any (·.reversible) = true) := by
  unfold escolherAlternativa
  cases hcomplete : c.completeAnswerAllowed with
  | false => simp
  | true =>
    cases hguided : c.proceduralEndorsementAllowed with
    | false => simp
    | true =>
      simp only [Bool.not_true, Bool.false_eq_true, if_false, true_and]
      split
      case h_1 hsome => simp [hsome]
      case h_2 hnil hempty => simp [hempty]
      case h_3 hnil hmany => simp [hmany]
      case h_4 hnil hone => grind
      case h_5 hnil hone => grind
      case h_6 hnil hone => grind

theorem counterfactualSet_eq_ok {alternatives : List PredictiveAlternative}
    {assertiveness : PredictiveAssertiveness} {protection : PredictiveProtectionSet}
    {quality : PredictiveRecommendationQualityResult} {asymmetryJustification : Option Texto}
    {c : PredictiveCounterfactualSet} (h : predictiveCounterfactualSet alternatives assertiveness
      protection quality asymmetryJustification = .ok c) :
    c.completeAnswerAllowed = protection.completeAnswerAllowed ∧
      (c.proceduralEndorsementAllowed = true ↔ quality.guidanceOutcome = .valid) := by
  unfold predictiveCounterfactualSet at h
  split at h
  case h_1 => cases h
  case h_2 =>
    obtain rfl := Except.ok.inj h
    exact ⟨rfl, decide_eq_true_iff⟩

/-- What a recommendation rests on. -/
structure Recomendavel (protection : PredictiveProtectionSet)
    (quality : PredictiveRecommendationQualityResult) (entries : EntradasDeOnus)
    (c : PredictiveCounterfactualSet) (r : PredictiveFinalRoutingResult)
    (k : PredictiveAlternativeKind) : Prop where
  route : r.route ≠ none
  protection : protection.completeAnswerAllowed = true
  guidance : quality.guidanceOutcome = .valid
  comparable : TodosComparaveis entries
  lightest : MenosOnerosa entries k
  reversible : k = .a1ReversibleEscalation → (c.of k).any (·.reversible) = true

theorem entregar_recommended {limites : List String} {alternativa : Option PredictiveAlternativeKind}
    {assertiveness : PredictiveAssertiveness} {quality : PredictiveRecommendationQualityResult}
    {conflict : PredictiveConflictAssessment} {rota : Option PredictiveRoute} {motivo : String}
    {k : PredictiveAlternativeKind} :
    (entregar limites alternativa assertiveness quality conflict rota motivo).recommendedAlternative =
        some k ↔
      (entregar limites alternativa assertiveness quality conflict rota motivo).route ≠ none ∧
        alternativa = some k := by
  cases rota <;> simp [entregar]

/-- The alternative that was chosen, when there is a route. -/
theorem recommended_of_routing (evaluation : PredictiveClaimEvaluationResult)
    (reconfiguration : Option Desfecho) (assertiveness : PredictiveAssertiveness)
    (quality : PredictiveRecommendationQualityResult) (c : PredictiveCounterfactualSet)
    (b : PredictiveBurdenComparison) (conflictAssessment : PredictiveConflictAssessment)
    (k : PredictiveAlternativeKind) :
    (predictiveFinalRouting evaluation reconfiguration assertiveness quality c b
        conflictAssessment).recommendedAlternative = some k ↔
      (predictiveFinalRouting evaluation reconfiguration assertiveness quality c b
        conflictAssessment).route ≠ none ∧ (escolherAlternativa c b).1 = some k := by
  have hdelivered : ∃ rota motivo, predictiveFinalRouting evaluation reconfiguration assertiveness
      quality c b conflictAssessment =
        entregar (limitesDe evaluation quality b conflictAssessment ++ (escolherAlternativa c b).2)
          (escolherAlternativa c b).1 assertiveness quality conflictAssessment rota motivo := by
    unfold predictiveFinalRouting
    simp only
    split_ifs <;> exact ⟨_, _, rfl⟩
  obtain ⟨rota, motivo, heq⟩ := hdelivered
  rw [heq]
  exact entregar_recommended

/-- An alternative is recommended exactly when a route is delivered, the answer is complete and
guided, the burdens can be compared and those of the others weigh more. When the burdens can be
compared, something is not dominated. -/
theorem recommended_alternative {alternatives : List PredictiveAlternative}
    {assertiveness assertiveness' : PredictiveAssertiveness} {protection : PredictiveProtectionSet}
    {quality quality' : PredictiveRecommendationQualityResult}
    {asymmetryJustification : Option Texto} {c c' : PredictiveCounterfactualSet}
    {b : PredictiveBurdenComparison}
    (hc : predictiveCounterfactualSet alternatives assertiveness protection quality
      asymmetryJustification = .ok c)
    (hb : predictiveBurdenComparison c' entries = .ok b)
    (evaluation : PredictiveClaimEvaluationResult) (reconfiguration : Option Desfecho)
    (conflictAssessment : PredictiveConflictAssessment) :
    (∀ k, (predictiveFinalRouting evaluation reconfiguration assertiveness' quality' c b
        conflictAssessment).recommendedAlternative = some k ↔
      Recomendavel protection quality entries c (predictiveFinalRouting evaluation reconfiguration
        assertiveness' quality' c b conflictAssessment) k) ∧
    (TodosComparaveis entries → b.nonDominated ≠ []) := by
  obtain ⟨hcomplete, hguided⟩ := counterfactualSet_eq_ok hc
  obtain ⟨hcomparable, hspec⟩ := burdenComparison_spec hb
  refine ⟨fun k => ?_, fun hall => (hspec hall).1⟩
  rw [recommended_of_routing, escolherAlternativa_eq_some, hcomplete, hguided, hcomparable]
  constructor
  · rintro ⟨hroute, hprotection, hguidance, hall, honly, hreversible⟩
    exact ⟨hroute, hprotection, hguidance, hall, ((hspec hall).2 k).mp honly, hreversible⟩
  · intro h
    exact ⟨h.route, h.protection, h.guidance, h.comparable,
      ((hspec h.comparable).2 k).mpr h.lightest, h.reversible⟩

/-! ### Full action, the lightest of three -/

def chaveDeCarga : PredictiveComparabilityKey where
  target := Texto.of "grid.load"
  population := Texto.of "households"
  jurisdiction := Texto.of "br"
  horizon := 3600
  regime := Texto.of "summer"
  unit := Texto.of "brl"

def alternativaDe (kind : PredictiveAlternativeKind) : PredictiveAlternative where
  kind
  key := chaveDeCarga
  costKnowledge := .unknown
  costValue := none
  reversible := true
  description := []
  custo := fun _ => rfl
  escalonada := fun _ => rfl

theorem dimensao_preenchida :
    Texto.of "brl" ≠ [] ∧ Texto.of "census" ≠ [] ∧ Texto.of "all" ≠ [] := by decide

def dimensaoDe (q : ℚ) (kind : PredictiveBurdenDimensionKind) : PredictiveBurdenDimension where
  kind
  magnitude := .finite q
  unit := Texto.of "brl"
  source := Texto.of "census"
  sourceVersion := 1
  observedAt := []
  uncertainty := (.finite 0, .finite 0)
  incidence := Texto.of "all"
  vulnerableIncidence := false
  preenchida := dimensao_preenchida

theorem dimensoes_exatas (q : ℚ) :
    (∀ k ∈ PredictiveBurdenDimensionKind.all,
        k ∈ (PredictiveBurdenDimensionKind.all.map (dimensaoDe q)).map (·.kind)) ∧
      ((PredictiveBurdenDimensionKind.all.map (dimensaoDe q)).map (·.kind)).Nodup := by
  have hkinds : (PredictiveBurdenDimensionKind.all.map (dimensaoDe q)).map (·.kind) =
      PredictiveBurdenDimensionKind.all := by
    rw [List.map_map]
    exact List.map_id _
  rw [hkinds]
  exact ⟨fun k hk => hk, by decide⟩

/-- The same magnitude in all the dimensions. -/
def vetorUniforme (q : ℚ) : PredictiveTotalBurdenVector where
  dimensions := PredictiveBurdenDimensionKind.all.map (dimensaoDe q)
  probabilityValidation := .validated
  exatas := dimensoes_exatas q

def onusExemplo : EntradasDeOnus :=
  [(.a0Inaction, vetorUniforme 2), (.a1ReversibleEscalation, vetorUniforme 1),
    (.a2FullAction, vetorUniforme 0)]

def protecaoResolvida : PredictiveProtectionSet where
  accepted := []
  rejected := []
  unresolved := []
  assertiveness := assertividadeExemplo
  evaluation := avaliacaoExemplo
  conflictAssessment := semConflito
  coverageUnresolvedReason := none

def qualidadeValida : PredictiveRecommendationQualityResult where
  protection := protecaoResolvida
  guidance := none
  guidanceOutcome := .valid
  disposition := .useProceduralDetail
  completeAnswerAllowed := true
  proceduralDetailAllowed := true
  reason := ""

theorem contrafactualExemplo_completo :
    contrafactualIncompleto (PredictiveAlternativeKind.all.map alternativaDe) none = none := by
  decide +kernel

def contrafactualExemplo : PredictiveCounterfactualSet where
  alternatives := PredictiveAlternativeKind.all.map alternativaDe
  asymmetryJustification := none
  assertiveness := assertividadeExemplo
  protection := protecaoResolvida
  quality := qualidadeValida
  proceduralEndorsementAllowed := true
  completeAnswerAllowed := true
  reason := "A0, A1 e A2 comparadas com orientação vigente e proteção resolvida"
  completo := contrafactualExemplo_completo

theorem onusExemplo_completo : umaPorAlternativa onusExemplo := by decide +kernel

def comparacaoExemplo : PredictiveBurdenComparison where
  counterfactual := contrafactualExemplo
  entries := onusExemplo
  dominated := [.a0Inaction, .a1ReversibleEscalation]
  tradeOffPairs := []
  incomparable := []
  completa := onusExemplo_completo

theorem contrafactualExemplo_criado : predictiveCounterfactualSet
    (PredictiveAlternativeKind.all.map alternativaDe) assertividadeExemplo protecaoResolvida
    qualidadeValida none = .ok contrafactualExemplo := by
  unfold predictiveCounterfactualSet
  split
  case h_1 texto hsome =>
    rw [contrafactualExemplo_completo] at hsome
    cases hsome
  case h_2 => rfl

/-- What the two loops of the comparison find. -/
theorem onusExemplo_comparado : pares.foldlM (compararPar onusExemplo) ⟨[], [], []⟩ =
    .ok ⟨[.a0Inaction, .a1ReversibleEscalation], [], []⟩ := by
  have hfound : (pares.foldlM (compararPar onusExemplo) ⟨[], [], []⟩).toOption.map
      (fun c => (c.dominadas, c.cruzamentos, c.incomparaveis)) =
        some ([.a0Inaction, .a1ReversibleEscalation], [], []) := by decide +kernel
  cases hfold : pares.foldlM (compararPar onusExemplo) ⟨[], [], []⟩ with
  | error e =>
    rw [hfold] at hfound
    cases hfound
  | ok c =>
    obtain ⟨dominadas, cruzamentos, incomparaveis⟩ := c
    rw [hfold] at hfound
    simpa [Except.toOption] using hfound

theorem comparacaoExemplo_criada :
    predictiveBurdenComparison contrafactualExemplo onusExemplo = .ok comparacaoExemplo := by
  unfold predictiveBurdenComparison
  rw [onusExemplo_comparado, ok_bind, dif_pos onusExemplo_completo]
  rfl

theorem at_vetorUniforme (q : ℚ) (k : PredictiveBurdenDimensionKind) :
    (vetorUniforme q).at_ k = dimensaoDe q k := by
  cases k <;> rfl

theorem comparavel_uniforme (q r : ℚ) : Comparavel (vetorUniforme q) (vetorUniforme r) := by
  intro k
  simp only [at_vetorUniforme]
  exact ⟨rfl, rfl, rfl, rfl⟩

theorem pesa_uniforme {q r : ℚ} (h : r < q) : Pesa (vetorUniforme q) (vetorUniforme r) := by
  refine ⟨fun k => ?_, .financialResources, ?_⟩
  · rw [at_vetorUniforme, at_vetorUniforme]
    exact decide_eq_true h.le
  · rw [at_vetorUniforme, at_vetorUniforme]
    exact decide_eq_true h

theorem mem_onusExemplo {k : PredictiveAlternativeKind} {v : PredictiveTotalBurdenVector} :
    (k, v) ∈ onusExemplo ↔ k = .a0Inaction ∧ v = vetorUniforme 2 ∨
      k = .a1ReversibleEscalation ∧ v = vetorUniforme 1 ∨
        k = .a2FullAction ∧ v = vetorUniforme 0 := by
  simp [onusExemplo]

theorem recomendavel_exemplo : Recomendavel protecaoResolvida qualidadeValida onusExemplo
    contrafactualExemplo (predictiveFinalRouting avaliacaoExemplo none assertividadeExemplo
      qualidadeValida contrafactualExemplo comparacaoExemplo semConflito) .a2FullAction where
  route := by decide +kernel
  protection := rfl
  guidance := rfl
  comparable := by
    intro a va b vb hne ha hb
    rw [mem_onusExemplo] at ha hb
    obtain ⟨-, rfl⟩ | ⟨-, rfl⟩ | ⟨-, rfl⟩ := ha <;>
      obtain ⟨-, rfl⟩ | ⟨-, rfl⟩ | ⟨-, rfl⟩ := hb <;> exact comparavel_uniforme _ _
  lightest := by
    intro a va vk hne ha hk
    obtain rfl : vk = vetorUniforme 0 := by simpa [mem_onusExemplo] using hk
    obtain ⟨-, rfl⟩ | ⟨-, rfl⟩ | ⟨rfl, -⟩ := mem_onusExemplo.mp ha
    · exact pesa_uniforme (by norm_num)
    · exact pesa_uniforme (by norm_num)
    · exact absurd rfl hne
  reversible := fun h => by cases h

/-- Full action is recommended: its burden is zero, and the answer is complete and guided. -/
theorem full_action_recommended :
    (predictiveFinalRouting avaliacaoExemplo none assertividadeExemplo qualidadeValida
      contrafactualExemplo comparacaoExemplo semConflito).recommendedAlternative =
        some .a2FullAction := by
  have hspec : (predictiveFinalRouting avaliacaoExemplo none assertividadeExemplo qualidadeValida
      contrafactualExemplo comparacaoExemplo semConflito).recommendedAlternative =
        some .a2FullAction ↔ _ :=
    (recommended_alternative contrafactualExemplo_criado comparacaoExemplo_criada
      avaliacaoExemplo none semConflito).1 .a2FullAction
  exact hspec.mpr recomendavel_exemplo

end PiaOs.Predictive
