import PiaOs.Memory.Datetime
import PiaOs.Memory.Resolution
import PiaOs.Memory.Targets

/-!
# The evaluation of retention

A retention rule asks that an item be kept for a number of days after it was
created. `avaliar_retencao` answers for one candidate under the rules of one
policy; the latest due date of the applicable rules is the one that counts.
-/

namespace PiaOs.Memory

open Support

inductive RetentionScopeKind
  | allLocalPatrimony | memoryDomainSet
  deriving DecidableEq, Repr

/-- A rule, with what its constructor has checked. The anchor is always the creation
and the action always to assess and inform. -/
structure RetentionRule where
  ruleId : String
  scopeKind : RetentionScopeKind
  minimumAgeDays : Nat
  domainIds : Finset Uuid := ∅
  ruleId_opaque : opaqueText "rule_id" ruleId 256 = none
  age_positive : 1 ≤ minimumAgeDays
  scope_matches : scopeKind = .allLocalPatrimony ↔ domainIds = ∅

/-- A rule over the whole patrimony names no domain. -/
theorem scopeMatches_all :
    RetentionScopeKind.allLocalPatrimony = .allLocalPatrimony ↔ (∅ : Finset Uuid) = ∅ :=
  ⟨fun _ => rfl, fun _ => rfl⟩

inductive RetentionAssessmentDecision
  | policyNotEffective | outOfScope | preserveLegacyProtected | notYetDue | assessAndInform
  deriving DecidableEq, Repr

def RetentionAssessmentDecision.value : RetentionAssessmentDecision → String
  | .policyNotEffective => "policy_not_effective"
  | .outOfScope => "out_of_scope"
  | .preserveLegacyProtected => "preserve_legacy_protected"
  | .notYetDue => "not_yet_due"
  | .assessAndInform => "assess_and_inform"

/-- The item that the question is about. -/
structure RetentionCandidate where
  subjectCoid : Uuid
  domainId : Uuid
  createdAt : Datetime
  legacyProtectionState : LegacyProtectionState

/-- What an assessment is built from. -/
structure RetentionAssessmentFields where
  decision : RetentionAssessmentDecision
  subjectCoid : Uuid
  evaluatedAt : Datetime
  applicableRuleIds : List String := []
  dueRuleIds : List String := []
  effectiveDueAt : Option Datetime := none
  nextDueAt : Option Datetime := none

namespace RetentionAssessmentFields

/-- `_exigir_matriz_da_decisao`. -/
def matriz (f : RetentionAssessmentFields) : Option String :=
  if f.decision = .policyNotEffective ∨ f.decision = .outOfScope then firstOf
    [refuse (!(f.applicableRuleIds.isEmpty && f.dueRuleIds.isEmpty))
        (f.decision.value ++ " não cita regra — nenhuma alcançou o candidato"),
      refuse (f.effectiveDueAt.isSome || f.nextDueAt.isSome)
        (f.decision.value ++ " não carrega prazo — sem regra aplicável não " ++
          "existe vencimento a informar")]
  else firstOf
    [refuse f.applicableRuleIds.isEmpty
        (f.decision.value ++ " exige applicable_rule_ids — uma decisão de " ++
          "retenção sem fundamento citável é impossível de contestar"),
      refuse f.effectiveDueAt.isNone
        (f.decision.value ++ " exige effective_due_at — houve regra aplicável, " ++
          "logo existe prazo efetivo"),
      match f.decision with
      | .preserveLegacyProtected => refuse f.nextDueAt.isSome
          ("preserve_legacy_protected não carrega next_due_at — a " ++
            "proteção não expira com o prazo")
      | .notYetDue => firstOf
          [refuse (f.nextDueAt.map Datetime.instant ≠ f.effectiveDueAt.map Datetime.instant)
              ("not_yet_due exige next_due_at igual a effective_due_at — " ++
                "quem ainda não venceu precisa saber quando vence"),
            refuse (f.effectiveDueAt.any fun due => due.instant ≤ f.evaluatedAt.instant)
              ("not_yet_due exige effective_due_at posterior a evaluated_at — " ++
                "prazo no passado é vencimento, não espera")]
      | _ => firstOf
          [refuse f.nextDueAt.isSome
              "assess_and_inform não carrega next_due_at — já venceu",
            refuse (f.effectiveDueAt.any fun due => f.evaluatedAt.instant < due.instant)
              ("assess_and_inform exige effective_due_at não posterior a " ++
                "evaluated_at — prazo futuro é espera, não elegibilidade"),
            refuse (f.dueRuleIds ≠ f.applicableRuleIds)
              ("assess_and_inform exige due_rule_ids igual a applicable_rule_ids " ++
                "— o prazo efetivo é o MÁXIMO, logo vencê-lo implica que todas as " ++
                "aplicáveis venceram individualmente")]]

def identificadores (nome : String) (valor : List String) : Option String :=
  firstOf (valor.mapIdx fun indice item =>
    opaqueText (nome ++ "[" ++ toString indice ++ "]") item 256)

def repetidos (nome : String) (valor : List String) : Option String :=
  refuse (¬valor.Nodup)
    (nome ++ " contém identificador duplicado — citar a mesma regra " ++
      "duas vezes não a torna mais fundamentada")

/-- The checks of `__post_init__`, in order. -/
def violation (f : RetentionAssessmentFields) : Option String :=
  firstOf
    [identificadores "applicable_rule_ids" f.applicableRuleIds,
      repetidos "applicable_rule_ids" f.applicableRuleIds,
      identificadores "due_rule_ids" f.dueRuleIds,
      repetidos "due_rule_ids" f.dueRuleIds,
      refuse (¬f.dueRuleIds ⊆ f.applicableRuleIds)
        ("due_rule_ids contém regra que não é aplicável — uma regra não " ++
          "pode vencer sem alcançar o candidato"),
      f.matriz]

end RetentionAssessmentFields

/-- The answer, with the matrix of its decision. -/
structure RetentionAssessment extends RetentionAssessmentFields where
  accepted : toRetentionAssessmentFields.violation = none

def RetentionAssessment.make (f : RetentionAssessmentFields) : Except String RetentionAssessment :=
  checked _ fun h => ⟨f, h⟩

/-- `_due_at`: when the rule falls due for the candidate. -/
def dueAt (candidato : RetentionCandidate) (regra : RetentionRule) : Except String Datetime :=
  candidato.createdAt.plusDays regra.minimumAgeDays

/-- The entry of the rule in the table of due dates. -/
def vencimento (candidato : RetentionCandidate) (regra : RetentionRule) :
    Except String (String × Datetime) :=
  (dueAt candidato regra).map fun due => (regra.ruleId, due)

/-- `_alcanca`. -/
def alcanca (candidato : RetentionCandidate) (regra : RetentionRule) : Bool :=
  regra.scopeKind = .allLocalPatrimony || candidato.domainId ∈ regra.domainIds

/-- What a candidate's applicable rules conclude, once each has its due date. -/
def concluirRetencao (candidate : RetentionCandidate) (evaluatedAt : Datetime)
    (vencimentos : List (String × Datetime)) : RetentionAssessmentFields :=
  let efetivo := Datetime.latest (vencimentos.map Prod.snd)
  let vencidas := (vencimentos.filter fun v => v.2.instant ≤ evaluatedAt.instant).map Prod.fst
  let resultado (decision : RetentionAssessmentDecision) (proximo : Option Datetime) :
      RetentionAssessmentFields :=
    { decision, subjectCoid := candidate.subjectCoid, evaluatedAt,
      applicableRuleIds := vencimentos.map Prod.fst, dueRuleIds := vencidas,
      effectiveDueAt := efetivo, nextDueAt := proximo }
  if candidate.legacyProtectionState = .isProtected then resultado .preserveLegacyProtected none
  else if efetivo.any fun due => evaluatedAt.instant < due.instant then
    resultado .notYetDue efetivo
  else resultado .assessAndInform none

/-- `avaliar_retencao`. -/
def avaliarRetencao (candidate : RetentionCandidate) (rules : List RetentionRule)
    (policyEffectiveFrom : Datetime) (policyEffectiveUntil : Option Datetime)
    (evaluatedAt : Datetime) : Except String RetentionAssessment :=
  let duplicados := duplicados (rules.map RetentionRule.ruleId)
  if policyEffectiveUntil.any fun fim => fim.instant ≤ policyEffectiveFrom.instant then
    .error ("policy_effective_until deve ser posterior a policy_effective_from — " ++
      "janela vazia ou invertida não é janela")
  else if duplicados ≠ [] then
    .error ("rule_id duplicado na mesma versão: " ++ ", ".intercalate duplicados ++
      " — duplicata torna o fundamento da avaliação ambíguo")
  else if evaluatedAt.instant < candidate.createdAt.instant then
    .error ("candidate.created_at posterior a evaluated_at — um item não é avaliado " ++
      "antes de existir")
  else if evaluatedAt.instant < policyEffectiveFrom.instant ∨
      policyEffectiveUntil.any fun fim => fim.instant ≤ evaluatedAt.instant then
    RetentionAssessment.make
      { decision := .policyNotEffective, subjectCoid := candidate.subjectCoid, evaluatedAt }
  else
    let aplicaveis := rules.filter (alcanca candidate)
    if aplicaveis = [] then
      RetentionAssessment.make
        { decision := .outOfScope, subjectCoid := candidate.subjectCoid, evaluatedAt }
    else do
      let vencimentos ← aplicaveis.mapM (vencimento candidate)
      RetentionAssessment.make (concluirRetencao candidate evaluatedAt vencimentos)

/-- An identifier that the rules may have. -/
def Opaco (item : String) : Prop :=
  blank item = false ∧ (∀ c ∈ item.toList, hiddenCategory c = none) ∧ item.length ≤ 256

theorem RetentionRule.opaco (regra : RetentionRule) : Opaco regra.ruleId :=
  opaqueText_eq_none.mp regra.ruleId_opaque

namespace RetentionAssessmentFields

theorem identificadores_eq_none {nome : String} {valor : List String} :
    identificadores nome valor = none ↔ ∀ item ∈ valor, Opaco item := by
  rw [identificadores, firstOf_eq_none]
  constructor
  · intro h item hitem
    obtain ⟨indice, hindice, rfl⟩ := List.getElem_of_mem hitem
    exact opaqueText_eq_none.mp (h _ (List.mem_mapIdx.mpr ⟨indice, hindice, rfl⟩))
  · intro h check hcheck
    obtain ⟨indice, hindice, rfl⟩ := List.mem_mapIdx.mp hcheck
    exact opaqueText_eq_none.mpr (h _ (List.getElem_mem hindice))

theorem repetidos_eq_none {nome : String} {valor : List String} :
    repetidos nome valor = none ↔ valor.Nodup := by
  simp [repetidos]

end RetentionAssessmentFields

section Assessment

variable {candidate : RetentionCandidate} {evaluatedAt : Datetime}
  {vencimentos : List (String × Datetime)}

/-- An assessment that cites no rule. -/
theorem RetentionAssessment.make_bare {decision : RetentionAssessmentDecision}
    (h : decision = .policyNotEffective ∨ decision = .outOfScope) :
    ∃ a, RetentionAssessment.make { decision, subjectCoid := candidate.subjectCoid, evaluatedAt } =
      .ok a ∧ a.decision = decision ∧ a.applicableRuleIds = [] := by
  have hviolation : RetentionAssessmentFields.violation
      { decision, subjectCoid := candidate.subjectCoid, evaluatedAt } = none := by
    simp [RetentionAssessmentFields.violation, RetentionAssessmentFields.identificadores,
      RetentionAssessmentFields.repetidos, RetentionAssessmentFields.matriz, h]
  exact ⟨_, checked_eq_ok hviolation, rfl, rfl⟩

/-- Once the latest date is past, every date is. -/
theorem vencidas_of_efetivo {due : Datetime}
    (hdue : Datetime.latest (vencimentos.map Prod.snd) = some due)
    (hpast : due.instant ≤ evaluatedAt.instant) :
    (vencimentos.filter fun v => v.2.instant ≤ evaluatedAt.instant) = vencimentos := by
  refine List.filter_eq_self.mpr fun v hv => decide_eq_true ?_
  have hmax : v.2.instant ≤ due.instant := Datetime.le_latest hdue (List.mem_map_of_mem hv)
  exact hmax.trans hpast

/-- The conclusion from due dates is accepted and cites exactly their rules. -/
theorem concluirRetencao_accepted (hne : vencimentos ≠ [])
    (hnodup : (vencimentos.map Prod.fst).Nodup) (hopaco : ∀ v ∈ vencimentos, Opaco v.1) :
    (concluirRetencao candidate evaluatedAt vencimentos).violation = none := by
  obtain ⟨due, hdue⟩ : ∃ due, Datetime.latest (vencimentos.map Prod.snd) = some due := by
    rw [← Option.ne_none_iff_exists', ne_eq, Datetime.latest_eq_none, List.map_eq_nil_iff]
    exact hne
  have hids : (vencimentos.map Prod.fst).isEmpty = false := by
    simpa [List.isEmpty_iff] using hne
  have hsub : ((vencimentos.filter fun v => v.2.instant ≤ evaluatedAt.instant).map Prod.fst).Sublist
      (vencimentos.map Prod.fst) := List.filter_sublist.map _
  have hall : ∀ id ∈ vencimentos.map Prod.fst, Opaco id := by
    intro id hid
    obtain ⟨v, hv, rfl⟩ := List.mem_map.mp hid
    exact hopaco v hv
  have hdecision : ∀ f : RetentionAssessmentFields,
      f.applicableRuleIds = vencimentos.map Prod.fst →
      f.dueRuleIds = (vencimentos.filter fun v => v.2.instant ≤ evaluatedAt.instant).map Prod.fst →
      f.matriz = none → f.violation = none := by
    intro f hf hf' hmatriz
    rw [RetentionAssessmentFields.violation, firstOf_eq_none]
    simp only [List.forall_mem_cons, hf, hf', hmatriz, refuse_eq_none,
      RetentionAssessmentFields.repetidos_eq_none]
    exact ⟨RetentionAssessmentFields.identificadores_eq_none.mpr hall, hnodup,
      RetentionAssessmentFields.identificadores_eq_none.mpr
        fun id hid => hall id (hsub.subset hid),
      hnodup.sublist hsub, by simpa using hsub.subset, by simp⟩
  unfold concluirRetencao
  simp only [hdue, Option.any_some]
  split
  case isTrue =>
    refine hdecision _ rfl rfl ?_
    simp [RetentionAssessmentFields.matriz, hids]
  case isFalse =>
    split
    case isTrue hfuture =>
      refine hdecision _ rfl rfl ?_
      have hlate := of_decide_eq_true hfuture
      simp [RetentionAssessmentFields.matriz, hids, hlate]
    case isFalse hpast =>
      refine hdecision _ rfl rfl ?_
      have hreached : due.instant ≤ evaluatedAt.instant := by
        simpa using hpast
      have hsame := vencidas_of_efetivo hdue hreached
      simp [RetentionAssessmentFields.matriz, hids, hsame, hreached]

/-- Rules that all have a due date make one table entry each. -/
theorem vencimentos_eq_ok {aplicaveis : List RetentionRule}
    (h : ∀ regra ∈ aplicaveis, ∃ due, dueAt candidate regra = .ok due) :
    ∃ vencimentos, aplicaveis.mapM (vencimento candidate) = .ok vencimentos ∧
      vencimentos.map Prod.fst = aplicaveis.map RetentionRule.ruleId := by
  induction aplicaveis with
  | nil => exact ⟨[], rfl, rfl⟩
  | cons regra rest ih =>
    obtain ⟨due, hdue⟩ := h regra List.mem_cons_self
    obtain ⟨vencimentos, hrest, hids⟩ := ih fun outra houtra => h outra (List.mem_cons_of_mem _ houtra)
    have hfirst : vencimento candidate regra = .ok (regra.ruleId, due) := by
      rw [vencimento, hdue]
      rfl
    refine ⟨(regra.ruleId, due) :: vencimentos, ?_, ?_⟩
    · rw [List.mapM_cons, hfirst, ok_bind, hrest]
      rfl
    · rw [List.map_cons, List.map_cons, hids]

/-- What the evaluation of retention may ask of its caller: a window, and rules that
differ in their identifiers. -/
structure Janela (rules : List RetentionRule) (start : Datetime) (fim : Option Datetime) :
    Prop where
  ordered : ∀ t ∈ fim, start.instant < t.instant
  distinct : (rules.map RetentionRule.ruleId).Nodup

variable {rules : List RetentionRule} {start : Datetime} {fim : Option Datetime}

theorem Janela.not_inverted (h : Janela rules start fim) :
    (fim.any fun t => t.instant ≤ start.instant) = false := by
  cases fim with
  | none => rfl
  | some t => simpa using h.ordered t rfl

/-- A candidate that exists, under rules whose due dates can be represented, is assessed. -/
theorem avaliarRetencao_eq_ok (hjanela : Janela rules start fim)
    (hborn : candidate.createdAt.instant ≤ evaluatedAt.instant)
    (hdue : ∀ regra ∈ rules, alcanca candidate regra = true →
      ∃ due, dueAt candidate regra = .ok due) :
    ∃ a, avaliarRetencao candidate rules start fim evaluatedAt = .ok a := by
  have hwindow := hjanela.not_inverted
  unfold avaliarRetencao
  simp only [hwindow, Bool.false_eq_true, if_false, duplicados_eq_nil.mpr hjanela.distinct,
    ne_eq, not_true_eq_false, not_lt.mpr hborn]
  split
  case isTrue =>
    obtain ⟨a, ha, -⟩ := @RetentionAssessment.make_bare candidate evaluatedAt
      .policyNotEffective (.inl rfl)
    exact ⟨a, ha⟩
  case isFalse =>
    split
    case isTrue =>
      obtain ⟨a, ha, -⟩ := @RetentionAssessment.make_bare candidate evaluatedAt
        .outOfScope (.inr rfl)
      exact ⟨a, ha⟩
    case isFalse hne =>
      obtain ⟨vencimentos, hall, hids⟩ :
          ∃ vencimentos, (rules.filter (alcanca candidate)).mapM (vencimento candidate) =
            .ok vencimentos ∧ vencimentos.map Prod.fst =
              (rules.filter (alcanca candidate)).map RetentionRule.ruleId :=
        vencimentos_eq_ok fun regra hregra =>
          hdue regra (List.mem_filter.mp hregra).1 (List.mem_filter.mp hregra).2
      have hsome : vencimentos ≠ [] := by
        rintro rfl
        exact hne (List.map_eq_nil_iff.mp hids.symm)
      have hnodup : (vencimentos.map Prod.fst).Nodup := by
        rw [hids]
        exact hjanela.distinct.sublist (List.filter_sublist.map _)
      have hopaco : ∀ v ∈ vencimentos, Opaco v.1 := by
        intro v hv
        have hmem : v.1 ∈ vencimentos.map Prod.fst := List.mem_map_of_mem hv
        rw [hids] at hmem
        obtain ⟨regra, -, heq⟩ := List.mem_map.mp hmem
        exact heq ▸ regra.opaco
      rw [hall, ok_bind]
      exact ⟨_, checked_eq_ok (concluirRetencao_accepted hsome hnodup hopaco)⟩

/-- A candidate that does not exist yet is refused. -/
theorem avaliarRetencao_unborn (hjanela : Janela rules start fim)
    (hunborn : evaluatedAt.instant < candidate.createdAt.instant) :
    avaliarRetencao candidate rules start fim evaluatedAt =
      .error ("candidate.created_at posterior a evaluated_at — um item não é avaliado " ++
        "antes de existir") := by
  have hwindow := hjanela.not_inverted
  unfold avaliarRetencao
  simp only [hwindow, Bool.false_eq_true, if_false, duplicados_eq_nil.mpr hjanela.distinct,
    ne_eq, not_true_eq_false, hunborn, if_true]

end Assessment

/-- The rules that an assessment cites are named once each, and no name is blank. -/
theorem RetentionAssessment.cites (a : RetentionAssessment) :
    (a.applicableRuleIds.Nodup ∧ ∀ id ∈ a.applicableRuleIds, blank id = false) ∧
      a.dueRuleIds.Nodup ∧ ∀ id ∈ a.dueRuleIds, blank id = false := by
  have haccepted := a.accepted
  rw [RetentionAssessmentFields.violation, firstOf_eq_none] at haccepted
  simp only [List.forall_mem_cons, RetentionAssessmentFields.identificadores_eq_none,
    RetentionAssessmentFields.repetidos_eq_none] at haccepted
  obtain ⟨hopaco, hnodup, hopaco', hnodup', -⟩ := haccepted
  exact ⟨⟨hnodup, fun id hid => (hopaco id hid).1⟩, hnodup', fun id hid => (hopaco' id hid).1⟩

/-- An assessment of a candidate that some rule reaches cites a rule. -/
theorem RetentionAssessment.grounded (a : RetentionAssessment)
    (hne : a.decision ≠ .policyNotEffective) (hne' : a.decision ≠ .outOfScope) :
    a.applicableRuleIds ≠ [] := by
  have haccepted := a.accepted
  rw [RetentionAssessmentFields.violation, firstOf_eq_none] at haccepted
  have hmatriz := haccepted a.matriz (by simp)
  rw [RetentionAssessmentFields.matriz, if_neg (by simp [hne, hne']), firstOf_eq_none] at hmatriz
  have hsome := hmatriz _ List.mem_cons_self
  rw [refuse_eq_none, List.isEmpty_eq_false_iff] at hsome
  exact hsome

end PiaOs.Memory
