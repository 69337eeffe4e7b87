import PiaOs.Memory.Retention

/-!
# The evaluation of retention on any clock

`avaliar_retencao` on times that refer to any clock. What the evaluation on fixed offsets takes for
instants are here readings, compared and moved as Python does it.
-/

/-! ## Aware times on the clocks of regions

A `datetime` shows the reading of a clock and refers to the clock. A clock of a fixed offset keeps
it; the clock of a region may change it, and the reading that it then shows twice carries a `fold`.
Python adds days to the reading, compares two readings of one clock as they are, and compares
readings of two clocks as instants. -/

namespace PiaOs.Memory

/-- An offset that `datetime.timezone` takes. -/
abbrev Deslocamento : Type := { o : ℤ // -microsecondsPerDay < o ∧ o < microsecondsPerDay }

/-- A `tzinfo`: a fixed offset, or a region. The readings of a region refer to one object. -/
inductive Fuso (ι : Type)
  | fixo (o : Deslocamento)
  | regiao (i : ι)
  deriving DecidableEq

/-- `utcoffset()` of each region, by the reading and its fold. -/
abbrev Regioes (ι : Type) : Type := ι → ℤ → Bool → Deslocamento

/-- An aware `datetime`. -/
structure Hora (ι : Type) where
  wall : ℤ
  fuso : Fuso ι
  fold : Bool := false
  wall_inRange : datetimeMin ≤ wall ∧ wall ≤ datetimeMax

variable {ι : Type} (R : Regioes ι)

/-- The offset of a clock at a reading. -/
def Fuso.utcoffset (fuso : Fuso ι) (wall : ℤ) (fold : Bool) : ℤ :=
  match fuso with
  | .fixo o => o.val
  | .regiao i => (R i wall fold).val

namespace Hora

def instant (t : Hora ι) : ℤ := t.wall - t.fuso.utcoffset R t.wall t.fold

variable [DecidableEq ι]

/-- `a < b`. -/
def antes (a b : Hora ι) : Bool :=
  if a.fuso = b.fuso then a.wall < b.wall else a.instant R < b.instant R

/-- `t + timedelta(days=days)`. The sum has no fold. -/
def maisDias (t : Hora ι) (days : ℕ) : Except String (Hora ι) :=
  if 999999999 < days then
    .error ("days=" ++ toString days ++ "; must have magnitude <= 999999999")
  else if h : datetimeMin ≤ t.wall + days * microsecondsPerDay ∧
      t.wall + days * microsecondsPerDay ≤ datetimeMax then
    .ok { wall := t.wall + days * microsecondsPerDay, fuso := t.fuso, wall_inRange := h }
  else .error "date value out of range"

/-- `max`: the latest of the times, and of those as late as each other the first. -/
def latest : List (Hora ι) → Option (Hora ι)
  | [] => none
  | t :: times => match latest times with
    | none => some t
    | some u => if t.antes R u then some u else some t

/-- The same reading on a clock that keeps its offset. -/
def fixa (t : Hora ι) : Hora ι where
  wall := t.wall
  fuso := .fixo ⟨t.fuso.utcoffset R t.wall t.fold, by
    unfold Fuso.utcoffset
    cases t.fuso with
    | fixo o => exact o.property
    | regiao i => exact (R i t.wall t.fold).property⟩
  wall_inRange := t.wall_inRange

omit [DecidableEq ι] in
@[simp] theorem fixa_instant (t : Hora ι) : (t.fixa R).instant R = t.instant R := rfl

/-- Readings of clocks that keep their offsets are compared as instants. -/
theorem antes_fixo {a b : Hora ι} {o : Deslocamento} (ha : a.fuso = .fixo o) :
    a.antes R b = decide (a.instant R < b.instant R) := by
  unfold antes
  split
  case isFalse => rfl
  case isTrue hsame =>
    have hb : b.fuso = .fixo o := hsame ▸ ha
    have horder : a.wall < b.wall ↔ a.instant R < b.instant R := by
      unfold instant
      rw [ha, hb]
      simp only [Fuso.utcoffset]
      omega
    exact decide_eq_decide.mpr horder

/-- Readings of one clock are compared as they are. -/
theorem antes_same {a b : Hora ι} (h : a.fuso = b.fuso) : a.antes R b = decide (a.wall < b.wall) := by
  unfold antes
  rw [if_pos h]

theorem antes_irrefl (a : Hora ι) : a.antes R a = false := by
  rw [antes_same R rfl]
  simp

omit [DecidableEq ι] in
/-- Days are added when the sum stays inside the calendar. -/
theorem maisDias_eq_ok {t u : Hora ι} {days : ℕ} : t.maisDias days = .ok u ↔
    days ≤ 999999999 ∧ u.wall = t.wall + days * microsecondsPerDay ∧ u.fuso = t.fuso ∧
      u.fold = false := by
  unfold maisDias
  constructor
  · intro h
    split at h
    case isTrue => cases h
    case isFalse hdays =>
      split at h
      case isFalse => cases h
      case isTrue hrange =>
        rw [← Except.ok.inj h]
        exact ⟨not_lt.mp hdays, rfl, rfl, rfl⟩
  · rintro ⟨hdays, hwall, hfuso, hfold⟩
    obtain ⟨wall, fuso, fold, hrange⟩ := u
    simp only at hwall hfuso hfold
    subst hwall hfuso hfold
    rw [if_neg (not_lt.mpr hdays), dif_pos hrange]

theorem latest_eq_none {times : List (Hora ι)} : latest R times = none ↔ times = [] := by
  cases times with
  | nil => simp [latest]
  | cons t times =>
    unfold latest
    cases latest R times with
    | none => simp
    | some u => by_cases hlater : t.antes R u = true <;> simp [hlater]

theorem latest_mem {times : List (Hora ι)} {u : Hora ι} (h : latest R times = some u) :
    u ∈ times := by
  induction times generalizing u with
  | nil => cases h
  | cons t times ih =>
    rw [latest] at h
    cases hrest : latest R times with
    | none =>
      rw [hrest] at h
      rw [← Option.some.inj h]
      exact List.mem_cons_self
    | some v =>
      simp only [hrest] at h
      split at h
      case isTrue =>
        rw [← Option.some.inj h]
        exact List.mem_cons_of_mem _ (ih hrest)
      case isFalse =>
        rw [← Option.some.inj h]
        exact List.mem_cons_self

end Hora

end PiaOs.Memory

/-! ## The evaluation of retention on any clock -/

namespace PiaOs.Memory.Zoned

open Support

variable {ι : Type}

structure RetentionCandidate (ι : Type) where
  subjectCoid : Uuid
  domainId : Uuid
  createdAt : Hora ι
  legacyProtectionState : LegacyProtectionState

/-- What an assessment is built from. -/
structure RetentionAssessmentFields (ι : Type) where
  decision : RetentionAssessmentDecision
  subjectCoid : Uuid
  evaluatedAt : Hora ι
  applicableRuleIds : List String := []
  dueRuleIds : List String := []
  effectiveDueAt : Option (Hora ι) := none
  nextDueAt : Option (Hora ι) := none

variable (R : Regioes ι) [DecidableEq ι]

/-- `a == b`, of two due dates that are the same object or absent. -/
def iguais (a b : Option (Hora ι)) : Bool :=
  match a, b with
  | none, none => true
  | some a, some b => !a.antes R b && !b.antes R a
  | _, _ => false

namespace RetentionAssessmentFields

/-- `_exigir_matriz_da_decisao`. -/
def matriz (f : RetentionAssessmentFields ι) : Option String :=
  if f.decision = .policyNotEffective ∨ f.decision = .outOfScope then firstOf
    [refuse (!(f.applicableRuleIds.isEmpty && f.dueRuleIds.isEmpty))
        (f.decision.value ++ " não cita regra — nenhuma alcançou o candidato"),
      refuse (f.effectiveDueAt.isSome || f.nextDueAt.isSome)
        (f.decision.value ++ " não carrega prazo — sem regra aplicável não " ++
          "existe vencimento a informar")]
  else firstOf
    [refuse f.applicableRuleIds.isEmpty
        (f.decision.value ++ " exige applicable_rule_ids — uma decisão de " ++
          "retenção sem fundamento citável é impossível de contestar"),
      refuse f.effectiveDueAt.isNone
        (f.decision.value ++ " exige effective_due_at — houve regra aplicável, " ++
          "logo existe prazo efetivo"),
      match f.decision with
      | .preserveLegacyProtected => refuse f.nextDueAt.isSome
          ("preserve_legacy_protected não carrega next_due_at — a " ++
            "proteção não expira com o prazo")
      | .notYetDue => firstOf
          [refuse (!iguais R f.nextDueAt f.effectiveDueAt)
              ("not_yet_due exige next_due_at igual a effective_due_at — " ++
                "quem ainda não venceu precisa saber quando vence"),
            refuse (f.effectiveDueAt.any fun due => !f.evaluatedAt.antes R due)
              ("not_yet_due exige effective_due_at posterior a evaluated_at — " ++
                "prazo no passado é vencimento, não espera")]
      | _ => firstOf
          [refuse f.nextDueAt.isSome
              "assess_and_inform não carrega next_due_at — já venceu",
            refuse (f.effectiveDueAt.any fun due => f.evaluatedAt.antes R due)
              ("assess_and_inform exige effective_due_at não posterior a " ++
                "evaluated_at — prazo futuro é espera, não elegibilidade"),
            refuse (f.dueRuleIds ≠ f.applicableRuleIds)
              ("assess_and_inform exige due_rule_ids igual a applicable_rule_ids " ++
                "— o prazo efetivo é o MÁXIMO, logo vencê-lo implica que todas as " ++
                "aplicáveis venceram individualmente")]]

/-- The checks of `__post_init__`, in order. -/
def violation (f : RetentionAssessmentFields ι) : Option String :=
  firstOf
    [Memory.RetentionAssessmentFields.identificadores "applicable_rule_ids" f.applicableRuleIds,
      Memory.RetentionAssessmentFields.repetidos "applicable_rule_ids" f.applicableRuleIds,
      Memory.RetentionAssessmentFields.identificadores "due_rule_ids" f.dueRuleIds,
      Memory.RetentionAssessmentFields.repetidos "due_rule_ids" f.dueRuleIds,
      refuse (¬f.dueRuleIds ⊆ f.applicableRuleIds)
        ("due_rule_ids contém regra que não é aplicável — uma regra não " ++
          "pode vencer sem alcançar o candidato"),
      f.matriz R]

end RetentionAssessmentFields

/-- The answer, with the matrix of its decision. -/
structure RetentionAssessment extends RetentionAssessmentFields ι where
  accepted : toRetentionAssessmentFields.violation R = none

def RetentionAssessment.make (f : RetentionAssessmentFields ι) :
    Except String (RetentionAssessment R) :=
  checked _ fun h => ⟨f, h⟩

/-- `_alcanca`. -/
def alcanca (candidato : RetentionCandidate ι) (regra : RetentionRule) : Bool :=
  regra.scopeKind = .allLocalPatrimony || candidato.domainId ∈ regra.domainIds

/-- The entry of the rule in the table of due dates. -/
def vencimento (candidato : RetentionCandidate ι) (regra : RetentionRule) :
    Except String (String × Hora ι) :=
  (candidato.createdAt.maisDias regra.minimumAgeDays).map fun due => (regra.ruleId, due)

/-- What a candidate's applicable rules conclude, once each has its due date. -/
def concluirRetencao (candidate : RetentionCandidate ι) (evaluatedAt : Hora ι)
    (vencimentos : List (String × Hora ι)) : RetentionAssessmentFields ι :=
  let efetivo := Hora.latest R (vencimentos.map Prod.snd)
  let vencidas := (vencimentos.filter fun v => !evaluatedAt.antes R v.2).map Prod.fst
  let resultado (decision : RetentionAssessmentDecision) (proximo : Option (Hora ι)) :
      RetentionAssessmentFields ι :=
    { decision, subjectCoid := candidate.subjectCoid, evaluatedAt,
      applicableRuleIds := vencimentos.map Prod.fst, dueRuleIds := vencidas,
      effectiveDueAt := efetivo, nextDueAt := proximo }
  if candidate.legacyProtectionState = .isProtected then resultado .preserveLegacyProtected none
  else if efetivo.any fun due => evaluatedAt.antes R due then resultado .notYetDue efetivo
  else resultado .assessAndInform none

/-- `avaliar_retencao`. -/
def avaliarRetencao (candidate : RetentionCandidate ι) (rules : List RetentionRule)
    (policyEffectiveFrom : Hora ι) (policyEffectiveUntil : Option (Hora ι)) (evaluatedAt : Hora ι) :
    Except String (RetentionAssessment R) :=
  let duplicados := duplicados (rules.map RetentionRule.ruleId)
  if policyEffectiveUntil.any fun fim => !policyEffectiveFrom.antes R fim then
    .error ("policy_effective_until deve ser posterior a policy_effective_from — " ++
      "janela vazia ou invertida não é janela")
  else if duplicados ≠ [] then
    .error ("rule_id duplicado na mesma versão: " ++ ", ".intercalate duplicados ++
      " — duplicata torna o fundamento da avaliação ambíguo")
  else if evaluatedAt.antes R candidate.createdAt then
    .error ("candidate.created_at posterior a evaluated_at — um item não é avaliado " ++
      "antes de existir")
  else if evaluatedAt.antes R policyEffectiveFrom ∨
      policyEffectiveUntil.any fun fim => !evaluatedAt.antes R fim then
    RetentionAssessment.make R
      { decision := .policyNotEffective, subjectCoid := candidate.subjectCoid, evaluatedAt }
  else
    let aplicaveis := rules.filter (alcanca candidate)
    if aplicaveis = [] then
      RetentionAssessment.make R
        { decision := .outOfScope, subjectCoid := candidate.subjectCoid, evaluatedAt }
    else do
      let vencimentos ← aplicaveis.mapM (vencimento candidate)
      RetentionAssessment.make R (concluirRetencao R candidate evaluatedAt vencimentos)

end PiaOs.Memory.Zoned
