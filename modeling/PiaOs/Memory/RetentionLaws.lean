import PiaOs.Memory.Retention

/-!
# The laws of a retention decision

A rule asks for a number of days after the creation. What `avaliar_retencao` answers follows from
the matching rules alone: inside the window of the policy, and unless the item is protected, it
is due from the latest date that they ask for.
-/

namespace PiaOs.Memory

open Support

/-! ## Due dates as instants -/

theorem Datetime.latest_mem {times : List Datetime} {u : Datetime} (h : latest times = some u) :
    u ∈ times := by
  induction times generalizing u with
  | nil => cases h
  | cons t times ih =>
    rw [latest] at h
    cases hrest : latest times with
    | none =>
      rw [hrest] at h
      rw [← Option.some.inj h]
      exact List.mem_cons_self
    | some v =>
      simp only [hrest] at h
      split at h
      case isTrue =>
        rw [← Option.some.inj h]
        exact List.mem_cons_of_mem _ (ih hrest)
      case isFalse =>
        rw [← Option.some.inj h]
        exact List.mem_cons_self

/-- The latest time is the maximum of the instants. -/
theorem Datetime.latest_instant (times : List Datetime) :
    (latest times).map instant = (times.map instant).max? := by
  cases h : latest times with
  | none =>
    rw [latest_eq_none.mp h]
    rfl
  | some u =>
    have hmax : (times.map instant).max? = some u.instant := by
      rw [List.max?_eq_some_iff]
      refine ⟨List.mem_map_of_mem (latest_mem h), ?_⟩
      rw [List.forall_mem_map]
      exact fun t ht => le_latest h ht
    rw [hmax, Option.map_some]

/-- Days are counted on the clock that shows the time. -/
theorem Datetime.plusDays_instant {t u : Datetime} {days : ℕ} (h : t.plusDays days = .ok u) :
    u.instant = t.instant + days * microsecondsPerDay := by
  unfold plusDays at h
  split at h
  case isTrue => cases h
  case isFalse =>
    unfold atWall at h
    split at h
    case isFalse => cases h
    case isTrue =>
      rw [← Except.ok.inj h]
      change t.wall + days * microsecondsPerDay - t.offset =
        t.wall - t.offset + days * microsecondsPerDay
      omega

/-- When a rule falls due for a candidate, as an instant. -/
def prazoDaRegra (candidato : RetentionCandidate) (regra : RetentionRule) : ℤ :=
  candidato.createdAt.instant + regra.minimumAgeDays * microsecondsPerDay

theorem vencimentos_instant {candidato : RetentionCandidate} {regras : List RetentionRule}
    {vencimentos : List (String × Datetime)}
    (h : regras.mapM (vencimento candidato) = .ok vencimentos) :
    vencimentos.map (fun v => (v.1, v.2.instant)) =
      regras.map fun regra => (regra.ruleId, prazoDaRegra candidato regra) := by
  induction regras generalizing vencimentos with
  | nil =>
    rw [List.mapM_nil] at h
    rw [← Except.ok.inj h]
    rfl
  | cons regra regras ih =>
    rw [List.mapM_cons] at h
    obtain ⟨v, hv, h⟩ := bind_eq_ok.mp h
    obtain ⟨vs, hvs, h⟩ := bind_eq_ok.mp h
    obtain ⟨due, hdue, rfl⟩ : ∃ due, dueAt candidato regra = .ok due ∧ (regra.ruleId, due) = v := by
      unfold vencimento at hv
      cases hcase : dueAt candidato regra with
      | error e =>
        rw [hcase] at hv
        cases hv
      | ok due =>
        rw [hcase] at hv
        exact ⟨due, rfl, Except.ok.inj hv⟩
    rw [← Except.ok.inj h, List.map_cons, List.map_cons, ih hvs]
    have hinstant : due.instant = prazoDaRegra candidato regra := Datetime.plusDays_instant hdue
    rw [hinstant]

/-! ## Questions -/

/-- A question that the evaluation takes: a window, rules that differ in their identifiers, an
item that exists, and due dates inside the calendar. -/
structure Pergunta where
  candidate : RetentionCandidate
  rules : List RetentionRule
  effectiveFrom : Datetime
  effectiveUntil : Option Datetime
  evaluatedAt : Datetime
  janela : Janela rules effectiveFrom effectiveUntil
  nascido : candidate.createdAt.instant ≤ evaluatedAt.instant
  datas : ∀ regra ∈ rules, alcanca candidate regra = true → ∃ due, dueAt candidate regra = .ok due

namespace Pergunta

def avaliar (p : Pergunta) : Except String RetentionAssessment :=
  avaliarRetencao p.candidate p.rules p.effectiveFrom p.effectiveUntil p.evaluatedAt

/-- The matching rules. -/
def aplicaveis (p : Pergunta) : List RetentionRule := p.rules.filter (alcanca p.candidate)

/-- The instant of the question is in the window of the policy. -/
def Vigente (p : Pergunta) : Prop :=
  p.effectiveFrom.instant ≤ p.evaluatedAt.instant ∧
    ∀ fim ∈ p.effectiveUntil, p.evaluatedAt.instant < fim.instant

/-- The latest instant that a matching rule asks for. -/
def prazo (p : Pergunta) : Option ℤ := (p.aplicaveis.map (prazoDaRegra p.candidate)).max?

theorem prazo_eq_some {p : Pergunta} {due : ℤ} : p.prazo = some due ↔
    due ∈ p.aplicaveis.map (prazoDaRegra p.candidate) ∧
      ∀ regra ∈ p.aplicaveis, prazoDaRegra p.candidate regra ≤ due := by
  rw [prazo, List.max?_eq_some_iff, List.forall_mem_map]

theorem prazo_isSome {p : Pergunta} : p.prazo.isSome = true ↔ p.aplicaveis ≠ [] := by
  rw [prazo]
  cases p.aplicaveis with
  | nil => simp
  | cons regra regras => simp [List.max?]

/-- The answer, from the matching rules and the instants alone. -/
structure Responde (p : Pergunta) (a : RetentionAssessment) : Prop where
  foraDaJanela : ¬p.Vigente → a.decision = .policyNotEffective ∧ a.applicableRuleIds = [] ∧
    a.dueRuleIds = [] ∧ a.effectiveDueAt = none ∧ a.nextDueAt = none
  semRegra : p.Vigente → p.prazo = none → a.decision = .outOfScope ∧ a.applicableRuleIds = [] ∧
    a.dueRuleIds = [] ∧ a.effectiveDueAt = none ∧ a.nextDueAt = none
  comRegra : p.Vigente → ∀ due, p.prazo = some due →
    a.decision = (if p.candidate.legacyProtectionState = .isProtected then .preserveLegacyProtected
      else if p.evaluatedAt.instant < due then .notYetDue else .assessAndInform) ∧
    a.applicableRuleIds = p.aplicaveis.map RetentionRule.ruleId ∧
    a.dueRuleIds = (p.aplicaveis.filter fun regra =>
      prazoDaRegra p.candidate regra ≤ p.evaluatedAt.instant).map RetentionRule.ruleId ∧
    a.effectiveDueAt.map Datetime.instant = some due ∧
    a.nextDueAt.map Datetime.instant = if a.decision = .notYetDue then some due else none

theorem vigente_iff {p : Pergunta} : p.Vigente ↔
    ¬(p.evaluatedAt.instant < p.effectiveFrom.instant ∨
      p.effectiveUntil.any (fun fim => fim.instant ≤ p.evaluatedAt.instant) = true) := by
  unfold Vigente
  rw [not_or, not_lt, Option.any_eq_true_iff_get]
  cases p.effectiveUntil <;> simp

/-- What the conclusion from due dates says, in instants. -/
theorem concluirRetencao_instant {p : Pergunta} {vencimentos : List (String × Datetime)} {due : ℤ}
    (hvencimentos : p.aplicaveis.mapM (vencimento p.candidate) = .ok vencimentos)
    (hprazo : p.prazo = some due) :
    let f := concluirRetencao p.candidate p.evaluatedAt vencimentos
    f.decision = (if p.candidate.legacyProtectionState = .isProtected then .preserveLegacyProtected
      else if p.evaluatedAt.instant < due then .notYetDue else .assessAndInform) ∧
    f.applicableRuleIds = p.aplicaveis.map RetentionRule.ruleId ∧
    f.dueRuleIds = (p.aplicaveis.filter fun regra =>
      prazoDaRegra p.candidate regra ≤ p.evaluatedAt.instant).map RetentionRule.ruleId ∧
    f.effectiveDueAt.map Datetime.instant = some due ∧
    f.nextDueAt.map Datetime.instant = if f.decision = .notYetDue then some due else none := by
  have hpairs := vencimentos_instant hvencimentos
  have hids : vencimentos.map Prod.fst = p.aplicaveis.map RetentionRule.ruleId := by
    have hfirst := congrArg (List.map Prod.fst) hpairs
    rw [List.map_map, List.map_map] at hfirst
    exact hfirst
  have hlatest : (Datetime.latest (vencimentos.map Prod.snd)).map Datetime.instant = some due := by
    have hsecond := congrArg (List.map Prod.snd) hpairs
    rw [List.map_map, List.map_map] at hsecond
    have hinstants : (vencimentos.map Prod.snd).map Datetime.instant =
        p.aplicaveis.map (prazoDaRegra p.candidate) := by
      rw [List.map_map]
      exact hsecond
    rw [Datetime.latest_instant, hinstants]
    exact hprazo
  have hdue : (vencimentos.filter fun v => v.2.instant ≤ p.evaluatedAt.instant).map Prod.fst =
      (p.aplicaveis.filter fun regra =>
        prazoDaRegra p.candidate regra ≤ p.evaluatedAt.instant).map RetentionRule.ruleId := by
    have hfiltered := congrArg (fun l : List (String × ℤ) =>
      (l.filter fun v => v.2 ≤ p.evaluatedAt.instant).map Prod.fst) hpairs
    simp only [List.filter_map, List.map_map, Function.comp_def] at hfiltered
    exact hfiltered
  obtain ⟨u, hu, hinstant⟩ := Option.map_eq_some_iff.mp hlatest
  intro f
  unfold f concluirRetencao
  simp only [hu, Option.any_some, hinstant, hids, hdue]
  by_cases hprotected : p.candidate.legacyProtectionState = .isProtected
  · simp [hprotected, hinstant]
  · by_cases hfuture : p.evaluatedAt.instant < due
    · simp [hprotected, hfuture, hinstant]
    · simp [hprotected, hfuture, hinstant]

/-- Every question is answered, and the answer follows from the matching rules. -/
theorem responde (p : Pergunta) : ∃ a, p.avaliar = .ok a ∧ p.Responde a := by
  have hwindow := p.janela.not_inverted
  obtain ⟨a, ha⟩ := avaliarRetencao_eq_ok p.janela p.nascido p.datas
  refine ⟨a, ha, ?_⟩
  unfold avaliarRetencao at ha
  simp only [hwindow, Bool.false_eq_true, if_false, duplicados_eq_nil.mpr p.janela.distinct,
    ne_eq, not_true_eq_false, not_lt.mpr p.nascido] at ha
  have hbare : ∀ {decision : RetentionAssessmentDecision},
      RetentionAssessment.make
          { decision := decision, subjectCoid := p.candidate.subjectCoid,
            evaluatedAt := p.evaluatedAt } = .ok a →
        a.decision = decision ∧ a.applicableRuleIds = [] ∧ a.dueRuleIds = [] ∧
          a.effectiveDueAt = none ∧ a.nextDueAt = none := by
    intro decision hmake
    obtain ⟨_, rfl⟩ := of_checked hmake
    exact ⟨rfl, rfl, rfl, rfl, rfl⟩
  split at ha
  case isTrue hout =>
    have houtside : ¬p.Vigente := fun hin => vigente_iff.mp hin hout
    exact ⟨fun _ => hbare ha, fun hin => absurd hin houtside, fun hin => absurd hin houtside⟩
  case isFalse hin =>
    have hinside : p.Vigente := vigente_iff.mpr hin
    split at ha
    case isTrue hnone =>
      have hprazo : p.prazo = none := by
        rw [prazo, aplicaveis, hnone]
        rfl
      refine ⟨fun hout => absurd hinside hout, fun _ _ => hbare ha, fun _ due hdue => ?_⟩
      rw [hprazo] at hdue
      cases hdue
    case isFalse hsome =>
      obtain ⟨vencimentos, hvencimentos, hmake⟩ := bind_eq_ok.mp ha
      obtain ⟨_, rfl⟩ := of_checked hmake
      refine ⟨fun hout => absurd hinside hout, fun _ hnone => ?_, fun _ due hdue => ?_⟩
      · have hisSome : p.prazo.isSome = true := prazo_isSome.mpr hsome
        rw [hnone] at hisSome
        cases hisSome
      · exact concluirRetencao_instant hvencimentos hdue

/-! ## The laws -/

/-- The same question about other rules. -/
structure OutrasRegras (p q : Pergunta) : Prop where
  candidate : q.candidate = p.candidate
  effectiveFrom : q.effectiveFrom = p.effectiveFrom
  effectiveUntil : q.effectiveUntil = p.effectiveUntil
  evaluatedAt : q.evaluatedAt = p.evaluatedAt

/-- The same question at another instant. -/
structure OutroInstante (p q : Pergunta) : Prop where
  candidate : q.candidate = p.candidate
  rules : q.rules = p.rules
  effectiveFrom : q.effectiveFrom = p.effectiveFrom
  effectiveUntil : q.effectiveUntil = p.effectiveUntil

theorem OutrasRegras.vigente {p q : Pergunta} (h : p.OutrasRegras q) : q.Vigente ↔ p.Vigente := by
  unfold Vigente
  rw [h.effectiveFrom, h.effectiveUntil, h.evaluatedAt]

theorem OutrasRegras.prazo {p q : Pergunta} (h : p.OutrasRegras q)
    (hperm : q.aplicaveis.Perm p.aplicaveis) : q.prazo = p.prazo := by
  have hsame : ∀ {p q : Pergunta} {due : ℤ}, q.candidate = p.candidate →
      q.aplicaveis.Perm p.aplicaveis → p.prazo = some due → q.prazo = some due := by
    intro p q due hcandidate hperm hdue
    rw [prazo_eq_some] at hdue ⊢
    rw [hcandidate]
    exact ⟨((hperm.map _).mem_iff).mpr hdue.1, fun regra hregra => hdue.2 regra
      (hperm.subset hregra)⟩
  cases hp : p.prazo with
  | some due => exact hsame h.candidate hperm hp
  | none =>
    cases hq : q.prazo with
    | none => rfl
    | some due =>
      rw [hsame h.candidate.symm hperm.symm hq] at hp
      cases hp

/-- The item is due: in force, not protected, and at the latest date or after it. -/
def Vencido (p : Pergunta) : Prop :=
  p.Vigente ∧ p.candidate.legacyProtectionState ≠ .isProtected ∧
    ∃ due, p.prazo = some due ∧ due ≤ p.evaluatedAt.instant

theorem Responde.vencido {p : Pergunta} {a : RetentionAssessment} (h : p.Responde a) :
    a.decision = .assessAndInform ↔ p.Vencido := by
  by_cases hin : p.Vigente
  case neg =>
    have hdecision := (h.foraDaJanela hin).1
    simp [Vencido, hin, hdecision]
  case pos =>
    cases hdue : p.prazo with
    | none =>
      have hdecision := (h.semRegra hin hdue).1
      simp [Vencido, hdue, hdecision]
    | some due =>
      obtain ⟨hdecision, -⟩ := h.comRegra hin due hdue
      rw [hdecision]
      by_cases hprotected : p.candidate.legacyProtectionState = .isProtected
      · simp [Vencido, hprotected]
      · by_cases hfuture : p.evaluatedAt.instant < due
        · simp [Vencido, hprotected, hfuture, hdue]
        · simp [Vencido, hin, hprotected, hdue, not_lt.mp hfuture]

/-- What two answers to questions with the same matching rules have in common. -/
structure MesmaResposta (a b : RetentionAssessment) : Prop where
  decision : b.decision = a.decision
  effectiveDueAt : b.effectiveDueAt.map Datetime.instant = a.effectiveDueAt.map Datetime.instant
  nextDueAt : b.nextDueAt.map Datetime.instant = a.nextDueAt.map Datetime.instant
  applicableRuleIds : b.applicableRuleIds.Perm a.applicableRuleIds
  dueRuleIds : b.dueRuleIds.Perm a.dueRuleIds

/-- Only the matching rules count, and not their order. -/
theorem Responde.mesma {p q : Pergunta} {a b : RetentionAssessment} (hp : p.Responde a)
    (hq : q.Responde b) (h : p.OutrasRegras q) (hperm : q.aplicaveis.Perm p.aplicaveis) :
    MesmaResposta a b := by
  have hprazo := h.prazo hperm
  have hbare : ∀ {a b : RetentionAssessment} {decision : RetentionAssessmentDecision},
      (a.decision = decision ∧ a.applicableRuleIds = [] ∧ a.dueRuleIds = [] ∧
        a.effectiveDueAt = none ∧ a.nextDueAt = none) →
      (b.decision = decision ∧ b.applicableRuleIds = [] ∧ b.dueRuleIds = [] ∧
        b.effectiveDueAt = none ∧ b.nextDueAt = none) → MesmaResposta a b := by
    rintro a b decision ⟨hd, hr, hv, he, hn⟩ ⟨hd', hr', hv', he', hn'⟩
    exact ⟨by rw [hd, hd'], by rw [he, he'], by rw [hn, hn'], by rw [hr, hr'], by rw [hv, hv']⟩
  by_cases hin : p.Vigente
  case neg => exact hbare (hp.foraDaJanela hin) (hq.foraDaJanela fun hin' => hin (h.vigente.mp hin'))
  case pos =>
    have hin' := h.vigente.mpr hin
    cases hdue : p.prazo with
    | none => exact hbare (hp.semRegra hin hdue) (hq.semRegra hin' (hprazo.trans hdue))
    | some due =>
      obtain ⟨hd, hr, hv, he, hn⟩ := hp.comRegra hin due hdue
      obtain ⟨hd', hr', hv', he', hn'⟩ := hq.comRegra hin' due (hprazo.trans hdue)
      have hdecision : b.decision = a.decision := by
        rw [hd, hd', h.candidate, h.evaluatedAt]
      refine ⟨hdecision, by rw [he, he'], by rw [hn, hn', hdecision], ?_, ?_⟩
      · rw [hr, hr']
        exact hperm.map _
      · rw [hv, hv', h.candidate, h.evaluatedAt]
        exact (hperm.filter _).map _

/-- Later questions in the window keep what is due. -/
theorem Vencido.depois {p q : Pergunta} (h : p.OutroInstante q)
    (hlater : p.evaluatedAt.instant ≤ q.evaluatedAt.instant) (hin : q.Vigente) (hp : p.Vencido) :
    q.Vencido := by
  obtain ⟨-, hfree, due, hdue, hpast⟩ := hp
  have hprazo : q.prazo = p.prazo := by
    unfold prazo aplicaveis
    rw [h.candidate, h.rules]
  exact ⟨hin, by rwa [h.candidate], due, hprazo.trans hdue, hpast.trans hlater⟩

/-- More rules ask for no earlier date. -/
theorem prazo_mono {p q : Pergunta} (h : p.OutrasRegras q) (hrules : p.rules ⊆ q.rules) {due : ℤ}
    (hdue : p.prazo = some due) : ∃ due', q.prazo = some due' ∧ due ≤ due' := by
  obtain ⟨hmem, -⟩ := prazo_eq_some.mp hdue
  obtain ⟨regra, hregra, rfl⟩ := List.mem_map.mp hmem
  have hmore : regra ∈ q.aplicaveis := by
    obtain ⟨hrule, hmatch⟩ := List.mem_filter.mp hregra
    exact List.mem_filter.mpr ⟨hrules hrule, h.candidate ▸ hmatch⟩
  obtain ⟨due', hdue'⟩ := Option.isSome_iff_exists.mp
    (prazo_isSome.mpr (List.ne_nil_of_mem hmore))
  refine ⟨due', hdue', ?_⟩
  rw [← h.candidate]
  exact (prazo_eq_some.mp hdue').2 regra hmore

/-- What the evaluation of retention promises of a question. -/
structure Leis (p : Pergunta) : Prop where
  responde : ∃ a, p.avaliar = .ok a
  matriz : ∀ a, p.avaliar = .ok a → a.violation = none
  regras : ∀ q a b, p.OutrasRegras q → q.aplicaveis.Perm p.aplicaveis → p.avaliar = .ok a →
    q.avaliar = .ok b → MesmaResposta a b
  vence : ∀ a, p.avaliar = .ok a → (a.decision = .assessAndInform ↔ p.Vencido)
  prazo : ∀ a, p.avaliar = .ok a → p.Vigente →
    a.effectiveDueAt.map Datetime.instant = p.prazo
  permanece : ∀ q a b, p.OutroInstante q → p.evaluatedAt.instant ≤ q.evaluatedAt.instant →
    q.Vigente → p.avaliar = .ok a → q.avaliar = .ok b →
      a.decision = .assessAndInform → b.decision = .assessAndInform
  acrescimo : ∀ q a b, p.OutrasRegras q → p.rules ⊆ q.rules → p.avaliar = .ok a →
    q.avaliar = .ok b → ∀ due ∈ a.effectiveDueAt, ∃ due' ∈ b.effectiveDueAt,
      due.instant ≤ due'.instant

/-- A retention decision follows from the matching rules, the window and the protection. -/
theorem retention_laws (p : Pergunta) : p.Leis := by
  have hanswer : ∀ {p : Pergunta} {a : RetentionAssessment}, p.avaliar = .ok a → p.Responde a := by
    intro p a ha
    obtain ⟨a', ha', hresponde⟩ := p.responde
    rw [ha] at ha'
    rwa [Except.ok.inj ha']
  have hprazo : ∀ {p : Pergunta} {a : RetentionAssessment}, p.avaliar = .ok a → p.Vigente →
      a.effectiveDueAt.map Datetime.instant = p.prazo := by
    intro p a ha hin
    cases hdue : p.prazo with
    | none =>
      rw [((hanswer ha).semRegra hin hdue).2.2.2.1]
      rfl
    | some due => exact ((hanswer ha).comRegra hin due hdue).2.2.2.1
  refine ⟨?_, fun a _ => a.accepted, ?_, ?_, fun a ha => hprazo ha, ?_, ?_⟩
  · obtain ⟨a, ha, -⟩ := p.responde
    exact ⟨a, ha⟩
  · exact fun q a b h hperm ha hb => (hanswer ha).mesma (hanswer hb) h hperm
  · exact fun a ha => (hanswer ha).vencido
  · intro q a b h hlater hin ha hb hdue
    exact (hanswer hb).vencido.mpr (((hanswer ha).vencido.mp hdue).depois h hlater hin)
  · intro q a b h hrules ha hb due hdue
    have hin : p.Vigente := by
      by_contra hout
      rw [((hanswer ha).foraDaJanela hout).2.2.2.1] at hdue
      cases hdue
    have hfirst := hprazo ha hin
    rw [Option.mem_def.mp hdue] at hfirst
    obtain ⟨due', hdue', hle⟩ := prazo_mono h hrules hfirst.symm
    have hsecond := hprazo hb (h.vigente.mpr hin)
    rw [hdue'] at hsecond
    obtain ⟨u, hu, hinstant⟩ := Option.map_eq_some_iff.mp hsecond
    exact ⟨u, hu, by rwa [hinstant]⟩

/-! ## A window that ends -/

/-- Keep everything for a day. -/
def umDia : RetentionRule where
  ruleId := "day"
  scopeKind := .allLocalPatrimony
  minimumAgeDays := 1
  ruleId_opaque := by decide +kernel
  age_positive := le_refl 1
  scope_matches := scopeMatches_all

/-- An item of the first instant of 1970, under a policy of ten days. -/
def dezDias (evaluatedAt : Datetime) (h : 0 ≤ evaluatedAt.instant) : Pergunta where
  candidate := ⟨⟨1⟩, ⟨2⟩, .epoch, .notProtected⟩
  rules := [umDia]
  effectiveFrom := .epoch
  effectiveUntil := some { wall := 864000000000, offset_bound := Datetime.epoch.offset_bound }
  evaluatedAt := evaluatedAt
  janela := ⟨by simp [Datetime.instant, Datetime.epoch], List.nodup_singleton _⟩
  nascido := h
  datas := by
    rintro regra hregra -
    obtain rfl := List.mem_singleton.mp hregra
    exact ⟨{ wall := 86400000000 }, rfl⟩

/-- Due on the second day, the item is not due after the tenth: the policy has ended. -/
theorem vencido_ate_o_fim : ∃ p q : Pergunta, p.OutroInstante q ∧
    p.evaluatedAt.instant ≤ q.evaluatedAt.instant ∧
    (∃ a, p.avaliar = .ok a ∧ a.decision = .assessAndInform) ∧
    ¬∃ b, q.avaliar = .ok b ∧ b.decision = .assessAndInform := by
  refine ⟨dezDias { wall := 172800000000 } (by decide), dezDias { wall := 1728000000000 } (by decide),
    ⟨rfl, rfl, rfl, rfl⟩, by decide, ?_, ?_⟩
  · obtain ⟨a, ha, hresponde⟩ := (dezDias { wall := 172800000000 } (by decide)).responde
    refine ⟨a, ha, hresponde.vencido.mpr ⟨⟨by decide, ?_⟩, by decide, 86400000000, rfl, by decide⟩⟩
    rintro fim ⟨⟩
    decide
  · rintro ⟨b, hb, hdecision⟩
    obtain ⟨b', hb', hresponde⟩ := (dezDias { wall := 1728000000000 } (by decide)).responde
    rw [hb] at hb'
    obtain rfl := Except.ok.inj hb'
    obtain ⟨⟨-, hwindow⟩, -⟩ := hresponde.vencido.mp hdecision
    exact absurd (hwindow _ rfl) (by decide)

end Pergunta

end PiaOs.Memory
