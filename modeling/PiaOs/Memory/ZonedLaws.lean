import PiaOs.Memory.ZonedRetention

/-!
# Retention on the clocks of regions

When `avaliar_retencao` answers, and when the answer is that of the instants alone, whatever clocks
show the creation and the evaluation.
-/

namespace PiaOs.Memory.Zoned

open Support

variable {ι : Type} [DecidableEq ι] {R : Regioes ι}

/-! ## Due dates -/

/-- The date `dias` after `c` on the clock of `c` is not after `e`. -/
def Vence (R : Regioes ι) (c e : Hora ι) (dias : ℕ) : Prop :=
  let wall := c.wall + dias * microsecondsPerDay
  if e.fuso = c.fuso then wall ≤ e.wall
  else wall - c.fuso.utcoffset R wall false ≤ e.instant R

instance (c e : Hora ι) (dias : ℕ) : Decidable (Vence R c e dias) := by
  unfold Vence
  infer_instance

theorem vence_iff {c e due : Hora ι} {dias : ℕ} (h : c.maisDias dias = .ok due) :
    e.antes R due = false ↔ Vence R c e dias := by
  obtain ⟨-, hwall, hfuso, hfold⟩ := Hora.maisDias_eq_ok.mp h
  unfold Hora.antes Vence
  rw [hfuso]
  split
  case isTrue => rw [hwall, decide_eq_false_iff_not, not_lt]
  case isFalse =>
    have hinstant : due.instant R = c.wall + dias * microsecondsPerDay -
        c.fuso.utcoffset R (c.wall + dias * microsecondsPerDay) false := by
      unfold Hora.instant
      rw [hwall, hfuso, hfold]
    rw [hinstant, decide_eq_false_iff_not, not_lt]

/-- The days of a rule can be added to the creation. -/
def Cabe (c : Hora ι) (regra : RetentionRule) : Prop :=
  regra.minimumAgeDays ≤ 999999999 ∧
    c.wall + regra.minimumAgeDays * microsecondsPerDay ≤ datetimeMax

omit [DecidableEq ι] in
theorem cabe_iff {c : Hora ι} {regra : RetentionRule} :
    Cabe c regra ↔ ∃ due, c.maisDias regra.minimumAgeDays = .ok due := by
  constructor
  · rintro ⟨hdays, hmax⟩
    have hmin : datetimeMin ≤ c.wall + regra.minimumAgeDays * microsecondsPerDay := by
      have hc := c.wall_inRange.1
      have hday : (0 : ℤ) ≤ regra.minimumAgeDays * microsecondsPerDay := by
        unfold microsecondsPerDay
        omega
      omega
    exact ⟨⟨_, c.fuso, false, hmin, hmax⟩, Hora.maisDias_eq_ok.mpr ⟨hdays, rfl, rfl, rfl⟩⟩
  · rintro ⟨due, hdue⟩
    obtain ⟨hdays, hwall, -⟩ := Hora.maisDias_eq_ok.mp hdue
    have hmax := due.wall_inRange.2
    rw [hwall] at hmax
    exact ⟨hdays, hmax⟩

omit [DecidableEq ι] in
/-- The entries of the table of due dates, in order. -/
theorem vencimentos_eq_ok {candidato : RetentionCandidate ι} {regras : List RetentionRule}
    {vencimentos : List (String × Hora ι)} :
    regras.mapM (vencimento candidato) = .ok vencimentos ↔
      List.Forall₂ (fun regra v => v.1 = regra.ruleId ∧
        candidato.createdAt.maisDias regra.minimumAgeDays = .ok v.2) regras vencimentos := by
  have hentry {regra : RetentionRule} {v : String × Hora ι} :
      vencimento candidato regra = .ok v ↔
        v.1 = regra.ruleId ∧ candidato.createdAt.maisDias regra.minimumAgeDays = .ok v.2 := by
    unfold vencimento
    cases candidato.createdAt.maisDias regra.minimumAgeDays with
    | error e => simp [Except.map]
    | ok due =>
      obtain ⟨id, u⟩ := v
      simp only [Except.map, Except.ok.injEq, Prod.mk.injEq]
      exact and_congr_left' eq_comm
  induction regras generalizing vencimentos with
  | nil =>
    rw [List.mapM_nil, List.forall₂_nil_left_iff]
    exact ⟨fun h => (Except.ok.inj h).symm, fun h => h ▸ rfl⟩
  | cons regra regras ih =>
    rw [List.mapM_cons, List.forall₂_cons_left_iff]
    simp only [bind_eq_ok, hentry, ih]
    constructor
    · rintro ⟨v, hv, vs, hvs, h⟩
      exact ⟨v, vs, hv, hvs, (Except.ok.inj h).symm⟩
    · rintro ⟨v, vs, hv, hvs, rfl⟩
      exact ⟨v, hv, vs, hvs, rfl⟩

theorem latest_wall {times : List (Hora ι)} {u : Hora ι} (h : Hora.latest R times = some u)
    (hfuso : ∀ t ∈ times, t.fuso = u.fuso) : ∀ t ∈ times, t.wall ≤ u.wall := by
  induction times generalizing u with
  | nil => exact fun t ht => absurd ht List.not_mem_nil
  | cons first times ih =>
    obtain ⟨hfirst, hrest⟩ := List.forall_mem_cons.mp hfuso
    rw [Hora.latest] at h
    cases hlatest : Hora.latest R times with
    | none =>
      rw [hlatest] at h
      rw [(Hora.latest_eq_none R).mp hlatest, ← Option.some.inj h]
      simp
    | some v =>
      have hv : v.fuso = u.fuso := hrest v (Hora.latest_mem R hlatest)
      have hbelow := ih hlatest fun t ht => (hrest t ht).trans hv.symm
      simp only [hlatest, Hora.antes_same R (hfirst.trans hv.symm), decide_eq_true_eq] at h
      rw [List.forall_mem_cons]
      split at h
      case isTrue hlater =>
        obtain rfl := Option.some.inj h
        exact ⟨hlater.le, hbelow⟩
      case isFalse hearlier =>
        obtain rfl := Option.some.inj h
        exact ⟨le_refl _, fun t ht => (hbelow t ht).trans (not_lt.mp hearlier)⟩

/-- A rule that asks for the most days. -/
def Ultima (regras : List RetentionRule) (m : RetentionRule) : Prop :=
  m ∈ regras ∧ ∀ regra ∈ regras, regra.minimumAgeDays ≤ m.minimumAgeDays

section Table

variable {candidato : RetentionCandidate ι} {regras : List RetentionRule}
  {vencimentos : List (String × Hora ι)} {e : Hora ι}
  (h : List.Forall₂ (fun (regra : RetentionRule) (v : String × Hora ι) => v.1 = regra.ruleId ∧
    candidato.createdAt.maisDias regra.minimumAgeDays = .ok v.2) regras vencimentos)

include h

omit [DecidableEq ι] in
theorem vencimentos_ids : vencimentos.map Prod.fst = regras.map RetentionRule.ruleId := by
  induction h with
  | nil => rfl
  | cons hfirst _ ih => rw [List.map_cons, List.map_cons, hfirst.1, ih]

omit [DecidableEq ι] in
theorem regra_of_vencimento {v : String × Hora ι} (hv : v ∈ vencimentos) :
    ∃ regra ∈ regras, v.1 = regra.ruleId ∧
      candidato.createdAt.maisDias regra.minimumAgeDays = .ok v.2 := by
  induction h with
  | nil => cases hv
  | @cons regra first _ _ hfirst _ ih =>
    rcases List.mem_cons.mp hv with rfl | hv
    · exact ⟨regra, List.mem_cons_self, hfirst⟩
    · obtain ⟨outra, houtra, hspec⟩ := ih hv
      exact ⟨outra, List.mem_cons_of_mem _ houtra, hspec⟩

omit [DecidableEq ι] in
theorem vencimento_of_regra {regra : RetentionRule} (hregra : regra ∈ regras) :
    ∃ v ∈ vencimentos, candidato.createdAt.maisDias regra.minimumAgeDays = .ok v.2 := by
  induction h with
  | nil => cases hregra
  | @cons _ first _ _ hfirst _ ih =>
    rcases List.mem_cons.mp hregra with rfl | hregra
    · exact ⟨first, List.mem_cons_self, hfirst.2⟩
    · obtain ⟨v, hv, hspec⟩ := ih hregra
      exact ⟨v, List.mem_cons_of_mem _ hv, hspec⟩

/-- Every entry is past when every rule is. -/
theorem vencidas_iff : (vencimentos.filter fun v => !e.antes R v.2) = vencimentos ↔
    ∀ regra ∈ regras, Vence R candidato.createdAt e regra.minimumAgeDays := by
  rw [List.filter_eq_self]
  simp only [Bool.not_eq_true']
  constructor
  · intro hall regra hregra
    obtain ⟨v, hv, hdue⟩ := vencimento_of_regra h hregra
    exact (vence_iff hdue).mp (hall v hv)
  · intro hall v hv
    obtain ⟨regra, hregra, -, hdue⟩ := regra_of_vencimento h hv
    exact (vence_iff hdue).mpr (hall regra hregra)

/-- The effective date is that of a rule that asks for the most days. -/
theorem latest_iff {u : Hora ι} (hu : Hora.latest R (vencimentos.map Prod.snd) = some u) :
    e.antes R u = false ↔
      ∀ m, Ultima regras m → Vence R candidato.createdAt e m.minimumAgeDays := by
  obtain ⟨v, hv, rfl⟩ := List.mem_map.mp (Hora.latest_mem R hu)
  obtain ⟨regra, hregra, -, hdue⟩ := regra_of_vencimento h hv
  have hfuso : ∀ t ∈ vencimentos.map Prod.snd, t.fuso = v.2.fuso := by
    rw [List.forall_mem_map]
    intro w hw
    obtain ⟨_, _, -, hother⟩ := regra_of_vencimento h hw
    rw [(Hora.maisDias_eq_ok.mp hother).2.2.1, (Hora.maisDias_eq_ok.mp hdue).2.2.1]
  have hwall := latest_wall hu hfuso
  have hlast : Ultima regras regra := by
    refine ⟨hregra, fun outra houtra => ?_⟩
    obtain ⟨w, hw, hother⟩ := vencimento_of_regra h houtra
    have hle := hwall w.2 (List.mem_map_of_mem hw)
    rw [(Hora.maisDias_eq_ok.mp hother).2.1, (Hora.maisDias_eq_ok.mp hdue).2.1] at hle
    unfold microsecondsPerDay at hle
    omega
  rw [vence_iff hdue]
  constructor
  · intro hpast m hm
    have hsame : m.minimumAgeDays = regra.minimumAgeDays :=
      le_antisymm (hlast.2 m hm.1) (hm.2 regra hregra)
    rwa [hsame]
  · exact fun hall => hall regra hlast

end Table

/-! ## The matrix -/

/-- The conclusion is accepted unless it is due by a latest date that leaves another one ahead. -/
theorem concluir_violation {candidate : RetentionCandidate ι} {e u : Hora ι}
    {vencimentos : List (String × Hora ι)} (hnodup : (vencimentos.map Prod.fst).Nodup)
    (hopaco : ∀ v ∈ vencimentos, Opaco v.1)
    (hu : Hora.latest R (vencimentos.map Prod.snd) = some u) :
    (concluirRetencao R candidate e vencimentos).violation R = none ↔
      candidate.legacyProtectionState = .isProtected ∨ e.antes R u = true ∨
        (vencimentos.filter fun v => !e.antes R v.2) = vencimentos := by
  have hne : vencimentos ≠ [] := by
    rintro rfl
    cases hu
  have hids : (vencimentos.map Prod.fst).isEmpty = false := by
    simpa [List.isEmpty_iff] using hne
  have hsub : ((vencimentos.filter fun v => !e.antes R v.2).map Prod.fst).Sublist
      (vencimentos.map Prod.fst) := List.filter_sublist.map _
  have hall : ∀ id ∈ vencimentos.map Prod.fst, Opaco id := by
    intro id hid
    obtain ⟨v, hv, rfl⟩ := List.mem_map.mp hid
    exact hopaco v hv
  have hdecision : ∀ f : RetentionAssessmentFields ι,
      f.applicableRuleIds = vencimentos.map Prod.fst →
      f.dueRuleIds = (vencimentos.filter fun v => !e.antes R v.2).map Prod.fst →
      (f.violation R = none ↔ f.matriz R = none) := by
    intro f hf hf'
    rw [RetentionAssessmentFields.violation, firstOf_eq_none]
    simp only [List.forall_mem_cons, hf, hf', refuse_eq_none,
      Memory.RetentionAssessmentFields.repetidos_eq_none,
      Memory.RetentionAssessmentFields.identificadores_eq_none]
    constructor
    · rintro ⟨-, -, -, -, -, hmatriz, -⟩
      exact hmatriz
    · intro hmatriz
      exact ⟨hall, hnodup, fun id hid => hall id (hsub.subset hid), hnodup.sublist hsub,
        by simpa using hsub.subset, hmatriz, by simp⟩
  have hsame : (vencimentos.filter fun v => !e.antes R v.2).map Prod.fst =
      vencimentos.map Prod.fst ↔ (vencimentos.filter fun v => !e.antes R v.2) = vencimentos := by
    constructor
    · intro hfst
      have hlength := congrArg List.length hfst
      rw [List.length_map, List.length_map] at hlength
      exact List.filter_sublist.eq_of_length hlength
    · exact fun heq => by rw [heq]
  have hself : iguais R (some u) (some u) = true := by simp [iguais, Hora.antes_irrefl]
  unfold concluirRetencao
  simp only [hu, Option.any_some]
  by_cases hprotected : candidate.legacyProtectionState = .isProtected
  · rw [if_pos hprotected, hdecision _ rfl rfl]
    simp [RetentionAssessmentFields.matriz, hids, hprotected]
  · rw [if_neg hprotected]
    by_cases hfuture : e.antes R u = true
    · rw [if_pos hfuture, hdecision _ rfl rfl]
      simp [RetentionAssessmentFields.matriz, hids, hfuture, hself]
    · rw [if_neg hfuture, hdecision _ rfl rfl]
      simp [RetentionAssessmentFields.matriz, hids, hfuture, hprotected, hsame]

/-! ## Questions -/

/-- A question that the evaluation takes: a window, rules that differ in their identifiers and an
item that exists, by the clocks that show the times. -/
structure Pergunta (R : Regioes ι) where
  candidate : RetentionCandidate ι
  rules : List RetentionRule
  effectiveFrom : Hora ι
  effectiveUntil : Option (Hora ι)
  evaluatedAt : Hora ι
  janela : ∀ fim ∈ effectiveUntil, effectiveFrom.antes R fim = true
  distintas : (rules.map RetentionRule.ruleId).Nodup
  nascido : evaluatedAt.antes R candidate.createdAt = false

namespace Pergunta

/-- The same question, with the creation and the evaluation shown by other clocks. -/
def avaliarEm (p : Pergunta R) (c e : Hora ι) : Except String (RetentionAssessment R) :=
  avaliarRetencao R { p.candidate with createdAt := c } p.rules p.effectiveFrom p.effectiveUntil e

def aplicaveis (p : Pergunta R) : List RetentionRule := p.rules.filter (alcanca p.candidate)

/-- In the window of the policy, by the clocks. -/
def Vigente (p : Pergunta R) (e : Hora ι) : Prop :=
  e.antes R p.effectiveFrom = false ∧ ∀ fim ∈ p.effectiveUntil, e.antes R fim = true

def Protegido (p : Pergunta R) : Prop := p.candidate.legacyProtectionState = .isProtected

/-- Every matching rule has fallen due, by the clocks. -/
def Vencidas (p : Pergunta R) (c e : Hora ι) : Prop :=
  ∀ regra ∈ p.aplicaveis, Vence R c e regra.minimumAgeDays

/-- The rules that ask for the most days have. -/
def Vencida (p : Pergunta R) (c e : Hora ι) : Prop :=
  ∀ m, Ultima p.aplicaveis m → Vence R c e m.minimumAgeDays

theorem vigente_iff {p : Pergunta R} {e : Hora ι} : p.Vigente e ↔
    ¬(e.antes R p.effectiveFrom = true ∨
      (p.effectiveUntil.any fun fim => !e.antes R fim) = true) := by
  unfold Vigente
  rw [not_or, Bool.not_eq_true]
  cases p.effectiveUntil <;> simp

/-- What the evaluation answers, and that it answers. -/
inductive Conclui (p : Pergunta R) (c e : Hora ι) : RetentionAssessmentDecision → Prop
  | foraDaJanela (hout : ¬p.Vigente e) : Conclui p c e .policyNotEffective
  | semRegra (hin : p.Vigente e) (hnone : p.aplicaveis = []) : Conclui p c e .outOfScope
  | protegido (hin : p.Vigente e) (hsome : p.aplicaveis ≠ [])
    (hfits : ∀ regra ∈ p.aplicaveis, Cabe c regra) (hprotected : p.Protegido) :
    Conclui p c e .preserveLegacyProtected
  | espera (hin : p.Vigente e) (hsome : p.aplicaveis ≠ [])
    (hfits : ∀ regra ∈ p.aplicaveis, Cabe c regra) (hfree : ¬p.Protegido)
    (hfuture : ¬p.Vencida c e) : Conclui p c e .notYetDue
  | vence (hin : p.Vigente e) (hsome : p.aplicaveis ≠ [])
    (hfits : ∀ regra ∈ p.aplicaveis, Cabe c regra) (hfree : ¬p.Protegido)
    (hpast : p.Vencida c e) (hall : p.Vencidas c e) : Conclui p c e .assessAndInform

omit [DecidableEq ι] in
theorem exists_table {c : Hora ι} {regras : List RetentionRule}
    (h : ∀ regra ∈ regras, Cabe c regra) : ∃ vencimentos : List (String × Hora ι),
      List.Forall₂ (fun (regra : RetentionRule) (v : String × Hora ι) => v.1 = regra.ruleId ∧
        c.maisDias regra.minimumAgeDays = .ok v.2) regras vencimentos := by
  induction regras with
  | nil => exact ⟨[], .nil⟩
  | cons regra regras ih =>
    obtain ⟨hfirst, hrest⟩ := List.forall_mem_cons.mp h
    obtain ⟨due, hdue⟩ := cabe_iff.mp hfirst
    obtain ⟨vencimentos, htable⟩ := ih hrest
    exact ⟨(regra.ruleId, due) :: vencimentos, .cons ⟨rfl, hdue⟩ htable⟩

theorem make_iff {f : RetentionAssessmentFields ι} {d : RetentionAssessmentDecision} :
    (∃ a, RetentionAssessment.make R f = .ok a ∧ a.decision = d) ↔
      f.violation R = none ∧ f.decision = d := by
  constructor
  · rintro ⟨a, ha, rfl⟩
    obtain ⟨hnone, rfl⟩ := of_checked ha
    exact ⟨hnone, rfl⟩
  · rintro ⟨hnone, rfl⟩
    exact ⟨_, checked_eq_ok hnone, rfl⟩

/-- Once a rule matches, the answer follows from the table of due dates. -/
theorem concluir_iff {p : Pergunta R} {c e : Hora ι} {d : RetentionAssessmentDecision}
    (hin : p.Vigente e) (hsome : p.aplicaveis ≠ []) :
    (∃ a, (do
      let vencimentos ← p.aplicaveis.mapM (vencimento { p.candidate with createdAt := c })
      RetentionAssessment.make R
        (concluirRetencao R { p.candidate with createdAt := c } e vencimentos)) = .ok a ∧
          a.decision = d) ↔ p.Conclui c e d := by
  generalize hcandidate : ({ p.candidate with createdAt := c } : RetentionCandidate ι) = candidato
  have hc : candidato.createdAt = c := by rw [← hcandidate]
  have hprotection : candidato.legacyProtectionState = .isProtected ↔ p.Protegido := by
    rw [← hcandidate]
    rfl
  by_cases hfits : ∀ regra ∈ p.aplicaveis, Cabe c regra
  case neg =>
    refine iff_of_false ?_ ?_
    · rintro ⟨a, ha, -⟩
      obtain ⟨vencimentos, hvencimentos, -⟩ := bind_eq_ok.mp ha
      have htable := vencimentos_eq_ok.mp hvencimentos
      refine hfits fun regra hregra => ?_
      obtain ⟨v, -, hdue⟩ := vencimento_of_regra htable hregra
      rw [hc] at hdue
      exact cabe_iff.mpr ⟨_, hdue⟩
    · intro h
      cases h with
      | foraDaJanela hout => exact hout hin
      | semRegra _ hnone => exact hsome hnone
      | protegido _ _ hall => exact hfits hall
      | espera _ _ hall => exact hfits hall
      | vence _ _ hall => exact hfits hall
  case pos =>
    obtain ⟨vencimentos, htable⟩ := exists_table hfits
    rw [← hc] at htable
    have hids := vencimentos_ids htable
    obtain ⟨u, hu⟩ : ∃ u, Hora.latest R (vencimentos.map Prod.snd) = some u := by
      rw [← Option.ne_none_iff_exists', ne_eq, Hora.latest_eq_none, List.map_eq_nil_iff]
      rintro rfl
      exact hsome (List.map_eq_nil_iff.mp hids.symm)
    have hnodup : (vencimentos.map Prod.fst).Nodup := by
      rw [hids]
      exact p.distintas.sublist (List.filter_sublist.map _)
    have hopaco : ∀ v ∈ vencimentos, Opaco v.1 := by
      intro v hv
      obtain ⟨regra, -, hid, -⟩ := regra_of_vencimento htable hv
      exact hid ▸ regra.opaco
    have hviolation := @concluir_violation ι _ R candidato e u vencimentos hnodup hopaco hu
    have hpast : e.antes R u = false ↔ p.Vencida c e := hc ▸ latest_iff htable hu
    have hall : (vencimentos.filter fun v => !e.antes R v.2) = vencimentos ↔ p.Vencidas c e :=
      hc ▸ vencidas_iff htable
    rw [vencimentos_eq_ok.mpr htable, ok_bind, make_iff, hviolation, hprotection, hall]
    unfold concluirRetencao
    simp only [hu, Option.any_some]
    by_cases hprotected : p.Protegido
    · rw [if_pos (hprotection.mpr hprotected)]
      constructor
      · rintro ⟨-, rfl⟩
        exact .protegido hin hsome hfits hprotected
      · intro h
        cases h with
        | foraDaJanela hout => exact absurd hin hout
        | semRegra _ hnone => exact absurd hnone hsome
        | protegido => exact ⟨.inl hprotected, rfl⟩
        | espera _ _ _ hfree => exact absurd hprotected hfree
        | vence _ _ _ hfree => exact absurd hprotected hfree
    · rw [if_neg fun h => hprotected (hprotection.mp h)]
      by_cases hfuture : e.antes R u = true
      · have hnot : ¬p.Vencida c e := by
          rw [← hpast, hfuture]
          exact Bool.noConfusion
        rw [if_pos hfuture]
        constructor
        · rintro ⟨-, rfl⟩
          exact .espera hin hsome hfits hprotected hnot
        · intro h
          cases h with
          | foraDaJanela hout => exact absurd hin hout
          | semRegra _ hnone => exact absurd hnone hsome
          | protegido _ _ _ hprotected' => exact absurd hprotected' hprotected
          | espera => exact ⟨.inr (.inl hfuture), rfl⟩
          | vence _ _ _ _ hpast' => exact absurd hpast' hnot
      · have hreached : p.Vencida c e := hpast.mp (Bool.not_eq_true _ ▸ hfuture)
        rw [if_neg hfuture]
        constructor
        · rintro ⟨hprotected' | hfuture' | hvencidas, rfl⟩
          · exact absurd hprotected' hprotected
          · exact absurd hfuture' hfuture
          · exact .vence hin hsome hfits hprotected hreached hvencidas
        · intro h
          cases h with
          | foraDaJanela hout => exact absurd hin hout
          | semRegra _ hnone => exact absurd hnone hsome
          | protegido _ _ _ hprotected' => exact absurd hprotected' hprotected
          | espera _ _ _ _ hnot => exact absurd hreached hnot
          | vence _ _ _ _ _ hvencidas => exact ⟨.inr (.inr hvencidas), rfl⟩

theorem avaliarEm_iff {p : Pergunta R} {c e : Hora ι} {d : RetentionAssessmentDecision} :
    (∃ a, p.avaliarEm c e = .ok a ∧ a.decision = d) ↔ e.antes R c = false ∧ p.Conclui c e d := by
  have hwindow : (p.effectiveUntil.any fun fim => !p.effectiveFrom.antes R fim) = false := by
    have hjanela := p.janela
    cases hfim : p.effectiveUntil with
    | none => rfl
    | some fim => simpa using hjanela fim hfim
  have hbare : ∀ {decision : RetentionAssessmentDecision},
      decision = .policyNotEffective ∨ decision = .outOfScope →
      ((∃ a, RetentionAssessment.make R
          { decision := decision, subjectCoid := p.candidate.subjectCoid, evaluatedAt := e } =
        .ok a ∧ a.decision = d) ↔ decision = d) := by
    intro decision hdecision
    have hviolation : RetentionAssessmentFields.violation R
        { decision := decision, subjectCoid := p.candidate.subjectCoid, evaluatedAt := e } =
          none := by
      simp [RetentionAssessmentFields.violation, RetentionAssessmentFields.matriz,
        Memory.RetentionAssessmentFields.identificadores,
        Memory.RetentionAssessmentFields.repetidos, hdecision]
    constructor
    · rintro ⟨a, ha, rfl⟩
      obtain ⟨_, rfl⟩ := of_checked ha
      rfl
    · rintro rfl
      exact ⟨_, checked_eq_ok hviolation, rfl⟩
  have hmatch : p.rules.filter (alcanca { p.candidate with createdAt := c }) = p.aplicaveis := rfl
  unfold avaliarEm avaliarRetencao
  simp only [hwindow, Bool.false_eq_true, if_false, duplicados_eq_nil.mpr p.distintas, ne_eq,
    not_true_eq_false, hmatch]
  by_cases hborn : e.antes R c = true
  case pos => simp [hborn]
  case neg =>
    rw [if_neg hborn, Bool.not_eq_true] at *
    simp only [hborn, true_and]
    by_cases hin : p.Vigente e
    case neg =>
      rw [if_pos (not_not.mp fun h => hin (vigente_iff.mpr h)), hbare (.inl rfl)]
      constructor
      · rintro rfl
        exact .foraDaJanela hin
      · rintro (- | hin' | hin' | hin' | hin')
        · rfl
        all_goals exact absurd hin' hin
    case pos =>
      rw [if_neg (vigente_iff.mp hin)]
      by_cases hnone : p.aplicaveis = []
      case pos =>
        rw [if_pos hnone, hbare (.inr rfl)]
        constructor
        · rintro rfl
          exact .semRegra hin hnone
        · intro h
          cases h with
          | foraDaJanela hout => exact absurd hin hout
          | semRegra => rfl
          | protegido _ hsome => exact absurd hnone hsome
          | espera _ hsome => exact absurd hnone hsome
          | vence _ hsome => exact absurd hnone hsome
      case neg =>
        rw [if_neg hnone]
        exact concluir_iff hin hnone

/-! ## Instants -/

/-- In the window of the policy, as an instant. -/
def VigenteEm (p : Pergunta R) (e : Instant) : Prop :=
  p.effectiveFrom.instant R ≤ e ∧ ∀ fim ∈ p.effectiveUntil, e < fim.instant R

/-- Every matching rule has fallen due, counting days of 24 hours. -/
def VencidaEm (p : Pergunta R) (c e : Instant) : Prop :=
  ∀ regra ∈ p.aplicaveis, c + regra.minimumAgeDays * microsecondsPerDay ≤ e

/-- On these clocks the item exists, its due dates can be shown, and the comparisons come out as
those of the instants. -/
structure EmOrdem (p : Pergunta R) (c e : Hora ι) : Prop where
  nascido : e.antes R c = false
  janela : p.Vigente e ↔ p.VigenteEm (e.instant R)
  cabe : p.Vigente e → ∀ regra ∈ p.aplicaveis, Cabe c regra
  vence : p.Vigente e → ¬p.Protegido →
    (p.Vencida c e ↔ p.VencidaEm (c.instant R) (e.instant R))
  coerente : p.Vigente e → ¬p.Protegido → p.Vencida c e → p.Vencidas c e

theorem exists_ultima {regras : List RetentionRule} (h : regras ≠ []) : ∃ m, Ultima regras m := by
  induction regras with
  | nil => exact absurd rfl h
  | cons regra regras ih =>
    by_cases hrest : regras = []
    · subst hrest
      exact ⟨regra, List.mem_cons_self, by simp⟩
    · obtain ⟨m, hm, hmax⟩ := ih hrest
      rcases le_total m.minimumAgeDays regra.minimumAgeDays with hle | hle
      · refine ⟨regra, List.mem_cons_self, List.forall_mem_cons.mpr ⟨le_refl _, ?_⟩⟩
        exact fun outra houtra => (hmax outra houtra).trans hle
      · exact ⟨m, List.mem_cons_of_mem _ hm, List.forall_mem_cons.mpr ⟨hle, hmax⟩⟩

theorem vence_fixa {c e : Hora ι} {dias : ℕ} : Vence R (c.fixa R) (e.fixa R) dias ↔
    c.instant R + dias * microsecondsPerDay ≤ e.instant R := by
  have hclock (t : Hora ι) (wall : ℤ) :
      (t.fixa R).fuso.utcoffset R wall false = t.fuso.utcoffset R t.wall t.fold := rfl
  have hwall (t : Hora ι) : (t.fixa R).wall = t.wall := rfl
  unfold Vence
  simp only [hclock, hwall, Hora.fixa_instant]
  split
  case isTrue hsame =>
    have hoffset : e.fuso.utcoffset R e.wall e.fold = c.fuso.utcoffset R c.wall c.fold := by
      have hboth := congrArg (fun fuso => fuso.utcoffset R 0 false) hsame
      rwa [hclock, hclock] at hboth
    unfold Hora.instant
    rw [hoffset]
    omega
  case isFalse =>
    unfold Hora.instant
    omega

theorem vigente_fixa {p : Pergunta R} {e : Hora ι} :
    p.Vigente (e.fixa R) ↔ p.VigenteEm (e.instant R) := by
  have hfixed (t : Hora ι) : (e.fixa R).antes R t = decide (e.instant R < t.instant R) :=
    Hora.antes_fixo R rfl
  unfold Vigente VigenteEm
  simp only [hfixed, decide_eq_false_iff_not, not_lt, decide_eq_true_eq]

theorem vencida_fixa {p : Pergunta R} {c e : Hora ι} :
    p.Vencida (c.fixa R) (e.fixa R) ↔ p.VencidaEm (c.instant R) (e.instant R) := by
  unfold Vencida VencidaEm
  simp only [vence_fixa]
  constructor
  · intro h regra hregra
    obtain ⟨m, hm⟩ := exists_ultima (List.ne_nil_of_mem hregra)
    have hlast := h m hm
    have hdays : (regra.minimumAgeDays : ℤ) * microsecondsPerDay ≤
        m.minimumAgeDays * microsecondsPerDay := by
      have hle := hm.2 regra hregra
      unfold microsecondsPerDay
      omega
    exact (add_le_add_right hdays _).trans hlast
  · exact fun h m hm => h m hm.1

/-! ## The law -/

/-- The question is answered, and the answer is the same whatever clocks show its instants. -/
def Promessa (p : Pergunta R) : Prop :=
  ∃ d, ∀ c e : Hora ι, c.instant R = p.candidate.createdAt.instant R →
    e.instant R = p.evaluatedAt.instant R → ∃ a, p.avaliarEm c e = .ok a ∧ a.decision = d

/-- The evaluation answers alike on all clocks exactly when each keeps the order of the instants
and can show the due dates. -/
theorem retention_arithmetic (p : Pergunta R) : p.Promessa ↔
    ∀ c e : Hora ι, c.instant R = p.candidate.createdAt.instant R →
      e.instant R = p.evaluatedAt.instant R → p.EmOrdem c e := by
  constructor
  · rintro ⟨d, hall⟩ c e hc he
    -- the decision is that of the clocks which keep the offsets of the question
    have hfixed := (avaliarEm_iff.mp
      (hall (p.candidate.createdAt.fixa R) (p.evaluatedAt.fixa R) rfl rfl)).2
    obtain ⟨hborn, hshown⟩ := avaliarEm_iff.mp (hall c e hc he)
    have hjanela : p.VigenteEm (e.instant R) ↔ p.Vigente (p.evaluatedAt.fixa R) := by
      rw [vigente_fixa, he]
    have hvence : p.VencidaEm (c.instant R) (e.instant R) ↔
        p.Vencida (p.candidate.createdAt.fixa R) (p.evaluatedAt.fixa R) := by
      rw [vencida_fixa, hc, he]
    have hnone_past (hnone : p.aplicaveis = []) (c e : Hora ι) : p.Vencida c e := by
      intro m hm
      rw [hnone] at hm
      exact absurd hm.1 List.not_mem_nil
    cases hshown with
    | foraDaJanela hout =>
      cases hfixed with
      | foraDaJanela hout' =>
        exact ⟨hborn, by rw [hjanela]; exact iff_of_false hout hout', fun hin => absurd hin hout,
          fun hin => absurd hin hout, fun hin => absurd hin hout⟩
    | semRegra hin hnone =>
      cases hfixed with
      | semRegra hin' _ =>
        refine ⟨hborn, by rw [hjanela]; exact iff_of_true hin hin', ?_, fun _ _ => ?_, ?_⟩
        · rw [hnone]
          exact fun _ regra hregra => absurd hregra List.not_mem_nil
        · rw [hvence]
          exact iff_of_true (hnone_past hnone _ _) (hnone_past hnone _ _)
        · intro _ _ _ regra hregra
          rw [hnone] at hregra
          exact absurd hregra List.not_mem_nil
    | protegido hin _ hfits hprotected =>
      cases hfixed with
      | protegido hin' =>
        exact ⟨hborn, by rw [hjanela]; exact iff_of_true hin hin', fun _ => hfits,
          fun _ hfree => absurd hprotected hfree, fun _ hfree => absurd hprotected hfree⟩
    | espera hin _ hfits _ hfuture =>
      cases hfixed with
      | espera hin' _ _ _ hfuture' =>
        exact ⟨hborn, by rw [hjanela]; exact iff_of_true hin hin', fun _ => hfits,
          fun _ _ => by rw [hvence]; exact iff_of_false hfuture hfuture',
          fun _ _ hpast => absurd hpast hfuture⟩
    | vence hin _ hfits _ hpast hvencidas =>
      cases hfixed with
      | vence hin' _ _ _ hpast' =>
        exact ⟨hborn, by rw [hjanela]; exact iff_of_true hin hin', fun _ => hfits,
          fun _ _ => by rw [hvence]; exact iff_of_true hpast hpast', fun _ _ _ => hvencidas⟩
  · intro hordem
    have hanswer (d : RetentionAssessmentDecision) (h : ∀ c e : Hora ι,
        c.instant R = p.candidate.createdAt.instant R → e.instant R = p.evaluatedAt.instant R →
          p.Conclui c e d) : p.Promessa :=
      ⟨d, fun c e hc he => avaliarEm_iff.mpr ⟨(hordem c e hc he).nascido, h c e hc he⟩⟩
    by_cases hin : p.VigenteEm (p.evaluatedAt.instant R)
    case neg =>
      refine hanswer .policyNotEffective fun c e hc he => .foraDaJanela ?_
      rwa [(hordem c e hc he).janela, he]
    have hvigente : ∀ c e : Hora ι, c.instant R = p.candidate.createdAt.instant R →
        e.instant R = p.evaluatedAt.instant R → p.Vigente e := by
      intro c e hc he
      rwa [(hordem c e hc he).janela, he]
    by_cases hnone : p.aplicaveis = []
    · exact hanswer .outOfScope fun c e hc he => .semRegra (hvigente c e hc he) hnone
    by_cases hprotected : p.Protegido
    · refine hanswer .preserveLegacyProtected fun c e hc he => ?_
      have hshown := hvigente c e hc he
      exact .protegido hshown hnone ((hordem c e hc he).cabe hshown) hprotected
    by_cases hpast : p.VencidaEm (p.candidate.createdAt.instant R) (p.evaluatedAt.instant R)
    · refine hanswer .assessAndInform fun c e hc he => ?_
      have hshown := hvigente c e hc he
      have hdue : p.Vencida c e := by rwa [(hordem c e hc he).vence hshown hprotected, hc, he]
      exact .vence hshown hnone ((hordem c e hc he).cabe hshown) hprotected hdue
        ((hordem c e hc he).coerente hshown hprotected hdue)
    · refine hanswer .notYetDue fun c e hc he => ?_
      have hshown := hvigente c e hc he
      have hwait : ¬p.Vencida c e := by rwa [(hordem c e hc he).vence hshown hprotected, hc, he]
      exact .espera hshown hnone ((hordem c e hc he).cabe hshown) hprotected hwait

/-! ## Ages and clocks without a limit -/

/-- One region, an hour ahead from the noon of the first day of 1970. -/
def verao : Regioes Unit := fun _ wall _ =>
  if wall < 43200000000 then ⟨0, Datetime.epoch.offset_bound⟩ else ⟨3600000000, by decide⟩

def guarda (dias : ℕ) (h : 1 ≤ dias) : RetentionRule where
  ruleId := "keep"
  scopeKind := .allLocalPatrimony
  minimumAgeDays := dias
  ruleId_opaque := by decide +kernel
  age_positive := h
  scope_matches := scopeMatches_all

/-- The reading of the clock of UTC. -/
def emUtc (wall : ℤ) (h : datetimeMin ≤ wall ∧ wall ≤ datetimeMax) : Hora Unit where
  wall := wall
  fuso := .fixo ⟨0, Datetime.epoch.offset_bound⟩
  wall_inRange := h

/-- An item of the first instant of 1970, 23 hours and 20 minutes later. -/
def quaseUmDia (dias : ℕ) (h : 1 ≤ dias) : Pergunta verao where
  candidate := ⟨⟨1⟩, ⟨2⟩, emUtc 0 Datetime.epoch.wall_inRange, .notProtected⟩
  rules := [guarda dias h]
  effectiveFrom := emUtc 0 Datetime.epoch.wall_inRange
  effectiveUntil := none
  evaluatedAt := emUtc 84000000000 (by decide)
  janela := fun _ hfim => absurd hfim (Option.not_mem_none _)
  distintas := List.nodup_singleton _
  nascido := by decide

/-- A thousand million days are no `timedelta`; and a day from midnight in the region, which is
23 hours long, is past while a day from the same instant in UTC is not. -/
theorem dias_e_relogios : ¬(quaseUmDia 1000000000 (by decide)).Promessa ∧
    (∃ text, (quaseUmDia 1000000000 (by decide)).avaliarEm (emUtc 0 (by decide))
      (emUtc 84000000000 (by decide)) = .error text) ∧
    ¬(quaseUmDia 1 (by decide)).Promessa := by
  have hoverflow : ∃ text, (quaseUmDia 1000000000 (by decide)).avaliarEm (emUtc 0 (by decide))
      (emUtc 84000000000 (by decide)) = .error text :=
    ⟨"days=1000000000; must have magnitude <= 999999999", rfl⟩
  refine ⟨?_, hoverflow, ?_⟩
  · rintro ⟨d, hall⟩
    obtain ⟨a, ha, -⟩ := hall (emUtc 0 (by decide)) (emUtc 84000000000 (by decide)) rfl rfl
    obtain ⟨text, htext⟩ := hoverflow
    rw [htext] at ha
    cases ha
  · rintro ⟨d, hall⟩
    have hutc : ((quaseUmDia 1 (by decide)).avaliarEm (emUtc 0 (by decide))
        (emUtc 84000000000 (by decide))).map (fun a => a.decision) = .ok .notYetDue := by
      decide +kernel
    have hregiao : ((quaseUmDia 1 (by decide)).avaliarEm
        ⟨0, .regiao (), false, by decide⟩ (emUtc 84000000000 (by decide))).map
          (fun a => a.decision) = .ok .assessAndInform := by
      decide +kernel
    obtain ⟨a, ha, hd⟩ := hall (emUtc 0 (by decide)) (emUtc 84000000000 (by decide)) rfl rfl
    obtain ⟨b, hb, hd'⟩ := hall ⟨0, .regiao (), false, by decide⟩
      (emUtc 84000000000 (by decide)) rfl rfl
    rw [ha] at hutc
    rw [hb] at hregiao
    have hfirst : a.decision = .notYetDue := Except.ok.inj hutc
    have hsecond : b.decision = .assessAndInform := Except.ok.inj hregiao
    rw [hd, ← hd', hsecond] at hfirst
    cases hfirst

end Pergunta

end PiaOs.Memory.Zoned
