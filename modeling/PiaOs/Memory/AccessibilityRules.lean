import PiaOs.Memory.AccessibilityTransition

/-!
# What the rules of a policy decide

A denial among the rules that match decides over what the others admit. The decision cites the
effect and the identifier of one rule, so that it does not depend on the order of the rules.
-/

namespace PiaOs.Memory

open Support Piap Transactions Cognitive

namespace AccessibilityPolicyManager

/-! ## The rules that match -/

section Rules

variable {regras regras' rs rs' : List AccessibilityRule} {source target : AccessibilityState}
  {policy : AccessibilityPolicy} {instante : UtcInstant} {t : Transicao}
  {resolution : GovernanceResolution} {d : AccessibilityDecision}

theorem matches_iff {r : AccessibilityRule} :
    r.matches source target = true ↔ r.sourceState = source ∧ r.targetState = target := by
  rw [AccessibilityRule.matches, Bool.and_eq_true, decide_eq_true_iff, decide_eq_true_iff,
    @eq_comm _ source, @eq_comm _ target]

theorem mem_aplicaveis {r : AccessibilityRule} : r ∈ aplicaveis regras source target ↔
    r ∈ regras ∧ r.sourceState = source ∧ r.targetState = target := by
  rw [aplicaveis, List.mem_insertionSort, List.mem_filter, matches_iff]

/-- What a decision cites of a rule. -/
def citada (r : AccessibilityRule) : GovernanceEffect × String := (r.effect, r.ruleId)

/-- The rule that a list of matching rules decides by. -/
def escolhida (primeira : AccessibilityRule) (outras : List AccessibilityRule) :
    AccessibilityRule :=
  ((primeira :: outras).filter (·.effect = .deny)).headD primeira

theorem citada_escolhida (primeira : AccessibilityRule) (outras : List AccessibilityRule) :
    citada (escolhida primeira outras) =
      (((primeira :: outras).map citada).filter (·.1 = .deny)).headD (citada primeira) := by
  rw [List.filter_map, List.headD_map]
  rfl

theorem escolhida_mem {primeira : AccessibilityRule} {outras : List AccessibilityRule} :
    escolhida primeira outras ∈ primeira :: outras := by
  unfold escolhida
  cases hneg : (primeira :: outras).filter (·.effect = .deny) with
  | nil => exact List.mem_cons_self
  | cons negativa _ =>
    have hmem : negativa ∈ (primeira :: outras).filter (·.effect = .deny) :=
      hneg ▸ List.mem_cons_self
    exact (List.mem_filter.mp hmem).1

/-- A denial among the rules that match is what they decide by. -/
theorem escolhida_deny {primeira : AccessibilityRule} {outras : List AccessibilityRule} :
    (escolhida primeira outras).effect = .deny ↔
      ∃ r ∈ primeira :: outras, r.effect = .deny := by
  constructor
  · intro h
    exact ⟨_, escolhida_mem, h⟩
  · rintro ⟨r, hr, hdeny⟩
    unfold escolhida
    cases hneg : (primeira :: outras).filter (·.effect = .deny) with
    | nil =>
      have hmem : r ∈ (primeira :: outras).filter (·.effect = .deny) :=
        List.mem_filter.mpr ⟨hr, decide_eq_true hdeny⟩
      rw [hneg] at hmem
      cases hmem
    | cons negativa _ =>
      have hmem : negativa ∈ (primeira :: outras).filter (·.effect = .deny) :=
        hneg ▸ List.mem_cons_self
      exact of_decide_eq_true (List.mem_filter.mp hmem).2

/-- A decision admits when some rule matches and no rule that matches denies. -/
theorem decidir_admissible : (decidir policy source target instante rs).outcome = .admissible ↔
    rs ≠ [] ∧ ∀ r ∈ rs, r.effect ≠ .deny := by
  cases rs with
  | nil =>
    have hno : (decidir policy source target instante []).outcome = .notApplicable := rfl
    rw [hno]
    exact ⟨fun h => (by cases h), fun h => absurd rfl h.1⟩
  | cons primeira outras =>
    have hout : (decidir policy source target instante (primeira :: outras)).outcome =
        if (escolhida primeira outras).effect = .deny then .inadmissible else .admissible := rfl
    rw [hout]
    split
    case isTrue hdeny =>
      obtain ⟨r, hr, hnega⟩ := escolhida_deny.mp hdeny
      exact ⟨fun h => (by cases h), fun h => absurd hnega (h.2 r hr)⟩
    case isFalse hallow =>
      refine ⟨fun _ => ⟨List.cons_ne_nil _ _, fun r hr hnega => ?_⟩, fun _ => rfl⟩
      exact hallow (escolhida_deny.mpr ⟨r, hr, hnega⟩)

/-! ## The order of the rules -/

theorem effect_value_inj : ∀ {e e' : GovernanceEffect}, e.value = e'.value → e = e' := by
  intro e e' h
  cases e <;> cases e' <;> first | rfl | exact absurd h (by decide)

theorem citada_of_sortKey {r r' : AccessibilityRule} (h : r.sortKey = r'.sortKey) :
    citada r = citada r' := by
  have hpair : (r.effect.value, r.ruleId) = (r'.effect.value, r'.ruleId) := toLex.injective h
  obtain ⟨heffect, hid⟩ := Prod.mk.inj hpair
  rw [citada, citada, effect_value_inj heffect, hid]

/-- A decision looks at the rules only for what it cites of them. -/
theorem decidir_congr (h : rs.map citada = rs'.map citada) :
    decidir policy source target instante rs = decidir policy source target instante rs' := by
  cases rs with
  | nil =>
    obtain rfl := List.map_eq_nil_iff.mp h.symm
    rfl
  | cons primeira outras =>
    cases rs' with
    | nil => cases h
    | cons primeira' outras' =>
      have hfirst : citada primeira = citada primeira' := (List.cons.inj h).1
      have hsame : citada (escolhida primeira outras) = citada (escolhida primeira' outras') := by
        rw [citada_escolhida, citada_escolhida, h, hfirst]
      obtain ⟨heffect, hid⟩ := Prod.mk.inj hsame
      change AccessibilityDecisionFields.mk _ _ _ _ _ _ _ _ =
        AccessibilityDecisionFields.mk _ _ _ _ _ _ _ _
      rw [← escolhida, ← escolhida, heffect, hid]

theorem citadas_perm (h : regras.Perm regras') :
    (aplicaveis regras source target).map citada =
      (aplicaveis regras' source target).map citada := by
  have hsorted (rules : List AccessibilityRule) :
      ((aplicaveis rules source target).map AccessibilityRule.sortKey).Pairwise (· ≤ ·) := by
    rw [List.pairwise_map]
    exact List.pairwise_insertionSort _ _
  have hperm : (aplicaveis regras source target).Perm (aplicaveis regras' source target) :=
    (List.perm_insertionSort _ _).trans
      ((h.filter _).trans (List.perm_insertionSort _ _).symm)
  have hkeys := (hperm.map AccessibilityRule.sortKey).eq_of_pairwise' (hsorted _) (hsorted _)
  refine List.ext_getElem (by simpa using congrArg List.length hkeys) fun n hn hn' => ?_
  rw [List.getElem_map, List.getElem_map]
  refine citada_of_sortKey ?_
  have hkey := List.getElem_of_eq hkeys (by simpa using hn)
  simpa only [List.getElem_map] using hkey

end Rules

section Order

variable {policies : List AccessibilityPolicy} {policy : AccessibilityPolicy} {t : Transicao}
  {resolution : GovernanceResolution} {source : AccessibilityState} {instante : UtcInstant}
  {d : AccessibilityDecision}

/-- The rules of a version, in another order. -/
def reordenada (ordem : AccessibilityPolicy → List RegraGravada) (policy : AccessibilityPolicy) :
    AccessibilityPolicy :=
  { policy with rules := ordem policy }

theorem deserializeRules_perm {payload payload' : List RegraGravada}
    {regras : List AccessibilityRule} (hperm : payload'.Perm payload)
    (h : AccessibilityPolicy.deserializeRules payload = .ok regras) :
    ∃ regras', AccessibilityPolicy.deserializeRules payload' = .ok regras' ∧
      regras'.Perm regras := by
  obtain ⟨regras', hread, hsame⟩ := List.perm_comp_forall₂ hperm (mapM_eq_ok.mp h)
  exact ⟨regras', mapM_eq_ok.mpr hread, hsame⟩

theorem avaliarVersao_perm {novas : List RegraGravada} (hperm : novas.Perm policy.rules)
    (h : avaliarVersao policy t resolution source instante = .ok d) :
    avaliarVersao { policy with rules := novas } t resolution source instante = .ok d := by
  obtain ⟨_, hmotivos, h⟩ := bind_eq_ok.mp h
  obtain ⟨regras, hregras, h⟩ := bind_eq_ok.mp h
  obtain ⟨regras', hregras', hsame⟩ := deserializeRules_perm hperm hregras
  refine bind_eq_ok.mpr ⟨(), hmotivos, bind_eq_ok.mpr ⟨regras', hregras', ?_⟩⟩
  have hdecide : decidir { policy with rules := novas } source t.targetState instante
      (aplicaveis regras' source t.targetState) =
      decidir policy source t.targetState instante (aplicaveis regras source t.targetState) :=
    decidir_congr (citadas_perm hsame)
  rw [hdecide, h]

theorem avaliarVersao_reordenada {ordem : AccessibilityPolicy → List RegraGravada}
    (hordem : (ordem policy).Perm policy.rules) :
    avaliarVersao (reordenada ordem policy) t resolution source instante = .ok d ↔
      avaliarVersao policy t resolution source instante = .ok d :=
  ⟨avaliarVersao_perm (hordem.symm : policy.rules.Perm (reordenada ordem policy).rules),
    avaliarVersao_perm hordem⟩

theorem argmax_map {α β : Type} (f : β → ℕ) (g : α → β) (items : List α) :
    (items.map g).argmax f = (items.argmax fun a => f (g a)).map g := by
  induction items with
  | nil => rfl
  | cons item items ih =>
    rw [List.map_cons, List.argmax_cons, List.argmax_cons, ih]
    cases items.argmax fun a => f (g a) with
    | none => rfl
    | some best =>
      by_cases hbest : f (g item) < f (g best)
      · simp [hbest]
      · simp [hbest]

/-- The version in force is chosen without its rules. -/
theorem effectiveVersionAt_reordenada {ordem : AccessibilityPolicy → List RegraGravada}
    {key : String} {moment : Instant} :
    AccessibilityPolicy.effectiveVersionAt (policies.map (reordenada ordem)) key moment =
      (AccessibilityPolicy.effectiveVersionAt policies key moment).map (reordenada ordem) := by
  unfold AccessibilityPolicy.effectiveVersionAt
  rw [List.filter_map, argmax_map]
  rfl

theorem effectiveVersionAt_eq_some {key : String} {moment : Instant}
    (h : AccessibilityPolicy.effectiveVersionAt policies key moment = some policy) :
    policy ∈ policies ∧ policy.policyKey = key ∧ policy.vigente moment = true ∧
      ∀ outra ∈ policies, outra.policyKey = key → outra.vigente moment = true →
        outra.version ≤ policy.version := by
  have hmem := List.mem_filter.mp (List.argmax_mem h)
  have hprops : policy.policyKey = key ∧ policy.vigente moment = true := by simpa using hmem.2
  refine ⟨hmem.1, hprops.1, hprops.2, fun outra houtra hkey hforce => ?_⟩
  exact List.le_of_mem_argmax (List.mem_filter.mpr ⟨houtra, by simp [hkey, hforce]⟩) h

/-- What is decided does not depend on the order of the rules. -/
theorem avaliar_reordenada {ordem : AccessibilityPolicy → List RegraGravada}
    (hordem : ∀ p ∈ policies, (ordem p).Perm p.rules) :
    avaliar (policies.map (reordenada ordem)) t resolution source instante = .ok d ↔
      avaliar policies t resolution source instante = .ok d := by
  unfold avaliar
  rw [effectiveVersionAt_reordenada]
  cases hpolicy : AccessibilityPolicy.effectiveVersionAt policies t.accessibilityPolicyKey
      instante.instant with
  | none => exact Iff.rfl
  | some policy =>
    exact avaliarVersao_reordenada (hordem policy (effectiveVersionAt_eq_some hpolicy).1)

end Order

end AccessibilityPolicyManager

end PiaOs.Memory
