import Mathlib.Data.List.Dedup
import PiaOs.Memory.Governance

/-!
# Governance resolutions

`GovernanceResolution` puts its collections in canonical form and refuses every
combination that describes no real state. Building it again from its own fields
changes nothing.
-/

namespace PiaOs.Memory

open Support

inductive CriticalCapability
  | childSexualExploitation | minorTargetingForExploitation | weaponOfMassDestructionEnablement
  | catastrophicHarmEnablement
  deriving DecidableEq, Repr

def CriticalCapability.value : CriticalCapability → String
  | .childSexualExploitation => "child_sexual_exploitation"
  | .minorTargetingForExploitation => "minor_targeting_for_exploitation"
  | .weaponOfMassDestructionEnablement => "weapon_of_mass_destruction_enablement"
  | .catastrophicHarmEnablement => "catastrophic_harm_enablement"

/-- The entries without those that repeat an earlier one or are in `vistos`. -/
def keepFirst (vistos : List String) : List String → List String
  | [] => []
  | item :: rest =>
    if vistos.contains item then keepFirst vistos rest
    else item :: keepFirst (item :: vistos) rest

private theorem keepFirst_of_nodup {vistos items : List String} (hnodup : items.Nodup)
    (hfresh : ∀ item ∈ items, item ∉ vistos) : keepFirst vistos items = items := by
  induction items generalizing vistos with
  | nil => rfl
  | cons item rest ih =>
    obtain ⟨hitem, hrest⟩ := List.nodup_cons.mp hnodup
    have hnew := hfresh item List.mem_cons_self
    simp only [keepFirst, List.contains_eq_mem, hnew, decide_false, Bool.false_eq_true, if_false,
      List.cons.injEq, true_and]
    refine ih hrest fun other hother => ?_
    rw [List.mem_cons, not_or]
    exact ⟨fun heq => hitem (heq ▸ hother), hfresh other (List.mem_cons_of_mem _ hother)⟩

private theorem keepFirst_fresh {vistos items : List String} :
    (keepFirst vistos items).Nodup ∧ ∀ item ∈ keepFirst vistos items, item ∉ vistos := by
  induction items generalizing vistos with
  | nil => simp [keepFirst]
  | cons item rest ih =>
    rw [keepFirst]
    split
    case isTrue => exact ih
    case isFalse hnew =>
      obtain ⟨hnodup, hrest⟩ := @ih (item :: vistos)
      have hnew' : item ∉ vistos := by simpa using hnew
      refine ⟨List.nodup_cons.mpr ⟨fun hmem => hrest item hmem List.mem_cons_self, hnodup⟩, ?_⟩
      intro other hother
      rcases List.mem_cons.mp hother with rfl | hother
      · exact hnew'
      · exact fun hv => hrest other hother (List.mem_cons_of_mem _ hv)

private theorem mem_of_keepFirst {vistos items : List String} {s : String}
    (h : s ∈ keepFirst vistos items) : s ∈ items := by
  induction items generalizing vistos with
  | nil => exact h
  | cons item rest ih =>
    rw [keepFirst] at h
    split at h
    case isTrue => exact List.mem_cons_of_mem _ (ih h)
    case isFalse =>
      rcases List.mem_cons.mp h with rfl | hrest
      · exact List.mem_cons_self
      · exact List.mem_cons_of_mem _ (ih hrest)

/-- `_canonical_text_tuple`, once no entry is blank. -/
def canonicalTextTuple (items : List String) : List String := keepFirst [] items

theorem canonicalTextTuple_idem (items : List String) :
    canonicalTextTuple (canonicalTextTuple items) = canonicalTextTuple items := by
  have hfresh := @keepFirst_fresh [] items
  exact keepFirst_of_nodup hfresh.1 hfresh.2

theorem mem_of_canonicalTextTuple {items : List String} {s : String}
    (h : s ∈ canonicalTextTuple items) : s ∈ items := mem_of_keepFirst h

/-- `sorted(set(items))` by a key. -/
def sortedSet {α κ : Type} [DecidableEq α] [LinearOrder κ] (key : α → κ) (items : List α) :
    List α := items.dedup.insertionSort fun a b => key a ≤ key b

theorem sortedSet_idem {α κ : Type} [DecidableEq α] [LinearOrder κ] (key : α → κ)
    (items : List α) : sortedSet key (sortedSet key items) = sortedSet key items := by
  have htotal : Std.Total fun a b : α => key a ≤ key b := ⟨fun _ _ => le_total _ _⟩
  have htrans : IsTrans α fun a b => key a ≤ key b := ⟨fun _ _ _ => le_trans⟩
  have hnodup : (sortedSet key items).Nodup :=
    (List.perm_insertionSort _ _).nodup_iff.mpr (List.nodup_dedup items)
  have hsorted : (sortedSet key items).Pairwise fun a b => key a ≤ key b :=
    List.pairwise_insertionSort _ _
  unfold sortedSet at hnodup hsorted ⊢
  rw [hnodup.dedup, hsorted.insertionSort_eq]

@[simp] theorem mem_sortedSet {α κ : Type} [DecidableEq α] [LinearOrder κ] {key : α → κ}
    {items : List α} {a : α} : a ∈ sortedSet key items ↔ a ∈ items := by
  rw [sortedSet, (List.perm_insertionSort _ _).mem_iff, List.mem_dedup]

@[simp] theorem sortedSet_eq_nil {α κ : Type} [DecidableEq α] [LinearOrder κ] {key : α → κ}
    {items : List α} : sortedSet key items = [] ↔ items = [] := by
  simp only [List.eq_nil_iff_forall_not_mem, mem_sortedSet]

/-- What is strictly sorted already stays as it is. -/
theorem sortedSet_of_sorted {α κ : Type} [DecidableEq α] [LinearOrder κ] {key : α → κ}
    {items : List α} (h : items.Pairwise fun a b => key a < key b) : sortedSet key items = items := by
  have hnodup : items.Nodup := h.imp fun hlt heq => (heq ▸ hlt).false
  have hsorted : items.Pairwise fun a b => key a ≤ key b := h.imp le_of_lt
  rw [sortedSet, hnodup.dedup, hsorted.insertionSort_eq]

/-- The identifiers that occur more than once, sorted. -/
def duplicados (ids : List String) : List String :=
  sortedSet id (ids.filter fun rid => 1 < ids.count rid)

theorem duplicados_eq_nil {ids : List String} : duplicados ids = [] ↔ ids.Nodup := by
  rw [duplicados, sortedSet_eq_nil, List.filter_eq_nil_iff, List.nodup_iff_count_le_one]
  constructor
  · intro hnone rid
    by_cases hmem : rid ∈ ids
    · have hcount := hnone rid hmem
      simp only [decide_eq_true_eq, not_lt] at hcount
      exact hcount
    · rw [List.count_eq_zero_of_not_mem hmem]
      omega
  · intro hone rid _
    have hcount := hone rid
    simp only [decide_eq_true_eq, not_lt]
    exact hcount

/-- What a resolution is built from. -/
structure ResolutionFields where
  outcome : GovernanceOutcome
  operation : CognitiveOperation
  contextDomainIds : List Uuid
  contextActorRef : Option String
  contextPurpose : Option String
  safetyBoundaryVersion : Int
  safetyRationale : String := ""
  blockedCapabilities : List CriticalCapability := []
  preservedIntent : Option String := none
  admissibleAlternatives : List String := []
  constraints : List String := []
  declaredPreservations : List String := []
  declaredLosses : List String := []
  policyKey : Option String := none
  policyVersion : Option Int := none
  policyId : Option Uuid := none
  matchedRuleId : Option String := none
  policyRationale : String := ""
  deriving DecidableEq

namespace ResolutionFields

/-- The collections in canonical form. -/
def canonical (f : ResolutionFields) : ResolutionFields :=
  { f with
    contextDomainIds := sortedSet Uuid.int f.contextDomainIds
    blockedCapabilities := sortedSet CriticalCapability.value f.blockedCapabilities
    admissibleAlternatives := canonicalTextTuple f.admissibleAlternatives
    constraints := canonicalTextTuple f.constraints
    declaredPreservations := canonicalTextTuple f.declaredPreservations
    declaredLosses := canonicalTextTuple f.declaredLosses }

theorem canonical_idem (f : ResolutionFields) : f.canonical.canonical = f.canonical := by
  simp [canonical, sortedSet_idem, canonicalTextTuple_idem]

def evaluatedText (nome : String) (valor : Option String) : Option String :=
  refuse (valor.any blank) (nome ++ ", quando presente, não pode ser vazio — ausência se declara " ++
    "com None, não com espaços")

def textTuple (nome : String) (itens : List String) : Option String :=
  refuse (itens.any blank) (nome ++ " não aceita entradas vazias ou apenas espaços")

def optionalText (nome : String) (valor : Option String) : Option String :=
  refuse (valor.any blank) (nome ++ " não pode ser vazio ou apenas espaços — omita-o")

theorem evaluatedText_eq_none {nome : String} {valor : Option String} :
    evaluatedText nome valor = none ↔ ∀ text ∈ valor, blank text = false := by
  cases valor <;> simp [evaluatedText]

theorem textTuple_eq_none {nome : String} {itens : List String} :
    textTuple nome itens = none ↔ ∀ text ∈ itens, blank text = false := by
  simp [textTuple]

theorem optionalText_eq_none {nome : String} {valor : Option String} :
    optionalText nome valor = none ↔ ∀ text ∈ valor, blank text = false := by
  cases valor <;> simp [optionalText]

def temIdentidade (f : ResolutionFields) : Bool :=
  f.policyKey.isSome && f.policyVersion.isSome && f.policyId.isSome

def identidadeParcial (f : ResolutionFields) : Bool :=
  (f.policyKey.isSome || f.policyVersion.isSome || f.policyId.isSome) && !f.temIdentidade

/-- `_validate_coherence`. -/
def coherence (f : ResolutionFields) : Option String :=
  firstOf
    [refuse f.identidadeParcial
        ("proveniência de policy incompleta — policy_key, policy_version e policy_id são " ++
          "tudo-ou-nada; proveniência parcial parece proveniência"),
      refuse (f.matchedRuleId.isSome && !f.temIdentidade)
        ("matched_rule_id sem identidade de policy — uma regra sem a versão de onde veio não " ++
          "identifica nada"),
      if f.outcome = .prohibited then firstOf
        [refuse f.blockedCapabilities.isEmpty
            ("PROHIBITED exige ao menos uma capacidade bloqueada — uma recusa que não diz o que " ++
              "bloqueou é irrecorrível"),
          refuse (f.temIdentidade || f.matchedRuleId.isSome)
            ("PROHIBITED não pode carregar proveniência de policy local — quando a fronteira " ++
              "proíbe, a policy sequer é consultada")]
      else firstOf
        [refuse (!f.blockedCapabilities.isEmpty) (f.outcome.value ++
            " não pode carregar capacidades bloqueadas — capacidade bloqueada é a marca da " ++
              "fronteira de segurança"),
          if f.outcome = .notApplicable then
            refuse f.matchedRuleId.isSome
              "NOT_APPLICABLE não cita regra — se nenhuma se aplicou, não há o que citar"
          else refuse (!f.temIdentidade || f.matchedRuleId.isNone) (f.outcome.value ++
            " exige proveniência local completa (policy_key, policy_version, policy_id e " ++
              "matched_rule_id) — sem ela não se pode dizer sob qual regra a decisão foi tomada")]]

/-- The coherent fields, by the outcome that they describe. -/
theorem coherence_eq_none {f : ResolutionFields} : f.coherence = none ↔
    f.identidadeParcial = false ∧ (f.matchedRuleId.isSome && !f.temIdentidade) = false ∧
      if f.outcome = .prohibited then
        f.blockedCapabilities.isEmpty = false ∧
          (f.temIdentidade || f.matchedRuleId.isSome) = false
      else f.blockedCapabilities.isEmpty = true ∧
        if f.outcome = .notApplicable then f.matchedRuleId.isSome = false
        else (!f.temIdentidade || f.matchedRuleId.isNone) = false := by
  rw [coherence, firstOf_eq_none]
  simp only [List.forall_mem_cons, refuse_eq_none, List.not_mem_nil, IsEmpty.forall_iff,
    implies_true, and_true]
  split
  case isTrue =>
    rw [firstOf_eq_none]
    simp only [List.forall_mem_cons, refuse_eq_none, List.not_mem_nil, IsEmpty.forall_iff,
      implies_true, and_true]
  case isFalse =>
    rw [firstOf_eq_none]
    simp only [List.forall_mem_cons, refuse_eq_none, List.not_mem_nil, IsEmpty.forall_iff,
      implies_true, and_true, Bool.not_eq_false']
    split <;> rw [refuse_eq_none]

/-- The checks of `__post_init__`, in order. -/
def violation (f : ResolutionFields) : Option String :=
  firstOf
    [refuse (f.safetyBoundaryVersion < 1) "safety_boundary_version deve ser >= 1",
      evaluatedText "context_actor_ref" f.contextActorRef,
      evaluatedText "context_purpose" f.contextPurpose,
      textTuple "admissible_alternatives" f.admissibleAlternatives,
      textTuple "constraints" f.constraints,
      textTuple "declared_preservations" f.declaredPreservations,
      textTuple "declared_losses" f.declaredLosses,
      optionalText "preserved_intent" f.preservedIntent,
      optionalText "policy_key" f.policyKey,
      optionalText "matched_rule_id" f.matchedRuleId,
      refuse (f.policyVersion.any (· < 1)) "policy_version deve ser >= 1",
      f.coherence]

/-- What the checks on single fields ask for. -/
structure Stated (f : ResolutionFields) : Prop where
  boundaryVersion : 1 ≤ f.safetyBoundaryVersion
  actor : ∀ actor ∈ f.contextActorRef, blank actor = false
  purpose : ∀ text ∈ f.contextPurpose, blank text = false
  alternatives : ∀ text ∈ f.admissibleAlternatives, blank text = false
  constraints : ∀ text ∈ f.constraints, blank text = false
  preservations : ∀ text ∈ f.declaredPreservations, blank text = false
  losses : ∀ text ∈ f.declaredLosses, blank text = false
  intent : ∀ text ∈ f.preservedIntent, blank text = false
  policyKey : ∀ key ∈ f.policyKey, blank key = false
  matchedRule : ∀ ruleId ∈ f.matchedRuleId, blank ruleId = false
  policyVersion : ∀ version ∈ f.policyVersion, 1 ≤ version

theorem coherence_canonical (f : ResolutionFields) : f.canonical.coherence = f.coherence := by
  have hempty : f.canonical.blockedCapabilities.isEmpty = f.blockedCapabilities.isEmpty := by
    rw [Bool.eq_iff_iff, List.isEmpty_iff, List.isEmpty_iff]
    exact sortedSet_eq_nil
  unfold coherence
  rw [hempty]
  rfl

/-- Stated fields that describe a real state pass every check. -/
theorem violation_canonical {f : ResolutionFields} (h : f.Stated) (hcoherent : f.coherence = none) :
    f.canonical.violation = none := by
  have hversion : f.policyVersion.any (· < 1) = false := by
    cases hcase : f.policyVersion with
    | none => rfl
    | some version =>
      have hpositive := h.policyVersion version hcase
      simpa using hpositive
  have hboundary : ¬f.safetyBoundaryVersion < 1 := not_lt.mpr h.boundaryVersion
  have htuple {itens : List String} (hstated : ∀ text ∈ itens, blank text = false) :
      ∀ text ∈ canonicalTextTuple itens, blank text = false :=
    fun text hmem => hstated text (mem_of_canonicalTextTuple hmem)
  rw [violation, firstOf_eq_none]
  simp only [List.forall_mem_cons, coherence_canonical, hcoherent]
  simp only [canonical, refuse_eq_none, hversion, hboundary, decide_false, true_and,
    evaluatedText_eq_none, textTuple_eq_none, optionalText_eq_none]
  exact ⟨h.actor, h.purpose, htuple h.alternatives, htuple h.constraints, htuple h.preservations,
    htuple h.losses, h.intent, h.policyKey, h.matchedRule, by simp⟩

end ResolutionFields

/-- A resolution: its fields are canonical and describe a real state. -/
structure GovernanceResolution extends ResolutionFields where
  isCanonical : toResolutionFields.canonical = toResolutionFields
  accepted : toResolutionFields.violation = none
  deriving DecidableEq

namespace GovernanceResolution

def make (f : ResolutionFields) : Except String GovernanceResolution :=
  checked _ fun h => ⟨f.canonical, f.canonical_idem, h⟩

/-- A built resolution has the fields that it was given, in canonical form. -/
theorem of_make {f : ResolutionFields} {r : GovernanceResolution} (h : make f = .ok r) :
    r.toResolutionFields = f.canonical := by
  obtain ⟨_, rfl⟩ := of_checked h
  rfl

/-- Stated fields that describe a real state are built. -/
theorem make_eq_ok {f : ResolutionFields} (h : f.Stated) (hcoherent : f.coherence = none) :
    ∃ r, make f = .ok r ∧ r.toResolutionFields = f.canonical :=
  ⟨_, checked_eq_ok (ResolutionFields.violation_canonical h hcoherent), rfl⟩

/-- Built again from its own fields, a resolution is the same. -/
theorem make_self (r : GovernanceResolution) : make r.toResolutionFields = .ok r := by
  obtain ⟨f, hcanonical, haccepted⟩ := r
  have hviolation : f.canonical.violation = none := by rw [hcanonical, haccepted]
  rw [make, checked_eq_ok hviolation]
  congr 2

/-- `execution_authorized`. -/
def executionAuthorized (r : GovernanceResolution) : Bool := r.outcome = .admissible

end GovernanceResolution

end PiaOs.Memory
