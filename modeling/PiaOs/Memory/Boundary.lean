import PiaOs.Memory.Resolution

/-!
# The platform safety boundary

The boundary judges a typed descriptor before any policy is read. It forbids a
critical capability whose engagement is operational or not stated, and is silent
about everything else: it never admits.
-/

namespace PiaOs.Memory

open Support

inductive CapabilityEngagement
  | operationalEnablement | analytical | preventive | unspecified
  deriving DecidableEq, Repr

def CapabilityEngagement.value : CapabilityEngagement → String
  | .operationalEnablement => "operational_enablement"
  | .analytical => "analytical"
  | .preventive => "preventive"
  | .unspecified => "unspecified"

/-- The capabilities by their values. -/
def CriticalCapability.inOrder : List CriticalCapability :=
  [.catastrophicHarmEnablement, .childSexualExploitation, .minorTargetingForExploitation,
    .weaponOfMassDestructionEnablement]

/-- What is asked of the boundary. The stated intent is only ever recorded. -/
structure CapabilityDescriptor where
  operation : CognitiveOperation
  capabilities : Finset CriticalCapability := ∅
  engagement : CapabilityEngagement := .unspecified
  statedIntent : Option String := none
  statedIntent_stated : ∀ text ∈ statedIntent, blank text = false := by decide

def platformSafetyBoundaryVersion : Int := 1

def engagementsThatProhibit : List CapabilityEngagement := [.operationalEnablement, .unspecified]

def preservableEngagements : List CapabilityEngagement := [.analytical, .preventive]

/-- The catalogue of alternatives: kinds of legitimate work, proposals only. -/
def alternativesByCapability : CriticalCapability → List String
  | .childSexualExploitation =>
    ["trabalho de prevenção e educação protetiva",
      "detecção e denúncia a canais competentes e a autoridades",
      "apoio a vítimas e encaminhamento a serviços de proteção",
      "pesquisa ética com dados sintéticos e supervisão institucional"]
  | .minorTargetingForExploitation =>
    ["reconhecimento de padrões de aliciamento para fins de proteção",
      "capacitação de responsáveis, escolas e moderação de plataformas",
      "detecção e denúncia a canais competentes e a autoridades",
      "pesquisa ética com dados sintéticos e supervisão institucional"]
  | .weaponOfMassDestructionEnablement =>
    ["história, política e direito de não proliferação",
      "defesa, biossegurança e preparo de resposta a incidentes",
      "análise de tratados, verificação e salvaguardas"]
  | .catastrophicHarmEnablement =>
    ["proteção e resiliência de infraestrutura crítica",
      "detecção, resposta a incidentes e continuidade de operações",
      "análise de risco e regulação de segurança"]

def alternativesFor (capabilities : List CriticalCapability) : List String :=
  canonicalTextTuple (capabilities.flatMap alternativesByCapability)

/-- No alternative of the catalogue is a blank text. -/
theorem alternativesFor_stated {capabilities : List CriticalCapability} {text : String}
    (h : text ∈ alternativesFor capabilities) : blank text = false := by
  obtain ⟨capability, -, hmem⟩ := List.mem_flatMap.mp (mem_of_canonicalTextTuple h)
  have hstated : ∀ text ∈ alternativesByCapability capability, blank text = false := by
    cases capability <;> simp only [alternativesByCapability, List.forall_mem_cons] <;>
      and_intros <;> first | exact stated_of_head (by decide) | simp
  exact hstated text hmem

/-- What an assessment is built from. -/
structure AssessmentFields where
  outcome : GovernanceOutcome
  boundaryVersion : Int
  blockedCapabilities : List CriticalCapability := []
  admissibleAlternatives : List String := []
  preservedIntent : Option String := none
  rationale : String := ""

namespace AssessmentFields

def canonical (f : AssessmentFields) : AssessmentFields :=
  { f with
    blockedCapabilities := sortedSet CriticalCapability.value f.blockedCapabilities
    admissibleAlternatives := canonicalTextTuple f.admissibleAlternatives }

theorem canonical_idem (f : AssessmentFields) : f.canonical.canonical = f.canonical := by
  simp [canonical, sortedSet_idem, canonicalTextTuple_idem]

/-- The checks of `__post_init__`, in order. -/
def violation (f : AssessmentFields) : Option String :=
  firstOf
    [refuse (f.boundaryVersion < 1) "boundary_version deve ser >= 1",
      ResolutionFields.textTuple "admissible_alternatives" f.admissibleAlternatives,
      ResolutionFields.optionalText "preserved_intent" f.preservedIntent,
      refuse (f.outcome ≠ .prohibited && f.outcome ≠ .notApplicable)
        ("a fronteira nunca produz '" ++ f.outcome.value ++ "' — ela proíbe ou se cala; " ++
          "um piso de segurança que concedesse permissão seria autoridade " ++
          "concorrente da policy local"),
      refuse (f.outcome = .prohibited && f.blockedCapabilities.isEmpty)
        ("PROHIBITED exige ao menos uma capacidade bloqueada — uma recusa que " ++
          "não diz o que bloqueou é irrecorrível"),
      refuse (f.outcome = .notApplicable && !f.blockedCapabilities.isEmpty)
        ("NOT_APPLICABLE não bloqueia capacidade alguma — a fronteira ou " ++
          "proíbe e diz o quê, ou se cala")]

end AssessmentFields

/-- The answer of the boundary. -/
structure SafetyAssessment extends AssessmentFields where
  isCanonical : toAssessmentFields.canonical = toAssessmentFields
  accepted : toAssessmentFields.violation = none

namespace SafetyAssessment

def make (f : AssessmentFields) : Except String SafetyAssessment :=
  checked _ fun h => ⟨f.canonical, f.canonical_idem, h⟩

def prohibits (a : SafetyAssessment) : Bool := a.outcome = .prohibited

end SafetyAssessment

/-- The intent that may be kept: only where the engagement itself is legitimate. -/
def preservedIntent (descriptor : CapabilityDescriptor) : Option String :=
  if descriptor.engagement ∈ preservableEngagements then descriptor.statedIntent else none

/-- What the boundary finds about a descriptor. -/
def assessment (descriptor : CapabilityDescriptor) : AssessmentFields :=
  if descriptor.capabilities = ∅ then
    { outcome := .notApplicable
      boundaryVersion := platformSafetyBoundaryVersion
      rationale := "nenhuma capacidade crítica declarada" }
  else
    let bloqueadas := CriticalCapability.inOrder.filter (· ∈ descriptor.capabilities)
    if descriptor.engagement ∉ engagementsThatProhibit then
      { outcome := .notApplicable
        boundaryVersion := platformSafetyBoundaryVersion
        preservedIntent := preservedIntent descriptor
        rationale := "engajamento '" ++ descriptor.engagement.value ++
          "' não habilita capacidade — a fronteira não se opõe; a policy local decide" }
    else
      { outcome := .prohibited
        boundaryVersion := platformSafetyBoundaryVersion
        blockedCapabilities := bloqueadas
        admissibleAlternatives := alternativesFor bloqueadas
        preservedIntent := preservedIntent descriptor
        rationale := "engajamento '" ++ descriptor.engagement.value ++
          "' sobre capacidade crítica (" ++
          ", ".intercalate (bloqueadas.map CriticalCapability.value) ++
          ") — recusado pela fronteira da plataforma, não sobreponível por policy local" }

def assessCapability (descriptor : CapabilityDescriptor) : Except String SafetyAssessment :=
  SafetyAssessment.make (assessment descriptor)

/-- The descriptors that the boundary forbids. -/
def CapabilityDescriptor.Forbidden (descriptor : CapabilityDescriptor) : Prop :=
  descriptor.capabilities.Nonempty ∧
    (descriptor.engagement = .operationalEnablement ∨ descriptor.engagement = .unspecified)

theorem mem_engagementsThatProhibit {engagement : CapabilityEngagement} :
    engagement ∈ engagementsThatProhibit ↔
      engagement = .operationalEnablement ∨ engagement = .unspecified := by
  simp [engagementsThatProhibit]

theorem CriticalCapability.mem_inOrder (capability : CriticalCapability) :
    capability ∈ CriticalCapability.inOrder := by
  cases capability <;> decide

namespace SafetyAssessment

/-- What `make` accepts: the boundary forbids and says what, or is silent. -/
private theorem make_eq_ok {f : AssessmentFields} (hversion : f.boundaryVersion = 1)
    (halternatives : ∀ text ∈ f.admissibleAlternatives, blank text = false)
    (hintent : ∀ text ∈ f.preservedIntent, blank text = false)
    (houtcome : f.outcome = .prohibited ∧ f.blockedCapabilities ≠ [] ∨
      f.outcome = .notApplicable ∧ f.blockedCapabilities = []) :
    ∃ a, make f = .ok a ∧ a.toAssessmentFields = f.canonical := by
  have hviolation : f.canonical.violation = none := by
    rw [AssessmentFields.violation, firstOf_eq_none]
    simp only [List.forall_mem_cons, AssessmentFields.canonical, refuse_eq_none, hversion,
      ResolutionFields.textTuple_eq_none, ResolutionFields.optionalText_eq_none]
    have htuple : ∀ text ∈ canonicalTextTuple f.admissibleAlternatives, blank text = false :=
      fun text hmem => halternatives text (mem_of_canonicalTextTuple hmem)
    refine ⟨by decide, htuple, hintent, ?_⟩
    rcases houtcome with ⟨h, hne⟩ | ⟨h, hnil⟩ <;> simp [*]
  exact ⟨_, checked_eq_ok hviolation, rfl⟩

/-- What every assessment has passed. -/
theorem holds (a : SafetyAssessment) : 1 ≤ a.boundaryVersion ∧
    (∀ text ∈ a.admissibleAlternatives, blank text = false) ∧
    (∀ text ∈ a.preservedIntent, blank text = false) ∧
    (a.prohibits = true → a.blockedCapabilities ≠ []) := by
  have haccepted := a.accepted
  rw [AssessmentFields.violation, firstOf_eq_none] at haccepted
  simp only [List.forall_mem_cons, refuse_eq_none, decide_eq_false_iff_not, not_lt,
    ResolutionFields.textTuple_eq_none, ResolutionFields.optionalText_eq_none] at haccepted
  obtain ⟨hversion, halternatives, hintent, -, hblocked, -⟩ := haccepted
  refine ⟨hversion, halternatives, hintent, fun hprohibits hnil => ?_⟩
  have houtcome : a.outcome = .prohibited := of_decide_eq_true hprohibits
  simp [houtcome, hnil] at hblocked

end SafetyAssessment

theorem preservedIntent_stated {descriptor : CapabilityDescriptor} {text : String}
    (h : text ∈ preservedIntent descriptor) : blank text = false := by
  unfold preservedIntent at h
  split at h
  case isTrue => exact descriptor.statedIntent_stated text h
  case isFalse => cases h

theorem assessment_stated {descriptor : CapabilityDescriptor} {text : String} :
    (text ∈ (assessment descriptor).admissibleAlternatives → blank text = false) ∧
      (text ∈ (assessment descriptor).preservedIntent → blank text = false) := by
  unfold assessment
  split
  case isTrue => simp
  case isFalse =>
    split
    case isTrue => exact ⟨by simp, preservedIntent_stated⟩
    case isFalse => exact ⟨alternativesFor_stated, preservedIntent_stated⟩

/-- The boundary forbids and names what it blocks, or is silent and blocks nothing. -/
theorem assessment_outcome (descriptor : CapabilityDescriptor) :
    descriptor.Forbidden ∧ (assessment descriptor).outcome = .prohibited ∧
        (assessment descriptor).blockedCapabilities ≠ [] ∨
      ¬descriptor.Forbidden ∧ (assessment descriptor).outcome = .notApplicable ∧
        (assessment descriptor).blockedCapabilities = [] := by
  by_cases hnone : descriptor.capabilities = ∅
  · right
    simp [assessment, CapabilityDescriptor.Forbidden, hnone]
  have hsome : descriptor.capabilities.Nonempty := Finset.nonempty_iff_ne_empty.mpr hnone
  by_cases hprohibits : descriptor.engagement ∈ engagementsThatProhibit
  · left
    have hengagement := mem_engagementsThatProhibit.mp hprohibits
    refine ⟨⟨hsome, hengagement⟩, ?_⟩
    have hblocked : CriticalCapability.inOrder.filter (· ∈ descriptor.capabilities) ≠ [] := by
      obtain ⟨capability, hmem⟩ := hsome
      have hin : capability ∈ CriticalCapability.inOrder.filter (· ∈ descriptor.capabilities) :=
        List.mem_filter.mpr ⟨CriticalCapability.mem_inOrder capability, by simpa using hmem⟩
      exact List.ne_nil_of_mem hin
    simpa only [assessment, if_neg hnone, hprohibits, not_true_eq_false, if_false, true_and,
      ne_eq] using hblocked
  · right
    have hengagement := mt mem_engagementsThatProhibit.mpr hprohibits
    refine ⟨fun h => hengagement h.2, ?_⟩
    simp [assessment, hnone, hprohibits]

/-- The boundary always answers, and forbids exactly what is forbidden. -/
theorem assessCapability_eq_ok (descriptor : CapabilityDescriptor) :
    ∃ a, assessCapability descriptor = .ok a ∧ (a.prohibits = true ↔ descriptor.Forbidden) := by
  have houtcome := assessment_outcome descriptor
  have hversion : (assessment descriptor).boundaryVersion = 1 := by
    unfold assessment
    split <;> [rfl; split <;> rfl]
  obtain ⟨a, ha, hfields⟩ := SafetyAssessment.make_eq_ok hversion
    (fun _ => assessment_stated.1) (fun _ => assessment_stated.2)
    (houtcome.imp And.right And.right)
  refine ⟨a, ha, ?_⟩
  have hsame : a.outcome = (assessment descriptor).outcome := by
    rw [hfields]
    rfl
  rw [SafetyAssessment.prohibits, decide_eq_true_iff, hsame]
  rcases houtcome with ⟨hforbidden, h, -⟩ | ⟨hforbidden, h, -⟩ <;> simp [h, hforbidden]

end PiaOs.Memory
