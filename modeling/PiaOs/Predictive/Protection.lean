import PiaOs.Predictive.Conflict

/-!
# Protection and guidance

The materiality of each protective candidate is derived from the approval that was already
validated. The set of candidates is complete only when nothing of it is left unresolved, and
guidance is valid only when every test of it passes.
-/

namespace PiaOs.Predictive

open Support Memory Piap

/-- `ApprovalValidationOutcome.value`. -/
def valorDe : ApprovalValidationOutcome → String
  | .valid => "valid"
  | .missing => "missing"
  | .notAuthorized => "not_authorized"
  | .expired => "expired"
  | .versionMismatch => "version_mismatch"
  | .outOfScope => "out_of_scope"
  | .jurisdictionMismatch => "jurisdiction_mismatch"
  | .bindingMismatch => "binding_mismatch"

/-- A comparison of instants, which raises a `TypeError` when only one has an offset. -/
def comparar (a b : Momento) : Except Erro Bool :=
  match a.antes b with
  | some antes => .ok antes
  | none => .error .comparacao

/-! ## Materiality -/

inductive PredictiveMaterialityStatus
  | supported
  | notSupported
  | unresolved
  deriving DecidableEq

structure PredictiveMaterialityAuthority where
  reference : Texto
  authority : Texto
  jurisdiction : Texto
  version : ℤ
  scope : List Texto
  validFrom : Option Momento
  validUntil : Option Momento

structure PredictiveProtectionCandidateInput where
  identifier : Texto
  reason : Texto
  provenance : Texto
  materialEffectClaimed : Bool
  authority : Option PredictiveMaterialityAuthority
  owner : Option Texto
  timeWindow : Option Texto
  reversibility : Option Texto
  triggers : List Texto
  incompatibleWith : List Texto
  preenchido : identifier ≠ [] ∧ reason ≠ [] ∧ provenance ≠ []
  consistente : identifier ∉ incompatibleWith ∧ incompatibleWith.Nodup

/-- `owner`, `time_window`, `reversibility` and `triggers` are all there. -/
def PredictiveProtectionCandidateInput.Operavel (c : PredictiveProtectionCandidateInput) : Prop :=
  c.owner ≠ none ∧ c.timeWindow ≠ none ∧ c.reversibility ≠ none ∧ c.triggers ≠ []

instance (c : PredictiveProtectionCandidateInput) : Decidable c.Operavel := by
  unfold PredictiveProtectionCandidateInput.Operavel
  infer_instance

/-- A candidate with its materiality and the reason of it. -/
structure PredictiveProtectionCandidate where
  entrada : PredictiveProtectionCandidateInput
  materiality : PredictiveMaterialityStatus
  classificationReason : String
  sustentado : materiality = .supported → entrada.authority ≠ none ∧ entrada.Operavel

def PredictiveProtectionCandidate.identifier (c : PredictiveProtectionCandidate) : Texto :=
  c.entrada.identifier

/-- The window of an authority, and how it lies to the instant and to the approval. -/
def janelaDeAutoridade (authority : PredictiveMaterialityAuthority) (approval : ApprovalBinding)
    (at_ : Momento) : Except Erro (Option String) :=
  match authority.validFrom, authority.validUntil with
  | some desde, some ate => do
    if !(← comparar desde ate) then return some "janela de autoridade incoerente"
    if ← comparar at_ desde then return some "autoridade fora da janela de vigência"
    if !(← comparar at_ ate) then return some "autoridade fora da janela de vigência"
    match approval.approvalExpiry with
    | none => return none
    | some expiry =>
      if ← comparar (.ciente (Instante.utc expiry)) ate then
        return some "janela de autoridade excede a aprovação PIAP"
      return none
  | _, _ => .ok (some "janela de autoridade ausente")

/-- `predictive_materiality_authority_failure`. -/
def predictiveMaterialityAuthorityFailure (authority : Option PredictiveMaterialityAuthority)
    (evaluation : PredictiveClaimEvaluationResult) (approvalBinding : Option ApprovalBinding)
    (at_ : Momento) (requiredScope : List Texto) : Except Erro (Option String) :=
  if evaluation.approvalValidationOutcome ≠ .valid then
    .ok (some ("aprovação PIAP " ++ valorDe evaluation.approvalValidationOutcome ++
      ": materialidade não sustentada"))
  else
    match authority, approvalBinding with
    | none, _ => .ok (some "sem referência de autoridade de materialidade")
    | some _, none => .ok (some "aprovação PIAP validada sem vínculo preservado no coordenador")
    | some authority, some approval =>
      if ¬Declarado authority.reference ∨ ¬Declarado authority.authority then
        .ok (some "referência ou autoridade vazia")
      else if authority.reference ≠ approval.approvalReference then
        .ok (some "referência de autoridade não vinculada à aprovação PIAP")
      else if authority.version < 1 ∨ authority.version ≠ approval.approvalVersion then
        .ok (some "versão de autoridade divergente da aprovação PIAP")
      else if some authority.jurisdiction ≠ approval.approvalJurisdiction then
        .ok (some "jurisdição de autoridade divergente da aprovação PIAP")
      else if ¬authority.scope ⊆ approval.approvalScope then
        .ok (some "escopo declarado pela autoridade excede a aprovação PIAP")
      else if ¬requiredScope ⊆ authority.scope then .ok (some "escopo de autoridade insuficiente")
      else janelaDeAutoridade authority approval at_

/-- Where nothing fails, there is an authority and the approval is valid. -/
theorem autoridade_of_sem_falha {authority : Option PredictiveMaterialityAuthority}
    {evaluation : PredictiveClaimEvaluationResult} {approvalBinding : Option ApprovalBinding}
    {at_ : Momento} {requiredScope : List Texto}
    (h : predictiveMaterialityAuthorityFailure authority evaluation approvalBinding at_
      requiredScope = .ok none) :
    authority ≠ none ∧ evaluation.approvalValidationOutcome = .valid := by
  unfold predictiveMaterialityAuthorityFailure at h
  by_cases hvalid : evaluation.approvalValidationOutcome = .valid
  · refine ⟨?_, hvalid⟩
    rintro rfl
    rw [if_neg (not_not.mpr hvalid)] at h
    cases Except.ok.inj h
  · rw [if_pos hvalid] at h
    cases Except.ok.inj h

/-- What is found of a candidate whose authority was examined. -/
def classificado (entrada : PredictiveProtectionCandidateInput)
    (assertiveness : PredictiveAssertiveness) (conflictAssessment : PredictiveConflictAssessment)
    (falha : Option String) (hautoridade : falha = none → entrada.authority ≠ none) :
    PredictiveProtectionCandidate :=
  let pendente (motivo : String) : PredictiveProtectionCandidate :=
    ⟨entrada, .unresolved, motivo, nofun⟩
  if !entrada.materialEffectClaimed then
    ⟨entrada, .notSupported, "nenhum efeito material alegado", nofun⟩
  else
    match falha, hautoridade with
    | some motivo, _ => pendente motivo
    | none, hautoridade =>
      if conflictAssessment.blocksSafeRoute then
        pendente "conflito real entre alegações impede sustentar materialidade"
      else if assertiveness.authorityState ≠ .authorized then
        pendente "assertividade sem estado de autoridade"
      else if hoperavel : entrada.Operavel then
        ⟨entrada, .supported, "efeito material sustentado por autoridade válida",
          fun _ => ⟨hautoridade rfl, hoperavel⟩⟩
      else pendente "faltam owner, janela, reversibilidade ou gatilhos"

/-- `_classificar`. -/
def classificar (assertiveness : PredictiveAssertiveness)
    (evaluation : PredictiveClaimEvaluationResult) (approvalBinding : Option ApprovalBinding)
    (conflictAssessment : PredictiveConflictAssessment) (at_ : Momento)
    (requiredScope : List Texto) (entrada : PredictiveProtectionCandidateInput) :
    Except Erro PredictiveProtectionCandidate :=
  match h : predictiveMaterialityAuthorityFailure entrada.authority evaluation approvalBinding at_
      requiredScope with
  | .error e => .error e
  | .ok falha =>
    .ok (classificado entrada assertiveness conflictAssessment falha fun hnone => by
      subst hnone
      exact (autoridade_of_sem_falha h).1)

/-! ## The set of candidates -/

structure PredictiveProtectionSet where
  accepted : List PredictiveProtectionCandidate
  rejected : List PredictiveProtectionCandidate
  unresolved : List PredictiveProtectionCandidate
  assertiveness : PredictiveAssertiveness
  evaluation : PredictiveClaimEvaluationResult
  conflictAssessment : PredictiveConflictAssessment
  coverageUnresolvedReason : Option Texto

/-- `complete_answer_allowed`. -/
def PredictiveProtectionSet.completeAnswerAllowed (s : PredictiveProtectionSet) : Bool :=
  s.unresolved.isEmpty && s.coverageUnresolvedReason.isNone

/-- Why the coverage of the candidates is not settled. -/
def coberturaPendente (classificados : List PredictiveProtectionCandidate)
    (requiredIdentifiers : List Texto) (inventoryReference : Option Texto) : Option Texto :=
  let faltantes := requiredIdentifiers.filter fun i => i ∉ classificados.map (·.identifier)
  if classificados.isEmpty && requiredIdentifiers.isEmpty then
    some (Texto.of "cobertura protetiva não avaliada: nenhum candidato nem evidência negativa")
  else if !requiredIdentifiers.isEmpty && (inventoryReference.getD []).isEmpty then
    some (Texto.of "inventário de frentes protetivas sem proveniência")
  else if !faltantes.isEmpty then
    some (Texto.of "frentes protetivas requeridas ausentes: " ++
      (faltantes.intersperse (Texto.of ", ")).flatten)
  else none

/-- `ids_incompativeis`: of the accepted candidates that exclude another or that another one
excludes. -/
def idsIncompativeis (aceitos : List PredictiveProtectionCandidate) : List Texto :=
  (aceitos.filter fun c =>
    c.entrada.incompatibleWith.any (fun i => i ∈ aceitos.map (·.identifier)) ||
      aceitos.any fun outro => c.identifier ∈ outro.entrada.incompatibleWith).map (·.identifier)

/-- `replace` of an accepted candidate that is incompatible with another. -/
def PredictiveProtectionCandidate.reclassificado (c : PredictiveProtectionCandidate) :
    PredictiveProtectionCandidate :=
  ⟨c.entrada, .unresolved, "ação protetiva incompatível sem critério decisivo validado", nofun⟩

/-- The candidates after the incompatible ones were reclassified: of the accepted ones with one
identifier, the last stands for all. -/
def finais (classificados : List PredictiveProtectionCandidate) :
    List PredictiveProtectionCandidate :=
  let aceitos := classificados.filter fun c => c.materiality = .supported
  classificados.map fun c =>
    if c.identifier ∈ idsIncompativeis aceitos then
      ((aceitos.reverse.find? fun outro => outro.identifier = c.identifier).map
        (·.reclassificado)).getD c
    else c

/-- `predictive_protection_set`. -/
def predictiveProtectionSet (candidates : List PredictiveProtectionCandidateInput)
    (assertiveness : PredictiveAssertiveness) (evaluation : PredictiveClaimEvaluationResult)
    (approvalBinding : Option ApprovalBinding) (conflictAssessment : PredictiveConflictAssessment)
    (at_ : Momento) (requiredScope requiredIdentifiers : List Texto)
    (inventoryReference : Option Texto) : Except Erro PredictiveProtectionSet := do
  let classificados ← candidates.mapM (classificar assertiveness evaluation approvalBinding
    conflictAssessment at_ requiredScope)
  let das (m : PredictiveMaterialityStatus) := (finais classificados).filter (·.materiality = m)
  return {
    accepted := das .supported
    rejected := das .notSupported
    unresolved := das .unresolved
    assertiveness
    evaluation
    conflictAssessment
    coverageUnresolvedReason :=
      coberturaPendente classificados requiredIdentifiers inventoryReference }

/-! ## Guidance -/

inductive PredictiveGuidanceOutcome
  | valid
  | missing
  | stale
  | invalid
  | jurisdictionMismatch
  | versionMismatch
  deriving DecidableEq

def PredictiveGuidanceOutcome.value : PredictiveGuidanceOutcome → String
  | .valid => "valid"
  | .missing => "missing"
  | .stale => "stale"
  | .invalid => "invalid"
  | .jurisdictionMismatch => "jurisdiction_mismatch"
  | .versionMismatch => "version_mismatch"

inductive PredictiveGuidanceDisposition
  | useProceduralDetail
  | referToCompetentAuthority
  | abstainFromProceduralDetail
  deriving DecidableEq

structure PredictiveGuidanceReference where
  reference : Texto
  authority : Texto
  provenance : Texto
  jurisdiction : Texto
  version : ℤ
  validFrom : Option Momento
  validUntil : Option Momento

/-- `predictive_validate_guidance`. -/
def predictiveValidateGuidance (guidance : Option PredictiveGuidanceReference) (at_ : Momento)
    (expectedJurisdiction : Texto) (expectedVersion : ℤ) : Except Erro PredictiveGuidanceOutcome :=
  match guidance with
  | none => .ok .missing
  | some g =>
    if ¬Declarado g.reference ∨ ¬Declarado g.authority then .ok .invalid
    else if ¬Declarado g.provenance ∨ g.version < 1 then .ok .invalid
    else
      match g.validFrom, g.validUntil with
      | some desde, some ate => do
        if !(← comparar desde ate) then return .invalid
        if g.jurisdiction ≠ expectedJurisdiction then return .jurisdictionMismatch
        if g.version ≠ expectedVersion then return .versionMismatch
        if ← comparar at_ desde then return .stale
        if !(← comparar at_ ate) then return .stale
        return .valid
      | _, _ => .ok .invalid

/-- `RECOMMENDATION_QUALITY_RESULT`. -/
structure PredictiveRecommendationQualityResult where
  protection : PredictiveProtectionSet
  guidance : Option PredictiveGuidanceReference
  guidanceOutcome : PredictiveGuidanceOutcome
  disposition : PredictiveGuidanceDisposition
  completeAnswerAllowed : Bool
  proceduralDetailAllowed : Bool
  reason : String

/-- `predictive_recommendation_quality`. -/
def predictiveRecommendationQuality (protection : PredictiveProtectionSet)
    (guidance : Option PredictiveGuidanceReference) (at_ : Momento) (expectedJurisdiction : Texto)
    (expectedVersion : ℤ) : Except Erro PredictiveRecommendationQualityResult := do
  let desfecho ← predictiveValidateGuidance guidance at_ expectedJurisdiction expectedVersion
  let (disposition, reason) :=
    if desfecho = .valid then
      (.useProceduralDetail, "orientação vigente, na jurisdição e na versão esperadas")
    else if desfecho = .missing then
      (.abstainFromProceduralDetail, "sem orientação; abster-se de detalhe procedimental")
    else
      (.referToCompetentAuthority,
        "orientação " ++ desfecho.value ++ "; encaminhar à autoridade competente")
  return {
    protection
    guidance
    guidanceOutcome := desfecho
    disposition
    completeAnswerAllowed := protection.completeAnswerAllowed
    proceduralDetailAllowed := desfecho = .valid
    reason }

end PiaOs.Predictive
