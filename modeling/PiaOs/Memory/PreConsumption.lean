import PiaOs.Memory.ExecutionSafety

/-!
# Refusals before the consumption

A batch that is not the approved one is refused while nothing but the resolver was called.
The refusal names the first mismatch: the length of the batch, then its references in order,
then the targets as they are found now, each by its fields in order.
-/

namespace PiaOs.Memory

open Support Banco ApprovalRecordRepository DestructiveExecutionService

/-! ## The approved batch -/

/-- The reference is to the target. It may leave the namespace open. -/
structure Descreve (referencia : ErasureTargetReference) (aprovado : SafeTargetSnapshot) : Prop where
  subject : referencia.subjectCoid = aprovado.subjectCoid
  origin : referencia.origin = aprovado.origin
  scope : referencia.controlScope = aprovado.controlScope
  custody : ∀ esperado ∈ referencia.expectedNamespace, esperado = aprovado.custodyNamespace

/-- Two snapshots agree in a field. -/
def Igual (fresco aprovado : SafeTargetSnapshot) : SnapshotDivergenceField → Prop
  | .targetClass => fresco.targetClass = aprovado.targetClass
  | .subjectCoid => fresco.subjectCoid = aprovado.subjectCoid
  | .controlScope => fresco.controlScope = aprovado.controlScope
  | .custodyNamespace => fresco.custodyNamespace = aprovado.custodyNamespace
  | .origin => fresco.origin = aprovado.origin
  | .legacyProtectionState => fresco.legacyProtectionState = aprovado.legacyProtectionState
  | .versionEtag => fresco.versionEtag = aprovado.versionEtag

/-- The order in which the fields are compared. -/
def ordemDosCampos : List SnapshotDivergenceField :=
  [.targetClass, .subjectCoid, .controlScope, .custodyNamespace, .origin, .legacyProtectionState,
    .versionEtag]

/-- The references with the targets approved at their positions. -/
def DestructiveExecutionRequest.lote (request : DestructiveExecutionRequest) :
    List (ErasureTargetReference × SafeTargetSnapshot) :=
  request.references.zip request.aprovados

/-- The target that a resolution found. -/
def mostrado : Option TargetResolutionResult → Option SafeTargetSnapshot
  | some (.descriptor descritor) => some (.fromDescriptor descritor)
  | _ => none

/-- The batch, with what the resolver answered, is the approved one. -/
structure Confere (request : DestructiveExecutionRequest)
    (respostas : List (Option TargetResolutionResult)) : Prop where
  length : request.references.length = request.aprovados.length
  references : ∀ par ∈ request.lote, Descreve par.1 par.2
  fresh : respostas.map mostrado = request.aprovados.map some

/-- The first mismatch of a batch with the approved one: its reason, its position, the field and
the refusal of the resolver. -/
inductive PrimeiraDivergencia (request : DestructiveExecutionRequest) :
    List (Option TargetResolutionResult) → PreConsumptionRefusalReason → Option Nat →
      Option SnapshotDivergenceField → Option TargetResolutionRefusalReason → Prop
  | tamanho (hlength : request.references.length ≠ request.aprovados.length) :
      PrimeiraDivergencia request [] .batchCardinalityMismatch none none none
  | repetida {front rest : List (ErasureTargetReference × SafeTargetSnapshot)}
      {referencia : ErasureTargetReference} {aprovado : SafeTargetSnapshot}
      (hlength : request.references.length = request.aprovados.length)
      (hlote : request.lote = front ++ (referencia, aprovado) :: rest)
      (hfront : ∀ par ∈ front, Descreve par.1 par.2)
      (hrepeated : referencia.subjectCoid ∈ front.map (·.1.subjectCoid)) :
      PrimeiraDivergencia request [] .duplicateSubjectInBatch (some front.length) none none
  | referencia {front rest : List (ErasureTargetReference × SafeTargetSnapshot)}
      {referencia : ErasureTargetReference} {aprovado : SafeTargetSnapshot}
      (hlength : request.references.length = request.aprovados.length)
      (hlote : request.lote = front ++ (referencia, aprovado) :: rest)
      (hfront : ∀ par ∈ front, Descreve par.1 par.2)
      (hnew : referencia.subjectCoid ∉ front.map (·.1.subjectCoid))
      (hnot : ¬Descreve referencia aprovado) :
      PrimeiraDivergencia request [] .referenceDoesNotMatchApprovedTarget (some front.length) none
        none
  | resolucao {front rest : List (ErasureTargetReference × SafeTargetSnapshot)}
      {par : ErasureTargetReference × SafeTargetSnapshot}
      {antes : List (Option TargetResolutionResult)} {motivo : TargetResolutionRefusalReason}
      (hlength : request.references.length = request.aprovados.length)
      (hreferences : ∀ par ∈ request.lote, Descreve par.1 par.2)
      (hlote : request.lote = front ++ par :: rest)
      (hfront : antes.map mostrado = front.map fun par => some par.2) :
      PrimeiraDivergencia request (antes ++ [some (.refusal motivo)]) .targetResolutionRefused
        (some front.length) none (some motivo)
  | campo {front rest : List (ErasureTargetReference × SafeTargetSnapshot)}
      {par : ErasureTargetReference × SafeTargetSnapshot}
      {antes : List (Option TargetResolutionResult)} {descritor : ErasureTargetDescriptor}
      {before after : List SnapshotDivergenceField} {campo : SnapshotDivergenceField}
      (hlength : request.references.length = request.aprovados.length)
      (hreferences : ∀ par ∈ request.lote, Descreve par.1 par.2)
      (hlote : request.lote = front ++ par :: rest)
      (hfront : antes.map mostrado = front.map fun par => some par.2)
      (hordem : ordemDosCampos = before ++ campo :: after)
      (hbefore : ∀ outro ∈ before, Igual (.fromDescriptor descritor) par.2 outro)
      (hcampo : ¬Igual (.fromDescriptor descritor) par.2 campo) :
      PrimeiraDivergencia request (antes ++ [some (.descriptor descritor)]) .freshSnapshotDiverged
        (some front.length) (some campo) none

/-! ## The comparisons -/

variable {referencia : ErasureTargetReference} {fresco aprovado : SafeTargetSnapshot}
  {request : DestructiveExecutionRequest}

theorem referenciaCorresponde_iff :
    referenciaCorresponde referencia aprovado = true ↔ Descreve referencia aprovado := by
  unfold referenciaCorresponde
  constructor
  · intro h
    simp only [Bool.and_eq_true, beq_iff_eq] at h
    obtain ⟨⟨⟨hsubject, horigin⟩, hscope⟩, hcustody⟩ := h
    refine ⟨hsubject, horigin, hscope, ?_⟩
    intro esperado hesperado
    rw [Option.mem_def] at hesperado
    rw [hesperado] at hcustody
    exact beq_iff_eq.mp hcustody
  · rintro ⟨hsubject, horigin, hscope, hcustody⟩
    simp only [hsubject, horigin, hscope, BEq.rfl, Bool.true_and]
    cases hesperado : referencia.expectedNamespace with
    | none => rfl
    | some esperado => exact beq_iff_eq.mpr (hcustody esperado hesperado)

/-- The field that a comparison names is the first in which the snapshots differ. -/
theorem comparar_eq_some {campo : SnapshotDivergenceField} (h : comparar fresco aprovado = some campo) :
    ∃ before after, ordemDosCampos = before ++ campo :: after ∧
      (∀ outro ∈ before, Igual fresco aprovado outro) ∧ ¬Igual fresco aprovado campo := by
  obtain ⟨⟨campo', difere⟩, hfind, rfl⟩ := Option.map_eq_some_iff.mp h
  obtain ⟨hdifere, front, rest, hsplit, hfront⟩ := List.find?_eq_some_iff_append.mp hfind
  have hfields : ∀ par ∈ camposDoBinding fresco aprovado,
      par.2 = true ↔ ¬Igual fresco aprovado par.1 := by
    simp [camposDoBinding, Igual]
  have hordem : (camposDoBinding fresco aprovado).map Prod.fst = ordemDosCampos := rfl
  refine ⟨front.map Prod.fst, rest.map Prod.fst, ?_, ?_, ?_⟩
  · rw [← hordem, hsplit, List.map_append, List.map_cons]
  · intro outro houtro
    obtain ⟨par, hpar, rfl⟩ := List.mem_map.mp houtro
    have hmem : par ∈ camposDoBinding fresco aprovado := by
      rw [hsplit]
      exact List.mem_append_left _ hpar
    have hsame := hfront par hpar
    by_contra hdiffer
    rw [(hfields par hmem).mpr hdiffer] at hsame
    cases hsame
  · have hmem : (campo', difere) ∈ camposDoBinding fresco aprovado := by
      rw [hsplit]
      exact List.mem_append_right _ List.mem_cons_self
    exact (hfields _ hmem).mp hdifere

/-- The references that came before are those of the batch up to here. -/
theorem validarReferencias_eq_some {lote : List (ErasureTargetReference × SafeTargetSnapshot)}
    {inicio : Nat} {vistos : List Uuid} {reason : PreConsumptionRefusalReason} {posicao : Nat}
    (h : validarReferencias inicio vistos lote = some (reason, posicao)) :
    ∃ front referencia aprovado rest, lote = front ++ (referencia, aprovado) :: rest ∧
      posicao = inicio + front.length ∧ (∀ par ∈ front, Descreve par.1 par.2) ∧
      (reason = .duplicateSubjectInBatch ∧
          (referencia.subjectCoid ∈ vistos ∨
            referencia.subjectCoid ∈ front.map (·.1.subjectCoid)) ∨
        reason = .referenceDoesNotMatchApprovedTarget ∧ ¬Descreve referencia aprovado ∧
          referencia.subjectCoid ∉ vistos ∧
            referencia.subjectCoid ∉ front.map (·.1.subjectCoid)) := by
  induction lote generalizing inicio vistos with
  | nil => cases h
  | cons par lote ih =>
    obtain ⟨referencia, aprovado⟩ := par
    rw [validarReferencias] at h
    split at h
    case isTrue hseen =>
      obtain ⟨rfl, rfl⟩ := Prod.mk.inj (Option.some.inj h)
      have hmem : referencia.subjectCoid ∈ vistos := by simpa using hseen
      exact ⟨[], referencia, aprovado, lote, rfl, rfl, by simp, .inl ⟨rfl, .inl hmem⟩⟩
    case isFalse hnew =>
      have hnotMem : referencia.subjectCoid ∉ vistos := by simpa using hnew
      split at h
      case isTrue hnot =>
        obtain ⟨rfl, rfl⟩ := Prod.mk.inj (Option.some.inj h)
        have hdiffers : ¬Descreve referencia aprovado := by
          rw [← referenciaCorresponde_iff]
          simpa using hnot
        exact ⟨[], referencia, aprovado, lote, rfl, rfl, by simp,
          .inr ⟨rfl, hdiffers, hnotMem, by simp⟩⟩
      case isFalse hmatch =>
        have hdescreve : Descreve referencia aprovado := by
          rw [← referenciaCorresponde_iff]
          simpa using hmatch
        obtain ⟨front, referencia', aprovado', rest, rfl, rfl, hfront, hreason⟩ := ih h
        refine ⟨(referencia, aprovado) :: front, referencia', aprovado', rest, rfl, ?_, ?_, ?_⟩
        · rw [List.length_cons]
          omega
        · exact List.forall_mem_cons.mpr ⟨hdescreve, hfront⟩
        · rw [List.map_cons]
          simp only [List.mem_cons, not_or] at hreason ⊢
          tauto

theorem validarReferencias_eq_none {lote : List (ErasureTargetReference × SafeTargetSnapshot)}
    {inicio : Nat} {vistos : List Uuid} (h : validarReferencias inicio vistos lote = none) :
    ∀ par ∈ lote, Descreve par.1 par.2 := by
  induction lote generalizing inicio vistos with
  | nil => simp
  | cons par lote ih =>
    obtain ⟨referencia, aprovado⟩ := par
    rw [validarReferencias] at h
    split at h
    case isTrue => cases h
    case isFalse =>
      split at h
      case isTrue => cases h
      case isFalse hmatch =>
        have hdescreve : Descreve referencia aprovado := by
          rw [← referenciaCorresponde_iff]
          simpa using hmatch
        exact List.forall_mem_cons.mpr ⟨hdescreve, ih h⟩

/-- What the governance admitted names its policy and its rule. -/
theorem proveniencia_of_proposal (p : DestructiveApprovalProposal) :
    ∃ proveniencia, DestructiveExecutionService.proveniencia p.governanceResolution =
      .ok (some proveniencia) := by
  have hchecks := p.governanceResolution.accepted
  simp only [ResolutionFields.violation, firstOf_eq_none, List.forall_mem_cons, refuse_eq_none,
    ResolutionFields.optionalText_eq_none] at hchecks
  obtain ⟨-, -, -, -, -, -, -, -, hkey, hrule, hversion, hcoherence, -⟩ := hchecks
  have hidentity := (ResolutionFields.coherence_eq_none.mp hcoherence).2.2
  rw [p.coherent.outcome, if_neg (by decide)] at hidentity
  have hnamed := hidentity.2
  rw [if_neg (by decide)] at hnamed
  simp only [ResolutionFields.temIdentidade, Bool.or_eq_false_iff, Bool.not_eq_false',
    Bool.and_eq_true, Option.isNone_eq_false_iff, Option.isSome_iff_exists] at hnamed
  obtain ⟨⟨⟨⟨policyKey, hpolicyKey⟩, ⟨policyVersion, hpolicyVersion⟩⟩, ⟨policyId, hpolicyId⟩⟩,
    ⟨matchedRuleId, hmatchedRuleId⟩⟩ := hnamed
  have haccepted : firstOf
      [refuse (blank policyKey) "policy_key não pode ser vazio ou apenas espaços",
        refuse (blank matchedRuleId) "matched_rule_id não pode ser vazio ou apenas espaços",
        refuse (policyVersion < 1) "policy_version deve ser >= 1"] = none := by
    rw [hpolicyVersion] at hversion
    simpa [firstOf_eq_none, hkey policyKey hpolicyKey, hrule matchedRuleId hmatchedRuleId] using
      hversion
  refine ⟨⟨policyId, policyKey, policyVersion, matchedRuleId, haccepted⟩, ?_⟩
  unfold DestructiveExecutionService.proveniencia
  rw [hpolicyId, hpolicyKey, hpolicyVersion, hmatchedRuleId]
  simp only [GovernanceProvenance.make, checked_eq_ok haccepted]
  rfl

/-! ## How a batch that does not match ends -/

/-- With the refusal of the first mismatch, or with the exception of the resolver. -/
def Encerra (request : DestructiveExecutionRequest)
    (respostas : List (Option TargetResolutionResult)) (fim : Fim) : Prop :=
  (fim = .error .resolver ∧ none ∈ respostas) ∨
    ∃ reason posicao campo motivo accepted,
      fim = .ok (.preConsumption ⟨request.approvalId, request.operation, reason, posicao, campo,
        motivo, accepted⟩) ∧ PrimeiraDivergencia request respostas reason posicao campo motivo

theorem encerra_recusaDoAlvo {respostas : List (Option TargetResolutionResult)}
    {reason : PreConsumptionRefusalReason} {posicao : Nat}
    {campo : Option SnapshotDivergenceField} {motivo : Option TargetResolutionRefusalReason}
    (haccepted : PreConsumptionRefusal.violation reason (some posicao) campo motivo = none)
    (h : PrimeiraDivergencia request respostas reason (some posicao) campo motivo) :
    Encerra request respostas (recusaDoAlvo request reason posicao campo motivo) := by
  unfold recusaDoAlvo
  rw [checked_eq_ok haccepted]
  exact .inr ⟨reason, some posicao, campo, motivo, haccepted, rfl, h⟩

/-- A batch whose shape is refused, or whose references are those of the approved targets. -/
theorem validarLote_cases (request : DestructiveExecutionRequest) :
    (∃ fim, validarLote request = .error fim ∧ Encerra request [] fim) ∨
      ∃ proveniencia, validarLote request = .ok proveniencia ∧
        request.references.length = request.aprovados.length ∧
        ∀ par ∈ request.lote, Descreve par.1 par.2 := by
  unfold validarLote
  by_cases hlength : request.references.length = request.aprovados.length
  · rw [if_neg (not_not.mpr hlength)]
    cases hreferences : validarReferencias 0 [] (request.references.zip request.aprovados) with
    | some falha =>
      obtain ⟨reason, posicao⟩ := falha
      obtain ⟨front, referencia, aprovado, rest, hlote, hposicao, hfront, hreason⟩ :=
        validarReferencias_eq_some hreferences
      obtain rfl : posicao = front.length := by omega
      rcases hreason with ⟨rfl, hseen⟩ | ⟨rfl, hnot, -, hnew⟩
      · have hrepeated := hseen.resolve_left List.not_mem_nil
        exact .inl ⟨_, rfl, encerra_recusaDoAlvo rfl (.repetida hlength hlote hfront hrepeated)⟩
      · exact .inl ⟨_, rfl, encerra_recusaDoAlvo rfl (.referencia hlength hlote hfront hnew hnot)⟩
    | none =>
      obtain ⟨proveniencia, hproveniencia⟩ := proveniencia_of_proposal request.envelope.proposal
      simp only [hproveniencia]
      exact .inr ⟨proveniencia, rfl, hlength, validarReferencias_eq_none hreferences⟩
  · rw [if_pos hlength]
    exact .inl ⟨_, rfl, .inr ⟨.batchCardinalityMismatch, none, none, none, rfl, rfl,
      .tamanho hlength⟩⟩

/-- What the resolver answered to a call. -/
def resposta? : Answered Chamada Resposta → Option (Option TargetResolutionResult)
  | ⟨.resolver _, resultado⟩ => some resultado
  | _ => none

/-- The answers for the references of the batch. -/
def respostasDe (request : DestructiveExecutionRequest) (log : List (Answered Chamada Resposta)) :
    List (Option TargetResolutionResult) :=
  (log.filterMap resposta?).take request.references.length

variable {past : List (Answered Chamada Resposta)}

theorem filterMap_resposta (past : List (Answered Chamada Resposta))
    (referencia : ErasureTargetReference) (resultado : Option TargetResolutionResult) :
    (past ++ [(⟨.resolver referencia, resultado⟩ : Answered Chamada Resposta)]).filterMap resposta? =
      past.filterMap resposta? ++ [resultado] := by
  rw [List.filterMap_append]
  rfl

theorem respostasDe_of_le (h : (past.filterMap resposta?).length ≤ request.references.length) :
    respostasDe request past = past.filterMap resposta? := List.take_of_length_le h

theorem length_lote (hlength : request.references.length = request.aprovados.length) :
    request.lote.length = request.references.length := by
  rw [DestructiveExecutionRequest.lote, List.length_zip, ← hlength, Nat.min_self]

theorem lote_aprovados (hlength : request.references.length = request.aprovados.length) :
    request.lote.map (fun par => some par.2) = request.aprovados.map some := by
  have hzip : request.lote.map Prod.snd = request.aprovados := List.map_snd_zip hlength.ge
  rw [← hzip, List.map_map]
  rfl

/-- The targets are found one by one, each compared before the next. -/
theorem resolverLote_encerra {front resto : List (ErasureTargetReference × SafeTargetSnapshot)}
    (hlength : request.references.length = request.aprovados.length)
    (hreferences : ∀ par ∈ request.lote, Descreve par.1 par.2)
    (hlote : request.lote = front ++ resto)
    (hfront : (past.filterMap resposta?).map mostrado = front.map fun par => some par.2) :
    (resolverLote request front.length resto).Obeys (fun _ c => ∃ referencia, c = .resolver referencia)
      (fun log resultado => match resultado with
        | .error fim => Encerra request (respostasDe request log) fim
        | .ok _ => Confere request (respostasDe request log)) past := by
  have hcount : (past.filterMap resposta?).length = front.length := by
    simpa using congrArg List.length hfront
  have hsize := congrArg List.length hlote
  rw [length_lote hlength, List.length_append] at hsize
  induction resto generalizing past front with
  | nil =>
    have hall : respostasDe request past = past.filterMap resposta? :=
      respostasDe_of_le (by omega)
    rw [List.append_nil] at hlote
    rw [← hlote, lote_aprovados hlength, ← hall] at hfront
    exact .done ⟨hlength, hreferences, hfront⟩
  | cons par resto ih =>
    obtain ⟨referencia, aprovado⟩ := par
    rw [List.length_cons] at hsize
    refine .call ⟨referencia, rfl⟩ fun (resultado : Option TargetResolutionResult) => ?_
    have hlog := filterMap_resposta past referencia resultado
    have hmore := congrArg List.length hlog
    rw [List.length_append, List.length_singleton] at hmore
    have hanswers : respostasDe request _ = past.filterMap resposta? ++ [resultado] :=
      (respostasDe_of_le (by omega)).trans hlog
    rcases resultado with _ | descritor | motivo
    · have hraised : none ∈ past.filterMap resposta? ++ [none] :=
        List.mem_append_right _ List.mem_cons_self
      rw [← hanswers] at hraised
      exact .done (Or.inl ⟨rfl, hraised⟩)
    · simp only
      cases hcampo : comparar (.fromDescriptor descritor) aprovado with
      | some campo =>
        refine .done ?_
        obtain ⟨before, after, hordem, hbefore, hdiffers⟩ := comparar_eq_some hcampo
        rw [hanswers]
        exact encerra_recusaDoAlvo rfl
          (.campo hlength hreferences hlote hfront hordem hbefore hdiffers)
      | none =>
        have hnext : request.lote = (front ++ [(referencia, aprovado)]) ++ resto := by
          rw [hlote, List.append_assoc, List.singleton_append]
        have hfound : (past.filterMap resposta? ++
            [some (TargetResolutionResult.descriptor descritor)]).map mostrado =
              (front ++ [(referencia, aprovado)]).map fun par => some par.2 := by
          rw [List.map_append, List.map_append, hfront]
          simp [mostrado, comparar_eq_none.mp hcampo]
        rw [← hlog] at hfound
        have hlonger : (front ++ [(referencia, aprovado)]).length = front.length + 1 := by
          rw [List.length_append, List.length_singleton]
        have hrest := ih hnext hfound (by omega) (by omega)
        rw [hlonger] at hrest
        refine hrest.bind fun log resultado hresultado => ?_
        cases resultado with
        | error fim => exact .done hresultado
        | ok frescos => exact .done hresultado
    · refine .done ?_
      rw [hanswers]
      exact encerra_recusaDoAlvo rfl (.resolucao hlength hreferences hlote hfront)

/-- What a batch was found to be stays so. -/
theorem Confere.append {log : List (Answered Chamada Resposta)}
    (h : Confere request (respostasDe request past)) (hlog : past <+: log) :
    Confere request (respostasDe request log) := by
  have hcount : (respostasDe request past).length = request.references.length := by
    rw [h.length]
    simpa using congrArg List.length h.fresh
  have hanswers := (hlog.filterMap resposta?).take request.references.length
  have hsame : respostasDe request past = respostasDe request log := by
    refine hanswers.eq_of_length_le ?_
    rw [← respostasDe, ← respostasDe, hcount]
    exact List.length_take_le _ _
  exact hsame ▸ h

/-- Until the batch was found to be the approved one, only the resolver is called. -/
theorem execute_encerra (request : DestructiveExecutionRequest) :
    (execute request).Obeys
      (fun log c => (∃ referencia, c = .resolver referencia) ∨
        Confere request (respostasDe request log))
      (fun log fim => Confere request (respostasDe request log) ∨
        Encerra request (respostasDe request log) fim) [] := by
  have hafter : ∀ {α : Type} (p : Proc Chamada Resposta α) (past : List (Answered Chamada Resposta)),
      Confere request (respostasDe request past) →
      p.Obeys (fun log c => (∃ referencia, c = .resolver referencia) ∨
          Confere request (respostasDe request log))
        (fun log _ => Confere request (respostasDe request log)) past := by
    intro α p past hpast
    refine (Proc.obeys_prefix p).mono (fun log c hlog => .inr (hpast.append hlog)) ?_
    exact fun log _ hlog => hpast.append hlog
  rw [execute]
  rcases validarLote_cases request with ⟨fim, hlote, hfim⟩ |
    ⟨proveniencia, hlote, hlength, hreferences⟩
  · have hnone : respostasDe request [] = [] := List.take_nil
    rw [hlote]
    rw [← hnone] at hfim
    exact .done (.inr hfim)
  · rw [hlote]
    have hresolve := @resolverLote_encerra request [] [] request.lote hlength hreferences rfl rfl
    refine (hresolve.mono (fun _ _ hc => Or.inl hc) fun _ _ hr => hr).bind
      fun log resultado hresultado => ?_
    cases resultado with
    | error fim => exact .done (.inr hresultado)
    | ok frescos => exact (hafter _ log hresultado).mono (fun _ _ hc => hc) fun _ _ hr => .inl hr

/-! ## Refusals in a run -/

/-- What becomes of an execution whose batch is not the approved one. -/
structure RecusaAntesDoConsumo (request : DestructiveExecutionRequest) : Prop where
  /-- Each of its steps asks the resolver and changes nothing. -/
  passos : ∀ aprovacoes recibos (w w' : World Banco Chamada Resposta Fim Escolha) i choice,
    Alcancado aprovacoes recibos w → w.programs[i]? = some (execute request) →
    w.next Banco.servico (.answer i choice) = some w' →
    ¬Confere request (respostasDe request (callsOf w'.events i)) →
    w'.state = w.state ∧ ∃ referencia resultado,
      callsOf w'.events i = callsOf w.events i ++ [⟨.resolver referencia, resultado⟩]
  /-- The resolver can always be asked. -/
  resolve : ∀ (b : Banco) i referencia (resultado : Option TargetResolutionResult),
    ∃ choice, b.responder i (.resolver referencia) choice = some (resultado, b)
  /-- It ends with the first mismatch. -/
  termina : ∀ aprovacoes recibos (w : World Banco Chamada Resposta Fim Escolha) i fim,
    Alcancado aprovacoes recibos w → w.programs[i]? = some (execute request) →
    w.live i = some (.done fim) → ¬Confere request (respostasDe request (callsOf w.events i)) →
    Encerra request (respostasDe request (callsOf w.events i)) fim
  /-- An envelope that is not the stored one, in any field, consumes nothing. -/
  vinculo : ∀ (b b' : Banco) i choice (resultado : Except TransitionError ApprovalRecord),
    b.responder i (.consumir request.envelope) choice = some (resultado, b') →
    (∀ r, Holds (b.vista i).aprovacoes request.envelope r → r.state ≠ .active) →
    (∃ erro, resultado = .error erro) ∧ b'.aprovacoes = b.aprovacoes ∧ b'.recibos = b.recibos

theorem responder_resolver {b b' : Banco} {i : Nat} {referencia : ErasureTargetReference}
    {choice : Escolha} {resultado : Resposta (.resolver referencia)}
    (h : b.responder i (.resolver referencia) choice = some (resultado, b')) : b' = b := by
  cases choice with
  | resolucao result => exact (Prod.mk.inj (Option.some.inj h)).2.symm
  | falha => exact (Prod.mk.inj (Option.some.inj h)).2.symm
  | prossegue | relogio relogio | identificador id | efeito result => cases h

/-- A batch that is not the approved one is refused at its first mismatch, and changes nothing. -/
theorem pre_consumption_refusal (request : DestructiveExecutionRequest) :
    RecusaAntesDoConsumo request where
  passos := by
    intro aprovacoes recibos w w' i choice hreach hp hnext hnot
    rcases World.next_cases hnext with ⟨p, hm, -⟩ | ⟨j, choice', c, k, a, state, hm, hlive, hanswer,
      rfl⟩ | ⟨j, p, hm, -, -⟩
    · cases hm
    · obtain ⟨rfl, rfl⟩ := Move.answer.inj hm
      obtain ⟨q, hpath, hq⟩ := hreach.tracked.paths i _ hp
      obtain rfl := hq _ hlive
      have hcalls : callsOf (w.events ++ [⟨⟨c, a⟩, i, choice⟩]) i = callsOf w.events i ++ [⟨c, a⟩] := by
        rw [callsOf_append, callsOf_cons_self rfl, callsOf_nil]
      simp only [hcalls] at hnot ⊢
      have hobeys := (execute_encerra request).path hpath
      cases hobeys with
      | call hc _ =>
        rw [List.nil_append] at hc
        rcases hc with ⟨referencia, rfl⟩ | hmatch
        · exact ⟨responder_resolver hanswer, referencia, a, rfl⟩
        · exact absurd (hmatch.append (List.prefix_append _ _)) hnot
    · cases hm
  resolve := by
    intro b i referencia resultado
    cases resultado with
    | none => exact ⟨.falha, rfl⟩
    | some result => exact ⟨.resolucao result, rfl⟩
  termina := by
    intro aprovacoes recibos w i fim hreach hp hlive hnot
    obtain ⟨q, hpath, hq⟩ := hreach.tracked.paths i _ hp
    obtain rfl := hq _ hlive
    have hend := ((execute_encerra request).path hpath).result
    exact hend.resolve_left hnot
  vinculo := by
    intro b b' i choice resultado h hnone
    rcases transitar_cases (by decide) h with ⟨⟨erro, rfl⟩, rfl⟩ | ⟨⟨erro, rfl, -⟩, rfl⟩ |
      ⟨relogio, store, r, -, hstore, hr, -, -, -⟩
    · exact ⟨⟨_, rfl⟩, rfl, rfl⟩
    · exact ⟨⟨_, rfl⟩, rfl, rfl⟩
    · rw [of_settle hstore] at hr
      exact absurd hr.active (hnone r hr.holds)

end PiaOs.Memory
