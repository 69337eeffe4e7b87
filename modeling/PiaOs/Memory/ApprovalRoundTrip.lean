import PiaOs.Memory.ApprovalRepository

/-!
# Stored and read back

An envelope comes back from the store as it was, exactly when every value of it
fits its column. The constructors bound the opaque texts, but not the texts of the
resolution, and no number.
-/

namespace PiaOs.Memory

open Support ApprovalRecordRepository

/-! ## The rows of an envelope -/

/-- The row without its life cycle: what the approval binds. -/
def ApprovalRecord.binding (r : ApprovalRecord) : ApprovalRecord :=
  { r with state := .active, consumedAt := none, revokedAt := none }

/-- The tables hold a record of the envelope: its parent row, and as many child rows
as the envelope has parts, in the same order. -/
structure Holds (t : ApprovalTables) (envelope : DestructiveApprovalEnvelope)
    (registro : ApprovalRecord) : Prop where
  record : t.get envelope.approvalId = some registro
  binding : registro.binding = registroDe envelope
  targets : t.targetsOf envelope.approvalId = alvosDe envelope
  items : ∀ kind, t.itemsOf envelope.approvalId kind =
    itensDoTipo envelope.approvalId envelope.proposal.governanceResolution kind

/-! ## Built again -/

theorem ReferenceProvenance.make_self (o : ReferenceProvenance) :
    make o.origin o.position = .ok o := checked_eq_ok o.accepted

theorem ControlScope.make_self (s : ControlScope) :
    make s.workspaceId s.tenantId s.controlPrincipalRef = .ok s := checked_eq_ok s.accepted

theorem CustodyNamespace.make_self (c : CustodyNamespace) :
    make c.provider c.namespace = .ok c := checked_eq_ok c.accepted

theorem SafeTargetSnapshot.make_self (s : SafeTargetSnapshot) :
    make s.targetClass s.subjectCoid s.controlScope s.custodyNamespace s.origin
      s.legacyProtectionState s.versionEtag = .ok s := checked_eq_ok s.accepted

theorem PresentedImpact.make_self (i : PresentedImpact) :
    make i.itemCount i.volumeKind i.bytesTotal = .ok i := checked_eq_ok i.accepted

theorem IdentityEvidence.make_self (i : IdentityEvidence) :
    make i.principalRef i.assuranceLevel i.authenticatedAt = .ok i := checked_eq_ok i.accepted

theorem ApprovalContext.make_self (c : ApprovalContext) :
    make c.tenantId c.workspaceId c.domainId c.purposeRef = .ok c := checked_eq_ok c.accepted

theorem SafeVoiceProvenance.make_self (p : SafeVoiceProvenance) :
    make p.channel p.voiceReview = .ok p := checked_eq_ok p.accepted

theorem DestructiveApprovalProposal.make_self (p : DestructiveApprovalProposal) :
    make p.toProposalFields = .ok p := checked_eq_ok p.accepted

theorem DestructiveApprovalEnvelope.make_self (e : DestructiveApprovalEnvelope) :
    make e.toEnvelopeFields = .ok e := checked_eq_ok e.accepted

/-! ## What an accepted envelope satisfies -/

/-- What the constructor of an envelope has checked. -/
structure DestructiveApprovalEnvelope.Coherent (e : DestructiveApprovalEnvelope) : Prop where
  nonce : e.nonce ≠ e.approvalId
  blockers : e.proposal.blockers = []
  context : e.context = e.proposal.context
  provenance : e.provenance = e.proposal.provenance
  actor : e.proposal.governanceResolution.contextActorRef = some e.identity.principalRef
  controllers : ∀ alvo ∈ e.proposal.targets,
    alvo.controlScope.controlPrincipalRef = e.identity.principalRef
  authenticated : e.proposal.materializedAt ≤ e.identity.authenticatedAt
  beforeConfirmation : e.identity.authenticatedAt ≤ e.confirmedAt
  issued : e.proposal.materializedAt ≤ e.issuedAt
  confirmed : e.issuedAt ≤ e.confirmedAt
  expires : e.confirmedAt < e.expiresAt

theorem DestructiveApprovalEnvelope.coherent (e : DestructiveApprovalEnvelope) : e.Coherent := by
  have h := e.accepted
  simp only [EnvelopeFields.violation, EnvelopeFields.temporalViolation,
    EnvelopeFields.foreignTarget, firstOf_eq_none, List.mem_cons, List.not_mem_nil, or_false,
    forall_eq_or_imp, forall_eq, refuse_eq_none, decide_eq_false_iff_not, not_not, not_lt,
    Bool.not_eq_false', List.isEmpty_iff, Option.map_eq_none_iff,
    List.findIdx?_eq_none_iff, not_le] at h
  obtain ⟨hnonce, hblockers, -, hcontext, hprovenance, hactor, hforeign, hauth, hbefore, hissued,
    hconfirmed, hexpires⟩ := h
  exact ⟨fun heq => hnonce heq.symm, hblockers, hcontext, hprovenance, hactor, hforeign, hauth,
    hbefore, hissued, hconfirmed, hexpires⟩

/-- What the constructor of a proposal has checked. -/
structure DestructiveApprovalProposal.Coherent (p : DestructiveApprovalProposal) : Prop where
  nonempty : p.targets ≠ []
  subjects : (p.targets.map SafeTargetSnapshot.subjectCoid).Nodup
  count : p.impact.itemCount = p.targets.length
  outcome : p.governanceResolution.outcome = .admissible
  domains : p.governanceResolution.contextDomainIds = [p.context.domainId]
  purpose : p.governanceResolution.contextPurpose = some p.context.purposeRef
  scopes : ∀ alvo ∈ p.targets, alvo.controlScope.workspaceId = p.context.workspaceId ∧
    alvo.controlScope.tenantId = p.context.tenantId

theorem DestructiveApprovalProposal.coherent (p : DestructiveApprovalProposal) : p.Coherent := by
  have h := p.accepted
  simp only [ProposalFields.violation, ProposalFields.governanceViolation,
    ProposalFields.targetViolation, firstOf_eq_none, List.mem_cons, List.not_mem_nil, or_false,
    forall_eq_or_imp, forall_eq, refuse_eq_none, decide_eq_false_iff_not, not_not,
    Bool.not_eq_false', Option.map_eq_none_iff, firstRepeated_eq_none,
    List.findSome?_eq_none_iff, List.isEmpty_eq_false_iff] at h
  obtain ⟨hnonempty, ⟨hsubjects, -⟩, hcount, -, -, ⟨houtcome, -, -, hdomains, hpurpose⟩,
    hscopes⟩ := h
  exact ⟨hnonempty, hsubjects, hcount, houtcome, hdomains, hpurpose, hscopes⟩

/-! ## Reading back -/

theorem snapshotDe_alvoDe (approvalId : Uuid) (alvo : SafeTargetSnapshot) (posicao : Nat) :
    snapshotDe (alvoDe approvalId alvo posicao) = .ok alvo := by
  simp only [snapshotDe, alvoDe]
  rw [ControlScope.make_self, CustodyNamespace.make_self, ReferenceProvenance.make_self]
  exact SafeTargetSnapshot.make_self alvo

section Holds

variable {t : ApprovalTables} {envelope : DestructiveApprovalEnvelope} {registro : ApprovalRecord}

/-- The texts of a kind come back in their order. -/
theorem Holds.texts (h : Holds t envelope registro) (kind : GovernanceItemKind)
    (hkind : itensDoTipo envelope.approvalId envelope.proposal.governanceResolution kind =
      enumerated (itemTextual envelope.approvalId kind)
        (textuais envelope.proposal.governanceResolution kind)) :
    (t.itemsOf envelope.approvalId kind).filterMap (·.valueText) =
      textuais envelope.proposal.governanceResolution kind := by
  rw [h.items kind, hkind]
  exact filterMap_enumerated fun _ _ => rfl

theorem Holds.reconstruirGovernanca (h : Holds t envelope registro) :
    reconstruirGovernanca t (registroDe envelope) =
      .ok envelope.proposal.governanceResolution := by
  have hdomains : (t.itemsOf envelope.approvalId .domainId).filterMap (·.valueUuid) =
      envelope.proposal.governanceResolution.contextDomainIds := by
    rw [h.items .domainId, itensDoTipo]
    exact filterMap_enumerated fun _ _ => rfl
  have hcapabilities :
      (t.itemsOf envelope.approvalId .blockedCapability).filterMap (·.valueEnum) =
        envelope.proposal.governanceResolution.blockedCapabilities := by
    rw [h.items .blockedCapability, itensDoTipo]
    exact filterMap_enumerated fun _ _ => rfl
  simp only [ApprovalRecordRepository.reconstruirGovernanca, registroDe, hdomains, hcapabilities,
    h.texts .admissibleAlternative rfl, h.texts .constraint rfl,
    h.texts .declaredPreservation rfl, h.texts .declaredLoss rfl]
  exact GovernanceResolution.make_self _

/-- The rows of an envelope are read back as that envelope. -/
theorem Holds.reconstruir (h : Holds t envelope registro) :
    reconstruir t registro = .ok envelope := by
  have htargets : (t.targetsOf envelope.approvalId).mapM snapshotDe =
      .ok envelope.proposal.targets := by
    rw [h.targets]
    exact mapM_enumerated (snapshotDe_alvoDe _)
  have hcoherent := envelope.coherent
  have hlifecycle : ApprovalRecordRepository.reconstruir t registro =
      ApprovalRecordRepository.reconstruir t registro.binding := rfl
  have hproposal : DestructiveApprovalProposal.make
      { operation := envelope.proposal.operation
        targets := envelope.proposal.targets
        impact := envelope.proposal.impact
        governanceResolution := envelope.proposal.governanceResolution
        context := envelope.context
        provenance := envelope.provenance
        blockers := []
        materializedAt := envelope.proposal.materializedAt } = .ok envelope.proposal := by
    rw [hcoherent.context, hcoherent.provenance, ← hcoherent.blockers]
    exact DestructiveApprovalProposal.make_self _
  rw [hlifecycle, h.binding, ApprovalRecordRepository.reconstruir, h.reconstruirGovernanca]
  simp only [registroDe, htargets, ApprovalContext.make_self, SafeVoiceProvenance.make_self,
    PresentedImpact.make_self, IdentityEvidence.make_self, ok_bind, hproposal]
  exact DestructiveApprovalEnvelope.make_self _

end Holds

/-! ## Values that fit their columns -/

/-- The texts of an approval that no constructor bounds. -/
def DestructiveApprovalEnvelope.freeTexts (e : DestructiveApprovalEnvelope) : List String :=
  let resolucao := e.proposal.governanceResolution
  [resolucao.safetyRationale, resolucao.policyRationale] ++ resolucao.preservedIntent.toList ++
    resolucao.policyKey.toList ++ resolucao.matchedRuleId.toList ++
    resolucao.admissibleAlternatives ++ resolucao.constraints ++
    resolucao.declaredPreservations ++ resolucao.declaredLosses

/-- The numbers of an approval. -/
def DestructiveApprovalEnvelope.numbers (e : DestructiveApprovalEnvelope) : List Int :=
  let resolucao := e.proposal.governanceResolution
  [e.proposal.impact.itemCount, resolucao.safetyBoundaryVersion] ++
    e.proposal.impact.bytesTotal.toList ++ resolucao.policyVersion.toList ++
    e.proposal.targets.filterMap (·.origin.position)

def DestructiveApprovalEnvelope.instants (e : DestructiveApprovalEnvelope) : List Instant :=
  [e.identity.authenticatedAt, e.proposal.materializedAt, e.issuedAt, e.confirmedAt, e.expiresAt]

/-- The store takes the envelope as it is. -/
structure Storable (t : ApprovalTables) (envelope : DestructiveApprovalEnvelope) : Prop where
  fresh_id : envelope.approvalId ∉ t.records.map ApprovalRecord.id
  fresh_nonce : envelope.nonce ∉ t.records.map ApprovalRecord.nonce
  texts : ∀ s ∈ envelope.freeTexts, fitsText s = true
  numbers : ∀ n ∈ envelope.numbers, fitsInteger n = true
  positions : ∀ kind,
    (textuais envelope.proposal.governanceResolution kind).length ≤ 2147483648
  instants : ∀ instant ∈ envelope.instants, readable instant = true

/-- An opaque text fits. -/
theorem fitsText_of_opaque {nome s : String} (h : validarTextoOpaco nome s = none) :
    fitsText s = true := by
  obtain ⟨-, hvisible, hlength⟩ := opaqueText_eq_none.mp h
  have hnul : Char.ofNat 0 ∉ s.toList := fun hmem => by
    have hcategory := hvisible _ hmem
    revert hcategory
    decide
  simpa [fitsText, hnul, maxOpaqueLength] using hlength

theorem fitsText_of_opcional {nome s : String} {valor : Option String}
    (h : validarOpcional nome valor = none) (hs : s ∈ valor) : fitsText s = true := by
  cases hs
  exact fitsText_of_opaque h

theorem map_varchar {valor : Option String} (h : ∀ s ∈ valor, fitsText s = true) :
    valor.map varchar = valor := by
  cases valor with
  | none => rfl
  | some s => rw [Option.map_some, varchar_of_fits (h s rfl)]

theorem ApprovalRecord.assigned_of_fits {r : ApprovalRecord} (h : r.fits = true) :
    r.assigned = r := by
  obtain ⟨htexts, -⟩ := Bool.and_eq_true_iff.mp h
  simp only [texts, List.all_append, List.all_cons, List.all_nil, Bool.and_true,
    Bool.and_eq_true, List.all_eq_true, Option.mem_toList] at htexts
  obtain ⟨⟨⟨⟨⟨⟨hp, hu, hs, hr⟩, ha⟩, hg⟩, hi⟩, hk⟩, hm⟩ := htexts
  rw [assigned, varchar_of_fits hp, varchar_of_fits hu, varchar_of_fits hs, varchar_of_fits hr,
    map_varchar ha, map_varchar hg, map_varchar hi, map_varchar hk, map_varchar hm]

theorem ApprovalRecordTarget.assigned_of_fits {r : ApprovalRecordTarget} (h : r.fits = true) :
    r.assigned = r := by
  obtain ⟨htexts, -⟩ := Bool.and_eq_true_iff.mp h
  simp only [texts, List.all_append, List.all_cons, List.all_nil, Bool.and_true,
    Bool.and_eq_true, List.all_eq_true, Option.mem_toList] at htexts
  obtain ⟨⟨hc, hp, hn⟩, hv⟩ := htexts
  rw [assigned, varchar_of_fits hc, varchar_of_fits hp, varchar_of_fits hn, map_varchar hv]

theorem ApprovalRecordGovernanceItem.assigned_of_fits {r : ApprovalRecordGovernanceItem}
    (h : r.fits = true) : r.assigned = r := by
  obtain ⟨htext, -⟩ := Bool.and_eq_true_iff.mp h
  rw [assigned, map_varchar fun s hs => ?_]
  rw [hs] at htext
  exact htext

section Storable

variable {t : ApprovalTables} {envelope : DestructiveApprovalEnvelope}

/-- A text of the parent row is opaque or free. -/
theorem mem_texts_registroDe {s : String} (hs : s ∈ (registroDe envelope).texts) :
    s = envelope.identity.principalRef ∨ s = envelope.context.purposeRef ∨
      s ∈ envelope.freeTexts := by
  have hactor := envelope.coherent.actor
  have hpurpose := envelope.proposal.coherent.purpose
  rw [← envelope.coherent.context] at hpurpose
  simp only [ApprovalRecord.texts, registroDe, hactor, hpurpose, Option.toList_some,
    DestructiveApprovalEnvelope.freeTexts, List.mem_append, List.mem_cons, List.not_mem_nil,
    or_false] at hs ⊢
  tauto

theorem mem_integers_registroDe {n : Int} (hn : n ∈ (registroDe envelope).integers) :
    n ∈ envelope.numbers := by
  simp only [ApprovalRecord.integers, registroDe, DestructiveApprovalEnvelope.numbers,
    List.mem_append] at hn ⊢
  tauto

/-- The parent row fits. -/
theorem Storable.record_fits (h : Storable t envelope) : (registroDe envelope).fits = true := by
  rw [ApprovalRecord.fits, Bool.and_eq_true, List.all_eq_true, List.all_eq_true]
  refine ⟨fun s hs => ?_, fun n hn => h.numbers n (mem_integers_registroDe hn)⟩
  rcases mem_texts_registroDe hs with rfl | rfl | hfree
  · exact fitsText_of_opaque envelope.identity.accepted
  · exact fitsText_of_opaque envelope.context.accepted
  · exact h.texts s hfree

/-- So does the row of each target. -/
theorem Storable.target_fits (h : Storable t envelope) {r : ApprovalRecordTarget}
    (hr : r ∈ alvosDe envelope) : r.fits = true := by
  obtain ⟨alvo, posicao, halvo, rfl⟩ := mem_enumerated.mp hr
  have hcount := envelope.proposal.coherent.count
  have hposicao : posicao < envelope.proposal.targets.length :=
    (List.getElem?_eq_some_iff.mp halvo).1
  have hitems := h.numbers envelope.proposal.impact.itemCount (by
    simp [DestructiveApprovalEnvelope.numbers])
  rw [ApprovalRecordTarget.fits, Bool.and_eq_true, List.all_eq_true, List.all_eq_true]
  constructor
  · intro s hs
    have hcustody := alvo.custodyNamespace.accepted
    have hsnapshot := alvo.accepted
    simp only [CustodyNamespace.violation, SafeTargetSnapshot.violation, firstOf_eq_none,
      List.mem_cons, List.not_mem_nil, or_false, forall_eq_or_imp, forall_eq] at hcustody hsnapshot
    simp only [ApprovalRecordTarget.texts, alvoDe, List.mem_append, List.mem_cons,
      List.not_mem_nil, or_false, Option.mem_toList] at hs
    rcases hs with (rfl | rfl | rfl) | hetag
    · exact fitsText_of_opaque alvo.controlScope.accepted
    · exact fitsText_of_opaque hcustody.1
    · exact fitsText_of_opaque hcustody.2
    · exact fitsText_of_opcional hsnapshot.2 hetag
  · intro n hn
    rcases List.mem_cons.mp hn with rfl | horigin
    · simp only [fitsInteger, Bool.and_eq_true, decide_eq_true_eq] at hitems ⊢
      simp only [alvoDe]
      omega
    · refine h.numbers n (List.mem_append_right _ (List.mem_filterMap.mpr ⟨alvo, ?_, ?_⟩))
      · exact List.mem_of_getElem? halvo
      · exact Option.mem_toList.mp horigin

/-- A text of the resolution is free. -/
theorem mem_freeTexts_of_textuais {kind : GovernanceItemKind} {s : String}
    (hs : s ∈ textuais envelope.proposal.governanceResolution kind) :
    s ∈ envelope.freeTexts := by
  cases kind <;>
    simp_all [textuais, DestructiveApprovalEnvelope.freeTexts]

/-- An admissible resolution blocks nothing. -/
theorem GovernanceResolution.blockedCapabilities_of_admissible {r : GovernanceResolution}
    (h : r.outcome = .admissible) : r.blockedCapabilities = [] := by
  have haccepted := r.accepted
  simp only [ResolutionFields.violation, ResolutionFields.coherence, h, firstOf_eq_none,
    List.mem_cons, List.not_mem_nil, or_false, forall_eq_or_imp, forall_eq, reduceCtorEq,
    if_false, refuse_eq_none, Bool.not_eq_false', List.isEmpty_iff] at haccepted
  tauto

/-- How many rows a kind has. -/
theorem Storable.positions_fit (h : Storable t envelope) {kind : GovernanceItemKind}
    {r : ApprovalRecordGovernanceItem}
    (hr : r ∈ itensDoTipo envelope.approvalId envelope.proposal.governanceResolution kind) :
    r.position < 2147483648 ∧ ∀ s ∈ r.valueText, s ∈ envelope.freeTexts := by
  have hproposal := envelope.proposal.coherent
  have htextual : r ∈ enumerated (itemTextual envelope.approvalId kind)
        (textuais envelope.proposal.governanceResolution kind) →
      r.position < 2147483648 ∧ ∀ s ∈ r.valueText, s ∈ envelope.freeTexts := by
    intro hmem
    obtain ⟨texto, posicao, htexto, rfl⟩ := mem_enumerated.mp hmem
    have hposicao := (List.getElem?_eq_some_iff.mp htexto).1
    refine ⟨lt_of_lt_of_le hposicao (h.positions kind), fun s hs => ?_⟩
    cases hs
    exact mem_freeTexts_of_textuais (List.mem_of_getElem? htexto)
  cases kind with
  | domainId =>
    rw [itensDoTipo, hproposal.domains] at hr
    obtain ⟨dominio, posicao, hdominio, rfl⟩ := mem_enumerated.mp hr
    have hposicao := (List.getElem?_eq_some_iff.mp hdominio).1
    simp only [List.length_singleton] at hposicao
    refine ⟨by simp only; omega, fun s hs => by cases hs⟩
  | blockedCapability =>
    rw [itensDoTipo, GovernanceResolution.blockedCapabilities_of_admissible hproposal.outcome] at hr
    cases hr
  | admissibleAlternative | constraint | declaredPreservation | declaredLoss => exact htextual hr

theorem Storable.item_fits (h : Storable t envelope) {r : ApprovalRecordGovernanceItem}
    (hr : r ∈ itensDeGovernanca envelope.approvalId envelope.proposal.governanceResolution) :
    r.fits = true := by
  obtain ⟨kind, -, hkind⟩ := List.mem_flatMap.mp hr
  obtain ⟨hposition, htext⟩ := h.positions_fit hkind
  rw [ApprovalRecordGovernanceItem.fits, Bool.and_eq_true]
  constructor
  · cases hvalue : r.valueText with
    | none => rfl
    | some s => exact h.texts s (htext s hvalue)
  · simp only [fitsInteger, Bool.and_eq_true, decide_eq_true_eq]
    omega

end Storable

/-! ## Rows that meet the constraints -/

section Checks

variable (envelope : DestructiveApprovalEnvelope)

theorem PresentedImpact.checks (i : PresentedImpact) : 0 ≤ i.itemCount ∧
    (match i.volumeKind, i.bytesTotal with
      | .known, some bytes => decide (0 ≤ bytes)
      | .unknown, none => true
      | _, _ => false) = true := by
  obtain ⟨count, kind, bytes, haccepted⟩ := i
  simp only [PresentedImpact.violation, firstOf_eq_none, List.mem_cons, List.not_mem_nil, or_false,
    forall_eq_or_imp, forall_eq, refuse_eq_none, decide_eq_false_iff_not, not_lt] at haccepted
  refine ⟨haccepted.1, ?_⟩
  cases kind <;> cases bytes <;> simp_all

theorem checks_registroDe : (registroDe envelope).checks = true := by
  have hcoherent := envelope.coherent
  obtain ⟨hcount, hvolume⟩ := envelope.proposal.impact.checks
  simp only [ApprovalRecord.checks, Bool.and_eq_true, decide_eq_true_eq]
  exact ⟨⟨⟨⟨hcoherent.nonce, hcount⟩, hvolume⟩,
    ⟨⟨⟨hcoherent.authenticated, hcoherent.beforeConfirmation⟩, hcoherent.issued⟩,
      hcoherent.confirmed⟩, hcoherent.expires⟩, rfl⟩

theorem checks_alvosDe {r : ApprovalRecordTarget} (hr : r ∈ alvosDe envelope) :
    r.checks = true := by
  obtain ⟨alvo, posicao, -, rfl⟩ := mem_enumerated.mp hr
  have haccepted := alvo.origin.accepted
  simp only [ApprovalRecordTarget.checks, alvoDe]
  cases hposition : alvo.origin.position with
  | none => rfl
  | some position =>
    rw [hposition] at haccepted
    simp only [ReferenceProvenance.violation, firstOf_eq_none, List.mem_cons, forall_eq_or_imp,
      refuse_eq_none, decide_eq_false_iff_not, not_lt] at haccepted
    simpa using haccepted.1

theorem checks_itensDoTipo {approvalId : Uuid} {resolucao : GovernanceResolution}
    {kind : GovernanceItemKind} {r : ApprovalRecordGovernanceItem}
    (hr : r ∈ itensDoTipo approvalId resolucao kind) : r.checks = true ∧ r.kind = kind ∧
      r.approvalRecordId = approvalId := by
  cases kind <;>
    · simp only [itensDoTipo] at hr
      obtain ⟨valor, posicao, -, rfl⟩ := mem_enumerated.mp hr
      exact ⟨rfl, rfl, rfl⟩

theorem mem_itensDeGovernanca {approvalId : Uuid} {resolucao : GovernanceResolution}
    {r : ApprovalRecordGovernanceItem} : r ∈ itensDeGovernanca approvalId resolucao ↔
      r ∈ itensDoTipo approvalId resolucao r.kind := by
  rw [itensDeGovernanca, List.mem_flatMap]
  constructor
  · rintro ⟨kind, -, hr⟩
    rwa [(checks_itensDoTipo hr).2.1]
  · intro hr
    refine ⟨r.kind, ?_, hr⟩
    cases r.kind <;> decide

/-- Of all the items, those of one kind. -/
theorem filter_itensDeGovernanca {approvalId : Uuid} {resolucao : GovernanceResolution}
    (kind : GovernanceItemKind) :
    (itensDeGovernanca approvalId resolucao).filter
        (fun r => r.approvalRecordId == approvalId && r.kind == kind) =
      itensDoTipo approvalId resolucao kind := by
  have heach : ∀ other, (itensDoTipo approvalId resolucao other).filter
      (fun r => r.approvalRecordId == approvalId && r.kind == kind) =
      if other = kind then itensDoTipo approvalId resolucao kind else [] := by
    intro other
    split
    case isTrue heq =>
      rw [← heq, List.filter_eq_self]
      intro r hr
      simp [(checks_itensDoTipo hr).2]
    case isFalse hne =>
      rw [List.filter_eq_nil_iff]
      intro r hr
      simp [(checks_itensDoTipo hr).2, hne]
  rw [itensDeGovernanca, List.filter_flatMap]
  simp only [heach]
  cases kind <;> simp [kinds]

end Checks

/-! ## The rows of a new approval -/

section Append

variable {store : ApprovalStore} {envelope : DestructiveApprovalEnvelope}

/-- Values that fit are taken as they are. -/
theorem Storable.withRows_eq {t : ApprovalTables} (h : Storable t envelope) :
    withRows t envelope =
      { records := t.records ++ [registroDe envelope]
        targets := t.targets ++ alvosDe envelope
        items := t.items ++ itensDeGovernanca envelope.approvalId
          envelope.proposal.governanceResolution } := by
  have htargets : (alvosDe envelope).map ApprovalRecordTarget.assigned = alvosDe envelope := by
    rw [List.map_congr_left fun r hr => ApprovalRecordTarget.assigned_of_fits (h.target_fits hr)]
    exact List.map_id' _
  have hitems : (itensDeGovernanca envelope.approvalId
      envelope.proposal.governanceResolution).map ApprovalRecordGovernanceItem.assigned =
      itensDeGovernanca envelope.approvalId envelope.proposal.governanceResolution := by
    rw [List.map_congr_left fun r hr =>
      ApprovalRecordGovernanceItem.assigned_of_fits (h.item_fits hr)]
    exact List.map_id' _
  rw [withRows, ApprovalRecord.assigned_of_fits h.record_fits, htargets, hitems]

/-- No row of the tables belongs to a record that is not there. -/
theorem Storable.no_targets (h : Storable store.toApprovalTables envelope) :
    ∀ r ∈ store.targets, r.approvalRecordId ≠ envelope.approvalId := fun r hr heq =>
  h.fresh_id (heq ▸ store.sound.target_records r hr)

theorem Storable.no_items (h : Storable store.toApprovalTables envelope) :
    ∀ r ∈ store.items, r.approvalRecordId ≠ envelope.approvalId := fun r hr heq =>
  h.fresh_id (heq ▸ store.sound.item_records r hr)

theorem alvosDe_record {r : ApprovalRecordTarget} (hr : r ∈ alvosDe envelope) :
    r.approvalRecordId = envelope.approvalId := by
  obtain ⟨alvo, posicao, -, rfl⟩ := mem_enumerated.mp hr
  rfl

theorem itensDeGovernanca_record {r : ApprovalRecordGovernanceItem}
    (hr : r ∈ itensDeGovernanca envelope.approvalId envelope.proposal.governanceResolution) :
    r.approvalRecordId = envelope.approvalId :=
  (checks_itensDoTipo (mem_itensDeGovernanca.mp hr)).2.2

/-- The targets of an approval are at distinct positions, and so are the items of a
kind; no two targets are the same subject. -/
theorem alvosDe_positions :
    ((alvosDe envelope).map fun r => (r.approvalRecordId, r.position)).Nodup :=
  nodup_map_enumerated ApprovalRecordTarget.position (fun _ _ => rfl)
    fun _ _ heq => (Prod.mk.inj heq).2

theorem alvosDe_subjects :
    ((alvosDe envelope).map fun r => (r.approvalRecordId, r.subjectCoid)).Nodup := by
  have hsubjects := envelope.proposal.coherent.subjects
  have hmap : ((alvosDe envelope).map fun r => (r.approvalRecordId, r.subjectCoid)) =
      (envelope.proposal.targets.map SafeTargetSnapshot.subjectCoid).map
        (Prod.mk envelope.approvalId) := by
    rw [alvosDe, map_enumerated, List.map_map]
    exact enumerated_const (f := Prod.mk envelope.approvalId ∘ SafeTargetSnapshot.subjectCoid)
  rw [hmap]
  exact hsubjects.map fun _ _ heq => (Prod.mk.inj heq).2

theorem itensDeGovernanca_positions : ((itensDeGovernanca envelope.approvalId
    envelope.proposal.governanceResolution).map
      fun r => (r.approvalRecordId, r.kind, r.position)).Nodup := by
  rw [itensDeGovernanca, List.map_flatMap, List.nodup_flatMap]
  constructor
  · intro kind _
    cases kind <;>
      · simp only [itensDoTipo]
        exact nodup_map_enumerated ApprovalRecordGovernanceItem.position (fun _ _ => rfl)
          fun _ _ heq => (Prod.mk.inj (Prod.mk.inj heq).2).2
  · refine List.Pairwise.imp ?_ (show kinds.Nodup by decide)
    intro kind kind' hne key hkey hkey'
    obtain ⟨r, hr, rfl⟩ := List.mem_map.mp hkey
    obtain ⟨r', hr', heq⟩ := List.mem_map.mp hkey'
    have hkind := (Prod.mk.inj (Prod.mk.inj heq).2).1
    rw [(checks_itensDoTipo hr).2.1, (checks_itensDoTipo hr').2.1] at hkind
    exact hne hkind.symm

/-- The tables with the new rows keep every constraint. -/
theorem Storable.sound (h : Storable store.toApprovalTables envelope) :
    (withRows store.toApprovalTables envelope).Sound := by
  have hsound := store.sound
  rw [h.withRows_eq]
  constructor
  case record_ids =>
    refine nodup_map_append hsound.record_ids (List.nodup_singleton _) fun r hr r' hr' heq => ?_
    rw [List.mem_singleton.mp hr'] at heq
    exact h.fresh_id (List.mem_map.mpr ⟨r, hr, heq⟩)
  case record_nonces =>
    refine nodup_map_append hsound.record_nonces (List.nodup_singleton _) fun r hr r' hr' heq => ?_
    rw [List.mem_singleton.mp hr'] at heq
    exact h.fresh_nonce (List.mem_map.mpr ⟨r, hr, heq⟩)
  case record_rows =>
    refine List.forall_mem_append.mpr ⟨hsound.record_rows, fun r hr => ?_⟩
    rw [List.mem_singleton.mp hr]
    exact ⟨h.record_fits, checks_registroDe envelope⟩
  case target_positions =>
    refine nodup_map_append hsound.target_positions alvosDe_positions fun r hr r' hr' heq => ?_
    exact h.no_targets r hr ((Prod.mk.inj heq).1.trans (alvosDe_record hr'))
  case target_subjects =>
    refine nodup_map_append hsound.target_subjects alvosDe_subjects fun r hr r' hr' heq => ?_
    exact h.no_targets r hr ((Prod.mk.inj heq).1.trans (alvosDe_record hr'))
  case target_rows =>
    exact List.forall_mem_append.mpr ⟨hsound.target_rows,
      fun r hr => ⟨h.target_fits hr, checks_alvosDe envelope hr⟩⟩
  case target_records =>
    simp only [List.map_append, List.forall_mem_append]
    refine ⟨fun r hr => List.mem_append_left _ (hsound.target_records r hr), fun r hr => ?_⟩
    rw [alvosDe_record hr]
    exact List.mem_append_right _ List.mem_cons_self
  case item_positions =>
    refine nodup_map_append hsound.item_positions itensDeGovernanca_positions
      fun r hr r' hr' heq => ?_
    exact h.no_items r hr ((Prod.mk.inj heq).1.trans (itensDeGovernanca_record hr'))
  case item_rows =>
    refine List.forall_mem_append.mpr ⟨hsound.item_rows, fun r hr => ⟨h.item_fits hr, ?_⟩⟩
    exact (checks_itensDoTipo (mem_itensDeGovernanca.mp hr)).1
  case item_records =>
    simp only [List.map_append, List.forall_mem_append]
    refine ⟨fun r hr => List.mem_append_left _ (hsound.item_records r hr), fun r hr => ?_⟩
    rw [itensDeGovernanca_record hr]
    exact List.mem_append_right _ List.mem_cons_self

/-- The tables with the new rows hold the envelope. -/
theorem Storable.holds (h : Storable store.toApprovalTables envelope) :
    Holds (withRows store.toApprovalTables envelope) envelope (registroDe envelope) := by
  rw [h.withRows_eq]
  constructor
  case record =>
    have hnone : store.records.find? (fun r => r.id == envelope.approvalId) = none := by
      rw [List.find?_eq_none]
      intro r hr heq
      exact h.fresh_id (List.mem_map.mpr ⟨r, hr, eq_of_beq heq⟩)
    simp [ApprovalTables.get, List.find?_append, hnone, registroDe]
  case binding => rfl
  case targets =>
    have hold : store.targets.filter (·.approvalRecordId == envelope.approvalId) = [] := by
      rw [List.filter_eq_nil_iff]
      exact fun r hr heq => h.no_targets r hr (eq_of_beq heq)
    have hnew : (alvosDe envelope).filter (·.approvalRecordId == envelope.approvalId) =
        alvosDe envelope := by
      rw [List.filter_eq_self]
      exact fun r hr => beq_iff_eq.mpr (alvosDe_record hr)
    rw [ApprovalTables.targetsOf, List.filter_append, hold, hnew, List.nil_append]
    exact insertionSort_enumerated fun _ _ => rfl
  case items =>
    intro kind
    have hold : store.items.filter
        (fun r => r.approvalRecordId == envelope.approvalId && r.kind == kind) = [] := by
      rw [List.filter_eq_nil_iff]
      intro r hr heq
      exact h.no_items r hr (eq_of_beq (Bool.and_eq_true_iff.mp heq).1)
    rw [ApprovalTables.itemsOf, List.filter_append, hold, filter_itensDeGovernanca,
      List.nil_append]
    cases kind <;>
      · simp only [itensDoTipo]
        exact insertionSort_enumerated fun _ _ => rfl

end Append

/-! ## What the round trip needs -/

section Converse

variable {store store' : ApprovalStore} {envelope : DestructiveApprovalEnvelope}
  {t : ApprovalTables} {registro : ApprovalRecord}

/-- Tables that a statement leaves meet every constraint. -/
theorem of_settle (h : t.settle = .ok store') : store'.toApprovalTables = t := by
  unfold ApprovalTables.settle at h
  split at h
  case isTrue => rw [← Except.ok.inj h]
  case isFalse => split at h <;> cases h

theorem settle_of_sound (h : t.Sound) : t.settle = .ok ⟨t, h⟩ := dif_pos h

theorem resolucao_of_reconstruir (h : reconstruir t registro = .ok envelope) :
    ApprovalRecordRepository.reconstruirGovernanca t registro =
      .ok envelope.proposal.governanceResolution := by
  simp only [reconstruir, bind_eq_ok] at h
  obtain ⟨resolucao, hresolucao, snapshots, -, contexto, -, proveniencia, -, impacto, -, proposta,
    hproposta, identidade, -, henvelope⟩ := h
  obtain ⟨_, rfl⟩ := of_checked henvelope
  obtain ⟨_, rfl⟩ := of_checked hproposta
  exact hresolucao

/-- Every free text of an envelope that was read fits, as its row does. -/
theorem fitsText_of_reconstruir (hsound : t.Sound) (hmem : registro ∈ t.records)
    (h : reconstruir t registro = .ok envelope) {s : String} (hs : s ∈ envelope.freeTexts) :
    fitsText s = true := by
  have hfields := GovernanceResolution.of_make (resolucao_of_reconstruir h)
  have hrow : ∀ text ∈ registro.texts, fitsText text = true := by
    have hfits := (hsound.record_rows registro hmem).1
    exact List.all_eq_true.mp (Bool.and_eq_true_iff.mp hfits).1
  have hitem : ∀ kind, ∀ text ∈ canonicalTextTuple
      ((t.itemsOf registro.id kind).filterMap (·.valueText)), fitsText text = true := by
    intro kind text htext
    obtain ⟨item, hitem, hvalue⟩ := List.mem_filterMap.mp (mem_of_canonicalTextTuple htext)
    have hstored := (List.mem_filter.mp ((List.mem_insertionSort _).mp hitem)).1
    have hfits := (Bool.and_eq_true_iff.mp (hsound.item_rows item hstored).1).1
    rw [hvalue] at hfits
    exact hfits
  rw [DestructiveApprovalEnvelope.freeTexts, hfields] at hs
  simp only [ResolutionFields.canonical, List.mem_append, List.mem_cons, List.not_mem_nil,
    or_false] at hs
  rcases hs with (((hparent | halternative) | hconstraint) | hpreservation) | hloss
  · refine hrow s ?_
    simp only [ApprovalRecord.texts, List.mem_append, List.mem_cons, List.not_mem_nil, or_false]
    tauto
  · exact hitem .admissibleAlternative s halternative
  · exact hitem .constraint s hconstraint
  · exact hitem .declaredPreservation s hpreservation
  · exact hitem .declaredLoss s hloss

/-- New rows that leave the tables sound have a new identifier and a new nonce. -/
theorem fresh_of_sound (h : (withRows t envelope).Sound) :
    envelope.approvalId ∉ t.records.map ApprovalRecord.id ∧
      envelope.nonce ∉ t.records.map ApprovalRecord.nonce := by
  have hids := h.record_ids
  have hnonces := h.record_nonces
  simp only [withRows, List.map_append, List.nodup_append] at hids hnonces
  exact ⟨fun hmem => hids.2.2 _ hmem _ List.mem_cons_self rfl,
    fun hmem => hnonces.2.2 _ hmem _ List.mem_cons_self rfl⟩

/-- The numbers and the positions of rows that fit are within the columns. -/
theorem numbers_of_sound (h : (withRows t envelope).Sound) :
    ∀ n ∈ envelope.numbers, fitsInteger n = true := by
  have hrow := (h.record_rows (registroDe envelope).assigned
    (List.mem_append_right _ List.mem_cons_self)).1
  have hrecord : ∀ n ∈ (registroDe envelope).integers, fitsInteger n = true :=
    List.all_eq_true.mp (Bool.and_eq_true_iff.mp hrow).2
  have htarget : ∀ r ∈ alvosDe envelope, ∀ n ∈ r.integers, fitsInteger n = true := by
    intro r hr
    have hfits := (h.target_rows r.assigned
      (List.mem_append_right _ (List.mem_map_of_mem hr))).1
    exact List.all_eq_true.mp (Bool.and_eq_true_iff.mp hfits).2
  intro n hn
  rcases List.mem_append.mp hn with hparent | horigin
  · refine hrecord n ?_
    simp only [ApprovalRecord.integers, registroDe]
    exact hparent
  · obtain ⟨alvo, halvo, hposition⟩ := List.mem_filterMap.mp horigin
    obtain ⟨posicao, hposicao⟩ := List.mem_iff_getElem?.mp halvo
    refine htarget _ (mem_enumerated.mpr ⟨alvo, posicao, hposicao, rfl⟩) n ?_
    exact List.mem_cons_of_mem _ (Option.mem_toList.mpr hposition)

theorem positions_of_sound (h : (withRows t envelope).Sound) (kind : GovernanceItemKind) :
    (textuais envelope.proposal.governanceResolution kind).length ≤ 2147483648 := by
  by_contra hlong
  rw [not_le] at hlong
  have hmem : itemTextual envelope.approvalId kind
      (textuais envelope.proposal.governanceResolution kind)[2147483648] 2147483648 ∈
      itensDoTipo envelope.approvalId envelope.proposal.governanceResolution kind := by
    cases kind with
    | domainId | blockedCapability => cases hlong
    | admissibleAlternative | constraint | declaredPreservation | declaredLoss =>
      exact mem_enumerated.mpr ⟨_, _, List.getElem?_eq_getElem hlong, rfl⟩
  have hfits := (h.item_rows _ (List.mem_append_right _
    (List.mem_map_of_mem (mem_itensDeGovernanca.mpr hmem)))).1
  have hposition : fitsInteger ((2147483648 : Nat) : Int) = true :=
    (Bool.and_eq_true_iff.mp hfits).2
  exact absurd hposition (by decide)

/-- Whatever comes back was storable. -/
theorem storable_of_roundTrip (happend : appendApproved store envelope = .ok store')
    (hget : getMaterialized store'.toApprovalTables envelope.approvalId = .ok (some envelope)) :
    Storable store.toApprovalTables envelope := by
  have htables := of_settle happend
  have hsound := store'.sound
  rw [htables] at hsound hget
  obtain ⟨hids, hnonces⟩ := fresh_of_sound hsound
  have hrecord : (withRows store.toApprovalTables envelope).get envelope.approvalId =
      some (registroDe envelope).assigned := by
    have hnone : store.records.find? (fun r => r.id == envelope.approvalId) = none := by
      rw [List.find?_eq_none]
      intro r hr heq
      exact hids (List.mem_map.mpr ⟨r, hr, eq_of_beq heq⟩)
    simp [ApprovalTables.get, withRows, List.find?_append, hnone, registroDe,
      ApprovalRecord.assigned]
  have hrow := hsound.record_rows (registroDe envelope).assigned
    (List.mem_append_right _ List.mem_cons_self)
  rw [getMaterialized, hrecord] at hget
  simp only at hget
  split at hget
  case isFalse => cases hget
  case isTrue hreadable =>
    split at hget
    case h_2 => cases hget
    case h_1 lido hlido =>
      cases hget
      refine ⟨hids, hnonces, ?_, numbers_of_sound hsound, positions_of_sound hsound, ?_⟩
      · exact fun s hs => fitsText_of_reconstruir hsound
          (List.mem_append_right _ List.mem_cons_self) hlido hs
      · simpa [instantes, registroDe, ApprovalRecord.assigned,
          DestructiveApprovalEnvelope.instants] using hreadable

end Converse

def umEscopo : ControlScope := ⟨⟨2⟩, ⟨3⟩, "principal", by decide⟩

def umaCustodia : CustodyNamespace := ⟨"pia", "artefatos", by decide⟩

def umaOrigem : ReferenceProvenance := ⟨.payloadRef, none, by decide⟩

/-- The approval of one file of two gibibytes. -/
def grandeArquivo : DestructiveApprovalEnvelope where
  proposal :=
    { operation := .moveToTrash
      targets := [
        { targetClass := .piaManagedArtifact
          subjectCoid := ⟨1⟩
          controlScope := umEscopo
          custodyNamespace := umaCustodia
          origin := umaOrigem
          legacyProtectionState := .notProtected
          versionEtag := none
          accepted := by decide }]
      impact := ⟨1, .known, some 2147483648, by decide⟩
      governanceResolution :=
        { outcome := .admissible
          operation := .retentionDisposition
          contextDomainIds := [⟨4⟩]
          contextActorRef := some "principal"
          contextPurpose := some "limpeza"
          safetyBoundaryVersion := 1
          policyKey := some "descarte"
          policyVersion := some 1
          policyId := some ⟨5⟩
          matchedRuleId := some "r1"
          isCanonical := by decide
          accepted := by decide }
      context := ⟨⟨3⟩, ⟨2⟩, ⟨4⟩, "limpeza", by decide⟩
      provenance := ⟨.text, .notApplicable, by decide⟩
      blockers := []
      materializedAt := 0
      accepted := by decide }
  approvalId := ⟨6⟩
  nonce := ⟨7⟩
  identity := ⟨"principal", .authenticated, 1, by decide⟩
  context := ⟨⟨3⟩, ⟨2⟩, ⟨4⟩, "limpeza", by decide⟩
  provenance := ⟨.text, .notApplicable, by decide⟩
  issuedAt := 1
  confirmedAt := 2
  expiresAt := 3
  accepted := by decide

end PiaOs.Memory
