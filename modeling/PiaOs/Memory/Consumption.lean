import PiaOs.Memory.ApprovalTransitions
import PiaOs.Memory.ApprovalRoundTrip

/-!
# The condition of a transition

A row is chosen exactly when the tables hold the expected envelope in it, it is
active and, to be consumed, it has not expired.
-/

namespace PiaOs.Memory

open Support ApprovalRecordRepository

section Condition

variable {t : ApprovalTables} {expected : DestructiveApprovalEnvelope} {r : ApprovalRecord}

/-- The columns of the parent row. -/
theorem condicoesDeBinding_iff : (condicoesDeBinding expected r).all id = true ↔
    r.state = .active ∧ r.binding = registroDe expected := by
  simp only [condicoesDeBinding, List.all_cons, List.all_nil, id, Bool.and_true,
    Bool.and_eq_true, beq_iff_eq, ApprovalRecord.binding, registroDe, ApprovalRecord.mk.injEq,
    true_and]
  tauto

/-- The row of a target. -/
theorem existeAlvo_iff {alvo : SafeTargetSnapshot} {posicao : Nat} :
    existeAlvo t r alvo posicao = true ↔ alvoDe r.id alvo posicao ∈ t.targets := by
  simp only [existeAlvo, List.any_eq_true, Bool.and_eq_true, beq_iff_eq]
  constructor
  · rintro ⟨row, hrow, h⟩
    have heq : row = alvoDe r.id alvo posicao := by
      obtain ⟨⟩ := row
      simp_all [alvoDe]
    exact heq ▸ hrow
  · exact fun hmem => ⟨_, hmem, by simp [alvoDe]⟩

/-- The targets of the record are the expected ones. -/
theorem targets_iff (hsound : t.Sound) :
    ((enumerated (existeAlvo t r) expected.proposal.targets).all id = true ∧
        (t.targets.filter (·.approvalRecordId == r.id)).length =
          expected.proposal.targets.length) ↔
      t.targetsOf r.id = enumerated (alvoDe r.id) expected.proposal.targets := by
  have hpositions : ((t.targets.filter (·.approvalRecordId == r.id)).map
      ApprovalRecordTarget.position).Nodup :=
    nodup_positions hsound.target_positions fun _ _ hid hid' hpos =>
      Prod.ext ((eq_of_beq hid).trans (eq_of_beq hid').symm) hpos
  rw [ApprovalTables.targetsOf, insertionSort_eq_enumerated_iff (fun _ _ => rfl) hpositions,
    all_enumerated, and_comm]
  refine and_congr_right fun _ => ?_
  simp only [existeAlvo_iff]
  constructor
  · intro h row hrow
    obtain ⟨alvo, posicao, halvo, rfl⟩ := mem_enumerated.mp hrow
    exact List.mem_filter.mpr ⟨h alvo posicao halvo, beq_self_eq_true _⟩
  · intro h alvo posicao halvo
    exact (List.mem_filter.mp (h _ (mem_enumerated.mpr ⟨alvo, posicao, halvo, rfl⟩))).1

/-- A value and the test of it, of one kind: rows that pass the test are the row. -/
theorem items_iff {α : Type} (hsound : t.Sound) {kind : GovernanceItemKind}
    {row : α → Nat → ApprovalRecordGovernanceItem} {values : List α}
    {test : α → ApprovalRecordGovernanceItem → Bool} (hpos : ∀ x i, (row x i).position = i)
    (htest : ∀ x i item, item.checks = true →
      ((item.approvalRecordId = r.id ∧ item.kind = kind ∧ item.position = i ∧ test x item = true) ↔
        item = row x i)) :
    ((enumerated (existeItem t r kind) (values.map test)).all id = true ∧
        (t.items.filter fun item => item.approvalRecordId == r.id && item.kind == kind).length =
          (values.map test).length) ↔
      t.itemsOf r.id kind = enumerated row values := by
  have hpositions : ((t.items.filter fun item => item.approvalRecordId == r.id &&
      item.kind == kind).map ApprovalRecordGovernanceItem.position).Nodup := by
    refine nodup_positions hsound.item_positions fun item item' hof hof' heq => ?_
    simp only [Bool.and_eq_true, beq_iff_eq] at hof hof'
    rw [hof.1, hof.2, hof'.1, hof'.2, heq]
  rw [ApprovalTables.itemsOf, insertionSort_eq_enumerated_iff hpos hpositions, enumerated_map,
    all_enumerated, List.length_map, and_comm]
  refine and_congr_right fun _ => ?_
  simp only [existeItem, List.any_eq_true, Bool.and_eq_true, beq_iff_eq]
  constructor
  · intro h item hitem
    obtain ⟨x, i, hx, rfl⟩ := mem_enumerated.mp hitem
    obtain ⟨item, hmem, ⟨⟨hid, hkind⟩, hposition⟩, hvalue⟩ := h x i hx
    have heq := (htest x i item (hsound.item_rows item hmem).2).mp ⟨hid, hkind, hposition, hvalue⟩
    rw [← heq]
    exact List.mem_filter.mpr ⟨hmem, by simp [hid, hkind]⟩
  · intro h x i hx
    have hmem := (List.mem_filter.mp (h _ (mem_enumerated.mpr ⟨x, i, hx, rfl⟩))).1
    obtain ⟨hid, hkind, hposition, hvalue⟩ :=
      (htest x i _ (hsound.item_rows _ hmem).2).mpr rfl
    exact ⟨_, hmem, ⟨⟨hid, hkind⟩, hposition⟩, hvalue⟩

/-- The items of the record are the expected ones, kind by kind. -/
theorem itens_iff (hsound : t.Sound) {resolucao : GovernanceResolution}
    (kind : GovernanceItemKind) :
    ((enumerated (existeItem t r kind) (esperados resolucao kind)).all id = true ∧
        (t.items.filter fun item => item.approvalRecordId == r.id && item.kind == kind).length =
          (esperados resolucao kind).length) ↔
      t.itemsOf r.id kind = itensDoTipo r.id resolucao kind := by
  cases kind with
  | domainId =>
    simp only [itensDoTipo, esperados]
    refine items_iff hsound (fun _ _ => rfl) fun x i item hchecks => ?_
    obtain ⟨id, kind, position, uuid, enum, text⟩ := item
    simp only [ApprovalRecordGovernanceItem.checks, ApprovalRecordGovernanceItem.mk.injEq] at *
    constructor
    · rintro ⟨rfl, rfl, rfl, hvalue⟩
      simp_all
    · rintro ⟨rfl, rfl, rfl, rfl, rfl, rfl⟩
      simp
  | blockedCapability =>
    simp only [itensDoTipo, esperados]
    refine items_iff hsound (fun _ _ => rfl) fun x i item hchecks => ?_
    obtain ⟨id, kind, position, uuid, enum, text⟩ := item
    simp only [ApprovalRecordGovernanceItem.checks, ApprovalRecordGovernanceItem.mk.injEq] at *
    constructor
    · rintro ⟨rfl, rfl, rfl, hvalue⟩
      simp_all
    · rintro ⟨rfl, rfl, rfl, rfl, rfl, rfl⟩
      simp
  | admissibleAlternative | constraint | declaredPreservation | declaredLoss =>
    simp only [itensDoTipo, esperados]
    refine items_iff hsound (fun _ _ => rfl) fun x i item hchecks => ?_
    obtain ⟨id, kind, position, uuid, enum, text⟩ := item
    simp only [ApprovalRecordGovernanceItem.checks, itemTextual,
      ApprovalRecordGovernanceItem.mk.injEq] at *
    constructor
    · rintro ⟨rfl, rfl, rfl, hvalue⟩
      simp_all
    · rintro ⟨rfl, rfl, rfl, rfl, rfl, rfl⟩
      simp

theorem mem_kinds (kind : GovernanceItemKind) : kind ∈ kinds := by cases kind <;> decide

/-- The child rows of the record are the expected ones, and there are no others. -/
theorem condicoesDasFilhas_iff (hsound : t.Sound) :
    (condicoesDasFilhas t expected r).all id = true ↔
      t.targetsOf r.id = enumerated (alvoDe r.id) expected.proposal.targets ∧
        ∀ kind, t.itemsOf r.id kind =
          itensDoTipo r.id expected.proposal.governanceResolution kind := by
  have hitems : ((kinds.flatMap fun kind => enumerated (existeItem t r kind)
        (esperados expected.proposal.governanceResolution kind)).all id = true ∧
      (kinds.map fun kind => (t.items.filter fun row => row.approvalRecordId == r.id &&
        row.kind == kind).length == (esperados expected.proposal.governanceResolution kind).length).all
          id = true) ↔
      ∀ kind, t.itemsOf r.id kind =
        itensDoTipo r.id expected.proposal.governanceResolution kind := by
    simp only [← itens_iff hsound, List.all_flatMap, List.all_map, List.all_eq_true, mem_kinds,
      forall_const, Function.comp_apply, id, beq_iff_eq, forall_and]
  rw [← targets_iff hsound, ← hitems]
  simp only [condicoesDasFilhas, List.all_append, List.all_cons, List.all_nil, Bool.and_true,
    Bool.and_eq_true, id, beq_iff_eq, and_assoc]

theorem of_get {approvalId : Uuid} (h : t.get approvalId = some r) :
    r ∈ t.records ∧ r.id = approvalId := by
  rw [ApprovalTables.get] at h
  exact ⟨List.mem_of_find?_eq_some h, by simpa using List.find?_some h⟩

/-- The record with an identifier is the only one. -/
theorem ApprovalTables.Sound.get_of_mem (h : t.Sound) (hr : r ∈ t.records) :
    t.get r.id = some r := by
  cases hget : t.get r.id with
  | none =>
    have hnone := List.find?_eq_none.mp hget r hr
    simp at hnone
  | some found =>
    obtain ⟨hfound, hid⟩ := of_get hget
    rw [List.inj_on_of_nodup_map h.record_ids hfound hr hid]

/-- A transition chooses a row exactly when it is active, has not expired and the
tables hold the expected envelope in it. -/
theorem escolhido_iff (hsound : t.Sound) (hr : r ∈ t.records) {exigirNaoVencida : Bool}
    {agora : Instant} : escolhido t expected exigirNaoVencida agora r = true ↔
      Holds t expected r ∧ r.state = .active ∧
        (exigirNaoVencida = true → agora < r.expiresAt) := by
  have hexpiry : ((if exigirNaoVencida then [decide (agora < r.expiresAt)] else []).all id = true) ↔
      (exigirNaoVencida = true → agora < r.expiresAt) := by
    cases exigirNaoVencida <;> simp
  rw [escolhido, List.all_append, List.all_append, Bool.and_eq_true, Bool.and_eq_true, hexpiry,
    condicoesDeBinding_iff, condicoesDasFilhas_iff hsound]
  constructor
  · rintro ⟨⟨⟨hactive, hbinding⟩, htargets, hitems⟩, hunexpired⟩
    have hid : r.id = expected.approvalId := congrArg ApprovalRecord.id hbinding
    rw [hid] at htargets
    simp only [hid] at hitems
    exact ⟨⟨hid ▸ hsound.get_of_mem hr, hbinding, htargets, hitems⟩, hactive, hunexpired⟩
  · rintro ⟨hholds, hactive, hunexpired⟩
    have hid : r.id = expected.approvalId := (of_get hholds.record).2
    refine ⟨⟨⟨hactive, hholds.binding⟩, ?_, ?_⟩, hunexpired⟩
    · rw [hid]
      exact hholds.targets
    · rw [hid]
      exact hholds.items

end Condition

/-! ## The command -/

section Command

variable {store : ApprovalStore} {t : ApprovalTables} {expected : DestructiveApprovalEnvelope}
  {r : ApprovalRecord} {destino : ApprovalLifecycleState} {exigirNaoVencida : Bool}
  {agora : Instant} {relogio : Relogio}

@[simp] theorem transitado_id : (transitado destino agora r).id = r.id := by
  unfold transitado
  split <;> rfl

@[simp] theorem transitado_nonce : (transitado destino agora r).nonce = r.nonce := by
  unfold transitado
  split <;> rfl

@[simp] theorem transitado_state : (transitado destino agora r).state = destino := by
  unfold transitado
  split <;> rfl

@[simp] theorem transitado_binding : (transitado destino agora r).binding = r.binding := by
  unfold transitado
  split <;> rfl

theorem transitado_fits (h : r.fits = true) : (transitado destino agora r).fits = true := by
  unfold transitado
  split <;> exact h

theorem transitado_checks (hactive : r.state = .active) (hdestino : destino ≠ .active)
    (h : r.checks = true) : (transitado destino agora r).checks = true := by
  obtain ⟨⟩ := r
  cases destino <;> simp_all [ApprovalRecord.checks, transitado]

/-- A transition of active rows keeps every constraint. -/
theorem atualizado_sound (hsound : t.Sound) (hdestino : destino ≠ .active)
    {escolhe : ApprovalRecord → Bool}
    (hactive : ∀ r ∈ t.records, escolhe r = true → r.state = .active) :
    (atualizado t escolhe destino agora).Sound := by
  have hids : (atualizado t escolhe destino agora).records.map ApprovalRecord.id =
      t.records.map ApprovalRecord.id := by
    simp only [atualizado, List.map_map]
    refine List.map_congr_left fun r _ => ?_
    simp only [Function.comp_apply]
    split <;> simp
  have hnonces : (atualizado t escolhe destino agora).records.map ApprovalRecord.nonce =
      t.records.map ApprovalRecord.nonce := by
    simp only [atualizado, List.map_map]
    refine List.map_congr_left fun r _ => ?_
    simp only [Function.comp_apply]
    split <;> simp
  constructor
  case record_ids => exact hids ▸ hsound.record_ids
  case record_nonces => exact hnonces ▸ hsound.record_nonces
  case record_rows =>
    intro row hrow
    obtain ⟨r, hr, rfl⟩ := List.mem_map.mp hrow
    obtain ⟨hfits, hchecks⟩ := hsound.record_rows r hr
    split
    case isTrue hchosen =>
      exact ⟨transitado_fits hfits, transitado_checks (hactive r hr hchosen) hdestino hchecks⟩
    case isFalse => exact ⟨hfits, hchecks⟩
  case target_records => exact hids ▸ hsound.target_records
  case item_records => exact hids ▸ hsound.item_records
  case target_positions => exact hsound.target_positions
  case target_subjects => exact hsound.target_subjects
  case target_rows => exact hsound.target_rows
  case item_positions => exact hsound.item_positions
  case item_rows => exact hsound.item_rows

/-- The parameters of an envelope that the tables hold are accepted. -/
theorem Holds.parametrosAceitos (hsound : t.Sound) (h : Holds t expected r) :
    parametrosAceitos expected = true := by
  have htext : ∀ s, fitsText s = true → (!s.toList.contains (Char.ofNat 0)) = true :=
    fun s hs => (Bool.and_eq_true_iff.mp hs).2
  have hrecord : (registroDe expected).fits = true := by
    rw [← h.binding]
    exact (hsound.record_rows r (of_get h.record).1).1
  have htargets : ∀ row ∈ alvosDe expected, row.fits = true := by
    intro row hrow
    rw [← h.targets, ApprovalTables.targetsOf, List.mem_insertionSort] at hrow
    exact (hsound.target_rows row (List.mem_filter.mp hrow).1).1
  have hitems : ∀ row ∈ itensDeGovernanca expected.approvalId
      expected.proposal.governanceResolution, row.fits = true := by
    intro row hrow
    have hkind := mem_itensDeGovernanca.mp hrow
    rw [← h.items, ApprovalTables.itemsOf, List.mem_insertionSort] at hkind
    exact (hsound.item_rows row (List.mem_filter.mp hkind).1).1
  simp only [ApprovalRecord.fits, ApprovalRecordTarget.fits, ApprovalRecordGovernanceItem.fits,
    Bool.and_eq_true, List.all_eq_true, Option.all_eq_true] at hrecord htargets hitems
  simp only [ApprovalRecordRepository.parametrosAceitos, Bool.and_eq_true, List.all_eq_true,
    Option.all_eq_true]
  exact ⟨⟨⟨fun s hs => htext s (hrecord.1 s hs), hrecord.2⟩,
    fun row hrow => ⟨fun s hs => htext s ((htargets row hrow).1 s hs), (htargets row hrow).2⟩⟩,
    fun row hrow => ⟨fun s hs => htext s ((hitems row hrow).1 s hs), (hitems row hrow).2⟩⟩

/-- The transition finds a row: one that holds the envelope, active and in time. -/
structure Usable (t : ApprovalTables) (expected : DestructiveApprovalEnvelope)
    (exigirNaoVencida : Bool) (agora : Instant) (r : ApprovalRecord) : Prop where
  holds : Holds t expected r
  active : r.state = .active
  unexpired : exigirNaoVencida = true → agora < r.expiresAt

/-- Without such a row nothing is written. -/
theorem transicionar_refused (destino : ApprovalLifecycleState)
    (h : ∀ r, ¬ Usable store.toApprovalTables expected exigirNaoVencida relogio.julgado r) :
    ∃ erro, transicionar store expected destino exigirNaoVencida relogio = (.error erro, store) := by
  have hnone : store.records.any
      (escolhido store.toApprovalTables expected exigirNaoVencida relogio.julgado) = false := by
    rw [List.any_eq_false]
    intro r hr hchosen
    obtain ⟨hholds, hactive, hunexpired⟩ := (escolhido_iff store.sound hr).mp hchosen
    exact h r ⟨hholds, hactive, hunexpired⟩
  rw [transicionar]
  simp only [hnone, Bool.not_false, if_true]
  split
  · exact ⟨_, rfl⟩
  · exact ⟨_, rfl⟩

/-- With such a row it is written, and read back. -/
theorem transicionar_usable (hdestino : destino ≠ .active)
    (h : Usable store.toApprovalTables expected exigirNaoVencida relogio.julgado r) :
    ∃ store', transicionar store expected destino exigirNaoVencida relogio =
        (if (instantes (transitado destino relogio.escrito r)).all readable then
          .ok (transitado destino relogio.escrito r) else .error .driver, store') ∧
      store'.toApprovalTables = { store.toApprovalTables with
        records := store.records.map fun row =>
          if row = r then transitado destino relogio.escrito row else row } := by
  have hr := (of_get h.holds.record).1
  have hid := (of_get h.holds.record).2
  have hchosen : ∀ row ∈ store.records, escolhido store.toApprovalTables expected
      exigirNaoVencida relogio.julgado row = true ↔ row = r := by
    intro row hrow
    rw [escolhido_iff store.sound hrow]
    constructor
    · rintro ⟨hholds, -, -⟩
      exact Option.some.inj (hholds.record.symm.trans h.holds.record)
    · rintro rfl
      exact ⟨h.holds, h.active, h.unexpired⟩
  have hany : store.records.any (escolhido store.toApprovalTables expected exigirNaoVencida
      relogio.julgado) = true := List.any_eq_true.mpr ⟨r, hr, (hchosen r hr).mpr rfl⟩
  have hwritten : atualizado store.toApprovalTables (escolhido store.toApprovalTables expected
      exigirNaoVencida relogio.julgado) destino relogio.escrito =
      { store.toApprovalTables with
        records := store.records.map fun row =>
          if row = r then transitado destino relogio.escrito row else row } := by
    rw [atualizado]
    congr 1
    refine List.map_congr_left fun row hrow => ?_
    simp only [hchosen row hrow]
  have hsound : (atualizado store.toApprovalTables (escolhido store.toApprovalTables expected
      exigirNaoVencida relogio.julgado) destino relogio.escrito).Sound :=
    atualizado_sound store.sound hdestino fun row hrow hrow' =>
      (hchosen row hrow).mp hrow' ▸ h.active
  have hback : (⟨_, hsound⟩ : ApprovalStore).get expected.approvalId =
      some (transitado destino relogio.escrito r) := by
    have hmem : transitado destino relogio.escrito r ∈ (atualizado store.toApprovalTables
        (escolhido store.toApprovalTables expected exigirNaoVencida relogio.julgado) destino
        relogio.escrito).records :=
      List.mem_map.mpr ⟨r, hr, by simp [(hchosen r hr).mpr rfl]⟩
    have hget := hsound.get_of_mem hmem
    rwa [transitado_id, hid] at hget
  refine ⟨⟨_, hsound⟩, ?_, hwritten⟩
  rw [transicionar]
  simp only [h.holds.parametrosAceitos store.sound, hany, Bool.not_true, Bool.false_eq_true,
    if_false, settle_of_sound hsound, hback]
  split <;> rfl

/-- The written row can be read back when the instants of the envelope and the
clock can. -/
theorem Usable.readable_consumed (hsound : t.Sound)
    (h : Usable t expected exigirNaoVencida agora r) {escrito : Instant} :
    (instantes (transitado .consumed escrito r)).all readable = true ↔
      (∀ instant ∈ expected.instants, readable instant = true) ∧ readable escrito = true := by
  have hchecks := (hsound.record_rows r (of_get h.holds.record).1).2
  have hactive := h.active
  have hbinding := h.holds.binding
  obtain ⟨⟩ := r
  simp only [ApprovalRecord.checks, Bool.and_eq_true] at hchecks
  simp only [ApprovalRecord.binding, registroDe, ApprovalRecord.mk.injEq] at hbinding
  simp_all [instantes, transitado, DestructiveApprovalEnvelope.instants, and_assoc]

/-- Consumption succeeds exactly on an active record that holds the envelope, before
it expires and when the row can be read back. -/
theorem consumeOnce_ok_iff : (∃ r', (consumeOnce store expected relogio).1 = .ok r') ↔
    ∃ r, Holds store.toApprovalTables expected r ∧ r.state = .active ∧
      relogio.julgado < r.expiresAt ∧ (∀ instant ∈ expected.instants, readable instant = true) ∧
      readable relogio.escrito = true := by
  by_cases hfound : ∃ r, Usable store.toApprovalTables expected true relogio.julgado r
  · obtain ⟨r, hr⟩ := hfound
    obtain ⟨store', hdone, -⟩ := transicionar_usable
      (by decide : ApprovalLifecycleState.consumed ≠ .active) hr
    rw [consumeOnce, hdone]
    constructor
    · rintro ⟨r', hr'⟩
      by_cases hreadable : (instantes (transitado .consumed relogio.escrito r)).all readable = true
      · obtain ⟨hinstants, hwritten⟩ := (hr.readable_consumed store.sound).mp hreadable
        exact ⟨r, hr.holds, hr.active, hr.unexpired rfl, hinstants, hwritten⟩
      · simp only [hreadable, Bool.false_eq_true, if_false] at hr'
        cases hr'
    · rintro ⟨-, -, -, -, hinstants, hwritten⟩
      have hreadable := (hr.readable_consumed store.sound).mpr ⟨hinstants, hwritten⟩
      refine ⟨transitado .consumed relogio.escrito r, ?_⟩
      simp only [hreadable, if_true]
  · obtain ⟨erro, hrefused⟩ := transicionar_refused .consumed (not_exists.mp hfound)
    rw [consumeOnce, hrefused]
    constructor
    · rintro ⟨r', hr'⟩
      cases hr'
    · rintro ⟨r, hholds, hactive, hunexpired, -⟩
      exact absurd ⟨r, hholds, hactive, fun _ => hunexpired⟩ hfound

/-- When it does not succeed on rows that can be read, nothing changes. -/
theorem consumeOnce_unchanged (hfailed : ∀ r', (consumeOnce store expected relogio).1 ≠ .ok r')
    (hinstants : ∀ instant ∈ expected.instants, readable instant = true)
    (hwritten : readable relogio.escrito = true) :
    (consumeOnce store expected relogio).2 = store := by
  by_cases hfound : ∃ r, Usable store.toApprovalTables expected true relogio.julgado r
  · obtain ⟨r, hr⟩ := hfound
    obtain ⟨r', hr'⟩ := consumeOnce_ok_iff.mpr
      ⟨r, hr.holds, hr.active, hr.unexpired rfl, hinstants, hwritten⟩
    exact absurd hr' (hfailed r')
  · obtain ⟨erro, hrefused⟩ := transicionar_refused .consumed (not_exists.mp hfound)
    rw [consumeOnce, hrefused]

/-- A written row was not there before. -/
theorem Usable.changes {store' : ApprovalStore} (hdestino : destino ≠ .active)
    (h : Usable store.toApprovalTables expected exigirNaoVencida relogio.julgado r)
    (hstore' : store'.toApprovalTables = { store.toApprovalTables with
      records := store.records.map fun row =>
        if row = r then transitado destino relogio.escrito row else row }) : store' ≠ store := by
  rintro rfl
  have hr := (of_get h.holds.record).1
  have hmem : transitado destino relogio.escrito r ∈ store'.records := by
    rw [congrArg ApprovalTables.records hstore']
    exact List.mem_map.mpr ⟨r, hr, by simp⟩
  have heq : transitado destino relogio.escrito r = r :=
    List.inj_on_of_nodup_map store'.sound.record_ids hmem hr (by simp)
  have hstate := congrArg ApprovalRecord.state heq
  rw [transitado_state, h.active] at hstate
  exact hdestino hstate

end Command

end PiaOs.Memory
