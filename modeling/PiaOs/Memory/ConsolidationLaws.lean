import Mathlib.Data.List.Zip
import PiaOs.Cognitive.Atomicity
import PiaOs.Memory.Consolidation
import PiaOs.Piap.Canonical

/-!
# The evidence of a derivation

The evidence that is read after a derivation is that of the rows it added: nothing could have
mentioned the new object before it was there.
-/

namespace PiaOs.Memory

open Support Piap Transactions Cognitive ContinuityEvidenceRepository

/-! ## What the evidence is about -/

section Evidence

variable {ρ : Type} {t : Table Referencia ρ} {db : Biblioteca} {coid id : Referencia}
  {clid : Option Referencia}

theorem mem_ordenadasPorId {row : ρ} : (id, row) ∈ ordenadasPorId t ↔ t.lookup id = some row := by
  unfold ordenadasPorId
  rw [List.mem_insertionSort, List.mem_map]
  constructor
  · rintro ⟨⟨id', row'⟩, hmem, heq⟩
    obtain ⟨rfl, rfl⟩ := Prod.mk.inj heq
    exact AList.mem_lookup_iff.mpr hmem
  · intro hlookup
    exact ⟨⟨id, row⟩, AList.mem_lookup_iff.mp hlookup, rfl⟩

theorem mem_evidencias_clid : .clid id ∈ evidencias db coid clid ↔ clid = some id := by
  simp [evidencias, Option.mem_toList, eq_comm]

theorem mem_evidencias_lineageParent {parent : Referencia} {relation : LineageRelation} :
    .lineageParent id parent relation ∈ evidencias db coid clid ↔
      db.edges.lookup id = some ⟨parent, coid, relation⟩ := by
  have hpart : .lineageParent id parent relation ∈ evidencias db coid clid ↔
      ∃ edge, (id, edge) ∈ lineageAsChild db coid ∧ edge.parentCoid = parent ∧
        edge.relationType = relation := by
    simp [evidencias]
  rw [hpart]
  constructor
  · rintro ⟨edge, hedge, rfl, rfl⟩
    obtain ⟨hlinha, hchild⟩ := List.mem_filter.mp hedge
    rw [← of_decide_eq_true hchild]
    exact mem_ordenadasPorId.mp hlinha
  · intro hlookup
    exact ⟨_, List.mem_filter.mpr ⟨mem_ordenadasPorId.mpr hlookup, decide_eq_true rfl⟩, rfl, rfl⟩

theorem mem_evidencias_transformationOutput :
    .transformationOutput id ∈ evidencias db coid clid ↔
      ∃ row, db.transformations.lookup id = some row ∧ coid.str ∈ row.outputRefs := by
  have hpart : .transformationOutput id ∈ evidencias db coid clid ↔
      id ∈ (transformationsCiting db coid).2 := by
    simp [evidencias]
  rw [hpart]
  constructor
  · intro hmem
    obtain ⟨⟨id, row⟩, hrow, rfl⟩ := List.mem_map.mp hmem
    obtain ⟨hlinha, hcited⟩ := List.mem_filter.mp hrow
    exact ⟨row, mem_ordenadasPorId.mp hlinha, of_decide_eq_true hcited⟩
  · rintro ⟨row, hlookup, hcited⟩
    exact List.mem_map.mpr ⟨(id, row), List.mem_filter.mpr
      ⟨mem_ordenadasPorId.mpr hlookup, decide_eq_true hcited⟩, rfl⟩

theorem mem_evidencias_causalEvent {eventType : CausalEventType} :
    .causalEvent id eventType ∈ evidencias db coid clid ↔
      ∃ evento, db.events.lookup id = some evento ∧ evento.eventType = eventType ∧
        ∃ historia, db.histories.lookup evento.historyId = some historia ∧
          historia.subjectCoid = coid := by
  have hpart : .causalEvent id eventType ∈ evidencias db coid clid ↔
      ∃ evento, (id, evento) ∈ causalEvents db coid ∧ evento.eventType = eventType := by
    simp [evidencias]
  rw [hpart]
  refine exists_congr fun evento => ?_
  unfold causalEvents
  rw [List.mem_filter, mem_ordenadasPorId, Option.any_eq_true]
  simp only [decide_eq_true_eq]
  tauto

theorem mem_canonicalEvidence {itens : List PersistenceEvidence} {e : PersistenceEvidence} :
    e ∈ canonicalEvidence itens ↔ e ∈ itens := by
  rw [canonicalEvidence, List.mem_insertionSort, List.mem_dedup]

theorem canonicalEvidence_nodup (itens : List PersistenceEvidence) :
    (canonicalEvidence itens).Nodup :=
  (List.perm_insertionSort _ _).nodup_iff.mpr (List.nodup_dedup itens)

/-- The evidence of one kind, when it is known what it is. -/
theorem filter_kind_perm {itens esperadas : List PersistenceEvidence}
    {kind : PersistenceEvidenceKind} (hnodup : esperadas.Nodup)
    (hkind : ∀ e ∈ esperadas, e.kind = kind)
    (hmem : ∀ e, e.kind = kind → (e ∈ itens ↔ e ∈ esperadas)) :
    ((canonicalEvidence itens).filter (·.kind = kind)).Perm esperadas := by
  rw [List.perm_ext_iff_of_nodup ((canonicalEvidence_nodup itens).filter _) hnodup]
  intro e
  rw [List.mem_filter, mem_canonicalEvidence, decide_eq_true_eq]
  constructor
  · rintro ⟨he, hk⟩
    exact (hmem e hk).mp he
  · intro he
    exact ⟨(hmem e (hkind e he)).mpr he, hkind e he⟩

end Evidence

/-! ## What the verification asks for -/

/-- The evidence of the edges that a receipt names. -/
def linhagemDe (c : CamposDoRecibo) : List PersistenceEvidence :=
  (c.lineageEdgeIds.zip c.sourceCoids).map fun par => .lineageParent par.1 par.2 .merge

/-- The evidence of the events that a receipt names. -/
def causaisDe (c : CamposDoRecibo) : List PersistenceEvidence :=
  c.causalEventIds.map fun id => .causalEvent id .transformed

section Verification

variable {c : CamposDoRecibo} {a : CamposDoAssessment} {itens : List PersistenceEvidence}

theorem str_injective : Function.Injective Referencia.str := fun _ _ h => uuid_injective h

theorem references_linhagemDe (hc : c.Coerente) :
    (linhagemDe c).map (·.reference) = c.lineageEdgeIds.map (·.str) := by
  have hfst : (c.lineageEdgeIds.zip c.sourceCoids).map Prod.fst = c.lineageEdgeIds :=
    List.map_fst_zip hc.umaPorFonte.le
  conv_rhs => rw [← hfst]
  rw [linhagemDe, List.map_map, List.map_map]
  rfl

theorem related_linhagemDe (hc : c.Coerente) :
    (linhagemDe c).map (·.relatedCoid) = c.sourceCoids.map some := by
  have hsnd : (c.lineageEdgeIds.zip c.sourceCoids).map Prod.snd = c.sourceCoids :=
    List.map_snd_zip hc.umaPorFonte.ge
  conv_rhs => rw [← hsnd]
  rw [linhagemDe, List.map_map, List.map_map]
  rfl

theorem linhagemDe_nodup (hc : c.Coerente) : (linhagemDe c).Nodup := by
  refine List.Nodup.of_map (·.reference) ?_
  rw [references_linhagemDe hc]
  exact hc.arestas.map str_injective

theorem references_causaisDe (c : CamposDoRecibo) :
    (causaisDe c).map (·.reference) = c.causalEventIds.map (·.str) := by
  rw [causaisDe, List.map_map]
  rfl

theorem causaisDe_nodup (hc : c.Coerente) : (causaisDe c).Nodup := by
  refine List.Nodup.of_map (·.reference) ?_
  rw [references_causaisDe]
  exact hc.eventos.map str_injective

theorem mesmoConjunto_of_perm {α : Type} {as bs : List α} (h : as.Perm bs) : MesmoConjunto as bs :=
  ⟨h.subset, h.symm.subset⟩

theorem qualifiersDivergentes_eq_nil {esperado : String}
    (h : ∀ e ∈ itens, e.qualifier = some esperado) : qualifiersDivergentes esperado itens = [] := by
  have hnone : (itens.map (·.qualifier)).filter (· ≠ some esperado) = [] := by
    rw [List.filter_eq_nil_iff]
    intro q hq
    obtain ⟨e, he, rfl⟩ := List.mem_map.mp hq
    simp [h e he]
  rw [qualifiersDivergentes, hnone]
  rfl

/-- Each edge leads to its own source. -/
theorem pareamento_eq_nil (hc : c.Coerente) (hitens : itens.Perm (linhagemDe c)) :
    pareamento itens (c.sourceCoids.zip c.lineageEdgeIds) = [] := by
  unfold pareamento
  rw [List.filterMap_eq_nil_iff]
  rintro ⟨fonte, edgeId⟩ hpar
  split
  case h_1 => rfl
  case h_2 e hfind =>
    have hfound := List.find?_some hfind
    have hreference : e.reference = edgeId.str := of_decide_eq_true hfound
    have hmem := List.mem_reverse.mp (List.mem_of_find?_eq_some hfind)
    obtain ⟨⟨id, coid⟩, hlinha, rfl⟩ := List.mem_map.mp (hitens.mem_iff.mp hmem)
    obtain rfl : id = edgeId := str_injective hreference
    have hpar' : (id, fonte) ∈ c.lineageEdgeIds.zip c.sourceCoids := by
      rw [← List.zip_swap]
      exact List.mem_map_of_mem (f := Prod.swap) hpar
    have hnodup : ((c.lineageEdgeIds.zip c.sourceCoids).map Prod.fst).Nodup := by
      rw [List.map_fst_zip hc.umaPorFonte.le]
      exact hc.arestas
    have hsame := List.inj_on_of_nodup_map hnodup hlinha hpar' rfl
    rw [(Prod.mk.inj hsame).2]
    exact if_pos rfl

/-- The checks pass when the evidence is what the receipt names. -/
theorem verificarCoerenciaConsolidacao_eq_nil (hc : c.Coerente) (hcoid : a.coid = c.targetCoid)
    (houtcome : a.outcome = .recordedContinuityEvidence) (hdeleted : a.subjectDeleted = false)
    (hclid : a.clid = c.targetClid)
    (hlinhagem : (a.evidenceOf .lineageParent).Perm (linhagemDe c))
    (hsaidas : a.evidenceOf .transformationOutput = [.transformationOutput c.transformationId])
    (hcausais : (a.evidenceOf .causalEvent).Perm (causaisDe c)) :
    verificarCoerenciaConsolidacao c a = [] := by
  have hrelated := hlinhagem.map (·.relatedCoid)
  have hedges := hlinhagem.map (·.reference)
  have hevents := hcausais.map (·.reference)
  rw [related_linhagemDe hc] at hrelated
  rw [references_linhagemDe hc] at hedges
  rw [references_causaisDe] at hevents
  have hmerge : qualifiersDivergentes lineageMergeQualifier (a.evidenceOf .lineageParent) = [] := by
    refine qualifiersDivergentes_eq_nil fun e he => ?_
    obtain ⟨par, -, rfl⟩ := List.mem_map.mp (hlinhagem.mem_iff.mp he)
    rfl
  have htransformed :
      qualifiersDivergentes causalTransformedQualifier (a.evidenceOf .causalEvent) = [] := by
    refine qualifiersDivergentes_eq_nil fun e he => ?_
    obtain ⟨id, -, rfl⟩ := List.mem_map.mp (hcausais.mem_iff.mp he)
    rfl
  have hnumero : (a.evidenceOf .lineageParent).length = c.sourceCoids.length := by
    simpa using hrelated.length_eq
  have hnumero' : (a.evidenceOf .causalEvent).length = c.causalEventIds.length := by
    simpa using hevents.length_eq
  have hsaida : PersistenceEvidence.reference (.transformationOutput c.transformationId) =
      c.transformationId.str := rfl
  unfold verificarCoerenciaConsolidacao
  simp only [hcoid, houtcome, hdeleted, hclid, hnumero, hnumero', hsaidas, hsaida, hmerge,
    htransformed, pareamento_eq_nil hc hlinhagem, mesmoConjunto_of_perm hrelated,
    mesmoConjunto_of_perm hedges, mesmoConjunto_of_perm hevents]
  simp

end Verification

/-! ## The evidence that a derivation leaves -/

/-- No record names the object among its outputs. -/
def NaoProduzido (db : Biblioteca) (coid : Referencia) : Prop :=
  ∀ id row, db.transformations.lookup id = some row → coid.str ∉ row.outputRefs

section Derivation

variable {m : Motor} {ids : Ids} {v : PedidoValidado} {db db' : Biblioteca} {c : CamposDoRecibo}
  {clid : Option Referencia}

theorem mem_linhagemDe {id parent : Referencia} {relation : LineageRelation} :
    .lineageParent id parent relation ∈ linhagemDe c ↔
      (id, parent) ∈ c.lineageEdgeIds.zip c.sourceCoids ∧ relation = .merge := by
  unfold linhagemDe
  rw [List.mem_map]
  constructor
  · rintro ⟨⟨id', parent'⟩, hpar, heq⟩
    obtain ⟨rfl, rfl, rfl⟩ := PersistenceEvidence.lineageParent.inj heq
    exact ⟨hpar, rfl⟩
  · rintro ⟨hpar, rfl⟩
    exact ⟨(id, parent), hpar, rfl⟩

theorem mem_causaisDe {id : Referencia} {eventType : CausalEventType} :
    .causalEvent id eventType ∈ causaisDe c ↔ id ∈ c.causalEventIds ∧ eventType = .transformed := by
  unfold causaisDe
  rw [List.mem_map]
  constructor
  · rintro ⟨id', hid, heq⟩
    obtain ⟨rfl, rfl⟩ := PersistenceEvidence.causalEvent.inj heq
    exact ⟨hid, rfl⟩
  · rintro ⟨hid, rfl⟩
    exact ⟨id, hid, rfl⟩

theorem mem_zip_map {α β γ : Type} {as : List α} {bs : List β} {f : β → γ} {a : α} {r : γ} :
    (a, r) ∈ as.zip (bs.map f) ↔ ∃ b, (a, b) ∈ as.zip bs ∧ f b = r := by
  rw [List.zip_map_right, List.mem_map]
  constructor
  · rintro ⟨⟨a', b⟩, hpar, heq⟩
    obtain ⟨rfl, rfl⟩ := Prod.mk.inj heq
    exact ⟨b, hpar, rfl⟩
  · rintro ⟨b, hpar, rfl⟩
    exact ⟨(a, b), hpar, rfl⟩

theorem exists_mem_zip {α β : Type} {as : List α} {bs : List β} (h : as.length = bs.length)
    {a : α} (ha : a ∈ as) : ∃ b, (a, b) ∈ as.zip bs := by
  rw [← List.map_fst_zip h.le] at ha
  obtain ⟨⟨a', b⟩, hpar, rfl⟩ := List.mem_map.mp ha
  exact ⟨b, hpar⟩

/-- The edges to the new object are those of the derivation. -/
theorem edges_do_alvo (hdb : db.Integra) (h : Derivada m ids v db c db') {id parent : Referencia}
    {relation : LineageRelation} :
    db'.edges.lookup id = some ⟨parent, ids.alvo, relation⟩ ↔
      (id, parent) ∈ c.lineageEdgeIds.zip c.sourceCoids ∧ relation = .merge := by
  rw [h.fontes]
  constructor
  · intro hlookup
    rcases h.arestas.novo_ou_antigo hlookup with hnew | ⟨-, hold⟩
    · obtain ⟨coid, hpar, heq⟩ := mem_zip_map.mp hnew
      obtain ⟨rfl, -, rfl⟩ := LineageEdge.mk.inj heq
      exact ⟨hpar, rfl⟩
    · exact absurd h.inedito (hdb.arestas id _ hold).2
  · rintro ⟨hpar, rfl⟩
    exact h.arestas.novo (mem_zip_map.mpr ⟨parent, hpar, rfl⟩)

/-- The only record with the new object among its outputs is that of the derivation. -/
theorem transformations_do_alvo (hnovo : NaoProduzido db ids.alvo)
    (h : Derivada m ids v db c db') {id : Referencia} :
    (∃ row, db'.transformations.lookup id = some row ∧ ids.alvo.str ∈ row.outputRefs) ↔
      id = c.transformationId := by
  rw [h.transformacao]
  constructor
  · rintro ⟨row, hlookup, hcited⟩
    rcases h.registro.novo_ou_antigo hlookup with hnew | ⟨-, hold⟩
    · exact List.mem_singleton.mp (List.of_mem_zip hnew).1
    · exact absurd hcited (hnovo id row hold)
  · rintro rfl
    exact ⟨Cognitive.registroDe ids v, h.registro.novo List.mem_cons_self, List.mem_cons_self⟩

/-- The events in the history of the new object are those of the derivation. -/
theorem events_do_alvo (hdb : db.Integra) (h : Derivada m ids v db c db') {id : Referencia}
    {eventType : CausalEventType} :
    (∃ evento, db'.events.lookup id = some evento ∧ evento.eventType = eventType ∧
        ∃ historia, db'.histories.lookup evento.historyId = some historia ∧
          historia.subjectCoid = ids.alvo) ↔
      id ∈ c.causalEventIds ∧ eventType = .transformed := by
  have halvo := h.historiaDoAlvo hdb
  constructor
  · rintro ⟨evento, hlookup, rfl, historia, hhistoria, hsubject⟩
    rcases halvo.eventos.novo_ou_antigo hlookup with hnew | ⟨-, hold⟩
    · obtain ⟨hid, hrow⟩ := List.of_mem_zip hnew
      obtain ⟨predecessor, -, rfl⟩ := List.mem_map.mp hrow
      exact ⟨hid, rfl⟩
    · rw [halvo.historia.antigo (hdb.eventos id evento hold)] at hhistoria
      exact absurd (hsubject ▸ h.inedito) (hdb.historias _ _ hhistoria)
  · rintro ⟨hid, rfl⟩
    obtain ⟨evento, hpar⟩ := exists_mem_zip halvo.eventos.comprimento hid
    obtain ⟨predecessor, -, rfl⟩ := List.mem_map.mp (List.of_mem_zip hpar).2
    exact ⟨_, halvo.eventos.novo hpar, rfl, ⟨ids.alvo⟩, halvo.historia.novo List.mem_cons_self, rfl⟩

/-- The reading of the new object finds what the receipt names, and is an assessment. -/
theorem avaliar_derivada (hdb : db.Integra) (hnovo : NaoProduzido db ids.alvo) (hc : c.Coerente)
    (h : Derivada m ids v db c db') :
    (avaliar c.targetCoid db').Coerente ∧
      verificarCoerenciaConsolidacao c (avaliar c.targetCoid db') = [] := by
  have hlookup : db'.objects.lookup ids.alvo = some { clid := c.targetClid } := by
    rw [h.objetos, if_pos rfl]
  have hlinhagem : ((canonicalEvidence (evidencias db' ids.alvo c.targetClid)).filter
      (·.kind = .lineageParent)).Perm (linhagemDe c) := by
    refine filter_kind_perm (linhagemDe_nodup hc) ?_ ?_
    · intro e he
      obtain ⟨par, -, rfl⟩ := List.mem_map.mp he
      rfl
    · intro e hkind
      cases e with
      | lineageParent id parent relation =>
        rw [mem_evidencias_lineageParent, edges_do_alvo hdb h, mem_linhagemDe]
      | _ => cases hkind
  have hsaidas : ((canonicalEvidence (evidencias db' ids.alvo c.targetClid)).filter
      (·.kind = .transformationOutput)).Perm [.transformationOutput c.transformationId] := by
    refine filter_kind_perm (List.nodup_singleton _) ?_ ?_
    · intro e he
      rw [List.mem_singleton.mp he]
      rfl
    · intro e hkind
      cases e with
      | transformationOutput id =>
        rw [mem_evidencias_transformationOutput, transformations_do_alvo hnovo h,
          List.mem_singleton, PersistenceEvidence.transformationOutput.injEq]
      | _ => cases hkind
  have hcausais : ((canonicalEvidence (evidencias db' ids.alvo c.targetClid)).filter
      (·.kind = .causalEvent)).Perm (causaisDe c) := by
    refine filter_kind_perm (causaisDe_nodup hc) ?_ ?_
    · intro e he
      obtain ⟨id, -, rfl⟩ := List.mem_map.mp he
      rfl
    · intro e hkind
      cases e with
      | causalEvent id eventType =>
        rw [mem_evidencias_causalEvent, events_do_alvo hdb h, mem_causaisDe]
      | _ => cases hkind
  have hclids : ((canonicalEvidence (evidencias db' ids.alvo c.targetClid)).filter
      (·.kind = .clid)).Perm (c.targetClid.map .clid).toList := by
    refine filter_kind_perm ?_ ?_ ?_
    · cases c.targetClid with
      | none => exact List.nodup_nil
      | some clid => exact List.nodup_singleton _
    · intro e he
      obtain ⟨clid, -, rfl⟩ := Option.map_eq_some_iff.mp (Option.mem_toList.mp he)
      rfl
    · intro e hkind
      cases e with
      | clid id =>
        rw [mem_evidencias_clid, Option.mem_toList, Option.map_eq_some_iff]
        constructor
        · intro hclid
          exact ⟨id, hclid, rfl⟩
        · rintro ⟨id', hclid, heq⟩
          rw [hclid, PersistenceEvidence.clid.inj heq]
      | _ => cases hkind
  have hsome : canonicalEvidence (evidencias db' ids.alvo c.targetClid) ≠ [] := by
    obtain ⟨id, hid⟩ := List.exists_mem_of_ne_nil _ hc.algum
    have hmem := hcausais.mem_iff.mpr (mem_causaisDe.mpr ⟨hid, rfl⟩)
    exact List.ne_nil_of_mem (List.mem_of_mem_filter hmem)
  have hitens : evidencias db' ids.alvo c.targetClid ≠ [] := by
    intro hnil
    rw [hnil] at hsome
    exact hsome rfl
  have hcampos : avaliar c.targetCoid db' = {
      coid := ids.alvo
      outcome := .recordedContinuityEvidence
      evidence := canonicalEvidence (evidencias db' ids.alvo c.targetClid)
      clid := c.targetClid } := by
    unfold avaliar subjectSnapshot
    rw [h.alvo, hlookup]
    dsimp only [Option.map_some]
    rw [if_neg hitens]
    rfl
  rw [hcampos]
  constructor
  · refine ⟨fun hoff => ?_, fun hoff => ?_, fun _ => hsome, ?_⟩
    · cases hoff
    · cases hoff
    · have hreferences := hclids.map (·.reference)
      unfold CamposDoAssessment.evidenceOf
      cases hclid : c.targetClid with
      | none =>
        rw [hclid] at hreferences
        exact hreferences.eq_nil
      | some clid =>
        rw [hclid] at hreferences
        exact List.perm_singleton.mp hreferences
  · exact verificarCoerenciaConsolidacao_eq_nil hc h.alvo.symm rfl rfl rfl hlinhagem
      (List.perm_singleton.mp hsaidas) hcausais

end Derivation

/-! ## The operation -/

section Consolidation

variable {m : Motor} {ids : Ids} {s s' : Session Biblioteca}

/-- What is asked of the writer is what was validated. -/
theorem validar_ok {pedido : PedidoDeConsolidacao} {fontes predecessores : List Referencia}
    {derivacao : Pedido} (h : pedido.validar = .ok (fontes, predecessores, derivacao))
    {v : PedidoValidado} (hv : preflight derivacao = .ok v) :
    v.fontes = fontes ∧ v.predecessores = predecessores := by
  obtain ⟨fontes', hfontes, h⟩ := bind_eq_ok.mp h
  obtain ⟨perdas, -, h⟩ := bind_eq_ok.mp h
  obtain ⟨preservacoes, -, h⟩ := bind_eq_ok.mp h
  obtain ⟨predecessores', hpredecessores, h⟩ := bind_eq_ok.mp h
  obtain ⟨rfl, hrest⟩ := Prod.mk.inj (Except.ok.inj h)
  obtain ⟨rfl, rfl⟩ := Prod.mk.inj hrest
  obtain ⟨hlength, hcanonica⟩ := preflightFontes_ok hfontes
  obtain ⟨hfontes', hpredecessores'⟩ := preflight_colecoes hv
  have hsame := preflightFontes_canonica hlength hcanonica
  have hsame' := preflightPredecessores_canonica (preflightPredecessores_ok hpredecessores)
  exact ⟨Except.ok.inj (hfontes'.symm.trans hsame), Except.ok.inj (hpredecessores'.symm.trans hsame')⟩

/-- A consolidation whose derivation succeeds is verified. -/
theorem consolidate_of_deriveMany {pedido : PedidoDeConsolidacao}
    {fontes predecessores : List Referencia} {derivacao : Pedido} {recibo : Recibo}
    (hvalidar : pedido.validar = .ok (fontes, predecessores, derivacao))
    (hderive : deriveMany m ids derivacao s = (.ok recibo, s')) (hdb : s.current.Integra)
    (hnovo : NaoProduzido s.current ids.alvo) :
    ∃ resultado : ConsolidationResult,
      consolidate m ids pedido s = (.ok resultado, s') ∧ resultado.val.1 = recibo.val := by
  obtain ⟨-, v, haceita, hderivada⟩ := ends_deriveMany.of_ok hderive
  obtain ⟨hfontes, hpredecessores⟩ := validar_ok hvalidar haceita.valido
  obtain ⟨hcoerente, hverificado⟩ := avaliar_derivada hdb hnovo recibo.property hderivada
  have hfidelidade : verificarFidelidadePedidoRecibo fontes predecessores recibo.val = [] := by
    unfold verificarFidelidadePedidoRecibo
    rw [hderivada.fontes, hderivada.predecessores, hfontes, hpredecessores]
    simp
  have hassess : assess recibo.val.targetCoid s' =
      (.ok ⟨avaliar recibo.val.targetCoid s'.current, hcoerente⟩, s') := by
    have hread : Op.read (ε := ErroDeConsolidacao) (avaliar recibo.val.targetCoid) s' =
        (.ok (avaliar recibo.val.targetCoid s'.current), s') := rfl
    unfold assess
    rw [Op.bind_of_ok hread, dif_pos hcoerente]
    rfl
  refine ⟨⟨(recibo.val, ⟨avaliar recibo.val.targetCoid s'.current, hcoerente⟩),
    recibo.property, hverificado⟩, ?_, rfl⟩
  have hlift : Op.lift (pedido.validar.mapError ErroDeConsolidacao.cognitivo) s =
      (.ok (fontes, predecessores, derivacao), s) := by
    rw [hvalidar]
    rfl
  unfold consolidate
  rw [Op.bind_of_ok hlift]
  dsimp only
  rw [Op.bind_of_ok (Op.mapError_of_ok hderive), hfidelidade, if_neg (not_not.mpr rfl),
    Op.bind_of_ok hassess, if_neg (not_not.mpr hverificado), ConsolidationResult.de,
    dif_pos ⟨recibo.property, hverificado⟩]
  rfl

/-- How `derive_many` ends in a session. -/
structure DerivacaoAtomica (m : Motor) (ids : Ids) (pedido : Pedido) (s : Session Biblioteca) :
    Prop where
  /-- A check fails before any write; otherwise it is a flush that fails, and the session is back
  at what is committed. -/
  erro : ∀ e s', deriveMany m ids pedido s = (.error e, s') →
    (∀ v, ¬Aceita s.current pedido v) ∧ s' = s ∨
    (∃ v, Aceita s.current pedido v) ∧ s' = s.rollback
  sucesso : ∀ recibo s', deriveMany m ids pedido s = (.ok recibo, s') →
    s'.base = s.base ∧ ∃ v, Aceita s.current pedido v ∧
      Derivada m ids v s.current recibo.val s'.current ∧
      (s.current.Integra → HistoriaDoAlvo m ids v s.current recibo.val s'.current ∧
        s'.current.Integra)
  unidade : ∀ db e db', Op.unitOfWork (deriveMany m ids pedido) db = (.error e, db') → db' = db
  ordem : ∀ pedido', pedido.Reordenado pedido' →
    deriveMany m ids pedido' s = deriveMany m ids pedido s

/-- A consolidation never refuses a derivation that succeeded, when no record has the identifier
of the new object yet. -/
def SempreVerificada (m : Motor) (ids : Ids) (pedido : PedidoDeConsolidacao)
    (s : Session Biblioteca) : Prop :=
  s.current.Integra → NaoProduzido s.current ids.alvo →
  ∀ fontes predecessores derivacao recibo s',
    pedido.validar = .ok (fontes, predecessores, derivacao) →
    deriveMany m ids derivacao s = (.ok recibo, s') →
    ∃ resultado : ConsolidationResult,
      consolidate m ids pedido s = (.ok resultado, s') ∧ resultado.val.1 = recibo.val

theorem derivation_atomic (m : Motor) (ids : Ids) (pedido : Pedido)
    (consolidacao : PedidoDeConsolidacao) (s : Session Biblioteca) :
    DerivacaoAtomica m ids pedido s ∧ SempreVerificada m ids consolidacao s := by
  refine ⟨⟨?_, ?_, ?_, ?_⟩, ?_⟩
  · intro e s' hrun
    exact ends_deriveMany.of_error hrun
  · intro recibo s' hrun
    obtain ⟨hbase, v, haceita, hderivada⟩ := ends_deriveMany.of_ok hrun
    refine ⟨hbase, v, haceita, hderivada, fun hdb => ?_⟩
    exact ⟨hderivada.historiaDoAlvo hdb, hderivada.integra haceita.fontes hdb⟩
  · intro db e db' hrun
    refine Op.unitOfWork_error (ends_deriveMany.mono (fun _ _ _ => trivial) ?_) hrun
    rintro - s' (⟨-, rfl⟩ | ⟨-, rfl⟩)
    · rfl
    · rfl
  · intro pedido' hpedido
    rw [deriveMany_reordenado hpedido]
  · intro hdb hnovo fontes predecessores derivacao recibo s' hvalidar hderive
    exact consolidate_of_deriveMany hvalidar hderive hdb hnovo

end Consolidation

/-- Two memories that are committed. -/
def memorias : Table Referencia CognitiveObject := (AList.insert 1 {} ∅).insert 2 {}

/-- The session has flushed a third one. -/
def sessaoAberta : Session Biblioteca where
  base := { objects := memorias }
  current := { objects := memorias.insert 3 {} }

def idsNovos : Ids where
  alvo := 10
  arestas n := if n = 0 then 20 else 21
  registro := 30
  historia := 40
  eventos _ := 50

/-- An actor that nothing has recorded. -/
def pedidoDeEstranho : Pedido where
  sourceCoids := .de [.de 1, .de 2]
  operationType := .de (Texto.of "merge")
  declaredLosses := .de [.de (Texto.of "contexto")]
  actorRef := some (.de 99)

def motorComum : Motor where
  instante _ := some 0
  grava _ := true

/-- The last flush is refused, after the new object, its edges and its record were written. The
session loses with them what it had flushed before. -/
theorem refused_by_the_last_flush :
    (deriveMany motorComum idsNovos pedidoDeEstranho sessaoAberta).1.toOption.isNone ∧
    (deriveMany motorComum idsNovos { pedidoDeEstranho with actorRef := none }
      sessaoAberta).1.toOption.isSome ∧
    (sessaoAberta.current.objects.lookup 3).isSome ∧
    ((deriveMany motorComum idsNovos pedidoDeEstranho
      sessaoAberta).2.current.objects.lookup 3).isNone := by
  decide +kernel

end PiaOs.Memory
