import PiaOs.Specs.Authorizations

/-!
# Authorizations are used once

Over the life of an instance: which objects its registry holds, that it issues and consumes each
at most once, and that what an export writes is what its object authorizes.
-/

namespace PiaOs

open Support Transactions

variable [Runtime] {antes depois : Servico} {scheduleId stepId : Uuid}

/-! ## One call -/

/-- How a preflight leaves the instance. -/
inductive FimDoPreflight (antes : Servico) (scheduleId stepId : Uuid) :
    Except Failure ResultadoPreflight → Servico → Prop
  | recusa {r : Except Failure ResultadoPreflight} (hr : ∀ objeto, r ≠ .ok (.authorized objeto))
    (novos : List Autorizacao) :
    FimDoPreflight antes scheduleId stepId r { antes with objetos := antes.objetos ++ novos }
  | emite (a : Autorizacao) (h : ManualHandoffExportService.Autoriza scheduleId stepId a.campos)
    (hteto : antes.autorizacoesEmitidas.keys.length < maxAutorizacoesPendentes) :
    FimDoPreflight antes scheduleId stepId (.ok (.authorized ⟨antes.objetos.length, a⟩))
      { objetos := antes.objetos ++ [a]
        autorizacoesEmitidas :=
          antes.autorizacoesEmitidas.insert a.authorizationId antes.objetos.length
        diario := .emitiu antes.objetos.length scheduleId stepId :: antes.diario }

omit [Runtime] in
theorem registrar_cases (antes : Servico) (objeto : Objeto) :
    (maxAutorizacoesPendentes ≤ antes.autorizacoesEmitidas.keys.length ∧
        ∃ e, antes.registrarAutorizacao objeto = .error e) ∨
      (antes.autorizacoesEmitidas.keys.length < maxAutorizacoesPendentes ∧
        antes.registrarAutorizacao objeto = .ok { antes with
          autorizacoesEmitidas := antes.autorizacoesEmitidas.insert
            objeto.autorizacao.authorizationId objeto.identidade }) := by
  unfold Servico.registrarAutorizacao
  by_cases hteto : maxAutorizacoesPendentes ≤ antes.autorizacoesEmitidas.keys.length
  · exact .inl ⟨hteto, _, if_pos hteto⟩
  · exact .inr ⟨not_le.mp hteto, if_neg hteto⟩

theorem FimDoPreflight.mesma {r : Except Failure ResultadoPreflight}
    (hr : ∀ objeto, r ≠ .ok (.authorized objeto)) :
    FimDoPreflight antes scheduleId stepId r antes := by
  have hfim := @FimDoPreflight.recusa _ antes scheduleId stepId r hr []
  rwa [List.append_nil] at hfim

theorem runs_preflight {humanGate : GateDecision} {principal : String}
    {p q : Place Db Write Lock} {r : Except Failure ResultadoPreflight}
    (h : (antes.preflight humanGate principal scheduleId stepId).Runs entorno p
      (.ok (r, depois)) q) :
    Grows entorno Write.Previa p q ∧ FimDoPreflight antes scheduleId stepId r depois := by
  obtain ⟨answer, m, hattempt, h⟩ := Prog.runs_bind_ok.mp h
  obtain ⟨resultado, hanswer, hrun⟩ := Prog.runs_attempt.mp hattempt
  obtain rfl := Except.ok.inj hanswer
  have hgrows := ManualHandoffExportService.only_preflight.runs hrun
  rcases answer with e | (campos | b)
  · obtain ⟨hr, rfl⟩ := h
    obtain ⟨rfl, rfl⟩ := Prod.mk.inj (Except.ok.inj hr)
    exact ⟨hgrows, .mesma fun objeto hobjeto => by cases hobjeto⟩
  · obtain ⟨id, m', hid, h⟩ := Prog.runs_bind_ok.mp h
    have hrest : Grows entorno Write.Previa m m' := Prog.only_read.runs hid
    rcases registrar_cases (antes.construir ⟨campos, id⟩).2 (antes.construir ⟨campos, id⟩).1 with
      ⟨-, e, hregistro⟩ | ⟨hteto, hregistro⟩
    · simp only [hregistro] at h
      obtain ⟨hr, rfl⟩ := h
      obtain ⟨rfl, rfl⟩ := Prod.mk.inj (Except.ok.inj hr)
      exact ⟨hgrows.trans hrest, .recusa (fun objeto hobjeto => by cases hobjeto) _⟩
    · simp only [hregistro] at h
      obtain ⟨hr, rfl⟩ := h
      obtain ⟨rfl, rfl⟩ := Prod.mk.inj (Except.ok.inj hr)
      exact ⟨hgrows.trans hrest, .emite ⟨campos, id⟩
        (ManualHandoffExportService.autoriza_of_runs hrun) hteto⟩
  · obtain ⟨hr, rfl⟩ := h
    obtain ⟨rfl, rfl⟩ := Prod.mk.inj (Except.ok.inj hr)
    exact ⟨hgrows, .mesma fun objeto hobjeto => by cases hobjeto⟩

/-- What taking an object out of the registry does. -/
inductive FimDoConsumo (antes : Servico) (objeto : Objeto) : Except Failure Unit → Servico → Prop
  | recusa (h : antes.autorizacoesEmitidas.lookup objeto.autorizacao.authorizationId ≠
      some objeto.identidade) (registro : Table Uuid Nat)
    (hregistro : ∀ id, registro.lookup id = antes.autorizacoesEmitidas.lookup id)
    (hteto : registro.keys.length = antes.autorizacoesEmitidas.keys.length) :
    FimDoConsumo antes objeto (.error Servico.naoEmitida)
      { antes with autorizacoesEmitidas := registro }
  | retira (h : antes.autorizacoesEmitidas.lookup objeto.autorizacao.authorizationId =
      some objeto.identidade) :
    FimDoConsumo antes objeto (.ok ())
      { antes with
        autorizacoesEmitidas :=
          antes.autorizacoesEmitidas.erase objeto.autorizacao.authorizationId }

omit [Runtime] in
theorem fimDoConsumo (objeto : Objeto) : FimDoConsumo antes objeto
    (antes.consumirAutorizacao objeto).1 (antes.consumirAutorizacao objeto).2 := by
  cases hlookup : antes.autorizacoesEmitidas.lookup objeto.autorizacao.authorizationId with
  | none =>
    have hfim : antes.consumirAutorizacao objeto = (.error Servico.naoEmitida,
        { antes with autorizacoesEmitidas :=
            antes.autorizacoesEmitidas.erase objeto.autorizacao.authorizationId }) := by
      simp only [Servico.consumirAutorizacao, hlookup]
    have hnone : antes.autorizacoesEmitidas.lookup objeto.autorizacao.authorizationId ≠
        some objeto.identidade := by
      rw [hlookup]
      exact Option.some_ne_none _ |>.symm
    rw [hfim]
    refine .recusa hnone _ (fun k => ?_) ?_
    · by_cases hk : k = objeto.autorizacao.authorizationId
      · rw [hk, AList.lookup_erase, hlookup]
      · rw [AList.lookup_erase_ne hk]
    · have hnot : objeto.autorizacao.authorizationId ∉ antes.autorizacoesEmitidas.keys := by
        rw [← AList.mem_keys, ← AList.lookup_eq_none]
        exact hlookup
      rw [AList.keys_erase, List.erase_of_not_mem hnot]
  | some emitida =>
    by_cases hsame : emitida = objeto.identidade
    · have hfim : antes.consumirAutorizacao objeto = (.ok (),
          { antes with autorizacoesEmitidas :=
              antes.autorizacoesEmitidas.erase objeto.autorizacao.authorizationId }) := by
        simp only [Servico.consumirAutorizacao, hlookup, hsame, if_true]
      rw [hfim]
      exact .retira (hlookup.trans (congrArg some hsame))
    · have hfim : antes.consumirAutorizacao objeto = (.error Servico.naoEmitida,
          { antes with
            autorizacoesEmitidas := AList.insert objeto.autorizacao.authorizationId emitida
              (antes.autorizacoesEmitidas.erase objeto.autorizacao.authorizationId) }) := by
        simp only [Servico.consumirAutorizacao, hlookup, hsame, if_false]
      have hother : antes.autorizacoesEmitidas.lookup objeto.autorizacao.authorizationId ≠
          some objeto.identidade := by
        rw [hlookup]
        exact fun heq => hsame (Option.some.inj heq)
      rw [hfim]
      refine .recusa hother _ (fun k => ?_) ?_
      · rw [Table.lookup_insert_ite]
        split
        case isTrue hk => rw [hk, hlookup]
        case isFalse hk => rw [AList.lookup_erase_ne hk]
      · have hin : objeto.autorizacao.authorizationId ∈ antes.autorizacoesEmitidas.keys := by
          rw [← AList.mem_keys, ← AList.lookup_isSome]
          simp [hlookup]
        have hpositive := List.length_pos_of_mem hin
        have hnotin : objeto.autorizacao.authorizationId ∉
            antes.autorizacoesEmitidas.keys.erase objeto.autorizacao.authorizationId :=
          fun h => absurd rfl (List.Nodup.mem_erase_iff (AList.keys_nodup _) |>.mp h).1
        rw [AList.keys_insert, AList.keys_erase, List.length_cons, List.erase_of_not_mem hnotin,
          List.length_erase_of_mem hin]
        omega

/-! ## The registry -/

/-- What the registry and the journal of an instance are at any time. -/
structure Regular (antes : Servico) : Prop where
  teto : antes.autorizacoesEmitidas.keys.length ≤ maxAutorizacoesPendentes
  registradas : ∀ id identidade, antes.autorizacoesEmitidas.lookup id = some identidade →
    (∃ a, antes.objetos[identidade]? = some a ∧ a.authorizationId = id) ∧
      (∃ scheduleId stepId, .emitiu identidade scheduleId stepId ∈ antes.diario) ∧
        ∀ scheduleId stepId, .consumiu identidade scheduleId stepId ∉ antes.diario
  emissoes : ∀ identidade scheduleId stepId, .emitiu identidade scheduleId stepId ∈ antes.diario →
    scheduleId.Valido ∧ stepId.Valido ∧ ∃ a, antes.objetos[identidade]? = some a ∧
      ManualHandoffExportService.Autoriza scheduleId stepId a.campos
  consumos : ∀ novos identidade scheduleId stepId antigos,
    antes.diario = novos ++ .consumiu identidade scheduleId stepId :: antigos →
      (∃ scheduleId' stepId', .emitiu identidade scheduleId' stepId' ∈ antigos) ∧
        ∀ scheduleId' stepId', .consumiu identidade scheduleId' stepId' ∉ antigos

namespace Regular

theorem nova (objetos : List Autorizacao) : Regular ⟨objetos, ∅, []⟩ where
  teto := Nat.zero_le _
  registradas := by simp
  emissoes := by simp
  consumos := by simp

/-- The objects that the journal speaks of exist. -/
theorem existe (h : Regular antes) {identidade : Nat} {scheduleId stepId : Uuid}
    (hmem : .emitiu identidade scheduleId stepId ∈ antes.diario ∨
      .consumiu identidade scheduleId stepId ∈ antes.diario) : identidade < antes.objetos.length := by
  have hemitiu : ∃ s t, .emitiu identidade s t ∈ antes.diario := by
    rcases hmem with hmem | hmem
    · exact ⟨_, _, hmem⟩
    · obtain ⟨novos, antigos, hdiario⟩ := List.append_of_mem hmem
      obtain ⟨⟨s, t, hin⟩, -⟩ := h.consumos _ _ _ _ _ hdiario
      exact ⟨s, t, hdiario ▸ List.mem_append_right _ (List.mem_cons_of_mem _ hin)⟩
  obtain ⟨s, t, hin⟩ := hemitiu
  obtain ⟨-, -, a, ha, -⟩ := h.emissoes _ _ _ hin
  exact (List.getElem?_eq_some_iff.mp ha).1

/-- New objects of others change nothing. -/
theorem objetos (h : Regular antes) (novos : List Autorizacao) :
    Regular { antes with objetos := antes.objetos ++ novos } where
  teto := h.teto
  registradas := by
    intro id identidade hlookup
    obtain ⟨⟨a, ha, hid⟩, hrest⟩ := h.registradas id identidade hlookup
    exact ⟨⟨a, List.getElem?_append_left (List.getElem?_eq_some_iff.mp ha).1 ▸ ha, hid⟩, hrest⟩
  emissoes := by
    intro identidade s t hmem
    obtain ⟨hs, ht, a, ha, hautoriza⟩ := h.emissoes identidade s t hmem
    exact ⟨hs, ht, a, List.getElem?_append_left (List.getElem?_eq_some_iff.mp ha).1 ▸ ha, hautoriza⟩
  consumos := h.consumos

/-- A registry with the same entries is as good. -/
theorem registro (h : Regular antes) {registro : Table Uuid Nat}
    (hregistro : ∀ id, registro.lookup id = antes.autorizacoesEmitidas.lookup id)
    (hteto : registro.keys.length = antes.autorizacoesEmitidas.keys.length) :
    Regular { antes with autorizacoesEmitidas := registro } where
  teto := hteto.trans_le h.teto
  registradas := fun id identidade hlookup =>
    h.registradas id identidade ((hregistro id).symm.trans hlookup)
  emissoes := h.emissoes
  consumos := h.consumos

/-- An object that is built, registered and noted. -/
theorem emite (h : Regular antes) (hs : scheduleId.Valido) (ht : stepId.Valido) {a : Autorizacao}
    (ha : ManualHandoffExportService.Autoriza scheduleId stepId a.campos)
    (hteto : antes.autorizacoesEmitidas.keys.length < maxAutorizacoesPendentes) :
    Regular {
      objetos := antes.objetos ++ [a]
      autorizacoesEmitidas :=
        antes.autorizacoesEmitidas.insert a.authorizationId antes.objetos.length
      diario := .emitiu antes.objetos.length scheduleId stepId :: antes.diario } where
  teto := by
    have hle : (antes.autorizacoesEmitidas.keys.erase a.authorizationId).length ≤
        antes.autorizacoesEmitidas.keys.length := List.length_erase_le
    simp only [AList.keys_insert, List.length_cons]
    omega
  registradas := by
    intro id identidade hlookup
    obtain ⟨rfl, rfl⟩ | ⟨-, hlookup⟩ := Table.insert_cases hlookup
    · refine ⟨⟨a, by simp, rfl⟩, ⟨_, _, List.mem_cons_self⟩, fun s t hmem => ?_⟩
      rcases List.mem_cons.mp hmem with hmem | hmem
      · cases hmem
      · exact absurd (h.existe (.inr hmem)) (lt_irrefl _)
    · obtain ⟨⟨b, hb, hid⟩, ⟨s, t, hmem⟩, hpendente⟩ := h.registradas id identidade hlookup
      refine ⟨⟨b, List.getElem?_append_left (List.getElem?_eq_some_iff.mp hb).1 ▸ hb, hid⟩,
        ⟨s, t, List.mem_cons_of_mem _ hmem⟩, fun s t hmem => ?_⟩
      rcases List.mem_cons.mp hmem with hmem | hmem
      · cases hmem
      · exact hpendente s t hmem
  emissoes := by
    intro identidade s t hmem
    rcases List.mem_cons.mp hmem with hmem | hmem
    · obtain ⟨rfl, rfl, rfl⟩ := Evento.emitiu.inj hmem
      exact ⟨hs, ht, a, by simp, ha⟩
    · obtain ⟨hs', ht', b, hb, hautoriza⟩ := h.emissoes identidade s t hmem
      exact ⟨hs', ht', b, List.getElem?_append_left (List.getElem?_eq_some_iff.mp hb).1 ▸ hb,
        hautoriza⟩
  consumos := by
    intro novos identidade s t antigos hdiario
    cases novos with
    | nil => cases (List.cons.inj hdiario).1
    | cons evento novos => exact h.consumos novos _ _ _ _ (List.cons.inj hdiario).2

/-- An object that is taken out and noted. -/
theorem retira (h : Regular antes) {objeto : Objeto}
    (hlookup : antes.autorizacoesEmitidas.lookup objeto.autorizacao.authorizationId =
      some objeto.identidade) :
    Regular {
      objetos := antes.objetos
      autorizacoesEmitidas :=
        antes.autorizacoesEmitidas.erase objeto.autorizacao.authorizationId
      diario := .consumiu objeto.identidade scheduleId stepId :: antes.diario } where
  teto := by
    have hle : (antes.autorizacoesEmitidas.keys.erase
        objeto.autorizacao.authorizationId).length ≤ antes.autorizacoesEmitidas.keys.length :=
      List.length_erase_le
    simp only [AList.keys_erase]
    exact hle.trans h.teto
  registradas := by
    intro id identidade hother
    have hne : id ≠ objeto.autorizacao.authorizationId := by
      rintro rfl
      rw [AList.lookup_erase] at hother
      cases hother
    rw [AList.lookup_erase_ne hne] at hother
    obtain ⟨⟨a, ha, hid⟩, ⟨s, t, hmem⟩, hpendente⟩ := h.registradas id identidade hother
    refine ⟨⟨a, ha, hid⟩, ⟨s, t, List.mem_cons_of_mem _ hmem⟩, fun s t hmem => ?_⟩
    rcases List.mem_cons.mp hmem with hmem | hmem
    · -- One object has one identifier.
      obtain ⟨rfl, -, -⟩ := Evento.consumiu.inj hmem
      obtain ⟨⟨b, hb, hid'⟩, -⟩ := h.registradas _ _ hlookup
      obtain rfl := Option.some.inj (ha.symm.trans hb)
      exact hne (hid.symm.trans hid')
    · exact hpendente s t hmem
  emissoes := by
    intro identidade s t hmem
    rcases List.mem_cons.mp hmem with hmem | hmem
    · cases hmem
    · exact h.emissoes identidade s t hmem
  consumos := by
    intro novos identidade s t antigos hdiario
    cases novos with
    | nil =>
      obtain ⟨hfirst, rfl⟩ := List.cons.inj hdiario
      obtain ⟨rfl, -, -⟩ := Evento.consumiu.inj hfirst
      exact (h.registradas _ _ hlookup).2
    | cons evento novos => exact h.consumos novos _ _ _ _ (List.cons.inj hdiario).2

theorem fimDoPreflight (h : Regular antes) (hs : scheduleId.Valido) (ht : stepId.Valido)
    {r : Except Failure ResultadoPreflight}
    (hfim : FimDoPreflight antes scheduleId stepId r depois) : Regular depois := by
  cases hfim with
  | recusa hr novos => exact h.objetos novos
  | emite a ha hteto => exact h.emite hs ht ha hteto

end Regular

/-! ## Exports -/

/-- How an export that has an authorization ends. -/
inductive FimDoDespacho (antes : Servico) (scheduleId stepId attemptId : Uuid) (objeto : Objeto)
    (p : Place Db Write Lock) :
    Except Failure ExportOutcome → Servico → Place Db Write Lock → Prop
  | recusa {e : Failure} {depois : Servico} (h : FimDoConsumo antes objeto (.error e) depois) :
    FimDoDespacho antes scheduleId stepId attemptId objeto p (.error e) depois p
  | despacha {depois : Servico} {r : Except Failure ExportOutcome} {q : Place Db Write Lock}
    (h : FimDoConsumo antes objeto (.ok ()) depois)
    (hdespacha : ManualHandoffExportService.Despacha scheduleId stepId attemptId
      objeto.autorizacao.campos p r q) :
    FimDoDespacho antes scheduleId stepId attemptId objeto p r
      (depois.anotar (.consumiu objeto.identidade scheduleId stepId)) q

variable {principal sealerRef : String} {attemptId : Uuid} {humanGate : GateDecision}
  {p q : Place Db Write Lock} {r : Except Failure ExportOutcome}

theorem runs_despachar {objeto : Objeto}
    (h : (antes.despachar attemptId principal scheduleId stepId sealerRef objeto).Runs entorno p
      (.ok (r, depois)) q) :
    FimDoDespacho antes scheduleId stepId attemptId objeto p r depois q := by
  have hfim := @fimDoConsumo antes objeto
  unfold Servico.despachar at h
  generalize antes.consumirAutorizacao objeto = consumo at hfim h
  obtain ⟨_ | ⟨⟨⟩⟩, meio⟩ := consumo
  · obtain ⟨hr, rfl⟩ := h
    obtain ⟨rfl, rfl⟩ := Prod.mk.inj (Except.ok.inj hr)
    exact .recusa hfim
  · obtain ⟨resultado, m, hattempt, hr, rfl⟩ := Prog.runs_bind_ok.mp h
    obtain ⟨answer, hanswer, hrun⟩ := Prog.runs_attempt.mp hattempt
    obtain rfl := Except.ok.inj hanswer
    obtain ⟨rfl, rfl⟩ := Prod.mk.inj (Except.ok.inj hr)
    exact .despacha hfim (ManualHandoffExportService.despacha_of_runs hrun)

/-- Two contents of one hash. -/
def Colisao : Prop := ∃ c c' : EnvelopeContent,
  c.canonicalJson ≠ c'.canonicalJson ∧ c.contentSha256 = c'.contentSha256

/-- What an export that proceeds has used, written and handed over. -/
structure Autorizado (depois : Servico) (scheduleId stepId attemptId : Uuid) (objeto : Objeto)
    (antigos : List Evento) (ws : List Write) (r : Except Failure ExportOutcome) : Prop where
  consumido : depois.diario = .consumiu objeto.identidade scheduleId stepId :: antigos
  existe : depois.Existe objeto
  emitido : ∃ scheduleId' stepId', .emitiu objeto.identidade scheduleId' stepId' ∈ antigos
  mesmaEtapa : ∀ scheduleId' stepId', .emitiu objeto.identidade scheduleId' stepId' ∈ antigos →
    scheduleId' = scheduleId ∧ stepId' = stepId ∨ Colisao
  pendente : ∀ scheduleId' stepId', .consumiu objeto.identidade scheduleId' stepId' ∉ antigos
  escritas : ∀ w ∈ ws, w.Previa ∨ w.De objeto.autorizacao.campos
  entrega : ∀ out, r = .ok out →
    out.exported.contentSha256 = objeto.autorizacao.campos.contentSha256 ∧
      out.exported.envelope.contentSha256 = objeto.autorizacao.campos.contentSha256 ∧
        (∃ s, .insertSeal s ∈ ws ∧
          s.contentSha256 = objeto.autorizacao.campos.contentSha256) ∧
        ∀ id ∈ objeto.autorizacao.campos.delegationId, ∃ now,
          .consumeDelegation id now attemptId ∈ ws

/-- The export answers, or writes more than the delegations that expired and the pause of a
blocked gate. -/
def Prossegue (ws : List Write) (r : Except Failure ExportOutcome) : Prop :=
  (∃ out, r = .ok out) ∨ ∃ w ∈ ws, ¬w.Previa

theorem mesma_etapa {a : Autorizacao} {scheduleId' stepId' : Uuid} {draft : StepDraft}
    (h : ManualHandoffExportService.Autoriza scheduleId' stepId' a.campos)
    (hs' : scheduleId'.Valido) (ht' : stepId'.Valido) (hs : scheduleId.Valido) (ht : stepId.Valido)
    (hhash : a.campos.contentSha256 =
      (EnvelopeContent.ofDraft scheduleId stepId draft).contentSha256) :
    scheduleId' = scheduleId ∧ stepId' = stepId ∨ Colisao := by
  obtain ⟨draft', hhash'⟩ := h.content
  by_cases hjson : (EnvelopeContent.ofDraft scheduleId' stepId' draft').canonicalJson =
      (EnvelopeContent.ofDraft scheduleId stepId draft).canonicalJson
  · exact .inl (EnvelopeContent.ids_of_canonicalJson hjson ⟨hs', ht'⟩ ⟨hs, ht⟩)
  · exact .inr ⟨_, _, hjson, hhash'.symm.trans hhash⟩

namespace Regular

theorem fimDoDespacho (h : Regular antes) {objeto : Objeto}
    (hfim : FimDoDespacho antes scheduleId stepId attemptId objeto p r depois q) :
    Regular depois := by
  cases hfim with
  | recusa hconsumo =>
    cases hconsumo with
    | recusa _ registro hregistro hteto => exact h.registro hregistro hteto
  | despacha hconsumo _ =>
    cases hconsumo with
    | retira hlookup => exact h.retira hlookup

/-- A dispatch that proceeds has used a pending authorization of its step. -/
theorem autorizado (h : Regular antes) (hs : scheduleId.Valido) (ht : stepId.Valido)
    {objeto : Objeto} (hexiste : antes.Existe objeto)
    (hfim : FimDoDespacho antes scheduleId stepId attemptId objeto p r depois q) :
    ∃ ws, q.log = p.log ++ ws ∧ ((∃ out, r = .ok out) ∨ ws ≠ [] →
      ∃ antigos, Autorizado depois scheduleId stepId attemptId objeto antigos ws r) := by
  cases hfim with
  | recusa hconsumo =>
    refine ⟨[], (List.append_nil _).symm, ?_⟩
    rintro (⟨out, hout⟩ | hws)
    · cases hout
    · exact absurd rfl hws
  | despacha hconsumo hdespacha =>
    cases hconsumo with
    | retira hlookup =>
      obtain ⟨ws, hlog, hws⟩ := hdespacha.grows.log
      refine ⟨ws, hlog, fun hproceeds => ⟨antes.diario, ?_⟩⟩
      obtain ⟨⟨a, ha, -⟩, hemitido, hpendente⟩ := h.registradas _ _ hlookup
      obtain rfl : a = objeto.autorizacao := Option.some.inj (ha.symm.trans hexiste)
      have hcontent : ∃ draft, objeto.autorizacao.campos.contentSha256 =
          (EnvelopeContent.ofDraft scheduleId stepId draft).contentSha256 := by
        refine hdespacha.content ?_
        rcases hproceeds with hout | hws
        · exact .inr hout
        · refine .inl fun heq => hws ?_
          rw [hlog] at heq
          exact List.append_right_eq_self.mp heq
      exact {
        consumido := rfl
        existe := hexiste
        emitido := hemitido
        mesmaEtapa := by
          intro s' t' hmem
          obtain ⟨draft, hhash⟩ := hcontent
          obtain ⟨hs', ht', b, hb, hautoriza⟩ := h.emissoes _ _ _ hmem
          obtain rfl : b = objeto.autorizacao := Option.some.inj (hb.symm.trans hexiste)
          exact mesma_etapa hautoriza hs' ht' hs ht hhash
        pendente := hpendente
        escritas := fun w hw => .inr (hws w hw)
        entrega := by
          intro out hout
          obtain ⟨hexported, henvelope, ws', hlog', hseal, hdelegation⟩ :=
            hdespacha.exported out hout
          obtain rfl : ws = ws' := List.append_cancel_left (hlog.symm.trans hlog')
          exact ⟨hexported, henvelope, hseal, hdelegation⟩ }

/-- What an export has written before its dispatch does not count. -/
theorem depois_de {objeto : Objeto} {antigos : List Evento} {ws ws' : List Write}
    (h : Autorizado depois scheduleId stepId attemptId objeto antigos ws r)
    (hws' : ∀ w ∈ ws', w.Previa) :
    Autorizado depois scheduleId stepId attemptId objeto antigos (ws' ++ ws) r where
  consumido := h.consumido
  existe := h.existe
  emitido := h.emitido
  mesmaEtapa := h.mesmaEtapa
  pendente := h.pendente
  escritas := by
    intro w hw
    rcases List.mem_append.mp hw with hw | hw
    · exact .inl (hws' w hw)
    · exact h.escritas w hw
  entrega := by
    intro out hout
    obtain ⟨hexported, henvelope, ⟨s, hs, hhash⟩, hdelegation⟩ := h.entrega out hout
    refine ⟨hexported, henvelope, ⟨s, List.mem_append_right _ hs, hhash⟩, fun id hid => ?_⟩
    obtain ⟨now, hnow⟩ := hdelegation id hid
    exact ⟨now, List.mem_append_right _ hnow⟩

/-- What an export may have been: refused, or the use of a pending authorization of its step. -/
def Exporta (depois : Servico) (scheduleId stepId attemptId : Uuid)
    (authorization : Option Objeto) (p q : Place Db Write Lock)
    (r : Except Failure ExportOutcome) : Prop :=
  ∃ ws, q.log = p.log ++ ws ∧ (Prossegue ws r → ∃ objeto antigos,
    (∀ o ∈ authorization, o = objeto) ∧
      Autorizado depois scheduleId stepId attemptId objeto antigos ws r)

theorem exportStep (h : Regular antes) (hs : scheduleId.Valido) (ht : stepId.Valido)
    {authorization : Option Objeto} (hexiste : ∀ objeto ∈ authorization, antes.Existe objeto)
    (hruns : (antes.exportStep humanGate attemptId principal scheduleId stepId sealerRef
      authorization).Runs entorno p (.ok (r, depois)) q) :
    Regular depois ∧ Exporta depois scheduleId stepId attemptId authorization p q r := by
  have hproceeds {ws : List Write} (hws : Prossegue ws r) : (∃ out, r = .ok out) ∨ ws ≠ [] := by
    rcases hws with hout | ⟨w, hw, -⟩
    · exact .inl hout
    · exact .inr (List.ne_nil_of_mem hw)
  cases authorization with
  | some objeto =>
    have hfim := runs_despachar hruns
    obtain ⟨ws, hlog, hautorizado⟩ := h.autorizado hs ht (hexiste objeto rfl) hfim
    refine ⟨h.fimDoDespacho hfim, ws, hlog, fun hws => ?_⟩
    obtain ⟨antigos, hantigos⟩ := hautorizado (hproceeds hws)
    exact ⟨objeto, antigos, fun o ho => (Option.some.inj ho).symm, hantigos⟩
  | none =>
    obtain ⟨⟨resultado, meio⟩, m, hpreflight, hruns⟩ := Prog.runs_bind_ok.mp hruns
    obtain ⟨hgrows, hfim⟩ := runs_preflight hpreflight
    have hmeio := h.fimDoPreflight hs ht hfim
    obtain ⟨ws', hlog', hws'⟩ := hgrows.log
    -- Nothing but the writes before a dispatch.
    have hrefused {e : Failure} {n : Place Db Write Lock} (hgrows : Grows entorno Write.Previa p n) :
        Exporta meio scheduleId stepId attemptId none p n (.error e) := by
      obtain ⟨ws, hlog, hws⟩ := hgrows.log
      refine ⟨ws, hlog, ?_⟩
      rintro (⟨out, hout⟩ | ⟨w, hw, hnot⟩)
      · cases hout
      · exact absurd (hws w hw) hnot
    rcases resultado with e | (objeto | b)
    · obtain ⟨hr, rfl⟩ := hruns
      obtain ⟨rfl, rfl⟩ := Prod.mk.inj (Except.ok.inj hr)
      exact ⟨hmeio, hrefused hgrows⟩
    · have hnovo : meio.Existe objeto := by
        cases hfim with
        | recusa hr novos => exact absurd rfl (hr objeto)
        | emite a ha hteto => simp [Servico.Existe]
      have hfim' := runs_despachar hruns
      obtain ⟨ws, hlog, hautorizado⟩ := hmeio.autorizado hs ht hnovo hfim'
      refine ⟨hmeio.fimDoDespacho hfim', ws' ++ ws, by rw [hlog, hlog', List.append_assoc], ?_⟩
      intro hws
      have hdispatched : (∃ out, r = .ok out) ∨ ws ≠ [] := by
        rcases hws with hout | ⟨w, hw, hnot⟩
        · exact .inl hout
        · rcases List.mem_append.mp hw with hw | hw
          · exact absurd (hws' w hw) hnot
          · exact .inr (List.ne_nil_of_mem hw)
      obtain ⟨antigos, hantigos⟩ := hautorizado hdispatched
      exact ⟨objeto, antigos, fun _ ho => absurd ho (Option.not_mem_none _), depois_de hantigos hws'⟩
    · obtain ⟨recusa, n, hattempt, hruns⟩ := Prog.runs_bind_ok.mp hruns
      obtain ⟨answer, hanswer, hblock⟩ := Prog.runs_attempt.mp hattempt
      obtain rfl := Except.ok.inj hanswer
      have hblocked := hgrows.trans (ManualHandoffExportService.only_registerBlock.runs hblock)
      rcases recusa with e | recusa
      · obtain ⟨hr, rfl⟩ := hruns
        obtain ⟨rfl, rfl⟩ := Prod.mk.inj (Except.ok.inj hr)
        exact ⟨hmeio, hrefused hblocked⟩
      · obtain ⟨hr, rfl⟩ := hruns
        obtain ⟨rfl, rfl⟩ := Prod.mk.inj (Except.ok.inj hr)
        exact ⟨hmeio, hrefused hblocked⟩

/-- Every state of the life of an instance is regular. -/
theorem vida (h : Vida antes) : Regular antes := by
  induction h with
  | nova objetos => exact nova objetos
  | @chamada antes depois _ c hvalida p q hruns ih =>
    cases c with
    | construir a =>
      obtain ⟨hdepois, -⟩ := hruns
      rw [Except.ok.inj hdepois]
      exact ih.objetos [a]
    | preflight humanGate principal scheduleId stepId =>
      obtain ⟨⟨r, fim⟩, m, hpreflight, hdepois, -⟩ := Prog.runs_bind_ok.mp hruns
      obtain rfl := Except.ok.inj hdepois
      exact ih.fimDoPreflight hvalida.1 hvalida.2 (runs_preflight hpreflight).2
    | exportStep humanGate attemptId principal scheduleId stepId sealerRef authorization =>
      obtain ⟨⟨r, fim⟩, m, hexport, hdepois, -⟩ := Prog.runs_bind_ok.mp hruns
      obtain rfl := Except.ok.inj hdepois
      exact (ih.exportStep hvalida.1 hvalida.2.1 hvalida.2.2 hexport).1

end Regular

/-! ## The law -/

/-- An instance at some time of its life. -/
structure Instancia where
  servico : Servico
  vida : Vida servico

/-- The registry is bounded and holds what was issued and not consumed, each object is consumed
once, a refusal changes no entry, and an export proceeds only with an object of its own step. -/
structure LeiDasAutorizacoes (servico : Servico) : Prop where
  regular : Regular servico
  recusa : ∀ objeto e depois, servico.consumirAutorizacao objeto = (.error e, depois) →
    (∀ id, depois.autorizacoesEmitidas.lookup id = servico.autorizacoesEmitidas.lookup id) ∧
      depois.objetos = servico.objetos ∧ depois.diario = servico.diario
  exporta : ∀ humanGate attemptId principal scheduleId stepId sealerRef authorization,
    (Chamada.exportStep humanGate attemptId principal scheduleId stepId sealerRef
      authorization).Valida servico → ∀ p q r depois,
      (servico.exportStep humanGate attemptId principal scheduleId stepId sealerRef
        authorization).Runs entorno p (.ok (r, depois)) q →
      Regular.Exporta depois scheduleId stepId attemptId authorization p q r

end PiaOs
