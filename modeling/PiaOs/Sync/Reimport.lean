import PiaOs.Sync.ImportLaws

/-!
# Importing twice

A row is skipped where it is stored in its own spelling. After an import that wrote every
row in its own spelling, the same package has nothing new, and its graph no new edge.
-/

namespace PiaOs.Sync

open Support

variable {Id Data : Type} {t : Textos Id Data}

theorem Acervo.identificadas (acervo : Acervo Id Data) {tab : Tabela} (htab : tab ∈ orderedTables) :
    Identificadas (acervo.linhas tab.nome) where
  todas := by
    intro linha hlinha
    obtain ⟨i, hi⟩ := (acervo.conformes tab htab linha hlinha).id
    rw [Registro.idDe_eq_some.mpr hi]
    simp
  distintas := by
    have hnodup := acervo.distintas tab htab
    refine List.Nodup.map_on ?_ (List.Nodup.of_map _ hnodup)
    intro linha hlinha outra houtra hsame
    refine semRepeticao_of_nodup hnodup linha hlinha outra houtra ?_ hsame
    obtain ⟨i, hi⟩ := (acervo.conformes tab htab linha hlinha).id
    rw [Registro.idDe_eq_some.mpr hi]
    simp

variable [DecidableEq Id]

/-- A row is skipped exactly where it is stored in its own spelling. -/
theorem classeDe_identica_iff {banco : Banco Id Data} {tab : Tabela}
    {rows : List (Registro Id Data)} {row : Registro Id Data}
    (hid : Identificadas (banco tab.nome)) (hrow : row ∈ rows) (hnamed : idDaLinha t row ≠ none) :
    classeDe t banco tab rows row = .identica ↔ Reconhecida t (banco tab.nome) row := by
  obtain ⟨i, hi⟩ := Option.ne_none_iff_exists'.mp hnamed
  have hids : i ∈ rows.filterMap (idDaLinha t) := List.mem_filterMap.mpr ⟨row, hrow, hi⟩
  unfold classeDe classe
  constructor
  · intro h
    split at h
    · cases h
    · next current hlookup =>
      split at h
      · next hsame =>
        obtain ⟨linha, hlinha, j, hj, htext, hcurrent⟩ := exists_of_lookup_readRowsById hlookup
        have hji : idDaLinha t row = some j := by
          unfold idDaLinha
          rw [← htext]
          exact t.uuid_str j
        refine ⟨linha, hlinha, hj.trans hji.symm, ?_, hcurrent ▸ hsame⟩
        rw [idTexto_of_idDe hj, htext]
      · cases h
  · rintro ⟨linha, hlinha, hlinhaid, htext, hsame⟩
    have hsome : linha.idDe = some i := hlinhaid.trans hi
    have hfound := lookup_readRowsById (t := t) hid.semRepeticao hlinha hsome hids
    rw [htext, idTexto_of_idDe hsome, hfound]
    simp [hsame]

section Feito

variable {srv : Servidor Id Data} {limite : ℕ} {package : Objeto Id Data} {acervo : Acervo Id Data}
  {plano : Plano Id Data} {feito : Banco Id Data × List (String × ℕ)}

/-- What the insertions of a plan leave, table by table. -/
theorem acrescidas_of_aplicar (hplano : planoDe t acervo.linhas package = .ok plano)
    (hfeito : aplicar t srv limite plano acervo.linhas = .ok feito) :
    (∀ entry ∈ plano, ∃ rows, Acrescida t srv limite entry.1 entry.2.2.novas acervo.linhas feito.1
      ((feito.2.lookup entry.1.secao).getD 0) rows) ∧
    ∀ nome, nome ∉ plano.map (·.1.nome) → feito.1 nome = acervo.linhas nome := by
  obtain ⟨htabs, -⟩ := tabelas_of_planoDe hplano
  obtain ⟨hnomes, hsecoes⟩ := distintas_of_tabelas htabs
  have hbefore : ∀ entry ∈ plano, Identificadas (acervo.linhas entry.1.nome) := by
    intro entry hentry
    exact acervo.identificadas (htabs ▸ List.mem_map_of_mem hentry)
  obtain ⟨hentries, hquiet, -⟩ := aplicar_ok hfeito hnomes hsecoes hbefore
  exact ⟨hentries, hquiet⟩

omit [DecidableEq Id] in
/-- Every stored row fits its table after the insertions. -/
theorem conforme_of_acrescida {entry : Tabela × List (Registro Id Data) × Triagem Id Data}
    (htab : entry.1 ∈ orderedTables) {count : ℕ} {rows : List (Registro Id Data)}
    (h : Acrescida t srv limite entry.1 entry.2.2.novas acervo.linhas feito.1 count rows) :
    ∀ linha ∈ feito.1 entry.1.nome, Conforme entry.1 linha := by
  intro linha hlinha
  have hsome := h.identificadas.todas linha hlinha
  rw [h.linhas] at hlinha
  obtain hlinha | hlinha := List.mem_append.mp hlinha
  · exact acervo.conformes _ htab linha hlinha
  · obtain ⟨row, -, rfl⟩ := List.mem_map.mp hlinha
    exact conforme_gravar (bemFormada_of_mem htab) hsome

/-- A row that was inserted was decoded from a row of the package with its identifier. -/
theorem exists_of_mem_gravadas {entry : Tabela × List (Registro Id Data) × Triagem Id Data}
    (htab : entry.1 ∈ orderedTables)
    (hsection : ∀ row ∈ entry.2.1, row.tem "id" = true)
    (hclass : classify t acervo.linhas entry.1 entry.2.1 = .ok entry.2.2)
    {rows : List (Registro Id Data)}
    (hordem : ordenadas t limite entry.1 entry.2.2.novas = some rows)
    {linha : Registro Id Data} (hlinha : linha ∈ gravadas srv entry.1 rows) :
    ∃ decoded ∈ entry.2.2.novas, decoded.idDe = linha.idDe := by
  obtain ⟨hids, hsep⟩ := classify_ok hclass
  have hdecoded : ∀ decoded ∈ entry.2.2.novas, decoded.tem "id" = true ∧
      ∃ i, decoded.idDe = some i := by
    intro decoded hmem
    obtain ⟨row, hrow, hok⟩ := hsep.exists_row hmem
    obtain ⟨i, hi⟩ := Option.ne_none_iff_exists'.mp (hids row hrow)
    refine ⟨?_, i, idDe_decodeRow (bemFormada_of_mem htab) hok hi⟩
    rw [tem_decodeRow hok]
    exact hsection row hrow
  obtain ⟨hsub, -⟩ := ordenadas_ok hordem
  obtain ⟨decoded, hmem, rfl⟩ := List.mem_map.mp hlinha
  obtain ⟨-, i, hi⟩ := hdecoded decoded (hsub hmem)
  have hkey : "id" ∈ chavesDe rows := by
    unfold chavesDe
    cases rows with
    | nil => cases hmem
    | cons first rest =>
      exact tem_iff_mem.mp (hdecoded first (hsub List.mem_cons_self)).1
  refine ⟨decoded, hsub hmem, ?_⟩
  rw [idDe_gravar (bemFormada_of_mem htab) hkey hi, hi]

omit [DecidableEq Id] in
/-- Every row of a section has an identifier field. -/
theorem tem_of_sectionRows {fields : Registro Id Data} {secao : String}
    {rows : List (Registro Id Data)} (h : sectionRows fields secao = .ok rows) :
    ∀ row ∈ rows, row.tem "id" = true := by
  have hall : ∀ (items : List (Objeto Id Data)) (out : List (Registro Id Data)),
      items.mapM (linhaDe secao) = .ok out → ∀ row ∈ out, row.tem "id" = true := by
    intro items
    induction items with
    | nil =>
      intro out hout row hrow
      rw [← Except.ok.inj hout] at hrow
      cases hrow
    | cons item rest ih =>
      intro out hout row hrow
      rw [List.mapM_cons] at hout
      obtain ⟨first, hfirst, hout⟩ := bind_eq_ok.mp hout
      obtain ⟨others, hothers, hout⟩ := bind_eq_ok.mp hout
      rw [← Except.ok.inj hout] at hrow
      obtain rfl | hrow := List.mem_cons.mp hrow
      · unfold linhaDe at hfirst
        split at hfirst
        · split at hfirst
          · next htem =>
            rw [← Except.ok.inj hfirst]
            exact htem
          · cases hfirst
        · cases hfirst
      · exact ih others hothers row hrow
  unfold sectionRows at h
  split at h
  · exact hall _ _ h
  · cases h

omit [DecidableEq Id] in
/-- The new events are those of the table of events. -/
theorem novosEventos_eq {entry : Tabela × List (Registro Id Data) × Triagem Id Data}
    (hentry : entry ∈ plano) (htab : entry.1 = causalHistoryEvents)
    (hnomes : (plano.map (·.1.nome)).Nodup) : novosEventos plano = entry.2.2.novas := by
  unfold novosEventos
  cases hfind : plano.find? fun e => e.1.nome = causalHistoryEvents.nome with
  | none =>
    have hnone := List.find?_eq_none.mp hfind entry hentry
    simp [htab] at hnone
  | some outra =>
    have hmem := List.mem_of_find?_eq_some hfind
    have hnome : outra.1.nome = entry.1.nome := by
      rw [htab]
      simpa using List.find?_some hfind
    have hsame : outra = entry := List.inj_on_of_nodup_map hnomes hmem hentry hnome
    rw [hsame]
    rfl

/-- The stored predecessor of an event is that of the row that it was made from. -/
theorem predecessor_of_sameRepresentation {row decoded linha : Registro Id Data}
    (hconforme : Conforme causalHistoryEvents linha)
    (hdecoded : decodeRow t causalHistoryEvents row = .ok decoded)
    (hsame : sameRepresentation t row (encodeRow t linha) = true) :
    predecessor t decoded = predecessor t linha := by
  have htab : causalHistoryEvents ∈ orderedTables := by decide
  have hcoluna : (⟨"predecessor_event_id", .uuid⟩ : Coluna) ∈ causalHistoryEvents.colunas := by
    decide
  obtain ⟨value, hvalue, hequal⟩ :=
    mesmosValores_of_sameRepresentation hconforme hsame _ hcoluna
  have hget := get_decodeRow (bemFormada_of_mem htab) hdecoded hcoluna
  have hdec : value = decoded.get "predecessor_event_id" :=
    Option.some.inj (hvalue.symm.trans hget)
  have htipo := hconforme.tipos _ hcoluna
  have hboth : decoded.get "predecessor_event_id" = linha.get "predecessor_event_id" := by
    rw [← hdec]
    simp only at hequal htipo
    cases hlinha : linha.get "predecessor_event_id" with
    | null =>
      rw [hlinha] at hequal
      exact Objeto.igual_null.mp hequal
    | uuid i =>
      rw [hlinha] at hequal
      exact Objeto.igual_uuid.mp hequal
    | bool | int | float | str | data | arr | obj =>
      rw [hlinha] at htipo
      exact htipo.elim
  unfold predecessor
  rw [hboth]

/-- After the insertions, with every row of the package stored in its own spelling, the
graph of the stored events has no edge that the candidate graph did not have. -/
theorem cicloCausal_again (hplano : planoDe t acervo.linhas package = .ok plano)
    (hprossegue : Prossegue t acervo.linhas plano)
    (hfeito : aplicar t srv limite plano acervo.linhas = .ok feito)
    (hguardada : ∀ entry ∈ plano, ∀ row ∈ entry.2.1, Reconhecida t (feito.1 entry.1.nome) row) :
    cicloCausal t feito.1 [] = none := by
  obtain ⟨htabs, fields, -, hentries⟩ := tabelas_of_planoDe hplano
  obtain ⟨hnomes, -⟩ := distintas_of_tabelas htabs
  have hevents : causalHistoryEvents ∈ orderedTables := by decide
  obtain ⟨entry, hentry, htab⟩ := List.mem_map.mp (htabs ▸ hevents)
  have hin : entry.1 ∈ orderedTables := htab ▸ hevents
  obtain ⟨hsection, hclass⟩ := hentries entry hentry
  obtain ⟨hids, hsep⟩ := classify_ok hclass
  obtain ⟨rows, hacrescida⟩ := (acrescidas_of_aplicar hplano hfeito).1 entry hentry
  have hconformes := conforme_of_acrescida hin hacrescida
  have hnovos := novosEventos_eq hentry htab hnomes
  refine cicloCausal_mono hprossegue.semCiclo fun aresta haresta v w hliga => ?_
  obtain ⟨linha, hlinha, rfl⟩ := List.mem_map.mp haresta
  have hlinha' : linha ∈ feito.1 entry.1.nome := by rw [htab]; exact hlinha
  obtain ⟨i, hi⟩ := Option.ne_none_iff_exists'.mp (hacrescida.identificadas.todas linha hlinha')
  have hlookup : (arestas t acervo.linhas (novosEventos plano)).lookup (idTexto t linha) =
      some (predecessor t linha) := by
    rw [hnovos]
    refine lookup_arestas (fun decoded hdecoded htext => ?_) ?_
    · obtain ⟨row, hrow, hok⟩ := hsep.exists_row hdecoded
      obtain ⟨j, hj⟩ := Option.ne_none_iff_exists'.mp (hids row hrow)
      have hdecid := idDe_decodeRow (bemFormada_of_mem hin) hok hj
      have hji : j = i := by
        refine Textos.str_injective (t := t) ?_
        rw [← idTexto_of_idDe hdecid, htext, idTexto_of_idDe hi]
      obtain ⟨guardada, hmem, hsameid, -, hrep⟩ := hguardada entry hentry row hrow
      have hsame : guardada = linha := by
        refine (hacrescida.identificadas.semRepeticao linha hlinha' guardada hmem (by simp [hi])
          ?_).symm
        rw [hi, hsameid, hj, hji]
      rw [hsame] at hrep
      rw [htab] at hok
      exact predecessor_of_sameRepresentation (htab ▸ hconformes linha hlinha') hok hrep
    · rw [hacrescida.linhas] at hlinha'
      obtain hold | hnew := List.mem_append.mp hlinha'
      · left
        rw [htab] at hold
        exact lookup_readCausalEdges (acervo.identificadas hevents) hold
      · right
        obtain ⟨decoded, hdecoded, hsameid⟩ := exists_of_mem_gravadas hin
          (tem_of_sectionRows hsection) hclass hacrescida.ordem hnew
        refine ⟨decoded, hdecoded, ?_⟩
        rw [idTexto_of_idDe (hsameid.trans hi), idTexto_of_idDe hi]
  exact ⟨_, mem_of_lookup_eq_some hlookup, hliga⟩

/-- A plan without new rows inserts nothing. -/
theorem aplicar_vazio {plano : Plano Id Data} {banco : Banco Id Data}
    (h : ∀ entry ∈ plano, entry.2.2.novas = []) :
    aplicar t srv limite plano banco = .ok (banco, []) := by
  induction plano with
  | nil => rfl
  | cons entry rest ih =>
    obtain ⟨tab, rows, triagem⟩ := entry
    have hnovas : triagem.novas = [] := h _ List.mem_cons_self
    have hfirst : aplicarTabela t srv limite tab triagem.novas banco = .ok (banco, 0) := by
      have hordem : ordenadas t limite tab [] = some [] := by
        unfold ordenadas
        split <;> rfl
      unfold aplicarTabela
      rw [hnovas, hordem]
      rfl
    have hrest := ih fun other hother => h other (List.mem_cons_of_mem _ hother)
    unfold aplicar
    simp only [hfirst, ok_bind, hrest, if_true]
    rfl

/-- The plan of a package all of whose rows are stored. -/
def semNovidade (plano : Plano Id Data) : Plano Id Data :=
  plano.map fun entry => (entry.1, entry.2.1, ⟨[], [], entry.2.1.length⟩)

omit [DecidableEq Id] in
theorem triagem_of_semNovidade {entry : Tabela × List (Registro Id Data) × Triagem Id Data}
    (h : entry ∈ semNovidade plano) : entry.2.2 = ⟨[], [], entry.2.1.length⟩ := by
  obtain ⟨old, -, rfl⟩ := List.mem_map.mp h
  rfl

/-- A plan without news closes no cycle that the store does not have. -/
theorem prossegue_semNovidade {banco : Banco Id Data} (h : cicloCausal t banco [] = none) :
    Prossegue t banco (semNovidade plano) where
  semConflito := by
    rw [List.flatMap_eq_nil_iff]
    intro entry hentry
    rw [triagem_of_semNovidade hentry]
  semCiclo := by
    have hnone : novosEventos (semNovidade plano) = [] := by
      unfold novosEventos
      cases hfind : (semNovidade plano).find? fun e => e.1.nome = causalHistoryEvents.nome with
      | none => rfl
      | some entry =>
        simp [triagem_of_semNovidade (List.mem_of_find?_eq_some hfind)]
    rw [hnone]
    exact h

/-- After the insertions, with every row of the package stored in its own spelling, the
same package skips every row. -/
theorem importPackage_again (hplano : planoDe t acervo.linhas package = .ok plano)
    (hprossegue : Prossegue t acervo.linhas plano)
    (hfeito : aplicar t srv limite plano acervo.linhas = .ok feito)
    (hguardada : ∀ entry ∈ plano, ∀ row ∈ entry.2.1, Reconhecida t (feito.1 entry.1.nome) row) :
    importPackage t srv limite package feito.1 =
      (.relatorio ⟨[], [], ignoradas (semNovidade plano), 0⟩, feito.1) := by
  obtain ⟨-, _, -, hentries⟩ := tabelas_of_planoDe hplano
  have hagain : ∀ entry ∈ plano, classify t feito.1 entry.1 entry.2.1 =
      .ok ⟨[], [], entry.2.1.length⟩ := by
    intro entry hentry
    obtain ⟨hids, -⟩ := classify_ok (hentries entry hentry).2
    obtain ⟨rows, hacrescida⟩ := (acrescidas_of_aplicar hplano hfeito).1 entry hentry
    refine classify_identicas hids fun row hrow => ?_
    rw [classeDe_identica_iff hacrescida.identificadas hrow (hids row hrow)]
    exact hguardada entry hentry row hrow
  obtain ⟨fields, hfields, hplanejar⟩ := bind_eq_ok.mp hplano
  have hplano' : planoDe t feito.1 package = .ok (semNovidade plano) := by
    unfold planoDe
    rw [hfields, ok_bind]
    exact planejar_again (fun entry => ⟨[], [], entry.2.1.length⟩) hplanejar hagain
  have hprossegue' : Prossegue t feito.1 (semNovidade plano) :=
    prossegue_semNovidade (cicloCausal_again hplano hprossegue hfeito hguardada)
  have hempty : aplicar t srv limite (semNovidade plano) feito.1 = .ok (feito.1, []) := by
    refine aplicar_vazio fun entry hentry => ?_
    rw [triagem_of_semNovidade hentry]
  exact importPackage_of_prossegue hplano' hprossegue' hempty

end Feito

end PiaOs.Sync
