import PiaOs.Sync.Insertion

/-!
# What an import does

What an import should do with a package, and exactly when it does it: where the rows of
the package are spelled as the store spells them, no row lacks what the first row of its
section has, and the database keeps what it is given.
-/

/-! ## The candidate graph

The edges that the search for a cycle sees are those of the stored events and of the new
ones, and the search depends on nothing else. -/

namespace PiaOs.Sync

open Support

variable {Id Data : Type} [DecidableEq Id] {t : Textos Id Data}

/-- An entry stands for an edge when both of its texts can be read. -/
def Liga (t : Textos Id Data) (aresta : String × Option String) (v w : Id) : Prop :=
  t.uuid aresta.1 = some v ∧ aresta.2.bind t.uuid = some w

theorem edge_ligarAresta {adj : Adjacency Id} {aresta : String × Option String} {v w : Id} :
    (ligarAresta t adj aresta).Edge v w ↔ adj.Edge v w ∨ Liga t aresta v w := by
  unfold ligarAresta Liga
  cases hnode : t.uuid aresta.1 with
  | none => simp
  | some node =>
    cases hparent : aresta.2.bind t.uuid with
    | none =>
      rw [Adjacency.edge_link]
      simp
    | some parent =>
      simp only [Adjacency.edge_link, List.not_mem_nil, and_false, or_false, List.mem_singleton,
        Option.some.injEq]
      constructor
      · rintro (hold | ⟨hv, hw⟩)
        · exact .inl hold
        · exact .inr ⟨hv.symm, hw.symm⟩
      · rintro (hold | ⟨hv, hw⟩)
        · exact .inl hold
        · exact .inr ⟨hv.symm, hw.symm⟩

theorem edge_foldl {arestas : List (String × Option String)} {adj : Adjacency Id} {v w : Id} :
    (arestas.foldl (ligarAresta t) adj).Edge v w ↔
      adj.Edge v w ∨ ∃ aresta ∈ arestas, Liga t aresta v w := by
  induction arestas generalizing adj with
  | nil => simp
  | cons aresta rest ih =>
    rw [List.foldl_cons, ih, edge_ligarAresta]
    simp only [List.mem_cons, exists_eq_or_imp]
    tauto

/-- There is a cycle unless the graph of the entries has none. -/
theorem cicloCausal_eq_none {banco : Banco Id Data} {novos : List (Registro Id Data)} :
    cicloCausal t banco novos = none ↔ ∀ v, ¬Relation.TransGen
      (fun v w => ∃ aresta ∈ arestas t banco novos, Liga t aresta v w) v v := by
  unfold cicloCausal
  rw [Adjacency.findCycle_eq_none_iff]
  have hedges : ((arestas t banco novos).foldl (ligarAresta t) []).Edge =
      fun v w => ∃ aresta ∈ arestas t banco novos, Liga t aresta v w := by
    funext v w
    rw [edge_foldl]
    simp [Adjacency.Edge, Adjacency.neighbours]
  unfold Adjacency.Acyclic
  rw [hedges]

/-- Fewer edges have no more cycles. -/
theorem cicloCausal_mono {banco banco' : Banco Id Data} {novos novos' : List (Registro Id Data)}
    (h : cicloCausal t banco novos = none)
    (hsub : ∀ aresta ∈ arestas t banco' novos', ∀ v w, Liga t aresta v w →
      ∃ outra ∈ arestas t banco novos, Liga t outra v w) :
    cicloCausal t banco' novos' = none := by
  rw [cicloCausal_eq_none] at h ⊢
  intro v hcycle
  refine h v (Relation.TransGen.mono (fun a b hedge => ?_) v v hcycle)
  obtain ⟨aresta, haresta, hliga⟩ := hedge
  exact hsub aresta haresta a b hliga

/-! ## The entries -/

omit [DecidableEq Id] in
theorem lookup_atribuir {β : Type} {d : List (String × β)} {key other : String} {value : β} :
    (atribuir d key value).lookup other = if other = key then some value else d.lookup other := by
  unfold atribuir
  by_cases hthere : (d.lookup key).isSome = true
  · rw [if_pos hthere]
    have hupdate := Adjacency.lookup_map_update d key other (g := fun _ => value)
    rw [hupdate]
    by_cases hother : other = key
    · subst hother
      obtain ⟨old, hold⟩ := Option.isSome_iff_exists.mp hthere
      simp [hold]
    · simp [hother]
  · rw [if_neg hthere]
    have hnone : d.lookup key = none := Option.not_isSome_iff_eq_none.mp hthere
    rw [List.lookup_append]
    by_cases hother : other = key
    · subst hother
      simp [hnone]
    · have hne : (other == key) = false := by simpa using hother
      cases d.lookup other <;> simp [List.lookup_cons, hne, hother]

omit [DecidableEq Id] in
/-- An entry that the stored events have, or some new event, and that no new event has
otherwise. -/
theorem lookup_arestas {banco : Banco Id Data} {novos : List (Registro Id Data)} {key : String}
    {value : Option String}
    (hnovos : ∀ row ∈ novos, idTexto t row = key → predecessor t row = value)
    (hthere : (readCausalEdges t banco).lookup key = some value ∨
      ∃ row ∈ novos, idTexto t row = key) :
    (arestas t banco novos).lookup key = some value := by
  have hfold : ∀ (rows : List (Registro Id Data)) (d : List (String × Option String)),
      (∀ row ∈ rows, idTexto t row = key → predecessor t row = value) →
      (d.lookup key = some value ∨ ∃ row ∈ rows, idTexto t row = key) →
      (rows.foldl (fun edges row => atribuir edges (idTexto t row) (predecessor t row)) d).lookup
        key = some value := by
    intro rows
    induction rows with
    | nil =>
      intro d _ hstart
      obtain hstart | ⟨row, hrow, -⟩ := hstart
      · exact hstart
      · cases hrow
    | cons row rest ih =>
      intro d hrows hstart
      rw [List.foldl_cons]
      refine ih _ (fun other hother => hrows other (List.mem_cons_of_mem _ hother)) ?_
      rw [lookup_atribuir]
      by_cases hkey : key = idTexto t row
      · rw [if_pos hkey, hrows row List.mem_cons_self hkey.symm]
        exact .inl rfl
      · rw [if_neg hkey]
        obtain hstart | ⟨other, hother, hname⟩ := hstart
        · exact .inl hstart
        · obtain rfl | hother := List.mem_cons.mp hother
          · exact absurd hname.symm hkey
          · exact .inr ⟨other, hother, hname⟩
  exact hfold novos (readCausalEdges t banco) hnovos hthere

omit [DecidableEq Id] in
/-- The entry of a stored event. -/
theorem lookup_readCausalEdges {banco : Banco Id Data} {linha : Registro Id Data}
    (hid : Identificadas (banco causalHistoryEvents.nome))
    (hlinha : linha ∈ banco causalHistoryEvents.nome) :
    (readCausalEdges t banco).lookup (idTexto t linha) = some (predecessor t linha) := by
  have hmem : (idTexto t linha, predecessor t linha) ∈ readCausalEdges t banco :=
    List.mem_map_of_mem hlinha
  cases hlookup : (readCausalEdges t banco).lookup (idTexto t linha) with
  | none =>
    have hnone := List.lookup_eq_none_iff.mp hlookup _ hmem
    simp at hnone
  | some value =>
    obtain ⟨outra, houtra, heq⟩ := List.mem_map.mp (mem_of_lookup_eq_some hlookup)
    obtain ⟨i, hi⟩ := Option.ne_none_iff_exists'.mp (hid.todas linha hlinha)
    obtain ⟨j, hj⟩ := Option.ne_none_iff_exists'.mp (hid.todas outra houtra)
    have htext : t.str j = t.str i := by
      rw [← idTexto_of_idDe hi, ← idTexto_of_idDe hj]
      exact congrArg Prod.fst heq
    have hsame : linha = outra := by
      refine hid.semRepeticao linha hlinha outra houtra (hid.todas linha hlinha) ?_
      rw [hi, hj, Textos.str_injective htext]
    rw [hsame]
    exact congrArg some (congrArg Prod.snd heq).symm

end PiaOs.Sync

/-! ## What an import does -/

namespace PiaOs.Sync

open Support

variable {Id Data : Type} [DecidableEq Id]

/-! ## The ends of an import -/

/-- The plan of a package against a store. -/
def planoDe (t : Textos Id Data) (banco : Banco Id Data) (package : Objeto Id Data) :
    Except Invalido (Plano Id Data) :=
  validateEnvelope t package >>= (planejar t banco · orderedTables)

/-- The import goes on to the insertions: no row conflicts, and the new events close no
cycle. -/
structure Prossegue (t : Textos Id Data) (banco : Banco Id Data) (plano : Plano Id Data) :
    Prop where
  semConflito : plano.flatMap (·.2.2.conflitos) = []
  semCiclo : cicloCausal t banco (novosEventos plano) = none

/-- How many rows of each section were skipped. -/
def ignoradas (plano : Plano Id Data) : List (String × ℕ) :=
  plano.map fun entry => (entry.1.secao, entry.2.2.ignoradas)

section Ends

variable {t : Textos Id Data} {srv : Servidor Id Data} {limite : ℕ} {package : Objeto Id Data}
  {banco : Banco Id Data} {plano : Plano Id Data}

theorem importPackage_of_prossegue (hplano : planoDe t banco package = .ok plano)
    (h : Prossegue t banco plano) {feito : Banco Id Data × List (String × ℕ)}
    (hfeito : aplicar t srv limite plano banco = .ok feito) :
    importPackage t srv limite package banco =
      (.relatorio ⟨[], feito.2, ignoradas plano, 0⟩, feito.1) := by
  unfold planoDe at hplano
  unfold importPackage
  simp only [hplano, h.semConflito, h.semCiclo, hfeito]
  rfl

theorem importPackage_falha (hplano : planoDe t banco package = .ok plano)
    (h : Prossegue t banco plano) {falha : Falha}
    (hfalha : aplicar t srv limite plano banco = .error falha) :
    importPackage t srv limite package banco = (.falha falha, banco) := by
  unfold planoDe at hplano
  unfold importPackage
  simp only [hplano, h.semConflito, h.semCiclo, hfalha]
  rfl

/-- An import either writes nothing, or has made all the insertions of its plan. -/
theorem importPackage_cases (t : Textos Id Data) (srv : Servidor Id Data) (limite : ℕ)
    (package : Objeto Id Data) (banco : Banco Id Data) :
    ((importPackage t srv limite package banco).2 = banco ∧
      ((∃ razao, (importPackage t srv limite package banco).1 = .invalido razao) ∨
        ∃ report, (importPackage t srv limite package banco).1 = .relatorio report ∧
          report.conflicts ≠ [])) ∨
    ∃ plano, planoDe t banco package = .ok plano ∧ Prossegue t banco plano := by
  cases hplano : planoDe t banco package with
  | error razao =>
    left
    have heq : importPackage t srv limite package banco = (.invalido razao, banco) := by
      unfold planoDe at hplano
      unfold importPackage
      simp only [hplano]
    rw [heq]
    exact ⟨rfl, .inl ⟨razao, rfl⟩⟩
  | ok plano =>
    by_cases hconf : plano.flatMap (·.2.2.conflitos) = []
    · cases hciclo : cicloCausal t banco (novosEventos plano) with
      | none => exact .inr ⟨plano, rfl, hconf, hciclo⟩
      | some path =>
        left
        have heq : importPackage t srv limite package banco = (.invalido .ciclo, banco) := by
          unfold planoDe at hplano
          unfold importPackage
          simp only [hplano, hconf, hciclo]
          rfl
        rw [heq]
        exact ⟨rfl, .inl ⟨.ciclo, rfl⟩⟩
    · left
      have hempty : (plano.flatMap (·.2.2.conflitos)).isEmpty = false := by
        simpa [List.isEmpty_iff] using hconf
      have heq : importPackage t srv limite package banco =
          (.relatorio ⟨plano.flatMap (·.2.2.conflitos), [], ignoradas plano, 0⟩, banco) := by
        unfold planoDe at hplano
        unfold importPackage
        simp only [hplano, hempty, if_true]
        rfl
      rw [heq]
      exact ⟨rfl, .inr ⟨_, rfl, hconf⟩⟩

/-- A report without a conflict comes from the insertions of the plan. -/
theorem aplicar_of_importPackage {report : SyncReport Id Data} {banco' : Banco Id Data}
    (h : importPackage t srv limite package banco = (.relatorio report, banco'))
    (hnone : report.conflicts = []) :
    ∃ plano feito, planoDe t banco package = .ok plano ∧ Prossegue t banco plano ∧
      aplicar t srv limite plano banco = .ok feito ∧ banco' = feito.1 ∧
      report = ⟨[], feito.2, ignoradas plano, 0⟩ := by
  obtain ⟨-, ⟨razao, hinvalid⟩ | ⟨other, hreport, hconf⟩⟩ | ⟨plano, hplano, hprossegue⟩ :=
    importPackage_cases t srv limite package banco
  · rw [h] at hinvalid
    cases hinvalid
  · rw [h] at hreport
    have heq : report = other := Desfecho.relatorio.inj hreport
    exact absurd (heq ▸ hnone) hconf
  · cases hfeito : aplicar t srv limite plano banco with
    | error falha =>
      rw [importPackage_falha hplano hprossegue hfeito] at h
      cases h
    | ok feito =>
      rw [importPackage_of_prossegue hplano hprossegue hfeito] at h
      obtain ⟨hreport, hbanco⟩ := Prod.mk.inj h
      exact ⟨plano, feito, hplano, hprossegue, hfeito, hbanco.symm,
        (Desfecho.relatorio.inj hreport).symm⟩

/-- The tables of a plan are those of the patrimony. -/
theorem tabelas_of_planoDe (hplano : planoDe t banco package = .ok plano) :
    plano.map (·.1) = orderedTables ∧ ∃ fields, validateEnvelope t package = .ok fields ∧
      ∀ entry ∈ plano, sectionRows fields entry.1.secao = .ok entry.2.1 ∧
        classify t banco entry.1 entry.2.1 = .ok entry.2.2 := by
  obtain ⟨fields, hfields, hplanejar⟩ := bind_eq_ok.mp hplano
  obtain ⟨htabs, hentries⟩ := planejar_ok hplanejar
  exact ⟨htabs, fields, hfields, hentries⟩

omit [DecidableEq Id] in
theorem distintas_of_tabelas (htabs : plano.map (·.1) = orderedTables) :
    (plano.map (·.1.nome)).Nodup ∧ (plano.map (·.1.secao)).Nodup := by
  have hnomes : plano.map (·.1.nome) = orderedTables.map (·.nome) := by
    rw [← htabs, List.map_map]
    rfl
  have hsecoes : plano.map (·.1.secao) = orderedTables.map (·.secao) := by
    rw [← htabs, List.map_map]
    rfl
  rw [hnomes, hsecoes]
  exact orderedTables_distinct

end Ends

/-! ## The promise and its condition -/

/-- The row is stored in its own spelling. -/
def Reconhecida (t : Textos Id Data) (linhas : List (Registro Id Data))
    (row : Registro Id Data) : Prop :=
  ∃ linha ∈ linhas, linha.idDe = idDaLinha t row ∧ idTexto t row = idTexto t linha ∧
    sameRepresentation t row (encodeRow t linha) = true

/-- What an import should do with a package. -/
structure Promessa (t : Textos Id Data) (srv : Servidor Id Data) (limite : ℕ)
    (package : Objeto Id Data) (acervo : Acervo Id Data) : Prop where
  /-- Beside a refusal and a report, only a constraint of the database ends it. -/
  saidas : ∀ falha, (importPackage t srv limite package acervo.linhas).1 = .falha falha →
    falha = .violacao
  /-- A refusal and a report of conflicts leave everything as it was. -/
  nada : ((∃ razao, (importPackage t srv limite package acervo.linhas).1 = .invalido razao) ∨
      ∃ report, (importPackage t srv limite package acervo.linhas).1 = .relatorio report ∧
        report.conflicts ≠ []) →
    (importPackage t srv limite package acervo.linhas).2 = acervo.linhas
  /-- Every row is taken for what it is. -/
  classes : ∀ plano, planoDe t acervo.linhas package = .ok plano → ∀ entry ∈ plano,
    Separada t entry.1 (classeDe t acervo.linhas entry.1 entry.2.1) entry.2.1 entry.2.2 ∧
      ∀ row ∈ entry.2.1, ClasseDevida t acervo.linhas entry.1 row
        (classeDe t acervo.linhas entry.1 entry.2.1 row)
  /-- After an applied report every row is stored with its values, what was there is still
  there, and the counts are those of the rows that were added. -/
  aplicado : ∀ report banco', importPackage t srv limite package acervo.linhas =
      (.relatorio report, banco') → report.conflicts = [] →
    ∀ plano, planoDe t acervo.linhas package = .ok plano →
      (∀ entry ∈ plano,
        (∀ row ∈ entry.2.1, ∃ linha ∈ banco' entry.1.nome, linha.idDe = idDaLinha t row ∧
          MesmosValores t entry.1 row linha) ∧
        ∃ novas, banco' entry.1.nome = acervo.linhas entry.1.nome ++ novas ∧
          (report.applied.lookup entry.1.secao).getD 0 = novas.length) ∧
      ∀ nome, nome ∉ plano.map (·.1.nome) → banco' nome = acervo.linhas nome
  /-- The same package again skips every row and changes nothing. -/
  reimporta : ∀ report banco', importPackage t srv limite package acervo.linhas =
      (.relatorio report, banco') → report.conflicts = [] →
    ∃ report', importPackage t srv limite package banco' = (.relatorio report', banco') ∧
      report'.conflicts = [] ∧ report'.applied = [] ∧
      ∀ plano, planoDe t acervo.linhas package = .ok plano → ∀ entry ∈ plano,
        report'.skipped.lookup entry.1.secao = some entry.2.1.length

/-- The packages with which an import does what it should. -/
structure SemDefeito (t : Textos Id Data) (srv : Servidor Id Data) (limite : ℕ)
    (package : Objeto Id Data) (acervo : Acervo Id Data) : Prop where
  /-- A row that is stored is spelled as the store spells it. -/
  escrita : ∀ plano, planoDe t acervo.linhas package = .ok plano → ∀ entry ∈ plano,
    ∀ row ∈ entry.2.1, BemEscrita t acervo.linhas entry.1 row
  /-- No insertion makes the client fail. -/
  tropeco : ∀ plano, planoDe t acervo.linhas package = .ok plano →
    Prossegue t acervo.linhas plano → SemTropeco t srv limite plano acervo.linhas
  /-- If the database takes every row, what it writes for a row is the row as it stands. -/
  guardada : ∀ plano, planoDe t acervo.linhas package = .ok plano →
    Prossegue t acervo.linhas plano → ∀ feito, aplicar t srv limite plano acervo.linhas = .ok feito →
    ∀ entry ∈ plano, ∀ row ∈ entry.2.1, ∀ rows,
      ordenadas t limite entry.1 entry.2.2.novas = some rows →
        Reconhecida t (acervo.linhas entry.1.nome ++ gravadas srv entry.1 rows) row

end PiaOs.Sync
