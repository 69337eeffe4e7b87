import PiaOs.Sync.Plan

/-!
# What the insertions leave

Each table gets its new rows after the rows it had, and nothing else changes. An insertion
fails in the client exactly where a row lacks a column of the statement or the recursion
limit is reached.
-/

namespace PiaOs.Sync

open Support

variable {Id Data : Type}

/-! ## One table -/

/-- The rows that the database writes for those it is given. -/
def gravadas (srv : Servidor Id Data) (tab : Tabela) (rows : List (Registro Id Data)) :
    List (Registro Id Data) :=
  rows.map (gravar srv tab (chavesDe rows))

theorem lookup_map_colunas {α : Type} {colunas : List Coluna} {g : Coluna → α}
    (h : (colunas.map (·.nome)).Nodup) {coluna : Coluna} (hcoluna : coluna ∈ colunas) :
    (colunas.map fun c => (c.nome, g c)).lookup coluna.nome = some (g coluna) := by
  induction colunas with
  | nil => cases hcoluna
  | cons first rest ih =>
    rw [List.map_cons, List.nodup_cons] at h
    rw [List.map_cons, List.lookup_cons]
    obtain rfl | hcoluna := List.mem_cons.mp hcoluna
    · simp
    · have hne : (coluna.nome == first.nome) = false := by
        have hnot : coluna.nome ≠ first.nome :=
          fun heq => h.1 (heq ▸ List.mem_map_of_mem hcoluna)
        simpa using hnot
      rw [hne]
      exact ih h.2 hcoluna

theorem get_gravar {srv : Servidor Id Data} {tab : Tabela} (hform : tab.BemFormada)
    {chaves : List String} {row : Registro Id Data} {coluna : Coluna}
    (hcoluna : coluna ∈ tab.colunas) :
    (gravar srv tab chaves row).get coluna.nome =
      if coluna.nome ∈ chaves then srv.guarda coluna (row.get coluna.nome)
      else srv.padrao coluna := by
  unfold gravar Registro.get
  rw [lookup_map_colunas hform.distintas hcoluna]
  rfl

/-- A row that is written fits its table. -/
theorem conforme_gravar {srv : Servidor Id Data} {tab : Tabela} (hform : tab.BemFormada)
    {chaves : List String} {row : Registro Id Data}
    (hid : (gravar srv tab chaves row).idDe ≠ none) :
    Conforme tab (gravar srv tab chaves row) where
  colunas := by
    intro coluna hcoluna
    unfold Registro.tem gravar
    rw [lookup_map_colunas hform.distintas hcoluna]
    rfl
  tipos := by
    intro coluna hcoluna
    rw [get_gravar hform hcoluna]
    split
    · exact srv.guarda_tipo _ _
    · exact srv.padrao_tipo _
  id := by
    obtain ⟨i, hi⟩ := Option.ne_none_iff_exists'.mp hid
    exact ⟨i, Registro.idDe_eq_some.mp hi⟩

/-- The identifier is written as it is given. -/
theorem idDe_gravar {srv : Servidor Id Data} {tab : Tabela} (hform : tab.BemFormada)
    {chaves : List String} {row : Registro Id Data} {i : Id} (hkey : "id" ∈ chaves)
    (hid : row.idDe = some i) : (gravar srv tab chaves row).idDe = some i := by
  have hget : (gravar srv tab chaves row).get "id" =
      if "id" ∈ chaves then srv.guarda ⟨"id", .uuid⟩ (row.get "id")
      else srv.padrao ⟨"id", .uuid⟩ := get_gravar hform hform.id
  rw [if_pos hkey, Registro.idDe_eq_some.mp hid, srv.guarda_uuid _ _ rfl] at hget
  exact Registro.idDe_eq_some.mpr hget

variable [DecidableEq Id] {t : Textos Id Data} {srv : Servidor Id Data}

/-- Rows that have an identifier, each its own. -/
structure Identificadas (linhas : List (Registro Id Data)) : Prop where
  todas : ∀ linha ∈ linhas, linha.idDe ≠ none
  distintas : (linhas.map (·.idDe)).Nodup

omit [DecidableEq Id] in
theorem Identificadas.semRepeticao {linhas : List (Registro Id Data)} (h : Identificadas linhas) :
    SemRepeticao linhas :=
  fun _ hlinha _ houtra _ hsame => List.inj_on_of_nodup_map h.distintas hlinha houtra hsame

theorem inserirLinhas_ok {tab : Tabela} {chaves : List String} {rows : List (Registro Id Data)}
    {banco banco' : Banco Id Data} (h : inserirLinhas srv tab chaves rows banco = .ok banco')
    (hbefore : Identificadas (banco tab.nome)) :
    banco' = Function.update banco tab.nome
        (banco tab.nome ++ rows.map (gravar srv tab chaves)) ∧
      Identificadas (banco' tab.nome) := by
  induction rows generalizing banco with
  | nil =>
    have heq : banco = banco' := Except.ok.inj h
    subst heq
    simpa using hbefore
  | cons row rest ih =>
    unfold inserirLinhas at h
    obtain ⟨next, hnext, h⟩ := bind_eq_ok.mp h
    unfold inserirLinha at hnext
    simp only at hnext
    split at hnext
    · cases hnext
    · next hfree =>
      push Not at hfree
      obtain ⟨hsome, hnew, -⟩ := hfree
      have hnextbanco := (Except.ok.inj hnext).symm
      have hnextlinhas : next tab.nome = banco tab.nome ++ [gravar srv tab chaves row] := by
        rw [hnextbanco, Function.update_self]
      have hnextid : Identificadas (next tab.nome) := by
        rw [hnextlinhas]
        refine ⟨fun linha hlinha => ?_, ?_⟩
        · obtain hlinha | hlinha := List.mem_append.mp hlinha
          · exact hbefore.todas linha hlinha
          · rw [List.mem_singleton.mp hlinha]
            exact hsome
        · rw [List.map_append, List.map_singleton, List.nodup_append]
          refine ⟨hbefore.distintas, List.nodup_singleton _, fun a ha b hb hab => ?_⟩
          rw [hab, List.mem_singleton.mp hb] at ha
          exact hnew ha
      obtain ⟨hbanco', hid'⟩ := ih h hnextid
      refine ⟨?_, hid'⟩
      rw [hbanco', hnextlinhas, hnextbanco, Function.update_idem, List.append_assoc,
        List.map_cons, List.singleton_append]

theorem insertRows_ok {tab : Tabela} {rows : List (Registro Id Data)} {banco banco' : Banco Id Data}
    (h : insertRows srv tab rows banco = .ok banco') (hbefore : Identificadas (banco tab.nome)) :
    completas rows = true ∧
      banco' = Function.update banco tab.nome (banco tab.nome ++ gravadas srv tab rows) ∧
      Identificadas (banco' tab.nome) := by
  unfold insertRows at h
  cases rows with
  | nil =>
    have heq : banco = banco' := Except.ok.inj h
    subst heq
    refine ⟨rfl, ?_, hbefore⟩
    simp [gravadas]
  | cons row rest =>
    simp only [List.isEmpty_cons, Bool.false_eq_true, if_false] at h
    split at h
    · next hcomplete => exact ⟨hcomplete, inserirLinhas_ok h hbefore⟩
    · cases h

/-- The client fails on a statement exactly where a row lacks one of its columns. -/
theorem insertRows_error {tab : Tabela} {rows : List (Registro Id Data)} {banco : Banco Id Data}
    {falha : Falha} (h : insertRows srv tab rows banco = .error falha) :
    falha = .violacao ∧ completas rows = true ∨
      falha = .statementError ∧ completas rows = false := by
  have hviola : ∀ (chaves : List String) (some_ : List (Registro Id Data)) (b : Banco Id Data),
      inserirLinhas srv tab chaves some_ b = .error falha → falha = .violacao := by
    intro chaves some_
    induction some_ with
    | nil =>
      intro b hb
      cases hb
    | cons row rest ih =>
      intro b hb
      unfold inserirLinhas at hb
      cases hnext : inserirLinha srv tab chaves b row with
      | error other =>
        rw [hnext] at hb
        have heq : other = falha := Except.error.inj hb
        unfold inserirLinha at hnext
        simp only at hnext
        split at hnext
        · rw [← heq, ← Except.error.inj hnext]
        · cases hnext
      | ok next =>
        rw [hnext] at hb
        exact ih next hb
  unfold insertRows at h
  split at h
  · cases h
  · split at h
    · next hcomplete => exact .inl ⟨hviola _ _ _ h, hcomplete⟩
    · next hincomplete => exact .inr ⟨(Except.error.inj h).symm, by simpa using hincomplete⟩

/-! ## The events -/

omit [DecidableEq Id] in
/-- What a call of `place` keeps and adds. -/
theorem place_ok {rows : List (Registro Id Data)} {limite : ℕ} {row : Registro Id Data}
    {guard : List String} {ordered ordered' : List (Registro Id Data)}
    (h : place t rows limite row guard ordered = some ordered') (hrow : row ∈ rows)
    (hordered : ordered ⊆ rows) :
    ordered ⊆ ordered' ∧ ordered' ⊆ rows ∧
      (idTexto t row ∈ guard ∨ idTexto t row ∈ ordered'.map (idTexto t)) := by
  induction limite generalizing row guard ordered ordered' with
  | zero => cases h
  | succ limite ih =>
    unfold place at h
    split at h
    · next hknown =>
      have heq := Option.some.inj h
      subst heq
      exact ⟨List.Subset.refl _, hordered, hknown.symm⟩
    · simp only [Option.map_eq_some_iff] at h
      obtain ⟨antes, hantes, heq⟩ := h
      have hfirst : ordered ⊆ antes ∧ antes ⊆ rows := by
        split at hantes
        · have hsame := Option.some.inj hantes
          subst hsame
          exact ⟨List.Subset.refl _, hordered⟩
        · next parent hparent =>
          obtain ⟨id, -, hfind⟩ := Option.bind_eq_some_iff.mp hparent
          have hmem : parent ∈ rows :=
            List.mem_reverse.mp (List.mem_of_find?_eq_some hfind)
          obtain ⟨hkeep, hin, -⟩ := ih hantes hmem hordered
          exact ⟨hkeep, hin⟩
      subst heq
      split
      · next hplaced => exact ⟨hfirst.1, hfirst.2, .inr hplaced⟩
      · refine ⟨fun r hr => List.mem_append_left _ (hfirst.1 hr), fun r hr => ?_, .inr ?_⟩
        · obtain hr | hr := List.mem_append.mp hr
          · exact hfirst.2 hr
          · rw [List.mem_singleton.mp hr]
            exact hrow
        · rw [List.map_append]
          exact List.mem_append_right _ List.mem_cons_self

omit [DecidableEq Id] in
/-- What the loop over the events keeps and adds. -/
theorem placeAll_ok {rows : List (Registro Id Data)} {limite : ℕ}
    {rest ordered ordered' : List (Registro Id Data)}
    (h : placeAll t rows limite rest ordered = some ordered') (hrest : rest ⊆ rows)
    (hordered : ordered ⊆ rows) :
    ordered ⊆ ordered' ∧ ordered' ⊆ rows ∧
      ∀ row ∈ rest, idTexto t row ∈ ordered'.map (idTexto t) := by
  induction rest generalizing ordered with
  | nil =>
    rw [← Option.some.inj h]
    exact ⟨List.Subset.refl _, hordered, fun row hrow => (List.not_mem_nil hrow).elim⟩
  | cons row rest ih =>
    unfold placeAll at h
    obtain ⟨next, hnext, h⟩ := Option.bind_eq_some_iff.mp h
    obtain ⟨hrow, hrest⟩ := List.cons_subset.mp hrest
    obtain ⟨hkeep, hin, hplaced⟩ := place_ok hnext hrow hordered
    obtain ⟨hkeep', hin', hothers⟩ := ih h hrest hin
    refine ⟨fun r hr => hkeep' (hkeep hr), hin', fun other hother => ?_⟩
    obtain rfl | hother := List.mem_cons.mp hother
    · exact List.map_subset _ hkeep' (hplaced.resolve_left List.not_mem_nil)
    · exact hothers other hother

omit [DecidableEq Id] in
/-- The order of insertion holds rows of the package, and one for each identifier. -/
theorem ordenadas_ok {limite : ℕ} {tab : Tabela} {novas rows : List (Registro Id Data)}
    (h : ordenadas t limite tab novas = some rows) :
    rows ⊆ novas ∧ ∀ row ∈ novas, idTexto t row ∈ rows.map (idTexto t) := by
  unfold ordenadas at h
  split at h
  · exact (placeAll_ok h (List.Subset.refl _) (List.nil_subset _)).2
  · rw [← Option.some.inj h]
    exact ⟨List.Subset.refl _, fun row hrow => List.mem_map_of_mem hrow⟩

/-! ## All tables -/

/-- What the insertion of one table leaves: its order of insertion, the rows written for
it after those that were there, and their number. -/
structure Acrescida (t : Textos Id Data) (srv : Servidor Id Data) (limite : ℕ) (tab : Tabela)
    (novas : List (Registro Id Data)) (banco banco' : Banco Id Data) (count : ℕ)
    (rows : List (Registro Id Data)) : Prop where
  ordem : ordenadas t limite tab novas = some rows
  linhas : banco' tab.nome = banco tab.nome ++ gravadas srv tab rows
  identificadas : Identificadas (banco' tab.nome)
  contagem : count = rows.length

theorem aplicarTabela_ok {limite : ℕ} {tab : Tabela} {novas : List (Registro Id Data)}
    {banco : Banco Id Data} {feito : Banco Id Data × ℕ}
    (h : aplicarTabela t srv limite tab novas banco = .ok feito)
    (hbefore : Identificadas (banco tab.nome)) :
    (∃ rows, Acrescida t srv limite tab novas banco feito.1 feito.2 rows) ∧
      ∀ nome, nome ≠ tab.nome → feito.1 nome = banco nome := by
  unfold aplicarTabela at h
  split at h
  · cases h
  · next rows hrows =>
    obtain ⟨banco', hinsert, h⟩ := bind_eq_ok.mp h
    obtain ⟨-, hbanco', hid⟩ := insertRows_ok hinsert hbefore
    have heq : (banco', rows.length) = feito := Except.ok.inj h
    subst heq
    refine ⟨⟨rows, hrows, ?_, hid, rfl⟩, fun nome hne => ?_⟩
    · have hhere := congrFun hbanco' tab.nome
      rwa [Function.update_self] at hhere
    · have hthere := congrFun hbanco' nome
      rwa [Function.update_of_ne hne] at hthere

/-- Every table of the plan gets its rows, and no other table changes. -/
theorem aplicar_ok {limite : ℕ} {plano : Plano Id Data} {banco : Banco Id Data}
    {feito : Banco Id Data × List (String × ℕ)} (h : aplicar t srv limite plano banco = .ok feito)
    (hnomes : (plano.map (·.1.nome)).Nodup) (hsecoes : (plano.map (·.1.secao)).Nodup)
    (hbefore : ∀ entry ∈ plano, Identificadas (banco entry.1.nome)) :
    (∀ entry ∈ plano, ∃ rows, Acrescida t srv limite entry.1 entry.2.2.novas banco feito.1
      ((feito.2.lookup entry.1.secao).getD 0) rows) ∧
    (∀ nome, nome ∉ plano.map (·.1.nome) → feito.1 nome = banco nome) ∧
    ∀ secao, secao ∉ plano.map (·.1.secao) → feito.2.lookup secao = none := by
  induction plano generalizing banco feito with
  | nil =>
    have heq : (banco, []) = feito := Except.ok.inj h
    subst heq
    exact ⟨fun entry hentry => (List.not_mem_nil hentry).elim, fun _ _ => rfl, fun _ _ => rfl⟩
  | cons entry rest ih =>
    obtain ⟨tab, rows, triagem⟩ := entry
    simp only [List.map_cons, List.nodup_cons] at hnomes hsecoes
    unfold aplicar at h
    obtain ⟨primeiro, hprimeiro, h⟩ := bind_eq_ok.mp h
    obtain ⟨resto, hresto, h⟩ := bind_eq_ok.mp h
    have heq := Except.ok.inj h
    obtain ⟨⟨ordem, hacrescida⟩, hothers⟩ :=
      aplicarTabela_ok hprimeiro (hbefore _ List.mem_cons_self)
    have hrestbefore : ∀ entry ∈ rest, Identificadas (primeiro.1 entry.1.nome) := by
      intro entry hentry
      have hne : entry.1.nome ≠ tab.nome := by
        intro hname
        exact hnomes.1 (hname ▸ List.mem_map_of_mem (f := fun e => e.1.nome) hentry)
      rw [hothers _ hne]
      exact hbefore entry (List.mem_cons_of_mem _ hentry)
    obtain ⟨hrest, hquiet, hnone⟩ := ih hresto hnomes.2 hsecoes.2 hrestbefore
    have hbanco : feito.1 = resto.1 := by rw [← heq]
    have hlookup : ∀ secao, secao ≠ tab.secao →
        feito.2.lookup secao = resto.2.lookup secao := by
      intro secao hne
      have hbne : (secao == tab.secao) = false := by simpa using hne
      rw [← heq]
      by_cases hcount : primeiro.2 = 0 <;> simp [hcount, List.lookup_cons, hbne]
    refine ⟨fun entry hentry => ?_, fun nome hnome => ?_, fun secao hsecao => ?_⟩
    · obtain rfl | hentry := List.mem_cons.mp hentry
      · have hcount : (feito.2.lookup tab.secao).getD 0 = primeiro.2 := by
          rw [← heq]
          by_cases hzero : primeiro.2 = 0
          · simp [hzero, hnone _ hsecoes.1]
          · simp [hzero]
        have hstill : feito.1 tab.nome = primeiro.1 tab.nome := by
          rw [hbanco, hquiet _ hnomes.1]
        refine ⟨ordem, hacrescida.ordem, ?_, ?_, ?_⟩
        · rw [hstill]
          exact hacrescida.linhas
        · rw [hstill]
          exact hacrescida.identificadas
        · rw [hcount]
          exact hacrescida.contagem
      · have hname : entry.1.nome ≠ tab.nome := fun hname =>
          hnomes.1 (hname ▸ List.mem_map_of_mem (f := fun e => e.1.nome) hentry)
        have hsection : entry.1.secao ≠ tab.secao := fun hname =>
          hsecoes.1 (hname ▸ List.mem_map_of_mem (f := fun e => e.1.secao) hentry)
        obtain ⟨ordem', hacrescida'⟩ := hrest entry hentry
        refine ⟨ordem', hacrescida'.ordem, ?_, ?_, ?_⟩
        · rw [hbanco, hacrescida'.linhas, hothers _ hname]
        · rw [hbanco]
          exact hacrescida'.identificadas
        · rw [hlookup _ hsection]
          exact hacrescida'.contagem
    · simp only [List.map_cons, List.mem_cons, not_or] at hnome
      rw [hbanco, hquiet _ hnome.2, hothers _ hnome.1]
    · simp only [List.map_cons, List.mem_cons, not_or] at hsecao
      rw [hlookup _ hsecao.1, hnone _ hsecao.2]

/-- As far as the database takes the tables, each has an order of insertion within the
recursion limit, and every row of it has the columns of the first. -/
def SemTropeco (t : Textos Id Data) (srv : Servidor Id Data) (limite : ℕ) :
    Plano Id Data → Banco Id Data → Prop
  | [], _ => True
  | (tab, _, triagem) :: rest, banco =>
    (∃ rows, ordenadas t limite tab triagem.novas = some rows ∧ completas rows = true) ∧
      ∀ feito, aplicarTabela t srv limite tab triagem.novas banco = .ok feito →
        SemTropeco t srv limite rest feito.1

/-- Only a constraint of the database stops the insertions exactly when no table makes the
client fail. -/
theorem semTropeco_iff {limite : ℕ} {plano : Plano Id Data} {banco : Banco Id Data} :
    (∀ falha, aplicar t srv limite plano banco = .error falha → falha = .violacao) ↔
      SemTropeco t srv limite plano banco := by
  induction plano generalizing banco with
  | nil =>
    refine ⟨fun _ => trivial, fun _ falha h => ?_⟩
    cases h
  | cons entry rest ih =>
    obtain ⟨tab, rows, triagem⟩ := entry
    unfold SemTropeco aplicar
    cases hordem : ordenadas t limite tab triagem.novas with
    | none =>
      have hfirst : aplicarTabela t srv limite tab triagem.novas banco =
          .error .recursionError := by
        unfold aplicarTabela
        rw [hordem]
      rw [hfirst]
      constructor
      · intro h
        have hbad := h .recursionError rfl
        cases hbad
      · rintro ⟨⟨_, hnone, -⟩, -⟩
        cases hnone
    | some ordem =>
      cases hfirst : aplicarTabela t srv limite tab triagem.novas banco with
      | error falha =>
        have hinsert : insertRows srv tab ordem banco = .error falha := by
          unfold aplicarTabela at hfirst
          simp only [hordem] at hfirst
          cases hrows : insertRows srv tab ordem banco with
          | error other =>
            rw [hrows] at hfirst
            exact congrArg _ (Except.error.inj hfirst)
          | ok next =>
            rw [hrows] at hfirst
            cases hfirst
        obtain ⟨hviola, hcomplete⟩ | ⟨hstatement, hincomplete⟩ := insertRows_error hinsert
        · refine ⟨fun _ => ⟨⟨ordem, rfl, hcomplete⟩, fun feito hfeito => ?_⟩,
            fun _ other hother => ?_⟩
          · cases hfeito
          · rw [← Except.error.inj hother, hviola]
        · constructor
          · intro h
            have hbad := h falha rfl
            rw [hstatement] at hbad
            cases hbad
          · rintro ⟨⟨_, hsame, hcomplete⟩, -⟩
            rw [← Option.some.inj hsame, hincomplete] at hcomplete
            cases hcomplete
      | ok feito =>
        have hcomplete : completas ordem = true := by
          unfold aplicarTabela at hfirst
          simp only [hordem] at hfirst
          obtain ⟨next, hinsert, -⟩ := bind_eq_ok.mp hfirst
          unfold insertRows at hinsert
          split at hinsert
          · next hempty =>
            rw [List.isEmpty_iff.mp hempty]
            rfl
          · split at hinsert
            · next hcomplete => exact hcomplete
            · cases hinsert
        have hrest : ∀ falha, ((do
            let resto ← aplicar t srv limite rest feito.1
            return (resto.1, if feito.2 = 0 then resto.2 else (tab.secao, feito.2) :: resto.2)) :
              Except Falha (Banco Id Data × List (String × ℕ))) = .error falha ↔
            aplicar t srv limite rest feito.1 = .error falha := by
          intro falha
          cases aplicar t srv limite rest feito.1 with
          | error other => simp [bind, Except.bind]
          | ok resto => simp [pure, Except.pure]
        simp only [ok_bind, hrest]
        constructor
        · intro h
          refine ⟨⟨ordem, rfl, hcomplete⟩, fun other hother => ?_⟩
          rw [← Except.ok.inj hother]
          exact ih.mp h
        · rintro ⟨-, h⟩
          exact ih.mpr (h feito rfl)

end PiaOs.Sync
