import PiaOs.Sync.Reimport

/-!
# When an import keeps its promise

An import does what it should with a package exactly when the package has none of the
defects: another spelling of what is stored, rows of a section with other fields than the
first, values that the database does not keep as they are given, and chains of events
beyond the recursion limit.
-/

namespace PiaOs.Sync

open Support

section Promessa

variable {Id Data : Type} [DecidableEq Id] {t : Textos Id Data} {srv : Servidor Id Data}
  {limite : ℕ} {package : Objeto Id Data} {acervo : Acervo Id Data}

omit [DecidableEq Id] in
/-- The count of a section in a report. -/
theorem lookup_ignoradas {plano : Plano Id Data} (hsecoes : (plano.map (·.1.secao)).Nodup)
    {entry : Tabela × List (Registro Id Data) × Triagem Id Data} (hentry : entry ∈ plano) :
    (ignoradas plano).lookup entry.1.secao = some entry.2.2.ignoradas := by
  unfold ignoradas
  induction plano with
  | nil => cases hentry
  | cons first rest ih =>
    rw [List.map_cons, List.nodup_cons] at hsecoes
    rw [List.map_cons, List.lookup_cons]
    obtain rfl | hentry := List.mem_cons.mp hentry
    · simp
    · have hne : (entry.1.secao == first.1.secao) = false := by
        have hnot : entry.1.secao ≠ first.1.secao := fun heq =>
          hsecoes.1 (heq ▸ List.mem_map_of_mem (f := fun e => e.1.secao) hentry)
        simpa using hnot
      rw [hne]
      exact ih hsecoes.2 hentry

/-- Each class is the one that is due exactly when the row is well spelled. -/
theorem classes_iff {plano : Plano Id Data} (hplano : planoDe t acervo.linhas package = .ok plano) :
    (∀ entry ∈ plano,
      Separada t entry.1 (classeDe t acervo.linhas entry.1 entry.2.1) entry.2.1 entry.2.2 ∧
        ∀ row ∈ entry.2.1, ClasseDevida t acervo.linhas entry.1 row
          (classeDe t acervo.linhas entry.1 entry.2.1 row)) ↔
      ∀ entry ∈ plano, ∀ row ∈ entry.2.1, BemEscrita t acervo.linhas entry.1 row := by
  obtain ⟨htabs, _, -, hentries⟩ := tabelas_of_planoDe hplano
  have hrow : ∀ entry ∈ plano, ∀ row ∈ entry.2.1,
      (ClasseDevida t acervo.linhas entry.1 row
        (classeDe t acervo.linhas entry.1 entry.2.1 row) ↔
        BemEscrita t acervo.linhas entry.1 row) := by
    intro entry hentry row hrow
    have hin : entry.1 ∈ orderedTables := htabs ▸ List.mem_map_of_mem hentry
    obtain ⟨hids, -⟩ := classify_ok (hentries entry hentry).2
    exact classeDevida_iff (semRepeticao_of_nodup (acervo.distintas _ hin))
      (acervo.conformes _ hin) hrow (hids row hrow)
  constructor
  · intro h entry hentry row hmem
    exact (hrow entry hentry row hmem).mp ((h entry hentry).2 row hmem)
  · intro h entry hentry
    refine ⟨(classify_ok (hentries entry hentry).2).2, fun row hmem => ?_⟩
    exact (hrow entry hentry row hmem).mpr (h entry hentry row hmem)

/-- What is written for a table, as a list of rows and as the store afterwards. -/
theorem guardada_iff {plano : Plano Id Data} (hplano : planoDe t acervo.linhas package = .ok plano)
    {feito : Banco Id Data × List (String × ℕ)}
    (hfeito : aplicar t srv limite plano acervo.linhas = .ok feito) :
    (∀ entry ∈ plano, ∀ row ∈ entry.2.1, ∀ rows,
      ordenadas t limite entry.1 entry.2.2.novas = some rows →
        Reconhecida t (acervo.linhas entry.1.nome ++ gravadas srv entry.1 rows) row) ↔
      ∀ entry ∈ plano, ∀ row ∈ entry.2.1, Reconhecida t (feito.1 entry.1.nome) row := by
  obtain ⟨hentries, -⟩ := acrescidas_of_aplicar hplano hfeito
  constructor
  · intro h entry hentry row hrow
    obtain ⟨rows, hacrescida⟩ := hentries entry hentry
    rw [hacrescida.linhas]
    exact h entry hentry row hrow rows hacrescida.ordem
  · intro h entry hentry row hrow rows hordem
    obtain ⟨rows', hacrescida⟩ := hentries entry hentry
    have hsame : rows' = rows := Option.some.inj (hacrescida.ordem.symm.trans hordem)
    rw [← hsame, ← hacrescida.linhas]
    exact h entry hentry row hrow

theorem semDefeito_of_promessa (h : Promessa t srv limite package acervo) :
    SemDefeito t srv limite package acervo where
  escrita := fun plano hplano => (classes_iff hplano).mp (h.classes plano hplano)
  tropeco := by
    intro plano hplano hprossegue
    rw [← semTropeco_iff]
    intro falha hfalha
    refine h.saidas falha ?_
    rw [importPackage_falha hplano hprossegue hfalha]
  guardada := by
    intro plano hplano hprossegue feito hfeito
    rw [guardada_iff hplano hfeito]
    have himport := importPackage_of_prossegue hplano hprossegue hfeito
    obtain ⟨report', hagain, hnone, -, hskipped⟩ := h.reimporta _ _ himport rfl
    obtain ⟨plano', feito', hplano', -, -, -, hreport⟩ := aplicar_of_importPackage hagain hnone
    obtain ⟨htabs, fields, hfields, hentries⟩ := tabelas_of_planoDe hplano
    obtain ⟨htabs', fields', hfields', hentries'⟩ := tabelas_of_planoDe hplano'
    have hsame : fields = fields' := Except.ok.inj (hfields.symm.trans hfields')
    intro entry hentry row hrow
    have hin : entry.1 ∈ plano'.map (·.1) := by
      rw [htabs', ← htabs]
      exact List.mem_map_of_mem hentry
    obtain ⟨entry', hentry', htab⟩ := List.mem_map.mp hin
    have hrows : entry.2.1 = entry'.2.1 := by
      have hsection := (hentries entry hentry).1
      have hsection' := (hentries' entry' hentry').1
      rw [htab, ← hsame] at hsection'
      exact Except.ok.inj (hsection.symm.trans hsection')
    obtain ⟨hids, hsep⟩ := classify_ok (hentries' entry' hentry').2
    have hcount : entry'.2.2.ignoradas = entry'.2.1.length := by
      have hreported := hskipped plano hplano entry hentry
      rw [hreport, ← htab, lookup_ignoradas (distintas_of_tabelas htabs').2 hentry', hrows]
        at hreported
      exact Option.some.inj hreported
    rw [hsep.ignoradas, List.countP_eq_length] at hcount
    rw [hrows] at hrow
    have hclasse := hcount row hrow
    obtain ⟨rows, hacrescida⟩ := (acrescidas_of_aplicar hplano hfeito).1 entry hentry
    have hid : Identificadas (feito.1 entry'.1.nome) := htab ▸ hacrescida.identificadas
    rw [← htab]
    exact (classeDe_identica_iff hid hrow (hids row hrow)).mp (by simpa using hclasse)

theorem promessa_of_semDefeito (h : SemDefeito t srv limite package acervo) :
    Promessa t srv limite package acervo where
  saidas := by
    intro falha hfalha
    obtain ⟨-, ⟨razao, hinvalid⟩ | ⟨report, hreport, -⟩⟩ | ⟨plano, hplano, hprossegue⟩ :=
      importPackage_cases t srv limite package acervo.linhas
    · rw [hinvalid] at hfalha
      cases hfalha
    · rw [hreport] at hfalha
      cases hfalha
    · cases hfeito : aplicar t srv limite plano acervo.linhas with
      | error other =>
        rw [importPackage_falha hplano hprossegue hfeito] at hfalha
        have heq : other = falha := Desfecho.falha.inj hfalha
        rw [← heq]
        exact semTropeco_iff.mpr (h.tropeco plano hplano hprossegue) other hfeito
      | ok feito =>
        rw [importPackage_of_prossegue hplano hprossegue hfeito] at hfalha
        cases hfalha
  nada := by
    intro hnothing
    obtain ⟨hsame, -⟩ | ⟨plano, hplano, hprossegue⟩ :=
      importPackage_cases t srv limite package acervo.linhas
    · exact hsame
    · cases hfeito : aplicar t srv limite plano acervo.linhas with
      | error falha => rw [importPackage_falha hplano hprossegue hfeito]
      | ok feito =>
        rw [importPackage_of_prossegue hplano hprossegue hfeito] at hnothing
        obtain ⟨razao, hinvalid⟩ | ⟨report, hreport, hconf⟩ := hnothing
        · cases hinvalid
        · rw [← Desfecho.relatorio.inj hreport] at hconf
          exact absurd rfl hconf
  classes := fun plano hplano => (classes_iff hplano).mpr (h.escrita plano hplano)
  aplicado := by
    intro report banco' himport hnone plano hplano
    obtain ⟨plano', feito, hplano', hprossegue, hfeito, hbanco, hreport⟩ :=
      aplicar_of_importPackage himport hnone
    have hsame : plano = plano' := Except.ok.inj (hplano.symm.trans hplano')
    subst hsame
    obtain ⟨htabs, -⟩ := tabelas_of_planoDe hplano
    obtain ⟨hentries, hquiet⟩ := acrescidas_of_aplicar hplano hfeito
    have hkept := (guardada_iff hplano hfeito).mp (h.guardada plano hplano hprossegue feito hfeito)
    rw [hbanco, hreport]
    refine ⟨fun entry hentry => ?_, hquiet⟩
    obtain ⟨rows, hacrescida⟩ := hentries entry hentry
    have hin : entry.1 ∈ orderedTables := htabs ▸ List.mem_map_of_mem hentry
    refine ⟨fun row hrow => ?_, gravadas srv entry.1 rows, hacrescida.linhas, ?_⟩
    · obtain ⟨linha, hlinha, hid, -, hrep⟩ := hkept entry hentry row hrow
      refine ⟨linha, hlinha, hid, ?_⟩
      exact mesmosValores_of_sameRepresentation
        (conforme_of_acrescida hin hacrescida linha hlinha) hrep
    · rw [hacrescida.contagem]
      exact (List.length_map _).symm
  reimporta := by
    intro report banco' himport hnone
    obtain ⟨plano, feito, hplano, hprossegue, hfeito, hbanco, -⟩ :=
      aplicar_of_importPackage himport hnone
    have hkept := (guardada_iff hplano hfeito).mp (h.guardada plano hplano hprossegue feito hfeito)
    refine ⟨_, hbanco ▸ importPackage_again hplano hprossegue hfeito hkept, rfl, rfl, ?_⟩
    intro plano' hplano' entry hentry
    have hsame : plano = plano' := Except.ok.inj (hplano.symm.trans hplano')
    subst hsame
    obtain ⟨htabs, -⟩ := tabelas_of_planoDe hplano
    have htabs' : (semNovidade plano).map (·.1) = orderedTables := by
      rw [← htabs]
      unfold semNovidade
      rw [List.map_map]
      rfl
    have hmem : (entry.1, entry.2.1, ⟨[], [], entry.2.1.length⟩) ∈ semNovidade plano :=
      List.mem_map_of_mem (f := fun e => (e.1, e.2.1, (⟨[], [], e.2.1.length⟩ : Triagem Id Data)))
        hentry
    exact lookup_ignoradas (distintas_of_tabelas htabs').2 hmem

end Promessa

/-! ## An identifier in capitals -/

/-- The one instant is read back, and it is the same as itself. -/
theorem instante_lido (d : Unit) : (if "2026-01-01T00:00:00+00:00" = "2026-01-01T00:00:00+00:00" then
    some () else none) = some d := if_pos rfl

theorem instante_mesmo (_ : Unit) : true = true := rfl

/-- The texts of one identifier, read in either case, and of one instant. -/
def textosDeUm : Textos Unit Unit where
  str _ := "9f1c2b7e-3d4a-4c5b-8e6f-0a1b2c3d4e5f"
  uuid s :=
    if s = "9f1c2b7e-3d4a-4c5b-8e6f-0a1b2c3d4e5f" ∨ s = "9F1C2B7E-3D4A-4C5B-8E6F-0A1B2C3D4E5F" then
      some ()
    else none
  isoformat _ := "2026-01-01T00:00:00+00:00"
  fromisoformat s := if s = "2026-01-01T00:00:00+00:00" then some () else none
  mesmoInstante _ _ := true
  repr _ := "None"
  uuid_str := by decide
  uuid_null := by decide
  fromisoformat_isoformat := instante_lido
  mesmoInstante_self := instante_mesmo

/-- What a column keeps of a value: the value itself when it holds it. -/
def manter : Tipo → Objeto Unit Unit → Objeto Unit Unit
  | .uuid, .uuid i => .uuid i
  | .dateTime, .data d => .data d
  | .enum valores, .str s => if s ∈ valores then .str s else .null
  | .outro, .uuid _ | .outro, .data _ => .null
  | .outro, v => v
  | _, _ => .null

theorem guarda_manter (tipo : Tipo) (v : Objeto Unit Unit) : tipo.Guarda (manter tipo v) := by
  cases tipo with
  | enum valores =>
    cases v with
    | str s =>
      by_cases hs : s ∈ valores
      · simp [manter, Tipo.Guarda, hs]
      · simp [manter, Tipo.Guarda, hs]
    | _ => trivial
  | _ => cases v <;> trivial

/-- A database without a constraint beside the primary key. -/
def servidorSimples : Servidor Unit Unit where
  guarda coluna v := manter coluna.tipo v
  padrao _ := .null
  viola _ _ _ := false
  guarda_tipo coluna v := guarda_manter coluna.tipo v
  padrao_tipo _ := trivial
  guarda_uuid coluna i h := by
    rw [h]
    rfl

/-- An object that is stored. -/
def objetoGuardado : Registro Unit Unit :=
  [("id", .uuid ()), ("created_at", .data ()), ("updated_at", .data ()), ("deleted_at", .null),
    ("clid", .uuid ()), ("accessibility", .str "active"), ("revision_status", .str "current")]

def acervoDeUm : Acervo Unit Unit where
  linhas nome := if nome = "cognitive_objects" then [objetoGuardado] else []
  conformes := by
    intro tab htab linha hlinha
    have hnome : tab.nome = "cognitive_objects" := by
      by_contra hother
      rw [if_neg hother] at hlinha
      cases hlinha
    rw [if_pos hnome, List.mem_singleton] at hlinha
    have honly : ∀ tab ∈ orderedTables, tab.nome = "cognitive_objects" → tab = cognitiveObjects := by
      decide
    rw [honly tab htab hnome, hlinha]
    have htem : ∀ coluna ∈ cognitiveObjects.colunas, objetoGuardado.tem coluna.nome = true := by
      decide
    refine ⟨htem, ?_, (), rfl⟩
    unfold cognitiveObjects colunasBase
    intro coluna hcoluna
    simp only [List.cons_append, List.nil_append, List.mem_cons, List.not_mem_nil, or_false]
      at hcoluna
    obtain rfl | rfl | rfl | rfl | rfl | rfl | rfl := hcoluna
    · trivial
    · trivial
    · trivial
    · trivial
    · trivial
    · show "active" ∈ ["active", "latent", "inaccessible", "causally_extinct"]
      decide
    · show "current" ∈ ["current", "superseded"]
      decide
  distintas := by
    intro tab _
    by_cases hnome : tab.nome = "cognitive_objects"
    · rw [if_pos hnome]
      exact List.nodup_singleton _
    · rw [if_neg hnome]
      exact List.nodup_nil

/-- The transport form of that object, but with its identifier in capitals. -/
def linhaEmMaiusculas : Registro Unit Unit :=
  ("id", .str "9F1C2B7E-3D4A-4C5B-8E6F-0A1B2C3D4E5F") ::
    (encodeRow textosDeUm objetoGuardado).drop 1

def pacoteEmMaiusculas : Objeto Unit Unit :=
  .obj [("format", .str syncFormat), ("schema_version", .str syncSchemaVersion),
    ("objects", .arr [.obj linhaEmMaiusculas]), ("transformations", .arr []),
    ("causal_histories", .arr []), ("lineage", .arr []), ("provenance", .arr []),
    ("relationships", .arr []), ("causal_events", .arr [])]

/-- A row of the plan has this text for its identifier, and it names an identifier. -/
def Plano.nomeia (plano : Plano Unit Unit) (texto : String) : Bool :=
  plano.any fun entry => entry.1 = cognitiveObjects && entry.2.1.any fun row =>
    idTexto textosDeUm row = texto && idDaLinha textosDeUm row = some ()

end PiaOs.Sync
