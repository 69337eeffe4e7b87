import PiaOs.Sync.Classes

/-!
# The plan of an import

What the classification of a section puts together from the classes of its rows, and the
plan of a package as the classification of each of its sections.
-/

namespace PiaOs.Sync

open Support

variable {Id Data : Type}

/-- A table, the rows of its section and what they were taken for. -/
abbrev Plano (Id Data : Type) : Type :=
  List (Tabela × List (Registro Id Data) × Triagem Id Data)

/-! ## Decoding a row -/

theorem find?_nome {tab : Tabela} (hform : tab.BemFormada) {coluna : Coluna}
    (hcoluna : coluna ∈ tab.colunas) :
    tab.colunas.find? (fun c => c.nome = coluna.nome) = some coluna := by
  cases hfind : tab.colunas.find? fun c => c.nome = coluna.nome with
  | none => simpa using List.find?_eq_none.mp hfind coluna hcoluna
  | some outra =>
    have hmem := List.mem_of_find?_eq_some hfind
    have hnome : outra.nome = coluna.nome := by simpa using List.find?_some hfind
    rw [List.inj_on_of_nodup_map hform.distintas hmem hcoluna hnome]

theorem decodeRow_cons {t : Textos Id Data} {tab : Tabela} {field : String × Objeto Id Data}
    {row decoded : Registro Id Data} (h : decodeRow t tab (field :: row) = .ok decoded) :
    ∃ value rest, decodeField t tab field = .ok (field.1, value) ∧
      decodeRow t tab row = .ok rest ∧ decoded = (field.1, value) :: rest := by
  unfold decodeRow at h
  rw [List.mapM_cons] at h
  obtain ⟨decodedField, hfield, h⟩ := bind_eq_ok.mp h
  obtain ⟨rest, hrest, h⟩ := bind_eq_ok.mp h
  have hname : decodedField.1 = field.1 := by
    unfold decodeField at hfield
    split at hfield
    · cases hfield
    · split at hfield
      · cases hfield
      · rw [← Except.ok.inj hfield]
  refine ⟨decodedField.2, rest, ?_, hrest, ?_⟩
  · rw [hfield, ← hname]
  · rw [← Except.ok.inj h, ← hname]

/-- Decoding keeps the fields of a row. -/
theorem tem_decodeRow {t : Textos Id Data} {tab : Tabela} {row decoded : Registro Id Data}
    (h : decodeRow t tab row = .ok decoded) {key : String} : decoded.tem key = row.tem key := by
  unfold Registro.tem
  induction row generalizing decoded with
  | nil =>
    have hnil : [] = decoded := Except.ok.inj h
    rw [← hnil]
  | cons field row ih =>
    obtain ⟨value, rest, -, hrest, rfl⟩ := decodeRow_cons h
    obtain ⟨name, raw⟩ := field
    by_cases hkey : key = name
    · simp [hkey]
    · have hne : (key == name) = false := by simpa using hkey
      simp only [List.lookup_cons, hne]
      exact ih hrest

/-- Each column gets the decoded value of its field, and `None` without one. -/
theorem get_decodeRow {t : Textos Id Data} {tab : Tabela} (hform : tab.BemFormada)
    {row decoded : Registro Id Data} (h : decodeRow t tab row = .ok decoded) {coluna : Coluna}
    (hcoluna : coluna ∈ tab.colunas) :
    decodeValue t coluna (row.get coluna.nome) = some (decoded.get coluna.nome) := by
  unfold Registro.get
  induction row generalizing decoded with
  | nil =>
    have hnil : [] = decoded := Except.ok.inj h
    rw [← hnil]
    rfl
  | cons field row ih =>
    obtain ⟨value, rest, hfield, hrest, rfl⟩ := decodeRow_cons h
    obtain ⟨name, raw⟩ := field
    by_cases hkey : coluna.nome = name
    · unfold decodeField at hfield
      simp only [← hkey, find?_nome hform hcoluna] at hfield
      split at hfield
      · cases hfield
      · next value' hvalue =>
        have heq : value' = value := congrArg Prod.snd (Except.ok.inj hfield)
        simp [← hkey, hvalue, heq]
    · have hne : (coluna.nome == name) = false := by simpa using hkey
      simp only [List.lookup_cons, hne]
      exact ih hrest

/-- A decoded row has the identifier that it names. -/
theorem idDe_decodeRow {t : Textos Id Data} {tab : Tabela} (hform : tab.BemFormada)
    {row decoded : Registro Id Data} (h : decodeRow t tab row = .ok decoded) {i : Id}
    (hid : idDaLinha t row = some i) : decoded.idDe = some i := by
  have hvalue := get_decodeRow hform h hform.id
  unfold idDaLinha idTexto at hid
  unfold decodeValue at hvalue
  rw [Registro.idDe_eq_some]
  cases hraw : row.get "id" with
  | null =>
    have hnone : t.uuid (Objeto.texto t (.null : Objeto Id Data)) = none := t.uuid_null
    rw [hraw, hnone] at hid
    cases hid
  | uuid j =>
    have heq : j = i := by
      have hself : t.uuid (t.str j) = some i := by simpa [hraw, Objeto.texto] using hid
      exact Option.some.inj ((t.uuid_str j).symm.trans hself)
    rw [← heq]
    simpa [hraw] using hvalue.symm
  | bool | int | float | str | data | arr | obj =>
    rw [hraw] at hid
    simp only [hraw, hid, Option.map_some] at hvalue
    exact (Option.some.inj hvalue).symm

/-! ## Sections -/

variable [DecidableEq Id] {t : Textos Id Data}

/-- A section put together from the classes of its rows. -/
structure Separada (t : Textos Id Data) (tab : Tabela) (classes : Registro Id Data → Classe)
    (rows : List (Registro Id Data)) (triagem : Triagem Id Data) : Prop where
  novas : List.Forall₂ (fun row decoded => decodeRow t tab row = .ok decoded)
    (rows.filter (classes · = .nova)) triagem.novas
  conflitos : triagem.conflitos.map (·.incoming) = rows.filter (classes · = .conflito)
  ignoradas : triagem.ignoradas = rows.countP (classes · = .identica)

omit [DecidableEq Id] in
/-- A decoded row comes from a row of the section. -/
theorem Separada.exists_row {tab : Tabela} {classes : Registro Id Data → Classe}
    {rows : List (Registro Id Data)} {triagem : Triagem Id Data}
    (h : Separada t tab classes rows triagem) {decoded : Registro Id Data}
    (hdecoded : decoded ∈ triagem.novas) :
    ∃ row ∈ rows, decodeRow t tab row = .ok decoded := by
  have hall : ∀ {some_ novas : List (Registro Id Data)},
      List.Forall₂ (fun row decoded => decodeRow t tab row = .ok decoded) some_ novas →
      decoded ∈ novas → ∃ row ∈ some_, decodeRow t tab row = .ok decoded := by
    intro some_ novas hpairs
    induction hpairs with
    | nil =>
      intro hmem
      cases hmem
    | @cons row other some_ novas hrow _ ih =>
      intro hmem
      obtain rfl | hmem := List.mem_cons.mp hmem
      · exact ⟨row, List.mem_cons_self, hrow⟩
      · obtain ⟨found, hfound, hok⟩ := ih hmem
        exact ⟨found, List.mem_cons_of_mem _ hfound, hok⟩
  obtain ⟨row, hrow, hok⟩ := hall h.novas hdecoded
  exact ⟨row, List.mem_of_mem_filter hrow, hok⟩

theorem separada_of_classifyRows {tab : Tabela} {existing : List (String × Registro Id Data)}
    {rows : List (Registro Id Data)} {triagem : Triagem Id Data}
    (h : classifyRows t tab existing rows = .ok triagem) :
    Separada t tab (classe t existing) rows triagem := by
  induction rows generalizing triagem with
  | nil =>
    have heq := Except.ok.inj h
    rw [← heq]
    exact ⟨.nil, rfl, rfl⟩
  | cons row rest ih =>
    unfold classifyRows at h
    cases hlookup : existing.lookup (idTexto t row) with
    | none =>
      rw [hlookup] at h
      obtain ⟨decoded, hdecoded, h⟩ := bind_eq_ok.mp h
      obtain ⟨resto, hresto, h⟩ := bind_eq_ok.mp h
      have hclasse : classe t existing row = .nova := by simp [classe, hlookup]
      have hrest := ih hresto
      rw [← Except.ok.inj h]
      refine ⟨?_, ?_, ?_⟩
      · rw [List.filter_cons_of_pos (by simp [hclasse])]
        exact .cons hdecoded hrest.novas
      · rw [List.filter_cons_of_neg (by simp [hclasse])]
        exact hrest.conflitos
      · rw [List.countP_cons_of_neg (by simp [hclasse])]
        exact hrest.ignoradas
    | some current =>
      rw [hlookup] at h
      obtain ⟨resto, hresto, h⟩ := bind_eq_ok.mp h
      have hrest := ih hresto
      by_cases hsame : sameRepresentation t row current = true
      · rw [if_pos hsame] at h
        have hclasse : classe t existing row = .identica := by simp [classe, hlookup, hsame]
        rw [← Except.ok.inj h]
        refine ⟨?_, ?_, ?_⟩
        · rw [List.filter_cons_of_neg (by simp [hclasse])]
          exact hrest.novas
        · rw [List.filter_cons_of_neg (by simp [hclasse])]
          exact hrest.conflitos
        · rw [List.countP_cons_of_pos (by simp [hclasse])]
          exact congrArg (· + 1) hrest.ignoradas
      · rw [if_neg hsame] at h
        have hclasse : classe t existing row = .conflito := by simp [classe, hlookup, hsame]
        rw [← Except.ok.inj h]
        refine ⟨?_, ?_, ?_⟩
        · rw [List.filter_cons_of_neg (by simp [hclasse])]
          exact hrest.novas
        · rw [List.filter_cons_of_pos (by simp [hclasse]), List.map_cons]
          exact congrArg (row :: ·) hrest.conflitos
        · rw [List.countP_cons_of_neg (by simp [hclasse])]
          exact hrest.ignoradas

theorem classify_ok {banco : Banco Id Data} {tab : Tabela} {rows : List (Registro Id Data)}
    {triagem : Triagem Id Data} (h : classify t banco tab rows = .ok triagem) :
    (∀ row ∈ rows, idDaLinha t row ≠ none) ∧
      Separada t tab (classeDe t banco tab rows) rows triagem := by
  unfold classify at h
  cases rows with
  | nil =>
    have heq := Except.ok.inj h
    rw [← heq]
    exact ⟨fun row hrow => (List.not_mem_nil hrow).elim, ⟨.nil, rfl, rfl⟩⟩
  | cons row rest =>
    simp only [List.isEmpty_cons, Bool.false_eq_true, if_false] at h
    split at h
    · cases h
    · next hids =>
      refine ⟨fun other hother hnone => hids ?_, separada_of_classifyRows h⟩
      exact List.any_eq_true.mpr ⟨other, hother, by rw [hnone]; rfl⟩

/-- Where every row is stored as it stands, nothing is left to do. -/
theorem classify_identicas {banco : Banco Id Data} {tab : Tabela} {rows : List (Registro Id Data)}
    (hids : ∀ row ∈ rows, idDaLinha t row ≠ none)
    (h : ∀ row ∈ rows, classeDe t banco tab rows row = .identica) :
    classify t banco tab rows = .ok ⟨[], [], rows.length⟩ := by
  have hrows : ∀ (existing : List (String × Registro Id Data)) (some_ : List (Registro Id Data)),
      (∀ row ∈ some_, classe t existing row = .identica) →
      classifyRows t tab existing some_ = .ok ⟨[], [], some_.length⟩ := by
    intro existing some_ hsame
    induction some_ with
    | nil => rfl
    | cons row rest ih =>
      have hrow := hsame row List.mem_cons_self
      have hrest := ih fun other hother => hsame other (List.mem_cons_of_mem _ hother)
      unfold classifyRows
      unfold classe at hrow
      split at hrow
      · cases hrow
      · next current hlookup =>
        split at hrow
        · next hrep => simp [hlookup, hrest, hrep, pure, Except.pure]
        · cases hrow
  unfold classify
  cases rows with
  | nil => rfl
  | cons row rest =>
    have hany : ((row :: rest).any fun row => (idDaLinha t row).isNone) = false := by
      rw [List.any_eq_false]
      intro other hother
      simpa [Option.isNone_iff_eq_none] using hids other hother
    simp only [List.isEmpty_cons, Bool.false_eq_true, if_false, hany]
    exact hrows _ _ h

/-! ## Packages -/

theorem planejar_ok {banco : Banco Id Data} {fields : Registro Id Data} {tabs : List Tabela}
    {plano : Plano Id Data} (h : planejar t banco fields tabs = .ok plano) :
    plano.map (·.1) = tabs ∧ ∀ entry ∈ plano,
      sectionRows fields entry.1.secao = .ok entry.2.1 ∧
        classify t banco entry.1 entry.2.1 = .ok entry.2.2 := by
  induction tabs generalizing plano with
  | nil =>
    have heq : [] = plano := Except.ok.inj h
    rw [← heq]
    exact ⟨rfl, fun entry hentry => (List.not_mem_nil hentry).elim⟩
  | cons tab tabs ih =>
    unfold planejar at h
    obtain ⟨rows, hrows, h⟩ := bind_eq_ok.mp h
    obtain ⟨triagem, htriagem, h⟩ := bind_eq_ok.mp h
    obtain ⟨resto, hresto, h⟩ := bind_eq_ok.mp h
    obtain ⟨htabs, hentries⟩ := ih hresto
    rw [← Except.ok.inj h]
    refine ⟨by rw [List.map_cons, htabs], fun entry hentry => ?_⟩
    obtain rfl | hentry := List.mem_cons.mp hentry
    · exact ⟨hrows, htriagem⟩
    · exact hentries entry hentry

/-- On another store the rows of a plan are the same, and each section is classified
again. -/
theorem planejar_again {banco banco' : Banco Id Data} {fields : Registro Id Data}
    {tabs : List Tabela} {plano : Plano Id Data}
    (novo : Tabela × List (Registro Id Data) × Triagem Id Data → Triagem Id Data)
    (h : planejar t banco fields tabs = .ok plano)
    (hagain : ∀ entry ∈ plano, classify t banco' entry.1 entry.2.1 = .ok (novo entry)) :
    planejar t banco' fields tabs =
      .ok (plano.map fun entry => (entry.1, entry.2.1, novo entry)) := by
  induction tabs generalizing plano with
  | nil =>
    have heq : [] = plano := Except.ok.inj h
    rw [← heq]
    rfl
  | cons tab tabs ih =>
    unfold planejar at h
    obtain ⟨rows, hrows, h⟩ := bind_eq_ok.mp h
    obtain ⟨triagem, htriagem, h⟩ := bind_eq_ok.mp h
    obtain ⟨resto, hresto, h⟩ := bind_eq_ok.mp h
    have heq : (tab, rows, triagem) :: resto = plano := Except.ok.inj h
    subst heq
    have hfirst := hagain _ List.mem_cons_self
    have hrest := ih hresto fun entry hentry => hagain entry (List.mem_cons_of_mem _ hentry)
    simp only at hfirst
    unfold planejar
    simp only [hrows, ok_bind, hfirst, hrest]
    rfl

end PiaOs.Sync
