import PiaOs.Sync.Manager

/-!
# What a row is taken for

The class that the code gives to a row, the class that it should have, and exactly when
the two agree: where the identifier and the values of a stored row are spelled as the
store spells them.
-/

namespace PiaOs.Sync

open Support

variable {Id Data : Type}

/-! ## Looking up stored rows -/

/-- The text of an identifier names one identifier. -/
theorem Textos.str_injective {t : Textos Id Data} {i j : Id} (h : t.str i = t.str j) : i = j := by
  have hi := t.uuid_str i
  rw [h, t.uuid_str j] at hi
  exact (Option.some.inj hi).symm

theorem idTexto_of_idDe {t : Textos Id Data} {row : Registro Id Data} {i : Id}
    (h : row.idDe = some i) : idTexto t row = t.str i := by
  unfold idTexto
  rw [Registro.idDe_eq_some.mp h]
  rfl

/-- An identifier of a store belongs to one row. -/
def SemRepeticao (linhas : List (Registro Id Data)) : Prop :=
  ∀ linha ∈ linhas, ∀ outra ∈ linhas, linha.idDe ≠ none → linha.idDe = outra.idDe → linha = outra

theorem semRepeticao_of_nodup {linhas : List (Registro Id Data)}
    (h : (linhas.map (·.get "id")).Nodup) : SemRepeticao linhas := by
  intro linha hlinha outra houtra hsome hsame
  obtain ⟨i, hi⟩ := Option.ne_none_iff_exists'.mp hsome
  have hvalue := Registro.idDe_eq_some.mp hi
  have hother := Registro.idDe_eq_some.mp (hsame ▸ hi)
  exact List.inj_on_of_nodup_map h hlinha houtra (hvalue.trans hother.symm)

theorem mem_of_lookup_eq_some {β : Type} {entries : List (String × β)} {key : String} {value : β}
    (h : entries.lookup key = some value) : (key, value) ∈ entries := by
  obtain ⟨before, after, heq, -⟩ := List.lookup_eq_some_iff.mp h
  rw [heq]
  simp

variable [DecidableEq Id] {t : Textos Id Data}

/-- What is found under a text is the transport form of the one row with that text. -/
theorem lookup_readRowsById {banco : Banco Id Data} {tab : Tabela} {ids : List Id}
    {linha : Registro Id Data} {i : Id} (hunique : SemRepeticao (banco tab.nome))
    (hlinha : linha ∈ banco tab.nome) (hid : linha.idDe = some i) (hi : i ∈ ids) :
    (readRowsById t banco tab ids).lookup (t.str i) = some (encodeRow t linha) := by
  have hmem : (t.str i, encodeRow t linha) ∈ readRowsById t banco tab ids := by
    refine List.mem_map.mpr ⟨linha, List.mem_filter.mpr ⟨hlinha, ?_⟩, ?_⟩
    · simp [hid, hi]
    · exact congrArg (·, encodeRow t linha) (idTexto_of_idDe hid)
  cases hlookup : (readRowsById t banco tab ids).lookup (t.str i) with
  | none =>
    have hnone := List.lookup_eq_none_iff.mp hlookup _ hmem
    simp at hnone
  | some current =>
    obtain ⟨outra, houtra, heq⟩ := List.mem_map.mp (mem_of_lookup_eq_some hlookup)
    obtain ⟨hin, hids⟩ := List.mem_filter.mp houtra
    obtain ⟨j, hj, -⟩ := (Option.any_eq_true _ _).mp hids
    have htext : t.str j = t.str i := (idTexto_of_idDe hj).symm.trans (congrArg Prod.fst heq)
    have hsame : linha = outra := by
      refine hunique linha hlinha outra hin (by simp [hid]) ?_
      rw [hid, hj, Textos.str_injective htext]
    rw [hsame]
    exact congrArg some (congrArg Prod.snd heq).symm

/-- A text is found only where a row has it. -/
theorem exists_of_lookup_readRowsById {banco : Banco Id Data} {tab : Tabela} {ids : List Id}
    {text : String} {current : Registro Id Data}
    (h : (readRowsById t banco tab ids).lookup text = some current) :
    ∃ linha ∈ banco tab.nome, ∃ i, linha.idDe = some i ∧ t.str i = text ∧
      current = encodeRow t linha := by
  obtain ⟨linha, hlinha, heq⟩ := List.mem_map.mp (mem_of_lookup_eq_some h)
  obtain ⟨hin, hids⟩ := List.mem_filter.mp hlinha
  obtain ⟨i, hi, -⟩ := (Option.any_eq_true _ _).mp hids
  exact ⟨linha, hin, i, hi, (idTexto_of_idDe hi).symm.trans (congrArg Prod.fst heq),
    (congrArg Prod.snd heq).symm⟩

/-! ## Classes -/

inductive Classe
  | nova
  | identica
  | conflito
  deriving DecidableEq

/-- What the loop of `_classify` takes a row for. -/
def classe (t : Textos Id Data) (existing : List (String × Registro Id Data))
    (row : Registro Id Data) : Classe :=
  match existing.lookup (idTexto t row) with
  | none => .nova
  | some current => if sameRepresentation t row current then .identica else .conflito

/-- What a row of a section is taken for. -/
def classeDe (t : Textos Id Data) (banco : Banco Id Data) (tab : Tabela)
    (rows : List (Registro Id Data)) (row : Registro Id Data) : Classe :=
  classe t (readRowsById t banco tab (rows.filterMap (idDaLinha t))) row

/-- The row gives every column the value that the stored row has. -/
def MesmosValores (t : Textos Id Data) (tab : Tabela) (row linha : Registro Id Data) : Prop :=
  ∀ coluna ∈ tab.colunas, ∃ value, decodeValue t coluna (row.get coluna.nome) = some value ∧
    value.igual t (linha.get coluna.nome) = true

/-- The class that a row should have, by its identifier and its values. -/
def ClasseDevida (t : Textos Id Data) (banco : Banco Id Data) (tab : Tabela)
    (row : Registro Id Data) : Classe → Prop
  | .nova => ∀ linha ∈ banco tab.nome, linha.idDe ≠ idDaLinha t row
  | .identica =>
    ∃ linha ∈ banco tab.nome, linha.idDe = idDaLinha t row ∧ MesmosValores t tab row linha
  | .conflito =>
    ∃ linha ∈ banco tab.nome, linha.idDe = idDaLinha t row ∧ ¬MesmosValores t tab row linha

/-- Where the row is stored, its identifier is spelled as the store spells it; and when it
has the stored values, they are spelled as the store spells them, with no other field. -/
def BemEscrita (t : Textos Id Data) (banco : Banco Id Data) (tab : Tabela)
    (row : Registro Id Data) : Prop :=
  ∀ linha ∈ banco tab.nome, linha.idDe = idDaLinha t row →
    idTexto t row = idTexto t linha ∧
      (MesmosValores t tab row linha → sameRepresentation t row (encodeRow t linha) = true)

omit [DecidableEq Id] in
theorem tem_iff_mem {row : Registro Id Data} {key : String} :
    row.tem key = true ↔ key ∈ row.map (·.1) := by
  unfold Registro.tem
  induction row with
  | nil => simp
  | cons field rest ih =>
    obtain ⟨name, value⟩ := field
    by_cases hkey : key = name
    · simp [hkey]
    · have hne : (key == name) = false := by simpa using hkey
      rw [List.lookup_cons, hne]
      simp [hkey, ih]

/-- One representation means the same values. -/
theorem mesmosValores_of_sameRepresentation {tab : Tabela} {row linha : Registro Id Data}
    (hconforme : Conforme tab linha)
    (h : sameRepresentation t row (encodeRow t linha) = true) : MesmosValores t tab row linha := by
  intro coluna hcoluna
  have hkey : coluna.nome ∈ (encodeRow t linha).map (·.1) := by
    rw [← tem_iff_mem, tem_encodeRow]
    exact hconforme.colunas coluna hcoluna
  have hsame := List.all_eq_true.mp h coluna.nome (List.mem_append_right _ hkey)
  rw [get_encodeRow] at hsame
  exact decodeValue_of_igual (hconforme.tipos coluna hcoluna) hsame

/-- A row is taken for what it is exactly when it is spelled as the store spells it. -/
theorem classeDevida_iff {banco : Banco Id Data} {tab : Tabela} {rows : List (Registro Id Data)}
    {row : Registro Id Data} (hunique : SemRepeticao (banco tab.nome))
    (hconforme : ∀ linha ∈ banco tab.nome, Conforme tab linha) (hrow : row ∈ rows)
    (hid : idDaLinha t row ≠ none) :
    ClasseDevida t banco tab row (classeDe t banco tab rows row) ↔
      BemEscrita t banco tab row := by
  obtain ⟨i, hi⟩ := Option.ne_none_iff_exists'.mp hid
  have hids : i ∈ rows.filterMap (idDaLinha t) := List.mem_filterMap.mpr ⟨row, hrow, hi⟩
  unfold classeDe classe
  cases hlookup : (readRowsById t banco tab (rows.filterMap (idDaLinha t))).lookup
      (idTexto t row) with
  | none =>
    constructor
    · intro hnova linha hlinha hsame
      exact absurd hsame (hnova linha hlinha)
    · intro hescrita linha hlinha hsame
      have hlinhaid : linha.idDe = some i := hsame.trans hi
      have htext : idTexto t row = t.str i :=
        (hescrita linha hlinha hsame).1.trans (idTexto_of_idDe hlinhaid)
      have hfound := lookup_readRowsById (t := t) hunique hlinha hlinhaid hids
      rw [htext, hfound] at hlookup
      cases hlookup
  | some current =>
    obtain ⟨linha, hlinha, j, hj, htext, hcurrent⟩ := exists_of_lookup_readRowsById hlookup
    have hji : idDaLinha t row = some j := by
      unfold idDaLinha
      rw [← htext]
      exact t.uuid_str j
    have honly : ∀ outra ∈ banco tab.nome, outra.idDe = idDaLinha t row → outra = linha := by
      intro outra houtra hsame
      refine (hunique linha hlinha outra houtra (by simp [hj]) ?_).symm
      rw [hj, hsame, hji]
    have hlinhatext : idTexto t row = idTexto t linha := by
      rw [idTexto_of_idDe hj, htext]
    have hvalues : sameRepresentation t row (encodeRow t linha) = true →
        MesmosValores t tab row linha :=
      mesmosValores_of_sameRepresentation (hconforme linha hlinha)
    by_cases hsame : sameRepresentation t row current = true
    · simp only [if_pos hsame]
      rw [hcurrent] at hsame
      constructor
      · intro _ outra houtra hid'
        rw [honly outra houtra hid']
        exact ⟨hlinhatext, fun _ => hsame⟩
      · intro _
        exact ⟨linha, hlinha, hj.trans hji.symm, hvalues hsame⟩
    · simp only [if_neg hsame]
      rw [hcurrent] at hsame
      constructor
      · rintro ⟨outra, houtra, hid', hdiffer⟩ outra' houtra' hid''
        rw [honly outra houtra hid'] at hdiffer
        rw [honly outra' houtra' hid'']
        exact ⟨hlinhatext, fun hequal => absurd hequal hdiffer⟩
      · intro hescrita
        refine ⟨linha, hlinha, hj.trans hji.symm, fun hequal => hsame ?_⟩
        exact (hescrita linha hlinha (hj.trans hji.symm)).2 hequal

end PiaOs.Sync
