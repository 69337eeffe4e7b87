import PiaOs.Piap.Canonical

/-!
# The compact form with sorted keys

The text of a value is that of its document with the fields in the order of their names, so
that texts of objects with the same names determine what stands under each of them.
-/

namespace PiaOs.Piap

open Support

/-! ## The document of a value -/

/-- Fields in the order of their names. -/
def porNome {α : Type} (fields : List (String × α)) : List (String × α) :=
  fields.insertionSort fun a b => a.1 ≤ b.1

mutual

def documentoDe : Json → Documento
  | .null => .nulo
  | .str s => .texto (Texto.of s)
  | .int n => .inteiro n
  | .arr items => .lista (documentosDe items)
  | .obj fields => .campos (porNome (camposDe fields))

def documentosDe : List Json → List Documento
  | [] => []
  | item :: items => documentoDe item :: documentosDe items

def camposDe : List (String × Json) → List (String × Documento)
  | [] => []
  | (name, value) :: fields => (name, documentoDe value) :: camposDe fields

end

theorem documentosDe_eq (items : List Json) : documentosDe items = items.map documentoDe := by
  induction items with
  | nil => rfl
  | cons item items ih => rw [documentosDe, ih, List.map_cons]

theorem camposDe_eq (fields : List (String × Json)) :
    camposDe fields = fields.map fun field => (field.1, documentoDe field.2) := by
  induction fields with
  | nil => rfl
  | cons field fields ih => rw [camposDe, ih, List.map_cons]

theorem texto_of_quote (s : String) : Texto.of (Json.quote s) = aspas (Texto.of s) := by
  unfold Json.quote aspas Texto.of
  simp only [String.toList_append, String.toList_ofList, List.map_append, List.flatMap_map,
    List.map_flatMap]
  rfl

/-- Items between commas. -/
theorem texto_of_itens {textos : List String} {itens : List Documento}
    (h : List.Forall₂ (fun texto item => Texto.of texto = item.dumps) textos itens) :
    Texto.of (",".intercalate textos) = Documento.dumpsItens itens := by
  induction h with
  | nil => rfl
  | cons hfirst hrest ih =>
    cases hrest with
    | nil =>
      rw [String.intercalate_singleton, Documento.dumpsItens]
      exact hfirst
    | cons hsecond hothers =>
      rw [String.intercalate_cons_cons, texto_of_append, texto_of_append, hfirst, ih,
        dumpsItens_cons_cons, List.append_assoc]
      rfl

/-- The text of a field. -/
def CampoEscrito (campo : String × String) (field : String × Documento) : Prop :=
  campo.1 = field.1 ∧ Texto.of campo.2 = field.2.dumps

theorem texto_of_campos {campos : List (String × String)} {fields : List (String × Documento)}
    (h : List.Forall₂ CampoEscrito campos fields) :
    Texto.of (",".intercalate (campos.map fun f => Json.quote f.1 ++ ":" ++ f.2)) =
      Documento.dumpsCampos (fields.map fun field => (Texto.of field.1, field.2)) := by
  have hfield {campo : String × String} {field : String × Documento}
      (h : CampoEscrito campo field) : Texto.of (Json.quote campo.1 ++ ":" ++ campo.2) =
        aspas (Texto.of field.1) ++ .char ':' :: field.2.dumps := by
    rw [texto_of_append, texto_of_append, texto_of_quote, h.1, h.2, List.append_assoc]
    rfl
  induction h with
  | nil => rfl
  | cons hfirst hrest ih =>
    cases hrest with
    | nil =>
      rw [List.map_cons, List.map_nil, String.intercalate_singleton, hfield hfirst]
      rfl
    | cons hsecond hothers =>
      simp only [List.map_cons] at ih ⊢
      rw [String.intercalate_cons_cons, texto_of_append, texto_of_append, hfield hfirst, ih,
        dumpsCampos_cons_cons, List.append_assoc (_ ++ _)]
      rfl

/-- Fields are written in the order of their names. -/
theorem camposEscritos_porNome {campos : List (String × String)}
    {fields : List (String × Documento)} (h : List.Forall₂ CampoEscrito campos fields) :
    List.Forall₂ CampoEscrito (Json.sortFields campos) (porNome fields) := by
  have hinsert {campo : String × String} {field : String × Documento}
      {campos : List (String × String)} {fields : List (String × Documento)}
      (hfield : CampoEscrito campo field) (h : List.Forall₂ CampoEscrito campos fields) :
      List.Forall₂ CampoEscrito (campos.orderedInsert (fun a b => a.1 ≤ b.1) campo)
        (fields.orderedInsert (fun a b => a.1 ≤ b.1) field) := by
    induction h with
    | nil => exact .cons hfield .nil
    | cons hfirst hrest ih =>
      rw [List.orderedInsert_cons, List.orderedInsert_cons]
      simp only [hfield.1, hfirst.1]
      split
      · exact .cons hfield (.cons hfirst hrest)
      · exact .cons hfirst ih
  induction h with
  | nil => exact .nil
  | cons hfirst hrest ih => exact hinsert hfirst ih

mutual

/-- The text of a value is that of its document. -/
theorem texto_of_dumps (j : Json) : Texto.of j.dumps = (documentoDe j).dumps := by
  cases j with
  | null => rfl
  | str s => exact texto_of_quote s
  | int n => rfl
  | arr items =>
    rw [Json.dumps, documentoDe, Documento.dumps, texto_of_append, texto_of_append,
      texto_of_itens (itensEscritos items)]
    rfl
  | obj fields =>
    rw [Json.dumps, documentoDe, Documento.campos, Documento.dumps, texto_of_append,
      texto_of_append, texto_of_campos (camposEscritos_porNome (camposEscritos fields))]
    rfl

theorem itensEscritos (items : List Json) :
    List.Forall₂ (fun texto item => Texto.of texto = item.dumps) (Json.dumpsItems items)
      (documentosDe items) := by
  cases items with
  | nil => exact .nil
  | cons item items => exact .cons (texto_of_dumps item) (itensEscritos items)

theorem camposEscritos (fields : List (String × Json)) :
    List.Forall₂ CampoEscrito (Json.dumpsFields fields) (camposDe fields) := by
  cases fields with
  | nil => exact .nil
  | cons field fields =>
    obtain ⟨name, value⟩ := field
    exact .cons ⟨rfl, texto_of_dumps value⟩ (camposEscritos fields)

end

/-! ## What a text determines -/

variable {niveis : ℕ} {fields fields' : List (String × Json)}

theorem perm_porNome {α : Type} (campos : List (String × α)) : (porNome campos).Perm campos :=
  List.perm_insertionSort _ _

theorem legivel_documentoDe_obj (hnames : (fields.map Prod.fst).Nodup)
    (h : ∀ field ∈ fields, (documentoDe field.2).Legivel niveis) :
    (documentoDe (.obj fields)).Legivel (niveis + 1) := by
  have hperm := perm_porNome (camposDe fields)
  rw [documentoDe]
  refine legivel_campos ?_ fun field hfield => ?_
  · rw [(hperm.map Prod.fst).nodup_iff, camposDe_eq, List.map_map]
    exact hnames
  · rw [hperm.mem_iff, camposDe_eq] at hfield
    obtain ⟨field', hfield', rfl⟩ := List.mem_map.mp hfield
    exact h field' hfield'

theorem legivel_documentoDe_arr {items : List Json}
    (h : ∀ item ∈ items, (documentoDe item).Legivel niveis) :
    (documentoDe (.arr items)).Legivel (niveis + 1) := by
  rw [documentoDe, documentosDe_eq]
  exact legivel_lista (List.forall_mem_map.mpr h)

/-- Documents of objects are told apart by their fields. -/
theorem perm_of_documentoDe_obj (h : documentoDe (.obj fields) = documentoDe (.obj fields')) :
    (camposDe fields).Perm (camposDe fields') := by
  rw [documentoDe, documentoDe] at h
  have hinjective : Function.Injective fun field : String × Documento =>
      (Texto.of field.1, field.2) := by
    rintro ⟨name, value⟩ ⟨name', value'⟩ heq
    obtain ⟨hname, hvalue⟩ := Prod.mk.inj heq
    exact Prod.ext (texto_of_injective hname) hvalue
  have hsorted : porNome (camposDe fields) = porNome (camposDe fields') :=
    hinjective.list_map (Documento.objeto.inj h)
  exact (perm_porNome _).symm.trans (hsorted ▸ perm_porNome _)

/-- With the same names the values are the same, one by one. -/
theorem campos_of_documentoDe_obj (hnames : fields.map Prod.fst = fields'.map Prod.fst)
    (hnodup : (fields.map Prod.fst).Nodup)
    (h : documentoDe (.obj fields) = documentoDe (.obj fields')) :
    camposDe fields = camposDe fields' := by
  have hkeys (fields : List (String × Json)) :
      (camposDe fields).map Prod.fst = fields.map Prod.fst := by
    rw [camposDe_eq, List.map_map]
    rfl
  refine eq_of_perm_of_keys (perm_of_documentoDe_obj h) ?_ ?_
  · rw [hkeys, hkeys, hnames]
  · rwa [hkeys]

/-- Values that are written alike have one document. -/
theorem documentoDe_of_dumps {j j' : Json} (h : (documentoDe j).Legivel niveis)
    (h' : (documentoDe j').Legivel niveis) (htext : j.dumps = j'.dumps) :
    documentoDe j = documentoDe j' := by
  refine dumps_injective h h' ?_
  rw [← texto_of_dumps, htext, texto_of_dumps]

end PiaOs.Piap
