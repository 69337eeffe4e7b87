import PiaOs.Support.Checked
import PiaOs.Support.Doubles

/-!
# Tables and their transport form

The tables that make up the cognitive patrimony, in the order of their foreign keys, and
the conversion of their values to and from the texts of a package.
-/

/-! ## Objects of a package

What a package may hold: JSON values, and the identifiers and instants that a caller in
the same process may leave undecoded. Equality is that of Python. -/

namespace PiaOs.Sync

open Support

/-- A Python object of a package, over its identifiers and its instants. -/
inductive Objeto (Id Data : Type)
  | null
  | bool (b : Bool)
  | int (n : ℤ)
  | float (x : Double)
  | str (s : String)
  | uuid (i : Id)
  | data (d : Data)
  | arr (items : List (Objeto Id Data))
  | obj (fields : List (String × Objeto Id Data))

/-- A `dict` with text keys. -/
abbrev Registro (Id Data : Type) : Type := List (String × Objeto Id Data)

/-- The texts of identifiers and instants. Reading back what was written gives the same
value; other texts may be read as well, and `repr` gives the text of anything else. -/
structure Textos (Id Data : Type) where
  str : Id → String
  uuid : String → Option Id
  isoformat : Data → String
  fromisoformat : String → Option Data
  /-- `==` on instants. -/
  mesmoInstante : Data → Data → Bool
  repr : Objeto Id Data → String
  uuid_str : ∀ i, uuid (str i) = some i
  /-- `None` is no identifier. -/
  uuid_null : uuid (repr .null) = none
  fromisoformat_isoformat : ∀ d, fromisoformat (isoformat d) = some d
  mesmoInstante_self : ∀ d, mesmoInstante d d = true

variable {Id Data : Type}

/-- `d.get(key)`. -/
def Registro.get (d : Registro Id Data) (key : String) : Objeto Id Data := (d.lookup key).getD .null

/-- `key in d`. -/
def Registro.tem (d : Registro Id Data) (key : String) : Bool := (d.lookup key).isSome

namespace Objeto

/-- `str(value)`. -/
def texto (t : Textos Id Data) : Objeto Id Data → String
  | .str s => s
  | .uuid i => t.str i
  | v => t.repr v

/-- The number that a value is: to Python a boolean is one. -/
def numero? : Objeto Id Data → Option (ℤ ⊕ Double)
  | .bool b => some (.inl (if b then 1 else 0))
  | .int n => some (.inl n)
  | .float x => some (.inr x)
  | _ => none

/-- `==` on numbers. What is no number equals nothing. -/
def numeroIgual : ℤ ⊕ Double → ℤ ⊕ Double → Bool
  | .inl n, .inl m => n = m
  | .inl n, .inr (.finite q) | .inr (.finite q), .inl n => (n : ℚ) = q
  | .inr (.finite q), .inr (.finite r) => q = r
  | .inr (.infinity a), .inr (.infinity b) => a = b
  | _, _ => false

variable [DecidableEq Id]

mutual

/-- `x == y`. -/
def igual (t : Textos Id Data) : Objeto Id Data → Objeto Id Data → Bool
  | .null, .null => true
  | .str s, .str r => s = r
  | .uuid i, .uuid j => i = j
  | .data d, .data e => t.mesmoInstante d e
  | .arr xs, .arr ys => itensIguais t xs ys
  | .obj a, .obj b => a.length == b.length && camposIguais t a b
  | x, y =>
    match x.numero?, y.numero? with
    | some n, some m => numeroIgual n m
    | _, _ => false

def itensIguais (t : Textos Id Data) : List (Objeto Id Data) → List (Objeto Id Data) → Bool
  | [], [] => true
  | x :: xs, y :: ys => igual t x y && itensIguais t xs ys
  | _, _ => false

/-- Every field of the first has an equal one in the second. -/
def camposIguais (t : Textos Id Data) :
    List (String × Objeto Id Data) → List (String × Objeto Id Data) → Bool
  | [], _ => true
  | (key, x) :: rest, b =>
    (match b.lookup key with
      | some y => igual t x y
      | none => false) && camposIguais t rest b

end

variable {t : Textos Id Data}

/-- Only the text itself equals a text. -/
@[simp] theorem igual_str {x : Objeto Id Data} {s : String} :
    x.igual t (.str s) = true ↔ x = .str s := by
  cases x <;> simp [igual, numero?]

@[simp] theorem igual_null {x : Objeto Id Data} : x.igual t .null = true ↔ x = .null := by
  cases x <;> simp [igual, numero?]

@[simp] theorem igual_uuid {x : Objeto Id Data} {i : Id} :
    x.igual t (.uuid i) = true ↔ x = .uuid i := by
  cases x <;> simp [igual, numero?]

theorem igual_data_self {d : Data} : (Objeto.data d : Objeto Id Data).igual t (.data d) = true := by
  simp [igual, t.mesmoInstante_self]

end Objeto

end PiaOs.Sync

/-! ## Tables and their transport form -/

namespace PiaOs.Sync

open Support

/-- What the conversion of a value depends on in the type of its column. -/
inductive Tipo
  | uuid
  | dateTime
  | enum (valores : List String)
  | outro
  deriving DecidableEq

structure Coluna where
  nome : String
  tipo : Tipo
  deriving DecidableEq

/-- A table with the section of the package that carries it. -/
structure Tabela where
  nome : String
  secao : String
  colunas : List Coluna
  deriving DecidableEq

/-- The columns that every table has. -/
def colunasBase : List Coluna :=
  [⟨"id", .uuid⟩, ⟨"created_at", .dateTime⟩, ⟨"updated_at", .dateTime⟩]

def cognitiveObjects : Tabela where
  nome := "cognitive_objects"
  secao := "objects"
  colunas := colunasBase ++
    [⟨"deleted_at", .dateTime⟩, ⟨"clid", .uuid⟩,
      ⟨"accessibility", .enum ["active", "latent", "inaccessible", "causally_extinct"]⟩,
      ⟨"revision_status", .enum ["current", "superseded"]⟩]

def transformationRecords : Tabela where
  nome := "transformation_records"
  secao := "transformations"
  colunas := colunasBase ++
    [⟨"operation_type", .outro⟩, ⟨"transformation_kind", .enum ["revision", "derivation"]⟩,
      ⟨"input_refs", .outro⟩, ⟨"output_refs", .outro⟩, ⟨"actor_ref", .uuid⟩,
      ⟨"policy_ref", .outro⟩, ⟨"declared_preservations", .outro⟩, ⟨"declared_losses", .outro⟩]

def causalHistories : Tabela where
  nome := "causal_histories"
  secao := "causal_histories"
  colunas := colunasBase ++ [⟨"subject_coid", .uuid⟩]

def lineageEdges : Tabela where
  nome := "lineage_edges"
  secao := "lineage"
  colunas := colunasBase ++
    [⟨"parent_coid", .uuid⟩, ⟨"child_coid", .uuid⟩,
      ⟨"relation_type",
        .enum ["parent", "child", "branch", "merge", "derived_from", "transformed_from"]⟩]

def provenanceRecords : Tabela where
  nome := "provenance_records"
  secao := "provenance"
  colunas := colunasBase ++
    [⟨"coid", .uuid⟩, ⟨"source_type", .enum ["human", "agent", "import", "system"]⟩,
      ⟨"source_ref", .outro⟩, ⟨"actor_type", .enum ["human", "agent", "system"]⟩,
      ⟨"actor_id", .outro⟩, ⟨"provider_id", .outro⟩, ⟨"model_id", .outro⟩,
      ⟨"session_id", .outro⟩, ⟨"correlation_id", .outro⟩, ⟨"trace_id", .outro⟩,
      ⟨"evidence_refs", .outro⟩, ⟨"orchestration_run_id", .outro⟩, ⟨"agent_role", .outro⟩,
      ⟨"agent_instance_id", .outro⟩, ⟨"agent_sequence", .outro⟩,
      ⟨"parent_agent_output_ref", .outro⟩]

def relationships : Tabela where
  nome := "relationships"
  secao := "relationships"
  colunas := colunasBase ++
    [⟨"source_coid", .uuid⟩, ⟨"target_coid", .uuid⟩,
      ⟨"relationship_type",
        .enum ["related_to", "references", "supports", "contradicts", "depends_on"]⟩,
      ⟨"retired_at", .dateTime⟩]

def causalHistoryEvents : Tabela where
  nome := "causal_history_events"
  secao := "causal_events"
  colunas := colunasBase ++
    [⟨"history_id", .uuid⟩,
      ⟨"event_type", .enum ["created", "transformed", "compared", "accessed"]⟩,
      ⟨"actor_ref", .uuid⟩, ⟨"payload_ref", .outro⟩, ⟨"predecessor_event_id", .uuid⟩,
      ⟨"occurred_at", .dateTime⟩]

/-- `ordered_tables`, with `SECTION_BY_TABLE`. -/
def orderedTables : List Tabela :=
  [cognitiveObjects, transformationRecords, causalHistories, lineageEdges, provenanceRecords,
    relationships, causalHistoryEvents]

/-- Every table has its own name and section, its columns are distinct, and one of them
is the identifier. -/
structure Tabela.BemFormada (tab : Tabela) : Prop where
  id : ⟨"id", .uuid⟩ ∈ tab.colunas
  distintas : (tab.colunas.map (·.nome)).Nodup

theorem bemFormada_of_mem {tab : Tabela} (h : tab ∈ orderedTables) : tab.BemFormada := by
  have hall : ∀ tab ∈ orderedTables,
      ⟨"id", .uuid⟩ ∈ tab.colunas ∧ (tab.colunas.map (·.nome)).Nodup := by decide
  exact ⟨(hall tab h).1, (hall tab h).2⟩

theorem orderedTables_distinct :
    (orderedTables.map (·.nome)).Nodup ∧ (orderedTables.map (·.secao)).Nodup := by decide

variable {Id Data : Type}

/-- `encode_value`. -/
def encodeValue (t : Textos Id Data) : Objeto Id Data → Objeto Id Data
  | .uuid i => .str (t.str i)
  | .data d => .str (t.isoformat d)
  | v => v

/-- `encode_row`. -/
def encodeRow (t : Textos Id Data) (row : Registro Id Data) : Registro Id Data :=
  row.map fun field => (field.1, encodeValue t field.2)

/-- `decode_value`; nothing where the conversion raises. -/
def decodeValue (t : Textos Id Data) (coluna : Coluna) (value : Objeto Id Data) :
    Option (Objeto Id Data) :=
  match value, coluna.tipo with
  | .null, _ => some .null
  | .uuid i, .uuid => some (.uuid i)
  | v, .uuid => (t.uuid (v.texto t)).map .uuid
  | .data d, .dateTime => some (.data d)
  | v, .dateTime => (t.fromisoformat (v.texto t)).map .data
  | .str s, .enum valores => if s ∈ valores then some (.str s) else none
  | _, .enum _ => none
  | v, .outro => some v

/-- A value that a column of the type holds. -/
def Tipo.Guarda : Tipo → Objeto Id Data → Prop
  | _, .null => True
  | .uuid, .uuid _ => True
  | .dateTime, .data _ => True
  | .enum valores, .str s => s ∈ valores
  | .outro, .uuid _ | .outro, .data _ => False
  | .outro, _ => True
  | _, _ => False

/-- A row that the table holds. -/
structure Conforme (tab : Tabela) (linha : Registro Id Data) : Prop where
  colunas : ∀ coluna ∈ tab.colunas, linha.tem coluna.nome = true
  tipos : ∀ coluna ∈ tab.colunas, coluna.tipo.Guarda (linha.get coluna.nome)
  id : ∃ i, linha.get "id" = .uuid i

/-- The rows of each table, in the order in which they are read. -/
abbrev Banco (Id Data : Type) : Type := String → List (Registro Id Data)

/-- A store whose rows fit their tables, with one row for each identifier. -/
structure Acervo (Id Data : Type) where
  linhas : Banco Id Data
  conformes : ∀ tab ∈ orderedTables, ∀ linha ∈ linhas tab.nome, Conforme tab linha
  distintas : ∀ tab ∈ orderedTables, ((linhas tab.nome).map (·.get "id")).Nodup

/-- Changing the values of a table of fields changes what is looked up in it. -/
theorem lookup_map_value {α β : Type} {g : α → β} {fields : List (String × α)} {key : String} :
    (fields.map fun field => (field.1, g field.2)).lookup key = (fields.lookup key).map g := by
  induction fields with
  | nil => rfl
  | cons field rest ih =>
    obtain ⟨name, value⟩ := field
    by_cases hkey : key = name
    · simp [hkey]
    · have hne : (key == name) = false := by simpa using hkey
      simp only [List.map_cons, List.lookup_cons, hne]
      exact ih

@[simp] theorem get_encodeRow {t : Textos Id Data} {row : Registro Id Data} {key : String} :
    (encodeRow t row).get key = encodeValue t (row.get key) := by
  unfold encodeRow Registro.get
  rw [lookup_map_value]
  cases row.lookup key <;> rfl

@[simp] theorem tem_encodeRow {t : Textos Id Data} {row : Registro Id Data} {key : String} :
    (encodeRow t row).tem key = row.tem key := by
  unfold encodeRow Registro.tem
  rw [lookup_map_value]
  cases row.lookup key <;> rfl

variable {t : Textos Id Data}

/-- A stored value is read back from its transport form. -/
theorem decodeValue_encodeValue {coluna : Coluna} {v : Objeto Id Data}
    (h : coluna.tipo.Guarda v) : decodeValue t coluna (encodeValue t v) = some v := by
  unfold decodeValue
  cases hv : v <;> cases htipo : coluna.tipo <;>
    simp_all [encodeValue, Tipo.Guarda, Objeto.texto, t.uuid_str, t.fromisoformat_isoformat]

/-- What has the transport form of a stored value is decoded to an equal value. -/
theorem decodeValue_of_igual [DecidableEq Id] {coluna : Coluna} {x v : Objeto Id Data}
    (hguarda : coluna.tipo.Guarda v) (h : x.igual t (encodeValue t v) = true) :
    ∃ w, decodeValue t coluna x = some w ∧ w.igual t v = true := by
  have hdecode := decodeValue_encodeValue (t := t) hguarda
  cases v with
  | null =>
    have hx : x = .null := Objeto.igual_null.mp h
    rw [hx]
    exact ⟨.null, hdecode, by simp⟩
  | uuid i =>
    have hx : x = .str (t.str i) := Objeto.igual_str.mp h
    rw [hx]
    exact ⟨.uuid i, hdecode, by simp⟩
  | data d =>
    have hx : x = .str (t.isoformat d) := Objeto.igual_str.mp h
    rw [hx]
    exact ⟨.data d, hdecode, Objeto.igual_data_self⟩
  | str s =>
    have hx : x = .str s := Objeto.igual_str.mp h
    rw [hx]
    exact ⟨.str s, hdecode, by simp⟩
  | bool | int | float | arr | obj =>
    cases htipo : coluna.tipo with
    | outro =>
      refine ⟨x, ?_, h⟩
      unfold decodeValue
      rw [htipo]
      cases x <;> rfl
    | uuid | dateTime | enum =>
      rw [htipo] at hguarda
      exact hguarda.elim

end PiaOs.Sync
