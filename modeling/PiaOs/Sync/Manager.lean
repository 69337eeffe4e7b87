import Mathlib.Logic.Function.Basic
import PiaOs.Support.Cycles
import PiaOs.Sync.Schema

/-!
# Importing a package

The envelope, the classification of every row against what is stored, the search for a
causal cycle, and the insertion of what is new. A conflict anywhere means that nothing is
written.
-/

/-! ## Reading and inserting the patrimony

The rows that are there already, the order in which causal events go in, and the insertion
of new rows. Nothing here updates or deletes. -/

namespace PiaOs.Sync

open Support

variable {Id Data : Type}

/-- How an insertion fails: in the client, by a row without a value for a column of the
statement or by the recursion limit, or in the database. -/
inductive Falha
  | statementError
  | recursionError
  | violacao
  deriving DecidableEq

/-- The identifier of a row. -/
def Registro.idDe (row : Registro Id Data) : Option Id :=
  match row.get "id" with
  | .uuid i => some i
  | _ => none

@[simp] theorem Registro.idDe_eq_some {row : Registro Id Data} {i : Id} :
    row.idDe = some i ↔ row.get "id" = .uuid i := by
  unfold Registro.idDe
  cases row.get "id" <;> simp

/-- The database: how a column keeps a value given to it and which value it takes when it
is not given one, and the constraints beside the primary key. -/
structure Servidor (Id Data : Type) where
  guarda : Coluna → Objeto Id Data → Objeto Id Data
  padrao : Coluna → Objeto Id Data
  viola : Banco Id Data → Tabela → Registro Id Data → Bool
  guarda_tipo : ∀ (coluna : Coluna) v, coluna.tipo.Guarda (guarda coluna v)
  padrao_tipo : ∀ coluna : Coluna, coluna.tipo.Guarda (padrao coluna)
  guarda_uuid : ∀ (coluna : Coluna) i, coluna.tipo = .uuid → guarda coluna (.uuid i) = .uuid i

variable [DecidableEq Id]

/-- `read_rows_by_id`. -/
def readRowsById (t : Textos Id Data) (banco : Banco Id Data) (tab : Tabela) (ids : List Id) :
    List (String × Registro Id Data) :=
  ((banco tab.nome).filter fun row => row.idDe.any (· ∈ ids)).map fun row =>
    ((row.get "id").texto t, encodeRow t row)

/-- The predecessor of an event, as a text. -/
def predecessor (t : Textos Id Data) (row : Registro Id Data) : Option String :=
  match row.get "predecessor_event_id" with
  | .null => none
  | v => some (v.texto t)

/-- `str(row["id"])`. -/
def idTexto (t : Textos Id Data) (row : Registro Id Data) : String := (row.get "id").texto t

/-- `read_causal_edges`. -/
def readCausalEdges (t : Textos Id Data) (banco : Banco Id Data) : List (String × Option String) :=
  (banco causalHistoryEvents.nome).map fun row => (idTexto t row, predecessor t row)

/-- `by_id`: of rows with one identifier the last counts. -/
def byId (t : Textos Id Data) (rows : List (Registro Id Data)) (id : String) :
    Option (Registro Id Data) :=
  rows.reverse.find? fun row => idTexto t row = id

/-- `place`: the predecessor first, if it is in the package. Each call takes one level of
the recursion that the interpreter allows, and nothing is returned beyond it. -/
def place (t : Textos Id Data) (rows : List (Registro Id Data)) :
    ℕ → Registro Id Data → List String → List (Registro Id Data) →
      Option (List (Registro Id Data))
  | 0, _, _, _ => none
  | limite + 1, row, guard, ordered =>
    if idTexto t row ∈ ordered.map (idTexto t) ∨ idTexto t row ∈ guard then some ordered
    else
      let antes :=
        match (predecessor t row).bind (byId t rows) with
        | none => some ordered
        | some parent => place t rows limite parent (idTexto t row :: guard) ordered
      antes.map fun ordered =>
        if idTexto t row ∈ ordered.map (idTexto t) then ordered else ordered ++ [row]

/-- The loop of `topologically_ordered_events`. -/
def placeAll (t : Textos Id Data) (rows : List (Registro Id Data)) (limite : ℕ) :
    List (Registro Id Data) → List (Registro Id Data) → Option (List (Registro Id Data))
  | [], ordered => some ordered
  | row :: rest, ordered => (place t rows limite row [] ordered).bind (placeAll t rows limite rest)

/-- `topologically_ordered_events`. -/
def topologicallyOrderedEvents (t : Textos Id Data) (limite : ℕ) (rows : List (Registro Id Data)) :
    Option (List (Registro Id Data)) :=
  placeAll t rows limite rows []

/-- The row that a statement writes: the columns of the statement get their parameters, and
the others what the table declares. -/
def gravar (srv : Servidor Id Data) (tab : Tabela) (chaves : List String)
    (row : Registro Id Data) : Registro Id Data :=
  tab.colunas.map fun coluna =>
    (coluna.nome,
      if coluna.nome ∈ chaves then srv.guarda coluna (row.get coluna.nome)
      else srv.padrao coluna)

/-- One row of a statement. Its identifier must be new to the table. -/
def inserirLinha (srv : Servidor Id Data) (tab : Tabela) (chaves : List String)
    (banco : Banco Id Data) (row : Registro Id Data) : Except Falha (Banco Id Data) :=
  let linha := gravar srv tab chaves row
  if linha.idDe = none ∨ linha.idDe ∈ (banco tab.nome).map (·.idDe) ∨
      srv.viola banco tab linha = true then .error .violacao
  else .ok (Function.update banco tab.nome (banco tab.nome ++ [linha]))

/-- The rows of a statement, one after another. -/
def inserirLinhas (srv : Servidor Id Data) (tab : Tabela) (chaves : List String) :
    List (Registro Id Data) → Banco Id Data → Except Falha (Banco Id Data)
  | [], banco => .ok banco
  | row :: rest, banco => do
    let banco ← inserirLinha srv tab chaves banco row
    inserirLinhas srv tab chaves rest banco

/-- The columns of the statement: those of the first row. -/
def chavesDe (rows : List (Registro Id Data)) : List String :=
  (rows.head?.map fun row => row.map (·.1)).getD []

/-- Every row has a value for every column of the statement. -/
def completas (rows : List (Registro Id Data)) : Bool :=
  rows.all fun row => (chavesDe rows).all row.tem

/-- `insert_rows`. -/
def insertRows (srv : Servidor Id Data) (tab : Tabela) (rows : List (Registro Id Data))
    (banco : Banco Id Data) : Except Falha (Banco Id Data) :=
  if rows.isEmpty then .ok banco
  else if completas rows then inserirLinhas srv tab (chavesDe rows) rows banco
  else .error .statementError

end PiaOs.Sync

/-! ## Importing a package -/

namespace PiaOs.Sync

open Support

variable {Id Data : Type}

def syncFormat : String := "pia-os.cognitive-sync"

def syncSchemaVersion : String := "1.0"

/-- What a `SyncPackageInvalidError` is about. -/
inductive Invalido
  | naoObjeto
  | formatoDesconhecido
  | versaoNaoSuportada
  | secaoAusente (secao : String)
  | secaoNaoLista (secao : String)
  | registroSemId (secao : String)
  | idInvalido (secao : String)
  | campoDesconhecido (key secao : String)
  | valorInvalido (key secao : String)
  | ciclo
  deriving DecidableEq

structure SyncConflict (Id Data : Type) where
  section_ : String
  entityId : Option Id
  incoming : Registro Id Data
  existing : Registro Id Data

structure SyncReport (Id Data : Type) where
  conflicts : List (SyncConflict Id Data)
  applied : List (String × ℕ)
  skipped : List (String × ℕ)
  overwriteCount : ℕ := 0

/-- What `_classify` makes of the rows of a section. -/
structure Triagem (Id Data : Type) where
  novas : List (Registro Id Data)
  conflitos : List (SyncConflict Id Data)
  ignoradas : ℕ

/-- A table with the rows of its section. -/
abbrev Secoes (Id Data : Type) : Type := List (Tabela × List (Registro Id Data))

/-- How an import ends. -/
inductive Desfecho (Id Data : Type)
  | invalido (razao : Invalido)
  | relatorio (report : SyncReport Id Data)
  | falha (falha : Falha)

variable [DecidableEq Id]

/-- `_validate_envelope`: the sections of every table are there and are lists. -/
def validateEnvelope (t : Textos Id Data) (package : Objeto Id Data) :
    Except Invalido (Registro Id Data) :=
  match package with
  | .obj fields =>
    if (Registro.get fields "format").igual t (.str syncFormat) = false then
      .error .formatoDesconhecido
    else if (Registro.get fields "schema_version").igual t (.str syncSchemaVersion) = false then
      .error .versaoNaoSuportada
    else
      let falta := orderedTables.findSome? fun tab =>
        match fields.lookup tab.secao with
        | none => some (Invalido.secaoAusente tab.secao)
        | some (.arr _) => none
        | some _ => some (Invalido.secaoNaoLista tab.secao)
      match falta with
      | some razao => .error razao
      | none => .ok fields
  | _ => .error .naoObjeto

/-- A row is a `dict` with an identifier. -/
def linhaDe (secao : String) : Objeto Id Data → Except Invalido (Registro Id Data)
  | .obj fields =>
    if Registro.tem fields "id" then .ok fields else .error (.registroSemId secao)
  | _ => .error (.registroSemId secao)

/-- `_section_rows`. -/
def sectionRows (fields : Registro Id Data) (secao : String) :
    Except Invalido (List (Registro Id Data)) :=
  match fields.get secao with
  | .arr rows => rows.mapM (linhaDe secao)
  | _ => .error (.secaoNaoLista secao)

/-- `_same_representation`. -/
def sameRepresentation (t : Textos Id Data) (incoming existing : Registro Id Data) : Bool :=
  (incoming.map (·.1) ++ existing.map (·.1)).all fun key =>
    (incoming.get key).igual t (existing.get key)

/-- One field of `_decode_row`. -/
def decodeField (t : Textos Id Data) (tab : Tabela) (field : String × Objeto Id Data) :
    Except Invalido (String × Objeto Id Data) :=
  match tab.colunas.find? fun coluna => coluna.nome = field.1 with
  | none => .error (.campoDesconhecido field.1 tab.secao)
  | some coluna =>
    match decodeValue t coluna field.2 with
    | none => .error (.valorInvalido field.1 tab.secao)
    | some value => .ok (field.1, value)

/-- `_decode_row`. -/
def decodeRow (t : Textos Id Data) (tab : Tabela) (row : Registro Id Data) :
    Except Invalido (Registro Id Data) :=
  row.mapM (decodeField t tab)

/-- The loop of `_classify`. -/
def classifyRows (t : Textos Id Data) (tab : Tabela)
    (existing : List (String × Registro Id Data)) :
    List (Registro Id Data) → Except Invalido (Triagem Id Data)
  | [] => .ok ⟨[], [], 0⟩
  | row :: rest =>
    match existing.lookup (idTexto t row) with
    | none => do
      let decoded ← decodeRow t tab row
      let resto ← classifyRows t tab existing rest
      return { resto with novas := decoded :: resto.novas }
    | some current => do
      let resto ← classifyRows t tab existing rest
      if sameRepresentation t row current then
        return { resto with ignoradas := resto.ignoradas + 1 }
      else
        return { resto with
          conflitos :=
            ⟨tab.secao, t.uuid (idTexto t row), row, current⟩ :: resto.conflitos }

/-- The identifier that a row names. -/
def idDaLinha (t : Textos Id Data) (row : Registro Id Data) : Option Id := t.uuid (idTexto t row)

/-- `_classify`. -/
def classify (t : Textos Id Data) (banco : Banco Id Data) (tab : Tabela)
    (rows : List (Registro Id Data)) : Except Invalido (Triagem Id Data) :=
  if rows.isEmpty then .ok ⟨[], [], 0⟩
  else if rows.any fun row => (idDaLinha t row).isNone then .error (.idInvalido tab.secao)
  else
    classifyRows t tab (readRowsById t banco tab (rows.filterMap (idDaLinha t))) rows

/-- The rows of each table and what they are, in the order of the tables. -/
def planejar (t : Textos Id Data) (banco : Banco Id Data) (fields : Registro Id Data) :
    List Tabela →
      Except Invalido (List (Tabela × List (Registro Id Data) × Triagem Id Data))
  | [] => .ok []
  | tab :: tabs => do
    let rows ← sectionRows fields tab.secao
    let triagem ← classify t banco tab rows
    let resto ← planejar t banco fields tabs
    return (tab, rows, triagem) :: resto

/-- `d[key] = value`. -/
def atribuir {β : Type} (d : List (String × β)) (key : String) (value : β) : List (String × β) :=
  if (d.lookup key).isSome then d.map fun entry => if entry.1 = key then (key, value) else entry
  else d ++ [(key, value)]

/-- The edges of the candidate graph: those that are stored, and those of the new events. -/
def arestas (t : Textos Id Data) (banco : Banco Id Data) (novos : List (Registro Id Data)) :
    List (String × Option String) :=
  novos.foldl (fun edges row => atribuir edges (idTexto t row) (predecessor t row))
    (readCausalEdges t banco)

/-- One edge, when its identifiers can be read. -/
def ligarAresta (t : Textos Id Data) (adjacency : Adjacency Id)
    (aresta : String × Option String) : Adjacency Id :=
  match t.uuid aresta.1 with
  | none => adjacency
  | some node =>
    match aresta.2.bind t.uuid with
    | none => adjacency.link node []
    | some parent => ((adjacency.link node []).link parent []).link node [parent]

/-- `_assert_causal_acyclicity`: a cycle of the candidate graph. -/
def cicloCausal (t : Textos Id Data) (banco : Banco Id Data) (novos : List (Registro Id Data)) :
    Option (List Id) :=
  ((arestas t banco novos).foldl (ligarAresta t) []).findCycle

/-- The rows of a table in the order in which they are inserted. -/
def ordenadas (t : Textos Id Data) (limite : ℕ) (tab : Tabela) (novas : List (Registro Id Data)) :
    Option (List (Registro Id Data)) :=
  if tab.nome = causalHistoryEvents.nome then topologicallyOrderedEvents t limite novas
  else some novas

/-- The insertion of one table: the store, and the rows that went in. -/
def aplicarTabela (t : Textos Id Data) (srv : Servidor Id Data) (limite : ℕ) (tab : Tabela)
    (novas : List (Registro Id Data)) (banco : Banco Id Data) :
    Except Falha (Banco Id Data × ℕ) :=
  match ordenadas t limite tab novas with
  | none => .error .recursionError
  | some rows => do
    let banco ← insertRows srv tab rows banco
    return (banco, rows.length)

/-- The loop of the insertions. Only what was inserted is counted. -/
def aplicar (t : Textos Id Data) (srv : Servidor Id Data) (limite : ℕ) :
    List (Tabela × List (Registro Id Data) × Triagem Id Data) → Banco Id Data →
      Except Falha (Banco Id Data × List (String × ℕ))
  | [], banco => .ok (banco, [])
  | (tab, _, triagem) :: rest, banco => do
    let feito ← aplicarTabela t srv limite tab triagem.novas banco
    let resto ← aplicar t srv limite rest feito.1
    return (resto.1, if feito.2 = 0 then resto.2 else (tab.secao, feito.2) :: resto.2)

/-- The new events of a plan. -/
def novosEventos (plano : List (Tabela × List (Registro Id Data) × Triagem Id Data)) :
    List (Registro Id Data) :=
  ((plano.find? fun entry => entry.1.nome = causalHistoryEvents.nome).map
    (·.2.2.novas)).getD []

/-- `import_package`, with the store that it leaves. An exception leaves the transaction to
the caller, who rolls it back. -/
def importPackage (t : Textos Id Data) (srv : Servidor Id Data) (limite : ℕ)
    (package : Objeto Id Data) (banco : Banco Id Data) : Desfecho Id Data × Banco Id Data :=
  match validateEnvelope t package >>= (planejar t banco · orderedTables) with
  | .error razao => (.invalido razao, banco)
  | .ok plano =>
    let conflicts := plano.flatMap (·.2.2.conflitos)
    let skipped := plano.map fun entry => (entry.1.secao, entry.2.2.ignoradas)
    if conflicts.isEmpty = false then (.relatorio ⟨conflicts, [], skipped, 0⟩, banco)
    else if (cicloCausal t banco (novosEventos plano)).isSome then (.invalido .ciclo, banco)
    else
      match aplicar t srv limite plano banco with
      | .error falha => (.falha falha, banco)
      | .ok (banco, applied) => (.relatorio ⟨[], applied, skipped, 0⟩, banco)

end PiaOs.Sync
