import PiaOs.Piap.Identifiers
import PiaOs.Transactions.Indexed

/-!
# What the store of relationships keeps

Whatever the sessions do, the active relationships are distinct and a retired one stays
retired. The instant of its retirement stays too while no session retires a copy that was
loaded before another retirement of the relationship was committed.
-/

/-! ## Relationships

The repository of relationships, in sessions that run next to each other. A session keeps the
relationships that it has loaded as they were then; `retire` looks at that copy and not at the
row. -/

namespace PiaOs.Cognitive

open Support Piap Transactions

inductive RelationshipType
  | relatedTo
  | references
  | supports
  | contradicts
  | dependsOn
  deriving DecidableEq

/-- `is_symmetric`. -/
def RelationshipType.isSymmetric : RelationshipType → Bool
  | .relatedTo => true
  | _ => false

structure Relationship where
  sourceCoid : Referencia
  targetCoid : Referencia
  relationshipType : RelationshipType
  retiredAt : Option Instant := none
  deriving DecidableEq

/-- The endpoints as they are stored: of a symmetric type, the smaller text first. -/
def normaliza (relationshipType : RelationshipType) (sourceCoid targetCoid : Referencia) :
    Referencia × Referencia :=
  if relationshipType.isSymmetric && (Texto.of targetCoid.str).antes (Texto.of sourceCoid.str) then
    (targetCoid, sourceCoid)
  else (sourceCoid, targetCoid)

/-- The two `CheckConstraint`s. -/
def Relationship.Canonica (row : Relationship) : Prop :=
  row.sourceCoid ≠ row.targetCoid ∧
    (row.relationshipType ≠ .relatedTo ∨ row.sourceCoid < row.targetCoid)

instance decidableCanonica (row : Relationship) : Decidable row.Canonica :=
  inferInstanceAs (Decidable (_ ∧ _))

/-- `uq_relationships_active_source_target_type`. -/
def indice : Index Relationship (Referencia × Referencia × RelationshipType) where
  key row := (row.sourceCoid, row.targetCoid, row.relationshipType)
  live row := row.retiredAt.isNone

/-- What the repository raises. -/
inductive RelationshipError
  | selfLink (coid : Referencia)
  | duplicate (sourceCoid targetCoid : Referencia) (relationshipType : RelationshipType)
  | endpointNotFound (coid : Referencia)
  | persistence
  | ausente (id : Referencia)
  deriving DecidableEq

/-- The rows, and the relationships that each session has loaded. -/
structure Sessoes where
  rows : Rows Referencia Relationship := {}
  carregadas : Table ℕ (Table Referencia Relationship) := ∅

inductive Resposta
  | criada (id : Referencia)
  | retirada (retiredAt : Instant)
  /-- Nothing was sent: the copy was retired already. -/
  | jaRetirada
  | feito
  | erro (e : RelationshipError)
  deriving DecidableEq

namespace Sessoes

/-- The identity map of a session. -/
def mapa (s : Sessoes) (i : ℕ) : Table Referencia Relationship := (s.carregadas.lookup i).getD ∅

def guarda (s : Sessoes) (i : ℕ) (id : Referencia) (row : Relationship) : Sessoes :=
  { s with carregadas := s.carregadas.insert i ((s.mapa i).insert id row) }

/-- The relationship as the session has it. What is not loaded, or was expired, is read. -/
def copia (s : Sessoes) (i : ℕ) (id : Referencia) : Option Relationship :=
  ((s.mapa i).lookup id).or ((s.rows.view i).lookup id)

/-- `Session.rollback`, which expires what was loaded. -/
def desfaz (s : Sessoes) (i : ℕ) : Sessoes where
  rows := s.rows.rollback i
  carregadas := s.carregadas.erase i

/-- `Session.commit`. Nothing that was loaded expires. -/
def confirma (s : Sessoes) (i : ℕ) : Sessoes := { s with rows := s.rows.commit i }

/-- A query loads a relationship once; `refresh` loads it again. -/
def carrega (s : Sessoes) (i : ℕ) (id : Referencia) (refresh : Bool) : Resposta × Sessoes :=
  match if refresh then (s.rows.view i).lookup id else s.copia i id with
  | none => (.erro (.ausente id), s)
  | some row => (.feito, s.guarda i id row)

/-- `add_relationship`, with the identifier of the new row. Without an answer, it waits. -/
def addRelationship (coids : List Referencia) (s : Sessoes) (i : ℕ) (novo : Referencia)
    (sourceCoid targetCoid : Referencia) (relationshipType : RelationshipType) :
    Option (Resposta × Sessoes) :=
  if sourceCoid = targetCoid then some (.erro (.selfLink sourceCoid), s)
  else
    let par := normaliza relationshipType sourceCoid targetCoid
    let row : Relationship := ⟨par.1, par.2, relationshipType, none⟩
    if ¬row.Canonica then some (.erro .persistence, s.desfaz i)
    else match s.rows.insert indice i novo row with
      | none => none
      | some none => some (.erro (.duplicate par.1 par.2 relationshipType), s.desfaz i)
      | some (some rows) =>
        if par.1 ∈ coids ∧ par.2 ∈ coids then
          some (.criada novo, guarda { s with rows := rows } i novo row)
        else some (.erro (.endpointNotFound par.2), s.desfaz i)

def comRetirada (now : Instant) (row : Relationship) : Relationship :=
  { row with retiredAt := some now }

/-- `retire`, at the instant that the clock shows. -/
def retire (s : Sessoes) (i : ℕ) (id : Referencia) (now : Instant) :
    Option (Resposta × Sessoes) :=
  match s.copia i id with
  | none => some (.erro (.ausente id), s)
  | some row =>
    if row.retiredAt ≠ none then some (.jaRetirada, s.guarda i id row)
    else match s.rows.update i id (comRetirada now) with
      | none => none
      | some rows => some (.retirada now, guarda { s with rows := rows } i id (comRetirada now row))

/-- `relationship_exists`. -/
def relationshipExists (s : Sessoes) (i : ℕ) (sourceCoid targetCoid : Referencia)
    (relationshipType : RelationshipType) (includeRetired : Bool) : Bool :=
  let par := normaliza relationshipType sourceCoid targetCoid
  decide (∃ id row, (s.rows.view i).lookup id = some row ∧
    (indice.key row = (par.1, par.2, relationshipType) ∧
      (includeRetired = true ∨ row.retiredAt = none)))

end Sessoes

/-- A step of a session. -/
inductive Acao
  | addRelationship (i : ℕ) (novo sourceCoid targetCoid : Referencia)
      (relationshipType : RelationshipType)
  | carrega (i : ℕ) (id : Referencia) (refresh : Bool)
  | retire (i : ℕ) (id : Referencia) (now : Instant)
  | confirma (i : ℕ)
  | desfaz (i : ℕ)
  deriving DecidableEq

namespace Sessoes

/-- One step, unless it waits. -/
def passo (coids : List Referencia) (s : Sessoes) : Acao → Option (Resposta × Sessoes)
  | .addRelationship i novo sourceCoid targetCoid relationshipType =>
    s.addRelationship coids i novo sourceCoid targetCoid relationshipType
  | .carrega i id refresh => some (s.carrega i id refresh)
  | .retire i id now => s.retire i id now
  | .confirma i => some (.feito, s.confirma i)
  | .desfaz i => some (.feito, s.desfaz i)

/-- The steps in turn, when none of them waits. -/
def executa (coids : List Referencia) : Sessoes → List Acao → Option Sessoes
  | s, [] => some s
  | s, acao :: acoes => (s.passo coids acao).bind fun fim => executa coids fim.2 acoes

end Sessoes

/-! ## What the store of relationships keeps -/

/-! ## Endpoints -/

section Endpoints

variable {relationshipType : RelationshipType} {a b : Referencia} {row : Relationship}

theorem normaliza_cases (relationshipType : RelationshipType) (a b : Referencia) :
    normaliza relationshipType a b = (a, b) ∨ normaliza relationshipType a b = (b, a) := by
  unfold normaliza
  split
  · exact .inr rfl
  · exact .inl rfl

/-- The endpoints of a symmetric type are stored in one order. -/
theorem normaliza_comm (h : relationshipType.isSymmetric = true) :
    normaliza relationshipType a b = normaliza relationshipType b a := by
  unfold normaliza
  simp only [h, Bool.true_and, str_antes_iff]
  rcases lt_trichotomy a b with hlt | rfl | hlt
  · rw [if_neg (not_lt_of_gt hlt), if_pos hlt]
  · rfl
  · rw [if_pos hlt, if_neg (not_lt_of_gt hlt)]

/-- Distinct endpoints are stored in the form that the database asks for. -/
theorem normaliza_canonica (h : a ≠ b) : Relationship.Canonica
    ⟨(normaliza relationshipType a b).1, (normaliza relationshipType a b).2, relationshipType,
      none⟩ := by
  constructor
  · rcases normaliza_cases relationshipType a b with hpar | hpar
    · rw [hpar]
      exact h
    · rw [hpar]
      exact h.symm
  · by_cases htype : relationshipType = .relatedTo
    · right
      subst htype
      unfold normaliza
      simp only [RelationshipType.isSymmetric, Bool.true_and, str_antes_iff]
      split
      case isTrue hlt => exact hlt
      case isFalse hge => exact lt_of_le_of_ne (not_lt.mp hge) h
    · exact .inl htype

/-- A stored form stays as it is. -/
theorem normaliza_of_canonica (h : row.Canonica) :
    normaliza row.relationshipType row.sourceCoid row.targetCoid =
      (row.sourceCoid, row.targetCoid) := by
  unfold normaliza
  split
  case isFalse => rfl
  case isTrue hswap =>
    rw [Bool.and_eq_true, str_antes_iff] at hswap
    rcases h.2 with htype | hlt
    · refine absurd hswap.1 ?_
      cases hr : row.relationshipType <;> simp [RelationshipType.isSymmetric, hr] at htype ⊢
    · exact absurd hswap.2 (not_lt_of_gt hlt)

end Endpoints

/-! ## What a step does to the rows -/

/-- A row whose endpoints exist, in the stored form. -/
def Boa (coids : List Referencia) (row : Relationship) : Prop :=
  row.Canonica ∧ row.sourceCoid ∈ coids ∧ row.targetCoid ∈ coids

inductive Muda (coids : List Referencia) (s : Sessoes) :
    Acao → Rows Referencia Relationship → Prop
  | nada (a : Acao) : Muda coids s a s.rows
  | desfaz (a : Acao) (i : ℕ) : Muda coids s a (s.rows.rollback i)
  | confirma (i : ℕ) : Muda coids s (.confirma i) (s.rows.commit i)
  | insere {a : Acao} {i : ℕ} {novo : Referencia} {row : Relationship}
      {rows : Rows Referencia Relationship} (hrow : Boa coids row)
      (h : s.rows.insert indice i novo row = some (some rows)) : Muda coids s a rows
  | retira {i : ℕ} {id : Referencia} {now : Instant} {row : Relationship}
      {rows : Rows Referencia Relationship} (hcopia : s.copia i id = some row)
      (hativa : row.retiredAt = none)
      (h : s.rows.update i id (Sessoes.comRetirada now) = some rows) :
      Muda coids s (.retire i id now) rows

section Steps

variable {coids : List Referencia} {s s' : Sessoes} {a : Acao} {resposta : Resposta}

theorem muda_addRelationship {i : ℕ} {novo sourceCoid targetCoid : Referencia}
    {relationshipType : RelationshipType}
    (h : s.addRelationship coids i novo sourceCoid targetCoid relationshipType =
      some (resposta, s')) : Muda coids s a s'.rows := by
  unfold Sessoes.addRelationship at h
  split at h
  · obtain ⟨-, rfl⟩ := Prod.mk.inj (Option.some.inj h)
    exact .nada a
  · dsimp only at h
    split at h
    · obtain ⟨-, rfl⟩ := Prod.mk.inj (Option.some.inj h)
      exact .desfaz a i
    case isFalse hcanonica =>
      split at h
      · cases h
      · obtain ⟨-, rfl⟩ := Prod.mk.inj (Option.some.inj h)
        exact .desfaz a i
      case h_3 rows hinsert =>
        split at h
        case isTrue hcoids =>
          obtain ⟨-, rfl⟩ := Prod.mk.inj (Option.some.inj h)
          exact .insere ⟨not_not.mp hcanonica, hcoids⟩ hinsert
        case isFalse =>
          obtain ⟨-, rfl⟩ := Prod.mk.inj (Option.some.inj h)
          exact .desfaz a i

theorem muda_retire {i : ℕ} {id : Referencia} {now : Instant}
    (h : s.retire i id now = some (resposta, s')) : Muda coids s (.retire i id now) s'.rows := by
  unfold Sessoes.retire at h
  split at h
  · obtain ⟨-, rfl⟩ := Prod.mk.inj (Option.some.inj h)
    exact .nada _
  case h_2 row hcopia =>
    split at h
    · obtain ⟨-, rfl⟩ := Prod.mk.inj (Option.some.inj h)
      exact .nada _
    case isFalse hativa =>
      split at h
      · cases h
      case h_2 rows hupdate =>
        obtain ⟨-, rfl⟩ := Prod.mk.inj (Option.some.inj h)
        exact .retira hcopia (not_not.mp hativa) hupdate

theorem muda_passo (h : s.passo coids a = some (resposta, s')) : Muda coids s a s'.rows := by
  cases a with
  | addRelationship i novo sourceCoid targetCoid relationshipType => exact muda_addRelationship h
  | carrega i id refresh =>
    have hrun : s.carrega i id refresh = (resposta, s') := Option.some.inj h
    unfold Sessoes.carrega at hrun
    split at hrun
    · obtain ⟨-, rfl⟩ := Prod.mk.inj hrun
      exact .nada _
    · obtain ⟨-, rfl⟩ := Prod.mk.inj hrun
      exact .nada _
  | retire i id now => exact muda_retire h
  | confirma i =>
    obtain ⟨-, rfl⟩ := Prod.mk.inj (Option.some.inj h)
    exact .confirma i
  | desfaz i =>
    obtain ⟨-, rfl⟩ := Prod.mk.inj (Option.some.inj h)
    exact .desfaz _ i

/-! ## The invariant -/

/-- What every run keeps. -/
structure Valida (coids : List Referencia) (s : Sessoes) : Prop where
  sound : Rows.Sound indice s.rows
  proprias : ∀ i id row, (s.rows.own i).lookup id = some row → Boa coids row
  tabela : ∀ id row, s.rows.table.lookup id = some row → Boa coids row

theorem Valida.vista (h : Valida coids s) {i : ℕ} {id : Referencia} {row : Relationship}
    (hrow : (s.rows.view i).lookup id = some row) : Boa coids row := by
  rcases Rows.view_cases hrow with hown | ⟨-, htable⟩
  · exact h.proprias i id row hown
  · exact h.tabela id row htable

/-- A write of a good row keeps the rows good. -/
theorem Valida.put (h : Valida coids s) {i j : ℕ} {id id' : Referencia} {row row' : Relationship}
    (hrow : Boa coids row) (hown : ((s.rows.put i id row).own j).lookup id' = some row') :
    Boa coids row' := by
  rw [Rows.lookup_own_put] at hown
  split at hown
  · obtain rfl := Option.some.inj hown
    exact hrow
  · exact h.proprias j id' row' hown

theorem Valida.passo (h : Valida coids s) (hstep : s.passo coids a = some (resposta, s')) :
    Valida coids s' := by
  have hmuda := muda_passo hstep
  generalize hrows : s'.rows = rows at hmuda
  have hdone (hsound : Rows.Sound indice rows)
      (hown : ∀ i id row, (rows.own i).lookup id = some row → Boa coids row)
      (htable : ∀ id row, rows.table.lookup id = some row → Boa coids row) : Valida coids s' := by
    subst hrows
    exact ⟨hsound, hown, htable⟩
  cases hmuda with
  | nada => exact hdone h.sound h.proprias h.tabela
  | desfaz _ i =>
    refine hdone (h.sound.rollback i) (fun j id row hown => ?_) h.tabela
    rw [Rows.own_rollback] at hown
    split at hown
    · cases hown
    · exact h.proprias j id row hown
  | confirma i =>
    refine hdone (h.sound.commit i) (fun j id row hown => ?_) fun id row hrow => h.vista hrow
    rw [Rows.own_commit] at hown
    split at hown
    · cases hown
    · exact h.proprias j id row hown
  | insere hrow hinsert =>
    refine hdone (h.sound.insert hinsert) ?_ ?_
    · obtain ⟨-, -, -, -, rfl⟩ := Rows.insert_taken hinsert
      exact fun j id row' hown => h.put hrow hown
    · obtain ⟨-, -, -, -, rfl⟩ := Rows.insert_taken hinsert
      exact h.tabela
  | @retira _ _ now _ _ hcopia hativa hupdate =>
    have hdead (r : Relationship) (hlive : indice.live (Sessoes.comRetirada now r) = true) :
        indice.live r = true := by
      cases hlive
    refine hdone (h.sound.update (f := Sessoes.comRetirada now) (fun _ => rfl) hdead hupdate) ?_ ?_
    · obtain ⟨-, ⟨-, rfl⟩ | ⟨r, hr, rfl⟩⟩ := Rows.update_done hupdate
      · exact h.proprias
      · obtain ⟨hcanonica, hcoids⟩ := h.vista hr
        have hgood : Boa coids (Sessoes.comRetirada now r) := ⟨hcanonica, hcoids⟩
        exact fun j id row' hown => h.put hgood hown
    · obtain ⟨-, ⟨-, rfl⟩ | ⟨r, hr, rfl⟩⟩ := Rows.update_done hupdate
      · exact h.tabela
      · exact h.tabela

theorem Valida.vazia : Valida coids {} where
  sound := .empty indice
  proprias _ _ _ hown := by cases hown
  tabela _ _ hrow := by cases hrow

/-- What every step keeps holds at the end of a run. -/
theorem executa_keeps {P : Sessoes → Prop}
    (hstep : ∀ {s s' a resposta}, P s → Sessoes.passo coids s a = some (resposta, s') → P s')
    {acoes : List Acao} (hs : P s) (hrun : s.executa coids acoes = some s') : P s' := by
  induction acoes generalizing s with
  | nil =>
    obtain rfl := Option.some.inj hrun
    exact hs
  | cons a acoes ih =>
    obtain ⟨⟨resposta, s₁⟩, hfirst, hrest⟩ := Option.bind_eq_some_iff.mp hrun
    exact ih (hstep hs hfirst) hrest

theorem valida_of_executa {acoes : List Acao} (hrun : Sessoes.executa coids {} acoes = some s) :
    Valida coids s := executa_keeps Valida.passo .vazia hrun

/-! ## Retirement -/

/-- The copy that is retired is not older than another retirement that was committed. -/
def Fresca (s : Sessoes) : Acao → Prop
  | .retire i id _ => ∀ row c, s.copia i id = some row → row.retiredAt = none →
      s.rows.table.lookup id = some c → c.retiredAt = none
  | _ => True

def Frescas (coids : List Referencia) : Sessoes → List Acao → Prop
  | _, [] => True
  | s, a :: acoes => Fresca s a ∧
      ∀ resposta s', s.passo coids a = some (resposta, s') → Frescas coids s' acoes

/-- No transaction has written over a committed retirement. -/
def EmDia (s : Sessoes) : Prop :=
  ∀ i id row c, (s.rows.own i).lookup id = some row → s.rows.table.lookup id = some c →
    c.retiredAt = none

theorem EmDia.passo (h : EmDia s) (hvalida : Valida coids s) (hfresca : Fresca s a)
    (hstep : s.passo coids a = some (resposta, s')) : EmDia s' := by
  have hmuda := muda_passo hstep
  unfold EmDia
  generalize s'.rows = rows at hmuda
  cases hmuda with
  | nada => exact h
  | desfaz _ i =>
    intro j id row c hown hc
    rw [Rows.own_rollback] at hown
    split at hown
    · cases hown
    · exact h j id row c hown hc
  | confirma i =>
    intro j id row c hown hc
    rw [Rows.own_commit] at hown
    split at hown
    · cases hown
    case isFalse hj =>
      rw [hvalida.sound.table_commit hj hown] at hc
      exact h j id row c hown hc
  | @insere _ i novo row₀ _ hrow hinsert =>
    obtain ⟨-, -, hid, -, rfl⟩ := Rows.insert_taken hinsert
    intro j id row c hown hc
    rw [Rows.lookup_own_put] at hown
    split at hown
    case isTrue hsame =>
      rw [Rows.lookup_view] at hid
      have hnone : s.rows.table.lookup id = none := by
        rw [hsame.2]
        exact (Option.or_eq_none_iff.mp hid).2
      exact absurd (hc.symm.trans hnone) (Option.some_ne_none c)
    case isFalse => exact h j id row c hown hc
  | @retira i id₀ now copia _ hcopia hativa hupdate =>
    obtain ⟨-, ⟨-, rfl⟩ | ⟨r, hr, rfl⟩⟩ := Rows.update_done hupdate
    · exact h
    · intro j id row c hown hc
      rw [Rows.lookup_own_put] at hown
      split at hown
      case isTrue hsame =>
        rw [hsame.2] at hc
        exact hfresca copia c hcopia hativa hc
      case isFalse => exact h j id row c hown hc

/-- A retired row stays retired, with its endpoints and its type. -/
theorem fica_passo (hvalida : Valida coids s) (hstep : s.passo coids a = some (resposta, s'))
    {id : Referencia} {row : Relationship} (hrow : s.rows.table.lookup id = some row)
    (hretired : row.retiredAt ≠ none) : ∃ row', s'.rows.table.lookup id = some row' ∧
      row'.retiredAt ≠ none ∧ indice.key row' = indice.key row := by
  have hmuda := muda_passo hstep
  generalize s'.rows = rows at hmuda
  cases hmuda with
  | nada => exact ⟨row, hrow, hretired, rfl⟩
  | desfaz => exact ⟨row, hrow, hretired, rfl⟩
  | confirma i =>
    cases hown : (s.rows.own i).lookup id with
    | none => exact ⟨row, (Rows.view_table hown).trans hrow, hretired, rfl⟩
    | some row' =>
      obtain ⟨hkey, hlive⟩ := hvalida.sound.versions i id row' row hown hrow
      refine ⟨row', Rows.view_own hown, fun hactive => ?_, hkey⟩
      have hrowlive : row.retiredAt.isNone = true := hlive (Option.isNone_iff_eq_none.mpr hactive)
      exact hretired (Option.isNone_iff_eq_none.mp hrowlive)
  | insere hgood hinsert =>
    obtain ⟨-, -, -, -, rfl⟩ := Rows.insert_taken hinsert
    exact ⟨row, hrow, hretired, rfl⟩
  | retira hcopia hativa hupdate =>
    obtain ⟨-, ⟨-, rfl⟩ | ⟨r, hr, rfl⟩⟩ := Rows.update_done hupdate
    · exact ⟨row, hrow, hretired, rfl⟩
    · exact ⟨row, hrow, hretired, rfl⟩

/-- It stays as it is when nothing was written over it. -/
theorem instante_passo (hemdia : EmDia s) (hstep : s.passo coids a = some (resposta, s'))
    {id : Referencia} {row : Relationship} (hrow : s.rows.table.lookup id = some row)
    (hretired : row.retiredAt ≠ none) : s'.rows.table.lookup id = some row := by
  have hmuda := muda_passo hstep
  generalize s'.rows = rows at hmuda
  cases hmuda with
  | nada => exact hrow
  | desfaz => exact hrow
  | confirma i =>
    cases hown : (s.rows.own i).lookup id with
    | none => exact (Rows.view_table hown).trans hrow
    | some row' => exact absurd (hemdia i id row' row hown hrow) hretired
  | insere hgood hinsert =>
    obtain ⟨-, -, -, -, rfl⟩ := Rows.insert_taken hinsert
    exact hrow
  | retira hcopia hativa hupdate =>
    obtain ⟨-, ⟨-, rfl⟩ | ⟨r, hr, rfl⟩⟩ := Rows.update_done hupdate
    · exact hrow
    · exact hrow

/-- Along steps that retire no stale copy. -/
theorem instante_executa {acoes : List Acao} (hvalida : Valida coids s) (hemdia : EmDia s)
    (hfrescas : Frescas coids s acoes) (hrun : s.executa coids acoes = some s') :
    EmDia s' ∧ ∀ id row, s.rows.table.lookup id = some row → row.retiredAt ≠ none →
      s'.rows.table.lookup id = some row := by
  induction acoes generalizing s with
  | nil =>
    obtain rfl := Option.some.inj hrun
    exact ⟨hemdia, fun _ _ hrow _ => hrow⟩
  | cons a acoes ih =>
    obtain ⟨⟨resposta, s₁⟩, hfirst, hrest⟩ := Option.bind_eq_some_iff.mp hrun
    obtain ⟨hdone, hkept⟩ := ih (hvalida.passo hfirst) (hemdia.passo hvalida hfrescas.1 hfirst)
      (hfrescas.2 resposta s₁ hfirst) hrest
    exact ⟨hdone, fun id row hrow hretired =>
      hkept id row (instante_passo hemdia hfirst hrow hretired) hretired⟩

/-! ## Adding again -/

/-- No session has a row under the identifier. -/
def Inedito (s : Sessoes) (novo : Referencia) : Prop := ∀ j, (s.rows.view j).lookup novo = none

theorem Inedito.not_written {novo : Referencia} (h : Inedito s novo) (i : ℕ) :
    ¬s.rows.Written i novo := by
  rintro ⟨j, own, hpending, -, hsome⟩
  have hown : s.rows.own j = own := by rw [Rows.own, hpending, Option.getD_some]
  have hnone := h j
  rw [Rows.lookup_view, Option.or_eq_none_iff, hown] at hnone
  rw [hnone.1] at hsome
  cases hsome

/-- The row of a new relationship. -/
def nova (relationshipType : RelationshipType) (x y : Referencia) : Relationship :=
  ⟨(normaliza relationshipType x y).1, (normaliza relationshipType x y).2, relationshipType, none⟩

/-- A relationship is added when nobody has an active one between the same endpoints. -/
theorem criada_of_livre {i : ℕ} {novo x y : Referencia} {relationshipType : RelationshipType}
    (hne : x ≠ y) (hx : x ∈ coids) (hy : y ∈ coids) (hnovo : Inedito s novo)
    (hentered : ¬s.rows.Entered indice i (indice.key (nova relationshipType x y)))
    (hpresent : ¬s.rows.Present indice i (indice.key (nova relationshipType x y))) :
    ∃ s', s.passo coids (.addRelationship i novo x y relationshipType) =
      some (.criada novo, s') := by
  have hcoids : (normaliza relationshipType x y).1 ∈ coids ∧
      (normaliza relationshipType x y).2 ∈ coids := by
    rcases normaliza_cases relationshipType x y with hpar | hpar
    · rw [hpar]
      exact ⟨hx, hy⟩
    · rw [hpar]
      exact ⟨hy, hx⟩
  have hinsert := Rows.insert_free (hnovo.not_written i) hentered (hnovo i) hpresent
  unfold nova at hinsert
  refine ⟨Sessoes.guarda { s with rows := s.rows.put i novo (nova relationshipType x y) } i novo
    (nova relationshipType x y), ?_⟩
  unfold Sessoes.passo Sessoes.addRelationship
  simp only [if_neg hne, not_not.mpr (normaliza_canonica hne), if_false, hinsert, if_pos hcoids]
  rfl

/-- A retirement that was sent is an update of the row. -/
theorem update_of_retirada {i : ℕ} {id : Referencia} {now instante : Instant}
    (h : s.retire i id now = some (.retirada instante, s')) :
    s.rows.update i id (Sessoes.comRetirada now) = some s'.rows := by
  unfold Sessoes.retire at h
  split at h
  · cases Option.some.inj h
  · split at h
    · cases Option.some.inj h
    · split at h
      · cases h
      case h_2 rows hupdate =>
        obtain ⟨-, rfl⟩ := Prod.mk.inj (Option.some.inj h)
        exact hupdate

/-- After the retirement of an active relationship, its session can add it again. -/
theorem criada_of_retirada (hvalida : Valida coids s) {i : ℕ} {id novo x y : Referencia}
    {now instante : Instant} {row : Relationship}
    (h : s.retire i id now = some (.retirada instante, s'))
    (hrow : (s.rows.view i).lookup id = some row) (hativa : row.retiredAt = none)
    (hpar : normaliza row.relationshipType x y = (row.sourceCoid, row.targetCoid))
    (hnovo : Inedito s' novo) :
    ∃ s'', s'.passo coids (.addRelationship i novo x y row.relationshipType) =
      some (.criada novo, s'') := by
  obtain ⟨⟨hdistintos, -⟩, hsource, htarget⟩ := hvalida.vista hrow
  have hkey : indice.key (nova row.relationshipType x y) = indice.key row := by
    unfold nova
    rw [hpar]
    rfl
  obtain ⟨hwritten, ⟨hnone, -⟩ | ⟨r, hr, hrows⟩⟩ := Rows.update_done (update_of_retirada h)
  · exact absurd (hrow.symm.trans hnone) (Option.some_ne_none row)
  · obtain rfl := Option.some.inj (hrow.symm.trans hr)
    obtain ⟨hentered, hpresent⟩ := hvalida.sound.free_after (f := Sessoes.comRetirada now)
      (fun _ => rfl) hrow (Option.isNone_iff_eq_none.mpr hativa) hwritten
    rw [← hrows, ← hkey] at hentered hpresent
    have hxy : (x = row.sourceCoid ∧ y = row.targetCoid) ∨
        (x = row.targetCoid ∧ y = row.sourceCoid) := by
      rcases normaliza_cases row.relationshipType x y with h' | h'
      · obtain ⟨hx, hy⟩ := Prod.mk.inj (h'.symm.trans hpar)
        exact .inl ⟨hx, hy⟩
      · obtain ⟨hy, hx⟩ := Prod.mk.inj (h'.symm.trans hpar)
        exact .inr ⟨hx, hy⟩
    rcases hxy with ⟨rfl, rfl⟩ | ⟨rfl, rfl⟩
    · exact criada_of_livre hdistintos hsource htarget hnovo hentered hpresent
    · exact criada_of_livre hdistintos.symm htarget hsource hnovo hentered hpresent

theorem relationshipExists_comm {i : ℕ} {x y : Referencia} {relationshipType : RelationshipType}
    {includeRetired : Bool} (h : relationshipType.isSymmetric = true) :
    s.relationshipExists i x y relationshipType includeRetired =
      s.relationshipExists i y x relationshipType includeRetired := by
  unfold Sessoes.relationshipExists
  rw [normaliza_comm h]

end Steps

/-! ## The store -/

/-- The normalized triple. -/
def tripla (row : Relationship) : (Referencia × Referencia) × RelationshipType :=
  (normaliza row.relationshipType row.sourceCoid row.targetCoid, row.relationshipType)

/-- What a run of the store keeps, in any order of the steps of its sessions. -/
structure LojaDeRelacoes (coids : List Referencia) (acoes : List Acao) : Prop where
  /-- One active relationship for a triple, committed or seen by a session. -/
  unica : ∀ s, Sessoes.executa coids {} acoes = some s → ∀ id id' row row',
    s.rows.table.lookup id = some row → s.rows.table.lookup id' = some row' →
    row.retiredAt = none → row'.retiredAt = none → tripla row = tripla row' → id = id'
  vista : ∀ s, Sessoes.executa coids {} acoes = some s → ∀ i id id' row row',
    (s.rows.view i).lookup id = some row → (s.rows.view i).lookup id' = some row' →
    row.retiredAt = none → row'.retiredAt = none → tripla row = tripla row' → id = id'
  simetrica : ∀ s, Sessoes.executa coids {} acoes = some s →
    ∀ i x y relationshipType includeRetired, relationshipType.isSymmetric = true →
    s.relationshipExists i x y relationshipType includeRetired =
      s.relationshipExists i y x relationshipType includeRetired
  fica : ∀ s, Sessoes.executa coids {} acoes = some s →
    ∀ acoes' s', s.executa coids acoes' = some s' → ∀ id row,
    s.rows.table.lookup id = some row → row.retiredAt ≠ none →
    ∃ row', s'.rows.table.lookup id = some row' ∧ row'.retiredAt ≠ none ∧ tripla row' = tripla row
  /-- The committed instant never changes, when no stale copy is retired. -/
  instante : ∀ s, Sessoes.executa coids {} acoes = some s → Frescas coids {} acoes →
    ∀ acoes' s', s.executa coids acoes' = some s' → Frescas coids s acoes' → ∀ id row,
    s.rows.table.lookup id = some row → row.retiredAt ≠ none → s'.rows.table.lookup id = some row
  readicao : ∀ s, Sessoes.executa coids {} acoes = some s → ∀ i id now instante s' row,
    s.passo coids (.retire i id now) = some (.retirada instante, s') →
    (s.rows.view i).lookup id = some row → row.retiredAt = none → ∀ novo x y,
    normaliza row.relationshipType x y = (row.sourceCoid, row.targetCoid) → Inedito s' novo →
    ∃ s'', s'.passo coids (.addRelationship i novo x y row.relationshipType) =
      some (.criada novo, s'')
  /-- So can any other session, while nobody else has an active one or is writing one. -/
  adicao : ∀ s, Sessoes.executa coids {} acoes = some s → ∀ i novo x y relationshipType,
    x ≠ y → x ∈ coids → y ∈ coids → Inedito s novo →
    ¬s.rows.Entered indice i (indice.key (nova relationshipType x y)) →
    ¬s.rows.Present indice i (indice.key (nova relationshipType x y)) →
    ∃ s', s.passo coids (.addRelationship i novo x y relationshipType) = some (.criada novo, s')

theorem key_eq_of_tripla {coids : List Referencia} {row row' : Relationship} (h : Boa coids row)
    (h' : Boa coids row') (heq : tripla row = tripla row') : indice.key row = indice.key row' := by
  unfold tripla at heq
  rw [normaliza_of_canonica h.1, normaliza_of_canonica h'.1] at heq
  obtain ⟨hpar, htype⟩ := Prod.mk.inj heq
  obtain ⟨hsource, htarget⟩ := Prod.mk.inj hpar
  exact Prod.ext hsource (Prod.ext htarget htype)

theorem tripla_eq_of_key {row row' : Relationship} (h : indice.key row = indice.key row') :
    tripla row = tripla row' := by
  obtain ⟨hsource, hrest⟩ := Prod.mk.inj h
  obtain ⟨htarget, htype⟩ := Prod.mk.inj hrest
  unfold tripla
  rw [hsource, htarget, htype]

/-- A retired relationship stays retired along a run. -/
theorem fica_executa {coids : List Referencia} {s s' : Sessoes} {acoes : List Acao}
    (hvalida : Valida coids s) (hrun : s.executa coids acoes = some s') {id : Referencia}
    {row : Relationship} (hrow : s.rows.table.lookup id = some row) (hretired : row.retiredAt ≠ none) :
    ∃ row', s'.rows.table.lookup id = some row' ∧ row'.retiredAt ≠ none ∧
      tripla row' = tripla row := by
  let P (s₁ : Sessoes) : Prop := Valida coids s₁ ∧ ∃ row',
    s₁.rows.table.lookup id = some row' ∧ row'.retiredAt ≠ none ∧ tripla row' = tripla row
  have hstep {s₁ s₂ : Sessoes} {a : Acao} {resposta : Resposta} (h : P s₁)
      (hstep : s₁.passo coids a = some (resposta, s₂)) : P s₂ := by
    obtain ⟨hvalida₁, row₁, hrow₁, hretired₁, htripla₁⟩ := h
    obtain ⟨row₂, hrow₂, hretired₂, hkey⟩ := fica_passo hvalida₁ hstep hrow₁ hretired₁
    exact ⟨hvalida₁.passo hstep, row₂, hrow₂, hretired₂, (tripla_eq_of_key hkey).trans htripla₁⟩
  exact (executa_keeps hstep ⟨hvalida, row, hrow, hretired, rfl⟩ hrun).2

theorem relationship_store (coids : List Referencia) (acoes : List Acao) :
    LojaDeRelacoes coids acoes where
  unica s hrun id id' row row' hrow hrow' hactive hactive' heq := by
    have hvalida := valida_of_executa hrun
    exact hvalida.sound.single id id' row row' hrow hrow' (Option.isNone_iff_eq_none.mpr hactive)
      (Option.isNone_iff_eq_none.mpr hactive')
      (key_eq_of_tripla (hvalida.tabela id row hrow) (hvalida.tabela id' row' hrow') heq)
  vista s hrun i id id' row row' hrow hrow' hactive hactive' heq := by
    have hvalida := valida_of_executa hrun
    exact hvalida.sound.unique i id id' row row' hrow hrow'
      (Option.isNone_iff_eq_none.mpr hactive) (Option.isNone_iff_eq_none.mpr hactive')
      (key_eq_of_tripla (hvalida.vista hrow) (hvalida.vista hrow') heq)
  simetrica _ _ _ _ _ _ _ hsymmetric := relationshipExists_comm hsymmetric
  fica s hrun acoes' s' hrun' id row hrow hretired :=
    fica_executa (valida_of_executa hrun) hrun' hrow hretired
  instante s hrun hfrescas acoes' s' hrun' hfrescas' id row hrow hretired := by
    have hstart : EmDia {} := by
      intro i id row c hown
      cases hown
    obtain ⟨hemdia, -⟩ := instante_executa .vazia hstart hfrescas hrun
    exact (instante_executa (valida_of_executa hrun) hemdia hfrescas' hrun').2 id row hrow hretired
  readicao s hrun i id now instante s' row hretire hrow hactive novo x y hpar hnovo :=
    criada_of_retirada (valida_of_executa hrun) hretire hrow hactive hpar hnovo
  adicao s _ i novo x y relationshipType hne hx hy hnovo hentered hpresent :=
    criada_of_livre hne hx hy hnovo hentered hpresent

/-- Two sessions load the relationship. One retires it at 100 and commits; the other retires its
copy at 200. -/
def retiradas : List Acao :=
  [.addRelationship 0 7 1 2 .supports, .confirma 0, .carrega 1 7 false, .carrega 2 7 false,
    .retire 1 7 100, .confirma 1]

/-- The second retirement moves the instant that the first one committed. -/
theorem retirement_moved :
    ((Sessoes.executa [1, 2] {} retiradas).bind fun s => s.rows.table.lookup 7) =
        some ⟨1, 2, .supports, some 100⟩ ∧
      ((Sessoes.executa [1, 2] {} (retiradas ++ [.retire 2 7 200, .confirma 2])).bind fun s =>
        s.rows.table.lookup 7) = some ⟨1, 2, .supports, some 200⟩ := by
  decide +kernel

end PiaOs.Cognitive
