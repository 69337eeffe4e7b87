import Mathlib.Logic.Relation
import PiaOs.Memory.Codec.PolicyRules
import PiaOs.Transactions.Appended

/-!
# The history of policy versions

The repositories of governance, accessibility and retention policies over one table each, with
several sessions. A publication is checked, its rules are written, and the index on key and version
lets one of several sessions have it.
-/

namespace PiaOs.Memory.PolicyHistory

open Support Piap Codec Transactions

/-! ## Publications -/

/-- An aware `datetime`: its point in time, what its clock shows, and which zone it is of. -/
structure Momento where
  instante : ℤ
  parede : ℤ
  zona : ℕ

/-- `a <= b`, which compares the clocks of two values of one zone. -/
def Momento.naoDepois (a b : Momento) : Bool :=
  if a.zona = b.zona then a.parede ≤ b.parede else a.instante ≤ b.instante

/-- The arguments of `add_policy`. -/
structure Pedido (Regra Autoridade : Type) where
  policyKey : Texto
  version : ℤ
  autoridade : Autoridade
  rules : List Regra
  effectiveFrom : Option Momento := none
  effectiveUntil : Option Momento := none

/-- A row. The columns keep points in time. -/
structure Linha where
  policyKey : Texto
  version : ℤ
  governancePolicyKey : Option Texto
  rules : List Valor
  effectiveFrom : Option ℤ
  effectiveUntil : Option ℤ

/-- What `UNIQUE(policy_key, version)` looks at. -/
def Linha.chave (row : Linha) : Texto × ℤ := (row.policyKey, row.version)

/-- In force from the first instant to the last, excluded. -/
def Linha.vigente (row : Linha) (moment : ℤ) : Bool :=
  row.effectiveFrom.all (· ≤ moment) && row.effectiveUntil.all (moment < ·)

/-- What a call raises. -/
inductive Falha (Recusa : Type)
  | valueError (text : String)
  | identificador (nome : String) (recusa : RecusaDaRegra)
  | regras (recusa : Recusa)
  | versionExists (policyKey : Texto) (version : ℤ)
  | persistence

/-- What tells the three repositories apart: their rules with their codec, whether a version names
the governance policy that it is under, and what is asked of the keys. -/
structure Repositorio where
  Regra : Type
  Autoridade : Type
  Recusa : Type
  governancePolicyKey : Autoridade → Option Texto
  recusaDasChaves : Texto → Autoridade → Option (Falha Recusa)
  serializeRules : List Regra → Except Recusa (List Valor)
  deserializeRules : List Valor → Option (List Regra)
  lidas : ∀ {regras w}, serializeRules regras = .ok w →
    ∃ lidas, deserializeRules w = some lidas ∧ lidas.Perm regras

/-- A key that is blank. -/
def recusaEmBranco {ρ : Type} (nome : String) (chave : Texto) : Option (Falha ρ) :=
  if chave.all CodePoint.isSpace then
    some (.valueError (nome ++ " não pode ser vazio ou apenas espaços"))
  else none

/-- A key that `validar_identificador_opaco` refuses. Its bound is that of the rules. -/
def recusaOpaca {ρ : Type} (nome : String) (chave : Texto) : Option (Falha ρ) :=
  (validarRuleId chave).map (.identificador nome)

def governancePolicyRepository : Repositorio where
  Regra := Codec.GovernanceRule
  Autoridade := Unit
  Recusa := List Texto
  governancePolicyKey _ := none
  recusaDasChaves policyKey _ := recusaEmBranco "policy_key" policyKey
  serializeRules := GovernanceRule.serializeRules
  deserializeRules := GovernanceRule.deserializeRules
  lidas := GovernanceRule.deserializeRules_of_serializeRules

def accessibilityPolicyRepository : Repositorio where
  Regra := Codec.AccessibilityRule
  Autoridade := Texto
  Recusa := List Texto
  governancePolicyKey autoridade := some autoridade
  recusaDasChaves policyKey autoridade := (recusaEmBranco "policy_key" policyKey).or
    (recusaEmBranco "governance_policy_key" autoridade)
  serializeRules := AccessibilityRule.serializeRules
  deserializeRules := AccessibilityRule.deserializeRules
  lidas := AccessibilityRule.deserializeRules_of_serializeRules

theorem retention_lidas {regras : List Codec.RetentionRule} {w : List Valor}
    (h : serializeRules regras = .ok w) :
    ∃ lidas, (deserializeRules (.lista w)).toOption = some lidas ∧ lidas.Perm regras := by
  obtain ⟨w', hw', hlidas⟩ := deserializeRules_serializeRules (serializeRules_eq_ok.mp h).1
  obtain rfl := Except.ok.inj (h.symm.trans hw')
  exact ⟨_, by rw [hlidas]; rfl, perm_porRuleId regras⟩

def retentionPolicyRepository : Repositorio where
  Regra := Codec.RetentionRule
  Autoridade := Texto
  Recusa := Erro
  governancePolicyKey autoridade := some autoridade
  recusaDasChaves policyKey autoridade := (recusaOpaca "policy_key" policyKey).or
    (recusaOpaca "governance_policy_key" autoridade)
  serializeRules := serializeRules
  deserializeRules w := (deserializeRules (.lista w)).toOption
  lidas := retention_lidas

inductive Politica
  | governance | accessibility | retention
  deriving DecidableEq

def Politica.repositorio : Politica → Repositorio
  | .governance => governancePolicyRepository
  | .accessibility => accessibilityPolicyRepository
  | .retention => retentionPolicyRepository

variable (repo : Repositorio)

/-- The window ends no later than it begins. -/
def Pedido.janelaInvertida {R A : Type} (p : Pedido R A) : Bool :=
  p.effectiveFrom.any fun start => p.effectiveUntil.any fun finish => finish.naoDepois start

/-- The row of a publication, or what is raised before anything is sent. -/
def preparar (p : Pedido repo.Regra repo.Autoridade) : Except (Falha repo.Recusa) Linha :=
  match repo.recusaDasChaves p.policyKey p.autoridade with
  | some falha => .error falha
  | none =>
    if p.version < 1 then .error (.valueError "version deve ser >= 1")
    else if p.janelaInvertida then
      .error (.valueError "effective_until deve ser posterior a effective_from")
    else
      match repo.serializeRules p.rules with
      | .error recusa => .error (.regras recusa)
      | .ok w => .ok
          { policyKey := p.policyKey
            version := p.version
            governancePolicyKey := repo.governancePolicyKey p.autoridade
            rules := w
            effectiveFrom := p.effectiveFrom.map Momento.instante
            effectiveUntil := p.effectiveUntil.map Momento.instante }

variable (aceita : Linha → Bool)

/-- `add_policy` in session `i`, when the index lets it answer. What the columns and the checks of
the table do not take, and a key that the session sees, roll the session back. -/
def addPolicy (S : Appended Linha) (i : ℕ) (p : Pedido repo.Regra repo.Autoridade) :
    Except (Falha repo.Recusa) Linha × Appended Linha :=
  match preparar repo p with
  | .error falha => (.error falha, S)
  | .ok row =>
    if aceita row = false then (.error .persistence, S.rollback i)
    else if row.chave ∈ S.keys Linha.chave i then
      (.error (.versionExists p.policyKey p.version), S.rollback i)
    else (.ok row, S.insert i row)

/-- `effective_version_at`, over the rows that a session sees. -/
def effectiveVersionAt (rows : List Linha) (policyKey : Texto) (moment : ℤ) : Option Linha :=
  greatest Linha.version (fun row => row.policyKey = policyKey && row.vigente moment) rows

/-! ## Runs -/

/-- A call that was answered. -/
structure Chamada where
  sessao : ℕ
  pedido : Pedido repo.Regra repo.Autoridade
  resposta : Except (Falha repo.Recusa) Linha

structure Estado where
  linhas : Appended Linha := {}
  chamadas : List (Chamada repo) := []

variable {repo}

def Estado.responder (s : Estado repo) (i : ℕ) (p : Pedido repo.Regra repo.Autoridade)
    (fim : Except (Falha repo.Recusa) Linha × Appended Linha) : Estado repo where
  linhas := fim.2
  chamadas := s.chamadas ++ [⟨i, p, fim.1⟩]

/-- One session does one thing. -/
inductive Passo (s : Estado repo) : Estado repo → Prop
  | addPolicy (i : ℕ) (p : Pedido repo.Regra repo.Autoridade)
      (livre : ∀ row, preparar repo p = .ok row → aceita row = true →
        ¬s.linhas.Waits Linha.chave i row.chave) :
      Passo s (s.responder i p (addPolicy repo aceita s.linhas i p))
  /-- The server gives up a call that waits for another session, as in a deadlock. -/
  | desistencia (i : ℕ) (p : Pedido repo.Regra repo.Autoridade) (row : Linha)
      (preparada : preparar repo p = .ok row)
      (espera : s.linhas.Waits Linha.chave i row.chave) :
      Passo s (s.responder i p (.error .persistence, s.linhas.rollback i))
  | commit (i : ℕ) : Passo s { s with linhas := s.linhas.commit i }
  | rollback (i : ℕ) : Passo s { s with linhas := s.linhas.rollback i }

/-- From one state to a later one. -/
def Corre : Estado repo → Estado repo → Prop := Relation.ReflTransGen (Passo aceita)

def Alcancavel (s : Estado repo) : Prop := Corre aceita {} s

/-! ## One publication -/

variable {aceita} {p : Pedido repo.Regra repo.Autoridade} {row : Linha} {S : Appended Linha} {i : ℕ}

/-- The row that a call answers with says what was published. -/
structure Publica (p : Pedido repo.Regra repo.Autoridade) (row : Linha) : Prop where
  chave : row.chave = (p.policyKey, p.version)
  janela : row.effectiveFrom = p.effectiveFrom.map Momento.instante ∧
    row.effectiveUntil = p.effectiveUntil.map Momento.instante
  regras : ∃ lidas, repo.deserializeRules row.rules = some lidas ∧ lidas.Perm p.rules

theorem publica_of_preparar (h : preparar repo p = .ok row) : Publica p row := by
  unfold preparar at h
  split at h
  · cases h
  · split at h
    · cases h
    · split at h
      · cases h
      · split at h
        case h_1 => cases h
        case h_2 w hw =>
          obtain rfl := Except.ok.inj h
          exact ⟨rfl, ⟨rfl, rfl⟩, repo.lidas hw⟩

/-- What a call that comes to the index does. -/
theorem addPolicy_of_preparar (hrow : preparar repo p = .ok row) (haceita : aceita row = true) :
    addPolicy repo aceita S i p =
      if row.chave ∈ S.keys Linha.chave i then
        (.error (.versionExists p.policyKey p.version), S.rollback i)
      else (.ok row, S.insert i row) := by
  unfold addPolicy
  simp only [hrow, haceita, Bool.true_eq_false, if_false]

variable (aceita) in
/-- A call answers with a row that it inserts, or leaves the rows, or rolls its session back. -/
theorem addPolicy_cases (S : Appended Linha) (i : ℕ) (p : Pedido repo.Regra repo.Autoridade) :
    (∃ row, preparar repo p = .ok row ∧ aceita row = true ∧ row.chave ∉ S.keys Linha.chave i ∧
      addPolicy repo aceita S i p = (.ok row, S.insert i row)) ∨
    ∃ falha, (addPolicy repo aceita S i p).1 = .error falha ∧
      ((addPolicy repo aceita S i p).2 = S ∨ (addPolicy repo aceita S i p).2 = S.rollback i) := by
  cases hrow : preparar repo p with
  | error falha =>
    refine .inr ⟨falha, ?_, .inl ?_⟩ <;> simp only [addPolicy, hrow]
  | ok row =>
    by_cases haceita : aceita row = true
    · rw [addPolicy_of_preparar hrow haceita]
      by_cases hseen : row.chave ∈ S.keys Linha.chave i
      · rw [if_pos hseen]
        exact .inr ⟨_, rfl, .inr rfl⟩
      · rw [if_neg hseen]
        exact .inl ⟨row, rfl, haceita, hseen, rfl⟩
    · rw [Bool.not_eq_true] at haceita
      refine .inr ⟨.persistence, ?_, .inr ?_⟩ <;> simp only [addPolicy, hrow, haceita, if_true]

/-! ## What a run keeps -/

variable {s s' : Estado repo}

/-- What holds of the rows and the answers of every run. -/
structure Coerente (s : Estado repo) : Prop where
  sound : s.linhas.Sound Linha.chave
  publicada : ∀ i, ∀ row ∈ s.linhas.view i, ∃ c ∈ s.chamadas,
    c.resposta = .ok row ∧ Publica c.pedido row

theorem Coerente.inicial : Coerente ({} : Estado repo) where
  sound := .empty
  publicada _ _ hrow := by cases hrow

/-- Rows that a session sees after it gave up its own were seen before. -/
theorem Coerente.rollback (h : Coerente s) (i : ℕ) :
    (s.linhas.rollback i).Sound Linha.chave ∧ ∀ j, ∀ row ∈ (s.linhas.rollback i).view j,
      ∃ c ∈ s.chamadas, c.resposta = .ok row ∧ Publica c.pedido row := by
  refine ⟨h.sound.rollback i, fun j row hrow => h.publicada j row ?_⟩
  unfold Appended.view Appended.rollback at hrow
  rw [Appended.pending_clear] at hrow
  split at hrow
  · rw [List.append_nil] at hrow
    exact List.mem_append_left _ hrow
  · exact hrow

/-- Another answer leaves what was published. -/
theorem Coerente.responder {fim : Except (Falha repo.Recusa) Linha × Appended Linha}
    (hsound : fim.2.Sound Linha.chave)
    (hrows : ∀ j, ∀ row ∈ fim.2.view j, (∃ c ∈ s.chamadas, c.resposta = .ok row ∧
      Publica c.pedido row) ∨ fim.1 = .ok row ∧ Publica p row) :
    Coerente (s.responder i p fim) where
  sound := hsound
  publicada j row hrow := by
    rcases hrows j row hrow with ⟨c, hc, hanswer⟩ | hnew
    · exact ⟨c, List.mem_append_left _ hc, hanswer⟩
    · exact ⟨_, List.mem_append_right _ List.mem_cons_self, hnew⟩

/-- One step keeps the key unique, and its rows are answers. -/
theorem Coerente.passo (h : Coerente s) (hstep : Passo aceita s s') : Coerente s' := by
  cases hstep with
  | addPolicy i p livre =>
    rcases addPolicy_cases aceita s.linhas i p with
      ⟨row, hrow, haceita, hfree, heq⟩ | ⟨falha, -, hkept | hrolled⟩
    · rw [heq]
      refine .responder (h.sound.insert (livre row hrow haceita) hfree) fun j row' hrow' => ?_
      unfold Appended.view at hrow'
      rw [Appended.pending_insert] at hrow'
      split at hrow'
      case isTrue hj =>
        subst hj
        rw [← List.append_assoc, List.mem_append] at hrow'
        rcases hrow' with hold | hnew
        · exact .inl (h.publicada j row' hold)
        · rw [List.mem_singleton] at hnew
          subst hnew
          exact .inr ⟨rfl, publica_of_preparar hrow⟩
      case isFalse => exact .inl (h.publicada j row' hrow')
    · refine .responder (by rw [hkept]; exact h.sound) fun j row hrow => .inl ?_
      rw [hkept] at hrow
      exact h.publicada j row hrow
    · obtain ⟨hsound, hrows⟩ := h.rollback i
      refine .responder (by rw [hrolled]; exact hsound) fun j row hrow => .inl ?_
      rw [hrolled] at hrow
      exact hrows j row hrow
  | desistencia i p row =>
    obtain ⟨hsound, hrows⟩ := h.rollback i
    exact .responder hsound fun j row hrow => .inl (hrows j row hrow)
  | commit i =>
    refine ⟨h.sound.commit i, fun j row hrow => ?_⟩
    change row ∈ (s.linhas.commit i).view j at hrow
    unfold Appended.view Appended.commit at hrow
    rw [Appended.pending_clear, List.mem_append] at hrow
    rcases hrow with hcommitted | hpending
    · exact h.publicada i row hcommitted
    · split at hpending
      · cases hpending
      · exact h.publicada j row (List.mem_append_right _ hpending)
  | rollback i =>
    obtain ⟨hsound, hrows⟩ := h.rollback i
    exact ⟨hsound, hrows⟩

theorem Coerente.corre (h : Coerente s) (hrun : Corre aceita s s') : Coerente s' := by
  induction hrun with
  | refl => exact h
  | tail _ hstep ih => exact ih.passo hstep

theorem coerente_of_alcancavel (h : Alcancavel aceita s) : Coerente s := Coerente.inicial.corre h

/-- A step adds rows behind the committed ones, or none. -/
theorem table_of_passo (hstep : Passo aceita s s') : s.linhas.table <+: s'.linhas.table := by
  cases hstep with
  | addPolicy i p =>
    rcases addPolicy_cases aceita s.linhas i p with
      ⟨row, -, -, -, heq⟩ | ⟨falha, -, hkept | hrolled⟩
    · rw [heq]
      exact List.prefix_rfl
    · change _ <+: (addPolicy repo aceita s.linhas i p).2.table
      rw [hkept]
    · change _ <+: (addPolicy repo aceita s.linhas i p).2.table
      rw [hrolled]
      exact List.prefix_rfl
  | desistencia => exact List.prefix_rfl
  | commit i => exact List.prefix_append _ _
  | rollback i => exact List.prefix_rfl

/-- What was committed stays as it is. -/
theorem table_of_corre (hrun : Corre aceita s s') : s.linhas.table <+: s'.linhas.table := by
  induction hrun with
  | refl => exact List.prefix_rfl
  | tail _ hstep ih => exact ih.trans (table_of_passo hstep)

/-! ## Versions in force -/

variable {rows new : List Linha} {policyKey : Texto} {moment : ℤ}

/-- In force under the key. -/
def EmVigor (policyKey : Texto) (moment : ℤ) (row : Linha) : Prop :=
  row.policyKey = policyKey ∧ row.vigente moment = true

theorem emVigor_iff : (row.policyKey = policyKey && row.vigente moment) = true ↔
    EmVigor policyKey moment row := by
  simp [EmVigor]

variable (policyKey moment) in
/-- One version is one row, among rows that a session sees. -/
theorem version_injective (h : S.Sound Linha.chave) (i : ℕ) : ∀ a ∈ S.view i, ∀ b ∈ S.view i,
    (a.policyKey = policyKey && a.vigente moment) = true →
      (b.policyKey = policyKey && b.vigente moment) = true → a.version = b.version → a = b := by
  intro a ha b hb hpa hpb hversion
  rw [emVigor_iff] at hpa hpb
  refine h.eq_of_key ha hb ?_
  rw [Linha.chave, Linha.chave, hpa.1, hpb.1, hversion]

/-- The answer is the greatest version in force. -/
theorem Coerente.effectiveVersionAt_eq_some (h : Coerente s) (i : ℕ) :
    effectiveVersionAt (s.linhas.view i) policyKey moment = some row ↔
      row ∈ s.linhas.view i ∧ EmVigor policyKey moment row ∧
        ∀ other ∈ s.linhas.view i, EmVigor policyKey moment other → other.version ≤ row.version := by
  have hspec : effectiveVersionAt (s.linhas.view i) policyKey moment = some row ↔ _ :=
    greatest_eq_some (version_injective policyKey moment h.sound i)
  simp only [emVigor_iff] at hspec
  exact hspec

theorem effectiveVersionAt_eq_none : effectiveVersionAt rows policyKey moment = none ↔
    ∀ row ∈ rows, ¬EmVigor policyKey moment row := by
  unfold effectiveVersionAt
  rw [greatest_eq_none]
  simp only [← emVigor_iff, Bool.not_eq_true]

/-- New rows change the answer only where one of them is in force and no greater version is. -/
theorem of_effectiveVersionAt_ne (hrank : ∀ a ∈ rows ++ new, ∀ b ∈ rows ++ new,
      (a.policyKey = policyKey && a.vigente moment) = true →
      (b.policyKey = policyKey && b.vigente moment) = true → a.version = b.version → a = b)
    (hne : effectiveVersionAt (rows ++ new) policyKey moment ≠
      effectiveVersionAt rows policyKey moment) :
    ∃ row ∈ new, EmVigor policyKey moment row ∧
      ∀ other ∈ rows, EmVigor policyKey moment other → other.version < row.version := by
  obtain ⟨row, hrow, hp, hbelow⟩ := of_greatest_append_ne hrank hne
  exact ⟨row, hrow, emVigor_iff.mp hp, fun other hother hforce =>
    hbelow other hother (emVigor_iff.mpr hforce)⟩

/-! ## The history -/

/-- What the history of a table says. A session sees the committed rows and its own. -/
structure Historia (aceita : Linha → Bool) (s : Estado repo) : Prop where
  /-- A version of a key is committed at most once. -/
  unica : (s.linhas.table.map Linha.chave).Nodup
  /-- Committed rows stay, as they are. -/
  permanece : ∀ s', Corre aceita s s' → s.linhas.table <+: s'.linhas.table
  /-- Each of them is what a call has published, rules included. -/
  publicada : ∀ row ∈ s.linhas.table, ∃ c ∈ s.chamadas,
    c.resposta = .ok row ∧ Publica c.pedido row
  /-- A call that the index answers has the version, or learns that it exists. -/
  respondida : ∀ i p row, preparar repo p = .ok row → aceita row = true →
    (addPolicy repo aceita s.linhas i p).1 =
      if row.chave ∈ s.linhas.keys Linha.chave i then
        .error (.versionExists p.policyKey p.version)
      else .ok row
  /-- The answer is the greatest version in force that the session sees. -/
  maior : ∀ i policyKey moment row,
    effectiveVersionAt (s.linhas.view i) policyKey moment = some row ↔
      row ∈ s.linhas.view i ∧ EmVigor policyKey moment row ∧
        ∀ other ∈ s.linhas.view i, EmVigor policyKey moment other → other.version ≤ row.version
  nenhuma : ∀ i policyKey moment,
    effectiveVersionAt (s.linhas.view i) policyKey moment = none ↔
      ∀ row ∈ s.linhas.view i, ¬EmVigor policyKey moment row
  /-- It depends on the rows alone, whatever their order. -/
  ordem : ∀ i rows policyKey moment, rows.Perm (s.linhas.view i) →
    effectiveVersionAt rows policyKey moment =
      effectiveVersionAt (s.linhas.view i) policyKey moment
  /-- For a session without rows of its own these are the committed ones. -/
  gravadas : ∀ i, s.linhas.pending i = [] → s.linhas.view i = s.linhas.table
  /-- What a session publishes changes its answers only within the window, and under no greater
  version. -/
  publica : ∀ i p row policyKey moment, ¬s.linhas.Waits Linha.chave i row.chave →
    (addPolicy repo aceita s.linhas i p).1 = .ok row →
    effectiveVersionAt ((addPolicy repo aceita s.linhas i p).2.view i) policyKey moment ≠
      effectiveVersionAt (s.linhas.view i) policyKey moment →
    EmVigor policyKey moment row ∧ ∀ other ∈ s.linhas.view i,
      EmVigor policyKey moment other → other.version < row.version
  /-- So do the rows that it commits, for the others. -/
  grava : ∀ i policyKey moment,
    effectiveVersionAt (s.linhas.commit i).table policyKey moment ≠
      effectiveVersionAt s.linhas.table policyKey moment →
    ∃ row ∈ s.linhas.pending i, EmVigor policyKey moment row ∧
      ∀ other ∈ s.linhas.table, EmVigor policyKey moment other → other.version < row.version

/-- The rows of a session after it has inserted one. -/
theorem view_insert : (S.insert i row).view i = S.view i ++ [row] := by
  unfold Appended.view
  rw [Appended.pending_insert, if_pos rfl, ← List.append_assoc]
  rfl

theorem Coerente.historia (h : Coerente s) : Historia aceita s where
  unica := h.sound.table_nodup
  permanece _ hrun := table_of_corre hrun
  publicada row hrow := h.publicada 0 row (List.mem_append_left _ hrow)
  respondida i p row hrow haceita := by
    rw [addPolicy_of_preparar hrow haceita]
    split <;> rfl
  maior i _ _ _ := h.effectiveVersionAt_eq_some i
  nenhuma _ _ _ := effectiveVersionAt_eq_none
  ordem i rows policyKey moment hperm :=
    (greatest_perm hperm.symm (version_injective policyKey moment h.sound i)).symm
  gravadas i hnone := by rw [Appended.view, hnone, List.append_nil]
  publica i p row policyKey moment hwaits hanswer hne := by
    obtain ⟨row', hrow', -, hfree, heq⟩ | ⟨falha, hfail, -⟩ :=
      addPolicy_cases aceita s.linhas i p
    · rw [heq] at hanswer hne
      obtain rfl := Except.ok.inj hanswer
      rw [view_insert] at hne
      have hsound := h.sound.insert hwaits hfree
      obtain ⟨new, hnew, hforce, hbelow⟩ := of_effectiveVersionAt_ne
        (fun a ha b hb => version_injective _ _ hsound i a (view_insert ▸ ha) b (view_insert ▸ hb)) hne
      rw [List.mem_singleton] at hnew
      subst hnew
      exact ⟨hforce, hbelow⟩
    · rw [hfail] at hanswer
      cases hanswer
  grava i _ _ hne := of_effectiveVersionAt_ne (version_injective _ _ h.sound i) hne

/-- Every state of a run has its history. -/
theorem policy_history (tabela : Politica) (aceita : Linha → Bool)
    {s : Estado tabela.repositorio} (h : Alcancavel aceita s) : Historia aceita s :=
  (coerente_of_alcancavel h).historia

/-! ## A first publication -/

variable (aceita) in
/-- The first publication of a table goes through. -/
theorem alcancavel_primeira (i : ℕ) (hrow : preparar repo p = .ok row)
    (haceita : aceita row = true) : Alcancavel aceita
      (({} : Estado repo).responder i p (.ok row, ({} : Appended Linha).insert i row)) := by
  have hanswer : addPolicy repo aceita ({} : Appended Linha) i p =
      (.ok row, ({} : Appended Linha).insert i row) := by
    rw [addPolicy_of_preparar hrow haceita]
    exact if_neg List.not_mem_nil
  rw [← hanswer]
  refine .tail .refl (.addPolicy i p fun _ _ _ hwaits => ?_)
  obtain ⟨j, -, hmem⟩ := hwaits
  exact List.not_mem_nil hmem

theorem r1_stated : (Texto.of "r1").all CodePoint.isSpace = false := by decide

theorem none_stated : ∀ t ∈ (∅ : Finset Texto), t.all CodePoint.isSpace = false := by simp

/-- A rule that denies readings. -/
def regraDeLeitura : Codec.GovernanceRule where
  ruleId := Texto.of "r1"
  effect := .deny
  operations := {.read}
  ruleId_stated := r1_stated
  actorRefs_stated := none_stated
  purposes_stated := none_stated

/-- A version without end. -/
def versao (n : ℤ) : Pedido Codec.GovernanceRule Unit where
  policyKey := Texto.of "k"
  version := n
  autoridade := ()
  rules := [regraDeLeitura]

theorem preparar_versao {n : ℤ} (hn : 1 ≤ n) :
    ∃ row, preparar Politica.governance.repositorio (versao n) = .ok row := by
  have hwritten : GovernanceRule.serializeRules [regraDeLeitura] = .ok _ :=
    serializar_eq_ok.mpr ⟨List.nodup_singleton _, rfl⟩
  have hkey : recusaEmBranco (ρ := List Texto) "policy_key" (Texto.of "k") = none := rfl
  have hnot : ¬n < 1 := by omega
  cases hrow : preparar Politica.governance.repositorio (versao n) with
  | ok row => exact ⟨row, rfl⟩
  | error falha =>
    unfold preparar at hrow
    simp only [Politica.repositorio, governancePolicyRepository, versao, hkey, hnot, hwritten,
      Pedido.janelaInvertida, Option.any_none, if_false, Bool.false_eq_true] at hrow
    cases hrow

theorem policy_history_first : ∃ s : Estado Politica.governance.repositorio,
    s.chamadas.length = 1 ∧ Historia (fun _ => true) s := by
  obtain ⟨row, hrow⟩ := preparar_versao (n := 1) (by omega)
  exact ⟨_, rfl, policy_history .governance (fun _ => true) (alcancavel_primeira _ 0 hrow rfl)⟩

/-- A session sees its own rows before they are committed, and a call that waits may be given up:
here the second session, with a version of its own, asks for that of the first. -/
theorem policy_history_uncommitted :
    (¬∀ (tabela : Politica) (aceita : Linha → Bool) (s : Estado tabela.repositorio),
      Alcancavel aceita s → ∀ i policyKey moment row,
        effectiveVersionAt (s.linhas.view i) policyKey moment = some row →
          row ∈ s.linhas.table) ∧
    ¬∀ (tabela : Politica) (aceita : Linha → Bool) (s : Estado tabela.repositorio),
      Alcancavel aceita s → ∀ c ∈ s.chamadas, ∀ row,
        preparar tabela.repositorio c.pedido = .ok row → aceita row = true →
          c.resposta = .ok row ∨
            c.resposta = .error (.versionExists c.pedido.policyKey c.pedido.version) := by
  obtain ⟨row, hrow⟩ := preparar_versao (n := 1) (by omega)
  have hfirst := alcancavel_primeira (fun _ => true) 0 hrow rfl
  constructor
  · intro hall
    have hpublica := publica_of_preparar hrow
    have hforce : EmVigor row.policyKey 0 row := by
      refine ⟨rfl, ?_⟩
      rw [Linha.vigente, hpublica.janela.1, hpublica.janela.2]
      rfl
    have hview : ((({} : Appended Linha).insert 0 row).view 0) = [row] := view_insert
    have htop := ((coerente_of_alcancavel hfirst).effectiveVersionAt_eq_some 0).mpr
      ⟨hview ▸ List.mem_cons_self, hforce, fun other hother _ => by
        have hsame : other = row := by
          rw [← List.mem_singleton, ← hview]
          exact hother
        rw [hsame]⟩
    exact List.not_mem_nil (hall .governance _ _ hfirst 0 _ 0 row htop)
  · intro hall
    obtain ⟨row', hrow'⟩ := preparar_versao (n := 2) (by omega)
    have hdistinct : row'.chave ≠ row.chave := by
      rw [(publica_of_preparar hrow).chave, (publica_of_preparar hrow').chave]
      decide
    have hpending (j : ℕ) : (({} : Appended Linha).insert 0 row).pending j =
        if j = 0 then [row] else [] := Appended.pending_insert
    have hanswer : addPolicy Politica.governance.repositorio (fun _ => true)
        (({} : Appended Linha).insert 0 row) 1 (versao 2) =
          (.ok row', (({} : Appended Linha).insert 0 row).insert 1 row') := by
      rw [addPolicy_of_preparar hrow' rfl]
      exact if_neg List.not_mem_nil
    have hsecond := hfirst.tail (.addPolicy 1 (versao 2) fun other hother _ hwaits => by
      obtain rfl := Except.ok.inj (hrow'.symm.trans hother)
      obtain ⟨j, -, hmem⟩ := hwaits
      change _ ∈ ((({} : Appended Linha).insert 0 row).pending j).map Linha.chave at hmem
      rw [hpending] at hmem
      split at hmem
      · exact hdistinct (List.mem_singleton.mp hmem)
      · exact List.not_mem_nil hmem)
    have hwaits : ((({} : Appended Linha).insert 0 row).insert 1 row').Waits Linha.chave 1
        row.chave := by
      refine ⟨0, by omega, ?_⟩
      rw [Appended.pending_insert, if_neg (by omega), hpending]
      exact List.mem_map_of_mem List.mem_cons_self
    have hrun := hsecond.tail (.desistencia 1 (versao 1) row hrow (by
      change Appended.Waits Linha.chave (addPolicy Politica.governance.repositorio (fun _ => true)
        (({} : Appended Linha).insert 0 row) 1 (versao 2)).2 1 row.chave
      rw [hanswer]
      exact hwaits))
    rcases hall .governance _ _ hrun _ (List.mem_append_right _ List.mem_cons_self) row hrow rfl
      with hok | hexists
    · cases hok
    · cases hexists

end PiaOs.Memory.PolicyHistory
