import PiaOs.Connections.Profiles
import PiaOs.Support.Chains
import PiaOs.Transactions.Indexed

/-!
# Entitlement claims

Claims are created active and superseded by a conditional update. The table refuses a
successor that does not exist, that belongs to another principal, that is the claim itself or
that supersedes another claim already, and its trigger keeps every other column.
-/

namespace PiaOs.Connections.Kernel

open Support Transactions

inductive EntitlementOrigin
  | userDeclared
  | officiallyDiscovered
  deriving DecidableEq

inductive EntitlementState
  | active
  | superseded
  | expired
  | revoked
  | notConfirmed
  deriving DecidableEq

structure EntitlementClaim where
  controlPrincipalRef : String
  providerFamilyId : Piap.Referencia
  planRef : String
  origin : EntitlementOrigin
  state : EntitlementState
  claimedAt : ℤ
  supersededById : Option Piap.Referencia
  deriving DecidableEq

def maxSlugLength : ℕ := 128

/-- What the columns and the checks of one row refuse. -/
def EntitlementClaim.recusa (l : EntitlementClaim) : Option ErroDoBanco :=
  [recusaDoTexto "control_principal_ref" maxRefLength l.controlPrincipalRef,
    recusaDoTexto "plan_ref" maxSlugLength l.planRef,
    recusar (decide (l.state = .superseded) != l.supersededById.isSome)
      (.restricao "ck_entitlement_claims_superseded_coherent"),
    recusar (!preenchido l.controlPrincipalRef)
      (.restricao "ck_entitlement_claims_principal_not_blank")].findSome? fun recusa => recusa

/-- The table with the transactions in progress. -/
abbrev Alegacoes : Type := Rows Piap.Referencia EntitlementClaim

/-- The claim under an identifier is one of the principal. -/
def DoPrincipal (visto : Table Piap.Referencia EntitlementClaim) (id : Piap.Referencia)
    (controlPrincipalRef : String) : Prop :=
  (visto.lookup id).any (fun l => l.controlPrincipalRef = controlPrincipalRef) = true

instance decidableDoPrincipal (visto : Table Piap.Referencia EntitlementClaim)
    (id : Piap.Referencia) (controlPrincipalRef : String) :
    Decidable (DoPrincipal visto id controlPrincipalRef) :=
  inferInstanceAs (Decidable (_ = true))

/-- A claim that is seen is superseded by the identifier already. -/
def TemAntecedente (visto : Table Piap.Referencia EntitlementClaim) (id : Piap.Referencia) : Prop :=
  ∃ outra l, visto.lookup outra = some l ∧ l.supersededById = some id

instance decidableTemAntecedente (visto : Table Piap.Referencia EntitlementClaim)
    (id : Piap.Referencia) : Decidable (TemAntecedente visto id) :=
  Table.decidableExists visto

/-- What a session asks for. -/
inductive Pedido
  | createEntitlementClaim (sessao : ℕ) (id : Piap.Referencia) (controlPrincipalRef : String)
      (providerFamilyId : Piap.Referencia) (planRef : String) (origin : EntitlementOrigin)
      (claimedAt : ℤ)
  | supersedeEntitlementClaim (sessao : ℕ) (controlPrincipalRef : String)
      (antecedentId successorId : Piap.Referencia)
  | commit (sessao : ℕ)
  | rollback (sessao : ℕ)

/-- The row that `create_entitlement_claim` inserts. -/
def novaAlegacao (controlPrincipalRef : String) (providerFamilyId : Piap.Referencia)
    (planRef : String) (origin : EntitlementOrigin) (claimedAt : ℤ) : EntitlementClaim where
  controlPrincipalRef
  providerFamilyId
  planRef
  origin
  state := .active
  claimedAt
  supersededById := none

/-- The `SET` of `supersede_entitlement_claim`. -/
def EntitlementClaim.superada (l : EntitlementClaim) (successorId : Piap.Referencia) :
    EntitlementClaim :=
  { l with state := .superseded, supersededById := some successorId }

/-- The `WHERE` of `supersede_entitlement_claim`, for the row under the antecedent. -/
def Alcanca (controlPrincipalRef : String) (antecedentId successorId : Piap.Referencia)
    (l : EntitlementClaim) : Prop :=
  l.controlPrincipalRef = controlPrincipalRef ∧ l.state = .active ∧ antecedentId ≠ successorId

instance decidableAlcanca (controlPrincipalRef : String) (antecedentId successorId : Piap.Referencia)
    (l : EntitlementClaim) : Decidable (Alcanca controlPrincipalRef antecedentId successorId l) :=
  inferInstanceAs (Decidable (_ ∧ _ ∧ _))

/-- Another transaction has pointed a claim to the identifier. -/
def Apontada (S : Alegacoes) (i : ℕ) (id : Piap.Referencia) : Prop :=
  ∃ j own, S.pending.lookup j = some own ∧ (j ≠ i ∧ TemAntecedente own id)

instance decidableApontada (S : Alegacoes) (i : ℕ) (id : Piap.Referencia) :
    Decidable (Apontada S i id) :=
  Table.decidableExists S.pending

/-- One request, when it does not wait, with the result of a supersession. The update waits
for who has written the antecedent or points to it, the unique index for who has given the
successor an antecedent, and the foreign key for who has written the successor. A statement
that the database refuses leaves its transaction nothing but a rollback. The families are
those of the catalogue. -/
def executar (familias : Piap.Referencia → Bool) (S : Alegacoes) :
    Pedido → Option (Alegacoes × Bool)
  | .createEntitlementClaim i id principal familia plano origem instante =>
    let nova := novaAlegacao principal familia plano origem instante
    if S.Written i id then none
    else if ((S.view i).lookup id).isSome ∨ nova.recusa ≠ none ∨ familias familia = false then
      some (S.rollback i, false)
    else some (S.put i id nova, true)
  | .supersedeEntitlementClaim i principal antecedente sucessor =>
    match (S.view i).lookup antecedente with
    | none => some (S, false)
    | some l =>
      if ¬Alcanca principal antecedente sucessor l then some (S, false)
      else if S.Written i antecedente ∨ Apontada S i antecedente ∨ Apontada S i sucessor then none
      else if TemAntecedente (S.view i) sucessor ∨
          ¬DoPrincipal (S.view i) sucessor l.controlPrincipalRef then some (S.rollback i, false)
      else if S.Written i sucessor then none
      else some (S.put i antecedente (l.superada sucessor), true)
  | .commit i => some (S.commit i, true)
  | .rollback i => some (S.rollback i, true)

/-- The order of `get_active_entitlement`. -/
def MaisRecente (a b : Piap.Referencia × EntitlementClaim) : Prop :=
  b.2.claimedAt < a.2.claimedAt ∨ b.2.claimedAt = a.2.claimedAt ∧ b.1 ≤ a.1

instance decidableMaisRecente (a b : Piap.Referencia × EntitlementClaim) :
    Decidable (MaisRecente a b) :=
  inferInstanceAs (Decidable (_ ∨ _ ∧ _))

/-- `get_active_entitlement`. -/
def getActiveEntitlement (visto : Table Piap.Referencia EntitlementClaim)
    (controlPrincipalRef : String) (providerFamilyId : Piap.Referencia) :
    Option (Piap.Referencia × EntitlementClaim) :=
  (((visto.entries.map fun entry => (entry.1, entry.2)).filter fun entry =>
    entry.2.controlPrincipalRef = controlPrincipalRef &&
      entry.2.providerFamilyId = providerFamilyId && entry.2.state = .active).insertionSort
    MaisRecente).head?

end PiaOs.Connections.Kernel

/-! ## Succession of entitlement claims

A supersession adds one edge to a relation that no claim has two successors or two antecedents
in. The database does not look at the provider family of the successor, nor at what the
successor leads to; in the runs that keep to both, every chain ends in an active claim. -/

namespace PiaOs.Connections.Kernel

open Support Transactions Relation

variable {familias : Piap.Referencia → Bool} {S S' : Alegacoes} {i j : ℕ}
  {id a b c : Piap.Referencia} {l m r : EntitlementClaim} {controlPrincipalRef : String}

/-! ## What one request does -/

/-- The effect of a request on the claims. -/
inductive Efeito (S : Alegacoes) : Pedido → Alegacoes → Prop
  | nada (pedido : Pedido) : Efeito S pedido S
  | desfaz (pedido : Pedido) (i : ℕ) : Efeito S pedido (S.rollback i)
  | confirma (i : ℕ) : Efeito S (.commit i) (S.commit i)
  | cria (pedido : Pedido) (i : ℕ) (id : Piap.Referencia) (nova : EntitlementClaim)
      (hlivre : ¬S.Written i id) (hausente : (S.view i).lookup id = none)
      (hestado : nova.state = .active) (hsucessor : nova.supersededById = none) :
      Efeito S pedido (S.put i id nova)
  | supera (i : ℕ) (controlPrincipalRef : String) (a b : Piap.Referencia) (l : EntitlementClaim)
      (hl : (S.view i).lookup a = some l) (halcanca : Alcanca controlPrincipalRef a b l)
      (hlivre : ¬S.Written i a) (hapontada : ¬Apontada S i b)
      (hantecedente : ¬TemAntecedente (S.view i) b)
      (hdono : DoPrincipal (S.view i) b l.controlPrincipalRef) :
      Efeito S (.supersedeEntitlementClaim i controlPrincipalRef a b) (S.put i a (l.superada b))

theorem efeito_executar {pedido : Pedido} {resposta : Bool}
    (h : executar familias S pedido = some (S', resposta)) : Efeito S pedido S' := by
  cases pedido with
  | createEntitlementClaim i id principal familia plano origem instante =>
    simp only [executar] at h
    split at h
    · cases h
    case isFalse hlivre =>
      split at h
      · cases h
        exact .desfaz _ i
      case isFalse hrecusa =>
        cases h
        exact .cria _ i id _ hlivre (by simpa using (not_or.mp hrecusa).1) rfl rfl
  | supersedeEntitlementClaim i principal a b =>
    simp only [executar] at h
    split at h
    · cases h
      exact .nada _
    case h_2 l hl =>
      split at h
      · cases h
        exact .nada _
      case isFalse halcanca =>
        split at h
        · cases h
        case isFalse hespera =>
          split at h
          · cases h
            exact .desfaz _ i
          case isFalse hrecusa =>
            split at h
            · cases h
            · cases h
              obtain ⟨hlivre, hespera⟩ := not_or.mp hespera
              obtain ⟨hantecedente, hdono⟩ := not_or.mp hrecusa
              exact .supera i principal a b l hl (not_not.mp halcanca) hlivre
                (not_or.mp hespera).2 hantecedente (not_not.mp hdono)
  | commit i =>
    cases h
    exact .confirma i
  | rollback i =>
    cases h
    exact .desfaz _ i

/-! ## What no request changes -/

/-- What a claim declares. -/
def EntitlementClaim.declarado (l : EntitlementClaim) :
    String × Piap.Referencia × String × EntitlementOrigin × ℤ :=
  (l.controlPrincipalRef, l.providerFamilyId, l.planRef, l.origin, l.claimedAt)

/-- A row may become another one: an active claim may be superseded, and nothing else changes. -/
def Evolui (l m : EntitlementClaim) : Prop :=
  m = l ∨ l.state = .active ∧ m.declarado = l.declarado

theorem Evolui.declarado (h : Evolui l m) : m.declarado = l.declarado := by
  rcases h with rfl | ⟨-, hsame⟩
  · rfl
  · exact hsame

theorem Evolui.trans (h : Evolui l m) (h' : Evolui m r) : Evolui l r := by
  rcases h with rfl | ⟨hactive, hsame⟩
  · exact h'
  · exact .inr ⟨hactive, h'.declarado.trans hsame⟩

theorem evolui_superada (hactive : l.state = .active) : Evolui l (l.superada b) :=
  .inr ⟨hactive, rfl⟩

/-- What a transaction has written of a claim is what its row may become, and no two
transactions have written one claim. -/
structure Integra (S : Alegacoes) : Prop where
  versao : ∀ i id r c, (S.own i).lookup id = some r → S.table.lookup id = some c → Evolui c r
  disjunta : ∀ i j id, (S.own i).lookup id ≠ none → (S.own j).lookup id ≠ none → i = j

/-- Every row of a table is in another one, as it may have become. -/
def Preservada (t t' : Table Piap.Referencia EntitlementClaim) : Prop :=
  ∀ id l, t.lookup id = some l → ∃ m, t'.lookup id = some m ∧ Evolui l m

theorem Preservada.refl (t : Table Piap.Referencia EntitlementClaim) : Preservada t t :=
  fun _ l hl => ⟨l, hl, .inl rfl⟩

theorem Preservada.trans {t t' t'' : Table Piap.Referencia EntitlementClaim}
    (h : Preservada t t') (h' : Preservada t' t'') : Preservada t t'' := by
  intro id l hl
  obtain ⟨m, hm, hlm⟩ := h id l hl
  obtain ⟨r, hr, hmr⟩ := h' id m hm
  exact ⟨r, hr, hlm.trans hmr⟩

theorem Integra.empty : Integra {} := by
  constructor
  · intro i id r c hown
    cases hown
  · intro i j id hown
    exact absurd rfl hown

theorem Integra.put (h : Integra S) (hlivre : ¬S.Written i id)
    (hversao : ∀ c, S.table.lookup id = some c → Evolui c r) : Integra (S.put i id r) := by
  constructor
  · intro j id' r' c hown hc
    rw [Rows.lookup_own_put] at hown
    split at hown
    case isTrue hsame =>
      obtain ⟨rfl, rfl⟩ := hsame
      obtain rfl := Option.some.inj hown
      exact hversao c hc
    case isFalse => exact h.versao j id' r' c hown hc
  · intro j j' id' hj hj'
    rw [Rows.lookup_own_put] at hj hj'
    by_cases hid : id' = id
    · subst hid
      have hsession {k : ℕ} {p : Prop} [Decidable p] (hk : k ≠ i → ¬p)
          (hown : (if p then some r else (S.own k).lookup id') ≠ none) : k = i := by
        by_contra hne
        rw [if_neg (hk hne), Rows.not_written hlivre hne] at hown
        exact hown rfl
      rw [hsession (fun hne hboth => hne hboth.1) hj, hsession (fun hne hboth => hne hboth.1) hj']
    · rw [if_neg (fun hboth => hid hboth.2)] at hj hj'
      exact h.disjunta j j' id' hj hj'

/-- What the others have written is not in what a transaction commits. -/
theorem Integra.table_commit (h : Integra S) (hj : j ≠ i) (hown : (S.own j).lookup id ≠ none) :
    (S.commit i).table.lookup id = S.table.lookup id := by
  refine Rows.view_table ?_
  by_contra hmine
  exact hj (h.disjunta j i id hown hmine)

/-- A transaction that is still open has what it had. -/
theorem own_of_commit (h : ((S.commit i).own j).lookup id = some r) :
    j ≠ i ∧ (S.own j).lookup id = some r := by
  rw [Rows.own_commit] at h
  split at h
  · cases h
  case isFalse hj => exact ⟨hj, h⟩

theorem own_of_rollback (h : ((S.rollback i).own j).lookup id = some r) :
    j ≠ i ∧ (S.own j).lookup id = some r := by
  rw [Rows.own_rollback] at h
  split at h
  · cases h
  case isFalse hj => exact ⟨hj, h⟩

theorem Integra.commit (h : Integra S) (i : ℕ) : Integra (S.commit i) := by
  constructor
  · intro j id r c hown hc
    obtain ⟨hj, hown⟩ := own_of_commit hown
    rw [h.table_commit hj (by rw [hown]; exact Option.some_ne_none r)] at hc
    exact h.versao j id r c hown hc
  · intro j j' id hj hj'
    obtain ⟨r, hr⟩ := Option.ne_none_iff_exists'.mp hj
    obtain ⟨r', hr'⟩ := Option.ne_none_iff_exists'.mp hj'
    have hown : (S.own j).lookup id = some r := (own_of_commit hr).2
    have hown' : (S.own j').lookup id = some r' := (own_of_commit hr').2
    exact h.disjunta j j' id (by simp [hown]) (by simp [hown'])

theorem Integra.rollback (h : Integra S) (i : ℕ) : Integra (S.rollback i) := by
  constructor
  · intro j id r c hown hc
    exact h.versao j id r c (own_of_rollback hown).2 hc
  · intro j j' id hj hj'
    obtain ⟨r, hr⟩ := Option.ne_none_iff_exists'.mp hj
    obtain ⟨r', hr'⟩ := Option.ne_none_iff_exists'.mp hj'
    have hown : (S.own j).lookup id = some r := (own_of_rollback hr).2
    have hown' : (S.own j').lookup id = some r' := (own_of_rollback hr').2
    exact h.disjunta j j' id (by simp [hown]) (by simp [hown'])

/-- What a transaction sees is what the committed rows may become. -/
theorem Integra.view (h : Integra S) (i : ℕ) : Preservada S.table (S.view i) := by
  intro id c hc
  cases hown : (S.own i).lookup id with
  | none => exact ⟨c, by rw [Rows.view_table hown, hc], .inl rfl⟩
  | some r => exact ⟨r, Rows.view_own hown, h.versao i id r c hown hc⟩

/-- The row that a statement sees is what the committed one may become. -/
theorem Integra.visto (h : Integra S) (hl : (S.view i).lookup id = some l)
    (hm : S.table.lookup id = some m) : Evolui m l := by
  obtain ⟨r, hr, hevolui⟩ := h.view i id m hm
  rw [hl] at hr
  cases hr
  exact hevolui

/-- One request keeps what is written coherent, and the committed rows. -/
theorem Integra.step (h : Integra S) {pedido : Pedido} (hefeito : Efeito S pedido S') :
    Integra S' ∧ Preservada S.table S'.table := by
  cases hefeito with
  | nada => exact ⟨h, .refl _⟩
  | desfaz _ i => exact ⟨h.rollback i, .refl _⟩
  | confirma i => exact ⟨h.commit i, h.view i⟩
  | cria _ i id nova hlivre hausente hestado hsucessor =>
    refine ⟨h.put hlivre ?_, .refl _⟩
    intro c hc
    obtain ⟨m, hm, -⟩ := h.view i id c hc
    rw [hausente] at hm
    cases hm
  | supera i principal a b l hl halcanca hlivre hapontada hantecedente hdono =>
    refine ⟨h.put hlivre ?_, .refl _⟩
    intro c hc
    exact (h.visto hl hc).trans (evolui_superada halcanca.2.1)

end PiaOs.Connections.Kernel
