import PiaOs.Connections.Entitlements

/-!
# Chains of entitlement claims

The succession relation over everything that is written, committed or not, is injective and
without cycles as long as every supersession is one to a claim of the same provider family that
does not lead back.
-/

namespace PiaOs.Connections.Kernel

open Support Transactions Relation

variable {familias : Piap.Referencia → Bool} {S S' : Alegacoes} {i j : ℕ}
  {id a b c : Piap.Referencia} {l m r : EntitlementClaim} {controlPrincipalRef : String}
  {t : Table Piap.Referencia EntitlementClaim}

/-- One claim of a table is superseded by another. -/
def SucedeEm (t : Table Piap.Referencia EntitlementClaim) (a b : Piap.Referencia) : Prop :=
  ∃ l, t.lookup a = some l ∧ l.supersededById = some b

/-- A version of a claim, committed or in a transaction. -/
def Versao (S : Alegacoes) (id : Piap.Referencia) (l : EntitlementClaim) : Prop :=
  S.table.lookup id = some l ∨ ∃ i, (S.own i).lookup id = some l

/-- One claim is superseded by another, in the committed rows or in those of a transaction. -/
def Sucede (S : Alegacoes) (a b : Piap.Referencia) : Prop :=
  ∃ l, Versao S a l ∧ l.supersededById = some b

/-- A supersession of the row that it reaches is orderly when the successor is of the provider
family of the antecedent and does not lead back to it. -/
def Ordeiro (S : Alegacoes) : Pedido → Prop
  | .supersedeEntitlementClaim i controlPrincipalRef antecedentId successorId =>
    ∀ l m, (S.view i).lookup antecedentId = some l →
      Alcanca controlPrincipalRef antecedentId successorId l →
      (S.view i).lookup successorId = some m →
      m.providerFamilyId = l.providerFamilyId ∧ ¬ReflTransGen (Sucede S) successorId antecedentId
  | _ => True

/-- One request that does not wait. -/
def Passo (familias : Piap.Referencia → Bool) (S S' : Alegacoes) : Prop :=
  ∃ pedido resposta, executar familias S pedido = some (S', resposta)

/-- One orderly request that does not wait. -/
def PassoOrdeiro (familias : Piap.Referencia → Bool) (S S' : Alegacoes) : Prop :=
  ∃ pedido resposta, Ordeiro S pedido ∧ executar familias S pedido = some (S', resposta)

/-- Two claims are of one principal and of one provider family. -/
def MesmoDireito (l m : EntitlementClaim) : Prop :=
  m.controlPrincipalRef = l.controlPrincipalRef ∧ m.providerFamilyId = l.providerFamilyId

theorem MesmoDireito.trans (h : MesmoDireito l m) (h' : MesmoDireito m r) : MesmoDireito l r :=
  ⟨h'.1.trans h.1, h'.2.trans h.2⟩

theorem Evolui.mesmoDireito (h : Evolui l m) : MesmoDireito l m := by
  have hsame := h.declarado
  simp only [EntitlementClaim.declarado, Prod.mk.injEq] at hsame
  exact ⟨hsame.1, hsame.2.1⟩

/-- A claim is active, or it is superseded by another one. -/
def EstadoCoerente (l : EntitlementClaim) : Prop :=
  l.state = .active ∧ l.supersededById = none ∨
    l.state = .superseded ∧ ∃ b, l.supersededById = some b

theorem EstadoCoerente.ativa (h : EstadoCoerente l) (hactive : l.state = .active) :
    l.supersededById = none := by
  rcases h with ⟨-, hnone⟩ | ⟨hsuperseded, -⟩
  · exact hnone
  · rw [hactive] at hsuperseded
    cases hsuperseded

/-- The successor of a claim is seen, and is of the same principal and provider family. -/
def AlvoEm (visto : Table Piap.Referencia EntitlementClaim) (l : EntitlementClaim) : Prop :=
  ∀ b, l.supersededById = some b → ∃ m, visto.lookup b = some m ∧ MesmoDireito l m

theorem AlvoEm.mono {visto visto' : Table Piap.Referencia EntitlementClaim}
    (hpreservada : Preservada visto visto') (h : AlvoEm visto l) : AlvoEm visto' l := by
  intro b hb
  obtain ⟨m, hm, hsame⟩ := h b hb
  obtain ⟨r, hr, hevolui⟩ := hpreservada b m hm
  exact ⟨r, hr, hsame.trans hevolui.mesmoDireito⟩

/-- What holds in a run of orderly requests. -/
structure Coerente (S : Alegacoes) : Prop extends Integra S where
  estado : ∀ id l, Versao S id l → EstadoCoerente l
  alvo_own : ∀ i id l, (S.own i).lookup id = some l → AlvoEm (S.view i) l
  alvo_table : ∀ id l, S.table.lookup id = some l → AlvoEm S.table l
  unico : ∀ a b c, Sucede S a c → Sucede S b c → a = b
  aciclico : ∀ a, ¬TransGen (Sucede S) a a

theorem not_versao_empty : ¬Versao {} id l := by
  rintro (h | ⟨i, h⟩)
  · cases h
  · cases h

theorem Coerente.empty : Coerente {} where
  toIntegra := Integra.empty
  estado _ _ h := absurd h not_versao_empty
  alvo_own i id l h := absurd (.inr ⟨i, h⟩) not_versao_empty
  alvo_table id l h := absurd (.inl h) not_versao_empty
  unico := by
    rintro a b c ⟨l, hl, -⟩
    exact absurd hl not_versao_empty
  aciclico a hcycle := by
    obtain ⟨b, ⟨l, hl, -⟩, -⟩ := TransGen.head'_iff.mp hcycle
    exact absurd hl not_versao_empty

/-! ## What each effect does to the versions -/

theorem versao_put (h : Versao (S.put i id r) a l) : Versao S a l ∨ a = id ∧ l = r := by
  rcases h with htable | ⟨j, hown⟩
  · exact .inl (.inl htable)
  · rw [Rows.lookup_own_put] at hown
    split at hown
    case isTrue hsame => exact .inr ⟨hsame.2, (Option.some.inj hown).symm⟩
    case isFalse => exact .inl (.inr ⟨j, hown⟩)

theorem versao_view (h : (S.view i).lookup a = some l) : Versao S a l := by
  rcases Rows.view_cases h with hown | ⟨-, htable⟩
  · exact .inr ⟨i, hown⟩
  · exact .inl htable

theorem versao_commit (h : Versao (S.commit i) a l) : Versao S a l := by
  rcases h with htable | ⟨j, hown⟩
  · exact versao_view htable
  · exact .inr ⟨j, (own_of_commit hown).2⟩

theorem versao_rollback (h : Versao (S.rollback i) a l) : Versao S a l := by
  rcases h with htable | ⟨j, hown⟩
  · exact .inl htable
  · exact .inr ⟨j, (own_of_rollback hown).2⟩

theorem sucede_mono (hsub : ∀ a l, Versao S' a l → Versao S a l) (h : Sucede S' a b) :
    Sucede S a b := by
  obtain ⟨l, hl, hb⟩ := h
  exact ⟨l, hsub a l hl, hb⟩

/-- What is seen after a write. -/
theorem preservada_put (hevolui : ∀ l, (S.view i).lookup id = some l → Evolui l r) (j : ℕ) :
    Preservada (S.view j) ((S.put i id r).view j) := by
  intro a l hl
  rw [Rows.lookup_view_put]
  split
  case isTrue hsame =>
    obtain ⟨rfl, rfl⟩ := hsame
    exact ⟨r, rfl, hevolui l hl⟩
  case isFalse => exact ⟨l, hl, .inl rfl⟩

/-- Only the claims that are written change. -/
theorem Coerente.put (h : Coerente S) (hlivre : ¬S.Written i id)
    (hevolui : ∀ l, (S.view i).lookup id = some l → Evolui l r) (hestado : EstadoCoerente r)
    (halvo : AlvoEm (S.view i) r)
    (hunico : ∀ a b c, Sucede (S.put i id r) a c → Sucede (S.put i id r) b c → a = b)
    (haciclico : ∀ a, ¬TransGen (Sucede (S.put i id r)) a a) : Coerente (S.put i id r) where
  toIntegra := by
    refine h.toIntegra.put hlivre ?_
    intro c hc
    obtain ⟨m, hm, hcm⟩ := h.view i id c hc
    exact hcm.trans (hevolui m hm)
  estado a l hl := by
    rcases versao_put hl with hold | ⟨-, rfl⟩
    · exact h.estado a l hold
    · exact hestado
  alvo_own j a l hown := by
    rw [Rows.lookup_own_put] at hown
    split at hown
    case isTrue hsame =>
      obtain ⟨rfl, rfl⟩ := hsame
      obtain rfl := Option.some.inj hown
      exact halvo.mono (preservada_put hevolui j)
    case isFalse => exact (h.alvo_own j a l hown).mono (preservada_put hevolui j)
  alvo_table := h.alvo_table
  unico := hunico
  aciclico := haciclico

/-- A claim without a successor adds nothing to the relation. -/
theorem sucede_put_ativa (hnone : r.supersededById = none) (h : Sucede (S.put i id r) a b) :
    Sucede S a b := by
  obtain ⟨l, hl, hb⟩ := h
  rcases versao_put hl with hold | ⟨-, rfl⟩
  · exact ⟨l, hold, hb⟩
  · rw [hnone] at hb
    cases hb

/-- A supersession adds one edge. -/
theorem sucede_put_superada (h : Sucede (S.put i a (l.superada b)) id c) :
    Sucede S id c ∨ id = a ∧ c = b := by
  obtain ⟨m, hm, hc⟩ := h
  rcases versao_put hm with hold | ⟨rfl, rfl⟩
  · exact .inl ⟨m, hold, hc⟩
  · exact .inr ⟨rfl, (Option.some.inj hc).symm⟩

/-- A claim that no transaction has given an antecedent, and that the own one does not see one
of, has none. -/
theorem Coerente.sem_antecedente (h : Coerente S) (hapontada : ¬Apontada S i b)
    (hantecedente : ¬TemAntecedente (S.view i) b) : ¬Sucede S a b := by
  rintro ⟨l, htable | ⟨j, hown⟩, hb⟩
  · obtain ⟨m, hm, rfl | ⟨hactive, -⟩⟩ := h.view i a l htable
    · exact hantecedente ⟨a, m, hm, hb⟩
    · rw [(h.estado a l (.inl htable)).ativa hactive] at hb
      cases hb
  · by_cases hj : j = i
    · subst hj
      exact hantecedente ⟨a, l, Rows.view_own hown, hb⟩
    · exact hapontada ⟨j, S.own j, Rows.pending_of_own hown, hj, a, l, hown, hb⟩

theorem Coerente.supera (h : Coerente S)
    (hl : (S.view i).lookup a = some l) (halcanca : Alcanca controlPrincipalRef a b l)
    (hlivre : ¬S.Written i a) (hapontada : ¬Apontada S i b)
    (hantecedente : ¬TemAntecedente (S.view i) b)
    (hdono : DoPrincipal (S.view i) b l.controlPrincipalRef)
    (hordeiro : Ordeiro S (.supersedeEntitlementClaim i controlPrincipalRef a b)) :
    Coerente (S.put i a (l.superada b)) := by
  obtain ⟨m, hm, hprincipal⟩ := (Option.any_eq_true _ _).mp hdono
  obtain ⟨hfamilia, hvolta⟩ := hordeiro l m hl halcanca hm
  have hnovo : ∀ x y, Sucede (S.put i a (l.superada b)) x y → Sucede S x y ∨ x = a ∧ y = b :=
    fun x y => sucede_put_superada
  have hsem : ∀ x, ¬Sucede S x b := fun x => h.sem_antecedente hapontada hantecedente
  refine h.put hlivre ?_ (.inr ⟨rfl, b, rfl⟩) ?_ ?_ (acyclic_insert hnovo hvolta h.aciclico)
  · intro m' hm'
    rw [hl] at hm'
    cases hm'
    exact evolui_superada halcanca.2.1
  · intro b' hb'
    obtain rfl := Option.some.inj hb'
    exact ⟨m, hm, of_decide_eq_true hprincipal, hfamilia⟩
  · intro x y z hx hy
    rcases hnovo x z hx with hold | ⟨hxa, hzb⟩ <;> rcases hnovo y z hy with hold' | ⟨hya, hzb'⟩
    · exact h.unico x y z hold hold'
    · rw [hzb'] at hold
      exact absurd hold (hsem x)
    · rw [hzb] at hold'
      exact absurd hold' (hsem y)
    · rw [hxa, hya]

theorem Coerente.cria (h : Coerente S) (hlivre : ¬S.Written i id)
    (hausente : (S.view i).lookup id = none) (hestado : r.state = .active)
    (hsucessor : r.supersededById = none) : Coerente (S.put i id r) := by
  have hold : ∀ x y, Sucede (S.put i id r) x y → Sucede S x y :=
    fun x y => sucede_put_ativa hsucessor
  refine h.put hlivre ?_ (.inl ⟨hestado, hsucessor⟩) ?_ ?_ (acyclic_mono hold h.aciclico)
  · intro l hl
    rw [hausente] at hl
    cases hl
  · intro b hb
    rw [hsucessor] at hb
    cases hb
  · intro x y z hx hy
    exact h.unico x y z (hold x z hx) (hold y z hy)

/-- Fewer versions, with the successors of those that are left. -/
theorem Coerente.menos (h : Coerente S) (hintegra : Integra S')
    (hsub : ∀ a l, Versao S' a l → Versao S a l)
    (halvo_own : ∀ i id l, (S'.own i).lookup id = some l → AlvoEm (S'.view i) l)
    (halvo_table : ∀ id l, S'.table.lookup id = some l → AlvoEm S'.table l) : Coerente S' where
  toIntegra := hintegra
  estado a l hl := h.estado a l (hsub a l hl)
  alvo_own := halvo_own
  alvo_table := halvo_table
  unico a b c ha hb := h.unico a b c (sucede_mono hsub ha) (sucede_mono hsub hb)
  aciclico := acyclic_mono (fun _ _ => sucede_mono hsub) h.aciclico

/-- What the others see after a commit. -/
theorem Integra.view_commit (h : Integra S) (hj : j ≠ i) :
    Preservada (S.view j) ((S.commit i).view j) := by
  intro a l hl
  have hown : (S.commit i).own j = S.own j := by rw [Rows.own_commit, if_neg hj]
  rcases Rows.view_cases hl with hmine | ⟨hnone, htable⟩
  · exact ⟨l, Rows.view_own (by rw [hown, hmine]), .inl rfl⟩
  · rw [Rows.view_table (by rw [hown, hnone])]
    exact h.view i a l htable

theorem Coerente.commit (h : Coerente S) (i : ℕ) : Coerente (S.commit i) := by
  refine h.menos (h.toIntegra.commit i) (fun _ _ => versao_commit) ?_ ?_
  · intro j id l hown
    obtain ⟨hj, hown⟩ := own_of_commit hown
    exact (h.alvo_own j id l hown).mono (h.view_commit hj)
  · intro id l hl
    rcases Rows.view_cases hl with hown | ⟨-, htable⟩
    · exact h.alvo_own i id l hown
    · exact (h.alvo_table id l htable).mono (h.view i)

theorem Coerente.rollback (h : Coerente S) (i : ℕ) : Coerente (S.rollback i) := by
  refine h.menos (h.toIntegra.rollback i) (fun _ _ => versao_rollback) ?_ h.alvo_table
  intro j id l hown
  obtain ⟨hj, hown⟩ := own_of_rollback hown
  have hview : (S.rollback i).view j = S.view j := by
    unfold Rows.view
    rw [Rows.own_rollback, if_neg hj]
    rfl
  rw [hview]
  exact h.alvo_own j id l hown

theorem Coerente.step (h : Coerente S) {pedido : Pedido} (hordeiro : Ordeiro S pedido)
    (hefeito : Efeito S pedido S') : Coerente S' := by
  cases hefeito with
  | nada => exact h
  | desfaz _ i => exact h.rollback i
  | confirma i => exact h.commit i
  | cria _ i id nova hlivre hausente hestado hsucessor =>
    exact h.cria hlivre hausente hestado hsucessor
  | supera i principal a b l hl halcanca hlivre hapontada hantecedente hdono =>
    exact h.supera hl halcanca hlivre hapontada hantecedente hdono hordeiro

end PiaOs.Connections.Kernel
