import Mathlib.Data.Fintype.EquivFin
import PiaOs.Connections.SuccessionChains

/-!
# Runs of entitlement claims

Whatever sessions create, supersede, commit and roll back in an orderly run, the committed
claims are disjoint chains that end in active ones. What a run has committed stays in every
continuation of it.
-/

namespace PiaOs.Connections.Kernel

open Support Transactions Relation

variable {familias : Piap.Referencia → Bool} {S S' : Alegacoes} {i j : ℕ}
  {id a b c : Piap.Referencia} {l m : EntitlementClaim} {controlPrincipalRef : String}
  {t : Table Piap.Referencia EntitlementClaim}

/-- The committed claims are disjoint chains without cycles, each of one principal and one
provider family, with an active claim at its end and superseded ones before it. -/
structure Encadeada (t : Table Piap.Referencia EntitlementClaim) : Prop where
  presente : ∀ a b, SucedeEm t a b → (t.lookup b).isSome = true
  unico : ∀ a b c, SucedeEm t a c → SucedeEm t b c → a = b
  aciclica : ∀ a, ¬TransGen (SucedeEm t) a a
  cadeia : ∀ a b l m, ReflTransGen (SucedeEm t) a b → t.lookup a = some l → t.lookup b = some m →
    MesmoDireito l m
  estado : ∀ a l, t.lookup a = some l →
    l.state = .active ∧ (∀ b, ¬SucedeEm t a b) ∨ l.state = .superseded ∧ ∃ b, SucedeEm t a b
  fim : ∀ a l, t.lookup a = some l →
    ∃ b m, ReflTransGen (SucedeEm t) a b ∧ t.lookup b = some m ∧ m.state = .active
  vigente : ∀ a l, t.lookup a = some l →
    ∃ b m, getActiveEntitlement t l.controlPrincipalRef l.providerFamilyId = some (b, m) ∧
      t.lookup b = some m ∧ m.state = .active ∧ MesmoDireito l m

/-! ## The claim that is in force -/

theorem mem_entries {entry : Piap.Referencia × EntitlementClaim} :
    entry ∈ (t.entries.map fun entry => (entry.1, entry.2)) ↔ t.lookup entry.1 = some entry.2 := by
  constructor
  · intro hmem
    obtain ⟨row, hrow, rfl⟩ := List.mem_map.mp hmem
    exact AList.mem_lookup_iff.mpr hrow
  · intro hlookup
    exact List.mem_map.mpr ⟨⟨entry.1, entry.2⟩, AList.mem_lookup_iff.mp hlookup, rfl⟩

/-- An active claim is enough for one to be in force. -/
theorem exists_getActiveEntitlement (hb : t.lookup b = some m) (hactive : m.state = .active) :
    ∃ c r, getActiveEntitlement t m.controlPrincipalRef m.providerFamilyId = some (c, r) ∧
      t.lookup c = some r ∧ r.state = .active ∧ MesmoDireito m r := by
  cases hhead : getActiveEntitlement t m.controlPrincipalRef m.providerFamilyId with
  | none =>
    have hempty := List.head?_eq_none_iff.mp hhead
    have hmem : (b, m) ∈ ([] : List (Piap.Referencia × EntitlementClaim)) := by
      rw [← hempty, List.mem_insertionSort, List.mem_filter]
      exact ⟨mem_entries.mpr hb, by simp [hactive]⟩
    cases hmem
  | some entry =>
    obtain ⟨c, r⟩ := entry
    have hmem := List.mem_of_head? hhead
    rw [List.mem_insertionSort, List.mem_filter] at hmem
    obtain ⟨hentry, htest⟩ := hmem
    simp only [Bool.and_eq_true, decide_eq_true_eq] at htest
    exact ⟨c, r, rfl, mem_entries.mp hentry, htest.2, htest.1⟩

/-! ## The committed claims of an orderly run -/

theorem sucede_of_sucedeEm (h : SucedeEm S.table a b) : Sucede S a b := by
  obtain ⟨l, hl, hb⟩ := h
  exact ⟨l, .inl hl, hb⟩

/-- A path of successions keeps to one principal and one provider family. -/
theorem Coerente.cadeia (h : Coerente S) (hpath : ReflTransGen (SucedeEm S.table) a b)
    (hl : S.table.lookup a = some l) :
    ∃ m, S.table.lookup b = some m ∧ MesmoDireito l m := by
  induction hpath with
  | refl => exact ⟨l, hl, rfl, rfl⟩
  | tail _ hstep ih =>
    obtain ⟨m, hm, hsame⟩ := ih
    obtain ⟨m', hm', hsucessor⟩ := hstep
    rw [hm] at hm'
    cases hm'
    obtain ⟨r, hr, hsame'⟩ := h.alvo_table _ m hm _ hsucessor
    exact ⟨r, hr, hsame.trans hsame'⟩

theorem Coerente.estado_table (h : Coerente S) (hl : S.table.lookup a = some l) :
    l.state = .active ∧ (∀ b, ¬SucedeEm S.table a b) ∨
      l.state = .superseded ∧ ∃ b, SucedeEm S.table a b := by
  rcases h.estado a l (.inl hl) with ⟨hactive, hnone⟩ | ⟨hsuperseded, b, hb⟩
  · refine .inl ⟨hactive, ?_⟩
    rintro b ⟨m, hm, hb⟩
    rw [hl] at hm
    cases hm
    rw [hnone] at hb
    cases hb
  · exact .inr ⟨hsuperseded, b, l, hl, hb⟩

/-- Every chain can be followed to an active claim. -/
theorem Coerente.fim (h : Coerente S) (hl : S.table.lookup a = some l) :
    ∃ b m, ReflTransGen (SucedeEm S.table) a b ∧ S.table.lookup b = some m ∧
      m.state = .active ∧ MesmoDireito l m := by
  have haciclica : ∀ x, ¬TransGen (SucedeEm S.table) x x :=
    acyclic_mono (fun _ _ => sucede_of_sucedeEm) h.aciclico
  obtain ⟨b, hpath, hlast⟩ := exists_last haciclica a
  obtain ⟨m, hm, hsame⟩ := h.cadeia hpath hl
  rcases h.estado_table hm with ⟨hactive, -⟩ | ⟨-, c, hc⟩
  · exact ⟨b, m, hpath, hm, hactive, hsame⟩
  · exact absurd hc (hlast c)

theorem Coerente.encadeada (h : Coerente S) : Encadeada S.table where
  presente a b hsucede := by
    obtain ⟨l, hl, hb⟩ := hsucede
    obtain ⟨m, hm, -⟩ := h.alvo_table a l hl b hb
    rw [hm]
    rfl
  unico a b c ha hb := h.unico a b c (sucede_of_sucedeEm ha) (sucede_of_sucedeEm hb)
  aciclica := acyclic_mono (fun _ _ => sucede_of_sucedeEm) h.aciclico
  cadeia a b l m hpath hl hm := by
    obtain ⟨r, hr, hsame⟩ := h.cadeia hpath hl
    rw [hm] at hr
    cases hr
    exact hsame
  estado a l hl := h.estado_table hl
  fim a l hl := by
    obtain ⟨b, m, hpath, hm, hactive, -⟩ := h.fim hl
    exact ⟨b, m, hpath, hm, hactive⟩
  vigente a l hl := by
    obtain ⟨b, m, -, hm, hactive, hsame⟩ := h.fim hl
    obtain ⟨c, r, hvigente, hr, hactive', hsame'⟩ := exists_getActiveEntitlement hm hactive
    rw [hsame.1, hsame.2] at hvigente
    exact ⟨c, r, hvigente, hr, hactive', hsame.trans hsame'⟩

/-! ## Runs -/

theorem coerente_run (h : ReflTransGen (PassoOrdeiro familias) {} S) : Coerente S := by
  induction h with
  | refl => exact Coerente.empty
  | tail _ hstep ih =>
    obtain ⟨pedido, resposta, hordeiro, hexecuta⟩ := hstep
    exact ih.step hordeiro (efeito_executar hexecuta)

theorem Integra.run (h : Integra S) (hrun : ReflTransGen (Passo familias) S S') :
    Integra S' ∧ Preservada S.table S'.table := by
  induction hrun with
  | refl => exact ⟨h, .refl _⟩
  | tail _ hstep ih =>
    obtain ⟨hintegra, hpreservada⟩ := ih
    obtain ⟨pedido, resposta, hexecuta⟩ := hstep
    obtain ⟨hintegra', hpreservada'⟩ := hintegra.step (efeito_executar hexecuta)
    exact ⟨hintegra', hpreservada.trans hpreservada'⟩

/-- In every state of an orderly run the claims are chains that end in active ones, and every
continuation of the run keeps what a claim declares and a superseded claim as it is. -/
theorem entitlements_chained (h : ReflTransGen (PassoOrdeiro familias) {} S) :
    Encadeada S.table ∧
      ∀ S', ReflTransGen (Passo familias) S S' → Preservada S.table S'.table := by
  have hcoerente := coerente_run h
  exact ⟨hcoerente.encadeada, fun S' hrun => (hcoerente.toIntegra.run hrun).2⟩

/-- A successor that nothing supersedes. -/
def Livre (S : Alegacoes) (id : Piap.Referencia) : Prop :=
  (∀ m ∈ S.table.lookup id, m.supersededById = none) ∧
    ∀ j own, S.pending.lookup j = some own → ∀ m ∈ own.lookup id, m.supersededById = none

instance decidableLivre (S : Alegacoes) (id : Piap.Referencia) : Decidable (Livre S id) :=
  inferInstanceAs (Decidable (_ ∧ _))

/-- It leads nowhere. -/
theorem not_sucede_of_livre (h : Livre S a) : ¬Sucede S a b := by
  rintro ⟨l, htable | ⟨j, hown⟩, hb⟩
  · rw [h.1 l htable] at hb
    cases hb
  · rw [h.2 j _ (Rows.pending_of_own hown) l hown] at hb
    cases hb

/-- The request as it is, when a supersession is one to a claim of the family that nothing
supersedes. -/
def executarOrdeiro (familias : Piap.Referencia → Bool) (S : Alegacoes) :
    Pedido → Option Alegacoes
  | .supersedeEntitlementClaim i controlPrincipalRef a b =>
    if Livre S b ∧ ((S.view i).lookup a).map (fun l => l.providerFamilyId) =
        ((S.view i).lookup b).map (fun m => m.providerFamilyId) then
      (executar familias S (.supersedeEntitlementClaim i controlPrincipalRef a b)).map (·.1)
    else none
  | pedido => (executar familias S pedido).map (·.1)

theorem passoOrdeiro_executarOrdeiro (familias : Piap.Referencia → Bool) (S : Alegacoes) (pedido : Pedido) (S' : Alegacoes)
    (h : executarOrdeiro familias S pedido = some S') : PassoOrdeiro familias S S' := by
  cases pedido with
  | supersedeEntitlementClaim i principal a b =>
    simp only [executarOrdeiro] at h
    split at h
    case isFalse => cases h
    case isTrue hlivre =>
      obtain ⟨⟨S'', resposta⟩, hexecuta, rfl⟩ := Option.map_eq_some_iff.mp h
      refine ⟨_, resposta, ?_, hexecuta⟩
      intro l m hl halcanca hm
      have hfamilia := hlivre.2
      rw [hl, hm] at hfamilia
      refine ⟨(Option.some.inj hfamilia).symm, fun hpath => ?_⟩
      rcases ReflTransGen.cases_head_iff.mp hpath with rfl | ⟨c, hc, -⟩
      · exact halcanca.2.2 rfl
      · exact not_sucede_of_livre hlivre.1 hc
  | createEntitlementClaim i id principal familia plano origem instante =>
    obtain ⟨⟨S'', resposta⟩, hexecuta, rfl⟩ := Option.map_eq_some_iff.mp h
    exact ⟨.createEntitlementClaim i id principal familia plano origem instante, resposta, trivial,
      hexecuta⟩
  | commit i => exact ⟨.commit i, true, trivial, by rw [executar, ← Option.some.inj h]⟩
  | rollback i => exact ⟨.rollback i, true, trivial, by rw [executar, ← Option.some.inj h]⟩

theorem entitlements_chained_official : ∃ S,
    ReflTransGen (PassoOrdeiro fun familia => familia = 7) {} S ∧
      (S.table.lookup 1).map (fun l => (l.state, l.supersededById)) =
        some (.superseded, some 2) ∧
      Encadeada S.table ∧
        ∀ S', ReflTransGen (Passo fun familia => familia = 7) S S' →
          Preservada S.table S'.table := by
  obtain ⟨S, hrun, htest⟩ := exists_reflTransGen_of_foldlM
    (passoOrdeiro_executarOrdeiro fun familia => familia = 7)
    [.createEntitlementClaim 0 1 "7d0e" 7 "pro" .userDeclared 10, .commit 0,
      .createEntitlementClaim 1 2 "7d0e" 7 "pro" .officiallyDiscovered 20,
      .supersedeEntitlementClaim 1 "7d0e" 1 2, .commit 1] {}
    (fun S => decide ((S.table.lookup 1).map (fun l => (l.state, l.supersededById)) =
      some (.superseded, some 2))) (by decide +kernel)
  exact ⟨S, hrun, of_decide_eq_true htest, entitlements_chained hrun⟩

/-- Two claims may supersede each other, and none of them is active then. -/
theorem entitlements_chained_in_cycles :
    ¬∀ S, ReflTransGen (Passo fun familia => familia = 7) {} S → Encadeada S.table := by
  intro hall
  obtain ⟨S, hrun, htest⟩ := exists_reflTransGen_of_foldlM
    (R := Passo fun familia => familia = 7)
    (f := fun S pedido => (executar (fun familia => familia = 7) S pedido).map (·.1))
    (fun S pedido S' h => by
      obtain ⟨⟨S'', resposta⟩, hexecuta, rfl⟩ := Option.map_eq_some_iff.mp h
      exact ⟨pedido, resposta, hexecuta⟩)
    [.createEntitlementClaim 0 1 "7d0e" 7 "pro" .userDeclared 10,
      .createEntitlementClaim 0 2 "7d0e" 7 "pro" .officiallyDiscovered 20,
      .supersedeEntitlementClaim 0 "7d0e" 1 2, .supersedeEntitlementClaim 0 "7d0e" 2 1,
      .commit 0] {}
    (fun S => decide ((S.table.lookup 1).bind (fun l => l.supersededById) = some 2 ∧
      (S.table.lookup 2).bind (fun l => l.supersededById) = some 1)) (by decide +kernel)
  obtain ⟨hfirst, hsecond⟩ := of_decide_eq_true htest
  have hab : SucedeEm S.table 1 2 := Option.bind_eq_some_iff.mp hfirst
  have hba : SucedeEm S.table 2 1 := Option.bind_eq_some_iff.mp hsecond
  exact (hall S hrun).aciclica 1 (.tail (.single hab) hba)

end PiaOs.Connections.Kernel
