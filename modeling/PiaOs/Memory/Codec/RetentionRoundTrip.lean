import PiaOs.Memory.Codec.Retention

/-!
# Stored rules of retention are read back

A rule is read from the objects that say it, with whatever other fields they have. What is
written of accepted rules is read back as the same rules in the order of their identifiers.
-/

namespace PiaOs.Memory.Codec

open Support Piap

variable {indice : ℕ} {item v : Valor} {campos : List (Texto × Valor)} {regra : RetentionRule}
  {regras : List RetentionRule} {itens brutos w : List Valor} {t : Texto}

/-! ## One field -/

theorem textoDe_eq_ok {nome : String} : textoDe indice nome v = .ok t ↔ v = .texto t := by
  cases v <;> simp [textoDe]

theorem inteiroDe_eq_ok {n : ℤ} : inteiroDe indice v = .ok n ↔ v = .inteiro n := by
  cases v <;> simp [inteiroDe]

theorem listaDe_eq_ok : listaDe indice v = .ok itens ↔ v = .lista itens := by
  cases v <;> simp [listaDe]

/-- A traversal with positions, when an item is read alike at every position. -/
theorem mapM_zipIdx_eq_ok {ε α β : Type} {f : α × ℕ → Except ε β} {R : α → β → Prop}
    (hread : ∀ x k y, f (x, k) = .ok y ↔ R x y) {xs : List α} {n : ℕ} {ys : List β} :
    (xs.zipIdx n).mapM f = .ok ys ↔ List.Forall₂ R xs ys := by
  rw [mapM_eq_ok]
  induction xs generalizing n ys with
  | nil => simp
  | cons x xs ih =>
    rw [List.zipIdx_cons]
    cases ys with
    | nil => simp
    | cons y ys => rw [List.forall₂_cons, List.forall₂_cons, hread, ih]

/-- A member of `domain_ids`, and what it is read as. -/
def Dominio (bruto : Valor) (id : Referencia) : Prop :=
  ∃ t, bruto = .texto t ∧ uuidDeTexto? t = some id

theorem dominioDe_eq_ok (bruto : Valor) (posicao : ℕ) (id : Referencia) :
    dominioDe indice (bruto, posicao) = .ok id ↔ Dominio bruto id := by
  cases bruto with
  | texto t =>
    cases hread : uuidDeTexto? t with
    | none => simp [dominioDe, Dominio, hread]
    | some id' => simp [dominioDe, Dominio, hread]
  | nulo | logico | inteiro | real | lista | objeto => simp [dominioDe, Dominio]

theorem dominio_str (id : Referencia) : Dominio (.texto (Texto.of id.str)) id :=
  ⟨_, rfl, uuidDeTexto?_str id⟩

/-- A vocabulary with distinct values is read back from them. -/
theorem membroDe_eq_ok {α : Type} {membros : List α} {value : α → String} {m : α}
    (hall : ∀ m, m ∈ membros) (hinj : Function.Injective value) :
    membroDe indice membros value t = .ok m ↔ t = Texto.of (value m) := by
  unfold membroDe
  cases hfind : membros.find? fun m => Texto.of (value m) = t with
  | none =>
    refine iff_of_false (fun h => (by cases h)) fun heq => ?_
    exact List.find?_eq_none.mp hfind m (hall m) (by simp [heq])
  | some m' =>
    have hvalue : Texto.of (value m') = t := by simpa using List.find?_some hfind
    constructor
    · intro h
      rw [← hvalue, Except.ok.inj h]
    · intro h
      rw [h] at hvalue
      rw [hinj (texto_of_injective hvalue)]

theorem escopoDe_eq_ok {m : RetentionScopeKind} :
    membroDe indice [.allLocalPatrimony, .memoryDomainSet] RetentionScopeKind.value t = .ok m ↔
      t = Texto.of m.value := by
  refine membroDe_eq_ok (fun m => by cases m <;> simp) fun a b h => ?_
  cases a <;> cases b <;> first | rfl | exact absurd h (by decide)

theorem ancoraDe_eq_ok {m : RetentionAnchor} :
    membroDe indice [.createdAt] RetentionAnchor.value t = .ok m ↔ t = Texto.of m.value :=
  membroDe_eq_ok (fun m => by cases m; simp) fun a b _ => by cases a; cases b; rfl

theorem acaoDe_eq_ok {m : RetentionExpiryAction} :
    membroDe indice [.assessAndInform] RetentionExpiryAction.value t = .ok m ↔
      t = Texto.of m.value :=
  membroDe_eq_ok (fun m => by cases m; simp) fun a b _ => by cases a; cases b; rfl

/-! ## One rule -/

theorem construir_eq_ok {ruleId : Texto} {scopeKind : RetentionScopeKind}
    {domainIds : Finset Referencia} {anchor : RetentionAnchor} {minimumAgeDays : ℤ}
    {onExpiryAction : RetentionExpiryAction} :
    RetentionRule.construir ruleId scopeKind domainIds anchor minimumAgeDays onExpiryAction =
        .ok regra ↔
      ruleId = regra.ruleId ∧ scopeKind = regra.scopeKind ∧ domainIds = regra.domainIds ∧
        anchor = regra.anchor ∧ minimumAgeDays = regra.minimumAgeDays ∧
        onExpiryAction = regra.onExpiryAction := by
  unfold RetentionRule.construir
  constructor
  · intro h
    split at h
    · cases h
    · obtain rfl := Except.ok.inj h
      exact ⟨rfl, rfl, rfl, rfl, rfl, rfl⟩
  · rintro ⟨rfl, rfl, rfl, rfl, rfl, rfl⟩
    split
    case h_1 r hr =>
      rw [regra.accepted] at hr
      cases hr
    case h_2 => rfl

/-- The object that a rule is read from. -/
structure Objeto (campos : List (Texto × Valor)) (regra : RetentionRule) (brutos : List Valor)
    (ids : List Referencia) : Prop where
  ruleId : campos.lookup (Texto.of "rule_id") = some (.texto regra.ruleId)
  scopeKind : campos.lookup (Texto.of "scope_kind") =
    some (.texto (Texto.of regra.scopeKind.value))
  domainIds : campos.lookup (Texto.of "domain_ids") = some (.lista brutos)
  anchor : campos.lookup (Texto.of "anchor") = some (.texto (Texto.of regra.anchor.value))
  minimumAgeDays : campos.lookup (Texto.of "minimum_age_days") =
    some (.inteiro regra.minimumAgeDays)
  onExpiryAction : campos.lookup (Texto.of "on_expiry_action") =
    some (.texto (Texto.of regra.onExpiryAction.value))
  dominios : List.Forall₂ Dominio brutos ids
  conjunto : ids.toFinset = regra.domainIds

/-- A field that is asked for is there. -/
theorem lookup_of_campo {chave : String}
    (hpresente : (campos.lookup (Texto.of chave)).isSome = true) (h : campo campos chave = v) :
    campos.lookup (Texto.of chave) = some v := by
  obtain ⟨v', hv'⟩ := Option.isSome_iff_exists.mp hpresente
  rw [campo, hv', Option.getD_some] at h
  rw [hv', h]

theorem campo_of_lookup {chave : String} (h : campos.lookup (Texto.of chave) = some v) :
    campo campos chave = v := by
  rw [campo, h, Option.getD_some]

theorem camposPresentes : camposJsonObrigatorios.filter (fun chave =>
      (campos.lookup (Texto.of chave)).isNone) = [] ↔
    ∀ chave ∈ camposJsonObrigatorios, (campos.lookup (Texto.of chave)).isSome = true := by
  simp [List.filter_eq_nil_iff, Option.isSome_iff_ne_none]

/-- A rule is read from the objects that say it. -/
theorem regraDeJson_eq_ok :
    regraDeJson indice item = .ok regra ↔
      ∃ campos brutos ids, item = .objeto campos ∧ Objeto campos regra brutos ids := by
  constructor
  · intro h
    cases item with
    | objeto campos =>
      unfold regraDeJson at h
      simp only [ne_eq, ite_not] at h
      split at h
      case isFalse => cases h
      case isTrue hpresentes =>
        have hpresente := camposPresentes.mp hpresentes
        simp only [bind_eq_ok, textoDe_eq_ok, inteiroDe_eq_ok, listaDe_eq_ok,
          mapM_zipIdx_eq_ok dominioDe_eq_ok, escopoDe_eq_ok, ancoraDe_eq_ok, acaoDe_eq_ok,
          construir_eq_ok] at h
        obtain ⟨ruleId, hruleId, scope, hscope, anchor, hanchor, action, haction, idade, hidade,
          brutos, hbrutos, ids, hids, kind, rfl, ancora, rfl, acao, rfl, rfl, rfl, hset, -, rfl,
          -⟩ := h
        exact ⟨campos, brutos, ids, rfl, lookup_of_campo (hpresente _ (by decide)) hruleId,
          lookup_of_campo (hpresente _ (by decide)) hscope,
          lookup_of_campo (hpresente _ (by decide)) hbrutos,
          lookup_of_campo (hpresente _ (by decide)) hanchor,
          lookup_of_campo (hpresente _ (by decide)) hidade,
          lookup_of_campo (hpresente _ (by decide)) haction, hids, hset⟩
    | nulo | logico | inteiro | real | texto | lista => cases h
  · rintro ⟨campos, brutos, ids, rfl, h⟩
    have hpresentes : camposJsonObrigatorios.filter (fun chave =>
        (campos.lookup (Texto.of chave)).isNone) = [] := by
      simp [camposJsonObrigatorios, h.ruleId, h.scopeKind, h.domainIds, h.anchor,
        h.minimumAgeDays, h.onExpiryAction]
    unfold regraDeJson
    simp only [hpresentes, ne_eq, not_true_eq_false, if_false, bind_eq_ok, textoDe_eq_ok,
      inteiroDe_eq_ok, listaDe_eq_ok, mapM_zipIdx_eq_ok dominioDe_eq_ok, escopoDe_eq_ok,
      ancoraDe_eq_ok, acaoDe_eq_ok, construir_eq_ok]
    exact ⟨_, campo_of_lookup h.ruleId, _, campo_of_lookup h.scopeKind, _,
      campo_of_lookup h.anchor, _, campo_of_lookup h.onExpiryAction, _,
      campo_of_lookup h.minimumAgeDays, _, campo_of_lookup h.domainIds, _, h.dominios, _, rfl, _,
      rfl, _, rfl, rfl, rfl, h.conjunto, trivial, rfl, trivial⟩

/-! ## What is written of a rule -/

theorem perm_textosDosIds (ids : Finset Referencia) :
    ∃ ordenados : List Referencia, ordenados.Nodup ∧ ordenados.toFinset = ids ∧
      textosDosIds ids = ordenados.map Referencia.str ∧
      (ordenados.map Referencia.str).Pairwise (· ≤ ·) := by
  have hmap : (ids.sort.insertionSort fun a b => Referencia.str a ≤ Referencia.str b).map
      Referencia.str = textosDosIds ids :=
    List.map_insertionSort _ _ _ _ fun a _ b _ => Iff.rfl
  have hperm := List.perm_insertionSort
    (fun a b => Referencia.str a ≤ Referencia.str b) ids.sort
  refine ⟨_, hperm.nodup_iff.mpr (ids.sort_nodup _), ?_, hmap.symm, ?_⟩
  · rw [List.toFinset_eq_of_perm _ _ hperm, Finset.sort_toFinset]
  · rw [hmap]
    exact List.pairwise_insertionSort _ _

/-- What is written of a list of domains. -/
def idsParaJson (ids : List Referencia) : List Valor :=
  ids.map fun id => .texto (Texto.of id.str)

/-- The written object says the rule. -/
theorem objeto_campos (regra : RetentionRule) : ∃ ids : List Referencia,
    Objeto regra.campos regra (idsParaJson ids) ids ∧ ids.Nodup ∧
      (ids.map Referencia.str).Pairwise (· ≤ ·) := by
  obtain ⟨ids, hnodup, hset, htextos, hsorted⟩ := perm_textosDosIds regra.domainIds
  have hjson : ((textosDosIds regra.domainIds).map fun id => Valor.texto (Texto.of id)) =
      idsParaJson ids := by
    rw [htextos, List.map_map]
    rfl
  refine ⟨ids, ⟨rfl, rfl, ?_, rfl, rfl, rfl, ?_, hset⟩, hnodup, hsorted⟩
  · rw [← hjson]
    rfl
  · rw [idsParaJson, List.forall₂_map_left_iff, List.forall₂_same]
    exact fun id _ => dominio_str id

theorem objeto_paraJson (regra : RetentionRule) :
    ∃ campos brutos ids, regra.paraJson = .objeto campos ∧ Objeto campos regra brutos ids := by
  obtain ⟨ids, hobjeto, -⟩ := objeto_campos regra
  exact ⟨_, _, ids, rfl, hobjeto⟩

/-! ## A list of rules -/

theorem repetidos_eq_nil {ids : List Texto} : repetidos ids = [] ↔ ids.Nodup := by
  have hempty (l : List Texto) :
      (l.dedup.insertionSort fun a b => b.antes a = false) = [] ↔ l = [] := by
    rw [← List.length_eq_zero_iff, List.length_insertionSort, List.length_eq_zero_iff,
      List.dedup_eq_nil]
  rw [repetidos, hempty, List.filter_eq_nil_iff, List.nodup_iff_count_le_one]
  constructor
  · intro hnone id
    by_cases hmem : id ∈ ids
    · simpa using hnone id hmem
    · rw [List.count_eq_zero_of_not_mem hmem]
      omega
  · intro hone id _
    simpa using hone id

example : repetidos [Texto.of "a", Texto.of "b", Texto.of "a"] = [Texto.of "a"] := by
  decide +kernel

theorem validarRegrasRetencao_eq_none :
    validarRegrasRetencao regras = none ↔
      regras ≠ [] ∧ (regras.map RetentionRule.ruleId).Nodup := by
  unfold validarRegrasRetencao
  by_cases hempty : regras = []
  · simp [hempty]
  · rw [if_neg hempty]
    by_cases hrepeated : repetidos (regras.map RetentionRule.ruleId) = []
    · rw [if_neg (not_not.mpr hrepeated)]
      exact iff_of_true rfl ⟨hempty, repetidos_eq_nil.mp hrepeated⟩
    · rw [if_pos hrepeated]
      exact iff_of_false (by simp) fun h => hrepeated (repetidos_eq_nil.mpr h.2)

/-- Rules that are accepted are written in the order of their keys. -/
theorem serializeRules_eq_ok : serializeRules regras = .ok w ↔
    validarRegrasRetencao regras = none ∧
      w = (regras.insertionSort fun a b => a.sortKey ≤ b.sortKey).map RetentionRule.paraJson := by
  unfold serializeRules
  cases hvalid : validarRegrasRetencao regras with
  | none => simp [@eq_comm _ w]
  | some erro => simp

/-- Only lists are read, each item as a rule. -/
theorem deserializeRules_eq_ok :
    deserializeRules v = .ok regras ↔
      ∃ itens, v = .lista itens ∧ List.Forall₂ (fun item regra => ∃ campos brutos ids,
        item = .objeto campos ∧ Objeto campos regra brutos ids) itens regras ∧
        validarRegrasRetencao regras = none := by
  have hread (itens : List Valor) : itens.zipIdx.mapM (fun par => regraDeJson par.2 par.1) =
      .ok regras ↔ List.Forall₂ (fun item regra => ∃ campos brutos ids,
        item = .objeto campos ∧ Objeto campos regra brutos ids) itens regras :=
    mapM_zipIdx_eq_ok fun _ _ _ => regraDeJson_eq_ok
  rw [validarRegrasRetencao_eq_none]
  constructor
  · intro h
    cases v with
    | lista itens =>
      cases itens with
      | nil => cases h
      | cons item itens =>
        obtain ⟨lidas, hlidas, h⟩ := bind_eq_ok.mp h
        split at h
        · cases h
        case h_2 hrepeated =>
          obtain rfl := Except.ok.inj h
          have hall := (hread _).mp hlidas
          refine ⟨_, rfl, hall, ?_, (firstRepeated_eq_none.mp hrepeated).1⟩
          rintro rfl
          cases hall
    | nulo | logico | inteiro | real => cases h
    | texto t => cases t <;> cases h
    | objeto campos => cases campos <;> cases h
  · rintro ⟨itens, rfl, hall, hne, hnodup⟩
    cases itens with
    | nil =>
      cases hall
      exact absurd rfl hne
    | cons item itens =>
      refine bind_eq_ok.mpr ⟨regras, (hread _).mpr hall, ?_⟩
      have hrepeated : firstRepeated [] (regras.map RetentionRule.ruleId) = none :=
        firstRepeated_eq_none.mpr ⟨hnodup, by simp⟩
      simp only [hrepeated]

/-! ## The order of the rules -/

/-- The rules in the order of their identifiers. -/
def porRuleId (regras : List RetentionRule) : List RetentionRule :=
  regras.insertionSort fun a b => b.ruleId.antes a.ruleId = false

instance antesRegra_total : Std.Total fun a b : RetentionRule => b.ruleId.antes a.ruleId = false where
  total a b := by
    rw [antes_eq_false, antes_eq_false]
    exact le_total _ _

instance antesRegra_trans : IsTrans RetentionRule fun a b => b.ruleId.antes a.ruleId = false where
  trans a b c := by
    rw [antes_eq_false, antes_eq_false, antes_eq_false]
    exact le_trans

instance sortKey_total : Std.Total fun a b : RetentionRule => a.sortKey ≤ b.sortKey where
  total _ _ := le_total _ _

instance sortKey_trans : IsTrans RetentionRule fun a b => a.sortKey ≤ b.sortKey where
  trans _ _ _ := le_trans

/-- The identifiers come first in the keys. -/
theorem antes_of_sortKey {a b : RetentionRule} (h : a.sortKey ≤ b.sortKey) :
    b.ruleId.antes a.ruleId = false := by
  rw [antes_eq_false]
  rcases Prod.Lex.le_iff.mp h with hlt | ⟨heq, -⟩
  · exact le_of_lt hlt
  · exact le_of_eq heq

theorem sorted_eq_porRuleId (hnodup : (regras.map RetentionRule.ruleId).Nodup) :
    (regras.insertionSort fun a b => a.sortKey ≤ b.sortKey) = porRuleId regras := by
  have hperm := (List.perm_insertionSort (fun a b => a.sortKey ≤ b.sortKey) regras).trans
    (List.perm_insertionSort (fun a b : RetentionRule => b.ruleId.antes a.ruleId = false)
      regras).symm
  refine hperm.eq_of_pairwise ?_ ((List.pairwise_insertionSort _ _).imp antes_of_sortKey)
    (List.pairwise_insertionSort _ _)
  intro a b ha hb hab hba
  have hid : a.ruleId = b.ruleId := by
    rw [antes_eq_false] at hab hba
    exact ord_injective.list_map (le_antisymm hab hba)
  exact List.inj_on_of_nodup_map hnodup ((List.mem_insertionSort _).mp ha)
    ((List.mem_insertionSort _).mp hb) hid

theorem perm_porRuleId (regras : List RetentionRule) : (porRuleId regras).Perm regras :=
  List.perm_insertionSort _ _

theorem validas_perm {outras : List RetentionRule} (hperm : outras.Perm regras)
    (h : validarRegrasRetencao regras = none) : validarRegrasRetencao outras = none := by
  rw [validarRegrasRetencao_eq_none] at h ⊢
  refine ⟨?_, (hperm.map RetentionRule.ruleId).nodup_iff.mpr h.2⟩
  rintro rfl
  exact h.1 hperm.nil_eq.symm

/-- Accepted rules are read back from what is written of them. -/
theorem deserializeRules_serializeRules (h : validarRegrasRetencao regras = none) :
    ∃ w, serializeRules regras = .ok w ∧ deserializeRules (.lista w) = .ok (porRuleId regras) := by
  have hsorted := sorted_eq_porRuleId (validarRegrasRetencao_eq_none.mp h).2
  refine ⟨_, serializeRules_eq_ok.mpr ⟨h, rfl⟩, ?_⟩
  rw [hsorted]
  refine deserializeRules_eq_ok.mpr ⟨_, rfl, ?_, validas_perm (perm_porRuleId regras) h⟩
  rw [List.forall₂_map_left_iff, List.forall₂_same]
  exact fun regra _ => objeto_paraJson regra

end PiaOs.Memory.Codec
