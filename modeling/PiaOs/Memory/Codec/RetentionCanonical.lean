import PiaOs.Memory.Codec.RetentionRoundTrip

/-!
# The canonical form of stored rules

What is read is written again in the canonical form, which is the stored one exactly when no rule
has a field of its own and the domains are listed once each, in canonical texts and in order.
-/

namespace PiaOs.Memory.Codec

open Support Piap

variable {item v : Valor} {campos : List (Texto × Valor)} {regra : RetentionRule}
  {regras : List RetentionRule} {brutos itens w : List Valor} {ids : List Referencia}

/-- The identifier of a listed domain, once it is known to be one. -/
def idDoDominio : Valor → Option Referencia
  | .texto t => uuidDeTexto? t
  | _ => none

/-- Listed domains as they are written: once each, in canonical texts and in order. -/
def dominiosCanonicos : Valor → Valor
  | .lista brutos =>
    .lista ((textosDosIds (brutos.filterMap idDoDominio).toFinset).map fun id =>
      .texto (Texto.of id))
  | v => v

/-- The object of a rule, with the six fields alone and its domains as they are written. -/
def canonico : Valor → Valor
  | .objeto campos =>
    .objeto (camposJsonObrigatorios.map fun chave => (Texto.of chave,
      if chave = "domain_ids" then dominiosCanonicos (campo campos chave)
      else campo campos chave))
  | v => v

/-- Two objects with the same fields. -/
def MesmoObjeto (a b : Valor) : Prop :=
  ∃ campos campos', a = .objeto campos ∧ b = .objeto campos' ∧
    ∀ chave, campos.lookup chave = campos'.lookup chave

/-- The same objects, up to the order in which they come. -/
def MesmasRegras (a b : List Valor) : Prop :=
  ∃ ordenadas, ordenadas.Perm a ∧ List.Forall₂ MesmoObjeto ordenadas b

/-- A stored rule without fields of its own, and with its domains once each, in canonical texts
and in order. -/
def Canonico (item : Valor) : Prop :=
  ∃ campos ids, item = .objeto campos ∧
    (∀ chave ∉ camposJsonObrigatorios.map Texto.of, campos.lookup chave = none) ∧
    ids.Nodup ∧ (ids.map Referencia.str).Pairwise (· ≤ ·) ∧
    campos.lookup (Texto.of "domain_ids") = some (.lista (idsParaJson ids))

/-! ## What is read is written in the canonical form -/

theorem idDoDominio_eq_some {bruto : Valor} {id : Referencia} (h : Dominio bruto id) :
    idDoDominio bruto = some id := by
  obtain ⟨t, rfl, hid⟩ := h
  exact hid

theorem filterMap_dominios (h : List.Forall₂ Dominio brutos ids) :
    brutos.filterMap idDoDominio = ids := by
  induction h with
  | nil => rfl
  | cons hbruto _ ih => rw [List.filterMap_cons_some (idDoDominio_eq_some hbruto), ih]

theorem dominiosCanonicos_objeto (h : Objeto campos regra brutos ids) :
    dominiosCanonicos (.lista brutos) =
      .lista ((textosDosIds regra.domainIds).map fun id => .texto (Texto.of id)) := by
  rw [dominiosCanonicos, filterMap_dominios h.dominios, h.conjunto]

theorem canonico_objeto (h : Objeto campos regra brutos ids) :
    canonico (.objeto campos) = regra.paraJson := by
  unfold canonico RetentionRule.paraJson RetentionRule.campos camposJsonObrigatorios
  simp [campo_of_lookup h.ruleId, campo_of_lookup h.scopeKind, campo_of_lookup h.domainIds,
    campo_of_lookup h.anchor, campo_of_lookup h.minimumAgeDays, campo_of_lookup h.onExpiryAction,
    dominiosCanonicos_objeto h]

/-- The relation of a stored item to the rule that it is read as. -/
def LidaDe (item : Valor) (regra : RetentionRule) : Prop :=
  ∃ campos brutos ids, item = .objeto campos ∧ Objeto campos regra brutos ids

theorem LidaDe.canonico (h : LidaDe item regra) : canonico item = regra.paraJson := by
  obtain ⟨campos, brutos, ids, rfl, hobjeto⟩ := h
  exact canonico_objeto hobjeto

/-! ## When the stored form is the canonical one -/

theorem lookup_campos {chave : Texto} (h : chave ∉ camposJsonObrigatorios.map Texto.of) :
    regra.campos.lookup chave = none := by
  refine List.lookup_eq_none_iff.mpr fun par hpar => ?_
  have hchave : par.1 ∈ camposJsonObrigatorios.map Texto.of := List.mem_map_of_mem hpar
  simp only [bne_iff_ne, ne_eq]
  rintro rfl
  exact h hchave

/-- The fields that are asked for are the same when the domains are. -/
theorem Objeto.lookup_eq {campos' : List (Texto × Valor)} {ids' : List Referencia}
    (h : Objeto campos regra brutos ids) (h' : Objeto campos' regra brutos ids') {chave : Texto}
    (hchave : chave ∈ camposJsonObrigatorios.map Texto.of) :
    campos.lookup chave = campos'.lookup chave := by
  obtain ⟨nome, hnome, rfl⟩ := List.mem_map.mp hchave
  simp only [camposJsonObrigatorios, List.mem_cons, List.not_mem_nil, or_false] at hnome
  rcases hnome with rfl | rfl | rfl | rfl | rfl | rfl
  · rw [h.ruleId, h'.ruleId]
  · rw [h.scopeKind, h'.scopeKind]
  · rw [h.domainIds, h'.domainIds]
  · rw [h.anchor, h'.anchor]
  · rw [h.minimumAgeDays, h'.minimumAgeDays]
  · rw [h.onExpiryAction, h'.onExpiryAction]

theorem forall₂_idsParaJson (ids : List Referencia) :
    List.Forall₂ Dominio (idsParaJson ids) ids := by
  rw [idsParaJson, List.forall₂_map_left_iff, List.forall₂_same]
  exact fun id _ => dominio_str id

/-- A set of domains has one canonical list. -/
theorem ids_unique {ids ids' : List Referencia} (hset : ids.toFinset = ids'.toFinset)
    (hnodup : ids.Nodup) (hnodup' : ids'.Nodup) (hsorted : (ids.map Referencia.str).Pairwise (· ≤ ·))
    (hsorted' : (ids'.map Referencia.str).Pairwise (· ≤ ·)) :
    ids.map Referencia.str = ids'.map Referencia.str := by
  have hperm : ids.Perm ids' := List.perm_of_nodup_nodup_toFinset_eq hnodup hnodup' hset
  exact (hperm.map Referencia.str).eq_of_pairwise (fun _ _ _ _ => le_antisymm) hsorted hsorted'

theorem mesmoObjeto_iff (h : LidaDe item regra) :
    MesmoObjeto regra.paraJson item ↔ Canonico item := by
  obtain ⟨ids₀, hescrita, hnodup₀, hsorted₀⟩ := objeto_campos regra
  obtain ⟨campos, brutos, ids, rfl, hobjeto⟩ := h
  constructor
  · rintro ⟨campos₁, campos₂, hjson, heq, hlookup⟩
    cases hjson
    cases heq
    refine ⟨campos, ids₀, rfl, fun chave hchave => ?_, hnodup₀, hsorted₀, ?_⟩
    · rw [← hlookup, lookup_campos hchave]
    · rw [← hlookup, hescrita.domainIds]
  · rintro ⟨campos', ids', heq, houtras, hnodup, hsorted, hdominios⟩
    cases heq
    have hbrutos : brutos = idsParaJson ids' := by
      rw [hobjeto.domainIds] at hdominios
      cases hdominios
      rfl
    subst hbrutos
    have hids : ids' = ids := by
      rw [← filterMap_dominios (forall₂_idsParaJson ids'), filterMap_dominios hobjeto.dominios]
    have hset : ids₀.toFinset = ids'.toFinset := by
      rw [hescrita.conjunto, hids, hobjeto.conjunto]
    have htextos := ids_unique hset hnodup₀ hnodup hsorted₀ hsorted
    have hsame : idsParaJson ids₀ = idsParaJson ids' := by
      have hmap (ids : List Referencia) :
          idsParaJson ids = (ids.map Referencia.str).map fun id => .texto (Texto.of id) := by
        rw [List.map_map]
        rfl
      rw [hmap, hmap, htextos]
    rw [hsame] at hescrita
    refine ⟨regra.campos, campos, rfl, rfl, fun chave => ?_⟩
    by_cases hchave : chave ∈ camposJsonObrigatorios.map Texto.of
    · exact hescrita.lookup_eq hobjeto hchave
    · rw [lookup_campos hchave, houtras chave hchave]

/-- Objects with the same fields are read as rules with the same identifier. -/
theorem ruleId_of_mesmoObjeto {outra : RetentionRule} (h : LidaDe item outra)
    (hmesmo : MesmoObjeto regra.paraJson item) : regra.ruleId = outra.ruleId := by
  obtain ⟨campos₁, campos₂, hjson, rfl, hlookup⟩ := hmesmo
  obtain ⟨campos, brutos, ids, heq, hobjeto⟩ := h
  obtain ⟨ids₀, hescrita, -⟩ := objeto_campos regra
  cases heq
  cases hjson
  have hid := hlookup (Texto.of "rule_id")
  rw [hobjeto.ruleId, hescrita.ruleId] at hid
  exact Valor.texto.inj (Option.some.inj hid)

/-! ## A stored list of rules -/

theorem map_canonico (h : List.Forall₂ LidaDe itens regras) :
    itens.map canonico = regras.map RetentionRule.paraJson := by
  induction h with
  | nil => rfl
  | cons hitem _ ih => rw [List.map_cons, List.map_cons, hitem.canonico, ih]

/-- The written rules are the stored ones exactly when each of these is canonical. -/
theorem mesmasRegras_iff (h : List.Forall₂ LidaDe itens regras)
    (hnodup : (regras.map RetentionRule.ruleId).Nodup)
    (hperm : w.Perm (regras.map RetentionRule.paraJson)) :
    MesmasRegras w itens ↔ ∀ item ∈ itens, Canonico item := by
  constructor
  · rintro ⟨ordenadas, hordenadas, hmesmas⟩ item hitem
    obtain ⟨i, hi, rfl⟩ := List.getElem_of_mem hitem
    obtain ⟨hlength, hlida⟩ := List.forall₂_iff_get.mp h
    obtain ⟨hlength', hmesmo⟩ := List.forall₂_iff_get.mp hmesmas
    have hregra := hlida i hi (hlength ▸ hi)
    have hobjeto := hmesmo i (hlength' ▸ hi) hi
    -- The object in this place is what is written of some rule, and its identifier says which.
    have hmem : ordenadas.get ⟨i, hlength' ▸ hi⟩ ∈ regras.map RetentionRule.paraJson :=
      (hordenadas.trans hperm).subset (List.get_mem _ _)
    obtain ⟨outra, houtra, hescrita⟩ := List.mem_map.mp hmem
    rw [← hescrita] at hobjeto
    have hid := ruleId_of_mesmoObjeto hregra hobjeto
    obtain rfl := List.inj_on_of_nodup_map hnodup houtra (List.get_mem _ _) hid
    exact (mesmoObjeto_iff hregra).mp hobjeto
  · intro hall
    refine ⟨regras.map RetentionRule.paraJson, hperm.symm, ?_⟩
    clear hnodup hperm
    induction h with
    | nil => exact .nil
    | cons hitem _ ih =>
      refine .cons ((mesmoObjeto_iff hitem).mpr (hall _ List.mem_cons_self)) (ih fun item hmem => ?_)
      exact hall item (List.mem_cons_of_mem _ hmem)

/-- Accepted rules are read back in the order of their identifiers, and what is read is written
again in the canonical form, which is the stored one exactly when every rule is canonical. -/
theorem retention_rules_canonical :
    (∀ regras, validarRegrasRetencao regras = none → ∃ w, serializeRules regras = .ok w ∧
      deserializeRules (.lista w) = .ok (porRuleId regras)) ∧
    ∀ v regras, deserializeRules v = .ok regras → ∃ itens w, v = .lista itens ∧
      serializeRules regras = .ok w ∧ w.Perm (itens.map canonico) ∧
      (MesmasRegras w itens ↔ ∀ item ∈ itens, Canonico item) := by
  refine ⟨fun regras => deserializeRules_serializeRules, fun v regras h => ?_⟩
  obtain ⟨itens, rfl, hlida, hvalidas⟩ := deserializeRules_eq_ok.mp h
  have hperm : ((regras.insertionSort fun a b => a.sortKey ≤ b.sortKey).map
      RetentionRule.paraJson).Perm (regras.map RetentionRule.paraJson) :=
    (List.perm_insertionSort _ _).map _
  refine ⟨itens, _, rfl, serializeRules_eq_ok.mpr ⟨hvalidas, rfl⟩, ?_,
    mesmasRegras_iff hlida (validarRegrasRetencao_eq_none.mp hvalidas).2 hperm⟩
  rw [map_canonico hlida]
  exact hperm

/-- A rule over the whole patrimony. -/
def regraDeTrintaDias : RetentionRule where
  ruleId := Texto.of "r1"
  scopeKind := .allLocalPatrimony
  minimumAgeDays := 30
  accepted := by decide

/-- The stored rule with a field of its own, which the reader does not look at. -/
def camposAnotados : List (Texto × Valor) :=
  regraDeTrintaDias.campos ++ [(Texto.of "note", .texto (Texto.of "kept for the audit"))]

theorem retention_rules_keep_notes : ¬∀ v regras, deserializeRules v = .ok regras →
    ∃ itens w, v = .lista itens ∧ serializeRules regras = .ok w ∧ MesmasRegras w itens := by
  intro hall
  have hdominios : camposAnotados.lookup (Texto.of "domain_ids") = some (.lista []) := by
    have hnenhum : textosDosIds ∅ = [] := by simp [textosDosIds]
    change some (Valor.lista ((textosDosIds ∅).map fun id => .texto (Texto.of id))) = _
    rw [hnenhum, List.map_nil]
  have hobjeto : Objeto camposAnotados regraDeTrintaDias [] [] :=
    ⟨rfl, rfl, hdominios, rfl, rfl, rfl, .nil, rfl⟩
  have hlida : List.Forall₂ LidaDe [.objeto camposAnotados] [regraDeTrintaDias] :=
    .cons ⟨_, [], [], rfl, hobjeto⟩ .nil
  have hnodup : ([regraDeTrintaDias].map RetentionRule.ruleId).Nodup := List.nodup_singleton _
  have hvalidas : validarRegrasRetencao [regraDeTrintaDias] = none :=
    validarRegrasRetencao_eq_none.mpr ⟨List.cons_ne_nil _ _, hnodup⟩
  obtain ⟨itens, w, hitens, hw, hmesmas⟩ := hall (.lista [.objeto camposAnotados]) _
    (deserializeRules_eq_ok.mpr ⟨_, rfl, hlida, hvalidas⟩)
  cases hitens
  obtain ⟨-, rfl⟩ := serializeRules_eq_ok.mp hw
  obtain ⟨campos, ids, heq, houtras, -⟩ :=
    (mesmasRegras_iff hlida hnodup (.refl _)).mp hmesmas _ List.mem_cons_self
  cases heq
  have hnote := houtras (Texto.of "note") (by decide)
  cases hnote

end PiaOs.Memory.Codec
