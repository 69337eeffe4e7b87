import PiaOs.Protection.Fingerprint

/-!
# What a fingerprint identifies

A fingerprint exists unless a text has a surrogate, a version is too long for `int` or the
deadline is outside the calendar of UTC. Where two exist, they are equal for the same fields
and for no others, up to a collision of the hash.
-/

namespace PiaOs.Protection

open Support Memory Piap Envelope

/-! ## The canonical fields -/

/-- What a field is reduced to, when it can be reduced. -/
def forma (e : Entrada) : Documento := (canonico e).getD .nulo

theorem canonico_eq_forma {e : Entrada} (h : (canonico e).isSome = true) :
    canonico e = some (forma e) := by
  obtain ⟨d, hd⟩ := Option.isSome_iff_exists.mp h
  rw [forma, hd, Option.getD_some]

theorem canonicosDosCampos_eq_some {campos : List (Texto × Entrada)}
    {ds : List (Texto × Documento)} : canonicosDosCampos campos = some ds ↔
      (∀ campo ∈ campos, (canonico campo.2).isSome = true) ∧
        ds = campos.map fun campo => (campo.1, forma campo.2) := by
  induction campos generalizing ds with
  | nil =>
    rw [canonicosDosCampos, Option.some_inj, List.map_nil]
    exact ⟨fun h => ⟨fun _ hmem => absurd hmem List.not_mem_nil, h.symm⟩, fun h => h.2.symm⟩
  | cons campo campos ih =>
    obtain ⟨chave, valor⟩ := campo
    rw [canonicosDosCampos]
    simp only [Option.bind_eq_bind, Option.bind_eq_some_iff, Option.pure_def, Option.some.injEq,
      List.forall_mem_cons, List.map_cons]
    constructor
    · rintro ⟨d, hd, ds', hds, rfl⟩
      obtain ⟨hall, rfl⟩ := ih.mp hds
      have hform : forma valor = d := by rw [forma, hd, Option.getD_some]
      rw [hform, hd]
      exact ⟨⟨rfl, hall⟩, rfl⟩
    · rintro ⟨⟨hvalue, hall⟩, rfl⟩
      exact ⟨_, canonico_eq_forma hvalue, _, ih.mpr ⟨hall, rfl⟩, rfl⟩

/-- The fields in the order of their names, once each is reduced. -/
def objetoDosCampos (campos : Campos) : Documento :=
  .objeto (porChave (campos.map fun campo => (Texto.of campo.1, forma campo.2)))

theorem canonico_mapa {campos : Campos} {d : Documento} :
    canonico (.mapa (campos.map fun campo => (Texto.of campo.1, campo.2))) = some d ↔
      (∀ campo ∈ campos, (canonico campo.2).isSome = true) ∧ d = objetoDosCampos campos := by
  rw [canonico, Option.map_eq_some_iff]
  constructor
  · rintro ⟨ds, hds, rfl⟩
    obtain ⟨hall, rfl⟩ := canonicosDosCampos_eq_some.mp hds
    refine ⟨List.forall_mem_map.mp hall, ?_⟩
    rw [List.map_map]
    rfl
  · rintro ⟨hall, rfl⟩
    have hnamed : ∀ campo ∈ campos.map fun campo => (Texto.of campo.1, campo.2),
        (canonico campo.2).isSome = true := List.forall_mem_map.mpr hall
    refine ⟨_, canonicosDosCampos_eq_some.mpr ⟨hnamed, rfl⟩, ?_⟩
    rw [List.map_map]
    rfl

/-- A field that can be hashed. -/
structure Entrada.Serializa (e : Entrada) : Prop where
  reduz : (canonico e).isSome = true
  cabe : (forma e).cabe = true
  inteiro : (forma e).dumps.Inteiro

theorem serializar_eq_some {campos : Campos} {s : String} :
    serializarCanonicamente campos = some s ↔
      (∀ campo ∈ campos, (canonico campo.2).isSome = true) ∧
        (objetoDosCampos campos).canonico = some s := by
  unfold serializarCanonicamente
  rw [Option.bind_eq_some_iff]
  simp only [canonico_mapa]
  constructor
  · rintro ⟨d, ⟨hall, rfl⟩, hs⟩
    exact ⟨hall, hs⟩
  · rintro ⟨hall, hs⟩
    exact ⟨_, ⟨hall, rfl⟩, hs⟩

theorem mem_porChave {campos : Campos} {p : Texto × Documento → Prop} :
    (∀ par ∈ porChave (campos.map fun campo => (Texto.of campo.1, forma campo.2)), p par) ↔
      ∀ campo ∈ campos, p (Texto.of campo.1, forma campo.2) := by
  simp only [(perm_porChave _).mem_iff, List.forall_mem_map]

/-- Which fields can be hashed together. -/
theorem serializar_isSome {campos : Campos} :
    (serializarCanonicamente campos).isSome = true ↔ ∀ campo ∈ campos, campo.2.Serializa := by
  rw [Option.isSome_iff_exists]
  simp only [serializar_eq_some, exists_and_left, ← Option.isSome_iff_exists]
  have hname (nome : String) : (Texto.of nome).Inteiro := inteiro_map _
  rw [Documento.canonico_isSome, objetoDosCampos, cabe_objeto, inteiro_objeto, mem_porChave,
    mem_porChave]
  constructor
  · rintro ⟨hsome, hfits, hwhole⟩ campo hcampo
    exact ⟨hsome campo hcampo, hfits campo hcampo, (hwhole campo hcampo).2⟩
  · intro hall
    exact ⟨fun campo hcampo => (hall campo hcampo).reduz,
      fun campo hcampo => (hall campo hcampo).cabe,
      fun campo hcampo => ⟨hname campo.1, (hall campo hcampo).inteiro⟩⟩

/-- A field that is reduced to a scalar, or to a list of scalars. -/
def Entrada.Plana (e : Entrada) : Prop := (forma e).cabe = true → (forma e).Legivel 1

/-- Fields with the same names that are written alike are reduced alike. -/
theorem forma_eq_of_serializar {campos campos' : Campos} {s : String}
    (hnames : campos.map (·.1) = campos'.map (·.1)) (hnodup : (campos.map (·.1)).Nodup)
    (hflat : ∀ campo ∈ campos, campo.2.Plana) (hflat' : ∀ campo ∈ campos', campo.2.Plana)
    (hs : serializarCanonicamente campos = some s)
    (hs' : serializarCanonicamente campos' = some s) :
    campos.map (forma ·.2) = campos'.map (forma ·.2) := by
  have hkeys (campos : Campos) :
      (campos.map fun campo => (Texto.of campo.1, forma campo.2)).map (·.1) =
        (campos.map (·.1)).map Texto.of := by
    rw [List.map_map, List.map_map]
    rfl
  have hreadable : ∀ {campos : Campos}, (campos.map (·.1)).Nodup →
      (∀ campo ∈ campos, campo.2.Plana) → serializarCanonicamente campos = some s →
      (objetoDosCampos campos).Legivel 2 := by
    intro campos hnodup hflat hs
    have hall := serializar_isSome.mp (Option.isSome_iff_exists.mpr ⟨s, hs⟩)
    refine legivel_objeto ?_ ?_
    · rw [((perm_porChave _).map _).nodup_iff, hkeys]
      exact hnodup.map fun _ _ => texto_of_injective
    · rw [mem_porChave]
      exact fun campo hcampo => hflat campo hcampo (hall campo hcampo).cabe
  have hobject := Documento.canonico_injective (hreadable hnodup hflat hs)
    (hreadable (hnames ▸ hnodup) hflat' hs') (serializar_eq_some.mp hs).2
    (serializar_eq_some.mp hs').2
  have hordered := Documento.objeto.inj hobject
  have hperm : (campos.map fun campo => (Texto.of campo.1, forma campo.2)).Perm
      (campos'.map fun campo => (Texto.of campo.1, forma campo.2)) := by
    have hsame := (perm_porChave (campos.map fun campo => (Texto.of campo.1, forma campo.2))).symm
    rw [hordered] at hsame
    exact hsame.trans (perm_porChave _)
  have heq := eq_of_perm_of_keys hperm (by rw [hkeys, hkeys, hnames]) (by
    rw [hkeys]
    exact hnodup.map fun _ _ => texto_of_injective)
  have hforms := congrArg (List.map (·.2)) heq
  rw [List.map_map, List.map_map] at hforms
  exact hforms

/-! ## The digest -/

/-- Different texts of the fields with one hash. -/
def Colidem (campos campos' : Campos) (versao : String) : Prop :=
  ∃ s s', serializarCanonicamente (comVersao campos versao) = some s ∧
    serializarCanonicamente (comVersao campos' versao) = some s' ∧ s ≠ s' ∧
    Sha256.hexdigest s = Sha256.hexdigest s'

section Digest

variable {campos campos' : Campos} {versao : String}

theorem plana_texto (t : Texto) : (Entrada.texto t).Plana := fun _ => legivel_texto 1 t

theorem serializa_texto {t : Texto} : (Entrada.texto t).Serializa ↔ t.Inteiro := by
  constructor
  · intro h
    exact inteiro_texto.mp h.inteiro
  · intro h
    exact ⟨rfl, rfl, inteiro_texto.mpr h⟩

theorem digest_isSome (hkey : algoKey ∉ campos.map (·.1)) :
    (digest campos versao).isSome = true ↔ ∀ campo ∈ campos, campo.2.Serializa := by
  have hversion : (Entrada.texto (Texto.of versao)).Serializa :=
    serializa_texto.mpr (inteiro_map _)
  unfold digest comVersao
  rw [if_neg hkey, Option.isSome_map, serializar_isSome]
  simp [or_imp, forall_and, hversion]

/-- Fields that are reduced alike have one digest. -/
theorem digest_congr (hnames : campos.map (·.1) = campos'.map (·.1))
    (h : campos.map (canonico ·.2) = campos'.map (canonico ·.2)) :
    digest campos versao = digest campos' versao := by
  have hsome : ∀ {campos campos' : Campos}, campos.map (canonico ·.2) = campos'.map (canonico ·.2) →
      (∀ campo ∈ campos, (canonico campo.2).isSome = true) →
        ∀ campo ∈ campos', (canonico campo.2).isSome = true := by
    intro campos campos' h hall campo hcampo
    have hmem : canonico campo.2 ∈ campos'.map (canonico ·.2) := List.mem_map_of_mem hcampo
    rw [← h] at hmem
    obtain ⟨outro, houtro, heq⟩ := List.mem_map.mp hmem
    rw [← heq]
    exact hall outro houtro
  have hwith : (comVersao campos versao).map (canonico ·.2) =
      (comVersao campos' versao).map (canonico ·.2) := by
    unfold comVersao
    rw [List.map_append, List.map_append, h]
  have hobject : objetoDosCampos (comVersao campos versao) =
      objetoDosCampos (comVersao campos' versao) := by
    have hnamed : (comVersao campos versao).map (·.1) = (comVersao campos' versao).map (·.1) := by
      unfold comVersao
      rw [List.map_append, List.map_append, hnames]
    have hpairs : ∀ campos : Campos,
        (campos.map fun campo => (Texto.of campo.1, forma campo.2)) =
          ((campos.map (·.1)).map Texto.of).zip
            ((campos.map (canonico ·.2)).map (·.getD .nulo)) := by
      intro campos
      induction campos with
      | nil => rfl
      | cons campo campos ih =>
        simp only [List.map_cons, List.zip_cons_cons, ih]
        rfl
    unfold objetoDosCampos
    rw [hpairs, hpairs, hnamed, hwith]
  have hserial : serializarCanonicamente (comVersao campos versao) =
      serializarCanonicamente (comVersao campos' versao) := by
    apply Option.ext
    intro s
    rw [serializar_eq_some, serializar_eq_some, hobject]
    exact and_congr_left fun _ => ⟨hsome hwith, hsome hwith.symm⟩
  unfold digest
  rw [hnames, hserial]

/-- Equal digests are those of fields that are reduced alike, or a collision. -/
theorem forma_eq_of_digest {x : String} (hkey : algoKey ∉ campos.map (·.1))
    (hnames : campos.map (·.1) = campos'.map (·.1)) (hnodup : (campos.map (·.1)).Nodup)
    (hflat : ∀ campo ∈ campos, campo.2.Plana) (hflat' : ∀ campo ∈ campos', campo.2.Plana)
    (hx : digest campos versao = some x) (hx' : digest campos' versao = some x) :
    campos.map (forma ·.2) = campos'.map (forma ·.2) ∨ Colidem campos campos' versao := by
  have hkey' : algoKey ∉ campos'.map (·.1) := hnames ▸ hkey
  unfold digest at hx hx'
  rw [if_neg hkey, Option.map_eq_some_iff] at hx
  rw [if_neg hkey', Option.map_eq_some_iff] at hx'
  obtain ⟨s, hs, hhash⟩ := hx
  obtain ⟨s', hs', hhash'⟩ := hx'
  by_cases hsame : s = s'
  case neg => exact .inr ⟨s, s', hs, hs', hsame, hhash.trans hhash'.symm⟩
  subst hsame
  have hnamed : (comVersao campos versao).map (·.1) = (comVersao campos' versao).map (·.1) := by
    unfold comVersao
    rw [List.map_append, List.map_append, hnames]
  have hdistinct : ((comVersao campos versao).map (·.1)).Nodup := by
    unfold comVersao
    rw [List.map_append, List.nodup_append]
    refine ⟨hnodup, List.nodup_singleton _, ?_⟩
    intro nome hnome outro houtro heq
    rw [List.map_singleton, List.mem_singleton] at houtro
    rw [heq, houtro] at hnome
    exact hkey hnome
  have hplana : ∀ {campos : Campos}, (∀ campo ∈ campos, campo.2.Plana) →
      ∀ campo ∈ comVersao campos versao, campo.2.Plana := by
    intro campos hflat campo hcampo
    rcases List.mem_append.mp hcampo with hcampo | hcampo
    · exact hflat campo hcampo
    · rw [List.mem_singleton.mp hcampo]
      exact plana_texto _
  have hforms := forma_eq_of_serializar hnamed hdistinct (hplana hflat) (hplana hflat') hs hs'
  unfold comVersao at hforms
  rw [List.map_append, List.map_append] at hforms
  exact .inl (List.append_cancel_right hforms)

end Digest

/-! ## Fields of one type -/

/-- The values of a type are reduced to scalars, one for each and none of them null. -/
structure Codifica {α : Type} (entrada : α → Entrada) : Prop where
  reduz : ∀ a, (canonico (entrada a)).isSome = true
  injetiva : ∀ a b, forma (entrada a) = forma (entrada b) → a = b
  naoNulo : ∀ a, forma (entrada a) ≠ .nulo
  escalar : ∀ a, (forma (entrada a)).cabe = true → ∀ niveis, (forma (entrada a)).Legivel niveis

theorem codifica_texto : Codifica Entrada.texto where
  reduz _ := rfl
  injetiva _ _ h := Documento.texto.inj h
  naoNulo _ h := Documento.noConfusion h
  escalar t _ niveis := legivel_texto niveis t

theorem codifica_membro {α : Type} {value : α → String} (hvalue : ∀ a b, value a = value b → a = b) :
    Codifica fun a => Entrada.membro (value a) where
  reduz _ := rfl
  injetiva a b h := hvalue a b (texto_of_injective (Documento.texto.inj h))
  naoNulo _ h := Documento.noConfusion h
  escalar _ _ niveis := legivel_ofString niveis _

theorem codifica_uuid : Codifica Entrada.uuid where
  reduz _ := rfl
  injetiva _ _ h := uuid_injective (texto_of_injective (Documento.texto.inj h))
  naoNulo _ h := Documento.noConfusion h
  escalar _ _ niveis := legivel_ofString niveis _

theorem codifica_inteiro : Codifica Entrada.inteiro where
  reduz _ := rfl
  injetiva _ _ h := Documento.inteiro.inj h
  naoNulo _ h := Documento.noConfusion h
  escalar n hfits niveis := by
    have hsmall := cabe_inteiro.mp hfits
    cases niveis <;> exact hsmall

theorem serializa_membro (valor : String) : (Entrada.membro valor).Serializa :=
  ⟨rfl, rfl, inteiro_ofString _⟩

theorem serializa_uuid (u : Referencia) : (Entrada.uuid u).Serializa :=
  ⟨rfl, rfl, inteiro_ofString _⟩

theorem serializa_inteiro {n : ℤ} :
    (Entrada.inteiro n).Serializa ↔ n.natAbs < 10 ^ intMaxStrDigits := by
  constructor
  · intro h
    exact cabe_inteiro.mp h.cabe
  · intro h
    exact ⟨rfl, cabe_inteiro.mpr h, inteiro_inteiro n⟩

section Codifica

variable {α : Type} {entrada : α → Entrada} (h : Codifica entrada)

include h

theorem Codifica.plana (a : α) : (entrada a).Plana := fun hfits => h.escalar a hfits 1

theorem Codifica.plana_opcional (a : Option α) : (Entrada.opcional entrada a).Plana := by
  cases a with
  | none => exact fun _ => legivel_nulo 1
  | some a => exact h.plana a

/-- Null is distinct from every value. -/
theorem Codifica.opcional_injetiva {a b : Option α}
    (hforms : forma (Entrada.opcional entrada a) = forma (Entrada.opcional entrada b)) : a = b := by
  cases a with
  | none =>
    cases b with
    | none => rfl
    | some b => exact absurd hforms.symm (h.naoNulo b)
  | some a =>
    cases b with
    | none => exact absurd hforms (h.naoNulo a)
    | some b => rw [h.injetiva a b hforms]

theorem Codifica.canonicos (itens : List α) :
    canonicos (itens.map entrada) = some (itens.map fun a => forma (entrada a)) := by
  induction itens with
  | nil => rfl
  | cons a itens ih =>
    rw [List.map_cons, Protection.canonicos, ih, canonico_eq_forma (h.reduz a)]
    rfl

theorem Codifica.forma_sequencia (itens : List α) : forma (.sequencia (itens.map entrada)) =
    .lista (itens.map fun a => forma (entrada a)) := by
  unfold forma
  rw [canonico, h.canonicos]
  rfl

theorem Codifica.reduz_sequencia (itens : List α) :
    (canonico (.sequencia (itens.map entrada))).isSome = true := by
  rw [canonico, h.canonicos]
  rfl

theorem Codifica.plana_sequencia (itens : List α) : (Entrada.sequencia (itens.map entrada)).Plana := by
  unfold Entrada.Plana
  rw [h.forma_sequencia, cabe_lista, List.forall_mem_map]
  intro hfits
  refine legivel_lista ?_
  rw [List.forall_mem_map]
  exact fun a ha => h.escalar a (hfits a ha) 0

/-- Tuples are compared in order. -/
theorem Codifica.sequencia_injetiva {itens outros : List α}
    (hforms : forma (.sequencia (itens.map entrada)) = forma (.sequencia (outros.map entrada))) :
    itens = outros := by
  rw [h.forma_sequencia, h.forma_sequencia] at hforms
  have hinjective : Function.Injective fun a => forma (entrada a) := h.injetiva
  exact hinjective.list_map (Documento.lista.inj hforms)

theorem Codifica.serializa_sequencia {itens : List α} :
    (Entrada.sequencia (itens.map entrada)).Serializa ↔ ∀ a ∈ itens, (entrada a).Serializa := by
  constructor
  · rintro ⟨-, hfits, hwhole⟩ a ha
    rw [h.forma_sequencia, cabe_lista, List.forall_mem_map] at hfits
    rw [h.forma_sequencia, inteiro_lista, List.forall_mem_map] at hwhole
    exact ⟨h.reduz a, hfits a ha, hwhole a ha⟩
  · intro hall
    refine ⟨h.reduz_sequencia itens, ?_, ?_⟩
    · rw [h.forma_sequencia, cabe_lista, List.forall_mem_map]
      exact fun a ha => (hall a ha).cabe
    · rw [h.forma_sequencia, inteiro_lista, List.forall_mem_map]
      exact fun a ha => (hall a ha).inteiro

end Codifica

theorem serializa_opcional {α : Type} {entrada : α → Entrada} {a : Option α} :
    (Entrada.opcional entrada a).Serializa ↔ ∀ x ∈ a, (entrada x).Serializa := by
  cases a with
  | none =>
    have hnull : (Entrada.opcional entrada none).Serializa :=
      ⟨rfl, rfl, inteiro_map "null".toList⟩
    simp [hnull]
  | some a =>
    have hvalue : Entrada.opcional entrada (some a) = entrada a := rfl
    simp [hvalue]

/-! ## Instants -/

theorem serializa_instante {t : Datetime} :
    (Entrada.instante (.ciente t)).Serializa ↔ t.Representable := by
  by_cases hrep : t.Representable
  · refine iff_of_true ⟨?_, ?_, ?_⟩ hrep
    · simp [canonico, utc?, hrep]
    · simp [forma, canonico, utc?, hrep, Documento.ofString, Documento.cabe]
    · simp [forma, canonico, utc?, hrep, inteiro_ofString]
  · refine iff_of_false ?_ hrep
    intro hserial
    have hreduz := hserial.reduz
    simp [canonico, utc?, hrep] at hreduz

theorem plana_instante (m : Momento) : (Entrada.instante m).Plana := by
  intro _
  unfold forma
  rw [canonico]
  cases utc? m with
  | none => exact legivel_nulo 1
  | some i => exact legivel_ofString 1 _

theorem isoformat_injective {i j : Instante} (h : i.utc.isoformat = j.utc.isoformat) :
    i.val = j.val := by
  have hread := fromisoformat_isoformat i
  rw [h, fromisoformat_isoformat j] at hread
  have hsame := congrArg (Option.map Momento.instant) hread
  have hinstant (k : Instante) : k.utc.instant = k.val := sub_zero _
  simp only [Option.map_some, Momento.instant, hinstant, Option.some.injEq] at hsame
  exact hsame.symm

/-- Instants are compared as instants. -/
theorem forma_instante {t u : Datetime} (ht : t.Representable) (hu : u.Representable) :
    forma (.instante (.ciente t)) = forma (.instante (.ciente u)) ↔ t.instant = u.instant := by
  have hform {t : Datetime} (ht : t.Representable) : forma (.instante (.ciente t)) =
      .ofString (Instante.utc ⟨t.instant, ht⟩).isoformat := by
    simp [forma, canonico, utc?, ht]
  rw [hform ht, hform hu]
  constructor
  · intro h
    exact isoformat_injective (texto_of_injective (Documento.texto.inj h))
  · intro h
    simp only [h]

end PiaOs.Protection
