import PiaOs.Memory.ExperienceRows
import PiaOs.Transactions.SavepointLaws

/-!
# Appends of validated experiences

Whatever the interleaving, an identity has one row, an append that repeats it returns that row,
and one that differs from it changes nothing. The savepoint keeps the rest of the transaction.
-/

namespace PiaOs.Memory.Experience

open Support Piap Transactions.Savepoints

section Laws

variable {τ χ ε : Type} (outras : Engine τ χ ε)

/-- The writes of the programs: rows of valid appends, and what the callers write elsewhere. -/
def Permitida : Escrita τ → Prop
  | .experiencia l => ∃ entrada, (registroDe entrada).gravar = .ok l
  | .outra _ => True

/-! ## What a session sees -/

@[simp] theorem linhas_append (ws ws' : List (Escrita τ)) :
    linhas (ws ++ ws') = linhas ws ++ linhas ws' := List.filterMap_append

theorem mem_linhas {ws : List (Escrita τ)} {l : Linha} : l ∈ linhas ws ↔ .experiencia l ∈ ws := by
  unfold linhas
  rw [List.mem_filterMap]
  constructor
  · rintro ⟨w, hw, hl⟩
    cases w with
    | experiencia l' =>
      obtain rfl : l' = l := Option.some.inj hl
      exact hw
    | outra w => cases hl
  · exact fun h => ⟨_, h, rfl⟩

theorem linhas_mono {S S' log : List (Escrita τ)} (h : S <+: S') {l : Linha}
    (hl : l ∈ linhas (S ++ log)) : l ∈ linhas (S' ++ log) := by
  rw [linhas_append, List.mem_append] at hl ⊢
  exact hl.imp_left fun hin => mem_linhas.mpr (h.subset (mem_linhas.mp hin))

theorem mem_taken {ws : List (Escrita τ)} {id : Referencia} :
    .inl id ∈ (banco outras).taken ws ↔ ∃ l ∈ linhas ws, l.id = id := by
  simp only [Engine.taken, List.mem_flatMap, mem_linhas]
  constructor
  · rintro ⟨w, hw, hkey⟩
    cases w with
    | experiencia l =>
      have hid : id = l.id := by simpa [banco] using hkey
      exact ⟨l, hw, hid.symm⟩
    | outra w => simp [banco] at hkey
  · rintro ⟨l, hl, rfl⟩
    exact ⟨_, hl, by simp [banco]⟩

variable {outras}

/-- An identity has one row. -/
theorem ids_nodup {ws : List (Escrita τ)} (h : InOrder (banco outras) Permitida ws) :
    ((linhas ws).map Linha.id).Nodup := by
  have hsub : (((linhas ws).map Linha.id).map Sum.inl).Sublist ((banco outras).taken ws) := by
    clear h
    induction ws with
    | nil => exact List.Sublist.refl _
    | cons w ws ih =>
      cases w with
      | experiencia l => exact ih.cons_cons _
      | outra w => exact ih.trans (List.sublist_append_right _ _)
  exact (h.unique.sublist hsub).of_map

theorem eq_of_id {ws : List (Escrita τ)} (h : InOrder (banco outras) Permitida ws) {l l' : Linha}
    (hl : l ∈ linhas ws) (hl' : l' ∈ linhas ws) (hid : l.id = l'.id) : l = l' :=
  List.inj_on_of_nodup_map (ids_nodup h) hl hl' hid

/-- A row that a session sees is that of a valid append. -/
theorem lida {ws : List (Escrita τ)} (h : InOrder (banco outras) Permitida ws) {l : Linha}
    (hl : l ∈ linhas ws) : ∃ entrada, (registroDe entrada).gravar = .ok l ∧ l.recusa = none ∧
      l.id = entrada.experienceId ∧ l.ler = .ok (registroDe entrada) := by
  obtain ⟨entrada, hgravar⟩ := h.allowed _ (mem_linhas.mp hl)
  have haccepted := h.accepted _ (mem_linhas.mp hl)
  obtain ⟨hid, hler⟩ := ler_gravar hgravar entrada.coerente.evidence
  exact ⟨entrada, hgravar, by simpa [banco] using haccepted, hid, hler⟩

theorem get_none {ws : List (Escrita τ)} {id : Referencia}
    (hnone : ∀ l ∈ linhas ws, l.id ≠ id) : get ws id = .ok none := by
  have hfind : (linhas ws).find? (fun l => l.id = id) = none := by
    rw [List.find?_eq_none]
    exact fun l hl => by simpa using hnone l hl
  rw [get, hfind]

theorem get_some {ws : List (Escrita τ)} (h : InOrder (banco outras) Permitida ws) {l : Linha}
    {r : ValidatedExperience} (hl : l ∈ linhas ws) (hler : l.ler = .ok r) :
    get ws l.id = .ok (some r) := by
  cases hfind : (linhas ws).find? (fun l' => l'.id = l.id) with
  | none =>
    rw [List.find?_eq_none] at hfind
    simpa using hfind l hl
  | some l' =>
    have hid : l'.id = l.id := by simpa using List.find?_some hfind
    obtain rfl := eq_of_id h (List.mem_of_find?_eq_some hfind) hl hid
    rw [get, hfind]
    simp [hler, Except.map]

theorem divergentes_eq_nil {existente candidato : ValidatedExperience} :
    divergentes existente candidato = [] ↔ MesmoConteudo existente candidato := by
  simp [divergentes, MesmoConteudo, List.filter_eq_nil_iff]

theorem reconciliar_eq (existente : ValidatedExperience) (entrada : ValidatedExperienceAppend) :
    reconciliar existente entrada = if MesmoConteudo existente (registroDe entrada) then
      .ok existente
    else .error (.conflito entrada.experienceId (divergentes existente (registroDe entrada))) := by
  simp only [reconciliar, materializar_eq]
  split
  case h_1 hnil => rw [if_pos (divergentes_eq_nil.mp hnil)]
  case h_2 hsome => rw [if_neg fun h => hsome (divergentes_eq_nil.mpr h)]

/-! ## One append -/

/-- What an append is for, whatever its session and the others do meanwhile. -/
structure Registra (entrada : ValidatedExperienceAppend) (S : List (Escrita τ)) (o : Own (Escrita τ))
    (S' : List (Escrita τ)) (o' : Own (Escrita τ)) (resposta : Except Erro ValidatedExperience) :
    Prop where
  failed : o.failed = true → o' = o ∧ resposta = .error .transacaoFalhou
  replay : o.failed = false → ∀ l ∈ linhas (S' ++ o.log), ∀ r, l.ler = .ok r →
    r.id = entrada.experienceId → MesmoConteudo r (registroDe entrada) → o' = o ∧ resposta = .ok r
  conflict : o.failed = false → ∀ l ∈ linhas (S' ++ o.log), ∀ r, l.ler = .ok r →
    r.id = entrada.experienceId → ¬MesmoConteudo r (registroDe entrada) → o' = o ∧
      (resposta = .error (.conflito entrada.experienceId (divergentes r (registroDe entrada))) ∨
        l ∉ linhas (S ++ o.log) ∧ ¬Gravavel entrada ∧ ∃ e, resposta = .error (.banco e))
  fresh : o.failed = false → (∀ l ∈ linhas (S' ++ o.log), l.id ≠ entrada.experienceId) →
    Gravavel entrada → ∃ l, l.ler = .ok (registroDe entrada) ∧ o' = o.add (.experiencia l) ∧
      resposta = .ok (registroDe entrada)
  refused : o.failed = false → (∀ l ∈ linhas (S' ++ o.log), l.id ≠ entrada.experienceId) →
    ¬Gravavel entrada → o' = o ∧ ∃ e, resposta = .error (.banco e)

variable {entrada : ValidatedExperienceAppend} {S S' : List (Escrita τ)} {o : Own (Escrita τ)}

/-- The answer to a row that the session has seen. -/
theorem Registra.reconciliada {l : Linha} {r : ValidatedExperience}
    (hview : InOrder (banco outras) Permitida (S' ++ o.log)) (hfailed : o.failed = false)
    (hl : l ∈ linhas (S' ++ o.log)) (hid : l.id = entrada.experienceId) (hler : l.ler = .ok r) :
    Registra entrada S o S' o (reconciliar r entrada) := by
  have honly : ∀ l' ∈ linhas (S' ++ o.log), ∀ r', l'.ler = .ok r' → r'.id = entrada.experienceId →
      r' = r := by
    intro l' hl' r' hler' hid'
    obtain ⟨entrada', -, -, hid'', hler''⟩ := lida hview hl'
    obtain rfl : r' = registroDe entrada' := by simpa [hler'] using hler''
    obtain rfl := eq_of_id hview hl' hl ((hid''.trans hid').trans hid.symm)
    exact Except.ok.inj (hler'.symm.trans hler)
  rw [reconciliar_eq]
  refine ⟨fun h => absurd h (by simp [hfailed]), ?_, ?_, ?_, ?_⟩
  · intro _ l' hl' r' hler' hid' hsame
    obtain rfl := honly l' hl' r' hler' hid'
    exact ⟨rfl, if_pos hsame⟩
  · intro _ l' hl' r' hler' hid' hdiffers
    obtain rfl := honly l' hl' r' hler' hid'
    exact ⟨rfl, .inl (if_neg hdiffers)⟩
  · exact fun _ hnone => absurd hid (hnone l hl)
  · exact fun _ hnone => absurd hid (hnone l hl)

/-- The answer to a row that cannot be stored, when none was seen at first. -/
theorem Registra.recusada {e : ErroDoBanco}
    (hview : InOrder (banco outras) Permitida (S' ++ o.log)) (hfailed : o.failed = false)
    (hnone : ∀ l ∈ linhas (S ++ o.log), l.id ≠ entrada.experienceId) (hnot : ¬Gravavel entrada) :
    Registra entrada S o S' o (.error (.banco e)) := by
  refine ⟨fun h => absurd h (by simp [hfailed]), ?_, ?_, ?_, ?_⟩
  · intro _ l hl r hler hid hsame
    obtain ⟨entrada', hgravar, hrecusa, -, hler'⟩ := lida hview hl
    obtain rfl : r = registroDe entrada' := by simpa [hler] using hler'
    have heq : registroDe entrada' = registroDe entrada := eq_of_mesmoConteudo hid hsame
    exact absurd (gravavel_iff.mpr ⟨l, heq ▸ hgravar, hrecusa⟩) hnot
  · intro _ l hl r hler hid _
    obtain ⟨entrada', -, -, hid', hler'⟩ := lida hview hl
    obtain rfl : r = registroDe entrada' := by simpa [hler] using hler'
    exact ⟨rfl, .inr ⟨fun hin => hnone l hin (hid'.trans hid), hnot, e, rfl⟩⟩
  · exact fun _ _ h => absurd h hnot
  · exact fun _ _ _ => ⟨rfl, e, rfl⟩

/-- The answer to a row that has been stored. -/
theorem Registra.inserida {l : Linha} (hfailed : o.failed = false)
    (hview : InOrder (banco outras) Permitida (S' ++ (o.add (.experiencia l)).log))
    (hgravar : (registroDe entrada).gravar = .ok l) :
    Registra entrada S o S' (o.add (.experiencia l)) (.ok (registroDe entrada)) := by
  obtain ⟨hid, hler⟩ := ler_gravar hgravar entrada.coerente.evidence
  have hnew : ∀ l' ∈ linhas (S' ++ o.log), l'.id ≠ entrada.experienceId := by
    intro l' hl' hid'
    have hids := ids_nodup hview
    rw [Own.add, ← List.append_assoc, linhas_append, List.map_append] at hids
    have hsame : l'.id = l.id := hid'.trans hid.symm
    exact (List.nodup_append'.mp hids).2.2 (List.mem_map_of_mem hl')
      (by simp [linhas, Escrita.linha?, hsame])
  have hrecusa : l.recusa = none := by
    have haccepted := hview.accepted (.experiencia l) (by simp [Own.add])
    simpa [banco] using haccepted
  have habsent : ∀ l' ∈ linhas (S' ++ o.log), ∀ r, l'.ler = .ok r → r.id ≠ entrada.experienceId := by
    intro l' hl' r hler' hid'
    obtain ⟨entrada', -, -, hid'', hler''⟩ := lida (InOrder.left
      (by rwa [Own.add, ← List.append_assoc] at hview)) hl'
    obtain rfl : r = registroDe entrada' := by simpa [hler'] using hler''
    exact hnew l' hl' (hid''.trans hid')
  refine ⟨fun h => absurd h (by simp [hfailed]), ?_, ?_, ?_, ?_⟩
  · exact fun _ l' hl' r hler' hid' _ => absurd hid' (habsent l' hl' r hler')
  · exact fun _ l' hl' r hler' hid' _ => absurd hid' (habsent l' hl' r hler')
  · exact fun _ _ _ => ⟨l, hler, rfl, rfl⟩
  · exact fun _ _ hnot => absurd (gravavel_iff.mpr ⟨l, hgravar, hrecusa⟩) hnot

theorem codificado_error {coluna : String} {t : Texto} {e : Erro}
    (h : codificado coluna t = .error e) : ∃ b, e = .banco b := by
  unfold codificado at h
  split at h
  case h_1 => cases h
  case h_2 => exact ⟨_, (Except.error.inj h).symm⟩

/-- Only an encoding fails, for a valid append. -/
theorem gravar_error {e : Erro} (h : (registroDe entrada).gravar = .error e) : ∃ b, e = .banco b := by
  have hbind : processBindParam (registroDe entrada).evidenceRefs =
      .ok (entrada.evidenceRefs.map EvidenceReference.sortKey) := by
    rw [processBindParam, registroDe, canonizar_eq_ok.mpr ⟨rfl, entrada.coerente.evidence⟩]
  simp only [ValidatedExperience.gravar, hbind, ok_bind] at h
  cases htoken : codificado "outcome_token" (registroDe entrada).outcomeToken with
  | error e' =>
    rw [htoken] at h
    exact Except.error.inj h ▸ codificado_error htoken
  | ok token =>
    rw [htoken, ok_bind] at h
    cases hvalidator : codificado "validator_ref" (registroDe entrada).validatorRef with
    | error e' =>
      rw [hvalidator] at h
      exact Except.error.inj h ▸ codificado_error hvalidator
    | ok validator =>
      rw [hvalidator, ok_bind] at h
      cases hcriterion : codificado "criterion_key" (registroDe entrada).criterionKey with
      | error e' =>
        rw [hcriterion] at h
        exact Except.error.inj h ▸ codificado_error hcriterion
      | ok criterion =>
        rw [hcriterion, ok_bind] at h
        cases h

/-! ## The program -/

variable [DecidableEq χ]

variable (outras) in
/-- What the `INSERT` of a row answers, under a savepoint. -/
theorem insert_experiencia (S : List (Escrita τ)) {o : Own (Escrita τ)} (l : Linha)
    (hfailed : o.failed = false) :
    (∃ e, l.recusa = some e ∧
      (banco outras).insert S o (.experiencia l) none = (.refused (.inl e), o.fail)) ∨
    (∃ l' ∈ linhas (S ++ o.log), l'.id = l.id ∧
      (banco outras).insert S o (.experiencia l) none = (.duplicate (.inl l.id), o.fail)) ∨
    (l.recusa = none ∧
      (banco outras).insert S o (.experiencia l) none = (.written, o.add (.experiencia l))) := by
  have hrefuses : (banco outras).refuses (.experiencia l) = l.recusa.map .inl := rfl
  have hkeys : (banco outras).keys (.experiencia l) = [.inl l.id] := rfl
  simp only [Engine.insert, hfailed, Bool.false_eq_true, if_false, hrefuses, hkeys,
    Option.any_none]
  cases hrecusa : l.recusa with
  | some e => exact .inl ⟨e, rfl, rfl⟩
  | none =>
    by_cases htaken : .inl l.id ∈ (banco outras).taken (S ++ o.log)
    · obtain ⟨l', hl', hid⟩ := (mem_taken outras).mp htaken
      exact .inr (.inl ⟨l', hl', hid, by simp [htaken]⟩)
    · exact .inr (.inr ⟨rfl, by simp [htaken]⟩)

/-- After a collision the row is there to be read. -/
theorem ends_lerConcorrente {S₀ : List (Escrita τ)} (hfailed : o.failed = false)
    (hrow : ∃ l ∈ linhas (S ++ o.log), l.id = entrada.experienceId) :
    (lerConcorrente (τ := τ) (χ := χ) (ε := ε) entrada).Ends (banco outras) Permitida
      (Registra entrada S₀ o) S o := by
  obtain ⟨l, hl, hid⟩ := hrow
  intro S' hS'
  have hin := linhas_mono hS'.grows hl
  obtain ⟨entrada', -, -, -, hler⟩ := lida hS'.view hin
  simp only [hfailed, Bool.false_eq_true, if_false, ← hid, get_some hS'.view hin hler]
  intro T hT
  exact Registra.reconciliada hT.view hfailed (linhas_mono hT.grows hin) hid hler

/-- The `INSERT` under the savepoint, when the identity was not seen at first. -/
theorem ends_insert {S₀ : List (Escrita τ)} {l : Linha} (hfailed : o.failed = false)
    (hnone : ∀ l ∈ linhas (S₀ ++ o.log), l.id ≠ entrada.experienceId)
    (hgravar : (registroDe entrada).gravar = .ok l) :
    (Prog.insert (.experiencia l) none (responder (τ := τ) (χ := χ) (ε := ε) entrada
      (registroDe entrada))).Ends (banco outras) Permitida (Registra entrada S₀ o) S o.nest := by
  refine ⟨⟨entrada, hgravar⟩, fun S' _ => ?_⟩
  have hid := (ler_gravar hgravar entrada.coerente.evidence).1
  rcases insert_experiencia outras S' (o := o.nest) l hfailed with
    ⟨e, hrecusa, heq⟩ | ⟨l', hl', hid', heq⟩ | ⟨hrecusa, heq⟩
  · rw [heq]
    have hnot : ¬Gravavel entrada := by
      intro h
      obtain ⟨l', hl', hrecusa'⟩ := gravavel_iff.mp h
      obtain rfl := Except.ok.inj (hgravar.symm.trans hl')
      rw [hrecusa] at hrecusa'
      cases hrecusa'
    intro T _
    rw [Own.rollback_fail_nest o hfailed]
    exact fun U hU => .recusada hU.view hfailed hnone hnot
  · rw [heq]
    intro T hT
    rw [Own.rollback_fail_nest o hfailed]
    exact ends_lerConcorrente hfailed ⟨l', linhas_mono hT.grows hl', hid'.trans hid⟩
  · rw [heq]
    intro T _
    rw [Own.release_add_nest]
    exact fun U hU => .inserida hfailed hU.view hgravar

/-- Every append does what it is for. -/
theorem ends_append (entrada : ValidatedExperienceAppend) :
    (append (τ := τ) (χ := χ) (ε := ε) entrada).Ends (banco outras) Permitida
      (Registra entrada S o) S o := by
  intro S' hS'
  by_cases hfailed : o.failed = true
  · simp only [hfailed, if_true]
    exact fun T _ => ⟨fun _ => ⟨rfl, rfl⟩, by simp [hfailed], by simp [hfailed],
      by simp [hfailed], by simp [hfailed]⟩
  · rw [Bool.not_eq_true] at hfailed
    simp only [hfailed, Bool.false_eq_true, if_false]
    by_cases hrow : ∃ l ∈ linhas (S' ++ o.log), l.id = entrada.experienceId
    · obtain ⟨l, hl, hid⟩ := hrow
      obtain ⟨entrada', -, -, -, hler⟩ := lida hS'.view hl
      simp only [← hid, get_some hS'.view hl hler]
      exact fun T hT => .reconciliada hT.view hfailed (linhas_mono hT.grows hl) hid hler
    · simp only [not_exists, not_and] at hrow
      simp only [get_none hrow, materializar_eq]
      have hnone : ∀ l ∈ linhas (S ++ o.log), l.id ≠ entrada.experienceId :=
        fun l hl => hrow l (linhas_mono hS'.grows hl)
      intro T _
      simp only [hfailed, Bool.false_eq_true, if_false]
      cases hgravar : (registroDe entrada).gravar with
      | error e =>
        obtain ⟨b, rfl⟩ := gravar_error hgravar
        have hnot : ¬Gravavel entrada := by
          intro h
          obtain ⟨l, hl, -⟩ := gravavel_iff.mp h
          rw [hgravar] at hl
          cases hl
        intro U _
        rw [Own.rollback_nest o hfailed]
        exact fun V hV => .recusada hV.view hfailed hnone hnot
      | ok l => exact ends_insert hfailed hnone hgravar

variable (outras)

/-- What holds of the table in a state of a run. -/
structure Registrada (s : Sys (Escrita τ) (Referencia ⊕ χ) (ErroDoBanco ⊕ ε)
    ValidatedExperienceAppend (Except Erro ValidatedExperience)) : Prop where
  unique : ((linhas s.store).map Linha.id).Nodup
  permanent : ∀ t, Sys.Steps (banco outras) append s t → s.store <+: t.store
  calls : ∀ e ∈ s.events, Registra e.call e.store e.own e.store' e.own' e.answer

theorem experiences_registered {s : Sys (Escrita τ) (Referencia ⊕ χ) (ErroDoBanco ⊕ ε)
    ValidatedExperienceAppend (Except Erro ValidatedExperience)}
    (h : Sys.Reachable (banco outras) append s) : Registrada outras s := by
  have hmeets : Meets (banco outras) Permitida append fun entrada => Registra (τ := τ) entrada := by
    refine ⟨fun w hw => ?_, fun entrada S o _ => ends_append entrada⟩
    cases w with
    | experiencia l => cases hw
    | outra w => trivial
  have hsound := sound_of_reachable hmeets h
  exact ⟨ids_nodup hsound.store, fun t ht => ht.grows, hsound.events⟩

end Laws

/-! ## Runs -/

/-- Another table, of numbers that are their own keys. -/
def numeros : Engine ℕ ℕ Unit where
  keys n := [n]
  keys_nodup _ := List.nodup_singleton _
  refuses _ := none
  direct _ := true

theorem instante_inRange : datetimeMin ≤ 0 ∧ 0 ≤ datetimeMax := Datetime.epoch.wall_inRange

def camposDoCriterio (criterionRef : CriterionReference) : AppendFields where
  experienceId := 7
  subjectRef := ⟨.cognitiveObject, 1⟩
  outcomeObserved :=
    { outcomeToken := Texto.of "produced"
      observedAt := ⟨0, instante_inRange⟩
      primaryEvidenceRef := ⟨.causalEvent, 2⟩
      outcomeToken_ok := by decide }
  validatedBy := ⟨.human, Texto.of "v", by decide⟩
  criterionRef
  evidenceRefs := [⟨.causalEvent, 2⟩]
  validatedAt := ⟨0, instante_inRange⟩
  origin := 3

/-- An append that differs from the others in the version of its criterion only. -/
def entradaDaVersao (versao : ℤ) (h : quando (versao < 1) .versaoMenorQueUm = none) :
    ValidatedExperienceAppend where
  toAppendFields := camposDoCriterio ⟨Texto.of "k", versao, .declared, by decide, h⟩
  aceita := by
    have hsame : (camposDoCriterio ⟨Texto.of "k", versao, .declared, by decide, h⟩).recusa =
        (camposDoCriterio ⟨Texto.of "k", 1, .declared, by decide, rfl⟩).recusa := rfl
    rw [hsame]
    decide +kernel

def entradaUm : ValidatedExperienceAppend := entradaDaVersao 1 rfl

def entradaDois : ValidatedExperienceAppend := entradaDaVersao 2 rfl

def entradaGrande : ValidatedExperienceAppend := entradaDaVersao 2147483648 rfl

/-- Two sessions write elsewhere and race to append the same; the second waits for the first. It
then asks for something else under the same identity. -/
def corrida : List (Label (Escrita ℕ) ValidatedExperienceAppend) :=
  [.begin, .begin, .write 0 (.outra 10), .write 1 (.outra 20), .call 0 entradaUm,
    .call 1 entradaUm, .step 0 0, .step 1 0, .step 0 0, .step 1 0, .step 0 0, .step 0 0, .step 0 0,
    .commit 0, .step 1 0, .step 1 0, .step 1 0, .step 1 0, .call 1 entradaDois, .step 1 0,
    .step 1 0, .commit 1]

theorem experiences_registered_once : ∃ s, Sys.Reachable (banco numeros) append s ∧
    s.events.map (fun e => e.answer) =
      [.error (.conflito 7 [.criterionVersion]), .ok (registroDe entradaUm),
        .ok (registroDe entradaUm)] ∧
    s.store.filterMap (fun w => w.linha?.map Linha.id) = [7] ∧ .outra 10 ∈ s.store ∧
    .outra 20 ∈ s.store ∧ Registrada numeros s := by
  obtain ⟨s, hreach, htest⟩ := Sys.Steps.exists_of_trace (banco numeros) append .start corrida
    (fun s => decide (s.events.map (fun e => e.answer) =
      [.error (.conflito 7 [.criterionVersion]), .ok (registroDe entradaUm),
        .ok (registroDe entradaUm)] ∧
      s.store.filterMap (fun w => w.linha?.map Linha.id) = [7] ∧ .outra 10 ∈ s.store ∧
      .outra 20 ∈ s.store)) (by decide +kernel)
  obtain ⟨hanswers, hids, hten, htwenty⟩ := of_decide_eq_true htest
  exact ⟨s, hreach, hanswers, hids, hten, htwenty, experiences_registered numeros hreach⟩

/-- The second session has not seen the identity, and the table refuses its version before the
row of the first session is met. -/
def corridaRecusada : List (Label (Escrita ℕ) ValidatedExperienceAppend) :=
  [.begin, .begin, .call 0 entradaUm, .call 1 entradaGrande, .step 0 0, .step 1 0, .step 0 0,
    .step 0 0, .step 0 0, .step 0 0, .commit 0, .step 1 0, .step 1 0, .step 1 0, .step 1 0]

theorem conflict_missed : ¬ ∀ s, Sys.Reachable (banco numeros) append s → ∀ e ∈ s.events,
    e.own.failed = false → ∀ l ∈ linhas (e.store' ++ e.own.log), ∀ r, l.ler = .ok r →
      r.id = e.call.experienceId → ¬MesmoConteudo r (registroDe e.call) →
        ∃ campos, e.answer = .error (.conflito e.call.experienceId campos) := by
  intro hall
  obtain ⟨s, hreach, htest⟩ := Sys.Steps.exists_of_trace (banco numeros) append .start
    corridaRecusada (fun s => s.events.any fun e => decide (e.own.failed = false ∧
      (∃ l ∈ linhas (e.store' ++ e.own.log), l.ler = .ok (registroDe entradaUm)) ∧
      (registroDe entradaUm).id = e.call.experienceId ∧
      ¬MesmoConteudo (registroDe entradaUm) (registroDe e.call) ∧
      e.answer = .error (.banco (.inteiroForaDoIntervalo "criterion_version")))) (by decide +kernel)
  obtain ⟨e, he, hfacts⟩ := List.any_eq_true.mp htest
  obtain ⟨hfailed, ⟨l, hl, hler⟩, hid, hdiffers, hanswer⟩ := of_decide_eq_true hfacts
  obtain ⟨campos, hconflict⟩ := hall s hreach e he hfailed l hl _ hler hid hdiffers
  rw [hanswer] at hconflict
  cases hconflict

end PiaOs.Memory.Experience
