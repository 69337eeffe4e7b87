import PiaOs.Connections.Profiles
import PiaOs.Transactions.Histories

/-!
# One manual profile for each principal

Whatever the interleaving, a principal has one manual profile that is not terminal, every
caller that commits was given it, and one of them at most has created it. A caller that loses
the race is answered with the winner and keeps what it wrote before.
-/

namespace PiaOs.Connections.Kernel

open Support Transactions.Savepoints

section Laws

variable {τ χ ε : Type}

/-- The writes of the programs: a manual profile that is not terminal is one that
`ensure_manual_profile` inserts. -/
def Permitida : Escrita τ → Prop
  | .perfil l => l.manualAtivo = true → ∃ p n, blank p = false ∧ l = perfilManual n p
  | .outra _ => True

/-! ## What a session sees -/

@[simp] theorem manuais_append (ws ws' : List (Escrita τ)) (p : String) :
    manuais (ws ++ ws') p = manuais ws p ++ manuais ws' p := by
  simp [manuais, perfis]

theorem mem_perfis {ws : List (Escrita τ)} {l : ConnectionProfile} :
    l ∈ perfis ws ↔ .perfil l ∈ ws := by
  unfold perfis
  rw [List.mem_filterMap]
  constructor
  · rintro ⟨w, hw, hl⟩
    cases w with
    | perfil other =>
      obtain rfl : other = l := Option.some.inj hl
      exact hw
    | outra w => cases hl
  · exact fun h => ⟨_, h, rfl⟩

theorem mem_manuais {ws : List (Escrita τ)} {p : String} {l : ConnectionProfile} :
    l ∈ manuais ws p ↔ .perfil l ∈ ws ∧ l.controlPrincipalRef = p ∧ l.manualAtivo = true := by
  simp [manuais, mem_perfis]

theorem perfis_mono {S S' log : List (Escrita τ)} (h : S <+: S') {l : ConnectionProfile}
    (hl : l ∈ perfis (S ++ log)) : l ∈ perfis (S' ++ log) := by
  rw [mem_perfis, List.mem_append] at hl ⊢
  exact hl.imp_left fun hin => h.subset hin

theorem manuais_mono {S S' log : List (Escrita τ)} (h : S <+: S') {p : String}
    {l : ConnectionProfile} (hl : l ∈ manuais (S ++ log) p) : l ∈ manuais (S' ++ log) p := by
  obtain ⟨hmem, hrest⟩ := mem_manuais.mp hl
  exact mem_manuais.mpr ⟨mem_perfis.mp (perfis_mono h (mem_perfis.mpr hmem)), hrest⟩

/-- Each manual profile of a principal takes its key. -/
theorem replicate_manuais (outras : Engine τ χ ε) (ws : List (Escrita τ)) (p : String) :
    (List.replicate (manuais ws p).length (.inl (.manual p))).Sublist ((banco outras).taken ws) := by
  induction ws with
  | nil => exact List.Sublist.refl _
  | cons w ws ih =>
    have hcons : manuais (w :: ws) p = manuais [w] p ++ manuais ws p := manuais_append [w] ws p
    have htaken : (banco outras).taken (w :: ws) = (banco outras).keys w ++ (banco outras).taken ws :=
      List.flatMap_cons
    have hfirst : (List.replicate (manuais [w] p).length (.inl (.manual p))).Sublist
        ((banco outras).keys w) := by
      cases w with
      | outra w => exact List.nil_sublist _
      | perfil l =>
        by_cases hl : l.controlPrincipalRef = p ∧ l.manualAtivo = true
        · have hone : manuais [.perfil l (τ := τ)] p = [l] := by
            simp [manuais, perfis, Escrita.perfil?, hl.1, hl.2]
          have hkey : (.inl (.manual p) : Chave ⊕ χ) ∈ (banco outras).keys (.perfil l) := by
            simp [banco, ConnectionProfile.chaves, hl.1, hl.2]
          rw [hone]
          exact List.singleton_sublist.mpr hkey
        · have hempty : manuais [.perfil l (τ := τ)] p = [] := by
            simpa [manuais, perfis, Escrita.perfil?] using hl
          rw [hempty]
          exact List.nil_sublist _
    rw [hcons, htaken, List.length_append, ← List.replicate_append_replicate]
    exact hfirst.append ih

variable {outras : Engine τ χ ε}

/-- A principal has one manual profile at most. -/
theorem length_manuais_le_one {ws : List (Escrita τ)}
    (h : InOrder (banco outras) Permitida ws) (p : String) : (manuais ws p).length ≤ 1 :=
  List.nodup_replicate.mp (h.unique.sublist (replicate_manuais outras ws p))

/-- The view of a manual profile. -/
def vistaManual (l : ConnectionProfile) : ConnectionProfileView where
  connectionId := l.id
  method := manualMethod
  state := manualState
  endpointRef := none
  accessProviderSlug := none
  displayName := none

theorem projetar_perfilManual (n : ℕ) (p : String) :
    projetar (perfilManual n p) none = .ok (vistaManual (perfilManual n p)) := by
  simp [projetar, ConnectionProfileView.postInit, perfilManual, createProfile, vistaManual,
    manualMethod, manualState, baselineMethodState]

theorem recuperado_perfilManual (n : ℕ) (p : String) :
    recuperado (perfilManual n p) = .ok ⟨vistaManual (perfilManual n p), false⟩ := by
  rw [recuperado, projetar_perfilManual]
  rfl

/-- The table judges the manual profile of a principal whatever its identifier. -/
theorem recusa_perfilManual (n m : ℕ) (p : String) :
    (perfilManual n p).recusa = (perfilManual m p).recusa := rfl

/-- A manual profile that a session sees is one that a call has inserted. -/
theorem lida {ws : List (Escrita τ)} (h : InOrder (banco outras) Permitida ws) {p : String}
    {l : ConnectionProfile} (hl : l ∈ manuais ws p) :
    ∃ n, l = perfilManual n p ∧ blank p = false ∧ (perfilManual 0 p).recusa = none := by
  obtain ⟨hmem, hp, hmanual⟩ := mem_manuais.mp hl
  obtain ⟨q, n, hblank, heq⟩ := h.allowed _ hmem hmanual
  have hq : q = p := by rw [← hp, heq]; rfl
  subst hq
  have haccepted := h.accepted _ hmem
  refine ⟨n, heq, hblank, ?_⟩
  rw [recusa_perfilManual 0 n, ← heq]
  simpa [banco] using haccepted

theorem semNulo {p : String} (h : (perfilManual 0 p).recusa = none) :
    p.toList.contains '\x00' = false := by
  have hfirst := List.findSome?_eq_none_iff.mp h _ List.mem_cons_self
  cases hcontains : p.toList.contains '\x00' with
  | false => rfl
  | true =>
    have hcontains' : (perfilManual 0 p).controlPrincipalRef.toList.contains '\x00' = true := hcontains
    rw [recusaDoTexto, hcontains'] at hfirst
    cases hfirst

/-! ## One call -/

/-- What a call is for, whatever its session and the others do meanwhile. -/
structure Garante (p : String) (o : Own (Escrita τ)) (S' : List (Escrita τ)) (o' : Own (Escrita τ))
    (resposta : Except Erro ManualProfileOutcome) : Prop where
  kept : (o' = o ∧ ∀ v, resposta = .ok v → v.created = false) ∨
    ∃ n, o' = o.add (.perfil (perfilManual n p)) ∧
      resposta = .ok ⟨vistaManual (perfilManual n p), true⟩
  given : ∀ v, resposta = .ok v → ∃ l ∈ manuais (S' ++ o'.log) p, v.profile = vistaManual l
  total : o.failed = false → blank p = false → (perfilManual 0 p).recusa = none →
    (∃ v, resposta = .ok v) ∨ resposta = .error .integrityError ∧
      ∃ n, ∃ l ∈ perfis (S' ++ o.log), l.id = (perfilManual n p).id

variable {p : String} {S S' : List (Escrita τ)} {o : Own (Escrita τ)}

/-- An error that the session, the principal or the table explains. -/
theorem Garante.erro {e : Erro} (h : o.failed = true ∨ blank p = true ∨
      (perfilManual 0 p).recusa ≠ none ∨ e = .integrityError ∧
        ∃ n, ∃ l ∈ perfis (S' ++ o.log), l.id = (perfilManual n p).id) :
    Garante p o S' o (.error e) where
  kept := .inl ⟨rfl, fun v hv => by cases hv⟩
  given := fun v hv => by cases hv
  total := by
    intro hfailed hblank hrecusa
    obtain h | h | h | ⟨rfl, h⟩ := h
    · rw [h] at hfailed
      cases hfailed
    · rw [h] at hblank
      cases hblank
    · exact absurd hrecusa h
    · exact .inr ⟨rfl, h⟩

theorem Garante.recuperado {n : ℕ} (hl : perfilManual n p ∈ manuais (S' ++ o.log) p) :
    Garante p o S' o (recuperado (perfilManual n p)) := by
  rw [recuperado_perfilManual]
  refine ⟨.inl ⟨rfl, ?_⟩, ?_, fun _ _ _ => .inl ⟨_, rfl⟩⟩
  · intro v hv
    rw [← Except.ok.inj hv]
  · intro v hv
    rw [← Except.ok.inj hv]
    exact ⟨_, hl, rfl⟩

theorem Garante.criado (n : ℕ) : Garante p o S' (o.add (.perfil (perfilManual n p)))
    (.ok ⟨vistaManual (perfilManual n p), true⟩) := by
  refine ⟨.inr ⟨n, rfl, rfl⟩, ?_, fun _ _ _ => .inl ⟨_, rfl⟩⟩
  intro v hv
  rw [← Except.ok.inj hv]
  refine ⟨perfilManual n p, mem_manuais.mpr ⟨?_, rfl, rfl⟩, rfl⟩
  simp [Own.add]

/-! ## The program -/

variable [DecidableEq χ]

/-- A reading of the manual profile: it finds none, or one that a call has inserted. -/
theorem ends_getManualProfile {k : Option ConnectionProfile → Programa τ χ ε}
    (hnone : ∀ S', Others (banco outras) Permitida o S S' → o.failed = false →
      manuais (S' ++ o.log) p = [] →
        (k none).Ends (banco outras) Permitida (Garante p o) S' o)
    (hsome : ∀ S' n, Others (banco outras) Permitida o S S' → o.failed = false →
      perfilManual n p ∈ manuais (S' ++ o.log) p →
        (k (some (perfilManual n p))).Ends (banco outras) Permitida (Garante p o) S' o) :
    (getManualProfile p k).Ends (banco outras) Permitida (Garante p o) S o := by
  unfold getManualProfile
  split
  case isTrue hnulo =>
    intro S' _
    refine .erro (.inr (.inr (.inl fun h => ?_)))
    rw [semNulo h] at hnulo
    cases hnulo
  case isFalse =>
    intro S' hS'
    cases hfailed : o.failed with
    | true => exact fun T _ => .erro (.inl hfailed)
    | false =>
      have hlength := length_manuais_le_one hS'.view p
      simp only [Bool.false_eq_true, if_false]
      cases hrows : manuais (S' ++ o.log) p with
      | nil => exact hnone S' hS' hfailed hrows
      | cons l rest =>
        have hl : l ∈ manuais (S' ++ o.log) p := by
          rw [hrows]
          exact List.mem_cons_self
        obtain ⟨n, rfl, -, -⟩ := lida hS'.view hl
        rw [hrows] at hlength
        obtain rfl : rest = [] := by
          rw [List.length_cons] at hlength
          exact List.eq_nil_of_length_eq_zero (by omega)
        exact hsome S' n hS' hfailed hl

omit [DecidableEq χ] in
/-- A key of the table is taken by a profile. -/
theorem exists_of_taken (outras : Engine τ χ ε) {ws : List (Escrita τ)} {chave : Chave}
    (h : .inl chave ∈ (banco outras).taken ws) : ∃ l ∈ perfis ws, chave ∈ l.chaves := by
  obtain ⟨w, hw, hkey⟩ := List.mem_flatMap.mp h
  cases w with
  | perfil l => exact ⟨l, mem_perfis.mpr hw, by simpa [banco] using hkey⟩
  | outra w => simp [banco] at hkey

/-- What stands in the way of an insertion: the table, another profile with the identifier
that was drawn, or the profile that was first. -/
def Impedida (ws : List (Escrita τ)) (p : String) : Prop :=
  (perfilManual 0 p).recusa ≠ none ∨ (∃ n, ∃ l ∈ perfis ws, l.id = (perfilManual n p).id) ∨
    manuais ws p ≠ []

theorem Impedida.mono {log : List (Escrita τ)} (h : Impedida (S ++ log) p) (hS : S <+: S') :
    Impedida (S' ++ log) p := by
  obtain h | ⟨n, l, hl, hid⟩ | h := h
  · exact .inl h
  · exact .inr (.inl ⟨n, l, perfis_mono hS hl, hid⟩)
  · obtain ⟨l, hl⟩ := List.exists_mem_of_ne_nil _ h
    exact .inr (.inr (List.ne_nil_of_mem (manuais_mono hS hl)))

/-- What the insertion answers. Only what stands in its way fails the transaction. -/
theorem insert_perfilManual (outras : Engine τ χ ε) (S : List (Escrita τ)) (n : ℕ)
    (hfailed : o.failed = false) :
    (∃ e, (perfilManual 0 p).recusa = some e ∧
      (banco outras).insert S o (.perfil (perfilManual n p)) none = (.refused (.inl e), o.fail)) ∨
    (∃ chave, Impedida (S ++ o.log) p ∧
      (banco outras).insert S o (.perfil (perfilManual n p)) none = (.duplicate chave, o.fail)) ∨
    (banco outras).insert S o (.perfil (perfilManual n p)) none =
      (.written, o.add (.perfil (perfilManual n p))) := by
  have hrefuses : (banco outras).refuses (.perfil (perfilManual n p)) =
      (perfilManual 0 p).recusa.map .inl := rfl
  have hkeys : (banco outras).keys (.perfil (perfilManual n p)) =
      [.inl (.id (perfilManual n p).id), .inl (.manual p)] := rfl
  simp only [Engine.insert, hfailed, Bool.false_eq_true, if_false, hrefuses, hkeys, Option.any_none]
  cases hrecusa : (perfilManual 0 p).recusa with
  | some e => exact .inl ⟨e, rfl, rfl⟩
  | none =>
    simp only [Option.map_none]
    split
    case h_2 => exact .inr (.inr rfl)
    case h_1 chave hfind =>
      refine .inr (.inl ⟨chave, ?_, rfl⟩)
      have htaken : chave ∈ (banco outras).taken (S ++ o.log) := by
        simpa using List.find?_some hfind
      have hmem := List.mem_of_find?_eq_some hfind
      simp only [List.mem_cons, List.not_mem_nil, or_false] at hmem
      obtain rfl | rfl := hmem
      · obtain ⟨l, hl, hkey⟩ := exists_of_taken outras htaken
        have hid : (perfilManual n p).id = l.id := by
          cases hendpoint : l.endpointRef with
          | none => simpa [ConnectionProfile.chaves, hendpoint] using hkey
          | some endpoint => simpa [ConnectionProfile.chaves, hendpoint] using hkey
        exact .inr (.inl ⟨n, l, hl, hid.symm⟩)
      · obtain ⟨l, hl, hkey⟩ := exists_of_taken outras htaken
        have hmanual : l.manualAtivo = true ∧ p = l.controlPrincipalRef := by
          cases hendpoint : l.endpointRef with
          | none => simpa [ConnectionProfile.chaves, hendpoint] using hkey
          | some endpoint => simpa [ConnectionProfile.chaves, hendpoint] using hkey
        exact .inr (.inr (List.ne_nil_of_mem
          (mem_manuais.mpr ⟨mem_perfis.mp hl, hmanual.2.symm, hmanual.1⟩)))

/-- After a refusal: the winner is returned, or there is none to return. -/
theorem ends_lerVencedor (h : Impedida (S ++ o.log) p) :
    (lerVencedor (τ := τ) (χ := χ) (ε := ε) p).Ends (banco outras) Permitida (Garante p o) S o := by
  refine ends_getManualProfile (fun S' hS' _ hempty => ?_) (fun S' n _ _ hl => ?_)
  · intro T hT
    obtain h | ⟨n, l, hl, hid⟩ | h := h.mono hS'.grows
    · exact .erro (.inr (.inr (.inl h)))
    · exact .erro (.inr (.inr (.inr ⟨rfl, n, l, perfis_mono hT.grows hl, hid⟩)))
    · exact absurd hempty h
  · exact fun T hT => .recuperado (manuais_mono hT.grows hl)

/-- The insertion under the savepoint: whatever stands in its way, the writes of the session
are there again. -/
theorem ends_criarPerfilManual (hfailed : o.failed = false) (hblank : blank p = false) :
    (criarPerfilManual (τ := τ) (χ := χ) (ε := ε) p).Ends (banco outras) Permitida (Garante p o)
      S o := by
  intro S' _
  simp only [hfailed, Bool.false_eq_true, if_false]
  intro T _ n
  refine ⟨fun _ => ⟨p, n, hblank, rfl⟩, fun U _ => ?_⟩
  have hpoint : o.nest.failed = false := hfailed
  obtain ⟨e, hrecusa, heq⟩ | ⟨chave, himpedida, heq⟩ | heq :=
    insert_perfilManual (p := p) outras U n hpoint
  · rw [heq]
    have hnot : (perfilManual 0 p).recusa ≠ none := by
      rw [hrecusa]
      exact Option.some_ne_none e
    cases e with
    | restricao nome =>
      intro V _
      rw [Own.rollback_fail_nest o hfailed]
      exact ends_lerVencedor (.inl hnot)
    | _ =>
      intro V _
      rw [Own.rollback_fail_nest o hfailed]
      exact fun W _ => .erro (.inr (.inr (.inl hnot)))
  · rw [heq]
    intro V hV
    rw [Own.rollback_fail_nest o hfailed]
    exact ends_lerVencedor (himpedida.mono hV.grows)
  · rw [heq]
    simp only [responder, projetar_perfilManual]
    intro V _
    rw [Own.release_add_nest]
    exact fun W _ => .criado n

/-- Every call does what it is for. -/
theorem ends_ensureManualProfile (p : String) (S : List (Escrita τ)) (o : Own (Escrita τ)) :
    (ensureManualProfile (τ := τ) (χ := χ) (ε := ε) p).Ends (banco outras) Permitida (Garante p o)
      S o := by
  unfold ensureManualProfile
  split
  case isTrue hblank => exact fun T _ => .erro (.inr (.inl hblank))
  case isFalse hblank =>
    refine ends_getManualProfile (fun S' _ hfailed _ => ?_) (fun S' n _ _ hl => ?_)
    · intro T _ _
      refine ends_getManualProfile (fun U _ _ _ => ?_) (fun U n _ _ hl => ?_)
      · exact ends_criarPerfilManual hfailed (by simpa using hblank)
      · exact fun V hV => .recuperado (manuais_mono hV.grows hl)
    · exact fun T hT => .recuperado (manuais_mono hT.grows hl)

/-! ## Every run -/

abbrev Chamada (τ : Type) : Type := Event (Escrita τ) String (Except Erro ManualProfileOutcome)

/-- The call has inserted the profile. -/
def criou : Except Erro ManualProfileOutcome → Bool
  | .ok v => v.created
  | .error _ => false

/-- The calls for a principal that have inserted its profile. -/
def criadas (chamadas : List (Chamada τ)) (p : String) : List (Chamada τ) :=
  chamadas.filter fun e => e.call = p && criou e.answer

/-- Some writes account for the profiles that were inserted, and hold what was written up to
each answer. -/
structure Contabiliza (log : List (Escrita τ)) (chamadas : List (Chamada τ)) : Prop where
  criadas : ∀ p, (criadas chamadas p).length ≤ (manuais log p).length
  writes : ∀ e ∈ chamadas, e.own'.log ⊆ log

omit [DecidableEq χ] in
theorem accounts : Accounts (fun p _ o S' o' resposta => Garante (τ := τ) p o S' o' resposta)
    Contabiliza where
  nil := ⟨fun _ => Nat.zero_le _, by simp⟩
  grow := by
    intro log ws chamadas h
    refine ⟨fun p => ?_, fun e he => List.Subset.trans (h.writes e he) (List.subset_append_left _ _)⟩
    have hp := h.criadas p
    rw [manuais_append, List.length_append]
    omega
  join := by
    intro log log' chamadas chamadas' h h'
    refine ⟨fun p => ?_, fun e he => ?_⟩
    · have hp := h.criadas p
      have hp' := h'.criadas p
      unfold PiaOs.Connections.Kernel.criadas at hp hp' ⊢
      rw [manuais_append, List.length_append, List.filter_append, List.length_append]
      omega
    · obtain he | he := List.mem_append.mp he
      · exact List.Subset.trans (h'.writes e he) (List.subset_append_right _ _)
      · exact List.Subset.trans (h.writes e he) (List.subset_append_left _ _)
  answered := by
    intro e chamadas hspec h
    obtain ⟨hown, hanswer⟩ | ⟨n, hown, hanswer⟩ := hspec.kept
    · rw [hown]
      have hnot : criou e.answer = false := by
        cases hresult : e.answer with
        | error _ => rfl
        | ok v => exact hanswer v hresult
      refine ⟨fun p => ?_, fun other hother => ?_⟩
      · have hp := h.criadas p
        unfold PiaOs.Connections.Kernel.criadas at hp ⊢
        rwa [List.filter_cons_of_neg (by simp [hnot])]
      · obtain rfl | hother := List.mem_cons.mp hother
        · rw [hown]
          exact List.Subset.refl _
        · exact h.writes other hother
    · have hlog : e.own'.log = e.own.log ++ [.perfil (perfilManual n e.call)] := by
        rw [hown]
        rfl
      refine ⟨fun p => ?_, fun other hother => ?_⟩
      · have hp := h.criadas p
        rw [hlog, manuais_append, List.length_append]
        unfold PiaOs.Connections.Kernel.criadas at hp ⊢
        by_cases hcall : e.call = p
        · have hrow : manuais [.perfil (perfilManual n e.call) (τ := τ)] p =
              [perfilManual n e.call] := by
            simp [manuais, perfis, Escrita.perfil?, perfilManual, createProfile, hcall,
              ConnectionProfile.manualAtivo, manualMethod, manualState, baselineMethodState,
              ConnectionState.terminal]
          have hkeep : (decide (e.call = p) && criou e.answer) = true := by
            simp [hcall, hanswer, criou]
          rw [hrow, List.filter_cons, if_pos hkeep]
          simpa using hp
        · rw [List.filter_cons_of_neg (by simp [hcall])]
          omega
      · obtain rfl | hother := List.mem_cons.mp hother
        · exact List.Subset.refl _
        · rw [hlog]
          exact List.Subset.trans (h.writes other hother) (List.subset_append_left _ _)
  points := by
    intro e hspec
    obtain ⟨hown, -⟩ | ⟨n, hown, -⟩ := hspec.kept
    · rw [hown]
    · rw [hown]
      rfl

/-- What holds in every history: a principal has one manual profile, a committed call was
given it, one of them at most has inserted it, and every call has done what it is for. -/
structure Assegurado (h : History (Escrita τ) (Chave ⊕ χ) (ErroDoBanco ⊕ ε) String
    (Except Erro ManualProfileOutcome)) : Prop where
  unique : ∀ p, (manuais h.sys.store p).length ≤ 1
  given : ∀ e ∈ h.committed, ∀ v, e.answer = .ok v →
    ∃ l ∈ manuais h.sys.store e.call, v.profile.connectionId = l.id
  created : ∀ p, (criadas h.committed p).length ≤ 1
  calls : ∀ e ∈ h.sys.events, Garante e.call e.own e.store' e.own' e.answer

variable (outras) in
/-- Whatever the interleaving of sessions that write, call, go back and commit. -/
theorem manual_profile_ensured {h : History (Escrita τ) (Chave ⊕ χ) (ErroDoBanco ⊕ ε) String
      (Except Erro ManualProfileOutcome)}
    (hh : History.Recorded (banco outras) ensureManualProfile h) : Assegurado h := by
  have hmeets : Meets (banco outras) Permitida ensureManualProfile
      fun p _ o S' o' resposta => Garante (τ := τ) p o S' o' resposta := by
    refine ⟨fun w hw => ?_, fun p S o _ => ends_ensureManualProfile p S o⟩
    cases w with
    | perfil l =>
      intro hmanual
      simp [banco, hmanual] at hw
    | outra w => trivial
  have hsound := sound_of_reachable hmeets hh.reachable
  have hstore := (hh.accounted hmeets accounts).store
  refine ⟨length_manuais_le_one hsound.store, fun e he v hv => ?_, fun p => ?_, hsound.events⟩
  · have hevent := hh.noted.committed he
    obtain ⟨l, hl, hprofile⟩ := (hsound.events e hevent).given v hv
    have hgrows : e.store' <+: h.sys.store := Sys.Steps.event_store hh.reachable e hevent
    obtain ⟨hmem, hrest⟩ := mem_manuais.mp hl
    have hin : .perfil l ∈ h.sys.store :=
      (List.append_subset.mpr ⟨hgrows.subset, hstore.writes e he⟩) hmem
    exact ⟨l, mem_manuais.mpr ⟨hin, hrest⟩, by rw [hprofile, vistaManual]⟩
  · exact (hstore.criadas p).trans (length_manuais_le_one hsound.store p)

end Laws

/-! ## A race -/

/-- Another table, of numbers that are their own keys. -/
def recibos : Engine ℕ ℕ Unit where
  keys n := [n]
  keys_nodup _ := List.nodup_singleton _
  refuses _ := none
  direct _ := true

/-- Two sessions find no profile, with no lock between them. The second waits for the first at
the index, and had written a row before. -/
def corrida : List (Label (Escrita ℕ) String) :=
  [.begin, .begin, .write 1 (.outra 20), .call 0 "7d0e", .call 1 "7d0e", .step 0 0, .step 1 0,
    .step 0 0, .step 1 0, .step 0 0, .step 1 0, .step 0 0, .step 1 0, .step 0 5, .step 1 6,
    .step 0 0, .step 0 0, .step 0 0, .commit 0, .step 1 0, .step 1 0, .step 1 0, .step 1 0,
    .commit 1]

theorem manual_profile_ensured_race : ∃ h,
    History.Recorded (banco recibos) ensureManualProfile h ∧
      h.committed.map (fun e => e.answer) =
        [.ok ⟨vistaManual (perfilManual 5 "7d0e"), false⟩,
          .ok ⟨vistaManual (perfilManual 5 "7d0e"), true⟩] ∧
      .outra 20 ∈ h.sys.store ∧ Assegurado h := by
  obtain ⟨h, hrecorded, htest⟩ := History.Recorded.exists_of_trace (banco recibos)
    ensureManualProfile corrida (fun h => decide (h.committed.map (fun e => e.answer) =
        [.ok ⟨vistaManual (perfilManual 5 "7d0e"), false⟩,
          .ok ⟨vistaManual (perfilManual 5 "7d0e"), true⟩] ∧
      .outra 20 ∈ h.sys.store)) (by decide +kernel)
  obtain ⟨hanswers, hwrite⟩ := of_decide_eq_true htest
  exact ⟨h, hrecorded, hanswers, hwrite, manual_profile_ensured recibos hrecorded⟩

end PiaOs.Connections.Kernel
