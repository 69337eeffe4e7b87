import PiaOs.Piap.Canonical
import PiaOs.Predictive.LogReplay

/-!
# The identity of a claim

The key of a claim is the hash of its target, its signal, its horizon and its reference time.
The horizon is counted in microseconds through a double, in the key and in the public view,
so that it is exact when the count has at most 53 significant bits.
-/

namespace PiaOs.Predictive

open Support Memory Piap

/-! ## The public view -/

structure PublicClaimView where
  target : Texto
  signal : Texto
  horizonMicroseconds : ℤ
  referenceTime : Instante
  subjectKey : String

/-- `_claim_view`. -/
def claimView (claim : PredictiveClaim) : PublicClaimView where
  target := claim.target
  signal := claim.signal
  horizonMicroseconds := claim.microssegundos
  referenceTime := claim.referenceTime
  subjectKey := claim.subjectKey

/-! ## Counting microseconds -/

theorem total_lt (t : Timedelta) : t.total < 2 ^ 67 := by
  obtain ⟨days, seconds, microseconds, hdays, hseconds, hmicroseconds⟩ := t
  unfold Timedelta.total
  simp only
  omega

/-- The horizon of a claim is positive. -/
theorem total_pos (e : PiapEnvelope) : 0 < e.subject.horizon.delta.total := by
  simpa using recusar_eq_none.mp e.subject.horizon.valido

/-- The microseconds of the horizon have at most 53 significant bits. -/
def HorizonteExato (e : PiapEnvelope) : Prop :=
  Double.Exact e.subject.horizon.delta.total.natAbs

/-- The quotient is the count, rounded to the format. -/
theorem microssegundos_eq (e : PiapEnvelope) :
    (predictiveClaimFromEnvelope e).microssegundos =
      Double.rounded e.subject.horizon.delta.total.natAbs := by
  have hpositive := total_pos e
  have hbound := total_lt e.subject.horizon.delta
  have hsmall : e.subject.horizon.delta.total.natAbs < 2 ^ 128 := by omega
  have hdouble : Double.ofInt e.subject.horizon.delta.total =
      some (Double.rounded e.subject.horizon.delta.total.natAbs : ℚ) := by
    unfold Double.ofInt
    rw [Double.ofNat_eq_some hsmall, Option.map_some, if_neg (by omega)]
  have hquotient : (predictiveClaimFromEnvelope e).microssegundos =
      ((Double.ofInt e.subject.horizon.delta.total).getD e.subject.horizon.delta.total).floor := rfl
  rw [hquotient, hdouble, Option.getD_some]
  exact_mod_cast Rat.floor_intCast (Double.rounded e.subject.horizon.delta.total.natAbs : ℤ)

theorem microssegundos_eq_total (e : PiapEnvelope) :
    (predictiveClaimFromEnvelope e).microssegundos = e.subject.horizon.delta.total ↔
      HorizonteExato e := by
  have hpositive := total_pos e
  unfold HorizonteExato
  rw [microssegundos_eq, ← Double.rounded_eq_self_iff]
  omega

/-! ## The text of the key -/

/-- The list that the key is the hash of. -/
def documentoDaChave (claim : PredictiveClaim) : Documento :=
  .lista [.texto claim.target, .texto claim.signal, .inteiro claim.microssegundos,
    .ofString (instanteParaJson claim.referenceTime)]

/-- A target and a signal are tokens: they have no surrogates. -/
theorem token_string {nome : String} {t : Texto} (h : validarToken nome t = none) :
    ∃ s, t = Texto.of s := by
  simp only [validarToken, primeira_eq_none, List.forall_mem_cons] at h
  obtain ⟨s, hs, -⟩ := of_string?_all (recusar_eq_none.mp h.2.2.1)
  exact ⟨s, hs⟩

theorem texto_of_quote (s : String) : Texto.of (Json.quote s) = aspas (Texto.of s) := by
  unfold Json.quote aspas Texto.of
  simp only [String.toList_append, String.toList_ofList, List.map_append, List.flatMap_map,
    List.map_flatMap]
  rfl

theorem texto_of_dumps (target signal : String) (n : ℤ) (instante : String) :
    Texto.of (Json.dumps (.arr [.str target, .str signal, .int n, .str instante])) =
      (Documento.lista [.texto (Texto.of target), .texto (Texto.of signal), .inteiro n,
        .ofString instante]).dumps := by
  have htext : Json.dumps (.arr [.str target, .str signal, .int n, .str instante]) =
      "[" ++ (Json.quote target ++ "," ++ Json.quote signal ++ "," ++ toString n ++ "," ++
        Json.quote instante) ++ "]" := by
    simp only [Json.dumps, Json.dumpsItems]
    rfl
  rw [htext]
  simp only [texto_of_append, texto_of_quote, Documento.dumps, Documento.dumpsItens,
    Documento.ofString]
  simp [Texto.of]

theorem instanteParaJson_injective {i j : Instante} (h : instanteParaJson i = instanteParaJson j) :
    i = j := by
  have hread := instanteDeJson_instanteParaJson interpreteUtc "reference_time" i
  rw [h, instanteDeJson_instanteParaJson] at hread
  exact (Except.ok.inj hread).symm

theorem total_injective {t u : Timedelta} (h : t.total = u.total) : t = u := by
  have hread := Timedelta.deMicrossegundos_total t
  rw [h, Timedelta.deMicrossegundos_total] at hread
  exact (Option.some.inj hread).symm

section Chave

variable (e e' : PiapEnvelope)

theorem natAbs_microssegundos_lt :
    (predictiveClaimFromEnvelope e).microssegundos.natAbs < 10 ^ intMaxStrDigits := by
  have hbound := total_lt e.subject.horizon.delta
  have hpositive := total_pos e
  have hrounded := Double.rounded_le e.subject.horizon.delta.total.natAbs
  have hdigits : 10 ^ 30 ≤ 10 ^ intMaxStrDigits := Nat.pow_le_pow_right (by decide) (by decide)
  rw [microssegundos_eq]
  omega

theorem legivel_documentoDaChave :
    (documentoDaChave (predictiveClaimFromEnvelope e)).Legivel 1 := by
  have hnumber : (Documento.inteiro (predictiveClaimFromEnvelope e).microssegundos).Legivel 0 :=
    natAbs_microssegundos_lt e
  refine legivel_lista ?_
  simp only [List.forall_mem_cons, List.not_mem_nil, false_imp_iff, implies_true, and_true]
  exact ⟨legivel_texto 0 _, legivel_texto 0 _, hnumber, legivel_ofString 0 _⟩

/-- The key is the hash of the canonical text. -/
theorem sha256_documentoDaChave :
    (documentoDaChave (predictiveClaimFromEnvelope e)).sha256 =
      some (predictiveClaimFromEnvelope e).subjectKey := by
  have htokens := e.subject.valido
  simp only [primeira_eq_none, List.forall_mem_cons] at htokens
  obtain ⟨target, htarget⟩ := token_string htokens.1
  obtain ⟨signal, hsignal⟩ := token_string htokens.2.1
  have hcabe : (documentoDaChave (predictiveClaimFromEnvelope e)).cabe = true := by
    have hnumber := cabe_inteiro.mpr (natAbs_microssegundos_lt e)
    unfold documentoDaChave
    rw [cabe_lista]
    simp only [List.forall_mem_cons, List.not_mem_nil, false_imp_iff, implies_true, and_true]
    exact ⟨rfl, rfl, hnumber, rfl⟩
  have htext := texto_of_dumps target signal (predictiveClaimFromEnvelope e).microssegundos
    (instanteParaJson e.subject.horizon.referenceTime)
  have hkey : (predictiveClaimFromEnvelope e).subjectKey = Sha256.hexdigest (Json.dumps (.arr
      [.str target, .str signal, .int (predictiveClaimFromEnvelope e).microssegundos,
        .str (instanteParaJson e.subject.horizon.referenceTime)])) := by
    unfold PredictiveClaim.subjectKey
    simp only [predictiveClaimFromEnvelope, htarget, hsignal, string?_eq_some.mpr rfl,
      Option.getD_some]
  rw [Documento.sha256, Documento.canonico, if_pos hcabe, hkey]
  simp only [documentoDaChave, predictiveClaimFromEnvelope, htarget, hsignal] at htext ⊢
  rw [← htext, string?_eq_some.mpr rfl, Option.map_some]

end Chave

/-! ## Identity -/

/-- Two texts of keys with one hash. -/
def ChavesColidem (c c' : PredictiveClaim) : Prop :=
  (documentoDaChave c).Colide (documentoDaChave c')

/-- What the contract of the claim promises of two envelopes. -/
structure IdentidadeExata (e e' : PiapEnvelope) : Prop where
  identifica : ¬ChavesColidem (predictiveClaimFromEnvelope e) (predictiveClaimFromEnvelope e') →
    ((predictiveClaimFromEnvelope e).subjectKey = (predictiveClaimFromEnvelope e').subjectKey ↔
      e.subject.target = e'.subject.target ∧ e.subject.signal = e'.subject.signal ∧
        e.subject.horizon.delta = e'.subject.horizon.delta ∧
          e.subject.horizon.referenceTime = e'.subject.horizon.referenceTime)
  mostrado : ∀ f ∈ [e, e'], (claimView (predictiveClaimFromEnvelope f)).horizonMicroseconds =
    f.subject.horizon.delta.total
  usado : ∀ f ∈ [e, e'], (documentoDaChave (predictiveClaimFromEnvelope f)).sha256 =
      some (predictiveClaimFromEnvelope f).subjectKey ∧
    documentoDaChave (predictiveClaimFromEnvelope f) = .lista [.texto f.subject.target,
      .texto f.subject.signal, .inteiro f.subject.horizon.delta.total,
      .ofString (instanteParaJson f.subject.horizon.referenceTime)]

/-- Equal keys are those of one target, one signal, one instant and one rounded horizon, or a
collision. -/
theorem subjectKey_eq_iff {e e' : PiapEnvelope}
    (hfree : ¬ChavesColidem (predictiveClaimFromEnvelope e) (predictiveClaimFromEnvelope e')) :
    (predictiveClaimFromEnvelope e).subjectKey = (predictiveClaimFromEnvelope e').subjectKey ↔
      e.subject.target = e'.subject.target ∧ e.subject.signal = e'.subject.signal ∧
        (predictiveClaimFromEnvelope e).microssegundos =
          (predictiveClaimFromEnvelope e').microssegundos ∧
        e.subject.horizon.referenceTime = e'.subject.horizon.referenceTime := by
  constructor
  · intro hkeys
    have hhash := sha256_documentoDaChave e
    rw [hkeys] at hhash
    have hsame := (Documento.sha256_eq (legivel_documentoDaChave e) (legivel_documentoDaChave e')
      hhash (sha256_documentoDaChave e')).resolve_right hfree
    simp only [documentoDaChave, predictiveClaimFromEnvelope, Documento.ofString,
      Documento.lista.injEq, List.cons.injEq, Documento.texto.injEq, Documento.inteiro.injEq,
      and_true] at hsame
    obtain ⟨htarget, hsignal, hmicros, hinstant⟩ := hsame
    exact ⟨htarget, hsignal, hmicros, instanteParaJson_injective (texto_of_injective hinstant)⟩
  · rintro ⟨htarget, hsignal, hmicros, hinstant⟩
    have hsame : documentoDaChave (predictiveClaimFromEnvelope e) =
        documentoDaChave (predictiveClaimFromEnvelope e') := by
      unfold documentoDaChave
      rw [hmicros]
      simp only [predictiveClaimFromEnvelope, htarget, hsignal, hinstant]
    have hhash := sha256_documentoDaChave e
    rw [hsame, sha256_documentoDaChave e'] at hhash
    exact (Option.some.inj hhash).symm

/-- The identity of two claims is exact when the count of neither horizon is rounded. -/
theorem claim_identity (e e' : PiapEnvelope) :
    IdentidadeExata e e' ↔ HorizonteExato e ∧ HorizonteExato e' := by
  constructor
  · intro h
    have hexact : ∀ f ∈ [e, e'], HorizonteExato f :=
      fun f hf => (microssegundos_eq_total f).mp (h.mostrado f hf)
    exact ⟨hexact e (by simp), hexact e' (by simp)⟩
  · rintro ⟨hexact, hexact'⟩
    have hmicros := (microssegundos_eq_total e).mpr hexact
    have hmicros' := (microssegundos_eq_total e').mpr hexact'
    have hcounts : ∀ f ∈ [e, e'], (predictiveClaimFromEnvelope f).microssegundos =
        f.subject.horizon.delta.total := by
      simp [hmicros, hmicros']
    refine ⟨fun hfree => ?_, hcounts, fun f hf => ⟨sha256_documentoDaChave f, ?_⟩⟩
    · rw [subjectKey_eq_iff hfree, hmicros, hmicros']
      constructor
      · rintro ⟨htarget, hsignal, htotal, hinstant⟩
        exact ⟨htarget, hsignal, total_injective htotal, hinstant⟩
      · rintro ⟨htarget, hsignal, hdelta, hinstant⟩
        exact ⟨htarget, hsignal, congrArg Timedelta.total hdelta, hinstant⟩
    · unfold documentoDaChave
      rw [hcounts f hf]
      rfl

/-! ### One microsecond above the 53 bits -/

theorem duracao_normal : (-999999999 ≤ (104249 : ℤ) ∧ (104249 : ℤ) ≤ 999999999) ∧
    (0 ≤ (85654 : ℤ) ∧ (85654 : ℤ) < 86400) ∧ 0 ≤ (740992 : ℤ) ∧ (740992 : ℤ) < 1000000 := by
  decide

theorem duracaoSeguinte_normal : (-999999999 ≤ (104249 : ℤ) ∧ (104249 : ℤ) ≤ 999999999) ∧
    (0 ≤ (85654 : ℤ) ∧ (85654 : ℤ) < 86400) ∧ 0 ≤ (740993 : ℤ) ∧ (740993 : ℤ) < 1000000 := by
  decide

/-- `2 ^ 53` microseconds. -/
def duracaoDe53Bits : Timedelta := ⟨104249, 85654, 740992, duracao_normal⟩

/-- One microsecond more. -/
def duracaoSeguinte : Timedelta := ⟨104249, 85654, 740993, duracaoSeguinte_normal⟩

def envelopeCom (delta : Timedelta)
    (h : recusar (delta.total ≤ 0) .horizonteNaoPositivo = none) : PiapEnvelope :=
  { envelopeExemplo with
    subject := { envelopeExemplo.subject with
      horizon := { envelopeExemplo.subject.horizon with
        delta
        valido := h } } }

theorem duracaoDe53Bits_positiva :
    recusar (duracaoDe53Bits.total ≤ 0) .horizonteNaoPositivo = none := by decide +kernel

theorem duracaoSeguinte_positiva :
    recusar (duracaoSeguinte.total ≤ 0) .horizonteNaoPositivo = none := by decide +kernel

/-- Two horizons that differ by one microsecond have one key. -/
theorem claims_share_key :
    ¬IdentidadeExata (envelopeCom duracaoDe53Bits duracaoDe53Bits_positiva)
      (envelopeCom duracaoSeguinte duracaoSeguinte_positiva) := by
  intro h
  have hmicros : (predictiveClaimFromEnvelope
      (envelopeCom duracaoDe53Bits duracaoDe53Bits_positiva)).microssegundos =
        (predictiveClaimFromEnvelope
          (envelopeCom duracaoSeguinte duracaoSeguinte_positiva)).microssegundos := by
    rw [microssegundos_eq, microssegundos_eq]
    decide +kernel
  have hfree : ¬ChavesColidem
      (predictiveClaimFromEnvelope (envelopeCom duracaoDe53Bits duracaoDe53Bits_positiva))
      (predictiveClaimFromEnvelope (envelopeCom duracaoSeguinte duracaoSeguinte_positiva)) := by
    have hsame : documentoDaChave
        (predictiveClaimFromEnvelope (envelopeCom duracaoDe53Bits duracaoDe53Bits_positiva)) =
          documentoDaChave
            (predictiveClaimFromEnvelope (envelopeCom duracaoSeguinte duracaoSeguinte_positiva)) := by
      unfold documentoDaChave
      rw [hmicros]
      rfl
    rintro ⟨s, s', hs, hs', hne, -⟩
    rw [hsame, hs'] at hs
    exact hne (Option.some.inj hs).symm
  have hkeys := (subjectKey_eq_iff hfree).mpr ⟨rfl, rfl, hmicros, rfl⟩
  have hdelta := ((h.identifica hfree).mp hkeys).2.2.1
  have hcount := congrArg Timedelta.microseconds hdelta
  exact absurd hcount (by decide)

end PiaOs.Predictive
