import PiaOs.Piap.Authority
import PiaOs.Support.Doubles
import PiaOs.Support.Sha256

/-!
# The envelope

References to context, claim, evidence and authority, each checked when it is built, and
the checks across them. The key of the claim that an envelope carries.
-/

namespace PiaOs.Piap

open Support Memory

inductive TemporalAvailability
  | availableAtReferenceTime
  | unavailableAtReferenceTime
  | unknown
  deriving DecidableEq

inductive PiapContractVersion
  | v1_0
  deriving DecidableEq

/-- `str(ref)`. -/
def Referencia.str (ref : Referencia) : String := (Uuid.mk ref.val).str

/-- A source, without the object itself. -/
structure SourceReference where
  kind : Texto
  ref : Referencia
  sourceVersion : ℤ
  contentSha256 : Option Texto
  valido : primeira
    [validarToken "ProvenanceKind.value" kind,
      validarInteiroPositivo "source_version" sourceVersion,
      contentSha256.bind (validarSha256Hex "content_sha256")] = none

/-- `sort_key`. -/
def SourceReference.sortKey (r : SourceReference) : Texto × Texto × ℤ × Texto :=
  (r.kind, Texto.of r.ref.str, r.sourceVersion, r.contentSha256.getD [])

/-- `a < b` on the keys of references. -/
def chaveAntes (a b : Texto × Texto × ℤ × Texto) : Bool :=
  a.1.antes b.1 || (a.1 == b.1 && (a.2.1.antes b.2.1 || (a.2.1 == b.2.1 &&
    (a.2.2.1 < b.2.2.1 || (a.2.2.1 == b.2.2.1 && a.2.2.2.antes b.2.2.2)))))

/-- A `timedelta`, in its normal form. -/
structure Timedelta where
  days : ℤ
  seconds : ℤ
  microseconds : ℤ
  normal : (-999999999 ≤ days ∧ days ≤ 999999999) ∧ (0 ≤ seconds ∧ seconds < 86400) ∧
    0 ≤ microseconds ∧ microseconds < 1000000

/-- `_total_microssegundos`. -/
def Timedelta.total (t : Timedelta) : ℤ :=
  (t.days * 86400 + t.seconds) * 1000000 + t.microseconds

/-- `timedelta(microseconds=n)`. What it cannot hold is an `OverflowError`. -/
def Timedelta.deMicrossegundos (n : ℤ) : Option Timedelta :=
  if h : -999999999 ≤ n / 86400000000 ∧ n / 86400000000 ≤ 999999999 then
    some ⟨n / 86400000000, n / 1000000 % 86400, n % 1000000, h, by omega, by omega⟩
  else none

/-- A duration is rebuilt from its microseconds. -/
theorem Timedelta.deMicrossegundos_total (t : Timedelta) :
    Timedelta.deMicrossegundos t.total = some t := by
  obtain ⟨days, seconds, microseconds, hdays, hseconds, hmicroseconds⟩ := t
  have htotal : total ⟨days, seconds, microseconds, hdays, hseconds, hmicroseconds⟩ =
      (days * 86400 + seconds) * 1000000 + microseconds := rfl
  have hday : ((days * 86400 + seconds) * 1000000 + microseconds) / 86400000000 = days := by omega
  have hsecond :
      ((days * 86400 + seconds) * 1000000 + microseconds) / 1000000 % 86400 = seconds := by omega
  have hmicro : ((days * 86400 + seconds) * 1000000 + microseconds) % 1000000 = microseconds := by
    omega
  unfold deMicrossegundos
  rw [htotal]
  simp only [hday, hsecond, hmicro, hdays, and_self, dif_pos]

theorem Timedelta.total_of_deMicrossegundos {n : ℤ} {t : Timedelta}
    (h : Timedelta.deMicrossegundos n = some t) : t.total = n := by
  unfold deMicrossegundos at h
  split at h
  · have heq := Option.some.inj h
    rw [← heq]
    unfold total
    simp only
    omega
  · cases h

/-- A horizon and the instant that it counts from. -/
structure Horizon where
  delta : Timedelta
  referenceTime : Instante
  availability : TemporalAvailability
  valido : recusar (delta.total ≤ 0) .horizonteNaoPositivo = none

structure ClaimSubject where
  target : Texto
  signal : Texto
  horizon : Horizon
  valido : primeira [validarToken "target" target, validarToken "signal" signal] = none

structure ProvenanceRecord where
  origin : SourceReference
  recordedAt : Instante
  jurisdiction : Option Texto
  policyRef : Option Texto
  valido : primeira
    [jurisdiction.bind (validarReferenciaOpaca "jurisdiction"),
      policyRef.bind (validarReferenciaOpaca "policy_ref")] = none

/-- The checks of `PiapEnvelope.__post_init__` across the parts. -/
def envelopeIncoerente (payloadRefs : List SourceReference) (referenceTime recordedAt
    sealedAt : Instante) : Option Violacao :=
  let chaves := payloadRefs.map (·.sortKey)
  primeira
    [recusar (maxPayloadReferences < payloadRefs.length)
        (.itensExcedem "payload_refs" payloadRefs.length),
      recusar (chaves.dedup.length ≠ chaves.length) (.duplicado "payload_refs"),
      recusar (¬chaves.Pairwise fun a b => chaveAntes b a = false) (.foraDeOrdem "payload_refs"),
      recusar (sealedAt.val < referenceTime.val) .referenciaPosterior,
      recusar (sealedAt.val < recordedAt.val) .registroPosterior]

structure PiapEnvelope where
  contractVersion : PiapContractVersion
  subject : ClaimSubject
  provenance : ProvenanceRecord
  authority : AuthorityContext
  payloadRefs : List SourceReference
  sealedAt : Instante
  valido : envelopeIncoerente payloadRefs subject.horizon.referenceTime provenance.recordedAt
    sealedAt = none

/-- `_instante_para_json`. -/
def instanteParaJson (i : Instante) : String :=
  let (year, month, day) := Datetime.civil (i.val / microsecondsPerDay)
  let micros := (i.val % microsecondsPerDay).toNat
  padded 4 year ++ "-" ++ padded 2 month ++ "-" ++ padded 2 day ++ "T" ++
    padded 2 (micros / 3600000000) ++ ":" ++ padded 2 (micros / 60000000 % 60) ++ ":" ++
    padded 2 (micros / 1000000 % 60) ++
    (if micros % 1000000 = 0 then "" else "." ++ padded 6 (micros % 1000000)) ++ "Z"

example : instanteParaJson ⟨1772377500000000, by decide⟩ = "2026-03-01T15:05:00Z" := by
  decide +kernel

end PiaOs.Piap
