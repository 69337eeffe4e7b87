import PiaOs.Piap.Isoformat
import PiaOs.Piap.JsonLaws

/-!
# Envelopes and bytes

The canonical bytes of an envelope, and the reading that takes nothing but them. Each level is
read against a literal set of names.
-/

namespace PiaOs.Piap

open Support Memory

/-- What the boundary asks of the interpreter that runs it. -/
structure Interprete where
  /-- The levels of containers that the JSON parser still opens. -/
  niveis : ℕ
  /-- The document of an envelope has four. -/
  cabe : 4 ≤ niveis
  /-- `datetime.fromisoformat`. `none` is a `ValueError`. -/
  fromisoformat : Texto → Option Momento
  fromisoformat_isoformat : ∀ i : Instante,
    fromisoformat (Texto.of i.utc.isoformat) = some (.ciente i.utc)
  /-- `astimezone(UTC)` of a reading without an offset, by the clock of the machine. `none` is a
  `ValueError` or an `OverflowError`. -/
  relogioLocal : ℤ → Option Instante

/-- `astimezone(UTC)`. -/
def Interprete.astimezone (m : Interprete) : Momento → Option Instante
  | .ingenuo wall => m.relogioLocal wall
  | .ciente t => if h : t.Representable then some ⟨t.instant, h⟩ else none

/-- A machine on UTC: the first day of the calendar has no day before it to look for a change of
the clock. -/
def interpreteUtc : Interprete where
  niveis := 1000
  cabe := by norm_num
  fromisoformat := fromisoformat
  fromisoformat_isoformat := fromisoformat_isoformat
  relogioLocal wall :=
    if h : datetimeMin + microsecondsPerDay ≤ wall ∧ wall ≤ datetimeMax then
      some ⟨wall, by unfold microsecondsPerDay at h; omega⟩
    else none

/-! ## Errors -/

/-- What a `PiapContractViolationError` says. -/
inductive Quebra
  | bytesExcedem (n : ℕ)
  | utf8
  | json
  | numero
  | chaveDuplicada (chave : Texto)
  | naoObjeto (nome : String)
  | chaves (nome : String) (faltando extras : List Texto)
  | naoTexto (nome : String)
  | naoInteiro (nome : String)
  | menorQueUm (nome : String) (n : ℤ)
  | versaoExcede (nome : String) (n : ℤ)
  | uuid (nome : String)
  | foraDoVocabulario (nome : String) (t : Texto)
  | naoInstante (nome : String)
  | iso8601 (nome : String)
  | foraDeTimedelta (nome : String) (n : ℤ)
  | naoLista (nome : String)
  | itensExcedem (nome : String) (n : ℕ)
  | reserializacao
  | naoCanonico

/-- What leaves `deserialize_piap_envelope`. -/
inductive ErroPiap
  /-- `PiapContractViolationError`. -/
  | contrato (q : Quebra)
  /-- `PiapUnsupportedVersionError`. -/
  | versao (t : Texto)
  /-- The `ValueError` of a value object. -/
  | valor (v : Violacao)
  /-- The clock of the machine does not convert an instant. -/
  | relogio (nome : String)
  /-- `RecursionError`. -/
  | recursao

abbrev Leitura (α : Type) : Type := Except ErroPiap α

def quebrar {α : Type} (q : Quebra) : Leitura α := .error (.contrato q)

/-- A value object, or the `ValueError` of its checks. -/
def montar {α : Type} (violacao : Option Violacao) (build : violacao = none → α) : Leitura α :=
  (construir violacao build).mapError .valor

/-! ## Writing -/

def PiapContractVersion.value : PiapContractVersion → String
  | .v1_0 => "1.0"

def TemporalAvailability.value : TemporalAvailability → String
  | .availableAtReferenceTime => "available_at_reference_time"
  | .unavailableAtReferenceTime => "unavailable_at_reference_time"
  | .unknown => "unknown"

def AuthorityStatus.value : AuthorityStatus → String
  | .assertedAuthorized => "asserted_authorized"
  | .assertedNotAuthorized => "asserted_not_authorized"
  | .unknown => "unknown"

def BoundObjectKind.value : BoundObjectKind → String
  | .proposedBound => "proposed_bound"
  | .promotionCandidate => "promotion_candidate"

namespace Documento

def ofString (s : String) : Documento := .texto (Texto.of s)

def ofOption (t : Option Texto) : Documento := t.elim .nulo .texto

/-- An object under names of ASCII. -/
def campos (fields : List (String × Documento)) : Documento :=
  .objeto (fields.map fun field => (Texto.of field.1, field.2))

end Documento

/-- `_source_reference_para_json`. -/
def sourceReferenceParaJson (r : SourceReference) : Documento :=
  .campos
    [("content_sha256", .ofOption r.contentSha256), ("kind", .texto r.kind),
      ("ref", .ofString r.ref.str), ("source_version", .inteiro r.sourceVersion)]

def approvalParaJson (a : ApprovalBinding) : Documento :=
  .campos
    [("approval_expiry", a.approvalExpiry.elim .nulo fun i => .ofString (instanteParaJson i)),
      ("approval_jurisdiction", .ofOption a.approvalJurisdiction),
      ("approval_reference", .texto a.approvalReference),
      ("approval_scope", .lista (a.approvalScope.map .texto)),
      ("approval_version", .inteiro a.approvalVersion),
      ("bound_to", .campos
        [("kind", .ofString a.boundTo.kind.value), ("ref", .ofString a.boundTo.ref.str)])]

def provenanceParaJson (p : ProvenanceRecord) : Documento :=
  .campos
    [("jurisdiction", .ofOption p.jurisdiction), ("origin", sourceReferenceParaJson p.origin),
      ("policy_ref", .ofOption p.policyRef),
      ("recorded_at", .ofString (instanteParaJson p.recordedAt))]

def subjectParaJson (s : ClaimSubject) : Documento :=
  .campos
    [("horizon", .campos
        [("availability", .ofString s.horizon.availability.value),
          ("delta_microseconds", .inteiro s.horizon.delta.total),
          ("reference_time", .ofString (instanteParaJson s.horizon.referenceTime))]),
      ("signal", .texto s.signal), ("target", .texto s.target)]

/-- The document of `serialize_piap_envelope`. -/
def documento (e : PiapEnvelope) : Documento :=
  .campos
    [("authority", .campos
        [("approval", e.authority.approval.elim .nulo approvalParaJson),
          ("status", .ofString e.authority.status.value)]),
      ("contract_version", .ofString e.contractVersion.value),
      ("payload_refs", .lista (e.payloadRefs.map sourceReferenceParaJson)),
      ("provenance", provenanceParaJson e.provenance),
      ("sealed_at", .ofString (instanteParaJson e.sealedAt)),
      ("subject", subjectParaJson e.subject)]

/-- `serialize_piap_envelope`. `none` is the `UnicodeEncodeError` of a surrogate. -/
def serializePiapEnvelope (e : PiapEnvelope) : Option ByteArray := (documento e).dumps.encode

/-! ## Reading one value -/

/-- `_chaves_exatas`. -/
def chavesExatas (nome : String) (esperadas : List String) :
    Valor → Leitura (List (Texto × Valor))
  | .objeto campos =>
    let presentes := campos.map (·.1)
    let esperadas := esperadas.map Texto.of
    let faltando := esperadas.filter (· ∉ presentes)
    let extras := presentes.filter (· ∉ esperadas)
    if faltando = [] ∧ extras = [] then .ok campos
    else quebrar (.chaves nome faltando (extras.insertionSort fun a b => b.antes a = false))
  | _ => quebrar (.naoObjeto nome)

/-- `dados[chave]`, of an object whose names were checked. -/
def campo (dados : List (Texto × Valor)) (chave : String) : Valor :=
  (dados.lookup (Texto.of chave)).getD .nulo

/-- `_texto`. -/
def texto (nome : String) : Valor → Leitura Texto
  | .texto t => .ok t
  | _ => quebrar (.naoTexto nome)

/-- `_inteiro`. -/
def inteiro (nome : String) : Valor → Leitura ℤ
  | .inteiro n => .ok n
  | _ => quebrar (.naoInteiro nome)

/-- `_versao_piap`. -/
def versaoPiap (nome : String) (valor : Valor) : Leitura ℤ := do
  let numero ← inteiro nome valor
  if numero < 1 then quebrar (.menorQueUm nome numero)
  else if maxPiapVersionNumber < numero then quebrar (.versaoExcede nome numero)
  else return numero

/-- The number that the digits of a UUID write. -/
def uuidInt? (t : Texto) : Option ℕ :=
  (t.filter (· ≠ .char '-')).foldlM (fun n c => c.hex?.map (16 * n + ·)) 0

/-- `uuid.UUID(texto)`, when `str` of it is the text. -/
def uuidCanonico? (t : Texto) : Option Referencia := do
  let n ← uuidInt? t
  let ref : Referencia ← if h : n < 2 ^ 128 then some ⟨n, h⟩ else none
  if Texto.of ref.str = t then some ref else none

/-- `_uuid`: a text that is no UUID or not the canonical one. -/
def uuid (nome : String) (valor : Valor) : Leitura Referencia := do
  let t ← texto nome valor
  match uuidCanonico? t with
  | some ref => return ref
  | none => quebrar (.uuid nome)

/-- `_membro`. -/
def membro {α : Type} (nome : String) (membros : List α) (value : α → String) (valor : Valor) :
    Leitura α := do
  let t ← texto nome valor
  match membros.find? fun m => Texto.of (value m) = t with
  | some m => return m
  | none => quebrar (.foraDoVocabulario nome t)

/-- A value, or nothing for `null`. -/
def opcional {α : Type} (ler : Valor → Leitura α) : Valor → Leitura (Option α)
  | .nulo => .ok none
  | valor => some <$> ler valor

/-- A list of at most so many items. -/
def listaAte (nome : String) (limite : ℕ) : Valor → Leitura (List Valor)
  | .lista itens =>
    if limite < itens.length then quebrar (.itensExcedem nome itens.length) else .ok itens
  | _ => quebrar (.naoLista nome)

/-- `_timedelta_de_microssegundos`. -/
def timedeltaDeMicrossegundos (nome : String) (n : ℤ) : Leitura Timedelta :=
  match Timedelta.deMicrossegundos n with
  | some t => .ok t
  | none => quebrar (.foraDeTimedelta nome n)

/-- The text that `fromisoformat` gets: the final `Z` as an offset. -/
def emDeslocamento (t : Texto) : Texto := t.dropLast ++ Texto.of "+00:00"

/-- `_instante_de_json`. -/
def instanteDeJson (m : Interprete) (nome : String) (valor : Valor) : Leitura Instante :=
  match valor with
  | .texto t =>
    if t.getLast? = some (.char 'Z') then
      match m.fromisoformat (emDeslocamento t) with
      | none => quebrar (.iso8601 nome)
      | some analisado =>
        match m.astimezone analisado with
        | some i => .ok i
        | none => .error (.relogio nome)
    else quebrar (.naoInstante nome)
  | _ => quebrar (.naoInstante nome)

/-! ## Reading an envelope -/

/-- A position of a list, in the name of its item. -/
def posicao (nome : String) (i : ℕ) : String := nome ++ "[" ++ toString i ++ "]"

/-- `_source_reference_de_json`. -/
def sourceReferenceDeJson (nome : String) (bruto : Valor) : Leitura SourceReference := do
  let dados ← chavesExatas nome ["content_sha256", "kind", "ref", "source_version"] bruto
  let kind ← texto (nome ++ ".kind") (campo dados "kind")
  montar (validarToken "ProvenanceKind.value" kind) fun _ => ()
  let ref ← uuid (nome ++ ".ref") (campo dados "ref")
  let sourceVersion ← versaoPiap (nome ++ ".source_version") (campo dados "source_version")
  let contentSha256 ← opcional (texto (nome ++ ".content_sha256")) (campo dados "content_sha256")
  montar _ (SourceReference.mk kind ref sourceVersion contentSha256)

/-- The fields of an approval, as they were read. -/
structure CamposDaAprovacao where
  approvalReference : Texto
  approvalVersion : ℤ
  approvalScope : List Texto
  approvalExpiry : Option Instante
  approvalJurisdiction : Option Texto
  boundTo : BoundObjectRef

/-- The fields of `authority.approval`. -/
def camposDaAprovacao (m : Interprete) (bruto : Valor) : Leitura CamposDaAprovacao := do
  let campos ← chavesExatas "authority.approval"
    ["approval_expiry", "approval_jurisdiction", "approval_reference", "approval_scope",
      "approval_version", "bound_to"] bruto
  let vinculo ← chavesExatas "authority.approval.bound_to" ["kind", "ref"] (campo campos "bound_to")
  let escopo ← listaAte "authority.approval.approval_scope" maxApprovalScopeItems
    (campo campos "approval_scope")
  let approvalReference ← texto "authority.approval.approval_reference"
    (campo campos "approval_reference")
  let approvalVersion ← versaoPiap "authority.approval.approval_version"
    (campo campos "approval_version")
  let approvalScope ← escopo.zipIdx.mapM fun item =>
    texto (posicao "authority.approval.approval_scope" item.2) item.1
  let approvalExpiry ← opcional (instanteDeJson m "authority.approval.approval_expiry")
    (campo campos "approval_expiry")
  let approvalJurisdiction ← opcional (texto "authority.approval.approval_jurisdiction")
    (campo campos "approval_jurisdiction")
  let kind ← membro "authority.approval.bound_to.kind" [.proposedBound, .promotionCandidate]
    BoundObjectKind.value (campo vinculo "kind")
  let ref ← uuid "authority.approval.bound_to.ref" (campo vinculo "ref")
  return { approvalReference, approvalVersion, approvalScope, approvalExpiry,
           approvalJurisdiction, boundTo := ⟨kind, ref⟩ }

/-- What `ApprovalBinding` finds wrong. -/
def CamposDaAprovacao.violacao (c : CamposDaAprovacao) : Option Violacao :=
  primeira
    [validarReferenciaOpaca "approval_reference" c.approvalReference,
      validarInteiroPositivo "approval_version" c.approvalVersion,
      validarEscopo "approval_scope" c.approvalScope,
      c.approvalJurisdiction.bind (validarReferenciaOpaca "approval_jurisdiction")]

def CamposDaAprovacao.montar (c : CamposDaAprovacao) : Leitura ApprovalBinding :=
  Piap.montar c.violacao fun h =>
    { approvalReference := c.approvalReference
      approvalVersion := c.approvalVersion
      approvalScope := c.approvalScope
      approvalExpiry := c.approvalExpiry
      approvalJurisdiction := c.approvalJurisdiction
      boundTo := c.boundTo
      valido := h }

/-- The section `authority`. -/
def authorityDeJson (m : Interprete) (bruto : Valor) : Leitura AuthorityContext := do
  let autoridade ← chavesExatas "authority" ["approval", "status"] bruto
  let aprovacao ← opcional (fun valor => do
    let campos ← camposDaAprovacao m valor
    campos.montar) (campo autoridade "approval")
  let status ← membro "authority.status"
    [.assertedAuthorized, .assertedNotAuthorized, .unknown] AuthorityStatus.value
    (campo autoridade "status")
  montar _ (AuthorityContext.mk status aprovacao)

/-- The section `provenance`. -/
def provenanceDeJson (m : Interprete) (bruto : Valor) : Leitura ProvenanceRecord := do
  let dados ← chavesExatas "provenance" ["jurisdiction", "origin", "policy_ref", "recorded_at"]
    bruto
  let origin ← sourceReferenceDeJson "provenance.origin" (campo dados "origin")
  let recordedAt ← instanteDeJson m "provenance.recorded_at" (campo dados "recorded_at")
  let jurisdiction ← opcional (texto "provenance.jurisdiction") (campo dados "jurisdiction")
  let policyRef ← opcional (texto "provenance.policy_ref") (campo dados "policy_ref")
  montar _ (ProvenanceRecord.mk origin recordedAt jurisdiction policyRef)

/-- The object `subject.horizon`. -/
def horizonDeJson (m : Interprete) (bruto : Valor) : Leitura Horizon := do
  let dados ← chavesExatas "subject.horizon" ["availability", "delta_microseconds", "reference_time"]
    bruto
  let micros ← inteiro "subject.horizon.delta_microseconds" (campo dados "delta_microseconds")
  let delta ← timedeltaDeMicrossegundos "subject.horizon.delta_microseconds" micros
  let referenceTime ← instanteDeJson m "subject.horizon.reference_time"
    (campo dados "reference_time")
  let availability ← membro "subject.horizon.availability"
    [.availableAtReferenceTime, .unavailableAtReferenceTime, .unknown] TemporalAvailability.value
    (campo dados "availability")
  montar _ (Horizon.mk delta referenceTime availability)

/-- The section `subject`. -/
def subjectDeJson (m : Interprete) (bruto : Valor) : Leitura ClaimSubject := do
  let assunto ← chavesExatas "subject" ["horizon", "signal", "target"] bruto
  let horizon ← horizonDeJson m (campo assunto "horizon")
  let target ← texto "subject.target" (campo assunto "target")
  let signal ← texto "subject.signal" (campo assunto "signal")
  montar _ (ClaimSubject.mk target signal horizon)

/-- `PiapContractVersion(texto)` and `require_supported_version`. -/
def versaoDoContrato (valor : Valor) : Leitura PiapContractVersion := do
  let t ← texto "contract_version" valor
  if t = Texto.of PiapContractVersion.v1_0.value then return .v1_0 else .error (.versao t)

/-- The section `payload_refs`. -/
def payloadRefsDeJson (bruto : Valor) : Leitura (List SourceReference) := do
  let referencias ← listaAte "payload_refs" maxPayloadReferences bruto
  referencias.zipIdx.mapM fun item => sourceReferenceDeJson (posicao "payload_refs" item.2) item.1

/-- The envelope that a value describes. -/
def envelopeDeJson (m : Interprete) (bruto : Valor) : Leitura PiapEnvelope := do
  let dados ← chavesExatas "envelope"
    ["authority", "contract_version", "payload_refs", "provenance", "sealed_at", "subject"] bruto
  let versao ← versaoDoContrato (campo dados "contract_version")
  let contexto ← authorityDeJson m (campo dados "authority")
  let proveniencia ← provenanceDeJson m (campo dados "provenance")
  let subject ← subjectDeJson m (campo dados "subject")
  let payloadRefs ← payloadRefsDeJson (campo dados "payload_refs")
  let sealedAt ← instanteDeJson m "sealed_at" (campo dados "sealed_at")
  montar _ (PiapEnvelope.mk versao subject proveniencia contexto payloadRefs sealedAt)

/-- `_exigir_bytes_canonicos`. -/
def exigirBytesCanonicos (payload : ByteArray) (e : PiapEnvelope) : Leitura Unit :=
  match serializePiapEnvelope e with
  | none => quebrar .reserializacao
  | some canonico => if canonico.data = payload.data then .ok () else quebrar .naoCanonico

def maxPiapInputBytes : ℕ := 262144

/-- The value that the bytes write. -/
def lerBytes (m : Interprete) (payload : ByteArray) : Leitura Valor :=
  if maxPiapInputBytes < payload.size then quebrar (.bytesExcedem payload.size)
  else
    match decode payload with
    | none => quebrar .utf8
    | some t =>
      match loads m.niveis t with
      | .ok bruto => .ok bruto
      | .error .json => quebrar .json
      | .error .numero => quebrar .numero
      | .error (.duplicada chave) => quebrar (.chaveDuplicada chave)
      | .error .recursao => .error .recursao

/-- `deserialize_piap_envelope`. -/
def deserializePiapEnvelope (m : Interprete) (payload : ByteArray) : Leitura PiapEnvelope := do
  let bruto ← lerBytes m payload
  let envelope ← envelopeDeJson m bruto
  exigirBytesCanonicos payload envelope
  return envelope

end PiaOs.Piap
