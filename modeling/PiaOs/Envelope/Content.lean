import PiaOs.Model.Envelope
import PiaOs.Piap.Canonical
import PiaOs.Support.Regex

/-!
# Sealed content

The value objects of `schemas/envelope.py` on texts of code points: the content whose eight
fields are hashed, and the two columns of a step that keep a part of it as JSON.
-/

namespace PiaOs.Envelope

open Support Piap

/-- What a value object refuses. -/
inductive Recusa
  | naoTexto (campo : String)
  | vazio (campo : String)
  | excede (campo : String) (limite : ℕ)
  | sha256 (valor : Texto)
  | naoInteiro (campo : String)
  | bytesNegativo
  | naoSequencia
  | naoObjeto
  | camposDoContexto (recebidos : List Texto)
  | naoPares
  | restricaoDuplicada (chave : Texto)
  | chaveReservada (desconhecidas : List Texto)
  | gateIncompleto (faltando : List String)
  | gateInvalido (chave : String) (valor : Texto)

/-- The first check that refuses. -/
def primeiraRecusa (checks : List (Option Recusa)) : Option Recusa := checks.findSome? id

@[simp] theorem primeiraRecusa_eq_none {checks : List (Option Recusa)} :
    primeiraRecusa checks = none ↔ ∀ check ∈ checks, check = none := by
  simp [primeiraRecusa, List.findSome?_eq_none_iff]

def quando (c : Bool) (r : Recusa) : Option Recusa := if c then some r else none

@[simp] theorem quando_eq_none {c : Bool} {r : Recusa} : quando c r = none ↔ c = false := by
  cases c <;> simp [quando]

/-- Goes on when nothing is refused. -/
def exigir : Option Recusa → Except Recusa Unit
  | none => .ok ()
  | some r => .error r

@[simp] theorem exigir_eq_ok {r : Option Recusa} {u : Unit} : exigir r = .ok u ↔ r = none := by
  cases r <;> simp [exigir]

/-! ## Texts and hashes -/

/-- `_texto_obrigatorio`, of a text. -/
def textoObrigatorio (valor : Texto) (campo : String) (limite : ℕ) : Option Recusa :=
  primeiraRecusa
    [quando (valor.all CodePoint.isSpace) (.vazio campo),
      quando (limite < valor.length) (.excede campo limite)]

/-- `[0-9a-f]`. -/
def hexMinusculo : CodePoint → Bool
  | .char c => isHexDigit c
  | .surrogate _ => false

def avancoDeLinha : CodePoint := .char '\n'

/-- `padrao.match(t)`. -/
def casa (padrao : Regex CodePoint) (t : Texto) : Bool := padrao.matchesStart avancoDeLinha t

/-- `SHA256_PATTERN`. -/
def sha256Pattern : Regex CodePoint :=
  .seq .start (.seq (.times 64 (.char hexMinusculo)) .lineEnd)

/-- Exactly 64 lowercase hexadecimal digits. -/
def Digest (t : Texto) : Prop := t.length = 64 ∧ ∀ c ∈ t, hexMinusculo c = true

instance (t : Texto) : Decidable (Digest t) := by
  unfold Digest
  infer_instance

/-- What the pattern lets through: a digest, or a digest and a line feed. -/
theorem casa_sha256 {t : Texto} :
    casa sha256Pattern t = true ↔ Digest t ∨ ∃ d, Digest d ∧ t = d ++ [avancoDeLinha] := by
  have hpattern : sha256Pattern = Regex.line hexMinusculo 64 := rfl
  unfold casa
  rw [hpattern, Regex.matchesStart_line]
  constructor
  · rintro ⟨d, hlength, hd, rfl | rfl⟩
    · exact .inl ⟨hlength, hd⟩
    · exact .inr ⟨d, ⟨hlength, hd⟩, rfl⟩
  · rintro (⟨hlength, hd⟩ | ⟨d, ⟨hlength, hd⟩, rfl⟩)
    · exact ⟨t, hlength, hd, .inl rfl⟩
    · exact ⟨d, hlength, hd, .inr rfl⟩

/-- A digest holds no line feed. -/
theorem not_digest_feed (d : Texto) : ¬Digest (d ++ [avancoDeLinha]) := by
  rintro ⟨-, hall⟩
  have hfeed : hexMinusculo avancoDeLinha = true := hall _ (by simp)
  revert hfeed
  decide

theorem inteiro_of_casa {t : Texto} (h : casa sha256Pattern t = true) : t.Inteiro := by
  have hdigest : ∀ {d : Texto}, Digest d → d.Inteiro := by
    intro d hd c hc
    have hhex := hd.2 c hc
    cases c with
    | char c => rfl
    | surrogate n => cases hhex
  rcases casa_sha256.mp h with hd | ⟨d, hd, rfl⟩
  · exact hdigest hd
  · rw [inteiro_append]
    exact ⟨hdigest hd, inteiro_map ['\n']⟩

/-! ## References to context -/

structure ContextRefFields where
  uri : Texto
  sha256 : Texto
  bytes : ℤ

/-- `ContextRef.__post_init__`. -/
def ContextRefFields.violation (f : ContextRefFields) : Option Recusa :=
  primeiraRecusa
    [textoObrigatorio f.uri "uri" maxUriLength,
      quando (!casa sha256Pattern f.sha256) (.sha256 f.sha256),
      quando (f.bytes < 0) .bytesNegativo]

/-- `ARTIFACT_REF`: an artifact by its address, hash and size. -/
structure ContextRef extends ContextRefFields where
  valida : toContextRefFields.violation = none

def ContextRef.make (f : ContextRefFields) : Except Recusa ContextRef :=
  match h : f.violation with
  | none => .ok ⟨f, h⟩
  | some r => .error r

/-- `as_content`. -/
def ContextRef.asContent (r : ContextRef) : Documento :=
  .campos [("bytes", .inteiro r.bytes), ("sha256", .texto r.sha256), ("uri", .texto r.uri)]

def textoDe (campo : String) : Valor → Except Recusa Texto
  | .texto t => .ok t
  | _ => .error (.naoTexto campo)

def inteiroDe (campo : String) : Valor → Except Recusa ℤ
  | .inteiro n => .ok n
  | _ => .error (.naoInteiro campo)

/-- `CONTEXT_REF_FIELDS`. -/
def contextRefFields : List Texto := ["uri", "sha256", "bytes"].map Texto.of

/-- An item of `parse_context_refs` in the form that is stored. -/
def parseContextRef : Valor → Except Recusa ContextRef
  | .objeto dados => do
    let presentes := dados.map (·.1)
    exigir (quando (!(contextRefFields ⊆ presentes && presentes ⊆ contextRefFields))
      (.camposDoContexto (presentes.insertionSort fun a b => b.antes a = false)))
    let uri ← textoDe "uri" (campo dados "uri")
    exigir (textoObrigatorio uri "uri" maxUriLength)
    let sha256 ← textoDe "sha256" (campo dados "sha256")
    exigir (quando (!casa sha256Pattern sha256) (.sha256 sha256))
    let bytes ← inteiroDe "bytes" (campo dados "bytes")
    ContextRef.make ⟨uri, sha256, bytes⟩
  | _ => .error .naoObjeto

/-- `parse_context_refs`. -/
def parseContextRefs : Valor → Except Recusa (List ContextRef)
  | .lista itens => itens.mapM parseContextRef
  | _ => .error .naoSequencia

/-! ## Constraints -/

abbrev Pares : Type := List (Texto × Texto)

def reservada (chave : Texto) : Bool := Texto.of gateReservedPrefix <+: chave

/-- `validate_gate_keys`. -/
def validateGateKeys (pares : Pares) : Option Recusa :=
  let presentes := (pares.map (·.1)).filter reservada
  let desconhecidas := presentes.filter (· ∉ gateReservedKeys.map Texto.of)
  let faltando := gateReservedKeys.filter fun chave => Texto.of chave ∉ presentes
  let valor (chave : String) : Texto := (pares.lookup (Texto.of chave)).getD []
  if desconhecidas ≠ [] then
    some (.chaveReservada (desconhecidas.insertionSort fun a b => b.antes a = false))
  else if presentes = [] then none
  else if faltando ≠ [] then some (.gateIncompleto faltando)
  else
    primeiraRecusa
      [quando (valor gateKeyRequired ∉ gateRequiredValues.map Texto.of)
          (.gateInvalido gateKeyRequired (valor gateKeyRequired)),
        quando (valor gateKeyScope ∉ gateScopeValues.map Texto.of)
          (.gateInvalido gateKeyScope (valor gateKeyScope))]

/-- The loop over the items, with the keys that were seen. -/
def paresAdmitidos : List Texto → List (Valor × Valor) → Except Recusa Pares
  | _, [] => .ok []
  | vistas, (chave, conteudo) :: resto => do
    let textoChave ← textoDe "constraint key" chave
    exigir (textoObrigatorio textoChave "constraint key" maxConstraintKeyLength)
    let textoValor ← textoDe "constraint value" conteudo
    exigir (textoObrigatorio textoValor "constraint value" maxConstraintValueLength)
    exigir (quando (textoChave ∈ vistas) (.restricaoDuplicada textoChave))
    let pares ← paresAdmitidos (textoChave :: vistas) resto
    return (textoChave, textoValor) :: pares

/-- `sorted(pares)`, of pairs with distinct keys. -/
def ordenados (pares : Pares) : Pares := porChave pares

/-- The items of a map, or of a list of pairs. -/
def itensDe : Valor → Except Recusa (List (Valor × Valor))
  | .nulo => .ok []
  | .objeto dados => .ok (dados.map fun par => (.texto par.1, par.2))
  | .lista itens => itens.mapM fun
    | .lista [a, b] => .ok (a, b)
    | _ => .error .naoPares
  | _ => .error .naoPares

/-- `canonical_constraints`. -/
def canonicalConstraints (valor : Valor) : Except Recusa Pares := do
  let itens ← itensDe valor
  let pares ← paresAdmitidos [] itens
  exigir (validateGateKeys (ordenados pares))
  return ordenados pares

/-- Pairs of texts, as the constructors get them. -/
def deTextos (pares : Pares) : Valor :=
  .lista (pares.map fun par => .lista [.texto par.1, .texto par.2])

/-- `constraints_as_mapping`, with the keys in order. -/
def constraintsAsMapping (pares : Pares) : Documento :=
  .objeto (pares.map fun par => (par.1, .texto par.2))

/-! ## The content -/

structure ContentFields where
  envelopeVersion : Texto
  scheduleId : Referencia
  stepId : Referencia
  role : Texto
  instructionRef : Texto
  contextRefs : List ContextRef
  expectedOutputContract : Texto
  constraints : Pares

/-- The checks of `EnvelopeContent.__post_init__` on the texts. -/
def ContentFields.violation (f : ContentFields) : Option Recusa :=
  primeiraRecusa
    [textoObrigatorio f.envelopeVersion "envelope_version" maxEnvelopeVersionLength,
      textoObrigatorio f.role "role" maxRoleLength,
      textoObrigatorio f.instructionRef "instruction_ref" PiaOs.maxRefLength,
      textoObrigatorio f.expectedOutputContract "expected_output_contract" PiaOs.maxRefLength]

/-- A content, with its constraints as the constructor leaves them. -/
structure EnvelopeContent extends ContentFields where
  valido : toContentFields.violation = none
  canonicas : ∃ declaradas, canonicalConstraints (deTextos declaradas) = .ok constraints

/-- `EnvelopeContent(...)`. -/
def EnvelopeContent.make (f : ContentFields) : Except Recusa EnvelopeContent :=
  match h : f.violation, hc : canonicalConstraints (deTextos f.constraints) with
  | some r, _ => .error r
  | none, .error r => .error r
  | none, .ok pares => .ok ⟨{ f with constraints := pares }, h, f.constraints, hc⟩

namespace EnvelopeContent

/-- `as_canonical_mapping`, with the keys in order. -/
def asCanonicalMapping (c : EnvelopeContent) : Documento :=
  .campos
    [("constraints", constraintsAsMapping c.constraints),
      ("context_refs", .lista (c.contextRefs.map ContextRef.asContent)),
      ("envelope_version", .texto c.envelopeVersion),
      ("expected_output_contract", .texto c.expectedOutputContract),
      ("instruction_ref", .texto c.instructionRef), ("role", .texto c.role),
      ("schedule_id", .ofString c.scheduleId.str), ("step_id", .ofString c.stepId.str)]

/-- `canonical_json`. -/
def canonicalJson (c : EnvelopeContent) : Option String := c.asCanonicalMapping.canonico

/-- `content_sha256`. -/
def contentSha256 (c : EnvelopeContent) : Option String := c.asCanonicalMapping.sha256

end EnvelopeContent

end PiaOs.Envelope
