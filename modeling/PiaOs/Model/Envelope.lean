import PiaOs.Model.Values
import PiaOs.Model.Vocabulary

/-!
# Drafts, envelopes and the sealed gate

The value objects of `schemas/envelope.py`. A draft carries the proof that its
constructor accepted it, so a malformed step cannot be stored.
-/

namespace PiaOs

open Support

def envelopeVersion : String := "1"

def maxRefLength : Nat := 255
def maxRoleLength : Nat := 64
def maxTitleLength : Nat := 200
def maxUriLength : Nat := 1024
def maxConstraintKeyLength : Nat := 64
def maxConstraintValueLength : Nat := 255
def maxEnvelopeVersionLength : Nat := 16

/-- `_texto_obrigatorio`: returns the text or names the field it refuses. -/
def textoObrigatorio (valor campo : String) (limite : Nat) : Except String String :=
  if blank valor then .error (campo ++ " não pode ser vazio ou apenas espaços")
  else if limite < valor.length then .error s!"{campo} excede {limite} caracteres"
  else .ok valor

/-- `ARTIFACT_REF`: an artifact by its address, hash and size. -/
structure ContextRef where
  uri : String
  sha256 : String
  bytes : Nat
  uri_ok : textoObrigatorio uri "uri" maxUriLength = .ok uri
  sha256_ok : isSha256 sha256 = true
  deriving DecidableEq

def ContextRef.asContent (r : ContextRef) : Json :=
  .obj [("uri", .str r.uri), ("sha256", .str r.sha256), ("bytes", .int r.bytes)]

abbrev ConstraintPairs := List (String × String)

/-! ## The gate inside the constraints -/

def gateReservedPrefix : String := "pia.gate."
def gateKeyRequired : String := "pia.gate.required"
def gateKeyScope : String := "pia.gate.scope"
def gateReservedKeys : List String := [gateKeyRequired, gateKeyScope]

def gateRequiredServiceDelegation : String := "service_delegation"
def gateRequiredServiceDelegationAndHuman : String := "service_delegation_and_human"
def gateRequiredValues : List String :=
  [gateRequiredServiceDelegation, gateRequiredServiceDelegationAndHuman]

def gateScopeDispatch : String := "dispatch"
def gateScopeValues : List String := [gateScopeDispatch]

/-- A gate as the composition declares it, already interpreted. -/
structure GateRequirement where
  required : String
  scope : String
  deriving DecidableEq, Repr

/-- The checks of the constructor. -/
def GateRequirement.make (required scope : String) : Except String GateRequirement :=
  if required ∉ gateRequiredValues then
    .error (gateKeyRequired ++ " inválido: " ++ pyRepr required)
  else if scope ∉ gateScopeValues then
    .error (gateKeyScope ++ " inválido: " ++ pyRepr scope)
  else .ok ⟨required, scope⟩

def GateRequirement.requiresHuman (g : GateRequirement) : Bool :=
  g.required == gateRequiredServiceDelegationAndHuman

/-- The key stands in the reserved space `pia.gate.*`. -/
def isGateKey (chave : String) : Bool := gateReservedPrefix.toList.isPrefixOf chave.toList

/-- Both reserved keys or none, and no other key of the reserved space. -/
def validateGateKeys (pares : ConstraintPairs) : Except String Unit :=
  let presentes := (pares.map Prod.fst).filter isGateKey
  let desconhecidas := presentes.filter fun k => !gateReservedKeys.contains k
  if !desconhecidas.isEmpty then
    .error ("chave reservada desconhecida no espaço " ++ pyRepr gateReservedPrefix ++ ": " ++
      pyList ((desconhecidas.insertionSort (· ≤ ·)).map pyRepr))
  else if presentes.isEmpty then .ok ()
  else
    match pares.lookup gateKeyRequired, pares.lookup gateKeyScope with
    | some required, some scope => (GateRequirement.make required scope).map fun _ => ()
    | _, _ =>
      .error ("declaração de gate incompleta; faltam: " ++
        pyList ((gateReservedKeys.filter fun k => !presentes.contains k).map pyRepr))

/-- The gate of a step, or nothing when it has no marker. -/
def gateRequirement (pares : ConstraintPairs) : Except Failure (Option GateRequirement) :=
  match pares.lookup gateKeyRequired with
  | none => .ok none
  | some required =>
    match pares.lookup gateKeyScope with
    | none => .error ⟨.keyError, pyRepr gateKeyScope, []⟩
    | some scope =>
      match GateRequirement.make required scope with
      | .error texto => .error ⟨.valueError, texto, []⟩
      | .ok gate => .ok (some gate)

/-! ## Canonical constraints -/

/-- The pairs in the order given, once every text is admitted and no key repeats. -/
def admittedPairs : List String → ConstraintPairs → Except String ConstraintPairs
  | _, [] => .ok []
  | vistas, (chave, conteudo) :: resto => do
    let textoChave ← textoObrigatorio chave "constraint key" maxConstraintKeyLength
    let textoValor ← textoObrigatorio conteudo "constraint value" maxConstraintValueLength
    if textoChave ∈ vistas then
      .error ("restrição duplicada: " ++ pyRepr textoChave)
    let pares ← admittedPairs (textoChave :: vistas) resto
    .ok ((textoChave, textoValor) :: pares)

/-- `canonical_constraints`: admitted, sorted by key, with a coherent gate. -/
def canonicalConstraints (valor : ConstraintPairs) : Except String ConstraintPairs := do
  let pares ← admittedPairs [] valor
  let canonicas := pares.insertionSort fun a b => a.1 ≤ b.1
  validateGateKeys canonicas
  .ok canonicas

/-- A declared step that its constructor accepted. -/
structure StepDraft where
  role : String
  instructionRef : String
  expectedOutputContract : String
  contextRefs : List ContextRef
  constraints : ConstraintPairs
  role_ok : textoObrigatorio role "role" maxRoleLength = .ok role
  instructionRef_ok :
    textoObrigatorio instructionRef "instruction_ref" maxRefLength = .ok instructionRef
  expectedOutputContract_ok :
    textoObrigatorio expectedOutputContract "expected_output_contract" maxRefLength =
      .ok expectedOutputContract
  constraints_ok : canonicalConstraints constraints = .ok constraints
  deriving DecidableEq

/-- A declared work: a title and its steps in order. -/
structure ScheduleDraft where
  title : String
  steps : List StepDraft
  title_ok : textoObrigatorio title "title" maxTitleLength = .ok title
  steps_ok : steps ≠ []

/-! ## Envelope content -/

/-- The eight frozen fields. -/
structure EnvelopeContent where
  envelopeVersion : String
  scheduleId : Uuid
  stepId : Uuid
  role : String
  instructionRef : String
  contextRefs : List ContextRef
  expectedOutputContract : String
  constraints : ConstraintPairs
  deriving DecidableEq

namespace EnvelopeContent

/-- The content of a stored step. -/
def ofDraft (scheduleId stepId : Uuid) (d : StepDraft) : EnvelopeContent where
  envelopeVersion := PiaOs.envelopeVersion
  scheduleId := scheduleId
  stepId := stepId
  role := d.role
  instructionRef := d.instructionRef
  contextRefs := d.contextRefs
  expectedOutputContract := d.expectedOutputContract
  constraints := d.constraints

def asCanonicalMapping (c : EnvelopeContent) : Json :=
  .obj [("envelope_version", .str c.envelopeVersion),
    ("schedule_id", .str c.scheduleId.str),
    ("step_id", .str c.stepId.str),
    ("role", .str c.role),
    ("instruction_ref", .str c.instructionRef),
    ("context_refs", .arr (c.contextRefs.map ContextRef.asContent)),
    ("expected_output_contract", .str c.expectedOutputContract),
    ("constraints", .obj (c.constraints.map fun p => (p.1, .str p.2)))]

def canonicalJson (c : EnvelopeContent) : String := c.asCanonicalMapping.dumps

def contentSha256 [Runtime] (c : EnvelopeContent) : String := Runtime.sha256 c.canonicalJson

end EnvelopeContent

end PiaOs
