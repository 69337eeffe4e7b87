import PiaOs.Memory.Datetime
import PiaOs.Piap.Text

/-!
# Authority

The status of authority that an envelope transports and the approval bound to it. The
validation reads them, in a fixed order of precedence, and grants nothing.
-/

namespace PiaOs.Piap

open Support Memory

/-- A `uuid.UUID`. -/
abbrev Referencia : Type := Fin (2 ^ 128)

instance Referencia.neZero : @NeZero Nat Zero.ofOfNat0 (2 ^ 128) := ⟨by decide⟩

instance Referencia.lawfulBEq : LawfulBEq Referencia := inferInstance

/-- An instant that the clock of UTC can show. -/
abbrev Instante : Type := { n : ℤ // datetimeMin ≤ n ∧ n ≤ datetimeMax }

/-- A `datetime`, with or without the offset of its clock. -/
inductive Momento
  | ingenuo (wall : ℤ)
  | ciente (t : Datetime)

def Momento.instant : Momento → ℤ
  | .ingenuo wall => wall
  | .ciente t => t.instant

/-- `a < b`. A reading without an offset is comparable only with another one. -/
def Momento.antes : Momento → Momento → Option Bool
  | .ingenuo a, .ingenuo b => some (a < b)
  | .ciente a, .ciente b => some (a.instant < b.instant)
  | _, _ => none

/-- An instant on the clock of UTC. -/
def Instante.utc (i : Instante) : Datetime where
  wall := i.val
  offset := 0
  wall_inRange := i.property
  offset_bound := Datetime.epoch.offset_bound

inductive AuthorityStatus
  | assertedAuthorized
  | assertedNotAuthorized
  | unknown
  deriving DecidableEq

inductive ApprovalValidationOutcome
  | valid
  | missing
  | notAuthorized
  | expired
  | versionMismatch
  | outOfScope
  | jurisdictionMismatch
  | bindingMismatch
  deriving DecidableEq

inductive BoundObjectKind
  | proposedBound
  | promotionCandidate
  deriving DecidableEq

structure BoundObjectRef where
  kind : BoundObjectKind
  ref : Referencia
  deriving DecidableEq

/-- `canonizar_instante`. -/
def canonizarInstante (nome : String) : Momento → Except Violacao Instante
  | .ingenuo _ => .error (.ingenuo nome)
  | .ciente t =>
    if h : t.Representable then .ok ⟨t.instant, h⟩ else .error (.foraDoCalendario nome)

/-- A reference to an approval given elsewhere, and what it is bound to. -/
structure ApprovalBinding where
  approvalReference : Texto
  approvalVersion : ℤ
  approvalScope : List Texto
  approvalExpiry : Option Instante
  approvalJurisdiction : Option Texto
  boundTo : BoundObjectRef
  valido : primeira
    [validarReferenciaOpaca "approval_reference" approvalReference,
      validarInteiroPositivo "approval_version" approvalVersion,
      validarEscopo "approval_scope" approvalScope,
      approvalJurisdiction.bind (validarReferenciaOpaca "approval_jurisdiction")] = none

/-- `AuthorityContext.__post_init__`. -/
def autoridadeIncoerente (status : AuthorityStatus) (aprovada : Bool) : Option Violacao :=
  primeira
    [recusar (status = .assertedAuthorized && !aprovada) .autorizadoSemAprovacao,
      recusar (status = .unknown && aprovada) .desconhecidoComAprovacao]

structure AuthorityContext where
  status : AuthorityStatus
  approval : Option ApprovalBinding
  valido : autoridadeIncoerente status approval.isSome = none

/-- The precedence of `validate_approval`, on arguments that it accepts. -/
def desfechoDaAprovacao (context : AuthorityContext) (instante : Instante) (expectedVersion : ℤ)
    (requiredScope : List Texto) (expectedJurisdiction : Option Texto)
    (expectedBinding : BoundObjectRef) : ApprovalValidationOutcome :=
  match context.approval with
  | none => .missing
  | some approval =>
    if context.status ≠ .assertedAuthorized then .notAuthorized
    else if approval.boundTo ≠ expectedBinding then .bindingMismatch
    else if approval.approvalVersion ≠ expectedVersion then .versionMismatch
    else if expectedJurisdiction ≠ none ∧ approval.approvalJurisdiction ≠ expectedJurisdiction then
      .jurisdictionMismatch
    else if ¬requiredScope ⊆ approval.approvalScope then .outOfScope
    else if approval.approvalExpiry.any fun expiry => expiry.val ≤ instante.val then .expired
    else .valid

/-- `validate_approval`. -/
def validateApproval (context : AuthorityContext) (at_ : Momento) (expectedVersion : ℤ)
    (requiredScope : List Texto) (expectedJurisdiction : Option Texto)
    (expectedBinding : BoundObjectRef) : Except Violacao ApprovalValidationOutcome := do
  let instante ← canonizarInstante "at" at_
  match primeira
      [validarInteiroPositivo "expected_version" expectedVersion,
        validarEscopo "required_scope" requiredScope,
        expectedJurisdiction.bind (validarReferenciaOpaca "expected_jurisdiction")] with
  | some violacao => .error violacao
  | none =>
    return desfechoDaAprovacao context instante expectedVersion requiredScope expectedJurisdiction
      expectedBinding

/-- What a valid approval is. -/
structure Aprovada (context : AuthorityContext) (approval : ApprovalBinding) (instante : ℤ)
    (version : ℤ) (scope : List Texto) (jurisdiction : Option Texto) (binding : BoundObjectRef) :
    Prop where
  vinculo : context.approval = some approval
  status : context.status = .assertedAuthorized
  objeto : approval.boundTo = binding
  versao : approval.approvalVersion = version
  jurisdicao : jurisdiction = none ∨ approval.approvalJurisdiction = jurisdiction
  escopo : scope ⊆ approval.approvalScope
  vigente : ∀ expiry, approval.approvalExpiry = some expiry → instante < expiry.val

theorem aprovada_of_valid {context : AuthorityContext} {instante : Instante} {version : ℤ}
    {scope : List Texto} {jurisdiction : Option Texto} {binding : BoundObjectRef}
    (h : desfechoDaAprovacao context instante version scope jurisdiction binding = .valid) :
    ∃ approval, Aprovada context approval instante.val version scope jurisdiction binding := by
  unfold desfechoDaAprovacao at h
  cases happroval : context.approval with
  | none =>
    rw [happroval] at h
    cases h
  | some approval =>
    simp only [happroval] at h
    by_cases hstatus : context.status = .assertedAuthorized
    case neg => simp [hstatus] at h
    by_cases hbound : approval.boundTo = binding
    case neg => simp [hstatus, hbound] at h
    by_cases hversion : approval.approvalVersion = version
    case neg => simp [hstatus, hbound, hversion] at h
    by_cases hjurisdiction : jurisdiction = none ∨ approval.approvalJurisdiction = jurisdiction
    case neg =>
      obtain ⟨hsome, hdiffer⟩ := not_or.mp hjurisdiction
      simp [hstatus, hbound, hversion, hsome, hdiffer] at h
    have hsame : ¬(jurisdiction ≠ none ∧ approval.approvalJurisdiction ≠ jurisdiction) := by tauto
    by_cases hscope : scope ⊆ approval.approvalScope
    case neg => simp [hstatus, hbound, hversion, hsame, hscope] at h
    refine ⟨approval, happroval, hstatus, hbound, hversion, hjurisdiction, hscope, ?_⟩
    intro expiry hexpiry
    by_contra hlate
    simp [hstatus, hbound, hversion, hsame, hscope, hexpiry] at h
    exact hlate h

theorem aprovada_of_validateApproval {context : AuthorityContext} {at_ : Momento} {version : ℤ}
    {scope : List Texto} {jurisdiction : Option Texto} {binding : BoundObjectRef}
    (h : validateApproval context at_ version scope jurisdiction binding = .ok .valid) :
    ∃ approval, Aprovada context approval at_.instant version scope jurisdiction binding := by
  unfold validateApproval at h
  obtain ⟨instante, hinstante, h⟩ := bind_eq_ok.mp h
  have hat : instante.val = at_.instant := by
    unfold canonizarInstante at hinstante
    cases at_ with
    | ingenuo wall => cases hinstante
    | ciente t =>
      by_cases hrep : t.Representable
      · simp only [dif_pos hrep] at hinstante
        rw [← Except.ok.inj hinstante]
        rfl
      · simp only [dif_neg hrep] at hinstante
        cases hinstante
  rw [← hat]
  split at h
  · cases h
  · exact aprovada_of_valid (Except.ok.inj h)

end PiaOs.Piap
