import PiaOs.Model.ManualExport
import PiaOs.Transactions.Interleaved

/-!
# The authorizations of an instance

One instance of `ManualHandoffExportService`, with its registry of the authorizations that it
has issued and that were not used. An authorization counts by its identity: an object with the
same fields is another one.
-/

namespace PiaOs

open Support Transactions

def maxAutorizacoesPendentes : Nat := 8

/-- A `DispatchAuthorized`: its fields and its identifier. -/
structure Autorizacao where
  campos : DispatchAuthorized
  authorizationId : Uuid
  deriving DecidableEq, Repr

/-- A reference to an authorization: which object it is and what stands in it. -/
structure Objeto where
  identidade : Nat
  autorizacao : Autorizacao
  deriving DecidableEq, Repr

/-- What an instance did with an object, for a Schedule and a step. -/
inductive Evento
  | emitiu (identidade : Nat) (scheduleId stepId : Uuid)
  | consumiu (identidade : Nat) (scheduleId stepId : Uuid)
  deriving DecidableEq, Repr

/-- An instance among the authorization objects of its process, the oldest first. Nothing reads
the journal, which has the newest event first. -/
structure Servico where
  objetos : List Autorizacao
  autorizacoesEmitidas : Table Uuid Nat
  diario : List Evento

inductive ResultadoPreflight
  | authorized (objeto : Objeto)
  | blocked (b : DispatchBlocked)

namespace Servico

/-- The object exists with these fields. They are frozen. -/
def Existe (self : Servico) (objeto : Objeto) : Prop :=
  self.objetos[objeto.identidade]? = some objeto.autorizacao

/-- Building an authorization makes a new object, whoever builds it. -/
def construir (self : Servico) (autorizacao : Autorizacao) : Objeto × Servico :=
  (⟨self.objetos.length, autorizacao⟩, { self with objetos := self.objetos ++ [autorizacao] })

def anotar (self : Servico) (evento : Evento) : Servico :=
  { self with diario := evento :: self.diario }

/-- `_registrar_autorizacao`. -/
def registrarAutorizacao (self : Servico) (objeto : Objeto) : Except Failure Servico :=
  if maxAutorizacoesPendentes ≤ self.autorizacoesEmitidas.keys.length then
    .error ⟨.dispatchBlocked, "autorizações pendentes em excesso nesta composição",
      [("reason_code", .str "too_many_pending_authorizations")]⟩
  else
    .ok { self with
      autorizacoesEmitidas :=
        self.autorizacoesEmitidas.insert objeto.autorizacao.authorizationId objeto.identidade }

def naoEmitida : Failure :=
  ⟨.dispatchBlocked, "autorização de despacho não foi emitida por este serviço, ou já foi usada",
    [("reason_code", .str "authorization_not_issued")]⟩

/-- `_consumir_autorizacao`: what was taken out is put back when it is another object. -/
def consumirAutorizacao (self : Servico) (objeto : Objeto) : Except Failure Unit × Servico :=
  let id := objeto.autorizacao.authorizationId
  let retirada : Servico :=
    { self with autorizacoesEmitidas := self.autorizacoesEmitidas.erase id }
  match self.autorizacoesEmitidas.lookup id with
  | none => (.error naoEmitida, retirada)
  | some emitida =>
    if emitida = objeto.identidade then (.ok (), retirada)
    else (.error naoEmitida,
      { retirada with autorizacoesEmitidas := retirada.autorizacoesEmitidas.insert id emitida })

/-- A copy of a registered object is another object, and is refused. -/
example : let a : Autorizacao := ⟨⟨"", none, true⟩, ⟨7⟩⟩
    ((⟨[a, a], AList.singleton ⟨7⟩ 0, []⟩ : Servico).consumirAutorizacao ⟨0, a⟩).1.isOk = true ∧
      ((⟨[a, a], AList.singleton ⟨7⟩ 0, []⟩ : Servico).consumirAutorizacao ⟨1, a⟩).1.isOk =
        false := by decide

variable [Runtime]

/-- `preflight`: what passes is built and registered. -/
def preflight (self : Servico) (humanGate : GateDecision) (controlPrincipalRef : String)
    (scheduleId stepId : Uuid) : Action (Except Failure ResultadoPreflight × Servico) := do
  match ← (ManualHandoffExportService.preflight humanGate controlPrincipalRef scheduleId
      stepId).attempt with
  | .error e => pure (.error e, self)
  | .ok (.blocked b) => pure (.ok (.blocked b), self)
  | .ok (.authorized campos) => do
    let authorizationId ← Prog.read fun env _ => (⟨env.fresh⟩ : Uuid)
    let construida := self.construir ⟨campos, authorizationId⟩
    match construida.2.registrarAutorizacao construida.1 with
    | .error e => pure (.error e, construida.2)
    | .ok registrado =>
      pure (.ok (.authorized construida.1),
        registrado.anotar (.emitiu construida.1.identidade scheduleId stepId))

/-- `export_step`, once it has an authorization: it is taken out before any lock. -/
def despachar (self : Servico) (attemptId : Uuid) (controlPrincipalRef : String)
    (scheduleId stepId : Uuid) (sealerRef : String) (autorizacao : Objeto) :
    Action (Except Failure ExportOutcome × Servico) := do
  match self.consumirAutorizacao autorizacao with
  | (.error e, depois) => pure (.error e, depois)
  | (.ok (), depois) => do
    let resultado ← (ManualHandoffExportService.dispatch attemptId controlPrincipalRef scheduleId
      stepId sealerRef autorizacao.autorizacao.campos).attempt
    pure (resultado, depois.anotar (.consumiu autorizacao.identidade scheduleId stepId))

/-- `export_step`: an authorization that the caller does not give is obtained here. -/
def exportStep (self : Servico) (humanGate : GateDecision) (attemptId : Uuid)
    (controlPrincipalRef : String) (scheduleId stepId : Uuid) (sealerRef : String)
    (authorization : Option Objeto) : Action (Except Failure ExportOutcome × Servico) := do
  match authorization with
  | some autorizacao =>
    self.despachar attemptId controlPrincipalRef scheduleId stepId sealerRef autorizacao
  | none => do
    let resultado ← self.preflight humanGate controlPrincipalRef scheduleId stepId
    match resultado.1 with
    | .error e => pure (.error e, resultado.2)
    | .ok (.blocked bloqueio) => do
      match ← (ManualHandoffExportService.registerBlock controlPrincipalRef scheduleId stepId
          bloqueio).attempt with
      | .error e => pure (.error e, resultado.2)
      | .ok recusa => pure (.error recusa, resultado.2)
    | .ok (.authorized autorizacao) =>
      resultado.2.despachar attemptId controlPrincipalRef scheduleId stepId sealerRef autorizacao

end Servico

/-! ## The life of an instance -/

/-- Other transactions do not change the rows that this one has locked. -/
def MantemTravadas (held : List Lock) (a b : Db) : Prop :=
  (∀ id, .schedule id ∈ held → b.schedules.lookup id = a.schedules.lookup id) ∧
    (∀ id, .step id ∈ held → b.steps.lookup id = a.steps.lookup id) ∧
      (∀ id, .attempt id ∈ held → b.attempts.lookup id = a.attempts.lookup id) ∧
        ∀ id, .delegation id ∈ held → b.delegations.lookup id = a.delegations.lookup id

/-- PostgreSQL keeps locked rows for the transaction that has them. -/
def entorno : Surroundings Db Write Lock where
  apply := Db.apply
  protection := {
    keeps := MantemTravadas
    refl := fun _ _ => ⟨fun _ _ => rfl, fun _ _ => rfl, fun _ _ => rfl, fun _ _ => rfl⟩
    trans := fun ⟨h₁, h₂, h₃, h₄⟩ ⟨h₁', h₂', h₃', h₄'⟩ =>
      ⟨fun id hid => (h₁' id hid).trans (h₁ id hid), fun id hid => (h₂' id hid).trans (h₂ id hid),
        fun id hid => (h₃' id hid).trans (h₃ id hid), fun id hid => (h₄' id hid).trans (h₄ id hid)⟩
    anti := fun hsub ⟨h₁, h₂, h₃, h₄⟩ =>
      ⟨fun id hid => h₁ id (hsub hid), fun id hid => h₂ id (hsub hid),
        fun id hid => h₃ id (hsub hid), fun id hid => h₄ id (hsub hid)⟩ }

/-- A UUID has 128 bits. -/
def Uuid.Valido (u : Uuid) : Prop := u.int < 2 ^ 128

/-- What can be asked of an instance, or done beside it. -/
inductive Chamada
  | construir (autorizacao : Autorizacao)
  | preflight (humanGate : GateDecision) (controlPrincipalRef : String) (scheduleId stepId : Uuid)
  | exportStep (humanGate : GateDecision) (attemptId : Uuid) (controlPrincipalRef : String)
    (scheduleId stepId : Uuid) (sealerRef : String) (authorization : Option Objeto)

/-- The identifiers are UUIDs, and an object that is passed exists. -/
def Chamada.Valida (self : Servico) : Chamada → Prop
  | .construir _ => True
  | .preflight _ _ scheduleId stepId => scheduleId.Valido ∧ stepId.Valido
  | .exportStep _ _ _ scheduleId stepId _ authorization =>
    scheduleId.Valido ∧ stepId.Valido ∧ ∀ objeto ∈ authorization, self.Existe objeto

/-- What the instance has become when the call ends, whether it answers or raises. -/
def Chamada.depois [Runtime] (self : Servico) : Chamada → Action Servico
  | .construir autorizacao => pure (self.construir autorizacao).2
  | .preflight humanGate controlPrincipalRef scheduleId stepId => do
    let fim ← self.preflight humanGate controlPrincipalRef scheduleId stepId
    pure fim.2
  | .exportStep humanGate attemptId controlPrincipalRef scheduleId stepId sealerRef
      authorization => do
    let fim ← self.exportStep humanGate attemptId controlPrincipalRef scheduleId stepId sealerRef
      authorization
    pure fim.2

/-- The states of an instance: every call may find any committed rows and any transaction. -/
inductive Vida [Runtime] : Servico → Prop
  | nova (objetos : List Autorizacao) : Vida ⟨objetos, ∅, []⟩
  | chamada {self depois : Servico} (h : Vida self) (c : Chamada) (hvalida : c.Valida self)
    (p q : Place Db Write Lock) (hruns : (c.depois self).Runs entorno p (.ok depois) q) :
    Vida depois

end PiaOs
