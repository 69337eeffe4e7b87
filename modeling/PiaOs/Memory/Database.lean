import PiaOs.Memory.ApprovalTransitions
import PiaOs.Memory.Erasure
import PiaOs.Support.Process

/-!
# The database behind the executions

Each process has at most one transaction open. A statement sees the committed rows
with the writes of its own transaction; a row that another transaction has written
and not yet committed makes it wait. The ports answer whatever they like.
-/

namespace PiaOs.Memory

open Support ApprovalRecordRepository

/-! ## Calls -/

inductive Chamada
  | resolver (referencia : ErasureTargetReference)
  | consumir (envelope : DestructiveApprovalEnvelope)
  | revogar (envelope : DestructiveApprovalEnvelope)
  | aprovar (envelope : DestructiveApprovalEnvelope)
  | registrar (entrada : ErasureRecordAppend)
  | commit
  | fechar
  | tentar (pedido : ErasureEffectRequest)

/-- What a call answers. A port that raises answers nothing. -/
def Resposta : Chamada → Type
  | .resolver _ => Option TargetResolutionResult
  | .consumir _ | .revogar _ => Except TransitionError ApprovalRecord
  | .aprovar _ => Except DatabaseError Unit
  | .registrar _ => Except DatabaseError Uuid
  | .commit => Except DatabaseError Unit
  | .fechar => Unit
  | .tentar _ => Option ErasureEffectResult

/-- What the outside decides about a call. -/
inductive Escolha
  | prossegue
  | relogio (relogio : Relogio)
  | identificador (id : Uuid)
  | resolucao (result : TargetResolutionResult)
  | efeito (result : ErasureEffectResult)
  | falha

/-! ## Transactions -/

structure Tabelas where
  aprovacoes : ApprovalTables
  recibos : List ErasureRecord

/-- A write of an open transaction. -/
inductive Escrita
  | transicao (approvalId : Uuid) (destino : ApprovalLifecycleState) (agora : Instant)
  | aprovacao (envelope : DestructiveApprovalEnvelope)
  | recibo (recibo : ErasureRecord)
  deriving DecidableEq

namespace Escrita

def aplicada (t : Tabelas) : Escrita → Tabelas
  | .transicao approvalId destino agora =>
    { t with aprovacoes := atualizado t.aprovacoes (·.id == approvalId) destino agora }
  | .aprovacao envelope => { t with aprovacoes := withRows t.aprovacoes envelope }
  | .recibo r => { t with recibos := t.recibos ++ [r] }

/-- The write holds the row of the record. -/
def toca (approvalId : Uuid) : Escrita → Bool
  | .transicao id _ _ => id == approvalId
  | .aprovacao envelope => envelope.approvalId == approvalId
  | .recibo _ => false

/-- The write holds the nonce. -/
def ocupa (nonce : Uuid) : Escrita → Bool
  | .aprovacao envelope => envelope.nonce == nonce
  | _ => false

end Escrita

/-- The committed rows, and the uncommitted writes with the process that made each. -/
structure Banco where
  aprovacoes : ApprovalStore
  recibos : List ErasureRecord
  pendentes : List (Nat × Escrita) := []

namespace Banco

/-- The writes of the open transaction of a process. -/
def escritasDe (b : Banco) (i : Nat) : List Escrita :=
  (b.pendentes.filter (·.1 == i)).map Prod.snd

/-- The rows as the transaction of a process sees them. -/
def vista (b : Banco) (i : Nat) : Tabelas :=
  (b.escritasDe i).foldl Escrita.aplicada ⟨b.aprovacoes.toApprovalTables, b.recibos⟩

/-- The transaction of a process ends without effect. -/
def desfeito (b : Banco) (i : Nat) : Banco :=
  { b with pendentes := b.pendentes.filter (·.1 != i) }

def anotado (b : Banco) (i : Nat) (escrita : Escrita) : Banco :=
  { b with pendentes := b.pendentes ++ [(i, escrita)] }

/-- Another transaction holds what the test says. -/
def preso (b : Banco) (i : Nat) (teste : Escrita → Bool) : Bool :=
  b.pendentes.any fun p => p.1 != i && teste p.2

/-- A transition in the transaction of a process. A refused statement aborts the
transaction; a chosen row that another transaction holds makes it wait. -/
def transitar (b : Banco) (i : Nat) (envelope : DestructiveApprovalEnvelope)
    (destino : ApprovalLifecycleState) (exigirNaoVencida : Bool) :
    Escolha → Option (Except TransitionError ApprovalRecord × Banco)
  | .falha => some (.error (.database .connection), b.desfeito i)
  | .relogio relogio =>
    match (b.vista i).aprovacoes.settle with
    | .error erro => some (.error (.database erro), b.desfeito i)
    | .ok store =>
      let feito := transicionar store envelope destino exigirNaoVencida relogio
      if feito.2 = store then
        some (feito.1, match feito.1 with
          | .error (.database _) => b.desfeito i
          | _ => b)
      else if b.preso i (Escrita.toca envelope.approvalId) then none
      else some (feito.1, b.anotado i (.transicao envelope.approvalId destino relogio.escrito))
  | _ => none

def aprovar (b : Banco) (i : Nat) (envelope : DestructiveApprovalEnvelope) :
    Escolha → Option (Except DatabaseError Unit × Banco)
  | .falha => some (.error .connection, b.desfeito i)
  | .prossegue =>
    match (b.vista i).aprovacoes.settle with
    | .error erro => some (.error erro, b.desfeito i)
    | .ok store =>
      match appendApproved store envelope with
      | .error erro => some (.error erro, b.desfeito i)
      | .ok _ =>
        if b.preso i (Escrita.toca envelope.approvalId) || b.preso i (Escrita.ocupa envelope.nonce)
        then none
        else some (.ok (), b.anotado i (.aprovacao envelope))
  | _ => none

/-- The identifiers of all receipts, committed or not. -/
def idsDeRecibos (b : Banco) : List Uuid :=
  b.recibos.map ErasureRecord.id ++ b.pendentes.filterMap fun p =>
    match p.2 with
    | .recibo recibo => some recibo.id
    | _ => none

/-- `append_observed`, under a new identifier. -/
def registrar (b : Banco) (i : Nat) (entrada : ErasureRecordAppend) :
    Escolha → Option (Except DatabaseError Uuid × Banco)
  | .falha => some (.error .connection, b.desfeito i)
  | .identificador id =>
    if !fitsInteger entrada.governancePolicyVersion then some (.error .data, b.desfeito i)
    else if b.idsDeRecibos.contains id then none
    else some (.ok id, b.anotado i (.recibo ⟨entrada.toReceiptFields, id⟩))
  | _ => none

/-- The writes of the transaction of a process, made visible. -/
def efetivado (b : Banco) (i : Nat) (store : ApprovalStore) : Banco :=
  { b.desfeito i with aprovacoes := store, recibos := (b.vista i).recibos }

/-- The writes of the transaction become visible at once, or are lost. -/
def commit (b : Banco) (i : Nat) : Escolha → Option (Except DatabaseError Unit × Banco)
  | .falha => some (.error .connection, b.desfeito i)
  | .prossegue =>
    match (b.vista i).aprovacoes.settle with
    | .error erro => some (.error erro, b.desfeito i)
    | .ok store => some (.ok (), b.efetivado i store)
  | _ => none

/-- How a call is answered. -/
def responder (b : Banco) (i : Nat) : (c : Chamada) → Escolha → Option (Resposta c × Banco)
  | .resolver _, .resolucao result => some (some result, b)
  | .resolver _, .falha => some (none, b)
  | .resolver _, _ => none
  | .consumir envelope, escolha => b.transitar i envelope .consumed true escolha
  | .revogar envelope, escolha => b.transitar i envelope .revoked false escolha
  | .aprovar envelope, escolha => b.aprovar i envelope escolha
  | .registrar entrada, escolha => b.registrar i entrada escolha
  | .commit, escolha => b.commit i escolha
  | .fechar, _ => some ((), b.desfeito i)
  | .tentar _, .efeito result => some (some result, b)
  | .tentar _, .falha => some (none, b)
  | .tentar _, _ => none

/-- The database and the ports. A process that stops loses its open transaction. -/
def servico : Service Banco Chamada Resposta Escolha := ⟨responder, desfeito⟩

end Banco

end PiaOs.Memory
