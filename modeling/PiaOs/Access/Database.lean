import PiaOs.Access.Principal
import PiaOs.Support.Process

/-!
# The database behind the access gate

Each process has at most one transaction open, and `now()` is the instant at which
it began. A statement sees the committed rows with the writes of its own transaction;
one that needs a row or a key that another open transaction has written waits. Any
statement may fail, and a commit may be lost before or after it took effect.
-/

namespace PiaOs.Access

open Support

/-- What identifies a row of the quota buckets: a principal, an operation and the
first instant of a window. -/
structure QuotaKey where
  principalId : Uuid
  operation : String
  windowStart : Instant
  deriving DecidableEq

/-- The window of so many seconds that holds the instant. -/
def windowStart (agora : Instant) (windowSeconds : Int) : Instant :=
  agora / (windowSeconds * 1000000) * (windowSeconds * 1000000)

/-- The calls of `ProgrammaticAccessRepository`, and those of its session. -/
inductive Chamada
  | getByKeyId (keyId : String)
  | databaseNow
  | insertPrincipal (linha : ProgrammaticServicePrincipal)
  | setRevoked (id : Uuid) (moment : Instant)
  | consumeQuota (principalId : Uuid) (operation : String) (quotaLimit : Int)
      (quotaWindowSeconds : Int)
  | commit
  | rollback

/-- A statement that the database refused, or that did not reach it. -/
inductive DatabaseFailure
  | unavailable | integrity
  deriving DecidableEq

def Resposta : Chamada → Type
  | .getByKeyId _ => Except DatabaseFailure (Option ProgrammaticServicePrincipal)
  | .databaseNow => Except DatabaseFailure Instant
  | .consumeQuota _ _ _ _ => Except DatabaseFailure Bool
  | _ => Except DatabaseFailure Unit

/-- What the outside decides about a call: that it is served, at this time if it opens a
transaction; that it fails; or that it is served and the answer is lost. -/
inductive Escolha
  | atende (agora : Instant)
  | falha
  | perde

/-- A write of an open transaction. -/
inductive Escrita
  | principal (linha : ProgrammaticServicePrincipal)
  | revogacao (id : Uuid) (moment : Instant)
  | incremento (key : QuotaKey)
  deriving DecidableEq

/-- The constraints of the table on a row by itself. -/
def linhaAceita (linha : ProgrammaticServicePrincipal) : Bool :=
  0 < linha.quotaLimit && 0 < linha.quotaWindowSeconds && linha.secretDigest.length == 64 &&
    8 ≤ linha.keyId.length && linha.keyId.length ≤ 64 &&
    linha.description.all (·.length ≤ 200)

/-- The row cannot stand next to another one: the id and the key id are unique. -/
def conflita (linha outra : ProgrammaticServicePrincipal) : Bool :=
  linha.id == outra.id || linha.keyId == outra.keyId

/-- The write holds a key that the new row needs. -/
def Escrita.ocupa (linha : ProgrammaticServicePrincipal) : Escrita → Bool
  | .principal outra => conflita linha outra
  | _ => false

def Escrita.revogando (id : Uuid) : Escrita → Bool
  | .revogacao outro _ => outro == id
  | _ => false

/-- The committed rows, the writes and the beginnings of the open transactions, and in
order the increments that were committed, each with the process that made it. -/
structure Banco where
  principais : List ProgrammaticServicePrincipal := []
  used : QuotaKey → Option Nat := fun _ => none
  pendentes : List (Nat × Escrita) := []
  inicio : Nat → Option Instant := fun _ => none
  incrementos : List (Nat × QuotaKey) := []

namespace Banco

/-- What a write leaves when it is committed. -/
def aplicada (b : Banco) (i : Nat) : Escrita → Banco
  | .principal linha => { b with principais := b.principais ++ [linha] }
  | .revogacao id moment => { b with
      principais := b.principais.map fun linha =>
        if linha.id = id then { linha with revokedAt := some moment } else linha }
  | .incremento key => { b with
      used := fun key' => if key' = key then some ((b.used key).getD 0 + 1) else b.used key'
      incrementos := b.incrementos ++ [(i, key)] }

/-- The writes of the open transaction of a process. -/
def escritasDe (b : Banco) (i : Nat) : List Escrita :=
  (b.pendentes.filter (·.1 == i)).map Prod.snd

/-- The rows as the transaction of a process sees them. -/
def vista (b : Banco) (i : Nat) : Banco :=
  (b.escritasDe i).foldl (fun b escrita => b.aplicada i escrita) b

/-- The transaction of a process is over, without its writes. -/
def desfeito (b : Banco) (i : Nat) : Banco := { b with
  pendentes := b.pendentes.filter (·.1 != i)
  inicio := fun j => if j = i then none else b.inicio j }

/-- The transaction of a process is over, with its writes. -/
def confirmado (b : Banco) (i : Nat) : Banco := (b.vista i).desfeito i

/-- The beginning of the transaction of a process, which opens now if it is not open. -/
def agoraDe (b : Banco) (i : Nat) (agora : Instant) : Instant := (b.inicio i).getD agora

def aberto (b : Banco) (i : Nat) (agora : Instant) : Banco :=
  { b with inicio := fun j => if j = i then some (b.agoraDe i agora) else b.inicio j }

def anotado (b : Banco) (i : Nat) (escrita : Escrita) : Banco :=
  { b with pendentes := b.pendentes ++ [(i, escrita)] }

/-- Another open transaction has written what the test says. -/
def preso (b : Banco) (i : Nat) (teste : Escrita → Bool) : Bool :=
  b.pendentes.any fun p => p.1 != i && teste p.2

/-- The insertion of `create_principal`. -/
def insere (b : Banco) (i : Nat) (linha : ProgrammaticServicePrincipal) :
    Option (Except DatabaseFailure Unit × Banco) :=
  if linhaAceita linha = false ∨ (b.vista i).principais.any (conflita linha) = true then
    some (.error .integrity, b.desfeito i)
  else if b.preso i (Escrita.ocupa linha) then none
  else some (.ok (), b.anotado i (.principal linha))

/-- The update of `revoke`. -/
def revoga (b : Banco) (i : Nat) (id : Uuid) (moment : Instant) :
    Option (Except DatabaseFailure Unit × Banco) :=
  if b.preso i (Escrita.revogando id) then none
  else some (.ok (), b.anotado i (.revogacao id moment))

/-- The statement of `consume_quota`: the insertion of the first increment of a window,
or the update under the condition that the limit is not reached. -/
def consome (b : Banco) (i : Nat) (key : QuotaKey) (quotaLimit : Int) :
    Option (Except DatabaseFailure Bool × Banco) :=
  if b.preso i (· == .incremento key) then none
  else match (b.vista i).used key with
    | none => some (.ok true, b.anotado i (.incremento key))
    | some used =>
      if (used : Int) < quotaLimit then some (.ok true, b.anotado i (.incremento key))
      else some (.ok false, b)

/-- Answers a call of a process. Nothing is answered where the database makes it wait. -/
def responde (b : Banco) (i : Nat) : (c : Chamada) → Escolha → Option (Resposta c × Banco)
  | .getByKeyId keyId, .atende agora =>
    some (.ok ((b.vista i).principais.find? (·.keyId == keyId)), b.aberto i agora)
  | .databaseNow, .atende agora => some (.ok (b.agoraDe i agora), b.aberto i agora)
  | .insertPrincipal linha, .atende agora => (b.aberto i agora).insere i linha
  | .setRevoked id moment, .atende agora => (b.aberto i agora).revoga i id moment
  | .consumeQuota principalId operation quotaLimit quotaWindowSeconds, .atende agora =>
    (b.aberto i agora).consome i
      ⟨principalId, operation, windowStart (b.agoraDe i agora) quotaWindowSeconds⟩ quotaLimit
  | .commit, .atende _ => some (.ok (), b.confirmado i)
  | .commit, .perde => some (.error .unavailable, b.confirmado i)
  | .rollback, .atende _ => some (.ok (), b.desfeito i)
  | .getByKeyId _, _ => some (.error .unavailable, b.desfeito i)
  | .databaseNow, _ => some (.error .unavailable, b.desfeito i)
  | .insertPrincipal _, _ => some (.error .unavailable, b.desfeito i)
  | .setRevoked _ _, _ => some (.error .unavailable, b.desfeito i)
  | .consumeQuota _ _ _ _, _ => some (.error .unavailable, b.desfeito i)
  | .commit, .falha => some (.error .unavailable, b.desfeito i)
  | .rollback, _ => some (.error .unavailable, b.desfeito i)

/-- The database as the processes share it. The session of a process that stops is closed. -/
def servico : Service Banco Chamada Resposta Escolha where
  answer := responde
  stop := desfeito

end Banco

end PiaOs.Access
