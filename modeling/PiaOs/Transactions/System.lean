import Mathlib.Data.List.Basic
import Mathlib.Tactic.Common

/-!
# Concurrent transactions over one store

Transactions run their statements in any order. A statement sees the committed
store with the writes of its own transaction and waits while another transaction
holds a row lock it needs. The locks are kept until the transaction ends, and a
commit makes all of its writes visible at once.
-/

/-! ## Programs that run inside one transaction

A service method is a sequence of statements sent to the store. Each statement
sees the store as it is when the statement runs, says which row locks it has to
take, and either answers together with the writes it makes or fails. The code
between two statements is ordinary Lean. -/

namespace Transactions

/-- What a statement receives besides the store: the instant of its transaction
and an identifier that no visible row uses. -/
structure Env where
  now : Int
  fresh : Nat

/-- One statement over a store `σ`: its row locks and its answer and writes. -/
structure Stmt (σ ω ℓ ε β : Type) where
  locks : Env → σ → List ℓ
  exec : Env → σ → Except ε (β × List ω)

/-- A program is a tree of statements whose branches are chosen by the answers. -/
inductive Prog (σ ω ℓ ε α : Type) : Type 1
  | pure (a : α)
  | raise (e : ε)
  | stmt {β : Type} (s : Stmt σ ω ℓ ε β) (k : β → Prog σ ω ℓ ε α)

namespace Prog

variable {σ ω ℓ ε α β γ : Type}

/-- Continues a program with its answer; a failure ends the whole program. -/
def bind : Prog σ ω ℓ ε α → (α → Prog σ ω ℓ ε β) → Prog σ ω ℓ ε β
  | .pure a, f => f a
  | .raise e, _ => .raise e
  | .stmt s k, f => .stmt s fun b => (k b).bind f

instance : Monad (Prog σ ω ℓ ε) where
  pure := .pure
  bind := .bind

@[simp] theorem bind_pure' (a : α) (f : α → Prog σ ω ℓ ε β) :
    (Prog.pure a : Prog σ ω ℓ ε α) >>= f = f a := rfl

@[simp] theorem monad_pure (a : α) : (Pure.pure a : Prog σ ω ℓ ε α) = .pure a := rfl

@[simp] theorem raise_bind (e : ε) (f : α → Prog σ ω ℓ ε β) :
    (Prog.raise e : Prog σ ω ℓ ε α) >>= f = .raise e := rfl

@[simp] theorem stmt_bind (s : Stmt σ ω ℓ ε γ) (k : γ → Prog σ ω ℓ ε α)
    (f : α → Prog σ ω ℓ ε β) :
    (Prog.stmt s k : Prog σ ω ℓ ε α) >>= f = .stmt s fun b => k b >>= f := rfl

/-- Running one program after another is associative. -/
theorem bind_assoc' (p : Prog σ ω ℓ ε α) (f : α → Prog σ ω ℓ ε β) (g : β → Prog σ ω ℓ ε γ) :
    p >>= f >>= g = p >>= fun a => f a >>= g := by
  induction p with
  | pure a => rfl
  | raise e => rfl
  | stmt s k ih =>
    simp only [stmt_bind]
    congr 1
    funext b
    exact ih b

/-- A program of a single statement. -/
def step (s : Stmt σ ω ℓ ε α) : Prog σ ω ℓ ε α := .stmt s .pure

/-- A plain read: no lock, no write. -/
def read (f : Env → σ → α) : Prog σ ω ℓ ε α :=
  step ⟨fun _ _ => [], fun env db => .ok (f env db, [])⟩

/-- A read that locks the rows it finds (`SELECT ... FOR UPDATE`). -/
def readLocked (locks : Env → σ → List ℓ) (f : Env → σ → α) : Prog σ ω ℓ ε α :=
  step ⟨locks, fun env db => .ok (f env db, [])⟩

/-- Goes on only when the condition holds. -/
def require (c : Bool) (e : ε) : Prog σ ω ℓ ε Unit :=
  if c then .pure () else .raise e

/-- Goes on with the value when there is one. -/
def orRaise (o : Option α) (e : ε) : Prog σ ω ℓ ε α :=
  match o with
  | some a => .pure a
  | none => .raise e

/-- Runs a program on each element in turn. -/
def each (f : α → Prog σ ω ℓ ε Unit) : List α → Prog σ ω ℓ ε Unit
  | [] => .pure ()
  | a :: as => f a >>= fun _ => each f as

/-- Runs a program on each element in turn and keeps the answers it gives. -/
def collect (f : α → Prog σ ω ℓ ε (Option β)) : List α → Prog σ ω ℓ ε (List β)
  | [] => .pure []
  | a :: as => f a >>= fun b => collect f as >>= fun bs => .pure (b.toList ++ bs)

/-- What a program answers and writes when it runs alone: every statement sees
the store with all earlier writes, at one instant, with the given identifiers. -/
def run (apply : ω → σ → σ) (now : Int) :
    Prog σ ω ℓ ε α → (Nat → Nat) → Nat → σ → Except ε α × List ω
  | .pure a, _, _, _ => (.ok a, [])
  | .raise e, _, _, _ => (.error e, [])
  | .stmt s k, ids, n, db =>
    match s.exec ⟨now, ids n⟩ db with
    | .error e => (.error e, [])
    | .ok (b, ws) =>
      let rest := run apply now (k b) ids (n + 1) (ws.foldl (fun d w => apply w d) db)
      (rest.1, ws ++ rest.2)

end Prog

/-! ## Concurrent transactions over one store -/

/-- What a system of transactions is built from: how a write changes the store,
which program each request runs, which identifiers are still unused, and the
constraints that are checked at commit. -/
structure Database (σ ω ℓ ε α ρ : Type) where
  apply : ω → σ → σ
  program : ρ → Prog σ ω ℓ ε α
  isFresh : Nat → σ → Bool
  admits : σ → Bool

/-- Applies a list of writes in order. -/
def applyAll {σ ω : Type} (apply : ω → σ → σ) (log : List ω) (db : σ) : σ :=
  log.foldl (fun d w => apply w d) db

section ApplyAll

variable {σ ω : Type} (apply : ω → σ → σ)

@[simp] theorem applyAll_nil (db : σ) : applyAll apply [] db = db := rfl

@[simp] theorem applyAll_cons (w : ω) (log : List ω) (db : σ) :
    applyAll apply (w :: log) db = applyAll apply log (apply w db) := rfl

@[simp] theorem applyAll_append (log log' : List ω) (db : σ) :
    applyAll apply (log ++ log') db = applyAll apply log' (applyAll apply log db) :=
  List.foldl_append

/-- The writes of a log, each with the store right before it. -/
def trail : List ω → σ → List (σ × ω)
  | [], _ => []
  | w :: log, db => (db, w) :: trail log (apply w db)

theorem trail_append (log log' : List ω) (db : σ) :
    trail apply (log ++ log') db = trail apply log db ++ trail apply log' (applyAll apply log db) := by
  induction log generalizing db with
  | nil => rfl
  | cons w log ih => simp [trail, ih]

theorem mem_trail {db v : σ} {w : ω} {log : List ω} : (v, w) ∈ trail apply log db ↔
    ∃ front post, log = front ++ w :: post ∧ v = applyAll apply front db := by
  induction log generalizing db with
  | nil => simp [trail]
  | cons w' log ih =>
    rw [trail, List.mem_cons, ih]
    constructor
    · rintro (h | ⟨front, post, rfl, rfl⟩)
      · obtain ⟨rfl, rfl⟩ := Prod.mk.inj h
        exact ⟨[], log, rfl, rfl⟩
      · exact ⟨w' :: front, post, rfl, rfl⟩
    · rintro ⟨front, post, hlog, rfl⟩
      cases front with
      | nil =>
        obtain ⟨rfl, -⟩ := List.cons.inj hlog
        exact .inl rfl
      | cons w'' front =>
        obtain ⟨rfl, rfl⟩ := List.cons.inj hlog
        exact .inr ⟨front, post, rfl, rfl⟩

end ApplyAll

/-- A transaction in progress. `began` is the committed store at its start. -/
structure Tx (σ ω ℓ ε α ρ : Type) : Type 1 where
  request : ρ
  began : σ
  now : Int
  log : List ω
  locks : List ℓ
  prog : Prog σ ω ℓ ε α

/-- A committed transaction, with the committed store right before its commit. -/
structure Committed (σ ω α ρ : Type) where
  request : ρ
  began : σ
  now : Int
  before : σ
  log : List ω
  answer : α

/-- The committed store, the clock, the transactions in progress and, newest
first, the transactions that have committed. -/
structure Sys (σ ω ℓ ε α ρ : Type) : Type 1 where
  store : σ
  clock : Int
  count : Nat
  live : Nat → Option (Tx σ ω ℓ ε α ρ)
  history : List (Committed σ ω α ρ)

/-- What can happen next: a request begins, a transaction runs one statement,
commits, or is rolled back. -/
inductive Label (ρ : Type)
  | begin (request : ρ) (now : Int)
  | exec (i fresh : Nat)
  | commit (i : Nat)
  | abort (i : Nat)

namespace Sys

variable {σ ω ℓ ε α ρ : Type}

/-- The system before any request. -/
def start (db : σ) : Sys σ ω ℓ ε α ρ := ⟨db, 0, 0, fun _ => none, []⟩

/-- Replaces the transaction with the given number. -/
def setLive (s : Sys σ ω ℓ ε α ρ) (i : Nat) (tx : Option (Tx σ ω ℓ ε α ρ)) :
    Sys σ ω ℓ ε α ρ :=
  { s with live := fun j => if j = i then tx else s.live j }

@[simp] theorem setLive_live (s : Sys σ ω ℓ ε α ρ) (i j : Nat)
    (tx : Option (Tx σ ω ℓ ε α ρ)) :
    (s.setLive i tx).live j = if j = i then tx else s.live j := rfl

/-- No other transaction holds any of these locks. -/
def unlocked [DecidableEq ℓ] (s : Sys σ ω ℓ ε α ρ) (i : Nat) (needed : List ℓ) : Bool :=
  (List.range s.count).all fun j =>
    j == i || match s.live j with
      | none => true
      | some other => needed.all fun l => !other.locks.contains l

/-- One step of the system, when the label is possible. -/
def next [DecidableEq ℓ] (D : Database σ ω ℓ ε α ρ) (s : Sys σ ω ℓ ε α ρ) :
    Label ρ → Option (Sys σ ω ℓ ε α ρ)
  | .begin request now =>
    if s.clock ≤ now then
      some { s with
        clock := now
        count := s.count + 1
        live := fun j =>
          if j = s.count then some ⟨request, s.store, now, [], [], D.program request⟩
          else s.live j }
    else none
  | .exec i fresh =>
    match s.live i with
    | none => none
    | some tx =>
      match tx.prog with
      | .stmt stmt k =>
        let view := applyAll D.apply tx.log s.store
        let needed := stmt.locks ⟨tx.now, fresh⟩ view
        if D.isFresh fresh view && s.unlocked i needed then
          match stmt.exec ⟨tx.now, fresh⟩ view with
          | .ok (b, ws) =>
            some (s.setLive i (some { tx with
              log := tx.log ++ ws, locks := tx.locks ++ needed, prog := k b }))
          | .error e =>
            some (s.setLive i (some { tx with
              locks := tx.locks ++ needed, prog := .raise e }))
        else none
      | _ => none
  | .commit i =>
    match s.live i with
    | none => none
    | some tx =>
      match tx.prog with
      | .pure a =>
        if D.admits (applyAll D.apply tx.log s.store) then
          some { s.setLive i none with
            store := applyAll D.apply tx.log s.store
            history := ⟨tx.request, tx.began, tx.now, s.store, tx.log, a⟩ :: s.history }
        else none
      | _ => none
  | .abort i =>
    match s.live i with
    | none => none
    | some _ => some (s.setLive i none)

/-- Runs a list of labels, when each is possible in turn. -/
def trace [DecidableEq ℓ] (D : Database σ ω ℓ ε α ρ) (s : Sys σ ω ℓ ε α ρ) :
    List (Label ρ) → Option (Sys σ ω ℓ ε α ρ)
  | [] => some s
  | l :: ls =>
    match s.next D l with
    | none => none
    | some s' => trace D s' ls

/-- Every state that some order of steps reaches from the store `db`. -/
inductive Reachable [DecidableEq ℓ] (D : Database σ ω ℓ ε α ρ) (db : σ) :
    Sys σ ω ℓ ε α ρ → Prop
  | start : Reachable D db (start db)
  | step {s s' : Sys σ ω ℓ ε α ρ} (label : Label ρ) :
      Reachable D db s → s.next D label = some s' → Reachable D db s'

/-- A concrete run ends in a reachable state. -/
theorem Reachable.trace [DecidableEq ℓ] {D : Database σ ω ℓ ε α ρ} {db : σ}
    {s s' : Sys σ ω ℓ ε α ρ} {labels : List (Label ρ)} (hs : Reachable D db s)
    (h : s.trace D labels = some s') : Reachable D db s' := by
  induction labels generalizing s with
  | nil =>
    simp only [Sys.trace, Option.some.injEq] at h
    exact h ▸ hs
  | cons l ls ih =>
    simp only [Sys.trace] at h
    cases hnext : s.next D l with
    | none => simp [hnext] at h
    | some t =>
      simp only [hnext] at h
      exact ih (hs.step l hnext) h

end Sys

end Transactions
