import Mathlib.Data.List.Nodup
import Mathlib.Data.Nat.Notation
import Mathlib.Tactic.Common

/-!
# Transactions with savepoints

A store that is only appended to, with unique keys. A statement sees what is committed and
what its own transaction has written. A write waits while another transaction has written one
of its keys, and a statement that fails leaves its transaction failed until that goes back to
a savepoint.
-/

namespace Transactions.Savepoints

/-- The unique keys of a write, the error of a write that the database does not take, and the
writes that a caller makes by itself. -/
structure Engine (ω κ ε : Type) where
  keys : ω → List κ
  keys_nodup : ∀ w, (keys w).Nodup
  refuses : ω → Option ε
  direct : ω → Bool

/-- What a session hears of a write. Only a write that names an arbiter may do nothing. -/
inductive Reply (κ ε : Type)
  | written
  | nothing
  | duplicate (key : κ)
  | refused (e : ε)
  | failed
  deriving DecidableEq

/-- A program of a session. A failed transaction answers no query and takes no savepoint. -/
inductive Prog (ω κ ε β : Type)
  | pure (b : β)
  | select (k : Option (List ω) → Prog ω κ ε β)
  | insert (w : ω) (arbiter : Option κ) (k : Reply κ ε → Prog ω κ ε β)
  | savepoint (k : Bool → Prog ω κ ε β)
  | rollback (k : Prog ω κ ε β)
  | release (k : Prog ω κ ε β)
  | draw (k : ℕ → Prog ω κ ε β)

/-- What a transaction has of its own: its writes, the writes at each of its savepoints, and
whether a statement has failed. -/
structure Own (ω : Type) where
  log : List ω
  points : List (List ω)
  failed : Bool
  deriving DecidableEq

namespace Own

variable {ω : Type}

def nest (o : Own ω) : Own ω := { o with points := o.log :: o.points }

/-- `ROLLBACK TO SAVEPOINT`, of the last one. -/
def rollback (o : Own ω) : Own ω :=
  match o.points with
  | [] => o
  | log :: points => ⟨log, points, false⟩

def release (o : Own ω) : Own ω := { o with points := o.points.tail }

def fail (o : Own ω) : Own ω := { o with failed := true }

def add (o : Own ω) (w : ω) : Own ω := { o with log := o.log ++ [w] }

/-- Back at the savepoint, a transaction that had not failed is as it was. -/
@[simp] theorem rollback_nest (o : Own ω) (h : o.failed = false) : o.nest.rollback = o := by
  simp [nest, rollback, ← h]

@[simp] theorem rollback_fail_nest (o : Own ω) (h : o.failed = false) :
    o.nest.fail.rollback = o := by
  simp [nest, fail, rollback, ← h]

@[simp] theorem release_add_nest (o : Own ω) (w : ω) : (o.nest.add w).release = o.add w := rfl

/-- Each savepoint comes before what was written since. -/
def Nested : List ω → List (List ω) → Prop
  | _, [] => True
  | log, p :: points => p <+: log ∧ Nested p points

theorem Nested.mono {log log' : List ω} {points : List (List ω)} (h : Nested log points)
    (hlog : log <+: log') : Nested log' points := by
  cases points with
  | nil => trivial
  | cons p points => exact ⟨h.1.trans hlog, h.2⟩

theorem Nested.tail {log : List ω} {points : List (List ω)} (h : Nested log points) :
    Nested log points.tail := by
  cases points with
  | nil => trivial
  | cons p points => exact h.2.mono h.1

theorem Nested.rollback {o : Own ω} (h : Nested o.log o.points) :
    Nested o.rollback.log o.rollback.points ∧ o.rollback.log <+: o.log := by
  unfold Own.rollback
  split
  case h_1 => exact ⟨h, List.prefix_refl _⟩
  case h_2 log points hpoints =>
    rw [hpoints] at h
    exact ⟨h.2, h.1⟩

end Own

namespace Engine

variable {ω κ ε : Type} (E : Engine ω κ ε)

/-- The keys that some writes have taken. -/
def taken (ws : List ω) : List κ := ws.flatMap E.keys

theorem taken_append (ws ws' : List ω) : E.taken (ws ++ ws') = E.taken ws ++ E.taken ws' :=
  List.flatMap_append

variable [DecidableEq κ]

/-- `INSERT`, with or without `ON CONFLICT (arbiter) DO NOTHING`. The arbiter is looked up first. -/
def insert (store : List ω) (o : Own ω) (w : ω) (arbiter : Option κ) : Reply κ ε × Own ω :=
  if o.failed then (.failed, o)
  else match E.refuses w with
    | some e => (.refused e, o.fail)
    | none =>
      let taken := E.taken (store ++ o.log)
      if arbiter.any fun key => key ∈ taken then (.nothing, o)
      else match (E.keys w).find? fun key => key ∈ taken with
        | some key => (.duplicate key, o.fail)
        | none => (.written, o.add w)

end Engine

/-- A call that a transaction is in, and where it began. -/
structure Running (ω κ ε γ β : Type) where
  call : γ
  store : List ω
  own : Own ω
  prog : Prog ω κ ε β

structure Tx (ω κ ε γ β : Type) where
  own : Own ω
  running : Option (Running ω κ ε γ β)

/-- A call that has returned: where it began, its answer and where it ended. -/
structure Event (ω γ β : Type) where
  call : γ
  store : List ω
  own : Own ω
  answer : β
  store' : List ω
  own' : Own ω

/-- The committed writes, the transactions in progress and the calls that have returned. -/
structure Sys (ω κ ε γ β : Type) where
  store : List ω
  count : ℕ
  live : ℕ → Option (Tx ω κ ε γ β)
  events : List (Event ω γ β)

/-- What can happen next. Between its calls a transaction writes and nests as its caller likes;
in a call it runs one statement, with the number that is drawn there. -/
inductive Label (ω γ : Type)
  | begin
  | write (i : ℕ) (w : ω)
  | nest (i : ℕ)
  | undo (i : ℕ)
  | release (i : ℕ)
  | call (i : ℕ) (c : γ)
  | step (i n : ℕ)
  | commit (i : ℕ)
  | abort (i : ℕ)

variable {ω κ ε γ β : Type}

/-- One statement of a program. -/
def Prog.advance [DecidableEq κ] (E : Engine ω κ ε) (store : List ω) (n : ℕ) :
    Prog ω κ ε β → Own ω → Prog ω κ ε β × Own ω
  | .pure b, o => (.pure b, o)
  | .select k, o => (k (if o.failed then none else some (store ++ o.log)), o)
  | .insert w arbiter k, o =>
    let reply := E.insert store o w arbiter
    (k reply.1, reply.2)
  | .savepoint k, o => if o.failed then (k false, o) else (k true, o.nest)
  | .rollback k, o => (k, o.rollback)
  | .release k, o => (k, o.release)
  | .draw k, o => (k n, o)

namespace Sys

/-- The store before any transaction. -/
def start : Sys ω κ ε γ β := ⟨[], 0, fun _ => none, []⟩

def setLive (s : Sys ω κ ε γ β) (i : ℕ) (tx : Option (Tx ω κ ε γ β)) : Sys ω κ ε γ β :=
  { s with live := fun j => if j = i then tx else s.live j }

@[simp] theorem setLive_live (s : Sys ω κ ε γ β) (i j : ℕ) (tx : Option (Tx ω κ ε γ β)) :
    (s.setLive i tx).live j = if j = i then tx else s.live j := rfl

variable [DecidableEq κ]

/-- No other transaction has written a key of these writes. -/
def unlocked (E : Engine ω κ ε) (s : Sys ω κ ε γ β) (i : ℕ) (log : List ω) : Bool :=
  (List.range s.count).all fun j =>
    j == i || match s.live j with
      | none => true
      | some other => (E.taken log).all fun key => !(E.taken other.own.log).contains key

/-- Gives a transaction what it has of its own, when no other one has written its keys. -/
def setOwn (E : Engine ω κ ε) (s : Sys ω κ ε γ β) (i : ℕ) (o : Own ω)
    (running : Option (Running ω κ ε γ β)) : Option (Sys ω κ ε γ β) :=
  if s.unlocked E i o.log then some (s.setLive i (some ⟨o, running⟩)) else none

/-- One step of the system, when the label is possible. -/
def next (E : Engine ω κ ε) (calls : γ → Prog ω κ ε β) (s : Sys ω κ ε γ β) :
    Label ω γ → Option (Sys ω κ ε γ β)
  | .begin => some { s with
      count := s.count + 1
      live := fun j => if j = s.count then some ⟨⟨[], [], false⟩, none⟩ else s.live j }
  | .write i w =>
    match s.live i with
    | some ⟨o, none⟩ => if E.direct w then s.setOwn E i (E.insert s.store o w none).2 none else none
    | _ => none
  | .nest i =>
    match s.live i with
    | some ⟨o, none⟩ => if o.failed then none else s.setOwn E i o.nest none
    | _ => none
  | .undo i =>
    match s.live i with
    | some ⟨o, none⟩ => s.setOwn E i o.rollback none
    | _ => none
  | .release i =>
    match s.live i with
    | some ⟨o, none⟩ => s.setOwn E i o.release none
    | _ => none
  | .call i c =>
    match s.live i with
    | some ⟨o, none⟩ => s.setOwn E i o (some ⟨c, s.store, o, calls c⟩)
    | _ => none
  | .step i n =>
    match s.live i with
    | some ⟨o, some r⟩ =>
      match r.prog with
      | .pure b => some { s.setLive i (some ⟨o, none⟩) with
          events := ⟨r.call, r.store, r.own, b, s.store, o⟩ :: s.events }
      | p =>
        let after := p.advance E s.store n o
        s.setOwn E i after.2 (some { r with prog := after.1 })
    | _ => none
  | .commit i =>
    match s.live i with
    | some ⟨o, none⟩ =>
      if o.failed then none else some { s.setLive i none with store := s.store ++ o.log }
    | _ => none
  | .abort i =>
    match s.live i with
    | some _ => some (s.setLive i none)
    | none => none

/-- Runs a list of labels, when each is possible in turn. -/
def trace (E : Engine ω κ ε) (calls : γ → Prog ω κ ε β) (s : Sys ω κ ε γ β) :
    List (Label ω γ) → Option (Sys ω κ ε γ β)
  | [] => some s
  | l :: ls =>
    match s.next E calls l with
    | none => none
    | some s' => trace E calls s' ls

/-- What some order of steps leads to. -/
inductive Steps (E : Engine ω κ ε) (calls : γ → Prog ω κ ε β) :
    Sys ω κ ε γ β → Sys ω κ ε γ β → Prop
  | refl (s : Sys ω κ ε γ β) : Steps E calls s s
  | tail {s t u : Sys ω κ ε γ β} (label : Label ω γ) :
    Steps E calls s t → t.next E calls label = some u → Steps E calls s u

theorem Steps.trans {E : Engine ω κ ε} {calls : γ → Prog ω κ ε β} {s t u : Sys ω κ ε γ β}
    (h : Steps E calls s t) (h' : Steps E calls t u) : Steps E calls s u := by
  induction h' with
  | refl => exact h
  | tail label _ hnext ih => exact .tail label ih hnext

theorem Steps.of_trace {E : Engine ω κ ε} {calls : γ → Prog ω κ ε β} {labels : List (Label ω γ)}
    {s t : Sys ω κ ε γ β} (h : s.trace E calls labels = some t) : Steps E calls s t := by
  induction labels generalizing s with
  | nil =>
    obtain rfl := Option.some.inj h
    exact .refl s
  | cons l ls ih =>
    simp only [trace] at h
    cases hnext : s.next E calls l with
    | none => simp [hnext] at h
    | some u =>
      simp only [hnext] at h
      exact (Steps.tail l (.refl s) hnext).trans (ih h)

/-- A run that is possible, to a state that passes a test. -/
theorem Steps.exists_of_trace (E : Engine ω κ ε) (calls : γ → Prog ω κ ε β)
    (s : Sys ω κ ε γ β) (labels : List (Label ω γ)) (test : Sys ω κ ε γ β → Bool)
    (h : (s.trace E calls labels).any test = true) : ∃ t, Steps E calls s t ∧ test t = true := by
  obtain ⟨t, ht, htest⟩ := (Option.any_eq_true _ _).mp h
  exact ⟨t, .of_trace ht, htest⟩

/-- Every state that some order of steps reaches from the empty store. -/
abbrev Reachable (E : Engine ω κ ε) (calls : γ → Prog ω κ ε β) : Sys ω κ ε γ β → Prop :=
  Steps E calls start

end Sys

end Transactions.Savepoints
