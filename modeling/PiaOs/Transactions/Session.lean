import Mathlib.Tactic.Common

/-!
# One session over a database

The operations of a repository run in the session of their caller, who commits or goes back. A
statement that the database refuses takes the session back to what is committed; any other
error leaves in the session what was written before it.
-/

namespace Transactions

variable {τ ε α β : Type}

/-- What is committed, and what the session sees of it after its own statements. -/
structure Session (τ : Type) where
  base : τ
  current : τ
  deriving DecidableEq

namespace Session

def rollback (s : Session τ) : Session τ := ⟨s.base, s.base⟩

@[simp] theorem rollback_base (s : Session τ) : s.rollback.base = s.base := rfl

@[simp] theorem rollback_current (s : Session τ) : s.rollback.current = s.base := rfl

end Session

/-- An operation that may fail. What it wrote before a failure stays written. -/
def Op (τ ε α : Type) : Type := Session τ → Except ε α × Session τ

namespace Op

def ret (a : α) : Op τ ε α := fun s => (.ok a, s)

def andThen (p : Op τ ε α) (f : α → Op τ ε β) : Op τ ε β := fun s =>
  match p s with
  | (.ok a, s') => f a s'
  | (.error e, s') => (.error e, s')

instance monad : Monad (Op τ ε) where
  pure := ret
  bind := andThen

/-- Fails without a statement. -/
def raise (e : ε) : Op τ ε α := fun s => (.error e, s)

def lift (r : Except ε α) : Op τ ε α := fun s => (r, s)

/-- The same operation, with its errors told in another way. -/
def mapError {ε' : Type} (f : ε → ε') (p : Op τ ε α) : Op τ ε' α := fun s =>
  ((p s).1.mapError f, (p s).2)

/-- A query. -/
def read (f : τ → α) : Op τ ε α := fun s => (.ok (f s.current), s)

/-- A query that may fail. -/
def query (f : τ → Except ε α) : Op τ ε α := fun s => (f s.current, s)

/-- A flush. When the database refuses it, the session goes back. -/
def send (w : τ → Except ε τ) : Op τ ε Unit := fun s =>
  match w s.current with
  | .ok t => (.ok (), { s with current := t })
  | .error e => (.error e, s.rollback)

/-- An operation under a unit of work that commits when it ends and goes back when it fails. -/
def unitOfWork (p : Op τ ε α) (db : τ) : Except ε α × τ :=
  match p ⟨db, db⟩ with
  | (.ok a, s) => (.ok a, s.current)
  | (.error e, s) => (.error e, s.rollback.current)

/-- How an operation ends: with a result, or with a failure, and in which session. -/
def Ends (Q : α → Session τ → Prop) (E : ε → Session τ → Prop) (p : Op τ ε α)
    (s : Session τ) : Prop :=
  match p s with
  | (.ok a, s') => Q a s'
  | (.error e, s') => E e s'

section Rules

variable {Q : α → Session τ → Prop} {R : β → Session τ → Prop} {E : ε → Session τ → Prop}
  {p : Op τ ε α} {f : α → Op τ ε β} {s : Session τ}

theorem Ends.ret {a : α} (h : Q a s) : Ends Q E (pure a) s := h

theorem Ends.raise {e : ε} (h : E e s) : Ends Q E (Op.raise e) s := h

theorem Ends.read {g : τ → α} (h : Q (g s.current) s) : Ends Q E (Op.read g) s := h

theorem Ends.lift {r : Except ε α} (hok : ∀ a, r = .ok a → Q a s)
    (herror : ∀ e, r = .error e → E e s) : Ends Q E (Op.lift r) s := by
  cases r with
  | ok a => exact hok a rfl
  | error e => exact herror e rfl

theorem Ends.query {g : τ → Except ε α} (hok : ∀ a, g s.current = .ok a → Q a s)
    (herror : ∀ e, g s.current = .error e → E e s) : Ends Q E (Op.query g) s :=
  Ends.lift hok herror

theorem Ends.bind (h : Ends Q E p s) (hf : ∀ a s', Q a s' → Ends R E (f a) s') :
    Ends R E (p >>= f) s := by
  have hrun : (p >>= f) s = andThen p f s := rfl
  unfold Ends at h ⊢
  rw [hrun, andThen]
  cases hp : p s with
  | mk result s' =>
    rw [hp] at h
    cases result with
    | ok a => exact hf a s' h
    | error e => exact h

theorem Ends.lift_bind {r : Except ε α} (hok : ∀ a, r = .ok a → Ends R E (f a) s)
    (herror : ∀ e, r = .error e → E e s) : Ends R E (Op.lift r >>= f) s :=
  Ends.bind (Q := fun a s' => Ends R E (f a) s') (Ends.lift hok herror) fun _ _ h => h

theorem Ends.query_bind {g : τ → Except ε α} (hok : ∀ a, g s.current = .ok a → Ends R E (f a) s)
    (herror : ∀ e, g s.current = .error e → E e s) : Ends R E (Op.query g >>= f) s :=
  Ends.bind (Q := fun a s' => Ends R E (f a) s') (Ends.query hok herror) fun _ _ h => h

/-- A refused statement ends in the session as it was committed. -/
theorem Ends.send {Q : Unit → Session τ → Prop} {w : τ → Except ε τ}
    (hok : ∀ t, w s.current = .ok t → Q () { s with current := t })
    (herror : ∀ e, w s.current = .error e → E e s.rollback) : Ends Q E (Op.send w) s := by
  unfold Ends Op.send
  cases hw : w s.current with
  | ok t => exact hok t hw
  | error e => exact herror e hw

theorem Ends.mono {Q' : α → Session τ → Prop} {E' : ε → Session τ → Prop} (h : Ends Q E p s)
    (hQ : ∀ a s', Q a s' → Q' a s') (hE : ∀ e s', E e s' → E' e s') : Ends Q' E' p s := by
  unfold Ends at h ⊢
  cases hp : p s with
  | mk result s' =>
    rw [hp] at h
    cases result with
    | ok a => exact hQ a s' h
    | error e => exact hE e s' h

/-- What any operation leaves, however it ends. -/
theorem Ends.run : Ends (fun _ s' => s' = (p s).2) (fun _ s' => s' = (p s).2) p s := by
  unfold Ends
  cases p s with
  | mk result s' =>
    cases result with
    | ok a => rfl
    | error e => rfl

/-- What both ends of an operation say of its session. -/
theorem Ends.session {P : Session τ → Prop} (h : Ends (fun _ s' => P s') (fun _ s' => P s') p s) :
    P (p s).2 := by
  unfold Ends at h
  cases hp : p s with
  | mk result s' =>
    rw [hp] at h
    cases result with
    | ok a => exact h
    | error e => exact h

theorem Ends.mapError {ε' : Type} {g : ε → ε'} {E : ε' → Session τ → Prop}
    (h : Ends Q (fun e => E (g e)) p s) : Ends Q E (p.mapError g) s := by
  unfold Ends Op.mapError at *
  cases hp : p s with
  | mk result s' =>
    rw [hp] at h
    cases result with
    | ok a => exact h
    | error e => exact h

theorem Ends.of_ok (h : Ends Q E p s) {a : α} {s' : Session τ} (hp : p s = (.ok a, s')) :
    Q a s' := by
  unfold Ends at h
  rwa [hp] at h

/-- An operation that cannot fail. -/
theorem Ends.succeeds (h : Ends Q (fun _ _ => False) p s) : ∃ a s', p s = (.ok a, s') ∧ Q a s' := by
  unfold Ends at h
  cases hp : p s with
  | mk result s' =>
    rw [hp] at h
    cases result with
    | ok a => exact ⟨a, s', rfl, h⟩
    | error e => exact h.elim

/-- What an operation leaves when it cannot fail, from what it leaves when it does not. -/
theorem Ends.sure {Q' : α → Session τ → Prop} (h : Ends Q E p s)
    (hp : Ends Q' (fun _ _ => False) p s) : Ends Q (fun _ _ => False) p s := by
  obtain ⟨a, s', hrun, -⟩ := hp.succeeds
  have hQ := h.of_ok hrun
  unfold Ends
  rw [hrun]
  exact hQ

/-- An operation that cannot fail under a condition fails without it. -/
theorem Ends.unless {P : Prop} {Q' : α → Session τ → Prop} (h : Ends Q E p s)
    (hp : P → Ends Q' (fun _ _ => False) p s) : Ends Q (fun e s' => E e s' ∧ ¬P) p s := by
  unfold Ends at h hp ⊢
  cases hrun : p s with
  | mk result s' =>
    rw [hrun] at h hp
    cases result with
    | ok a => exact h
    | error e => exact ⟨h, hp⟩

theorem bind_of_ok {a : α} {s' : Session τ} (hp : p s = (.ok a, s')) : (p >>= f) s = f a s' := by
  have hrun : (p >>= f) s = andThen p f s := rfl
  rw [hrun, andThen, hp]

theorem mapError_of_ok {ε' : Type} {g : ε → ε'} {a : α} {s' : Session τ} (hp : p s = (.ok a, s')) :
    p.mapError g s = (.ok a, s') := by
  rw [mapError, hp]
  rfl

theorem Ends.of_error (h : Ends Q E p s) {e : ε} {s' : Session τ} (hp : p s = (.error e, s')) :
    E e s' := by
  unfold Ends at h
  rwa [hp] at h

/-- Two operations that end with the same results in the same sessions. Their errors may differ. -/
structure Alike (p q : Op τ ε α) : Prop where
  session : ∀ s, (p s).2 = (q s).2
  result : ∀ s a, (p s).1 = .ok a ↔ (q s).1 = .ok a

theorem Alike.refl (p : Op τ ε α) : Alike p p := ⟨fun _ => rfl, fun _ _ => Iff.rfl⟩

theorem Alike.bind {g : α → Op τ ε β} (h : ∀ a, Alike (f a) (g a)) : Alike (p >>= f) (p >>= g) := by
  have hrun (f : α → Op τ ε β) (s : Session τ) : (p >>= f) s = andThen p f s := rfl
  constructor
  · intro s
    rw [hrun, hrun, andThen, andThen]
    cases p s with
    | mk result s' =>
      cases result with
      | ok a => exact (h a).session s'
      | error e => rfl
  · intro s b
    rw [hrun, hrun, andThen, andThen]
    cases p s with
    | mk result s' =>
      cases result with
      | ok a => exact (h a).result s' b
      | error e => exact Iff.rfl

theorem Alike.lift_bind {r r' : Except ε α} (h : ∀ a, r = .ok a ↔ r' = .ok a) :
    Alike (Op.lift r >>= f) (Op.lift r' >>= f) := by
  cases r with
  | ok a =>
    rw [(h a).mp rfl]
    exact .refl _
  | error e =>
    cases r' with
    | ok a => cases (h a).mpr rfl
    | error e' =>
      have herror (e : ε) (s : Session τ) : (Op.lift (.error e) >>= f) s = (.error e, s) := rfl
      refine ⟨fun s => ?_, fun s b => ?_⟩
      · rw [herror, herror]
      · rw [herror, herror]
        exact iff_of_false (fun hb => by cases hb) fun hb => by cases hb

/-- A unit of work that fails leaves the database as it was, when the operation commits nothing. -/
theorem unitOfWork_error {db : τ} (h : Ends (fun _ _ => True) (fun _ s => s.base = db) p ⟨db, db⟩)
    {e : ε} {db' : τ} (hp : unitOfWork p db = (.error e, db')) : db' = db := by
  unfold unitOfWork at hp
  cases hrun : p ⟨db, db⟩ with
  | mk result s' =>
    rw [hrun] at hp
    cases result with
    | ok a => cases hp
    | error e' =>
      obtain ⟨-, rfl⟩ := Prod.mk.inj hp
      exact h.of_error hrun

end Rules

end Op

end Transactions
