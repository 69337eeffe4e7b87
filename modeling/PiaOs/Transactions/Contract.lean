import PiaOs.Transactions.System
import Mathlib.Logic.Relation

/-!
# Rely and guarantee for transactions

A protocol says which locks a write requires, when the write is allowed and what a
transaction restores before it commits. While a transaction runs, the others change
the store only by commits of allowed writes whose locks the transaction does not
hold. A program is therefore judged against the store at its commit, which is fixed
in advance: every row read under a lock still has the value that was read, and an
unlocked read only says how the row was earlier.
-/

namespace Transactions

variable {σ ω ℓ ε α β ρ : Type}

/-- The locks that a write requires, when it is allowed, what holds of every
committed store, and the store that all runs start from. -/
structure Protocol (D : Database σ ω ℓ ε α ρ) where
  needs : σ → ω → List ℓ
  may : σ → ω → Prop
  settled : σ → Prop
  origin : σ
  origin_settled : settled origin

namespace Protocol

variable {D : Database σ ω ℓ ε α ρ} (P : Protocol D)

/-- Each write of the log is allowed where it is made, and its locks satisfy `c`. -/
def Allowed (c : ℓ → Prop) : σ → List ω → Prop
  | _, [] => True
  | db, w :: log => ((∀ l ∈ P.needs db w, c l) ∧ P.may db w) ∧ Allowed c (D.apply w db) log

/-- The writes of a transaction that holds these locks. -/
def Guarded (held : List ℓ) : σ → List ω → Prop := P.Allowed (· ∈ held)

/-- The commit of another transaction while these locks are held. -/
def Interferes (held : List ℓ) (db db' : σ) : Prop :=
  ∃ log, P.Allowed (· ∉ held) db log ∧ P.settled db' ∧ db' = applyAll D.apply log db

/-- What the other transactions can do to the store while `held` is held. -/
def Evolve (held : List ℓ) : σ → σ → Prop := Relation.ReflTransGen (P.Interferes held)

variable {P} {c c' : ℓ → Prop} {held held' : List ℓ} {a b d : σ} {log log' : List ω}

theorem Allowed.mono (hsub : ∀ l, c l → c' l) :
    ∀ {log : List ω} {db : σ}, P.Allowed c db log → P.Allowed c' db log
  | [], _, _ => trivial
  | _ :: _, _, h => ⟨⟨fun l hl => hsub l (h.1.1 l hl), h.1.2⟩, Allowed.mono hsub h.2⟩

theorem Allowed.append :
    ∀ {log : List ω} {db : σ}, P.Allowed c db log →
      P.Allowed c (applyAll D.apply log db) log' → P.Allowed c db (log ++ log')
  | [], _, _, h' => h'
  | _ :: _, _, h, h' => ⟨h.1, Allowed.append h.2 h'⟩

theorem Allowed.of_append :
    ∀ {log : List ω} {db : σ}, P.Allowed c db (log ++ log') →
      P.Allowed c db log ∧ P.Allowed c (applyAll D.apply log db) log'
  | [], _, h => ⟨trivial, h⟩
  | _ :: log, db, h => by
    obtain ⟨hleft, hright⟩ := Allowed.of_append h.2
    exact ⟨⟨h.1, hleft⟩, hright⟩

/-- A write in the middle of a log is allowed where it is made. -/
theorem Allowed.at_write {post : List ω} {w : ω} :
    ∀ {pre : List ω} {db : σ}, P.Allowed c db (pre ++ w :: post) →
      (∀ l ∈ P.needs (applyAll D.apply pre db) w, c l) ∧ P.may (applyAll D.apply pre db) w :=
  fun h => (Allowed.of_append h).2.1

/-- What every allowed write keeps holds after all of them. -/
theorem Allowed.keeps {R : σ → Prop}
    (hstep : ∀ d w, R d → (∀ l ∈ P.needs d w, c l) → P.may d w → R (D.apply w d))
    (h : P.Allowed c a log) (ha : R a) : R (applyAll D.apply log a) := by
  induction log generalizing a with
  | nil => exact ha
  | cons w log ih => exact ih h.2 (hstep a w ha h.1.1 h.1.2)

theorem Evolve.refl : P.Evolve held a a := Relation.ReflTransGen.refl

theorem Evolve.trans (hab : P.Evolve held a b) (hbd : P.Evolve held b d) :
    P.Evolve held a d := Relation.ReflTransGen.trans hab hbd

/-- Holding fewer locks allows more interference. -/
theorem Evolve.anti (hsub : held ⊆ held') (h : P.Evolve held' a b) : P.Evolve held a b := by
  induction h with
  | refl => exact Evolve.refl
  | tail _ hlast ih =>
    obtain ⟨log, hlog, hsettled, rfl⟩ := hlast
    exact ih.tail ⟨log, hlog.mono fun l hl hin => hl (hsub hin), hsettled, rfl⟩

theorem Evolve.free (h : P.Evolve held a b) : P.Evolve [] a b := h.anti (List.nil_subset _)

/-- A relation that every interfering write keeps relates the two ends. -/
theorem Evolve.keeps {R : σ → Prop} (h : P.Evolve held a b) (ha : R a)
    (hstep : ∀ d w, R d → (∀ l ∈ P.needs d w, l ∉ held) → P.may d w → R (D.apply w d)) :
    R b := by
  induction h with
  | refl => exact ha
  | tail _ hlast ih =>
    obtain ⟨log, hlog, _, rfl⟩ := hlast
    exact hlog.keeps hstep ih

/-- Every store on the way is a committed one. -/
theorem Evolve.settled (h : P.Evolve held a b) (ha : P.settled a) : P.settled b := by
  cases h with
  | refl => exact ha
  | tail _ hlast =>
    obtain ⟨_, _, hsettled, _⟩ := hlast
    exact hsettled

theorem Guarded.mono (hsub : held ⊆ held') (h : P.Guarded held a log) :
    P.Guarded held' a log := Allowed.mono (fun _ hl => hsub hl) h

theorem Guarded.append (h : P.Guarded held a log)
    (h' : P.Guarded held (applyAll D.apply log a) log') : P.Guarded held a (log ++ log') :=
  Allowed.append h h'

/-- A commit is interference for everyone who holds other locks. -/
theorem Guarded.evolve (hdisjoint : ∀ l ∈ held, l ∉ held') (h : P.Guarded held a log)
    (hsettled : P.settled (applyAll D.apply log a)) :
    P.Evolve held' a (applyAll D.apply log a) :=
  Relation.ReflTransGen.single ⟨log, Allowed.mono hdisjoint h, hsettled, rfl⟩

end Protocol

/-- Where a program is judged: its instant and the store that it will be committed to. -/
structure Scene {D : Database σ ω ℓ ε α ρ} (P : Protocol D) where
  now : Int
  final : σ

namespace Scene

variable {D : Database σ ω ℓ ε α ρ} {P : Protocol D} (S : Scene P)

/-- The committed store that a statement may find after the last one found `past`,
while the locks `held` are held and the transaction has made the writes of `log`. -/
structure Sees (past : σ) (held : List ℓ) (log : List ω) (db : σ) : Prop where
  origin_past : P.Evolve [] P.origin past
  past_db : P.Evolve [] past db
  db_final : P.Evolve held db S.final
  guarded_db : P.Guarded held db log
  guarded_final : P.Guarded held S.final log

/-- The store at commit with the writes made so far. -/
def view (log : List ω) : σ := applyAll D.apply log S.final

/-- A statement fails with `E`, or makes allowed writes and answers with `Q`. -/
def Settles (Q : β → List ω → Prop) (E : ε → List ω → Prop) (held : List ℓ) (log : List ω) :
    Except ε (β × List ω) → Prop
  | .error e => E e log
  | .ok (b, ws) => P.Guarded held (S.view log) ws ∧ Q b (log ++ ws)

/-- Every way in which the program can end satisfies `Q` or, by failure, `E`, and
all of its writes are allowed by the protocol. -/
def Ends (Q : β → σ → List ℓ → List ω → Prop) (E : ε → List ω → Prop) :
    Prog σ ω ℓ ε β → σ → List ℓ → List ω → Prop
  | .pure b, past, held, log => Q b past held log
  | .raise e, _, _, log => E e log
  | .stmt s k, past, held, log =>
    ∀ fresh db,
      let v := applyAll D.apply log db
      let held' := held ++ s.locks ⟨S.now, fresh⟩ v
      S.Sees past held' log db → D.isFresh fresh v = true →
      S.Settles (fun b log' => Ends Q E (k b) db held' log') E held' log (s.exec ⟨S.now, fresh⟩ v)

/-- The same without a condition on failures, which change nothing. -/
abbrev Yields (Q : β → σ → List ℓ → List ω → Prop) :
    Prog σ ω ℓ ε β → σ → List ℓ → List ω → Prop := S.Ends Q fun _ _ => True

variable {S} {γ : Type} {Q Q' : β → σ → List ℓ → List ω → Prop} {E E' : ε → List ω → Prop}
  {past : σ} {held : List ℓ} {log : List ω}

@[simp] theorem view_nil : S.view [] = S.final := rfl

@[simp] theorem view_append (ws : List ω) :
    S.view (log ++ ws) = applyAll D.apply ws (S.view log) := applyAll_append ..

theorem Settles.mono {Q Q' : β → List ω → Prop} {r : Except ε (β × List ω)}
    (h : S.Settles Q E held log r) (hQ : ∀ b log', Q b log' → Q' b log')
    (hE : ∀ e log', E e log' → E' e log') : S.Settles Q' E' held log r := by
  cases r with
  | error e => exact hE e log h
  | ok r => exact ⟨h.1, hQ _ _ h.2⟩

/-- Weaker conditions on the end. -/
theorem Ends.mono {p : Prog σ ω ℓ ε β} (h : S.Ends Q E p past held log)
    (hQ : ∀ b past' held' log', Q b past' held' log' → Q' b past' held' log')
    (hE : ∀ e log', E e log' → E' e log') : S.Ends Q' E' p past held log := by
  induction p generalizing past held log with
  | pure b => exact hQ _ _ _ _ h
  | raise e => exact hE _ _ h
  | stmt s k ih =>
    intro fresh db v held' hsees hfresh
    exact (h fresh db hsees hfresh).mono (fun b _ hb => ih b hb) hE

/-- A program followed by another ends where the second one ends. -/
theorem Ends.bind {p : Prog σ ω ℓ ε γ} {f : γ → Prog σ ω ℓ ε β}
    (h : S.Ends (fun c past' held' log' => S.Ends Q E (f c) past' held' log') E p past held log) :
    S.Ends Q E (p >>= f) past held log := by
  induction p generalizing past held log with
  | pure c => exact h
  | raise e => exact h
  | stmt s k ih =>
    intro fresh db v held' hsees hfresh
    exact (h fresh db hsees hfresh).mono (fun b _ hb => ih b hb) fun _ _ he => he

theorem Ends.pure {b : β} (h : Q b past held log) : S.Ends Q E (.pure b) past held log := h

/-- A statement on its own. -/
theorem Ends.step {s : Stmt σ ω ℓ ε β}
    (h : ∀ fresh db,
      S.Sees past (held ++ s.locks ⟨S.now, fresh⟩ (applyAll D.apply log db)) log db →
      D.isFresh fresh (applyAll D.apply log db) = true →
      S.Settles
        (fun b => Q b db (held ++ s.locks ⟨S.now, fresh⟩ (applyAll D.apply log db))) E
        (held ++ s.locks ⟨S.now, fresh⟩ (applyAll D.apply log db)) log
        (s.exec ⟨S.now, fresh⟩ (applyAll D.apply log db))) :
    S.Ends Q E (Prog.step s) past held log := h

/-- A plain read tells what some earlier store held. -/
theorem Ends.read {f : Env → σ → β}
    (h : ∀ fresh db, S.Sees past held log db → D.isFresh fresh (applyAll D.apply log db) = true →
      Q (f ⟨S.now, fresh⟩ (applyAll D.apply log db)) db held log) :
    S.Ends Q E (Prog.read f) past held log := by
  refine Ends.step fun fresh db hsees hfresh => ?_
  simp only [List.append_nil] at hsees
  simpa [Settles, Protocol.Guarded, Protocol.Allowed] using h fresh db hsees hfresh

/-- A locking read finds rows that keep their value until the commit. -/
theorem Ends.readLocked {locks : Env → σ → List ℓ} {f : Env → σ → β}
    (h : ∀ fresh db,
      S.Sees past (held ++ locks ⟨S.now, fresh⟩ (applyAll D.apply log db)) log db →
      D.isFresh fresh (applyAll D.apply log db) = true →
      Q (f ⟨S.now, fresh⟩ (applyAll D.apply log db)) db
        (held ++ locks ⟨S.now, fresh⟩ (applyAll D.apply log db)) log) :
    S.Ends Q E (Prog.readLocked locks f) past held log := by
  refine Ends.step fun fresh db hsees hfresh => ?_
  simpa [Settles, Protocol.Guarded, Protocol.Allowed] using h fresh db hsees hfresh

theorem Ends.require {Q : Unit → σ → List ℓ → List ω → Prop} {c : Bool} {e : ε}
    (herr : c = false → E e log)
    (h : c = true → Q () past held log) : S.Ends Q E (Prog.require c e) past held log := by
  cases c with
  | false => exact herr rfl
  | true => exact h rfl

theorem Ends.orRaise {o : Option β} {e : ε} (herr : o = none → E e log)
    (h : ∀ b, o = some b → Q b past held log) :
    S.Ends Q E (Prog.orRaise o e) past held log := by
  cases o with
  | none => exact herr rfl
  | some b => exact h b rfl

/-- A loop keeps a relation between the elements it has handled, the last store it
found, its locks and its writes. -/
theorem Ends.each {f : γ → Prog σ ω ℓ ε Unit} {Q : Unit → σ → List ℓ → List ω → Prop}
    (I : List γ → σ → List ℓ → List ω → Prop) {items : List γ} (hstart : I [] past held log)
    (hstep : ∀ handled c rest past' held' log', items = handled ++ c :: rest →
      I handled past' held' log' →
      S.Ends (fun _ past'' held'' log'' => I (handled ++ [c]) past'' held'' log'') E (f c)
        past' held' log')
    (hend : ∀ past' held' log', I items past' held' log' → Q () past' held' log') :
    S.Ends Q E (Prog.each f items) past held log := by
  suffices haux : ∀ (rest handled : List γ) (past : σ) (held : List ℓ) (log : List ω),
      items = handled ++ rest → I handled past held log →
      S.Ends Q E (Prog.each f rest) past held log from
    haux items [] past held log rfl hstart
  intro rest
  induction rest with
  | nil =>
    intro handled past held log hitems hI
    refine hend _ _ _ ?_
    rw [hitems, List.append_nil]
    exact hI
  | cons c rest ih =>
    intro handled past held log hitems hI
    refine Ends.bind ((hstep handled c rest past held log hitems hI).mono ?_ fun _ _ h => h)
    intro _ past' held' log' hI'
    exact ih (handled ++ [c]) past' held' log' (by simp [hitems]) hI'

/-- The same rule for a loop that also keeps answers. -/
theorem Ends.collect {f : γ → Prog σ ω ℓ ε (Option β)}
    {Q : List β → σ → List ℓ → List ω → Prop}
    (I : List γ → List β → σ → List ℓ → List ω → Prop) {items : List γ}
    (hstart : I [] [] past held log)
    (hstep : ∀ handled c rest kept past' held' log', items = handled ++ c :: rest →
      I handled kept past' held' log' →
      S.Ends (fun b past'' held'' log'' =>
        I (handled ++ [c]) (kept ++ b.toList) past'' held'' log'') E (f c) past' held' log')
    (hend : ∀ kept past' held' log', I items kept past' held' log' → Q kept past' held' log') :
    S.Ends Q E (Prog.collect f items) past held log := by
  suffices haux : ∀ (rest handled : List γ) (kept : List β) (past : σ) (held : List ℓ)
      (log : List ω) (Q : List β → σ → List ℓ → List ω → Prop), items = handled ++ rest →
      I handled kept past held log →
      (∀ more past' held' log', I items (kept ++ more) past' held' log' →
        Q more past' held' log') →
      S.Ends Q E (Prog.collect f rest) past held log from
    haux items [] [] past held log Q rfl hstart fun more => by simpa using hend more
  intro rest
  induction rest with
  | nil =>
    intro handled kept past held log Q hitems hI hQ
    refine hQ [] _ _ _ ?_
    rw [hitems, List.append_nil, List.append_nil]
    exact hI
  | cons c rest ih =>
    intro handled kept past held log Q hitems hI hQ
    refine Ends.bind ((hstep handled c rest kept past held log hitems hI).mono ?_ fun _ _ h => h)
    intro b past' held' log' hI'
    refine Ends.bind
      (ih (handled ++ [c]) (kept ++ b.toList) past' held' log' _ (by simp [hitems]) hI' ?_)
    intro more past'' held'' log'' hmore
    exact hQ _ _ _ _ (by simpa using hmore)

end Scene

end Transactions
