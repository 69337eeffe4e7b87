import PiaOs.Transactions.System

/-!
# Runs of one program among others

A statement finds the committed store as the other transactions have left it. All that a
program relies on is that they keep what its locks protect.
-/

namespace Transactions

variable {σ ω ℓ ε α β : Type}

/-- Where a program is: the committed store it found last, its locks and its writes. -/
structure Place (σ ω ℓ : Type) where
  db : σ
  held : List ℓ
  log : List ω

/-- What the other transactions leave as it is while some locks are held. -/
structure Protection (σ ℓ : Type) where
  keeps : List ℓ → σ → σ → Prop
  refl : ∀ held db, keeps held db db
  trans : ∀ {held a b c}, keeps held a b → keeps held b c → keeps held a c
  anti : ∀ {held held' a b}, held ⊆ held' → keeps held' a b → keeps held a b

/-- What changes the store, and what of it is protected. -/
structure Surroundings (σ ω ℓ : Type) where
  apply : ω → σ → σ
  protection : Protection σ ℓ

variable (M : Surroundings σ ω ℓ)

/-- The store that a statement sees. -/
def Place.view (p : Place σ ω ℓ) : σ := applyAll M.apply p.log p.db

namespace Prog

/-- How a program may run: its answer and where it ends. -/
def Runs : Prog σ ω ℓ ε α → Place σ ω ℓ → Except ε α → Place σ ω ℓ → Prop
  | .pure a, p, r, q => r = .ok a ∧ q = p
  | .raise e, p, r, q => r = .error e ∧ q = p
  | .stmt s k, p, r, q => ∃ env db, M.protection.keeps p.held p.db db ∧
    let view := applyAll M.apply p.log db
    let held := p.held ++ s.locks env view
    match s.exec env view with
    | .error e => r = .error e ∧ q = ⟨db, held, p.log⟩
    | .ok (b, ws) => (k b).Runs ⟨db, held, p.log ++ ws⟩ r q

/-- Every write that the program can make satisfies `W`. -/
def Only (W : ω → Prop) : Prog σ ω ℓ ε α → Prop
  | .pure _ => True
  | .raise _ => True
  | .stmt s k => ∀ env v b ws, s.exec env v = .ok (b, ws) → (∀ w ∈ ws, W w) ∧ (k b).Only W

/-- A statement that answers with its failure. -/
def caught (s : Stmt σ ω ℓ ε β) : Stmt σ ω ℓ ε (Except ε β) where
  locks := s.locks
  exec env db := match s.exec env db with
    | .error e => .ok (Except.error e, [])
    | .ok (b, ws) => .ok (Except.ok b, ws)

/-- Catches the failure of a program, which ends it. -/
def attempt : Prog σ ω ℓ ε α → Prog σ ω ℓ ε (Except ε α)
  | .pure a => .pure (.ok a)
  | .raise e => .pure (.error e)
  | .stmt s k => .stmt (caught s) fun answer : Except ε _ => match answer with
    | .error e => .pure (.error e)
    | .ok b => (k b).attempt

end Prog

/-- From `p` to `q` only locks and writes that satisfy `W` are added, and what is protected stays. -/
structure Grows (W : ω → Prop) (p q : Place σ ω ℓ) : Prop where
  held : p.held ⊆ q.held
  log : ∃ ws, q.log = p.log ++ ws ∧ ∀ w ∈ ws, W w
  keeps : M.protection.keeps p.held p.db q.db

variable {M} {W W' : ω → Prop} {p q r : Place σ ω ℓ}

namespace Grows

theorem refl : Grows M W p p where
  held := List.Subset.refl _
  log := ⟨[], (List.append_nil _).symm, fun _ hw => absurd hw List.not_mem_nil⟩
  keeps := M.protection.refl _ _

theorem trans (h : Grows M W p q) (h' : Grows M W q r) : Grows M W p r where
  held := List.Subset.trans h.held h'.held
  log := by
    obtain ⟨ws, hq, hws⟩ := h.log
    obtain ⟨ws', hr, hws'⟩ := h'.log
    refine ⟨ws ++ ws', by rw [hr, hq, List.append_assoc], fun w hw => ?_⟩
    rcases List.mem_append.mp hw with hw | hw
    · exact hws w hw
    · exact hws' w hw
  keeps := M.protection.trans h.keeps (M.protection.anti h.held h'.keeps)

theorem mono (h : Grows M W p q) (hsub : ∀ w, W w → W' w) : Grows M W' p q where
  held := h.held
  log := by
    obtain ⟨ws, hq, hws⟩ := h.log
    exact ⟨ws, hq, fun w hw => hsub w (hws w hw)⟩
  keeps := h.keeps

/-- Without writes the store alone has changed. -/
theorem log_eq (h : Grows M (fun _ => False) p q) : q.log = p.log := by
  obtain ⟨ws, hq, hws⟩ := h.log
  have hnil : ws = [] := List.eq_nil_iff_forall_not_mem.mpr hws
  rw [hq, hnil, List.append_nil]

end Grows

namespace Prog

variable {x : Prog σ ω ℓ ε α} {f : α → Prog σ ω ℓ ε β}

@[simp] theorem runs_pure {a : α} {o : Except ε α} :
    (Prog.pure a : Prog σ ω ℓ ε α).Runs M p o q ↔ o = .ok a ∧ q = p := Iff.rfl

@[simp] theorem runs_raise {e : ε} {o : Except ε α} :
    (Prog.raise e : Prog σ ω ℓ ε α).Runs M p o q ↔ o = .error e ∧ q = p := Iff.rfl

theorem runs_stmt {s : Stmt σ ω ℓ ε α} {k : α → Prog σ ω ℓ ε β} {o : Except ε β} :
    (Prog.stmt s k).Runs M p o q ↔ ∃ env db, M.protection.keeps p.held p.db db ∧
      ((∃ e, s.exec env (applyAll M.apply p.log db) = .error e ∧ o = .error e ∧
          q = ⟨db, p.held ++ s.locks env (applyAll M.apply p.log db), p.log⟩) ∨
        ∃ a ws, s.exec env (applyAll M.apply p.log db) = .ok (a, ws) ∧
          (k a).Runs M ⟨db, p.held ++ s.locks env (applyAll M.apply p.log db), p.log ++ ws⟩ o q) := by
  rw [Runs]
  refine exists_congr fun env => exists_congr fun db => and_congr_right fun _ => ?_
  cases hexec : s.exec env (applyAll M.apply p.log db) with
  | error e => simp [hexec]
  | ok answer =>
    obtain ⟨b, ws⟩ := answer
    simp [hexec]

theorem runs_step {s : Stmt σ ω ℓ ε α} {o : Except ε α} :
    (Prog.step s).Runs M p o q ↔ ∃ env db, M.protection.keeps p.held p.db db ∧
      ((∃ e, s.exec env (applyAll M.apply p.log db) = .error e ∧ o = .error e ∧
          q = ⟨db, p.held ++ s.locks env (applyAll M.apply p.log db), p.log⟩) ∨
        ∃ a ws, s.exec env (applyAll M.apply p.log db) = .ok (a, ws) ∧ o = .ok a ∧
          q = ⟨db, p.held ++ s.locks env (applyAll M.apply p.log db), p.log ++ ws⟩) := runs_stmt

/-- A program fails where its first part does, or goes on from where that ends. -/
theorem runs_bind {o : Except ε β} : (x >>= f).Runs M p o q ↔
    (∃ e, o = .error e ∧ x.Runs M p (.error e) q) ∨
      ∃ a m, x.Runs M p (.ok a) m ∧ (f a).Runs M m o q := by
  induction x generalizing p with
  | pure a =>
    rw [bind_pure']
    constructor
    · exact fun h => .inr ⟨a, p, ⟨rfl, rfl⟩, h⟩
    · rintro (⟨e, -, he⟩ | ⟨a', m, ⟨ha, rfl⟩, h⟩)
      · cases he.1
      · exact Except.ok.inj ha ▸ h
  | raise e =>
    rw [raise_bind]
    constructor
    · rintro ⟨rfl, rfl⟩
      exact .inl ⟨e, rfl, rfl, rfl⟩
    · rintro (⟨e', rfl, he⟩ | ⟨a, m, ha, -⟩)
      · rw [Except.error.inj he.1]
        exact ⟨rfl, he.2⟩
      · cases ha.1
  | stmt s k ih =>
    rw [stmt_bind]
    simp only [runs_stmt, ih]
    constructor
    · rintro ⟨env, db, hkeeps, ⟨e, hexec, ho, hq⟩ | ⟨b, ws, hexec, ⟨e, ho, h⟩ | ⟨a, m, ha, h⟩⟩⟩
      · exact .inl ⟨e, ho, env, db, hkeeps, .inl ⟨e, hexec, rfl, hq⟩⟩
      · exact .inl ⟨e, ho, env, db, hkeeps, .inr ⟨b, ws, hexec, h⟩⟩
      · exact .inr ⟨a, m, ⟨env, db, hkeeps, .inr ⟨b, ws, hexec, ha⟩⟩, h⟩
    · rintro (⟨e, ho, env, db, hkeeps, ⟨e', hexec, he, hq⟩ | ⟨b, ws, hexec, h⟩⟩ |
        ⟨a, m, ⟨env, db, hkeeps, ⟨e', -, ha, -⟩ | ⟨b, ws, hexec, ha⟩⟩, h⟩)
      · rw [Except.error.inj he] at ho
        exact ⟨env, db, hkeeps, .inl ⟨e', hexec, ho, hq⟩⟩
      · exact ⟨env, db, hkeeps, .inr ⟨b, ws, hexec, .inl ⟨e, ho, h⟩⟩⟩
      · cases ha
      · exact ⟨env, db, hkeeps, .inr ⟨b, ws, hexec, .inr ⟨a, m, ha, h⟩⟩⟩

theorem runs_require {c : Bool} {e : ε} {o : Except ε Unit} :
    (Prog.require c e : Prog σ ω ℓ ε Unit).Runs M p o q ↔
      (c = true ∧ o = .ok () ∨ c = false ∧ o = .error e) ∧ q = p := by
  cases c <;> simp [require]

theorem runs_orRaise {v : Option α} {e : ε} {o : Except ε α} :
    (Prog.orRaise v e : Prog σ ω ℓ ε α).Runs M p o q ↔
      ((∃ a, v = some a ∧ o = .ok a) ∨ v = none ∧ o = .error e) ∧ q = p := by
  cases v <;> simp [orRaise]

theorem runs_bind_ok {b : β} : (x >>= f).Runs M p (.ok b) q ↔
    ∃ a m, x.Runs M p (.ok a) m ∧ (f a).Runs M m (.ok b) q := by
  simp [runs_bind]

theorem runs_require_ok {c : Bool} {e : ε} :
    (Prog.require c e : Prog σ ω ℓ ε Unit).Runs M p (.ok ()) q ↔ c = true ∧ q = p := by
  simp [runs_require]

theorem runs_orRaise_ok {v : Option α} {e : ε} {a : α} :
    (Prog.orRaise v e : Prog σ ω ℓ ε α).Runs M p (.ok a) q ↔ v = some a ∧ q = p := by
  simp [runs_orRaise]

theorem runs_readLocked {locks : Env → σ → List ℓ} {g : Env → σ → α} {o : Except ε α} :
    (Prog.readLocked locks g).Runs M p o q ↔ ∃ env db, M.protection.keeps p.held p.db db ∧
      o = .ok (g env (applyAll M.apply p.log db)) ∧
        q = ⟨db, p.held ++ locks env (applyAll M.apply p.log db), p.log⟩ := by
  simp [readLocked, runs_step]

theorem runs_read {g : Env → σ → α} {o : Except ε α} :
    (Prog.read g).Runs M p o q ↔ ∃ env db, M.protection.keeps p.held p.db db ∧
      o = .ok (g env (applyAll M.apply p.log db)) ∧ q = ⟨db, p.held, p.log⟩ := by
  simp [read, runs_step]

/-- A caught program always answers. -/
theorem runs_attempt {o : Except ε (Except ε α)} :
    x.attempt.Runs M p o q ↔ ∃ answer, o = .ok answer ∧ x.Runs M p answer q := by
  induction x generalizing p with
  | pure a => simp [attempt]
  | raise e => simp [attempt]
  | stmt s k ih =>
    simp only [attempt, runs_stmt]
    constructor
    · rintro ⟨env, db, hkeeps, ⟨e, hexec, -⟩ | ⟨a, ws, hexec, h⟩⟩
      · unfold caught at hexec
        simp only at hexec
        split at hexec <;> cases hexec
      · unfold caught at hexec
        simp only at hexec
        split at hexec
        case h_1 e he =>
          obtain ⟨rfl, rfl⟩ := Prod.mk.inj (Except.ok.inj hexec)
          obtain ⟨rfl, rfl⟩ := h
          refine ⟨.error e, rfl, env, db, hkeeps, .inl ⟨e, he, rfl, ?_⟩⟩
          rw [List.append_nil]
          rfl
        case h_2 b ws' hb =>
          obtain ⟨rfl, rfl⟩ := Prod.mk.inj (Except.ok.inj hexec)
          obtain ⟨answer, ho, h⟩ := (ih b).mp h
          exact ⟨answer, ho, env, db, hkeeps, .inr ⟨b, ws', hb, h⟩⟩
    · rintro ⟨answer, rfl, env, db, hkeeps, ⟨e, hexec, rfl, rfl⟩ | ⟨b, ws, hexec, h⟩⟩
      · refine ⟨env, db, hkeeps, .inr ⟨.error e, [], ?_, rfl, ?_⟩⟩
        · simp only [caught, hexec]
        · rw [List.append_nil]
          rfl
      · refine ⟨env, db, hkeeps, .inr ⟨.ok b, ws, ?_, ?_⟩⟩
        · simp only [caught, hexec]
        · exact (ih b).mpr ⟨answer, rfl, h⟩

/-! ## The writes of a program -/

@[simp] theorem only_pure {a : α} : (Prog.pure a : Prog σ ω ℓ ε α).Only W := trivial

@[simp] theorem only_raise {e : ε} : (Prog.raise e : Prog σ ω ℓ ε α).Only W := trivial

theorem Only.bind (hx : x.Only W) (hf : ∀ a, (f a).Only W) : (x >>= f).Only W := by
  induction x with
  | pure a => exact hf a
  | raise e => trivial
  | stmt s k ih =>
    intro env v b ws hexec
    obtain ⟨hws, hk⟩ := hx env v b ws hexec
    exact ⟨hws, ih b hk⟩

theorem only_step {s : Stmt σ ω ℓ ε α}
    (h : ∀ env v b ws, s.exec env v = .ok (b, ws) → ∀ w ∈ ws, W w) : (Prog.step s).Only W :=
  fun env v b ws hexec => ⟨h env v b ws hexec, trivial⟩

theorem only_read {g : Env → σ → α} : (Prog.read g : Prog σ ω ℓ ε α).Only W := by
  refine only_step fun env v b ws hexec w hw => ?_
  rw [← (Prod.mk.inj (Except.ok.inj hexec)).2] at hw
  cases hw

theorem only_readLocked {locks : Env → σ → List ℓ} {g : Env → σ → α} :
    (Prog.readLocked locks g : Prog σ ω ℓ ε α).Only W := by
  refine only_step fun env v b ws hexec w hw => ?_
  rw [← (Prod.mk.inj (Except.ok.inj hexec)).2] at hw
  cases hw

theorem only_require {c : Bool} {e : ε} : (Prog.require c e : Prog σ ω ℓ ε Unit).Only W := by
  cases c <;> trivial

theorem only_orRaise {v : Option α} {e : ε} : (Prog.orRaise v e : Prog σ ω ℓ ε α).Only W := by
  cases v <;> trivial

theorem only_collect {g : α → Prog σ ω ℓ ε (Option β)} (h : ∀ a, (g a).Only W) (as : List α) :
    (Prog.collect g as).Only W := by
  induction as with
  | nil => trivial
  | cons a as ih => exact (h a).bind fun b => ih.bind fun bs => trivial

theorem Only.runs {o : Except ε α} (hx : x.Only W) (h : x.Runs M p o q) : Grows M W p q := by
  induction x generalizing p with
  | pure a =>
    obtain ⟨-, rfl⟩ := h
    exact .refl
  | raise e =>
    obtain ⟨-, rfl⟩ := h
    exact .refl
  | stmt s k ih =>
    obtain ⟨env, db, hkeeps, ⟨e, -, -, rfl⟩ | ⟨b, ws, hexec, h⟩⟩ := runs_stmt.mp h
    · exact ⟨List.subset_append_left _ _, ⟨[], (List.append_nil _).symm, by simp⟩, hkeeps⟩
    · obtain ⟨hws, hk⟩ := hx env _ b ws hexec
      have hstep : Grows M W p
          ⟨db, p.held ++ s.locks env (applyAll M.apply p.log db), p.log ++ ws⟩ :=
        ⟨List.subset_append_left _ _, ⟨ws, rfl, hws⟩, hkeeps⟩
      exact hstep.trans (ih b hk h)

/-- The first part of a program that ends early has only grown. -/
theorem Only.bind_cases {o : Except ε β} (hx : x.Only W) (h : (x >>= f).Runs M p o q) :
    (∃ e, o = .error e ∧ Grows M W p q) ∨
      ∃ a m, x.Runs M p (.ok a) m ∧ Grows M W p m ∧ (f a).Runs M m o q := by
  rcases runs_bind.mp h with ⟨e, ho, h⟩ | ⟨a, m, ha, h⟩
  · exact .inl ⟨e, ho, hx.runs h⟩
  · exact .inr ⟨a, m, ha, hx.runs ha, h⟩

theorem only_true : x.Only fun _ => True := by
  induction x with
  | pure a => trivial
  | raise e => trivial
  | stmt s k ih => exact fun env v b ws _ => ⟨fun _ _ => trivial, ih b⟩

/-- Whatever a program does, the log grows. -/
theorem Runs.log {o : Except ε α} (h : x.Runs M p o q) : ∃ ws, q.log = p.log ++ ws := by
  obtain ⟨ws, hlog, -⟩ := (only_true.runs h).log
  exact ⟨ws, hlog⟩

end Prog

end Transactions
