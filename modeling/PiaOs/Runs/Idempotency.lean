import PiaOs.Runs.Traces

/-!
# Command idempotency

The receipt of a triple stands for the one commit that ran its effect. Whoever calls with
the same triple after that commit gets the same outcome or a conflict, and whoever calls
before any such commit finds the key free, however many claims were rolled back.
-/

namespace PiaOs

open Support Transactions Repository CommandReceiptService

/-- The call answers with the outcome of the receipt and writes nothing. -/
structure Meets (r : CommandReceipt) (sha256 : String) (a : Answer) (log : List Write) : Prop where
  same : r.requestSha256 = some sha256
  nothing : log = []
  outcome : ∃ o, a.recibo = some o ∧ o.receiptId = r.id ∧ o.outcomeRef = r.outcomeRef ∧
    o.replayed = true

section Alone

variable {α β : Type} {triple : CommandTriple} {proposed : Uuid} {sha256 : String}
  {efeito : Action α} {now : Instant} {ids : Nat → Nat} {n : Nat} {db : Db}

theorem map_bind {γ : Type} (p : Action α) (f : α → β) (g : β → Action γ) :
    f <$> p >>= g = p >>= fun a => g (f a) := Prog.bind_assoc' p _ g

/-- Only the answer is changed after the last statement. -/
theorem run_map (p : Action α) (f : α → β) :
    (p >>= fun a => Prog.pure (f a)).run Db.apply now ids n db =
      ((p.run Db.apply now ids n db).1.map f, (p.run Db.apply now ids n db).2) := by
  induction p generalizing n db with
  | pure a => rfl
  | raise e => rfl
  | stmt s k ih =>
    simp only [Prog.stmt_bind, Prog.run]
    split
    · rfl
    · simp [ih]

theorem requireTriple_eq (h : triple.Admitted) : requireTriple triple = .pure () := by
  simp only [requireTriple, h.principal_named, h.principal_length, h.key_named, h.key_length,
    Prog.require]
  rfl

/-- With a free key the effect runs over the store with the receipt. -/
theorem run_executarUmaVez_free (htriple : triple.Admitted)
    (hfree : db.receipts.lookup triple = none) :
    let r : CommandReceipt := ⟨⟨ids n⟩, triple, proposed, some sha256⟩
    let effect := efeito.run Db.apply now ids (n + 2) (Db.apply (.insertReceipt r) db)
    (executarUmaVez triple proposed sha256 efeito).run Db.apply now ids n db =
      (effect.1.map fun a => (⟨r.id, triple.technicalPrincipalRef, triple.operation,
        triple.commandKey, proposed, false⟩, some a), .insertReceipt r :: effect.2) := by
  intro r effect
  simp only [executarUmaVez, requireTriple_eq htriple, claimCommand, newUuid, Prog.readLocked,
    Prog.step, Prog.bind_pure', Prog.stmt_bind, Prog.run, List.foldl_nil, List.nil_append, hfree]
  simp only [Prog.monad_pure, Prog.bind_pure', beq_self_eq_true, Bool.true_or, Prog.require,
    if_true, map_bind, run_map]
  rfl

/-- With the receipt of the same request the call answers with its outcome and writes
nothing. -/
theorem run_executarUmaVez_replay {r : CommandReceipt} (htriple : triple.Admitted)
    (hr : db.receipts.lookup triple = some r) (hid : r.id ≠ ⟨ids n⟩)
    (hsha : r.requestSha256 = some sha256) :
    (executarUmaVez triple proposed sha256 efeito).run Db.apply now ids n db =
      (.ok (⟨r.id, r.triple.technicalPrincipalRef, triple.operation, r.triple.commandKey,
        r.outcomeRef, true⟩, none), []) := by
  have hne : (r.id == (⟨ids n⟩ : Uuid)) = false := by simpa using hid
  simp only [executarUmaVez, requireTriple_eq htriple, claimCommand, newUuid, Prog.readLocked,
    Prog.step, Prog.bind_pure', Prog.stmt_bind, Prog.run, List.foldl_nil, List.nil_append, hr]
  simp only [Prog.monad_pure, Prog.bind_pure', hne, hsha, beq_self_eq_true, Bool.or_true,
    Prog.require, if_true]
  rfl

/-- With the receipt of another request the call fails and writes nothing. -/
theorem run_executarUmaVez_conflict {r : CommandReceipt} (htriple : triple.Admitted)
    (hr : db.receipts.lookup triple = some r) (hid : r.id ≠ ⟨ids n⟩)
    (hsha : r.requestSha256 ≠ some sha256) :
    (executarUmaVez triple proposed sha256 efeito).run Db.apply now ids n db =
      (.error (conflict triple.operation), []) := by
  have hne : (r.id == (⟨ids n⟩ : Uuid)) = false := by simpa using hid
  have hsha' : (r.requestSha256 == some sha256) = false := by simpa using hsha
  simp only [executarUmaVez, requireTriple_eq htriple, claimCommand, newUuid, Prog.readLocked,
    Prog.step, Prog.bind_pure', Prog.stmt_bind, Prog.run, List.foldl_nil, List.nil_append, hr]
  simp only [Prog.monad_pure, Prog.bind_pure', hne, hsha', Bool.or_false, Prog.require]
  rfl

end Alone

/-- The triple whose receipt a write stores. -/
def claimedTriple : Write → Option CommandTriple
  | .insertReceipt r => some r.triple
  | _ => none

theorem closesOnce_claim :
    ClosesOnce claimedTriple fun db triple => ∃ r, db.receipts.lookup triple = some r where
  later := by
    rintro V W triple hlater ⟨r, hr⟩
    obtain ⟨r', hr', -⟩ := hlater.receipts.stays hr
    exact ⟨r', hr'⟩
  closes := by
    intro V w triple hmay htriple
    cases w with
    | insertReceipt r =>
      obtain rfl := Option.some.inj htriple
      exact ⟨by simp [hmay.1], r, by simp [Db.apply]⟩
    | _ => simp [claimedTriple] at htriple

/-- A receipt that some writes leave was there before, or they stored it. -/
theorem receipt_origin {V : Db} {ws : List Write} {triple : CommandTriple} {r : CommandReceipt}
    (hr : (applyAll Db.apply ws V).receipts.lookup triple = some r) :
    V.receipts.lookup triple = some r ∨ triple ∈ ws.filterMap claimedTriple := by
  induction ws generalizing V with
  | nil => exact .inl hr
  | cons w ws ih =>
    rw [List.filterMap_cons]
    rcases ih hr with hr | hmem
    · cases w with
      | insertReceipt row =>
        obtain ⟨rfl, -⟩ | ⟨-, hr⟩ := Table.insert_cases hr
        · exact .inr List.mem_cons_self
        · exact .inl hr
      | _ => exact .inl hr
    · right
      split
      · exact hmem
      · exact List.mem_cons_of_mem _ hmem

/-- The triples whose effect is part of a commit. -/
def claimedTriples (s : Orchestration) : List CommandTriple :=
  s.history.flatMap fun c => c.log.filterMap claimedTriple

section Runs

variable [Runtime]

/-- What a run of the idempotent operations keeps to. -/
structure Idempotent (s : Orchestration) : Prop where
  once : (claimedTriples s).Nodup
  claimed : ∀ c ∈ s.history, ∀ triple sha256, c.request.command = some (triple, sha256) →
    c.request.direct = true → c.log ≠ [] → triple ∈ c.log.filterMap claimedTriple
  later : ∀ newer c earlier, s.history = newer ++ c :: earlier → ∀ r, .insertReceipt r ∈ c.log →
    ∀ c' ∈ newer, ∀ sha256, c'.request.command = some (r.triple, sha256) →
      c'.request.direct = true → Meets r sha256 c'.answer c'.log
  live : ∀ c ∈ s.history, ∀ r, .insertReceipt r ∈ c.log → ∀ i tx, s.live i = some tx →
    ∀ sha256, tx.request.command = some (r.triple, sha256) → tx.request.direct = true →
      (∀ a, tx.prog = .pure a → Meets r sha256 a tx.log) ∧
      ∀ e, tx.prog = .raise e → r.requestSha256 ≠ some sha256 ∧ e = conflict r.triple.operation
  taken : ∀ c ∈ s.history, ∀ r, .insertReceipt r ∈ c.log → ∀ {α : Type} (efeito : Action α)
    (proposed : Uuid) (sha256 : String) (now : Instant) (ids : Nat → Nat) (n : Nat),
    s.store.isFresh (ids n) = true →
      (executarUmaVez r.triple proposed sha256 efeito).run Db.apply now ids n s.store =
        (if r.requestSha256 = some sha256 then .ok (⟨r.id, r.triple.technicalPrincipalRef,
          r.triple.operation, r.triple.commandKey, r.outcomeRef, true⟩, none)
        else .error (conflict r.triple.operation), [])
  free : ∀ triple : CommandTriple, triple.Admitted → triple ∉ claimedTriples s →
    ∀ {α : Type} (efeito : Action α) (proposed : Uuid) (sha256 : String) (now : Instant)
      (ids : Nat → Nat) (n : Nat),
      let r : CommandReceipt := ⟨⟨ids n⟩, triple, proposed, some sha256⟩
      let effect := efeito.run Db.apply now ids (n + 2) (Db.apply (.insertReceipt r) s.store)
      (executarUmaVez triple proposed sha256 efeito).run Db.apply now ids n s.store =
        (effect.1.map fun a => (⟨r.id, triple.technicalPrincipalRef, triple.operation,
          triple.commandKey, proposed, false⟩, some a), .insertReceipt r :: effect.2)

variable {began V : Db} {now : Instant} {request : Request} {a : Answer} {ws : List Write}
  {triple : CommandTriple} {sha256 : String}

/-- An operation that nothing stops before its claim ends with its claim. -/
theorem Ended.claimed_of_direct (h : Ended began V now request a ws)
    (hcommand : request.command = some (triple, sha256)) (hdirect : request.direct = true) :
    Claimed began V now request a ws := by
  cases h with
  | claimed _ _ _ hclaimed => exact hclaimed
  | cleared => simp [Request.direct] at hdirect
  | blocked => simp [Request.direct] at hdirect
  | _ => simp [Request.command] at hcommand

/-- A call that finds the receipt of its triple meets it. -/
theorem Claimed.meets {r : CommandReceipt} (h : Claimed began V now request a ws)
    (hcommand : request.command = some (triple, sha256)) (hr : V.receipts.lookup triple = some r) :
    Meets r sha256 a ws := by
  cases h with
  | replay triple' sha256' r' hcommand' hr' hsha hrecibo =>
    obtain ⟨rfl, rfl⟩ := Prod.mk.inj (Option.some.inj (hcommand.symm.trans hcommand'))
    obtain rfl := Option.some.inj (hr.symm.trans hr')
    exact ⟨hsha, rfl, _, hrecibo, rfl, rfl, rfl⟩
  | ran triple' sha256' r' ws hcommand' hnone =>
    obtain ⟨rfl, rfl⟩ := Prod.mk.inj (Option.some.inj (hcommand.symm.trans hcommand'))
    simp [hr] at hnone

/-- The receipt of a commit stays as it was stored. -/
theorem receipt_stays {newer earlier : List Commit} {c : Commit} {db : Db} {r : CommandReceipt}
    (h : Commits protocol contract (newer ++ c :: earlier) db) (hr : .insertReceipt r ∈ c.log) :
    db.receipts.lookup r.triple = some r := by
  obtain ⟨-, hsound, hlater⟩ := h.split
  obtain ⟨held, hguarded⟩ := hsound.guarded
  obtain ⟨front, post, hlog⟩ := List.append_of_mem hr
  rw [hlog] at hguarded
  obtain ⟨-, -, hrest⟩ := Protocol.Allowed.of_append hguarded
  have hstored : (Db.apply (.insertReceipt r) (applyAll Db.apply front c.before)).receipts.lookup
      r.triple = some r := by
    simp [Db.apply]
  have hpost : Later [] (Db.apply (.insertReceipt r) (applyAll Db.apply front c.before))
      (applyAll Db.apply c.log c.before) := by
    rw [hlog, applyAll_append, applyAll_cons]
    exact .of_guarded hrest
  obtain ⟨r', hr', rfl⟩ := (hpost.trans (.of_evolve hlater)).receipts.stays hstored
  exact hr'

/-- Without a commit that claimed it a key is free. -/
theorem lookup_of_unclaimed {s : Orchestration} (h : Reachable s)
    (hfree : triple ∉ claimedTriples s) : s.store.receipts.lookup triple = none := by
  have hcommits := commits_of_reachable h
  rw [claimedTriples] at hfree
  generalize s.history = history at hcommits hfree
  generalize s.store = store at hcommits
  induction hcommits with
  | nil => simp [Db.empty]
  | cons c hearlier hsound ih =>
    rw [List.flatMap_cons, List.mem_append, not_or] at hfree
    refine Option.eq_none_iff_forall_ne_some.mpr fun r hr => ?_
    rcases receipt_origin hr with hr | hmem
    · simp [ih hfree.2] at hr
    · exact hfree.1 hmem

/-- A transaction in progress that has run all of its statements ends as the receipt of
its triple says. -/
theorem live_meets {s : Orchestration} (h : Reachable s) {i : Nat}
    {tx : Tx Db Write Lock Failure Answer Request} (hi : s.live i = some tx) {r : CommandReceipt}
    (hcommand : tx.request.command = some (r.triple, sha256)) (hdirect : tx.request.direct = true)
    (hr : s.store.receipts.lookup r.triple = some r) :
    (∀ a, tx.prog = .pure a → Meets r sha256 a tx.log) ∧
      ∀ e, tx.prog = .raise e → r.requestSha256 ≠ some sha256 ∧ e = conflict r.triple.operation := by
  obtain ⟨past, -, -, hkeeps⟩ := ((sound_of_reachable obeys h).running i tx hi).keeps
  have hend := hkeeps s.store .refl
  constructor
  · intro a hprog
    rw [Keeps, hprog] at hend
    exact (Ended.claimed_of_direct hend hcommand hdirect).meets hcommand hr
  · intro e hprog
    rw [Keeps, hprog] at hend
    exact hend r.triple sha256 hcommand hdirect r hr

/-- Every run of the operations is idempotent. -/
theorem idempotent {s : Orchestration} (h : Reachable s) : Idempotent s := by
  have hcommits := commits_of_reachable h
  have hstored : ∀ c ∈ s.history, ∀ r, .insertReceipt r ∈ c.log →
      s.store.receipts.lookup r.triple = some r := by
    intro c hc r hr
    obtain ⟨newer, earlier, hsplit⟩ := List.append_of_mem hc
    exact receipt_stays (hsplit ▸ hcommits) hr
  refine {
    once := (closed_once_run h closesOnce_claim).1
    claimed := ?_
    later := ?_
    live := fun c hc r hr i tx hi sha256 hcommand hdirect =>
      live_meets h hi hcommand hdirect (hstored c hc r hr)
    taken := ?_
    free := fun triple hadmitted hfree α efeito proposed sha256 now ids n =>
      run_executarUmaVez_free hadmitted (lookup_of_unclaimed h hfree) }
  · intro c hc triple sha256 hcommand hdirect hlog
    have hclaimed := Ended.claimed_of_direct (hcommits.sound hc).commits hcommand hdirect
    generalize c.log = ws at hclaimed hlog ⊢
    cases hclaimed with
    | replay => exact absurd rfl hlog
    | ran triple' sha256' r ws hcommand' _ htriple =>
      obtain ⟨rfl, -⟩ := Prod.mk.inj (Option.some.inj (hcommand.symm.trans hcommand'))
      simp [claimedTriple, htriple]
  · intro newer c earlier hsplit r hr c' hc' sha256 hcommand hdirect
    obtain ⟨newer', between, rfl⟩ := List.append_of_mem hc'
    rw [hsplit, List.append_assoc, List.cons_append] at hcommits
    obtain ⟨hbetween, hsound, -⟩ := hcommits.split
    exact (Ended.claimed_of_direct hsound.commits hcommand hdirect).meets hcommand
      (receipt_stays hbetween hr)
  · intro c hc r hr α efeito proposed sha256 now ids n hfresh
    have hlookup := hstored c hc r hr
    have hadmitted := ((wellformed_store h).receipts_key _ r hlookup).2
    have hid := (unused_of_isFresh hfresh).receipts _ r hlookup
    split
    case isTrue hsha => exact run_executarUmaVez_replay hadmitted hlookup hid hsha
    case isFalse hsha => exact run_executarUmaVez_conflict hadmitted hlookup hid hsha

end Runs

/-- The same grant is asked for twice. -/
def grantedTwice : List (Label Request) :=
  granted ++ alone 2 (.grantDelegationOnce (Sample.caller "b") ⟨1⟩ ⟨5⟩ Sample.deadline) 2 60 3

theorem idempotent_grantedTwice : ∃ s : Orchestration, Reachable s ∧
    s.history.map (fun c => c.log.filterMap claimedTriple) =
      [[], [⟨"p", .grantDelegation, "b"⟩], [⟨"p", .createSchedule, "a"⟩]] ∧ Idempotent s := by
  obtain ⟨s, hreach, htest⟩ := exists_reachable grantedTwice (fun s => decide
    (s.history.map (fun c => c.log.filterMap claimedTriple) =
      [[], [⟨"p", .grantDelegation, "b"⟩], [⟨"p", .createSchedule, "a"⟩]])) (by decide +kernel)
  exact ⟨s, hreach, of_decide_eq_true htest, idempotent hreach⟩

end PiaOs
