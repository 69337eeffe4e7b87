import Mathlib.Tactic.Common

/-!
# Processes that share a service

A process is a program that calls out and goes on with the answer. Any number of
processes run next to each other over one shared state; each call is answered at
once, and a process may stop at any point.
-/

namespace Support

variable {σ κ χ α β : Type} {ans : κ → Type}

/-- A program: it ends, or it calls out and goes on with the answer. -/
inductive Proc (κ : Type) (ans : κ → Type) (α : Type) : Type
  | done (a : α)
  | call (c : κ) (k : ans c → Proc κ ans α)

/-- A call with its answer. -/
structure Answered (κ : Type) (ans : κ → Type) where
  call : κ
  answer : ans call

namespace Proc

/-- Goes on with the result of a program. -/
def bind : Proc κ ans α → (α → Proc κ ans β) → Proc κ ans β
  | .done a, f => f a
  | .call c k, f => .call c fun a => (k a).bind f

/-- A program of a single call. -/
def ask (c : κ) : Proc κ ans (ans c) := .call c .done

/-- Goes on with the result of a program that did not fail. -/
def attempt {ε : Type} (p : Proc κ ans (Except ε α)) (f : α → Proc κ ans (Except ε β)) :
    Proc κ ans (Except ε β) :=
  p.bind fun
    | .error e => .done (.error e)
    | .ok a => f a

/-- The result of a program when each call is answered by a fixed function. -/
def eval (answer : (c : κ) → ans c) : Proc κ ans α → α
  | .done a => a
  | .call c k => (k (answer c)).eval answer

@[simp] theorem eval_done {answer : (c : κ) → ans c} {a : α} :
    (Proc.done a : Proc κ ans α).eval answer = a := rfl

@[simp] theorem eval_call {answer : (c : κ) → ans c} {c : κ} {k : ans c → Proc κ ans α} :
    (Proc.call c k).eval answer = (k (answer c)).eval answer := rfl

@[simp] theorem eval_bind {answer : (c : κ) → ans c} {p : Proc κ ans α} {f : α → Proc κ ans β} :
    (p.bind f).eval answer = (f (p.eval answer)).eval answer := by
  induction p with
  | done a => rfl
  | call c k ih => exact ih _

theorem eval_attempt {ε : Type} {answer : (c : κ) → ans c} {p : Proc κ ans (Except ε α)}
    {f : α → Proc κ ans (Except ε β)} :
    (p.attempt f).eval answer = (p.eval answer).bind fun a => (f a).eval answer := by
  rw [attempt, eval_bind]
  cases p.eval answer with
  | error e => rfl
  | ok a => rfl

/-- The calls and answers that lead from one program to what is left of it. -/
inductive Path : Proc κ ans α → List (Answered κ ans) → Proc κ ans α → Prop
  | nil (p : Proc κ ans α) : Path p [] p
  | cons {c : κ} {k : ans c → Proc κ ans α} {a : ans c} {log : List (Answered κ ans)}
      {p : Proc κ ans α} (h : Path (k a) log p) : Path (.call c k) (⟨c, a⟩ :: log) p

theorem Path.snoc {p : Proc κ ans α} {log : List (Answered κ ans)} {c : κ}
    {k : ans c → Proc κ ans α} (h : Path p log (.call c k)) (a : ans c) :
    Path p (log ++ [⟨c, a⟩]) (k a) := by
  generalize hq : Proc.call c k = q at h
  induction h with
  | nil p =>
    subst hq
    exact .cons (.nil _)
  | cons _ ih => exact .cons (ih hq)

/-- The path of a program followed by another is a path of each. -/
theorem Path.of_bind {p : Proc κ ans α} {f : α → Proc κ ans β} {log : List (Answered κ ans)} {b : β}
    (h : Path (p.bind f) log (.done b)) :
    ∃ front post a, log = front ++ post ∧ Path p front (.done a) ∧ Path (f a) post (.done b) := by
  induction p generalizing log with
  | done a => exact ⟨[], log, a, rfl, .nil _, h⟩
  | call c k ih =>
    cases h with
    | cons hrest =>
      obtain ⟨front, post, a, hlog, hfirst, hsecond⟩ := ih _ hrest
      exact ⟨_ :: front, post, a, congrArg _ hlog, .cons hfirst, hsecond⟩

/-- A program that went on with a result had one. -/
theorem Path.of_attempt {ε : Type} {p : Proc κ ans (Except ε α)}
    {f : α → Proc κ ans (Except ε β)} {log : List (Answered κ ans)} {b : β}
    (h : Path (p.attempt f) log (.done (.ok b))) :
    ∃ front post a, log = front ++ post ∧ Path p front (.done (.ok a)) ∧
      Path (f a) post (.done (.ok b)) := by
  obtain ⟨front, post, result, hlog, hfirst, hsecond⟩ := h.of_bind
  cases result with
  | error e => cases hsecond
  | ok a => exact ⟨front, post, a, hlog, hfirst, hsecond⟩

/-- Nothing is left of a program that has ended. -/
theorem Path.of_done {a b : α} {log : List (Answered κ ans)}
    (h : Path (Proc.done a : Proc κ ans α) log (.done b)) : log = [] ∧ a = b := by
  cases h
  exact ⟨rfl, rfl⟩

/-- After the given past, every call satisfies `Q` and every result `R`, each with
what came before it. -/
inductive Obeys (Q : List (Answered κ ans) → κ → Prop) (R : List (Answered κ ans) → α → Prop) :
    List (Answered κ ans) → Proc κ ans α → Prop
  | done {past : List (Answered κ ans)} {a : α} (h : R past a) : Obeys Q R past (.done a)
  | call {past : List (Answered κ ans)} {c : κ} {k : ans c → Proc κ ans α} (h : Q past c)
      (hk : ∀ a, Obeys Q R (past ++ [⟨c, a⟩]) (k a)) : Obeys Q R past (.call c k)

variable {Q : List (Answered κ ans) → κ → Prop} {R : List (Answered κ ans) → α → Prop}
  {past log : List (Answered κ ans)} {p q : Proc κ ans α}

/-- What is left of a program obeys the same rules. -/
theorem Obeys.path (h : p.Obeys Q R past) (hpath : Path p log q) :
    q.Obeys Q R (past ++ log) := by
  induction hpath generalizing past with
  | nil p => rwa [List.append_nil]
  | cons _ ih =>
    cases h with
    | call _ hk =>
      have hrest := ih (hk _)
      rwa [List.append_assoc, List.singleton_append] at hrest

/-- Every call on a path satisfies the rule, with the calls before it. -/
theorem Obeys.calls (h : p.Obeys Q R past) (hpath : Path p log q)
    {front post : List (Answered κ ans)} {e : Answered κ ans} (hlog : log = front ++ e :: post) :
    Q (past ++ front) e.call := by
  induction hpath generalizing past front with
  | nil p => exact absurd hlog.symm (by simp)
  | cons _ ih =>
    cases h with
    | call hc hk =>
      cases front with
      | nil =>
        obtain ⟨rfl, -⟩ := List.cons.inj hlog
        rwa [List.append_nil]
      | cons e' front =>
        obtain ⟨rfl, hrest⟩ := List.cons.inj hlog
        have hfound := ih (hk _) hrest
        rwa [List.append_assoc, List.singleton_append] at hfound

/-- A program that has ended obeys the rule of its result. -/
theorem Obeys.result {a : α} (h : (Proc.done a : Proc κ ans α).Obeys Q R past) : R past a := by
  cases h with
  | done h => exact h

/-- A program followed by others obeys the rules when each part does. -/
theorem Obeys.bind {S : List (Answered κ ans) → β → Prop} {f : α → Proc κ ans β}
    (h : p.Obeys Q R past) (hf : ∀ past a, R past a → (f a).Obeys Q S past) :
    (p.bind f).Obeys Q S past := by
  induction h with
  | done h => exact hf _ _ h
  | call h _ ih => exact .call h ih

/-- A program that may fail obeys the rules when each part does. -/
theorem Obeys.attempt {ε : Type} {p : Proc κ ans (Except ε α)}
    {R : List (Answered κ ans) → Except ε α → Prop}
    {S : List (Answered κ ans) → Except ε β → Prop} {f : α → Proc κ ans (Except ε β)}
    (h : p.Obeys Q R past) (herror : ∀ past e, R past (.error e) → S past (.error e))
    (hok : ∀ past a, R past (.ok a) → (f a).Obeys Q S past) : (p.attempt f).Obeys Q S past := by
  refine h.bind fun past result hresult => ?_
  cases result with
  | error e => exact .done (herror past e hresult)
  | ok a => exact hok past a hresult

/-- Whatever a program calls, what came before it stays. -/
theorem obeys_prefix (p : Proc κ ans α) :
    p.Obeys (fun past' _ => past <+: past') (fun past' _ => past <+: past') past := by
  suffices h : ∀ later, past <+: later →
      p.Obeys (fun past' _ => past <+: past') (fun past' _ => past <+: past') later from
    h past (List.prefix_refl past)
  induction p with
  | done a => exact fun later hlater => .done hlater
  | call c k ih =>
    intro later hlater
    exact .call hlater fun a => ih a _ (hlater.trans (List.prefix_append _ _))

/-- Rules may be weakened. -/
theorem Obeys.mono {Q' : List (Answered κ ans) → κ → Prop} {R' : List (Answered κ ans) → α → Prop}
    (h : p.Obeys Q R past) (hQ : ∀ past c, Q past c → Q' past c)
    (hR : ∀ past a, R past a → R' past a) : p.Obeys Q' R' past := by
  induction h with
  | done h => exact .done (hR _ _ h)
  | call hc _ ih => exact .call (hQ _ _ hc) ih

/-- What holds of every call holds of the log in which they are recorded. -/
theorem Obeys.recorded {P : κ → Prop} (h : p.Obeys (fun _ c => P c) R past)
    (hpast : ∀ e ∈ past, P e.call) :
    p.Obeys (fun _ c => P c) (fun later a => R later a ∧ ∀ e ∈ later, P e.call) past := by
  induction h with
  | done h => exact .done ⟨h, hpast⟩
  | call hc _ ih =>
    refine .call hc fun a => ih a fun e he => ?_
    rcases List.mem_append.mp he with hbefore | hlast
    · exact hpast e hbefore
    · obtain rfl := List.mem_singleton.mp hlast
      exact hc

/-- Rules that hold one by one hold together. -/
theorem Obeys.and {Q' : List (Answered κ ans) → κ → Prop} {R' : List (Answered κ ans) → α → Prop}
    (h : p.Obeys Q R past) (h' : p.Obeys Q' R' past) :
    p.Obeys (fun past c => Q past c ∧ Q' past c) (fun past a => R past a ∧ R' past a) past := by
  induction h with
  | done h =>
    cases h' with
    | done h' => exact .done ⟨h, h'⟩
  | call hc _ ih =>
    cases h' with
    | call hc' hk' => exact .call ⟨hc, hc'⟩ fun a => ih a (hk' a)

end Proc

/-- What the processes share: how a call is answered, given what the outside
chooses, and what happens when a process stops. -/
structure Service (σ κ : Type) (ans : κ → Type) (χ : Type) where
  answer : σ → Nat → (c : κ) → χ → Option (ans c × σ)
  stop : σ → Nat → σ

/-- A call of a process, with what the outside chose. -/
structure Event (κ : Type) (ans : κ → Type) (χ : Type) extends Answered κ ans where
  process : Nat
  choice : χ

/-- The shared state, the programs that were started, what is left of each and,
in order, the calls that were answered. -/
structure World (σ κ : Type) (ans : κ → Type) (α χ : Type) where
  state : σ
  programs : List (Proc κ ans α)
  live : Nat → Option (Proc κ ans α)
  events : List (Event κ ans χ)

/-- What can happen next. -/
inductive Move (κ : Type) (ans : κ → Type) (α χ : Type)
  | start (p : Proc κ ans α)
  | answer (i : Nat) (choice : χ)
  | stop (i : Nat)

/-- A position in a list with one more entry is that entry or an earlier one. -/
theorem split_snoc {γ : Type} {l front post : List γ} {x y : γ}
    (h : l ++ [x] = front ++ y :: post) :
    (front = l ∧ y = x ∧ post = []) ∨ ∃ post', post = post' ++ [x] ∧ l = front ++ y :: post' := by
  rcases List.eq_nil_or_concat post with rfl | ⟨post', z, rfl⟩
  · obtain ⟨hfront, hlast⟩ := List.append_inj' h rfl
    exact .inl ⟨hfront.symm, (List.singleton_inj.mp hlast).symm, rfl⟩
  · rw [List.concat_eq_append, ← List.cons_append, ← List.append_assoc] at h
    obtain ⟨hfront, hlast⟩ := List.append_inj' h rfl
    obtain rfl := List.singleton_inj.mp hlast
    exact .inr ⟨post', List.concat_eq_append .., hfront⟩

/-- Of two positions in a list one comes first, or they are the same. -/
theorem split_compare {γ : Type} {front front' post post' : List γ} {x y : γ}
    (h : front ++ x :: post = front' ++ y :: post') :
    (front = front' ∧ x = y ∧ post = post') ∨ (∃ middle, post = middle ++ y :: post') ∨
      ∃ middle, post' = middle ++ x :: post := by
  rcases List.append_eq_append_iff.mp h with ⟨rest, rfl, hrest⟩ | ⟨rest, rfl, hrest⟩
  · cases rest with
    | nil =>
      obtain ⟨rfl, rfl⟩ := List.cons.inj hrest
      exact .inl ⟨(List.append_nil _).symm, rfl, rfl⟩
    | cons z rest => exact .inr (.inl ⟨rest, (List.cons.inj hrest).2⟩)
  · cases rest with
    | nil =>
      obtain ⟨rfl, rfl⟩ := List.cons.inj hrest
      exact .inl ⟨List.append_nil _, rfl, rfl⟩
    | cons z rest => exact .inr (.inr ⟨rest, (List.cons.inj hrest).2⟩)

/-- The calls of one process among all calls. -/
def callsOf (events : List (Event κ ans χ)) (i : Nat) : List (Answered κ ans) :=
  (events.filter (·.process == i)).map Event.toAnswered

section CallsOf

variable {events : List (Event κ ans χ)} {i : Nat}

@[simp] theorem callsOf_nil : callsOf ([] : List (Event κ ans χ)) i = [] := rfl

@[simp] theorem callsOf_append (events events' : List (Event κ ans χ)) :
    callsOf (events ++ events') i = callsOf events i ++ callsOf events' i := by
  simp [callsOf]

theorem callsOf_cons_self {e : Event κ ans χ} (h : e.process = i) :
    callsOf (e :: events) i = e.toAnswered :: callsOf events i := by
  simp [callsOf, h]

theorem callsOf_cons_ne {e : Event κ ans χ} (h : e.process ≠ i) :
    callsOf (e :: events) i = callsOf events i := by
  simp [callsOf, h]

/-- A position among the calls of a process is one among all calls. -/
theorem callsOf_split {front post : List (Answered κ ans)} {c : Answered κ ans}
    (h : callsOf events i = front ++ c :: post) :
    ∃ before e after, events = before ++ e :: after ∧ e.process = i ∧ e.toAnswered = c ∧
      callsOf before i = front ∧ callsOf after i = post := by
  induction events generalizing front with
  | nil => simp at h
  | cons e events ih =>
    by_cases he : e.process = i
    · rw [callsOf_cons_self he] at h
      cases front with
      | nil =>
        obtain ⟨rfl, rfl⟩ := List.cons.inj h
        exact ⟨[], e, events, rfl, he, rfl, rfl, rfl⟩
      | cons c' front =>
        obtain ⟨rfl, hrest⟩ := List.cons.inj h
        obtain ⟨before, e', after, rfl, he', hc, rfl, hafter⟩ := ih hrest
        exact ⟨e :: before, e', after, rfl, he', hc, callsOf_cons_self he, hafter⟩
    · rw [callsOf_cons_ne he] at h
      obtain ⟨before, e', after, rfl, he', hc, rfl, hafter⟩ := ih h
      exact ⟨e :: before, e', after, rfl, he', hc, callsOf_cons_ne he, hafter⟩

end CallsOf

namespace World

def setLive (w : World σ κ ans α χ) (i : Nat) (p : Option (Proc κ ans α)) :
    Nat → Option (Proc κ ans α) := fun j => if j = i then p else w.live j

/-- One move, when it is possible. -/
def next (S : Service σ κ ans χ) (w : World σ κ ans α χ) :
    Move κ ans α χ → Option (World σ κ ans α χ)
  | .start p =>
    some { w with programs := w.programs ++ [p], live := w.setLive w.programs.length (some p) }
  | .answer i choice =>
    match w.live i with
    | some (.call c k) =>
      match S.answer w.state i c choice with
      | some (a, state) =>
        some { w with
          state := state
          live := w.setLive i (some (k a))
          events := w.events ++ [⟨⟨c, a⟩, i, choice⟩] }
      | none => none
    | _ => none
  | .stop i =>
    match w.live i with
    | some _ => some { w with state := S.stop w.state i, live := w.setLive i none }
    | none => none

/-- Makes a list of moves, when each is possible in turn. -/
def run (S : Service σ κ ans χ) (w : World σ κ ans α χ) :
    List (Move κ ans α χ) → Option (World σ κ ans α χ)
  | [] => some w
  | m :: ms => (w.next S m).bind fun w' => w'.run S ms

/-- The world before any process. -/
def initial (state : σ) : World σ κ ans α χ := ⟨state, [], fun _ => none, []⟩

/-- The worlds that the allowed programs can reach. -/
inductive Reachable (S : Service σ κ ans χ) (allowed : Proc κ ans α → Prop) (state : σ) :
    World σ κ ans α χ → Prop
  | initial : Reachable S allowed state (initial state)
  | move {w w' : World σ κ ans α χ} (m : Move κ ans α χ) (h : Reachable S allowed state w)
      (hallowed : ∀ p, m = .start p → allowed p) (hnext : w.next S m = some w') :
      Reachable S allowed state w'

variable {S : Service σ κ ans χ} {w w' : World σ κ ans α χ} {m : Move κ ans α χ} {i : Nat}

/-- What a move does. -/
theorem next_cases (h : w.next S m = some w') :
    (∃ p, m = .start p ∧ w' = { w with
      programs := w.programs ++ [p], live := w.setLive w.programs.length (some p) }) ∨
    (∃ i choice c k a state, m = .answer i choice ∧ w.live i = some (.call c k) ∧
      S.answer w.state i c choice = some (a, state) ∧ w' = { w with
        state := state
        live := w.setLive i (some (k a))
        events := w.events ++ [⟨⟨c, a⟩, i, choice⟩] }) ∨
    ∃ i p, m = .stop i ∧ w.live i = some p ∧
      w' = { w with state := S.stop w.state i, live := w.setLive i none } := by
  cases m with
  | start p => exact .inl ⟨p, rfl, (Option.some.inj h).symm⟩
  | answer i choice =>
    simp only [next] at h
    split at h
    · rename_i c k hlive
      split at h
      · rename_i a state hanswer
        exact .inr (.inl ⟨i, choice, c, k, a, state, rfl, hlive, hanswer, (Option.some.inj h).symm⟩)
      · cases h
    · cases h
  | stop i =>
    simp only [next] at h
    split at h
    · rename_i p hlive
      exact .inr (.inr ⟨i, p, rfl, hlive, (Option.some.inj h).symm⟩)
    · cases h

/-- Each process is on a path of its program. -/
structure Tracked (w : World σ κ ans α χ) : Prop where
  paths : ∀ i p, w.programs[i]? = some p → ∃ q, Proc.Path p (callsOf w.events i) q ∧
    ∀ q', w.live i = some q' → q' = q
  started : ∀ i q, w.live i = some q → i < w.programs.length
  answered : ∀ e ∈ w.events, e.process < w.programs.length

/-- A process that has not started has called nothing. -/
theorem Tracked.callsOf_nil (h : w.Tracked) : callsOf w.events w.programs.length = [] := by
  rw [callsOf, List.map_eq_nil_iff, List.filter_eq_nil_iff]
  intro e he heq
  exact absurd (h.answered e he) (by simp_all)

private theorem Tracked.start (h : w.Tracked) (p : Proc κ ans α) : Tracked { w with
    programs := w.programs ++ [p], live := w.setLive w.programs.length (some p) } := by
  constructor
  case paths =>
    intro i p' hp'
    simp only [setLive]
    by_cases hi : i = w.programs.length
    · subst hi
      simp only [List.getElem?_concat_length, Option.some.injEq] at hp'
      subst hp'
      refine ⟨p, ?_, fun q' hq' => ?_⟩
      · rw [h.callsOf_nil]
        exact .nil p
      · simpa using hq'.symm
    · have hlt : i < w.programs.length := by
        have hbound := (List.getElem?_eq_some_iff.mp hp').1
        simp only [List.length_append, List.length_singleton] at hbound
        omega
      rw [List.getElem?_append_left hlt] at hp'
      simpa [hi] using h.paths i p' hp'
  case started =>
    intro i q hq
    simp only [setLive] at hq
    rw [List.length_append, List.length_singleton]
    split at hq
    · omega
    · exact Nat.lt_succ_of_lt (h.started i q hq)
  case answered =>
    intro e he
    rw [List.length_append]
    exact Nat.lt_add_right _ (h.answered e he)

private theorem Tracked.answer (h : w.Tracked) {c : κ} {k : ans c → Proc κ ans α}
    (hlive : w.live i = some (.call c k)) (a : ans c) (choice : χ) (state : σ) : Tracked { w with
      state := state, live := w.setLive i (some (k a)), events := w.events ++ [⟨⟨c, a⟩, i, choice⟩] } := by
  constructor
  case paths =>
    intro j p hp
    obtain ⟨q, hpath, hq⟩ := h.paths j p hp
    simp only [setLive, callsOf_append]
    by_cases hj : j = i
    · subst hj
      rw [← hq _ hlive] at hpath
      refine ⟨k a, ?_, fun q' hq' => by simpa using hq'.symm⟩
      rw [callsOf_cons_self rfl]
      exact hpath.snoc a
    · rw [callsOf_cons_ne (Ne.symm hj), Support.callsOf_nil, List.append_nil]
      exact ⟨q, hpath, by simpa [hj] using hq⟩
  case started =>
    intro j q hq
    simp only [setLive] at hq
    split at hq
    case isTrue hj => exact hj ▸ h.started i _ hlive
    case isFalse => exact h.started j q hq
  case answered =>
    intro e he
    rcases List.mem_append.mp he with he | he
    · exact h.answered e he
    · rw [List.mem_singleton.mp he]
      exact h.started i _ hlive

private theorem Tracked.stop (h : w.Tracked) (state : σ) :
    Tracked { w with state := state, live := w.setLive i none } := by
  constructor
  case paths =>
    intro j p hp
    obtain ⟨q, hpath, hq⟩ := h.paths j p hp
    refine ⟨q, hpath, fun q' hq' => ?_⟩
    simp only [setLive] at hq'
    split at hq'
    · cases hq'
    · exact hq q' hq'
  case started =>
    intro j q hq
    simp only [setLive] at hq
    split at hq
    · cases hq
    · exact h.started j q hq
  case answered => exact h.answered

/-- Every move keeps each process on its path. -/
theorem Tracked.next (h : w.Tracked) (hnext : w.next S m = some w') : w'.Tracked := by
  rcases next_cases hnext with ⟨p, -, rfl⟩ | ⟨i, choice, c, k, a, state, -, hlive, -, rfl⟩ |
    ⟨i, p, -, -, rfl⟩
  · exact h.start p
  · exact h.answer hlive a choice state
  · exact h.stop _

/-- A process that has stopped does not come back. -/
theorem stopped (hnext : w.next S m = some w') (hi : i < w.programs.length)
    (hlive : w.live i = none) : w'.live i = none := by
  rcases next_cases hnext with ⟨p, -, rfl⟩ | ⟨j, choice, c, k, a, state, -, hj, -, rfl⟩ |
    ⟨j, p, -, hj, rfl⟩
  · simpa [setLive, Nat.ne_of_lt hi] using hlive
  · have hne : i ≠ j := fun heq => by simp [← heq, hlive] at hj
    simpa [setLive, hne] using hlive
  · have hne : i ≠ j := fun heq => by simp [← heq, hlive] at hj
    simpa [setLive, hne] using hlive

section Reachable

variable {allowed : Proc κ ans α → Prop} {state : σ}

theorem Reachable.tracked (h : Reachable S allowed state w) : w.Tracked := by
  induction h with
  | initial => exact ⟨by simp [World.initial], by simp [World.initial], by simp [World.initial]⟩
  | move m _ _ hnext ih => exact ih.next hnext

theorem Reachable.started (h : Reachable S allowed state w) :
    ∀ p ∈ w.programs, allowed p := by
  induction h with
  | initial => simp [World.initial]
  | move m _ hallowed hnext ih =>
    rcases next_cases hnext with ⟨p, hm, rfl⟩ | ⟨i, choice, c, k, a, state, -, -, -, rfl⟩ |
      ⟨i, p, -, -, rfl⟩
    · intro q hq
      rcases List.mem_append.mp hq with hq | hq
      · exact ih q hq
      · exact List.mem_singleton.mp hq ▸ hallowed p hm
    · exact ih
    · exact ih

/-- A run of allowed programs stays among the reachable worlds. -/
theorem Reachable.run {ms : List (Move κ ans α χ)} (h : Reachable S allowed state w)
    (hallowed : ∀ p, .start p ∈ ms → allowed p) (hrun : w.run S ms = some w') :
    Reachable S allowed state w' := by
  induction ms generalizing w with
  | nil =>
    obtain rfl := Option.some.inj hrun
    exact h
  | cons m ms ih =>
    obtain ⟨w₁, hnext, hrest⟩ := Option.bind_eq_some_iff.mp hrun
    have hfirst := h.move m (fun p hp => hallowed p (by simp [hp])) hnext
    exact ih hfirst (fun p hp => hallowed p (List.mem_cons_of_mem _ hp)) hrest

/-- Each call was answered in a world that was reached before, in which its process was
about to make it. -/
theorem Reachable.answered_live (h : Reachable S allowed state w)
    {front post : List (Event κ ans χ)} {e : Event κ ans χ} (hevents : w.events = front ++ e :: post) :
    ∃ w₁ k state₁, Reachable S allowed state w₁ ∧ w₁.events = front ∧
      w₁.live e.process = some (.call e.call k) ∧
      S.answer w₁.state e.process e.call e.choice = some (e.answer, state₁) := by
  induction h generalizing post with
  | initial => simp [World.initial] at hevents
  | move m hreach _ hnext ih =>
    rcases next_cases hnext with ⟨p, -, rfl⟩ | ⟨i, choice, c, k, a, state₁, -, hlive, hanswer, rfl⟩ |
      ⟨i, p, -, -, rfl⟩
    · exact ih hevents
    · rcases split_snoc hevents with ⟨rfl, rfl, -⟩ | ⟨post', -, hbefore⟩
      · exact ⟨_, k, state₁, hreach, rfl, hlive, hanswer⟩
      · exact ih hbefore
    · exact ih hevents

/-- Each call was answered in a world that was reached before. -/
theorem Reachable.answered (h : Reachable S allowed state w) {front post : List (Event κ ans χ)}
    {e : Event κ ans χ} (hevents : w.events = front ++ e :: post) :
    ∃ w₁ state₁, Reachable S allowed state w₁ ∧ w₁.events = front ∧
      S.answer w₁.state e.process e.call e.choice = some (e.answer, state₁) := by
  obtain ⟨w₁, k, state₁, hreach, hfront, -, hanswer⟩ := h.answered_live hevents
  exact ⟨w₁, state₁, hreach, hfront, hanswer⟩

/-- What one program obeys holds of each of its calls, with its own calls before it. -/
theorem Reachable.calls (h : Reachable S allowed state w) {p : Proc κ ans α}
    {Q : List (Answered κ ans) → κ → Prop} {R : List (Answered κ ans) → α → Prop}
    {front post : List (Event κ ans χ)} {e : Event κ ans χ}
    (hevents : w.events = front ++ e :: post) (hp : w.programs[e.process]? = some p)
    (hobeys : p.Obeys Q R []) : Q (callsOf front e.process) e.call := by
  obtain ⟨q, hpath, -⟩ := h.tracked.paths e.process p hp
  have hlog : callsOf w.events e.process =
      callsOf front e.process ++ e.toAnswered :: callsOf post e.process := by
    rw [hevents, callsOf_append, callsOf_cons_self rfl]
  simpa using hobeys.calls hpath hlog

end Reachable

end World

end Support
