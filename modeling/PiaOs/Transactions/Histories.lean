import PiaOs.Transactions.SavepointLaws

/-!
# Answers that have committed

A run that remembers, for each transaction in progress, the answers of its calls, and apart
from them the answers of the transactions that have committed. Going back to a savepoint
forgets the answers given since. What the writes of a transaction account for among its
answers, the store then accounts for among the committed ones.
-/

namespace Transactions.Savepoints

variable {ω κ ε γ β : Type}

/-- The answers of each transaction, now and at each of its savepoints, and those of the
transactions that have committed. -/
structure History (ω κ ε γ β : Type) where
  sys : Sys ω κ ε γ β
  answers : ℕ → List (Event ω γ β)
  marks : ℕ → List (List (Event ω γ β))
  committed : List (Event ω γ β)

/-- The answer that a step of a transaction would give. -/
def Sys.returning (s : Sys ω κ ε γ β) (i : ℕ) : Option (Event ω γ β) :=
  match s.live i with
  | some ⟨o, some ⟨call, store, own, .pure b⟩⟩ => some ⟨call, store, own, b, s.store, o⟩
  | _ => none

namespace History

def start : History ω κ ε γ β := ⟨.start, fun _ => [], fun _ => [], []⟩

def set (h : History ω κ ε γ β) (i : ℕ) (answers : List (Event ω γ β))
    (marks : List (List (Event ω γ β))) : History ω κ ε γ β :=
  { h with
    answers := fun j => if j = i then answers else h.answers j
    marks := fun j => if j = i then marks else h.marks j }

/-- What a label does to the answers. -/
def note (h : History ω κ ε γ β) : Label ω γ → History ω κ ε γ β
  | .begin => h.set h.sys.count [] []
  | .nest i => h.set i (h.answers i) (h.answers i :: h.marks i)
  | .undo i =>
    match h.marks i with
    | [] => h
    | answers :: marks => h.set i answers marks
  | .release i => h.set i (h.answers i) (h.marks i).tail
  | .step i _ =>
    match h.sys.returning i with
    | none => h
    | some e => h.set i (e :: h.answers i) (h.marks i)
  | .commit i => { h with committed := h.answers i ++ h.committed }
  | .write _ _ | .call _ _ | .abort _ => h

variable [DecidableEq κ]

def next (E : Engine ω κ ε) (calls : γ → Prog ω κ ε β) (h : History ω κ ε γ β)
    (label : Label ω γ) : Option (History ω κ ε γ β) :=
  (h.sys.next E calls label).map fun s => { h.note label with sys := s }

/-- Runs a list of labels, when each is possible in turn. -/
def trace (E : Engine ω κ ε) (calls : γ → Prog ω κ ε β) (h : History ω κ ε γ β) :
    List (Label ω γ) → Option (History ω κ ε γ β)
  | [] => some h
  | l :: ls => (h.next E calls l).bind fun h' => trace E calls h' ls

/-- Every history of some order of steps. -/
inductive Recorded (E : Engine ω κ ε) (calls : γ → Prog ω κ ε β) : History ω κ ε γ β → Prop
  | start : Recorded E calls start
  | next {h h' : History ω κ ε γ β} (label : Label ω γ) (hh : Recorded E calls h)
      (hnext : h.next E calls label = some h') : Recorded E calls h'

variable {E : Engine ω κ ε} {calls : γ → Prog ω κ ε β} {h h' : History ω κ ε γ β}

theorem Recorded.of_trace (hh : Recorded E calls h) {labels : List (Label ω γ)}
    (htrace : h.trace E calls labels = some h') : Recorded E calls h' := by
  induction labels generalizing h with
  | nil =>
    obtain rfl := Option.some.inj htrace
    exact hh
  | cons l ls ih =>
    obtain ⟨next, hnext, hrest⟩ := Option.bind_eq_some_iff.mp htrace
    exact ih (.next l hh hnext) hrest

variable (E calls) in
/-- A run that is possible, to a history that passes a test. -/
theorem Recorded.exists_of_trace (labels : List (Label ω γ))
    (test : History ω κ ε γ β → Bool)
    (htrace : (History.start.trace E calls labels).any test = true) :
    ∃ h, Recorded E calls h ∧ test h = true := by
  obtain ⟨h, hsome, htest⟩ := (Option.any_eq_true _ _).mp htrace
  exact ⟨h, .of_trace Recorded.start hsome, htest⟩

theorem next_eq_some {label : Label ω γ} (hnext : h.next E calls label = some h') :
    ∃ s, h.sys.next E calls label = some s ∧ h' = { h.note label with sys := s } := by
  obtain ⟨s, hs, rfl⟩ := Option.map_eq_some_iff.mp hnext
  exact ⟨s, hs, rfl⟩

/-- The system of a history is reached. -/
theorem Recorded.reachable (hh : Recorded E calls h) : Sys.Reachable E calls h.sys := by
  induction hh with
  | start => exact .refl _
  | next label _ hnext ih =>
    obtain ⟨s, hs, rfl⟩ := next_eq_some hnext
    exact .tail label ih hs

end History

/-- What some writes account for among some answers. -/
structure Accounts (spec : Spec ω γ β) (P : List ω → List (Event ω γ β) → Prop) : Prop where
  nil : P [] []
  grow : ∀ log ws answers, P log answers → P (log ++ ws) answers
  join : ∀ log log' answers answers', P log answers → P log' answers' →
    P (log ++ log') (answers' ++ answers)
  answered : ∀ (e : Event ω γ β) answers, spec e.call e.store e.own e.store' e.own' e.answer →
    P e.own.log answers → P e.own'.log (e :: answers)
  points : ∀ e : Event ω γ β, spec e.call e.store e.own e.store' e.own' e.answer →
    e.own'.points = e.own.points

/-- Calls that only add to the log of their session: it holds what was written up to each
answer. -/
theorem Accounts.of_kept {spec : Spec ω γ β}
    (hspec : ∀ e : Event ω γ β, spec e.call e.store e.own e.store' e.own' e.answer →
      e.own.log ⊆ e.own'.log ∧ e.own'.points = e.own.points) :
    Accounts spec fun log answers => ∀ e ∈ answers, e.own'.log ⊆ log where
  nil := by simp
  grow log ws answers h e he := List.Subset.trans (h e he) (List.subset_append_left log ws)
  join log log' answers answers' h h' e he := by
    rcases List.mem_append.mp he with he | he
    · exact List.Subset.trans (h' e he) (List.subset_append_right log log')
    · exact List.Subset.trans (h e he) (List.subset_append_left log log')
  answered e answers hmet h other hother := by
    rcases List.mem_cons.mp hother with rfl | hother
    · exact List.Subset.refl _
    · exact List.Subset.trans (h other hother) (hspec e hmet).1
  points e hmet := (hspec e hmet).2

/-- The writes of a session that count: those before the call that it is in. -/
def Tx.base (tx : Tx ω κ ε γ β) : Own ω :=
  match tx.running with
  | none => tx.own
  | some r => r.own

/-- What is committed accounts for the committed answers, and what a transaction has written
for its own, now and at each of its savepoints. -/
structure History.Accounted (P : List ω → List (Event ω γ β) → Prop) (h : History ω κ ε γ β) :
    Prop where
  store : P h.sys.store h.committed
  live : ∀ i tx, h.sys.live i = some tx →
    P tx.base.log (h.answers i) ∧ List.Forall₂ P tx.base.points (h.marks i)

section Accounted

variable [DecidableEq κ] {E : Engine ω κ ε} {A : ω → Prop} {calls : γ → Prog ω κ ε β}
  {spec : Spec ω γ β} {P : List ω → List (Event ω γ β) → Prop} {h h' : History ω κ ε γ β}
  {s : Sys ω κ ε γ β} {i : ℕ}

omit [DecidableEq κ] in
/-- One transaction changes, and accounts for its answers. -/
theorem History.Accounted.set (hh : h.Accounted P) (tx : Tx ω κ ε γ β)
    {answers : List (Event ω γ β)} {marks : List (List (Event ω γ β))}
    (hstore : s.store = h.sys.store)
    (hlive : ∀ j, s.live j = if j = i then some tx else h.sys.live j)
    (hanswers : P tx.base.log answers) (hmarks : List.Forall₂ P tx.base.points marks) :
    ({ h.set i answers marks with sys := s } : History ω κ ε γ β).Accounted P where
  store := by
    change P s.store h.committed
    rw [hstore]
    exact hh.store
  live := by
    intro j other hj
    change s.live j = some other at hj
    rw [hlive] at hj
    simp only [History.set]
    by_cases hji : j = i
    · rw [if_pos hji] at hj ⊢
      obtain rfl := Option.some.inj hj
      rw [if_pos hji]
      exact ⟨hanswers, hmarks⟩
    · rw [if_neg hji] at hj ⊢
      rw [if_neg hji]
      exact hh.live j other hj

theorem setOwn_eq_some {o : Own ω} {running : Option (Running ω κ ε γ β)} {t : Sys ω κ ε γ β}
    (hs : s.setOwn E i o running = some t) : t = s.setLive i (some ⟨o, running⟩) := by
  unfold Sys.setOwn at hs
  split at hs
  case isTrue => exact (Option.some.inj hs).symm
  case isFalse => cases hs

/-- A transaction gets new writes of its own. -/
theorem History.Accounted.setOwn (hh : h.Accounted P) {o : Own ω}
    {running : Option (Running ω κ ε γ β)} {answers : List (Event ω γ β)}
    {marks : List (List (Event ω γ β))} (hs : h.sys.setOwn E i o running = some s)
    (hanswers : P (Tx.base ⟨o, running⟩).log answers)
    (hmarks : List.Forall₂ P (Tx.base ⟨o, running⟩).points marks) :
    ({ h.set i answers marks with sys := s } : History ω κ ε γ β).Accounted P := by
  obtain rfl := setOwn_eq_some hs
  exact hh.set _ rfl (fun _ => rfl) hanswers hmarks

omit [DecidableEq κ] in
/-- Setting the answers of a transaction to what they are. -/
theorem History.set_self (h : History ω κ ε γ β) (i : ℕ) :
    h.set i (h.answers i) (h.marks i) = h := by
  cases h with
  | mk sys answers marks committed =>
    simp only [History.set, History.mk.injEq, true_and, and_true]
    constructor
    · funext j
      by_cases hji : j = i
      · rw [if_pos hji, hji]
      · rw [if_neg hji]
    · funext j
      by_cases hji : j = i
      · rw [if_pos hji, hji]
      · rw [if_neg hji]

/-- What a caller writes by itself keeps its savepoints and its log. -/
theorem insert_keeps (store : List ω) (o : Own ω) (w : ω) :
    (∃ ws, (E.insert store o w none).2.log = o.log ++ ws) ∧
      (E.insert store o w none).2.points = o.points := by
  rcases Engine.insert_cases (E := E) store o w none with heq | heq | ⟨heq, -, -⟩
  · rw [heq]
    exact ⟨⟨[], by simp⟩, rfl⟩
  · rw [heq]
    exact ⟨⟨[], by simp [Own.fail]⟩, rfl⟩
  · rw [heq]
    exact ⟨⟨[w], rfl⟩, rfl⟩

/-- A step within a call does not change what counts. -/
theorem History.Accounted.within (hh : h.Accounted P) {o o' : Own ω} {r r' : Running ω κ ε γ β}
    (hi : h.sys.live i = some ⟨o, some r⟩) (hs : h.sys.setOwn E i o' (some r') = some s)
    (hown : r'.own = r.own) : ({ h with sys := s } : History ω κ ε γ β).Accounted P := by
  obtain ⟨hanswers, hmarks⟩ := hh.live i _ hi
  have hbase : (Tx.base (⟨o', some r'⟩ : Tx ω κ ε γ β)) = Tx.base (⟨o, some r⟩ : Tx ω κ ε γ β) := hown
  rw [← h.set_self i]
  exact hh.setOwn hs (hbase ▸ hanswers) (hbase ▸ hmarks)

/-- One label keeps the accounts. -/
theorem History.Accounted.next (hP : Accounts spec P)
    (hspec : ∀ e ∈ h'.sys.events, spec e.call e.store e.own e.store' e.own' e.answer)
    (hh : h.Accounted P) {label : Label ω γ} (hnext : h.next E calls label = some h') :
    h'.Accounted P := by
  obtain ⟨s, hs, rfl⟩ := next_eq_some hnext
  cases label with
  | begin =>
    obtain rfl := Option.some.inj hs
    exact hh.set ⟨⟨[], [], false⟩, none⟩ rfl (fun _ => rfl) hP.nil .nil
  | write i w =>
    simp only [Sys.next] at hs
    split at hs
    case h_2 => cases hs
    case h_1 o hi =>
      obtain ⟨hanswers, hmarks⟩ := hh.live i _ hi
      obtain ⟨⟨ws, hlog⟩, hpoints⟩ := insert_keeps (E := E) h.sys.store o w
      split at hs
      case isFalse => cases hs
      case isTrue =>
        simp only [History.note]
        rw [← h.set_self i]
        refine hh.setOwn hs ?_ ?_
        · change P (E.insert h.sys.store o w none).2.log _
          rw [hlog]
          exact hP.grow _ ws _ hanswers
        · change List.Forall₂ P (E.insert h.sys.store o w none).2.points _
          rw [hpoints]
          exact hmarks
  | nest i =>
    simp only [Sys.next] at hs
    split at hs
    case h_2 => cases hs
    case h_1 o hi =>
      obtain ⟨hanswers, hmarks⟩ := hh.live i _ hi
      split at hs
      case isTrue => cases hs
      case isFalse => exact hh.setOwn hs hanswers (.cons hanswers hmarks)
  | undo i =>
    simp only [Sys.next] at hs
    split at hs
    case h_2 => cases hs
    case h_1 o hi =>
      obtain ⟨hanswers, hmarks⟩ := hh.live i _ hi
      change List.Forall₂ P o.points (h.marks i) at hmarks
      simp only [History.note]
      cases hpoints : o.points with
      | nil =>
        rw [hpoints] at hmarks
        have hsame : o.rollback = o := by rw [Own.rollback, hpoints]
        rw [List.forall₂_nil_left_iff.mp hmarks]
        rw [hsame] at hs
        rw [← h.set_self i]
        exact hh.setOwn hs hanswers (by
          change List.Forall₂ P o.points _
          rwa [hpoints])
      | cons log points =>
        rw [hpoints] at hmarks
        obtain ⟨answers, marks, hlog, hrest, heq⟩ := List.forall₂_cons_left_iff.mp hmarks
        have hback : o.rollback = ⟨log, points, false⟩ := by rw [Own.rollback, hpoints]
        rw [heq]
        rw [hback] at hs
        exact hh.setOwn hs hlog hrest
  | release i =>
    simp only [Sys.next] at hs
    split at hs
    case h_2 => cases hs
    case h_1 o hi =>
      obtain ⟨hanswers, hmarks⟩ := hh.live i _ hi
      refine hh.setOwn hs hanswers ?_
      change List.Forall₂ P o.points (h.marks i) at hmarks
      change List.Forall₂ P o.points.tail _
      rw [← List.drop_one, ← List.drop_one]
      exact List.forall₂_drop 1 hmarks
  | call i c =>
    simp only [Sys.next] at hs
    split at hs
    case h_2 => cases hs
    case h_1 o hi =>
      obtain ⟨hanswers, hmarks⟩ := hh.live i _ hi
      simp only [History.note]
      rw [← h.set_self i]
      exact hh.setOwn hs hanswers hmarks
  | step i n =>
    simp only [Sys.next] at hs
    split at hs
    case h_2 => cases hs
    case h_1 o r hi =>
      obtain ⟨hanswers, hmarks⟩ := hh.live i _ hi
      simp only [History.note]
      split at hs
      case h_1 b hprog =>
        obtain ⟨call, store, own, prog⟩ := r
        obtain rfl : prog = .pure b := hprog
        obtain rfl := Option.some.inj hs
        have hreturn : h.sys.returning i = some ⟨call, store, own, b, h.sys.store, o⟩ := by
          rw [Sys.returning, hi]
        rw [hreturn]
        have hmet := hspec ⟨call, store, own, b, h.sys.store, o⟩ List.mem_cons_self
        refine hh.set ⟨o, none⟩ rfl (fun _ => rfl) (hP.answered _ _ hmet hanswers) ?_
        have hpoints : o.points = own.points := hP.points _ hmet
        change List.Forall₂ P o.points _
        rw [hpoints]
        exact hmarks
      case h_2 p hprog =>
        have hreturn : h.sys.returning i = none := by
          rw [Sys.returning, hi]
          split
          case h_1 heq =>
            cases heq
            exact absurd rfl (hprog _)
          case h_2 => rfl
        rw [hreturn]
        exact hh.within hi hs rfl
  | commit i =>
    simp only [Sys.next] at hs
    split at hs
    case h_2 => cases hs
    case h_1 o hi =>
      obtain ⟨hanswers, -⟩ := hh.live i _ hi
      split at hs
      case isTrue => cases hs
      case isFalse =>
        obtain rfl := Option.some.inj hs
        refine ⟨hP.join _ _ _ _ hh.store hanswers, fun j other hj => hh.live j other ?_⟩
        have hji : j ≠ i := by
          rintro rfl
          simp at hj
        simpa [hji] using hj
  | abort i =>
    simp only [Sys.next] at hs
    split at hs
    case h_2 => cases hs
    case h_1 =>
      obtain rfl := Option.some.inj hs
      refine ⟨hh.store, fun j other hj => hh.live j other ?_⟩
      have hji : j ≠ i := by
        rintro rfl
        simp at hj
      simpa [hji] using hj

/-- Every history keeps the accounts. -/
theorem History.Recorded.accounted (hcalls : Meets E A calls spec) (hP : Accounts spec P)
    (hh : Recorded E calls h) : h.Accounted P := by
  induction hh with
  | start => exact ⟨hP.nil, by simp [History.start, Sys.start]⟩
  | next label hh hnext ih =>
    have hsound := sound_of_reachable hcalls (Recorded.next label hh hnext).reachable
    exact ih.next hP hsound.events hnext

end Accounted

/-! ## Answers among the events -/

section Noted

variable [DecidableEq κ] {E : Engine ω κ ε} {calls : γ → Prog ω κ ε β} {h h' : History ω κ ε γ β}
  {s s' : Sys ω κ ε γ β}

/-- What a step adds to the calls that have returned. -/
theorem Sys.events_next {label : Label ω γ} (hs : s.next E calls label = some s') :
    s'.events = s.events ∨ ∃ i n e, label = .step i n ∧ s.returning i = some e ∧
      e.store' = s.store ∧ s'.events = e :: s.events := by
  have hown : ∀ {i o running}, s.setOwn E i o running = some s' → s'.events = s.events := by
    intro i o running hset
    obtain rfl := setOwn_eq_some hset
    rfl
  cases label with
  | step i n =>
    simp only [Sys.next] at hs
    split at hs
    case h_2 => cases hs
    case h_1 o r hi =>
      split at hs
      case h_2 => exact .inl (hown hs)
      case h_1 b hprog =>
        obtain ⟨call, store, own, prog⟩ := r
        obtain rfl : prog = .pure b := hprog
        obtain rfl := Option.some.inj hs
        exact .inr ⟨i, n, _, rfl, by rw [Sys.returning, hi], rfl, rfl⟩
  | begin =>
    obtain rfl := Option.some.inj hs
    exact .inl rfl
  | write i w =>
    simp only [Sys.next] at hs
    split at hs
    case h_2 => cases hs
    case h_1 =>
      split at hs
      case isTrue => exact .inl (hown hs)
      case isFalse => cases hs
  | nest i =>
    simp only [Sys.next] at hs
    split at hs
    case h_2 => cases hs
    case h_1 =>
      split at hs
      case isTrue => cases hs
      case isFalse => exact .inl (hown hs)
  | commit i =>
    simp only [Sys.next] at hs
    split at hs
    case h_2 => cases hs
    case h_1 =>
      split at hs
      case isTrue => cases hs
      case isFalse =>
        obtain rfl := Option.some.inj hs
        exact .inl rfl
  | abort i =>
    simp only [Sys.next] at hs
    split at hs
    case h_2 => cases hs
    case h_1 =>
      obtain rfl := Option.some.inj hs
      exact .inl rfl
  | _ =>
    simp only [Sys.next] at hs
    split at hs
    case h_1 => exact .inl (hown hs)
    case h_2 => cases hs

/-- A step that returns an answer notes it. -/
theorem Sys.events_of_returning {i n : ℕ} {e : Event ω γ β}
    (hs : s.next E calls (.step i n) = some s') (hreturn : s.returning i = some e) :
    s'.events ≠ s.events := by
  unfold Sys.returning at hreturn
  split at hreturn
  case h_2 => cases hreturn
  case h_1 o call store own b hi =>
    simp only [Sys.next, hi] at hs
    obtain rfl := Option.some.inj hs
    intro heq
    have hlength := congrArg List.length heq
    simp at hlength

/-- A call has ended in a store that has since only grown. -/
theorem Sys.Steps.event_store (hs : Sys.Reachable E calls s) :
    ∀ e ∈ s.events, e.store' <+: s.store := by
  induction hs with
  | refl => exact fun e he => (List.not_mem_nil he).elim
  | @tail t u label _ hnext ih =>
    have hgrows : t.store <+: u.store := (Steps.tail label (.refl t) hnext).grows
    obtain heq | ⟨i, n, e', -, -, hstore, heq⟩ := events_next hnext
    · rw [heq]
      exact fun e he => (ih e he).trans hgrows
    · rw [heq]
      intro e he
      obtain rfl | he := List.mem_cons.mp he
      · rwa [hstore]
      · exact (ih e he).trans hgrows

/-- The answers of a history are calls that have returned. -/
structure History.Noted (h : History ω κ ε γ β) : Prop where
  committed : h.committed ⊆ h.sys.events
  answers : ∀ i, h.answers i ⊆ h.sys.events
  marks : ∀ i, ∀ answers ∈ h.marks i, answers ⊆ h.sys.events

omit [DecidableEq κ] in
theorem History.Noted.set (hh : h.Noted) {i : ℕ} {answers : List (Event ω γ β)}
    {marks : List (List (Event ω γ β))} (hgrow : h.sys.events ⊆ s.events)
    (hanswers : answers ⊆ s.events) (hmarks : ∀ m ∈ marks, m ⊆ s.events) :
    ({ h.set i answers marks with sys := s } : History ω κ ε γ β).Noted where
  committed := List.Subset.trans hh.committed hgrow
  answers := by
    intro j
    simp only [History.set]
    by_cases hji : j = i
    · rwa [if_pos hji]
    · rw [if_neg hji]
      exact List.Subset.trans (hh.answers j) hgrow
  marks := by
    intro j
    simp only [History.set]
    by_cases hji : j = i
    · rwa [if_pos hji]
    · rw [if_neg hji]
      exact fun m hm => List.Subset.trans (hh.marks j m hm) hgrow

theorem History.Noted.next (hh : h.Noted) {label : Label ω γ}
    (hnext : h.next E calls label = some h') : h'.Noted := by
  obtain ⟨s, hs, rfl⟩ := next_eq_some hnext
  have hgrow : h.sys.events ⊆ s.events := by
    obtain heq | ⟨i, n, e, -, -, -, heq⟩ := Sys.events_next hs
    · rw [heq]
      exact List.Subset.refl _
    · rw [heq]
      exact List.subset_cons_self _ _
  have hkept : ({ h with sys := s } : History ω κ ε γ β).Noted :=
    ⟨List.Subset.trans hh.committed hgrow, fun i => List.Subset.trans (hh.answers i) hgrow,
      fun i m hm => List.Subset.trans (hh.marks i m hm) hgrow⟩
  cases label with
  | begin => exact hh.set hgrow (List.nil_subset _) (by simp)
  | nest i =>
    refine hh.set hgrow (List.Subset.trans (hh.answers i) hgrow) fun m hm => ?_
    obtain rfl | hm := List.mem_cons.mp hm
    · exact List.Subset.trans (hh.answers i) hgrow
    · exact List.Subset.trans (hh.marks i m hm) hgrow
  | undo i =>
    simp only [History.note]
    cases hmarks : h.marks i with
    | nil => exact hkept
    | cons answers marks =>
      have hold : ∀ m ∈ answers :: marks, m ⊆ s.events :=
        fun m hm => List.Subset.trans (hh.marks i m (hmarks ▸ hm)) hgrow
      exact hh.set hgrow (hold _ List.mem_cons_self) fun m hm => hold m (List.mem_cons_of_mem _ hm)
  | release i =>
    exact hh.set hgrow (List.Subset.trans (hh.answers i) hgrow)
      fun m hm => List.Subset.trans (hh.marks i m (List.mem_of_mem_tail hm)) hgrow
  | step i n =>
    simp only [History.note]
    cases hreturn : h.sys.returning i with
    | none => exact hkept
    | some e =>
      have hmem : e ∈ s.events := by
        obtain heq | ⟨j, m, e', hlabel, hreturn', -, heq⟩ := Sys.events_next hs
        · exact absurd heq (Sys.events_of_returning hs hreturn)
        · cases hlabel
          rw [hreturn] at hreturn'
          obtain rfl := Option.some.inj hreturn'
          rw [heq]
          exact List.mem_cons_self
      refine hh.set hgrow (List.cons_subset.mpr ⟨hmem, List.Subset.trans (hh.answers i) hgrow⟩)
        fun m hm => List.Subset.trans (hh.marks i m hm) hgrow
  | commit i =>
    refine ⟨?_, hkept.answers, hkept.marks⟩
    exact List.append_subset.mpr ⟨List.Subset.trans (hh.answers i) hgrow, List.Subset.trans hh.committed hgrow⟩
  | write _ _ | call _ _ | abort _ => exact hkept

theorem History.Recorded.noted (hh : Recorded E calls h) : h.Noted := by
  induction hh with
  | start => exact ⟨List.nil_subset _, fun _ => List.nil_subset _, by simp [History.start]⟩
  | next label _ hnext ih => exact ih.next hnext

end Noted

end Transactions.Savepoints
