import PiaOs.Transactions.Savepoints

/-!
# What the sessions of a store can count on

The keys of the store stay unique whatever the interleaving, because a transaction keeps the
keys that it has written until it ends. So a call is judged against any growth of the store
that leaves its own keys alone, and what is proved of it then holds of each call of a run.
-/

namespace Transactions.Savepoints

variable {ω κ ε γ β : Type} (E : Engine ω κ ε) (A : ω → Prop)

/-- What a session sees is in order: its keys are unique, and each write is one that the
programs make and the database takes. -/
structure InOrder (ws : List ω) : Prop where
  unique : (E.taken ws).Nodup
  allowed : ∀ w ∈ ws, A w
  accepted : ∀ w ∈ ws, E.refuses w = none

/-- The store of a session has grown, and what it sees is still in order. -/
structure Others (o : Own ω) (S S' : List ω) : Prop where
  grows : S <+: S'
  view : InOrder E A (S' ++ o.log)

variable {E A} {o : Own ω} {S S' S'' : List ω}

theorem InOrder.nil : InOrder E A [] := ⟨List.nodup_nil, by simp, by simp⟩

theorem InOrder.left {ws ws' : List ω} (h : InOrder E A (ws ++ ws')) : InOrder E A ws where
  unique := by
    have hunique := h.unique
    rw [E.taken_append] at hunique
    exact hunique.of_append_left
  allowed := fun w hw => h.allowed w (List.mem_append_left _ hw)
  accepted := fun w hw => h.accepted w (List.mem_append_left _ hw)

theorem InOrder.add {ws : List ω} {w : ω} (h : InOrder E A ws)
    (hkeys : ∀ key ∈ E.keys w, key ∉ E.taken ws) (hw : A w) (hrefuses : E.refuses w = none) :
    InOrder E A (ws ++ [w]) where
  unique := by
    rw [E.taken_append]
    refine List.Nodup.append h.unique (by simpa [Engine.taken] using E.keys_nodup w) ?_
    intro key hin hkey
    exact hkeys key (by simpa [Engine.taken] using hkey) hin
  allowed := by
    intro w' hw'
    rcases List.mem_append.mp hw' with hin | hin
    · exact h.allowed w' hin
    · exact List.mem_singleton.mp hin ▸ hw
  accepted := by
    intro w' hw'
    rcases List.mem_append.mp hw' with hin | hin
    · exact h.accepted w' hin
    · exact List.mem_singleton.mp hin ▸ hrefuses

/-- No other write that a session sees has a key of this one. -/
theorem InOrder.other_keys {l₁ l₂ : List ω} {w w' : ω} (h : InOrder E A (l₁ ++ w :: l₂))
    (hw' : w' ∈ l₁ ++ l₂) {key : κ} (hkey : key ∈ E.keys w) : key ∉ E.keys w' := by
  have hperm : (E.taken (l₁ ++ w :: l₂)).Perm (E.keys w ++ E.taken (l₁ ++ l₂)) :=
    (List.perm_middle (a := w)).flatMap_right E.keys
  have hnodup := hperm.nodup_iff.mp h.unique
  intro hkey'
  exact (List.nodup_append'.mp hnodup).2.2 hkey (List.mem_flatMap.mpr ⟨w', hw', hkey'⟩)

/-- Two writes that a session sees with one key are one write. -/
theorem InOrder.eq_of_key {ws : List ω} {w w' : ω} (h : InOrder E A ws) (hw : w ∈ ws)
    (hw' : w' ∈ ws) {key : κ} (hkey : key ∈ E.keys w) (hkey' : key ∈ E.keys w') : w' = w := by
  obtain ⟨l₁, l₂, rfl⟩ := List.append_of_mem hw
  rcases List.mem_append.mp hw' with hin | hin
  · exact absurd hkey' (h.other_keys (List.mem_append_left l₂ hin) hkey)
  · rcases List.mem_cons.mp hin with heq | hin
    · exact heq
    · exact absurd hkey' (h.other_keys (List.mem_append_right l₁ hin) hkey)

/-- What is read under a key is read from its only write. -/
theorem InOrder.flatMap_of_key {β : Type*} {g : ω → List β} {ws : List ω} {w : ω}
    (h : InOrder E A ws) (hw : w ∈ ws) {key : κ} (hkey : key ∈ E.keys w)
    (hg : ∀ w', g w' ≠ [] → key ∈ E.keys w') : ws.flatMap g = g w := by
  obtain ⟨l₁, l₂, rfl⟩ := List.append_of_mem hw
  have hother : ∀ l, l ⊆ l₁ ++ l₂ → l.flatMap g = [] := by
    refine fun l hl => List.flatMap_eq_nil_iff.mpr fun w' hw' => ?_
    by_contra hne
    exact h.other_keys (hl hw') hkey (hg w' hne)
  rw [List.flatMap_append, List.flatMap_cons, hother l₁ (List.subset_append_left l₁ l₂),
    hother l₂ (List.subset_append_right l₁ l₂), List.nil_append, List.append_nil]

theorem Others.refl (h : InOrder E A (S ++ o.log)) : Others E A o S S :=
  ⟨List.prefix_refl S, h⟩

theorem Others.trans (h : Others E A o S S') (h' : Others E A o S' S'') : Others E A o S S'' :=
  ⟨h.grows.trans h'.grows, h'.view⟩

/-- What a session keeps: a view in order, and savepoints within its writes. -/
structure Own.Valid (E : Engine ω κ ε) (A : ω → Prop) (store : List ω) (o : Own ω) : Prop where
  view : InOrder E A (store ++ o.log)
  nested : Own.Nested o.log o.points

theorem Own.Valid.nest (h : o.Valid E A S) : o.nest.Valid E A S :=
  ⟨h.view, List.prefix_refl _, h.nested⟩

theorem Own.Valid.release (h : o.Valid E A S) : o.release.Valid E A S := ⟨h.view, h.nested.tail⟩

theorem Own.Valid.rollback (h : o.Valid E A S) : o.rollback.Valid E A S where
  view := by
    obtain ⟨rest, hrest⟩ := h.nested.rollback.2
    have hview := h.view
    rw [← hrest, ← List.append_assoc] at hview
    exact hview.left
  nested := h.nested.rollback.1

variable [DecidableEq κ] (E A)

/-- Every end of a program satisfies `Q`, whatever the other transactions commit meanwhile, and
its writes are allowed. -/
def Prog.Ends (Q : List ω → Own ω → β → Prop) : Prog ω κ ε β → List ω → Own ω → Prop
  | .pure b, S, o => ∀ S', Others E A o S S' → Q S' o b
  | .select k, S, o => ∀ S', Others E A o S S' →
    (k (if o.failed then none else some (S' ++ o.log))).Ends Q S' o
  | .insert w arbiter k, S, o => A w ∧ ∀ S', Others E A o S S' →
    (k (E.insert S' o w arbiter).1).Ends Q S' (E.insert S' o w arbiter).2
  | .savepoint k, S, o => ∀ S', Others E A o S S' →
    if o.failed then (k false).Ends Q S' o else (k true).Ends Q S' o.nest
  | .rollback k, S, o => ∀ S', Others E A o S S' → k.Ends Q S' o.rollback
  | .release k, S, o => ∀ S', Others E A o S S' → k.Ends Q S' o.release
  | .draw k, S, o => ∀ S', Others E A o S S' → ∀ n, (k n).Ends Q S' o

variable {E A} {Q : List ω → Own ω → β → Prop}

/-- What others commit does not disturb a program. -/
theorem Prog.Ends.others {p : Prog ω κ ε β} (h : p.Ends E A Q S o) (hS : Others E A o S S') :
    p.Ends E A Q S' o := by
  cases p with
  | insert w arbiter k => exact ⟨h.1, fun T hT => h.2 T (hS.trans hT)⟩
  | pure b => exact fun T hT => h T (hS.trans hT)
  | select k => exact fun T hT => h T (hS.trans hT)
  | savepoint k => exact fun T hT => h T (hS.trans hT)
  | rollback k => exact fun T hT => h T (hS.trans hT)
  | release k => exact fun T hT => h T (hS.trans hT)
  | draw k => exact fun T hT => h T (hS.trans hT)

/-- What a write does to its transaction: nothing, or it fails it, or it adds itself with new
keys. -/
theorem Engine.insert_cases (store : List ω) (o : Own ω) (w : ω) (arbiter : Option κ) :
    (E.insert store o w arbiter).2 = o ∨ (E.insert store o w arbiter).2 = o.fail ∨
      (E.insert store o w arbiter).2 = o.add w ∧ E.refuses w = none ∧
        ∀ key ∈ E.keys w, key ∉ E.taken (store ++ o.log) := by
  unfold Engine.insert
  split
  case isTrue => exact .inl rfl
  case isFalse =>
    split
    case h_1 => exact .inr (.inl rfl)
    case h_2 hrefuses =>
      simp only
      split
      case isTrue => exact .inl rfl
      case isFalse =>
        split
        case h_1 => exact .inr (.inl rfl)
        case h_2 hnone =>
          rw [List.find?_eq_none] at hnone
          exact .inr (.inr ⟨rfl, hrefuses, fun key hkey => by simpa using hnone key hkey⟩)

theorem Own.Valid.insert (h : o.Valid E A S) {w : ω} (hw : A w) (arbiter : Option κ) :
    (E.insert S o w arbiter).2.Valid E A S := by
  rcases Engine.insert_cases (E := E) S o w arbiter with heq | heq | ⟨heq, hrefuses, hkeys⟩
  · rwa [heq]
  · rw [heq]
    exact ⟨h.view, h.nested⟩
  · rw [heq]
    refine ⟨?_, h.nested.mono (List.prefix_append _ _)⟩
    rw [Own.add, ← List.append_assoc]
    exact h.view.add hkeys hw hrefuses

theorem Prog.Ends.advance {p : Prog ω κ ε β} (h : p.Ends E A Q S o) (hvalid : o.Valid E A S) (n : ℕ) :
    (p.advance E S n o).1.Ends E A Q S (p.advance E S n o).2 ∧
      (p.advance E S n o).2.Valid E A S := by
  have hrefl : Others E A o S S := .refl hvalid.view
  cases p with
  | pure b => exact ⟨h, hvalid⟩
  | select k => exact ⟨h S hrefl, hvalid⟩
  | insert w arbiter k => exact ⟨h.2 S hrefl, hvalid.insert h.1 arbiter⟩
  | savepoint k =>
    have hnext := h S hrefl
    simp only [Prog.advance]
    split at hnext
    case isTrue hfailed =>
      rw [if_pos hfailed]
      exact ⟨hnext, hvalid⟩
    case isFalse hfailed =>
      rw [if_neg hfailed]
      exact ⟨hnext, hvalid.nest⟩
  | rollback k => exact ⟨h S hrefl, hvalid.rollback⟩
  | release k => exact ⟨h S hrefl, hvalid.release⟩
  | draw k => exact ⟨h S hrefl n, hvalid⟩

/-! ## Runs -/

/-- What is proved of a call: where it began, where it ended and its answer. -/
abbrev Spec (ω γ β : Type) : Type := γ → List ω → Own ω → List ω → Own ω → β → Prop

/-- Callers make allowed writes, and every call meets its specification from any session in
order. -/
structure Meets (E : Engine ω κ ε) (A : ω → Prop) (calls : γ → Prog ω κ ε β) (spec : Spec ω γ β) :
    Prop where
  direct : ∀ w, E.direct w = true → A w
  calls : ∀ c S o, o.Valid E A S → (calls c).Ends E A (spec c S o) S o

structure Sound (E : Engine ω κ ε) (A : ω → Prop) (spec : Spec ω γ β) (s : Sys ω κ ε γ β) :
    Prop where
  store : InOrder E A s.store
  bounded : ∀ i tx, s.live i = some tx → i < s.count
  valid : ∀ i tx, s.live i = some tx → tx.own.Valid E A s.store
  disjoint : ∀ i j tx other, i ≠ j → s.live i = some tx → s.live j = some other →
    ∀ key ∈ E.taken tx.own.log, key ∉ E.taken other.own.log
  running : ∀ i o r, s.live i = some ⟨o, some r⟩ →
    r.prog.Ends E A (spec r.call r.store r.own) s.store o
  events : ∀ e ∈ s.events, spec e.call e.store e.own e.store' e.own' e.answer

variable {calls : γ → Prog ω κ ε β} {spec : Spec ω γ β} {s s' : Sys ω κ ε γ β} {i : ℕ}

theorem Sound.start : Sound E A spec (Sys.start : Sys ω κ ε γ β) where
  store := .nil
  bounded := by simp [Sys.start]
  valid := by simp [Sys.start]
  disjoint := by simp [Sys.start]
  running := by simp [Sys.start]
  events := by simp [Sys.start]

theorem unlocked_iff {log : List ω} : s.unlocked E i log = true ↔
    ∀ j < s.count, j ≠ i → ∀ other, s.live j = some other →
      ∀ key ∈ E.taken log, key ∉ E.taken other.own.log := by
  simp only [Sys.unlocked, List.all_eq_true, List.mem_range, Bool.or_eq_true, beq_iff_eq]
  refine forall₂_congr fun j _ => ?_
  cases hj : s.live j with
  | none => simp
  | some other =>
    by_cases hji : j = i
    · simp [hji]
    · simp [hji]

/-- One transaction changes, and no other one has its keys. -/
theorem Sound.setLive (h : Sound E A spec s) {tx tx' : Tx ω κ ε γ β} (hi : s.live i = some tx)
    (hvalid : tx'.own.Valid E A s.store)
    (hfree : ∀ j other, j ≠ i → s.live j = some other →
      ∀ key ∈ E.taken tx'.own.log, key ∉ E.taken other.own.log)
    (hrunning : ∀ r, tx'.running = some r →
      r.prog.Ends E A (spec r.call r.store r.own) s.store tx'.own) :
    Sound E A spec (s.setLive i (some tx')) where
  store := h.store
  bounded := by
    intro j other hj
    by_cases hji : j = i
    · exact hji ▸ h.bounded i tx hi
    · exact h.bounded j other (by simpa [hji] using hj)
  valid := by
    intro j other hj
    by_cases hji : j = i
    · obtain rfl : tx' = other := by simpa [hji] using hj
      exact hvalid
    · exact h.valid j other (by simpa [hji] using hj)
  disjoint := by
    intro j k a b hjk hj hk key hkey
    by_cases hji : j = i
    · obtain rfl : tx' = a := by simpa [hji] using hj
      have hki : k ≠ i := fun hki => hjk (hji.trans hki.symm)
      exact hfree k b hki (by simpa [hki] using hk) key hkey
    · have ha : s.live j = some a := by simpa [hji] using hj
      by_cases hki : k = i
      · obtain rfl : tx' = b := by simpa [hki] using hk
        exact fun hkey' => hfree j a hji ha key hkey' hkey
      · exact h.disjoint j k a b hjk ha (by simpa [hki] using hk) key hkey
  running := by
    intro j o r hj
    by_cases hji : j = i
    · obtain rfl : tx' = ⟨o, some r⟩ := by simpa [hji] using hj
      exact hrunning r rfl
    · exact h.running j o r (by simpa [hji] using hj)
  events := h.events

theorem Sound.setOwn (h : Sound E A spec s) {tx : Tx ω κ ε γ β} {o : Own ω}
    {running : Option (Running ω κ ε γ β)} (hi : s.live i = some tx) (hvalid : o.Valid E A s.store)
    (hrunning : ∀ r, running = some r → r.prog.Ends E A (spec r.call r.store r.own) s.store o)
    (hs : s.setOwn E i o running = some s') : Sound E A spec s' := by
  unfold Sys.setOwn at hs
  split at hs
  case isFalse => cases hs
  case isTrue hfree =>
    obtain rfl := Option.some.inj hs
    rw [unlocked_iff] at hfree
    exact h.setLive hi hvalid
      (fun j other hji hj => hfree j (h.bounded j other hj) hji other hj) hrunning

/-- A transaction ends. -/
theorem Sound.removeLive (h : Sound E A spec s) : Sound E A spec (s.setLive i none) where
  store := h.store
  bounded := by
    intro j other hj
    by_cases hji : j = i
    · simp [hji] at hj
    · exact h.bounded j other (by simpa [hji] using hj)
  valid := by
    intro j other hj
    by_cases hji : j = i
    · simp [hji] at hj
    · exact h.valid j other (by simpa [hji] using hj)
  disjoint := by
    intro j k a b hjk hj hk
    by_cases hji : j = i
    · simp [hji] at hj
    · by_cases hki : k = i
      · simp [hki] at hk
      · exact h.disjoint j k a b hjk (by simpa [hji] using hj) (by simpa [hki] using hk)
  running := by
    intro j o r hj
    by_cases hji : j = i
    · simp [hji] at hj
    · exact h.running j o r (by simpa [hji] using hj)
  events := h.events

/-- A commit makes the writes of one transaction the others' store. -/
theorem Sound.commit (h : Sound E A spec s) {tx : Tx ω κ ε γ β} (hi : s.live i = some tx) :
    Sound E A spec { s.setLive i none with store := s.store ++ tx.own.log } := by
  have hothers : ∀ j other, j ≠ i → s.live j = some other →
      Others E A other.own s.store (s.store ++ tx.own.log) := by
    intro j other hji hj
    refine ⟨List.prefix_append _ _, ?_⟩
    have hmine := (h.valid i tx hi).view
    have htheirs := (h.valid j other hj).view
    have hkeys : (E.taken s.store ++ E.taken other.own.log).Nodup := by
      rw [← E.taken_append]
      exact htheirs.unique
    refine ⟨?_, fun w hw => ?_, fun w hw => ?_⟩
    · rw [E.taken_append]
      refine List.Nodup.append hmine.unique hkeys.of_append_right ?_
      intro key hkey hother
      rw [E.taken_append, List.mem_append] at hkey
      rcases hkey with hstore | hown
      · exact (List.nodup_append'.mp hkeys).2.2 hstore hother
      · exact h.disjoint i j tx other (Ne.symm hji) hi hj key hown hother
    · rcases List.mem_append.mp hw with hin | hin
      · exact hmine.allowed w hin
      · exact htheirs.allowed w (List.mem_append_right _ hin)
    · rcases List.mem_append.mp hw with hin | hin
      · exact hmine.accepted w hin
      · exact htheirs.accepted w (List.mem_append_right _ hin)
  have hremoved := h.removeLive (i := i)
  refine ⟨(h.valid i tx hi).view, hremoved.bounded, ?_, hremoved.disjoint, ?_, h.events⟩
  · intro j other hj
    have hji : j ≠ i := by
      rintro rfl
      simp at hj
    have hlive : s.live j = some other := by simpa [hji] using hj
    exact ⟨(hothers j other hji hlive).view, (h.valid j other hlive).nested⟩
  · intro j o r hj
    have hji : j ≠ i := by
      rintro rfl
      simp at hj
    have hlive : s.live j = some ⟨o, some r⟩ := by simpa [hji] using hj
    exact (h.running j o r hlive).others (hothers j _ hji hlive)

theorem Sound.begin (h : Sound E A spec s) : Sound E A spec { s with
    count := s.count + 1
    live := fun j => if j = s.count then some ⟨⟨[], [], false⟩, none⟩ else s.live j } where
  store := h.store
  bounded := by
    intro j tx hj
    by_cases hjs : j = s.count
    · simp [hjs]
    · exact Nat.lt_succ_of_lt (h.bounded j tx (by simpa [hjs] using hj))
  valid := by
    intro j tx hj
    by_cases hjs : j = s.count
    · obtain rfl : _ = tx := by simpa [hjs] using hj
      exact ⟨by simpa using h.store, trivial⟩
    · exact h.valid j tx (by simpa [hjs] using hj)
  disjoint := by
    intro j k a b hjk hj hk key hkey
    by_cases hjs : j = s.count
    · obtain rfl : _ = a := by simpa [hjs] using hj
      simp [Engine.taken] at hkey
    · by_cases hks : k = s.count
      · obtain rfl : _ = b := by simpa [hks] using hk
        simp [Engine.taken]
      · exact h.disjoint j k a b hjk (by simpa [hjs] using hj) (by simpa [hks] using hk) key hkey
  running := by
    intro j o r hj
    by_cases hjs : j = s.count
    · simp [hjs] at hj
    · exact h.running j o r (by simpa [hjs] using hj)
  events := h.events

/-- A step of a transaction that is in no call. -/
theorem Sound.idle (h : Sound E A spec s) {o o' : Own ω} (hi : s.live i = some ⟨o, none⟩)
    (hvalid : o'.Valid E A s.store) (hs : s.setOwn E i o' none = some s') : Sound E A spec s' :=
  h.setOwn hi hvalid (by simp) hs

/-- A call that has returned. -/
theorem Sound.return (h : Sound E A spec s) {o : Own ω} {r : Running ω κ ε γ β} {b : β}
    (hi : s.live i = some ⟨o, some r⟩) (hprog : r.prog = .pure b) : Sound E A spec
      { s.setLive i (some ⟨o, none⟩) with
        events := ⟨r.call, r.store, r.own, b, s.store, o⟩ :: s.events } := by
  have hvalid := h.valid i _ hi
  have hends := h.running i o r hi
  rw [hprog] at hends
  have hidle : Sound E A spec (s.setLive i (some ⟨o, none⟩)) :=
    h.setLive hi hvalid (fun j other hji hj => h.disjoint i j ⟨o, some r⟩ other (Ne.symm hji) hi hj)
      (by simp)
  refine { hidle with events := fun e he => ?_ }
  rcases List.mem_cons.mp he with rfl | he
  · exact hends s.store (.refl hvalid.view)
  · exact h.events e he

theorem Sound.next (hcalls : Meets E A calls spec) (h : Sound E A spec s) {label : Label ω γ}
    (hs : s.next E calls label = some s') : Sound E A spec s' := by
  cases label with
  | begin =>
    obtain rfl := Option.some.inj hs
    exact h.begin
  | write i w =>
    simp only [Sys.next] at hs
    split at hs
    case h_1 o hi =>
      split at hs
      case isTrue hdirect =>
        exact h.idle hi ((h.valid i _ hi).insert (hcalls.direct w hdirect) none) hs
      case isFalse => cases hs
    case h_2 => cases hs
  | nest i =>
    simp only [Sys.next] at hs
    split at hs
    case h_1 o hi =>
      split at hs
      case isTrue => cases hs
      case isFalse => exact h.idle hi (h.valid i _ hi).nest hs
    case h_2 => cases hs
  | undo i =>
    simp only [Sys.next] at hs
    split at hs
    case h_1 o hi => exact h.idle hi (h.valid i _ hi).rollback hs
    case h_2 => cases hs
  | release i =>
    simp only [Sys.next] at hs
    split at hs
    case h_1 o hi => exact h.idle hi (h.valid i _ hi).release hs
    case h_2 => cases hs
  | call i c =>
    simp only [Sys.next] at hs
    split at hs
    case h_1 o hi =>
      refine h.setOwn hi (h.valid i _ hi) ?_ hs
      rintro r ⟨⟩
      exact hcalls.calls c s.store o (h.valid i _ hi)
    case h_2 => cases hs
  | step i n =>
    simp only [Sys.next] at hs
    split at hs
    case h_1 o r hi =>
      split at hs
      case h_1 b hprog =>
        obtain rfl := Option.some.inj hs
        exact h.return hi hprog
      case h_2 p _ =>
        obtain ⟨hends, hvalid⟩ := (h.running i o r hi).advance (h.valid i _ hi) n
        refine h.setOwn hi hvalid ?_ hs
        rintro _ ⟨⟩
        exact hends
    case h_2 => cases hs
  | commit i =>
    simp only [Sys.next] at hs
    split at hs
    case h_1 o hi =>
      split at hs
      case isTrue => cases hs
      case isFalse =>
        obtain rfl := Option.some.inj hs
        exact h.commit hi
    case h_2 => cases hs
  | abort i =>
    simp only [Sys.next] at hs
    split at hs
    case h_1 =>
      obtain rfl := Option.some.inj hs
      exact h.removeLive
    case h_2 => cases hs

theorem Sound.steps (hcalls : Meets E A calls spec) (h : Sound E A spec s)
    (hs : Sys.Steps E calls s s') : Sound E A spec s' := by
  induction hs with
  | refl => exact h
  | tail label _ hnext ih => exact ih.next hcalls hnext

/-- Every reachable state is sound: its calls have met their specification. -/
theorem sound_of_reachable (hcalls : Meets E A calls spec) (h : Sys.Reachable E calls s) :
    Sound E A spec s := Sound.start.steps hcalls h

/-- What is committed stays, in its order. -/
theorem Sys.Steps.grows (h : Sys.Steps E calls s s') : s.store <+: s'.store := by
  induction h with
  | refl => exact List.prefix_refl _
  | @tail t u label _ hnext ih =>
    refine ih.trans ?_
    have hown : ∀ {i o running}, t.setOwn E i o running = some u → t.store <+: u.store := by
      intro i o running hset
      unfold Sys.setOwn at hset
      split at hset
      case isFalse => cases hset
      case isTrue =>
        obtain rfl := Option.some.inj hset
        exact List.prefix_refl _
    cases label with
    | begin =>
      obtain rfl := Option.some.inj hnext
      exact List.prefix_refl _
    | commit i =>
      simp only [Sys.next] at hnext
      split at hnext
      case h_1 =>
        split at hnext
        case isTrue => cases hnext
        case isFalse =>
          obtain rfl := Option.some.inj hnext
          exact List.prefix_append _ _
      case h_2 => cases hnext
    | abort i =>
      simp only [Sys.next] at hnext
      split at hnext
      case h_1 =>
        obtain rfl := Option.some.inj hnext
        exact List.prefix_refl _
      case h_2 => cases hnext
    | step i n =>
      simp only [Sys.next] at hnext
      split at hnext
      case h_1 =>
        split at hnext
        case h_1 =>
          obtain rfl := Option.some.inj hnext
          exact List.prefix_refl _
        case h_2 => exact hown hnext
      case h_2 => cases hnext
    | write i w =>
      simp only [Sys.next] at hnext
      split at hnext
      case h_1 =>
        split at hnext
        case isTrue => exact hown hnext
        case isFalse => cases hnext
      case h_2 => cases hnext
    | nest i =>
      simp only [Sys.next] at hnext
      split at hnext
      case h_1 =>
        split at hnext
        case isTrue => cases hnext
        case isFalse => exact hown hnext
      case h_2 => cases hnext
    | _ =>
      simp only [Sys.next] at hnext
      split at hnext
      case h_1 => exact hown hnext
      case h_2 => cases hnext

end Transactions.Savepoints
