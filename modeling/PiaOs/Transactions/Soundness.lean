import PiaOs.Transactions.Contract

/-!
# From programs to runs

When the program of every request obeys the protocol, each run is a sequence of
commits in which every committed transaction satisfies the condition that was
proved of its program, whatever the other transactions did in between.
-/

namespace Transactions

variable {σ ω ℓ ε α ρ : Type} {D : Database σ ω ℓ ε α ρ} (P : Protocol D)

/-- What is proved of the programs of a system: how a successful transaction may
end and how a failed one may. -/
structure Contract (D : Database σ ω ℓ ε α ρ) where
  commits : ρ → Int → σ → σ → α → List ω → Prop
  fails : ρ → Int → σ → σ → ε → List ω → Prop

/-- The condition on a program at its scene. -/
def Keeps (K : Contract D) (request : ρ) (began : σ) (S : Scene P) (past : σ) (held : List ℓ)
    (log : List ω) (p : Prog σ ω ℓ ε α) : Prop :=
  S.Ends (fun a _ _ log => K.commits request S.now began S.final a log)
    (fun e log => K.fails request S.now began S.final e log) p past held log

/-- Every request keeps the contract, from any store that the protocol allows, and what
it may commit is settled. -/
structure Obeys (K : Contract D) : Prop where
  keeps : ∀ (request : ρ) (began : σ) (S : Scene P), P.Evolve [] P.origin began →
    P.Evolve [] began S.final → Keeps P K request began S began [] [] (D.program request)
  settles : ∀ (request : ρ) (now : Int) (began final : σ) (a : α) (held : List ℓ) (log : List ω),
    P.Evolve [] P.origin final → P.Guarded held final log →
    K.commits request now began final a log → P.settled (applyAll D.apply log final)

/-- What holds of a commit at the store right before it. -/
structure Committed.Sound (K : Contract D) (c : Committed σ ω α ρ) : Prop where
  origin_began : P.Evolve [] P.origin c.began
  began_before : P.Evolve [] c.began c.before
  guarded : ∃ held, P.Guarded held c.before c.log
  settled : P.settled (applyAll D.apply c.log c.before)
  commits : K.commits c.request c.now c.began c.before c.answer c.log

/-- A sequence of commits, newest first, and the store it leads to. -/
inductive Commits (K : Contract D) : List (Committed σ ω α ρ) → σ → Prop
  | nil : Commits K [] P.origin
  | cons {earlier : List (Committed σ ω α ρ)} (c : Committed σ ω α ρ) :
    Commits K earlier c.before → c.Sound P K →
    Commits K (c :: earlier) (applyAll D.apply c.log c.before)

section Commits

variable {P} {K : Contract D} {c : Committed σ ω α ρ} {earlier history : List (Committed σ ω α ρ)}
  {db : σ}

/-- A commit is interference for everyone who holds no lock. -/
theorem Committed.Sound.evolve (h : c.Sound P K) :
    P.Evolve [] c.before (applyAll D.apply c.log c.before) := by
  obtain ⟨held, hguarded⟩ := h.guarded
  exact hguarded.evolve (by simp) h.settled

theorem Committed.Sound.origin_before (h : c.Sound P K) : P.Evolve [] P.origin c.before :=
  h.origin_began.trans h.began_before

/-- The store after the commits is one that the protocol allows. -/
theorem Commits.evolve (h : Commits P K history db) : P.Evolve [] P.origin db := by
  induction h with
  | nil => exact Protocol.Evolve.refl
  | cons c _ hsound ih => exact ih.trans hsound.evolve

/-- The part of a run up to one of its commits, and what came after. -/
theorem Commits.split {newer : List (Committed σ ω α ρ)}
    (h : Commits P K (newer ++ c :: earlier) db) :
    Commits P K earlier c.before ∧ c.Sound P K ∧
      P.Evolve [] (applyAll D.apply c.log c.before) db := by
  induction newer generalizing db with
  | nil =>
    cases h with
    | cons _ hearlier hsound => exact ⟨hearlier, hsound, Protocol.Evolve.refl⟩
  | cons c' newer ih =>
    cases h with
    | cons _ hearlier hsound =>
      obtain ⟨hcommits, hc, hlater⟩ := ih hearlier
      exact ⟨hcommits, hc, hlater.trans hsound.evolve⟩

theorem Commits.sound (h : Commits P K history db) (hc : c ∈ history) : c.Sound P K := by
  obtain ⟨newer, earlier, rfl⟩ := List.append_of_mem hc
  exact h.split.2.1

end Commits

/-- What holds of a transaction in progress. -/
structure Running (K : Contract D) (s : Sys σ ω ℓ ε α ρ) (tx : Tx σ ω ℓ ε α ρ) : Prop where
  origin_began : P.Evolve [] P.origin tx.began
  began_store : P.Evolve [] tx.began s.store
  guarded : ∀ final, P.Evolve tx.locks s.store final → P.Guarded tx.locks final tx.log
  keeps : ∃ past, P.Evolve [] tx.began past ∧ P.Evolve [] past s.store ∧
    ∀ final, P.Evolve tx.locks s.store final →
      Keeps P K tx.request tx.began ⟨tx.now, final⟩ past tx.locks tx.log tx.prog

/-- What holds of the whole system: its commits, its transactions in progress,
and that no row lock has two holders. -/
structure Sound (K : Contract D) (s : Sys σ ω ℓ ε α ρ) : Prop where
  commits : Commits P K s.history s.store
  bounded : ∀ i tx, s.live i = some tx → i < s.count
  running : ∀ i tx, s.live i = some tx → Running P K s tx
  exclusive : ∀ i j tx other, i ≠ j → s.live i = some tx → s.live j = some other →
    ∀ l ∈ tx.locks, l ∉ other.locks

variable {P} {K : Contract D} {s s' : Sys σ ω ℓ ε α ρ}

theorem Sound.start : Sound P K (Sys.start P.origin) where
  commits := .nil
  bounded := by simp [Sys.start]
  running := by simp [Sys.start]
  exclusive := by simp [Sys.start]

/-- A transaction in progress is not disturbed by what others commit. -/
theorem Running.evolve {tx : Tx σ ω ℓ ε α ρ} (h : Running P K s tx)
    (hstore : P.Evolve tx.locks s.store s'.store) : Running P K s' tx where
  origin_began := h.origin_began
  began_store := h.began_store.trans hstore.free
  guarded := fun final hfinal => h.guarded final (hstore.trans hfinal)
  keeps := by
    obtain ⟨past, hbegan, hpast, hkeeps⟩ := h.keeps
    exact ⟨past, hbegan, hpast.trans hstore.free, fun final hfinal =>
      hkeeps final (hstore.trans hfinal)⟩

/-- Without a commit the store is the same. -/
theorem Running.same_store {tx : Tx σ ω ℓ ε α ρ} (h : Running P K s tx)
    (hstore : s'.store = s.store) : Running P K s' tx :=
  h.evolve (hstore ▸ Protocol.Evolve.refl)

theorem unlocked_iff [DecidableEq ℓ] {i : Nat} {needed : List ℓ} :
    s.unlocked i needed = true ↔ ∀ j < s.count, j ≠ i → ∀ other, s.live j = some other →
      ∀ l ∈ needed, l ∉ other.locks := by
  simp only [Sys.unlocked, List.all_eq_true, List.mem_range, Bool.or_eq_true, beq_iff_eq]
  refine forall₂_congr fun j _ => ?_
  cases hj : s.live j with
  | none => simp
  | some other =>
    by_cases hji : j = i
    · simp [hji]
    · simp [hji]

theorem Sound.begin (h : Sound P K s) (hobeys : Obeys P K) (request : ρ)
    (now : Int) : Sound P K { s with
      clock := now
      count := s.count + 1
      live := fun j =>
        if j = s.count then some ⟨request, s.store, now, [], [], D.program request⟩
        else s.live j } where
  commits := h.commits
  bounded := by
    intro i tx hi
    by_cases his : i = s.count
    · simp [his]
    · have := h.bounded i tx (by simpa [his] using hi)
      exact Nat.lt_succ_of_lt this
  running := by
    intro i tx hi
    by_cases his : i = s.count
    · obtain rfl : _ = tx := by simpa [his] using hi
      exact {
        origin_began := h.commits.evolve
        began_store := Protocol.Evolve.refl
        guarded := fun _ _ => trivial
        keeps := ⟨s.store, Protocol.Evolve.refl, Protocol.Evolve.refl, fun final hfinal =>
          hobeys.keeps request s.store ⟨now, final⟩ h.commits.evolve hfinal⟩ }
    · exact (h.running i tx (by simpa [his] using hi)).same_store rfl
  exclusive := by
    intro i j tx other hij hi hj l hl
    by_cases his : i = s.count
    · obtain rfl : _ = tx := by simpa [his] using hi
      simp at hl
    · by_cases hjs : j = s.count
      · obtain rfl : _ = other := by simpa [hjs] using hj
        simp
      · exact h.exclusive i j tx other hij (by simpa [his] using hi) (by simpa [hjs] using hj) l hl

/-- Changing one transaction, with its old locks and newly free ones. -/
theorem Sound.setLive [DecidableEq ℓ] (h : Sound P K s) {i : Nat}
    {tx tx' : Tx σ ω ℓ ε α ρ} {needed : List ℓ} (hi : s.live i = some tx)
    (hfree : s.unlocked i needed = true) (hlocks : tx'.locks = tx.locks ++ needed)
    (hrunning : Running P K s tx') : Sound P K (s.setLive i (some tx')) where
  commits := h.commits
  bounded := by
    intro j other hj
    by_cases hji : j = i
    · exact hji ▸ h.bounded i tx hi
    · exact h.bounded j other (by simpa [hji] using hj)
  running := by
    intro j other hj
    by_cases hji : j = i
    · obtain rfl : tx' = other := by simpa [hji] using hj
      exact hrunning.same_store rfl
    · exact (h.running j other (by simpa [hji] using hj)).same_store rfl
  exclusive := by
    have hother : ∀ j other, j ≠ i → s.live j = some other → ∀ l ∈ tx'.locks, l ∉ other.locks := by
      intro j other hji hj l hl
      rw [hlocks, List.mem_append] at hl
      rcases hl with hl | hl
      · exact h.exclusive i j tx other (Ne.symm hji) hi hj l hl
      · exact unlocked_iff.mp hfree j (h.bounded j other hj) hji other hj l hl
    intro j k a b hjk hj hk l hl
    by_cases hji : j = i
    · obtain rfl : tx' = a := by simpa [hji] using hj
      have hki : k ≠ i := fun hki => hjk (hji.trans hki.symm)
      exact hother k b hki (by simpa [hki] using hk) l hl
    · by_cases hki : k = i
      · obtain rfl : tx' = b := by simpa [hki] using hk
        exact fun hl' => hother j a hji (by simpa [hji] using hj) l hl' hl
      · exact h.exclusive j k a b hjk (by simpa [hji] using hj) (by simpa [hki] using hk) l hl

theorem Sound.exec [DecidableEq ℓ] (h : Sound P K s) {i fresh : Nat}
    (hs : s.next D (.exec i fresh) = some s') : Sound P K s' := by
  simp only [Sys.next] at hs
  cases hi : s.live i with
  | none => simp [hi] at hs
  | some tx =>
    simp only [hi] at hs
    split at hs
    case h_2 => simp at hs
    case h_1 β stmt k hprog =>
      split at hs
      case isFalse => simp at hs
      case isTrue hcond =>
        rw [Bool.and_eq_true] at hcond
        have hrun := h.running i tx hi
        obtain ⟨past, hbegan, hpast, hrunkeeps⟩ := hrun.keeps
        have hstep : ∀ final,
            P.Evolve (tx.locks ++ stmt.locks ⟨tx.now, fresh⟩
              (applyAll D.apply tx.log s.store)) s.store final → _ :=
          fun final hfinal => by
            have hanti := hfinal.anti (List.subset_append_left _ _)
            have hkeeps := hrunkeeps final hanti
            rw [Keeps, hprog] at hkeeps
            exact hkeeps fresh s.store
              ⟨hrun.origin_began.trans hbegan, hpast, hfinal,
                (hrun.guarded s.store Protocol.Evolve.refl).mono (List.subset_append_left _ _),
                (hrun.guarded final hanti).mono (List.subset_append_left _ _)⟩ hcond.1
        split at hs
        case h_1 b ws hexec =>
          obtain rfl := Option.some.inj hs
          simp only [hexec, Scene.Settles] at hstep
          refine h.setLive hi hcond.2 rfl ?_
          exact {
            origin_began := hrun.origin_began
            began_store := hrun.began_store
            guarded := fun final hfinal => Protocol.Guarded.append
              ((hrun.guarded final (hfinal.anti (List.subset_append_left _ _))).mono
                (List.subset_append_left _ _)) (hstep final hfinal).1
            keeps := ⟨s.store, hrun.began_store, Protocol.Evolve.refl,
              fun final hfinal => (hstep final hfinal).2⟩ }
        case h_2 e hexec =>
          obtain rfl := Option.some.inj hs
          simp only [hexec, Scene.Settles] at hstep
          refine h.setLive hi hcond.2 rfl ?_
          exact {
            origin_began := hrun.origin_began
            began_store := hrun.began_store
            guarded := fun final hfinal =>
              (hrun.guarded final (hfinal.anti (List.subset_append_left _ _))).mono
                (List.subset_append_left _ _)
            keeps := ⟨s.store, hrun.began_store, Protocol.Evolve.refl,
              fun final hfinal => hstep final hfinal⟩ }

/-- Removing a transaction after others were not disturbed by the new store. -/
theorem Sound.removeLive (h : Sound P K s) {i : Nat} (hcount : s'.count = s.count)
    (hlive : ∀ j, s'.live j = if j = i then none else s.live j)
    (hcommits : Commits P K s'.history s'.store)
    (hstore : ∀ j other, j ≠ i → s.live j = some other →
      P.Evolve other.locks s.store s'.store) : Sound P K s' where
  commits := hcommits
  bounded := by
    intro j other hj
    rw [hlive] at hj
    split at hj
    · simp at hj
    · exact hcount ▸ h.bounded j other hj
  running := by
    intro j other hj
    rw [hlive] at hj
    split at hj
    · simp at hj
    · exact (h.running j other hj).evolve (hstore j other ‹_› hj)
  exclusive := by
    intro j k a b hjk hj hk
    rw [hlive] at hj hk
    split at hj
    · simp at hj
    · split at hk
      · simp at hk
      · exact h.exclusive j k a b hjk hj hk

theorem Sound.commit [DecidableEq ℓ] (h : Sound P K s) (hobeys : Obeys P K) {i : Nat}
    (hs : s.next D (.commit i) = some s') : Sound P K s' := by
  simp only [Sys.next] at hs
  cases hi : s.live i with
  | none => simp [hi] at hs
  | some tx =>
    simp only [hi] at hs
    split at hs
    case h_2 => simp at hs
    case h_1 a hprog =>
      split at hs
      case isFalse => simp at hs
      case isTrue =>
        obtain rfl := Option.some.inj hs
        have hrun := h.running i tx hi
        have hguarded := hrun.guarded s.store Protocol.Evolve.refl
        obtain ⟨past, hbegan, hpast, hrunkeeps⟩ := hrun.keeps
        have hkeeps := hrunkeeps s.store Protocol.Evolve.refl
        rw [Keeps, hprog] at hkeeps
        have hsettled := hobeys.settles _ _ _ _ _ _ _ h.commits.evolve hguarded hkeeps
        refine h.removeLive rfl (fun j => rfl) ?_ ?_
        · exact .cons ⟨tx.request, tx.began, tx.now, s.store, tx.log, a⟩ h.commits
            ⟨hrun.origin_began, hrun.began_store, ⟨tx.locks, hguarded⟩, hsettled, hkeeps⟩
        · intro j other hji hj
          exact hguarded.evolve (h.exclusive i j tx other (Ne.symm hji) hi hj) hsettled

theorem Sound.abort [DecidableEq ℓ] (h : Sound P K s) {i : Nat}
    (hs : s.next D (.abort i) = some s') : Sound P K s' := by
  simp only [Sys.next] at hs
  cases hi : s.live i with
  | none => simp [hi] at hs
  | some tx =>
    simp only [hi, Option.some.injEq] at hs
    subst hs
    exact h.removeLive rfl (fun j => rfl) h.commits fun _ _ _ _ => Protocol.Evolve.refl

/-- Every reachable state of a system whose programs obey the protocol is sound. -/
theorem sound_of_reachable [DecidableEq ℓ] (hobeys : Obeys P K)
    (h : Sys.Reachable D P.origin s) : Sound P K s := by
  induction h with
  | start => exact .start
  | @step t t' label _ hnext ih =>
    cases label with
    | begin request now =>
      simp only [Sys.next] at hnext
      split at hnext
      · obtain rfl := Option.some.inj hnext
        exact ih.begin hobeys request now
      · simp at hnext
    | exec i fresh => exact ih.exec hnext
    | commit i => exact ih.commit hobeys hnext
    | abort i => exact ih.abort hnext

end Transactions
