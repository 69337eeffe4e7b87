import PiaOs.Specs.Records

/-!
# The attribution that an import is compared with

An import compares the provider that it declares with the one of another attempt of the
step. It holds the step, so the attempts that it finds there are those of its commit.
-/

namespace PiaOs

open Support Transactions Repository

/-! ## The last attributed attempt -/

/-- An attempt of the step, with the attribution that was declared for it. -/
structure Attributed (V : Db) (stepId : Uuid) (b : HandoffAttempt) (x : HandoffAttribution) :
    Prop where
  attempt : V.attempts.lookup b.id = some b
  step : b.stepId = stepId
  attribution : V.attributions.lookup b.id = some x

/-- The last attributed attempt of the step among those that qualify. -/
structure LastAttributed (V : Db) (stepId : Uuid) (qualifies : HandoffAttempt → Prop)
    (le : HandoffAttempt → HandoffAttempt → Prop) (b : HandoffAttempt) (x : HandoffAttribution) :
    Prop extends Attributed V stepId b x where
  chosen : qualifies b
  last : ∀ b' x', Attributed V stepId b' x' → qualifies b' → le b' b

/-- What the import of the attempt `a` observes when it compares with the last attempt in
this order. -/
inductive Observed (V : Db) (qualifies : HandoffAttempt → Prop)
    (le : HandoffAttempt → HandoffAttempt → Prop) (a : HandoffAttempt) (provedor : Option String) :
    Option ExecutionObservation → Prop
  | first : (∀ b x, Attributed V a.stepId b x → ¬ qualifies b) →
    Observed V qualifies le a provedor none
  | same (b : HandoffAttempt) (x : HandoffAttribution) :
    LastAttributed V a.stepId qualifies le b x → x.declaredProviderId = provedor →
    Observed V qualifies le a provedor none
  | switch (b : HandoffAttempt) (x : HandoffAttribution) (id : Uuid) (observedAt : Instant) :
    LastAttributed V a.stepId qualifies le b x → x.declaredProviderId ≠ provedor →
    Observed V qualifies le a provedor (some ⟨id, a.scheduleId, a.stepId, .declaredProviderSwitch,
      b.id, a.id, x.declaredProviderId, provedor, true, observedAt⟩)

/-- The order in which the attempts of a Schedule are listed. -/
def HandoffAttempt.key (b : HandoffAttempt) : Int × Nat := (b.createdAt, b.id.int)

def creationLe (b b' : HandoffAttempt) : Prop := Table.keyLe b.key b'.key = true

/-- The attempts that `get_last_attribution_before` looks at. -/
def CreatedBefore (a b : HandoffAttempt) : Prop := b.id ≠ a.id ∧ b.createdAt ≤ a.createdAt

section Orders

variable {V V' : Db} {p q : HandoffAttempt → Prop} {le le' : HandoffAttempt → HandoffAttempt → Prop}
  {a b : HandoffAttempt} {x : HandoffAttribution} {provedor : Option String}
  {o : Option ExecutionObservation}

/-- Two orders that agree on the attributed attempts choose the same one. -/
theorem LastAttributed.congr {stepId : Uuid}
    (hattributed : ∀ b x, p b → (Attributed V stepId b x ↔ Attributed V' stepId b x))
    (hqualifies : ∀ b x, Attributed V' stepId b x → (p b ↔ q b))
    (hle : ∀ b b' x x', Attributed V' stepId b x → Attributed V' stepId b' x' → q b → q b' →
      le b b' → le' b b')
    (h : LastAttributed V stepId p le b x) : LastAttributed V' stepId q le' b x := by
  have hb := (hattributed b x h.chosen).mp h.toAttributed
  have hq := (hqualifies b x hb).mp h.chosen
  refine { hb with chosen := hq, last := fun b' x' hb' hq' => ?_ }
  have hp := (hqualifies b' x' hb').mpr hq'
  exact hle b' b x' x hb' hb hq' hq (h.last b' x' ((hattributed b' x' hp).mpr hb') hp)

theorem Observed.congr
    (hattributed : ∀ b x, p b → (Attributed V a.stepId b x ↔ Attributed V' a.stepId b x))
    (hqualifies : ∀ b x, Attributed V' a.stepId b x → (p b ↔ q b))
    (hle : ∀ b b' x x', Attributed V' a.stepId b x → Attributed V' a.stepId b' x' → q b → q b' →
      le b b' → le' b b')
    (h : Observed V p le a provedor o) : Observed V' q le' a provedor o := by
  cases h with
  | first hnone =>
    refine .first fun b x hb hq => ?_
    have hp := (hqualifies b x hb).mpr hq
    exact hnone b x ((hattributed b x hp).mpr hb) hp
  | same b x hlast heq => exact .same b x (hlast.congr hattributed hqualifies hle) heq
  | switch b x id observedAt hlast hne =>
    exact .switch b x id observedAt (hlast.congr hattributed hqualifies hle) hne

end Orders

/-! ## The listing -/

/-- The last row that has an image comes after every other one that has. -/
theorem last_image {α β : Type} {r : α → α → Prop} {l : List α} {f : α → Option β} {y : β}
    (hsorted : l.Pairwise r) (h : (l.filterMap f).getLast? = some y) :
    ∃ b ∈ l, f b = some y ∧ ∀ b' ∈ l, (f b').isSome = true → b' = b ∨ r b' b := by
  rw [List.getLast?_filterMap, List.findSome?_eq_some_iff] at h
  obtain ⟨after, b, before, hsplit, hb, hafter⟩ := h
  have hl : l = before.reverse ++ b :: after.reverse := by
    have hreversed := congrArg List.reverse hsplit
    simpa using hreversed
  subst hl
  refine ⟨b, by simp, hb, fun b' hb' hsome => ?_⟩
  have hordered := (List.pairwise_append.mp hsorted).2.2
  rcases List.mem_append.mp hb' with hearlier | hlater
  · exact .inr (hordered b' hearlier b List.mem_cons_self)
  · rcases List.mem_cons.mp hlater with rfl | hlater
    · exact .inl rfl
    · have hnone := hafter b' (by simpa using hlater)
      simp [hnone] at hsome

/-- A listing is sorted by its key. -/
theorem select_pairwise {κ ρ : Type} [DecidableEq κ] {p : ρ → Bool} {key : ρ → Int × Nat}
    {t : Table κ ρ} :
    (Table.select p key t).Pairwise fun a b => Table.keyLe (key a) (key b) = true := by
  have htotal : Std.Total fun a b : ρ => Table.keyLe (key a) (key b) = true :=
    ⟨fun a b => by simp only [Table.keyLe_iff]; omega⟩
  have htrans : IsTrans ρ fun a b => Table.keyLe (key a) (key b) = true :=
    ⟨fun a b c => by simp only [Table.keyLe_iff]; omega⟩
  exact List.pairwise_insertionSort _ _

section Listing

variable {v : Db} {stepId : Uuid} {a : HandoffAttempt} {l : List HandoffAttempt}

theorem none_of_listing (hlist : ∀ b, b ∈ l ↔ v.attempts.lookup b.id = some b ∧ b.stepId = stepId ∧
    CreatedBefore a b) (h : (l.filterMap fun b => v.attributions.lookup b.id).getLast? = none)
    (b : HandoffAttempt) (x : HandoffAttribution) (hb : Attributed v stepId b x) :
    ¬ CreatedBefore a b := by
  intro hbefore
  rw [List.getLast?_eq_none_iff, List.filterMap_eq_nil_iff] at h
  have hnone := h b ((hlist b).mpr ⟨hb.attempt, hb.step, hbefore⟩)
  simp [hb.attribution] at hnone

theorem last_of_listing (hlist : ∀ b, b ∈ l ↔ v.attempts.lookup b.id = some b ∧ b.stepId = stepId ∧
    CreatedBefore a b) (hsorted : l.Pairwise creationLe) {x : HandoffAttribution}
    (h : (l.filterMap fun b => v.attributions.lookup b.id).getLast? = some x) :
    ∃ b, LastAttributed v stepId (CreatedBefore a) creationLe b x := by
  obtain ⟨b, hb, hx, hlast⟩ := last_image hsorted h
  obtain ⟨hrow, hstep, hbefore⟩ := (hlist b).mp hb
  refine ⟨b, ⟨hrow, hstep, hx⟩, hbefore, fun b' x' hb' hbefore' => ?_⟩
  have hin : b' ∈ l := (hlist b').mpr ⟨hb'.attempt, hb'.step, hbefore'⟩
  rcases hlast b' hin (by simp [hb'.attribution]) with rfl | hle
  · exact Table.keyLe_iff.mpr (.inr ⟨rfl, le_refl _⟩)
  · exact hle

end Listing

/-! ## While the step is held -/

theorem owned_of_lookup {V : Db} {principal : String} {scheduleId : Uuid} {g : Schedule}
    (hg : V.schedules.lookup scheduleId = some g) (hprincipal : g.controlPrincipalRef = principal) :
    V.owned principal scheduleId = true := by
  rw [Db.owned, Db.scheduleOf, hg]
  simp [hprincipal]

/-- While its Schedule is held an attempt does not change. -/
theorem AttemptChange.eq_of_held {held : List Lock} {b b' : HandoffAttempt}
    (h : AttemptChange held b b') (hheld : .schedule b.scheduleId ∈ held) : b' = b := by
  have hstate := h.locked hheld
  obtain ⟨hid, hschedule, hstep, hnumber, hversion, hsha, hcreated, -, -⟩ := h
  cases b
  cases b'
  simp only at hid hschedule hstep hnumber hversion hsha hcreated hstate
  subst hid hschedule hstep hnumber hversion hsha hcreated hstate
  rfl

/-- The attempts of a step are under the same Schedule. -/
theorem Wellformed.scheduleId_eq {V : Db} {k k' : Uuid} {a b : HandoffAttempt} (h : Wellformed V)
    (hb : V.attempts.lookup k = some b) (ha : V.attempts.lookup k' = some a)
    (hstep : b.stepId = a.stepId) : b.scheduleId = a.scheduleId := by
  obtain ⟨r, -, hr, hschedule, -⟩ := h.attempts_step k b hb
  obtain ⟨r', -, hr', hschedule', -⟩ := h.attempts_step k' a ha
  obtain rfl : r = r' := Option.some.inj (hr.symm.trans (hstep ▸ hr'))
  exact hschedule.symm.trans hschedule'

/-- The writes of an import leave the other attempts as they are. -/
def Write.Spares (attemptId : Uuid) : Write → Prop
  | .insertAttempt _ => False
  | .setAttemptState id _ => id = attemptId
  | .insertAttribution row => row.attemptId = attemptId
  | _ => True

theorem Write.Spares.of_table {attemptId : Uuid} {w : Write}
    (h : w.table ∉ [TableName.attempts, .attributions]) : w.Spares attemptId := by
  cases w with
  | insertAttempt => simp [Write.table] at h
  | setAttemptState => simp [Write.table] at h
  | insertAttribution => simp [Write.table] at h
  | _ => trivial

theorem Write.Spares.lookup {attemptId k : Uuid} (hk : k ≠ attemptId) :
    ∀ {log : List Write} {d : Db}, (∀ w ∈ log, w.Spares attemptId) →
      (applyAll Db.apply log d).attempts.lookup k = d.attempts.lookup k ∧
        (applyAll Db.apply log d).attributions.lookup k = d.attributions.lookup k
  | [], _, _ => ⟨rfl, rfl⟩
  | w :: log, d, h => by
    have hrest := Write.Spares.lookup hk (d := Db.apply w d)
      fun w' hw' => h w' (List.mem_cons_of_mem _ hw')
    have hw := h w List.mem_cons_self
    rw [applyAll_cons, hrest.1, hrest.2]
    cases w with
    | insertAttempt => exact hw.elim
    | setAttemptState id state =>
      obtain rfl : id = attemptId := hw
      exact ⟨by simp [Db.apply, Table.lookup_modify, hk], rfl⟩
    | insertAttribution row =>
      obtain rfl : row.attemptId = attemptId := hw
      exact ⟨rfl, by simp [Db.apply, hk]⟩
    | _ => exact ⟨rfl, rfl⟩

variable [Runtime]

/-- While the step is held, its other attempts are closed and keep their attributions. -/
theorem others_of_evolve {held : List Lock} {d f : Db} {stepId attemptId : Uuid}
    (h : protocol.Evolve held d f) (hheld : .step stepId ∈ held)
    (hclosed : ∀ k b, d.attempts.lookup k = some b → b.stepId = stepId → k ≠ attemptId →
      b.state ≠ .open) {k : Uuid} {b : HandoffAttempt} (hb : f.attempts.lookup k = some b)
    (hstep : b.stepId = stepId) (hk : k ≠ attemptId) :
    f.attributions.lookup k = d.attributions.lookup k := by
  suffices hall : ∀ k b, f.attempts.lookup k = some b → b.stepId = stepId → k ≠ attemptId →
      b.state ≠ .open ∧ f.attributions.lookup k = d.attributions.lookup k from
    (hall k b hb hstep hk).2
  refine h.keeps (R := fun e => ∀ k b, e.attempts.lookup k = some b → b.stepId = stepId →
    k ≠ attemptId → b.state ≠ .open ∧ e.attributions.lookup k = d.attributions.lookup k)
    (fun k b hb hstep hk => ⟨hclosed k b hb hstep hk, rfl⟩) ?_
  intro e w hkeeps hneeds hmay k b hb hstep hk
  cases w with
  | insertAttempt row =>
    obtain ⟨rfl, rfl⟩ | ⟨-, hold⟩ := Table.insert_cases hb
    · exact (hneeds (.step b.stepId) (by simp [Write.needs]) (hstep ▸ hheld)).elim
    · exact hkeeps k b hold hstep hk
  | setAttemptState id state =>
    obtain ⟨rfl, b₀, hb₀, rfl⟩ | ⟨-, hold⟩ := Table.modify_cases hb
    · obtain ⟨a, ha, htransition⟩ := hmay
      refine ⟨?_, (hkeeps k b₀ hb₀ hstep hk).2⟩
      rintro (rfl : state = .open)
      simp [e72AttemptTransitions, e73AttemptTransitions] at htransition
    · exact hkeeps k b hold hstep hk
  | insertAttribution row =>
    obtain ⟨hopen, hsame⟩ := hkeeps k b hb hstep hk
    refine ⟨hopen, ?_⟩
    obtain ⟨-, a, ha, haopen⟩ := hmay
    have hne : k ≠ row.attemptId := by
      rintro rfl
      obtain rfl := Option.some.inj (hb.symm.trans ha)
      exact hopen haopen
    rw [← hsame]
    exact AList.lookup_insert_ne hne
  | _ => exact hkeeps k b hb hstep hk

/-- What an import holds, and the attempt that it imports, before it compares. -/
structure AtReturn (S : Scene protocol) (held : List Lock) (scheduleId stepId : Uuid)
    (a : HandoffAttempt) : Prop where
  schedule : .schedule scheduleId ∈ held
  step : .step stepId ∈ held
  attempt : .attempt a.id ∈ held
  row : S.final.attempts.lookup a.id = some a
  row_open : a.state = .open
  row_step : a.stepId = stepId
  row_schedule : a.scheduleId = scheduleId

variable {S : Scene protocol} {past db : Db} {held : List Lock} {log : List Write}
  {principal : String} {scheduleId stepId : Uuid} {a : HandoffAttempt}

/-- The other attributed attempts that an import finds in its step are those of its commit. -/
theorem AtReturn.attributed_iff (h : AtReturn S held scheduleId stepId a)
    (hsees : S.Sees past held log db) (hlog : ∀ w ∈ log, w.Spares a.id) {b : HandoffAttempt}
    {x : HandoffAttribution} (hb : b.id ≠ a.id) :
    Attributed (applyAll Db.apply log db) stepId b x ↔ Attributed S.final stepId b x := by
  have hlater : Later held db S.final := Later.of_evolve hsees.db_final
  have hdb : protocol.Evolve [] Db.empty db := hsees.origin_past.trans hsees.past_db
  have hwf : Wellformed db := wellformed_of_evolve hdb
  have hwf' : Wellformed S.final := wellformed_of_evolve (hdb.trans hsees.db_final.free)
  have hrow : db.attempts.lookup a.id = some a :=
    (hlater.attempts.locked_eq h.attempt).trans h.row
  -- The attempts of the step are the same in the two stores.
  have hattempt : b.stepId = stepId →
      (db.attempts.lookup b.id = some b ↔ S.final.attempts.lookup b.id = some b) := by
    intro hstep
    have hsame : b.stepId = a.stepId := hstep.trans h.row_step.symm
    constructor
    · intro hfound
      obtain ⟨b', hb', hchange⟩ := hlater.attempts.stays hfound
      have hschedule := hwf.scheduleId_eq hfound hrow hsame
      have heq : b' = b := hchange.eq_of_held (hschedule ▸ h.row_schedule ▸ h.schedule)
      exact heq ▸ hb'
    · intro hfound
      obtain ⟨b', hb', hchange⟩ | ⟨-, -, harrives⟩ := hlater.attempts.origin hfound
      · have hschedule := hwf'.scheduleId_eq hfound h.row hsame
        have heq : b = b' :=
          hchange.eq_of_held (hchange.scheduleId ▸ hschedule ▸ h.row_schedule ▸ h.schedule)
        exact heq ▸ hb'
      · exact (harrives.2 (hstep ▸ h.step)).elim
  have hclosed : ∀ k b, db.attempts.lookup k = some b → b.stepId = stepId → k ≠ a.id →
      b.state ≠ .open := fun k b hb hstep hk hopen =>
    hk (hwf.single_open k a.id b a hb hrow (hstep.trans h.row_step.symm) hopen h.row_open)
  obtain ⟨hattempts, hattributions⟩ := Write.Spares.lookup hb (d := db) hlog
  constructor
  · rintro ⟨hfound, hstep, hx⟩
    rw [hattempts] at hfound
    rw [hattributions] at hx
    have hfinal := (hattempt hstep).mp hfound
    exact ⟨hfinal, hstep, (others_of_evolve hsees.db_final h.step hclosed hfinal hstep hb).trans hx⟩
  · rintro ⟨hfound, hstep, hx⟩
    refine ⟨hattempts ▸ (hattempt hstep).mpr hfound, hstep, ?_⟩
    rw [hattributions, ← others_of_evolve hsees.db_final h.step hclosed hfound hstep hb]
    exact hx

/-- An import finds no attribution that was created before, or the last one in the order of
the listing. -/
theorem AtReturn.ends_getLastAttributionBefore
    {Q : Option HandoffAttribution → Db → List Lock → List Write → Prop}
    (h : AtReturn S held scheduleId stepId a) (hlog : ∀ w ∈ log, w.Spares a.id)
    (howner : (S.view log).owned principal scheduleId = true)
    (hnone : ∀ db, (∀ b x, Attributed S.final stepId b x → ¬ CreatedBefore a b) →
      Q none db held log)
    (hsome : ∀ b x db, LastAttributed S.final stepId (CreatedBefore a) creationLe b x →
      x.attemptId = b.id → Q (some x) db held log) :
    S.Yields Q (getLastAttributionBefore principal scheduleId stepId a.id) past held log := by
  refine .read fun fresh db hsees _ => ?_
  have hfinds := finds_of_sees hsees
  have hiff : ∀ b x, CreatedBefore a b →
      (Attributed (applyAll Db.apply log db) stepId b x ↔ Attributed S.final stepId b x) :=
    fun b x hb => h.attributed_iff hsees hlog hb.1
  rw [orchestration_apply]
  generalize applyAll Db.apply log db = v at hfinds hiff ⊢
  -- The attempt itself was closed by the import, and is otherwise that of the commit.
  obtain ⟨atual, hatual, hchange⟩ : ∃ atual, v.attempts.lookup a.id = some atual ∧
      AttemptChange [] a atual := by
    rw [hfinds.later.attempts.locked_eq h.attempt]
    exact (Later.of_guarded hsees.guarded_final).attempts.stays h.row
  have howned : v.owned principal scheduleId = true := by
    rw [Db.owned, Db.scheduleOf, hfinds.later.schedules.locked_eq h.schedule]
    exact howner
  have hlist : ∀ b, b ∈ (v.attemptsOf principal scheduleId).filter (fun b =>
      b.stepId == stepId && b.id != a.id && b.createdAt ≤ atual.createdAt) ↔
      v.attempts.lookup b.id = some b ∧ b.stepId = stepId ∧ CreatedBefore a b := by
    intro b
    simp only [Db.attemptsOf, List.mem_filter, Table.mem_select, Bool.and_eq_true, beq_iff_eq,
      bne_iff_ne, decide_eq_true_eq, hchange.createdAt, howned, and_true, CreatedBefore]
    constructor
    · rintro ⟨⟨⟨k, hk⟩, -⟩, ⟨hstep, hne⟩, hle⟩
      obtain rfl := hfinds.wf.attempts_id k b hk
      exact ⟨hk, hstep, hne, hle⟩
    · rintro ⟨hb, hstep, hne, hle⟩
      have hsame : b.stepId = atual.stepId := by rw [hstep, hchange.stepId, h.row_step]
      have hschedule := hfinds.wf.scheduleId_eq hb hatual hsame
      rw [hchange.scheduleId, h.row_schedule] at hschedule
      exact ⟨⟨⟨b.id, hb⟩, hschedule⟩, ⟨hstep, hne⟩, hle⟩
  have hsorted : ((v.attemptsOf principal scheduleId).filter (fun b =>
      b.stepId == stepId && b.id != a.id && b.createdAt ≤ atual.createdAt)).Pairwise creationLe :=
    List.Pairwise.filter _ select_pairwise
  simp only [hatual]
  cases hfound : (((v.attemptsOf principal scheduleId).filter (fun b =>
      b.stepId == stepId && b.id != a.id && b.createdAt ≤ atual.createdAt)).filterMap
        fun b => v.attributions.lookup b.id).getLast? with
  | none =>
    refine hnone db fun b x hb hbefore => ?_
    exact none_of_listing hlist hfound b x ((hiff b x hbefore).mpr hb) hbefore
  | some x =>
    obtain ⟨b, hlast⟩ := last_of_listing hlist hsorted hfound
    refine hsome b x db (hlast.congr hiff (fun _ _ _ => Iff.rfl) fun _ _ _ _ _ _ _ _ hle => hle) ?_
    exact (hfinds.wf.attributions_attempt b.id x hlast.attribution).1

/-- A declared switch since the last attribution is observed, and nothing else is. -/
theorem AtReturn.yields_observar {Q : Unit → Db → List Lock → List Write → Prop}
    {provedor : Option String} (h : AtReturn S held scheduleId stepId a)
    (hlog : ∀ w ∈ log, w.Spares a.id) (howner : (S.view log).owned principal scheduleId = true)
    (hQ : ∀ o db held', held ⊆ held' → Observed S.final (CreatedBefore a) creationLe a provedor o →
      Q () db held' (log ++ (o.map .insertObservation).toList)) :
    S.Yields Q (ReturnValidationService.observarTrocaDeProvedor principal scheduleId stepId a.id
      provedor) past held log := by
  have hnothing : ∀ db, Observed S.final (CreatedBefore a) creationLe a provedor none →
      Q () db held log := fun db hobserved => by
    have hend := hQ none db held (List.Subset.refl _) hobserved
    rwa [Option.map_none, Option.toList_none, List.append_nil] at hend
  obtain rfl := h.row_step
  obtain rfl := h.row_schedule
  refine .bind (h.ends_getLastAttributionBefore hlog howner ?_ ?_)
  · intro db hnone
    exact hnothing db (.first hnone)
  · intro b x db hlast hattempt
    simp only
    split
    case isTrue heq => exact hnothing db (.same b x hlast heq)
    case isFalse hne =>
      refine .bind (ends_databaseNow fun db' => ?_)
      refine yields_createExecutionObservation fun id db'' held' hheld => ?_
      rw [hattempt]
      exact hQ (some _) db'' held' hheld (.switch b x id _ hlast hne)

end PiaOs
