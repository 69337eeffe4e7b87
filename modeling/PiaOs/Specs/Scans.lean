import PiaOs.Specs.Repository

/-!
# Statements that lock several rows

A scan locks the rows of its snapshot one after the other and examines each again
under its lock. So it gives rows as they are at the commit, and it misses a row only
if the row came after the snapshot.
-/

/-! ## What a list of writes leaves alone

Each write belongs to one table, and the other tables stay as they are. -/

namespace PiaOs

open Support Transactions

inductive TableName
  | schedules | steps | attempts | delegations | receipts | seals | results | attributions
  | executions | profiles | events | observations | opinions
  deriving DecidableEq

/-- The table that a write changes. -/
def Write.table : Write → TableName
  | .insertSchedule _ | .setScheduleState _ _ => .schedules
  | .insertStep _ | .setStepState _ _ => .steps
  | .insertAttempt _ | .setAttemptState _ _ => .attempts
  | .insertDelegation _ | .setDelegationState _ _ | .consumeDelegation _ _ _ => .delegations
  | .insertReceipt _ => .receipts
  | .insertSeal _ => .seals
  | .insertResult _ => .results
  | .insertAttribution _ => .attributions
  | .insertExecution _ => .executions
  | .insertProfile _ => .profiles
  | .insertEvent _ => .events
  | .insertObservation _ => .observations
  | .insertOpinion _ => .opinions

/-- Two stores have the same rows in one table. -/
def SameTable (t : TableName) (db db' : Db) : Prop :=
  match t with
  | .schedules => db.schedules = db'.schedules
  | .steps => db.steps = db'.steps
  | .attempts => db.attempts = db'.attempts
  | .delegations => db.delegations = db'.delegations
  | .receipts => db.receipts = db'.receipts
  | .seals => db.seals = db'.seals
  | .results => db.results = db'.results
  | .attributions => db.attributions = db'.attributions
  | .executions => db.executions = db'.executions
  | .profiles => db.profiles = db'.profiles
  | .events => db.events = db'.events
  | .observations => db.observations = db'.observations
  | .opinions => db.opinions = db'.opinions

variable {t : TableName} {db db' db'' : Db} {w : Write} {ws : List Write}

theorem SameTable.refl (t : TableName) (db : Db) : SameTable t db db := by
  cases t <;> rfl

theorem SameTable.trans (h : SameTable t db db') (h' : SameTable t db' db'') :
    SameTable t db db'' := by
  cases t <;> exact Eq.trans h h'

/-- A write leaves every other table as it is. -/
theorem sameTable_apply (hw : w.table ≠ t) : SameTable t (Db.apply w db) db := by
  cases w <;> cases t <;> first | rfl | exact (hw rfl).elim

theorem sameTable_applyAll (h : ∀ w ∈ ws, Write.table w ≠ t) :
    SameTable t (applyAll Db.apply ws db) db := by
  induction ws generalizing db with
  | nil => exact .refl t db
  | cons w ws ih =>
    exact (ih fun w' hw' => h w' (List.mem_cons_of_mem _ hw')).trans
      (sameTable_apply (h w List.mem_cons_self))

/-- No write removes a delegation. -/
theorem delegations_isSome {k : Uuid} (h : (db.delegations.lookup k).isSome) :
    ((applyAll Db.apply ws db).delegations.lookup k).isSome := by
  have hmodify : ∀ (db : Db) (id : Uuid) (f : ServiceDelegation → ServiceDelegation),
      (db.delegations.lookup k).isSome → ((db.delegations.modify id f).lookup k).isSome := by
    intro db id f h
    rw [Table.lookup_modify]
    split
    case isTrue hk =>
      subst hk
      simpa using h
    case isFalse => exact h
  induction ws generalizing db with
  | nil => exact h
  | cons w ws ih =>
    refine ih ?_
    cases w with
    | insertDelegation row =>
      simp only [Db.apply, Table.lookup_insert_ite]
      split
      · rfl
      · exact h
    | setDelegationState id state => exact hmodify db id _ h
    | consumeDelegation id consumedAt attemptId => exact hmodify db id _ h
    | _ => exact h

/-- What a run of one change does to each row, when the change leaves a changed row as it is. -/
theorem lookup_setAll {ρ : Type} (rows : Db → Table Uuid ρ) (w : Uuid → Write) (f : ρ → ρ)
    (hw : ∀ db id, rows (Db.apply (w id) db) = (rows db).modify id f) (hf : ∀ r, f (f r) = f r)
    (ids : List Uuid) (db : Db) (k : Uuid) :
    (rows (applyAll Db.apply (ids.map w) db)).lookup k =
      if k ∈ ids then ((rows db).lookup k).map f else (rows db).lookup k := by
  induction ids generalizing db with
  | nil => simp
  | cons id ids ih =>
    rw [List.map_cons, applyAll_cons, ih, hw]
    simp only [Table.lookup_modify, List.mem_cons]
    by_cases hk : k = id
    · subst hk
      cases (rows db).lookup k <;> simp [hf]
    · simp [hk]

theorem delegations_setAll (ids : List Uuid) (state : DelegationState) (db : Db) (k : Uuid) :
    (applyAll Db.apply (ids.map fun id => .setDelegationState id state) db).delegations.lookup k =
      if k ∈ ids then (db.delegations.lookup k).map fun d => { d with state }
      else db.delegations.lookup k :=
  lookup_setAll Db.delegations (fun id => .setDelegationState id state) (fun d => { d with state })
    (fun _ _ => rfl) (fun _ => rfl) ids db k

theorem steps_setAll (ids : List Uuid) (state : StepState) (db : Db) (k : Uuid) :
    (applyAll Db.apply (ids.map fun id => .setStepState id state) db).steps.lookup k =
      if k ∈ ids then (db.steps.lookup k).map fun r => { r with state }
      else db.steps.lookup k :=
  lookup_setAll Db.steps (fun id => .setStepState id state) (fun r => { r with state })
    (fun _ _ => rfl) (fun _ => rfl) ids db k

theorem attempts_setAll (ids : List Uuid) (state : AttemptState) (db : Db) (k : Uuid) :
    (applyAll Db.apply (ids.map fun id => .setAttemptState id state) db).attempts.lookup k =
      if k ∈ ids then (db.attempts.lookup k).map fun a => { a with state }
      else db.attempts.lookup k :=
  lookup_setAll Db.attempts (fun id => .setAttemptState id state) (fun a => { a with state })
    (fun _ _ => rfl) (fun _ => rfl) ids db k

end PiaOs

/-! ## Statements that lock several rows -/

namespace PiaOs

open Support Transactions

namespace Repository

/-- The delegations of an `UPDATE` and what it leaves in the store. -/
structure Updated (V past : Db) (p : ServiceDelegation → Bool) (kept : List ServiceDelegation) :
    Prop where
  rows : ∀ d ∈ kept, V.delegations.lookup d.id = some d ∧ p d = true
  nodup : (kept.map ServiceDelegation.id).Nodup
  complete : ∀ k d, V.delegations.lookup k = some d → p d = true →
    (past.delegations.lookup k).isSome → d ∈ kept

variable [Runtime] {S : Scene protocol} {past : Db} {held : List Lock} {log : List Write}
  {principal : String} {scheduleId stepId : Uuid}

theorem yields_lockRow {ρ : Type} {Q : Option ρ → Db → List Lock → List Write → Prop}
    {lock : Uuid → Lock} {row : Env → Db → Uuid → Option ρ} {writes : Uuid → List Write} {id : Uuid}
    (hnone : ∀ fresh db v, Finds S past held log db v → row ⟨S.now, fresh⟩ v id = none →
      Q none db held log)
    (hsome : ∀ fresh db v r, Finds S past (held ++ [lock id]) log db v →
      row ⟨S.now, fresh⟩ v id = some r →
      protocol.Guarded (held ++ [lock id]) (S.view log) (writes id) ∧
        Q (some r) db (held ++ [lock id]) (log ++ writes id)) :
    S.Yields Q (lockRow lock row writes id) past held log := by
  refine ends_step fun fresh db v hfinds _ => ?_
  cases hr : row ⟨S.now, fresh⟩ v id with
  | none =>
    simp only [hr, Option.isSome_none, Bool.false_eq_true, if_false, List.append_nil] at hfinds ⊢
    exact ⟨trivial, by simpa using hnone fresh db v hfinds hr⟩
  | some r =>
    simp only [hr, Option.isSome_some, if_true] at hfinds ⊢
    exact hsome fresh db v r hfinds hr

/-- A scan that writes nothing: what it finds, and what it does not. -/
theorem yields_lockEach {ρ : Type} {Q : List ρ → Db → List Lock → List Write → Prop}
    {lock : Uuid → Lock} {row : Env → Db → Uuid → Option ρ} {ids : List Uuid} (id : ρ → Uuid)
    (Good : ρ → Prop) (Gone : Uuid → Prop) (hids : ids.Nodup)
    (hgood : ∀ fresh past' held' db v k r, held ⊆ held' → Finds S past' held' log db v →
      lock k ∈ held' → row ⟨S.now, fresh⟩ v k = some r → id r = k ∧ Good r)
    (hgone : ∀ fresh past' held' db v k, held ⊆ held' → Finds S past' held' log db v →
      row ⟨S.now, fresh⟩ v k = none → Gone k)
    (h : ∀ kept db held', held ⊆ held' → (kept.map id).Nodup →
      (∀ r ∈ kept, lock (id r) ∈ held' ∧ Good r) →
      (∀ k ∈ ids, k ∈ kept.map id ∨ Gone k) → Q kept db held' log) :
    S.Yields Q (Prog.collect (lockRow lock row fun _ => []) ids) past held log := by
  refine .collect (fun handled kept _ held' log' => log' = log ∧ held ⊆ held' ∧
    (kept.map id).Sublist handled ∧ (∀ r ∈ kept, lock (id r) ∈ held' ∧ Good r) ∧
    ∀ k ∈ handled, k ∈ kept.map id ∨ Gone k)
    ⟨rfl, List.Subset.refl _, by simp, by simp, by simp⟩ ?_ ?_
  · rintro handled k rest kept past' held' _ - ⟨rfl, hheld, hsub, hkept, hall⟩
    refine yields_lockRow ?_ ?_
    · intro fresh db v hfinds hr
      refine ⟨rfl, hheld, by simpa using hsub.trans (List.sublist_append_left _ _), by simpa,
        ?_⟩
      simp only [List.mem_append, List.mem_singleton, Option.toList_none, List.append_nil]
      rintro k' (hk' | rfl)
      · exact hall k' hk'
      · exact .inr (hgone fresh past' held' db v k' hheld hfinds hr)
    · intro fresh db v r hfinds hr
      have hsubset : held ⊆ held' ++ [lock k] := List.subset_append_of_subset_left _ hheld
      obtain ⟨hid, hr'⟩ := hgood fresh past' _ db v k r hsubset hfinds (by simp) hr
      refine ⟨trivial, by simp, hsubset, by simpa [hid] using hsub.append (.refl [k]), ?_, ?_⟩
      · simp only [Option.toList_some, List.mem_append, List.mem_singleton]
        rintro r' (hin | rfl)
        · exact ⟨.inl (hkept r' hin).1, (hkept r' hin).2⟩
        · exact ⟨.inr (by rw [hid]), hr'⟩
      · simp only [Option.toList_some, List.map_append, List.map_cons, List.map_nil, hid,
          List.mem_append, List.mem_singleton]
        rintro k' (hk' | rfl)
        · exact (hall k' hk').imp .inl fun hg => hg
        · exact .inl (.inr rfl)
  · rintro kept past' held' _ ⟨rfl, hheld, hsub, hkept, hall⟩
    exact h kept past' held' hheld (hids.sublist hsub) hkept hall

/-! ## Open attempts of a Schedule -/

/-- An attempt that is open at the commit was found open, or it came under a step
that is not locked. -/
theorem open_origin {db v : Db} {k : Uuid} {a : HandoffAttempt}
    (hfinds : Finds S past held log db v) (ha : (S.view log).attempts.lookup k = some a)
    (hopen : a.state = .open) :
    (∃ a', v.attempts.lookup k = some a' ∧ a'.state = .open ∧ a'.scheduleId = a.scheduleId) ∨
      .step a.stepId ∉ held := by
  obtain ⟨a', ha', hchange⟩ | ⟨-, -, -, hfree⟩ := hfinds.later.attempts.origin ha
  · refine .inl ⟨a', ha', ?_, hchange.scheduleId.symm⟩
    by_contra hclosed
    exact hclosed (hchange.closed hclosed ▸ hopen)
  · exact .inr hfree

theorem yields_listOpenAttempts {Q : List HandoffAttempt → Db → List Lock → List Write → Prop}
    {g : Schedule} (hlock : .schedule scheduleId ∈ held)
    (hg : (S.view log).schedules.lookup scheduleId = some g)
    (hprincipal : g.controlPrincipalRef = principal)
    (h : ∀ kept db held', held ⊆ held' → (kept.map HandoffAttempt.id).Nodup →
      (∀ a ∈ kept, .attempt a.id ∈ held' ∧ (S.view log).attempts.lookup a.id = some a ∧
        a.scheduleId = scheduleId ∧ a.state = .open) →
      (∀ k a, (S.view log).attempts.lookup k = some a → a.scheduleId = scheduleId →
        a.state = .open → a ∈ kept ∨ .step a.stepId ∉ held) → Q kept db held' log) :
    S.Yields Q (listOpenAttemptsOfSchedule principal scheduleId) past held log := by
  have howned : ∀ {past' db v held'}, held ⊆ held' → Finds S past' held' log db v →
      v.owned principal scheduleId = true := by
    intro past' db v held' hsub hfinds
    refine owned_iff.mpr ⟨g, ?_, hprincipal⟩
    exact (hfinds.later.schedules.locked_eq (hsub hlock)).trans hg
  refine .bind (ends_read fun fresh db v hfinds _ => ?_)
  refine yields_lockEach HandoffAttempt.id
    (fun a => (S.view log).attempts.lookup a.id = some a ∧ a.scheduleId = scheduleId ∧
      a.state = .open)
    (fun k => ∀ a, (S.view log).attempts.lookup k = some a → a.scheduleId = scheduleId →
      a.state = .open → .step a.stepId ∉ held)
    (Table.select_ids_nodup hfinds.wf.attempts_id) ?_ ?_ ?_
  · intro fresh' past' held' db' v' k a hsub hfinds' hin ha
    obtain ⟨ha, hopen⟩ := Option.filter_eq_some_iff.mp ha
    obtain ⟨hlookup, hscheduleId, -⟩ := attemptOf_eq_some.mp ha
    obtain rfl := hfinds'.wf.attempts_id k a hlookup
    refine ⟨rfl, ?_, hscheduleId, by simpa using hopen⟩
    rw [← hfinds'.later.attempts.locked_eq hin]
    exact hlookup
  · intro fresh' past' held' db' v' k hsub hfinds' hnone a ha hscheduleId hopen
    obtain ⟨a', ha', hopen', heq⟩ | hfree := open_origin hfinds' ha hopen
    · have hfound : v'.attemptOf principal scheduleId k = some a' :=
        attemptOf_eq_some.mpr ⟨ha', heq.trans hscheduleId, howned hsub hfinds'⟩
      simp [hfound, hopen'] at hnone
    · exact fun hin => hfree (hsub hin)
  · intro kept db' held' hsub hnodup hkept hall
    refine h kept db' held' hsub hnodup hkept fun k a ha hscheduleId hopen => ?_
    obtain ⟨a', ha', hopen', heq⟩ | hfree := open_origin hfinds ha hopen
    · have hcandidate : k ∈ ((v.attemptsOf principal scheduleId).filter fun a =>
          a.state == .open).map HandoffAttempt.id := by
        refine List.mem_map.mpr ⟨a', List.mem_filter.mpr ⟨mem_attemptsOf.mpr ⟨⟨k, ha'⟩,
          heq.trans hscheduleId, howned (List.Subset.refl _) hfinds⟩, by simp [hopen']⟩, ?_⟩
        exact hfinds.wf.attempts_id k a' ha'
      rcases hall k hcandidate with hin | hgone
      · obtain ⟨b, hb, rfl⟩ := List.mem_map.mp hin
        obtain rfl := Option.some.inj ((hkept b hb).2.1.symm.trans ha)
        exact .inl hb
      · exact .inr (hgone a ha hscheduleId hopen)
    · exact .inr hfree

/-! ## Delegations -/

/-- An active delegation of the commit that was there earlier is found as it is. -/
theorem active_found {db v : Db} {k : Uuid} {d : ServiceDelegation}
    (hfinds : Finds S past held log db v) (hd : (S.view log).delegations.lookup k = some d)
    (hactive : d.state = .active) (hpast : (past.delegations.lookup k).isSome) :
    v.delegations.lookup k = some d := by
  obtain ⟨d₀, hd₀⟩ := Option.isSome_iff_exists.mp hpast
  obtain ⟨d₁, hd₁, -⟩ := hfinds.past.delegations.stays hd₀
  have hv : (v.delegations.lookup k).isSome := by
    rw [hfinds.eq]
    exact delegations_isSome (by simp [hd₁])
  obtain ⟨d₂, hd₂⟩ := Option.isSome_iff_exists.mp hv
  have hchange := hfinds.later.delegations.changed hd₂ hd
  rw [hd₂, hchange.active hactive]

private theorem isSome_of_past {db v : Db} {k : Uuid} (hfinds : Finds S past held log db v)
    (hpast : (past.delegations.lookup k).isSome) : (db.delegations.lookup k).isSome := by
  obtain ⟨d₀, hd₀⟩ := Option.isSome_iff_exists.mp hpast
  obtain ⟨d₁, hd₁, -⟩ := hfinds.past.delegations.stays hd₀
  simp [hd₁]

/-- An `UPDATE` that moves active delegations to a terminal state. -/
theorem yields_delegationsWhere {Q : List ServiceDelegation → Db → List Lock → List Write → Prop}
    {p : Instant → ServiceDelegation → Bool} {state : DelegationState}
    (hp : ∀ d, p S.now d = true → d.state = .active)
    (hstate : state = .revoked ∨ state = .expired)
    (h : ∀ kept db held', held ⊆ held' → Updated (S.view log) past (p S.now) kept →
      Q kept db held'
        (log ++ (kept.map ServiceDelegation.id).map fun id => .setDelegationState id state)) :
    S.Yields Q (delegationsWhere p fun id => .setDelegationState id state) past held log := by
  refine .bind (ends_read fun fresh db v hfinds _ => ?_)
  have hids : ((Table.select (p S.now) (fun d => (d.createdAt, d.id.int)) v.delegations).map
      ServiceDelegation.id).Nodup := by
    simpa using Table.select_ids_nodup (q := fun _ => true) hfinds.wf.delegations_id
  have hview : ∀ (kept : List ServiceDelegation) (k : Uuid), k ∉ kept.map ServiceDelegation.id →
      (S.view (log ++ (kept.map ServiceDelegation.id).map fun id =>
        .setDelegationState id state)).delegations.lookup k =
      (S.view log).delegations.lookup k := by
    intro kept k hk
    rw [Scene.view_append, orchestration_apply, delegations_setAll, if_neg hk]
  refine .collect (fun handled kept past' held' log' => held ⊆ held' ∧
    (∀ k, (past.delegations.lookup k).isSome → (past'.delegations.lookup k).isSome) ∧
    log' = log ++ (kept.map ServiceDelegation.id).map (fun id => .setDelegationState id state) ∧
    (kept.map ServiceDelegation.id).Sublist handled ∧
    (∀ d ∈ kept, (S.view log).delegations.lookup d.id = some d ∧ p S.now d = true) ∧
    ∀ k ∈ handled, ∀ d, (S.view log).delegations.lookup k = some d → p S.now d = true →
      (past.delegations.lookup k).isSome → d ∈ kept)
    ⟨List.Subset.refl _, fun k => isSome_of_past hfinds, by simp, by simp, by simp, by simp⟩
    ?_ ?_
  · rintro handled k rest kept past' held' _ hsplit ⟨hheld, hpast, rfl, hsub, hkept, hall⟩
    have hk : k ∉ kept.map ServiceDelegation.id := by
      intro hin
      rw [hsplit] at hids
      exact (List.nodup_append.mp hids).2.2 k (hsub.subset hin) k (by simp) rfl
    refine yields_lockRow ?_ ?_
    · intro fresh' db' v' hfinds' hnone
      refine ⟨hheld, fun k' hk' => isSome_of_past hfinds' (hpast k' hk'), by simp,
        by simpa using hsub.trans (List.sublist_append_left _ _), by simpa using hkept, ?_⟩
      simp only [List.mem_append, List.mem_singleton, Option.toList_none, List.append_nil]
      rintro k' (hk' | rfl) d hd hpd hdpast
      · exact hall k' hk' d hd hpd hdpast
      · have hfound := active_found hfinds' ((hview kept k' hk).trans hd) (hp d hpd)
          (hpast k' hdpast)
        simp [delegationWhere, hfound, Option.filter, hpd] at hnone
    · intro fresh' db' v' d hfinds' hd
      obtain ⟨hlookup, hpd⟩ := Option.filter_eq_some_iff.mp hd
      have hid : d.id = k := hfinds'.wf.delegations_id k d hlookup
      rw [hfinds'.later.delegations.locked_eq (List.mem_append_right _ (by simp))] at hlookup
      have hV := (hview kept k hk).symm.trans hlookup
      refine ⟨⟨⟨by simp [Write.needs], d, hlookup, hp d hpd, hstate⟩, trivial⟩,
        List.subset_append_of_subset_left _ hheld,
        fun k' hk' => isSome_of_past hfinds' (hpast k' hk'), by simp [hid],
        by simpa [hid] using hsub.append (.refl [k]), ?_, ?_⟩
      · simp only [Option.toList_some, List.mem_append, List.mem_singleton]
        rintro d' (hin | rfl)
        · exact hkept d' hin
        · exact ⟨hid ▸ hV, hpd⟩
      · simp only [Option.toList_some, List.mem_append, List.mem_singleton]
        rintro k' (hk' | rfl) d' hd' hpd' hdpast
        · exact .inl (hall k' hk' d' hd' hpd' hdpast)
        · exact .inr (Option.some.inj (hd'.symm.trans hV))
  · rintro kept past' held' _ ⟨hheld, hpast, rfl, hsub, hkept, hall⟩
    refine h kept past' held' hheld ⟨hkept, hids.sublist hsub, fun k d hd hpd hdpast => ?_⟩
    have hfound := active_found hfinds hd (hp d hpd) hdpast
    refine hall k ?_ d hd hpd hdpast
    exact List.mem_map.mpr ⟨d, Table.mem_select.mpr ⟨⟨k, hfound⟩, hpd⟩,
      hfinds.wf.delegations_id k d hfound⟩

end Repository

end PiaOs
