import PiaOs.Support.Table

/-!
# Rows under a partial unique index

Several transactions over one table, each with rows of its own that the others do not see until
it commits. A statement waits while another transaction has written its row, and an insertion
also while another one has an entry of its key in the index. A live row is in the index; a row
that stops being live is not.
-/

namespace Transactions

open Support

/-- A partial unique index: the key of a row, and whether the row is in it. -/
structure Index (ρ κ : Type) where
  key : ρ → κ
  live : ρ → Bool

/-- The committed rows, and the rows that each open transaction has written. -/
structure Rows (ι ρ : Type) where
  table : Table ι ρ := ∅
  pending : Table ℕ (Table ι ρ) := ∅

namespace Rows

variable {ι ρ κ : Type} [DecidableEq ι]

def own (S : Rows ι ρ) (i : ℕ) : Table ι ρ := (S.pending.lookup i).getD ∅

/-- What a transaction sees. -/
def view (S : Rows ι ρ) (i : ℕ) : Table ι ρ := S.own i ∪ S.table

/-- A transaction has an entry of a key: it inserted the row, or the committed one is live. -/
def Enters (I : Index ρ κ) (S : Rows ι ρ) (own : Table ι ρ) (k : κ) : Prop :=
  ∃ id r, own.lookup id = some r ∧ (I.key r = k ∧ (S.table.lookup id).all I.live = true)

instance decidableEnters [DecidableEq κ] (I : Index ρ κ) (S : Rows ι ρ) (own : Table ι ρ) (k : κ) :
    Decidable (S.Enters I own k) :=
  inferInstanceAs (Decidable (∃ _ _, _ ∧ _))

/-- Another transaction has written the row. -/
def Written (S : Rows ι ρ) (i : ℕ) (id : ι) : Prop :=
  ∃ j own, S.pending.lookup j = some own ∧ (j ≠ i ∧ (own.lookup id).isSome = true)

instance decidableWritten (S : Rows ι ρ) (i : ℕ) (id : ι) : Decidable (S.Written i id) :=
  inferInstanceAs (Decidable (∃ _ _, _ ∧ _))

/-- Another transaction has an entry of the key. -/
def Entered (I : Index ρ κ) (S : Rows ι ρ) (i : ℕ) (k : κ) : Prop :=
  ∃ j own, S.pending.lookup j = some own ∧ (j ≠ i ∧ S.Enters I own k)

instance decidableEntered [DecidableEq κ] (I : Index ρ κ) (S : Rows ι ρ) (i : ℕ) (k : κ) :
    Decidable (S.Entered I i k) :=
  inferInstanceAs (Decidable (∃ _ _, _ ∧ _))

/-- A live row of the key is seen. -/
def Present (I : Index ρ κ) (S : Rows ι ρ) (i : ℕ) (k : κ) : Prop :=
  ∃ id r, (S.view i).lookup id = some r ∧ (I.live r = true ∧ I.key r = k)

instance decidablePresent [DecidableEq κ] (I : Index ρ κ) (S : Rows ι ρ) (i : ℕ) (k : κ) :
    Decidable (S.Present I i k) :=
  inferInstanceAs (Decidable (∃ _ _, _ ∧ _))

def put (S : Rows ι ρ) (i : ℕ) (id : ι) (row : ρ) : Rows ι ρ :=
  { S with pending := S.pending.insert i ((S.own i).insert id row) }

/-- `INSERT` of a live row. It waits, or the index refuses it, or the row is written. -/
def insert [DecidableEq κ] (I : Index ρ κ) (S : Rows ι ρ) (i : ℕ) (id : ι) (row : ρ) :
    Option (Option (Rows ι ρ)) :=
  if S.Written i id ∨ S.Entered I i (I.key row) then none
  else if ((S.view i).lookup id).isSome = true ∨ S.Present I i (I.key row) then some none
  else some (some (S.put i id row))

/-- `UPDATE` of one row, as it is when the statement runs. -/
def update (S : Rows ι ρ) (i : ℕ) (id : ι) (f : ρ → ρ) : Option (Rows ι ρ) :=
  if S.Written i id then none
  else match (S.view i).lookup id with
    | none => some S
    | some r => some (S.put i id (f r))

def commit (S : Rows ι ρ) (i : ℕ) : Rows ι ρ where
  table := S.view i
  pending := S.pending.erase i

def rollback (S : Rows ι ρ) (i : ℕ) : Rows ι ρ := { S with pending := S.pending.erase i }

/-! ## What the operations do to a look at a row -/

section Lookups

variable {S : Rows ι ρ} {I : Index ρ κ} {i j : ℕ} {id id' : ι} {row : ρ} {k : κ}

theorem lookup_view : (S.view i).lookup id = ((S.own i).lookup id).or (S.table.lookup id) := by
  unfold view
  by_cases hmem : id ∈ S.own i
  · rw [AList.lookup_union_left hmem]
    obtain ⟨r, hr⟩ := Option.isSome_iff_exists.mp (AList.lookup_isSome.mpr hmem)
    rw [hr, Option.some_or]
  · rw [AList.lookup_union_right hmem, AList.lookup_eq_none.mpr hmem, Option.none_or]

theorem view_own {r : ρ} (h : (S.own i).lookup id = some r) : (S.view i).lookup id = some r := by
  rw [lookup_view, h, Option.some_or]

theorem view_table (h : (S.own i).lookup id = none) :
    (S.view i).lookup id = S.table.lookup id := by
  rw [lookup_view, h, Option.none_or]

/-- A row that is seen was written by the transaction itself or is committed. -/
theorem view_cases {r : ρ} (h : (S.view i).lookup id = some r) :
    (S.own i).lookup id = some r ∨ (S.own i).lookup id = none ∧ S.table.lookup id = some r := by
  cases hown : (S.own i).lookup id with
  | none => exact .inr ⟨rfl, by rwa [view_table hown] at h⟩
  | some r' => exact .inl (by rwa [view_own hown] at h)

theorem own_put : (S.put i id row).own j = if j = i then (S.own i).insert id row else S.own j := by
  unfold put own
  rw [Table.lookup_insert_ite]
  split <;> rfl

theorem lookup_own_put : ((S.put i id row).own j).lookup id' =
    if j = i ∧ id' = id then some row else (S.own j).lookup id' := by
  rw [own_put]
  by_cases hj : j = i
  · subst hj
    simp [Table.lookup_insert_ite]
  · simp [hj]

theorem lookup_view_put : ((S.put i id row).view j).lookup id' =
    if j = i ∧ id' = id then some row else (S.view j).lookup id' := by
  rw [lookup_view, lookup_own_put, lookup_view]
  split <;> rfl

omit [DecidableEq ι] in
theorem own_erase {table : Table ι ρ} :
    own ⟨table, S.pending.erase i⟩ j = if j = i then ∅ else S.own j := by
  unfold own
  by_cases hj : j = i
  · rw [hj, if_pos rfl, AList.lookup_erase]
    rfl
  · rw [if_neg hj, AList.lookup_erase_ne hj]

theorem own_commit : (S.commit i).own j = if j = i then ∅ else S.own j := own_erase

omit [DecidableEq ι] in
theorem own_rollback : (S.rollback i).own j = if j = i then ∅ else S.own j := own_erase

/-- A row of a transaction is one of an open transaction. -/
theorem pending_of_own {r : ρ} (h : (S.own i).lookup id = some r) :
    S.pending.lookup i = some (S.own i) := by
  cases hpending : S.pending.lookup i with
  | none =>
    rw [own, hpending, Option.getD_none] at h
    cases h
  | some own => rw [Rows.own, hpending, Option.getD_some]

theorem not_written (h : ¬S.Written i id) (hj : j ≠ i) : (S.own j).lookup id = none := by
  cases hown : (S.own j).lookup id with
  | none => rfl
  | some r => exact absurd ⟨j, S.own j, pending_of_own hown, hj, by rw [hown]; rfl⟩ h

theorem not_entered (h : ¬S.Entered I i k) (hj : j ≠ i) : ¬S.Enters I (S.own j) k := by
  rintro ⟨id, r, hown, hrest⟩
  exact h ⟨j, S.own j, pending_of_own hown, hj, id, r, hown, hrest⟩

end Lookups

/-! ## The invariant -/

/-- What holds whatever the transactions do: no two of them have written one row or entered one
key, and who has entered a key has written every live row of it. -/
structure Sound (I : Index ρ κ) (S : Rows ι ρ) : Prop where
  versions : ∀ i id r c, (S.own i).lookup id = some r → S.table.lookup id = some c →
    I.key r = I.key c ∧ (I.live r = true → I.live c = true)
  disjoint : ∀ i j id, (S.own i).lookup id ≠ none → (S.own j).lookup id ≠ none → i = j
  exclusive : ∀ i j k, S.Enters I (S.own i) k → S.Enters I (S.own j) k → i = j
  covered : ∀ i k id c, S.Enters I (S.own i) k → S.table.lookup id = some c →
    I.live c = true → I.key c = k → (S.own i).lookup id ≠ none
  unique : ∀ i id id' r r', (S.view i).lookup id = some r → (S.view i).lookup id' = some r' →
    I.live r = true → I.live r' = true → I.key r = I.key r' → id = id'
  single : ∀ id id' r r', S.table.lookup id = some r → S.table.lookup id' = some r' →
    I.live r = true → I.live r' = true → I.key r = I.key r' → id = id'

theorem Sound.empty (I : Index ρ κ) : Sound I ({} : Rows ι ρ) := by
  have hown (i : ℕ) (id : ι) : ((({} : Rows ι ρ).own i).lookup id) = none := rfl
  have hview (i : ℕ) (id : ι) : ((({} : Rows ι ρ).view i).lookup id) = none := rfl
  refine ⟨?_, ?_, ?_, ?_, ?_, ?_⟩
  · intro i id r c h
    rw [hown] at h
    cases h
  · intro i j id h
    exact absurd (hown i id) h
  · rintro i j k ⟨id, r, h, -⟩
    rw [hown] at h
    cases h
  · rintro i k id c ⟨id', r, h, -⟩
    rw [hown] at h
    cases h
  · intro i id id' r r' h
    rw [hview] at h
    cases h
  · intro id id' r r' h
    cases h

section Steps

variable {S : Rows ι ρ} {I : Index ρ κ} {i j : ℕ} {id : ι} {row : ρ} {k : κ}

/-- An entry after a write is an earlier one, or the one of the written row. -/
theorem enters_put (h : (S.put i id row).Enters I ((S.put i id row).own j) k) :
    S.Enters I (S.own j) k ∨
      j = i ∧ I.key row = k ∧ (S.table.lookup id).all I.live = true := by
  obtain ⟨id', r, hown, hkey, hlive⟩ := h
  rw [lookup_own_put] at hown
  split at hown
  case isTrue hsame =>
    obtain ⟨rfl, rfl⟩ := hsame
    obtain rfl := Option.some.inj hown
    exact .inr ⟨rfl, hkey, hlive⟩
  case isFalse => exact .inl ⟨id', r, hown, hkey, hlive⟩

/-- A write keeps the invariant when no other transaction is in its way. -/
theorem Sound.put (h : Sound I S) (hfree : ¬S.Written i id)
    (hversion : ∀ c, S.table.lookup id = some c →
      I.key row = I.key c ∧ (I.live row = true → I.live c = true))
    (halone : (S.table.lookup id).all I.live = true →
      ∀ j, S.Enters I (S.own j) (I.key row) → j = i)
    (hcovered : (S.table.lookup id).all I.live = true → ∀ id' c, S.table.lookup id' = some c →
      I.live c = true → I.key c = I.key row → id' = id ∨ (S.own i).lookup id' ≠ none)
    (hunique : I.live row = true → ∀ id' r, (S.view i).lookup id' = some r → I.live r = true →
      I.key r = I.key row → id' = id) : Sound I (S.put i id row) := by
  refine ⟨?_, ?_, ?_, ?_, ?_, h.single⟩
  · intro j id' r c hown hc
    rw [lookup_own_put] at hown
    split at hown
    case isTrue hsame =>
      obtain ⟨rfl, rfl⟩ := hsame
      obtain rfl := Option.some.inj hown
      exact hversion c hc
    case isFalse => exact h.versions j id' r c hown hc
  · intro j j' id' hj hj'
    rw [lookup_own_put] at hj hj'
    by_cases hid : id' = id
    · subst hid
      have hothers {m : ℕ} (hm : m ≠ i) : (S.own m).lookup id' = none := not_written hfree hm
      by_cases hji : j = i
      · by_cases hji' : j' = i
        · rw [hji, hji']
        · rw [if_neg (fun hboth => hji' hboth.1), hothers hji'] at hj'
          exact absurd rfl hj'
      · rw [if_neg (fun hboth => hji hboth.1), hothers hji] at hj
        exact absurd rfl hj
    · rw [if_neg (fun hboth => hid hboth.2)] at hj hj'
      exact h.disjoint j j' id' hj hj'
  · intro j j' k hj hj'
    rcases enters_put hj with hold | ⟨rfl, rfl, hlive⟩ <;>
      rcases enters_put hj' with hold' | ⟨rfl, hkey, hlive'⟩
    · exact h.exclusive j j' k hold hold'
    · exact halone hlive' j (hkey ▸ hold)
    · exact (halone hlive j' hold').symm
    · rfl
  · intro j k id' c hj hc hlive hkey
    rw [lookup_own_put]
    split
    case isTrue => exact Option.some_ne_none row
    case isFalse hother =>
      rcases enters_put hj with hj | ⟨rfl, rfl, hentry⟩
      · exact h.covered j k id' c hj hc hlive hkey
      · rcases hcovered hentry id' c hc hlive hkey with rfl | hown
        · exact absurd ⟨rfl, rfl⟩ hother
        · exact hown
  · intro j id' id'' r r' hr hr' hlive hlive' hkey
    rw [lookup_view_put] at hr hr'
    by_cases hji : j = i
    · subst hji
      simp only [true_and] at hr hr'
      by_cases hid : id' = id <;> by_cases hid' : id'' = id
      · rw [hid, hid']
      · rw [if_pos hid] at hr
        rw [if_neg hid'] at hr'
        obtain rfl := Option.some.inj hr
        exact absurd (hunique hlive id'' r' hr' hlive' hkey.symm) hid'
      · rw [if_neg hid] at hr
        rw [if_pos hid'] at hr'
        obtain rfl := Option.some.inj hr'
        exact absurd (hunique hlive' id' r hr hlive hkey) hid
      · rw [if_neg hid] at hr
        rw [if_neg hid'] at hr'
        exact h.unique j id' id'' r r' hr hr' hlive hlive' hkey
    · rw [if_neg (fun hboth => hji hboth.1)] at hr hr'
      exact h.unique j id' id'' r r' hr hr' hlive hlive' hkey

/-- What an insertion that is taken has found. -/
theorem insert_taken [DecidableEq κ] {S' : Rows ι ρ} (hins : S.insert I i id row = some (some S')) :
    ¬S.Written i id ∧ ¬S.Entered I i (I.key row) ∧ (S.view i).lookup id = none ∧
      ¬S.Present I i (I.key row) ∧ S' = S.put i id row := by
  unfold insert at hins
  split at hins
  · cases hins
  case isFalse hwait =>
    split at hins
    · cases hins
    case isFalse hrefused =>
      obtain ⟨hwritten, hentered⟩ := not_or.mp hwait
      obtain ⟨hid, hpresent⟩ := not_or.mp hrefused
      exact ⟨hwritten, hentered, by simpa using hid, hpresent,
        (Option.some.inj (Option.some.inj hins)).symm⟩

theorem insert_free [DecidableEq κ] (hwritten : ¬S.Written i id) (hentered : ¬S.Entered I i (I.key row))
    (hid : (S.view i).lookup id = none) (hpresent : ¬S.Present I i (I.key row)) :
    S.insert I i id row = some (some (S.put i id row)) := by
  unfold insert
  rw [if_neg (not_or.mpr ⟨hwritten, hentered⟩), if_neg (not_or.mpr ⟨by simp [hid], hpresent⟩)]

theorem Sound.insert [DecidableEq κ] (h : Sound I S) {S' : Rows ι ρ}
    (hins : S.insert I i id row = some (some S')) : Sound I S' := by
  obtain ⟨hwritten, hentered, hid, hpresent, rfl⟩ := insert_taken hins
  have htable : S.table.lookup id = none := by
    rw [lookup_view] at hid
    exact (Option.or_eq_none_iff.mp hid).2
  refine h.put hwritten ?_ ?_ ?_ ?_
  · intro c hc
    rw [htable] at hc
    cases hc
  · intro _ j hj
    by_contra hne
    exact not_entered hentered hne hj
  · intro _ id' c hc hlive hkey
    right
    intro hnone
    exact hpresent ⟨id', c, by rw [view_table hnone, hc], hlive, hkey⟩
  · intro _ id' r hr hlive hkey
    exact absurd ⟨id', r, hr, hlive, hkey⟩ hpresent

/-- What an update that is done has found. -/
theorem update_done {S' : Rows ι ρ} {f : ρ → ρ} (hupd : S.update i id f = some S') :
    ¬S.Written i id ∧ ((S.view i).lookup id = none ∧ S' = S ∨
      ∃ r, (S.view i).lookup id = some r ∧ S' = S.put i id (f r)) := by
  unfold update at hupd
  split at hupd
  · cases hupd
  case isFalse hwritten =>
    refine ⟨hwritten, ?_⟩
    split at hupd
    case h_1 hnone => exact .inl ⟨hnone, (Option.some.inj hupd).symm⟩
    case h_2 r hr => exact .inr ⟨r, hr, (Option.some.inj hupd).symm⟩

/-- An update may take a row out of the index, and leaves its key. -/
theorem Sound.update (h : Sound I S) {S' : Rows ι ρ} {f : ρ → ρ}
    (hkey : ∀ r, I.key (f r) = I.key r) (hlive : ∀ r, I.live (f r) = true → I.live r = true)
    (hupd : S.update i id f = some S') : Sound I S' := by
  obtain ⟨hwritten, ⟨-, rfl⟩ | ⟨r, hr, rfl⟩⟩ := update_done hupd
  · exact h
  refine h.put hwritten ?_ ?_ ?_ ?_
  · intro c hc
    rw [hkey]
    rcases view_cases hr with hown | ⟨-, htable⟩
    · obtain ⟨hsame, hlives⟩ := h.versions i id r c hown hc
      exact ⟨hsame, fun hf => hlives (hlive r hf)⟩
    · obtain rfl := Option.some.inj (hc.symm.trans htable)
      exact ⟨rfl, hlive c⟩
  · intro hentry j hj
    rw [hkey] at hj
    rcases view_cases hr with hown | ⟨-, htable⟩
    · exact h.exclusive j i _ hj ⟨id, r, hown, rfl, hentry⟩
    · rw [htable] at hentry
      by_contra hne
      exact h.covered j _ id r hj htable hentry rfl (not_written hwritten hne)
  · intro hentry id' c hc hlivec hkeyc
    rw [hkey] at hkeyc
    rcases view_cases hr with hown | ⟨-, htable⟩
    · exact .inr (h.covered i _ id' c ⟨id, r, hown, rfl, hentry⟩ hc hlivec hkeyc)
    · rw [htable] at hentry
      exact .inl (h.single id' id c r hc htable hlivec hentry hkeyc)
  · intro hf id' r' hr' hlive' hkey'
    rw [hkey] at hkey'
    exact h.unique i id' id r' r hr' hr hlive' (hlive r hf) hkey'

/-- A live row that is taken out of the index leaves its key free for the same transaction. -/
theorem Sound.free_after (h : Sound I S) {f : ρ → ρ}
    (hdead : ∀ r, I.live (f r) = false) {r : ρ} (hr : (S.view i).lookup id = some r)
    (hlive : I.live r = true) (hwritten : ¬S.Written i id) :
    ¬(S.put i id (f r)).Entered I i (I.key r) ∧ ¬(S.put i id (f r)).Present I i (I.key r) := by
  have hentry : (S.table.lookup id).all I.live = true := by
    rcases view_cases hr with hown | ⟨-, htable⟩
    · cases hc : S.table.lookup id with
      | none => rfl
      | some c => exact (h.versions i id r c hown hc).2 hlive
    · rw [htable]
      exact hlive
  constructor
  · rintro ⟨j, own, hpending, hj, hent⟩
    have hown : own = S.own j := by
      have hpending : (S.pending.insert i ((S.own i).insert id (f r))).lookup j = some own := hpending
      rw [AList.lookup_insert_ne hj] at hpending
      rw [Rows.own, hpending, Option.getD_some]
    rw [hown] at hent
    have hent : S.Enters I (S.own j) (I.key r) := hent
    rcases view_cases hr with hmine | ⟨-, htable⟩
    · exact hj (h.exclusive j i _ hent ⟨id, r, hmine, rfl, hentry⟩)
    · exact h.covered j _ id r hent htable hlive rfl (not_written hwritten hj)
  · rintro ⟨id', r', hr', hlive', hkey'⟩
    rw [lookup_view_put] at hr'
    split at hr'
    case isTrue =>
      obtain rfl := Option.some.inj hr'
      rw [hdead] at hlive'
      cases hlive'
    case isFalse hother =>
      exact hother ⟨rfl, h.unique i id' id r' r hr' hr hlive' hlive hkey'⟩

/-- What the others have written is not in what a transaction commits. -/
theorem Sound.table_commit (h : Sound I S) (hj : j ≠ i) {r : ρ} (hown : (S.own j).lookup id = some r) :
    (S.commit i).table.lookup id = S.table.lookup id := by
  refine view_table ?_
  cases hmine : (S.own i).lookup id with
  | none => rfl
  | some r' =>
    refine absurd (h.disjoint j i id ?_ ?_) hj
    · rw [hown]
      exact Option.some_ne_none r
    · rw [hmine]
      exact Option.some_ne_none r'

theorem Sound.commit (h : Sound I S) (i : ℕ) : Sound I (S.commit i) := by
  have hothers {j : ℕ} {id : ι} {r : ρ} (hown : ((S.commit i).own j).lookup id = some r) :
      j ≠ i ∧ (S.own j).lookup id = some r := by
    rw [own_commit] at hown
    split at hown
    · cases hown
    case isFalse hj => exact ⟨hj, hown⟩
  have henters {j : ℕ} {k : κ} (hj : (S.commit i).Enters I ((S.commit i).own j) k) :
      j ≠ i ∧ S.Enters I (S.own j) k := by
    obtain ⟨id, r, hown, hkey, hlive⟩ := hj
    obtain ⟨hne, hown⟩ := hothers hown
    rw [h.table_commit hne hown] at hlive
    exact ⟨hne, id, r, hown, hkey, hlive⟩
  -- A live row that a transaction has written is an entry of its own.
  have hmine {m : ℕ} {id : ι} {r : ρ} (hown : (S.own m).lookup id = some r) (hlive : I.live r = true) :
      S.Enters I (S.own m) (I.key r) := by
    refine ⟨id, r, hown, rfl, ?_⟩
    cases hc : S.table.lookup id with
    | none => rfl
    | some c => exact (h.versions m id r c hown hc).2 hlive
  have hcross {j : ℕ} {id id' : ι} {r r' : ρ} (hown : ((S.commit i).own j).lookup id = some r)
      (hlive : I.live r = true) (hr' : (S.commit i).table.lookup id' = some r')
      (hlive' : I.live r' = true) (hkey : I.key r = I.key r')
      (hnone : ((S.commit i).own j).lookup id' = none) : id = id' := by
    obtain ⟨hne, hown⟩ := hothers hown
    rw [own_commit, if_neg hne] at hnone
    rcases view_cases hr' with hown' | ⟨-, htable⟩
    · exact absurd (h.exclusive j i _ (hmine hown hlive) (hkey ▸ hmine hown' hlive')) hne
    · rw [← view_table hnone] at htable
      exact h.unique j id id' r r' (view_own hown) htable hlive hlive' hkey
  refine ⟨?_, ?_, ?_, ?_, ?_, ?_⟩
  · intro j id r c hown hc
    obtain ⟨hne, hown⟩ := hothers hown
    rw [h.table_commit hne hown] at hc
    exact h.versions j id r c hown hc
  · intro j j' id hj hj'
    obtain ⟨r, hr⟩ := Option.ne_none_iff_exists'.mp hj
    obtain ⟨r', hr'⟩ := Option.ne_none_iff_exists'.mp hj'
    refine h.disjoint j j' id ?_ ?_
    · rw [(hothers hr).2]
      exact Option.some_ne_none r
    · rw [(hothers hr').2]
      exact Option.some_ne_none r'
  · intro j j' k hj hj'
    exact h.exclusive j j' k (henters hj).2 (henters hj').2
  · intro j k id c hj hc hlive hkey
    obtain ⟨hne, hj⟩ := henters hj
    rw [own_commit, if_neg hne]
    rcases view_cases hc with hown | ⟨-, htable⟩
    · exact absurd (h.exclusive j i k hj (hkey ▸ hmine hown hlive)) hne
    · exact h.covered j k id c hj htable hlive hkey
  · intro j id id' r r' hr hr' hlive hlive' hkey
    rcases view_cases hr with hown | ⟨hnone, hr⟩ <;>
      rcases view_cases hr' with hown' | ⟨hnone', hr'⟩
    · exact h.unique j id id' r r' (view_own (hothers hown).2) (view_own (hothers hown').2) hlive
        hlive' hkey
    · exact hcross hown hlive hr' hlive' hkey hnone'
    · exact (hcross hown' hlive' hr hlive hkey.symm hnone).symm
    · exact h.unique i id id' r r' hr hr' hlive hlive' hkey
  · exact h.unique i

theorem Sound.rollback (h : Sound I S) (i : ℕ) : Sound I (S.rollback i) := by
  have hothers {j : ℕ} {id : ι} {r : ρ} (hown : ((S.rollback i).own j).lookup id = some r) :
      (S.own j).lookup id = some r := by
    rw [own_rollback] at hown
    split at hown
    · cases hown
    · exact hown
  have henters {j : ℕ} {k : κ} (hj : (S.rollback i).Enters I ((S.rollback i).own j) k) :
      j ≠ i ∧ S.Enters I (S.own j) k := by
    obtain ⟨id, r, hown, hrest⟩ := hj
    refine ⟨?_, id, r, hothers hown, hrest⟩
    rintro rfl
    rw [own_rollback, if_pos rfl] at hown
    cases hown
  refine ⟨?_, ?_, ?_, ?_, ?_, h.single⟩
  · intro j id r c hown hc
    exact h.versions j id r c (hothers hown) hc
  · intro j j' id hj hj'
    obtain ⟨r, hr⟩ := Option.ne_none_iff_exists'.mp hj
    obtain ⟨r', hr'⟩ := Option.ne_none_iff_exists'.mp hj'
    refine h.disjoint j j' id ?_ ?_
    · rw [hothers hr]
      exact Option.some_ne_none r
    · rw [hothers hr']
      exact Option.some_ne_none r'
  · intro j j' k hj hj'
    exact h.exclusive j j' k (henters hj).2 (henters hj').2
  · intro j k id c hj hc hlive hkey
    obtain ⟨hne, hj⟩ := henters hj
    rw [own_rollback, if_neg hne]
    exact h.covered j k id c hj hc hlive hkey
  · intro j id id' r r' hr hr' hlive hlive' hkey
    by_cases hji : j = i
    · have hown : (S.rollback i).own j = ∅ := by rw [own_rollback, if_pos hji]
      rw [view_table (by rw [hown]; rfl)] at hr hr'
      exact h.single id id' r r' hr hr' hlive hlive' hkey
    · have hview : (S.rollback i).view j = S.view j := by
        unfold view
        rw [own_rollback, if_neg hji]
        rfl
      rw [hview] at hr hr'
      exact h.unique j id id' r r' hr hr' hlive hlive' hkey

end Steps

end Rows

end Transactions
