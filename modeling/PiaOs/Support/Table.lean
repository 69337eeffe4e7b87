import Mathlib.Data.List.AList
import Mathlib.Data.List.Sort

/-!
# Keyed tables

A table maps each key to at most one row. Queries that list rows fix their order
by a key of their own, so that the answer depends only on which rows there are.
-/

namespace Support

/-- Rows stored under distinct keys. -/
abbrev Table (κ ρ : Type) := AList (fun _ : κ => ρ)

namespace Table

variable {κ ρ : Type} [DecidableEq κ]

/-- All rows, in no particular order. -/
def rows (t : Table κ ρ) : List ρ := t.entries.map Sigma.snd

/-- Changes the row under a key, when there is one. -/
def modify (k : κ) (f : ρ → ρ) (t : Table κ ρ) : Table κ ρ :=
  match t.lookup k with
  | none => t
  | some r => t.insert k (f r)

theorem lookup_insert_ite (t : Table κ ρ) (k k' : κ) (r : ρ) :
    (t.insert k r).lookup k' = if k' = k then some r else t.lookup k' := by
  split
  · subst k'
    exact AList.lookup_insert t
  · exact AList.lookup_insert_ne ‹_›

theorem lookup_modify (t : Table κ ρ) (k k' : κ) (f : ρ → ρ) :
    (modify k f t).lookup k' = if k' = k then (t.lookup k).map f else t.lookup k' := by
  unfold modify
  split
  case h_1 hk =>
    by_cases hkk : k' = k
    · rw [hkk, if_pos rfl, hk]
      rfl
    · rw [if_neg hkk]
  case h_2 r hk => simp [lookup_insert_ite, hk]

/-- A row after an insertion is the new one or an old one. -/
theorem insert_cases {t : Table κ ρ} {k k' : κ} {r r' : ρ}
    (h : (t.insert k r).lookup k' = some r') :
    k' = k ∧ r' = r ∨ k' ≠ k ∧ t.lookup k' = some r' := by
  rw [lookup_insert_ite] at h
  split at h
  · exact .inl ⟨‹_›, (Option.some.inj h).symm⟩
  · exact .inr ⟨‹_›, h⟩

/-- A row after a change is the changed one or an old one. -/
theorem modify_cases {t : Table κ ρ} {k k' : κ} {f : ρ → ρ} {r' : ρ}
    (h : (modify k f t).lookup k' = some r') :
    k' = k ∧ (∃ r, t.lookup k = some r ∧ r' = f r) ∨ k' ≠ k ∧ t.lookup k' = some r' := by
  rw [lookup_modify] at h
  split at h
  · obtain ⟨r, hr, hf⟩ := Option.map_eq_some_iff.mp h
    exact .inl ⟨‹_›, r, hr, hf.symm⟩
  · exact .inr ⟨‹_›, h⟩

/-- Insertions keep the key of a row equal to its identifier. -/
theorem insert_id {t : Table κ ρ} {row : ρ} {id : ρ → κ}
    (h : ∀ k r, t.lookup k = some r → id r = k) (k : κ) (r : ρ)
    (hr : (t.insert (id row) row).lookup k = some r) : id r = k := by
  obtain ⟨rfl, rfl⟩ | ⟨-, hr⟩ := insert_cases hr
  · rfl
  · exact h k r hr

/-- So do changes that keep the identifier. -/
theorem modify_id {t : Table κ ρ} {id : ρ → κ} {f : ρ → ρ} {k₀ : κ}
    (h : ∀ k r, t.lookup k = some r → id r = k) (hf : ∀ r, id (f r) = id r) (k : κ) (r : ρ)
    (hr : (modify k₀ f t).lookup k = some r) : id r = k := by
  obtain ⟨rfl, r₀, hr₀, rfl⟩ | ⟨-, hr⟩ := modify_cases hr
  · rw [hf, h _ r₀ hr₀]
  · exact h k r hr

theorem mem_rows {t : Table κ ρ} {r : ρ} : r ∈ rows t ↔ ∃ k, t.lookup k = some r := by
  simp only [rows, List.mem_map, Sigma.exists, exists_eq_right]
  exact exists_congr fun k => (AList.mem_lookup_iff (s := t)).symm

/-- Rows inserted one after another. -/
def insertAll : List (κ × ρ) → Table κ ρ → Table κ ρ
  | [], t => t
  | row :: rows, t => insertAll rows (t.insert row.1 row.2)

theorem lookup_insertAll_of_notMem {rows : List (κ × ρ)} {t : Table κ ρ} {k : κ}
    (h : k ∉ rows.map Prod.fst) : (insertAll rows t).lookup k = t.lookup k := by
  induction rows generalizing t with
  | nil => rfl
  | cons row rows ih =>
    rw [List.map_cons, List.mem_cons, not_or] at h
    rw [insertAll, ih h.2, AList.lookup_insert_ne h.1]

theorem lookup_insertAll_of_mem {rows : List (κ × ρ)} {t : Table κ ρ} {k : κ} {r : ρ}
    (hkeys : (rows.map Prod.fst).Nodup) (h : (k, r) ∈ rows) :
    (insertAll rows t).lookup k = some r := by
  induction rows generalizing t with
  | nil => cases h
  | cons row rows ih =>
    rw [List.map_cons, List.nodup_cons] at hkeys
    rcases List.mem_cons.mp h with rfl | hrest
    · rw [insertAll, lookup_insertAll_of_notMem hkeys.1, AList.lookup_insert]
    · exact ih hkeys.2 hrest

/-- A row after insertions is one of them or an old one. -/
theorem insertAll_cases {rows : List (κ × ρ)} {t : Table κ ρ} {k : κ} {r : ρ}
    (hkeys : (rows.map Prod.fst).Nodup) (h : (insertAll rows t).lookup k = some r) :
    (k, r) ∈ rows ∨ k ∉ rows.map Prod.fst ∧ t.lookup k = some r := by
  by_cases hmem : k ∈ rows.map Prod.fst
  · obtain ⟨⟨k', r'⟩, hrow, rfl⟩ := List.mem_map.mp hmem
    rw [lookup_insertAll_of_mem hkeys hrow] at h
    obtain rfl := Option.some.inj h
    exact .inl hrow
  · rw [lookup_insertAll_of_notMem hmem] at h
    exact .inr ⟨hmem, h⟩

/-- The key order of a listing: by the first component, then by the second. -/
def keyLe (a b : Int × Nat) : Bool := a.1 < b.1 || (a.1 == b.1 && a.2 ≤ b.2)

theorem keyLe_iff {a b : Int × Nat} :
    keyLe a b = true ↔ a.1 < b.1 ∨ a.1 = b.1 ∧ a.2 ≤ b.2 := by
  simp [keyLe]

/-- Rows that satisfy a condition, listed by a key. -/
def select (p : ρ → Bool) (key : ρ → Int × Nat) (t : Table κ ρ) : List ρ :=
  ((rows t).filter p).insertionSort fun a b => keyLe (key a) (key b) = true

theorem mem_select {p : ρ → Bool} {key : ρ → Int × Nat} {t : Table κ ρ} {r : ρ} :
    r ∈ select p key t ↔ (∃ k, t.lookup k = some r) ∧ p r = true := by
  simp [select, mem_rows]

theorem select_nodup {p : ρ → Bool} {key : ρ → Int × Nat} {t : Table κ ρ}
    (hinj : ∀ k k' r, t.lookup k = some r → t.lookup k' = some r → k = k') :
    (select p key t).Nodup := by
  refine (List.perm_insertionSort _ _).nodup_iff.mpr (List.Nodup.filter _ ?_)
  refine List.Nodup.map_on ?_ (List.NodupKeys.nodup t.nodupKeys)
  rintro ⟨k, r⟩ hk ⟨k', r'⟩ hk' heq
  obtain rfl : r = r' := heq
  obtain rfl := hinj k k' r (AList.mem_lookup_iff.mpr hk) (AList.mem_lookup_iff.mpr hk')
  rfl

/-- The identifiers of a listing do not repeat. -/
theorem select_ids_nodup {p q : ρ → Bool} {key : ρ → Int × Nat} {t : Table κ ρ} {id : ρ → κ}
    (hid : ∀ k r, t.lookup k = some r → id r = k) :
    (((select p key t).filter q).map id).Nodup := by
  refine List.Nodup.map_on ?_ (List.Nodup.filter _ (select_nodup ?_))
  · intro a ha b hb hab
    obtain ⟨⟨k, hk⟩, -⟩ := mem_select.mp (List.mem_filter.mp ha).1
    obtain ⟨⟨k', hk'⟩, -⟩ := mem_select.mp (List.mem_filter.mp hb).1
    rw [← hid k a hk, hab, hid k' b hk'] at hk
    exact Option.some.inj (hk.symm.trans hk')
  · intro k k' r hk hk'
    exact (hid k r hk).symm.trans (hid k' r hk')

private theorem filter_rows_nodup {p : ρ → Bool} {t : Table κ ρ} {id : ρ → κ}
    (hid : ∀ k r, t.lookup k = some r → id r = k) : ((rows t).filter p).Nodup := by
  refine List.Nodup.filter _ (List.Nodup.map_on ?_ (List.NodupKeys.nodup t.nodupKeys))
  rintro ⟨k, r⟩ hk ⟨k', r'⟩ hk' heq
  obtain rfl : r = r' := heq
  obtain rfl : k = k' :=
    (hid k r (AList.mem_lookup_iff.mpr hk)).symm.trans (hid k' r (AList.mem_lookup_iff.mpr hk'))
  rfl

section Decidable

variable {P : κ → ρ → Prop} [∀ k r, Decidable (P k r)] (t : Table κ ρ)

/-- What is said of every row can be checked. -/
instance decidableForall : Decidable (∀ k r, t.lookup k = some r → P k r) :=
  decidable_of_iff (∀ k ∈ t.keys, ∀ r ∈ t.lookup k, P k r)
    ⟨fun h k r hr => h k (AList.lookup_isSome.mp (by simp [hr])) r hr, fun h k _ r hr => h k r hr⟩

instance decidableExists : Decidable (∃ k r, t.lookup k = some r ∧ P k r) :=
  decidable_of_iff (∃ k ∈ t.keys, ∃ r ∈ t.lookup k, P k r)
    ⟨fun ⟨k, _, r, hr, hp⟩ => ⟨k, r, hr, hp⟩,
      fun ⟨k, r, hr, hp⟩ => ⟨k, AList.lookup_isSome.mp (by simp [hr]), r, hr, hp⟩⟩

end Decidable

end Table

end Support
