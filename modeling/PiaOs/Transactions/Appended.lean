import Mathlib.Data.List.Nodup
import Mathlib.Data.List.Sort
import Mathlib.Logic.Function.Basic

/-!
# Rows that are only inserted, under a unique key

Several sessions over one table without updates or deletions. An insertion waits while another
session has a row of its key, and the index refuses it when the session sees one.
-/

namespace Transactions

/-- The committed rows, and what each session has inserted since. -/
structure Appended (ρ : Type) where
  table : List ρ := []
  pending : ℕ → List ρ := fun _ => []

namespace Appended

variable {ρ κ : Type} (key : ρ → κ) (S : Appended ρ) (i : ℕ)

/-- What a session sees. -/
def view : List ρ := S.table ++ S.pending i

def keys : List κ := (S.view i).map key

/-- Another session has inserted a row of the key. -/
def Waits (k : κ) : Prop := ∃ j, j ≠ i ∧ k ∈ (S.pending j).map key

def insert (row : ρ) : Appended ρ :=
  { S with pending := Function.update S.pending i (S.pending i ++ [row]) }

def commit : Appended ρ := ⟨S.view i, Function.update S.pending i []⟩

def rollback : Appended ρ := { S with pending := Function.update S.pending i [] }

/-! ## The unique key -/

/-- No session sees a key twice, and no two of them have inserted the same one. -/
structure Sound : Prop where
  nodup : ∀ i, (S.keys key i).Nodup
  apart : ∀ i j, i ≠ j → ((S.pending i).map key).Disjoint ((S.pending j).map key)

variable {key S i}

theorem keys_eq : S.keys key i = S.table.map key ++ (S.pending i).map key := by
  unfold keys view
  rw [List.map_append]

theorem Sound.empty : Sound key ({} : Appended ρ) where
  nodup _ := List.nodup_nil
  apart _ _ _ := List.disjoint_nil_left _

/-- Rows that a session sees are told apart by their keys. -/
theorem Sound.eq_of_key (h : S.Sound key) {row row' : ρ} (hrow : row ∈ S.view i)
    (hrow' : row' ∈ S.view i) (hkey : key row = key row') : row = row' :=
  List.inj_on_of_nodup_map (h.nodup i) hrow hrow' hkey

theorem Sound.table_nodup (h : S.Sound key) : (S.table.map key).Nodup := by
  have hnodup := h.nodup 0
  rw [keys_eq] at hnodup
  exact hnodup.of_append_left

theorem pending_insert {row : ρ} {j : ℕ} :
    (S.insert i row).pending j = if j = i then S.pending i ++ [row] else S.pending j :=
  Function.update_apply _ _ _ _

theorem pending_clear {rows : List ρ} {j : ℕ} :
    (⟨rows, Function.update S.pending i []⟩ : Appended ρ).pending j =
      if j = i then [] else S.pending j :=
  Function.update_apply _ _ _ _

/-- An insertion that neither waits nor is refused keeps the key unique. -/
theorem Sound.insert (h : S.Sound key) {row : ρ} (hwaits : ¬S.Waits key i (key row))
    (hfree : key row ∉ S.keys key i) : (S.insert i row).Sound key := by
  have hother {j : ℕ} (hj : j ≠ i) : key row ∉ (S.pending j).map key :=
    fun hmem => hwaits ⟨j, hj, hmem⟩
  constructor
  · intro j
    have hnodup := h.nodup j
    rw [keys_eq] at hnodup ⊢
    rw [pending_insert]
    by_cases hj : j = i
    · subst hj
      rw [if_pos rfl, List.map_append, ← List.append_assoc]
      refine hnodup.append (List.nodup_singleton _) ?_
      intro k hk hsingle
      rw [List.map_singleton, List.mem_singleton] at hsingle
      subst hsingle
      exact hfree (keys_eq ▸ hk)
    · rw [if_neg hj]
      exact hnodup
  · intro j j' hne
    have hapart := h.apart j j' hne
    rw [pending_insert, pending_insert]
    by_cases hj : j = i
    · subst hj
      rw [if_pos rfl, if_neg (Ne.symm hne), List.map_append, List.disjoint_append_left]
      exact ⟨hapart, by simpa using hother (Ne.symm hne)⟩
    · by_cases hj' : j' = i
      · subst hj'
        rw [if_neg hj, if_pos rfl, List.map_append, List.disjoint_append_right]
        exact ⟨hapart, by simpa using hother hj⟩
      · rw [if_neg hj, if_neg hj']
        exact hapart

theorem Sound.rollback (h : S.Sound key) (i : ℕ) : (S.rollback i).Sound key := by
  unfold Appended.rollback
  constructor
  · intro j
    have hnodup := h.nodup j
    rw [keys_eq] at hnodup ⊢
    rw [pending_clear]
    split
    · simpa using hnodup.of_append_left
    · exact hnodup
  · intro j j' hne
    rw [pending_clear, pending_clear]
    split
    · exact List.disjoint_nil_left _
    · split
      · exact List.disjoint_nil_right _
      · exact h.apart j j' hne

/-- What a session commits does not meet the rows of the others. -/
theorem Sound.commit (h : S.Sound key) (i : ℕ) : (S.commit i).Sound key := by
  unfold Appended.commit
  constructor
  · intro j
    rw [keys_eq, pending_clear]
    split
    · rw [List.map_nil, List.append_nil]
      exact h.nodup i
    · rename_i hj
      have hother := h.nodup j
      rw [keys_eq] at hother
      refine (h.nodup i).append hother.of_append_right ?_
      rw [keys_eq, List.disjoint_append_left]
      exact ⟨List.disjoint_of_nodup_append hother, h.apart i j (Ne.symm hj)⟩
  · intro j j' hne
    rw [pending_clear, pending_clear]
    split
    · exact List.disjoint_nil_left _
    · split
      · exact List.disjoint_nil_right _
      · exact h.apart j j' hne

end Appended

/-! ## The greatest row -/

section Greatest

variable {ρ : Type} (rank : ρ → ℤ) {rows rows' : List ρ} {p : ρ → Bool} {row : ρ}

/-- `WHERE p ORDER BY rank DESC LIMIT 1`. -/
def greatest (p : ρ → Bool) (rows : List ρ) : Option ρ :=
  ((rows.filter p).insertionSort fun a b => rank b ≤ rank a).head?

/-- The first row of an order is a row, and none comes before it. -/
theorem of_greatest (h : greatest rank p rows = some row) :
    row ∈ rows ∧ p row = true ∧ ∀ other ∈ rows, p other = true → rank other ≤ rank row := by
  have htotal : Std.Total fun a b : ρ => rank b ≤ rank a := ⟨fun a b => le_total _ _⟩
  have htrans : IsTrans ρ fun a b : ρ => rank b ≤ rank a := ⟨fun _ _ _ hab hbc => hbc.trans hab⟩
  have hsorted := List.pairwise_insertionSort (fun a b : ρ => rank b ≤ rank a) (rows.filter p)
  have hmem {r : ρ} : r ∈ (rows.filter p).insertionSort (fun a b => rank b ≤ rank a) ↔
      r ∈ rows ∧ p r = true := by
    rw [List.mem_insertionSort, List.mem_filter]
  obtain ⟨rest, hrest⟩ := List.head?_eq_some_iff.mp h
  rw [hrest] at hsorted hmem
  obtain ⟨hrow, hp⟩ := hmem.mp List.mem_cons_self
  refine ⟨hrow, hp, fun other hother hpo => ?_⟩
  rcases List.mem_cons.mp (hmem.mpr ⟨hother, hpo⟩) with rfl | hlater
  · exact le_refl _
  · exact (List.pairwise_cons.mp hsorted).1 other hlater

theorem greatest_eq_none : greatest rank p rows = none ↔ ∀ row ∈ rows, p row = false := by
  unfold greatest
  rw [List.head?_eq_none_iff, ← List.length_eq_zero_iff, List.length_insertionSort,
    List.length_eq_zero_iff, List.filter_eq_nil_iff]
  simp only [Bool.not_eq_true]

variable {rank}

/-- When no two rows that pass have one rank, the answer is the row above all the others. -/
theorem greatest_eq_some (hrank : ∀ a ∈ rows, ∀ b ∈ rows, p a = true → p b = true →
      rank a = rank b → a = b) :
    greatest rank p rows = some row ↔
      row ∈ rows ∧ p row = true ∧ ∀ other ∈ rows, p other = true → rank other ≤ rank row := by
  refine ⟨of_greatest rank, fun ⟨hrow, hp, htop⟩ => ?_⟩
  cases hgreatest : greatest rank p rows with
  | none =>
    have hfalse := (greatest_eq_none rank).mp hgreatest row hrow
    rw [hp] at hfalse
    cases hfalse
  | some other =>
    obtain ⟨hother, hpo, htop'⟩ := of_greatest rank hgreatest
    have hsame : rank other = rank row := le_antisymm (htop other hother hpo) (htop' row hrow hp)
    rw [hrank other hother row hrow hpo hp hsame]

/-- The answer depends on which rows there are, not on their order. -/
theorem greatest_perm (hperm : rows.Perm rows') (hrank : ∀ a ∈ rows, ∀ b ∈ rows, p a = true →
    p b = true → rank a = rank b → a = b) : greatest rank p rows = greatest rank p rows' := by
  have hrank' : ∀ a ∈ rows', ∀ b ∈ rows', p a = true → p b = true → rank a = rank b → a = b :=
    fun a ha b hb => hrank a (hperm.mem_iff.mpr ha) b (hperm.mem_iff.mpr hb)
  refine Option.ext fun row => ?_
  rw [greatest_eq_some hrank, greatest_eq_some hrank']
  simp only [hperm.mem_iff]

/-- New rows change the answer only when one of them passes and is above the old ones. -/
theorem of_greatest_append_ne {new : List ρ} (hrank : ∀ a ∈ rows ++ new, ∀ b ∈ rows ++ new,
      p a = true → p b = true → rank a = rank b → a = b)
    (hne : greatest rank p (rows ++ new) ≠ greatest rank p rows) :
    ∃ row ∈ new, p row = true ∧ ∀ other ∈ rows, p other = true → rank other < rank row := by
  have hold : ∀ a ∈ rows, ∀ b ∈ rows, p a = true → p b = true → rank a = rank b → a = b :=
    fun a ha b hb => hrank a (List.mem_append_left _ ha) b (List.mem_append_left _ hb)
  cases htop : greatest rank p (rows ++ new) with
  | none =>
    rw [htop] at hne
    have hnone := (greatest_eq_none rank).mp htop
    have hrows : greatest rank p rows = none :=
      (greatest_eq_none rank).mpr fun row hrow => hnone row (List.mem_append_left _ hrow)
    exact absurd hrows.symm hne
  | some top =>
    obtain ⟨hmem, hp, habove⟩ := of_greatest rank htop
    have hnot : top ∉ rows := by
      intro hin
      have hrows : greatest rank p rows = some top := (greatest_eq_some hold).mpr
        ⟨hin, hp, fun other hother => habove other (List.mem_append_left _ hother)⟩
      exact hne (htop.trans hrows.symm)
    refine ⟨top, (List.mem_append.mp hmem).resolve_left hnot, hp, fun other hother hpo => ?_⟩
    have hle := habove other (List.mem_append_left _ hother) hpo
    refine lt_of_le_of_ne hle fun hsame => hnot ?_
    rwa [← hrank other (List.mem_append_left _ hother) top hmem hpo hp hsame]

end Greatest

end Transactions
