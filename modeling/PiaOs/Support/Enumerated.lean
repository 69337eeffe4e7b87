import Mathlib.Data.List.Sort

/-!
# Lists stored one row an element

A list goes into a table as one row for each element, which also holds its
position. Rows with distinct positions that contain every expected row and are no
more than the elements are exactly those rows, and sorting them by position gives
the list back.
-/

namespace Support

variable {α β ρ : Type}

/-- Rows with new keys leave the keys distinct. -/
theorem nodup_map_append {κ : Type} {key : ρ → κ} {rows new : List ρ}
    (hrows : (rows.map key).Nodup) (hnew : (new.map key).Nodup)
    (hfresh : ∀ r ∈ rows, ∀ r' ∈ new, key r ≠ key r') : ((rows ++ new).map key).Nodup := by
  rw [List.map_append, List.nodup_append]
  refine ⟨hrows, hnew, ?_⟩
  intro k hk k' hk'
  obtain ⟨r, hr, rfl⟩ := List.mem_map.mp hk
  obtain ⟨r', hr', rfl⟩ := List.mem_map.mp hk'
  exact hfresh r hr r' hr'

/-- Rows with distinct keys that agree up to their positions are at distinct
positions. -/
theorem nodup_positions {κ : Type} {key : ρ → κ} {pos : ρ → Nat} {rows : List ρ}
    (hrows : (rows.map key).Nodup) {p : ρ → Bool}
    (hp : ∀ r r', p r = true → p r' = true → pos r = pos r' → key r = key r') :
    ((rows.filter p).map pos).Nodup := by
  rw [List.Nodup, List.pairwise_map] at hrows ⊢
  exact (hrows.filter p).imp_of_mem fun hr hr' hne heq =>
    hne (hp _ _ (List.mem_filter.mp hr).2 (List.mem_filter.mp hr').2 heq)

/-- The rows of a list, each at its position. -/
def enumerated (row : α → Nat → ρ) (items : List α) : List ρ :=
  items.zipIdx.map fun p => row p.1 p.2

section Enumerated

variable {row : α → Nat → ρ} {pos : ρ → Nat} {items : List α}

theorem mem_enumerated {r : ρ} : r ∈ enumerated row items ↔
    ∃ x i, items[i]? = some x ∧ r = row x i := by
  simp only [enumerated, List.mem_map, List.mem_zipIdx_iff_getElem?, Prod.exists]
  constructor
  · rintro ⟨x, i, hx, rfl⟩
    exact ⟨x, i, hx, rfl⟩
  · rintro ⟨x, i, hx, rfl⟩
    exact ⟨x, i, hx, rfl⟩

@[simp] theorem length_enumerated : (enumerated row items).length = items.length := by
  simp [enumerated]

theorem map_enumerated {σ : Type} (f : ρ → σ) :
    (enumerated row items).map f = enumerated (fun x i => f (row x i)) items := by
  simp [enumerated, Function.comp_def]

/-- The positions of the rows count from zero. -/
theorem positions_enumerated (hpos : ∀ x i, pos (row x i) = i) :
    (enumerated row items).map pos = List.range items.length := by
  rw [map_enumerated, List.range_eq_range']
  simp only [hpos, enumerated]
  exact List.zipIdx_map_snd 0 items

theorem enumerated_sorted (hpos : ∀ x i, pos (row x i) = i) :
    (enumerated row items).Pairwise fun r r' => pos r < pos r' := by
  have hrange : ((enumerated row items).map pos).Pairwise (· < ·) := by
    rw [positions_enumerated hpos]
    exact List.pairwise_lt_range
  exact List.pairwise_map.mp hrange

/-- Values that the rows hold come back in the order of the list. -/
theorem filterMap_enumerated {f : ρ → Option α} (hf : ∀ x i, f (row x i) = some x) :
    (enumerated row items).filterMap f = items := by
  rw [enumerated, List.filterMap_map]
  have hfst : (f ∘ fun p : α × Nat => row p.1 p.2) = fun p => some p.1 :=
    funext fun p => hf p.1 p.2
  rw [hfst, List.filterMap_eq_map', List.zipIdx_map_fst]

/-- So do values that are built from the rows. -/
theorem mapM_enumerated {ε : Type} {f : ρ → Except ε α}
    (hf : ∀ x i, f (row x i) = .ok x) : (enumerated row items).mapM f = .ok items := by
  have hfrom : ∀ n, ((items.zipIdx n).map fun p => row p.1 p.2).mapM f = .ok items := by
    induction items with
    | nil => exact fun _ => rfl
    | cons x rest ih =>
      intro n
      rw [List.zipIdx_cons, List.map_cons, List.mapM_cons, hf, ih (n + 1)]
      rfl
  exact hfrom 0

/-- What does not depend on the position is a map of the list. -/
theorem enumerated_const {f : α → ρ} : enumerated (fun x _ => f x) items = items.map f := by
  have hfst : (fun p : α × Nat => f p.1) = f ∘ Prod.fst := rfl
  rw [enumerated, hfst, ← List.map_map, List.zipIdx_map_fst]

/-- Keys that hold the position are distinct. -/
theorem nodup_map_enumerated {κ : Type} {key : ρ → κ} (pos : ρ → Nat) (hpos : ∀ x i, pos (row x i) = i)
    (hkey : ∀ r r', key r = key r' → pos r = pos r') :
    ((enumerated row items).map key).Nodup := by
  rw [List.Nodup, List.pairwise_map]
  exact (enumerated_sorted hpos).imp fun hlt heq => absurd (hkey _ _ heq) (Nat.ne_of_lt hlt)

/-- Rows already in order stay as they are. -/
theorem insertionSort_enumerated (hpos : ∀ x i, pos (row x i) = i) :
    (enumerated row items).insertionSort (fun r r' => pos r ≤ pos r') = enumerated row items := by
  have hle : (enumerated row items).Pairwise fun r r' => pos r ≤ pos r' :=
    (enumerated_sorted hpos).imp fun h => Nat.le_of_lt h
  exact hle.insertionSort_eq

/-- Rows with distinct positions that hold every row of the list, and no more rows
than it has elements, are the rows of the list. -/
theorem insertionSort_eq_enumerated {rows : List ρ} (hpos : ∀ x i, pos (row x i) = i)
    (hnodup : (rows.map pos).Nodup) (hlength : rows.length = items.length)
    (hmem : ∀ r ∈ enumerated row items, r ∈ rows) :
    rows.insertionSort (fun r r' => pos r ≤ pos r') = enumerated row items := by
  have htotal : Std.Total fun r r' : ρ => pos r ≤ pos r' := ⟨fun _ _ => Nat.le_total _ _⟩
  have htrans : IsTrans ρ fun r r' => pos r ≤ pos r' := ⟨fun _ _ _ => Nat.le_trans⟩
  have hsorted : (enumerated row items).Pairwise fun r r' => pos r < pos r' := enumerated_sorted hpos
  have hdistinct : (enumerated row items).Nodup :=
    hsorted.imp fun h heq => absurd (heq ▸ h) (Nat.lt_irrefl _)
  have hperm : (enumerated row items).Perm rows :=
    (List.subperm_of_subset hdistinct hmem).perm_of_length_le (by simp [hlength])
  have hleft : (rows.insertionSort fun r r' => pos r ≤ pos r').Pairwise fun r r' => pos r ≤ pos r' :=
    List.pairwise_insertionSort _ _
  have hright : (enumerated row items).Pairwise fun r r' => pos r ≤ pos r' :=
    hsorted.imp fun h => Nat.le_of_lt h
  refine List.Perm.eq_of_pairwise ?_ hleft hright
    ((List.perm_insertionSort _ _).trans hperm.symm)
  intro r r' hr hr' hle hle'
  exact List.inj_on_of_nodup_map hnodup (List.mem_insertionSort _ |>.mp hr)
    (hmem r' hr') (Nat.le_antisymm hle hle')

/-- Rows with distinct positions, sorted, are the rows of the list exactly when they
are as many and each row of the list is one of them. -/
theorem insertionSort_eq_enumerated_iff {rows : List ρ} (hpos : ∀ x i, pos (row x i) = i)
    (hnodup : (rows.map pos).Nodup) :
    rows.insertionSort (fun r r' => pos r ≤ pos r') = enumerated row items ↔
      rows.length = items.length ∧ ∀ r ∈ enumerated row items, r ∈ rows := by
  constructor
  · intro heq
    have hperm : (enumerated row items).Perm rows :=
      heq ▸ List.perm_insertionSort (fun r r' => pos r ≤ pos r') rows
    exact ⟨by rw [← hperm.length_eq, length_enumerated], fun r hr => hperm.mem_iff.mp hr⟩
  · rintro ⟨hlength, hmem⟩
    exact insertionSort_eq_enumerated hpos hnodup hlength hmem

/-- A test at every position is one of every row. -/
theorem all_enumerated {f : α → Nat → Bool} :
    (enumerated f items).all id = true ↔ ∀ x i, items[i]? = some x → f x i = true := by
  rw [List.all_eq_true]
  constructor
  · exact fun h x i hx => h _ (mem_enumerated.mpr ⟨x, i, hx, rfl⟩)
  · intro h b hb
    obtain ⟨x, i, hx, rfl⟩ := mem_enumerated.mp hb
    exact h x i hx

theorem enumerated_map {σ : Type} {f : σ → Nat → ρ} {g : α → σ} :
    enumerated f (items.map g) = enumerated (fun x i => f (g x) i) items := by
  simp [enumerated, List.zipIdx_map, Function.comp_def]

end Enumerated

end Support
