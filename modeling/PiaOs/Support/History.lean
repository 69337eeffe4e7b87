import PiaOs.Support.Table

/-!
# Tables over time

How the rows of a table may change while some keys are locked: a locked row is as
it was, every other row stays and changes only as the rules allow, and a row that
appears satisfies what the rules ask of new rows.
-/

namespace Support

/-- The rules of change of one table. They compose over time. -/
structure RowRules (κ ρ : Type) where
  locked : κ → Prop
  changes : ρ → ρ → Prop
  arrives : κ → ρ → Prop
  changes_refl : ∀ r, changes r r
  changes_trans : ∀ {r r' r''}, changes r r' → changes r' r'' → changes r r''
  arrives_changes : ∀ {k r r'}, arrives k r → changes r r' → arrives k r'

namespace RowRules

variable {κ ρ : Type}

/-- Rules under which no row ever changes. -/
def frozen (locked : κ → Prop) (arrives : κ → ρ → Prop) : RowRules κ ρ where
  locked := locked
  changes := Eq
  arrives := arrives
  changes_refl := fun _ => rfl
  changes_trans := Eq.trans
  arrives_changes := fun h heq => heq ▸ h

variable (G : RowRules κ ρ)

/-- How the row under one key may have changed. -/
def RowLater (k : κ) : Option ρ → Option ρ → Prop
  | none, none => True
  | none, some r' => ¬ G.locked k ∧ G.arrives k r'
  | some _, none => False
  | some r, some r' => (G.locked k → r = r') ∧ G.changes r r'

private theorem rowLater_refl {G : RowRules κ ρ} {k : κ} (o : Option ρ) : G.RowLater k o o := by
  cases o with
  | none => trivial
  | some r => exact ⟨fun _ => rfl, G.changes_refl r⟩

variable [DecidableEq κ]

/-- The table `t'` may be what the table `t` has become. -/
def Later (t t' : Table κ ρ) : Prop := ∀ k, G.RowLater k (t.lookup k) (t'.lookup k)

variable {G} {t t' t'' : Table κ ρ} {k : κ} {r r' : ρ} {f : ρ → ρ}

theorem Later.refl : G.Later t t := fun _ => rowLater_refl _

theorem Later.trans (h : G.Later t t') (h' : G.Later t' t'') : G.Later t t'' := by
  intro k
  have hk := h k
  have hk' := h' k
  cases h₀ : t.lookup k with
  | none =>
    cases h₁ : t'.lookup k with
    | none =>
      rw [h₁] at hk'
      exact hk'
    | some r =>
      rw [h₀, h₁] at hk
      cases h₂ : t''.lookup k with
      | none => simp [RowLater]
      | some r' =>
        rw [h₁, h₂] at hk'
        exact ⟨hk.1, G.arrives_changes hk.2 hk'.2⟩
  | some r =>
    cases h₁ : t'.lookup k with
    | none =>
      rw [h₀, h₁] at hk
      exact hk.elim
    | some r' =>
      rw [h₀, h₁] at hk
      cases h₂ : t''.lookup k with
      | none =>
        rw [h₁, h₂] at hk'
        exact hk'
      | some r'' =>
        rw [h₁, h₂] at hk'
        exact ⟨fun hl => (hk.1 hl).trans (hk'.1 hl), G.changes_trans hk.2 hk'.2⟩

/-- A locked key has the row it had, or still has none. -/
theorem Later.locked_eq (h : G.Later t t') (hk : G.locked k) : t.lookup k = t'.lookup k := by
  have hrow := h k
  cases h₀ : t.lookup k with
  | none =>
    cases h₁ : t'.lookup k with
    | none => rfl
    | some r' =>
      rw [h₀, h₁] at hrow
      exact (hrow.1 hk).elim
  | some r =>
    cases h₁ : t'.lookup k with
    | none =>
      rw [h₀, h₁] at hrow
      exact hrow.elim
    | some r' =>
      rw [h₀, h₁] at hrow
      rw [hrow.1 hk]

theorem Later.stays (h : G.Later t t') (hr : t.lookup k = some r) :
    ∃ r', t'.lookup k = some r' ∧ G.changes r r' := by
  have hrow := h k
  rw [hr] at hrow
  cases h₁ : t'.lookup k with
  | none =>
    rw [h₁] at hrow
    exact hrow.elim
  | some r' =>
    rw [h₁] at hrow
    exact ⟨r', rfl, hrow.2⟩

/-- A row that was there before and after has changed by the rules. -/
theorem Later.changed (h : G.Later t t') (hr : t.lookup k = some r)
    (hr' : t'.lookup k = some r') : G.changes r r' := by
  obtain ⟨r'', hr'', hchanges⟩ := h.stays hr
  obtain rfl := Option.some.inj (hr'.symm.trans hr'')
  exact hchanges

/-- A row was there before, or it has arrived under a free key. -/
theorem Later.origin (h : G.Later t t') (hr' : t'.lookup k = some r') :
    (∃ r, t.lookup k = some r ∧ G.changes r r') ∨
      t.lookup k = none ∧ ¬ G.locked k ∧ G.arrives k r' := by
  have hrow := h k
  rw [hr'] at hrow
  cases h₀ : t.lookup k with
  | none =>
    rw [h₀] at hrow
    exact .inr ⟨rfl, hrow⟩
  | some r =>
    rw [h₀] at hrow
    exact .inl ⟨r, rfl, hrow.2⟩

/-- A new row under a free key. -/
theorem Later.insert_right (hfree : ¬ G.locked k) (hr : G.arrives k r)
    (hnone : t.lookup k = none) : G.Later t (t.insert k r) := by
  intro k'
  rw [Table.lookup_insert_ite]
  split
  case isTrue hkk =>
    rw [hkk, hnone]
    exact ⟨hfree, hr⟩
  case isFalse => exact rowLater_refl _

/-- A change of a free row. -/
theorem Later.modify_right (hfree : ¬ G.locked k)
    (hf : ∀ r, t.lookup k = some r → G.changes r (f r)) : G.Later t (Table.modify k f t) := by
  intro k'
  rw [Table.lookup_modify]
  split
  case isTrue hkk =>
    rw [hkk]
    cases hk : t.lookup k with
    | none => trivial
    | some r => exact ⟨fun hl => (hfree hl).elim, hf r hk⟩
  case isFalse => exact rowLater_refl _

/-- The same row stored in both. -/
theorem Later.insert_both (h : G.Later t t') (k : κ) (r : ρ) :
    G.Later (t.insert k r) (t'.insert k r) := by
  intro k'
  simp only [Table.lookup_insert_ite]
  split
  · exact rowLater_refl _
  · exact h k'

/-- The same change of a locked row in both. -/
theorem Later.modify_both (h : G.Later t t') (hk : G.locked k) (f : ρ → ρ) :
    G.Later (Table.modify k f t) (Table.modify k f t') := by
  intro k'
  simp only [Table.lookup_modify]
  split
  · rw [h.locked_eq hk]
    exact rowLater_refl _
  · exact h k'

end RowRules

end Support
