import Mathlib.Data.Fintype.Card
import Mathlib.Data.Finite.Defs
import Mathlib.Order.WellFounded
import Mathlib.Order.RelClasses
import Mathlib.Logic.Relation

/-!
# Chains of a relation

A relation without cycles stays so when an edge is added that no path leads back from. On a
finite type every path of such a relation can be followed to its last element.
-/

namespace Support

open Relation

variable {α : Type} {R R' : α → α → Prop} {a b x y : α}

/-- A path after one edge is added is an older one, or it goes through the edge. -/
theorem transGen_insert (hnew : ∀ x y, R' x y → R x y ∨ x = a ∧ y = b) (h : TransGen R' x y) :
    TransGen R x y ∨ ReflTransGen R x a ∧ ReflTransGen R b y := by
  induction h with
  | single hxy =>
    rcases hnew _ _ hxy with hold | ⟨rfl, rfl⟩
    · exact .inl (.single hold)
    · exact .inr ⟨.refl, .refl⟩
  | tail hpath hyz ih =>
    rcases hnew _ _ hyz with hold | ⟨rfl, rfl⟩
    · rcases ih with hpath | ⟨hto, hfrom⟩
      · exact .inl (hpath.tail hold)
      · exact .inr ⟨hto, hfrom.tail hold⟩
    · rcases ih with hpath | ⟨hto, -⟩
      · exact .inr ⟨hpath.to_reflTransGen, .refl⟩
      · exact .inr ⟨hto, .refl⟩

theorem acyclic_insert (hnew : ∀ x y, R' x y → R x y ∨ x = a ∧ y = b)
    (hback : ¬ReflTransGen R b a) (hacyclic : ∀ x, ¬TransGen R x x) (x : α) :
    ¬TransGen R' x x := by
  intro hcycle
  rcases transGen_insert hnew hcycle with hold | ⟨hto, hfrom⟩
  · exact hacyclic x hold
  · exact hback (hfrom.trans hto)

theorem acyclic_mono (hsub : ∀ x y, R' x y → R x y) (hacyclic : ∀ x, ¬TransGen R x x) (x : α) :
    ¬TransGen R' x x :=
  fun hcycle => hacyclic x (TransGen.mono hsub x x hcycle)

/-- Edges into elements from which no edge leads close no cycle. -/
theorem acyclic_of_sinks {S : α → Prop} (hnew : ∀ x y, R' x y → R x y ∨ S y)
    (hsink : ∀ x y, R' x y → ¬S x) (hacyclic : ∀ x, ¬TransGen R x x) (x : α) :
    ¬TransGen R' x x := by
  have hpath : ∀ x y, TransGen R' x y → TransGen R x y ∨ S y := by
    intro x y h
    induction h with
    | single hxy =>
      rcases hnew _ _ hxy with hold | hs
      · exact .inl (.single hold)
      · exact .inr hs
    | tail _ hyz ih =>
      rcases ih with hold | hs
      · rcases hnew _ _ hyz with hedge | hs
        · exact .inl (hold.tail hedge)
        · exact .inr hs
      · exact absurd hs (hsink _ _ hyz)
  intro hcycle
  rcases hpath x x hcycle with hold | hs
  · exact hacyclic x hold
  · obtain ⟨y, hxy, -⟩ := TransGen.head'_iff.mp hcycle
    exact hsink x y hxy hs

theorem exists_last [Finite α] (hacyclic : ∀ x, ¬TransGen R x x) (x : α) :
    ∃ y, ReflTransGen R x y ∧ ∀ z, ¬R y z := by
  have htrans : IsTrans α fun y x => TransGen R x y := ⟨fun _ _ _ hyx hzy => hzy.trans hyx⟩
  have hirrefl : Std.Irrefl fun y x => TransGen R x y := ⟨hacyclic⟩
  have hwf : WellFounded fun y x => TransGen R x y := Finite.wellFounded_of_trans_of_irrefl _
  induction x using hwf.induction with
  | h x ih =>
    by_cases hend : ∃ y, R x y
    · obtain ⟨y, hxy⟩ := hend
      obtain ⟨z, hyz, hlast⟩ := ih y (.single hxy)
      exact ⟨z, .head hxy hyz, hlast⟩
    · exact ⟨x, .refl, fun z hz => hend ⟨z, hz⟩⟩

/-- A run of a partial step function is a path of the relation that its steps are in. -/
theorem exists_reflTransGen_of_foldlM {π : Type} {f : α → π → Option α}
    (hstep : ∀ x p y, f x p = some y → R x y) (ps : List π) (x : α) (test : α → Bool)
    (h : (ps.foldlM f x).any test = true) : ∃ y, ReflTransGen R x y ∧ test y = true := by
  induction ps generalizing x with
  | nil => exact ⟨x, .refl, h⟩
  | cons p ps ih =>
    rw [List.foldlM_cons] at h
    cases hy : f x p with
    | none =>
      rw [hy] at h
      cases h
    | some y =>
      rw [hy] at h
      obtain ⟨z, hyz, hz⟩ := ih y h
      exact ⟨z, .head (hstep x p y hy) hyz, hz⟩

end Support
