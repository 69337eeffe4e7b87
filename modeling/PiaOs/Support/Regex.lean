import Mathlib.Data.List.Basic
import Mathlib.Data.Nat.Notation
import Mathlib.Tactic.Common

/-!
# Regular expressions with anchors

Classes, repetitions of a known length and the two anchors of a line. The anchor at the end
also holds before a line feed that ends the text.
-/

namespace Support

inductive Regex (α : Type)
  /-- `^` -/
  | start
  /-- `$` -/
  | lineEnd
  | char (p : α → Bool)
  | times (n : ℕ) (r : Regex α)
  | seq (r s : Regex α)

namespace Regex

variable {α : Type}

/-- Goes on `n` times from each position that was reached. -/
def repeated (f : ℕ → List α → List (ℕ × List α)) : ℕ → ℕ → List α → List (ℕ × List α)
  | 0, i, t => [(i, t)]
  | n + 1, i, t => (f i t).flatMap fun reached => repeated f n reached.1 reached.2

/-- The positions that a match reaches from the `i`-th, each with what is left of the text. -/
def run [DecidableEq α] (feed : α) : Regex α → ℕ → List α → List (ℕ × List α)
  | .start, i, t => if i = 0 then [(i, t)] else []
  | .lineEnd, i, t => if t = [] ∨ t = [feed] then [(i, t)] else []
  | .char _, _, [] => []
  | .char p, i, c :: t => if p c then [(i + 1, t)] else []
  | .times n r, i, t => repeated (run feed r) n i t
  | .seq r s, i, t => (run feed r i t).flatMap fun reached => run feed s reached.1 reached.2

/-- `re.match`: a match begins where the text begins, and may end anywhere. -/
def matchesStart [DecidableEq α] (feed : α) (r : Regex α) (t : List α) : Bool :=
  !(run feed r 0 t).isEmpty

/-- `^[...]{n}$`. -/
def line (p : α → Bool) (n : ℕ) : Regex α := .seq .start (.seq (.times n (.char p)) .lineEnd)

variable [DecidableEq α] {feed : α} {p : α → Bool}

/-- A class that is repeated takes exactly so many characters. -/
theorem mem_run_times {n i j : ℕ} {t rest : List α} :
    (j, rest) ∈ run feed (.times n (.char p)) i t ↔
      ∃ d, d.length = n ∧ (∀ c ∈ d, p c = true) ∧ t = d ++ rest ∧ j = i + n := by
  induction n generalizing i t with
  | zero =>
    simp only [run, repeated, List.mem_singleton, Prod.mk.injEq, List.length_eq_zero_iff]
    constructor
    · rintro ⟨hj, hrest⟩
      refine ⟨[], rfl, ?_, hrest.symm, hj⟩
      intro c hc
      cases hc
    · rintro ⟨d, rfl, -, ht, hj⟩
      exact ⟨hj, ht.symm⟩
  | succ n ih =>
    have hstep : (j, rest) ∈ run feed (.times (n + 1) (.char p)) i t ↔
        ∃ reached ∈ run feed (.char p) i t,
          (j, rest) ∈ run feed (.times n (.char p)) reached.1 reached.2 := List.mem_flatMap
    rw [hstep]
    cases t with
    | nil =>
      constructor
      · rintro ⟨reached, hreached, -⟩
        cases hreached
      · rintro ⟨d, hlength, -, ht, -⟩
        have hd : d = [] := (List.append_eq_nil_iff.mp ht.symm).1
        rw [hd] at hlength
        cases hlength
    | cons c t =>
      simp only [run]
      constructor
      · rintro ⟨reached, hreached, hrest⟩
        split at hreached
        case isFalse => cases hreached
        case isTrue hc =>
          rw [List.mem_singleton.mp hreached] at hrest
          obtain ⟨d, hlength, hd, ht, hj⟩ := ih.mp hrest
          refine ⟨c :: d, congrArg (· + 1) hlength, ?_, congrArg (c :: ·) ht, by omega⟩
          intro e he
          rcases List.mem_cons.mp he with rfl | he
          · exact hc
          · exact hd e he
      · rintro ⟨d, hlength, hd, ht, hj⟩
        cases d with
        | nil => cases hlength
        | cons e d =>
          obtain ⟨rfl, hrest⟩ := List.cons.inj ht
          rw [if_pos (hd c List.mem_cons_self)]
          refine ⟨(i + 1, t), List.mem_singleton_self _, ih.mpr ?_⟩
          exact ⟨d, Nat.succ.inj hlength, fun e he => hd e (List.mem_cons_of_mem _ he), hrest, by omega⟩

/-- A line of `n` characters is let through with or without a line feed after it. -/
theorem matchesStart_line {n : ℕ} {t : List α} :
    (line p n).matchesStart feed t = true ↔
      ∃ d, d.length = n ∧ (∀ c ∈ d, p c = true) ∧ (t = d ∨ t = d ++ [feed]) := by
  have hrun : (line p n).matchesStart feed t = true ↔
      ∃ reached ∈ run feed (.times n (.char p)) 0 t, reached.2 = [] ∨ reached.2 = [feed] := by
    unfold matchesStart line
    simp only [run, if_true, List.flatMap_cons, List.flatMap_nil, List.append_nil,
      Bool.not_eq_true', List.isEmpty_eq_false_iff, ne_eq, List.flatMap_eq_nil_iff, not_forall]
    constructor
    · rintro ⟨reached, hreached, hend⟩
      refine ⟨reached, hreached, ?_⟩
      by_contra hnot
      exact hend (if_neg hnot)
    · rintro ⟨reached, hreached, hend⟩
      refine ⟨reached, hreached, ?_⟩
      rw [if_pos hend]
      exact List.cons_ne_nil _ _
  rw [hrun]
  constructor
  · rintro ⟨⟨j, rest⟩, hreached, hend⟩
    obtain ⟨d, hlength, hd, ht, -⟩ := mem_run_times.mp hreached
    refine ⟨d, hlength, hd, ?_⟩
    rcases hend with hend | hend
    · obtain rfl : rest = [] := hend
      exact .inl (by rw [ht, List.append_nil])
    · obtain rfl : rest = [feed] := hend
      exact .inr ht
  · rintro ⟨d, hlength, hd, ht | ht⟩
    · exact ⟨(0 + n, []), mem_run_times.mpr ⟨d, hlength, hd, by rw [ht, List.append_nil], rfl⟩, .inl rfl⟩
    · exact ⟨(0 + n, [feed]), mem_run_times.mpr ⟨d, hlength, hd, ht, rfl⟩, .inr rfl⟩

end Regex

end Support
