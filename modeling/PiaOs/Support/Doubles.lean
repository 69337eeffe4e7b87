import Mathlib.Data.Nat.Log
import Mathlib.Data.Rat.Defs
import Mathlib.Algebra.Order.Field.Rat
import Mathlib.Tactic.Ring
import Mathlib.Tactic.Linarith
import Mathlib.Tactic.NormNum

/-!
# Doubles

The values of the double format as an order of rationals with the two infinities and
one value that no comparison holds of, and the rounding of an integer to the format.
-/

namespace Support

/-- A double by the number it stands for. -/
inductive Double
  | nan
  | infinity (negative : Bool)
  | finite (q : ℚ)
  deriving DecidableEq

namespace Double

/-- `t < x` for a finite `t`. -/
def isAfter (t : ℚ) : Double → Bool
  | nan => false
  | infinity negative => !negative
  | finite q => t < q

/-- `t >= x` for a finite `t`. -/
def isReached (t : ℚ) : Double → Bool
  | nan => false
  | infinity negative => negative
  | finite q => q ≤ t

/-- Only a value that is no number is neither reached nor still to come. -/
theorem isReached_eq_false {t : ℚ} {x : Double} :
    x.isReached t = false ↔ x = nan ∨ x.isAfter t = true := by
  cases x with
  | nan => simp [isReached]
  | infinity negative => cases negative <;> simp [isReached, isAfter]
  | finite q => simp [isReached, isAfter]

/-- A natural number cut to 53 significant bits, to the nearest and on a tie to the
even one. -/
def rounded (n : ℕ) : ℕ :=
  let shift := n.log2 - 52
  let q := n / 2 ^ shift
  let r := n % 2 ^ shift
  let up := 2 ^ shift < 2 * r ∨ (2 * r = 2 ^ shift ∧ q % 2 = 1)
  (if up then q + 1 else q) * 2 ^ shift

/-- The double of a natural number. What rounds to 1024 bits or more has none. -/
def ofNat (n : ℕ) : Option ℕ := if (rounded n).log2 < 1024 then some (rounded n) else none

/-- `float(n)`. A number too large for the format is an `OverflowError`. -/
def ofInt (n : ℤ) : Option ℚ :=
  (ofNat n.natAbs).map fun (m : ℕ) => if n < 0 then -(m : ℚ) else (m : ℚ)

/-- Numbers of at most 53 bits are kept as they are. -/
theorem ofNat_small {n : ℕ} (h : n < 2 ^ 53) : ofNat n = some n := by
  have hlog : n.log2 < 53 := by
    by_cases hzero : n = 0
    · simp [hzero]
    · exact (Nat.log2_lt hzero).mpr h
  have hshift : n.log2 - 52 = 0 := by omega
  have hround : rounded n = n := by simp [rounded, hshift, Nat.mod_one]
  have hformat : n.log2 < 1024 := by omega
  simp [ofNat, hround, hformat]

/-- Rounding keeps a number of more than 53 bits above the numbers that are exact. -/
theorem ofNat_large {n m : ℕ} (h : 2 ^ 53 ≤ n) (hm : ofNat n = some m) : 2 ^ 53 ≤ m := by
  have hpos : n ≠ 0 := by
    rintro rfl
    simp at h
  have hlog : 53 ≤ n.log2 := (Nat.le_log2 hpos).mpr h
  have hq : 2 ^ 52 ≤ n / 2 ^ (n.log2 - 52) := by
    rw [Nat.le_div_iff_mul_le (by positivity), ← pow_add]
    have hexp : 52 + (n.log2 - 52) = n.log2 := by omega
    rw [hexp]
    exact Nat.log2_self_le hpos
  have hpow : 2 ≤ 2 ^ (n.log2 - 52) := by
    calc 2 = 2 ^ 1 := by norm_num
      _ ≤ 2 ^ (n.log2 - 52) := Nat.pow_le_pow_right (by norm_num) (by omega)
  have hrounded : ∀ k, n / 2 ^ (n.log2 - 52) ≤ k → 2 ^ 53 ≤ k * 2 ^ (n.log2 - 52) := by
    intro k hk
    calc 2 ^ 53 = 2 ^ 52 * 2 := by norm_num
      _ ≤ k * 2 ^ (n.log2 - 52) := Nat.mul_le_mul (hq.trans hk) hpow
  have hm : rounded n = m := by
    unfold ofNat at hm
    split at hm
    · exact Option.some.inj hm
    · cases hm
  rw [← hm]
  unfold rounded
  simp only
  split
  · exact hrounded _ (Nat.le_succ _)
  · exact hrounded _ le_rfl

/-- Integers of at most 53 bits are kept as they are. -/
theorem ofInt_small {n : ℤ} (h : n.natAbs < 2 ^ 53) : ofInt n = some (n : ℚ) := by
  unfold ofInt
  rw [ofNat_small h]
  by_cases hneg : n < 0
  · have hcast : ((n.natAbs : ℤ) : ℚ) = ((-n : ℤ) : ℚ) := by
      congr 1
      omega
    have hnat : (n.natAbs : ℚ) = -(n : ℚ) := by simpa using hcast
    simp [hneg, hnat]
  · have hcast : ((n.natAbs : ℤ) : ℚ) = ((n : ℤ) : ℚ) := by
      congr 1
      omega
    have hnat : (n.natAbs : ℚ) = (n : ℚ) := by simpa using hcast
    simp [hneg, hnat]

/-- Compared with a time that is exact in the format, an integer and its double lie on
the same side. -/
theorem lt_ofInt_iff {n : ℤ} {q t : ℚ} (hq : ofInt n = some q) (ht : |t| < 2 ^ 53) :
    t < q ↔ t < (n : ℚ) := by
  by_cases hsmall : n.natAbs < 2 ^ 53
  · have heq : (n : ℚ) = q := Option.some.inj ((ofInt_small hsmall).symm.trans hq)
    rw [heq]
  · unfold ofInt at hq
    obtain ⟨m, hm, heq⟩ := Option.map_eq_some_iff.mp hq
    have hlarge : 2 ^ 53 ≤ m := ofNat_large (not_lt.mp hsmall) hm
    have hm53 : (2 : ℚ) ^ 53 ≤ m := by exact_mod_cast hlarge
    have hbounds := abs_lt.mp ht
    by_cases hneg : n < 0
    · have hn : (n : ℚ) ≤ -2 ^ 53 := by
        have hint : n ≤ -2 ^ 53 := by omega
        exact_mod_cast hint
      have hval : q = -(m : ℚ) := by simpa [hneg] using heq.symm
      constructor
      · intro hlt
        linarith [hbounds.1]
      · intro hlt
        linarith [hbounds.1]
    · have hn : (2 : ℚ) ^ 53 ≤ (n : ℚ) := by
        have hint : (2 : ℤ) ^ 53 ≤ n := by omega
        exact_mod_cast hint
      have hval : q = (m : ℚ) := by simpa [hneg] using heq.symm
      constructor
      · intro _
        linarith [hbounds.2]
      · intro _
        linarith [hbounds.2]

/-- At most 53 significant bits. -/
def Exact (n : ℕ) : Prop := ∃ m k, m < 2 ^ 53 ∧ n = m * 2 ^ k

theorem exact_iff_dvd {n : ℕ} : Exact n ↔ 2 ^ (n.log2 - 52) ∣ n := by
  constructor
  · rintro ⟨m, k, hm, rfl⟩
    by_cases hzero : m * 2 ^ k = 0
    · exact hzero ▸ dvd_zero _
    · have hlog : (m * 2 ^ k).log2 < 53 + k := by
        rw [Nat.log2_lt hzero, pow_add]
        exact Nat.mul_lt_mul_of_pos_right hm (by positivity)
      exact (pow_dvd_pow 2 (by omega)).trans (dvd_mul_left _ _)
  · intro hdvd
    refine ⟨n / 2 ^ (n.log2 - 52), n.log2 - 52, ?_, (Nat.div_mul_cancel hdvd).symm⟩
    rw [Nat.div_lt_iff_lt_mul (by positivity), ← pow_add]
    calc n < 2 ^ (n.log2 + 1) := Nat.lt_log2_self
      _ ≤ 2 ^ (53 + (n.log2 - 52)) := Nat.pow_le_pow_right (by norm_num) (by omega)

/-- Rounding keeps the numbers of at most 53 significant bits, and no others. -/
theorem rounded_eq_self_iff {n : ℕ} : rounded n = n ↔ Exact n := by
  rw [exact_iff_dvd]
  unfold rounded
  simp only
  constructor
  · intro h
    exact ⟨_, (Nat.mul_comm _ _ ▸ h).symm⟩
  · intro hdvd
    have hpow : 0 < 2 ^ (n.log2 - 52) := by positivity
    rw [Nat.mod_eq_zero_of_dvd hdvd, if_neg (by omega), Nat.div_mul_cancel hdvd]

/-- Rounding goes up by one unit of the last place at most. -/
theorem rounded_le (n : ℕ) : rounded n ≤ 2 * n := by
  by_cases hzero : n = 0
  · rw [hzero]
    simp [rounded]
  · have hpow : 2 ^ (n.log2 - 52) ≤ n := by
      calc 2 ^ (n.log2 - 52) ≤ 2 ^ n.log2 := Nat.pow_le_pow_right (by norm_num) (by omega)
        _ ≤ n := Nat.log2_self_le hzero
    have hdiv : n / 2 ^ (n.log2 - 52) * 2 ^ (n.log2 - 52) ≤ n := Nat.div_mul_le_self _ _
    unfold rounded
    simp only
    split
    · rw [Nat.add_mul, one_mul]
      omega
    · omega

/-- Below `2 ^ 128` every natural number has a double. -/
theorem ofNat_eq_some {n : ℕ} (h : n < 2 ^ 128) : ofNat n = some (rounded n) := by
  have hlog : (rounded n).log2 < 1024 := by
    by_cases hzero : rounded n = 0
    · simp [hzero]
    · have hle := rounded_le n
      have hbits : (rounded n).log2 < 129 := by
        rw [Nat.log2_lt hzero]
        omega
      omega
  unfold ofNat
  rw [if_pos hlog]

/-- `x < y`. -/
def lt : Double → Double → Bool
  | nan, _ | _, nan => false
  | infinity a, infinity b => a && !b
  | infinity a, finite _ => a
  | finite _, infinity b => !b
  | finite p, finite q => p < q

/-- `x <= y`. -/
def le : Double → Double → Bool
  | nan, _ | _, nan => false
  | infinity a, infinity b => a || !b
  | infinity a, finite _ => a
  | finite _, infinity b => !b
  | finite p, finite q => p ≤ q

end Double

end Support
