import PiaOs.Piap.Envelope

/-!
# The order of identifiers

The texts of UUIDs have one length and their hyphens stand at one place, so that their order is
the order of the UUIDs.
-/

namespace PiaOs.Piap

open Support

/-- Between texts whose first parts are of one length, these decide first. -/
theorem append_lt_append_iff {as bs cs ds : List ℕ} (h : as.length = bs.length) :
    as ++ cs < bs ++ ds ↔ as < bs ∨ as = bs ∧ cs < ds := by
  induction as generalizing bs with
  | nil =>
    obtain rfl := List.length_eq_zero_iff.mp h.symm
    simp
  | cons a as ih =>
    cases bs with
    | nil => cases h
    | cons b bs =>
      have hlength : as.length = bs.length := by simpa using h
      rw [List.cons_append, List.cons_append, List.cons_lt_cons_iff, List.cons_lt_cons_iff,
        ih hlength, List.cons.injEq]
      tauto

/-- The codes of the digits of a number. -/
def codigos (width n : ℕ) : List ℕ := (digits 16 width n).map Char.toNat

theorem length_codigos (width n : ℕ) : (codigos width n).length = width := by
  rw [codigos, List.length_map, Sha256.length_digits]

theorem hexDigit_lt_hexDigit {m n : ℕ} (hm : m < 16) (hn : n < 16) :
    (hexDigit m).toNat < (hexDigit n).toNat ↔ m < n := by
  have hall : ∀ m n : Fin 16, (hexDigit m.val).toNat < (hexDigit n.val).toNat ↔ m.val < n.val := by
    decide
  exact hall ⟨m, hm⟩ ⟨n, hn⟩

/-- Digits of one width are in the order of what they write. -/
theorem codigos_lt {width m n : ℕ} (hm : m < 16 ^ width) (hn : n < 16 ^ width) :
    codigos width m < codigos width n ↔ m < n := by
  induction width generalizing m n with
  | zero =>
    have hzero : m = n := by omega
    subst hzero
    simp
  | succ width ih =>
    have hsplit (k : ℕ) : codigos (width + 1) k =
        codigos width (k / 16) ++ [(hexDigit (k % 16)).toNat] := by
      simp [codigos, digits]
    have hbound {k : ℕ} (hk : k < 16 ^ (width + 1)) : k / 16 < 16 ^ width := by
      rw [pow_succ] at hk
      omega
    have hlt := ih (hbound hm) (hbound hn)
    have hgt := ih (hbound hn) (hbound hm)
    have heq : codigos width (m / 16) = codigos width (n / 16) ↔ m / 16 = n / 16 := by
      constructor
      · intro h
        rw [h] at hlt hgt
        have hmn := mt hlt.mpr (lt_irrefl _)
        have hnm := mt hgt.mpr (lt_irrefl _)
        omega
      · exact congrArg _
    have hdigit := hexDigit_lt_hexDigit (Nat.mod_lt m (by decide)) (Nat.mod_lt n (by decide))
    rw [hsplit, hsplit, append_lt_append_iff (by rw [length_codigos, length_codigos]), hlt, heq,
      List.cons_lt_cons_iff, hdigit]
    simp only [lt_irrefl, and_false, or_false]
    omega

/-- The groups of a UUID, with a hyphen after each but the last. -/
def grupos (ns : List ℕ) : List ℕ :=
  ns.take 8 ++ 45 :: ((ns.drop 8).take 4 ++ 45 :: ((ns.drop 12).take 4 ++
    45 :: ((ns.drop 16).take 4 ++ 45 :: ns.drop 20)))

theorem grupos_lt {ms ns : List ℕ} (h : ms.length = ns.length) : grupos ms < grupos ns ↔ ms < ns := by
  have hsplit (ks : List ℕ) : ks = ks.take 8 ++ ((ks.drop 8).take 4 ++ ((ks.drop 12).take 4 ++
      ((ks.drop 16).take 4 ++ ks.drop 20))) := by
    have hpart (m n : ℕ) : (ks.drop m).take n ++ ks.drop (m + n) = ks.drop m := by
      rw [← List.drop_drop, List.take_append_drop]
    rw [hpart 16 4, hpart 12 4, hpart 8 4, List.take_append_drop]
  have hpart (m n : ℕ) : ((ms.drop m).take n).length = ((ns.drop m).take n).length := by
    simp [h]
  have hfirst : (ms.take 8).length = (ns.take 8).length := by simp [h]
  conv_rhs => rw [hsplit ms, hsplit ns]
  unfold grupos
  simp only [append_lt_append_iff hfirst, append_lt_append_iff (hpart 8 4),
    append_lt_append_iff (hpart 12 4), append_lt_append_iff (hpart 16 4), List.cons_lt_cons_iff,
    lt_irrefl, false_or, true_and]

theorem codigos_str (ref : Referencia) :
    (Texto.of ref.str).map CodePoint.ord = grupos (codigos 32 ref.val) := by
  have hord : CodePoint.ord ∘ CodePoint.char = Char.toNat := rfl
  unfold Referencia.str Uuid.str Texto.of grupos codigos
  rw [String.toList_ofList, List.map_map, hord]
  simp only [List.map_append, List.map_cons, List.map_take, List.map_drop,
    List.append_assoc, List.cons_append, List.nil_append]
  rfl

/-- `str(a) < str(b)` is `a < b`. -/
theorem str_antes_iff (a b : Referencia) :
    (Texto.of a.str).antes (Texto.of b.str) = true ↔ a < b := by
  have hbound (u : Referencia) : u.val < 16 ^ 32 := lt_of_lt_of_eq u.isLt (by norm_num)
  rw [antes_iff, codigos_str, codigos_str,
    grupos_lt (by rw [length_codigos, length_codigos]), codigos_lt (hbound a) (hbound b)]
  exact Fin.lt_def.symm

end PiaOs.Piap
