import PiaOs.Piap.CodecLaws

/-!
# Texts in quotes

`repr` of a text. The code points that it writes are a prefix code, so what it writes can be read
back, whatever follows it.
-/

namespace Support

section PrefixCode

variable {α β : Type} {code : α → List β}

/-- A word is read back from its code, up to a mark that begins no code. -/
theorem flatMap_append_inj {mark : β} (hcode : ∀ a b, code a <+: code b → a = b)
    (hmark : ∀ a rest, ∃ b bs, b ≠ mark ∧ code a ++ rest = b :: bs) {xs ys : List α}
    {rest rest' : List β}
    (h : xs.flatMap code ++ mark :: rest = ys.flatMap code ++ mark :: rest') :
    xs = ys ∧ rest = rest' := by
  induction xs generalizing ys with
  | nil =>
    cases ys with
    | nil => exact ⟨rfl, (List.cons.inj h).2⟩
    | cons y ys =>
      obtain ⟨b, bs, hb, hfirst⟩ := hmark y (ys.flatMap code ++ mark :: rest')
      rw [List.flatMap_cons, List.append_assoc, hfirst] at h
      exact absurd (List.cons.inj h).1.symm hb
  | cons x xs ih =>
    cases ys with
    | nil =>
      obtain ⟨b, bs, hb, hfirst⟩ := hmark x (xs.flatMap code ++ mark :: rest)
      rw [List.flatMap_cons, List.append_assoc, hfirst] at h
      exact absurd (List.cons.inj h).1 hb
    | cons y ys =>
      rw [List.flatMap_cons, List.flatMap_cons, List.append_assoc, List.append_assoc] at h
      -- the two codes begin the same list, so one of them begins the other
      have hx : code x <+: code y ++ (ys.flatMap code ++ mark :: rest') := h ▸ List.prefix_append _ _
      have hsame : x = y := by
        rcases List.prefix_or_prefix_of_prefix hx (List.prefix_append _ _) with hxy | hyx
        · exact hcode x y hxy
        · exact (hcode y x hyx).symm
      subst hsame
      obtain ⟨hrest, htail⟩ := ih (List.append_cancel_left h)
      exact ⟨by rw [hrest], htail⟩

end PrefixCode

end Support

namespace PiaOs.Piap

open Support

/-! ## `unicode_repr` -/

section Escapes

variable (printable : CodePoint → Bool)

/-- What stands after the backslash of a code point that is not copied: a character, and how many
hexadecimal digits follow it. `printable` is `str.isprintable`. -/
def CodePoint.escapado (c aspa : CodePoint) : Option (CodePoint × ℕ) :=
  if c = aspa ∨ c = .char '\\' then some (c, 0)
  else if c = .char '\t' then some (.char 't', 0)
  else if c = .char '\n' then some (.char 'n', 0)
  else if c = .char '\r' then some (.char 'r', 0)
  else if c.ord < 0x20 ∨ c.ord = 0x7f then some (.char 'x', 2)
  -- the other code points of ASCII are copied without a look at the tables
  else if c.ord < 0x7f ∨ printable c = true then none
  else if c.ord < 0x100 then some (.char 'x', 2)
  else if c.ord < 0x10000 then some (.char 'u', 4)
  else some (.char 'U', 8)

/-- A code point between the quotes. -/
def CodePoint.repr (c aspa : CodePoint) : Texto :=
  match c.escapado printable aspa with
  | none => [c]
  | some (letra, largura) =>
    .char '\\' :: letra :: (digits 16 largura c.ord).map CodePoint.char

/-- The quotes of a text: single, unless it has single quotes and no double ones. -/
def aspaDe (t : Texto) : CodePoint :=
  if .char '\'' ∈ t ∧ .char '"' ∉ t then .char '"' else .char '\''

/-- `repr` of a text. -/
def Texto.repr (t : Texto) : Texto :=
  aspaDe t :: t.flatMap (fun c => c.repr printable (aspaDe t)) ++ [aspaDe t]

end Escapes

/-! ## Reading back -/

section Reading

variable {printable : CodePoint → Bool} {aspa c d letra : CodePoint} {largura : ℕ}

/-- A code point that is a quotation mark. -/
def Aspa (c : CodePoint) : Prop := c = .char '\'' ∨ c = .char '"'

theorem aspa_aspaDe (t : Texto) : Aspa (aspaDe t) := by
  unfold aspaDe
  split
  · exact .inr rfl
  · exact .inl rfl

/-- How many digits follow a character after the backslash. -/
def larguraDe (letra : CodePoint) : ℕ :=
  if letra = .char 'x' then 2
  else if letra = .char 'u' then 4
  else if letra = .char 'U' then 8
  else 0

/-- What a character after the backslash stands for, when no digits follow it. -/
def semDigitos (letra : CodePoint) : CodePoint :=
  if letra = .char 't' then .char '\t'
  else if letra = .char 'n' then .char '\n'
  else if letra = .char 'r' then .char '\r'
  else letra

theorem CodePoint.ord_lt (c : CodePoint) : c.ord < 16 ^ 8 := by
  cases c with
  | char c =>
    have hvalid := c.valid
    have hlt : c.toNat < 0x110000 := by
      rcases hvalid with hlow | hhigh
      · exact lt_trans hlow (by decide)
      · exact hhigh.2
    calc c.toNat < 0x110000 := hlt
      _ < 16 ^ 8 := by decide
  | surrogate n =>
    have hn := n.isLt
    have hord : (CodePoint.surrogate n).ord = 0xd800 + n := rfl
    omega

/-- The character after the backslash says how many digits follow, and with them it says which
code point was written. -/
theorem escapado_some (haspa : Aspa aspa) (h : c.escapado printable aspa = some (letra, largura)) :
    largura = larguraDe letra ∧ (largura = 0 → c = semDigitos letra) ∧
      (largura ≠ 0 → c.ord < 16 ^ largura) := by
  unfold CodePoint.escapado at h
  split_ifs at h with hcopied htab hfeed hreturn hcontrol hplain hbyte hword
  · cases h
    have hcases : c = .char '\'' ∨ c = .char '"' ∨ c = .char '\\' := by
      rcases hcopied with rfl | hslash
      · exact haspa.imp_right Or.inl
      · exact .inr (.inr hslash)
    rcases hcases with rfl | rfl | rfl <;> decide
  · cases h
    exact ⟨by decide, fun _ => htab, fun hpos => absurd rfl hpos⟩
  · cases h
    exact ⟨by decide, fun _ => hfeed, fun hpos => absurd rfl hpos⟩
  · cases h
    exact ⟨by decide, fun _ => hreturn, fun hpos => absurd rfl hpos⟩
  · cases h
    exact ⟨by decide, fun hzero => absurd hzero (by decide), fun _ => by omega⟩
  · cases h
    exact ⟨by decide, fun hzero => absurd hzero (by decide), fun _ => by omega⟩
  · cases h
    exact ⟨by decide, fun hzero => absurd hzero (by decide), fun _ => by omega⟩
  · cases h
    exact ⟨by decide, fun hzero => absurd hzero (by decide), fun _ => c.ord_lt⟩

/-- A number is read back from enough digits. -/
theorem digits_inj {width m n : ℕ} (hm : m < 16 ^ width) (hn : n < 16 ^ width)
    (h : digits 16 width m = digits 16 width n) : m = n := by
  have hread := foldlM_digits width m
  rw [h, foldlM_digits, Nat.mod_eq_of_lt hm, Nat.mod_eq_of_lt hn] at hread
  exact (Option.some.inj hread).symm

/-- The backslash is never copied. -/
theorem escapado_barra : (CodePoint.char '\\').escapado printable aspa = some (.char '\\', 0) :=
  if_pos (.inr rfl)

/-- No code point is written as the beginning of another one. -/
theorem eq_of_initial (haspa : Aspa aspa) (h : c.repr printable aspa <+: d.repr printable aspa) :
    c = d := by
  unfold CodePoint.repr at h
  cases hc : c.escapado printable aspa with
  | none =>
    cases hd : d.escapado printable aspa with
    | none =>
      simp only [hc, hd] at h
      exact (List.cons_prefix_cons.mp h).1
    | some pair =>
      obtain ⟨letra, largura⟩ := pair
      simp only [hc, hd] at h
      -- a copied code point is not the backslash
      have hslash := (List.cons_prefix_cons.mp h).1
      rw [hslash, escapado_barra] at hc
      cases hc
  | some pair =>
    obtain ⟨letra, largura⟩ := pair
    cases hd : d.escapado printable aspa with
    | none =>
      simp only [hc, hd] at h
      have hlength := h.length_le
      simp at hlength
    | some pair' =>
      obtain ⟨letra', largura'⟩ := pair'
      simp only [hc, hd, List.cons_prefix_cons, true_and] at h
      obtain ⟨rfl, hdigits⟩ := h
      obtain ⟨hwidth, hsimple, hbound⟩ := escapado_some haspa hc
      obtain ⟨hwidth', hsimple', hbound'⟩ := escapado_some haspa hd
      have hsame : largura' = largura := hwidth'.trans hwidth.symm
      subst hsame
      by_cases hzero : largura' = 0
      · rw [hsimple hzero, hsimple' hzero]
      · have hequal : (digits 16 largura' c.ord).map CodePoint.char =
            (digits 16 largura' d.ord).map CodePoint.char := by
          refine hdigits.eq_of_length ?_
          rw [List.length_map, List.length_map, Sha256.length_digits, Sha256.length_digits]
        have hinjective : Function.Injective CodePoint.char := fun _ _ => CodePoint.char.inj
        exact ord_injective (digits_inj (hbound hzero) (hbound' hzero)
          (List.map_injective_iff.mpr hinjective hequal))

/-- No code point is written with the closing quote in front. -/
theorem repr_head (haspa : Aspa aspa) (c : CodePoint) (rest : Texto) :
    ∃ b bs, b ≠ aspa ∧ c.repr printable aspa ++ rest = b :: bs := by
  unfold CodePoint.repr
  cases hc : c.escapado printable aspa with
  | none =>
    refine ⟨c, rest, ?_, rfl⟩
    rintro rfl
    rw [CodePoint.escapado, if_pos (.inl rfl)] at hc
    cases hc
  | some pair =>
    obtain ⟨letra, largura⟩ := pair
    refine ⟨.char '\\', _, ?_, rfl⟩
    rcases haspa with rfl | rfl <;> decide

/-- A text is read back from its `repr`. -/
theorem Texto.repr_append_inj {t t' rest rest' : Texto}
    (h : t.repr printable ++ rest = t'.repr printable ++ rest') : t = t' ∧ rest = rest' := by
  unfold Texto.repr at h
  rw [List.cons_append, List.cons_append, List.append_assoc, List.cons_append, List.append_assoc]
    at h
  obtain ⟨hquote, hbody⟩ := List.cons.inj h
  rw [← hquote] at hbody
  exact flatMap_append_inj (fun _ _ => eq_of_initial (aspa_aspaDe t)) (repr_head (aspa_aspaDe t))
    hbody

end Reading

end PiaOs.Piap
