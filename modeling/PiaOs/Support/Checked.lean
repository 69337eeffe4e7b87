import Mathlib.Data.List.Forall2
import PiaOs.Support.Json

/-!
# Constructors that check their arguments

A constructor runs its checks in order and raises at the first one that fails.
The value it builds carries the fact that none did.
-/

namespace Support

/-- A text stays stated when something is appended. -/
theorem blank_append {s t : String} : blank (s ++ t) = (blank s && blank t) := by
  simp [blank]

/-- A text whose first character is no space is stated. -/
theorem stated_of_head {c : Char} {cs : List Char} (h : isSpace c = false) :
    blank (String.ofList (c :: cs)) = false := by
  simp [blank, h]

/-- A check that fails with a text when the condition holds. -/
def refuse (c : Bool) (text : String) : Option String := if c then some text else none

/-- The first check that fails. -/
def firstOf (checks : List (Option String)) : Option String := checks.findSome? id

/-- Builds a value from the fact that no check failed. -/
def checked {α : Type} (violation : Option String) (build : violation = none → α) :
    Except String α :=
  match violation, build with
  | none, build => .ok (build rfl)
  | some text, _ => .error text

@[simp] theorem refuse_eq_none {c : Bool} {text : String} :
    refuse c text = none ↔ c = false := by
  cases c <;> simp [refuse]

@[simp] theorem firstOf_eq_none {checks : List (Option String)} :
    firstOf checks = none ↔ ∀ check ∈ checks, check = none := by
  simp [firstOf, List.findSome?_eq_none_iff]

theorem firstOf_nil : firstOf [] = none := rfl

theorem firstOf_cons {check : Option String} {checks : List (Option String)} :
    firstOf (check :: checks) = none ↔ check = none ∧ firstOf checks = none := by
  simp

/-- What passes every check is built. -/
theorem checked_eq_ok {α : Type} {violation : Option String} {build : violation = none → α}
    (h : violation = none) : checked violation build = .ok (build h) := by
  subst h
  rfl

theorem checked_of_some {α : Type} {violation : Option String} {build : violation = none → α}
    {text : String} (h : violation = some text) : checked violation build = .error text := by
  subst h
  rfl

/-- What was built has passed every check. -/
theorem of_checked {α : Type} {violation : Option String} {build : violation = none → α} {a : α}
    (h : checked violation build = .ok a) : ∃ hnone : violation = none, a = build hnone := by
  cases violation with
  | none => exact ⟨rfl, (Except.ok.inj h).symm⟩
  | some text => cases h

@[simp] theorem ok_bind {ε α β : Type} {a : α} {f : α → Except ε β} :
    (Except.ok a >>= f) = f a := rfl

/-- Another text for the error changes nothing of a result. -/
theorem mapError_eq_ok {ε ε' α : Type} {x : Except ε α} {g : ε → ε'} {a : α} :
    x.mapError g = .ok a ↔ x = .ok a := by
  cases x with
  | error e => simp [Except.mapError]
  | ok a' => simp [Except.mapError]

/-- A computation that succeeds succeeds at every step. -/
theorem bind_eq_ok {ε α β : Type} {x : Except ε α} {f : α → Except ε β} {b : β} :
    (x >>= f) = .ok b ↔ ∃ a, x = .ok a ∧ f a = .ok b := by
  cases x with
  | error e => simp [bind, Except.bind]
  | ok a => simp

/-- A traversal succeeds when each element does, and gives their results in order. -/
theorem mapM_eq_ok {ε α β : Type} {f : α → Except ε β} {xs : List α} {ys : List β} :
    xs.mapM f = .ok ys ↔ List.Forall₂ (fun x y => f x = .ok y) xs ys := by
  induction xs generalizing ys with
  | nil =>
    rw [List.mapM_nil, List.forall₂_nil_left_iff]
    exact ⟨fun h => (Except.ok.inj h).symm, fun h => congrArg Except.ok h.symm⟩
  | cons x xs ih =>
    rw [List.mapM_cons]
    constructor
    · intro h
      obtain ⟨y, hy, h⟩ := bind_eq_ok.mp h
      obtain ⟨rest, hrest, h⟩ := bind_eq_ok.mp h
      rw [← Except.ok.inj h]
      exact .cons hy (ih.mp hrest)
    · intro h
      cases h with
      | cons hy hrest =>
        rw [hy, ok_bind, ih.mpr hrest]
        rfl

/-- The first entry that an earlier one equals. -/
def firstRepeated {α : Type} [DecidableEq α] : List α → List α → Option α
  | _, [] => none
  | vistos, item :: rest =>
    if item ∈ vistos then some item else firstRepeated (item :: vistos) rest

theorem firstRepeated_eq_none {α : Type} [DecidableEq α] {vistos items : List α} :
    firstRepeated vistos items = none ↔ items.Nodup ∧ ∀ item ∈ items, item ∉ vistos := by
  induction items generalizing vistos with
  | nil => simp [firstRepeated]
  | cons item rest ih =>
    by_cases hseen : item ∈ vistos
    · simp [firstRepeated, hseen]
    · simp only [firstRepeated, hseen, if_false, ih, List.nodup_cons, List.mem_cons,
        forall_eq_or_imp, not_false_eq_true, true_and]
      constructor
      · rintro ⟨hnodup, hrest⟩
        exact ⟨⟨fun hmem => hrest item hmem (.inl rfl), hnodup⟩,
          fun other hother hv => hrest other hother (.inr hv)⟩
      · rintro ⟨⟨hfresh, hnodup⟩, hrest⟩
        refine ⟨hnodup, fun other hother => ?_⟩
        rintro (rfl | hv)
        · exact hfresh hother
        · exact hrest other hother hv

/-- The Unicode category of the characters that an opaque text may not hold:
controls, formats and the line and paragraph separators. -/
def hiddenCategory (c : Char) : Option String :=
  let n := c.toNat
  let within (ranges : List (Nat × Nat)) := ranges.any fun r => r.1 ≤ n && n ≤ r.2
  if within [(0x00, 0x1f), (0x7f, 0x9f)] then some "Cc"
  else if within [(0xad, 0xad), (0x600, 0x605), (0x61c, 0x61c), (0x6dd, 0x6dd), (0x70f, 0x70f),
      (0x890, 0x891), (0x8e2, 0x8e2), (0x180e, 0x180e), (0x200b, 0x200f), (0x202a, 0x202e),
      (0x2060, 0x2064), (0x2066, 0x206f), (0xfeff, 0xfeff), (0xfff9, 0xfffb), (0x110bd, 0x110bd),
      (0x110cd, 0x110cd), (0x13430, 0x1343f), (0x1bca0, 0x1bca3), (0x1d173, 0x1d17a),
      (0xe0001, 0xe0001), (0xe0020, 0xe007f)] then some "Cf"
  else if n = 0x2028 then some "Zl"
  else if n = 0x2029 then some "Zp"
  else none

/-- The code point in hexadecimal, with four digits at least. -/
def codePoint (c : Char) : String :=
  let n := c.toNat
  let width := if n < 0x10000 then 4 else if n < 0x100000 then 5 else 6
  String.ofList ((digits 16 width n).map Char.toUpper)

/-- The contract of an opaque text: stated, without hidden characters, and short.
The value itself is left as it is. -/
def opaqueText (nome valor : String) (tamanho : Nat) : Option String :=
  firstOf
    [refuse (blank valor) (nome ++ " não pode ser vazio ou apenas espaços"),
      (valor.toList.find? fun c => (hiddenCategory c).isSome).map fun c =>
        nome ++ " não pode conter caracteres de controle, formatação ou separação invisível — U+" ++
          codePoint c ++ " pertence à categoria Unicode " ++ (hiddenCategory c).getD "",
      refuse (tamanho < valor.length)
        (nome ++ " excede " ++ toString tamanho ++ " caracteres")]

/-- An accepted text is stated, short and holds no hidden character. -/
theorem opaqueText_eq_none {nome valor : String} {tamanho : Nat} :
    opaqueText nome valor tamanho = none ↔
      blank valor = false ∧ (∀ c ∈ valor.toList, hiddenCategory c = none) ∧
        valor.length ≤ tamanho := by
  simp [opaqueText, List.find?_eq_none]

end Support
