import Mathlib.Data.List.DropRight
import PiaOs.Piap.CodecLaws

/-!
# Texts of identifiers

`uuid.UUID(text)` takes more spellings than `str` writes: it drops `urn:` and `uuid:` wherever
they stand, the braces around and every hyphen, and leaves what remains to `int`, which takes
spaces around, a sign, a base prefix, underscores between digits and the digits of every script.
-/

namespace PiaOs.Memory.Codec

open Support Piap

/-! ## What `int(text, 16)` reads -/

/-- The zeros of the scripts with decimal digits. -/
def zerosDecimais : List ℕ :=
  [0x660, 0x6f0, 0x7c0, 0x966, 0x9e6, 0xa66, 0xae6, 0xb66, 0xbe6, 0xc66, 0xce6, 0xd66, 0xde6,
    0xe50, 0xed0, 0xf20, 0x1040, 0x1090, 0x17e0, 0x1810, 0x1946, 0x19d0, 0x1a80, 0x1a90, 0x1b50,
    0x1bb0, 0x1c40, 0x1c50, 0xa620, 0xa8d0, 0xa900, 0xa9d0, 0xa9f0, 0xaa50, 0xabf0, 0xff10,
    0x104a0, 0x10d30, 0x11066, 0x110f0, 0x11136, 0x111d0, 0x112f0, 0x11450, 0x114d0, 0x11650,
    0x116c0, 0x11730, 0x118e0, 0x11950, 0x11c50, 0x11d50, 0x11da0, 0x11f50, 0x16a60, 0x16ac0,
    0x16b50, 0x1d7ce, 0x1d7d8, 0x1d7e2, 0x1d7ec, 0x1d7f6, 0x1e140, 0x1e2f0, 0x1e4f0, 0x1e950,
    0x1fbf0]

/-- A code point outside ASCII stands for a blank, for a decimal digit or for nothing. -/
def paraAscii (c : CodePoint) : CodePoint :=
  if c.ord < 127 then c
  else if c.isSpace then .char ' '
  else match zerosDecimais.find? fun nulo => nulo ≤ c.ord && c.ord < nulo + 10 with
    | some nulo => .char (hexDigit (c.ord - nulo))
    | none => .char '?'

/-- The blanks of ASCII. -/
def brancoAscii (c : CodePoint) : Bool :=
  c.ord == 32 || (9 ≤ c.ord && c.ord ≤ 13)

/-- What follows the base prefix, after which an underscore may stand. -/
def semPrefixo : Texto → Texto
  | .char '0' :: .char 'x' :: .char '_' :: t => t
  | .char '0' :: .char 'X' :: .char '_' :: t => t
  | .char '0' :: .char 'x' :: t => t
  | .char '0' :: .char 'X' :: t => t
  | t => t

/-- What follows a plus. -/
def semSinal : Texto → Texto
  | .char '+' :: t => t
  | t => t

/-- `int(text, 16)`, of a text without hyphens: groups of digits between single underscores. -/
def inteiroBase16? (t : Texto) : Option ℕ :=
  let t := ((t.map paraAscii).dropWhile brancoAscii).rdropWhile brancoAscii
  let grupos := (semPrefixo (semSinal t)).splitOn (.char '_')
  if [] ∈ grupos then none
  else grupos.flatten.foldlM (fun n c => c.hex?.map (16 * n + ·)) 0

/-! ## `uuid.UUID` -/

/-- `text.replace(padrao, "")`. The count is of the code points that are still to be left out. -/
def removerTodas (padrao : Texto) : ℕ → Texto → Texto
  | _, [] => []
  | pulo + 1, _ :: t => removerTodas padrao pulo t
  | 0, c :: t =>
    if padrao.isPrefixOf (c :: t) then removerTodas padrao (padrao.length - 1) t
    else c :: removerTodas padrao 0 t

def chave (c : CodePoint) : Bool := c = .char '\x7b' || c = .char '\x7d'

/-- What `uuid.UUID` leaves of a text. -/
def nucleoDoUuid (t : Texto) : Texto :=
  let t := removerTodas (Texto.of "uuid:") 0 (removerTodas (Texto.of "urn:") 0 t)
  ((t.dropWhile chave).rdropWhile chave).filter (· ≠ .char '-')

/-- `uuid.UUID(text)`. -/
def uuidDeTexto? (t : Texto) : Option Referencia :=
  let hex := nucleoDoUuid t
  if hex.length ≠ 32 then none
  else do
    let n ← inteiroBase16? hex
    if h : n < 2 ^ 128 then some ⟨n, h⟩ else none

/-! ## The canonical text -/

theorem removerTodas_of_notMem {c : CodePoint} {padrao t : Texto} (h : c ∉ t) :
    removerTodas (c :: padrao) 0 t = t := by
  induction t with
  | nil => rfl
  | cons d t ih =>
    rw [List.mem_cons, not_or] at h
    have hno : (c :: padrao).isPrefixOf (d :: t) = false := by
      simp [List.isPrefixOf, h.1]
    rw [removerTodas, hno, if_neg Bool.false_ne_true, ih h.2]

theorem dropWhile_of_forall {α : Type} {p : α → Bool} {l : List α} (h : ∀ a ∈ l, p a = false) :
    l.dropWhile p = l := by
  cases l with
  | nil => rfl
  | cons a l => rw [List.dropWhile_cons_of_neg (by simp [h a List.mem_cons_self])]

theorem rdropWhile_of_forall {α : Type} {p : α → Bool} {l : List α} (h : ∀ a ∈ l, p a = false) :
    l.rdropWhile p = l := by
  rw [List.rdropWhile, dropWhile_of_forall (fun a ha => h a (List.mem_reverse.mp ha)),
    List.reverse_reverse]

theorem semSinal_of_notMem {t : Texto} (h : .char '+' ∉ t) : semSinal t = t := by
  unfold semSinal
  split
  · exact absurd List.mem_cons_self h
  · rfl

theorem semPrefixo_of_notMem {t : Texto} (hx : .char 'x' ∉ t) (hX : .char 'X' ∉ t) :
    semPrefixo t = t := by
  unfold semPrefixo
  split
  · simp at hx
  · simp at hX
  · simp at hx
  · simp at hX
  · rfl

/-- What the text of an identifier is made of. -/
theorem mem_str {ref : Referencia} {c : CodePoint} (hc : c ∈ Texto.of ref.str) :
    c = .char '-' ∨ c ∈ (digits 16 32 ref.val).map CodePoint.char := by
  by_cases hdash : c = .char '-'
  · exact .inl hdash
  · have hfilter : c ∈ (Texto.of ref.str).filter (· ≠ .char '-') :=
      List.mem_filter.mpr ⟨hc, by simpa using hdash⟩
    rw [filter_str] at hfilter
    exact .inr hfilter

/-- The digits in base sixteen, as characters of a text. -/
theorem isHexDigit_of_mem_digits {n : ℕ} {c : CodePoint}
    (hc : c ∈ (digits 16 32 n).map CodePoint.char) : ∃ d, c = .char d ∧ isHexDigit d = true := by
  obtain ⟨d, hd, rfl⟩ := List.mem_map.mp hc
  exact ⟨d, rfl, Sha256.isHexDigit_of_mem (by decide) hd⟩

/-- No digit is one of the other characters. -/
theorem notMem_digits {n : ℕ} {d : Char} (hd : isHexDigit d = false) :
    .char d ∉ (digits 16 32 n).map CodePoint.char := by
  intro hmem
  obtain ⟨e, he, hhex⟩ := isHexDigit_of_mem_digits hmem
  cases he
  rw [hd] at hhex
  cases hhex

theorem notMem_str {ref : Referencia} {d : Char} (hdash : d ≠ '-') (hd : isHexDigit d = false) :
    .char d ∉ Texto.of ref.str := by
  intro hmem
  rcases mem_str hmem with heq | hdigit
  · exact hdash (CodePoint.char.inj heq)
  · exact notMem_digits hd hdigit

/-- Of a canonical text nothing but the hyphens is left out. -/
theorem nucleoDoUuid_str (ref : Referencia) :
    nucleoDoUuid (Texto.of ref.str) = (digits 16 32 ref.val).map .char := by
  have hchave : ∀ c ∈ Texto.of ref.str, chave c = false := by
    intro c hc
    rcases mem_str hc with rfl | hdigit
    · decide
    · obtain ⟨d, rfl, hhex⟩ := isHexDigit_of_mem_digits hdigit
      rw [chave, Bool.or_eq_false_iff, decide_eq_false_iff_not, decide_eq_false_iff_not,
        CodePoint.char.injEq, CodePoint.char.injEq]
      constructor <;> (rintro rfl; exact absurd hhex (by decide))
  have hurn : removerTodas (Texto.of "urn:") 0 (Texto.of ref.str) = Texto.of ref.str :=
    removerTodas_of_notMem (notMem_str (by decide) (by decide))
  have huuid : removerTodas (Texto.of "uuid:") 0 (Texto.of ref.str) = Texto.of ref.str :=
    removerTodas_of_notMem (notMem_str (by decide) (by decide))
  simp only [nucleoDoUuid, hurn, huuid, dropWhile_of_forall hchave, rdropWhile_of_forall hchave]
  exact filter_str ref

/-- The digits are ASCII characters, and none of them is blank. -/
theorem digitoHex {d : Char} (h : isHexDigit d = true) :
    paraAscii (.char d) = .char d ∧ brancoAscii (.char d) = false := by
  have hrange : 48 ≤ d.toNat ∧ d.toNat < 127 := by
    simp only [isHexDigit, Bool.or_eq_true, Bool.and_eq_true, decide_eq_true_eq, Char.le_def,
      UInt32.le_iff_toNat_le] at h
    change 48 ≤ d.val.toNat ∧ d.val.toNat < 127
    have h0 : '0'.val.toNat = 48 := rfl
    have h9 : '9'.val.toNat = 57 := rfl
    have ha : 'a'.val.toNat = 97 := rfl
    have hf : 'f'.val.toNat = 102 := rfl
    omega
  constructor
  · rw [paraAscii, if_pos (show CodePoint.ord (.char d) < 127 from hrange.2)]
  · rw [brancoAscii, CodePoint.ord]
    simp only [Bool.or_eq_false_iff, Bool.and_eq_false_iff, beq_eq_false_iff_ne,
      decide_eq_false_iff_not]
    omega

/-- Digits alone are read as the number that they write. -/
theorem inteiroBase16?_digits (n : ℕ) :
    inteiroBase16? ((digits 16 32 n).map .char) = some (n % 16 ^ 32) := by
  have hhex {c : CodePoint} (hc : c ∈ (digits 16 32 n).map CodePoint.char) :
      paraAscii c = c ∧ brancoAscii c = false := by
    obtain ⟨d, rfl, hd⟩ := isHexDigit_of_mem_digits hc
    exact digitoHex hd
  have hascii : ((digits 16 32 n).map CodePoint.char).map paraAscii =
      (digits 16 32 n).map .char :=
    (List.map_congr_left fun c hc => (hhex hc).1).trans (List.map_id' _)
  have hplus : .char '+' ∉ (digits 16 32 n).map CodePoint.char := notMem_digits (by decide)
  have hx : .char 'x' ∉ (digits 16 32 n).map CodePoint.char := notMem_digits (by decide)
  have hX : .char 'X' ∉ (digits 16 32 n).map CodePoint.char := notMem_digits (by decide)
  have hunder : .char '_' ∉ (digits 16 32 n).map CodePoint.char := notMem_digits (by decide)
  have hne : (digits 16 32 n).map CodePoint.char ≠ [] := by
    intro hnil
    have hlength := congrArg List.length hnil
    rw [List.length_map, Sha256.length_digits] at hlength
    cases hlength
  unfold inteiroBase16?
  simp only [hascii, dropWhile_of_forall fun c hc => (hhex hc).2,
    rdropWhile_of_forall fun c hc => (hhex hc).2]
  rw [semSinal_of_notMem hplus, semPrefixo_of_notMem hx hX, List.splitOn_eq_singleton hunder]
  rw [if_neg (by simpa using hne), List.flatten_singleton, foldlM_digits]

/-- An identifier is read back from its text. -/
theorem uuidDeTexto?_str (ref : Referencia) : uuidDeTexto? (Texto.of ref.str) = some ref := by
  have hlength : ((digits 16 32 ref.val).map CodePoint.char).length = 32 := by
    rw [List.length_map, Sha256.length_digits]
  have hsmall : ref.val % 16 ^ 32 = ref.val :=
    Nat.mod_eq_of_lt (lt_of_lt_of_eq ref.isLt (by norm_num))
  unfold uuidDeTexto?
  simp only [nucleoDoUuid_str, hlength, inteiroBase16?_digits, hsmall]
  simp

/-- Braces, capital letters and hyphens at other places are read too. -/
example : uuidDeTexto? (Texto.of "\x7b00000000000000000000-0000000000A1\x7d") = some 161 := by decide

end PiaOs.Memory.Codec
