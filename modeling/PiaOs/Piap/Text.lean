import Mathlib.Data.List.Lex
import PiaOs.Support.Checked

/-!
# Texts of an envelope

A Python text is a sequence of code points, halves of a surrogate pair among them. The
checks of the envelope look at it and leave it as it is.
-/

namespace PiaOs.Piap

open Support

instance neZero_surrogates : @NeZero Nat Zero.ofOfNat0 2048 := ⟨by decide⟩

/-- A code point: a character, or half of a surrogate pair. -/
inductive CodePoint
  | char (c : Char)
  | surrogate (n : Fin 2048)
  deriving DecidableEq

/-- `ord(c)`. -/
def CodePoint.ord : CodePoint → ℕ
  | .char c => c.toNat
  | .surrogate n => 0xd800 + n

def CodePoint.char? : CodePoint → Option Char
  | .char c => some c
  | .surrogate _ => none

/-- Surrogates are no spaces. -/
def CodePoint.isSpace : CodePoint → Bool
  | .char c => Support.isSpace c
  | .surrogate _ => false

/-- `CATEGORIAS_UNICODE_PROIBIDAS`. The category of a surrogate is none of them. -/
def CodePoint.proibido : CodePoint → Bool
  | .char c => (hiddenCategory c).isSome
  | .surrogate _ => false

/-- A `str`. -/
abbrev Texto : Type := List CodePoint

instance Texto.lawfulBEq : LawfulBEq Texto := inferInstanceAs (LawfulBEq (List CodePoint))

/-- The text of a string of characters. -/
def Texto.of (s : String) : Texto := s.toList.map CodePoint.char

/-- The characters of a text without surrogates. -/
def Texto.string? (t : Texto) : Option String := (t.mapM CodePoint.char?).map String.ofList

/-- `a < b` on texts, by their code points. -/
def Texto.antes : Texto → Texto → Bool
  | _, [] => false
  | [], _ :: _ => true
  | a :: as, b :: bs => a.ord < b.ord || (a.ord == b.ord && Texto.antes as bs)

/-- What a value object finds wrong, with the field. -/
inductive Violacao
  | vazio (nome : String)
  | excede (nome : String) (limite : ℕ)
  | invisivel (nome : String) (c : CodePoint)
  | foraDaGramatica (nome : String)
  | sha256 (nome : String)
  | menorQueUm (nome : String) (n : ℤ)
  | versaoExcede (nome : String) (n : ℤ)
  | itensExcedem (nome : String) (n : ℕ)
  | duplicado (nome : String)
  | foraDeOrdem (nome : String)
  | ingenuo (nome : String)
  | foraDoCalendario (nome : String)
  | autorizadoSemAprovacao
  | desconhecidoComAprovacao
  | horizonteNaoPositivo
  | referenciaPosterior
  | registroPosterior
  deriving DecidableEq

/-- Builds a value from the fact that nothing is wrong with it. -/
def construir {α : Type} (violacao : Option Violacao) (build : violacao = none → α) :
    Except Violacao α :=
  match violacao, build with
  | none, build => .ok (build rfl)
  | some v, _ => .error v

theorem construir_eq_ok {α : Type} {violacao : Option Violacao} {build : violacao = none → α}
    (h : violacao = none) : construir violacao build = .ok (build h) := by
  subst h
  rfl

theorem of_construir {α : Type} {violacao : Option Violacao} {build : violacao = none → α} {a : α}
    (h : construir violacao build = .ok a) : ∃ hnone : violacao = none, a = build hnone := by
  cases violacao with
  | none => exact ⟨rfl, (Except.ok.inj h).symm⟩
  | some v => cases h

/-- The first of the checks that finds something. -/
def primeira (checks : List (Option Violacao)) : Option Violacao := checks.findSome? id

@[simp] theorem primeira_eq_none {checks : List (Option Violacao)} :
    primeira checks = none ↔ ∀ check ∈ checks, check = none := by
  simp [primeira, List.findSome?_eq_none_iff]

/-- A check that finds the violation when the condition holds. -/
def recusar (c : Bool) (v : Violacao) : Option Violacao := if c then some v else none

@[simp] theorem recusar_eq_none {c : Bool} {v : Violacao} : recusar c v = none ↔ c = false := by
  cases c <;> simp [recusar]

def maxRefLength : ℕ := 255

/-- `validar_referencia_opaca`. -/
def validarReferenciaOpaca (nome : String) (valor : Texto) : Option Violacao :=
  primeira
    [recusar (valor.all CodePoint.isSpace) (.vazio nome),
      recusar (maxRefLength < valor.length) (.excede nome maxRefLength),
      (valor.find? CodePoint.proibido).map (.invisivel nome)]

def maxPiapVersionNumber : ℤ := 2147483647

def maxApprovalScopeItems : ℕ := 32

def maxPayloadReferences : ℕ := 256

/-- `validar_inteiro_positivo`. -/
def validarInteiroPositivo (nome : String) (valor : ℤ) : Option Violacao :=
  primeira
    [recusar (valor < 1) (.menorQueUm nome valor),
      recusar (maxPiapVersionNumber < valor) (.versaoExcede nome valor)]

/-- `validar_escopo`. -/
def validarEscopo (nome : String) (valor : List Texto) : Option Violacao :=
  primeira
    [recusar valor.isEmpty (.vazio nome),
      recusar (maxApprovalScopeItems < valor.length) (.itensExcedem nome valor.length),
      primeira (valor.zipIdx.map fun item =>
        validarReferenciaOpaca (nome ++ "[" ++ toString item.2 ++ "]") item.1),
      recusar (valor.dedup.length ≠ valor.length) (.duplicado nome),
      recusar (¬valor.Pairwise fun a b => b.antes a = false) (.foraDeOrdem nome)]

def maxTokenLength : ℕ := 64

/-- A lowercase letter or a digit of ASCII. -/
def tokenChar (c : Char) : Bool := ('a' ≤ c && c ≤ 'z') || ('0' ≤ c && c ≤ '9')

/-- `[a-z0-9]*(?:[._-][a-z0-9]+)*` after one character that was read. -/
def tokenRest : List Char → Bool
  | [] => true
  | [c] => tokenChar c
  | c :: d :: rest =>
    if tokenChar c then tokenRest (d :: rest)
    else (c = '.' || c = '_' || c = '-') && tokenChar d && tokenRest rest

/-- `GRAMATICA_DO_TOKEN`. -/
def gramaticaDoToken : List Char → Bool
  | [] => false
  | c :: rest => 'a' ≤ c && c ≤ 'z' && tokenRest rest

/-- `GRAMATICA_SHA256_HEX`. -/
def gramaticaSha256Hex (cs : List Char) : Bool := cs.length == 64 && cs.all isHexDigit

/-- `validar_token`. -/
def validarToken (nome : String) (valor : Texto) : Option Violacao :=
  primeira
    [recusar valor.isEmpty (.vazio nome),
      recusar (maxTokenLength < valor.length) (.excede nome maxTokenLength),
      recusar (valor.string?.all fun s => !gramaticaDoToken s.toList) (.foraDaGramatica nome)]

/-- `validar_sha256_hex`. -/
def validarSha256Hex (nome : String) (valor : Texto) : Option Violacao :=
  recusar (valor.string?.all fun s => !gramaticaSha256Hex s.toList) (.sha256 nome)

example : validarToken "target" (Texto.of "grid.load-2") = none := by decide +kernel

example : validarToken "target" (Texto.of "grid..load") = some (.foraDaGramatica "target") := by
  decide +kernel

/-! ## The order of texts

Texts are ordered by their code points. Pairs with distinct keys have one order by their keys,
whatever the order in which they come. -/

theorem ord_injective : Function.Injective CodePoint.ord := by
  intro a b h
  have hvalid (c : Char) : c.toNat < 0xd800 ∨ 0xdfff < c.toNat := by
    rcases c.valid with hlow | hhigh
    · exact .inl hlow
    · exact .inr hhigh.1
  cases a with
  | char c =>
    cases b with
    | char d =>
      have hchars : c.toNat = d.toNat := h
      rw [Char.toNat_inj.mp hchars]
    | surrogate n =>
      have hsame : c.toNat = 0xd800 + n := h
      have hc := hvalid c
      have hn := n.isLt
      omega
  | surrogate m =>
    cases b with
    | char d =>
      have hsame : 0xd800 + m = d.toNat := h
      have hd := hvalid d
      have hm := m.isLt
      omega
    | surrogate n =>
      have hsame : 0xd800 + (m : ℕ) = 0xd800 + n := h
      have hmn : m = n := Fin.ext (by omega)
      rw [hmn]

theorem antes_iff {a b : Texto} :
    Texto.antes a b = true ↔ a.map CodePoint.ord < b.map CodePoint.ord := by
  induction a generalizing b with
  | nil =>
    cases b with
    | nil => simp [Texto.antes]
    | cons d b => simp [Texto.antes]
  | cons c a ih =>
    cases b with
    | nil => simp [Texto.antes]
    | cons d b =>
      rw [Texto.antes, List.map_cons, List.map_cons, List.cons_lt_cons_iff, Bool.or_eq_true,
        Bool.and_eq_true, decide_eq_true_eq, beq_iff_eq, ih]

theorem antes_eq_false {a b : Texto} :
    Texto.antes b a = false ↔ a.map CodePoint.ord ≤ b.map CodePoint.ord := by
  rw [← Bool.not_eq_true, antes_iff, not_lt]

section Pairs

variable {α : Type} {pares outros : List (Texto × α)}

instance antes_total : Std.Total fun a b : Texto × α => b.1.antes a.1 = false where
  total a b := by
    rw [antes_eq_false, antes_eq_false]
    exact le_total _ _

instance antes_trans : IsTrans (Texto × α) fun a b => b.1.antes a.1 = false where
  trans a b c := by
    rw [antes_eq_false, antes_eq_false, antes_eq_false]
    exact le_trans

/-- `sorted(pares)`, by the keys. -/
def porChave (pares : List (Texto × α)) : List (Texto × α) :=
  pares.insertionSort fun a b => b.1.antes a.1 = false

theorem perm_porChave (pares : List (Texto × α)) : (porChave pares).Perm pares :=
  List.perm_insertionSort _ _

/-- Pairs with distinct keys have one order. -/
theorem porChave_eq (hperm : pares.Perm outros) (hnodup : (pares.map (·.1)).Nodup) :
    porChave pares = porChave outros := by
  have hsorted (pares : List (Texto × α)) :
      (porChave pares).Pairwise fun a b => b.1.antes a.1 = false :=
    List.pairwise_insertionSort _ _
  have hsame := ((perm_porChave pares).trans hperm).trans (perm_porChave outros).symm
  refine hsame.eq_of_pairwise ?_ (hsorted pares) (hsorted outros)
  intro a b ha hb hab hba
  have hkey : a.1 = b.1 := by
    rw [antes_eq_false] at hab hba
    exact ord_injective.list_map (le_antisymm hab hba)
  have ha' : a ∈ pares := (perm_porChave pares).subset ha
  have hb' : b ∈ pares := hperm.symm.subset ((perm_porChave outros).subset hb)
  exact List.inj_on_of_nodup_map hnodup ha' hb' hkey

/-- Ordered alike, pairs are the same up to their order. -/
theorem perm_of_porChave_eq (h : porChave pares = porChave outros) : pares.Perm outros := by
  have hperm := (perm_porChave pares).symm
  rw [h] at hperm
  exact hperm.trans (perm_porChave outros)

end Pairs

/-- Pairs with the same keys in the same order, distinct ones, are determined by their set. -/
theorem eq_of_perm_of_keys {α β : Type} {l l' : List (α × β)} (hperm : l.Perm l')
    (hkeys : l.map (·.1) = l'.map (·.1)) (hnodup : (l.map (·.1)).Nodup) : l = l' := by
  induction l generalizing l' with
  | nil => exact hperm.nil_eq
  | cons par l ih =>
    obtain ⟨chave, valor⟩ := par
    cases l' with
    | nil => cases hkeys
    | cons par' l' =>
      obtain ⟨chave', valor'⟩ := par'
      simp only [List.map_cons, List.cons.injEq] at hkeys
      obtain ⟨rfl, hrest⟩ := hkeys
      obtain ⟨hfirst, hnodup⟩ := List.nodup_cons.mp hnodup
      have hmem : (chave, valor) ∈ (chave, valor') :: l' := hperm.subset List.mem_cons_self
      rcases List.mem_cons.mp hmem with hsame | hlater
      · rw [← hsame] at hperm ⊢
        rw [ih hperm.cons_inv hrest hnodup]
      · have hchave : chave ∈ l'.map (·.1) := List.mem_map_of_mem hlater
        rw [← hrest] at hchave
        exact absurd hchave hfirst

end PiaOs.Piap
