import PiaOs.Piap.RoundTrip

/-!
# Canonical texts and their hash

A document has a canonical text unless one of its numbers is too long for `int` or one of its
texts has a surrogate. The text determines the document, so equal hashes of two documents are
the same document twice or a collision.
-/

namespace PiaOs.Piap

open Support

mutual

/-- `int.__repr__` writes every number of the document. -/
def Documento.cabe : Documento → Bool
  | .nulo => true
  | .inteiro n => n.natAbs < 10 ^ intMaxStrDigits
  | .texto _ => true
  | .lista itens => cabemItens itens
  | .objeto campos => cabemCampos campos

def Documento.cabemItens : List Documento → Bool
  | [] => true
  | item :: itens => item.cabe && cabemItens itens

def Documento.cabemCampos : List (Texto × Documento) → Bool
  | [] => true
  | (_, valor) :: campos => valor.cabe && cabemCampos campos

end

namespace Documento

/-- `json.dumps(...).encode("utf-8")`, before the encoding. `none` is the `ValueError` of a number
with too many digits, or the `UnicodeEncodeError` of a surrogate. -/
def canonico (d : Documento) : Option String := if d.cabe then d.dumps.string? else none

/-- The hash of the canonical text. -/
def sha256 (d : Documento) : Option String := d.canonico.map Sha256.hexdigest

/-- Different canonical texts with one hash. -/
def Colide (d d' : Documento) : Prop :=
  ∃ s s', d.canonico = some s ∧ d'.canonico = some s' ∧ s ≠ s' ∧
    Sha256.hexdigest s = Sha256.hexdigest s'

end Documento

theorem cabe_inteiro {n : ℤ} :
    (Documento.inteiro n).cabe = true ↔ n.natAbs < 10 ^ intMaxStrDigits := by
  rw [Documento.cabe, decide_eq_true_eq]

theorem cabe_lista {itens : List Documento} :
    (Documento.lista itens).cabe = true ↔ ∀ item ∈ itens, item.cabe = true := by
  rw [Documento.cabe]
  induction itens with
  | nil => simp [Documento.cabemItens]
  | cons item itens ih => rw [Documento.cabemItens, Bool.and_eq_true, ih, List.forall_mem_cons]

theorem cabe_objeto {campos : List (Texto × Documento)} :
    (Documento.objeto campos).cabe = true ↔ ∀ campo ∈ campos, campo.2.cabe = true := by
  rw [Documento.cabe]
  induction campos with
  | nil => simp [Documento.cabemCampos]
  | cons campo campos ih =>
    rw [Documento.cabemCampos, Bool.and_eq_true, ih, List.forall_mem_cons]

theorem cabe_campos {fields : List (String × Documento)} :
    (Documento.campos fields).cabe = true ↔ ∀ field ∈ fields, field.2.cabe = true := by
  unfold Documento.campos
  rw [cabe_objeto, List.forall_mem_map]

mutual

/-- A document is determined by the value that it writes. -/
theorem valor_injective (d d' : Documento) (h : d.valor = d'.valor) : d = d' := by
  cases d with
  | nulo => cases d' <;> first | rfl | cases h
  | inteiro n =>
    cases d' with
    | inteiro n' => rw [Valor.inteiro.inj h]
    | _ => cases h
  | texto t =>
    cases d' with
    | texto t' => rw [Valor.texto.inj h]
    | _ => cases h
  | lista itens =>
    cases d' with
    | lista itens' => rw [valores_injective itens itens' (Valor.lista.inj h)]
    | _ => cases h
  | objeto campos =>
    cases d' with
    | objeto campos' => rw [pares_injective campos campos' (Valor.objeto.inj h)]
    | _ => cases h

theorem valores_injective (itens itens' : List Documento)
    (h : Documento.valores itens = Documento.valores itens') : itens = itens' := by
  cases itens with
  | nil =>
    cases itens' with
    | nil => rfl
    | cons item' itens' => cases h
  | cons item itens =>
    cases itens' with
    | nil => cases h
    | cons item' itens' =>
      obtain ⟨hfirst, hrest⟩ := List.cons.inj h
      rw [valor_injective item item' hfirst, valores_injective itens itens' hrest]

theorem pares_injective (campos campos' : List (Texto × Documento))
    (h : Documento.pares campos = Documento.pares campos') : campos = campos' := by
  cases campos with
  | nil =>
    cases campos' with
    | nil => rfl
    | cons campo' campos' => cases h
  | cons campo campos =>
    cases campos' with
    | nil => cases h
    | cons campo' campos' =>
      obtain ⟨chave, valor⟩ := campo
      obtain ⟨chave', valor'⟩ := campo'
      obtain ⟨hfirst, hrest⟩ := List.cons.inj h
      obtain ⟨rfl, hvalor⟩ := Prod.mk.inj hfirst
      rw [valor_injective valor valor' hvalor, pares_injective campos campos' hrest]

end

/-- The text of a document that can be read determines it. -/
theorem dumps_injective {niveis : ℕ} {d d' : Documento} (h : d.Legivel niveis)
    (h' : d'.Legivel niveis) (htext : d.dumps = d'.dumps) : d = d' := by
  have hread := loads_dumps h
  rw [htext, loads_dumps h'] at hread
  exact (valor_injective d' d (Except.ok.inj hread)).symm

theorem string?_eq_some {t : Texto} {s : String} : t.string? = some s ↔ t = Texto.of s := by
  unfold Texto.string?
  rw [Option.map_eq_some_iff]
  constructor
  · rintro ⟨cs, hcs, rfl⟩
    unfold Texto.of
    rw [mapM_char?.mp hcs, String.toList_ofList]
  · intro h
    exact ⟨s.toList, mapM_char?.mpr h, String.ofList_toList⟩

theorem string?_isSome {t : Texto} : t.string?.isSome = true ↔ t.Inteiro := by
  rw [inteiro_iff]
  unfold Texto.encode
  cases t.string? <;> simp

theorem uuid_injective {u v : Referencia} (h : u.str = v.str) : u = v := by
  have hread := uuidCanonico?_str u
  rw [h, uuidCanonico?_str v] at hread
  exact (Option.some.inj hread).symm

namespace Documento

variable {d d' : Documento} {niveis : ℕ}

/-- Which documents have a canonical text. -/
theorem canonico_isSome : d.canonico.isSome = true ↔ d.cabe = true ∧ d.dumps.Inteiro := by
  unfold canonico
  by_cases hfits : d.cabe = true
  · rw [if_pos hfits, string?_isSome]
    exact (and_iff_right hfits).symm
  · rw [if_neg hfits]
    simp [hfits]

theorem canonico_injective {s : String} (h : d.Legivel niveis) (h' : d'.Legivel niveis)
    (hs : d.canonico = some s) (hs' : d'.canonico = some s) : d = d' := by
  have htext : ∀ {d : Documento}, d.canonico = some s → d.dumps = Texto.of s := by
    intro d hd
    unfold canonico at hd
    split at hd
    case isTrue => exact string?_eq_some.mp hd
    case isFalse => cases hd
  exact dumps_injective h h' ((htext hs).trans (htext hs').symm)

/-- Equal hashes are those of one document, or a collision. -/
theorem sha256_eq {x : String} (h : d.Legivel niveis) (h' : d'.Legivel niveis)
    (hx : d.sha256 = some x) (hx' : d'.sha256 = some x) : d = d' ∨ d.Colide d' := by
  unfold sha256 at hx hx'
  obtain ⟨s, hs, hhash⟩ := Option.map_eq_some_iff.mp hx
  obtain ⟨s', hs', hhash'⟩ := Option.map_eq_some_iff.mp hx'
  by_cases hsame : s = s'
  · subst hsame
    exact .inl (canonico_injective h h' hs hs')
  · exact .inr ⟨s, s', hs, hs', hsame, hhash.trans hhash'.symm⟩

theorem sha256_isSome : d.sha256.isSome = true ↔ d.cabe = true ∧ d.dumps.Inteiro := by
  rw [sha256, Option.isSome_map, canonico_isSome]

end Documento

end PiaOs.Piap
