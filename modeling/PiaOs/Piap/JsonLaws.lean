import Mathlib.Tactic.IntervalCases
import PiaOs.Piap.Json
import PiaOs.Support.Sha256

/-!
# Reading what was written

A document that the boundary writes is read back as its value.
-/

namespace PiaOs.Piap

open Support

/-! ## Quoted texts -/

theorem hex?_hexDigit {n : ℕ} (h : n < 16) : (CodePoint.char (hexDigit n)).hex? = some n := by
  have hall : ∀ n : Fin 16, (CodePoint.char (hexDigit n.val)).hex? = some n.val := by decide
  exact hall ⟨n, h⟩

/-- The digits of an escape are read back. -/
theorem quatroHex_digits {n : ℕ} (h : n < 65536) (t : Texto) :
    quatroHex ((digits 16 4 n).map .char ++ t) = some (n, t) := by
  have h0 : n / 16 / 16 / 16 % 16 < 16 := by omega
  have h1 : n / 16 / 16 % 16 < 16 := by omega
  have h2 : n / 16 % 16 < 16 := by omega
  have h3 : n % 16 < 16 := by omega
  have hsum : ((n / 16 / 16 / 16 % 16 * 16 + n / 16 / 16 % 16) * 16 + n / 16 % 16) * 16 + n % 16 =
      n := by omega
  simp only [digits, List.nil_append, List.cons_append, List.map_cons, List.map_nil, quatroHex,
    hex?_hexDigit, h0, h1, h2, h3, Option.bind_eq_bind, Option.bind_some, Option.pure_def, hsum]

theorem unidade_toNat {c : Char} (h : c.toNat < 32) : unidade c.toNat = .char c := by
  unfold unidade
  rw [if_neg (by omega), Char.ofNat_toNat]

theorem escapeUnicode_digits {c : Char} (h : c.toNat < 32) (t : Texto) :
    escapeUnicode ((digits 16 4 c.toNat).map .char ++ t) = some (.char c, t) := by
  unfold escapeUnicode
  rw [quatroHex_digits (by omega)]
  simp only [Option.bind_eq_bind, Option.bind_some]
  rw [if_neg (by omega), unidade_toNat h]
  rfl

/-- Each escape is taken in one step. -/
theorem scanString_escape (c : CodePoint) (passos : ℕ) (t : Texto) :
    scanString (passos + 1) (c.escape ++ t) =
      (scanString passos t).map fun lida => (c :: lida.1, lida.2) := by
  cases c with
  | surrogate n =>
    have hord : ¬(0xd800 + n.val < 32) := by omega
    cases hrest : scanString passos t with
    | none => simp [CodePoint.escape, scanString, CodePoint.ord, hord, hrest]
    | some lida => simp [CodePoint.escape, scanString, CodePoint.ord, hord, hrest]
  | char c =>
    have hbarra (e : Char) (lido : CodePoint) (he : e ≠ 'u')
        (hlido : escapeSimples (.char e) = some lido) :
        scanString (passos + 1) (.char '\\' :: .char e :: t) =
          (scanString passos t).map fun lida => (lido :: lida.1, lida.2) := by
      cases hrest : scanString passos t with
      | none => simp [scanString, he, hlido, hrest]
      | some lida => simp [scanString, he, hlido, hrest]
    have hescape : CodePoint.escape (.char c) = (Json.escape c).map .char := rfl
    rw [hescape]
    unfold Json.escape
    split_ifs with hquote hslash hn hr ht hb hf hcontrol
    · rw [hquote]
      exact hbarra '"' _ (by decide) (by decide)
    · rw [hslash]
      exact hbarra '\\' _ (by decide) (by decide)
    · rw [hn]
      exact hbarra 'n' _ (by decide) (by decide)
    · rw [hr]
      exact hbarra 'r' _ (by decide) (by decide)
    · rw [ht]
      exact hbarra 't' _ (by decide) (by decide)
    · have hc : Char.ofNat 8 = c := by rw [← hb, Char.ofNat_toNat]
      rw [← hc]
      exact hbarra 'b' _ (by decide) (by decide)
    · have hc : Char.ofNat 12 = c := by rw [← hf, Char.ofNat_toNat]
      rw [← hc]
      exact hbarra 'f' _ (by decide) (by decide)
    · have hunit := escapeUnicode_digits hcontrol t
      rw [List.map_append]
      cases hrest : scanString passos t with
      | none => simp [scanString, hunit, hrest]
      | some lida => simp [scanString, hunit, hrest]
    · have hord : ¬((CodePoint.char c).ord < 32) := hcontrol
      cases hrest : scanString passos t with
      | none => simp [scanString, hquote, hslash, hord, hrest]
      | some lida => simp [scanString, hquote, hslash, hord, hrest]

theorem escape_length_pos (c : CodePoint) : 1 ≤ c.escape.length := by
  cases c with
  | surrogate n => simp [CodePoint.escape]
  | char c =>
    have hescape : CodePoint.escape (.char c) = (Json.escape c).map .char := rfl
    rw [hescape, List.length_map]
    unfold Json.escape
    split_ifs <;> simp

/-- A quoted text is read back, whatever follows it. -/
theorem scanString_aspas {passos : ℕ} {s : Texto} (t : Texto) (h : s.length < passos) :
    scanString passos (s.flatMap CodePoint.escape ++ .char '"' :: t) = some (s, t) := by
  induction s generalizing passos with
  | nil =>
    obtain ⟨passos, rfl⟩ := Nat.exists_eq_add_of_lt h
    simp [scanString]
  | cons c s ih =>
    cases passos with
    | zero => cases h
    | succ passos =>
      have hs : s.length < passos := by simpa using h
      rw [List.flatMap_cons, List.append_assoc, scanString_escape, ih hs]
      rfl

/-! ## Numbers -/

/-- What follows a value inside a container: the end of it, or a comma. -/
def Fim (t : Texto) : Prop :=
  ∀ c ∈ t.head?, c = .char ',' ∨ c = .char ']' ∨ c = .char '}'

theorem Fim.isDigit {t : Texto} (h : Fim t) : ∀ c ∈ t.head?, c.isDigit = false := by
  intro c hc
  rcases h c hc with rfl | rfl | rfl <;> decide

theorem parteReal_fim {t : Texto} (h : Fim t) : parteReal t = none := by
  cases t with
  | nil => rfl
  | cons c t =>
    rcases h c rfl with rfl | rfl | rfl <;> rfl

/-- The digits of a text are taken up to what is no digit. -/
theorem digitos_append {ds : List Char} {t : Texto} (hds : ∀ d ∈ ds, d.isDigit = true)
    (ht : ∀ c ∈ t.head?, c.isDigit = false) : digitos (ds.map .char ++ t) = (ds, t) := by
  induction ds with
  | nil =>
    cases t with
    | nil => rfl
    | cons c t =>
      have hc := ht c rfl
      simp [digitos, hc]
  | cons d ds ih =>
    have hd : CodePoint.isDigit (.char d) = true := hds d List.mem_cons_self
    have hrest := ih fun e he => hds e (List.mem_cons_of_mem _ he)
    unfold digitos at hrest ⊢
    rw [Prod.mk.injEq] at hrest
    simp only [List.map_cons, List.cons_append, List.takeWhile_cons, List.dropWhile_cons, hd,
      if_true, List.filterMap_cons, CodePoint.char?, hrest.1, hrest.2]

/-- No number but zero is written with a leading zero. -/
theorem head?_toDigits {n : ℕ} (h : 0 < n) : (Nat.toDigits 10 n).head? ≠ some '0' := by
  induction n using Nat.strongRecOn with
  | ind n ih =>
    by_cases hsmall : n < 10
    · rw [Nat.toDigits_of_lt_base hsmall]
      interval_cases n <;> decide
    · rw [Nat.toDigits_of_base_le (by omega) (by omega), List.head?_append_of_ne_nil]
      · exact ih (n / 10) (by omega) (by omega)
      · exact Nat.toDigits_ne_nil

theorem parteInteira_toDigits {n : ℕ} {t : Texto} (ht : Fim t) :
    parteInteira ((Nat.toDigits 10 n).map .char ++ t) = (Nat.toDigits 10 n, t) := by
  have hds : ∀ d ∈ Nat.toDigits 10 n, d.isDigit = true := fun d hd =>
    Nat.isDigit_of_mem_toDigits (by decide) (by decide) hd
  unfold parteInteira
  rcases Nat.eq_zero_or_pos n with rfl | hpos
  · rw [Nat.toDigits_zero]
    rfl
  · have hhead := head?_toDigits hpos
    have hne : Nat.toDigits 10 n ≠ [] := Nat.toDigits_ne_nil
    obtain ⟨d, ds, hdigits⟩ := List.exists_cons_of_ne_nil hne
    rw [if_neg, digitos_append hds ht.isDigit]
    rw [hdigits] at hhead ⊢
    simpa using hhead

theorem scanNumber_toDigits {n : ℕ} {t : Texto} (negativo : Bool) (hn : n < 10 ^ intMaxStrDigits)
    (ht : Fim t) :
    scanNumber negativo ((Nat.toDigits 10 n).map .char ++ t) =
      .ok (.inteiro (if negativo then -(n : ℤ) else n), t) := by
  have hlength : ¬intMaxStrDigits < (Nat.toDigits 10 n).length := by
    rw [not_lt]
    exact (Nat.length_toDigits_le_iff (by decide) (by decide)).mpr hn
  have hread : Nat.ofDigitChars 10 (Nat.toDigits 10 n) 0 = n := Nat.ofDigitChars_ten_toDigits
  have hne : Nat.toDigits 10 n ≠ [] := Nat.toDigits_ne_nil
  unfold scanNumber
  simp only [parteInteira_toDigits ht, parteReal_fim ht, if_neg hne, if_neg hlength, hread]

/-- No word starts with a digit. -/
theorem lerPalavra_digito {d : Char} (hd : d.isDigit = true) (t : Texto) :
    lerPalavra (.char d :: t) = none := by
  have hne (c : Char) (hc : c.isDigit = false) : c ≠ d := by
    rintro rfl
    rw [hc] at hd
    cases hd
  have hn := hne 'n' (by decide)
  have ht := hne 't' (by decide)
  have hf := hne 'f' (by decide)
  have hN := hne 'N' (by decide)
  have hI := hne 'I' (by decide)
  have hminus := hne '-' (by decide)
  simp [lerPalavra, palavras, depoisDe, Texto.of, hn, ht, hf, hN, hI, hminus]

theorem lerPalavra_menos {d : Char} (hd : d.isDigit = true) (t : Texto) :
    lerPalavra (.char '-' :: .char d :: t) = none := by
  have hI : 'I' ≠ d := by
    rintro rfl
    cases hd
  simp [lerPalavra, palavras, depoisDe, Texto.of, hI]

theorem texto_of_toString (n : ℤ) :
    Texto.of (toString n) =
      if 0 ≤ n then (Nat.toDigits 10 n.toNat).map .char
      else .char '-' :: (Nat.toDigits 10 (-n).toNat).map .char := by
  unfold Texto.of
  rw [Int.toString_eq_repr, Int.repr_eq_if]
  split_ifs
  · rw [Nat.toList_repr]
  · rw [String.toList_append, Nat.toList_repr]
    rfl

theorem scanPalavra_inteiro {n : ℤ} {t : Texto} (hn : n.natAbs < 10 ^ intMaxStrDigits)
    (ht : Fim t) : scanPalavra (Texto.of (toString n) ++ t) = .ok (.inteiro n, t) := by
  have hread (k : ℕ) : ∃ d ds, Nat.toDigits 10 k = d :: ds ∧ d.isDigit = true := by
    obtain ⟨d, ds, hk⟩ := List.exists_cons_of_ne_nil (Nat.toDigits_ne_nil (n := k) (b := 10))
    exact ⟨d, ds, hk, Nat.isDigit_of_mem_toDigits (by decide) (by decide) (hk ▸ List.mem_cons_self)⟩
  rw [texto_of_toString]
  unfold scanPalavra
  by_cases hsign : 0 ≤ n
  · rw [if_pos hsign]
    have hnumber := scanNumber_toDigits (n := n.toNat) (t := t) false (by omega) ht
    obtain ⟨d, ds, hk, hd⟩ := hread n.toNat
    rw [hk] at hnumber ⊢
    have hd' : d ≠ '-' := by
      rintro rfl
      cases hd
    simp only [List.map_cons, List.cons_append, lerPalavra_digito hd] at hnumber ⊢
    rw [Int.toNat_of_nonneg hsign] at hnumber
    split
    · rename_i heq
      cases heq
      exact absurd rfl hd'
    · exact hnumber
  · rw [if_neg hsign]
    have hnumber := scanNumber_toDigits (n := (-n).toNat) (t := t) true (by omega) ht
    obtain ⟨d, ds, hk, hd⟩ := hread (-n).toNat
    rw [hk] at hnumber ⊢
    have habs : (((-n).toNat : ℕ) : ℤ) = -n := by omega
    simp only [List.map_cons, List.cons_append, lerPalavra_menos hd] at hnumber ⊢
    rw [habs, neg_neg] at hnumber
    exact hnumber

/-! ## Documents -/

mutual

/-- A document within the levels of the interpreter, with distinct names and numbers that `int`
reads. -/
def Documento.Legivel : ℕ → Documento → Prop
  | _, .nulo => True
  | _, .inteiro n => n.natAbs < 10 ^ intMaxStrDigits
  | _, .texto _ => True
  | 0, .lista _ => False
  | niveis + 1, .lista itens => legiveis niveis itens
  | 0, .objeto _ => False
  | niveis + 1, .objeto campos => (campos.map (·.1)).Nodup ∧ legiveisCampos niveis campos

def Documento.legiveis : ℕ → List Documento → Prop
  | _, [] => True
  | niveis, item :: itens => item.Legivel niveis ∧ legiveis niveis itens

def Documento.legiveisCampos : ℕ → List (Texto × Documento) → Prop
  | _, [] => True
  | niveis, (_, valor) :: campos => valor.Legivel niveis ∧ legiveisCampos niveis campos

end

theorem keys_pares (campos : List (Texto × Documento)) :
    (Documento.pares campos).map (·.1) = campos.map (·.1) := by
  induction campos with
  | nil => rfl
  | cons campo campos ih => simp [Documento.pares, ih]

theorem chaveRepetida_eq_none {vistas : List Texto} {pares : List (Texto × Valor)}
    (hnodup : (pares.map (·.1)).Nodup) (hnew : ∀ chave ∈ pares.map (·.1), chave ∉ vistas) :
    chaveRepetida vistas pares = none := by
  induction pares generalizing vistas with
  | nil => rfl
  | cons par pares ih =>
    obtain ⟨chave, valor⟩ := par
    obtain ⟨hfirst, hrest⟩ := List.nodup_cons.mp hnodup
    have hchave : chave ∉ vistas := hnew chave List.mem_cons_self
    unfold chaveRepetida
    rw [if_neg hchave]
    refine ih hrest ?_
    intro outra houtra hmem
    rcases List.mem_cons.mp hmem with rfl | hvista
    · exact hfirst houtra
    · exact hnew outra (List.mem_cons_of_mem _ houtra) hvista

theorem semChaveDuplicada_pares {campos : List (Texto × Documento)}
    (h : (campos.map (·.1)).Nodup) :
    semChaveDuplicada (Documento.pares campos) = .ok (.objeto (Documento.pares campos)) := by
  have hnone : chaveRepetida [] (Documento.pares campos) = none :=
    chaveRepetida_eq_none (by rwa [keys_pares]) fun _ _ => List.not_mem_nil
  unfold semChaveDuplicada
  rw [hnone]

theorem pular_cons {c : CodePoint} {t : Texto} (h : c.emBranco = false) :
    pular (c :: t) = c :: t := by
  unfold pular
  rw [List.dropWhile_cons_of_neg (by simp [h])]

/-- U+FEFF, which `json.loads` refuses at the start of a text. -/
def bom : CodePoint := .char (Char.ofNat 0xfeff)

/-- What a document starts with: no blank, no closing bracket and no byte order mark. -/
theorem exists_dumps_cons (d : Documento) :
    ∃ c t, d.dumps = c :: t ∧ c.emBranco = false ∧ c ≠ .char ']' ∧ c ≠ bom := by
  cases d with
  | nulo => exact ⟨.char 'n', Texto.of "ull", rfl, by decide, by decide, by decide⟩
  | inteiro n =>
    unfold Documento.dumps
    rw [texto_of_toString]
    split_ifs with hsign
    · obtain ⟨d, ds, hk⟩ := List.exists_cons_of_ne_nil (Nat.toDigits_ne_nil (n := n.toNat) (b := 10))
      have hd : d.isDigit = true :=
        Nat.isDigit_of_mem_toDigits (by decide) (by decide) (hk ▸ List.mem_cons_self)
      have hne (e : Char) (he : e.isDigit = false) : d ≠ e := by
        rintro rfl
        rw [he] at hd
        cases hd
      refine ⟨.char d, ds.map .char, by rw [hk]; rfl, ?_, ?_, ?_⟩
      · simp [CodePoint.emBranco, hne ' ' (by decide), hne '\t' (by decide), hne '\n' (by decide),
          hne '\r' (by decide)]
      · simpa using hne ']' (by decide)
      · simpa [bom] using hne (Char.ofNat 0xfeff) (by decide)
    · exact ⟨.char '-', _, rfl, by decide, by decide, by decide⟩
  | texto t => exact ⟨.char '"', _, rfl, by decide, by decide, by decide⟩
  | lista itens => exact ⟨.char '[', _, rfl, by decide, by decide, by decide⟩
  | objeto campos => exact ⟨.char '{', _, rfl, by decide, by decide, by decide⟩

theorem pular_dumps (d : Documento) (t : Texto) : pular (d.dumps ++ t) = d.dumps ++ t := by
  obtain ⟨c, s, hd, hc, -⟩ := exists_dumps_cons d
  rw [hd]
  exact pular_cons hc

theorem aspas_append (s t : Texto) :
    aspas s ++ t = .char '"' :: (s.flatMap CodePoint.escape ++ .char '"' :: t) := by
  unfold aspas
  simp

theorem length_le_flatMap_escape (s : Texto) : s.length ≤ (s.flatMap CodePoint.escape).length := by
  induction s with
  | nil => exact Nat.zero_le _
  | cons c s ih =>
    have hc := escape_length_pos c
    rw [List.flatMap_cons, List.length_append, List.length_cons]
    omega

/-- A quoted text is read up to its closing quote. -/
theorem scanString_length (s t : Texto) :
    scanString (s.flatMap CodePoint.escape ++ .char '"' :: t).length
      (s.flatMap CodePoint.escape ++ .char '"' :: t) = some (s, t) := by
  have hlength := length_le_flatMap_escape s
  apply scanString_aspas
  rw [List.length_append, List.length_cons]
  omega

theorem scanNome_aspas (chave t : Texto) :
    scanNome (aspas chave ++ .char ':' :: t) = .ok (chave, pular t) := by
  have hcolon : pular (.char ':' :: t) = .char ':' :: t := pular_cons (by decide)
  rw [aspas_append]
  unfold scanNome
  simp only [scanString_length, hcolon]

theorem fim_cons {c : Char} (t : Texto) (h : c = ',' ∨ c = ']' ∨ c = '}') :
    Fim (.char c :: t) := by
  intro d hd
  cases hd
  rcases h with rfl | rfl | rfl
  · exact .inl rfl
  · exact .inr (.inl rfl)
  · exact .inr (.inr rfl)

theorem dumpsItens_cons_cons (item outro : Documento) (itens : List Documento) :
    Documento.dumpsItens (item :: outro :: itens) =
      item.dumps ++ .char ',' :: Documento.dumpsItens (outro :: itens) := rfl

theorem dumpsCampos_cons_cons (chave outra : Texto) (valor outro : Documento)
    (campos : List (Texto × Documento)) :
    Documento.dumpsCampos ((chave, valor) :: (outra, outro) :: campos) =
      aspas chave ++ .char ':' :: valor.dumps ++ .char ',' ::
        Documento.dumpsCampos ((outra, outro) :: campos) := rfl

/-- A list of documents starts as its first one. -/
theorem exists_dumpsItens_cons (item : Documento) (itens : List Documento) :
    ∃ c t, Documento.dumpsItens (item :: itens) = c :: t ∧ c.emBranco = false ∧ c ≠ .char ']' := by
  obtain ⟨c, s, hd, hblank, hclose, -⟩ := exists_dumps_cons item
  cases itens with
  | nil => exact ⟨c, s, hd, hblank, hclose⟩
  | cons outro itens =>
    refine ⟨c, s ++ .char ',' :: Documento.dumpsItens (outro :: itens), ?_, hblank, hclose⟩
    rw [dumpsItens_cons_cons, hd]
    rfl

theorem exists_dumpsCampos_cons (chave : Texto) (valor : Documento)
    (campos : List (Texto × Documento)) :
    ∃ t, Documento.dumpsCampos ((chave, valor) :: campos) = .char '"' :: t := by
  cases campos with
  | nil => exact ⟨_, rfl⟩
  | cons outro campos => exact ⟨_, rfl⟩

/-- What is no text and no container is a word or a number. -/
theorem scanOnce_palavra {c : CodePoint} {t : Texto} (passos niveis : ℕ)
    (h : c ≠ .char '"' ∧ c ≠ .char '[' ∧ c ≠ .char '{') :
    scanOnce (passos + 1) niveis (c :: t) = scanPalavra (c :: t) := by
  obtain ⟨hquote, hlist, hobject⟩ := h
  unfold scanOnce
  split
  case h_1 heq => exact absurd (List.cons.inj heq).1 hquote
  case h_2 heq => exact absurd (List.cons.inj heq).1 hlist
  case h_3 heq => exact absurd (List.cons.inj heq).1 hobject
  case h_4 => rfl

theorem exists_toString_cons (n : ℤ) : ∃ c t, Texto.of (toString n) = c :: t ∧
    (c ≠ .char '"' ∧ c ≠ .char '[' ∧ c ≠ .char '{') := by
  rw [texto_of_toString]
  split_ifs
  · obtain ⟨d, ds, hk⟩ := List.exists_cons_of_ne_nil (Nat.toDigits_ne_nil (n := n.toNat) (b := 10))
    have hd : d.isDigit = true :=
      Nat.isDigit_of_mem_toDigits (by decide) (by decide) (hk ▸ List.mem_cons_self)
    refine ⟨.char d, ds.map .char, by rw [hk]; rfl, ?_, ?_, ?_⟩ <;> rintro ⟨⟩ <;> cases hd
  · exact ⟨.char '-', _, rfl, by decide, by decide, by decide⟩

/-! ## Steps of the scanner -/

theorem scanOnce_texto {passos niveis : ℕ} {lido t u : Texto}
    (h : scanString t.length t = some (lido, u)) :
    scanOnce (passos + 1) niveis (.char '"' :: t) = .ok (.texto lido, u) := by
  unfold scanOnce
  simp only [h]

theorem scanOnce_lista_vazia (passos niveis : ℕ) (t : Texto) :
    scanOnce (passos + 1) (niveis + 1) (.char '[' :: .char ']' :: t) = .ok (.lista [], t) := by
  have hclose : pular (.char ']' :: t) = .char ']' :: t := pular_cons (by decide)
  unfold scanOnce
  simp only [hclose]

theorem scanOnce_lista {passos niveis : ℕ} {c : CodePoint} {itens : List Valor} {t u : Texto}
    (hblank : c.emBranco = false) (hclose : c ≠ .char ']')
    (h : scanItens passos niveis (c :: t) = .ok (itens, u)) :
    scanOnce (passos + 1) (niveis + 1) (.char '[' :: c :: t) = .ok (.lista itens, u) := by
  unfold scanOnce
  simp only [pular_cons hblank]
  split
  case h_1 heq => exact absurd (List.cons.inj heq).1 hclose
  case h_2 =>
    rw [h]
    rfl

theorem scanOnce_objeto_vazio (passos niveis : ℕ) (t : Texto) :
    scanOnce (passos + 1) (niveis + 1) (.char '{' :: .char '}' :: t) = .ok (.objeto [], t) := by
  have hclose : pular (.char '}' :: t) = .char '}' :: t := pular_cons (by decide)
  unfold scanOnce
  simp only [hclose]
  rfl

theorem scanOnce_objeto {passos niveis : ℕ} {pares : List (Texto × Valor)} {t u : Texto}
    (hread : semChaveDuplicada pares = .ok (.objeto pares))
    (h : scanMembros passos niveis (.char '"' :: t) = .ok (pares, u)) :
    scanOnce (passos + 1) (niveis + 1) (.char '{' :: .char '"' :: t) = .ok (.objeto pares, u) := by
  have hquote : pular (.char '"' :: t) = .char '"' :: t := pular_cons (by decide)
  unfold scanOnce
  simp only [hquote]
  split
  case h_1 heq => exact absurd (List.cons.inj heq).1 (by decide)
  case h_2 =>
    simp only [bind, Except.bind, h, hread]
    rfl

theorem scanItens_fim {passos niveis : ℕ} {item : Valor} {t u : Texto}
    (h : scanOnce passos niveis t = .ok (item, .char ']' :: u)) :
    scanItens (passos + 1) niveis t = .ok ([item], u) := by
  have hclose : pular (.char ']' :: u) = .char ']' :: u := pular_cons (by decide)
  unfold scanItens
  rw [h]
  simp only [bind, Except.bind, hclose]
  rfl

theorem scanItens_mais {passos niveis : ℕ} {item : Valor} {itens : List Valor} {t u v : Texto}
    (h : scanOnce passos niveis t = .ok (item, .char ',' :: u)) (hblank : pular u = u)
    (hrest : scanItens passos niveis u = .ok (itens, v)) :
    scanItens (passos + 1) niveis t = .ok (item :: itens, v) := by
  have hcomma : pular (.char ',' :: u) = .char ',' :: u := pular_cons (by decide)
  unfold scanItens
  rw [h]
  simp only [bind, Except.bind, hcomma, hblank, hrest]
  rfl

theorem scanMembros_fim {passos niveis : ℕ} {chave : Texto} {valor : Valor} {t u v : Texto}
    (hname : scanNome t = .ok (chave, u))
    (h : scanOnce passos niveis u = .ok (valor, .char '}' :: v)) :
    scanMembros (passos + 1) niveis t = .ok ([(chave, valor)], v) := by
  have hclose : pular (.char '}' :: v) = .char '}' :: v := pular_cons (by decide)
  unfold scanMembros
  rw [hname]
  simp only [bind, Except.bind, h, hclose]
  rfl

theorem scanMembros_mais {passos niveis : ℕ} {chave : Texto} {valor : Valor}
    {pares : List (Texto × Valor)} {t u v w : Texto} (hname : scanNome t = .ok (chave, u))
    (h : scanOnce passos niveis u = .ok (valor, .char ',' :: v)) (hblank : pular v = v)
    (hrest : scanMembros passos niveis v = .ok (pares, w)) :
    scanMembros (passos + 1) niveis t = .ok ((chave, valor) :: pares, w) := by
  have hcomma : pular (.char ',' :: v) = .char ',' :: v := pular_cons (by decide)
  unfold scanMembros
  rw [hname]
  simp only [bind, Except.bind, h, hcomma, hblank, hrest]
  rfl

/-- Blanks are not how the items of a list begin. -/
theorem pular_dumpsItens (item : Documento) (itens : List Documento) (t : Texto) :
    pular (Documento.dumpsItens (item :: itens) ++ t) =
      Documento.dumpsItens (item :: itens) ++ t := by
  obtain ⟨c, s, hfirst, hblank, -⟩ := exists_dumpsItens_cons item itens
  rw [hfirst]
  exact pular_cons hblank

theorem pular_dumpsCampos (chave : Texto) (valor : Documento) (campos : List (Texto × Documento))
    (t : Texto) : pular (Documento.dumpsCampos ((chave, valor) :: campos) ++ t) =
      Documento.dumpsCampos ((chave, valor) :: campos) ++ t := by
  obtain ⟨s, hfirst⟩ := exists_dumpsCampos_cons chave valor campos
  rw [hfirst]
  exact pular_cons (by decide)

theorem lista_dumps (itens : List Documento) (t : Texto) : (Documento.lista itens).dumps ++ t =
    .char '[' :: (Documento.dumpsItens itens ++ .char ']' :: t) := by
  rw [Documento.dumps, List.cons_append, List.cons_append, List.append_assoc]
  rfl

theorem objeto_dumps (campos : List (Texto × Documento)) (t : Texto) :
    (Documento.objeto campos).dumps ++ t =
      .char '{' :: (Documento.dumpsCampos campos ++ .char '}' :: t) := by
  rw [Documento.dumps, List.cons_append, List.cons_append, List.append_assoc]
  rfl

/-! ## Runs of the scanner -/

mutual

/-- A document is read back as its value, whatever follows it. -/
theorem scanOnce_dumps {niveis : ℕ} {t : Texto} (passos : ℕ) (d : Documento) (h : d.Legivel niveis)
    (hpassos : 2 * d.dumps.length ≤ passos) (ht : Fim t) :
    scanOnce passos niveis (d.dumps ++ t) = .ok (d.valor, t) := by
  have hsome : 2 ≤ passos := by
    obtain ⟨c, s, hd, -⟩ := exists_dumps_cons d
    rw [hd, List.length_cons] at hpassos
    omega
  obtain ⟨passos, rfl⟩ : ∃ n, passos = n + 1 := ⟨passos - 1, by omega⟩
  cases d with
  | nulo =>
    have hword : scanPalavra (Texto.of "null" ++ t) = .ok (.nulo, t) := rfl
    have hscan := scanOnce_palavra (c := .char 'n') (t := Texto.of "ull" ++ t) passos niveis
      (by decide)
    exact hscan.trans hword
  | inteiro n =>
    have hsmall : n.natAbs < 10 ^ intMaxStrDigits := by
      rw [Documento.Legivel] at h
      exact h
    have hword : scanPalavra (Texto.of (toString n) ++ t) = .ok (.inteiro n, t) :=
      scanPalavra_inteiro hsmall ht
    rw [Documento.dumps, Documento.valor, ← hword]
    obtain ⟨c, s, hn, hc⟩ := exists_toString_cons n
    rw [hn, List.cons_append, scanOnce_palavra _ _ hc]
  | texto u =>
    rw [Documento.dumps, Documento.valor, aspas_append]
    exact scanOnce_texto (scanString_length u t)
  | lista itens =>
    obtain ⟨niveis, rfl⟩ : ∃ n, niveis = n + 1 := by
      cases niveis with
      | zero =>
        rw [Documento.Legivel] at h
        exact h.elim
      | succ niveis => exact ⟨niveis, rfl⟩
    rw [Documento.Legivel] at h
    rw [lista_dumps, Documento.valor]
    cases itens with
    | nil => exact scanOnce_lista_vazia passos niveis t
    | cons item itens =>
      have hlength : 2 * (Documento.dumpsItens (item :: itens)).length + 1 ≤ passos := by
        rw [Documento.dumps, List.length_append, List.length_cons, List.length_singleton] at hpassos
        omega
      have hread := scanItens_dumps passos t item itens h hlength
      obtain ⟨c, s, hfirst, hblank, hclose⟩ := exists_dumpsItens_cons item itens
      rw [hfirst] at hread ⊢
      exact scanOnce_lista hblank hclose hread
  | objeto campos =>
    obtain ⟨niveis, rfl⟩ : ∃ n, niveis = n + 1 := by
      cases niveis with
      | zero =>
        rw [Documento.Legivel] at h
        exact h.elim
      | succ niveis => exact ⟨niveis, rfl⟩
    rw [Documento.Legivel] at h
    rw [objeto_dumps, Documento.valor]
    cases campos with
    | nil => exact scanOnce_objeto_vazio passos niveis t
    | cons campo campos =>
      obtain ⟨chave, valor⟩ := campo
      have hlength : 2 * (Documento.dumpsCampos ((chave, valor) :: campos)).length + 1 ≤ passos := by
        rw [Documento.dumps, List.length_append, List.length_cons, List.length_singleton] at hpassos
        omega
      have hread := scanMembros_dumps passos t chave valor campos h.2 hlength
      obtain ⟨s, hfirst⟩ := exists_dumpsCampos_cons chave valor campos
      rw [hfirst] at hread ⊢
      exact scanOnce_objeto (semChaveDuplicada_pares h.1) hread

theorem scanItens_dumps {niveis : ℕ} (passos : ℕ) (t : Texto) (item : Documento)
    (itens : List Documento) (h : Documento.legiveis niveis (item :: itens))
    (hpassos : 2 * (Documento.dumpsItens (item :: itens)).length + 1 ≤ passos) :
    scanItens passos niveis (Documento.dumpsItens (item :: itens) ++ .char ']' :: t) =
      .ok (Documento.valores (item :: itens), t) := by
  obtain ⟨passos, rfl⟩ : ∃ n, passos = n + 1 := ⟨passos - 1, by omega⟩
  cases itens with
  | nil =>
    rw [Documento.dumpsItens] at hpassos ⊢
    exact scanItens_fim (scanOnce_dumps passos item h.1 (by omega) (fim_cons t (by simp)))
  | cons outro itens =>
    rw [dumpsItens_cons_cons] at hpassos ⊢
    rw [List.length_append, List.length_cons] at hpassos
    rw [List.append_assoc, List.cons_append]
    have hitem := scanOnce_dumps (t := .char ',' ::
      (Documento.dumpsItens (outro :: itens) ++ .char ']' :: t)) passos item h.1
      (by omega) (fim_cons _ (by simp))
    have hrest := scanItens_dumps passos t outro itens h.2 (by omega)
    exact scanItens_mais hitem (pular_dumpsItens outro itens _) hrest

theorem scanMembros_dumps {niveis : ℕ} (passos : ℕ) (t chave : Texto) (valor : Documento)
    (campos : List (Texto × Documento))
    (h : Documento.legiveisCampos niveis ((chave, valor) :: campos))
    (hpassos : 2 * (Documento.dumpsCampos ((chave, valor) :: campos)).length + 1 ≤ passos) :
    scanMembros passos niveis (Documento.dumpsCampos ((chave, valor) :: campos) ++ .char '}' :: t) =
      .ok (Documento.pares ((chave, valor) :: campos), t) := by
  obtain ⟨passos, rfl⟩ : ∃ n, passos = n + 1 := ⟨passos - 1, by omega⟩
  cases campos with
  | nil =>
    rw [Documento.dumpsCampos] at hpassos ⊢
    rw [List.length_append, List.length_cons] at hpassos
    rw [List.append_assoc, List.cons_append]
    have hname := scanNome_aspas chave (valor.dumps ++ .char '}' :: t)
    rw [pular_dumps] at hname
    exact scanMembros_fim hname
      (scanOnce_dumps passos valor h.1 (by omega) (fim_cons t (by simp)))
  | cons outro campos =>
    obtain ⟨outra, outro⟩ := outro
    rw [dumpsCampos_cons_cons] at hpassos ⊢
    simp only [List.length_append, List.length_cons] at hpassos
    have htext : aspas chave ++ .char ':' :: valor.dumps ++ .char ',' ::
          Documento.dumpsCampos ((outra, outro) :: campos) ++ .char '}' :: t =
        aspas chave ++ .char ':' :: (valor.dumps ++ .char ',' ::
          (Documento.dumpsCampos ((outra, outro) :: campos) ++ .char '}' :: t)) := by
      simp only [List.append_assoc, List.cons_append]
    have hname := scanNome_aspas chave (valor.dumps ++ .char ',' ::
      (Documento.dumpsCampos ((outra, outro) :: campos) ++ .char '}' :: t))
    rw [pular_dumps] at hname
    have hvalor := scanOnce_dumps (t := .char ',' ::
      (Documento.dumpsCampos ((outra, outro) :: campos) ++ .char '}' :: t)) passos valor h.1
      (by omega) (fim_cons _ (by simp))
    have hrest := scanMembros_dumps passos t outra outro campos h.2 (by omega)
    rw [htext]
    exact scanMembros_mais hname hvalor (pular_dumpsCampos outra outro campos _) hrest

end

/-- `json.loads` reads a document that `json.dumps` wrote. -/
theorem loads_dumps {niveis : ℕ} {d : Documento} (h : d.Legivel niveis) :
    loads niveis d.dumps = .ok d.valor := by
  have hread := scanOnce_dumps (t := []) (2 * d.dumps.length) d h le_rfl (by intro c hc; cases hc)
  have hblank := pular_dumps d []
  rw [List.append_nil] at hread hblank
  have hbom : d.dumps.head? ≠ some (.char (Char.ofNat 0xfeff)) := by
    obtain ⟨c, s, hd, -, -, hbom⟩ := exists_dumps_cons d
    rw [hd]
    simpa [bom] using hbom
  unfold loads
  rw [if_neg hbom, hblank, hread]
  rfl

end PiaOs.Piap
