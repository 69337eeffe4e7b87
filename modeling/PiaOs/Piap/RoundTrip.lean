import PiaOs.Piap.CodecLaws

/-!
# One encoding for each envelope

An envelope is read back from its bytes when its texts can be encoded, and no other bytes
describe it.
-/

namespace PiaOs.Piap

open Support Memory

/-! ## Bytes -/

theorem mapM_char? {t : Texto} {cs : List Char} :
    t.mapM CodePoint.char? = some cs ↔ t = cs.map .char := by
  induction t generalizing cs with
  | nil =>
    rw [List.mapM_nil]
    cases cs <;> simp
  | cons c t ih =>
    cases c with
    | surrogate n =>
      rw [List.mapM_cons]
      cases cs <;> simp [CodePoint.char?]
    | char c =>
      have hstep : (CodePoint.char c :: t).mapM CodePoint.char? =
          (t.mapM CodePoint.char?).map (c :: ·) := by
        rw [List.mapM_cons]
        cases t.mapM CodePoint.char? <;> rfl
      rw [hstep, Option.map_eq_some_iff]
      constructor
      · rintro ⟨rest, hrest, rfl⟩
        rw [ih.mp hrest]
        rfl
      · intro h
        cases cs with
        | nil => cases h
        | cons d cs =>
          obtain ⟨hhead, htail⟩ := List.cons.inj h
          cases hhead
          exact ⟨cs, ih.mpr htail, rfl⟩

theorem encode_eq_some {t : Texto} {b : ByteArray} :
    t.encode = some b ↔ ∃ cs : List Char, t = cs.map .char ∧ cs.utf8Encode = b := by
  unfold Texto.encode Texto.string?
  rw [Option.map_map, Option.map_eq_some_iff]
  constructor
  · rintro ⟨cs, hcs, rfl⟩
    exact ⟨cs, mapM_char?.mp hcs, (String.toByteArray_ofList (l := cs)).symm⟩
  · rintro ⟨cs, rfl, rfl⟩
    exact ⟨cs, mapM_char?.mpr rfl, String.toByteArray_ofList⟩

/-- Bytes are decoded to the text that was encoded. -/
theorem decode_encode {t : Texto} {b : ByteArray} (h : t.encode = some b) : decode b = some t := by
  obtain ⟨cs, rfl, rfl⟩ := encode_eq_some.mp h
  unfold decode
  rw [List.utf8Decode?_utf8Encode]
  simp

/-- The text has no half of a surrogate pair. -/
def Texto.Inteiro (t : Texto) : Prop := ∀ c ∈ t, c.char?.isSome = true

theorem inteiro_iff {t : Texto} : t.Inteiro ↔ ∃ b, t.encode = some b := by
  constructor
  · intro h
    have hchars : ∃ cs : List Char, t = cs.map .char := by
      induction t with
      | nil => exact ⟨[], rfl⟩
      | cons c t ih =>
        obtain ⟨cs, rfl⟩ := ih fun d hd => h d (List.mem_cons_of_mem _ hd)
        cases c with
        | surrogate n => exact absurd (h _ List.mem_cons_self) (by simp [CodePoint.char?])
        | char c => exact ⟨c :: cs, rfl⟩
    obtain ⟨cs, hcs⟩ := hchars
    exact ⟨cs.utf8Encode, encode_eq_some.mpr ⟨cs, hcs, rfl⟩⟩
  · rintro ⟨b, hb⟩ c hc
    obtain ⟨cs, rfl, -⟩ := encode_eq_some.mp hb
    obtain ⟨d, -, rfl⟩ := List.mem_map.mp hc
    rfl

/-- How many bytes a code point takes at most. -/
def CodePoint.peso (c : CodePoint) : ℕ := if c.ord < 128 then 1 else 4

/-- How many bytes a text takes at most. -/
def Texto.peso : Texto → ℕ
  | [] => 0
  | c :: t => c.peso + Texto.peso t

@[simp] theorem peso_nil : Texto.peso [] = 0 := rfl

@[simp] theorem peso_cons (c : CodePoint) (t : Texto) :
    Texto.peso (c :: t) = c.peso + t.peso := rfl

theorem peso_append (s t : Texto) : Texto.peso (s ++ t) = s.peso + t.peso := by
  induction s with
  | nil => simp
  | cons c s ih =>
    rw [List.cons_append, peso_cons, peso_cons, ih]
    omega

theorem utf8Size_le_peso (c : Char) : c.utf8Size ≤ CodePoint.peso (.char c) := by
  unfold CodePoint.peso CodePoint.ord
  split_ifs with hsmall
  · have hone : c.utf8Size = 1 := by
      rw [Char.utf8Size_eq_one_iff, UInt32.le_iff_toNat_le]
      exact Nat.lt_succ_iff.mp hsmall
    exact hone.le
  · exact Char.utf8Size_le_four c

theorem size_le_peso {t : Texto} {b : ByteArray} (h : t.encode = some b) : b.size ≤ t.peso := by
  obtain ⟨cs, rfl, rfl⟩ := encode_eq_some.mp h
  induction cs with
  | nil => simp
  | cons c cs ih =>
    have hrest := ih (encode_eq_some.mpr ⟨cs, rfl, rfl⟩)
    have hfirst := utf8Size_le_peso c
    rw [List.utf8Encode_cons, List.utf8Encode_singleton, ByteArray.size_append,
      List.size_toByteArray, String.length_utf8EncodeChar, List.map_cons, peso_cons]
    omega

/-! ## How long the bytes are -/

theorem peso_le_four (c : CodePoint) : c.peso ≤ 4 := by
  unfold CodePoint.peso
  split_ifs <;> omega

theorem peso_ascii {t : Texto} (h : ∀ c ∈ t, c.ord < 128) : t.peso = t.length := by
  induction t with
  | nil => rfl
  | cons c t ih =>
    have hc : c.peso = 1 := if_pos (h c List.mem_cons_self)
    rw [peso_cons, hc, ih fun d hd => h d (List.mem_cons_of_mem _ hd), List.length_cons,
      Nat.add_comm]

/-- The codes of the hexadecimal digits. -/
theorem ord_isHexDigit {c : Char} (h : isHexDigit c = true) : 48 ≤ c.toNat ∧ c.toNat < 128 := by
  unfold isHexDigit at h
  simp only [Bool.or_eq_true, Bool.and_eq_true, decide_eq_true_eq] at h
  rcases h with ⟨hlow, hhigh⟩ | ⟨hlow, hhigh⟩
  · have h1 : 48 ≤ c.toNat := UInt32.le_iff_toNat_le.mp hlow
    have h2 : c.toNat ≤ 57 := UInt32.le_iff_toNat_le.mp hhigh
    omega
  · have h1 : 97 ≤ c.toNat := UInt32.le_iff_toNat_le.mp hlow
    have h2 : c.toNat ≤ 102 := UInt32.le_iff_toNat_le.mp hhigh
    omega

/-- An escape takes six bytes at most, and four when it stands for no control. -/
theorem peso_escape (c : CodePoint) :
    Texto.peso c.escape ≤ 6 ∧ (32 ≤ c.ord → Texto.peso c.escape ≤ 4) := by
  cases c with
  | surrogate n =>
    have hpeso := peso_le_four (.surrogate n)
    simp only [CodePoint.escape, peso_cons, peso_nil]
    omega
  | char c =>
    have hescape : CodePoint.escape (.char c) = (Json.escape c).map .char := rfl
    have hpeso := peso_le_four (.char c)
    have hdigits : ∀ e ∈ (digits 16 4 c.toNat).map CodePoint.char, e.ord < 128 := by
      intro e he
      obtain ⟨d, hd, rfl⟩ := List.mem_map.mp he
      exact (ord_isHexDigit (Sha256.isHexDigit_of_mem (by decide) hd)).2
    have hunicode : Texto.peso ((['\\', 'u'] ++ digits 16 4 c.toNat).map .char) = 6 := by
      rw [List.map_append, peso_append, peso_ascii hdigits, List.length_map, Sha256.length_digits]
      rfl
    have hboth (e : Char) (he : e.toNat < 128) :
        Texto.peso (['\\', e].map .char) ≤ 6 ∧
          (32 ≤ (CodePoint.char c).ord → Texto.peso (['\\', e].map .char) ≤ 4) := by
      have hslash : CodePoint.peso (.char '\\') = 1 := by decide
      have hletter : CodePoint.peso (.char e) = 1 := if_pos he
      simp only [List.map_cons, List.map_nil, peso_cons, peso_nil, hslash, hletter]
      omega
    rw [hescape]
    unfold Json.escape
    split_ifs with hquote hslash hn hr ht hb hf hcontrol
    · exact hboth '"' (by decide)
    · exact hboth '\\' (by decide)
    · exact hboth 'n' (by decide)
    · exact hboth 'r' (by decide)
    · exact hboth 't' (by decide)
    · exact hboth 'b' (by decide)
    · exact hboth 'f' (by decide)
    · rw [hunicode]
      refine ⟨le_rfl, fun hord => ?_⟩
      have hord' : 32 ≤ c.toNat := hord
      omega
    · simp only [List.map_cons, List.map_nil, peso_cons, peso_nil]
      omega

theorem peso_flatMap {t : Texto} {limite : ℕ} (h : ∀ c ∈ t, Texto.peso c.escape ≤ limite) :
    Texto.peso (t.flatMap CodePoint.escape) ≤ limite * t.length := by
  induction t with
  | nil => exact Nat.zero_le _
  | cons c t ih =>
    have hc := h c List.mem_cons_self
    have hrest := ih fun d hd => h d (List.mem_cons_of_mem _ hd)
    rw [List.flatMap_cons, peso_append, List.length_cons, Nat.mul_succ]
    omega

theorem peso_aspas_eq (t : Texto) :
    (aspas t).peso = Texto.peso (t.flatMap CodePoint.escape) + 2 := by
  have hquote : Texto.peso [.char '"'] = 1 := by decide
  have htext : aspas t = [.char '"'] ++ t.flatMap CodePoint.escape ++ [.char '"'] := rfl
  rw [htext, peso_append, peso_append, hquote]
  omega

/-- How long a quoted text is at most. -/
theorem peso_aspas (t : Texto) : (aspas t).peso ≤ 6 * t.length + 2 := by
  rw [peso_aspas_eq]
  have hflat := peso_flatMap fun c (_ : c ∈ t) => (peso_escape c).1
  omega

/-- Without controls, a quoted text is shorter. -/
theorem peso_aspas_visivel {t : Texto} (h : ∀ c ∈ t, 32 ≤ c.ord) :
    (aspas t).peso ≤ 4 * t.length + 2 := by
  rw [peso_aspas_eq]
  have hflat := peso_flatMap fun c (hc : c ∈ t) => (peso_escape c).2 (h c hc)
  omega

/-- An opaque reference is short and has no control. -/
theorem peso_opaca {nome : String} {t : Texto} (h : validarReferenciaOpaca nome t = none) :
    (aspas t).peso ≤ 1022 := by
  unfold validarReferenciaOpaca at h
  simp only [primeira_eq_none, List.mem_cons, List.not_mem_nil, or_false, forall_eq_or_imp,
    forall_eq, recusar_eq_none, decide_eq_false_iff_not, not_lt, Option.map_eq_none_iff,
    List.find?_eq_none] at h
  obtain ⟨-, hlength, hvisible⟩ := h
  have hvisivel : ∀ c ∈ t, 32 ≤ c.ord := by
    intro c hc
    have hshown := hvisible c hc
    cases c with
    | surrogate n => exact le_trans (by decide : 32 ≤ 0xd800) (Nat.le_add_right _ _)
    | char c =>
      by_contra hcontrol
      apply hshown
      have hsmall : c.toNat ≤ 31 := Nat.lt_succ_iff.mp (not_le.mp hcontrol)
      simp [CodePoint.proibido, hiddenCategory, hsmall]
  have hpeso := peso_aspas_visivel hvisivel
  unfold maxRefLength at hlength
  omega

/-- A text that a grammar of characters accepts. -/
theorem of_string?_all {t : Texto} {p : String → Bool} (h : t.string?.all (fun s => !p s) = false) :
    ∃ s, t = Texto.of s ∧ p s = true := by
  cases hstring : t.string? with
  | none =>
    rw [hstring] at h
    cases h
  | some s =>
    rw [hstring] at h
    obtain ⟨cs, hcs, hs⟩ := Option.map_eq_some_iff.mp hstring
    have htext : t = Texto.of s := by
      unfold Texto.of
      rw [mapM_char?.mp hcs, ← hs, String.toList_ofList]
    exact ⟨s, htext, by simpa using h⟩

/-- A text in the grammar of a digest. -/
theorem peso_sha256 {nome : String} {t : Texto} (h : validarSha256Hex nome t = none) :
    (aspas t).peso ≤ 258 := by
  obtain ⟨s, rfl, hs⟩ := of_string?_all (recusar_eq_none.mp h)
  unfold gramaticaSha256Hex at hs
  simp only [Bool.and_eq_true, beq_iff_eq, List.all_eq_true] at hs
  have hvisivel : ∀ c ∈ Texto.of s, 32 ≤ c.ord := by
    intro c hc
    obtain ⟨d, hd, rfl⟩ := List.mem_map.mp hc
    exact le_trans (by decide) (ord_isHexDigit (hs.2 d hd)).1
  have hlength : (Texto.of s).length = 64 := (List.length_map _).trans hs.1
  have hpeso := peso_aspas_visivel hvisivel
  omega

theorem ord_tokenChar {c : Char} (h : tokenChar c = true) : 32 ≤ c.toNat := by
  unfold tokenChar at h
  simp only [Bool.or_eq_true, Bool.and_eq_true, decide_eq_true_eq] at h
  rcases h with ⟨hlow, -⟩ | ⟨hlow, -⟩
  · exact le_trans (by decide) (UInt32.le_iff_toNat_le.mp hlow)
  · exact le_trans (by decide) (UInt32.le_iff_toNat_le.mp hlow)

theorem ord_tokenRest {cs : List Char} (h : tokenRest cs = true) : ∀ c ∈ cs, 32 ≤ c.toNat := by
  fun_induction tokenRest cs with
  | case1 => simp
  | case2 c =>
    intro d hd
    rw [List.mem_singleton.mp hd]
    exact ord_tokenChar h
  | case3 c d rest hc ih =>
    intro e he
    rcases List.mem_cons.mp he with rfl | he
    · exact ord_tokenChar hc
    · exact ih h e he
  | case4 c d rest hc ih =>
    simp only [Bool.and_eq_true, Bool.or_eq_true, decide_eq_true_eq] at h
    obtain ⟨⟨hsep, hd⟩, hrest⟩ := h
    intro e he
    rcases List.mem_cons.mp he with rfl | he
    · rcases hsep with (rfl | rfl) | rfl <;> decide
    · rcases List.mem_cons.mp he with rfl | he
      · exact ord_tokenChar hd
      · exact ih hrest e he

/-- A token. -/
theorem peso_token {nome : String} {t : Texto} (h : validarToken nome t = none) :
    (aspas t).peso ≤ 258 := by
  unfold validarToken at h
  simp only [primeira_eq_none, List.mem_cons, List.not_mem_nil, or_false, forall_eq_or_imp,
    forall_eq] at h
  obtain ⟨-, hlength, hgrammar⟩ := h
  obtain ⟨s, rfl, hs⟩ := of_string?_all (recusar_eq_none.mp hgrammar)
  have hvisivel : ∀ c ∈ Texto.of s, 32 ≤ c.ord := by
    intro c hc
    obtain ⟨d, hd, rfl⟩ := List.mem_map.mp hc
    generalize s.toList = cs at hs hd
    cases cs with
    | nil => cases hd
    | cons first rest =>
      unfold gramaticaDoToken at hs
      simp only [Bool.and_eq_true, decide_eq_true_eq] at hs
      rcases List.mem_cons.mp hd with rfl | hd
      · exact le_trans (by decide) (UInt32.le_iff_toNat_le.mp hs.1.1)
      · exact ord_tokenRest hs.2 d hd
  have hpeso := peso_aspas_visivel hvisivel
  have hshort : ¬maxTokenLength < (Texto.of s).length :=
    of_decide_eq_false (recusar_eq_none.mp hlength)
  unfold maxTokenLength at hshort
  omega

/-- An integer of at most so many digits. -/
theorem peso_inteiro {n : ℤ} {width : ℕ} (hwidth : 0 < width) (h : n.natAbs < 10 ^ width) :
    (Documento.inteiro n).dumps.peso ≤ width + 1 := by
  have hdigits (k : ℕ) (hk : k < 10 ^ width) :
      Texto.peso ((Nat.toDigits 10 k).map .char) ≤ width := by
    have hascii : ∀ c ∈ (Nat.toDigits 10 k).map CodePoint.char, c.ord < 128 := by
      intro c hc
      obtain ⟨d, hd, rfl⟩ := List.mem_map.mp hc
      have hdigit := Nat.isDigit_of_mem_toDigits (by decide) (by decide) hd
      unfold Char.isDigit at hdigit
      simp only [Bool.and_eq_true, decide_eq_true_eq] at hdigit
      exact lt_of_le_of_lt (UInt32.le_iff_toNat_le.mp hdigit.2) (by decide)
    rw [peso_ascii hascii, List.length_map]
    exact (Nat.length_toDigits_le_iff (by decide) hwidth).mpr hk
  rw [Documento.dumps, texto_of_toString]
  split_ifs with hsign
  · exact (hdigits n.toNat (by omega)).trans (Nat.le_succ _)
  · have hrest := hdigits (-n).toNat (by omega)
    have hminus : CodePoint.peso (.char '-') = 1 := by decide
    rw [peso_cons, hminus]
    omega

/-! ## How long a document is -/

/-- How many bytes the fields of an object take at most, with a colon and a comma each. -/
def pesoDosCampos : List (String × Documento) → ℕ
  | [] => 0
  | (nome, valor) :: campos =>
    (aspas (Texto.of nome)).peso + valor.dumps.peso + 2 + pesoDosCampos campos

theorem peso_campos (fields : List (String × Documento)) :
    (Documento.campos fields).dumps.peso ≤ 2 + pesoDosCampos fields := by
  have hcolon : CodePoint.peso (.char ':') = 1 := by decide
  have hcomma : CodePoint.peso (.char ',') = 1 := by decide
  have hopen : CodePoint.peso (.char '{') = 1 := by decide
  have hclose : Texto.peso [.char '}'] = 1 := by decide
  have hfields : (Documento.dumpsCampos (fields.map fun field => (Texto.of field.1, field.2))).peso ≤
      pesoDosCampos fields := by
    induction fields with
    | nil => exact Nat.zero_le _
    | cons field fields ih =>
      obtain ⟨nome, valor⟩ := field
      cases fields with
      | nil =>
        simp only [List.map_cons, List.map_nil, Documento.dumpsCampos, peso_append, peso_cons,
          hcolon, pesoDosCampos]
        omega
      | cons outro fields =>
        rw [List.map_cons] at ih
        rw [List.map_cons, List.map_cons, dumpsCampos_cons_cons, pesoDosCampos]
        simp only [peso_append, peso_cons, hcolon, hcomma]
        omega
  unfold Documento.campos
  rw [Documento.dumps, peso_append, peso_cons, hopen, hclose]
  omega

theorem peso_lista {itens : List Documento} {limite : ℕ}
    (h : ∀ item ∈ itens, item.dumps.peso ≤ limite) :
    (Documento.lista itens).dumps.peso ≤ 2 + itens.length * (limite + 1) := by
  have hcomma : CodePoint.peso (.char ',') = 1 := by decide
  have hopen : CodePoint.peso (.char '[') = 1 := by decide
  have hclose : Texto.peso [.char ']'] = 1 := by decide
  have hitens : (Documento.dumpsItens itens).peso ≤ itens.length * (limite + 1) := by
    induction itens with
    | nil => exact Nat.zero_le _
    | cons item itens ih =>
      have hitem := h item List.mem_cons_self
      have hrest := ih fun outro houtro => h outro (List.mem_cons_of_mem _ houtro)
      cases itens with
      | nil =>
        rw [Documento.dumpsItens, List.length_singleton]
        omega
      | cons outro itens =>
        rw [dumpsItens_cons_cons, peso_append, peso_cons, hcomma, List.length_cons, Nat.succ_mul]
        omega
  rw [Documento.dumps, peso_append, peso_cons, hopen, hclose]
  omega

/-- The names of the fields are short. -/
theorem peso_nome : ∀ nome ∈ ["content_sha256", "kind", "ref", "source_version", "availability",
    "delta_microseconds", "reference_time", "horizon", "signal", "target", "jurisdiction", "origin",
    "policy_ref", "recorded_at", "approval_expiry", "approval_jurisdiction", "approval_reference",
    "approval_scope", "approval_version", "bound_to", "approval", "status", "authority",
    "contract_version", "payload_refs", "provenance", "sealed_at", "subject"],
    (aspas (Texto.of nome)).peso ≤ 23 := by decide +kernel

/-- The values of the enumerations are short. -/
theorem peso_vocabularios :
    ((∀ kind : BoundObjectKind, (Documento.ofString kind.value).dumps.peso ≤ 30) ∧
        ∀ status : AuthorityStatus, (Documento.ofString status.value).dumps.peso ≤ 30) ∧
      (∀ a : TemporalAvailability, (Documento.ofString a.value).dumps.peso ≤ 40) ∧
        ∀ v : PiapContractVersion, (Documento.ofString v.value).dumps.peso ≤ 10 := by
  refine ⟨⟨fun kind => ?_, fun status => ?_⟩, fun a => ?_, fun v => ?_⟩
  · cases kind <;> decide +kernel
  · cases status <;> decide +kernel
  · cases a <;> decide +kernel
  · cases v
    decide +kernel

theorem peso_ofOption {t : Option Texto} {limite : ℕ} (hnull : 4 ≤ limite)
    (h : ∀ s, t = some s → (aspas s).peso ≤ limite) :
    (Documento.ofOption t).dumps.peso ≤ limite := by
  cases t with
  | none => exact hnull
  | some s => exact h s rfl

theorem peso_uuid (ref : Referencia) : (Documento.ofString ref.str).dumps.peso ≤ 218 := by
  have hlength : (Texto.of ref.str).length = 36 := by
    unfold Referencia.str Uuid.str Texto.of
    rw [String.toList_ofList]
    simp [Sha256.length_digits]
  have hpeso := peso_aspas (Texto.of ref.str)
  rw [hlength] at hpeso
  exact hpeso

theorem peso_instante (i : Instante) :
    (Documento.ofString (instanteParaJson i)).dumps.peso ≤ 164 := by
  have hpadded (width n : ℕ) : (Texto.of (padded width n)).length = width := by
    unfold Texto.of padded
    rw [String.toList_ofList, List.length_map, Sha256.length_digits]
  have hdash : (Texto.of "-").length = 1 := rfl
  have hcolon : (Texto.of ":").length = 1 := rfl
  have hpoint : (Texto.of ".").length = 1 := rfl
  have hT : (Texto.of "T").length = 1 := rfl
  have hZ : (Texto.of "Z").length = 1 := rfl
  have hempty : (Texto.of "").length = 0 := rfl
  have hlength : (Texto.of (instanteParaJson i)).length ≤ 27 := by
    obtain ⟨year, month, day, hcivil⟩ : ∃ year month day,
        Datetime.civil (i.val / microsecondsPerDay) = (year, month, day) := ⟨_, _, _, rfl⟩
    unfold instanteParaJson
    simp only [hcivil]
    split_ifs
    · simp only [texto_of_append, List.length_append, hpadded, hdash, hcolon, hT, hZ, hempty]
      omega
    · simp only [texto_of_append, List.length_append, hpadded, hdash, hcolon, hT, hZ, hpoint]
      omega
  have hpeso := peso_aspas (Texto.of (instanteParaJson i))
  exact hpeso.trans (by omega)

theorem peso_inteiroPositivo {nome : String} {n : ℤ} (h : validarInteiroPositivo nome n = none) :
    (Documento.inteiro n).dumps.peso ≤ 11 := by
  unfold validarInteiroPositivo maxPiapVersionNumber at h
  simp only [primeira_eq_none, List.mem_cons, List.not_mem_nil, or_false, forall_eq_or_imp,
    forall_eq, recusar_eq_none, decide_eq_false_iff_not] at h
  exact peso_inteiro (by decide : 0 < 10) (by omega)

theorem peso_sourceReference (r : SourceReference) :
    (sourceReferenceParaJson r).dumps.peso ≤ 847 := by
  have hvalido := r.valido
  simp only [primeira_eq_none, List.mem_cons, List.not_mem_nil, or_false, forall_eq_or_imp,
    forall_eq] at hvalido
  obtain ⟨htoken, hversion, hsha⟩ := hvalido
  have hkind : (Documento.texto r.kind).dumps.peso ≤ 258 := peso_token htoken
  have hnumber := peso_inteiroPositivo hversion
  have huuid := peso_uuid r.ref
  have hdigest : (Documento.ofOption r.contentSha256).dumps.peso ≤ 258 :=
    peso_ofOption (by decide) fun s hs => peso_sha256 (by simpa [hs] using hsha)
  have h1 := peso_nome "content_sha256" (by decide)
  have h2 := peso_nome "kind" (by decide)
  have h3 := peso_nome "ref" (by decide)
  have h4 := peso_nome "source_version" (by decide)
  refine (peso_campos _).trans ?_
  simp only [pesoDosCampos]
  omega

theorem peso_approval (a : ApprovalBinding) : (approvalParaJson a).dumps.peso ≤ 35700 := by
  have hvalido := a.valido
  simp only [primeira_eq_none, List.mem_cons, List.not_mem_nil, or_false, forall_eq_or_imp,
    forall_eq] at hvalido
  obtain ⟨hreference, hversion, hscope, hjurisdiction⟩ := hvalido
  unfold validarEscopo at hscope
  simp only [primeira_eq_none, List.mem_cons, List.not_mem_nil, or_false, forall_eq_or_imp,
    forall_eq, recusar_eq_none, decide_eq_false_iff_not, not_lt] at hscope
  obtain ⟨-, hitems, hitem_opaca, -⟩ := hscope
  have h0 : (Documento.texto a.approvalReference).dumps.peso ≤ 1022 := peso_opaca hreference
  have hnumber := peso_inteiroPositivo hversion
  have hjur : (Documento.ofOption a.approvalJurisdiction).dumps.peso ≤ 1022 :=
    peso_ofOption (by decide) fun s hs => peso_opaca (by simpa [hs] using hjurisdiction)
  have hexpiry : (a.approvalExpiry.elim Documento.nulo
      fun i => .ofString (instanteParaJson i)).dumps.peso ≤ 164 := by
    cases a.approvalExpiry with
    | none => decide
    | some i => exact peso_instante i
  have hlist : (Documento.lista (a.approvalScope.map .texto)).dumps.peso ≤ 2 + 32 * 1023 := by
    have hone : ∀ item ∈ a.approvalScope.map Documento.texto, item.dumps.peso ≤ 1022 := by
      intro item hitem
      obtain ⟨t, ht, rfl⟩ := List.mem_map.mp hitem
      obtain ⟨i, hi⟩ := List.getElem?_of_mem ht
      have hzip : (t, i) ∈ a.approvalScope.zipIdx := List.mem_zipIdx_iff_getElem?.mpr hi
      exact peso_opaca (hitem_opaca _ (List.mem_map.mpr ⟨(t, i), hzip, rfl⟩))
    have hbound := peso_lista hone
    rw [List.length_map] at hbound
    exact hbound.trans (Nat.add_le_add_left (Nat.mul_le_mul_right _ hitems) 2)
  have hkind := peso_vocabularios.1.1 a.boundTo.kind
  have huuid := peso_uuid a.boundTo.ref
  have h1 := peso_nome "approval_expiry" (by decide)
  have h2 := peso_nome "approval_jurisdiction" (by decide)
  have h3 := peso_nome "approval_reference" (by decide)
  have h4 := peso_nome "approval_scope" (by decide)
  have h5 := peso_nome "approval_version" (by decide)
  have h6 := peso_nome "bound_to" (by decide)
  have h7 := peso_nome "kind" (by decide)
  have h8 := peso_nome "ref" (by decide)
  have hbound := peso_campos [("kind", .ofString a.boundTo.kind.value),
    ("ref", .ofString a.boundTo.ref.str)]
  simp only [pesoDosCampos] at hbound
  refine (peso_campos _).trans ?_
  simp only [pesoDosCampos]
  omega

theorem peso_provenance (p : ProvenanceRecord) : (provenanceParaJson p).dumps.peso ≤ 3200 := by
  have hvalido := p.valido
  simp only [primeira_eq_none, List.mem_cons, List.not_mem_nil, or_false, forall_eq_or_imp,
    forall_eq] at hvalido
  have hjur : (Documento.ofOption p.jurisdiction).dumps.peso ≤ 1022 :=
    peso_ofOption (by decide) fun s hs => peso_opaca (by simpa [hs] using hvalido.1)
  have hpolicy : (Documento.ofOption p.policyRef).dumps.peso ≤ 1022 :=
    peso_ofOption (by decide) fun s hs => peso_opaca (by simpa [hs] using hvalido.2)
  have horigin := peso_sourceReference p.origin
  have hrecorded := peso_instante p.recordedAt
  have h1 := peso_nome "jurisdiction" (by decide)
  have h2 := peso_nome "origin" (by decide)
  have h3 := peso_nome "policy_ref" (by decide)
  have h4 := peso_nome "recorded_at" (by decide)
  refine (peso_campos _).trans ?_
  simp only [pesoDosCampos]
  omega

theorem natAbs_total (t : Timedelta) : t.total.natAbs < 10 ^ 20 := by
  obtain ⟨days, seconds, microseconds, hdays, hseconds, hmicroseconds⟩ := t
  unfold Timedelta.total
  dsimp only
  omega

theorem peso_subject (s : ClaimSubject) : (subjectParaJson s).dumps.peso ≤ 1100 := by
  have hvalido := s.valido
  simp only [primeira_eq_none, List.mem_cons, List.not_mem_nil, or_false, forall_eq_or_imp,
    forall_eq] at hvalido
  have htarget : (Documento.texto s.target).dumps.peso ≤ 258 := peso_token hvalido.1
  have hsignal : (Documento.texto s.signal).dumps.peso ≤ 258 := peso_token hvalido.2
  have havailability := peso_vocabularios.2.1 s.horizon.availability
  have hdelta := peso_inteiro (by decide : 0 < 20) (natAbs_total s.horizon.delta)
  have hreference := peso_instante s.horizon.referenceTime
  have h1 := peso_nome "availability" (by decide)
  have h2 := peso_nome "delta_microseconds" (by decide)
  have h3 := peso_nome "reference_time" (by decide)
  have h4 := peso_nome "horizon" (by decide)
  have h5 := peso_nome "signal" (by decide)
  have h6 := peso_nome "target" (by decide)
  have hhorizon := peso_campos [("availability", .ofString s.horizon.availability.value),
    ("delta_microseconds", .inteiro s.horizon.delta.total),
    ("reference_time", .ofString (instanteParaJson s.horizon.referenceTime))]
  simp only [pesoDosCampos] at hhorizon
  refine (peso_campos _).trans ?_
  simp only [pesoDosCampos]
  omega

/-- The bytes of an envelope are within the ceiling of the boundary. -/
theorem peso_documento (e : PiapEnvelope) : (documento e).dumps.peso ≤ maxPiapInputBytes := by
  have hvalido := e.valido
  unfold envelopeIncoerente at hvalido
  simp only [primeira_eq_none, List.mem_cons, List.not_mem_nil, or_false, forall_eq_or_imp,
    forall_eq, recusar_eq_none, decide_eq_false_iff_not, not_lt] at hvalido
  have happroval : (e.authority.approval.elim Documento.nulo approvalParaJson).dumps.peso ≤
      35700 := by
    cases e.authority.approval with
    | none => decide
    | some a => exact peso_approval a
  have hstatus := peso_vocabularios.1.2 e.authority.status
  have hversion := peso_vocabularios.2.2 e.contractVersion
  have hrefs : (Documento.lista (e.payloadRefs.map sourceReferenceParaJson)).dumps.peso ≤
      2 + 256 * 848 := by
    have hone : ∀ item ∈ e.payloadRefs.map sourceReferenceParaJson, item.dumps.peso ≤ 847 := by
      intro item hitem
      obtain ⟨r, -, rfl⟩ := List.mem_map.mp hitem
      exact peso_sourceReference r
    have hbound := peso_lista hone
    rw [List.length_map] at hbound
    exact hbound.trans (Nat.add_le_add_left (Nat.mul_le_mul_right _ hvalido.1) 2)
  have hprovenance := peso_provenance e.provenance
  have hsubject := peso_subject e.subject
  have hsealed := peso_instante e.sealedAt
  have h1 := peso_nome "authority" (by decide)
  have h2 := peso_nome "contract_version" (by decide)
  have h3 := peso_nome "payload_refs" (by decide)
  have h4 := peso_nome "provenance" (by decide)
  have h5 := peso_nome "sealed_at" (by decide)
  have h6 := peso_nome "subject" (by decide)
  have h7 := peso_nome "approval" (by decide)
  have h8 := peso_nome "status" (by decide)
  have hauthority := peso_campos [("approval", e.authority.approval.elim .nulo approvalParaJson),
    ("status", .ofString e.authority.status.value)]
  simp only [pesoDosCampos] at hauthority
  refine (peso_campos _).trans ?_
  unfold maxPiapInputBytes
  simp only [pesoDosCampos]
  omega

/-- A character outside ASCII weighs four bytes, a line feed two. -/
example : (Documento.texto (Texto.of "á\n")).dumps.peso = 8 := by decide +kernel

/-! ## Which envelopes have bytes -/

theorem inteiro_append {s t : Texto} : Texto.Inteiro (s ++ t) ↔ s.Inteiro ∧ t.Inteiro := by
  unfold Texto.Inteiro
  simp only [List.mem_append, or_imp, forall_and]

theorem inteiro_cons {c : Char} {t : Texto} : Texto.Inteiro (.char c :: t) ↔ t.Inteiro := by
  unfold Texto.Inteiro
  simp [CodePoint.char?]

theorem inteiro_map (cs : List Char) : Texto.Inteiro (cs.map .char) := by
  intro c hc
  obtain ⟨d, -, rfl⟩ := List.mem_map.mp hc
  rfl

theorem inteiro_escape (c : CodePoint) : Texto.Inteiro c.escape ↔ c.char?.isSome = true := by
  cases c with
  | char c => exact ⟨fun _ => rfl, fun _ => inteiro_map _⟩
  | surrogate n => simp [Texto.Inteiro, CodePoint.escape]

theorem inteiro_flatMap {t : Texto} :
    Texto.Inteiro (t.flatMap CodePoint.escape) ↔ t.Inteiro := by
  induction t with
  | nil => rfl
  | cons c t ih =>
    rw [List.flatMap_cons, inteiro_append, inteiro_escape, ih]
    simp [Texto.Inteiro]

theorem inteiro_aspas {t : Texto} : (aspas t).Inteiro ↔ t.Inteiro := by
  have hquote : Texto.Inteiro [.char '"'] := inteiro_map ['"']
  have htext : aspas t = .char '"' :: (t.flatMap CodePoint.escape ++ [.char '"']) := rfl
  rw [htext, inteiro_cons, inteiro_append, inteiro_flatMap]
  exact and_iff_left hquote

theorem inteiro_inteiro (n : ℤ) : (Documento.inteiro n).dumps.Inteiro := inteiro_map _

theorem inteiro_ofString (s : String) : (Documento.ofString s).dumps.Inteiro :=
  inteiro_aspas.mpr (inteiro_map _)

theorem inteiro_texto {t : Texto} : (Documento.texto t).dumps.Inteiro ↔ t.Inteiro := inteiro_aspas

theorem inteiro_ofOption {t : Option Texto} :
    (Documento.ofOption t).dumps.Inteiro ↔ ∀ s ∈ t.toList, s.Inteiro := by
  cases t with
  | none =>
    have hnull : (Documento.ofOption none).dumps.Inteiro := inteiro_map "null".toList
    simp [hnull]
  | some t =>
    have htext : (Documento.ofOption (some t)).dumps.Inteiro ↔ t.Inteiro := inteiro_aspas
    simp [htext]

theorem inteiro_objeto {campos : List (Texto × Documento)} :
    (Documento.objeto campos).dumps.Inteiro ↔
      ∀ campo ∈ campos, campo.1.Inteiro ∧ campo.2.dumps.Inteiro := by
  have hcampos : (Documento.dumpsCampos campos).Inteiro ↔
      ∀ campo ∈ campos, campo.1.Inteiro ∧ campo.2.dumps.Inteiro := by
    induction campos with
    | nil => simp [Documento.dumpsCampos, Texto.Inteiro]
    | cons campo campos ih =>
      obtain ⟨chave, valor⟩ := campo
      cases campos with
      | nil => simp [Documento.dumpsCampos, inteiro_append, inteiro_cons, inteiro_aspas]
      | cons outro campos =>
        obtain ⟨outra, seguinte⟩ := outro
        rw [dumpsCampos_cons_cons, inteiro_append, inteiro_append, inteiro_cons, inteiro_cons,
          inteiro_aspas, ih]
        simp only [List.mem_cons, forall_eq_or_imp, and_assoc]
  have hclose : Texto.Inteiro [.char '}'] := inteiro_map ['}']
  rw [Documento.dumps, List.cons_append, inteiro_cons, inteiro_append, hcampos]
  simp only [hclose, and_true]

theorem inteiro_campos {fields : List (String × Documento)} :
    (Documento.campos fields).dumps.Inteiro ↔ ∀ field ∈ fields, field.2.dumps.Inteiro := by
  have hname (nome : String) : (Texto.of nome).Inteiro := inteiro_map _
  unfold Documento.campos
  rw [inteiro_objeto, List.forall_mem_map]
  simp only [hname, true_and]

theorem inteiro_lista {itens : List Documento} :
    (Documento.lista itens).dumps.Inteiro ↔ ∀ item ∈ itens, item.dumps.Inteiro := by
  have hitens : (Documento.dumpsItens itens).Inteiro ↔ ∀ item ∈ itens, item.dumps.Inteiro := by
    induction itens with
    | nil => simp [Documento.dumpsItens, Texto.Inteiro]
    | cons item itens ih =>
      cases itens with
      | nil => simp [Documento.dumpsItens]
      | cons outro itens =>
        rw [dumpsItens_cons_cons, inteiro_append, inteiro_cons, ih]
        simp
  have hclose : Texto.Inteiro [.char ']'] := inteiro_map [']']
  rw [Documento.dumps, List.cons_append, inteiro_cons, inteiro_append, hitens]
  simp only [hclose, and_true]

/-- The opaque references of an approval. -/
def ApprovalBinding.referencias (a : ApprovalBinding) : List Texto :=
  a.approvalReference :: a.approvalJurisdiction.toList ++ a.approvalScope

/-- The opaque references of an envelope. -/
def PiapEnvelope.referencias (e : PiapEnvelope) : List Texto :=
  e.authority.approval.elim [] ApprovalBinding.referencias ++ e.provenance.jurisdiction.toList ++
    e.provenance.policyRef.toList

theorem inteiro_of_grammar {t : Texto} {p : String → Bool}
    (h : t.string?.all (fun s => !p s) = false) : t.Inteiro := by
  obtain ⟨s, rfl, -⟩ := of_string?_all h
  exact inteiro_map _

theorem inteiro_token {nome : String} {t : Texto} (h : validarToken nome t = none) :
    t.Inteiro := by
  unfold validarToken at h
  simp only [primeira_eq_none, List.mem_cons, List.not_mem_nil, or_false, forall_eq_or_imp,
    forall_eq] at h
  exact inteiro_of_grammar (recusar_eq_none.mp h.2.2)

theorem inteiro_sourceReference (r : SourceReference) :
    (sourceReferenceParaJson r).dumps.Inteiro := by
  have hvalido := r.valido
  simp only [primeira_eq_none, List.mem_cons, List.not_mem_nil, or_false, forall_eq_or_imp,
    forall_eq] at hvalido
  obtain ⟨htoken, -, hsha⟩ := hvalido
  have hkind := inteiro_texto.mpr (inteiro_token htoken)
  have hdigest : (Documento.ofOption r.contentSha256).dumps.Inteiro := by
    rw [inteiro_ofOption]
    intro s hs
    have hsome : r.contentSha256 = some s := Option.mem_toList.mp hs
    rw [hsome, Option.bind_some] at hsha
    exact inteiro_of_grammar (recusar_eq_none.mp hsha)
  unfold sourceReferenceParaJson
  rw [inteiro_campos]
  simp only [List.forall_mem_cons, hdigest, hkind, inteiro_ofString, inteiro_inteiro, true_and]
  exact List.forall_mem_nil _

theorem inteiro_approval {a : ApprovalBinding} :
    (approvalParaJson a).dumps.Inteiro ↔ ∀ t ∈ a.referencias, t.Inteiro := by
  have hexpiry : (a.approvalExpiry.elim Documento.nulo
      fun i => .ofString (instanteParaJson i)).dumps.Inteiro := by
    cases a.approvalExpiry with
    | none => exact inteiro_map "null".toList
    | some i => exact inteiro_ofString _
  have hbound : (Documento.campos [("kind", .ofString a.boundTo.kind.value),
      ("ref", .ofString a.boundTo.ref.str)]).dumps.Inteiro := by
    rw [inteiro_campos]
    simp [inteiro_ofString]
  have hscope : (Documento.lista (a.approvalScope.map .texto)).dumps.Inteiro ↔
      ∀ t ∈ a.approvalScope, t.Inteiro := by
    rw [inteiro_lista]
    simp [inteiro_texto]
  unfold approvalParaJson ApprovalBinding.referencias
  rw [inteiro_campos, List.forall_mem_append]
  simp only [List.forall_mem_cons, hexpiry, hbound, hscope, inteiro_ofOption, inteiro_texto,
    inteiro_inteiro, true_and]
  have hnil := List.forall_mem_nil fun field : String × Documento => field.2.dumps.Inteiro
  tauto

theorem inteiro_provenance {p : ProvenanceRecord} :
    (provenanceParaJson p).dumps.Inteiro ↔
      ∀ t ∈ p.jurisdiction.toList ++ p.policyRef.toList, t.Inteiro := by
  unfold provenanceParaJson
  rw [inteiro_campos]
  simp only [List.forall_mem_cons, List.forall_mem_append, inteiro_ofOption,
    inteiro_sourceReference, inteiro_ofString, true_and]
  have hnil := List.forall_mem_nil fun field : String × Documento => field.2.dumps.Inteiro
  tauto

theorem inteiro_subject (s : ClaimSubject) : (subjectParaJson s).dumps.Inteiro := by
  have hvalido := s.valido
  simp only [primeira_eq_none, List.mem_cons, List.not_mem_nil, or_false, forall_eq_or_imp,
    forall_eq] at hvalido
  have htarget := inteiro_texto.mpr (inteiro_token hvalido.1)
  have hsignal := inteiro_texto.mpr (inteiro_token hvalido.2)
  have hhorizon : (Documento.campos
      [("availability", .ofString s.horizon.availability.value),
        ("delta_microseconds", .inteiro s.horizon.delta.total),
        ("reference_time", .ofString (instanteParaJson s.horizon.referenceTime))]).dumps.Inteiro := by
    rw [inteiro_campos]
    simp [inteiro_ofString, inteiro_inteiro]
  unfold subjectParaJson
  rw [inteiro_campos]
  simp [htarget, hsignal, hhorizon]

/-- Only the opaque references of an envelope hold what has no bytes. -/
theorem inteiro_documento {e : PiapEnvelope} :
    (documento e).dumps.Inteiro ↔ ∀ t ∈ e.referencias, t.Inteiro := by
  have happroval : (e.authority.approval.elim Documento.nulo approvalParaJson).dumps.Inteiro ↔
      ∀ t ∈ e.authority.approval.elim [] ApprovalBinding.referencias, t.Inteiro := by
    cases e.authority.approval with
    | none => exact ⟨fun _ => List.forall_mem_nil _, fun _ => inteiro_map "null".toList⟩
    | some a => exact inteiro_approval
  have hauthority : (Documento.campos
      [("approval", e.authority.approval.elim .nulo approvalParaJson),
        ("status", .ofString e.authority.status.value)]).dumps.Inteiro ↔
        ∀ t ∈ e.authority.approval.elim [] ApprovalBinding.referencias, t.Inteiro := by
    rw [inteiro_campos, ← happroval]
    simp [inteiro_ofString]
  have hrefs : (Documento.lista (e.payloadRefs.map sourceReferenceParaJson)).dumps.Inteiro := by
    rw [inteiro_lista]
    intro item hitem
    obtain ⟨r, -, rfl⟩ := List.mem_map.mp hitem
    exact inteiro_sourceReference r
  unfold documento PiapEnvelope.referencias
  rw [inteiro_campos, List.append_assoc, List.forall_mem_append, ← hauthority,
    ← inteiro_provenance]
  simp [hrefs, inteiro_ofString, inteiro_subject]

/-! ## The document is read back -/

theorem legivel_objeto {niveis : ℕ} {campos : List (Texto × Documento)}
    (hnames : (campos.map (·.1)).Nodup) (h : ∀ campo ∈ campos, campo.2.Legivel niveis) :
    (Documento.objeto campos).Legivel (niveis + 1) := by
  rw [Documento.Legivel]
  refine ⟨hnames, ?_⟩
  clear hnames
  induction campos with
  | nil => trivial
  | cons campo campos ih =>
    obtain ⟨hfirst, hrest⟩ := List.forall_mem_cons.mp h
    exact ⟨hfirst, ih hrest⟩

theorem legivel_campos {niveis : ℕ} {fields : List (String × Documento)}
    (hnames : (fields.map (·.1)).Nodup) (h : ∀ field ∈ fields, field.2.Legivel niveis) :
    (Documento.campos fields).Legivel (niveis + 1) := by
  have hkeys : (fields.map fun field => (Texto.of field.1, field.2)).map (·.1) =
      (fields.map (·.1)).map Texto.of := by
    rw [List.map_map, List.map_map]
    rfl
  refine legivel_objeto ?_ (List.forall_mem_map.mpr h)
  rw [hkeys]
  exact hnames.map fun _ _ => texto_of_injective

theorem legivel_lista {niveis : ℕ} {itens : List Documento}
    (h : ∀ item ∈ itens, item.Legivel niveis) : (Documento.lista itens).Legivel (niveis + 1) := by
  rw [Documento.Legivel]
  induction itens with
  | nil => trivial
  | cons item itens ih =>
    obtain ⟨hfirst, hrest⟩ := List.forall_mem_cons.mp h
    exact ⟨hfirst, ih hrest⟩

theorem legivel_nulo (niveis : ℕ) : Documento.nulo.Legivel niveis := by
  cases niveis <;> trivial

theorem legivel_texto (niveis : ℕ) (t : Texto) : (Documento.texto t).Legivel niveis := by
  cases niveis <;> trivial

theorem legivel_ofString (niveis : ℕ) (s : String) : (Documento.ofString s).Legivel niveis :=
  legivel_texto niveis _

theorem legivel_ofOption (niveis : ℕ) (t : Option Texto) :
    (Documento.ofOption t).Legivel niveis := by
  cases t with
  | none => exact legivel_nulo niveis
  | some t => exact legivel_texto niveis t

/-- Numbers of the envelope are far from what `int` refuses. -/
theorem legivel_inteiro {n : ℤ} (niveis : ℕ) (h : n.natAbs < 10 ^ 20) :
    (Documento.inteiro n).Legivel niveis := by
  have hpow : 10 ^ 20 ≤ 10 ^ intMaxStrDigits := Nat.pow_le_pow_right (by decide) (by decide)
  have hsmall : n.natAbs < 10 ^ intMaxStrDigits := lt_of_lt_of_le h hpow
  cases niveis <;> exact hsmall

theorem natAbs_inteiroPositivo {nome : String} {n : ℤ}
    (h : validarInteiroPositivo nome n = none) : n.natAbs < 10 ^ 20 := by
  unfold validarInteiroPositivo maxPiapVersionNumber at h
  simp only [primeira_eq_none, List.mem_cons, List.not_mem_nil, or_false, forall_eq_or_imp,
    forall_eq, recusar_eq_none, decide_eq_false_iff_not] at h
  omega

theorem legivel_sourceReference (niveis : ℕ) (r : SourceReference) :
    (sourceReferenceParaJson r).Legivel (niveis + 1) := by
  have hvalido := r.valido
  simp only [primeira_eq_none, List.mem_cons, List.not_mem_nil, or_false, forall_eq_or_imp,
    forall_eq] at hvalido
  have hversion := legivel_inteiro niveis (natAbs_inteiroPositivo hvalido.2.1)
  refine legivel_campos (by simp) ?_
  simp [legivel_ofOption, legivel_texto, legivel_ofString, hversion]

theorem legivel_approval (niveis : ℕ) (a : ApprovalBinding) :
    (approvalParaJson a).Legivel (niveis + 2) := by
  have hvalido := a.valido
  simp only [primeira_eq_none, List.mem_cons, List.not_mem_nil, or_false, forall_eq_or_imp,
    forall_eq] at hvalido
  have hversion := legivel_inteiro (niveis + 1) (natAbs_inteiroPositivo hvalido.2.1)
  have hexpiry : (a.approvalExpiry.elim Documento.nulo
      fun i => .ofString (instanteParaJson i)).Legivel (niveis + 1) := by
    cases a.approvalExpiry with
    | none => exact legivel_nulo _
    | some i => exact legivel_ofString _ _
  have hscope : (Documento.lista (a.approvalScope.map .texto)).Legivel (niveis + 1) := by
    refine legivel_lista ?_
    simp [legivel_texto]
  have hbound : (Documento.campos [("kind", .ofString a.boundTo.kind.value),
      ("ref", .ofString a.boundTo.ref.str)]).Legivel (niveis + 1) := by
    refine legivel_campos (by simp) ?_
    simp [legivel_ofString]
  refine legivel_campos (by simp) ?_
  simp [hexpiry, hscope, hbound, hversion, legivel_ofOption, legivel_texto]

theorem legivel_provenance (niveis : ℕ) (p : ProvenanceRecord) :
    (provenanceParaJson p).Legivel (niveis + 2) := by
  refine legivel_campos (by simp) ?_
  simp [legivel_ofOption, legivel_sourceReference, legivel_ofString]

theorem legivel_subject (niveis : ℕ) (s : ClaimSubject) :
    (subjectParaJson s).Legivel (niveis + 2) := by
  have hdelta := legivel_inteiro niveis (natAbs_total s.horizon.delta)
  have hhorizon : (Documento.campos
      [("availability", .ofString s.horizon.availability.value),
        ("delta_microseconds", .inteiro s.horizon.delta.total),
        ("reference_time", .ofString (instanteParaJson s.horizon.referenceTime))]).Legivel
          (niveis + 1) := by
    refine legivel_campos (by simp) ?_
    simp [legivel_ofString, hdelta]
  refine legivel_campos (by simp) ?_
  simp [hhorizon, legivel_texto]

/-- The document of an envelope has four levels. -/
theorem legivel_documento (niveis : ℕ) (e : PiapEnvelope) :
    (documento e).Legivel (niveis + 4) := by
  have happroval : (e.authority.approval.elim Documento.nulo approvalParaJson).Legivel
      (niveis + 2) := by
    cases e.authority.approval with
    | none => exact legivel_nulo _
    | some a => exact legivel_approval niveis a
  have hauthority : (Documento.campos
      [("approval", e.authority.approval.elim .nulo approvalParaJson),
        ("status", .ofString e.authority.status.value)]).Legivel (niveis + 3) := by
    refine legivel_campos (by simp) ?_
    simp [happroval, legivel_ofString]
  have hrefs : (Documento.lista (e.payloadRefs.map sourceReferenceParaJson)).Legivel
      (niveis + 3) := by
    refine legivel_lista ?_
    simp [legivel_sourceReference]
  refine legivel_campos (by simp) ?_
  simp [hauthority, hrefs, legivel_ofString, legivel_provenance, legivel_subject]

/-- The bytes of a short document are read as its value. -/
theorem lerBytes_dumps {m : Interprete} {d : Documento} {payload : ByteArray}
    (h : d.dumps.encode = some payload) (hpeso : d.dumps.peso ≤ maxPiapInputBytes)
    (hlegivel : d.Legivel m.niveis) : lerBytes m payload = .ok d.valor := by
  have hsize : ¬maxPiapInputBytes < payload.size := not_lt.mpr ((size_le_peso h).trans hpeso)
  unfold lerBytes
  rw [if_neg hsize, decode_encode h]
  simp only [loads_dumps hlegivel]

theorem lerBytes_serialize (m : Interprete) {e : PiapEnvelope} {payload : ByteArray}
    (h : serializePiapEnvelope e = some payload) : lerBytes m payload = .ok (documento e).valor := by
  obtain ⟨niveis, hniveis⟩ := Nat.exists_eq_add_of_le' m.cabe
  have hlegivel : (documento e).Legivel m.niveis := by
    rw [hniveis]
    exact legivel_documento niveis e
  exact lerBytes_dumps h (peso_documento e) hlegivel

/-- An envelope is read back from its bytes. -/
theorem deserialize_serialize (m : Interprete) {e : PiapEnvelope} {payload : ByteArray}
    (h : serializePiapEnvelope e = some payload) : deserializePiapEnvelope m payload = .ok e := by
  have hcanonical : exigirBytesCanonicos payload e = .ok () := by
    unfold exigirBytesCanonicos
    simp only [h, if_true]
  unfold deserializePiapEnvelope
  rw [lerBytes_serialize m h]
  simp only [bind, Except.bind, envelopeDeJson_documento m e, hcanonical]
  rfl

/-- Bytes are read as an envelope only when they are its bytes. -/
theorem serialize_of_deserialize {m : Interprete} {payload : ByteArray} {e : PiapEnvelope}
    (h : deserializePiapEnvelope m payload = .ok e) : serializePiapEnvelope e = some payload := by
  unfold deserializePiapEnvelope at h
  obtain ⟨bruto, -, h⟩ := bind_eq_ok.mp h
  obtain ⟨lido, -, h⟩ := bind_eq_ok.mp h
  obtain ⟨_, hcanonical, h⟩ := bind_eq_ok.mp h
  obtain rfl : lido = e := Except.ok.inj h
  unfold exigirBytesCanonicos at hcanonical
  cases hbytes : serializePiapEnvelope lido with
  | none =>
    rw [hbytes] at hcanonical
    cases hcanonical
  | some canonico =>
    simp only [hbytes] at hcanonical
    by_cases heq : canonico.data = payload.data
    · rw [ByteArray.ext heq]
    · rw [if_neg heq] at hcanonical
      cases hcanonical

/-- Exactly the envelopes whose opaque references have no half of a surrogate pair have bytes,
which are read back as the envelope, and no other bytes are read as it. -/
theorem piap_roundtrip (m : Interprete) :
    (∀ e : PiapEnvelope, (∃ payload, serializePiapEnvelope e = some payload ∧
      deserializePiapEnvelope m payload = .ok e) ↔ ∀ t ∈ e.referencias, t.Inteiro) ∧
    ∀ payload e, deserializePiapEnvelope m payload = .ok e →
      serializePiapEnvelope e = some payload := by
  refine ⟨fun e => ?_, fun payload e => serialize_of_deserialize⟩
  rw [← inteiro_documento, inteiro_iff]
  constructor
  · rintro ⟨payload, hbytes, -⟩
    exact ⟨payload, hbytes⟩
  · rintro ⟨payload, hbytes⟩
    exact ⟨payload, hbytes, deserialize_serialize m hbytes⟩

/-- The policy of this envelope is named by half of a surrogate pair, which no check forbids. -/
def envelopeSemBytes : PiapEnvelope where
  contractVersion := .v1_0
  subject :=
    { target := Texto.of "grid.feed"
      signal := Texto.of "voltage"
      horizon :=
        { delta := ⟨0, 7200, 0, by decide⟩
          referenceTime := ⟨0, Datetime.epoch.wall_inRange⟩
          availability := .availableAtReferenceTime
          valido := by decide +kernel }
      valido := by decide +kernel }
  provenance :=
    { origin :=
        { kind := Texto.of "series"
          ref := 2
          sourceVersion := 2
          contentSha256 := none
          valido := by decide +kernel }
      recordedAt := ⟨0, Datetime.epoch.wall_inRange⟩
      jurisdiction := none
      policyRef := some [.surrogate 0]
      valido := by decide +kernel }
  authority := ⟨.unknown, none, by decide +kernel⟩
  payloadRefs := []
  sealedAt := ⟨0, Datetime.epoch.wall_inRange⟩
  valido := by decide +kernel

/-- It has no bytes. -/
theorem envelopeSemBytes_serialize : serializePiapEnvelope envelopeSemBytes = none ∧
    ¬((∀ e, ∃ payload, serializePiapEnvelope e = some payload ∧
        deserializePiapEnvelope interpreteUtc payload = .ok e) ∧
      ∀ payload e, deserializePiapEnvelope interpreteUtc payload = .ok e →
        serializePiapEnvelope e = some payload) := by
  have hnone : serializePiapEnvelope envelopeSemBytes = none := by decide +kernel
  refine ⟨hnone, fun hclaim => ?_⟩
  obtain ⟨payload, hbytes, -⟩ := hclaim.1 envelopeSemBytes
  rw [hnone] at hbytes
  cases hbytes

end PiaOs.Piap
