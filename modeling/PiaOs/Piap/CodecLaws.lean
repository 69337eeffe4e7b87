import PiaOs.Piap.Codec

/-!
# The codec is canonical

What was written is read back, and nothing else is read.
-/

namespace PiaOs.Piap

open Support Memory

/-! ## Objects -/

theorem texto_of_injective {a b : String} (h : Texto.of a = Texto.of b) : a = b := by
  have hlist : a.toList = b.toList :=
    List.map_injective_iff.mpr (fun _ _ h => CodePoint.char.inj h) h
  exact String.toList_injective hlist

/-- The value of an object under names of ASCII. -/
theorem campos_valor (fields : List (String × Documento)) :
    (Documento.campos fields).valor =
      .objeto (fields.map fun field => (Texto.of field.1, field.2.valor)) := by
  have hpares : Documento.pares (fields.map fun field => (Texto.of field.1, field.2)) =
      fields.map fun field => (Texto.of field.1, field.2.valor) := by
    induction fields with
    | nil => rfl
    | cons field fields ih => simp [Documento.pares, ih]
  unfold Documento.campos
  rw [Documento.valor, hpares]

theorem valores_eq_map (itens : List Documento) :
    Documento.valores itens = itens.map Documento.valor := by
  induction itens with
  | nil => rfl
  | cons item itens ih => simp [Documento.valores, ih]

/-- An object has the names that it was written with. -/
theorem chavesExatas_campos (nome : String) {esperadas : List String}
    {fields : List (String × Documento)} (h : fields.map (·.1) = esperadas) :
    chavesExatas nome esperadas (Documento.campos fields).valor =
      .ok (fields.map fun field => (Texto.of field.1, field.2.valor)) := by
  subst h
  rw [campos_valor]
  unfold chavesExatas
  have hnames : (fields.map fun field => (Texto.of field.1, field.2.valor)).map (·.1) =
      (fields.map (·.1)).map Texto.of := by
    rw [List.map_map, List.map_map]
    rfl
  simp only [hnames]
  rw [if_pos]
  constructor
  · exact List.filter_eq_nil_iff.mpr fun t ht => by simpa using ht
  · exact List.filter_eq_nil_iff.mpr fun t ht => by simpa using ht

/-- A field is found under its name. -/
theorem campo_map (fields : List (String × Documento)) (chave : String) :
    campo (fields.map fun field => (Texto.of field.1, field.2.valor)) chave =
      ((fields.lookup chave).map Documento.valor).getD .nulo := by
  have hlookup : (fields.map fun field => (Texto.of field.1, field.2.valor)).lookup
      (Texto.of chave) = (fields.lookup chave).map Documento.valor := by
    induction fields with
    | nil => rfl
    | cons field fields ih =>
      obtain ⟨nome, valor⟩ := field
      rw [List.map_cons, List.lookup_cons, List.lookup_cons]
      by_cases hname : chave = nome
      · subst hname
        simp
      · have hne : Texto.of chave ≠ Texto.of nome := fun h => hname (texto_of_injective h)
        have hfalse : (Texto.of chave == Texto.of nome) = false := by simpa using hne
        have hfalse' : (chave == nome) = false := by simpa using hname
        rw [hfalse, hfalse']
        exact ih
  unfold campo
  rw [hlookup]

/-! ## Single values -/

theorem montar_eq_ok {α : Type} {violacao : Option Violacao} {build : violacao = none → α}
    (h : violacao = none) : montar violacao build = .ok (build h) := by
  unfold montar
  rw [construir_eq_ok h]
  rfl

theorem versaoPiap_inteiro {nome campo : String} {n : ℤ}
    (h : validarInteiroPositivo campo n = none) : versaoPiap nome (.inteiro n) = .ok n := by
  unfold validarInteiroPositivo at h
  simp only [primeira_eq_none, List.mem_cons, List.not_mem_nil, or_false, forall_eq_or_imp,
    forall_eq, recusar_eq_none, decide_eq_false_iff_not] at h
  unfold versaoPiap inteiro
  simp only [bind, Except.bind, if_neg h.1, if_neg h.2]
  rfl

theorem opcional_texto (nome : String) (t : Option Texto) :
    opcional (texto nome) (Documento.ofOption t).valor = .ok t := by
  cases t with
  | none => rfl
  | some t => rfl

/-- The digits of a number in base sixteen write it. -/
theorem foldlM_digits (width n : ℕ) :
    ((digits 16 width n).map CodePoint.char).foldlM
      (fun m c => c.hex?.map (16 * m + ·)) 0 = some (n % 16 ^ width) := by
  induction width generalizing n with
  | zero => simp [digits, Nat.mod_one]
  | succ width ih =>
    have hlast : n % 16 < 16 := Nat.mod_lt n (by decide)
    have hsplit : 16 * (n / 16 % 16 ^ width) + n % 16 = n % 16 ^ (width + 1) := by
      rw [pow_succ, Nat.mul_comm (16 ^ width) 16, Nat.mod_mul]
      omega
    rw [digits, List.map_append, List.foldlM_append, ih]
    simp [hex?_hexDigit hlast, hsplit]

/-- Without its hyphens, a UUID is 32 digits. -/
theorem filter_str (ref : Referencia) :
    (Texto.of ref.str).filter (· ≠ .char '-') = (digits 16 32 ref.val).map .char := by
  have hhex : ∀ c ∈ digits 16 32 ref.val, isHexDigit c = true := fun c hc =>
    Sha256.isHexDigit_of_mem (by decide) hc
  generalize hd : digits 16 32 ref.val = d at hhex ⊢
  have hkeep : ∀ ds : List Char, ds ⊆ d →
      (ds.map CodePoint.char).filter (· ≠ .char '-') = ds.map .char := by
    intro ds hds
    rw [List.filter_eq_self]
    intro c hc
    obtain ⟨e, he, rfl⟩ := List.mem_map.mp hc
    have hne : e ≠ '-' := by
      rintro rfl
      exact absurd (hhex _ (hds he)) (by decide)
    simpa using hne
  have hdash : ([CodePoint.char '-'] : List CodePoint).filter (· ≠ .char '-') = [] := by decide
  have hwhole : d.take 8 ++ (d.drop 8).take 4 ++ (d.drop 12).take 4 ++ (d.drop 16).take 4 ++
      d.drop 20 = d := by
    have hsplit (m n : ℕ) : (d.drop m).take n ++ d.drop (m + n) = d.drop m := by
      rw [← List.drop_drop, List.take_append_drop]
    rw [List.append_assoc, List.append_assoc, List.append_assoc, hsplit 16 4, hsplit 12 4,
      hsplit 8 4, List.take_append_drop]
  have hsub (m n : ℕ) : (d.drop m).take n ⊆ d := fun c hc =>
    List.mem_of_mem_drop (List.mem_of_mem_take hc)
  unfold Referencia.str Uuid.str Texto.of
  rw [String.toList_ofList]
  simp only [hd, List.map_append, List.filter_append, List.map_cons, List.map_nil, hdash,
    hkeep _ (List.take_subset 8 d), hkeep _ (hsub 8 4), hkeep _ (hsub 12 4), hkeep _ (hsub 16 4),
    hkeep _ (List.drop_subset 20 d), List.append_nil]
  rw [← List.map_append, ← List.map_append, ← List.map_append, ← List.map_append, hwhole]

/-- A UUID is read back from its text. -/
theorem uuidCanonico?_str (ref : Referencia) : uuidCanonico? (Texto.of ref.str) = some ref := by
  have hint : uuidInt? (Texto.of ref.str) = some ref.val := by
    unfold uuidInt?
    rw [filter_str, foldlM_digits, Nat.mod_eq_of_lt]
    exact lt_of_lt_of_eq ref.isLt (by norm_num)
  unfold uuidCanonico?
  simp only [hint, Option.bind_eq_bind, Option.bind_some]
  rw [dif_pos ref.isLt]
  simp

theorem uuid_ofString (nome : String) (ref : Referencia) :
    uuid nome (Documento.ofString ref.str).valor = .ok ref := by
  unfold uuid
  simp only [Documento.ofString, Documento.valor, texto, bind, Except.bind, uuidCanonico?_str]
  rfl

/-- A member of a vocabulary without repeated words is read back from its word. -/
theorem membro_value {α : Type} (nome : String) {membros : List α} {value : α → String} {a : α}
    (hinjective : ∀ b ∈ membros, value b = value a → b = a) (ha : a ∈ membros) :
    membro nome membros value (Documento.ofString (value a)).valor = .ok a := by
  have hfound : membros.find? (fun m => Texto.of (value m) = Texto.of (value a)) = some a := by
    cases hfind : membros.find? fun m => Texto.of (value m) = Texto.of (value a) with
    | none => exact absurd (List.find?_eq_none.mp hfind a ha) (by simp)
    | some b =>
      have hb : Texto.of (value b) = Texto.of (value a) := by simpa using List.find?_some hfind
      rw [hinjective b (List.mem_of_find?_eq_some hfind) (texto_of_injective hb)]
  unfold membro
  simp only [Documento.ofString, Documento.valor, texto, bind, Except.bind, hfound]
  rfl

/-- An instant as it is written, with the offset in place of the `Z`. -/
theorem emDeslocamento_instanteParaJson (i : Instante) :
    emDeslocamento (Texto.of (instanteParaJson i)) = Texto.of i.utc.isoformat ∧
      (Texto.of (instanteParaJson i)).getLast? = some (.char 'Z') := by
  obtain ⟨year, month, day, hcivil⟩ : ∃ year month day,
      Datetime.civil (i.val / microsecondsPerDay) = (year, month, day) := ⟨_, _, _, rfl⟩
  have hsame : ∃ body, instanteParaJson i = body ++ "Z" ∧ i.utc.isoformat = body ++ "+00:00" := by
    have hiso := isoformat_utc i hcivil
    have hend : "+" ++ "00:00" = "+00:00" := rfl
    rw [@String.append_assoc _ "+" "00:00", hend] at hiso
    refine ⟨_, ?_, hiso⟩
    unfold instanteParaJson
    simp only [hcivil, ne_eq, ite_not, String.append_assoc]
  obtain ⟨body, hjson, hiso⟩ := hsame
  have hZ : Texto.of "Z" = [.char 'Z'] := rfl
  rw [hjson, hiso, texto_of_append, texto_of_append, hZ]
  unfold emDeslocamento
  simp

theorem instanteDeJson_instanteParaJson (m : Interprete) (nome : String) (i : Instante) :
    instanteDeJson m nome (Documento.ofString (instanteParaJson i)).valor = .ok i := by
  obtain ⟨hread, hlast⟩ := emDeslocamento_instanteParaJson i
  have hutc : m.astimezone (.ciente i.utc) = some i := by
    have hinstant : i.utc.instant = i.val := by
      unfold Datetime.instant Instante.utc
      exact sub_zero _
    unfold Interprete.astimezone
    simp only [Datetime.Representable, hinstant]
    rw [dif_pos i.property]
  unfold instanteDeJson
  simp only [Documento.ofString, Documento.valor, if_pos hlast, hread, m.fromisoformat_isoformat,
    hutc]

/-- Items that are read back one by one, under the names of their positions. -/
theorem mapM_zipIdx {α β : Type} {f : α × ℕ → Leitura β} (escrever : β → α) (itens : List β)
    (h : ∀ item ∈ itens, ∀ i, f (escrever item, i) = .ok item) :
    (itens.map escrever).zipIdx.mapM f = .ok itens := by
  have hfrom : ∀ k, ((itens.map escrever).zipIdx k).mapM f = .ok itens := by
    induction itens with
    | nil =>
      intro k
      rfl
    | cons item itens ih =>
      intro k
      have hrest := ih (fun outro houtro => h outro (List.mem_cons_of_mem _ houtro)) (k + 1)
      rw [List.map_cons, List.zipIdx_cons, List.mapM_cons, h item List.mem_cons_self]
      simp only [bind, Except.bind, hrest]
      rfl
  exact hfrom 0

theorem listaAte_map (nome : String) {limite : ℕ} (itens : List Documento)
    (h : itens.length ≤ limite) :
    listaAte nome limite (Documento.lista itens).valor = .ok (itens.map Documento.valor) := by
  unfold listaAte
  rw [Documento.valor, valores_eq_map]
  simp only [List.length_map, if_neg (not_lt.mpr h)]

theorem opcional_of {α : Type} {ler : Valor → Leitura α} {escrever : α → Documento} {a : Option α}
    (hread : ∀ b, a = some b → ler (escrever b).valor = .ok b)
    (hwritten : ∀ b, (escrever b).valor ≠ .nulo) :
    opcional ler (a.elim .nulo escrever).valor = .ok a := by
  cases a with
  | none => rfl
  | some b =>
    have hb := hread b rfl
    have hne := hwritten b
    simp only [Option.elim_some] at hb hne ⊢
    unfold opcional
    split
    · rename_i heq
      exact absurd heq hne
    · rw [hb]
      rfl

/-! ## Sections -/

theorem sourceReferenceDeJson_paraJson (nome : String) (r : SourceReference) :
    sourceReferenceDeJson nome (sourceReferenceParaJson r).valor = .ok r := by
  have hvalido := r.valido
  simp only [primeira_eq_none, List.mem_cons, List.not_mem_nil, or_false, forall_eq_or_imp,
    forall_eq] at hvalido
  obtain ⟨htoken, hversion, -⟩ := hvalido
  have hkind : texto (nome ++ ".kind") (Documento.texto r.kind).valor = .ok r.kind := rfl
  have htype : montar (validarToken "ProvenanceKind.value" r.kind) (fun _ => ()) = .ok () :=
    montar_eq_ok htoken
  have hnumber : versaoPiap (nome ++ ".source_version") (Documento.inteiro r.sourceVersion).valor =
      .ok r.sourceVersion := versaoPiap_inteiro hversion
  unfold sourceReferenceDeJson sourceReferenceParaJson
  rw [chavesExatas_campos nome]
  · simp only [bind, Except.bind, campo_map, List.lookup_cons, String.reduceBEq, Option.map_some,
      Option.getD_some, hkind, htype, uuid_ofString, hnumber, opcional_texto]
    exact montar_eq_ok r.valido
  · rfl

theorem boundObjectKind_injective (a b : BoundObjectKind) (h : a.value = b.value) : a = b := by
  cases a <;> cases b <;> first | rfl | exact absurd h (by decide)

theorem authorityStatus_injective (a b : AuthorityStatus) (h : a.value = b.value) : a = b := by
  cases a <;> cases b <;> first | rfl | exact absurd h (by decide)

theorem temporalAvailability_injective (a b : TemporalAvailability) (h : a.value = b.value) :
    a = b := by
  cases a <;> cases b <;> first | rfl | exact absurd h (by decide)

theorem camposDaAprovacao_paraJson (m : Interprete) (a : ApprovalBinding) :
    camposDaAprovacao m (approvalParaJson a).valor =
      .ok ⟨a.approvalReference, a.approvalVersion, a.approvalScope, a.approvalExpiry,
        a.approvalJurisdiction, a.boundTo⟩ := by
  have hvalido := a.valido
  simp only [primeira_eq_none, List.mem_cons, List.not_mem_nil, or_false, forall_eq_or_imp,
    forall_eq] at hvalido
  obtain ⟨-, hversion, hscope, -⟩ := hvalido
  have hlength : a.approvalScope.length ≤ maxApprovalScopeItems := by
    unfold validarEscopo at hscope
    simp only [primeira_eq_none, List.mem_cons, List.not_mem_nil, or_false, forall_eq_or_imp,
      forall_eq, recusar_eq_none, decide_eq_false_iff_not, not_lt] at hscope
    exact hscope.2.1
  have hscopes := listaAte_map "authority.approval.approval_scope" (a.approvalScope.map .texto)
    (by rwa [List.length_map] : _ ≤ maxApprovalScopeItems)
  have hitems : ((a.approvalScope.map Documento.texto).map Documento.valor).zipIdx.mapM
      (fun item => texto (posicao "authority.approval.approval_scope" item.2) item.1) =
        .ok a.approvalScope := by
    rw [List.map_map]
    exact mapM_zipIdx (fun t => (Documento.texto t).valor) a.approvalScope fun t _ i => rfl
  have hversao : versaoPiap "authority.approval.approval_version"
      (Documento.inteiro a.approvalVersion).valor = .ok a.approvalVersion :=
    versaoPiap_inteiro hversion
  have hexpiry : opcional (instanteDeJson m "authority.approval.approval_expiry")
      (a.approvalExpiry.elim Documento.nulo fun i => .ofString (instanteParaJson i)).valor =
        .ok a.approvalExpiry :=
    opcional_of (fun i _ => instanteDeJson_instanteParaJson m _ i) fun i => by
      simp [Documento.ofString, Documento.valor]
  have hkind : membro "authority.approval.bound_to.kind" [.proposedBound, .promotionCandidate]
      BoundObjectKind.value (Documento.ofString a.boundTo.kind.value).valor =
        .ok a.boundTo.kind :=
    membro_value _ (fun b _ => boundObjectKind_injective b _) (by cases a.boundTo.kind <;> simp)
  have hreference : texto "authority.approval.approval_reference"
      (Documento.texto a.approvalReference).valor = .ok a.approvalReference := rfl
  unfold camposDaAprovacao approvalParaJson
  rw [chavesExatas_campos]
  · simp only [bind, Except.bind, campo_map, List.lookup_cons, String.reduceBEq, Option.map_some,
      Option.getD_some]
    rw [chavesExatas_campos]
    · simp only [campo_map, List.lookup_cons, String.reduceBEq, Option.map_some, Option.getD_some,
        hscopes, hreference, hversao, hitems, hexpiry, opcional_texto, hkind, uuid_ofString]
      rfl
    · rfl
  · rfl

theorem authorityDeJson_paraJson (m : Interprete) (a : AuthorityContext) :
    authorityDeJson m (Documento.campos
      [("approval", a.approval.elim .nulo approvalParaJson),
        ("status", .ofString a.status.value)]).valor = .ok a := by
  have hmontar (b : ApprovalBinding) :
      (do let campos ← camposDaAprovacao m (approvalParaJson b).valor; campos.montar) = .ok b := by
    rw [camposDaAprovacao_paraJson]
    exact montar_eq_ok b.valido
  have happroval : opcional (fun valor => do
      let campos ← camposDaAprovacao m valor
      campos.montar) (a.approval.elim Documento.nulo approvalParaJson).valor = .ok a.approval :=
    opcional_of (fun b _ => hmontar b) fun b => by
      simp [approvalParaJson, campos_valor]
  have hstatus : membro "authority.status" [.assertedAuthorized, .assertedNotAuthorized, .unknown]
      AuthorityStatus.value (Documento.ofString a.status.value).valor = .ok a.status :=
    membro_value _ (fun b _ => authorityStatus_injective b _) (by cases a.status <;> decide)
  unfold authorityDeJson
  rw [chavesExatas_campos]
  · simp only [bind, Except.bind, campo_map, List.lookup_cons, String.reduceBEq, Option.map_some,
      Option.getD_some] at happroval ⊢
    simp only [happroval, hstatus]
    exact montar_eq_ok a.valido
  · rfl

theorem provenanceDeJson_paraJson (m : Interprete) (p : ProvenanceRecord) :
    provenanceDeJson m (provenanceParaJson p).valor = .ok p := by
  unfold provenanceDeJson provenanceParaJson
  rw [chavesExatas_campos]
  · simp only [bind, Except.bind, campo_map, List.lookup_cons, String.reduceBEq, Option.map_some,
      Option.getD_some, sourceReferenceDeJson_paraJson, instanteDeJson_instanteParaJson,
      opcional_texto]
    exact montar_eq_ok p.valido
  · rfl

theorem horizonDeJson_paraJson (m : Interprete) (h : Horizon) :
    horizonDeJson m (Documento.campos
      [("availability", .ofString h.availability.value),
        ("delta_microseconds", .inteiro h.delta.total),
        ("reference_time", .ofString (instanteParaJson h.referenceTime))]).valor = .ok h := by
  have hmicros : inteiro "subject.horizon.delta_microseconds"
      (Documento.inteiro h.delta.total).valor = .ok h.delta.total := rfl
  have hdelta : timedeltaDeMicrossegundos "subject.horizon.delta_microseconds" h.delta.total =
      .ok h.delta := by
    unfold timedeltaDeMicrossegundos
    rw [Timedelta.deMicrossegundos_total]
  have havailability : membro "subject.horizon.availability"
      [.availableAtReferenceTime, .unavailableAtReferenceTime, .unknown] TemporalAvailability.value
      (Documento.ofString h.availability.value).valor = .ok h.availability :=
    membro_value _ (fun b _ => temporalAvailability_injective b _)
      (by cases h.availability <;> decide)
  unfold horizonDeJson
  rw [chavesExatas_campos]
  · simp only [bind, Except.bind, campo_map, List.lookup_cons, String.reduceBEq, Option.map_some,
      Option.getD_some, hmicros, hdelta, instanteDeJson_instanteParaJson, havailability]
    exact montar_eq_ok h.valido
  · rfl

theorem subjectDeJson_paraJson (m : Interprete) (s : ClaimSubject) :
    subjectDeJson m (subjectParaJson s).valor = .ok s := by
  have htarget : texto "subject.target" (Documento.texto s.target).valor = .ok s.target := rfl
  have hsignal : texto "subject.signal" (Documento.texto s.signal).valor = .ok s.signal := rfl
  unfold subjectDeJson subjectParaJson
  rw [chavesExatas_campos]
  · simp only [bind, Except.bind, campo_map, List.lookup_cons, String.reduceBEq, Option.map_some,
      Option.getD_some, horizonDeJson_paraJson, htarget, hsignal]
    exact montar_eq_ok s.valido
  · rfl

theorem payloadRefsDeJson_paraJson {refs : List SourceReference}
    (h : refs.length ≤ maxPayloadReferences) :
    payloadRefsDeJson (Documento.lista (refs.map sourceReferenceParaJson)).valor = .ok refs := by
  have hitems := mapM_zipIdx (f := fun item =>
      sourceReferenceDeJson (posicao "payload_refs" item.2) item.1)
    (fun r => (sourceReferenceParaJson r).valor) refs fun r _ i => sourceReferenceDeJson_paraJson _ r
  have hlist := listaAte_map "payload_refs" (refs.map sourceReferenceParaJson)
    (by rwa [List.length_map] : _ ≤ maxPayloadReferences)
  unfold payloadRefsDeJson
  rw [hlist, List.map_map]
  exact hitems

/-- An envelope is read back from the value of its document. -/
theorem envelopeDeJson_documento (m : Interprete) (e : PiapEnvelope) :
    envelopeDeJson m (documento e).valor = .ok e := by
  have hversion : versaoDoContrato (Documento.ofString e.contractVersion.value).valor =
      .ok e.contractVersion := by
    cases e.contractVersion
    rfl
  have hrefs : e.payloadRefs.length ≤ maxPayloadReferences := by
    have hvalido := e.valido
    unfold envelopeIncoerente at hvalido
    simp only [primeira_eq_none, List.mem_cons, List.not_mem_nil, or_false, forall_eq_or_imp,
      forall_eq, recusar_eq_none, decide_eq_false_iff_not, not_lt] at hvalido
    exact hvalido.1
  unfold envelopeDeJson documento
  rw [chavesExatas_campos]
  · simp only [bind, Except.bind, campo_map, List.lookup_cons, String.reduceBEq, Option.map_some,
      Option.getD_some, hversion, authorityDeJson_paraJson, provenanceDeJson_paraJson,
      subjectDeJson_paraJson, payloadRefsDeJson_paraJson hrefs, instanteDeJson_instanteParaJson]
    exact montar_eq_ok e.valido
  · rfl

end PiaOs.Piap
