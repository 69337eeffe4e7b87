import Mathlib.Data.List.Dedup
import Mathlib.Data.List.Perm.Basic
import PiaOs.Piap.JsonText
import PiaOs.Runs.Traces
import PiaOs.Specs.ContentIds

/-!
# What a fingerprint tells apart

The arguments of the eight operations, the object that each fingerprint is the hash of, and what
two fingerprints say about the arguments that they come from.
-/

namespace PiaOs

open Support Piap

/-! ## Arguments -/

/-- A `uuid.UUID`. -/
abbrev UuidValido : Type := { u : Uuid // u.Valido }

/-- The bounds of the constructor of `datetime`. -/
structure DateTime.Valido (t : DateTime) : Prop where
  year : t.year < 10000
  month : t.month ≤ 12
  day : t.day ≤ 31
  hour : t.hour < 24
  minute : t.minute < 60
  second : t.second < 60
  microsecond : t.microsecond < 1000000
  utcOffset : ∀ offset ∈ t.utcOffset, offset.natAbs < 86400

/-- `json.dumps` writes a number of at most so many digits. -/
def ScheduleDraft.Escrevivel (draft : ScheduleDraft) : Prop :=
  ∀ etapa ∈ draft.steps, ∀ ref ∈ etapa.contextRefs, ref.bytes < 10 ^ intMaxStrDigits

/-- The arguments of each operation, without the triple of its receipt. -/
inductive Argumentos : CommandOperation → Type
  | createSchedule (draft : { draft : ScheduleDraft // draft.Escrevivel })
      (executionMode : HandoffMode) : Argumentos .createSchedule
  | sealHandoff (scheduleId stepId : UuidValido) (sealerRef : String) : Argumentos .sealHandoff
  | exportHandoff (scheduleId stepId : UuidValido) (sealerRef : String) :
      Argumentos .exportHandoff
  | importReturn (scheduleId stepId attemptId : UuidValido) (raw : RawReturn)
      (attribution : DeclaredAttribution) : Argumentos .importReturn
  | grantDelegation (scheduleId stepId : UuidValido) (validUntil : { t : DateTime // t.Valido }) :
      Argumentos .grantDelegation
  | revokeDelegation (scheduleId stepId delegationId : UuidValido) : Argumentos .revokeDelegation
  | controlSchedule (scheduleId : UuidValido) (action : String)
      (stopConditionCategory : Option StopConditionCategory) : Argumentos .controlSchedule
  | issueAuditOpinion (scheduleId attemptId : UuidValido) (opinion : AuditOpinionKind)
      (reasonCodes : List String) (auditorExecutionRef : String) : Argumentos .issueAuditOpinion

open CommandReceiptService

section Runtime

variable [Runtime] {operation : CommandOperation}

/-- The fingerprint that the service computes. -/
def Argumentos.impressao : Argumentos operation → String
  | .createSchedule draft executionMode => impressaoCreate draft.val executionMode
  | .sealHandoff scheduleId stepId sealerRef => impressaoSeal scheduleId.val stepId.val sealerRef
  | .exportHandoff scheduleId stepId sealerRef =>
    impressaoExport scheduleId.val stepId.val sealerRef
  | .importReturn scheduleId stepId attemptId raw attribution =>
    impressaoImport scheduleId.val stepId.val attemptId.val raw attribution
  | .grantDelegation scheduleId stepId validUntil =>
    impressaoGrant scheduleId.val stepId.val validUntil.val
  | .revokeDelegation scheduleId stepId delegationId =>
    impressaoRevoke scheduleId.val stepId.val delegationId.val
  | .controlSchedule scheduleId action stopConditionCategory =>
    impressaoControl scheduleId.val action stopConditionCategory
  | .issueAuditOpinion scheduleId attemptId opinion reasonCodes auditorExecutionRef =>
    impressaoAudit scheduleId.val attemptId.val opinion reasonCodes auditorExecutionRef

/-- `_impressao_de_export`, of the router. -/
def impressaoDeExport (scheduleId stepId : Uuid) (principalRef : String) : String :=
  impressaoDigital [("operation", .str CommandOperation.exportHandoff.value),
    ("schedule_id", .str scheduleId.str), ("step_id", .str stepId.str),
    ("sealer_ref", .str principalRef)]

/-- The object that the fingerprint is the hash of. -/
def Argumentos.payload : Argumentos operation → List (String × Json)
  | .createSchedule draft executionMode =>
    [("operation", .str CommandOperation.createSchedule.value), ("title", .str draft.val.title),
      ("execution_mode", .str executionMode.value),
      ("steps", .arr (draft.val.steps.map stepPayload))]
  | .sealHandoff scheduleId stepId sealerRef =>
    [("operation", .str CommandOperation.sealHandoff.value),
      ("schedule_id", .str scheduleId.val.str), ("step_id", .str stepId.val.str),
      ("sealer_ref", .str sealerRef)]
  | .exportHandoff scheduleId stepId sealerRef =>
    [("operation", .str CommandOperation.exportHandoff.value),
      ("schedule_id", .str scheduleId.val.str), ("step_id", .str stepId.val.str),
      ("sealer_ref", .str sealerRef)]
  | .importReturn scheduleId stepId attemptId raw attribution =>
    [("operation", .str CommandOperation.importReturn.value),
      ("schedule_id", .str scheduleId.val.str), ("step_id", .str stepId.val.str),
      ("attempt_id", .str attemptId.val.str), ("media_type", .str raw.mediaType),
      ("content_sha256", .str (Runtime.sha256 raw.content)),
      ("declared_output_ref", .ofOption raw.declaredOutputRef),
      ("declared_provider_id", .ofOption attribution.declaredProviderId),
      ("declared_model_id", .ofOption attribution.declaredModelId),
      ("declared_instance_id", .str attribution.declaredInstanceId)]
  | .grantDelegation scheduleId stepId validUntil =>
    [("operation", .str CommandOperation.grantDelegation.value),
      ("schedule_id", .str scheduleId.val.str), ("step_id", .str stepId.val.str),
      ("valid_until", .str validUntil.val.isoformat)]
  | .revokeDelegation scheduleId stepId delegationId =>
    [("operation", .str CommandOperation.revokeDelegation.value),
      ("schedule_id", .str scheduleId.val.str), ("step_id", .str stepId.val.str),
      ("delegation_id", .str delegationId.val.str)]
  | .controlSchedule scheduleId action stopConditionCategory =>
    [("operation", .str CommandOperation.controlSchedule.value),
      ("schedule_id", .str scheduleId.val.str), ("action", .str action),
      ("stop_condition_category",
        .ofOption (stopConditionCategory.map StopConditionCategory.value))]
  | .issueAuditOpinion scheduleId attemptId opinion reasonCodes auditorExecutionRef =>
    [("operation", .str CommandOperation.issueAuditOpinion.value),
      ("schedule_id", .str scheduleId.val.str), ("attempt_id", .str attemptId.val.str),
      ("opinion", .str opinion.value),
      ("reason_codes", .arr ((reasonCodes.insertionSort (· ≤ ·)).map Json.str)),
      ("auditor_execution_ref", .str auditorExecutionRef)]

theorem Argumentos.impressao_eq (a : Argumentos operation) :
    a.impressao = impressaoDigital a.payload := by
  cases a <;> rfl

/-- The texts that are hashed for a fingerprint: its object, and the content of a return. -/
def Argumentos.textos (a : Argumentos operation) : List String :=
  Json.dumps (.obj a.payload) :: match a with
    | .importReturn _ _ _ raw _ => [raw.content]
    | _ => []

/-- No two of the texts have one hash. -/
def SemColisao (textos : List String) : Prop :=
  ∀ s ∈ textos, ∀ t ∈ textos, Runtime.sha256 s = Runtime.sha256 t → s = t

end Runtime

/-- The same arguments, up to the order of the reasons of an opinion. -/
inductive Argumentos.Equivale : {operation : CommandOperation} → Argumentos operation →
    Argumentos operation → Prop
  | mesmos {operation : CommandOperation} (a : Argumentos operation) : Equivale a a
  | motivos {scheduleId attemptId : UuidValido} {opinion : AuditOpinionKind}
      {reasonCodes reasonCodes' : List String} {auditorExecutionRef : String}
      (h : reasonCodes.Perm reasonCodes') :
      Equivale (.issueAuditOpinion scheduleId attemptId opinion reasonCodes auditorExecutionRef)
        (.issueAuditOpinion scheduleId attemptId opinion reasonCodes' auditorExecutionRef)

/-! ## Dates as they are written -/

/-- Numbers of one width are told apart, whatever follows them. -/
theorem padded_append_inj {w n m : ℕ} {t u : Texto} (hn : n < 10 ^ w) (hm : m < 10 ^ w)
    (h : Texto.of (padded w n) ++ t = Texto.of (padded w m) ++ u) : n = m ∧ t = u := by
  have hread := lerNumero_padded w n hn t
  rw [h, lerNumero_padded w m hm u] at hread
  obtain ⟨hnumber, hrest⟩ := Prod.mk.inj (Option.some.inj hread)
  exact ⟨hnumber.symm, hrest.symm⟩

namespace DateTime

/-- The microseconds, when there are any. -/
def fracao (microsecond : ℕ) : String :=
  if microsecond = 0 then "" else "." ++ padded 6 microsecond

/-- The offset, when there is one. -/
def zona : Option ℤ → String
  | none => ""
  | some offset =>
    (if offset < 0 then "-" else "+") ++ padded 2 (offset.natAbs / 3600) ++ ":" ++
      padded 2 (offset.natAbs / 60 % 60) ++
        (if offset.natAbs % 60 = 0 then "" else ":" ++ padded 2 (offset.natAbs % 60))

theorem isoformat_eq (t : DateTime) : t.isoformat =
    padded 4 t.year ++ "-" ++ padded 2 t.month ++ "-" ++ padded 2 t.day ++ "T" ++
      (padded 2 t.hour ++ ":" ++ padded 2 t.minute ++ ":" ++ padded 2 t.second) ++
        fracao t.microsecond ++ zona t.utcOffset := by
  unfold isoformat fracao zona
  cases t.utcOffset <;> rfl

/-- What follows the minutes of an offset. -/
def segundosDaZona (second : ℕ) : Texto :=
  if second = 0 then [] else .char ':' :: Texto.of (padded 2 second)

theorem texto_of_zona (offset : ℤ) : Texto.of (zona (some offset)) =
    .char (if offset < 0 then '-' else '+') :: (Texto.of (padded 2 (offset.natAbs / 3600)) ++
      .char ':' :: (Texto.of (padded 2 (offset.natAbs / 60 % 60)) ++
        segundosDaZona (offset.natAbs % 60))) := by
  have hsign : Texto.of (if offset < 0 then "-" else "+") =
      [.char (if offset < 0 then '-' else '+')] := by
    split <;> rfl
  have hseconds : Texto.of (if offset.natAbs % 60 = 0 then "" else
      ":" ++ padded 2 (offset.natAbs % 60)) = segundosDaZona (offset.natAbs % 60) := by
    unfold segundosDaZona
    split
    · rfl
    · rw [texto_of_append]
      rfl
  rw [zona]
  simp only [texto_of_append, hsign, hseconds, List.append_assoc]
  rfl

theorem segundosDaZona_injective {n m : ℕ} (hn : n < 60) (hm : m < 60)
    (h : segundosDaZona n = segundosDaZona m) : n = m := by
  unfold segundosDaZona at h
  by_cases hn0 : n = 0 <;> by_cases hm0 : m = 0
  · rw [hn0, hm0]
  · rw [if_pos hn0, if_neg hm0] at h
    cases h
  · rw [if_neg hn0, if_pos hm0] at h
    cases h
  · rw [if_neg hn0, if_neg hm0] at h
    have htext : Texto.of (padded 2 n) = Texto.of (padded 2 m) := (List.cons.inj h).2
    refine (padded_append_inj (w := 2) (t := []) (u := []) (by omega) (by omega) ?_).1
    rw [htext]

theorem zona_injective {o o' : Option ℤ} (h : ∀ offset ∈ o, offset.natAbs < 86400)
    (h' : ∀ offset ∈ o', offset.natAbs < 86400)
    (htext : Texto.of (zona o) = Texto.of (zona o')) : o = o' := by
  cases o with
  | none =>
    cases o' with
    | none => rfl
    | some offset' =>
      rw [texto_of_zona] at htext
      cases htext
  | some offset =>
    cases o' with
    | none =>
      rw [texto_of_zona] at htext
      cases htext
    | some offset' =>
      have hbound := h offset rfl
      have hbound' := h' offset' rfl
      rw [texto_of_zona, texto_of_zona] at htext
      obtain ⟨hsign, htext⟩ := List.cons.inj htext
      obtain ⟨hhours, htext⟩ := padded_append_inj (by omega) (by omega) htext
      obtain ⟨hminutes, htext⟩ := padded_append_inj (by omega) (by omega) (List.cons.inj htext).2
      have hseconds := segundosDaZona_injective (by omega) (by omega) htext
      have hsame : offset < 0 ↔ offset' < 0 := by
        by_cases hneg : offset < 0 <;> by_cases hneg' : offset' < 0
        · exact iff_of_true hneg hneg'
        · rw [if_pos hneg, if_neg hneg'] at hsign
          exact absurd (CodePoint.char.inj hsign) (by decide)
        · rw [if_neg hneg, if_pos hneg'] at hsign
          exact absurd (CodePoint.char.inj hsign) (by decide)
        · exact iff_of_false hneg hneg'
      congr 1
      omega

/-- A zone does not begin like a fraction. -/
theorem zona_ne_fracao {o : Option ℤ} {t : Texto} : Texto.of (zona o) ≠ .char '.' :: t := by
  intro h
  cases o with
  | none => cases h
  | some offset =>
    rw [texto_of_zona] at h
    have hsign := CodePoint.char.inj (List.cons.inj h).1
    split at hsign <;> exact absurd hsign (by decide)

theorem fracao_append_inj {n m : ℕ} {o o' : Option ℤ} (hn : n < 1000000) (hm : m < 1000000)
    (h : Texto.of (fracao n) ++ Texto.of (zona o) = Texto.of (fracao m) ++ Texto.of (zona o')) :
    n = m ∧ Texto.of (zona o) = Texto.of (zona o') := by
  have hpoint {k : ℕ} (hk : k ≠ 0) : Texto.of (fracao k) = .char '.' :: Texto.of (padded 6 k) := by
    rw [fracao, if_neg hk, texto_of_append]
    rfl
  by_cases hn0 : n = 0 <;> by_cases hm0 : m = 0
  · subst hn0 hm0
    exact ⟨rfl, h⟩
  · subst hn0
    rw [hpoint hm0] at h
    exact absurd h zona_ne_fracao
  · subst hm0
    rw [hpoint hn0] at h
    exact absurd h.symm zona_ne_fracao
  · rw [hpoint hn0, hpoint hm0] at h
    exact padded_append_inj (by omega) (by omega) (List.cons.inj h).2

/-- A number, a sign and what follows. -/
theorem padded_sign_inj {w n m : ℕ} {sign : Texto} {t u : Texto} (hn : n < 10 ^ w)
    (hm : m < 10 ^ w) (h : Texto.of (padded w n) ++ (sign ++ t) =
      Texto.of (padded w m) ++ (sign ++ u)) : n = m ∧ t = u := by
  obtain ⟨hnumber, hrest⟩ := padded_append_inj hn hm h
  exact ⟨hnumber, List.append_cancel_left hrest⟩

/-- A date is read off its text. -/
theorem isoformat_injective {t u : DateTime} (ht : t.Valido) (hu : u.Valido)
    (h : t.isoformat = u.isoformat) : t = u := by
  have htext := congrArg Texto.of h
  rw [isoformat_eq, isoformat_eq] at htext
  simp only [texto_of_append, List.append_assoc] at htext
  obtain ⟨hyear, htext⟩ := padded_sign_inj ht.year hu.year htext
  have hmonths : t.month < 10 ^ 2 ∧ u.month < 10 ^ 2 :=
    ⟨ht.month.trans_lt (by decide), hu.month.trans_lt (by decide)⟩
  have hdays : t.day < 10 ^ 2 ∧ u.day < 10 ^ 2 :=
    ⟨ht.day.trans_lt (by decide), hu.day.trans_lt (by decide)⟩
  have hhours : t.hour < 10 ^ 2 ∧ u.hour < 10 ^ 2 :=
    ⟨ht.hour.trans (by decide), hu.hour.trans (by decide)⟩
  have hminutes : t.minute < 10 ^ 2 ∧ u.minute < 10 ^ 2 :=
    ⟨ht.minute.trans (by decide), hu.minute.trans (by decide)⟩
  have hseconds : t.second < 10 ^ 2 ∧ u.second < 10 ^ 2 :=
    ⟨ht.second.trans (by decide), hu.second.trans (by decide)⟩
  obtain ⟨hmonth, htext⟩ := padded_sign_inj hmonths.1 hmonths.2 htext
  obtain ⟨hday, htext⟩ := padded_sign_inj hdays.1 hdays.2 htext
  obtain ⟨hhour, htext⟩ := padded_sign_inj hhours.1 hhours.2 htext
  obtain ⟨hminute, htext⟩ := padded_sign_inj hminutes.1 hminutes.2 htext
  obtain ⟨hsecond, htext⟩ := padded_append_inj hseconds.1 hseconds.2 htext
  obtain ⟨hmicros, hzone⟩ := fracao_append_inj ht.microsecond hu.microsecond htext
  have hoffset := zona_injective ht.utcOffset hu.utcOffset hzone
  cases t
  cases u
  simp only [DateTime.mk.injEq]
  exact ⟨hyear, hmonth, hday, hhour, hminute, hsecond, hmicros, hoffset⟩

end DateTime

/-! ## Steps as they are written -/

theorem textoObrigatorio_eq_ok {valor campo texto : String} {limite : ℕ}
    (h : textoObrigatorio valor campo limite = .ok texto) : texto = valor := by
  unfold textoObrigatorio at h
  split at h
  · cases h
  · split at h
    · cases h
    · exact (Except.ok.inj h).symm

/-- Admitted pairs are the given ones, and no key repeats. -/
theorem admittedPairs_eq_ok {vistas : List String} {valor pares : ConstraintPairs}
    (h : admittedPairs vistas valor = .ok pares) :
    pares = valor ∧ (valor.map Prod.fst).Nodup ∧ ∀ chave ∈ valor.map Prod.fst, chave ∉ vistas := by
  induction valor generalizing vistas pares with
  | nil =>
    obtain rfl := Except.ok.inj h
    exact ⟨rfl, List.nodup_nil, by simp⟩
  | cons par resto ih =>
    obtain ⟨chave, conteudo⟩ := par
    unfold admittedPairs at h
    obtain ⟨textoChave, hchave, hrest⟩ := bind_eq_ok.mp h
    obtain ⟨textoValor, hvalor, hpares⟩ := bind_eq_ok.mp hrest
    obtain rfl := textoObrigatorio_eq_ok hchave
    obtain rfl := textoObrigatorio_eq_ok hvalor
    by_cases hseen : textoChave ∈ vistas
    · simp only [hseen, if_true] at hpares
      cases hpares
    · simp only [hseen, if_false] at hpares
      obtain ⟨outros, houtros, hlast⟩ := bind_eq_ok.mp hpares
      obtain ⟨rfl, hnodup, hnew⟩ := ih houtros
      obtain rfl := Except.ok.inj hlast
      refine ⟨rfl, List.nodup_cons.mpr ⟨fun hmem => ?_, hnodup⟩, fun chave hchave => ?_⟩
      · exact hnew _ hmem List.mem_cons_self
      · rcases List.mem_cons.mp hchave with rfl | hlater
        · exact hseen
        · exact fun hmem => hnew _ hlater (List.mem_cons_of_mem _ hmem)

/-- Canonical constraints have distinct keys, in order. -/
theorem canonicalConstraints_self {pares : ConstraintPairs}
    (h : canonicalConstraints pares = .ok pares) :
    (pares.map Prod.fst).Nodup ∧ pares.Pairwise fun a b => a.1 ≤ b.1 := by
  unfold canonicalConstraints at h
  obtain ⟨admitidos, hadmitidos, h⟩ := bind_eq_ok.mp h
  obtain ⟨rfl, hnodup, -⟩ := admittedPairs_eq_ok hadmitidos
  obtain ⟨-, -, h⟩ := bind_eq_ok.mp h
  have htotal : Std.Total fun a b : String × String => a.1 ≤ b.1 := ⟨fun _ _ => le_total _ _⟩
  have htrans : IsTrans (String × String) fun a b => a.1 ≤ b.1 := ⟨fun _ _ _ => le_trans⟩
  have hsorted := List.pairwise_insertionSort (fun a b : String × String => a.1 ≤ b.1) admitidos
  rw [Except.ok.inj h] at hsorted
  exact ⟨hnodup, hsorted⟩

theorem documentoDe_str_injective {s t : String}
    (h : documentoDe (.str s) = documentoDe (.str t)) : s = t :=
  texto_of_injective (Documento.texto.inj h)

theorem documentoDe_ofOption_injective {s t : Option String}
    (h : documentoDe (.ofOption s) = documentoDe (.ofOption t)) : s = t := by
  cases s with
  | none =>
    cases t with
    | none => rfl
    | some t => cases h
  | some s =>
    cases t with
    | none => cases h
    | some t => rw [documentoDe_str_injective h]

/-- Lists that are written alike have the same items. -/
theorem documentoDe_arr_injective {α : Type} {entrada : α → Json}
    (hentrada : ∀ a b, documentoDe (entrada a) = documentoDe (entrada b) → a = b) {xs ys : List α}
    (h : documentoDe (.arr (xs.map entrada)) = documentoDe (.arr (ys.map entrada))) : xs = ys := by
  rw [documentoDe, documentoDe, Documento.lista.injEq, documentosDe_eq, documentosDe_eq,
    List.map_map, List.map_map] at h
  exact Function.Injective.list_map (fun a b => hentrada a b) h

/-- The values of two objects with the same distinct names, in the order of the names. -/
theorem documentos_of_obj {fields fields' : List (String × Json)}
    (hnames : fields.map Prod.fst = fields'.map Prod.fst) (hnodup : (fields.map Prod.fst).Nodup)
    (h : documentoDe (.obj fields) = documentoDe (.obj fields')) :
    fields.map (fun field => documentoDe field.2) =
      fields'.map fun field => documentoDe field.2 := by
  have hcampos := congrArg (List.map Prod.snd) (campos_of_documentoDe_obj hnames hnodup h)
  rwa [camposDe_eq, camposDe_eq, List.map_map, List.map_map] at hcampos

theorem asContent_injective (r r' : ContextRef)
    (h : documentoDe r.asContent = documentoDe r'.asContent) : r = r' := by
  unfold ContextRef.asContent at h
  have hvalues := documentos_of_obj (by rfl) (by simp) h
  simp only [List.map_cons, List.map_nil, List.cons.injEq, and_true] at hvalues
  obtain ⟨huri, hsha256, hbytes⟩ := hvalues
  have huri := documentoDe_str_injective huri
  have hsha256 := documentoDe_str_injective hsha256
  have hbytes : r.bytes = r'.bytes := Int.ofNat.inj (Documento.inteiro.inj hbytes)
  cases r
  cases r'
  simp only [ContextRef.mk.injEq]
  exact ⟨huri, hsha256, hbytes⟩

/-- Canonical constraints are told apart by their object. -/
theorem constraints_injective {pares pares' : ConstraintPairs}
    (hpares : canonicalConstraints pares = .ok pares)
    (hpares' : canonicalConstraints pares' = .ok pares')
    (h : documentoDe (.obj (pares.map fun p => (p.1, .str p.2))) =
      documentoDe (.obj (pares'.map fun p => (p.1, .str p.2)))) : pares = pares' := by
  have hcampos (pares : ConstraintPairs) :
      camposDe (pares.map fun p => (p.1, Json.str p.2)) =
        pares.map fun p => (p.1, Documento.texto (Texto.of p.2)) := by
    rw [camposDe_eq, List.map_map]
    rfl
  have hinjective : Function.Injective fun p : String × String =>
      (p.1, Documento.texto (Texto.of p.2)) := by
    rintro ⟨chave, conteudo⟩ ⟨chave', conteudo'⟩ heq
    obtain ⟨hchave, hconteudo⟩ := Prod.mk.inj heq
    exact Prod.ext hchave (texto_of_injective (Documento.texto.inj hconteudo))
  have hperm := perm_of_documentoDe_obj h
  rw [hcampos, hcampos] at hperm
  have hperm : pares.Perm pares' := (List.map_perm_map_iff hinjective).mp hperm
  obtain ⟨hnodup, hsorted⟩ := canonicalConstraints_self hpares
  obtain ⟨-, hsorted'⟩ := canonicalConstraints_self hpares'
  refine hperm.eq_of_pairwise ?_ hsorted hsorted'
  intro a b ha hb hab hba
  exact List.inj_on_of_nodup_map hnodup ha (hperm.mem_iff.mpr hb) (le_antisymm hab hba)

theorem stepPayload_injective (e e' : StepDraft)
    (h : documentoDe (stepPayload e) = documentoDe (stepPayload e')) : e = e' := by
  unfold stepPayload at h
  have hvalues := documentos_of_obj (by rfl) (by simp) h
  simp only [List.map_cons, List.map_nil, List.cons.injEq, and_true] at hvalues
  obtain ⟨hrole, hinstruction, houtput, hrefs, hconstraints⟩ := hvalues
  have hrole := documentoDe_str_injective hrole
  have hinstruction := documentoDe_str_injective hinstruction
  have houtput := documentoDe_str_injective houtput
  have hrefs := documentoDe_arr_injective asContent_injective hrefs
  have hconstraints := constraints_injective e.constraints_ok e'.constraints_ok hconstraints
  cases e
  cases e'
  simp only [StepDraft.mk.injEq]
  exact ⟨hrole, hinstruction, houtput, hrefs, hconstraints⟩

theorem legivel_ofOption {niveis : ℕ} (s : Option String) :
    (documentoDe (.ofOption s)).Legivel niveis := by
  cases s with
  | none => exact legivel_nulo niveis
  | some s => exact legivel_texto niveis _

/-- A step is written in three levels of objects and lists. -/
theorem legivel_stepPayload {etapa : StepDraft}
    (h : ∀ ref ∈ etapa.contextRefs, ref.bytes < 10 ^ intMaxStrDigits) :
    (documentoDe (stepPayload etapa)).Legivel 3 := by
  have hnodup := (canonicalConstraints_self etapa.constraints_ok).1
  have href : ∀ ref ∈ etapa.contextRefs, (documentoDe ref.asContent).Legivel 1 := by
    intro ref hmem
    have hbytes : (Documento.inteiro ref.bytes).Legivel 0 := h ref hmem
    unfold ContextRef.asContent
    refine legivel_documentoDe_obj (by simp) ?_
    simp only [List.forall_mem_cons, List.not_mem_nil, false_imp_iff, implies_true, and_true]
    exact ⟨legivel_texto 0 _, legivel_texto 0 _, hbytes⟩
  have hrefs : (documentoDe (.arr (etapa.contextRefs.map ContextRef.asContent))).Legivel 2 :=
    legivel_documentoDe_arr (List.forall_mem_map.mpr href)
  have hconstraints : (documentoDe (.obj (etapa.constraints.map fun p =>
      (p.1, Json.str p.2)))).Legivel 2 := by
    refine legivel_documentoDe_obj ?_ ?_
    · rw [List.map_map]
      exact hnodup
    · intro field hfield
      obtain ⟨par, -, rfl⟩ := List.mem_map.mp hfield
      exact legivel_texto 1 _
  unfold stepPayload
  refine legivel_documentoDe_obj (by simp) ?_
  simp only [List.forall_mem_cons, List.not_mem_nil, false_imp_iff, implies_true, and_true]
  exact ⟨legivel_texto 2 _, legivel_texto 2 _, legivel_texto 2 _, hrefs, hconstraints⟩

theorem UuidValido.eq_of_documentoDe {u v : UuidValido}
    (h : documentoDe (.str u.val.str) = documentoDe (.str v.val.str)) : u = v :=
  Subtype.ext (Uuid.eq_of_str u.property v.property (documentoDe_str_injective h))

theorem HandoffMode.eq_of_value {m m' : HandoffMode} (h : m.value = m'.value) : m = m' := by
  revert h
  cases m <;> cases m' <;> decide

theorem AuditOpinionKind.eq_of_value {k k' : AuditOpinionKind} (h : k.value = k'.value) :
    k = k' := by
  revert h
  cases k <;> cases k' <;> decide

theorem StopConditionCategory.value_injective : Function.Injective StopConditionCategory.value := by
  intro c c'
  cases c <;> cases c' <;> decide

/-! The fields that a constructor checks determine the value that it makes. -/

theorem ScheduleDraft.eq_of_fields {d d' : ScheduleDraft} (htitle : d.title = d'.title)
    (hsteps : d.steps = d'.steps) : d = d' := by
  cases d
  cases d'
  simp only [ScheduleDraft.mk.injEq]
  exact ⟨htitle, hsteps⟩

theorem RawReturn.eq_of_fields {r r' : RawReturn} (hmedia : r.mediaType = r'.mediaType)
    (hcontent : r.content = r'.content) (houtput : r.declaredOutputRef = r'.declaredOutputRef) :
    r = r' := by
  cases r
  cases r'
  simp only [RawReturn.mk.injEq]
  exact ⟨hmedia, hcontent, houtput⟩

theorem DeclaredAttribution.eq_of_fields {t t' : DeclaredAttribution}
    (hinstance : t.declaredInstanceId = t'.declaredInstanceId)
    (hprovider : t.declaredProviderId = t'.declaredProviderId)
    (hmodel : t.declaredModelId = t'.declaredModelId) : t = t' := by
  cases t
  cases t'
  simp only [DeclaredAttribution.mk.injEq]
  exact ⟨hinstance, hprovider, hmodel⟩

/-- Sorting forgets the order. -/
theorem insertionSort_eq_of_perm {xs ys : List String} (h : xs.Perm ys) :
    xs.insertionSort (· ≤ ·) = ys.insertionSort (· ≤ ·) := by
  have hperm := (List.perm_insertionSort (· ≤ ·) xs).trans
    (h.trans (List.perm_insertionSort (· ≤ ·) ys).symm)
  exact hperm.eq_of_pairwise' (List.pairwise_insertionSort _ xs) (List.pairwise_insertionSort _ ys)

/-! ## What a payload determines -/

section Payload

variable [Runtime] {operation : CommandOperation} (a b : Argumentos operation)

namespace Argumentos

theorem payload_names : a.payload.map Prod.fst = b.payload.map Prod.fst := by
  cases a <;> cases b <;> simp only [payload, List.map_cons, List.map_nil]

theorem payload_nodup : (a.payload.map Prod.fst).Nodup := by
  cases a <;> simp [payload]

theorem legivel_payload : (documentoDe (.obj a.payload)).Legivel 5 := by
  refine legivel_documentoDe_obj (payload_nodup a) ?_
  cases a with
  | createSchedule draft executionMode =>
    have hsteps : (documentoDe (.arr (draft.val.steps.map stepPayload))).Legivel 4 :=
      legivel_documentoDe_arr (List.forall_mem_map.mpr fun etapa hetapa =>
        legivel_stepPayload (draft.property etapa hetapa))
    simp only [payload, List.forall_mem_cons, List.not_mem_nil, false_imp_iff, implies_true,
      and_true]
    exact ⟨legivel_texto 4 _, legivel_texto 4 _, legivel_texto 4 _, hsteps⟩
  | importReturn scheduleId stepId attemptId raw attribution =>
    simp only [payload, List.forall_mem_cons, List.not_mem_nil, false_imp_iff, implies_true,
      and_true]
    exact ⟨legivel_texto 4 _, legivel_texto 4 _, legivel_texto 4 _, legivel_texto 4 _,
      legivel_texto 4 _, legivel_texto 4 _, legivel_ofOption _, legivel_ofOption _,
      legivel_ofOption _, legivel_texto 4 _⟩
  | controlSchedule scheduleId action stopConditionCategory =>
    simp only [payload, List.forall_mem_cons, List.not_mem_nil, false_imp_iff, implies_true,
      and_true]
    exact ⟨legivel_texto 4 _, legivel_texto 4 _, legivel_texto 4 _, legivel_ofOption _⟩
  | issueAuditOpinion scheduleId attemptId opinion reasonCodes auditorExecutionRef =>
    have hcodes : (documentoDe (.arr ((reasonCodes.insertionSort (· ≤ ·)).map Json.str))).Legivel
        4 :=
      legivel_documentoDe_arr (List.forall_mem_map.mpr fun _ _ => legivel_texto 3 _)
    simp only [payload, List.forall_mem_cons, List.not_mem_nil, false_imp_iff, implies_true,
      and_true]
    exact ⟨legivel_texto 4 _, legivel_texto 4 _, legivel_texto 4 _, legivel_texto 4 _, hcodes,
      legivel_texto 4 _⟩
  | sealHandoff | exportHandoff | grantDelegation | revokeDelegation =>
    simp only [payload, List.forall_mem_cons, List.not_mem_nil, false_imp_iff, implies_true,
      and_true]
    exact ⟨legivel_texto 4 _, legivel_texto 4 _, legivel_texto 4 _, legivel_texto 4 _⟩

variable {a b} in
/-- Without a collision, one fingerprint has one list of values. -/
theorem valores_of_impressao (hcolisao : SemColisao (a.textos ++ b.textos))
    (h : a.impressao = b.impressao) : a.payload.map (fun field => documentoDe field.2) =
      b.payload.map fun field => documentoDe field.2 := by
  rw [impressao_eq, impressao_eq] at h
  have ha : Json.dumps (.obj a.payload) ∈ a.textos ++ b.textos :=
    List.mem_append_left _ List.mem_cons_self
  have hb : Json.dumps (.obj b.payload) ∈ a.textos ++ b.textos :=
    List.mem_append_right _ List.mem_cons_self
  have htext : Json.dumps (.obj a.payload) = Json.dumps (.obj b.payload) := hcolisao _ ha _ hb h
  have hdocument := documentoDe_of_dumps (legivel_payload a) (legivel_payload b) htext
  exact documentos_of_obj (payload_names a b) (payload_nodup a) hdocument

end Argumentos

namespace Argumentos

/-- One list of values comes from the same arguments, up to the order of the reasons. -/
theorem equivale_of_valores {a b : Argumentos operation}
    (hcolisao : SemColisao (a.textos ++ b.textos))
    (h : a.payload.map (fun field => documentoDe field.2) =
      b.payload.map fun field => documentoDe field.2) : a.Equivale b := by
  cases a with
  | createSchedule draft executionMode =>
    cases b with
    | createSchedule draft' executionMode' =>
      simp only [payload, List.map_cons, List.map_nil, List.cons.injEq, and_true] at h
      obtain ⟨-, htitle, hmode, hsteps⟩ := h
      have hsteps := documentoDe_arr_injective stepPayload_injective hsteps
      have hdraft : draft.val = draft'.val :=
        ScheduleDraft.eq_of_fields (documentoDe_str_injective htitle) hsteps
      obtain rfl := Subtype.ext hdraft
      obtain rfl := HandoffMode.eq_of_value (documentoDe_str_injective hmode)
      exact .mesmos _
  | sealHandoff scheduleId stepId sealerRef =>
    cases b with
    | sealHandoff scheduleId' stepId' sealerRef' =>
      simp only [payload, List.map_cons, List.map_nil, List.cons.injEq, and_true] at h
      obtain ⟨-, hschedule, hstep, hsealer⟩ := h
      obtain rfl := UuidValido.eq_of_documentoDe hschedule
      obtain rfl := UuidValido.eq_of_documentoDe hstep
      obtain rfl := documentoDe_str_injective hsealer
      exact .mesmos _
  | exportHandoff scheduleId stepId sealerRef =>
    cases b with
    | exportHandoff scheduleId' stepId' sealerRef' =>
      simp only [payload, List.map_cons, List.map_nil, List.cons.injEq, and_true] at h
      obtain ⟨-, hschedule, hstep, hsealer⟩ := h
      obtain rfl := UuidValido.eq_of_documentoDe hschedule
      obtain rfl := UuidValido.eq_of_documentoDe hstep
      obtain rfl := documentoDe_str_injective hsealer
      exact .mesmos _
  | importReturn scheduleId stepId attemptId raw attribution =>
    cases b with
    | importReturn scheduleId' stepId' attemptId' raw' attribution' =>
      simp only [payload, List.map_cons, List.map_nil, List.cons.injEq, and_true] at h
      obtain ⟨-, hschedule, hstep, hattempt, hmedia, hcontent, houtput, hprovider, hmodel,
        hinstance⟩ := h
      have hcontent : raw.content = raw'.content :=
        hcolisao _ (by simp [textos]) _ (by simp [textos]) (documentoDe_str_injective hcontent)
      obtain rfl := UuidValido.eq_of_documentoDe hschedule
      obtain rfl := UuidValido.eq_of_documentoDe hstep
      obtain rfl := UuidValido.eq_of_documentoDe hattempt
      obtain rfl := RawReturn.eq_of_fields (documentoDe_str_injective hmedia) hcontent
        (documentoDe_ofOption_injective houtput)
      obtain rfl := DeclaredAttribution.eq_of_fields (documentoDe_str_injective hinstance)
        (documentoDe_ofOption_injective hprovider) (documentoDe_ofOption_injective hmodel)
      exact .mesmos _
  | grantDelegation scheduleId stepId validUntil =>
    cases b with
    | grantDelegation scheduleId' stepId' validUntil' =>
      simp only [payload, List.map_cons, List.map_nil, List.cons.injEq, and_true] at h
      obtain ⟨-, hschedule, hstep, huntil⟩ := h
      have huntil := DateTime.isoformat_injective validUntil.property validUntil'.property
        (documentoDe_str_injective huntil)
      obtain rfl := UuidValido.eq_of_documentoDe hschedule
      obtain rfl := UuidValido.eq_of_documentoDe hstep
      obtain rfl := Subtype.ext huntil
      exact .mesmos _
  | revokeDelegation scheduleId stepId delegationId =>
    cases b with
    | revokeDelegation scheduleId' stepId' delegationId' =>
      simp only [payload, List.map_cons, List.map_nil, List.cons.injEq, and_true] at h
      obtain ⟨-, hschedule, hstep, hdelegation⟩ := h
      obtain rfl := UuidValido.eq_of_documentoDe hschedule
      obtain rfl := UuidValido.eq_of_documentoDe hstep
      obtain rfl := UuidValido.eq_of_documentoDe hdelegation
      exact .mesmos _
  | controlSchedule scheduleId action stopConditionCategory =>
    cases b with
    | controlSchedule scheduleId' action' stopConditionCategory' =>
      simp only [payload, List.map_cons, List.map_nil, List.cons.injEq, and_true] at h
      obtain ⟨-, hschedule, haction, hcategory⟩ := h
      obtain rfl := UuidValido.eq_of_documentoDe hschedule
      obtain rfl := documentoDe_str_injective haction
      obtain rfl := Option.map_injective StopConditionCategory.value_injective
        (documentoDe_ofOption_injective hcategory)
      exact .mesmos _
  | issueAuditOpinion scheduleId attemptId opinion reasonCodes auditorExecutionRef =>
    cases b with
    | issueAuditOpinion scheduleId' attemptId' opinion' reasonCodes' auditorExecutionRef' =>
      simp only [payload, List.map_cons, List.map_nil, List.cons.injEq, and_true] at h
      obtain ⟨-, hschedule, hattempt, hopinion, hcodes, hauditor⟩ := h
      have hcodes : reasonCodes.insertionSort (· ≤ ·) = reasonCodes'.insertionSort (· ≤ ·) :=
        documentoDe_arr_injective (fun _ _ => documentoDe_str_injective) hcodes
      obtain rfl := UuidValido.eq_of_documentoDe hschedule
      obtain rfl := UuidValido.eq_of_documentoDe hattempt
      obtain rfl := AuditOpinionKind.eq_of_value (documentoDe_str_injective hopinion)
      obtain rfl := documentoDe_str_injective hauditor
      -- both lists are permutations of the one that is written
      refine .motivos ((List.perm_insertionSort (· ≤ ·) reasonCodes).symm.trans ?_)
      rw [hcodes]
      exact List.perm_insertionSort (· ≤ ·) reasonCodes'

theorem impressao_of_equivale {a b : Argumentos operation} (h : a.Equivale b) :
    a.impressao = b.impressao := by
  cases h with
  | mesmos => rfl
  | motivos hperm =>
    simp only [impressao, impressaoAudit, insertionSort_eq_of_perm hperm]

end Argumentos

end Payload

/-! ## The effect -/

namespace AuditService

/-- Reasons of the closed vocabulary are admitted without regard to their order. -/
theorem canonicalAuditReasonCodes_eq_of_perm {codigos codigos' : List String}
    (hcodes : ∀ c ∈ codigos, c ∈ auditReasonCodes) (h : codigos.Perm codigos') :
    canonicalAuditReasonCodes codigos = canonicalAuditReasonCodes codigos' := by
  have hcodes' : ∀ c ∈ codigos', c ∈ auditReasonCodes := fun c hc => hcodes c (h.mem_iff.mpr hc)
  have hnone {codigos : List String} (hcodes : ∀ c ∈ codigos, c ∈ auditReasonCodes) :
      codigos.find? (fun c => !auditReasonCodes.contains c) = none := by
    rw [List.find?_eq_none]
    intro c hc
    simp [hcodes c hc]
  have hsorted := insertionSort_eq_of_perm h.dedup
  unfold canonicalAuditReasonCodes
  rw [hnone hcodes, hnone hcodes', hsorted, h.isEmpty_eq]

/-- The order of the reasons has no effect. -/
theorem issue_eq_of_perm {principalRef auditorExecutionRef : String} {scheduleId attemptId : Uuid}
    {opinion : AuditOpinionKind} {reasonCodes reasonCodes' : List String} {opinionId : Uuid}
    (hcodes : ∀ c ∈ reasonCodes, c ∈ auditReasonCodes) (h : reasonCodes.Perm reasonCodes') :
    issue principalRef scheduleId attemptId opinion reasonCodes auditorExecutionRef opinionId =
      issue principalRef scheduleId attemptId opinion reasonCodes' auditorExecutionRef
        opinionId := by
  have hadmitted : admittedReasons opinion reasonCodes = admittedReasons opinion reasonCodes' := by
    unfold admittedReasons
    rw [canonicalAuditReasonCodes_eq_of_perm hcodes h]
  unfold issue
  rw [hadmitted]

end AuditService

/-- A grant depends on the instant only. -/
theorem DelegationService.grant_eq_of_instant [Runtime] {principalRef : String}
    {scheduleId stepId : Uuid} {t u : DateTime} {delegationId : Uuid}
    (h : t.instant = u.instant) : DelegationService.grant principalRef scheduleId stepId t
      delegationId = DelegationService.grant principalRef scheduleId stepId u delegationId := by
  unfold DelegationService.grant
  rw [h]

/-! ## What fingerprints tell apart -/

/-- Without a collision, fingerprints of one operation are the same exactly when the arguments
are, up to the order of the reasons of an opinion, which has no effect. The router and the service
compute one fingerprint for one export. -/
theorem request_fingerprints [Runtime] :
    (∀ {operation : CommandOperation} (a b : Argumentos operation),
      SemColisao (a.textos ++ b.textos) → (a.impressao = b.impressao ↔ a.Equivale b)) ∧
    (∀ (principalRef : String) (scheduleId attemptId opinionId : Uuid) (opinion : AuditOpinionKind)
      (reasonCodes reasonCodes' : List String) (auditorExecutionRef : String),
      (∀ c ∈ reasonCodes, c ∈ AuditService.auditReasonCodes) → reasonCodes.Perm reasonCodes' →
      AuditService.issue principalRef scheduleId attemptId opinion reasonCodes auditorExecutionRef
          opinionId =
        AuditService.issue principalRef scheduleId attemptId opinion reasonCodes'
          auditorExecutionRef opinionId) ∧
    ∀ (scheduleId stepId : UuidValido) (principalRef : String),
      impressaoDeExport scheduleId.val stepId.val principalRef =
        (Argumentos.exportHandoff scheduleId stepId principalRef).impressao := by
  refine ⟨fun a b hcolisao => ⟨fun h => ?_, Argumentos.impressao_of_equivale⟩, ?_, fun _ _ _ => rfl⟩
  · exact Argumentos.equivale_of_valores hcolisao (Argumentos.valores_of_impressao hcolisao h)
  · intro _ _ _ _ _ _ _ _ hcodes hperm
    exact AuditService.issue_eq_of_perm hcodes hperm

namespace Sample

/-- The identifiers of the requests below. -/
def obra : UuidValido := ⟨⟨1⟩, by norm_num [Uuid.Valido]⟩

def etapa : UuidValido := ⟨⟨5⟩, by norm_num [Uuid.Valido]⟩

/-- An opinion for these reasons. -/
def parecer (reasonCodes : List String) : Argumentos .issueAuditOpinion :=
  .issueAuditOpinion obra etapa .dissent reasonCodes "auditor"

/-- Midnight, and the same instant three hours to the west. -/
def meiaNoite : { t : DateTime // t.Valido } :=
  ⟨⟨2030, 1, 1, 0, 0, 0, 0, some 0⟩, by constructor <;> decide⟩

def noveDaNoite : { t : DateTime // t.Valido } :=
  ⟨⟨2029, 12, 31, 21, 0, 0, 0, some (-10800)⟩, by constructor <;> decide⟩

/-- The creation of one work for a principal, and the principal that it is created for. -/
def obraDe (principalRef : String) : Request :=
  .createScheduleOnce ⟨principalRef, "a"⟩ oneStep .manualHandoff

def principalDaObra (principalRef : String) : Option (Option String) :=
  (Orchestration.start.trace orchestration (alone 0 (obraDe principalRef) 0 1 8)).map fun s =>
    (s.store.schedules.lookup ⟨1⟩).map Schedule.controlPrincipalRef

end Sample

open Sample

/-- Two reasons, in either order. -/
theorem request_fingerprints_reasons :
    (parecer ["evidence_missing", "contract_nonconformity"]).impressao =
      (parecer ["contract_nonconformity", "evidence_missing"]).impressao ∧
    AuditService.issue "p" ⟨1⟩ ⟨5⟩ .dissent ["evidence_missing", "contract_nonconformity"]
        "auditor" ⟨9⟩ =
      AuditService.issue "p" ⟨1⟩ ⟨5⟩ .dissent ["contract_nonconformity", "evidence_missing"]
        "auditor" ⟨9⟩ := by
  have hperm : ["evidence_missing", "contract_nonconformity"].Perm
      ["contract_nonconformity", "evidence_missing"] := .swap _ _ _
  obtain ⟨himpressao, heffect, -⟩ := request_fingerprints
  refine ⟨(himpressao _ _ ?_).mpr (.motivos hperm), heffect _ _ _ _ _ _ _ _ (by decide) hperm⟩
  intro s hs t ht _
  -- one text is hashed for both
  simp only [parecer, Argumentos.textos, Argumentos.payload, insertionSort_eq_of_perm hperm,
    List.mem_append, List.mem_singleton, or_self] at hs ht
  rw [hs, ht]

/-- One instant that is written in two ways has one effect and two fingerprints; two principals
have one fingerprint and two effects. -/
theorem request_fingerprints_by_effect :
    ((∀ principalRef delegationId,
        DelegationService.grant principalRef ⟨1⟩ ⟨5⟩ meiaNoite.val delegationId =
          DelegationService.grant principalRef ⟨1⟩ ⟨5⟩ noveDaNoite.val delegationId) ∧
      (Argumentos.grantDelegation obra etapa meiaNoite).impressao ≠
        (Argumentos.grantDelegation obra etapa noveDaNoite).impressao) ∧
    (obraDe "p").command.map Prod.snd = (obraDe "q").command.map Prod.snd ∧
    principalDaObra "p" = some (some "p") ∧ principalDaObra "q" = some (some "q") := by
  refine ⟨⟨fun _ _ => DelegationService.grant_eq_of_instant (by decide), ?_⟩, rfl, ?_⟩
  · decide +kernel
  · decide +kernel

end PiaOs
