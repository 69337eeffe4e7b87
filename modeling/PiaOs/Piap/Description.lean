import PiaOs.Piap.CodecLaws

/-!
# What a value describes

For each section of an envelope, which JSON values are read as it. Nothing here mentions the
order of the reading.
-/

namespace PiaOs.Piap

open Support Memory

/-! ## Single values -/

/-- The value under a name. -/
def Valor.em (chave : String) : Valor → Valor
  | .objeto dados => campo dados chave
  | _ => .nulo

/-- The value is an object with these names and no others. -/
def Objeto (esperadas : List String) (bruto : Valor) : Prop :=
  ∃ dados, bruto = .objeto dados ∧
    ∀ chave, chave ∈ dados.map (·.1) ↔ chave ∈ esperadas.map Texto.of

def EmTexto (bruto : Valor) (t : Texto) : Prop := bruto = .texto t

/-- A value, or `null`. -/
def Opcional {α : Type} (r : Valor → α → Prop) (bruto : Valor) : Option α → Prop
  | none => bruto = .nulo
  | some a => bruto ≠ .nulo ∧ r bruto a

/-- The text of an instant, and what `fromisoformat` makes of it. -/
structure Instantaneo (m : Interprete) (bruto : Valor) (lido : Momento) : Prop where
  texto : ∃ t, bruto = .texto t ∧ t.getLast? = some (.char 'Z') ∧
    m.fromisoformat (emDeslocamento t) = some lido

def InstanteDe (m : Interprete) (bruto : Valor) (i : Instante) : Prop :=
  ∃ lido, Instantaneo m bruto lido ∧ m.astimezone lido = some i

theorem chavesExatas_eq_ok {nome : String} {esperadas : List String} {bruto : Valor}
    {dados : List (Texto × Valor)} :
    chavesExatas nome esperadas bruto = .ok dados ↔
      bruto = .objeto dados ∧ Objeto esperadas bruto := by
  cases bruto with
  | objeto campos =>
    have hkeys : (((esperadas.map Texto.of).filter (· ∉ campos.map (·.1))) = [] ∧
        ((campos.map (·.1)).filter (· ∉ esperadas.map Texto.of)) = []) ↔
          Objeto esperadas (.objeto campos) := by
      rw [List.filter_eq_nil_iff, List.filter_eq_nil_iff]
      simp only [decide_eq_true_eq, not_not]
      constructor
      · rintro ⟨hmissing, hextra⟩
        exact ⟨campos, rfl, fun chave => ⟨hextra chave, hmissing chave⟩⟩
      · rintro ⟨dados, hdados, hsame⟩
        obtain rfl := Valor.objeto.inj hdados
        exact ⟨fun chave => (hsame chave).mpr, fun chave => (hsame chave).mp⟩
    unfold chavesExatas
    by_cases hexact : Objeto esperadas (.objeto campos)
    · have hif := hkeys.mpr hexact
      simp only [if_pos hif]
      constructor
      · intro h
        obtain rfl := Except.ok.inj h
        exact ⟨rfl, hexact⟩
      · rintro ⟨h, -⟩
        rw [Valor.objeto.inj h]
    · have hif := mt hkeys.mp hexact
      simp only [if_neg hif]
      constructor
      · intro h
        cases h
      · rintro ⟨-, h⟩
        exact absurd h hexact
  | _ =>
    constructor
    · intro h
      cases h
    · rintro ⟨h, -⟩
      cases h

theorem texto_eq_ok {nome : String} {bruto : Valor} {t : Texto} :
    texto nome bruto = .ok t ↔ bruto = .texto t := by
  cases bruto <;> simp [texto, quebrar]

theorem inteiro_eq_ok {nome : String} {bruto : Valor} {n : ℤ} :
    inteiro nome bruto = .ok n ↔ bruto = .inteiro n := by
  cases bruto <;> simp [inteiro, quebrar]

theorem versaoPiap_eq_ok {nome : String} (campo : String) {bruto : Valor} {n : ℤ} :
    versaoPiap nome bruto = .ok n ↔
      bruto = .inteiro n ∧ validarInteiroPositivo campo n = none := by
  constructor
  · intro h
    unfold versaoPiap at h
    obtain ⟨lido, hlido, h⟩ := bind_eq_ok.mp h
    by_cases hlow : lido < 1
    · rw [if_pos hlow] at h
      cases h
    · rw [if_neg hlow] at h
      by_cases hhigh : maxPiapVersionNumber < lido
      · rw [if_pos hhigh] at h
        cases h
      · rw [if_neg hhigh] at h
        obtain rfl := Except.ok.inj h
        refine ⟨inteiro_eq_ok.mp hlido, ?_⟩
        unfold validarInteiroPositivo
        simp [hlow, hhigh]
  · rintro ⟨rfl, h⟩
    exact versaoPiap_inteiro h

/-- Only the canonical text of a UUID is read. -/
theorem uuid_eq_ok {nome : String} {bruto : Valor} {ref : Referencia} :
    uuid nome bruto = .ok ref ↔ bruto = .texto (Texto.of ref.str) := by
  constructor
  · intro h
    unfold uuid at h
    obtain ⟨t, ht, h⟩ := bind_eq_ok.mp h
    rw [texto_eq_ok.mp ht]
    cases hread : uuidCanonico? t with
    | none =>
      rw [hread] at h
      cases h
    | some lida =>
      rw [hread] at h
      obtain rfl := Except.ok.inj h
      unfold uuidCanonico? at hread
      obtain ⟨n, -, hread⟩ := Option.bind_eq_some_iff.mp hread
      by_cases hbound : n < 2 ^ 128
      case neg =>
        simp only [dif_neg hbound] at hread
        cases hread
      simp only [dif_pos hbound, Option.bind_eq_bind, Option.bind_some] at hread
      by_cases hsame : Texto.of (Referencia.str ⟨n, hbound⟩) = t
      · rw [if_pos hsame] at hread
        rw [← Option.some.inj hread, hsame]
      · rw [if_neg hsame] at hread
        cases hread
  · rintro rfl
    exact uuid_ofString nome ref

theorem membro_eq_ok {α : Type} {nome : String} {membros : List α} {value : α → String}
    {bruto : Valor} {a : α} (hinjective : ∀ a b, value a = value b → a = b)
    (hall : ∀ a, a ∈ membros) :
    membro nome membros value bruto = .ok a ↔ bruto = .texto (Texto.of (value a)) := by
  constructor
  · intro h
    unfold membro at h
    obtain ⟨t, ht, h⟩ := bind_eq_ok.mp h
    cases hfind : membros.find? fun m => Texto.of (value m) = t with
    | none =>
      simp only [hfind] at h
      cases h
    | some lido =>
      simp only [hfind] at h
      obtain rfl := Except.ok.inj h
      have hsame : Texto.of (value lido) = t := by simpa using List.find?_some hfind
      rw [hsame]
      exact texto_eq_ok.mp ht
  · rintro rfl
    exact membro_value nome (fun b _ h => hinjective b a h) (hall a)

theorem opcional_eq_ok {α : Type} {ler : Valor → Leitura α} {r : Valor → α → Prop}
    {bruto : Valor} {a : Option α} (h : ∀ b, ler bruto = .ok b ↔ r bruto b) :
    opcional ler bruto = .ok a ↔ Opcional r bruto a := by
  by_cases hnull : bruto = .nulo
  · subst hnull
    cases a <;> simp [opcional, Opcional]
  · have hread : opcional ler bruto = some <$> ler bruto := by
      unfold opcional
      split
      · exact absurd rfl hnull
      · rfl
    rw [hread]
    constructor
    · intro hok
      cases hler : ler bruto with
      | error e =>
        rw [hler] at hok
        cases hok
      | ok b =>
        rw [hler] at hok
        obtain rfl := Except.ok.inj hok
        exact ⟨hnull, (h b).mp hler⟩
    · intro hok
      cases a with
      | none => exact absurd hok hnull
      | some b =>
        rw [(h b).mpr hok.2]
        rfl

theorem opcional_texto_eq_ok {nome : String} {bruto : Valor} {a : Option Texto} :
    opcional (texto nome) bruto = .ok a ↔ Opcional EmTexto bruto a :=
  opcional_eq_ok fun _ => texto_eq_ok

theorem listaAte_eq_ok {nome : String} {limite : ℕ} {bruto : Valor} {itens : List Valor} :
    listaAte nome limite bruto = .ok itens ↔ bruto = .lista itens ∧ itens.length ≤ limite := by
  cases bruto with
  | lista lidos =>
    unfold listaAte
    by_cases hlong : limite < lidos.length
    · simp only [if_pos hlong]
      constructor
      · intro h
        cases h
      · rintro ⟨h, hshort⟩
        obtain rfl := Valor.lista.inj h
        omega
    · simp only [if_neg hlong]
      constructor
      · intro h
        obtain rfl := Except.ok.inj h
        exact ⟨rfl, not_lt.mp hlong⟩
      · rintro ⟨h, -⟩
        rw [Valor.lista.inj h]
  | _ =>
    constructor
    · intro h
      cases h
    · rintro ⟨h, -⟩
      cases h

theorem timedelta_eq_ok {nome : String} {n : ℤ} {t : Timedelta} :
    timedeltaDeMicrossegundos nome n = .ok t ↔ n = t.total := by
  unfold timedeltaDeMicrossegundos
  constructor
  · intro h
    cases hread : Timedelta.deMicrossegundos n with
    | none =>
      rw [hread] at h
      cases h
    | some lido =>
      rw [hread] at h
      obtain rfl := Except.ok.inj h
      exact (Timedelta.total_of_deMicrossegundos hread).symm
  · rintro rfl
    rw [Timedelta.deMicrossegundos_total]

/-- An instant is read, or its text is none, or the clock does not convert it. -/
theorem instanteDeJson_cases (m : Interprete) (nome : String) (bruto : Valor) :
    (∃ lido i, Instantaneo m bruto lido ∧ m.astimezone lido = some i ∧
        instanteDeJson m nome bruto = .ok i) ∨
      (∃ lido, Instantaneo m bruto lido ∧ m.astimezone lido = none ∧
        instanteDeJson m nome bruto = .error (.relogio nome)) ∨
      ((∀ lido, ¬Instantaneo m bruto lido) ∧ ∃ q, instanteDeJson m nome bruto = quebrar q) := by
  cases bruto with
  | texto t =>
    have hsame (lido : Momento) (h : Instantaneo m (.texto t) lido) :
        t.getLast? = some (.char 'Z') ∧ m.fromisoformat (emDeslocamento t) = some lido := by
      obtain ⟨s, hs, hlast, hread⟩ := h.texto
      obtain rfl := Valor.texto.inj hs
      exact ⟨hlast, hread⟩
    unfold instanteDeJson
    by_cases hlast : t.getLast? = some (.char 'Z')
    case neg =>
      simp only [if_neg hlast]
      exact .inr (.inr ⟨fun lido h => hlast (hsame lido h).1, _, rfl⟩)
    simp only [if_pos hlast]
    cases hread : m.fromisoformat (emDeslocamento t) with
    | none =>
      refine .inr (.inr ⟨fun lido h => ?_, _, rfl⟩)
      have hsome := (hsame lido h).2
      rw [hread] at hsome
      cases hsome
    | some lido =>
      have hinst : Instantaneo m (.texto t) lido := ⟨t, rfl, hlast, hread⟩
      cases hclock : m.astimezone lido with
      | none => exact .inr (.inl ⟨lido, hinst, hclock, by simp only [hclock]⟩)
      | some i => exact .inl ⟨lido, i, hinst, hclock, by simp only [hclock]⟩
  | _ =>
    refine .inr (.inr ⟨fun lido h => ?_, _, rfl⟩)
    obtain ⟨s, hs, -⟩ := h.texto
    cases hs

theorem instantaneo_unico {m : Interprete} {bruto : Valor} {a b : Momento}
    (ha : Instantaneo m bruto a) (hb : Instantaneo m bruto b) : a = b := by
  obtain ⟨s, rfl, -, hs⟩ := ha.texto
  obtain ⟨t, ht, -, hread⟩ := hb.texto
  obtain rfl := Valor.texto.inj ht
  exact Option.some.inj (hs.symm.trans hread)

theorem instanteDeJson_eq_ok {m : Interprete} {nome : String} {bruto : Valor} {i : Instante} :
    instanteDeJson m nome bruto = .ok i ↔ InstanteDe m bruto i := by
  rcases instanteDeJson_cases m nome bruto with
    ⟨lido, j, hinst, hclock, hread⟩ | ⟨lido, hinst, hclock, hread⟩ | ⟨hnone, q, hread⟩
  · rw [hread]
    constructor
    · intro h
      obtain rfl := Except.ok.inj h
      exact ⟨lido, hinst, hclock⟩
    · rintro ⟨outro, houtro, hsome⟩
      obtain rfl := instantaneo_unico hinst houtro
      rw [Option.some.inj (hclock.symm.trans hsome)]
  · rw [hread]
    constructor
    · intro h
      cases h
    · rintro ⟨outro, houtro, hsome⟩
      obtain rfl := instantaneo_unico hinst houtro
      cases hclock.symm.trans hsome
  · rw [hread]
    constructor
    · intro h
      cases h
    · rintro ⟨outro, houtro, -⟩
      exact absurd houtro (hnone outro)

/-! ## Sections -/

def chavesDaFonte : List String := ["content_sha256", "kind", "ref", "source_version"]

/-- The fields of a source, and the token in its grammar. -/
structure FonteEscrita (bruto : Valor) (kind : Texto) (ref : Referencia) (sourceVersion : ℤ)
    (contentSha256 : Option Texto) : Prop where
  chaves : Objeto chavesDaFonte bruto
  token : validarToken "ProvenanceKind.value" kind = none
  faixa : validarInteiroPositivo "source_version" sourceVersion = none
  kind : bruto.em "kind" = .texto kind
  ref : bruto.em "ref" = .texto (Texto.of ref.str)
  sourceVersion : bruto.em "source_version" = .inteiro sourceVersion
  contentSha256 : Opcional EmTexto (bruto.em "content_sha256") contentSha256

def FonteDe (bruto : Valor) (r : SourceReference) : Prop :=
  FonteEscrita bruto r.kind r.ref r.sourceVersion r.contentSha256

theorem montar_eq_ok_iff {α : Type} {violacao : Option Violacao} {build : violacao = none → α}
    {a : α} : montar violacao build = .ok a ↔ ∃ h : violacao = none, build h = a := by
  constructor
  · intro h
    unfold montar at h
    obtain ⟨hnone, rfl⟩ := of_construir (mapError_eq_ok.mp h)
    exact ⟨hnone, rfl⟩
  · rintro ⟨h, rfl⟩
    exact montar_eq_ok h

theorem sourceReferenceDeJson_eq_ok {nome : String} {bruto : Valor} {r : SourceReference} :
    sourceReferenceDeJson nome bruto = .ok r ↔ FonteDe bruto r := by
  unfold sourceReferenceDeJson
  simp only [bind_eq_ok, chavesExatas_eq_ok, texto_eq_ok, montar_eq_ok_iff, uuid_eq_ok,
    versaoPiap_eq_ok "source_version", opcional_texto_eq_ok]
  constructor
  · rintro ⟨dados, ⟨rfl, hchaves⟩, kind, hkind, -, ⟨htoken, -⟩, ref, href, version,
      ⟨hversion, hfaixa⟩, sha, hsha, -, rfl⟩
    exact ⟨hchaves, htoken, hfaixa, hkind, href, hversion, hsha⟩
  · intro h
    obtain ⟨dados, rfl, hkeys⟩ := h.chaves
    exact ⟨dados, ⟨rfl, h.chaves⟩, r.kind, h.kind, (), ⟨h.token, trivial⟩, r.ref, h.ref,
      r.sourceVersion, ⟨h.sourceVersion, h.faixa⟩, r.contentSha256, h.contentSha256, r.valido, rfl⟩

def chavesDaAprovacao : List String :=
  ["approval_expiry", "approval_jurisdiction", "approval_reference", "approval_scope",
    "approval_version", "bound_to"]

/-- The fields of an approval up to its expiry. -/
structure AprovacaoIniciada (bruto : Valor) (approvalReference : Texto) (approvalVersion : ℤ)
    (approvalScope : List Texto) : Prop where
  chaves : Objeto chavesDaAprovacao bruto
  vinculo : Objeto ["kind", "ref"] (bruto.em "bound_to")
  tamanho : approvalScope.length ≤ maxApprovalScopeItems
  faixa : validarInteiroPositivo "approval_version" approvalVersion = none
  approvalScope : bruto.em "approval_scope" = .lista (approvalScope.map .texto)
  approvalReference : bruto.em "approval_reference" = .texto approvalReference
  approvalVersion : bruto.em "approval_version" = .inteiro approvalVersion

structure AprovacaoEscrita (m : Interprete) (bruto : Valor) (c : CamposDaAprovacao) : Prop extends
    AprovacaoIniciada bruto c.approvalReference c.approvalVersion c.approvalScope where
  approvalExpiry : Opcional (InstanteDe m) (bruto.em "approval_expiry") c.approvalExpiry
  approvalJurisdiction :
    Opcional EmTexto (bruto.em "approval_jurisdiction") c.approvalJurisdiction
  kind : (bruto.em "bound_to").em "kind" = .texto (Texto.of c.boundTo.kind.value)
  ref : (bruto.em "bound_to").em "ref" = .texto (Texto.of c.boundTo.ref.str)

/-- The fields that an approval was built from. -/
def ApprovalBinding.campos (a : ApprovalBinding) : CamposDaAprovacao :=
  { approvalReference := a.approvalReference
    approvalVersion := a.approvalVersion
    approvalScope := a.approvalScope
    approvalExpiry := a.approvalExpiry
    approvalJurisdiction := a.approvalJurisdiction
    boundTo := a.boundTo }

def AprovacaoDe (m : Interprete) (bruto : Valor) (a : ApprovalBinding) : Prop :=
  AprovacaoEscrita m bruto a.campos

/-- A list of texts, whatever the names of its positions. -/
theorem textos_eq_ok {nome : ℕ → String} {itens : List Valor} {ts : List Texto} :
    itens.zipIdx.mapM (fun item => texto (nome item.2) item.1) = .ok ts ↔
      itens = ts.map .texto := by
  have hfrom : ∀ k, (itens.zipIdx k).mapM (fun item => texto (nome item.2) item.1) = .ok ts ↔
      itens = ts.map .texto := by
    induction itens generalizing ts with
    | nil =>
      intro k
      rw [mapM_eq_ok, List.zipIdx_nil, List.forall₂_nil_left_iff]
      cases ts <;> simp
    | cons item itens ih =>
      intro k
      rw [mapM_eq_ok, List.zipIdx_cons]
      cases ts with
      | nil => simp
      | cons t ts =>
        rw [List.forall₂_cons, texto_eq_ok, ← mapM_eq_ok, ih, List.map_cons, List.cons.injEq]
  exact hfrom 0

theorem opcional_instante_eq_ok {m : Interprete} {nome : String} {bruto : Valor}
    {a : Option Instante} :
    opcional (instanteDeJson m nome) bruto = .ok a ↔ Opcional (InstanteDe m) bruto a :=
  opcional_eq_ok fun _ => instanteDeJson_eq_ok

theorem boundObjectKind_eq_ok {nome : String} {bruto : Valor} {a : BoundObjectKind} :
    membro nome [.proposedBound, .promotionCandidate] BoundObjectKind.value bruto = .ok a ↔
      bruto = .texto (Texto.of a.value) :=
  membro_eq_ok boundObjectKind_injective fun a => by cases a <;> decide

theorem authorityStatus_eq_ok {nome : String} {bruto : Valor} {a : AuthorityStatus} :
    membro nome [.assertedAuthorized, .assertedNotAuthorized, .unknown] AuthorityStatus.value
        bruto = .ok a ↔ bruto = .texto (Texto.of a.value) :=
  membro_eq_ok authorityStatus_injective fun a => by cases a <;> decide

theorem temporalAvailability_eq_ok {nome : String} {bruto : Valor} {a : TemporalAvailability} :
    membro nome [.availableAtReferenceTime, .unavailableAtReferenceTime, .unknown]
        TemporalAvailability.value bruto = .ok a ↔ bruto = .texto (Texto.of a.value) :=
  membro_eq_ok temporalAvailability_injective fun a => by cases a <;> decide

theorem camposDaAprovacao_eq_ok {m : Interprete} {bruto : Valor} {c : CamposDaAprovacao} :
    camposDaAprovacao m bruto = .ok c ↔ AprovacaoEscrita m bruto c := by
  unfold camposDaAprovacao
  simp only [bind_eq_ok, chavesExatas_eq_ok, listaAte_eq_ok, texto_eq_ok, uuid_eq_ok, textos_eq_ok,
    versaoPiap_eq_ok "approval_version", opcional_texto_eq_ok, opcional_instante_eq_ok,
    boundObjectKind_eq_ok]
  constructor
  · rintro ⟨campos, ⟨rfl, hchaves⟩, vinculo, ⟨hbound, hvinculo⟩, escopo, ⟨hescopo, hlength⟩,
      reference, hreference, version, ⟨hversion, hfaixa⟩, scope, rfl, expiry, hexpiry, jurisdiction,
      hjurisdiction, kind, hkind, ref, href, h⟩
    obtain rfl := Except.ok.inj h
    have hem : (Valor.objeto campos).em "bound_to" = .objeto vinculo := hbound
    refine ⟨⟨hchaves, ?_, by simpa using hlength, hfaixa, hescopo, hreference, hversion⟩, hexpiry,
      hjurisdiction, ?_, ?_⟩
    · rw [hem]
      rw [hbound] at hvinculo
      exact hvinculo
    · rw [hem]
      exact hkind
    · rw [hem]
      exact href
  · intro h
    obtain ⟨campos, rfl, hkeys⟩ := h.chaves
    obtain ⟨vinculo, hbound, -⟩ := h.vinculo
    have hem : campo campos "bound_to" = .objeto vinculo := hbound
    have hkind := h.kind
    have href := h.ref
    rw [hbound] at hkind href
    exact ⟨campos, ⟨rfl, h.chaves⟩, vinculo, ⟨hem, h.vinculo⟩, _,
      ⟨h.approvalScope, by simpa using h.tamanho⟩, _, h.approvalReference, _,
      ⟨h.approvalVersion, h.faixa⟩, c.approvalScope, rfl, _, h.approvalExpiry, _,
      h.approvalJurisdiction, _, hkind, _, href, rfl⟩

theorem aprovacao_eq_ok {m : Interprete} {bruto : Valor} {a : ApprovalBinding} :
    (do let campos ← camposDaAprovacao m bruto; campos.montar) = .ok a ↔
      AprovacaoDe m bruto a := by
  rw [bind_eq_ok]
  constructor
  · rintro ⟨c, hc, h⟩
    unfold CamposDaAprovacao.montar at h
    obtain ⟨hnone, rfl⟩ := montar_eq_ok_iff.mp h
    exact camposDaAprovacao_eq_ok.mp hc
  · intro h
    exact ⟨a.campos, camposDaAprovacao_eq_ok.mpr h, montar_eq_ok a.valido⟩

theorem opcional_aprovacao_eq_ok {m : Interprete} {bruto : Valor} {a : Option ApprovalBinding} :
    opcional (fun valor => do let campos ← camposDaAprovacao m valor; campos.montar) bruto = .ok a ↔
      Opcional (AprovacaoDe m) bruto a :=
  opcional_eq_ok fun _ => aprovacao_eq_ok

structure AutoridadeEscrita (m : Interprete) (bruto : Valor) (status : AuthorityStatus)
    (approval : Option ApprovalBinding) : Prop where
  chaves : Objeto ["approval", "status"] bruto
  approval : Opcional (AprovacaoDe m) (bruto.em "approval") approval
  status : bruto.em "status" = .texto (Texto.of status.value)

def AutoridadeDe (m : Interprete) (bruto : Valor) (a : AuthorityContext) : Prop :=
  AutoridadeEscrita m bruto a.status a.approval

theorem authorityDeJson_eq_ok {m : Interprete} {bruto : Valor} {a : AuthorityContext} :
    authorityDeJson m bruto = .ok a ↔ AutoridadeDe m bruto a := by
  unfold authorityDeJson
  simp only [bind_eq_ok, chavesExatas_eq_ok, opcional_aprovacao_eq_ok, authorityStatus_eq_ok,
    montar_eq_ok_iff]
  constructor
  · rintro ⟨dados, ⟨rfl, hchaves⟩, approval, happroval, status, hstatus, -, rfl⟩
    exact ⟨hchaves, happroval, hstatus⟩
  · intro h
    obtain ⟨dados, rfl, hkeys⟩ := h.chaves
    exact ⟨dados, ⟨rfl, h.chaves⟩, _, h.approval, _, h.status, a.valido, rfl⟩

structure ProvenienciaEscrita (m : Interprete) (bruto : Valor) (origin : SourceReference)
    (recordedAt : Instante) (jurisdiction policyRef : Option Texto) : Prop where
  chaves : Objeto ["jurisdiction", "origin", "policy_ref", "recorded_at"] bruto
  origin : FonteDe (bruto.em "origin") origin
  recordedAt : InstanteDe m (bruto.em "recorded_at") recordedAt
  jurisdiction : Opcional EmTexto (bruto.em "jurisdiction") jurisdiction
  policyRef : Opcional EmTexto (bruto.em "policy_ref") policyRef

def ProvenienciaDe (m : Interprete) (bruto : Valor) (p : ProvenanceRecord) : Prop :=
  ProvenienciaEscrita m bruto p.origin p.recordedAt p.jurisdiction p.policyRef

theorem provenanceDeJson_eq_ok {m : Interprete} {bruto : Valor} {p : ProvenanceRecord} :
    provenanceDeJson m bruto = .ok p ↔ ProvenienciaDe m bruto p := by
  unfold provenanceDeJson
  simp only [bind_eq_ok, chavesExatas_eq_ok, sourceReferenceDeJson_eq_ok, instanteDeJson_eq_ok,
    opcional_texto_eq_ok, montar_eq_ok_iff]
  constructor
  · rintro ⟨dados, ⟨rfl, hchaves⟩, origin, horigin, recordedAt, hrecorded, jurisdiction,
      hjurisdiction, policyRef, hpolicy, -, rfl⟩
    exact ⟨hchaves, horigin, hrecorded, hjurisdiction, hpolicy⟩
  · intro h
    obtain ⟨dados, rfl, hkeys⟩ := h.chaves
    exact ⟨dados, ⟨rfl, h.chaves⟩, _, h.origin, _, h.recordedAt, _, h.jurisdiction, _, h.policyRef,
      p.valido, rfl⟩

structure HorizonteEscrito (m : Interprete) (bruto : Valor) (delta : Timedelta)
    (referenceTime : Instante) (availability : TemporalAvailability) : Prop where
  chaves : Objeto ["availability", "delta_microseconds", "reference_time"] bruto
  delta : bruto.em "delta_microseconds" = .inteiro delta.total
  referenceTime : InstanteDe m (bruto.em "reference_time") referenceTime
  availability : bruto.em "availability" = .texto (Texto.of availability.value)

def HorizonteDe (m : Interprete) (bruto : Valor) (h : Horizon) : Prop :=
  HorizonteEscrito m bruto h.delta h.referenceTime h.availability

theorem horizonDeJson_eq_ok {m : Interprete} {bruto : Valor} {h : Horizon} :
    horizonDeJson m bruto = .ok h ↔ HorizonteDe m bruto h := by
  unfold horizonDeJson
  simp only [bind_eq_ok, chavesExatas_eq_ok, inteiro_eq_ok, timedelta_eq_ok, instanteDeJson_eq_ok,
    temporalAvailability_eq_ok, montar_eq_ok_iff]
  constructor
  · rintro ⟨dados, ⟨rfl, hchaves⟩, micros, hmicros, delta, rfl, reference, hreference,
      availability, havailability, -, rfl⟩
    exact ⟨hchaves, hmicros, hreference, havailability⟩
  · intro h'
    obtain ⟨dados, rfl, hkeys⟩ := h'.chaves
    exact ⟨dados, ⟨rfl, h'.chaves⟩, _, h'.delta, _, rfl, _, h'.referenceTime, _, h'.availability,
      h.valido, rfl⟩

structure AssuntoEscrito (m : Interprete) (bruto : Valor) (target signal : Texto)
    (horizon : Horizon) : Prop where
  chaves : Objeto ["horizon", "signal", "target"] bruto
  horizon : HorizonteDe m (bruto.em "horizon") horizon
  target : bruto.em "target" = .texto target
  signal : bruto.em "signal" = .texto signal

def AssuntoDe (m : Interprete) (bruto : Valor) (s : ClaimSubject) : Prop :=
  AssuntoEscrito m bruto s.target s.signal s.horizon

theorem subjectDeJson_eq_ok {m : Interprete} {bruto : Valor} {s : ClaimSubject} :
    subjectDeJson m bruto = .ok s ↔ AssuntoDe m bruto s := by
  unfold subjectDeJson
  simp only [bind_eq_ok, chavesExatas_eq_ok, horizonDeJson_eq_ok, texto_eq_ok, montar_eq_ok_iff]
  constructor
  · rintro ⟨dados, ⟨rfl, hchaves⟩, horizon, hhorizon, target, htarget, signal, hsignal, -, rfl⟩
    exact ⟨hchaves, hhorizon, htarget, hsignal⟩
  · intro h
    obtain ⟨dados, rfl, hkeys⟩ := h.chaves
    exact ⟨dados, ⟨rfl, h.chaves⟩, _, h.horizon, _, h.target, _, h.signal, s.valido, rfl⟩

/-- A list of references within its limit. -/
structure ReferenciasDe (bruto : Valor) (refs : List SourceReference) : Prop where
  itens : ∃ itens, bruto = .lista itens ∧ List.Forall₂ FonteDe itens refs
  tamanho : refs.length ≤ maxPayloadReferences

theorem fontes_eq_ok {nome : ℕ → String} {itens : List Valor} {refs : List SourceReference} :
    itens.zipIdx.mapM (fun item => sourceReferenceDeJson (nome item.2) item.1) = .ok refs ↔
      List.Forall₂ FonteDe itens refs := by
  have hfrom : ∀ k, (itens.zipIdx k).mapM
      (fun item => sourceReferenceDeJson (nome item.2) item.1) = .ok refs ↔
        List.Forall₂ FonteDe itens refs := by
    induction itens generalizing refs with
    | nil =>
      intro k
      rw [mapM_eq_ok, List.zipIdx_nil, List.forall₂_nil_left_iff, List.forall₂_nil_left_iff]
    | cons item itens ih =>
      intro k
      rw [mapM_eq_ok, List.zipIdx_cons]
      cases refs with
      | nil => simp
      | cons r refs =>
        rw [List.forall₂_cons, List.forall₂_cons, sourceReferenceDeJson_eq_ok, ← mapM_eq_ok, ih]
  exact hfrom 0

theorem payloadRefsDeJson_eq_ok {bruto : Valor} {refs : List SourceReference} :
    payloadRefsDeJson bruto = .ok refs ↔ ReferenciasDe bruto refs := by
  unfold payloadRefsDeJson
  simp only [bind_eq_ok, listaAte_eq_ok, fontes_eq_ok]
  constructor
  · rintro ⟨itens, ⟨hitens, hlength⟩, hall⟩
    exact ⟨⟨itens, hitens, hall⟩, hall.length_eq ▸ hlength⟩
  · rintro ⟨⟨itens, hitens, hall⟩, hlength⟩
    exact ⟨itens, ⟨hitens, hall.length_eq ▸ hlength⟩, hall⟩

theorem versaoDoContrato_eq_ok {bruto : Valor} {v : PiapContractVersion} :
    versaoDoContrato bruto = .ok v ↔ bruto = .texto (Texto.of v.value) := by
  unfold versaoDoContrato
  rw [bind_eq_ok]
  cases v
  constructor
  · rintro ⟨t, ht, h⟩
    by_cases hv : t = Texto.of PiapContractVersion.v1_0.value
    · rw [texto_eq_ok.mp ht, hv]
    · rw [if_neg hv] at h
      cases h
  · rintro rfl
    exact ⟨_, rfl, if_pos rfl⟩

end PiaOs.Piap
