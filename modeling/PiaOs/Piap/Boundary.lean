import PiaOs.Piap.Description
import PiaOs.Piap.RoundTrip

/-!
# What leaves the boundary

The boundary answers with its own two errors, unless the reading meets one of a few raw
exceptions first: the recursion of the parser, the clock of the machine, or a constructor.
-/

namespace PiaOs.Piap

open Support Memory

/-- `PiapContractViolationError` or `PiapUnsupportedVersionError`. -/
def ErroPiap.Tipado : ErroPiap → Prop
  | .contrato _ | .versao _ => True
  | .valor _ | .relogio _ | .recursao => False

/-- An exception other than the two leaves the reading. -/
def Escapa {α : Type} (r : Leitura α) : Prop := ∃ e, r = .error e ∧ ¬e.Tipado

/-! ## Steps of a reading -/

theorem escapa_ok {α : Type} (a : α) : ¬Escapa (.ok a : Leitura α) := by
  rintro ⟨e, he, -⟩
  cases he

theorem escapa_pure {α : Type} (a : α) : ¬Escapa (pure a : Leitura α) := escapa_ok a

theorem escapa_quebrar {α : Type} (q : Quebra) : ¬Escapa (quebrar q : Leitura α) := by
  rintro ⟨e, he, hraw⟩
  rw [← Except.error.inj he] at hraw
  exact hraw trivial

/-- A reading is left at its first step, or after it at the others. -/
theorem escapa_bind {α β : Type} {x : Leitura α} {f : α → Leitura β} :
    Escapa (x >>= f) ↔ Escapa x ∨ ∃ a, x = .ok a ∧ Escapa (f a) := by
  cases x with
  | ok a =>
    constructor
    · intro h
      exact .inr ⟨a, rfl, h⟩
    · rintro (h | ⟨b, hb, h⟩)
      · exact absurd h (escapa_ok a)
      · rw [Except.ok.inj hb]
        exact h
  | error e =>
    constructor
    · rintro ⟨e', he, hraw⟩
      exact .inl ⟨e, rfl, by rwa [Except.error.inj he]⟩
    · rintro (⟨e', he, hraw⟩ | ⟨a, ha, -⟩)
      · exact ⟨e, rfl, by rwa [Except.error.inj he]⟩
      · cases ha

/-- A constructor raises a bare `ValueError`. -/
theorem escapa_montar {α : Type} {violacao : Option Violacao} {build : violacao = none → α} :
    Escapa (montar violacao build) ↔ violacao ≠ none := by
  constructor
  · rintro h rfl
    exact escapa_ok _ h
  · intro h
    obtain ⟨v, rfl⟩ := Option.ne_none_iff_exists'.mp h
    exact ⟨.valor v, rfl, id⟩

theorem escapa_chavesExatas (nome : String) (esperadas : List String) (bruto : Valor) :
    ¬Escapa (chavesExatas nome esperadas bruto) := by
  unfold chavesExatas
  split
  · simp only
    split_ifs
    · exact escapa_ok _
    · exact escapa_quebrar _
  · exact escapa_quebrar _

theorem escapa_texto (nome : String) (bruto : Valor) : ¬Escapa (texto nome bruto) := by
  unfold texto
  split
  · exact escapa_ok _
  · exact escapa_quebrar _

theorem escapa_inteiro (nome : String) (bruto : Valor) : ¬Escapa (inteiro nome bruto) := by
  unfold inteiro
  split
  · exact escapa_ok _
  · exact escapa_quebrar _

theorem escapa_versaoPiap (nome : String) (bruto : Valor) : ¬Escapa (versaoPiap nome bruto) := by
  unfold versaoPiap
  rw [escapa_bind]
  rintro (h | ⟨n, -, h⟩)
  · exact escapa_inteiro nome bruto h
  · split_ifs at h
    · exact escapa_quebrar _ h
    · exact escapa_quebrar _ h
    · exact escapa_ok _ h

theorem escapa_uuid (nome : String) (bruto : Valor) : ¬Escapa (uuid nome bruto) := by
  unfold uuid
  rw [escapa_bind]
  rintro (h | ⟨t, -, h⟩)
  · exact escapa_texto nome bruto h
  · split at h
    · exact escapa_ok _ h
    · exact escapa_quebrar _ h

theorem escapa_membro {α : Type} (nome : String) (membros : List α) (value : α → String)
    (bruto : Valor) : ¬Escapa (membro nome membros value bruto) := by
  unfold membro
  rw [escapa_bind]
  rintro (h | ⟨t, -, h⟩)
  · exact escapa_texto nome bruto h
  · split at h
    · exact escapa_ok _ h
    · exact escapa_quebrar _ h

theorem escapa_listaAte (nome : String) (limite : ℕ) (bruto : Valor) :
    ¬Escapa (listaAte nome limite bruto) := by
  unfold listaAte
  split
  · split_ifs
    · exact escapa_quebrar _
    · exact escapa_ok _
  · exact escapa_quebrar _

theorem escapa_timedelta (nome : String) (n : ℤ) : ¬Escapa (timedeltaDeMicrossegundos nome n) := by
  unfold timedeltaDeMicrossegundos
  split
  · exact escapa_ok _
  · exact escapa_quebrar _

theorem escapa_versaoDoContrato (bruto : Valor) : ¬Escapa (versaoDoContrato bruto) := by
  unfold versaoDoContrato
  rw [escapa_bind]
  rintro (h | ⟨t, -, h⟩)
  · exact escapa_texto _ bruto h
  · split_ifs at h
    · exact escapa_ok _ h
    · obtain ⟨e, he, hraw⟩ := h
      rw [← Except.error.inj he] at hraw
      exact hraw trivial

theorem escapa_opcional {α : Type} {ler : Valor → Leitura α} {bruto : Valor} :
    Escapa (opcional ler bruto) ↔ bruto ≠ .nulo ∧ Escapa (ler bruto) := by
  by_cases hnull : bruto = .nulo
  · subst hnull
    exact ⟨fun h => absurd h (escapa_ok _), fun h => absurd rfl h.1⟩
  · have hread : opcional ler bruto = ler bruto >>= fun a => pure (some a) := by
      unfold opcional
      split
      · exact absurd rfl hnull
      · exact map_eq_pure_bind _ _
    rw [hread, escapa_bind]
    constructor
    · rintro (h | ⟨a, -, h⟩)
      · exact ⟨hnull, h⟩
      · exact absurd h (escapa_pure _)
    · rintro ⟨-, h⟩
      exact .inl h

theorem escapa_opcional_texto (nome : String) (bruto : Valor) :
    ¬Escapa (opcional (texto nome) bruto) := fun h =>
  escapa_texto nome bruto (escapa_opcional.mp h).2

/-- The text of an instant that `astimezone` does not convert. -/
def SemRelogio (m : Interprete) (bruto : Valor) : Prop :=
  ∃ lido, Instantaneo m bruto lido ∧ m.astimezone lido = none

theorem escapa_instanteDeJson {m : Interprete} {nome : String} {bruto : Valor} :
    Escapa (instanteDeJson m nome bruto) ↔ SemRelogio m bruto := by
  rcases instanteDeJson_cases m nome bruto with
    ⟨lido, i, hinst, hclock, hread⟩ | ⟨lido, hinst, hclock, hread⟩ | ⟨hnone, q, hread⟩
  · rw [hread]
    refine ⟨fun h => absurd h (escapa_ok i), ?_⟩
    rintro ⟨outro, houtro, hnone⟩
    obtain rfl := instantaneo_unico hinst houtro
    cases hclock.symm.trans hnone
  · rw [hread]
    exact ⟨fun _ => ⟨lido, hinst, hclock⟩, fun _ => ⟨_, rfl, id⟩⟩
  · rw [hread]
    refine ⟨fun h => absurd h (escapa_quebrar q), ?_⟩
    rintro ⟨outro, houtro, -⟩
    exact absurd houtro (hnone outro)

/-- A traversal is left at its first item that escapes. -/
theorem escapa_mapM {α β : Type} {f : α → Leitura β} {itens : List α} :
    Escapa (itens.mapM f) ↔ ∃ antes item depois, itens = antes ++ item :: depois ∧
      (∀ outro ∈ antes, ∃ b, f outro = .ok b) ∧ Escapa (f item) := by
  induction itens with
  | nil =>
    constructor
    · intro h
      exact absurd h (escapa_pure _)
    · rintro ⟨antes, item, depois, h, -⟩
      simp at h
  | cons item itens ih =>
    have htail (ys : β) : Escapa (itens.mapM f >>= fun rest => pure (ys :: rest)) ↔
        Escapa (itens.mapM f) := by
      rw [escapa_bind]
      constructor
      · rintro (h | ⟨_, -, h⟩)
        · exact h
        · exact absurd h (escapa_pure _)
      · exact .inl
    rw [List.mapM_cons, escapa_bind]
    constructor
    · rintro (h | ⟨b, hb, h⟩)
      · exact ⟨[], item, itens, rfl, by simp, h⟩
      · obtain ⟨antes, outro, depois, rfl, hantes, houtro⟩ := ih.mp ((htail b).mp h)
        refine ⟨item :: antes, outro, depois, rfl, ?_, houtro⟩
        intro x hx
        rcases List.mem_cons.mp hx with rfl | hx
        · exact ⟨b, hb⟩
        · exact hantes x hx
    · rintro ⟨antes, outro, depois, heq, hantes, houtro⟩
      cases antes with
      | nil =>
        obtain ⟨rfl, -⟩ := List.cons.inj heq
        exact .inl houtro
      | cons first antes =>
        obtain ⟨rfl, rfl⟩ := List.cons.inj heq
        obtain ⟨b, hb⟩ := hantes item List.mem_cons_self
        refine .inr ⟨b, hb, (htail b).mpr (ih.mpr ⟨antes, outro, depois, rfl, ?_, houtro⟩)⟩
        exact fun x hx => hantes x (List.mem_cons_of_mem _ hx)

/-! ## Sections -/

/-- A source with a token outside the grammar, or with another text in place of a digest. -/
inductive FonteEscapa (bruto : Valor) : Prop
  | token {kind : Texto} (chaves : Objeto chavesDaFonte bruto)
      (lido : bruto.em "kind" = .texto kind)
      (recusado : validarToken "ProvenanceKind.value" kind ≠ none)
  | digest {kind : Texto} {ref : Referencia} {sourceVersion : ℤ} {contentSha256 : Option Texto}
      (lida : FonteEscrita bruto kind ref sourceVersion contentSha256)
      (recusado : contentSha256.bind (validarSha256Hex "content_sha256") ≠ none)

theorem escapa_sourceReferenceDeJson {nome : String} {bruto : Valor} :
    Escapa (sourceReferenceDeJson nome bruto) ↔ FonteEscapa bruto := by
  unfold sourceReferenceDeJson
  simp only [escapa_bind, escapa_chavesExatas, escapa_texto, escapa_uuid, escapa_versaoPiap,
    escapa_opcional_texto, escapa_montar, false_or, chavesExatas_eq_ok, texto_eq_ok, uuid_eq_ok,
    versaoPiap_eq_ok "source_version", opcional_texto_eq_ok, montar_eq_ok_iff]
  constructor
  · rintro ⟨dados, ⟨rfl, hchaves⟩, kind, hkind, htoken | ⟨-, ⟨htoken, -⟩, ref, href, version,
      ⟨hversion, hfaixa⟩, sha, hsha, hchecks⟩⟩
    · exact .token hchaves hkind htoken
    · refine .digest ⟨hchaves, htoken, hfaixa, hkind, href, hversion, hsha⟩ fun hnone => ?_
      exact hchecks (primeira_eq_none.mpr (by simp [htoken, hfaixa, hnone]))
  · rintro (⟨hchaves, hkind, htoken⟩ | ⟨hlida, hdigest⟩)
    · obtain ⟨dados, rfl, hkeys⟩ := id hchaves
      exact ⟨dados, ⟨rfl, hchaves⟩, _, hkind, .inl htoken⟩
    · obtain ⟨dados, rfl, hkeys⟩ := id hlida.chaves
      refine ⟨dados, ⟨rfl, hlida.chaves⟩, _, hlida.kind, .inr ⟨(), ⟨hlida.token, trivial⟩, _,
        hlida.ref, _, ⟨hlida.sourceVersion, hlida.faixa⟩, _, hlida.contentSha256, ?_⟩⟩
      intro hnone
      exact hdigest (primeira_eq_none.mp hnone _ (by simp))

/-- An approval whose expiry the clock does not convert, or that `ApprovalBinding` refuses. -/
inductive AprovacaoEscapa (m : Interprete) (bruto : Valor) : Prop
  | relogio {approvalReference : Texto} {approvalVersion : ℤ} {approvalScope : List Texto}
      (lida : AprovacaoIniciada bruto approvalReference approvalVersion approvalScope)
      (recusado : SemRelogio m (bruto.em "approval_expiry"))
  | campos {c : CamposDaAprovacao} (lida : AprovacaoEscrita m bruto c)
      (recusado : c.violacao ≠ none)

theorem not_semRelogio_nulo {m : Interprete} : ¬SemRelogio m .nulo := by
  rintro ⟨lido, hinst, -⟩
  obtain ⟨t, ht, -⟩ := hinst.texto
  cases ht

theorem escapa_opcional_instante {m : Interprete} {nome : String} {bruto : Valor} :
    Escapa (opcional (instanteDeJson m nome) bruto) ↔ SemRelogio m bruto := by
  rw [escapa_opcional, escapa_instanteDeJson]
  refine ⟨fun h => h.2, fun h => ⟨?_, h⟩⟩
  rintro rfl
  exact not_semRelogio_nulo h

theorem escapa_textos (nome : ℕ → String) (itens : List Valor) :
    ¬Escapa (itens.zipIdx.mapM fun item => texto (nome item.2) item.1) := by
  rw [escapa_mapM]
  rintro ⟨antes, item, depois, -, -, h⟩
  exact escapa_texto _ _ h

theorem escapa_camposDaAprovacao {m : Interprete} {bruto : Valor} :
    Escapa (camposDaAprovacao m bruto) ↔ ∃ approvalReference approvalVersion approvalScope,
      AprovacaoIniciada bruto approvalReference approvalVersion approvalScope ∧
        SemRelogio m (bruto.em "approval_expiry") := by
  unfold camposDaAprovacao
  simp only [escapa_bind, escapa_chavesExatas, escapa_listaAte, escapa_texto, escapa_versaoPiap,
    escapa_textos, escapa_opcional_instante, escapa_opcional_texto, escapa_membro, escapa_uuid,
    escapa_pure, false_or, or_false, and_false, exists_false, chavesExatas_eq_ok, listaAte_eq_ok,
    texto_eq_ok, versaoPiap_eq_ok "approval_version", textos_eq_ok]
  constructor
  · rintro ⟨campos, ⟨rfl, hchaves⟩, vinculo, ⟨hbound, hvinculo⟩, escopo, ⟨hescopo, hlength⟩,
      reference, hreference, version, ⟨hversion, hfaixa⟩, scope, rfl, hclock⟩
    exact ⟨reference, version, scope, ⟨hchaves, hvinculo, by simpa using hlength, hfaixa,
      hescopo, hreference, hversion⟩, hclock⟩
  · rintro ⟨reference, version, scope, hlida, hclock⟩
    obtain ⟨campos, rfl, hkeys⟩ := hlida.chaves
    obtain ⟨vinculo, hbound, -⟩ := hlida.vinculo
    exact ⟨campos, ⟨rfl, hlida.chaves⟩, vinculo, ⟨hbound, hlida.vinculo⟩, _,
      ⟨hlida.approvalScope, by simpa using hlida.tamanho⟩, _, hlida.approvalReference, _,
      ⟨hlida.approvalVersion, hlida.faixa⟩, scope, rfl, hclock⟩

theorem escapa_aprovacao {m : Interprete} {bruto : Valor} :
    Escapa (do let campos ← camposDaAprovacao m bruto; campos.montar) ↔ AprovacaoEscapa m bruto := by
  rw [escapa_bind, escapa_camposDaAprovacao]
  constructor
  · rintro (⟨reference, version, scope, hlida, hclock⟩ | ⟨c, hc, h⟩)
    · exact .relogio hlida hclock
    · exact .campos (camposDaAprovacao_eq_ok.mp hc) (escapa_montar.mp h)
  · rintro (⟨hlida, hclock⟩ | ⟨hlida, hchecks⟩)
    · exact .inl ⟨_, _, _, hlida, hclock⟩
    · exact .inr ⟨_, camposDaAprovacao_eq_ok.mpr hlida, escapa_montar.mpr hchecks⟩

/-- An authority whose approval escapes, or whose status does not agree with it. -/
inductive AutoridadeEscapa (m : Interprete) (bruto : Valor) : Prop
  | aprovacao (chaves : Objeto ["approval", "status"] bruto)
      (escapa : AprovacaoEscapa m (bruto.em "approval"))
  | campos {status : AuthorityStatus} {approval : Option ApprovalBinding}
      (lida : AutoridadeEscrita m bruto status approval)
      (recusado : autoridadeIncoerente status approval.isSome ≠ none)

theorem AprovacaoEscapa.chaves {m : Interprete} {bruto : Valor} (h : AprovacaoEscapa m bruto) :
    Objeto chavesDaAprovacao bruto := by
  cases h with
  | relogio lida => exact lida.chaves
  | campos lida => exact lida.chaves

theorem escapa_opcional_aprovacao {m : Interprete} {bruto : Valor} :
    Escapa (opcional (fun valor => do let campos ← camposDaAprovacao m valor; campos.montar) bruto) ↔
      AprovacaoEscapa m bruto := by
  rw [escapa_opcional, escapa_aprovacao]
  refine ⟨fun h => h.2, fun h => ⟨?_, h⟩⟩
  rintro rfl
  obtain ⟨dados, hdados, -⟩ := h.chaves
  cases hdados

theorem escapa_authorityDeJson {m : Interprete} {bruto : Valor} :
    Escapa (authorityDeJson m bruto) ↔ AutoridadeEscapa m bruto := by
  unfold authorityDeJson
  simp only [escapa_bind, escapa_chavesExatas, escapa_opcional_aprovacao, escapa_membro,
    escapa_montar, false_or, chavesExatas_eq_ok, opcional_aprovacao_eq_ok, authorityStatus_eq_ok]
  constructor
  · rintro ⟨dados, ⟨rfl, hchaves⟩, happroval | ⟨approval, happroval, status, hstatus, hchecks⟩⟩
    · exact .aprovacao hchaves happroval
    · exact .campos ⟨hchaves, happroval, hstatus⟩ hchecks
  · rintro (⟨hchaves, happroval⟩ | ⟨hlida, hchecks⟩)
    · obtain ⟨dados, rfl, hkeys⟩ := id hchaves
      exact ⟨dados, ⟨rfl, hchaves⟩, .inl happroval⟩
    · obtain ⟨dados, rfl, hkeys⟩ := id hlida.chaves
      exact ⟨dados, ⟨rfl, hlida.chaves⟩, .inr ⟨_, hlida.approval, _, hlida.status, hchecks⟩⟩

/-- A provenance whose origin escapes, whose instant the clock does not convert, or with an opaque
reference that is none. -/
inductive ProvenienciaEscapa (m : Interprete) (bruto : Valor) : Prop
  | origem (chaves : Objeto ["jurisdiction", "origin", "policy_ref", "recorded_at"] bruto)
      (escapa : FonteEscapa (bruto.em "origin"))
  | relogio {origin : SourceReference}
      (chaves : Objeto ["jurisdiction", "origin", "policy_ref", "recorded_at"] bruto)
      (origem : FonteDe (bruto.em "origin") origin)
      (recusado : SemRelogio m (bruto.em "recorded_at"))
  | campos {origin : SourceReference} {recordedAt : Instante}
      {jurisdiction policyRef : Option Texto}
      (lida : ProvenienciaEscrita m bruto origin recordedAt jurisdiction policyRef)
      (recusado : primeira
        [jurisdiction.bind (validarReferenciaOpaca "jurisdiction"),
          policyRef.bind (validarReferenciaOpaca "policy_ref")] ≠ none)

theorem escapa_provenanceDeJson {m : Interprete} {bruto : Valor} :
    Escapa (provenanceDeJson m bruto) ↔ ProvenienciaEscapa m bruto := by
  unfold provenanceDeJson
  simp only [escapa_bind, escapa_chavesExatas, escapa_sourceReferenceDeJson, escapa_instanteDeJson,
    escapa_opcional_texto, escapa_montar, false_or, chavesExatas_eq_ok, sourceReferenceDeJson_eq_ok,
    instanteDeJson_eq_ok, opcional_texto_eq_ok]
  constructor
  · rintro ⟨dados, ⟨rfl, hchaves⟩, horigin | ⟨origin, horigin, hclock | ⟨recordedAt, hrecorded,
      jurisdiction, hjurisdiction, policyRef, hpolicy, hchecks⟩⟩⟩
    · exact .origem hchaves horigin
    · exact .relogio hchaves horigin hclock
    · exact .campos ⟨hchaves, horigin, hrecorded, hjurisdiction, hpolicy⟩ hchecks
  · rintro (⟨hchaves, horigin⟩ | ⟨hchaves, horigin, hclock⟩ | ⟨hlida, hchecks⟩)
    · obtain ⟨dados, rfl, hkeys⟩ := id hchaves
      exact ⟨dados, ⟨rfl, hchaves⟩, .inl horigin⟩
    · obtain ⟨dados, rfl, hkeys⟩ := id hchaves
      exact ⟨dados, ⟨rfl, hchaves⟩, .inr ⟨_, horigin, .inl hclock⟩⟩
    · obtain ⟨dados, rfl, hkeys⟩ := id hlida.chaves
      exact ⟨dados, ⟨rfl, hlida.chaves⟩, .inr ⟨_, hlida.origin, .inr ⟨_, hlida.recordedAt, _,
        hlida.jurisdiction, _, hlida.policyRef, hchecks⟩⟩⟩

/-- A horizon whose instant the clock does not convert, or that is not positive. -/
inductive HorizonteEscapa (m : Interprete) (bruto : Valor) : Prop
  | relogio {delta : Timedelta}
      (chaves : Objeto ["availability", "delta_microseconds", "reference_time"] bruto)
      (lido : bruto.em "delta_microseconds" = .inteiro delta.total)
      (recusado : SemRelogio m (bruto.em "reference_time"))
  | campos {delta : Timedelta} {referenceTime : Instante} {availability : TemporalAvailability}
      (lido : HorizonteEscrito m bruto delta referenceTime availability)
      (recusado : delta.total ≤ 0)

theorem escapa_horizonDeJson {m : Interprete} {bruto : Valor} :
    Escapa (horizonDeJson m bruto) ↔ HorizonteEscapa m bruto := by
  unfold horizonDeJson
  simp only [escapa_bind, escapa_chavesExatas, escapa_inteiro, escapa_timedelta,
    escapa_instanteDeJson, escapa_membro, escapa_montar, false_or, chavesExatas_eq_ok,
    inteiro_eq_ok, timedelta_eq_ok, instanteDeJson_eq_ok, temporalAvailability_eq_ok, ne_eq,
    recusar_eq_none, decide_eq_false_iff_not, not_not]
  constructor
  · rintro ⟨dados, ⟨rfl, hchaves⟩, micros, hmicros, delta, rfl, hclock | ⟨reference, hreference,
      availability, havailability, hchecks⟩⟩
    · exact .relogio hchaves hmicros hclock
    · exact .campos ⟨hchaves, hmicros, hreference, havailability⟩ hchecks
  · rintro (⟨hchaves, hdelta, hclock⟩ | ⟨hlido, hchecks⟩)
    · obtain ⟨dados, rfl, hkeys⟩ := id hchaves
      exact ⟨dados, ⟨rfl, hchaves⟩, _, hdelta, _, rfl, .inl hclock⟩
    · obtain ⟨dados, rfl, hkeys⟩ := id hlido.chaves
      exact ⟨dados, ⟨rfl, hlido.chaves⟩, _, hlido.delta, _, rfl, .inr ⟨_, hlido.referenceTime, _,
        hlido.availability, hchecks⟩⟩

/-- A subject whose horizon escapes, or with a token outside the grammar. -/
inductive AssuntoEscapa (m : Interprete) (bruto : Valor) : Prop
  | horizonte (chaves : Objeto ["horizon", "signal", "target"] bruto)
      (escapa : HorizonteEscapa m (bruto.em "horizon"))
  | campos {target signal : Texto} {horizon : Horizon}
      (lido : AssuntoEscrito m bruto target signal horizon)
      (recusado : primeira [validarToken "target" target, validarToken "signal" signal] ≠ none)

theorem escapa_subjectDeJson {m : Interprete} {bruto : Valor} :
    Escapa (subjectDeJson m bruto) ↔ AssuntoEscapa m bruto := by
  unfold subjectDeJson
  simp only [escapa_bind, escapa_chavesExatas, escapa_horizonDeJson, escapa_texto, escapa_montar,
    false_or, chavesExatas_eq_ok, horizonDeJson_eq_ok, texto_eq_ok]
  constructor
  · rintro ⟨dados, ⟨rfl, hchaves⟩, hhorizon | ⟨horizon, hhorizon, target, htarget, signal, hsignal,
      hchecks⟩⟩
    · exact .horizonte hchaves hhorizon
    · exact .campos ⟨hchaves, hhorizon, htarget, hsignal⟩ hchecks
  · rintro (⟨hchaves, hhorizon⟩ | ⟨hlido, hchecks⟩)
    · obtain ⟨dados, rfl, hkeys⟩ := id hchaves
      exact ⟨dados, ⟨rfl, hchaves⟩, .inl hhorizon⟩
    · obtain ⟨dados, rfl, hkeys⟩ := id hlido.chaves
      exact ⟨dados, ⟨rfl, hlido.chaves⟩, .inr ⟨_, hlido.horizon, _, hlido.target, _, hlido.signal,
        hchecks⟩⟩

/-- A list of references with an item that escapes after items that do not. -/
def ReferenciasEscapam (bruto : Valor) : Prop :=
  ∃ antes item depois, bruto = .lista (antes ++ item :: depois) ∧
    (antes ++ item :: depois).length ≤ maxPayloadReferences ∧
      (∀ outro ∈ antes, ∃ r, FonteDe outro r) ∧ FonteEscapa item

theorem escapa_fontes {nome : ℕ → String} {itens : List Valor} :
    Escapa (itens.zipIdx.mapM fun item => sourceReferenceDeJson (nome item.2) item.1) ↔
      ∃ antes item depois, itens = antes ++ item :: depois ∧
        (∀ outro ∈ antes, ∃ r, FonteDe outro r) ∧ FonteEscapa item := by
  have hfrom : ∀ k, Escapa ((itens.zipIdx k).mapM
      fun item => sourceReferenceDeJson (nome item.2) item.1) ↔
        ∃ antes item depois, itens = antes ++ item :: depois ∧
          (∀ outro ∈ antes, ∃ r, FonteDe outro r) ∧ FonteEscapa item := by
    intro k
    rw [escapa_mapM]
    constructor
    · rintro ⟨antes, item, depois, heq, hantes, hitem⟩
      have hplain := congrArg (List.map Prod.fst) heq
      rw [List.map_append, List.map_cons, List.zipIdx_map_fst] at hplain
      refine ⟨_, _, _, hplain, ?_, escapa_sourceReferenceDeJson.mp hitem⟩
      intro outro houtro
      obtain ⟨par, hpar, rfl⟩ := List.mem_map.mp houtro
      obtain ⟨r, hr⟩ := hantes par hpar
      exact ⟨r, sourceReferenceDeJson_eq_ok.mp hr⟩
    · rintro ⟨antes, item, depois, rfl, hantes, hitem⟩
      rw [List.zipIdx_append, List.zipIdx_cons]
      refine ⟨_, _, _, rfl, ?_, escapa_sourceReferenceDeJson.mpr hitem⟩
      intro par hpar
      obtain ⟨r, hr⟩ := hantes par.1 (List.fst_mem_of_mem_zipIdx hpar)
      exact ⟨r, sourceReferenceDeJson_eq_ok.mpr hr⟩
  exact hfrom 0

theorem escapa_payloadRefsDeJson {bruto : Valor} :
    Escapa (payloadRefsDeJson bruto) ↔ ReferenciasEscapam bruto := by
  unfold payloadRefsDeJson
  simp only [escapa_bind, escapa_listaAte, false_or, listaAte_eq_ok, escapa_fontes]
  constructor
  · rintro ⟨itens, ⟨rfl, hlength⟩, antes, item, depois, rfl, hantes, hitem⟩
    exact ⟨antes, item, depois, rfl, hlength, hantes, hitem⟩
  · rintro ⟨antes, item, depois, rfl, hlength, hantes, hitem⟩
    exact ⟨_, ⟨rfl, hlength⟩, antes, item, depois, rfl, hantes, hitem⟩

/-! ## Envelopes -/

def chavesDoEnvelope : List String :=
  ["authority", "contract_version", "payload_refs", "provenance", "sealed_at", "subject"]

/-- An object with the names of an envelope, of the version that the code speaks. -/
structure Cabecalho (bruto : Valor) : Prop where
  chaves : Objeto chavesDoEnvelope bruto
  versao : bruto.em "contract_version" = .texto (Texto.of PiapContractVersion.v1_0.value)

/-- The first section that escapes, or the checks across the sections. -/
inductive EnvelopeEscapa (m : Interprete) (bruto : Valor) : Prop
  | autoridade (cabecalho : Cabecalho bruto) (escapa : AutoridadeEscapa m (bruto.em "authority"))
  | proveniencia {authority : AuthorityContext} (cabecalho : Cabecalho bruto)
      (autoridade : AutoridadeDe m (bruto.em "authority") authority)
      (escapa : ProvenienciaEscapa m (bruto.em "provenance"))
  | assunto {authority : AuthorityContext} {provenance : ProvenanceRecord}
      (cabecalho : Cabecalho bruto)
      (autoridade : AutoridadeDe m (bruto.em "authority") authority)
      (proveniencia : ProvenienciaDe m (bruto.em "provenance") provenance)
      (escapa : AssuntoEscapa m (bruto.em "subject"))
  | referencias {authority : AuthorityContext} {provenance : ProvenanceRecord}
      {subject : ClaimSubject} (cabecalho : Cabecalho bruto)
      (autoridade : AutoridadeDe m (bruto.em "authority") authority)
      (proveniencia : ProvenienciaDe m (bruto.em "provenance") provenance)
      (assunto : AssuntoDe m (bruto.em "subject") subject)
      (escapam : ReferenciasEscapam (bruto.em "payload_refs"))
  | relogio {authority : AuthorityContext} {provenance : ProvenanceRecord} {subject : ClaimSubject}
      {payloadRefs : List SourceReference} (cabecalho : Cabecalho bruto)
      (autoridade : AutoridadeDe m (bruto.em "authority") authority)
      (proveniencia : ProvenienciaDe m (bruto.em "provenance") provenance)
      (assunto : AssuntoDe m (bruto.em "subject") subject)
      (referencias : ReferenciasDe (bruto.em "payload_refs") payloadRefs)
      (recusado : SemRelogio m (bruto.em "sealed_at"))
  | campos {authority : AuthorityContext} {provenance : ProvenanceRecord} {subject : ClaimSubject}
      {payloadRefs : List SourceReference} {sealedAt : Instante} (cabecalho : Cabecalho bruto)
      (autoridade : AutoridadeDe m (bruto.em "authority") authority)
      (proveniencia : ProvenienciaDe m (bruto.em "provenance") provenance)
      (assunto : AssuntoDe m (bruto.em "subject") subject)
      (referencias : ReferenciasDe (bruto.em "payload_refs") payloadRefs)
      (selo : InstanteDe m (bruto.em "sealed_at") sealedAt)
      (recusado : envelopeIncoerente payloadRefs subject.horizon.referenceTime
        provenance.recordedAt sealedAt ≠ none)

theorem versaoDoContrato_eq_ok_iff {bruto : Valor} {v : PiapContractVersion} :
    versaoDoContrato bruto = .ok v ↔
      bruto = .texto (Texto.of PiapContractVersion.v1_0.value) := by
  cases v
  exact versaoDoContrato_eq_ok

theorem escapa_envelopeDeJson {m : Interprete} {bruto : Valor} :
    Escapa (envelopeDeJson m bruto) ↔ EnvelopeEscapa m bruto := by
  unfold envelopeDeJson
  simp only [escapa_bind, escapa_chavesExatas, escapa_versaoDoContrato, escapa_authorityDeJson,
    escapa_provenanceDeJson, escapa_subjectDeJson, escapa_payloadRefsDeJson, escapa_instanteDeJson,
    escapa_montar, false_or, chavesExatas_eq_ok, versaoDoContrato_eq_ok_iff, authorityDeJson_eq_ok,
    provenanceDeJson_eq_ok, subjectDeJson_eq_ok, payloadRefsDeJson_eq_ok, instanteDeJson_eq_ok]
  constructor
  · rintro ⟨dados, ⟨rfl, hchaves⟩, -, hversion, h⟩
    have hhead : Cabecalho (.objeto dados) := ⟨hchaves, hversion⟩
    rcases h with h | ⟨authority, hauthority, h⟩
    · exact .autoridade hhead h
    rcases h with h | ⟨provenance, hprovenance, h⟩
    · exact .proveniencia hhead hauthority h
    rcases h with h | ⟨subject, hsubject, h⟩
    · exact .assunto hhead hauthority hprovenance h
    rcases h with h | ⟨refs, hrefs, h⟩
    · exact .referencias hhead hauthority hprovenance hsubject h
    rcases h with h | ⟨sealedAt, hsealed, h⟩
    · exact .relogio hhead hauthority hprovenance hsubject hrefs h
    · exact .campos hhead hauthority hprovenance hsubject hrefs hsealed h
  · intro h
    have hhead : Cabecalho bruto := by cases h <;> assumption
    obtain ⟨dados, rfl, hkeys⟩ := id hhead.chaves
    refine ⟨dados, ⟨rfl, hhead.chaves⟩, .v1_0, hhead.versao, ?_⟩
    cases h with
    | autoridade _ h => exact .inl h
    | proveniencia _ hauthority h => exact .inr ⟨_, hauthority, .inl h⟩
    | assunto _ hauthority hprovenance h =>
      exact .inr ⟨_, hauthority, .inr ⟨_, hprovenance, .inl h⟩⟩
    | referencias _ hauthority hprovenance hsubject h =>
      exact .inr ⟨_, hauthority, .inr ⟨_, hprovenance, .inr ⟨_, hsubject, .inl h⟩⟩⟩
    | relogio _ hauthority hprovenance hsubject hrefs h =>
      exact .inr ⟨_, hauthority, .inr ⟨_, hprovenance, .inr ⟨_, hsubject, .inr ⟨_, hrefs,
        .inl h⟩⟩⟩⟩
    | campos _ hauthority hprovenance hsubject hrefs hsealed h =>
      exact .inr ⟨_, hauthority, .inr ⟨_, hprovenance, .inr ⟨_, hsubject, .inr ⟨_, hrefs,
        .inr ⟨_, hsealed, h⟩⟩⟩⟩⟩

/-! ## Bytes -/

/-- The bytes are short enough and write this text. -/
structure Decodificado (payload : ByteArray) (t : Texto) : Prop where
  tamanho : payload.size ≤ maxPiapInputBytes
  texto : decode payload = some t

/-- The bytes open more containers than the parser can, or write an envelope that escapes. -/
inductive BytesEscapam (m : Interprete) (payload : ByteArray) : Prop
  | recursao {t : Texto} (decodificado : Decodificado payload t)
      (recursao : loads m.niveis t = .error .recursao)
  | envelope {t : Texto} {bruto : Valor} (decodificado : Decodificado payload t)
      (lido : loads m.niveis t = .ok bruto) (escapa : EnvelopeEscapa m bruto)

theorem lerBytes_eq_ok {m : Interprete} {payload : ByteArray} {bruto : Valor} :
    lerBytes m payload = .ok bruto ↔
      ∃ t, Decodificado payload t ∧ loads m.niveis t = .ok bruto := by
  unfold lerBytes
  by_cases hsize : maxPiapInputBytes < payload.size
  · rw [if_pos hsize]
    constructor
    · intro h
      cases h
    · rintro ⟨t, ht, -⟩
      exact absurd hsize (not_lt.mpr ht.tamanho)
  rw [if_neg hsize]
  cases htext : decode payload with
  | none =>
    constructor
    · intro h
      cases h
    · rintro ⟨t, ht, -⟩
      cases htext.symm.trans ht.texto
  | some t =>
    have hread : Decodificado payload t := ⟨not_lt.mp hsize, htext⟩
    constructor
    · intro h
      refine ⟨t, hread, ?_⟩
      cases hload : loads m.niveis t with
      | ok lido =>
        simp only [hload] at h
        exact congrArg Except.ok (Except.ok.inj h)
      | error falha =>
        simp only [hload] at h
        cases falha <;> cases h
    · rintro ⟨outro, houtro, hload⟩
      obtain rfl := Option.some.inj (htext.symm.trans houtro.texto)
      simp only [hload]

theorem escapa_lerBytes {m : Interprete} {payload : ByteArray} :
    Escapa (lerBytes m payload) ↔
      ∃ t, Decodificado payload t ∧ loads m.niveis t = .error .recursao := by
  unfold lerBytes
  by_cases hsize : maxPiapInputBytes < payload.size
  · rw [if_pos hsize]
    refine ⟨fun h => absurd h (escapa_quebrar _), ?_⟩
    rintro ⟨t, ht, -⟩
    exact absurd hsize (not_lt.mpr ht.tamanho)
  rw [if_neg hsize]
  cases htext : decode payload with
  | none =>
    refine ⟨fun h => absurd h (escapa_quebrar _), ?_⟩
    rintro ⟨t, ht, -⟩
    cases htext.symm.trans ht.texto
  | some t =>
    have hread : Decodificado payload t := ⟨not_lt.mp hsize, htext⟩
    have hother (h : loads m.niveis t ≠ .error .recursao) :
        ¬∃ t, Decodificado payload t ∧ loads m.niveis t = .error .recursao := by
      rintro ⟨outro, houtro, hload⟩
      obtain rfl := Option.some.inj (htext.symm.trans houtro.texto)
      exact h hload
    cases hload : loads m.niveis t with
    | ok lido =>
      simp only [hload]
      exact ⟨fun h => absurd h (escapa_ok _), fun h => absurd h (hother (by simp [hload]))⟩
    | error falha =>
      cases falha with
      | recursao =>
        simp only [hload]
        exact ⟨fun _ => ⟨t, hread, hload⟩, fun _ => ⟨_, rfl, id⟩⟩
      | _ =>
        simp only [hload]
        exact ⟨fun h => absurd h (escapa_quebrar _), fun h => absurd h (hother (by simp [hload]))⟩

theorem escapa_exigirBytesCanonicos (payload : ByteArray) (e : PiapEnvelope) :
    ¬Escapa (exigirBytesCanonicos payload e) := by
  unfold exigirBytesCanonicos
  split
  · exact escapa_quebrar _
  · split_ifs
    · exact escapa_ok _
    · exact escapa_quebrar _

theorem escapa_deserialize {m : Interprete} {payload : ByteArray} :
    Escapa (deserializePiapEnvelope m payload) ↔ BytesEscapam m payload := by
  unfold deserializePiapEnvelope
  simp only [escapa_bind, escapa_lerBytes, escapa_envelopeDeJson, escapa_exigirBytesCanonicos,
    escapa_pure, and_false, exists_false, or_false, lerBytes_eq_ok]
  constructor
  · rintro (⟨t, ht, hload⟩ | ⟨bruto, ⟨t, ht, hload⟩, h⟩)
    · exact .recursao ht hload
    · exact .envelope ht hload h
  · rintro (⟨ht, hload⟩ | ⟨ht, hload, h⟩)
    · exact .inl ⟨_, ht, hload⟩
    · exact .inr ⟨_, ⟨_, ht, hload⟩, h⟩

/-- The boundary returns an envelope or raises one of its two errors, on exactly the bytes that
neither exhaust the parser nor write an envelope that escapes. -/
theorem piap_boundary (m : Interprete) (payload : ByteArray) :
    (∀ e, deserializePiapEnvelope m payload = .error e → e.Tipado) ↔ ¬BytesEscapam m payload := by
  rw [← escapa_deserialize]
  unfold Escapa
  push Not
  rfl

/-- An approval is claimed and none is given. -/
def documentoSemAprovacao : Documento :=
  .campos
    [("authority", .campos [("approval", .nulo), ("status", .ofString "asserted_authorized")]),
      ("contract_version", .ofString "1.0"), ("payload_refs", .lista []), ("provenance", .nulo),
      ("sealed_at", .nulo), ("subject", .nulo)]

theorem documentoSemAprovacao_autoridade (m : Interprete) :
    EnvelopeEscapa m documentoSemAprovacao.valor := by
  have hnames : Objeto chavesDoEnvelope documentoSemAprovacao.valor :=
    (chavesExatas_eq_ok.mp (chavesExatas_campos "envelope" rfl)).2
  have hauthority : Objeto ["approval", "status"] (documentoSemAprovacao.valor.em "authority") := by
    have hsection : documentoSemAprovacao.valor.em "authority" =
        (Documento.campos [("approval", .nulo),
          ("status", .ofString "asserted_authorized")]).valor := rfl
    rw [hsection]
    exact (chavesExatas_eq_ok.mp (chavesExatas_campos "authority" rfl)).2
  have hread : AutoridadeEscrita m (documentoSemAprovacao.valor.em "authority")
      .assertedAuthorized none := ⟨hauthority, rfl, rfl⟩
  exact .autoridade ⟨hnames, rfl⟩ (.campos hread (by decide))

/-- The constructor of the authority raises through the boundary. -/
theorem documentoSemAprovacao_escapa :
    (∃ payload, documentoSemAprovacao.dumps.encode = some payload ∧
      Escapa (deserializePiapEnvelope interpreteUtc payload)) ∧
    ¬∀ payload e, deserializePiapEnvelope interpreteUtc payload = .error e → e.Tipado := by
  have hniveis : interpreteUtc.niveis = 998 + 1 + 1 := rfl
  have hlegivel : documentoSemAprovacao.Legivel interpreteUtc.niveis := by
    rw [hniveis]
    have hauthority : (Documento.campos [("approval", .nulo),
        ("status", .ofString "asserted_authorized")]).Legivel (998 + 1) := by
      refine legivel_campos (by simp) ?_
      simp [legivel_nulo, legivel_ofString]
    have hrefs : (Documento.lista []).Legivel (998 + 1) := legivel_lista (by simp)
    refine legivel_campos (by simp) ?_
    simp [hauthority, hrefs, legivel_nulo, legivel_ofString]
  have hinteiro : documentoSemAprovacao.dumps.Inteiro := by
    have hall : documentoSemAprovacao.dumps.all (fun c => c.char?.isSome) = true := by
      decide +kernel
    exact List.all_eq_true.mp hall
  have hpeso : documentoSemAprovacao.dumps.peso ≤ maxPiapInputBytes := by decide +kernel
  obtain ⟨payload, hpayload⟩ := inteiro_iff.mp hinteiro
  have hescapa : Escapa (deserializePiapEnvelope interpreteUtc payload) := by
    obtain ⟨t, ht, hload⟩ := lerBytes_eq_ok.mp (lerBytes_dumps hpayload hpeso hlegivel)
    exact escapa_deserialize.mpr
      (.envelope ht hload (documentoSemAprovacao_autoridade interpreteUtc))
  refine ⟨⟨payload, hpayload, hescapa⟩, fun hclaim => ?_⟩
  obtain ⟨e, he, hraw⟩ := hescapa
  exact hraw (hclaim payload e he)

end PiaOs.Piap
