import PiaOs.Memory.AccessibilityRules

/-!
# When the state of an object is written

Every refusal of a transition comes before its write. What the write rests on is collected on
the way to it: the authority, the subject under its lock, the rule that admits the change and the
evidence of an extinction.
-/

namespace PiaOs.Memory

open Support Piap Transactions Cognitive

namespace AccessibilityPolicyManager

/-! ## Checks that passed -/

section Checks

variable {τ : Type} {portas : Portas τ} {amb : Ambiente} {t : Transicao} {db : τ}
  {resolution : GovernanceResolution} {policy : AccessibilityPolicy} {source : AccessibilityState}
  {instante : UtcInstant} {d : AccessibilityDecision} {coid : Referencia} {sujeito : Sujeito}

theorem resultado_of_make {f : AccessibilityTransitionResultFields}
    {r : AccessibilityTransitionResult} (h : AccessibilityTransitionResult.make f = .ok r) :
    r.toAccessibilityTransitionResultFields = f := by
  obtain ⟨hvalid, rfl⟩ := of_checked (mapError_eq_ok.mp h)
  rfl

theorem decisao_of_make {f : AccessibilityDecisionFields} {d : AccessibilityDecision}
    (h : AccessibilityDecision.make f = .ok d) : d.toAccessibilityDecisionFields = f := by
  obtain ⟨hvalid, rfl⟩ := of_checked (mapError_eq_ok.mp h)
  rfl

theorem recusarContrato_eq_ok {motivos : List String} {u : Unit} :
    recusarContrato motivos = .ok u ↔ motivos = [] := by
  unfold recusarContrato
  by_cases hnone : motivos = []
  · simp [hnone]
  · simp [hnone]

theorem verificarIdentidade_eq_ok {origem : String} {outro : Option Sujeito} {u : Unit} :
    verificarIdentidade sujeito coid origem outro = .ok u ↔
      sujeito.identidade = .de (.uuid coid) ∧ ∀ o ∈ outro, o.instancia = sujeito.instancia := by
  unfold verificarIdentidade
  cases hidentity : sujeito.identidade with
  | outro classe => simp [recusarContrato_eq_ok]
  | de identificador =>
    cases identificador with
    | outro classe => simp [recusarContrato_eq_ok]
    | uuid id =>
      by_cases hid : id = coid
      · cases outro with
        | none => simp [hid, recusarContrato_eq_ok, reduceOption_eq_nil]
        | some o => simp [hid, recusarContrato_eq_ok, reduceOption_eq_nil]
      · simp [hid, recusarContrato_eq_ok]

theorem estadoDoToken?_eq_some {token : String} {state : AccessibilityState} :
    estadoDoToken? token = some state ↔ token = state.value := by
  constructor
  · intro h
    have hfound : accessibilityStates.find? (fun s => decide (s.value = token)) = some state := h
    have hvalue := List.find?_some hfound
    exact (of_decide_eq_true hvalue).symm
  · rintro rfl
    exact estadoDoToken?_value state

theorem lerEstado_eq_ok {state : AccessibilityState} :
    lerEstado portas sujeito db = .ok state ↔
      portas.getState sujeito db = .ok (.de state.value) := by
  unfold lerEstado
  rw [bind_eq_ok]
  constructor
  · rintro ⟨visto, hvisto, h⟩
    rw [mapError_eq_ok] at hvisto
    cases visto with
    | outro classe => cases h
    | de token =>
      cases hstate : estadoDoToken? token with
      | none =>
        simp only [hstate] at h
        cases h
      | some read =>
        simp only [hstate] at h
        obtain rfl := Except.ok.inj h
        rw [hvisto, estadoDoToken?_eq_some.mp hstate]
  · intro h
    exact ⟨.de state.value, mapError_eq_ok.mpr h, by simp only [estadoDoToken?_value]⟩

/-- The authority that the request asked for, resolved for its own context. -/
theorem resolverAutoridade_ok (h : resolverAutoridade amb t instante = .ok resolution) :
    GovernanceManager.resolve amb.governancePolicies t.descriptor t.context
        (some t.governancePolicyKey) instante.toDatetime = .ok resolution ∧
      resolution.operation = .accessibilityTransition ∧
      resolucaoVinculaContexto resolution t.context.domainIds t.context.actorRef
        t.context.purpose = [] := by
  obtain ⟨confirmado, -, h⟩ := bind_eq_ok.mp h
  obtain ⟨_, -, h⟩ := bind_eq_ok.mp h
  obtain ⟨found, hfound, h⟩ := bind_eq_ok.mp h
  obtain ⟨_, hfaithful, h⟩ := bind_eq_ok.mp h
  obtain rfl := Except.ok.inj h
  obtain ⟨hown, hcontext⟩ := List.append_eq_nil_iff.mp (recusarContrato_eq_ok.mp hfaithful)
  refine ⟨mapError_eq_ok.mp hfound, ?_, hcontext⟩
  have hfirst := reduceOption_eq_nil.mp hown _ List.mem_cons_self
  simpa using hfirst

theorem motivosDaPolicy_eq_nil : motivosDaPolicy policy t resolution = [] ↔
    policy.policyKey = t.accessibilityPolicyKey ∧
      policy.governancePolicyKey = t.governancePolicyKey ∧
      resolution.policyKey = some policy.governancePolicyKey := by
  rw [motivosDaPolicy, reduceOption_eq_nil]
  simp only [List.forall_mem_cons, refuse_eq_none, decide_eq_false_iff_not, not_not]
  constructor
  · rintro ⟨hkey, hgovernance, hresolved, -⟩
    exact ⟨hkey, hgovernance, hresolved.symm⟩
  · rintro ⟨hkey, hgovernance, hresolved⟩
    exact ⟨hkey, hgovernance, hresolved.symm, fun check hcheck => by cases hcheck⟩

/-- The decision of a version, and of which rules. -/
theorem avaliarVersao_ok (h : avaliarVersao policy t resolution source instante = .ok d) :
    motivosDaPolicy policy t resolution = [] ∧ ∃ regras,
      AccessibilityPolicy.deserializeRules policy.rules = .ok regras ∧
      d.toAccessibilityDecisionFields = decidir policy source t.targetState instante
        (aplicaveis regras source t.targetState) := by
  obtain ⟨_, hmotivos, h⟩ := bind_eq_ok.mp h
  obtain ⟨regras, hregras, h⟩ := bind_eq_ok.mp h
  exact ⟨recusarContrato_eq_ok.mp hmotivos, regras, hregras, decisao_of_make h⟩

theorem tipoErrado_eq_none {nome : String} {i : Identificador} :
    tipoErrado nome i = none ↔ ∃ id, i = .uuid id := by
  cases i with
  | uuid id => simp [tipoErrado]
  | outro classe => simp [tipoErrado]

theorem verificarPertencimento_ok {causalEventId provado : Referencia} {evento : CausalEventView}
    {historia : CausalHistoryView}
    (h : verificarPertencimento coid causalEventId evento historia = .ok provado) :
    ∃ historyId, evento = ⟨.uuid causalEventId, .uuid historyId⟩ ∧
      historia = ⟨.uuid historyId, .uuid coid⟩ := by
  obtain ⟨_, htypes, h⟩ := bind_eq_ok.mp h
  obtain ⟨_, hfields, h⟩ := bind_eq_ok.mp h
  rw [recusarContrato_eq_ok, tiposErrados, reduceOption_eq_nil] at htypes
  rw [recusarContrato_eq_ok, reduceOption_eq_nil] at hfields
  simp only [List.forall_mem_cons, refuse_eq_none, decide_eq_false_iff_not, not_not] at hfields
  obtain ⟨hevent, hsubject, hhistory, -⟩ := hfields
  have htype := htypes (tipoErrado "historia.id" historia.id)
    (List.mem_cons_of_mem _ (List.mem_cons_of_mem _ List.mem_cons_self))
  obtain ⟨historyId, hid⟩ := tipoErrado_eq_none.mp htype
  obtain ⟨eventId, eventHistory⟩ := evento
  obtain ⟨ownId, owner⟩ := historia
  dsimp only at hevent hsubject hhistory hid
  subst hid hevent hsubject hhistory
  exact ⟨historyId, rfl, rfl⟩

theorem verificarEvidenciaCausal_ok {causalEventId : Option Referencia} {provado : Referencia}
    (h : verificarEvidenciaCausal portas coid causalEventId db = .ok provado) :
    ∃ eventId historyId, causalEventId = some eventId ∧
      portas.getEvent eventId db = .ok (some (.de ⟨.uuid eventId, .uuid historyId⟩)) ∧
      portas.getBySubject coid db = .ok (some (.de ⟨.uuid historyId, .uuid coid⟩)) := by
  unfold verificarEvidenciaCausal at h
  cases causalEventId with
  | none => cases h
  | some eventId =>
    obtain ⟨visto, hvisto, h⟩ := bind_eq_ok.mp h
    rw [mapError_eq_ok] at hvisto
    rcases visto with _ | evento | classe
    case none => cases h
    case some.outro => cases h
    case some.de =>
      obtain ⟨outro, houtro, h⟩ := bind_eq_ok.mp h
      rw [mapError_eq_ok] at houtro
      rcases outro with _ | historia | classe
      case none => cases h
      case some.outro => cases h
      case some.de =>
        obtain ⟨historyId, rfl, rfl⟩ := verificarPertencimento_ok h
        exact ⟨eventId, historyId, rfl, hvisto, houtro⟩

/-- Evidence is looked for, and found, for an extinction and for no other change. -/
theorem evidencia_ok {provado : Option Referencia} (h : evidencia portas t db = .ok provado) :
    (t.targetState ≠ .causallyExtinct ∧ provado = none) ∨
      (t.targetState = .causallyExtinct ∧ provado ≠ none ∧
        ∃ eventId historyId, t.causalEventId = some eventId ∧
          portas.getEvent eventId db = .ok (some (.de ⟨.uuid eventId, .uuid historyId⟩)) ∧
          portas.getBySubject t.coid db = .ok (some (.de ⟨.uuid historyId, .uuid t.coid⟩))) := by
  unfold evidencia at h
  split at h
  case isTrue hextinct =>
    cases hfound : verificarEvidenciaCausal portas t.coid t.causalEventId db with
    | error e =>
      rw [hfound] at h
      cases h
    | ok eventId =>
      rw [hfound] at h
      obtain rfl := Except.ok.inj h
      exact .inr ⟨hextinct, Option.some_ne_none _, verificarEvidenciaCausal_ok hfound⟩
  case isFalse hother => exact .inl ⟨hother, (Except.ok.inj h).symm⟩

end Checks

/-! ## On the way to the write -/

section Way

variable {τ : Type} {portas : Portas τ} {amb : Ambiente} {pedido : PedidoDeTransicao}
  {s : Session τ}

/-- A request that has come as far as the write. -/
structure Encaminhada (portas : Portas τ) (amb : Ambiente) (pedido : PedidoDeTransicao) (db : τ)
    (t : Transicao) (resolution : GovernanceResolution) (instante : UtcInstant)
    (bloqueado : Sujeito) (atual : AccessibilityState) (decisao : AccessibilityDecision)
    (provado : Option Referencia) : Prop where
  instante_unico : instanteUnico amb.agora pedido.moment = .ok instante
  argumentos : validarArgumentos pedido = .ok t
  autoridade : resolverAutoridade amb t instante = .ok resolution
  autorizada : resolution.executionAuthorized = true
  sujeito : ∃ sujeito, portas.getById t.coid db = .ok (some sujeito) ∧
    verificarIdentidade sujeito t.coid "get_by_id" none = .ok () ∧
    portas.refreshForUpdate sujeito db = .ok bloqueado ∧
    verificarIdentidade bloqueado t.coid "refresh_for_update" (some sujeito) = .ok ()
  estado : lerEstado portas bloqueado db = .ok atual
  mudanca : atual ≠ t.targetState
  motivo : t.targetState = .causallyExtinct → t.reason.all blank = false
  decidida : avaliar amb.accessibilityPolicies t resolution atual instante = .ok decisao
  admitida : decisao.isAdmissible = true
  evidenciada : evidencia portas t db = .ok provado

/-- All but the write leaves the session as it is. -/
theorem ends_transition {Q : AccessibilityTransitionResult → Session τ → Prop}
    {E : AccessibilityError → Session τ → Prop} (hnada : ∀ r, r.stateChanged = false → Q r s)
    (hrecusa : ∀ e, E e s)
    (hescrita : ∀ t resolution instante bloqueado atual decisao provado,
      Encaminhada portas amb pedido s.current t resolution instante bloqueado atual decisao
        provado →
      Op.Ends Q E (escrever portas t resolution instante bloqueado decisao provado) s) :
    Op.Ends Q E (transition portas amb pedido) s := by
  have hmake (f : AccessibilityTransitionResultFields) (hf : f.stateChanged = false) :
      Op.Ends Q E (Op.lift (AccessibilityTransitionResult.make f)) s := by
    refine Op.Ends.lift (fun r hr => hnada r ?_) fun e _ => hrecusa e
    rw [resultado_of_make hr, hf]
  unfold transition
  refine Op.Ends.lift_bind (fun instante hinstante => ?_) fun e _ => hrecusa e
  refine Op.Ends.lift_bind (fun t ht => ?_) fun e _ => hrecusa e
  refine Op.Ends.lift_bind (fun resolution hresolution => ?_) fun e _ => hrecusa e
  split
  case isTrue => exact hmake _ rfl
  case isFalse hautorizada =>
    unfold executar
    refine Op.Ends.query_bind (fun achado hachado => ?_) fun e _ => hrecusa e
    cases achado with
    | none => exact Op.Ends.raise (hrecusa _)
    | some sujeito =>
      refine Op.Ends.lift_bind (fun _ hidentidade => ?_) fun e _ => hrecusa e
      refine Op.Ends.query_bind (fun bloqueado hbloqueado => ?_) fun e _ => hrecusa e
      refine Op.Ends.lift_bind (fun _ hinstancia => ?_) fun e _ => hrecusa e
      refine Op.Ends.query_bind (fun atual hatual => ?_) fun e _ => hrecusa e
      unfold decidirEscrita
      split
      case isTrue => exact hmake _ rfl
      case isFalse hmudanca =>
        split
        case isTrue => exact Op.Ends.raise (hrecusa _)
        case isFalse hmotivo =>
          refine Op.Ends.lift_bind (fun decisao hdecisao => ?_) fun e _ => hrecusa e
          split
          case isTrue => exact hmake _ rfl
          case isFalse hallowida =>
            refine Op.Ends.query_bind (fun provado hprovado => ?_) fun e _ => hrecusa e
            exact hescrita t resolution instante bloqueado atual decisao provado {
              instante_unico := hinstante
              argumentos := ht
              autoridade := hresolution
              autorizada := Bool.not_eq_false _ ▸ hautorizada
              sujeito := ⟨sujeito, mapError_eq_ok.mp hachado, hidentidade,
                mapError_eq_ok.mp hbloqueado, hinstancia⟩
              estado := hatual
              mudanca := hmudanca
              motivo := fun hextinto => by simpa [hextinto] using hmotivo
              decidida := hdecisao
              admitida := by simpa using hallowida
              evidenciada := hprovado }

end Way

/-! ## What a write rests on -/

/-- The version in force admits a change under the authority that was resolved. -/
structure Admitida (policies : List AccessibilityPolicy) (t : Transicao)
    (resolution : GovernanceResolution) (source : AccessibilityState) (moment : Instant)
    (policy : AccessibilityPolicy) (regras : List AccessibilityRule) : Prop where
  vigente : policy ∈ policies ∧ policy.policyKey = t.accessibilityPolicyKey ∧
    policy.vigente moment = true
  ultima : ∀ outra ∈ policies, outra.policyKey = t.accessibilityPolicyKey →
    outra.vigente moment = true → outra.version ≤ policy.version
  subordinada : policy.governancePolicyKey = t.governancePolicyKey ∧
    resolution.policyKey = some policy.governancePolicyKey
  lidas : AccessibilityPolicy.deserializeRules policy.rules = .ok regras
  admite : ∃ r ∈ regras, r.effect = .admits ∧ r.sourceState = source ∧
    r.targetState = t.targetState
  naoNega : ∀ r ∈ regras, r.sourceState = source → r.targetState = t.targetState →
    r.effect ≠ .deny

/-- An event that proves an extinction is one of the subject's own history. -/
structure Evidenciada {τ : Type} (portas : Portas τ) (t : Transicao) (db : τ) : Prop where
  reason : t.reason.all blank = false
  evento : ∃ eventId historyId, t.causalEventId = some eventId ∧
    portas.getEvent eventId db = .ok (some (.de ⟨.uuid eventId, .uuid historyId⟩)) ∧
    portas.getBySubject t.coid db = .ok (some (.de ⟨.uuid historyId, .uuid t.coid⟩))

/-- Governance, the policy, the subject under its lock and the evidence allow a write. -/
structure Permitida {τ : Type} (portas : Portas τ) (amb : Ambiente) (pedido : PedidoDeTransicao)
    (db : τ) (t : Transicao) (bloqueado : Sujeito) (atual : AccessibilityState) : Prop where
  argumentos : validarArgumentos pedido = .ok t
  sujeito : ∃ sujeito, portas.getById t.coid db = .ok (some sujeito) ∧
    portas.refreshForUpdate sujeito db = .ok bloqueado ∧
    sujeito.identidade = .de (.uuid t.coid) ∧ bloqueado.identidade = .de (.uuid t.coid) ∧
    sujeito.instancia = bloqueado.instancia
  estado : portas.getState bloqueado db = .ok (.de atual.value)
  mudanca : atual ≠ t.targetState
  autoridade : ∃ instante resolution policy regras,
    instanteUnico amb.agora pedido.moment = .ok instante ∧
    GovernanceManager.resolve amb.governancePolicies t.descriptor t.context
      (some t.governancePolicyKey) instante.toDatetime = .ok resolution ∧
    resolution.outcome = .admissible ∧
    Admitida amb.accessibilityPolicies t resolution atual instante.instant policy regras
  extincao : t.targetState = .causallyExtinct → Evidenciada portas t db

theorem avaliar_admissible {policies : List AccessibilityPolicy} {t : Transicao}
    {resolution : GovernanceResolution} {source : AccessibilityState} {instante : UtcInstant}
    {d : AccessibilityDecision} (h : avaliar policies t resolution source instante = .ok d)
    (hallow : d.isAdmissible = true) :
    ∃ policy regras, Admitida policies t resolution source instante.instant policy regras := by
  have houtcome : d.outcome = .admissible := of_decide_eq_true hallow
  unfold avaliar at h
  cases hpolicy : AccessibilityPolicy.effectiveVersionAt policies t.accessibilityPolicyKey
      instante.instant with
  | none =>
    simp only [hpolicy] at h
    have hnone : d.outcome = .notApplicable :=
      congrArg AccessibilityDecisionFields.outcome (decisao_of_make h)
    cases hnone.symm.trans houtcome
  | some policy =>
    simp only [hpolicy] at h
    obtain ⟨hmotivos, regras, hregras, hfields⟩ := avaliarVersao_ok h
    obtain ⟨hkey, hgovernance, hresolved⟩ := motivosDaPolicy_eq_nil.mp hmotivos
    obtain ⟨hmem, -, hforce, hlast⟩ := effectiveVersionAt_eq_some hpolicy
    have hdecided := (congrArg AccessibilityDecisionFields.outcome hfields).symm.trans houtcome
    obtain ⟨hsome, hnodeny⟩ := decidir_admissible.mp hdecided
    have hallows (r : AccessibilityRule) (hr : r.effect ≠ .deny) : r.effect = .admits := by
      cases heffect : r.effect with
      | admits => rfl
      | deny => exact absurd heffect hr
    refine ⟨policy, regras, {
      vigente := ⟨hmem, hkey, hforce⟩
      ultima := hlast
      subordinada := ⟨hgovernance, hresolved⟩
      lidas := hregras
      admite := ?_
      naoNega := fun r hr hsource htarget =>
        hnodeny r (mem_aplicaveis.mpr ⟨hr, hsource, htarget⟩) }⟩
    obtain ⟨r, hr⟩ := List.exists_mem_of_ne_nil _ hsome
    obtain ⟨hrule, hsource, htarget⟩ := mem_aplicaveis.mp hr
    exact ⟨r, hrule, hallows r (hnodeny r hr), hsource, htarget⟩

theorem Encaminhada.permitida {τ : Type} {portas : Portas τ} {amb : Ambiente}
    {pedido : PedidoDeTransicao} {db : τ} {t : Transicao} {resolution : GovernanceResolution}
    {instante : UtcInstant} {bloqueado : Sujeito} {atual : AccessibilityState}
    {decisao : AccessibilityDecision} {provado : Option Referencia}
    (h : Encaminhada portas amb pedido db t resolution instante bloqueado atual decisao provado) :
    Permitida portas amb pedido db t bloqueado atual := by
  obtain ⟨sujeito, hfound, hidentity, hlocked, hsame⟩ := h.sujeito
  rw [verificarIdentidade_eq_ok] at hidentity hsame
  obtain ⟨policy, regras, hallow⟩ := avaliar_admissible h.decidida h.admitida
  exact {
    argumentos := h.argumentos
    sujeito := ⟨sujeito, hfound, hlocked, hidentity.1, hsame.1, hsame.2 sujeito rfl⟩
    estado := lerEstado_eq_ok.mp h.estado
    mudanca := h.mudanca
    autoridade := ⟨instante, resolution, policy, regras, h.instante_unico,
      (resolverAutoridade_ok h.autoridade).1, of_decide_eq_true h.autorizada, hallow⟩
    extincao := fun hextinct => {
      reason := h.motivo hextinct
      evento := by
        rcases evidencia_ok h.evidenciada with ⟨hother, -⟩ | ⟨-, -, hevent⟩
        · exact absurd hextinct hother
        · exact hevent } }

end AccessibilityPolicyManager

end PiaOs.Memory
