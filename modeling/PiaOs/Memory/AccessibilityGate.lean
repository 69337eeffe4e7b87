import PiaOs.Memory.AccessibilityLaws

/-!
# The gate of a transition

Nothing is written before every condition of a transition holds. Over the ports of the library a
write that was allowed changes the state of the subject and nothing else, and what is checked
after it never fails.
-/

namespace PiaOs.Memory

open Support Piap Transactions Cognitive

namespace AccessibilityPolicyManager

/-! ## The write -/

section Write

variable {τ : Type} {portas : Portas τ} {amb : Ambiente} {pedido : PedidoDeTransicao}
  {t : Transicao} {resolution : GovernanceResolution} {instante : UtcInstant}
  {bloqueado : Sujeito} {atual : AccessibilityState} {decisao : AccessibilityDecision}
  {provado : Option Referencia}

/-- Over any ports, a write ends in the session that the manager of the library leaves. -/
theorem ends_escrever {s : Session τ} :
    Op.Ends (fun r s' => r.stateChanged = true ∧
        s' = (portas.transition bloqueado t.targetState t.reason s).2)
      (fun _ s' => s' = (portas.transition bloqueado t.targetState t.reason s).2)
      (escrever portas t resolution instante bloqueado decisao provado) s := by
  unfold escrever
  refine Op.Ends.bind (Op.Ends.mapError Op.Ends.run) ?_
  rintro escrito s' rfl
  refine Op.Ends.lift_bind (fun _ _ => ?_) fun e _ => rfl
  refine Op.Ends.query_bind (fun observado _ => ?_) fun e _ => rfl
  refine Op.Ends.lift_bind (fun _ _ => ?_) fun e _ => rfl
  refine Op.Ends.lift (fun r hr => ⟨?_, rfl⟩) fun e _ => rfl
  rw [resultado_of_make hr]

theorem avaliar_citada {policies : List AccessibilityPolicy}
    (h : avaliar policies t resolution atual instante = .ok decisao) :
    decisao.targetState = t.targetState ∧ decisao.evaluatedAt = instante ∧
      ∀ key ∈ decisao.governancePolicyKey, resolution.policyKey = some key := by
  unfold avaliar at h
  cases hpolicy : AccessibilityPolicy.effectiveVersionAt policies t.accessibilityPolicyKey
      instante.instant with
  | none =>
    simp only [hpolicy] at h
    rw [decisao_of_make h]
    exact ⟨rfl, rfl, fun key hkey => by cases hkey⟩
  | some policy =>
    simp only [hpolicy] at h
    obtain ⟨hmotivos, regras, -, hfields⟩ := avaliarVersao_ok h
    obtain ⟨-, -, hresolved⟩ := motivosDaPolicy_eq_nil.mp hmotivos
    rw [hfields]
    cases aplicaveis regras atual t.targetState with
    | nil => exact ⟨rfl, rfl, fun key hkey => by cases hkey⟩
    | cons primeira outras =>
      refine ⟨rfl, rfl, fun key hkey => ?_⟩
      obtain rfl := Option.some.inj hkey
      exact hresolved

/-- The result of a write that was allowed. -/
def escrita (t : Transicao) (resolution : GovernanceResolution) (instante : UtcInstant)
    (decisao : AccessibilityDecision) (provado : Option Referencia) :
    AccessibilityTransitionResultFields :=
  { resultado t resolution instante with
    decision := some decisao
    observedState := some t.targetState
    stateChanged := true
    causalEventId := provado }

/-- It passes its own checks. -/
theorem violation_escrita {db : τ}
    (h : Encaminhada portas amb pedido db t resolution instante bloqueado atual decisao provado) :
    (escrita t resolution instante decisao provado).violation = none := by
  obtain ⟨-, hoperation, hcontext⟩ := resolverAutoridade_ok h.autoridade
  obtain ⟨htarget, hinstant, hkey⟩ := avaliar_citada h.decidida
  have hauthority : decisao.governancePolicyKey.isSome = true →
      decisao.governancePolicyKey = resolution.policyKey := by
    intro hsome
    obtain ⟨key, hsome⟩ := Option.isSome_iff_exists.mp hsome
    rw [hsome, hkey key hsome]
  have hdecision : (escrita t resolution instante decisao provado).decisao = none := by
    have hrun : (escrita t resolution instante decisao provado).decisao = firstOf
        [refuse (decisao.targetState ≠ t.targetState) _,
          refuse (decisao.evaluatedAt.instant ≠ instante.instant) _,
          refuse (decisao.governancePolicyKey.isSome &&
            decisao.governancePolicyKey ≠ resolution.policyKey) _] := rfl
    rw [hrun, firstOf_eq_none]
    simpa [htarget, hinstant] using hauthority
  have houtcome : (escrita t resolution instante decisao provado).validarDesfecho = none := by
    have hauthorized : resolution.executionAuthorized = true := h.autorizada
    simp only [AccessibilityTransitionResultFields.validarDesfecho, escrita, resultado,
      hauthorized, h.admitida, Bool.true_eq_false, Bool.false_eq_true, if_false,
      Option.isNone_some, firstOf_eq_none, List.forall_mem_cons]
    rcases evidencia_ok h.evidenciada with ⟨hother, rfl⟩ | ⟨hextinct, hsome, -⟩
    · simp [hother]
    · simpa [hextinct, Option.isNone_eq_false_iff, Option.isSome_iff_ne_none] using hsome
  have hrun : (escrita t resolution instante decisao provado).violation = firstOf
      [none, refuse (resolucaoVinculaContexto resolution t.context.domainIds t.context.actorRef
          t.context.purpose ≠ []) _,
        refuse (resolution.operation ≠ .accessibilityTransition) _,
        (escrita t resolution instante decisao provado).decisao,
        (escrita t resolution instante decisao provado).validarDesfecho] := rfl
  rw [hrun, hdecision, houtcome, firstOf_eq_none]
  simp [hcontext, hoperation]

end Write

/-! ## The ports of the library -/

section Library

variable {amb : Ambiente} {pedido : PedidoDeTransicao} {t : Transicao}
  {resolution : GovernanceResolution} {instante : UtcInstant} {bloqueado : Sujeito}
  {atual : AccessibilityState} {decisao : AccessibilityDecision} {provado : Option Referencia}
  {db : Biblioteca} {s : Session Biblioteca} {coid : Referencia}

theorem coid?_of_identidade {sujeito : Sujeito} (h : sujeito.identidade = .de (.uuid coid)) :
    sujeito.coid? = some coid := by
  rw [Sujeito.coid?, h]

theorem linhaDe_eq_ok {sujeito : Sujeito} (h : sujeito.identidade = .de (.uuid coid))
    {row : CognitiveObject} : linhaDe sujeito db = .ok row ↔ db.objects.lookup coid = some row := by
  unfold linhaDe
  rw [coid?_of_identidade h]
  cases hrow : db.objects.lookup coid with
  | none => simp [hrow]
  | some found => simp [hrow]

/-- The state that the ports read is the one of the row. -/
theorem lerEstado_biblioteca {sujeito : Sujeito} (h : sujeito.identidade = .de (.uuid coid))
    {state : AccessibilityState} : lerEstado portasDaBiblioteca sujeito db = .ok state ↔
      ∃ row, db.objects.lookup coid = some row ∧ row.accessibility = state.naBiblioteca := by
  have hget : portasDaBiblioteca.getState sujeito db =
      (linhaDe sujeito db).map fun row => .de row.accessibility.value := rfl
  rw [lerEstado_eq_ok, hget, ← value_naBiblioteca]
  constructor
  · intro hstate
    cases hrow : linhaDe sujeito db with
    | error e =>
      rw [hrow] at hstate
      cases hstate
    | ok row =>
      rw [hrow] at hstate
      have hsame := Visto.de.inj (Except.ok.inj hstate)
      exact ⟨row, (linhaDe_eq_ok h).mp hrow, Cognitive.AccessibilityState.value_injective hsame⟩
  · rintro ⟨row, hrow, hrowstate⟩
    rw [(linhaDe_eq_ok h).mpr hrow, ← hrowstate]
    rfl

/-- The state of one object is written, in the session. -/
structure Transicionada (coid : Referencia) (targetState : Cognitive.AccessibilityState)
    (s s' : Session Biblioteca) : Prop where
  base : s'.base = s.base
  gravado : ∃ row, s.current.objects.lookup coid = some row ∧ row.accessibility ≠ targetState ∧
    Gravado coid { row with accessibility := targetState } s.current s'.current

/-- A write that the database refuses: another row has the place of the object in the index. -/
def Colidida (coid : Referencia) (s s' : Session Biblioteca) : Prop :=
  s' = s.rollback ∧ ∃ row, s.current.objects.lookup coid = some row ∧
    s.current.outraCurrent coid row

/-- Over the ports of the library what is checked after the write never fails. -/
theorem ends_escrever_biblioteca
    (h : Encaminhada portasDaBiblioteca amb pedido s.current t resolution instante bloqueado atual
      decisao provado) :
    Op.Ends
      (fun r s' => r.stateChanged = true ∧
        Transicionada t.coid t.targetState.naBiblioteca s s')
      (fun _ s' => Colidida t.coid s s')
      (escrever portasDaBiblioteca t resolution instante bloqueado decisao provado) s := by
  have hallowed := h.permitida
  obtain ⟨-, -, -, -, hidentity, -⟩ := hallowed.sujeito
  obtain ⟨row, hrow, hstate⟩ := (lerEstado_biblioteca hidentity).mp h.estado
  have hchange : t.targetState.naBiblioteca ≠ row.accessibility := by
    rw [hstate]
    exact fun hsame => h.mudanca (naBiblioteca_injective hsame).symm
  have hreason (hextinct : t.targetState.naBiblioteca = .causallyExtinct) :
      t.reason.all (· = "") = false := by
    have hstated := h.motivo (naBiblioteca_injective hextinct)
    cases hr : t.reason with
    | none =>
      rw [hr] at hstated
      cases hstated
    | some reason =>
      rw [hr] at hstated
      refine decide_eq_false fun hempty => ?_
      rw [hempty] at hstated
      exact absurd hstated (by decide)
  have hwrite : Op.Ends (fun escrito s' => escrito = bloqueado ∧ s'.base = s.base ∧
        Gravado t.coid { row with accessibility := t.targetState.naBiblioteca }
          s.current s'.current)
      (fun _ s' => s' = s.rollback ∧ s.current.outraCurrent t.coid row)
      (portasDaBiblioteca.transition bloqueado t.targetState t.reason) s := by
    have hrun : portasDaBiblioteca.transition bloqueado t.targetState t.reason =
        AccessibilityManager.transition t.coid t.targetState.naBiblioteca t.reason >>= fun _ =>
          pure bloqueado := by
      simp only [portasDaBiblioteca, coid?_of_identidade hidentity]
    rw [hrun]
    refine Op.Ends.bind (Cognitive.ends_transition hrow hchange hreason) ?_
    intro _ s' hdone
    exact Op.Ends.ret ⟨rfl, hdone⟩
  unfold escrever
  refine Op.Ends.bind (Op.Ends.mapError (Op.Ends.mono hwrite (fun _ _ hdone => hdone)
    fun e s' hfail => ⟨hfail.1, row, hrow, hfail.2⟩)) ?_
  rintro escrito s' ⟨rfl, hbase, hgravado⟩
  have hafter : s'.current.objects.lookup t.coid =
      some { row with accessibility := t.targetState.naBiblioteca } := by
    rw [hgravado.objects, if_pos rfl]
  have hread : lerEstado portasDaBiblioteca escrito s'.current = .ok t.targetState :=
    (lerEstado_biblioteca hidentity).mpr ⟨_, hafter, rfl⟩
  refine Op.Ends.lift_bind (fun _ _ => ?_) fun e he => ?_
  · refine Op.Ends.query_bind (fun observado hobserved => ?_) fun e he => ?_
    · obtain rfl : t.targetState = observado := Except.ok.inj (hread.symm.trans hobserved)
      refine Op.Ends.lift_bind (fun _ _ => ?_) fun e he => ?_
      · refine Op.Ends.lift (fun r hr => ⟨?_, hbase, row, hrow, hchange.symm, hgravado⟩)
          fun e he => ?_
        · rw [resultado_of_make hr]
        · have hmade : AccessibilityTransitionResult.make
              (escrita t resolution instante decisao provado) = .ok ⟨_, violation_escrita h⟩ := by
            rw [AccessibilityTransitionResult.make, checked_eq_ok (violation_escrita h)]
            rfl
          cases hmade.symm.trans he
      · have hpost : verificarPoscondicao t.targetState t.targetState = .ok () :=
          recusarContrato_eq_ok.mpr (by simp [reduceOption_eq_nil])
        cases hpost.symm.trans he
    · cases hread.symm.trans he
  · have hidentified : verificarIdentidade escrito t.coid "transition" (some escrito) = .ok () :=
      verificarIdentidade_eq_ok.mpr ⟨hidentity, fun o ho => by rw [← Option.some.inj ho]⟩
    cases hidentified.symm.trans he

end Library

/-! ## The order of the rules of a policy -/

section Order

variable {τ : Type} {portas : Portas τ} {amb : Ambiente} {pedido : PedidoDeTransicao}
  {ordem : AccessibilityPolicy → List RegraGravada}

/-- The same policies, with the rules of each in another order. -/
def reordenado (ordem : AccessibilityPolicy → List RegraGravada) (amb : Ambiente) : Ambiente :=
  { amb with accessibilityPolicies := amb.accessibilityPolicies.map (reordenada ordem) }

theorem decidirEscrita_reordenado {t : Transicao} {resolution : GovernanceResolution}
    {instante : UtcInstant} {bloqueado : Sujeito} {atual : AccessibilityState}
    (hordem : ∀ p ∈ amb.accessibilityPolicies, (ordem p).Perm p.rules) :
    Op.Alike (decidirEscrita portas (reordenado ordem amb) t resolution instante bloqueado atual)
      (decidirEscrita portas amb t resolution instante bloqueado atual) := by
  unfold decidirEscrita
  split
  case isTrue => exact .refl _
  case isFalse =>
    split
    case isTrue => exact .refl _
    case isFalse => exact .lift_bind fun d => avaliar_reordenada hordem

theorem transition_reordenado
    (hordem : ∀ p ∈ amb.accessibilityPolicies, (ordem p).Perm p.rules) :
    Op.Alike (transition portas (reordenado ordem amb) pedido) (transition portas amb pedido) := by
  unfold transition
  refine .bind fun instante => .bind fun t => .bind fun resolution => ?_
  split
  case isTrue => exact .refl _
  case isFalse =>
    unfold executar
    refine .bind fun achado => ?_
    cases achado with
    | none => exact .refl _
    | some sujeito =>
      refine .bind fun _ => .bind fun bloqueado => .bind fun _ => .bind fun atual => ?_
      exact decidirEscrita_reordenado hordem

end Order

/-! ## The gate -/

/-- What the manager of the library leaves, asked for a write that everything allows. -/
def Escrito {τ : Type} (portas : Portas τ) (amb : Ambiente) (pedido : PedidoDeTransicao)
    (s s' : Session τ) : Prop :=
  ∃ t bloqueado atual, Permitida portas amb pedido s.current t bloqueado atual ∧
    s' = (portas.transition bloqueado t.targetState t.reason s).2

/-- In the library: the state of the subject is what was asked for, and nothing else changed. -/
def EscritoNaBiblioteca (amb : Ambiente) (pedido : PedidoDeTransicao)
    (s s' : Session Biblioteca) : Prop :=
  ∃ t bloqueado atual, Permitida portasDaBiblioteca amb pedido s.current t bloqueado atual ∧
    Transicionada t.coid t.targetState.naBiblioteca s s'

/-- What a transition may do, for every request and in every session. -/
structure Portao (amb : Ambiente) : Prop where
  /-- Whatever the ports give, the session changes only by a write that everything allows. -/
  portas {τ : Type} (portas : Portas τ) (pedido : PedidoDeTransicao) (s : Session τ) :
    Op.Ends
      (fun r s' => if r.stateChanged = false then s' = s else Escrito portas amb pedido s s')
      (fun _ s' => s' = s ∨ Escrito portas amb pedido s s')
      (AccessibilityPolicyManager.transition portas amb pedido) s
  /-- In the library a write that everything allows fails only when the index of current
  revisions refuses it. -/
  biblioteca (pedido : PedidoDeTransicao) (s : Session Biblioteca) :
    Op.Ends
      (fun r s' => if r.stateChanged = false then s' = s else EscritoNaBiblioteca amb pedido s s')
      (fun _ s' => s' = s ∨ ∃ t, validarArgumentos pedido = .ok t ∧ Colidida t.coid s s')
      (AccessibilityPolicyManager.transition portasDaBiblioteca amb pedido) s
  ordem {τ : Type} (portas : Portas τ) (pedido : PedidoDeTransicao)
    (ordem : AccessibilityPolicy → List RegraGravada)
    (hordem : ∀ p ∈ amb.accessibilityPolicies, (ordem p).Perm p.rules) :
    Op.Alike (AccessibilityPolicyManager.transition portas (reordenado ordem amb) pedido)
      (AccessibilityPolicyManager.transition portas amb pedido)

end AccessibilityPolicyManager

open AccessibilityPolicyManager in
/-- A transition of accessibility writes only what governance, the policy and the evidence allow,
leaves the session as it was otherwise, and does not depend on the order of the rules. -/
theorem accessibility_gate (amb : Ambiente) : Portao amb where
  portas portas pedido s := by
    refine ends_transition (fun r hr => ?_) (fun _ => .inl rfl) ?_
    · rw [if_pos hr]
    · intro t resolution instante bloqueado atual decisao provado h
      have hallowed := h.permitida
      refine Op.Ends.mono ends_escrever (fun r s' hr => ?_) fun _ s' hs =>
        .inr ⟨t, bloqueado, atual, hallowed, hs⟩
      rw [hr.1, if_neg Bool.noConfusion]
      exact ⟨t, bloqueado, atual, hallowed, hr.2⟩
  biblioteca pedido s := by
    refine ends_transition (fun r hr => ?_) (fun _ => .inl rfl) ?_
    · rw [if_pos hr]
    · intro t resolution instante bloqueado atual decisao provado h
      refine Op.Ends.mono (ends_escrever_biblioteca h) (fun r s' hr => ?_) fun _ s' hs =>
        .inr ⟨t, h.argumentos, hs⟩
      rw [hr.1, if_neg Bool.noConfusion]
      exact ⟨t, bloqueado, atual, h.permitida, hr.2⟩
  ordem _ _ _ hordem := transition_reordenado hordem

end PiaOs.Memory
