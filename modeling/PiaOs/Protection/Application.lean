import PiaOs.Protection.Fingerprint
import PiaOs.Transactions.Histories

/-!
# The application of a decision

The bridge requires a resolution that is bound to its question and in force, and registers its
application once for each fingerprint, gate and binding. The event and its capabilities are
written under a savepoint; the loser of a race reads the winner and compares all of it.
-/

namespace PiaOs.Protection

open Support Memory Piap Transactions.Savepoints

/-! ## The bridge -/

/-- What the bridge and its repository raise. -/
inductive ErroDaPonte (ε : Type)
  /-- `HumanProtectionGateUnavailableError`. -/
  | indisponivel (texto : String)
  | valueError (texto : String)
  /-- The comparison of instants with and without an offset. -/
  | typeError
  /-- What the serialization of the binding raises. -/
  | naoSerializa
  | banco (e : ε)
  /-- The `IntegrityError` of an identifier that was drawn before. -/
  | duplicada
  | transacaoFalhou
  | multipleResultsFound
  deriving DecidableEq

structure ProtectionEffects where
  pauseApplied : Bool := false
  delegationsRevoked : ℤ := 0
  attemptId : Option Referencia := none
  naoNegativo : 0 ≤ delegationsRevoked := by decide

/-- What a call of `registrar_aplicacao` is given. -/
structure Chamada where
  vista : GovernanceResolutionView
  binding : GovernanceBinding
  efeitos : ProtectionEffects
  /-- `moment`, or the reading of the clock. -/
  agora : Momento

namespace HumanProtectionBridge

variable {ε : Type}

/-- Raises the text of a check that failed. -/
def recusar : Option String → Except (ErroDaPonte ε) Unit
  | none => .ok ()
  | some texto => .error (.indisponivel texto)

/-- `_exigir_vinculo`. -/
def exigirVinculo (vista : GovernanceResolutionView) (binding : GovernanceBinding) :
    Except (ErroDaPonte ε) Unit :=
  match calcularBindingSha256 binding.toGovernanceBindingFields with
  | none => .error .naoSerializa
  | some esperado => recusar <| firstOf
      [refuse (vista.bindingSha256 ≠ Texto.of esperado)
          "a resolução não está vinculada a esta aplicação do gate",
        refuse (vista.boundaryVersion ≠ binding.boundaryVersion)
          "versão da fronteira divergente entre a resolução e o binding",
        refuse (vista.classifierVersion ≠ binding.classifierVersion)
          "versão do classificador divergente entre a resolução e o binding",
        refuse (vista.validUntil.instant ≠ binding.validUntil.instant)
          "validade divergente entre a resolução e o binding"]

/-- `_exigir_validade`. -/
def exigirValidade (vista : GovernanceResolutionView) (agora : Momento) :
    Except (ErroDaPonte ε) Unit :=
  match agora.antes vista.validUntil, agora.antes vista.evaluatedAt with
  | some emVigor, some adiantado => recusar <| firstOf
      [refuse (!emVigor) "resolução vencida — decisão expirada não autoriza nem recusa",
        refuse adiantado "resolução avaliada no futuro — instante incoerente"]
  | _, _ => .error .typeError

/-- `DESFECHO_POR_FRONTEIRA`. -/
def desfechoPorFronteira : List (BoundaryOutcome × ProtectionOutcome) :=
  [(.prohibited, .blocked), (.notApplicable, .allowed)]

/-- `desfecho`. -/
def desfecho (vista : GovernanceResolutionView) : Except (ErroDaPonte ε) ProtectionOutcome :=
  match desfechoPorFronteira.lookup vista.outcome with
  | some outcome => .ok outcome
  | none => .error (.indisponivel
      ("desfecho '" ++ vista.outcome.value ++ "' não é interpretável pela ponte"))

/-- The fields that `montar_aplicacao` gives to the constructor. -/
def camposDaAplicacao (c : Chamada) (outcome : ProtectionOutcome) :
    HumanProtectionApplicationFields where
  controlPrincipalRef := c.binding.principalRef
  scheduleId := c.binding.scheduleId
  stepId := c.binding.stepId
  attemptId := c.efeitos.attemptId
  bindingAttemptId := c.binding.attemptId
  objectiveSha256 := c.binding.objectiveSha256
  decisionFingerprint := c.vista.decisionFingerprint
  fingerprintAlgoVersion := Texto.of fingerprintAlgoVersion
  bindingSha256 := c.vista.bindingSha256
  bindingAlgoVersion := Texto.of bindingAlgoVersion
  outcome
  capabilityEngagement := if outcome = .blocked then some c.vista.capabilityEngagement else none
  boundaryVersion := c.binding.boundaryVersion
  classifierVersion := c.binding.classifierVersion
  cognitiveOperation := c.binding.operation
  gatePosition := c.binding.gatePosition
  producerRef := Texto.of producerRef
  pauseApplied := c.efeitos.pauseApplied
  delegationsRevoked := c.efeitos.delegationsRevoked
  blockedCapabilities := if outcome = .blocked then c.vista.blockedCapabilities else []

/-- `montar_aplicacao`. -/
def montarAplicacao (c : Chamada) : Except (ErroDaPonte ε) HumanProtectionApplication := do
  let outcome ← desfecho c.vista
  let campos := camposDaAplicacao c outcome
  (checked campos.violation fun h => (⟨campos, h⟩ : HumanProtectionApplication)).mapError .valueError

/-- The part of `registrar_aplicacao` before its first statement. -/
def preparar (c : Chamada) : Except (ErroDaPonte ε) HumanProtectionApplication := do
  exigirVinculo c.vista c.binding
  let aplicacao ← montarAplicacao c
  exigirValidade c.vista c.agora
  return aplicacao

end HumanProtectionBridge

/-! ## The tables -/

/-- `uq_hpe_decision_gate_binding`, and the identifiers. -/
inductive Chave
  | id (n : ℕ)
  | decisao (fingerprint : Texto) (gate : GatePosition) (binding : Texto)
  deriving DecidableEq

def HumanProtectionApplicationFields.chave (f : HumanProtectionApplicationFields) : Chave :=
  .decisao f.decisionFingerprint f.gatePosition f.bindingSha256

/-- What the sessions write: the event of an application with its capabilities, which one
savepoint covers, and rows of other tables. -/
inductive Escrita (τ : Type)
  | aplicada (n : ℕ) (linha : HumanProtectionApplicationFields)
  | outra (w : τ)
  deriving DecidableEq

section Tabelas

variable {τ χ ε : Type}

/-- The database. The columns, the constraints of a row and its foreign keys may refuse an
event; as each has an identifier of its own, they may take later what they refused before. -/
def banco (recusa : ℕ → HumanProtectionApplicationFields → Option ε) (outras : Engine τ χ ε) :
    Engine (Escrita τ) (Chave ⊕ χ) ε where
  keys
    | .aplicada n linha => [.inl (.id n), .inl linha.chave]
    | .outra w => (outras.keys w).map .inr
  keys_nodup w := by
    cases w with
    | aplicada n linha => simp [HumanProtectionApplicationFields.chave]
    | outra w => exact (outras.keys_nodup w).map Sum.inr_injective
  refuses
    | .aplicada n linha => recusa n linha
    | .outra w => outras.refuses w
  direct
    | .aplicada _ _ => false
    | .outra w => outras.direct w

/-- The nineteen fields that an event has. -/
def HumanProtectionApplicationFields.doEvento (f : HumanProtectionApplicationFields) :
    HumanProtectionApplicationFields :=
  { f with blockedCapabilities := [] }

/-- The rows of `human_protection_events`, each under its identifier. -/
def eventos (visto : List (Escrita τ)) : List (ℕ × HumanProtectionApplicationFields) :=
  visto.filterMap fun
    | .aplicada n linha => some (n, linha.doEvento)
    | .outra _ => none

/-- The rows of `human_protection_event_capabilities`: the event, the ordinal, the capability. -/
def capacidades (visto : List (Escrita τ)) : List (ℕ × ℕ × BoundaryCapability) :=
  visto.flatMap fun
    | .aplicada n linha => linha.blockedCapabilities.zipIdx.map fun item => (n, item.2, item.1)
    | .outra _ => []

/-- The capabilities of an event, `ORDER BY ordinal`. -/
def capacidadesDe (visto : List (Escrita τ)) (n : ℕ) : List BoundaryCapability :=
  (((capacidades visto).filter (·.1 = n)).insertionSort fun a b => a.2.1 ≤ b.2.1).map (·.2.2)

end Tabelas

/-! ## The repository -/

/-- `CAMPOS_IMUTAVEIS_DA_APLICACAO`, and whether two applications agree on each. -/
def camposImutaveis (v a : HumanProtectionApplicationFields) : List (String × Bool) :=
  [("control_principal_ref", v.controlPrincipalRef = a.controlPrincipalRef),
    ("schedule_id", v.scheduleId = a.scheduleId),
    ("step_id", v.stepId = a.stepId),
    ("attempt_id", v.attemptId = a.attemptId),
    ("binding_attempt_id", v.bindingAttemptId = a.bindingAttemptId),
    ("objective_sha256", v.objectiveSha256 = a.objectiveSha256),
    ("decision_fingerprint", v.decisionFingerprint = a.decisionFingerprint),
    ("fingerprint_algo_version", v.fingerprintAlgoVersion = a.fingerprintAlgoVersion),
    ("binding_sha256", v.bindingSha256 = a.bindingSha256),
    ("binding_algo_version", v.bindingAlgoVersion = a.bindingAlgoVersion),
    ("outcome", v.outcome = a.outcome),
    ("capability_engagement", v.capabilityEngagement = a.capabilityEngagement),
    ("boundary_version", v.boundaryVersion = a.boundaryVersion),
    ("classifier_version", v.classifierVersion = a.classifierVersion),
    ("cognitive_operation", v.cognitiveOperation = a.cognitiveOperation),
    ("gate_position", v.gatePosition = a.gatePosition),
    ("producer_ref", v.producerRef = a.producerRef),
    ("pause_applied", v.pauseApplied = a.pauseApplied),
    ("delegations_revoked", v.delegationsRevoked = a.delegationsRevoked)]

/-- The fields on which the winner differs. -/
def divergentes (v a : HumanProtectionApplicationFields) : List String :=
  (((camposImutaveis v a).filter fun campo => !campo.2).map (·.1)) ++
    if v.blockedCapabilities = a.blockedCapabilities then [] else ["blocked_capabilities"]

namespace HumanProtectionRepository

variable {τ χ ε : Type}

/-- The program of a call. -/
abbrev Programa (τ χ ε : Type) : Type :=
  Prog (Escrita τ) (Chave ⊕ χ) ε (Except (ErroDaPonte ε) HumanProtectionApplication)

/-- `inserir_se_ausente`. The identifier is drawn before the savepoint. -/
def inserirSeAusente (a : HumanProtectionApplication) (k : Option ℕ → Programa τ χ ε) :
    Programa τ χ ε :=
  .draw fun n => .savepoint fun
    | false => .pure (.error .transacaoFalhou)
    | true => .insert (.aplicada n a.toHumanProtectionApplicationFields) (some (.inl a.chave)) fun
      | .written => .release (k (some n))
      | .nothing => .release (k none)
      | .duplicate _ => .rollback (.pure (.error .duplicada))
      | .refused e => .rollback (.pure (.error (.banco e)))
      | .failed => .rollback (.pure (.error .transacaoFalhou))

/-- `ler_aplicacao`. The event and its capabilities are read one after the other. -/
def lerAplicacao (chave : Chave) (k : Option HumanProtectionApplication → Programa τ χ ε) :
    Programa τ χ ε :=
  .select fun
  | none => .pure (.error .transacaoFalhou)
  | some visto =>
    match (eventos visto).filter (·.2.chave = chave) with
    | [] => k none
    | [(n, linha)] => .select fun
      | none => .pure (.error .transacaoFalhou)
      | some depois =>
        let lida := { linha with blockedCapabilities := capacidadesDe depois n }
        match checked lida.violation fun h => (⟨lida, h⟩ : HumanProtectionApplication) with
        | .error texto => .pure (.error (.valueError texto))
        | .ok aplicacao => k (some aplicacao)
    | _ :: _ :: _ => .pure (.error .multipleResultsFound)

/-- `confirmar_vencedor`, and the answer of its caller. -/
def confirmarVencedor (a : HumanProtectionApplication) : Programa τ χ ε :=
  lerAplicacao a.chave fun
  | none => .pure (.error (.indisponivel ("conflito em uq_hpe_decision_gate_binding sem linha " ++
      "legível para a chave — o gate não pode confirmar a aplicação registrada")))
  | some vencedor =>
    match divergentes vencedor.toHumanProtectionApplicationFields
        a.toHumanProtectionApplicationFields with
    | [] => .pure (.ok a)
    | campos => .pure (.error (.indisponivel
        ("evento concorrente descreve outra aplicação para a mesma chave; campos divergentes: " ++
          pyList ((campos.insertionSort (· ≤ ·)).map pyRepr))))

end HumanProtectionRepository

/-- `registrar_aplicacao`. -/
def registrarAplicacao {τ χ ε : Type} (c : Chamada) : HumanProtectionRepository.Programa τ χ ε :=
  match HumanProtectionBridge.preparar c with
  | .error e => .pure (.error e)
  | .ok aplicacao => HumanProtectionRepository.inserirSeAusente aplicacao fun
    | some _ => .pure (.ok aplicacao)
    | none => HumanProtectionRepository.confirmarVencedor aplicacao

/-! ## What a prepared application says -/

open HumanProtectionBridge

/-- The view answers the question of the binding and is in force, and the application tells the
outcome of the boundary. -/
structure Autorizada (c : Chamada) (a : HumanProtectionApplication) : Prop where
  vinculo : ∃ sha, calcularBindingSha256 c.binding.toGovernanceBindingFields = some sha ∧
    c.vista.bindingSha256 = Texto.of sha
  versoes : c.vista.boundaryVersion = c.binding.boundaryVersion ∧
    c.vista.classifierVersion = c.binding.classifierVersion ∧
    c.vista.validUntil.instant = c.binding.validUntil.instant
  vigente : c.vista.evaluatedAt.instant ≤ c.agora.instant ∧
    c.agora.instant < c.vista.validUntil.instant
  permitida : a.outcome = .allowed ↔ c.vista.outcome = .notApplicable
  bloqueada : a.outcome = .blocked ↔ c.vista.outcome = .prohibited
  capacidades : a.blockedCapabilities = c.vista.blockedCapabilities
  /-- Work does not go on after a refusal. -/
  parada : a.outcome = .blocked → a.gatePosition ≠ .g1 → c.efeitos.pauseApplied = true
  chave : a.chave = .decisao c.vista.decisionFingerprint c.binding.gatePosition
    c.vista.bindingSha256
  dono : a.controlPrincipalRef = c.binding.principalRef ∧ a.scheduleId = c.binding.scheduleId ∧
    a.stepId = c.binding.stepId ∧ a.objectiveSha256 = c.binding.objectiveSha256

section Preparar

variable {ε : Type} {c : Chamada} {a : HumanProtectionApplication}

theorem recusar_eq_ok {violation : Option String} {u : Unit} :
    recusar (ε := ε) violation = .ok u ↔ violation = none := by
  cases violation with
  | none => exact ⟨fun _ => rfl, fun _ => rfl⟩
  | some texto => exact iff_of_false (fun h => by cases h) fun h => by cases h

theorem exigirVinculo_ok {u : Unit} (h : exigirVinculo (ε := ε) c.vista c.binding = .ok u) :
    (∃ sha, calcularBindingSha256 c.binding.toGovernanceBindingFields = some sha ∧
      c.vista.bindingSha256 = Texto.of sha) ∧
      c.vista.boundaryVersion = c.binding.boundaryVersion ∧
      c.vista.classifierVersion = c.binding.classifierVersion ∧
      c.vista.validUntil.instant = c.binding.validUntil.instant := by
  unfold exigirVinculo at h
  split at h
  case h_1 => cases h
  case h_2 sha hsha =>
    have hchecks := recusar_eq_ok.mp h
    simp only [firstOf_cons, firstOf_nil, and_true, refuse_eq_none, decide_eq_false_iff_not,
      not_not] at hchecks
    exact ⟨⟨sha, hsha, hchecks.1⟩, hchecks.2⟩

theorem antes_eq_some {x y : Momento} {b : Bool} (h : x.antes y = some b) :
    b = true ↔ x.instant < y.instant := by
  cases x with
  | ingenuo x =>
    cases y with
    | ingenuo y =>
      obtain rfl := Option.some.inj h
      exact decide_eq_true_iff
    | ciente y => cases h
  | ciente x =>
    cases y with
    | ingenuo y => cases h
    | ciente y =>
      obtain rfl := Option.some.inj h
      exact decide_eq_true_iff

theorem exigirValidade_ok {u : Unit} (h : exigirValidade (ε := ε) c.vista c.agora = .ok u) :
    c.vista.evaluatedAt.instant ≤ c.agora.instant ∧ c.agora.instant < c.vista.validUntil.instant := by
  unfold exigirValidade at h
  split at h
  case h_1 emVigor adiantado huntil hfrom =>
    have hchecks := recusar_eq_ok.mp h
    simp only [firstOf_cons, firstOf_nil, and_true, refuse_eq_none, Bool.not_eq_false'] at hchecks
    obtain ⟨hin, hout⟩ := hchecks
    refine ⟨not_lt.mp fun hlt => ?_, (antes_eq_some huntil).mp hin⟩
    rw [(antes_eq_some hfrom).mpr hlt] at hout
    cases hout
  case h_2 => cases h

theorem desfecho_ok {outcome : ProtectionOutcome}
    (h : HumanProtectionBridge.desfecho (ε := ε) c.vista = .ok outcome) :
    c.vista.outcome = .prohibited ∧ outcome = .blocked ∨
      c.vista.outcome = .notApplicable ∧ outcome = .allowed := by
  unfold HumanProtectionBridge.desfecho desfechoPorFronteira at h
  cases houtcome : c.vista.outcome with
  | prohibited =>
    rw [houtcome] at h
    exact .inl ⟨rfl, (Except.ok.inj h).symm⟩
  | notApplicable =>
    rw [houtcome] at h
    exact .inr ⟨rfl, (Except.ok.inj h).symm⟩
  | admissible =>
    rw [houtcome] at h
    cases h
  | inadmissible =>
    rw [houtcome] at h
    cases h

theorem montarAplicacao_ok (h : montarAplicacao (ε := ε) c = .ok a) :
    ∃ outcome, HumanProtectionBridge.desfecho (ε := ε) c.vista = .ok outcome ∧
      a.toHumanProtectionApplicationFields = camposDaAplicacao c outcome := by
  obtain ⟨outcome, houtcome, h⟩ := bind_eq_ok.mp h
  obtain ⟨hvalid, rfl⟩ := of_checked (mapError_eq_ok.mp h)
  exact ⟨outcome, houtcome, rfl⟩

/-- Only a view that prohibits has capabilities. -/
theorem capacidades_of_outcome (vista : GovernanceResolutionView)
    (h : vista.outcome ≠ .prohibited) : vista.blockedCapabilities = [] := by
  have hvalid := vista.valida
  unfold GovernanceResolutionViewFields.violation GovernanceResolutionViewFields.coerencia at hvalid
  simp only [firstOf_cons, firstOf_nil, and_true, refuse_eq_none, decide_eq_false_iff_not] at hvalid
  obtain ⟨-, -, -, -, -, -, -, -, -, -, hcoherent⟩ := hvalid
  by_contra hne
  exact hcoherent ⟨h, hne⟩

/-- A block outside of the first gate is recorded with its pause. -/
theorem pausa_of_bloqueio (a : HumanProtectionApplication) (h : a.outcome = .blocked)
    (hgate : a.gatePosition ≠ .g1) : a.pauseApplied = true := by
  have hvalid := a.valida
  unfold HumanProtectionApplicationFields.violation at hvalid
  simp only [firstOf_cons, firstOf_nil, and_true] at hvalid
  obtain ⟨-, -, -, hdesfecho⟩ := hvalid
  unfold HumanProtectionApplicationFields.desfecho at hdesfecho
  simp only [firstOf_cons, firstOf_nil, and_true, refuse_eq_none, decide_eq_false_iff_not] at hdesfecho
  obtain ⟨-, -, -, -, -, -, hpause, -⟩ := hdesfecho
  by_contra hnot
  exact hpause ⟨h, hgate, by simpa using hnot⟩

theorem autorizada_of_preparar (h : preparar (ε := ε) c = .ok a) : Autorizada c a := by
  obtain ⟨u, hvinculo, h⟩ := bind_eq_ok.mp h
  obtain ⟨montada, hmontada, h⟩ := bind_eq_ok.mp h
  obtain ⟨u', hvalidade, h⟩ := bind_eq_ok.mp h
  obtain rfl := Except.ok.inj h
  obtain ⟨outcome, houtcome, hcampos⟩ := montarAplicacao_ok hmontada
  obtain ⟨hsha, hversoes⟩ := exigirVinculo_ok hvinculo
  have ha : montada.outcome = outcome := by rw [hcampos, camposDaAplicacao]
  have hpausa := pausa_of_bloqueio montada
  rw [hcampos] at hpausa
  refine {
    vinculo := hsha
    versoes := hversoes
    vigente := exigirValidade_ok hvalidade
    permitida := ?_
    bloqueada := ?_
    capacidades := ?_
    parada := by rw [hcampos]; exact hpausa
    chave := by rw [hcampos]; rfl
    dono := by rw [hcampos]; exact ⟨rfl, rfl, rfl, rfl⟩ }
  · rw [ha]
    rcases desfecho_ok houtcome with ⟨hvista, rfl⟩ | ⟨hvista, rfl⟩ <;> simp [hvista]
  · rw [ha]
    rcases desfecho_ok houtcome with ⟨hvista, rfl⟩ | ⟨hvista, rfl⟩ <;> simp [hvista]
  · rw [hcampos, camposDaAplicacao]
    rcases desfecho_ok houtcome with ⟨hvista, rfl⟩ | ⟨hvista, rfl⟩
    · rfl
    · rw [capacidades_of_outcome c.vista (by simp [hvista])]
      rfl

end Preparar

/-! ## What a session sees -/

section Visto

variable {τ χ ε : Type} {recusa : ℕ → HumanProtectionApplicationFields → Option ε}
  {outras : Engine τ χ ε} {ws : List (Escrita τ)} {n m : ℕ}
  {f g : HumanProtectionApplicationFields}

/-- The writes of the programs: an event is one of an application that was authorized. -/
def Permitida : Escrita τ → Prop
  | .aplicada _ linha => ∃ c a, Autorizada c a ∧ linha = a.toHumanProtectionApplicationFields
  | .outra _ => True

theorem eq_of_chave (h : InOrder (banco recusa outras) Permitida ws) (hf : .aplicada n f ∈ ws)
    (hg : .aplicada m g ∈ ws) (hchave : f.chave = g.chave) : n = m ∧ f = g := by
  have hkey : (.inl g.chave : Chave ⊕ χ) ∈ (banco recusa outras).keys (.aplicada n f) := by
    rw [← hchave]
    exact List.mem_cons_of_mem _ List.mem_cons_self
  have hsame := h.eq_of_key hg hf (List.mem_cons_of_mem _ List.mem_cons_self) hkey
  exact Escrita.aplicada.inj hsame

/-- The event of a key is the only one. -/
theorem eventos_da_chave (h : InOrder (banco recusa outras) Permitida ws)
    (hf : .aplicada n f ∈ ws) :
    (eventos ws).filter (·.2.chave = f.chave) = [(n, f.doEvento)] := by
  unfold eventos
  rw [List.filterMap_eq_flatMap_toList, List.filter_flatMap,
    h.flatMap_of_key hf (List.mem_cons_of_mem _ List.mem_cons_self) fun w hne => ?_]
  · simp [HumanProtectionApplicationFields.doEvento, HumanProtectionApplicationFields.chave]
  · obtain ⟨linha, hlinha⟩ := List.exists_mem_of_ne_nil _ hne
    obtain ⟨hmem, hchave⟩ := List.mem_filter.mp hlinha
    cases w with
    | outra w => cases hmem
    | aplicada m g =>
      obtain rfl := List.mem_singleton.mp hmem
      have hchave : g.chave = f.chave := of_decide_eq_true hchave
      rw [← hchave]
      exact List.mem_cons_of_mem _ List.mem_cons_self

/-- The capabilities of an event are read in the order in which they were given. -/
theorem capacidadesDe_eq (h : InOrder (banco recusa outras) Permitida ws)
    (hf : .aplicada n f ∈ ws) : capacidadesDe ws n = f.blockedCapabilities := by
  have hmine : (capacidades ws).filter (·.1 = n) =
      f.blockedCapabilities.zipIdx.map fun item => (n, item.2, item.1) := by
    unfold capacidades
    rw [List.filter_flatMap, h.flatMap_of_key hf List.mem_cons_self fun w hne => ?_]
    · refine List.filter_eq_self.mpr fun row hrow => ?_
      obtain ⟨item, -, rfl⟩ := List.mem_map.mp hrow
      exact decide_eq_true rfl
    · obtain ⟨row, hrow⟩ := List.exists_mem_of_ne_nil _ hne
      obtain ⟨hmem, hn⟩ := List.mem_filter.mp hrow
      cases w with
      | outra w => cases hmem
      | aplicada m g =>
        obtain ⟨item, -, rfl⟩ := List.mem_map.mp hmem
        obtain rfl : m = n := of_decide_eq_true hn
        exact List.mem_cons_self
  have hsorted : (f.blockedCapabilities.zipIdx.map fun item => (n, item.2, item.1)).Pairwise
      fun a b => a.2.1 ≤ b.2.1 := by
    rw [List.pairwise_map]
    have hindex : (f.blockedCapabilities.zipIdx.map Prod.snd).Pairwise (· ≤ ·) := by
      rw [List.zipIdx_map_snd]
      exact List.pairwise_le_range'
    exact List.pairwise_map.mp hindex
  unfold capacidadesDe
  rw [hmine, hsorted.insertionSort_eq, List.map_map]
  exact List.zipIdx_map_fst 0 f.blockedCapabilities

/-- Two applications that agree on every field are the same. -/
theorem divergentes_eq_nil : divergentes f g = [] ↔ f = g := by
  constructor
  · intro h
    obtain ⟨hfields, hcapabilities⟩ := List.append_eq_nil_iff.mp h
    rw [List.map_eq_nil_iff, List.filter_eq_nil_iff] at hfields
    cases f
    cases g
    simp_all [camposImutaveis]
  · rintro rfl
    simp [divergentes, camposImutaveis]

end Visto

/-! ## One call -/

section Chamadas

variable {τ χ ε : Type} {recusa : ℕ → HumanProtectionApplicationFields → Option ε}
  {outras : Engine τ χ ε} {c : Chamada} {a : HumanProtectionApplication} {n : ℕ}
  {f : HumanProtectionApplicationFields} {S S' : List (Escrita τ)} {o o' : Own (Escrita τ)}

/-- Why a call fails. Once the application is prepared, the gate is unavailable only when another
application has its key. -/
inductive Motivo (recusa : ℕ → HumanProtectionApplicationFields → Option ε) (c : Chamada)
    (o : Own (Escrita τ)) (ws : List (Escrita τ)) : ErroDaPonte ε → Prop
  | falhou (h : o.failed = true) : Motivo recusa c o ws .transacaoFalhou
  | pedido (e : ErroDaPonte ε) (h : preparar c = .error e) : Motivo recusa c o ws e
  | recusada (a : HumanProtectionApplication) (n : ℕ) (e : ε)
      (h : preparar (ε := ε) c = .ok a)
      (hrecusa : recusa n a.toHumanProtectionApplicationFields = some e) :
      Motivo recusa c o ws (.banco e)
  | duplicada (n : ℕ) (f : HumanProtectionApplicationFields) (h : .aplicada n f ∈ ws) :
      Motivo recusa c o ws .duplicada
  | divergente (a : HumanProtectionApplication) (n : ℕ) (f : HumanProtectionApplicationFields)
      (texto : String) (h : preparar (ε := ε) c = .ok a) (hf : .aplicada n f ∈ ws)
      (hchave : f.chave = a.chave) (hne : f ≠ a.toHumanProtectionApplicationFields) :
      Motivo recusa c o ws (.indisponivel texto)

/-- What a call is for, whatever its session and the others do meanwhile. -/
structure Garante (recusa : ℕ → HumanProtectionApplicationFields → Option ε) (c : Chamada)
    (o : Own (Escrita τ)) (S' : List (Escrita τ)) (o' : Own (Escrita τ))
    (resposta : Except (ErroDaPonte ε) HumanProtectionApplication) : Prop where
  kept : o' = o ∨ ∃ n a, o' = o.add (.aplicada n a.toHumanProtectionApplicationFields) ∧
    resposta = .ok a
  given : ∀ a, resposta = .ok a → Autorizada c a ∧
    ∃ n, .aplicada n a.toHumanProtectionApplicationFields ∈ S' ++ o'.log
  refused : ∀ e, resposta = .error e → Motivo recusa c o (S' ++ o.log) e

theorem Garante.erro {e : ErroDaPonte ε} (h : Motivo recusa c o (S' ++ o.log) e) :
    Garante recusa c o S' o (.error e) where
  kept := .inl rfl
  given _ ha := by cases ha
  refused _ he := by
    obtain rfl := Except.error.inj he
    exact h

theorem mem_mono (hS : S <+: S') {w : Escrita τ} (hw : w ∈ S ++ o.log) : w ∈ S' ++ o.log := by
  rw [List.mem_append] at hw ⊢
  exact hw.imp_left fun hin => hS.subset hin

variable [DecidableEq χ]

/-- An event that is there is read with all of its capabilities. -/
theorem ends_lerAplicacao {k : Option HumanProtectionApplication →
      HumanProtectionRepository.Programa τ χ ε}
    {Q : List (Escrita τ) → Own (Escrita τ) →
      Except (ErroDaPonte ε) HumanProtectionApplication → Prop}
    (hf : .aplicada n f ∈ S ++ o.log) (hfailed : o.failed = false)
    (hk : ∀ lida : HumanProtectionApplication, lida.toHumanProtectionApplicationFields = f →
      ∀ S', Others (banco recusa outras) Permitida o S S' →
        (k (some lida)).Ends (banco recusa outras) Permitida Q S' o) :
    (HumanProtectionRepository.lerAplicacao f.chave k).Ends (banco recusa outras) Permitida Q
      S o := by
  intro S' hS'
  rw [hfailed]
  rw [if_neg Bool.false_ne_true]
  dsimp only
  rw [eventos_da_chave hS'.view (mem_mono hS'.grows hf)]
  intro T hT
  have hT' := hS'.trans hT
  rw [hfailed, if_neg Bool.false_ne_true]
  dsimp only
  rw [capacidadesDe_eq hT'.view (mem_mono hT'.grows hf)]
  obtain ⟨c, lida, -, rfl⟩ := hT'.view.allowed _ (mem_mono hT'.grows hf)
  have hlida : { lida.toHumanProtectionApplicationFields.doEvento with
      blockedCapabilities := lida.blockedCapabilities } =
        lida.toHumanProtectionApplicationFields := rfl
  rw [hlida, checked_eq_ok lida.valida]
  exact hk lida rfl T hT'

/-- The loser of a race: the winner is the same application, or the gate is unavailable. -/
theorem ends_confirmarVencedor (ha : preparar (ε := ε) c = .ok a)
    (hf : .aplicada n f ∈ S ++ o.log) (hchave : f.chave = a.chave) (hfailed : o.failed = false) :
    (HumanProtectionRepository.confirmarVencedor a).Ends (banco recusa outras) Permitida
      (Garante recusa c o) S o := by
  have hautorizada := autorizada_of_preparar ha
  unfold HumanProtectionRepository.confirmarVencedor
  have hkey : a.chave = f.chave := hchave.symm
  rw [hkey]
  refine ends_lerAplicacao hf hfailed fun lida hlida S' hS' => ?_
  dsimp only
  split
  case h_1 hsame =>
    have hequal := divergentes_eq_nil.mp hsame
    refine fun T hT => ⟨.inl rfl, fun b hb => ?_, fun e he => by cases he⟩
    obtain rfl := Except.ok.inj hb
    refine ⟨hautorizada, n, ?_⟩
    rw [← hequal, hlida]
    exact mem_mono (hS'.trans hT).grows hf
  case h_2 campos hcampos =>
    refine fun T hT => .erro (.divergente a n f _ ha (mem_mono (hS'.trans hT).grows hf) hchave ?_)
    intro hequal
    refine hcampos ?_
    rw [divergentes_eq_nil, hlida, hequal]

/-- What the insertion of an event answers. -/
theorem insert_aplicada {S : List (Escrita τ)} {o : Own (Escrita τ)} {n : ℕ}
    {a : HumanProtectionApplication} {r : Reply (Chave ⊕ χ) ε × Own (Escrita τ)}
    (hfailed : o.failed = false)
    (hr : (banco recusa outras).insert S o (.aplicada n a.toHumanProtectionApplicationFields)
      (some (.inl a.chave)) = r) :
    (∃ e, recusa n a.toHumanProtectionApplicationFields = some e ∧ r = (.refused e, o.fail)) ∨
    (∃ m f, .aplicada m f ∈ S ++ o.log ∧ f.chave = a.chave ∧ r = (.nothing, o)) ∨
    (∃ f chave, .aplicada n f ∈ S ++ o.log ∧ r = (.duplicate chave, o.fail)) ∨
    r = (.written, o.add (.aplicada n a.toHumanProtectionApplicationFields)) := by
  subst hr
  have hrefuses : (banco recusa outras).refuses
      (.aplicada n a.toHumanProtectionApplicationFields) =
        recusa n a.toHumanProtectionApplicationFields := rfl
  have hkeys : (banco recusa outras).keys (.aplicada n a.toHumanProtectionApplicationFields) =
      [.inl (.id n), .inl a.chave] := rfl
  have hdecisao : a.chave ≠ .id n := Chave.noConfusion
  -- A key of the tables is taken by an event.
  have htaken : ∀ chave : Chave, .inl chave ∈ (banco recusa outras).taken (S ++ o.log) →
      ∃ m f, .aplicada m f ∈ S ++ o.log ∧ (chave = .id m ∨ chave = f.chave) := by
    intro chave h
    obtain ⟨w, hw, hkey⟩ := List.mem_flatMap.mp h
    cases w with
    | aplicada m f => exact ⟨m, f, hw, by simpa [banco] using hkey⟩
    | outra w => simp [banco] at hkey
  simp only [Engine.insert, hfailed, Bool.false_eq_true, if_false, hrefuses, hkeys, Option.any_some]
  cases hrecusa : recusa n a.toHumanProtectionApplicationFields with
  | some e => exact .inl ⟨e, rfl, rfl⟩
  | none =>
    dsimp only
    split
    case isTrue hin =>
      obtain ⟨m, f, hf, hid | hchave⟩ := htaken a.chave (by simpa using hin)
      · cases hid
      · exact .inr (.inl ⟨m, f, hf, hchave.symm, rfl⟩)
    case isFalse hfree =>
      have hfree : .inl a.chave ∉ (banco recusa outras).taken (S ++ o.log) := by simpa using hfree
      split
      case h_1 chave hfind =>
        have hin : chave ∈ (banco recusa outras).taken (S ++ o.log) := by
          simpa using List.find?_some hfind
        have hmem := List.mem_of_find?_eq_some hfind
        simp only [List.mem_cons, List.not_mem_nil, or_false] at hmem
        obtain rfl | rfl := hmem
        · obtain ⟨m, f, hf, hid | hchave⟩ := htaken _ hin
          · obtain rfl := Chave.id.inj hid
            exact .inr (.inr (.inl ⟨f, _, hf, rfl⟩))
          · cases hchave
        · exact absurd hin hfree
      case h_2 => exact .inr (.inr (.inr rfl))

/-- Every call does what it is for. -/
theorem ends_registrarAplicacao (c : Chamada) (S : List (Escrita τ)) (o : Own (Escrita τ)) :
    (registrarAplicacao (τ := τ) (χ := χ) (ε := ε) c).Ends (banco recusa outras) Permitida
      (Garante recusa c o) S o := by
  unfold registrarAplicacao
  cases ha : preparar (ε := ε) c with
  | error e => exact fun S' _ => .erro (.pedido e ha)
  | ok a =>
    have hautorizada := autorizada_of_preparar ha
    dsimp only
    intro S₁ _ n S₂ hS₂
    cases hfailed : o.failed with
    | true => exact fun T _ => .erro (.falhou hfailed)
    | false =>
      rw [if_neg Bool.false_ne_true]
      refine ⟨⟨c, a, hautorizada, rfl⟩, fun T hT => ?_⟩
      have hpoint : o.nest.failed = false := hfailed
      rcases @insert_aplicada _ _ _ recusa outras _ T o.nest n a _ hpoint rfl with
        ⟨e, hrecusa, heq⟩ | ⟨m, f, hf, hchave, heq⟩ | ⟨f, chave, hf, heq⟩ | heq
      · rw [heq]
        intro U _
        rw [Own.rollback_fail_nest o hfailed]
        exact fun V _ => .erro (.recusada a n e ha hrecusa)
      · rw [heq]
        intro U hU
        exact ends_confirmarVencedor ha (mem_mono hU.grows hf) hchave hfailed
      · rw [heq]
        intro U hU
        rw [Own.rollback_fail_nest o hfailed]
        exact fun V hV => .erro (.duplicada n f (mem_mono hV.grows (mem_mono hU.grows hf)))
      · rw [heq]
        intro U _
        rw [Own.release_add_nest]
        refine fun V _ => ⟨.inr ⟨n, a, rfl, rfl⟩, fun b hb => ?_, fun e he => by cases he⟩
        obtain rfl := Except.ok.inj hb
        refine ⟨hautorizada, n, ?_⟩
        simp [Own.add]

end Chamadas

/-! ## Every run -/

/-- What holds in every history. Each key has one event, which is read as it was written and was
authorized; a committed call that returned has its application there; and a call that fails
leaves its session as it was. -/
structure Registrada {τ χ ε : Type} (recusa : ℕ → HumanProtectionApplicationFields → Option ε)
    (h : History (Escrita τ) (Chave ⊕ χ) ε Chamada
      (Except (ErroDaPonte ε) HumanProtectionApplication)) : Prop where
  unica : ∀ n f m g, .aplicada n f ∈ h.sys.store → .aplicada m g ∈ h.sys.store →
    f.chave = g.chave → n = m ∧ f = g
  autorizada : ∀ n f, .aplicada n f ∈ h.sys.store →
    ∃ c a, Autorizada c a ∧ f = a.toHumanProtectionApplicationFields
  lida : ∀ n f, .aplicada n f ∈ h.sys.store →
    (eventos h.sys.store).filter (·.2.chave = f.chave) = [(n, f.doEvento)] ∧
      capacidadesDe h.sys.store n = f.blockedCapabilities
  dada : ∀ e ∈ h.committed, ∀ a, e.answer = .ok a → Autorizada e.call a ∧
    ∃ n, .aplicada n a.toHumanProtectionApplicationFields ∈ h.sys.store
  chamadas : ∀ e ∈ h.sys.events, Garante recusa e.call e.own e.store' e.own' e.answer

/-- Whatever the interleaving of sessions that write other rows, apply decisions, go back and
commit. -/
theorem protection_registered_once {τ χ ε : Type} [DecidableEq χ]
    (recusa : ℕ → HumanProtectionApplicationFields → Option ε) (outras : Engine τ χ ε)
    (h : History (Escrita τ) (Chave ⊕ χ) ε Chamada
      (Except (ErroDaPonte ε) HumanProtectionApplication))
    (hh : History.Recorded (banco recusa outras) registrarAplicacao h) : Registrada recusa h := by
  have hmeets : Meets (banco recusa outras) Permitida registrarAplicacao
      fun c _ o S' o' resposta => Garante recusa c o S' o' resposta := by
    refine ⟨fun w hw => ?_, fun c S o _ => ends_registrarAplicacao c S o⟩
    cases w with
    | aplicada n linha => cases hw
    | outra w => trivial
  have hsound := sound_of_reachable hmeets hh.reachable
  have hkept := hh.accounted hmeets (Accounts.of_kept fun e hmet => ?_)
  · refine {
      unica := fun n f m g hf hg => eq_of_chave hsound.store hf hg
      autorizada := fun n f hf => hsound.store.allowed _ hf
      lida := fun n f hf => ⟨eventos_da_chave hsound.store hf, capacidadesDe_eq hsound.store hf⟩
      dada := fun e he a ha => ?_
      chamadas := hsound.events }
    have hevent := hh.noted.committed he
    obtain ⟨hautorizada, n, hmem⟩ := (hsound.events e hevent).given a ha
    have hgrows : e.store' <+: h.sys.store := Sys.Steps.event_store hh.reachable e hevent
    exact ⟨hautorizada, n, List.append_subset.mpr ⟨hgrows.subset, hkept.store e he⟩ hmem⟩
  · rcases hmet.kept with hsame | ⟨n, a, hadded, -⟩
    · rw [hsame]
      exact ⟨List.Subset.refl _, rfl⟩
    · rw [hadded]
      exact ⟨List.subset_append_left _ _, rfl⟩

/-! ## A race -/

def bindingDaCorrida : GovernanceBinding where
  operation := .expose
  principalRef := Texto.of "p"
  scheduleId := none
  stepId := none
  attemptId := none
  objectiveSha256 := zeros
  gatePosition := .g1
  boundaryVersion := 1
  classifierVersion := Texto.of "1"
  validUntil := .ciente .epoch
  valido := by decide +kernel

/-- The gate is refused until the epoch. -/
def vistaDaCorrida : GovernanceResolutionView where
  outcome := .prohibited
  capabilityEngagement := .operationalEnablement
  boundaryVersion := 1
  classifierVersion := Texto.of "1"
  decisionFingerprint := zeros
  bindingSha256 := Texto.of "7587eaf8aa6340ec122cd916f47366cf80cf549d7b8079a1fbcd47fff405f937"
  evaluatedAt := .ciente { wall := -2, offset_bound := Datetime.epoch.offset_bound }
  validUntil := .ciente .epoch
  blockedCapabilities := [.catastrophicHarmEnablement, .childSexualExploitation]
  valida := by decide +kernel

theorem nada_naoNegativo : (0 : ℤ) ≤ 0 := le_rfl

def chamadaDaCorrida : Chamada where
  vista := vistaDaCorrida
  binding := bindingDaCorrida
  efeitos := { naoNegativo := nada_naoNegativo }
  agora := .ciente { wall := -1, offset_bound := Datetime.epoch.offset_bound }

/-- No other table. -/
def nenhuma : Engine Empty Empty Empty where
  keys w := w.elim
  keys_nodup w := w.elim
  refuses w := w.elim
  direct w := w.elim

/-- Two sessions are under their savepoints when the first of them inserts; the second waits for
its commit at the index. -/
def corridaDoGate : List (Label (Escrita Empty) Chamada) :=
  [.begin, .begin, .call 0 chamadaDaCorrida, .call 1 chamadaDaCorrida, .step 0 5, .step 1 6,
    .step 0 0, .step 1 0, .step 0 0, .step 0 0, .step 0 0, .commit 0, .step 1 0, .step 1 0,
    .step 1 0, .step 1 0, .step 1 0, .commit 1]

/-- The application that an answer returns. -/
def devolvida (resposta : Except (ErroDaPonte Empty) HumanProtectionApplication) :
    Option HumanProtectionApplicationFields :=
  resposta.toOption.map (·.toHumanProtectionApplicationFields)

theorem protection_registered_once_race : ∃ h,
    History.Recorded (banco (fun _ _ => none) nenhuma) registrarAplicacao h ∧
      h.committed.map (fun e => devolvida e.answer) =
        [some (camposDaAplicacao chamadaDaCorrida .blocked),
          some (camposDaAplicacao chamadaDaCorrida .blocked)] ∧
      h.sys.store = [.aplicada 5 (camposDaAplicacao chamadaDaCorrida .blocked)] ∧
      Registrada (fun _ _ => none) h := by
  obtain ⟨h, hrecorded, htest⟩ := History.Recorded.exists_of_trace
    (banco (fun _ _ => none) nenhuma) registrarAplicacao corridaDoGate
    (fun h => decide (h.committed.map (fun e => devolvida e.answer) =
        [some (camposDaAplicacao chamadaDaCorrida .blocked),
          some (camposDaAplicacao chamadaDaCorrida .blocked)] ∧
      h.sys.store = [.aplicada 5 (camposDaAplicacao chamadaDaCorrida .blocked)]))
    (by decide +kernel)
  obtain ⟨hanswers, hstore⟩ := of_decide_eq_true htest
  exact ⟨h, hrecorded, hanswers, hstore,
    protection_registered_once (fun _ _ => none) nenhuma h hrecorded⟩

end PiaOs.Protection
