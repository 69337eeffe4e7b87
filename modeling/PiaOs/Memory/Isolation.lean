import PiaOs.Memory.RetrievalPages

/-!
# Isolated retrieval

`MemoryIsolationManager.retrieve_isolated` asks governance about each declared
domain on its own, takes the members of the domains once all are authorized, and
then hands the original context to the retrieval port, whose answer must not
leave the members it took.
-/

namespace PiaOs.Memory

open Support

/-- The perspective of a context on a single domain. -/
def MemoryContext.restricted (context : MemoryContext) (d : Uuid) : MemoryContext :=
  { context with domainIds := [d], domainIds_canonical := List.pairwise_singleton _ _ }

/-- The authority over one declared domain. -/
structure DomainIsolationDecision where
  domainId : Uuid
  resolution : GovernanceResolution
  reads : resolution.operation = .read
  bound : resolution.contextDomainIds = [domainId]

namespace DomainIsolationDecision

def make (domainId : Uuid) (resolution : GovernanceResolution) :
    Except ManagerError DomainIsolationDecision :=
  if hreads : resolution.operation = .read then
    if hbound : resolution.contextDomainIds = [domainId] then
      .ok ⟨domainId, resolution, hreads, hbound⟩
    else .error (.value ("a decisão é sobre o domínio " ++ domainId.str ++ ", mas a resolução foi " ++
      "emitida para " ++ reprUuids resolution.contextDomainIds ++ " — " ++
      "uma regra que casou o conjunto não autoriza cada domínio individualmente"))
  else .error (.value ("a resolução é sobre " ++ resolution.operation.value ++ "; o isolamento da " ++
    "E4.8 é caminho de leitura e usa CognitiveOperation.READ"))

def authorized (decision : DomainIsolationDecision) : Bool :=
  decision.resolution.executionAuthorized

end DomainIsolationDecision

/-- `_identidade_local`: the policy version that a resolution cites. -/
def identidadeLocal (resolution : GovernanceResolution) : Option (String × Int × Uuid) :=
  match resolution.policyKey, resolution.policyVersion, resolution.policyId with
  | some chave, some versao, some identificador => some (chave, versao, identificador)
  | _, _, _ => none

def textoDaIdentidade (identidade : String × Int × Uuid) : String :=
  identidade.1 ++ "@v" ++ toString identidade.2.1 ++ "/" ++ identidade.2.2.str

/-- The versions that the decisions cite, each once. -/
def identidades (decisions : List DomainIsolationDecision) : List (String × Int × Uuid) :=
  (decisions.filterMap fun d => identidadeLocal d.resolution).dedup

/-- What the decisions alone have to satisfy. -/
def coerenciaDasDecisoes (context : MemoryContext) (decisions : List DomainIsolationDecision) :
    List String :=
  (decisions.flatMap fun d =>
    (resolucaoVinculaContexto d.resolution [d.domainId] context.actorRef context.purpose).map
      fun motivo => "decisão do domínio " ++ d.domainId.str ++ ": " ++ motivo) ++
    [refuse (1 < (identidades decisions).length)
      ("as decisões citam identidades de policy local diferentes (" ++
        ", ".intercalate (((identidades decisions).map textoDaIdentidade).insertionSort (· ≤ ·)) ++
        "); um pedido é avaliado sob uma autoridade")].reduceOption

/-- What the view has to satisfy once every domain is authorized. -/
def coerenciaDaVista (context : MemoryContext) (decisions : List DomainIsolationDecision)
    (retrieval : MemoryRetrievalResult) : List String :=
  let daVista := identidadeLocal retrieval.governanceResolution
  [refuse (!retrieval.context.iguais context)
      ("o resultado da Retrieval cita um contexto diferente do solicitado; o " ++
        "isolamento não reescreve a perspectiva do usuário"),
    refuse (!retrieval.searchExecuted)
      ("com todos os domínios autorizados a Retrieval executa; uma vista não " ++
        "executada descreveria uma recusa que não houve"),
    refuse (!retrieval.governanceResolution.executionAuthorized)
      ("a Retrieval devolveu uma resolução que não autoriza execução, embora " ++
        "todas as decisões de domínio tenham autorizado"),
    match identidades decisions, daVista with
    | [], _ => none
    | esperada :: _, none => some ("a Retrieval não cita proveniência local, mas as decisões foram " ++
        "fundamentadas em " ++ esperada.1 ++ "@v" ++ toString esperada.2.1)
    | esperada :: _, some citada => refuse (citada ≠ esperada)
        ("a Retrieval foi autorizada por " ++ textoDaIdentidade citada ++ ", e as decisões por " ++
          textoDaIdentidade esperada)].reduceOption

/-- `verificar_coerencia_resultado_isolado`, of the decisions and of what was retrieved. -/
def verificarCoerenciaResultadoIsolado (context : MemoryContext)
    (decisions : List DomainIsolationDecision) (retrieval : Option MemoryRetrievalResult) :
    List String :=
  coerenciaDasDecisoes context decisions ++
    if decisions.all DomainIsolationDecision.authorized then
      match retrieval with
      | none => ["todos os domínios foram autorizados, então a Retrieval foi executada; " ++
          "um resultado ausente aqui afirmaria autoridade sem efeito"]
      | some retrieval => coerenciaDaVista context decisions retrieval
    else [refuse retrieval.isSome
      ("algum domínio declarado não foi autorizado; executar a Retrieval " ++
        "responderia a uma pergunta diferente da que foi feita")].reduceOption

structure MemoryIsolationResultFields where
  context : MemoryContext
  decisions : List DomainIsolationDecision
  evaluatedAt : UtcInstant
  retrieval : Option MemoryRetrievalResult := none

/-- The domains of a context in canonical order. -/
def dominiosEmOrdem (context : MemoryContext) : List Uuid :=
  context.domainIds.insertionSort fun d e => d.int ≤ e.int

/-- The checks of `__post_init__`, in order. -/
def MemoryIsolationResultFields.violation (f : MemoryIsolationResultFields) : Option String :=
  let decididos := f.decisions.map DomainIsolationDecision.domainId
  let motivos := verificarCoerenciaResultadoIsolado f.context f.decisions f.retrieval
  firstOf
    [refuse f.context.domainIds.isEmpty
        ("o isolamento exige escopo explícito: um contexto sem domínio não é " ++
          "'todos os domínios isolados'"),
      refuse (¬decididos.Nodup)
        ("há mais de uma decisão para o mesmo domínio; duas respostas para a " ++
          "mesma pergunta tornam a autoridade ambígua"),
      refuse (decididos ≠ dominiosEmOrdem f.context)
        ("as decisões cobrem " ++ reprUuids decididos ++ ", mas o contexto declara " ++
          reprUuids (dominiosEmOrdem f.context) ++ " — uma decisão por " ++
          "domínio declarado, em ordem canônica, sem faltas nem extras"),
      refuse (motivos ≠ []) ("; ".intercalate motivos)]

/-- The end of an isolated request: a refusal as a whole, or a view. -/
structure MemoryIsolationResult extends MemoryIsolationResultFields where
  accepted : toMemoryIsolationResultFields.violation = none

def MemoryIsolationResult.make (f : MemoryIsolationResultFields) :
    Except ManagerError MemoryIsolationResult :=
  (checked f.violation fun h => (⟨f, h⟩ : MemoryIsolationResult)).mapError .value

/-- What was built has the fields it was given. -/
theorem MemoryIsolationResult.of_make {f : MemoryIsolationResultFields} {r : MemoryIsolationResult}
    (h : MemoryIsolationResult.make f = .ok r) : r.toMemoryIsolationResultFields = f := by
  obtain ⟨-, rfl⟩ := of_checked (mapError_eq_ok.mp h)
  rfl

namespace MemoryIsolationManager

/-- The error for a list of reasons, if there is one. -/
def semMotivos (motivos : List String) : Except ManagerError Unit :=
  if motivos = [] then .ok () else .error (.isolationContractViolation motivos)

theorem semMotivos_eq_ok {motivos : List String} : semMotivos motivos = .ok () ↔ motivos = [] := by
  unfold semMotivos
  split <;> simp_all

def validarArgumentos (request : RetrievalRequest) : Except ManagerError Unit :=
  if request.descriptor.operation ≠ .read then
    .error (.value ("o isolamento da E4.8 é caminho de leitura e usa CognitiveOperation.READ; " ++
      "recebido " ++ request.descriptor.operation.value))
  else if request.context.domainIds = [] then .error .isolationScopeRequired
  else .ok ()

def verificarFidelidadeDoContexto (solicitado confirmado : MemoryContext) :
    Except ManagerError Unit :=
  semMotivos [refuse (!confirmado.iguais solicitado)
    ("ContextManager.validate devolveu contexto diferente do " ++
      "solicitado — validação não substitui a perspectiva pedida")].reduceOption

/-- `_instante_unico`: the instant of the whole operation. -/
def instanteUnico : Option Datetime → Passo UtcInstant
  | none => .call .now fun (agora : Datetime) => .done (agora.astimezoneUtc.mapError .overflow)
  | some moment => .done (moment.astimezoneUtc.mapError .overflow)

/-- `_divergencias_do_singleton`: only the scope was replaced. -/
def divergenciasDoSingleton (singleton original : MemoryContext) (domainId : Uuid) : List String :=
  let alterou (nome : String) (derivado esperado : Option String) : Option String :=
    refuse (derivado ≠ esperado)
      ("o singleton alterou " ++ nome ++ ": " ++ reprOpcional derivado ++ " em vez de " ++
        reprOpcional esperado ++ " — derivar o escopo não reescreve a perspectiva do usuário")
  [refuse (singleton.domainIds ≠ [domainId])
      ("o contexto singleton declara " ++ reprUuids singleton.domainIds ++ ", e não apenas " ++
        domainId.str),
    alterou "session_id" singleton.sessionId original.sessionId,
    alterou "actor_ref" singleton.actorRef original.actorRef,
    alterou "purpose" singleton.purpose original.purpose].reduceOption

/-- `_verificar_fidelidade_da_resolucao`. -/
def verificarFidelidadeDaResolucao (resolucao : GovernanceResolution) (singleton : MemoryContext)
    (request : RetrievalRequest) : Except ManagerError Unit :=
  semMotivos
    ([refuse (resolucao.operation ≠ .read)
        ("a resolução é sobre " ++ resolucao.operation.value ++ ", e o isolamento resolve " ++
          "CognitiveOperation.READ"),
      refuse (resolucao.operation ≠ request.descriptor.operation)
        ("operação resolvida (" ++ resolucao.operation.value ++ ") difere da solicitada (" ++
          request.descriptor.operation.value ++ ")"),
      refuse (resolucao.policyKey.isSome ∧ resolucao.policyKey ≠ request.policyKey)
        ("policy resolvida " ++ reprOpcional resolucao.policyKey ++ " difere da solicitada " ++
          reprOpcional request.policyKey)].reduceOption ++
      resolucaoVinculaContexto resolucao singleton.domainIds singleton.actorRef singleton.purpose)

/-- `_decidir_dominio`. -/
def decidirDominio (request : RetrievalRequest) (instante : UtcInstant) (domainId : Uuid) :
    Passo DomainIsolationDecision :=
  let singleton := request.context.restricted domainId
  (Proc.done (semMotivos (divergenciasDoSingleton singleton request.context domainId))).attempt
    fun () =>
  (resolver request.descriptor singleton request.policyKey (some instante.toDatetime)).attempt
    fun resolucao =>
  (Proc.done (verificarFidelidadeDaResolucao resolucao singleton request)).attempt fun () =>
  .done (DomainIsolationDecision.make domainId resolucao)

/-- One decision after the other. -/
def decidirDominios (request : RetrievalRequest) (instante : UtcInstant) :
    List Uuid → Passo (List DomainIsolationDecision)
  | [] => .done (.ok [])
  | domainId :: resto => (decidirDominio request instante domainId).attempt fun decisao =>
    (decidirDominios request instante resto).attempt fun outras => .done (.ok (decisao :: outras))

/-- The members that the port gives for a domain, which must all be of the domain. -/
def membrosDoDominio (domainId : Uuid) : List MembershipView → Except ManagerError (List Uuid)
  | [] => .ok []
  | row :: rows => do
    if row.domainId ≠ domainId then
      .error (.isolationContractViolation ["membership devolvida para o domínio " ++
        row.domainId.str ++ ", mas foi pedida a do domínio " ++ domainId.str])
    else
      let coids ← membrosDoDominio domainId rows
      .ok (row.coid :: coids)

/-- `_snapshot_autorizado`. -/
def snapshotAutorizado : List DomainIsolationDecision → Passo (List Uuid)
  | [] => .done (.ok [])
  | decisao :: resto =>
    .call (.membershipsOfDomain decisao.domainId) fun (rows : List MembershipView) =>
      (Proc.done (membrosDoDominio decisao.domainId rows)).attempt fun coids =>
        (snapshotAutorizado resto).attempt fun outros => .done (.ok (coids ++ outros))

/-- `_verificar_resultado`. -/
def verificarResultado (request : RetrievalRequest) (autorizado : List Uuid)
    (resultado : MemoryRetrievalResult) : Except ManagerError Unit :=
  let fora := resultado.coids.filter fun coid => coid ∉ autorizado
  semMotivos [refuse (!resultado.context.iguais request.context)
      "o resultado da Retrieval cita um contexto diferente do solicitado",
    refuse (resultado.limit ≠ request.limit ∨ resultado.offset ≠ request.offset)
      ("paginação devolvida (limit=" ++ toString resultado.limit ++ ", offset=" ++
        toString resultado.offset ++ ") difere da solicitada (limit=" ++ toString request.limit ++
        ", offset=" ++ toString request.offset ++ ")"),
    fora.head?.map fun primeiro =>
      "a vista devolveu " ++ toString fora.length ++ " objeto(s) fora da união de memberships " ++
        "dos domínios autorizados, começando por " ++ primeiro.str ++ " — expansão de " ++
        "escopo não é filtrada em silêncio"].reduceOption

/-- What is asked of the retrieval port: the original request, at the one instant. -/
def pedidoDaVista (request : RetrievalRequest) (instante : UtcInstant) : RetrievalRequest :=
  { request with moment := some instante.toDatetime, gated := false }

/-- The part of `retrieve_isolated` that follows the authorization of every domain. -/
def recuperar (retrieval : RetrievalRequest → Passo MemoryRetrievalResult)
    (request : RetrievalRequest) (instante : UtcInstant)
    (decisoes : List DomainIsolationDecision) : Passo MemoryIsolationResult :=
  (snapshotAutorizado decisoes).attempt fun autorizado =>
  (retrieval (pedidoDaVista request instante)).attempt fun resultado =>
  .done (do
    verificarResultado request autorizado resultado
    semMotivos (verificarCoerenciaResultadoIsolado request.context decisoes (some resultado))
    MemoryIsolationResult.make ⟨request.context, decisoes, instante, some resultado⟩)

/-- `retrieve_isolated`, over any retrieval port. -/
def retrieveIsolated (retrieval : RetrievalRequest → Passo MemoryRetrievalResult)
    (request : RetrievalRequest) : Passo MemoryIsolationResult :=
  (Proc.done (validarArgumentos request)).attempt fun () =>
  (ContextManager.validate request.context).attempt fun confirmado =>
  (Proc.done (verificarFidelidadeDoContexto request.context confirmado)).attempt fun () =>
  (instanteUnico request.moment).attempt fun instante =>
  (decidirDominios request instante (dominiosEmOrdem request.context)).attempt fun decisoes =>
  (Proc.done (semMotivos (coerenciaDasDecisoes request.context decisoes))).attempt fun () =>
  if decisoes.all DomainIsolationDecision.authorized then
    recuperar retrieval request instante decisoes
  else .done (MemoryIsolationResult.make ⟨request.context, decisoes, instante, none⟩)

/-! ## What an isolated request reads and returns -/

/-- The members of a domain, if the entry is a reading of them. -/
def leituraDe (domainId : Uuid) : Answered Consulta Consulta.Resposta → Option (List MembershipView)
  | ⟨.membershipsOfDomain d, rows⟩ => if d = domainId then some rows else none
  | _ => none

/-- The first reading of the members of a domain: the snapshot of it. -/
def primeiraLeitura (log : List (Answered Consulta Consulta.Resposta)) (domainId : Uuid) :
    Option (List MembershipView) := log.findSome? (leituraDe domainId)

/-- The table of policies, if the entry is a reading of it. -/
def tabelaDe : Answered Consulta Consulta.Resposta → Option PolicyTable
  | ⟨.policies, tabela⟩ => some tabela
  | _ => none

/-- The tables of policies that were read, in order. -/
def tabelasLidas (log : List (Answered Consulta Consulta.Resposta)) : List PolicyTable :=
  log.filterMap tabelaDe

/-- The object is, in the snapshot, a member of a domain of the decisions. -/
def NoSnapshot (log : List (Answered Consulta Consulta.Resposta))
    (decisoes : List DomainIsolationDecision) (coid : Uuid) : Prop :=
  ∃ decisao ∈ decisoes, ∃ rows, primeiraLeitura log decisao.domainId = some rows ∧
    ∃ row ∈ rows, row.domainId = decisao.domainId ∧ row.coid = coid

variable {past later log : List (Answered Consulta Consulta.Resposta)}
  {request : RetrievalRequest} {instante : UtcInstant} {domainId : Uuid}
  {decisoes : List DomainIsolationDecision} {coid : Uuid}

theorem primeiraLeitura_mono {rows : List MembershipView}
    (h : primeiraLeitura past domainId = some rows) (hlater : past <+: later) :
    primeiraLeitura later domainId = some rows := by
  obtain ⟨rest, rfl⟩ := hlater
  rw [primeiraLeitura, List.findSome?_append]
  rw [primeiraLeitura] at h
  rw [h]
  rfl

theorem NoSnapshot.mono (h : NoSnapshot past decisoes coid) (hlater : past <+: later) :
    NoSnapshot later decisoes coid := by
  obtain ⟨decisao, hmem, rows, hrows, hrow⟩ := h
  exact ⟨decisao, hmem, rows, primeiraLeitura_mono hrows hlater, hrow⟩

/-- Before anything stored was touched, no members were read. -/
theorem primeiraLeitura_eq_none (h : ∀ e ∈ past, e.call.tocaPatrimonio = false) (domainId : Uuid) :
    primeiraLeitura past domainId = none := by
  rw [primeiraLeitura, List.findSome?_eq_none_iff]
  intro e he
  obtain ⟨call, answer⟩ := e
  have hquiet := h _ he
  cases call with
  | membershipsOfDomain d => cases hquiet
  | now => rfl
  | policies => rfl
  | existsDomain d => rfl
  | search limit offset => rfl
  | allows candidate => rfl

/-- A reading that is the first of its domain is the snapshot of it. -/
theorem primeiraLeitura_snoc {d : Uuid} {rows : List MembershipView} :
    primeiraLeitura (past ++ [⟨.membershipsOfDomain d, rows⟩]) domainId =
      (primeiraLeitura past domainId).or (if d = domainId then some rows else none) := by
  rw [primeiraLeitura, primeiraLeitura, List.findSome?_append]
  congr 1
  by_cases hd : d = domainId <;> simp [leituraDe, hd]

/-- The accepted members are those of rows of the domain. -/
theorem of_membrosDoDominio {rows : List MembershipView} {coids : List Uuid}
    (h : membrosDoDominio domainId rows = .ok coids) (hcoid : coid ∈ coids) :
    ∃ row ∈ rows, row.domainId = domainId ∧ row.coid = coid := by
  induction rows generalizing coids with
  | nil =>
    obtain rfl := Except.ok.inj h
    cases hcoid
  | cons row rows ih =>
    unfold membrosDoDominio at h
    split at h
    case isTrue => cases h
    case isFalse hdomain =>
      obtain ⟨others, hothers, hlist⟩ := bind_eq_ok.mp h
      obtain rfl := Except.ok.inj hlist
      rcases List.mem_cons.mp hcoid with rfl | hrest
      · exact ⟨row, List.mem_cons_self, not_not.mp hdomain, rfl⟩
      · obtain ⟨row', hrow', hfound⟩ := ih hothers hrest
        exact ⟨row', List.mem_cons_of_mem _ hrow', hfound⟩

/-- The snapshot holds what the first reading of each domain gives. -/
theorem snapshot_obeys (hnodup : (decisoes.map DomainIsolationDecision.domainId).Nodup)
    (hfresh : ∀ decisao ∈ decisoes, primeiraLeitura past decisao.domainId = none) :
    (snapshotAutorizado decisoes).Obeys (fun later _ => past <+: later)
      (fun later result => past <+: later ∧ ∀ coids, result = .ok coids →
        ∀ coid ∈ coids, NoSnapshot later decisoes coid) past := by
  induction decisoes generalizing past with
  | nil =>
    refine .done ⟨List.prefix_refl _, fun coids hcoids coid hcoid => ?_⟩
    obtain rfl := Except.ok.inj hcoids
    cases hcoid
  | cons decisao resto ih =>
    rw [List.map_cons, List.nodup_cons] at hnodup
    refine .call (List.prefix_refl _) fun (rows : List MembershipView) => ?_
    have hpast : past <+: past ++ [(⟨.membershipsOfDomain decisao.domainId, rows⟩ :
        Answered Consulta Consulta.Resposta)] := List.prefix_append _ _
    have hread : primeiraLeitura (past ++ [⟨.membershipsOfDomain decisao.domainId, rows⟩])
        decisao.domainId = some rows := by
      rw [primeiraLeitura_snoc, hfresh decisao List.mem_cons_self, if_pos rfl]
      rfl
    have hfresh' : ∀ outra ∈ resto, primeiraLeitura
        (past ++ [⟨.membershipsOfDomain decisao.domainId, rows⟩]) outra.domainId = none := by
      intro outra houtra
      have hne : decisao.domainId ≠ outra.domainId := fun heq =>
        hnodup.1 (heq ▸ List.mem_map_of_mem houtra)
      rw [primeiraLeitura_snoc, hfresh outra (List.mem_cons_of_mem _ houtra), if_neg hne]
      rfl
    cases hrows : membrosDoDominio decisao.domainId rows with
    | error erro => exact .done ⟨hpast, fun coids hcoids => by cases hcoids⟩
    | ok coids =>
      have hrest := (ih hnodup.2 hfresh').mono (fun later _ h => hpast.trans h)
        fun later result h => h
      change Proc.Obeys _ _ _ ((snapshotAutorizado resto).attempt fun outros =>
        .done (.ok (coids ++ outros)))
      refine hrest.attempt ?_ ?_
      · exact fun later e h => ⟨hpast.trans h.1, fun coids hcoids => by cases hcoids⟩
      · intro later outros hothers
        refine .done ⟨hpast.trans hothers.1, fun all hall coid hcoid => ?_⟩
        obtain rfl := Except.ok.inj hall
        rcases List.mem_append.mp hcoid with hown | hother
        · obtain ⟨row, hrow, hdomain, hsame⟩ := of_membrosDoDominio hrows hown
          exact ⟨decisao, List.mem_cons_self, rows, primeiraLeitura_mono hread hothers.1, row, hrow,
            hdomain, hsame⟩
        · obtain ⟨outra, houtra, hfound⟩ := hothers.2 outros rfl coid hother
          exact ⟨outra, List.mem_cons_of_mem _ houtra, hfound⟩

/-- Governance answered for the domain on its own, at the instant, from the `i`-th table
that was read. -/
def ResolvidoSozinho (log : List (Answered Consulta Consulta.Resposta))
    (request : RetrievalRequest) (instante : UtcInstant) (i : Nat) (domainId : Uuid)
    (r : GovernanceResolution) : Prop :=
  ∃ tabela, (tabelasLidas log)[i]? = some tabela ∧
    GovernanceManager.resolve tabela request.descriptor (request.context.restricted domainId)
      request.policyKey instante.toDatetime = .ok r

/-- Every declared domain was authorized on its own, at one instant: the `i`-th domain from
the `i`-th reading of the policies. -/
def TodosAutorizados (log : List (Answered Consulta Consulta.Resposta))
    (request : RetrievalRequest) : Prop :=
  ∃ instante : UtcInstant, (∀ moment ∈ request.moment, instante.instant = moment.instant) ∧
    ∀ i d, (dominiosEmOrdem request.context)[i]? = some d →
      ∃ r, r.executionAuthorized = true ∧ ResolvidoSozinho log request instante i d r

@[simp] theorem tabelasLidas_append (log later : List (Answered Consulta Consulta.Resposta)) :
    tabelasLidas (log ++ later) = tabelasLidas log ++ tabelasLidas later :=
  List.filterMap_append

theorem ResolvidoSozinho.mono {i : Nat} {r : GovernanceResolution}
    (h : ResolvidoSozinho past request instante i domainId r) (hlater : past <+: later) :
    ResolvidoSozinho later request instante i domainId r := by
  obtain ⟨tabela, hread, hr⟩ := h
  obtain ⟨rest, rfl⟩ := hlater
  have hlow : i < (tabelasLidas past).length := (List.getElem?_eq_some_iff.mp hread).1
  exact ⟨tabela, by rwa [tabelasLidas_append, List.getElem?_append_left hlow], hr⟩

/-- Where the policies were not read there is no table of them. -/
theorem tabelasLidas_eq_nil (h : ∀ e ∈ past, e.call ≠ .policies) : tabelasLidas past = [] := by
  rw [tabelasLidas, List.filterMap_eq_nil_iff]
  intro e he
  obtain ⟨call, answer⟩ := e
  have hother : call ≠ .policies := h _ he
  cases call with
  | policies => exact absurd rfl hother
  | now => rfl
  | existsDomain d => rfl
  | membershipsOfDomain d => rfl
  | search limit offset => rfl
  | allows candidate => rfl

theorem of_make {r : GovernanceResolution} {decisao : DomainIsolationDecision}
    (h : DomainIsolationDecision.make domainId r = .ok decisao) :
    decisao.domainId = domainId ∧ decisao.resolution = r := by
  unfold DomainIsolationDecision.make at h
  split at h
  case isFalse => cases h
  case isTrue =>
    split at h
    case isFalse => cases h
    case isTrue =>
      obtain rfl := Except.ok.inj h
      exact ⟨rfl, rfl⟩

/-- A resolution at a given moment reads the policies once. -/
theorem resolver_reads (descriptor : CapabilityDescriptor) (context : MemoryContext)
    (policyKey : Option String) (agora : Datetime)
    (past : List (Answered Consulta Consulta.Resposta)) :
    (resolver descriptor context policyKey (some agora)).Obeys
      (fun _ c => c.tocaPatrimonio = false)
      (fun later result => ∃ tabela : PolicyTable, later = past ++ [⟨.policies, tabela⟩] ∧
        ∀ r, result = .ok r →
          GovernanceManager.resolve tabela descriptor context policyKey agora = .ok r) past := by
  refine .call rfl fun (tabela : PolicyTable) => .done ⟨tabela, rfl, fun r hr => ?_⟩
  exact mapError_eq_ok.mp hr

/-- A decision rests on a resolution for its domain alone, from the next table. -/
theorem decidirDominio_obeys (request : RetrievalRequest) (instante : UtcInstant) (domainId : Uuid)
    (past : List (Answered Consulta Consulta.Resposta)) :
    (decidirDominio request instante domainId).Obeys (fun _ c => c.tocaPatrimonio = false)
      (fun later result => past <+: later ∧ ∀ decisao, result = .ok decisao →
        (tabelasLidas later).length = (tabelasLidas past).length + 1 ∧
          decisao.domainId = domainId ∧ ResolvidoSozinho later request instante
            (tabelasLidas past).length domainId decisao.resolution) past := by
  unfold decidirDominio
  have hpure {β : Type} (x : Except ManagerError β)
      (past : List (Answered Consulta Consulta.Resposta)) :
      (Proc.done x : Passo β).Obeys (fun _ c => c.tocaPatrimonio = false)
        (fun later _ => later = past) past := .done rfl
  refine (hpure _ _).attempt ?_ ?_
  · rintro _ e rfl
    exact ⟨List.prefix_refl _, fun decisao h => by cases h⟩
  rintro _ _ rfl
  refine (resolver_reads _ _ _ _ _).attempt ?_ ?_
  · rintro _ e ⟨tabela, rfl, -⟩
    exact ⟨List.prefix_append _ _, fun decisao hd => by cases hd⟩
  rintro _ resolucao ⟨tabela, rfl, hr⟩
  refine (hpure _ _).attempt ?_ ?_
  · rintro _ e rfl
    exact ⟨List.prefix_append _ _, fun decisao h => by cases h⟩
  rintro _ _ rfl
  refine .done ⟨List.prefix_append _ _, fun decisao h => ?_⟩
  obtain ⟨hdomain, hresolution⟩ := of_make h
  have hread : tabelasLidas [(⟨.policies, tabela⟩ : Answered Consulta Consulta.Resposta)] =
    [tabela] := rfl
  rw [hresolution, tabelasLidas_append, hread]
  refine ⟨List.length_append, hdomain, tabela, ?_, hr resolucao rfl⟩
  rw [tabelasLidas_append, hread, List.getElem?_concat_length]

/-- The decisions are about the domains in order, each on its own table. -/
theorem decidirDominios_obeys (request : RetrievalRequest) (instante : UtcInstant)
    (ids : List Uuid) (past : List (Answered Consulta Consulta.Resposta)) :
    (decidirDominios request instante ids).Obeys (fun _ c => c.tocaPatrimonio = false)
      (fun later result => past <+: later ∧ ∀ decisoes, result = .ok decisoes →
        decisoes.map DomainIsolationDecision.domainId = ids ∧
          ∀ i decisao, decisoes[i]? = some decisao → ResolvidoSozinho later request instante
            ((tabelasLidas past).length + i) decisao.domainId decisao.resolution) past := by
  induction ids generalizing past with
  | nil =>
    refine .done ⟨List.prefix_refl _, fun decisoes h => ?_⟩
    obtain rfl := Except.ok.inj h
    exact ⟨rfl, by simp⟩
  | cons d ids ih =>
    refine (decidirDominio_obeys request instante d past).attempt ?_ ?_
    · exact fun later e h => ⟨h.1, fun decisoes hd => by cases hd⟩
    rintro middle decisao ⟨hmiddle, hdecisao⟩
    obtain ⟨hlength, rfl, hfirst⟩ := hdecisao decisao rfl
    refine (ih middle).attempt ?_ ?_
    · exact fun later e h => ⟨hmiddle.trans h.1, fun decisoes hd => by cases hd⟩
    rintro later outras ⟨hlater, houtras⟩
    obtain ⟨hids, hothers⟩ := houtras outras rfl
    refine .done ⟨hmiddle.trans hlater, fun decisoes h => ?_⟩
    obtain rfl := Except.ok.inj h
    refine ⟨by rw [List.map_cons, hids], fun i outra houtra => ?_⟩
    cases i with
    | zero =>
      obtain rfl := Option.some.inj houtra
      exact hfirst.mono hlater
    | succ i =>
      have hother := hothers i outra houtra
      rw [hlength] at hother
      have hposition : (tabelasLidas past).length + 1 + i =
        (tabelasLidas past).length + (i + 1) := by omega
      rwa [hposition] at hother

/-- A question that comes before the decisions: about nothing that is stored, nor about
the policies. -/
def Preliminar (c : Consulta) : Prop := c.tocaPatrimonio = false ∧ c ≠ .policies

/-- Looking for unknown domains asks about domains only. -/
theorem validate_asks (context : MemoryContext)
    (past : List (Answered Consulta Consulta.Resposta)) :
    (ContextManager.validate context).Obeys (fun _ c => Preliminar c) (fun _ _ => True) past := by
  have hdomain (d : Uuid) : Preliminar (.existsDomain d) := ⟨rfl, by simp⟩
  have hunknown (ids : List Uuid) : ∀ past : List (Answered Consulta Consulta.Resposta),
      (ContextManager.desconhecidos ids).Obeys (fun _ c => Preliminar c)
        (fun _ _ => True) past := by
    induction ids with
    | nil => exact fun past => .done trivial
    | cons d ids ih =>
      exact fun past => .call (hdomain d) fun _ => (ih _).bind fun _ _ _ => .done trivial
  exact (hunknown _ past).bind fun _ _ _ => .done trivial

/-- The instant is the moment of the request, if it names one. -/
theorem instanteUnico_obeys (moment : Option Datetime)
    (past : List (Answered Consulta Consulta.Resposta)) :
    (instanteUnico moment).Obeys (fun _ c => Preliminar c)
      (fun _ result => ∀ instante, result = .ok instante →
        ∀ m ∈ moment, instante.instant = m.instant) past := by
  cases moment with
  | none => exact .call ⟨rfl, by simp⟩ fun agora => .done (by simp)
  | some moment =>
    refine .done fun instante h m hm => ?_
    obtain rfl := Option.some.inj hm
    by_cases hwritten : moment.Representable
    · obtain ⟨instante', hok, hsame⟩ := Datetime.astimezoneUtc_eq_ok hwritten
      rw [hok] at h
      obtain rfl := Except.ok.inj h
      exact hsame
    · rw [Datetime.astimezoneUtc, dif_neg hwritten] at h
      cases h

/-- What an accepted view shows was in the snapshot. -/
theorem of_verificarResultado {autorizado : List Uuid} {resultado : MemoryRetrievalResult}
    (h : verificarResultado request autorizado resultado = .ok ()) :
    ∀ item ∈ resultado.items, item.coid ∈ autorizado := by
  intro item hitem
  by_contra hout
  have hmem : item.coid ∈ resultado.coids.filter fun coid => coid ∉ autorizado := by
    refine List.mem_filter.mpr ⟨List.mem_map_of_mem hitem, by simpa using hout⟩
  have hnone := reduceOption_eq_nil.mp (semMotivos_eq_ok.mp h)
  have hhead := hnone _ (List.mem_cons_of_mem _ (List.mem_cons_of_mem _ List.mem_cons_self))
  rw [Option.map_eq_none_iff, List.head?_eq_none_iff] at hhead
  rw [hhead] at hmem
  cases hmem

/-- What holds of the end of an isolated request: each object of the view was, in the
snapshot, a member of a declared domain that was authorized on its own. -/
def Isolado (log : List (Answered Consulta Consulta.Resposta)) (request : RetrievalRequest)
    (result : MemoryIsolationResult) : Prop :=
  ∀ vista ∈ result.retrieval, ∀ item ∈ vista.items, ∃ i decisao,
    result.decisions[i]? = some decisao ∧
      decisao.domainId ∈ request.context.domainIds ∧ decisao.authorized = true ∧
      ResolvidoSozinho log request result.evaluatedAt i decisao.domainId decisao.resolution ∧
      ∃ rows, primeiraLeitura log decisao.domainId = some rows ∧
        ∃ row ∈ rows, row.domainId = decisao.domainId ∧ row.coid = item.coid

/-- What follows the authorization of every domain reads only then, and shows only the
members that it took. -/
theorem recuperar_obeys (retrieval : RetrievalRequest → Passo MemoryRetrievalResult)
    (hquiet : ∀ e ∈ past, e.call.tocaPatrimonio = false)
    (hids : decisoes.map DomainIsolationDecision.domainId = dominiosEmOrdem request.context)
    (hresolved : ∀ i decisao, decisoes[i]? = some decisao →
      ResolvidoSozinho past request instante i decisao.domainId decisao.resolution)
    (hauthorized : ∀ decisao ∈ decisoes, decisao.authorized = true) :
    (recuperar retrieval request instante decisoes).Obeys (fun later _ => past <+: later)
      (fun later result => ∀ r, result = .ok r → Isolado later request r) past := by
  have hperm : (dominiosEmOrdem request.context).Perm request.context.domainIds :=
    List.perm_insertionSort _ _
  have hnodup : (decisoes.map DomainIsolationDecision.domainId).Nodup := by
    have hdistinct : request.context.domainIds.Nodup :=
      request.context.domainIds_canonical.imp fun hlt heq => by
        rw [heq] at hlt
        exact lt_irrefl _ hlt
    rw [hids]
    exact hperm.nodup_iff.mpr hdistinct
  unfold recuperar
  refine (snapshot_obeys hnodup fun decisao _ => primeiraLeitura_eq_none hquiet _).attempt ?_ ?_
  · exact fun later e h r hr => by cases hr
  rintro middle autorizado ⟨hmiddle, hsnapshot⟩
  have hcomeca : (retrieval (pedidoDaVista request instante)).Obeys (fun later _ => middle <+: later)
      (fun later _ => middle <+: later) middle := Proc.obeys_prefix _
  have hview := hcomeca.mono (fun later _ h => hmiddle.trans h) fun _ _ h => h
  refine hview.attempt ?_ ?_
  · exact fun later e h r hr => by cases hr
  intro later vista hlater
  refine .done fun r hr => ?_
  obtain ⟨⟨⟩, hverified, hr⟩ := bind_eq_ok.mp hr
  obtain ⟨⟨⟩, -, hr⟩ := bind_eq_ok.mp hr
  have hfields := MemoryIsolationResult.of_make hr
  have hdecisions : r.decisions = decisoes := congrArg MemoryIsolationResultFields.decisions hfields
  have hinstant : r.evaluatedAt = instante :=
    congrArg MemoryIsolationResultFields.evaluatedAt hfields
  have hretrieval : r.retrieval = some vista := congrArg MemoryIsolationResultFields.retrieval hfields
  intro view hview item hitem
  rw [hretrieval] at hview
  obtain rfl := Option.some.inj hview
  have hseen : item.coid ∈ autorizado := of_verificarResultado hverified item hitem
  obtain ⟨decisao, hdecisao, hrows⟩ := (hsnapshot autorizado rfl item.coid hseen).mono hlater
  have hdeclared : decisao.domainId ∈ request.context.domainIds := by
    rw [← hperm.mem_iff, ← hids]
    exact List.mem_map_of_mem hdecisao
  obtain ⟨i, hi⟩ := List.getElem?_of_mem hdecisao
  rw [hdecisions, hinstant]
  exact ⟨i, decisao, hi, hdeclared, hauthorized decisao hdecisao,
    (hresolved i decisao hi).mono (hmiddle.trans hlater), hrows⟩

/-- Over any retrieval port and any stores, nothing that is stored is read before every
declared domain is authorized on its own, and what is shown belongs to them. -/
theorem retrieveIsolated_obeys (retrieval : RetrievalRequest → Passo MemoryRetrievalResult)
    (request : RetrievalRequest) : (retrieveIsolated retrieval request).Obeys
      (fun past c => c.tocaPatrimonio = true → TodosAutorizados past request)
      (fun past result => ∀ r, result = .ok r → Isolado past request r) [] := by
  have hquiet {α : Type} {S : List (Answered Consulta Consulta.Resposta) → α → Prop}
      {p : Proc Consulta Consulta.Resposta α} {past : List (Answered Consulta Consulta.Resposta)}
      (h : p.Obeys (fun _ c => c.tocaPatrimonio = false) S past) :
      p.Obeys (fun past c => c.tocaPatrimonio = true → TodosAutorizados past request) S past :=
    h.mono (fun _ c hc htouch => absurd (hc.symm.trans htouch) (by simp)) fun _ _ h => h
  have hpure {α : Type} (x : Except ManagerError α)
      (past : List (Answered Consulta Consulta.Resposta)) :
      (Proc.done x : Passo α).Obeys
        (fun past c => c.tocaPatrimonio = true → TodosAutorizados past request)
        (fun later _ => later = past) past := .done rfl
  unfold retrieveIsolated
  refine (hpure _ _).attempt (fun _ _ _ r hr => by cases hr) ?_
  rintro _ _ rfl
  -- Before the decisions nothing stored is read, nor are the policies.
  have hvalidate := (validate_asks request.context []).recorded (by simp)
  refine (hquiet (hvalidate.mono (fun _ _ h => h.1) fun _ _ h => h)).attempt
    (fun _ _ _ r hr => by cases hr) ?_
  rintro past _ ⟨-, hpast⟩
  refine (hpure _ _).attempt (fun _ _ _ r hr => by cases hr) ?_
  rintro past _ rfl
  have hinstante := (instanteUnico_obeys request.moment past).recorded hpast
  refine (hquiet (hinstante.mono (fun _ _ h => h.1) fun _ _ h => h)).attempt
    (fun _ _ _ r hr => by cases hr) ?_
  rintro past instante ⟨hmoment, hpast⟩
  have hnone : tabelasLidas past = [] := tabelasLidas_eq_nil fun e he => (hpast e he).2
  have hdecide := (decidirDominios_obeys request instante (dominiosEmOrdem request.context)
    past).recorded fun e he => (hpast e he).1
  refine (hquiet hdecide).attempt (fun _ _ _ r hr => by cases hr) ?_
  rintro past decisoes ⟨⟨-, hdecisoes⟩, hpast⟩
  obtain ⟨hids, hresolved⟩ := hdecisoes decisoes rfl
  simp only [hnone, List.length_nil, Nat.zero_add] at hresolved
  refine (hpure _ _).attempt (fun _ _ _ r hr => by cases hr) ?_
  rintro past _ rfl
  split
  case isTrue hall =>
    rw [List.all_eq_true] at hall
    refine (recuperar_obeys retrieval hpast hids hresolved hall).mono ?_ fun _ _ h => h
    -- From here on every domain has its own authorization in the log.
    intro later c hlater _
    refine ⟨instante, hmoment instante rfl, fun i d hd => ?_⟩
    rw [← hids, List.getElem?_map] at hd
    obtain ⟨decisao, hdecisao, rfl⟩ := Option.map_eq_some_iff.mp hd
    exact ⟨decisao.resolution, hall decisao (List.mem_of_getElem? hdecisao),
      (hresolved i decisao hdecisao).mono hlater⟩
  case isFalse =>
    refine .done fun r hr vista hvista => ?_
    have hfields := MemoryIsolationResult.of_make hr
    have hnone : r.retrieval = none := congrArg MemoryIsolationResultFields.retrieval hfields
    rw [hnone] at hvista
    cases hvista

/-- What holds of an isolated request along every run of it. -/
structure IsolationLaws (retrieval : RetrievalRequest → Passo MemoryRetrievalResult)
    (request : RetrievalRequest) : Prop where
  authorized_first : ∀ log q, Proc.Path (retrieveIsolated retrieval request) log q →
    ∀ front e post, log = front ++ e :: post → e.call.tocaPatrimonio = true →
      TodosAutorizados front request
  contained : ∀ log r, Proc.Path (retrieveIsolated retrieval request) log (.done (.ok r)) →
    Isolado log request r

/-- The laws hold of every request, whatever the stores and the retrieval port answer. -/
theorem isolation_laws (retrieval : RetrievalRequest → Passo MemoryRetrievalResult)
    (request : RetrievalRequest) : IsolationLaws retrieval request where
  authorized_first log q hpath front e post hlog htouch :=
    (retrieveIsolated_obeys retrieval request).calls hpath hlog htouch
  contained log r hpath := by
    have hobeys := (retrieveIsolated_obeys retrieval request).path hpath
    rw [List.nil_append] at hobeys
    exact hobeys.result r rfl

end MemoryIsolationManager

end PiaOs.Memory
