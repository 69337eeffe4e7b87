import PiaOs.Memory.Retrieval

/-!
# The pages of the admissible view

Over a search whose results stay the same, the loop reads batches until the page
is full and one more, or the search is exhausted. The page is a window of the list
of the objects that are admissible and pass the gate.
-/

namespace PiaOs.Memory

open Support

/-- Stores that do not change during the calls, a search with a fixed list of results
and a gate that decides by the object. -/
structure Acervo where
  now : Datetime
  policies : PolicyTable
  domains : List Uuid
  memberships : Uuid → List MembershipView
  hits : List CognitiveObjectView
  gate : CognitiveObjectView → Bool

namespace Acervo

def responde (a : Acervo) : (c : Consulta) → c.Resposta
  | .now => a.now
  | .policies => a.policies
  | .existsDomain domainId => decide (domainId ∈ a.domains)
  | .membershipsOfDomain domainId => a.memberships domainId
  | .search limit offset => (a.hits.drop offset).take limit
  | .allows candidate => .verdict (a.gate candidate)

/-- The scope of a context: the members of its domains, when it declares some. -/
def escopo (a : Acervo) (context : MemoryContext) : Option (List Uuid) :=
  if context.domainIds = [] then none
  else some (context.domainIds.flatMap fun d => (a.memberships d).map MembershipView.coid)

end Acervo

namespace MemoryRetrievalManager

variable {a : Acervo} {escopo : Option (List Uuid)} {gated : Bool} {limit offset : Nat}

/-- The object is admissible and passes the gate, if there is one. -/
def aprovado (a : Acervo) (escopo : Option (List Uuid)) (gated : Bool)
    (objeto : CognitiveObjectView) : Bool :=
  admissivel objeto escopo && (!gated || a.gate objeto)

/-- What the port promises of its results: known tokens, and no admissible object twice. -/
structure Contrato (escopo : Option (List Uuid)) (hits : List CognitiveObjectView) : Prop where
  known : ∀ objeto ∈ hits, validarHit objeto = .ok ()
  distinct : ((hits.filter (admissivel · escopo)).map CognitiveObjectView.id).Nodup

/-- The variables of the loop, once it has gone through some of the results. -/
structure Percorrido (a : Acervo) (escopo : Option (List Uuid)) (gated : Bool) (offset : Nat)
    (feitos : List CognitiveObjectView) (coleta : Coleta) : Prop where
  itens : coleta.admissiveis.map RetrievedMemoryItem.toRetrievedMemoryItemFields =
    ((feitos.filter (aprovado a escopo gated)).drop offset).map projecao
  descartados : coleta.descartados = min offset (feitos.filter (aprovado a escopo gated)).length
  vistos : ∀ id, id ∈ coleta.vistos ↔
    id ∈ (feitos.filter (admissivel · escopo)).map CognitiveObjectView.id

theorem Percorrido.inicio : Percorrido a escopo gated offset [] {} where
  itens := by simp
  descartados := by simp
  vistos := by simp

variable {feitos lote : List CognitiveObjectView} {objeto : CognitiveObjectView} {coleta : Coleta}

theorem Percorrido.length (h : Percorrido a escopo gated offset feitos coleta) :
    coleta.admissiveis.length = (feitos.filter (aprovado a escopo gated)).length - offset := by
  have hlength := congrArg List.length h.itens
  simpa using hlength

/-- An object that is not admissible leaves the variables as they are. -/
theorem Percorrido.inadmissivel (h : Percorrido a escopo gated offset feitos coleta)
    (hobjeto : admissivel objeto escopo = false) :
    Percorrido a escopo gated offset (feitos ++ [objeto]) coleta := by
  have haprovado : aprovado a escopo gated objeto = false := by simp [aprovado, hobjeto]
  constructor
  · simpa [haprovado] using h.itens
  · simpa [haprovado] using h.descartados
  · simpa [hobjeto] using h.vistos

/-- An admissible object that the gate rejects is only marked as seen. -/
theorem Percorrido.rejeitado (h : Percorrido a escopo gated offset feitos coleta)
    (hobjeto : admissivel objeto escopo = true) (hgate : aprovado a escopo gated objeto = false) :
    Percorrido a escopo gated offset (feitos ++ [objeto])
      { coleta with vistos := objeto.id :: coleta.vistos } := by
  constructor
  · simpa [hgate] using h.itens
  · simpa [hgate] using h.descartados
  · intro id
    have hseen := h.vistos id
    simp [hobjeto, hseen, or_comm]

/-- What an approved object holds can be shown. -/
theorem projetar_eq_ok (hvalid : validarHit objeto = .ok ()) (hobjeto : admissivel objeto escopo = true) :
    ∃ item, projetar objeto = .ok item ∧
      item.toRetrievedMemoryItemFields = projecao objeto := by
  have haccessible : objeto.accessibility ∈ retrievableAccessibilityTokens := by
    simp only [admissivel, Bool.and_eq_true, decide_eq_true_eq] at hobjeto
    exact hobjeto.1.2
  have hstated : blank objeto.accessibility = false := by
    simp only [retrievableAccessibilityTokens, List.mem_cons, List.not_mem_nil, or_false]
      at haccessible
    rcases haccessible with heq | heq <;> rw [heq] <;> exact stated_of_head (by decide)
  have hrevision := (validarHit_eq_ok.mp hvalid).2
  have hrevisionStated : ∀ token ∈ objeto.revisionStatus, blank token = false := by
    intro token htoken
    have hknown := hrevision token htoken
    simp only [knownRevisionTokens, List.mem_cons, List.not_mem_nil, or_false] at hknown
    rcases hknown with rfl | rfl <;> exact stated_of_head (by decide)
  have hnone : (projecao objeto).violation = none := by
    rw [RetrievedMemoryItemFields.violation, firstOf_eq_none]
    simp only [List.forall_mem_cons, refuse_eq_none, projecao, hstated, List.not_mem_nil,
      false_implies, implies_true, and_true, true_and]
    refine ⟨?_, ?_, by simp [haccessible]⟩
    · cases hstatus : objeto.revisionStatus with
      | none => rfl
      | some token => exact hrevisionStated token hstatus
    · cases hstatus : objeto.revisionStatus with
      | none => rfl
      | some token => simpa using hrevision token hstatus
  refine ⟨⟨projecao objeto, hnone⟩, ?_, rfl⟩
  rw [projetar, checked_eq_ok hnone]
  rfl

/-- An approved object is dropped while there is something to drop, and shown afterwards. -/
theorem Percorrido.acrescentado (h : Percorrido a escopo gated offset feitos coleta)
    (hvalid : validarHit objeto = .ok ()) (hobjeto : admissivel objeto escopo = true)
    (hgate : aprovado a escopo gated objeto = true) :
    ∃ coleta', acrescentar offset objeto { coleta with vistos := objeto.id :: coleta.vistos } =
        .ok coleta' ∧ Percorrido a escopo gated offset (feitos ++ [objeto]) coleta' := by
  have hseen : ∀ id, id ∈ objeto.id :: coleta.vistos ↔
      id ∈ ((feitos ++ [objeto]).filter (admissivel · escopo)).map CognitiveObjectView.id := by
    intro id
    have hbefore := h.vistos id
    simp [hobjeto, hbefore, or_comm]
  have hfilter : (feitos ++ [objeto]).filter (aprovado a escopo gated) =
      feitos.filter (aprovado a escopo gated) ++ [objeto] := by simp [hgate]
  have hdropped := h.descartados
  unfold acrescentar
  by_cases hfew : coleta.descartados < offset
  · refine ⟨_, if_pos hfew, ?_, ?_, hseen⟩
    · have hshort : (feitos.filter (aprovado a escopo gated)).length < offset := by omega
      have hitens := h.itens
      rw [List.drop_eq_nil_of_le (by omega)] at hitens
      rw [hfilter, List.drop_eq_nil_of_le (by simp; omega)]
      exact hitens
    · rw [hfilter, List.length_append, List.length_singleton]
      simp only
      omega
  · obtain ⟨item, hitem, hfields⟩ := projetar_eq_ok hvalid hobjeto
    refine ⟨{ coleta with
      vistos := objeto.id :: coleta.vistos
      admissiveis := coleta.admissiveis ++ [item] }, ?_, ?_, ?_, hseen⟩
    · simp only [hfew, if_false, hitem, ok_bind]
    · have hlong : offset ≤ (feitos.filter (aprovado a escopo gated)).length := by omega
      rw [hfilter, List.drop_append_of_le_length hlong]
      simp only [List.map_append, List.map_singleton, h.itens, hfields]
    · rw [hfilter, List.length_append, List.length_singleton]
      simp only
      omega

/-- Either everything was gone through, or the page holds one more than its limit. -/
def Encerrado (limit : Nat) (resto : List CognitiveObjectView) (coleta : Coleta) : Prop :=
  resto = [] ∧ coleta.admissiveis.length ≤ limit ∨ coleta.admissiveis.length = limit + 1

/-- The gate is asked, if there is one. -/
theorem eval_gate : (if gated then gateAprova objeto else .done (.ok true) : Passo Bool).eval
    a.responde = .ok (!gated || a.gate objeto) := by
  cases gated with
  | false => rfl
  | true => rfl

/-- The inner loop goes through a part of the batch, all of it unless the page is full. -/
theorem percorrer_eval (hvalid : ∀ objeto ∈ lote, validarHit objeto = .ok ())
    (hdistinct : (((feitos ++ lote).filter (admissivel · escopo)).map CognitiveObjectView.id).Nodup)
    (h : Percorrido a escopo gated offset feitos coleta)
    (hshort : coleta.admissiveis.length ≤ limit) :
    ∃ lidos resto coleta', lote = lidos ++ resto ∧
      (percorrer escopo gated limit offset lote coleta).eval a.responde = .ok coleta' ∧
      Percorrido a escopo gated offset (feitos ++ lidos) coleta' ∧
      Encerrado limit resto coleta' := by
  induction lote generalizing feitos coleta with
  | nil => exact ⟨[], [], coleta, rfl, rfl, by rwa [List.append_nil], .inl ⟨rfl, hshort⟩⟩
  | cons objeto resto ih =>
    have hobjeto := hvalid objeto List.mem_cons_self
    have hrest := fun other hother => hvalid other (List.mem_cons_of_mem _ hother)
    have hdistinct' : ((((feitos ++ [objeto]) ++ resto).filter (admissivel · escopo)).map
        CognitiveObjectView.id).Nodup := by
      rwa [List.append_assoc, List.singleton_append]
    -- After an object that does not end the page the rest is gone through in the same way.
    have hcontinue {coleta₁ : Coleta}
        (h₁ : Percorrido a escopo gated offset (feitos ++ [objeto]) coleta₁)
        (hshort₁ : coleta₁.admissiveis.length ≤ limit)
        (heval : (percorrer escopo gated limit offset (objeto :: resto) coleta).eval a.responde =
          (percorrer escopo gated limit offset resto coleta₁).eval a.responde) :
        ∃ lidos resto' coleta', objeto :: resto = lidos ++ resto' ∧
          (percorrer escopo gated limit offset (objeto :: resto) coleta).eval a.responde =
            .ok coleta' ∧
          Percorrido a escopo gated offset (feitos ++ lidos) coleta' ∧
          Encerrado limit resto' coleta' := by
      obtain ⟨lidos, resto', coleta', hsplit, hdone, hperc, hend⟩ := ih hrest hdistinct' h₁ hshort₁
      refine ⟨objeto :: lidos, resto', coleta', by rw [hsplit, List.cons_append], ?_, ?_, hend⟩
      · rw [heval, hdone]
      · rwa [List.append_assoc, List.singleton_append] at hperc
    by_cases hadm : admissivel objeto escopo = true
    · have hfresh : objeto.id ∉ coleta.vistos := by
        rw [h.vistos]
        rw [List.filter_append, List.map_append] at hdistinct
        have hdisjoint := List.disjoint_of_nodup_append hdistinct
        refine fun hmem => hdisjoint hmem ?_
        simp [hadm]
      have hasked : (percorrer escopo gated limit offset (objeto :: resto) coleta).eval a.responde =
          (if aprovado a escopo gated objeto = false then
            percorrer escopo gated limit offset resto
              { coleta with vistos := objeto.id :: coleta.vistos }
          else (Proc.done (acrescentar offset objeto
              { coleta with vistos := objeto.id :: coleta.vistos })).attempt fun coleta =>
            if limit < coleta.admissiveis.length then .done (.ok coleta)
            else percorrer escopo gated limit offset resto coleta : Passo Coleta).eval
              a.responde := by
        rw [percorrer, hobjeto]
        simp only [Proc.eval_attempt, Proc.eval_done, Except.bind, hadm, Bool.true_eq_false,
          if_false, hfresh, eval_gate, aprovado, Bool.true_and]
      by_cases hgate : aprovado a escopo gated objeto = true
      · obtain ⟨coleta₁, hadded, h₁⟩ := h.acrescentado hobjeto hadm hgate
        simp only [hgate, Bool.true_eq_false, if_false, hadded, Proc.eval_attempt, Proc.eval_done,
          Except.bind] at hasked
        by_cases hfull : limit < coleta₁.admissiveis.length
        · refine ⟨[objeto], resto, coleta₁, rfl, ?_, h₁, .inr ?_⟩
          · rw [hasked, if_pos hfull]
            rfl
          · have hbefore := h.length
            have hafter := h₁.length
            simp only [List.filter_append, List.filter_cons_of_pos hgate, List.filter_nil,
              List.length_append, List.length_singleton] at hafter
            omega
        · exact hcontinue h₁ (by omega) (by rw [hasked, if_neg hfull])
      · rw [Bool.not_eq_true] at hgate
        exact hcontinue (h.rejeitado hadm hgate) hshort (by rw [hasked, if_pos hgate])
    · rw [Bool.not_eq_true] at hadm
      refine hcontinue (h.inadmissivel hadm) hshort ?_
      rw [percorrer, hobjeto]
      simp only [Proc.eval_attempt, Proc.eval_done, Except.bind, hadm, if_true]

/-- The outer loop ends once it has read every result, or a full page and one more. -/
theorem lotes_eval (hcontrato : Contrato escopo a.hits) {voltas posicao : Nat}
    (hvoltas : (a.hits.drop posicao).length / searchBatchSize < voltas)
    (h : Percorrido a escopo gated offset (a.hits.take posicao) coleta)
    (hshort : coleta.admissiveis.length ≤ limit) :
    ∃ lidos resto coleta', a.hits = lidos ++ resto ∧
      (lotes escopo gated limit offset voltas posicao coleta).eval a.responde = .ok coleta' ∧
      Percorrido a escopo gated offset lidos coleta' ∧ Encerrado limit resto coleta' := by
  induction voltas generalizing posicao coleta with
  | zero => exact absurd hvoltas (Nat.not_lt_zero _)
  | succ voltas ih =>
    have hsplit : a.hits = a.hits.take posicao ++ a.hits.drop posicao :=
      (List.take_append_drop posicao a.hits).symm
    have hstep : (lotes escopo gated limit offset (voltas + 1) posicao coleta).eval a.responde =
        Proc.eval a.responde (if (a.hits.drop posicao).take searchBatchSize = [] then
            .done (.ok coleta)
          else (percorrer escopo gated limit offset
              ((a.hits.drop posicao).take searchBatchSize) coleta).attempt fun coleta =>
            if ((a.hits.drop posicao).take searchBatchSize).length < searchBatchSize ∨
                limit < coleta.admissiveis.length then .done (.ok coleta)
            else lotes escopo gated limit offset voltas
              (posicao + ((a.hits.drop posicao).take searchBatchSize).length) coleta) := rfl
    rw [hstep]
    generalize hlote : (a.hits.drop posicao).take searchBatchSize = lote
    have hfollow : a.hits.drop posicao = lote ++ (a.hits.drop posicao).drop searchBatchSize := by
      rw [← hlote, List.take_append_drop]
    have hlength : lote.length = min searchBatchSize (a.hits.drop posicao).length := by
      rw [← hlote, List.length_take]
    by_cases hempty : lote = []
    · -- No batch is left: all results have been read.
      have hdone : a.hits.drop posicao = [] := by
        rw [hempty, List.length_nil] at hlength
        have hzero : (a.hits.drop posicao).length = 0 := by
          unfold searchBatchSize at hlength
          omega
        exact List.eq_nil_of_length_eq_zero hzero
      refine ⟨a.hits.take posicao, [], coleta, ?_, ?_, h, .inl ⟨rfl, hshort⟩⟩
      · rw [← hdone]
        exact hsplit
      · rw [if_pos hempty]
        rfl
    · rw [if_neg hempty, Proc.eval_attempt]
      have hvalid : ∀ objeto ∈ lote, validarHit objeto = .ok () := by
        intro objeto hobjeto
        refine hcontrato.known objeto ?_
        rw [hsplit, hfollow]
        simp [hobjeto]
      have hdistinct : (((a.hits.take posicao ++ lote).filter (admissivel · escopo)).map
          CognitiveObjectView.id).Nodup := by
        refine hcontrato.distinct.sublist ((List.Sublist.filter _ ?_).map _)
        conv => rhs; rw [hsplit, hfollow, ← List.append_assoc]
        exact List.sublist_append_left _ _
      obtain ⟨lidos, resto, coleta', hread, heval, hperc, hend⟩ :=
        percorrer_eval hvalid hdistinct h hshort
      have hall : a.hits = (a.hits.take posicao ++ lidos) ++
          (resto ++ (a.hits.drop posicao).drop searchBatchSize) := by
        conv => lhs; rw [hsplit, hfollow, hread]
        simp only [List.append_assoc]
      rw [heval]
      simp only [Except.bind]
      by_cases hstop : lote.length < searchBatchSize ∨ limit < coleta'.admissiveis.length
      · refine ⟨_, _, coleta', hall, by rw [if_pos hstop]; rfl, hperc, ?_⟩
        rcases hend with ⟨hresto, hlen⟩ | hfull
        · have hlast : (a.hits.drop posicao).drop searchBatchSize = [] := by
            rcases hstop with hsmall | hfull
            · refine List.drop_eq_nil_of_le ?_
              omega
            · omega
          rw [hresto, hlast]
          exact .inl ⟨rfl, hlen⟩
        · exact .inr hfull
      · rw [if_neg hstop]
        obtain ⟨hresto, hlen⟩ : resto = [] ∧ coleta'.admissiveis.length ≤ limit := by
          rcases hend with hmore | hfull
          · exact hmore
          · omega
        have hwhole : lidos = lote := by rw [hread, hresto, List.append_nil]
        have hnext : a.hits.take (posicao + lote.length) = a.hits.take posicao ++ lidos := by
          rw [List.take_add, hwhole]
          congr 1
          rw [hfollow, List.take_left' rfl]
        refine ih ?_ (by rwa [hnext]) hlen
        have hdrop : (a.hits.drop (posicao + lote.length)).length =
            (a.hits.drop posicao).length - lote.length := by
          simp only [List.length_drop]
          omega
        rw [hdrop]
        unfold searchBatchSize at hvoltas hstop hlength ⊢
        omega

/-- The objects of the view, in order. -/
def vista (a : Acervo) (escopo : Option (List Uuid)) (gated : Bool) :
    List RetrievedMemoryItemFields := (a.hits.filter (aprovado a escopo gated)).map projecao

/-- The collected page is the window of the view, and there is more exactly when the
view goes on behind it. -/
theorem coletar_eval (hcontrato : Contrato escopo a.hits) {voltas : Nat}
    (hvoltas : a.hits.length / searchBatchSize < voltas) :
    ∃ itens, (coletar escopo gated limit offset voltas).eval a.responde =
        .ok (itens, decide (offset + limit < (vista a escopo gated).length)) ∧
      itens.map RetrievedMemoryItem.toRetrievedMemoryItemFields =
        ((vista a escopo gated).drop offset).take limit := by
  obtain ⟨lidos, resto, coleta, hsplit, heval, hperc, hend⟩ :=
    @lotes_eval a escopo gated limit offset {} hcontrato voltas 0 (by simpa using hvoltas)
      (by simpa using Percorrido.inicio) (by simp)
  have hlength := hperc.length
  have hfilter : a.hits.filter (aprovado a escopo gated) =
      lidos.filter (aprovado a escopo gated) ++ resto.filter (aprovado a escopo gated) := by
    rw [hsplit, List.filter_append]
  refine ⟨coleta.admissiveis.take limit, ?_, ?_⟩
  · rw [coletar, Proc.eval_attempt, heval]
    simp only [Except.bind, Proc.eval_done, Except.ok.injEq, Prod.mk.injEq, true_and,
      decide_eq_decide, vista, List.length_map, hfilter, List.length_append]
    rcases hend with ⟨rfl, hshort⟩ | hfull
    · simp only [List.filter_nil, List.length_nil]
      omega
    · omega
  · rw [List.map_take, hperc.itens, vista, List.map_drop, hfilter]
    rcases hend with ⟨rfl, -⟩ | hfull
    · rw [List.filter_nil, List.append_nil]
    · rw [List.map_append, List.drop_append_of_le_length (by rw [List.length_map]; omega),
        List.take_append_of_le_length]
      simp only [List.length_drop, List.length_map]
      omega

/-- A request that the manager serves: a page of a size it allows, of what can be read,
in domains that exist. -/
structure Servido (a : Acervo) (request : RetrievalRequest) : Prop where
  limit_inRange : 1 ≤ request.limit ∧ request.limit ≤ maxLimit
  offset_nonneg : 0 ≤ request.offset
  reads : request.descriptor.operation = .read
  domains_exist : ∀ d ∈ request.context.domainIds, d ∈ a.domains

/-- What governance answers to a request. -/
def resolucao (a : Acervo) (request : RetrievalRequest) : Except String GovernanceResolution :=
  GovernanceManager.resolve a.policies request.descriptor request.context request.policyKey
    (request.moment.getD a.now)

variable {request : RetrievalRequest} {r : GovernanceResolution} {voltas : Nat}

theorem desconhecidos_eval (ids : List Uuid) : (ContextManager.desconhecidos ids).eval a.responde =
    ids.filter fun d => d ∉ a.domains := by
  induction ids with
  | nil => rfl
  | cons d ids ih =>
    have hanswer : a.responde (.existsDomain d) = decide (d ∈ a.domains) := rfl
    have hstep : (ContextManager.desconhecidos (d :: ids)).eval a.responde =
        if decide (d ∈ a.domains) = true then (ContextManager.desconhecidos ids).eval a.responde
        else d :: (ContextManager.desconhecidos ids).eval a.responde := by
      change Proc.eval a.responde (Proc.bind _ _) = _
      rw [Proc.eval_bind, hanswer]
      rfl
    rw [hstep, ih]
    by_cases hd : d ∈ a.domains <;> simp [hd]

theorem validate_eval (h : ∀ d ∈ request.context.domainIds, d ∈ a.domains) :
    (ContextManager.validate request.context).eval a.responde = .ok request.context := by
  have hnone : (request.context.domainIds.filter fun d => d ∉ a.domains) = [] := by
    simpa using h
  rw [ContextManager.validate, Proc.eval_bind, desconhecidos_eval, hnone]
  rfl

theorem membros_eval (ids : List Uuid) : (membros ids).eval a.responde =
    ids.flatMap fun d => (a.memberships d).map MembershipView.coid := by
  induction ids with
  | nil => rfl
  | cons d ids ih =>
    change Proc.eval a.responde (Proc.bind _ _) = _
    rw [Proc.eval_bind, ih]
    rfl

theorem resolverEscopo_eval (context : MemoryContext) :
    (resolverEscopo context).eval a.responde = a.escopo context := by
  unfold resolverEscopo Acervo.escopo
  split
  · rfl
  · rw [Proc.eval_bind, membros_eval]
    rfl

theorem resolver_eval : (resolver request.descriptor request.context request.policyKey
    request.moment).eval a.responde = (resolucao a request).mapError .value := by
  unfold resolver resolucao
  cases request.moment with
  | none => rfl
  | some moment => rfl

/-- A resolution of the request passes the checks of fidelity. -/
theorem fidelidade_eq_ok (hreads : request.descriptor.operation = .read)
    (hbound : GovernanceManager.Bound request.descriptor request.context request.policyKey r) :
    verificarFidelidadeDaResolucao r request = .ok () := by
  have hpolicy : ¬(r.policyKey.isSome ∧ r.policyKey ≠ request.policyKey) := by
    rintro ⟨hsome, hne⟩
    obtain ⟨key, hkey⟩ := Option.isSome_iff_exists.mp hsome
    exact hne (by rw [hkey, hbound.policy key hkey])
  have hvinculo := resolucaoVinculaContexto_eq_nil.mpr
    ⟨hbound.domains, hbound.actor, hbound.purpose⟩
  unfold verificarFidelidadeDaResolucao
  simp only [hvinculo, List.append_nil, reduceOption_eq_nil, List.forall_mem_cons, refuse_eq_none,
    hbound.operation, hreads, hpolicy, ne_eq, not_true_eq_false, decide_false, List.not_mem_nil,
    false_implies, implies_true, and_self, if_true]

/-- A served request is decided by governance and then carried out. -/
theorem retrieve_eval (h : Servido a request) (hr : resolucao a request = .ok r) :
    (retrieve voltas request).eval a.responde = (executar voltas request r).eval a.responde := by
  have hlow : ¬request.limit < 1 := not_lt.mpr h.limit_inRange.1
  have hhigh : ¬maxLimit < request.limit := not_lt.mpr h.limit_inRange.2
  have hoffset : ¬request.offset < 0 := not_lt.mpr h.offset_nonneg
  have hpage : exigir (validarPaginacao request.limit request.offset) = .ok () := by
    have hnone : validarPaginacao request.limit request.offset = none := by
      rw [validarPaginacao, firstOf_eq_none]
      simp [hlow, hhigh, hoffset]
    rw [hnone]
    rfl
  have hdescriptor : exigir (validarDescritor request.descriptor) = .ok () := by
    have hnone : validarDescritor request.descriptor = none := by simp [validarDescritor, h.reads]
    rw [hnone]
    rfl
  have hsame : verificarFidelidadeDoContexto request.context request.context = .ok () := by
    simp [verificarFidelidadeDoContexto, MemoryContext.iguais]
  have hfidelity := fidelidade_eq_ok h.reads (GovernanceManager.resolve_bound hr)
  unfold retrieve
  simp only [Proc.eval_attempt, Proc.eval_done, hpage, hdescriptor, validate_eval h.domains_exist,
    hsame, resolver_eval, hr, Except.mapError, hfidelity, Except.bind]

/-- A denied request has its refusal, without a search. -/
theorem retrieve_denied (h : Servido a request) (hr : resolucao a request = .ok r)
    (hdenied : r.executionAuthorized = false) :
    ∃ result, (retrieve voltas request).eval a.responde = .ok result ∧ result.items = [] ∧
      result.searchExecuted = false ∧ result.hasMore = none := by
  have hbound := GovernanceManager.resolve_bound hr
  have hlow : ¬request.limit < 0 := by
    have hpositive := h.limit_inRange.1
    omega
  have hhigh : ¬maxLimit < request.limit := not_lt.mpr h.limit_inRange.2
  have hoffset : ¬request.offset < 0 := not_lt.mpr h.offset_nonneg
  have hnone : MemoryRetrievalResultFields.violation
      { context := request.context, governanceResolution := r, limit := request.limit,
        offset := request.offset } = none := by
    have hvinculo := resolucaoVinculaContexto_eq_nil.mpr
      ⟨hbound.domains, hbound.actor, hbound.purpose⟩
    rw [MemoryRetrievalResultFields.violation, firstOf_eq_none]
    simp [MemoryRetrievalResultFields.coids, MemoryRetrievalResultFields.validarNegado, hvinculo,
      hlow, hhigh, hoffset, hbound.operation, h.reads, hdenied]
  refine ⟨⟨_, hnone⟩, ?_, rfl, rfl, rfl⟩
  rw [retrieve_eval h hr, executar]
  simp only [hdenied, if_true, Proc.eval_done, MemoryRetrievalResult.make, checked_eq_ok hnone]
  rfl

/-- The identifiers of the view differ. -/
theorem vista_nodup (hcontrato : Contrato escopo a.hits) :
    ((vista a escopo gated).map RetrievedMemoryItemFields.coid).Nodup := by
  have hsub : ((a.hits.filter (aprovado a escopo gated)).map CognitiveObjectView.id).Sublist
      ((a.hits.filter (admissivel · escopo)).map CognitiveObjectView.id) := by
    refine List.Sublist.map _ (List.monotone_filter_right _ fun objeto hobjeto => ?_)
    simp only [aprovado, Bool.and_eq_true] at hobjeto
    exact hobjeto.1
  have hsame : (vista a escopo gated).map RetrievedMemoryItemFields.coid =
      (a.hits.filter (aprovado a escopo gated)).map CognitiveObjectView.id := by
    rw [vista, List.map_map]
    rfl
  rw [hsame]
  exact hcontrato.distinct.sublist hsub

/-- An authorized request is answered with its window of the view. -/
theorem retrieve_page (h : Servido a request) (hr : resolucao a request = .ok r)
    (hauthorized : r.executionAuthorized = true)
    (hcontrato : Contrato (a.escopo request.context) a.hits)
    (hvoltas : a.hits.length / searchBatchSize < voltas) :
    ∃ result, (retrieve voltas request).eval a.responde = .ok result ∧
      result.searchExecuted = true ∧
      result.items.map RetrievedMemoryItem.toRetrievedMemoryItemFields =
        ((vista a (a.escopo request.context) request.gated).drop request.offset.toNat).take
          request.limit.toNat ∧
      result.hasMore = some (decide (request.offset.toNat + request.limit.toNat <
        (vista a (a.escopo request.context) request.gated).length)) := by
  have hbound := GovernanceManager.resolve_bound hr
  obtain ⟨hpositive, hbounded⟩ := h.limit_inRange
  have hnonneg := h.offset_nonneg
  obtain ⟨itens, hcollected, hitens⟩ := @coletar_eval a (a.escopo request.context) request.gated
    request.limit.toNat request.offset.toNat hcontrato voltas hvoltas
  have hlength : itens.length =
      min request.limit.toNat ((vista a (a.escopo request.context) request.gated).length -
        request.offset.toNat) := by
    simpa using congrArg List.length hitens
  have hnodup : (itens.map fun item => item.coid).Nodup := by
    have hview := @vista_nodup a (a.escopo request.context) request.gated hcontrato
    have hcoids : (itens.map fun item => item.coid) = (itens.map
        RetrievedMemoryItem.toRetrievedMemoryItemFields).map RetrievedMemoryItemFields.coid := by
      rw [List.map_map]
      rfl
    rw [hcoids, hitens]
    exact hview.sublist (((List.take_sublist _ _).trans (List.drop_sublist _ _)).map _)
  have hnone : MemoryRetrievalResultFields.violation
      { context := request.context, governanceResolution := r, items := itens,
        searchExecuted := true, limit := request.limit, offset := request.offset,
        hasMore := some (decide (request.offset.toNat + request.limit.toNat <
          (vista a (a.escopo request.context) request.gated).length)) } = none := by
    have hvinculo := resolucaoVinculaContexto_eq_nil.mpr
      ⟨hbound.domains, hbound.actor, hbound.purpose⟩
    have hlow : ¬request.limit < 0 := by omega
    have hlow' : ¬request.limit < 1 := by omega
    have hhigh : ¬maxLimit < request.limit := by omega
    have hoffset : ¬request.offset < 0 := by omega
    have hfits : ¬request.limit < itens.length := by omega
    have hfull : request.offset.toNat + request.limit.toNat <
        (vista a (a.escopo request.context) request.gated).length →
        (itens.length : Int) = request.limit := by omega
    rw [MemoryRetrievalResultFields.violation, firstOf_eq_none]
    simp [MemoryRetrievalResultFields.coids, MemoryRetrievalResultFields.validarAutorizado,
      hvinculo, hlow, hlow', hhigh, hoffset, hfits, hbound.operation, h.reads, hauthorized, hnodup]
    exact hfull
  refine ⟨⟨_, hnone⟩, ?_, rfl, hitens, rfl⟩
  rw [retrieve_eval h hr, executar]
  simp only [hauthorized, Bool.true_eq_false, if_false, Proc.eval_bind, resolverEscopo_eval,
    Proc.eval_attempt, hcollected, Except.bind, Proc.eval_done, MemoryRetrievalResult.make,
    checked_eq_ok hnone]
  rfl

/-- Among the answers is a table of policies under which governance answers `r`. -/
def Resolvido (past : List (Answered Consulta Consulta.Resposta))
    (descriptor : CapabilityDescriptor) (context : MemoryContext) (policyKey : Option String)
    (agora : Datetime) (r : GovernanceResolution) : Prop :=
  ∃ policies, (⟨.policies, policies⟩ : Answered Consulta Consulta.Resposta) ∈ past ∧
    GovernanceManager.resolve policies descriptor context policyKey agora = .ok r

theorem Resolvido.mono {past later : List (Answered Consulta Consulta.Resposta)}
    {descriptor : CapabilityDescriptor} {context : MemoryContext} {policyKey : Option String}
    {agora : Datetime} (h : Resolvido past descriptor context policyKey agora r)
    (hlater : past <+: later) : Resolvido later descriptor context policyKey agora r := by
  obtain ⟨policies, hmem, hr⟩ := h
  exact ⟨policies, hlater.subset hmem, hr⟩

/-- The request was authorized, at the instant that it names if it names one. -/
def Autorizado (past : List (Answered Consulta Consulta.Resposta)) (request : RetrievalRequest) :
    Prop :=
  ∃ agora r, (∀ moment ∈ request.moment, agora = moment) ∧ r.executionAuthorized = true ∧
    Resolvido past request.descriptor request.context request.policyKey agora r

/-- Looking for unknown domains touches nothing that is stored. -/
theorem validate_obeys (context : MemoryContext)
    (past : List (Answered Consulta Consulta.Resposta)) :
    (ContextManager.validate context).Obeys (fun _ c => c.tocaPatrimonio = false)
      (fun later _ => past <+: later) past := by
  have hunknown (ids : List Uuid) : ∀ past : List (Answered Consulta Consulta.Resposta),
      (ContextManager.desconhecidos ids).Obeys (fun _ c => c.tocaPatrimonio = false)
        (fun _ _ => True) past := by
    induction ids with
    | nil => exact fun past => .done trivial
    | cons d ids ih => exact fun past => .call rfl fun _ => (ih _).bind fun _ _ _ => .done trivial
  have hvalidate : (ContextManager.validate context).Obeys (fun _ c => c.tocaPatrimonio = false)
      (fun _ _ => True) past := (hunknown _ past).bind fun _ _ _ => .done trivial
  exact (hvalidate.and (Proc.obeys_prefix _)).mono (fun _ _ h => h.1) fun _ _ h => h.2

/-- A resolution comes from a table that was read for it. -/
theorem resolver_obeys (descriptor : CapabilityDescriptor) (context : MemoryContext)
    (policyKey : Option String) (moment : Option Datetime)
    (past : List (Answered Consulta Consulta.Resposta)) :
    (resolver descriptor context policyKey moment).Obeys (fun _ c => c.tocaPatrimonio = false)
      (fun later result => past <+: later ∧ ∀ r, result = .ok r →
        ∃ agora, (∀ m ∈ moment, agora = m) ∧
          Resolvido later descriptor context policyKey agora r) past := by
  have hread (agora : Datetime) (past : List (Answered Consulta Consulta.Resposta))
      (policies : PolicyTable) : ∀ r,
      (GovernanceManager.resolve policies descriptor context policyKey agora).mapError
        ManagerError.value = .ok r →
      Resolvido (past ++ [⟨.policies, policies⟩]) descriptor context policyKey agora r := by
    intro r hr
    exact ⟨policies, List.mem_concat_self, mapError_eq_ok.mp hr⟩
  unfold resolver
  cases moment with
  | some agora =>
    exact .call rfl fun policies => .done ⟨List.prefix_append _ _,
      fun r hr => ⟨agora, by simp, hread agora past policies r hr⟩⟩
  | none =>
    refine .call rfl fun agora => .call rfl fun policies => .done ⟨?_, fun r hr => ?_⟩
    · exact (List.prefix_append _ _).trans (List.prefix_append _ _)
    · exact ⟨agora, by simp, hread agora _ policies r hr⟩

/-- Whatever the stores answer, nothing that is stored is read for a request before
governance has authorized it. -/
theorem retrieve_obeys (voltas : Nat) (request : RetrievalRequest) :
    (retrieve voltas request).Obeys
      (fun past c => c.tocaPatrimonio = true → Autorizado past request) (fun _ _ => True) [] := by
  have hquiet {α : Type} {S : List (Answered Consulta Consulta.Resposta) → α → Prop}
      {p : Proc Consulta Consulta.Resposta α} {past : List (Answered Consulta Consulta.Resposta)}
      (h : p.Obeys (fun _ c => c.tocaPatrimonio = false) S past) :
      p.Obeys (fun past c => c.tocaPatrimonio = true → Autorizado past request) S past :=
    h.mono (fun _ c hc htouch => absurd (hc.symm.trans htouch) (by simp)) fun _ _ h => h
  have hpure {α : Type} (x : Except ManagerError α)
      (past : List (Answered Consulta Consulta.Resposta)) :
      (Proc.done x : Passo α).Obeys
        (fun past c => c.tocaPatrimonio = true → Autorizado past request)
        (fun later _ => later = past) past := .done rfl
  unfold retrieve
  refine (hpure _ _).attempt (fun _ _ _ => trivial) fun _ _ _ => ?_
  refine (hpure _ _).attempt (fun _ _ _ => trivial) fun _ _ _ => ?_
  refine (hquiet (validate_obeys _ _)).attempt (fun _ _ _ => trivial) fun _ _ _ => ?_
  refine (hpure _ _).attempt (fun _ _ _ => trivial) fun _ _ _ => ?_
  refine (hquiet (resolver_obeys _ _ _ _ _)).attempt (fun _ _ _ => trivial) fun past r hr => ?_
  obtain ⟨agora, hmoment, hresolved⟩ := hr.2 r rfl
  refine (hpure _ _).attempt (fun _ _ _ => trivial) ?_
  rintro _ _ rfl
  unfold executar
  simp only
  split
  case isTrue => exact .done trivial
  case isFalse hauthorized =>
    have hallowed : r.executionAuthorized = true := by simpa using hauthorized
    refine (Proc.obeys_prefix _).mono (fun later c hlater _ => ?_) fun _ _ _ => trivial
    exact ⟨agora, r, hmoment, hallowed, hresolved.mono hlater⟩

/-- Consecutive windows of a list give the list, up to where they reach. -/
theorem windows_concat {α : Type} (xs : List α) (size count : Nat) :
    ((List.range count).flatMap fun k => (xs.drop (k * size)).take size) =
      xs.take (count * size) := by
  induction count with
  | zero => simp
  | succ count ih =>
    rw [List.range_succ, List.flatMap_append, ih, List.flatMap_singleton, Nat.succ_mul,
      List.take_add]

/-- The request for another page. -/
def pedidoDaPagina (request : RetrievalRequest) (k : Nat) : RetrievalRequest :=
  { request with offset := k * request.limit }

/-- What holds of the view of a request: governance comes first, a page is a window of
the admissible and approved results, and the pages give the whole view. -/
structure RetrievalLaws (a : Acervo) (request : RetrievalRequest) : Prop where
  oversized : maxLimit < request.limit → ∀ voltas, (retrieve voltas request).eval a.responde =
    .error (.value ("limit não pode exceder MAX_LIMIT (100): " ++ toString request.limit))
  governed : ∀ voltas log q, Proc.Path (retrieve voltas request) log q → ∀ front e post,
    log = front ++ e :: post → e.call.tocaPatrimonio = true → Autorizado front request
  denied : Servido a request → ∀ r, resolucao a request = .ok r →
    r.executionAuthorized = false → ∀ voltas,
    ∃ result, (retrieve voltas request).eval a.responde = .ok result ∧ result.items = [] ∧
      result.searchExecuted = false ∧ result.hasMore = none
  page : Servido a request → ∀ r, resolucao a request = .ok r → r.executionAuthorized = true →
    Contrato (a.escopo request.context) a.hits → ∀ voltas,
    a.hits.length / searchBatchSize < voltas →
    ∃ result, (retrieve voltas request).eval a.responde = .ok result ∧
      result.searchExecuted = true ∧
      result.items.map RetrievedMemoryItem.toRetrievedMemoryItemFields =
        ((vista a (a.escopo request.context) request.gated).drop request.offset.toNat).take
          request.limit.toNat ∧
      result.hasMore = some (decide (request.offset.toNat + request.limit.toNat <
        (vista a (a.escopo request.context) request.gated).length))
  pages : Servido a request → ∀ r, resolucao a request = .ok r → r.executionAuthorized = true →
    Contrato (a.escopo request.context) a.hits → ∀ voltas,
    a.hits.length / searchBatchSize < voltas →
    ((vista a (a.escopo request.context) request.gated).map
        RetrievedMemoryItemFields.coid).Nodup ∧
      ∃ results : Nat → MemoryRetrievalResult,
        (∀ k, (retrieve voltas (pedidoDaPagina request k)).eval a.responde = .ok (results k)) ∧
        (∀ count, ((List.range count).flatMap fun k => (results k).items.map
            RetrievedMemoryItem.toRetrievedMemoryItemFields) =
          (vista a (a.escopo request.context) request.gated).take (count * request.limit.toNat)) ∧
        ∀ k, (results k).hasMore = some false → ((List.range (k + 1)).flatMap fun k =>
            (results k).items.map RetrievedMemoryItem.toRetrievedMemoryItemFields) =
          vista a (a.escopo request.context) request.gated

private theorem pages_whole (h : Servido a request) (hr : resolucao a request = .ok r)
    (hauthorized : r.executionAuthorized = true)
    (hcontrato : Contrato (a.escopo request.context) a.hits)
    (hvoltas : a.hits.length / searchBatchSize < voltas) :
    ∃ results : Nat → MemoryRetrievalResult,
      (∀ k, (retrieve voltas (pedidoDaPagina request k)).eval a.responde = .ok (results k)) ∧
      (∀ count, ((List.range count).flatMap fun k => (results k).items.map
          RetrievedMemoryItem.toRetrievedMemoryItemFields) =
        (vista a (a.escopo request.context) request.gated).take (count * request.limit.toNat)) ∧
      ∀ k, (results k).hasMore = some false → ((List.range (k + 1)).flatMap fun k =>
          (results k).items.map RetrievedMemoryItem.toRetrievedMemoryItemFields) =
        vista a (a.escopo request.context) request.gated := by
  have hpositive := h.limit_inRange.1
  have hserved (k : Nat) : Servido a (pedidoDaPagina request k) :=
    ⟨h.limit_inRange, Int.mul_nonneg (by omega) (by omega), h.reads, h.domains_exist⟩
  have hoffset (k : Nat) : (pedidoDaPagina request k).offset.toNat = k * request.limit.toNat := by
    change ((k : Int) * request.limit).toNat = k * request.limit.toNat
    rw [Int.toNat_mul (by omega) (by omega), Int.toNat_natCast]
  choose results heval _ hitems hmore using fun k =>
    retrieve_page (hserved k) hr hauthorized hcontrato hvoltas
  have hconcat (count : Nat) : ((List.range count).flatMap fun k => (results k).items.map
      RetrievedMemoryItem.toRetrievedMemoryItemFields) =
      (vista a (a.escopo request.context) request.gated).take (count * request.limit.toNat) := by
    rw [← windows_concat]
    congr 1
    funext k
    rw [hitems k, hoffset k]
    rfl
  refine ⟨results, heval, hconcat, fun k hlast => ?_⟩
  rw [hconcat, List.take_of_length_le]
  have hend := hmore k
  rw [hlast, hoffset k] at hend
  have hreached := of_decide_eq_false (Option.some.inj hend).symm
  rw [Nat.succ_mul]
  exact not_lt.mp hreached

/-- The laws hold of every request, over every stable search. -/
theorem retrieval_laws (a : Acervo) (request : RetrievalRequest) : RetrievalLaws a request where
  oversized hlimit voltas := by
    have hnone : exigir (validarPaginacao request.limit request.offset) =
        .error (.value ("limit não pode exceder MAX_LIMIT (100): " ++ toString request.limit)) := by
      have hlow : ¬request.limit < 1 := by
        unfold maxLimit at hlimit
        omega
      simp [validarPaginacao, firstOf, refuse, hlow, hlimit, exigir]
    rw [retrieve, Proc.eval_attempt, Proc.eval_done, hnone]
    rfl
  governed voltas log q hpath front e post hlog htouch :=
    (retrieve_obeys voltas request).calls hpath hlog htouch
  denied h _ hr hdenied _ := retrieve_denied h hr hdenied
  page h _ hr hauthorized hcontrato _ hvoltas :=
    retrieve_page h hr hauthorized hcontrato hvoltas
  pages h _ hr hauthorized hcontrato _ hvoltas :=
    ⟨vista_nodup hcontrato, pages_whole h hr hauthorized hcontrato hvoltas⟩

/-- A policy that admits every reading. -/
def leituraLivre : PolicyTable where
  rows := [{ id := ⟨1⟩, policyKey := "leitura", version := 1,
             rules := [{ ruleId := "r", effect := .admits }] }]
  rows_valid := by
    intro row hrow
    obtain rfl := List.mem_singleton.mp hrow
    exact ⟨by decide, Nat.le_refl 1, List.nodup_singleton _⟩

/-- Stores with a given list of results and no domain. -/
def acervoCom (hits : List CognitiveObjectView) : Acervo where
  now := .epoch
  policies := leituraLivre
  domains := []
  memberships := fun _ => []
  hits := hits
  gate := fun _ => true

theorem nenhum_stated : ∀ text ∈ (none : Option String), blank text = false := by decide

theorem nenhum_canonical : ([] : List Uuid).Pairwise fun d e => d.int < e.int := .nil

def pedidoDeLeitura : RetrievalRequest where
  context := ⟨[], none, none, none, nenhum_canonical, nenhum_stated, nenhum_stated, nenhum_stated⟩
  descriptor := { operation := .read, statedIntent_stated := nenhum_stated }
  policyKey := some "leitura"

/-- How a call fails, if it does. -/
def falha {α : Type} : Except ManagerError α → Option ManagerError
  | .ok _ => none
  | .error e => some e

/-- A page of 101, a result listed twice and a result with an unknown token are refused. -/
theorem retrieval_refuses :
    let objeto : CognitiveObjectView :=
      { id := ⟨7⟩, accessibility := "active", createdAt := { wall := 0 } }
    let estranho : CognitiveObjectView := { objeto with accessibility := "ACTIVE" }
    (falha ((retrieve 1 { pedidoDeLeitura with limit := 101 }).eval
        (acervoCom [objeto]).responde)).isSome = true ∧
      falha ((retrieve 1 pedidoDeLeitura).eval (acervoCom [objeto]).responde) = none ∧
      falha ((retrieve 1 pedidoDeLeitura).eval (acervoCom [objeto, objeto]).responde) =
        some (.retrievalDuplicateCoid ⟨7⟩) ∧
      (falha ((retrieve 1 pedidoDeLeitura).eval (acervoCom [estranho]).responde)).isSome = true := by
  decide +kernel

end MemoryRetrievalManager

end PiaOs.Memory
