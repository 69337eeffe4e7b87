import Mathlib.Data.List.Dedup
import PiaOs.Cognitive.DerivationLaws

/-!
# A derivation is one change

A derivation that its checks refuse has written nothing, a flush that the database refuses takes
everything back, and a success has added exactly the rows of one derivation.
-/

namespace PiaOs.Cognitive

open Support Piap Transactions

/-! ## Before the first write -/

section Reading

variable {s : Session Biblioteca} {fontes predecessores : List Referencia}

theorem filterMap_achados {achados : List (Referencia × Option CognitiveObject)}
    (h : ∀ par ∈ achados, par.2 ≠ none) :
    achados.map Prod.snd = (achados.filterMap Prod.snd).map some := by
  induction achados with
  | nil => rfl
  | cons par achados ih =>
    obtain ⟨row, hrow⟩ := Option.ne_none_iff_exists'.mp (h par List.mem_cons_self)
    have hrest := ih fun other hother => h other (List.mem_cons_of_mem _ hother)
    rw [List.map_cons, List.filterMap_cons_some hrow, List.map_cons, hrow, hrest]

/-- The sources are read as they are. -/
theorem ends_carregarFontes :
    Op.Ends (fun objetos s' => s' = s ∧
        fontes.map s.current.objects.lookup = objetos.map some)
      (fun _ s' => s' = s ∧ ∃ coid ∈ fontes, s.current.objects.lookup coid = none)
      (carregarFontes fontes) s := by
  unfold carregarFontes
  refine Op.Ends.bind (Op.Ends.read (Q := fun achados s' =>
    achados = fontes.map (fun coid => (coid, s.current.objects.lookup coid)) ∧ s' = s)
    ⟨rfl, rfl⟩) ?_
  rintro achados s' ⟨hachados, rfl⟩
  have hsnd : achados.map Prod.snd = fontes.map s'.current.objects.lookup := by
    rw [hachados, List.map_map]
    rfl
  dsimp only
  split
  case isTrue hausentes =>
    obtain ⟨coid, hcoid⟩ := List.exists_mem_of_ne_nil _ hausentes
    obtain ⟨par, hpar, -⟩ := List.mem_map.mp hcoid
    obtain ⟨hpar, hnone⟩ := List.mem_filter.mp hpar
    rw [hachados] at hpar
    obtain ⟨coid, hcoid, rfl⟩ := List.mem_map.mp hpar
    exact Op.Ends.raise ⟨rfl, coid, hcoid, of_decide_eq_true hnone⟩
  case isFalse hausentes =>
    refine Op.Ends.ret ⟨rfl, ?_⟩
    rw [← hsnd, filterMap_achados]
    intro par hpar hnone
    refine hausentes (List.ne_nil_of_mem (List.mem_map_of_mem (f := Prod.fst) (a := par) ?_))
    exact List.mem_filter.mpr ⟨hpar, decide_eq_true hnone⟩

theorem forall₂_exists_left {α β : Type} {R : α → β → Prop} {xs : List α} {ys : List β}
    (h : List.Forall₂ R xs ys) {y : β} (hy : y ∈ ys) : ∃ x ∈ xs, R x y := by
  induction h with
  | nil => cases hy
  | cons hhead _ ih =>
    rcases List.mem_cons.mp hy with rfl | hrest
    · exact ⟨_, List.mem_cons_self, hhead⟩
    · obtain ⟨x, hx, hR⟩ := ih hrest
      exact ⟨x, List.mem_cons_of_mem _ hx, hR⟩

theorem verificarPredecessor_ok {db : Biblioteca} {eventId : Referencia}
    (h : verificarPredecessor db fontes eventId = .ok true) : db.events.lookup eventId ≠ none := by
  intro hnone
  unfold verificarPredecessor at h
  rw [hnone] at h
  cases Except.ok.inj h

/-- The predecessors are checked one by one, and read as they are. -/
theorem ends_carregarPredecessores :
    Op.Ends (fun eventos s' => s' = s ∧ eventos = predecessores ∧ ∀ eventId ∈ predecessores,
        verificarPredecessor s.current fontes eventId = .ok true)
      (fun _ s' => s' = s ∧ ∃ eventId ∈ predecessores,
        verificarPredecessor s.current fontes eventId ≠ .ok true)
      (carregarPredecessores predecessores fontes) s := by
  unfold carregarPredecessores
  refine Op.Ends.bind (Op.Ends.read (Q := fun verificados s' =>
    verificados = predecessores.mapM (fun eventId =>
      (verificarPredecessor s.current fontes eventId).map (eventId, ·)) ∧ s' = s) ⟨rfl, rfl⟩) ?_
  rintro verificados s' ⟨hverificados, rfl⟩
  refine Op.Ends.bind (Op.Ends.lift (Q := fun achados s'' =>
    verificados = .ok achados ∧ s'' = s') (fun _ h => ⟨h, rfl⟩) fun e he => ?_) ?_
  · refine ⟨rfl, ?_⟩
    by_contra! hall
    have hok : predecessores.mapM (fun eventId =>
        (verificarPredecessor s'.current fontes eventId).map (eventId, ·)) =
        .ok (predecessores.map (·, true)) := by
      rw [mapM_eq_ok, List.forall₂_map_right_iff, List.forall₂_same]
      intro eventId heventId
      rw [hall eventId heventId]
      rfl
    rw [hok, he] at hverificados
    cases hverificados
  · rintro achados s'' ⟨hachados, rfl⟩
    rw [hachados] at hverificados
    have hpairs := mapM_eq_ok.mp hverificados.symm
    dsimp only
    split
    case isTrue hausentes =>
      obtain ⟨eventId, hmem⟩ := List.exists_mem_of_ne_nil _ hausentes
      obtain ⟨par, hpar, -⟩ := List.mem_map.mp hmem
      obtain ⟨hpar, hfalse⟩ := List.mem_filter.mp hpar
      obtain ⟨eventId, heventId, hchecked⟩ := forall₂_exists_left hpairs hpar
      refine Op.Ends.raise ⟨rfl, eventId, heventId, fun htrue => ?_⟩
      rw [htrue] at hchecked
      obtain rfl := Except.ok.inj hchecked
      cases hfalse
    case isFalse hausentes =>
      refine Op.Ends.ret ⟨rfl, rfl, fun eventId heventId => ?_⟩
      obtain ⟨par, hpar, hchecked⟩ := forall₂_exists_left hpairs.flip heventId
      match hresult : verificarPredecessor s''.current fontes eventId with
      | .error e =>
        rw [hresult] at hchecked
        cases hchecked
      | .ok true => rfl
      | .ok false =>
        rw [hresult] at hchecked
        obtain rfl := Except.ok.inj hchecked
        have hmem : (eventId, false) ∈ achados.filter fun par => !par.2 :=
          List.mem_filter.mpr ⟨hpar, rfl⟩
        exact absurd (List.ne_nil_of_mem (List.mem_map_of_mem (f := Prod.fst) hmem)) hausentes

end Reading

/-! ## What the checks establish -/

/-- Identifiers in order, with none twice. -/
structure Canonica (ids : List Referencia) : Prop where
  distintas : ids.Nodup
  ordem : ids.Pairwise (· ≤ ·)

theorem canonica_ordenados {ids : List Referencia} (h : ids.Nodup) : Canonica (ordenados ids) :=
  ⟨(List.perm_insertionSort _ ids).nodup_iff.mpr h, List.pairwise_insertionSort _ ids⟩

theorem preflightFontes_ok {sourceCoids : Arg (List (Arg Referencia))} {fontes : List Referencia}
    (h : preflightFontes sourceCoids = .ok fontes) : 2 ≤ fontes.length ∧ Canonica fontes := by
  obtain ⟨coids, -, h⟩ := bind_eq_ok.mp h
  dsimp only at h
  split at h
  · cases (bind_eq_ok.mp h).choose_spec.1
  case isFalse hlength =>
    split at h
    · cases (bind_eq_ok.mp h).choose_spec.1
    case isFalse hnodup =>
      obtain rfl := Except.ok.inj h
      refine ⟨?_, canonica_ordenados (not_not.mp hnodup)⟩
      rw [ordenados, List.length_insertionSort]
      omega

theorem preflightPredecessores_ok {predecessorEventIds : Arg (List (Arg Referencia))}
    {eventIds : List Referencia} (h : preflightPredecessores predecessorEventIds = .ok eventIds) :
    Canonica eventIds := by
  obtain ⟨ids, -, h⟩ := bind_eq_ok.mp h
  dsimp only at h
  split at h
  · cases (bind_eq_ok.mp h).choose_spec.1
  case isFalse hnodup =>
    obtain rfl := Except.ok.inj h
    exact canonica_ordenados (not_not.mp hnodup)

/-- What the preflight says of a request that passes it. -/
structure PedidoValidado.Canonico (v : PedidoValidado) : Prop where
  duas : 2 ≤ v.fontes.length
  fontes : Canonica v.fontes
  predecessores : Canonica v.predecessores

theorem preflight_colecoes {pedido : Pedido} {v : PedidoValidado} (h : preflight pedido = .ok v) :
    preflightFontes pedido.sourceCoids = .ok v.fontes ∧
      preflightPredecessores pedido.predecessorEventIds = .ok v.predecessores := by
  obtain ⟨fontes, hfontes, h⟩ := bind_eq_ok.mp h
  obtain ⟨operacao, -, h⟩ := bind_eq_ok.mp h
  obtain ⟨perdas, -, h⟩ := bind_eq_ok.mp h
  obtain ⟨preservacoes, -, h⟩ := bind_eq_ok.mp h
  obtain ⟨predecessores, hpredecessores, h⟩ := bind_eq_ok.mp h
  obtain ⟨actorRef, -, h⟩ := bind_eq_ok.mp h
  obtain ⟨policyRef, -, h⟩ := bind_eq_ok.mp h
  obtain ⟨occurredAt, -, h⟩ := bind_eq_ok.mp h
  obtain rfl := Except.ok.inj h
  exact ⟨hfontes, hpredecessores⟩

theorem preflight_ok {pedido : Pedido} {v : PedidoValidado} (h : preflight pedido = .ok v) :
    v.Canonico := by
  obtain ⟨hfontes, hpredecessores⟩ := preflight_colecoes h
  obtain ⟨hduas, hcanonica⟩ := preflightFontes_ok hfontes
  exact ⟨hduas, hcanonica, preflightPredecessores_ok hpredecessores⟩

/-- The CLID of the new object is that of all the sources, or none. -/
theorem resolverClidDoAlvo_eq_some {objetos : List CognitiveObject} (hsome : objetos ≠ [])
    (clid : Referencia) :
    resolverClidDoAlvo objetos = some clid ↔ ∀ objeto ∈ objetos, objeto.clid = some clid := by
  obtain ⟨primeiro, hprimeiro⟩ := List.exists_mem_of_ne_nil _ hsome
  have hmem : ∀ c, c ∈ (objetos.map (·.clid)).dedup ↔ ∃ objeto ∈ objetos, objeto.clid = c := by
    intro c
    rw [List.mem_dedup, List.mem_map]
  have hnodup := List.nodup_dedup (objetos.map (·.clid))
  unfold resolverClidDoAlvo
  constructor
  · intro h objeto hobjeto
    split at h
    case h_1 unico hunico =>
      have hclid := (hmem objeto.clid).mpr ⟨objeto, hobjeto, rfl⟩
      rw [hunico, List.mem_singleton] at hclid
      rw [hclid, h]
    case h_2 => cases h
  · intro h
    have hunico : (objetos.map (·.clid)).dedup = [some clid] := by
      rw [← List.perm_singleton, List.perm_ext_iff_of_nodup hnodup (List.nodup_singleton _)]
      intro c
      rw [hmem, List.mem_singleton]
      constructor
      · rintro ⟨objeto, hobjeto, rfl⟩
        exact h objeto hobjeto
      · rintro rfl
        exact ⟨primeiro, hprimeiro, h primeiro hprimeiro⟩
    rw [hunico]

/-! ## What the writes add -/

/-- Rows added to a table under new identifiers, and nothing else of it changed. -/
structure Acrescentadas {ρ : Type} (t t' : Table Referencia ρ) (ids : List Referencia)
    (rows : List ρ) : Prop where
  comprimento : ids.length = rows.length
  novas : Novas t (ids.zip rows)
  tabela : t' = Table.insertAll (ids.zip rows) t

theorem Acrescentadas.of_novas {ρ : Type} {t t' : Table Referencia ρ}
    {linhas : List (Referencia × ρ)} (hnovas : Novas t linhas)
    (ht : t' = Table.insertAll linhas t) :
    Acrescentadas t t' (linhas.map Prod.fst) (linhas.map Prod.snd) := by
  have hzip : (linhas.map Prod.fst).zip (linhas.map Prod.snd) = linhas :=
    (List.zip_of_prod rfl rfl).symm
  refine ⟨?_, ?_, ?_⟩
  · rw [List.length_map, List.length_map]
  · rwa [hzip]
  · rwa [hzip]

theorem Acrescentadas.distintos {ρ : Type} {t t' : Table Referencia ρ} {ids : List Referencia}
    {rows : List ρ} (h : Acrescentadas t t' ids rows) : ids.Nodup := by
  have hnodup := h.novas.distintas
  rwa [List.map_fst_zip h.comprimento.le] at hnodup

theorem Acrescentadas.novo_ou_antigo {ρ : Type} {t t' : Table Referencia ρ}
    {ids : List Referencia} {rows : List ρ} (h : Acrescentadas t t' ids rows) {k : Referencia}
    {r : ρ} (hr : t'.lookup k = some r) :
    (k, r) ∈ ids.zip rows ∨ k ∉ ids ∧ t.lookup k = some r := by
  rw [h.tabela] at hr
  rcases Table.insertAll_cases h.novas.distintas hr with hnew | ⟨hother, hold⟩
  · exact .inl hnew
  · rw [List.map_fst_zip h.comprimento.le] at hother
    exact .inr ⟨hother, hold⟩

theorem Acrescentadas.antigo {ρ : Type} {t t' : Table Referencia ρ} {ids : List Referencia}
    {rows : List ρ} (h : Acrescentadas t t' ids rows) {k : Referencia} (hk : t.lookup k ≠ none) :
    t'.lookup k = t.lookup k := by
  rw [h.tabela]
  exact Table.lookup_insertAll_of_notMem fun hmem => hk (h.novas.ineditas k hmem)

theorem Acrescentadas.novo {ρ : Type} {t t' : Table Referencia ρ} {ids : List Referencia}
    {rows : List ρ} (h : Acrescentadas t t' ids rows) {k : Referencia} {r : ρ}
    (hmem : (k, r) ∈ ids.zip rows) : t'.lookup k = some r := by
  rw [h.tabela]
  exact Table.lookup_insertAll_of_mem h.novas.distintas hmem

/-- What a success of `derive_many` has made of the tables. -/
structure Derivada (m : Motor) (ids : Ids) (v : PedidoValidado) (db : Biblioteca)
    (c : CamposDoRecibo) (db' : Biblioteca) : Prop where
  fontes : c.sourceCoids = v.fontes
  alvo : c.targetCoid = ids.alvo
  inedito : db.objects.lookup ids.alvo = none
  /-- The new object is the only one written. -/
  objetos : ∀ k, db'.objects.lookup k =
    if k = ids.alvo then some { clid := c.targetClid } else db.objects.lookup k
  clid : ∀ clid, c.targetClid = some clid ↔
    ∀ coid ∈ v.fontes, (db.objects.lookup coid).bind (·.clid) = some clid
  arestas : Acrescentadas db.edges db'.edges c.lineageEdgeIds
    (v.fontes.map (⟨·, ids.alvo, .merge⟩))
  transformacao : c.transformationId = ids.registro
  registro : Acrescentadas db.transformations db'.transformations [ids.registro]
    [registroDe ids v]
  predecessores : c.predecessorEventIds = v.predecessores
  historia : ∃ id, HistoriaPronta ids.historia ids.alvo db id db'.histories ∧
    Acrescentadas db.events db'.events c.causalEventIds
      ((predecessoresDosEventos v.predecessores).map (eventoDe m ids v.actorRef v.occurredAt id))
  proveniencia : db'.provenance = db.provenance

section Writing

variable {m : Motor} {ids : Ids} {v : PedidoValidado} {objetos : List CognitiveObject}
  {s : Session Biblioteca}

theorem fontes_encontradas {db : Biblioteca} {fontes : List Referencia}
    (hobjetos : fontes.map db.objects.lookup = objetos.map some) :
    ∀ coid ∈ fontes, db.objects.lookup coid ≠ none := by
  intro coid hcoid hnone
  have hmem : none ∈ fontes.map db.objects.lookup := hnone ▸ List.mem_map_of_mem hcoid
  rw [hobjetos] at hmem
  obtain ⟨_, -, hsome⟩ := List.mem_map.mp hmem
  cases hsome

/-- The CLID that the writes give is the one of all the sources. -/
theorem clid_das_fontes {db : Biblioteca} {fontes : List Referencia} (hfontes : 2 ≤ fontes.length)
    (hobjetos : fontes.map db.objects.lookup = objetos.map some) (clid : Referencia) :
    resolverClidDoAlvo objetos = some clid ↔
      ∀ coid ∈ fontes, (db.objects.lookup coid).bind (·.clid) = some clid := by
  have hlength : fontes.length = objetos.length := by
    simpa using congrArg List.length hobjetos
  have hsome : objetos ≠ [] := by
    rintro rfl
    rw [List.length_nil] at hlength
    omega
  have hclids : fontes.map (fun coid => (db.objects.lookup coid).bind (·.clid)) =
      objetos.map (·.clid) := by
    have h := congrArg (List.map fun found => Option.bind found (·.clid)) hobjetos
    rwa [List.map_map, List.map_map] at h
  rw [resolverClidDoAlvo_eq_some hsome]
  have hforall (cs : List (Option Referencia)) :
      (∀ c ∈ cs, c = some clid) ↔ cs.all (· = some clid) := by simp
  have h₁ := hforall (fontes.map fun coid => (db.objects.lookup coid).bind (·.clid))
  have h₂ := hforall (objetos.map (·.clid))
  rw [List.forall_mem_map] at h₁ h₂
  rw [h₁, h₂, hclids]

/-- The new object after it got its CLID, and nothing else. -/
structure AlvoPronto (ids : Ids) (clidAlvo : Option Referencia) (s s' : Session Biblioteca) :
    Prop where
  base : s'.base = s.base
  gravado : Gravado ids.alvo { clid := clidAlvo } s.current s'.current

theorem predecessoresDosEventos_length (predecessores : List Referencia) :
    (predecessoresDosEventos predecessores).length = max 1 predecessores.length := by
  cases predecessores with
  | nil => rfl
  | cons eventId predecessores =>
    rw [predecessoresDosEventos, List.length_map, List.length_cons]
    omega

/-- The receipt of the rows that were added is coherent. -/
theorem Derivada.coerente {db db' : Biblioteca} {c : CamposDoRecibo} (hv : v.Canonico)
    (h : Derivada m ids v db c db') (hfontes : ∀ coid ∈ v.fontes, db.objects.lookup coid ≠ none) :
    c.Coerente := by
  obtain ⟨id, -, heventos⟩ := h.historia
  have hedges := h.arestas.comprimento
  have hevents := heventos.comprimento
  rw [List.length_map] at hedges
  rw [List.length_map, predecessoresDosEventos_length, ← h.predecessores] at hevents
  have hlength : 2 ≤ v.fontes.length := hv.duas
  refine {
    duas := h.fontes ▸ hv.duas
    distintas := h.fontes ▸ hv.fontes.distintas
    ordem := h.fontes ▸ hv.fontes.ordem
    alvo := ?_
    umaPorFonte := h.fontes ▸ hedges
    arestas := h.arestas.distintos
    predecessores := h.predecessores ▸ hv.predecessores.distintas
    algum := ?_
    eventos := heventos.distintos
    raiz := ?_
    umPorPredecessor := ?_ }
  · rw [h.alvo, h.fontes]
    exact fun hmem => hfontes _ hmem h.inedito
  · rw [← List.length_pos_iff, hevents]
    omega
  · intro hnone
    rw [hevents, hnone, List.length_nil]
    rfl
  · intro hsome
    have hpos := List.length_pos_iff.mpr hsome
    omega

theorem HistoriaPronta.congr {historyId subjectCoid id : Referencia} {db db' : Biblioteca}
    {histories : Table Referencia CausalHistory} (hdb : db.histories = db'.histories)
    (h : HistoriaPronta historyId subjectCoid db id histories) :
    HistoriaPronta historyId subjectCoid db' id histories := by
  cases h with
  | existente hsome =>
    rw [hdb]
    exact .existente ((historyOf_congr hdb.symm subjectCoid).trans hsome)
  | nova hnone hid =>
    rw [hdb] at hid ⊢
    exact .nova ((historyOf_congr hdb.symm subjectCoid).trans hnone) hid

theorem ends_escrever (hv : v.Canonico)
    (hobjetos : v.fontes.map s.current.objects.lookup = objetos.map some)
    (hpredecessores : ∀ eventId ∈ v.predecessores, s.current.events.lookup eventId ≠ none) :
    Op.Ends (fun r s' => s'.base = s.base ∧ Derivada m ids v s.current r.val s'.current)
      (Desfeita s) (escrever m ids v objetos v.predecessores) s := by
  unfold escrever
  refine Op.Ends.bind ends_addObject ?_
  rintro - s₁ ⟨hbase, hinedito, hobject⟩
  have hresto : ∀ s₂, AlvoPronto ids (resolverClidDoAlvo objetos) s s₂ →
      Op.Ends (fun r s' => s'.base = s.base ∧ Derivada m ids v s.current r.val s'.current)
        (Desfeita s) (do
          let edges ← arestasDeMerge ids.arestas ids.alvo 0 v.fontes
          addTransformation m ids.registro (registroDe ids v)
          let eventos ← registrarCausalidade m ids v.predecessores v.actorRef v.occurredAt
          Op.lift (Recibo.de {
            sourceCoids := v.fontes
            targetCoid := ids.alvo
            targetClid := resolverClidDoAlvo objetos
            transformationId := ids.registro
            lineageEdgeIds := edges.map (·.1)
            causalEventIds := eventos.map (·.1)
            predecessorEventIds := v.predecessores })) s₂ := by
    intro s₂ hpronto
    have hrest₂ := hpronto.gravado.resto
    have hedges₂ : s₂.current.edges = s.current.edges := by rw [hrest₂]
    have hfound := fontes_encontradas hobjetos
    have halvo : ids.alvo ∉ v.fontes := fun hmem => hfound _ hmem hinedito
    refine Op.Ends.bind ((ends_arestasDeMerge halvo).mono (fun _ _ h => h)
      fun _ _ h => h.of_base hpronto.base) ?_
    rintro edges s₃ ⟨hbase₃, hnovas, hrows, hdb₃⟩
    have hbase₃ := hbase₃.trans hpronto.base
    refine Op.Ends.bind (ends_addTransformation.mono (fun _ _ h => h)
      fun _ _ h => h.of_base hbase₃) ?_
    rintro - s₄ ⟨hbase₄, hregistro, hdb₄⟩
    have hbase₄ := hbase₄.trans hbase₃
    have hevents₄ : s₄.current.events = s.current.events := by rw [hdb₄, hdb₃, hrest₂]
    have hhistories₄ : s₄.current.histories = s.current.histories := by rw [hdb₄, hdb₃, hrest₂]
    have htransformations₃ : s₃.current.transformations = s.current.transformations := by
      rw [hdb₃, hrest₂]
    refine Op.Ends.bind ((ends_registrarCausalidade (hevents₄ ▸ hpredecessores)).mono
      (fun _ _ h => h) fun _ _ h => h.of_base hbase₄) ?_
    rintro eventos s₅ ⟨hbase₅, -, hnovos, id, hhistoria, hlinhas, hdb₅⟩
    have hderivada : Derivada m ids v s.current {
        sourceCoids := v.fontes
        targetCoid := ids.alvo
        targetClid := resolverClidDoAlvo objetos
        transformationId := ids.registro
        lineageEdgeIds := edges.map (·.1)
        causalEventIds := eventos.map (·.1)
        predecessorEventIds := v.predecessores } s₅.current := by
      refine {
        fontes := rfl
        alvo := rfl
        inedito := hinedito
        objetos := fun k => ?_
        clid := clid_das_fontes hv.duas hobjetos
        arestas := ?_
        transformacao := rfl
        registro := ?_
        predecessores := rfl
        historia := ⟨id, hhistoria.congr hhistories₄, ?_⟩
        proveniencia := ?_ }
      · rw [← hpronto.gravado.objects k, hdb₅, hdb₄, hdb₃]
      · have hnew : s₅.current.edges = Table.insertAll edges s.current.edges := by
          rw [hdb₅, hdb₄, hdb₃, ← hedges₂]
        rw [← hrows]
        exact .of_novas (hedges₂ ▸ hnovas) hnew
      · have hnova : Novas s.current.transformations [(ids.registro, registroDe ids v)] :=
          Novas.nil.cons (htransformations₃ ▸ hregistro)
        have hnew : s₅.current.transformations =
            Table.insertAll [(ids.registro, registroDe ids v)] s.current.transformations := by
          rw [hdb₅, hdb₄, htransformations₃]
          rfl
        exact .of_novas hnova hnew
      · have hnew : s₅.current.events = Table.insertAll eventos s.current.events := by
          rw [hdb₅, hevents₄]
        rw [← hlinhas]
        exact .of_novas (hevents₄ ▸ hnovos) hnew
      · rw [hdb₅, hdb₄, hdb₃, hrest₂]
    have hrecibo := hderivada.coerente hv hfound
    unfold Recibo.de
    rw [dif_pos hrecibo]
    exact Op.Ends.ret ⟨hbase₅.trans hbase₄, hderivada⟩
  have hpronto : AlvoPronto ids none s s₁ := by
    refine ⟨hbase, fun k => ?_, ?_⟩
    · rw [hobject]
      exact Table.lookup_insert_ite _ _ _ _
    · rw [hobject]
  dsimp only
  split
  case h_1 clid hclid =>
    have hrow : s₁.current.objects.lookup ids.alvo = some {} := by
      rw [hpronto.gravado.objects, if_pos rfl]
    refine Op.Ends.bind ((ends_assign hrow rfl).mono (fun _ _ h => h)
      fun _ _ h => h.of_base hbase) fun _ s₂ h => hresto s₂ ?_
    obtain ⟨hbase₂, hgravado⟩ := h
    rw [hclid]
    refine ⟨hbase₂.trans hbase, fun k => ?_, ?_⟩
    · rw [hgravado.objects, hpronto.gravado.objects]
      split <;> rfl
    · rw [hgravado.resto, hpronto.gravado.resto]
  case h_2 hclid =>
    refine hresto s₁ ?_
    rwa [hclid]

end Writing

/-! ## The whole operation -/

/-- The checks that `derive_many` makes before its first write. -/
structure Aceita (db : Biblioteca) (pedido : Pedido) (v : PedidoValidado) : Prop where
  valido : preflight pedido = .ok v
  fontes : ∀ coid ∈ v.fontes, db.objects.lookup coid ≠ none
  predecessores : ∀ eventId ∈ v.predecessores,
    verificarPredecessor db v.fontes eventId = .ok true

section Whole

variable {m : Motor} {ids : Ids} {pedido : Pedido} {s : Session Biblioteca}

/-- Without a check that fails, all that can fail is a flush. -/
theorem ends_deriveMany :
    Op.Ends (fun r s' => s'.base = s.base ∧
        ∃ v, Aceita s.current pedido v ∧ Derivada m ids v s.current r.val s'.current)
      (fun _ s' => (∀ v, ¬Aceita s.current pedido v) ∧ s' = s ∨
        (∃ v, Aceita s.current pedido v) ∧ s' = s.rollback)
      (deriveMany m ids pedido) s := by
  unfold deriveMany
  refine Op.Ends.bind (Q := fun v s' => preflight pedido = .ok v ∧ s' = s)
    (Op.Ends.lift (fun v hv => ⟨hv, rfl⟩) fun e he => .inl ⟨fun v hv => ?_, rfl⟩) ?_
  · rw [hv.valido] at he
    cases he
  rintro v s₁ ⟨hvalido, rfl⟩
  have hv : ∀ v', Aceita s₁.current pedido v' → v' = v := fun v' h =>
    Except.ok.inj (h.valido.symm.trans hvalido)
  refine Op.Ends.bind (ends_carregarFontes.mono (fun _ _ h => h) fun e s' h => ?_) ?_
  · obtain ⟨rfl, coid, hcoid, hnone⟩ := h
    refine .inl ⟨fun v' h => ?_, rfl⟩
    obtain rfl := hv v' h
    exact h.fontes coid hcoid hnone
  rintro objetos s₂ ⟨rfl, hobjetos⟩
  refine Op.Ends.bind (ends_carregarPredecessores.mono (fun _ _ h => h) fun e s' h => ?_) ?_
  · obtain ⟨rfl, eventId, heventId, hrefused⟩ := h
    refine .inl ⟨fun v' h => ?_, rfl⟩
    obtain rfl := hv v' h
    exact hrefused (h.predecessores eventId heventId)
  rintro eventos s₃ ⟨rfl, rfl, hpredecessores⟩
  have haceita : Aceita s₃.current pedido v :=
    ⟨hvalido, fontes_encontradas hobjetos, hpredecessores⟩
  refine (ends_escrever (preflight_ok hvalido) hobjetos fun eventId heventId =>
    verificarPredecessor_ok (hpredecessores eventId heventId)).mono ?_ ?_
  · rintro r s₄ ⟨hbase, hderivada⟩
    exact ⟨hbase, v, haceita, hderivada⟩
  · rintro e s₄ hundone
    exact .inr ⟨⟨v, haceita⟩, hundone⟩

end Whole

/-! ## The history of the new object -/

/-- What the foreign keys keep: a row that names another names one that is there. -/
structure Biblioteca.Integra (db : Biblioteca) : Prop where
  arestas : ∀ id edge, db.edges.lookup id = some edge →
    db.objects.lookup edge.parentCoid ≠ none ∧ db.objects.lookup edge.childCoid ≠ none
  historias : ∀ id historia, db.histories.lookup id = some historia →
    db.objects.lookup historia.subjectCoid ≠ none
  eventos : ∀ id evento, db.events.lookup id = some evento →
    db.histories.lookup evento.historyId ≠ none

theorem historyOf_eq_some {db : Biblioteca} {subjectCoid id : Referencia}
    (h : db.historyOf subjectCoid = some id) :
    ∃ historia, db.histories.lookup id = some historia ∧ historia.subjectCoid = subjectCoid := by
  obtain ⟨entry, hfind, rfl⟩ := Option.map_eq_some_iff.mp h
  have hsubject := List.find?_some hfind
  exact ⟨entry.2, AList.mem_lookup_iff.mpr (List.mem_of_find?_eq_some hfind),
    of_decide_eq_true hsubject⟩

section History

variable {m : Motor} {ids : Ids} {v : PedidoValidado} {db db' : Biblioteca} {c : CamposDoRecibo}

/-- The new object has a history of its own, with one event for each predecessor, or the root. -/
structure HistoriaDoAlvo (m : Motor) (ids : Ids) (v : PedidoValidado) (db : Biblioteca)
    (c : CamposDoRecibo) (db' : Biblioteca) : Prop where
  historia : Acrescentadas db.histories db'.histories [ids.historia] [⟨ids.alvo⟩]
  eventos : Acrescentadas db.events db'.events c.causalEventIds
    ((predecessoresDosEventos v.predecessores).map
      (eventoDe m ids v.actorRef v.occurredAt ids.historia))

theorem Derivada.historiaDoAlvo (hdb : db.Integra) (h : Derivada m ids v db c db') :
    HistoriaDoAlvo m ids v db c db' := by
  obtain ⟨id, hhistoria, heventos⟩ := h.historia
  generalize hnovas : db'.histories = histories at hhistoria
  cases hhistoria with
  | existente hsome =>
    obtain ⟨historia, hlookup, hsubject⟩ := historyOf_eq_some hsome
    exact absurd (hsubject ▸ h.inedito) (hdb.historias _ _ hlookup)
  | nova hnone hid =>
    refine ⟨?_, heventos⟩
    rw [hnovas]
    have hnova : Novas db.histories [(ids.historia, CausalHistory.mk ids.alvo)] :=
      Novas.nil.cons hid
    exact .of_novas hnova rfl

/-- The foreign keys still hold after it. -/
theorem Derivada.integra (hfontes : ∀ coid ∈ v.fontes, db.objects.lookup coid ≠ none)
    (hdb : db.Integra) (h : Derivada m ids v db c db') : db'.Integra := by
  have halvo := h.historiaDoAlvo hdb
  have hobjetos (k : Referencia) (hk : db.objects.lookup k ≠ none) :
      db'.objects.lookup k ≠ none := by
    rw [h.objetos]
    split
    · exact Option.some_ne_none _
    · exact hk
  have hnovo : db'.objects.lookup ids.alvo ≠ none := by
    rw [h.objetos, if_pos rfl]
    exact Option.some_ne_none _
  have hhistoria : db'.histories.lookup ids.historia = some ⟨ids.alvo⟩ :=
    halvo.historia.novo List.mem_cons_self
  refine ⟨?_, ?_, ?_⟩
  · intro id edge hedge
    rcases h.arestas.novo_ou_antigo hedge with hnew | ⟨-, hold⟩
    · obtain ⟨coid, hcoid, rfl⟩ := List.mem_map.mp (List.of_mem_zip hnew).2
      exact ⟨hobjetos coid (hfontes coid hcoid), hnovo⟩
    · obtain ⟨hparent, hchild⟩ := hdb.arestas id edge hold
      exact ⟨hobjetos _ hparent, hobjetos _ hchild⟩
  · intro id historia hlookup
    rcases halvo.historia.novo_ou_antigo hlookup with hnew | ⟨-, hold⟩
    · obtain rfl := List.mem_singleton.mp (List.of_mem_zip hnew).2
      exact hnovo
    · exact hobjetos _ (hdb.historias id historia hold)
  · intro id evento hlookup
    rcases halvo.eventos.novo_ou_antigo hlookup with hnew | ⟨-, hold⟩
    · obtain ⟨predecessor, -, rfl⟩ := List.mem_map.mp (List.of_mem_zip hnew).2
      rw [eventoDe, hhistoria]
      exact Option.some_ne_none _
    · have hkept := hdb.eventos id evento hold
      rw [halvo.historia.antigo hkept]
      exact hkept

end History

/-! ## The order of the arguments -/

/-- The same items, in another order. -/
inductive Reordenada {α : Type} : Arg (List α) → Arg (List α) → Prop
  | de {xs ys : List α} (h : xs.Perm ys) : Reordenada (.de xs) (.de ys)
  | outro : Reordenada .outro .outro

/-- The same request, with sources and predecessors in another order. -/
structure Pedido.Reordenado (pedido pedido' : Pedido) : Prop where
  fontes : Reordenada pedido.sourceCoids pedido'.sourceCoids
  predecessores : Reordenada pedido.predecessorEventIds pedido'.predecessorEventIds
  resto : pedido' = { pedido with
    sourceCoids := pedido'.sourceCoids, predecessorEventIds := pedido'.predecessorEventIds }

/-- A collection is refused for any item of another type, with the same error. -/
theorem identificadores_cases (campo : String) (itens : List (Arg Referencia)) :
    (∃ ids, itens = ids.map .de ∧ identificadores campo (.de itens) = .ok ids) ∨
      .outro ∈ itens ∧ identificadores campo (.de itens) = .error (.typeError campo) := by
  induction itens with
  | nil => exact .inl ⟨[], rfl, rfl⟩
  | cons item itens ih =>
    unfold identificadores at ih ⊢
    dsimp only at ih ⊢
    rw [List.mapM_cons]
    cases item with
    | outro => exact .inr ⟨List.mem_cons_self, rfl⟩
    | de id =>
      rcases ih with ⟨ids, hids, hok⟩ | ⟨houtro, herror⟩
      · refine .inl ⟨id :: ids, by rw [hids, List.map_cons], ?_⟩
        rw [hok]
        rfl
      · refine .inr ⟨List.mem_cons_of_mem _ houtro, ?_⟩
        rw [herror]
        rfl

theorem notMem_map_de {α : Type} (as : List α) : Arg.outro ∉ as.map Arg.de := by
  intro h
  obtain ⟨_, -, hne⟩ := List.mem_map.mp h
  cases hne

/-- Identifiers in their canonical order pass the checks as they are. -/
theorem preflightFontes_canonica {fontes : List Referencia} (hlength : 2 ≤ fontes.length)
    (h : Canonica fontes) : preflightFontes (.de (fontes.map .de)) = .ok fontes := by
  rcases identificadores_cases "source_coids" (fontes.map .de) with ⟨ids, hids, hok⟩ | ⟨houtro, -⟩
  · obtain rfl := List.map_injective_iff.mpr (fun _ _ heq => Arg.de.inj heq) hids
    unfold preflightFontes
    rw [hok, ok_bind, if_neg (by omega), if_neg (not_not.mpr h.distintas), ordenados,
      h.ordem.insertionSort_eq]
    rfl
  · exact absurd houtro (notMem_map_de fontes)

theorem preflightPredecessores_canonica {eventIds : List Referencia} (h : Canonica eventIds) :
    preflightPredecessores (.de (eventIds.map .de)) = .ok eventIds := by
  rcases identificadores_cases "predecessor_event_ids" (eventIds.map .de) with
    ⟨ids, hids, hok⟩ | ⟨houtro, -⟩
  · obtain rfl := List.map_injective_iff.mpr (fun _ _ heq => Arg.de.inj heq) hids
    unfold preflightPredecessores
    rw [hok, ok_bind, if_neg (not_not.mpr h.distintas), ordenados, h.ordem.insertionSort_eq]
    rfl
  · exact absurd houtro (notMem_map_de eventIds)

def Arg.valor {α : Type} : Arg α → Option α
  | .de a => some a
  | .outro => none

theorem filterMap_valor {α : Type} (as : List α) : (as.map Arg.de).filterMap Arg.valor = as := by
  rw [List.filterMap_map]
  exact List.filterMap_some

/-- What two orders of one collection give: the same items in two orders, or the same error. -/
theorem identificadores_reordenada (campo : String) {a b : Arg (List (Arg Referencia))}
    (h : Reordenada a b) :
    (∃ ids ids', ids.Perm ids' ∧ identificadores campo a = .ok ids ∧
        identificadores campo b = .ok ids') ∨
      identificadores campo a = .error (.typeError campo) ∧
        identificadores campo b = .error (.typeError campo) := by
  cases h with
  | outro => exact .inr ⟨rfl, rfl⟩
  | de hperm =>
    rename_i xs ys
    rcases identificadores_cases campo xs with ⟨ids, rfl, hids⟩ | ⟨houtro, herror⟩
    · rcases identificadores_cases campo ys with ⟨ids', rfl, hids'⟩ | ⟨houtro', -⟩
      · have hvalores := hperm.filterMap Arg.valor
        rw [filterMap_valor, filterMap_valor] at hvalores
        exact .inl ⟨ids, ids', hvalores, hids, hids'⟩
      · exact absurd (hperm.mem_iff.mpr houtro') (notMem_map_de ids)
    · rcases identificadores_cases campo ys with ⟨ids', rfl, -⟩ | ⟨-, herror'⟩
      · exact absurd (hperm.mem_iff.mp houtro) (notMem_map_de ids')
      · exact .inr ⟨herror, herror'⟩

theorem ordenados_perm {ids ids' : List Referencia} (h : ids.Perm ids') :
    ordenados ids = ordenados ids' := by
  have hboth : (ordenados ids).Perm (ordenados ids') :=
    (List.perm_insertionSort _ ids).trans (h.trans (List.perm_insertionSort _ ids').symm)
  exact hboth.eq_of_pairwise (fun a b _ _ hab hba => le_antisymm hab hba)
    (List.pairwise_insertionSort _ ids) (List.pairwise_insertionSort _ ids')

theorem preflightFontes_reordenada {a b : Arg (List (Arg Referencia))} (h : Reordenada a b) :
    preflightFontes a = preflightFontes b := by
  unfold preflightFontes
  rcases identificadores_reordenada "source_coids" h with
    ⟨ids, ids', hperm, hids, hids'⟩ | ⟨herror, herror'⟩
  · rw [hids, hids', ok_bind, ok_bind, hperm.length_eq, ordenados_perm hperm]
    simp only [hperm.nodup_iff]
  · rw [herror, herror']

theorem preflightPredecessores_reordenada {a b : Arg (List (Arg Referencia))}
    (h : Reordenada a b) : preflightPredecessores a = preflightPredecessores b := by
  unfold preflightPredecessores
  rcases identificadores_reordenada "predecessor_event_ids" h with
    ⟨ids, ids', hperm, hids, hids'⟩ | ⟨herror, herror'⟩
  · rw [hids, hids', ok_bind, ok_bind, ordenados_perm hperm]
    simp only [hperm.nodup_iff]
  · rw [herror, herror']

/-- The order in which sources and predecessors are given leaves no trace. -/
theorem deriveMany_reordenado {m : Motor} {ids : Ids} {pedido pedido' : Pedido}
    (h : pedido.Reordenado pedido') : deriveMany m ids pedido' = deriveMany m ids pedido := by
  have hpreflight : preflight pedido' = preflight pedido := by
    unfold preflight
    rw [← preflightFontes_reordenada h.fontes, ← preflightPredecessores_reordenada h.predecessores,
      h.resto]
  unfold deriveMany
  rw [hpreflight]

end PiaOs.Cognitive
