import PiaOs.Predictive.Gates
import PiaOs.Predictive.Routing

/-!
# What a route means

Each item of a batch keeps its position from its evaluation to its route. A route that acts
rests on a valid approval and a complete protection set, one that reconfigures on an event that
the gate of that item inserted, and claims in conflict get no route.
-/

namespace PiaOs.Predictive

open Support Memory Piap Proc

variable {Amostra : Type}

/-! ## Promotions -/

/-- A gate that ends in a promotion has inserted the event of its call. -/
theorem promovida_of_path {p : Promocao} {feito : Respostas} {o : Desfecho}
    (hpath : Path (predictiveReconfigurationGate p) feito (.done (.ok o)))
    (hpromoted : o.decision = .promoted) :
    ∃ approval, p.Aprova approval ∧ ⟨.insert (p.evento approval), Insercao.feita⟩ ∈ feito := by
  have hobeys := (@portao_obeys (.promocao p) []).path hpath
  rw [List.nil_append] at hobeys
  cases hobeys.result o rfl with
  | recusado decision => exact absurd hpromoted decision.1
  | @anexado event persisted autoriza anexo identificador =>
    rw [hpromoted] at anexo
    cases anexo with
    | inserido feita =>
      cases autoriza with
      | promocao aprova leu => exact ⟨_, aprova, feita⟩

/-- The promotion that an item stands for. -/
structure Promoveu (item : PredictiveItem Amostra) (outcome : PredictiveRequestItemOutcome)
    (instruction : Option PredictiveReconfigurationInstruction) (trecho : Respostas) : Prop where
  existe : ∃ envelope context evaluation ins approval,
    item = .ready envelope context ∧ outcome = .evaluated evaluation ∧ instruction = some ins ∧
      (promocaoDe evaluation envelope ins).Aprova approval ∧
      ⟨.insert ((promocaoDe evaluation envelope ins).evento approval), Insercao.feita⟩ ∈ trecho

/-- An item whose sidecar tells of a promotion had its event inserted while its own gate ran. -/
theorem promoveu_of_path {item : PredictiveItem Amostra} {outcome : PredictiveRequestItemOutcome}
    {instruction : Option PredictiveReconfigurationInstruction} {trecho : Respostas}
    {sidecar : PredictiveReconfigurationOutcome} {o : Desfecho}
    (hpath : Path (reconfigurarItem item outcome instruction) trecho (.done (.ok sidecar)))
    (hsidecar : sidecar.desfecho? = some o) (hpromoted : o.decision = .promoted) :
    Promoveu item outcome instruction trecho := by
  cases outcome with
  | upstreamUnavailable reference reason =>
    rw [← Except.ok.inj hpath.of_done.2] at hsidecar
    cases hsidecar
  | causalRejected claim channels =>
    rw [← Except.ok.inj hpath.of_done.2] at hsidecar
    cases hsidecar
  | evaluated evaluation =>
    cases instruction with
    | none =>
      rw [← Except.ok.inj hpath.of_done.2] at hsidecar
      rw [← Option.some.inj hsidecar] at hpromoted
      cases hpromoted
    | some ins =>
      cases item with
      | upstreamUnavailable reference reason => cases hpath.of_done.2
      | ready envelope context =>
        obtain ⟨front, post, desfecho, hlog, hgate, hrest⟩ := Path.of_attempt hpath
        obtain ⟨hpost, hend⟩ := hrest.of_done
        rw [← Except.ok.inj hend] at hsidecar
        rw [← Option.some.inj hsidecar] at hpromoted
        obtain ⟨approval, haprova, hinsert⟩ := promovida_of_path hgate hpromoted
        have hmem : ⟨.insert ((promocaoDe evaluation envelope ins).evento approval),
            Insercao.feita⟩ ∈ trecho := by
          rw [hlog]
          exact List.mem_append_left _ hinsert
        exact ⟨envelope, context, evaluation, ins, approval, rfl, rfl, rfl, haprova, hmem⟩

/-! ## The final route -/

/-- The ways in which an item gets a route. -/
inductive Decidida (evaluation : PredictiveClaimEvaluationResult)
    (reconfiguration : Option Desfecho) (completa : Bool) : PredictiveRoute → Prop
  | reconfigure {o : Desfecho} (promovida : reconfiguration = some o)
      (decisao : o.decision = .promoted) (aprovada : evaluation.approvalValidationOutcome = .valid)
      (inteira : completa = true) : Decidida evaluation reconfiguration completa .reconfigure
  | predict (estado : evaluation.state = .predictable) :
    Decidida evaluation reconfiguration completa .predict
  | investigate (estado : evaluation.state = .unresolved) :
    Decidida evaluation reconfiguration completa .investigate
  | robust (estado : evaluation.state = .predictivelyInaccessible)
      (aprovada : evaluation.approvalValidationOutcome = .valid) (inteira : completa = true) :
    Decidida evaluation reconfiguration completa .robust

/-- What the routing does: nothing in a conflict, and else one of the decided routes. -/
theorem predictiveFinalRouting_cases (evaluation : PredictiveClaimEvaluationResult)
    (reconfiguration : Option Desfecho) (assertiveness : PredictiveAssertiveness)
    (quality : PredictiveRecommendationQualityResult)
    (counterfactual : PredictiveCounterfactualSet) (burden : PredictiveBurdenComparison)
    (conflict : PredictiveConflictAssessment) :
    (∃ motivo limites alternativa, predictiveFinalRouting evaluation reconfiguration assertiveness
      quality counterfactual burden conflict =
        entregar limites alternativa assertiveness quality conflict none motivo) ∨
    conflict.blocksSafeRoute = false ∧ ∃ rota motivo limites alternativa,
      Decidida evaluation reconfiguration quality.completeAnswerAllowed rota ∧
      predictiveFinalRouting evaluation reconfiguration assertiveness quality counterfactual burden
        conflict = entregar limites alternativa assertiveness quality conflict (some rota) motivo := by
  unfold predictiveFinalRouting
  cases hconflict : conflict.blocksSafeRoute with
  | true => exact .inl ⟨_, _, _, if_pos rfl⟩
  | false =>
    rw [if_neg Bool.false_ne_true]
    by_cases hpromoted : ((reconfiguration.any fun o => o.decision = .promoted) &&
        quality.completeAnswerAllowed &&
        decide (evaluation.approvalValidationOutcome = .valid)) = true
    · rw [if_pos hpromoted]
      simp only [Bool.and_eq_true, decide_eq_true_eq, Option.any_eq_true] at hpromoted
      obtain ⟨⟨⟨o, ho, hdecision⟩, hcomplete⟩, hvalid⟩ := hpromoted
      exact .inr ⟨rfl, _, _, _, _, .reconfigure ho hdecision hvalid hcomplete, rfl⟩
    · rw [if_neg hpromoted]
      cases hstate : evaluation.state with
      | predictable =>
        rw [if_pos rfl]
        exact .inr ⟨rfl, _, _, _, _, .predict hstate, rfl⟩
      | unresolved =>
        rw [if_neg (by decide), if_pos rfl]
        exact .inr ⟨rfl, _, _, _, _, .investigate hstate, rfl⟩
      | predictivelyInaccessible =>
        rw [if_neg (by decide), if_neg (by decide)]
        by_cases hrobust : (decide (evaluation.approvalValidationOutcome = .valid) &&
            quality.completeAnswerAllowed) = true
        · rw [if_pos hrobust]
          simp only [Bool.and_eq_true, decide_eq_true_eq] at hrobust
          exact .inr ⟨rfl, _, _, _, _, .robust hstate hrobust.1 hrobust.2, rfl⟩
        · rw [if_neg hrobust]
          exact .inl ⟨_, _, _, rfl⟩

/-! ## Complete protection -/

/-- Nothing is left unresolved, and every required identifier was accepted or rejected. -/
structure ProtecaoCompleta (required : List Texto) (s : PredictiveProtectionSet) : Prop where
  pendentes : s.unresolved = []
  avaliada : s.accepted ≠ [] ∨ s.rejected ≠ []
  exigidos : ∀ i ∈ required, ∃ c ∈ s.accepted ++ s.rejected, c.identifier = i

/-- Reclassification keeps the identifiers. -/
theorem exists_mem_finais {classificados : List PredictiveProtectionCandidate}
    {c : PredictiveProtectionCandidate} (hc : c ∈ classificados) :
    ∃ c' ∈ finais classificados, c'.identifier = c.identifier := by
  unfold finais
  refine ⟨_, List.mem_map.mpr ⟨c, hc, rfl⟩, ?_⟩
  split
  case isFalse => rfl
  case isTrue =>
    cases hfind : List.find? (fun outro => decide (outro.identifier = c.identifier))
        (classificados.filter fun c => c.materiality = .supported).reverse with
    | none => rfl
    | some outro =>
      have hsame := List.find?_some hfind
      exact of_decide_eq_true hsame

/-- Where no candidate is unresolved, each one was accepted or rejected. -/
theorem mem_decididos {candidatos : List PredictiveProtectionCandidate}
    {c : PredictiveProtectionCandidate} (hc : c ∈ candidatos)
    (hresolved : candidatos.filter (·.materiality = .unresolved) = []) :
    c ∈ candidatos.filter (·.materiality = .supported) ++
      candidatos.filter (·.materiality = .notSupported) := by
  rw [List.mem_append]
  cases hstatus : c.materiality with
  | supported => exact .inl (List.mem_filter.mpr ⟨hc, decide_eq_true hstatus⟩)
  | notSupported => exact .inr (List.mem_filter.mpr ⟨hc, decide_eq_true hstatus⟩)
  | unresolved =>
    have hmem : c ∈ candidatos.filter (·.materiality = .unresolved) :=
      List.mem_filter.mpr ⟨hc, decide_eq_true hstatus⟩
    rw [hresolved] at hmem
    cases hmem

/-- A set that allows a complete answer is complete. -/
theorem protecaoCompleta_of_allowed {candidates : List PredictiveProtectionCandidateInput}
    {assertiveness : PredictiveAssertiveness} {evaluation : PredictiveClaimEvaluationResult}
    {approvalBinding : Option ApprovalBinding} {conflict : PredictiveConflictAssessment}
    {at_ : Momento} {scope required : List Texto} {inventory : Option Texto}
    {s : PredictiveProtectionSet}
    (h : predictiveProtectionSet candidates assertiveness evaluation approvalBinding conflict at_
      scope required inventory = .ok s) (hallowed : s.completeAnswerAllowed = true) :
    ProtecaoCompleta required s := by
  unfold predictiveProtectionSet at h
  obtain ⟨classificados, -, h⟩ := bind_eq_ok.mp h
  have hs := Except.ok.inj h
  unfold PredictiveProtectionSet.completeAnswerAllowed at hallowed
  rw [Bool.and_eq_true, List.isEmpty_iff, Option.isNone_iff_eq_none, ← hs] at hallowed
  obtain ⟨hresolved, hcovered⟩ := hallowed
  have hdecided : ∀ c ∈ classificados, ∃ c' ∈ s.accepted ++ s.rejected,
      c'.identifier = c.identifier := by
    intro c hc
    obtain ⟨c', hc', hsame⟩ := exists_mem_finais hc
    rw [← hs]
    exact ⟨c', mem_decididos hc' hresolved, hsame⟩
  unfold coberturaPendente at hcovered
  simp only at hcovered
  split at hcovered
  case isTrue => cases hcovered
  split at hcovered
  case isTrue => cases hcovered
  split at hcovered
  case isTrue => cases hcovered
  rename_i hsome hinventory hmissing
  have hrequired : ∀ i ∈ required, i ∈ classificados.map (·.identifier) := by
    intro i hi
    by_contra habsent
    refine hmissing ?_
    rw [Bool.not_eq_true', List.isEmpty_eq_false_iff]
    exact List.ne_nil_of_mem (List.mem_filter.mpr ⟨hi, decide_eq_true habsent⟩)
  refine ⟨by rw [← hs]; exact hresolved, ?_, ?_⟩
  · have hthere : ∃ c, c ∈ classificados := by
      cases classificados with
      | cons c rest => exact ⟨c, List.mem_cons_self⟩
      | nil =>
        cases required with
        | nil => exact absurd rfl hsome
        | cons i rest => cases hrequired i List.mem_cons_self
    obtain ⟨c, hc⟩ := hthere
    obtain ⟨c', hc', -⟩ := hdecided c hc
    rcases List.mem_append.mp hc' with haccepted | hrejected
    · exact .inl (List.ne_nil_of_mem haccepted)
    · exact .inr (List.ne_nil_of_mem hrejected)
  · intro i hi
    obtain ⟨c, hc, hsame⟩ := List.mem_map.mp (hrequired i hi)
    rw [← hsame]
    exact hdecided c hc

/-! ## One item -/

/-- What the chain of an evaluated item rests on. -/
structure Encadeado (evaluation : PredictiveClaimEvaluationResult)
    (governed : PredictiveGovernedQualityInput) (approvalBinding : Option ApprovalBinding)
    (conflict : PredictiveConflictAssessment) (at_ : Momento)
    (final : PredictiveFinalRoutingResult) : Prop where
  assertividade : final.assertiveness = predictiveAssertiveness evaluation
    governed.conclusionSignature governed.decisiveConstraint conflict
  protecao : predictiveProtectionSet governed.protectionCandidates final.assertiveness evaluation
    approvalBinding conflict at_ governed.materialityRequiredScope
    governed.requiredProtectionIdentifiers governed.protectionInventoryReference =
      .ok final.quality.protection
  completa : final.quality.completeAnswerAllowed = final.quality.protection.completeAnswerAllowed

/-- The ways in which the chain of an item ends. -/
theorem rotear_cases {evaluation : PredictiveClaimEvaluationResult}
    {governed : PredictiveGovernedQualityInput} {reconfiguration : Option Desfecho}
    {approvalBinding : Option ApprovalBinding} {conflict : PredictiveConflictAssessment}
    {at_ : Momento} {final : PredictiveFinalRoutingResult}
    (h : rotear evaluation governed reconfiguration approvalBinding conflict at_ = .ok final) :
    Encadeado evaluation governed approvalBinding conflict at_ final ∧
      ((final.route = none ∧ final.revalidatedRoute = final.assertiveness.nextGovernedRoute) ∨
        conflict.blocksSafeRoute = false ∧ ∃ rota, final.route = some rota ∧
          Decidida evaluation reconfiguration final.quality.completeAnswerAllowed rota ∧
          final.revalidatedRoute =
            if final.assertiveness.nextGovernedRoute.conservadorismo < rota.conservadorismo then
              rota
            else final.assertiveness.nextGovernedRoute) := by
  unfold rotear at h
  obtain ⟨protecao, hprotecao, h⟩ := bind_eq_ok.mp h
  obtain ⟨qualidade, hqualidade, h⟩ := bind_eq_ok.mp h
  obtain ⟨contrafactual, -, h⟩ := bind_eq_ok.mp h
  obtain ⟨comparacao, -, h⟩ := bind_eq_ok.mp h
  unfold predictiveRecommendationQuality at hqualidade
  obtain ⟨desfecho, -, hqualidade⟩ := bind_eq_ok.mp hqualidade
  have hquality := Except.ok.inj hqualidade
  have hprotection : qualidade.protection = protecao := by rw [← hquality]
  have hcomplete : qualidade.completeAnswerAllowed = qualidade.protection.completeAnswerAllowed := by
    rw [← hquality]
  have hfinal := Except.ok.inj h
  rw [← hprotection] at hprotecao
  rcases predictiveFinalRouting_cases evaluation reconfiguration
    (predictiveAssertiveness evaluation governed.conclusionSignature governed.decisiveConstraint
      conflict) qualidade contrafactual comparacao conflict with
    ⟨motivo, limites, alternativa, hnone⟩ | ⟨hopen, rota, motivo, limites, alternativa, hdecided, hsome⟩
  · rw [← hfinal, hnone]
    exact ⟨⟨rfl, hprotecao, hcomplete⟩, .inl ⟨rfl, rfl⟩⟩
  · rw [← hfinal, hsome]
    exact ⟨⟨rfl, hprotecao, hcomplete⟩, .inr ⟨hopen, rota, rfl, hdecided, rfl⟩⟩

/-- The routing outcome is the one of the item's own outcome. -/
inductive Corresponde (governed : Option PredictiveGovernedQualityInput)
    (approvalBinding : Option ApprovalBinding) (at_ : Momento) :
    PredictiveRequestItemOutcome → PredictiveRoutingOutcome → Prop
  | upstreamUnavailable {reference reason motivo : String} :
    Corresponde governed approvalBinding at_ (.upstreamUnavailable reference reason)
      (.upstreamUnavailable reference motivo)
  | causalRejected {claim : PredictiveClaim} {channels : List PredictiveChannel} {motivo : String} :
    Corresponde governed approvalBinding at_ (.causalRejected claim channels)
      (.causalRejected claim.subjectKey motivo)
  | evaluated {evaluation : PredictiveClaimEvaluationResult} {g : PredictiveGovernedQualityInput}
      {conflict : PredictiveConflictAssessment} {final : PredictiveFinalRoutingResult}
      (entrada : governed = some g)
      (encadeado : Encadeado evaluation g approvalBinding conflict at_ final) :
    Corresponde governed approvalBinding at_ (.evaluated evaluation) (.final final)

/-- What holds of the route of an item. -/
structure RotaSegura (item : PredictiveItem Amostra) (outcome : PredictiveRequestItemOutcome)
    (instruction : Option PredictiveReconfigurationInstruction)
    (governed : Option PredictiveGovernedQualityInput) (at_ : Momento) (trecho : Respostas)
    (routing : PredictiveRoutingOutcome) : Prop where
  corresponde : Corresponde governed (vinculoDe item outcome) at_ outcome routing
  semAvaliacao : (∀ evaluation, outcome ≠ .evaluated evaluation) → routing.route = none
  /-- The approval of the item's own envelope passed every test. -/
  aprovada : routing.route = some .robust ∨ routing.route = some .reconfigure →
    ∃ envelope context evaluation approval, item = .ready envelope context ∧
      outcome = .evaluated evaluation ∧ evaluation.approvalValidationOutcome = .valid ∧
      Aprovada envelope.authority approval context.at_.instant context.expectedVersion
        context.requiredScope context.expectedJurisdiction approval.boundTo
  protegida : routing.route = some .robust ∨ routing.route = some .reconfigure →
    ∃ final g, routing = .final final ∧ governed = some g ∧
      ProtecaoCompleta g.requiredProtectionIdentifiers final.quality.protection
  promovida : routing.route = some .reconfigure → Promoveu item outcome instruction trecho
  conservadora : ∀ final, routing = .final final →
    final.assertiveness.nextGovernedRoute.conservadorismo ≤
      final.revalidatedRoute.conservadorismo ∧
    ∀ rota, final.route = some rota →
      final.assertiveness.nextGovernedRoute.conservadorismo ≤ rota.conservadorismo

/-- Of a promoted item, the state is predictable. -/
theorem Promoveu.estado {item : PredictiveItem Amostra}
    {evaluation : PredictiveClaimEvaluationResult}
    {instruction : Option PredictiveReconfigurationInstruction} {trecho : Respostas}
    (h : Promoveu item (.evaluated evaluation) instruction trecho) :
    evaluation.state = .predictable := by
  obtain ⟨envelope, context, other, ins, approval, -, houtcome, -, haprova, -⟩ := h.existe
  rw [PredictiveRequestItemOutcome.evaluated.inj houtcome]
  exact haprova.estado

/-- Without a conflict, a decided route is at least as conservative as the prescribed one. -/
theorem prescrita_le_decidida {evaluation : PredictiveClaimEvaluationResult}
    {reconfiguration : Option Desfecho} {completa : Bool} {rota : PredictiveRoute}
    (h : Decidida evaluation reconfiguration completa rota)
    (hpromoted : rota = .reconfigure → evaluation.state = .predictable) :
    evaluation.state.rota.conservadorismo ≤ rota.conservadorismo := by
  cases h with
  | reconfigure promovida decisao aprovada inteira =>
    rw [hpromoted rfl]
    decide
  | predict estado | investigate estado | robust estado aprovada inteira =>
    rw [estado]
    exact le_refl _

/-- The route of an evaluated item whose claims are assessed is safe. -/
theorem rotaSegura_of_rotear {item : PredictiveItem Amostra} {ciencia : Ciencia Amostra}
    {evaluation : PredictiveClaimEvaluationResult}
    {instruction : Option PredictiveReconfigurationInstruction}
    {g : PredictiveGovernedQualityInput} {at_ : Momento} {trecho : Respostas}
    {sidecar : PredictiveReconfigurationOutcome} {conflict : PredictiveConflictAssessment}
    {final : PredictiveFinalRoutingResult}
    (heval : predictiveEvaluateItem ciencia item = .ok (.evaluated evaluation))
    (hpath : Path (reconfigurarItem item (.evaluated evaluation) instruction) trecho
      (.done (.ok sidecar)))
    (h : rotear evaluation g sidecar.desfecho? (vinculoDe item (.evaluated evaluation)) conflict
      at_ = .ok final) :
    RotaSegura item (.evaluated evaluation) instruction (some g) at_ trecho (.final final) := by
  obtain ⟨hchain, hends⟩ := rotear_cases h
  have hdecided : ∀ rota, final.route = some rota →
      Decidida evaluation sidecar.desfecho? final.quality.completeAnswerAllowed rota := by
    intro rota hrota
    rcases hends with ⟨hnone, -⟩ | ⟨-, other, hother, hdecided, -⟩
    · rw [hnone] at hrota
      cases hrota
    · rw [Option.some.inj (hrota.symm.trans hother)]
      exact hdecided
  have hpromoted : final.route = some .reconfigure →
      Promoveu item (.evaluated evaluation) instruction trecho := by
    intro hroute
    cases hdecided _ hroute with
    | reconfigure promovida decisao aprovada inteira =>
      exact promoveu_of_path hpath promovida decisao
  have hacts : final.route = some .robust ∨ final.route = some .reconfigure →
      evaluation.approvalValidationOutcome = .valid ∧
        final.quality.completeAnswerAllowed = true := by
    rintro (hroute | hroute)
    · cases hdecided _ hroute with
      | robust estado aprovada inteira => exact ⟨aprovada, inteira⟩
    · cases hdecided _ hroute with
      | reconfigure promovida decisao aprovada inteira => exact ⟨aprovada, inteira⟩
  refine ⟨.evaluated rfl hchain, fun h => absurd rfl (h evaluation), ?_, ?_, hpromoted, ?_⟩
  · intro hroute
    obtain ⟨hvalid, -⟩ := hacts hroute
    cases item with
    | upstreamUnavailable reference reason => cases Except.ok.inj heval
    | ready envelope context =>
      obtain ⟨approval, happroved⟩ := aprovada_of_evaluated heval hvalid
      exact ⟨envelope, context, evaluation, approval, rfl, rfl, hvalid, happroved⟩
  · intro hroute
    obtain ⟨-, hcomplete⟩ := hacts hroute
    rw [hchain.completa] at hcomplete
    exact ⟨final, g, rfl, rfl, protecaoCompleta_of_allowed hchain.protecao hcomplete⟩
  · intro other hother
    rw [← PredictiveRoutingOutcome.final.inj hother]
    rcases hends with ⟨hnone, hrevalidated⟩ | ⟨hopen, rota, hrota, hdecidida, hrevalidated⟩
    · rw [hnone, hrevalidated]
      exact ⟨le_refl _, fun _ h => by cases h⟩
    · have hnext : final.assertiveness.nextGovernedRoute = evaluation.state.rota := by
        rw [hchain.assertividade]
        exact nextGovernedRoute_of_open hopen
      have hle := prescrita_le_decidida hdecidida fun hreconfigure =>
        (hpromoted (hreconfigure ▸ hrota)).estado
      rw [← hnext] at hle
      refine ⟨?_, ?_⟩
      · rw [hrevalidated]
        split <;> omega
      · intro delivered hdelivered
        rw [Option.some.inj (hdelivered.symm.trans hrota)]
        exact hle

/-! ## Positions -/

/-- The loop over the items ran the gate of each one, one after the other. -/
theorem reconfigurarLote_path {items : List (PredictiveItem Amostra)}
    {outcomes : List PredictiveRequestItemOutcome}
    {instructions : List (Option PredictiveReconfigurationInstruction)} {feito : Respostas}
    {sidecars : List PredictiveReconfigurationOutcome}
    (hpath : Path (reconfigurarLote items outcomes instructions) feito (.done (.ok sidecars))) :
    ∃ trechos : List Respostas, trechos.flatten = feito ∧ trechos.length = items.length ∧
      sidecars.length = items.length ∧
      ∀ (i : ℕ) item outcome, items[i]? = some item → outcomes[i]? = some outcome →
        ∃ instruction trecho sidecar, instructions[i]? = some instruction ∧
          trechos[i]? = some trecho ∧ sidecars[i]? = some sidecar ∧
          Path (reconfigurarItem item outcome instruction) trecho (.done (.ok sidecar)) := by
  induction items generalizing outcomes instructions feito sidecars with
  | nil =>
    cases outcomes with
    | cons outcome outcomes => cases hpath.of_done.2
    | nil =>
      cases instructions with
      | cons instruction instructions => cases hpath.of_done.2
      | nil =>
        obtain ⟨hlog, hend⟩ := hpath.of_done
        rw [hlog, ← Except.ok.inj hend]
        exact ⟨[], rfl, rfl, rfl, fun i item outcome hitem => by cases hitem⟩
  | cons item items ih =>
    cases outcomes with
    | nil => cases hpath.of_done.2
    | cons outcome outcomes =>
      cases instructions with
      | nil => cases hpath.of_done.2
      | cons instruction instructions =>
        obtain ⟨trecho, resto, sidecar, hlog, hfirst, hrest⟩ := Path.of_attempt hpath
        obtain ⟨meio, fim, outros, hlog', hloop, hdone⟩ := hrest.of_attempt
        obtain ⟨hfim, hend⟩ := hdone.of_done
        obtain ⟨trechos, hflat, hlength, hsidecars, hitems⟩ := ih hloop
        rw [← Except.ok.inj hend]
        refine ⟨trecho :: trechos, ?_, congrArg (· + 1) hlength, congrArg (· + 1) hsidecars, ?_⟩
        · rw [List.flatten_cons, hflat, hlog, hlog', hfim, List.append_nil]
        · intro i other result hother hresult
          cases i with
          | zero =>
            rw [← Option.some.inj hother, ← Option.some.inj hresult]
            exact ⟨instruction, trecho, sidecar, rfl, rfl, rfl, hfirst⟩
          | succ i => exact hitems i other result hother hresult

/-- The routing gave each item its own outcome. -/
theorem rotearLote_eq_ok {at_ : Momento} {outcomes : List PredictiveRequestItemOutcome}
    {sidecars : List PredictiveReconfigurationOutcome} {bindings : List (Option ApprovalBinding)}
    {inputs : List (Option PredictiveGovernedQualityInput)}
    {conflicts : List (Option PredictiveConflictAssessment)}
    {results : List PredictiveRoutingOutcome}
    (h : rotearLote at_ outcomes sidecars bindings inputs conflicts = .ok results) :
    results.length = outcomes.length ∧
      ∀ (i : ℕ) outcome, outcomes[i]? = some outcome →
        ∃ sidecar binding governed conflict routing, sidecars[i]? = some sidecar ∧
          bindings[i]? = some binding ∧ inputs[i]? = some governed ∧
          conflicts[i]? = some conflict ∧ results[i]? = some routing ∧
          predictiveRouteItem outcome governed sidecar binding conflict at_ = .ok routing := by
  induction outcomes generalizing sidecars bindings inputs conflicts results with
  | nil =>
    cases sidecars <;> cases bindings <;> cases inputs <;> cases conflicts <;>
      first
        | (rw [← Except.ok.inj h]; exact ⟨rfl, fun i outcome houtcome => by cases houtcome⟩)
        | cases h
  | cons outcome outcomes ih =>
    cases sidecars with
    | nil => cases h
    | cons sidecar sidecars =>
      cases bindings with
      | nil => cases h
      | cons binding bindings =>
        cases inputs with
        | nil => cases h
        | cons governed inputs =>
          cases conflicts with
          | nil => cases h
          | cons conflict conflicts =>
            unfold rotearLote at h
            obtain ⟨primeiro, hfirst, h⟩ := bind_eq_ok.mp h
            obtain ⟨outros, hrest, h⟩ := bind_eq_ok.mp h
            obtain ⟨hlength, hothers⟩ := ih hrest
            rw [← Except.ok.inj h]
            refine ⟨congrArg (· + 1) hlength, ?_⟩
            intro i other hother
            cases i with
            | zero =>
              rw [← Option.some.inj hother]
              exact ⟨sidecar, binding, governed, conflict, primeiro, rfl, rfl, rfl, rfl, rfl, hfirst⟩
            | succ i => exact hothers i other hother

/-- Two claims with one key and two conclusions are assessed as a real conflict. -/
theorem conflito_of_divergentes {outcomes : List PredictiveRequestItemOutcome}
    {inputs : List (Option PredictiveGovernedQualityInput)} {i j : ℕ}
    {a b : PredictiveComparableClaim} {conflict : Option PredictiveConflictAssessment}
    (ha : (List.zipWith alegacaoDe outcomes inputs)[i]? = some (some a))
    (hb : (List.zipWith alegacaoDe outcomes inputs)[j]? = some (some b)) (hkey : a.key = b.key)
    (hdiffer : a.conclusionSignature ≠ b.conclusionSignature)
    (hconflict : (conflitosDoLote outcomes inputs)[i]? = some conflict) :
    ∃ c, conflict = some c ∧ c.blocksSafeRoute = true := by
  have hmem : ∀ {k : ℕ} {x : PredictiveComparableClaim},
      (List.zipWith alegacaoDe outcomes inputs)[k]? = some (some x) →
        x ∈ (List.zipWith alegacaoDe outcomes inputs).filterMap id :=
    fun hk => List.mem_filterMap.mpr ⟨_, List.mem_of_getElem? hk, rfl⟩
  unfold conflitosDoLote at hconflict
  simp only [List.getElem?_map, ha, Option.map_some] at hconflict
  refine ⟨_, (Option.some.inj hconflict).symm, ?_⟩
  unfold PredictiveConflictAssessment.blocksSafeRoute
  rw [decide_eq_true_eq]
  have hsame : ∀ c ∈ ((List.zipWith alegacaoDe outcomes inputs).filterMap id).filter
      (fun c => c.key = a.key), c.key = a.key :=
    fun c hc => of_decide_eq_true (List.mem_filter.mp hc).2
  exact (predictiveConflictAssessment_real hsame).mpr
    ⟨a, List.mem_filter.mpr ⟨hmem ha, decide_eq_true rfl⟩, b,
      List.mem_filter.mpr ⟨hmem hb, decide_eq_true hkey.symm⟩, hdiffer⟩

/-- In a real conflict, an evaluated item gets no route. -/
theorem route_eq_none_of_conflito {evaluation : PredictiveClaimEvaluationResult}
    {governed : Option PredictiveGovernedQualityInput} {sidecar : PredictiveReconfigurationOutcome}
    {binding : Option ApprovalBinding} {conflict : PredictiveConflictAssessment} {at_ : Momento}
    {routing : PredictiveRoutingOutcome} (hblocks : conflict.blocksSafeRoute = true)
    (h : predictiveRouteItem (.evaluated evaluation) governed sidecar binding (some conflict) at_ =
      .ok routing) : routing.route = none := by
  cases governed with
  | none => cases h
  | some g =>
    unfold predictiveRouteItem at h
    simp only at h
    cases hroute : rotear evaluation g sidecar.desfecho? binding conflict at_ with
    | error e =>
      rw [hroute] at h
      cases h
    | ok final =>
      rw [hroute] at h
      rw [← Except.ok.inj h]
      rcases (rotear_cases hroute).2 with ⟨hnone, -⟩ | ⟨hopen, -⟩
      · exact hnone
      · rw [hblocks] at hopen
        cases hopen

/-! ## The batch -/

/-- What a batch that was evaluated, reconfigured and routed got. -/
structure LoteRoteado (ciencia : Ciencia Amostra) (request : PredictiveEvaluationRequest Amostra)
    (instructions : List (Option PredictiveReconfigurationInstruction))
    (inputs : List (Option PredictiveGovernedQualityInput)) (at_ : Momento) (feito : Respostas)
    (coordinated : PredictiveCoordinatedBatchResult) (result : PredictiveRoutingBatchResult) :
    Prop where
  comprimento : coordinated.outcomes.length = request.items.length ∧
    result.outcomes.length = request.items.length
  /-- The answers of the run are those of the items, in their order, and each item has its own
  outcome, its own answers and its own route. -/
  posicoes : ∃ trechos : List Respostas, trechos.flatten = feito ∧
    trechos.length = request.items.length ∧
    ∀ (i : ℕ) item, request.items[i]? = some item →
      ∃ outcome instruction governed trecho routing,
        coordinated.outcomes[i]? = some outcome ∧ instructions[i]? = some instruction ∧
        inputs[i]? = some governed ∧ trechos[i]? = some trecho ∧
        result.outcomes[i]? = some routing ∧
        predictiveEvaluateItem ciencia item = .ok outcome ∧
        RotaSegura item outcome instruction governed at_ trecho routing
  conflitos : ∀ (i j : ℕ) a b g h, coordinated.outcomes[i]? = some (.evaluated a) →
    coordinated.outcomes[j]? = some (.evaluated b) → inputs[i]? = some (some g) →
    inputs[j]? = some (some h) → g.comparabilityKey = h.comparabilityKey →
    g.conclusionSignature ≠ h.conclusionSignature →
      ∃ r s, result.outcomes[i]? = some r ∧ result.outcomes[j]? = some s ∧
        r.route = none ∧ s.route = none

/-- What holds of every batch, with every repository that answers its gates. -/
structure LeisDoRoteamento (ciencia : Ciencia Amostra)
    (request : PredictiveEvaluationRequest Amostra)
    (instructions : List (Option PredictiveReconfigurationInstruction))
    (inputs : List (Option PredictiveGovernedQualityInput)) (at_ : Momento) : Prop where
  seguro : ∀ feito coordinated result,
    Path (predictiveEvaluateAndReconfigureBatch ciencia request instructions) feito
      (.done (.ok coordinated)) →
    predictiveRouteBatch coordinated inputs at_ = .ok result →
      LoteRoteado ciencia request instructions inputs at_ feito coordinated result

/-- Every item that is routed gets a safe route. -/
theorem rotaSegura_of_routeItem {ciencia : Ciencia Amostra} {item : PredictiveItem Amostra}
    {outcome : PredictiveRequestItemOutcome}
    {instruction : Option PredictiveReconfigurationInstruction}
    {governed : Option PredictiveGovernedQualityInput} {at_ : Momento} {trecho : Respostas}
    {sidecar : PredictiveReconfigurationOutcome} {conflict : Option PredictiveConflictAssessment}
    {routing : PredictiveRoutingOutcome} (heval : predictiveEvaluateItem ciencia item = .ok outcome)
    (hpath : Path (reconfigurarItem item outcome instruction) trecho (.done (.ok sidecar)))
    (h : predictiveRouteItem outcome governed sidecar (vinculoDe item outcome) conflict at_ =
      .ok routing) : RotaSegura item outcome instruction governed at_ trecho routing := by
  have hshort : routing.route = none → (∀ final, routing ≠ .final final) →
      Corresponde governed (vinculoDe item outcome) at_ outcome routing →
      RotaSegura item outcome instruction governed at_ trecho routing := by
    intro hnone hfinal hmatch
    refine ⟨hmatch, fun _ => hnone, ?_, ?_, ?_, fun final hrouting => absurd hrouting (hfinal final)⟩
    · rw [hnone]
      rintro (h | h) <;> cases h
    · rw [hnone]
      rintro (h | h) <;> cases h
    · rw [hnone]
      intro h
      cases h
  cases outcome with
  | upstreamUnavailable reference reason =>
    have hrouting := Except.ok.inj h
    subst hrouting
    exact hshort rfl (fun final h => by cases h) .upstreamUnavailable
  | causalRejected claim channels =>
    have hrouting := Except.ok.inj h
    subst hrouting
    exact hshort rfl (fun final h => by cases h) .causalRejected
  | evaluated evaluation =>
    cases governed with
    | none => cases h
    | some g =>
      cases conflict with
      | none => cases h
      | some conflict =>
        unfold predictiveRouteItem at h
        simp only at h
        cases hroute : rotear evaluation g sidecar.desfecho?
            (vinculoDe item (.evaluated evaluation)) conflict at_ with
        | error e =>
          rw [hroute] at h
          cases h
        | ok final =>
          rw [hroute] at h
          rw [← Except.ok.inj h]
          exact rotaSegura_of_rotear heval hpath hroute

/-- A batch that was coordinated was evaluated whole, and its loop has ended. -/
theorem coordenado_of_path {ciencia : Ciencia Amostra}
    {request : PredictiveEvaluationRequest Amostra}
    {instructions : List (Option PredictiveReconfigurationInstruction)} {feito : Respostas}
    {coordinated : PredictiveCoordinatedBatchResult}
    (hpath : Path (predictiveEvaluateAndReconfigureBatch ciencia request instructions) feito
      (.done (.ok coordinated))) :
    request.items.mapM (predictiveEvaluateItem ciencia) = .ok coordinated.outcomes ∧
      coordinated.approvalBindings = List.zipWith vinculoDe request.items coordinated.outcomes ∧
      Path (reconfigurarLote request.items coordinated.outcomes instructions) feito
        (.done (.ok coordinated.reconfiguration)) := by
  unfold predictiveEvaluateAndReconfigureBatch at hpath
  split at hpath
  case isTrue => cases hpath.of_done.2
  split at hpath
  case h_1 => cases hpath.of_done.2
  rename_i outcomes hevaluated
  obtain ⟨front, post, sidecars, hlog, hloop, hdone⟩ := Path.of_attempt hpath
  simp only at hdone
  split at hdone
  case isFalse => cases hdone.of_done.2
  obtain ⟨hpost, hcoordinated⟩ := hdone.of_done
  rw [hpost, List.append_nil] at hlog
  rw [← Except.ok.inj hcoordinated, hlog]
  exact ⟨hevaluated, rfl, hloop⟩

/-- A batch that was routed was routed item by item. -/
theorem roteado_of_routeBatch {coordinated : PredictiveCoordinatedBatchResult}
    {inputs : List (Option PredictiveGovernedQualityInput)} {at_ : Momento}
    {result : PredictiveRoutingBatchResult}
    (h : predictiveRouteBatch coordinated inputs at_ = .ok result) :
    rotearLote at_ coordinated.outcomes coordinated.reconfiguration coordinated.approvalBindings
      inputs (conflitosDoLote coordinated.outcomes inputs) = .ok result.outcomes := by
  unfold predictiveRouteBatch at h
  split at h
  case isTrue => cases h
  split at h
  case isTrue => cases h
  obtain ⟨routings, hrouted, h⟩ := bind_eq_ok.mp h
  rw [← Except.ok.inj h]
  exact hrouted

theorem routing_safety (ciencia : Ciencia Amostra) (request : PredictiveEvaluationRequest Amostra)
    (instructions : List (Option PredictiveReconfigurationInstruction))
    (inputs : List (Option PredictiveGovernedQualityInput)) (at_ : Momento) :
    LeisDoRoteamento ciencia request instructions inputs at_ := by
  refine ⟨fun feito coordinated result hpath hroute => ?_⟩
  obtain ⟨hevaluated, hbindings, hloop⟩ := coordenado_of_path hpath
  obtain ⟨trechos, hflat, htrechos, -, hitems⟩ := reconfigurarLote_path hloop
  obtain ⟨hlength, hroutings⟩ := rotearLote_eq_ok (roteado_of_routeBatch hroute)
  have hrelated := mapM_eq_ok.mp hevaluated
  have hcount : coordinated.outcomes.length = request.items.length := hrelated.length_eq.symm
  refine ⟨⟨hcount, hlength.trans hcount⟩, ⟨trechos, hflat, htrechos, ?_⟩, ?_⟩
  · intro i item hitem
    have hi : i < request.items.length := (List.getElem?_eq_some_iff.mp hitem).1
    have hi' : i < coordinated.outcomes.length := by omega
    have houtcome : coordinated.outcomes[i]? = some coordinated.outcomes[i] :=
      List.getElem?_eq_getElem hi'
    have heval : predictiveEvaluateItem ciencia item = .ok coordinated.outcomes[i] := by
      have hat := hrelated.get hi hi'
      rw [← (List.getElem?_eq_some_iff.mp hitem).2]
      exact hat
    obtain ⟨instruction, trecho, sidecar, hinstruction, htrecho, hsidecar, hgate⟩ :=
      hitems i item _ hitem houtcome
    obtain ⟨sidecar', binding, governed, conflict, routing, hsidecar', hbinding, hgoverned, -,
      hrouting, hroutes⟩ := hroutings i _ houtcome
    have hsame : sidecar' = sidecar := Option.some.inj (hsidecar'.symm.trans hsidecar)
    have hown : binding = vinculoDe item coordinated.outcomes[i] := by
      rw [hbindings, List.getElem?_zipWith, hitem, houtcome] at hbinding
      exact (Option.some.inj hbinding).symm
    rw [hsame, hown] at hroutes
    exact ⟨_, instruction, governed, trecho, routing, houtcome, hinstruction, hgoverned, htrecho,
      hrouting, heval, rotaSegura_of_routeItem heval hgate hroutes⟩
  · intro i j a b g h ha hb hg hh hkey hdiffer
    have hclaim : ∀ {k : ℕ} {x y}, coordinated.outcomes[k]? = some (.evaluated x) →
        inputs[k]? = some (some y) →
          (List.zipWith alegacaoDe coordinated.outcomes inputs)[k]? =
            some (some ⟨x, y.comparabilityKey, y.conclusionSignature⟩) := by
      intro k x y hx hy
      rw [List.getElem?_zipWith, hx, hy]
      rfl
    have habstains : ∀ {k l : ℕ} {x y g' h'}, coordinated.outcomes[k]? = some (.evaluated x) →
        inputs[k]? = some (some g') → coordinated.outcomes[l]? = some (.evaluated y) →
        inputs[l]? = some (some h') → g'.comparabilityKey = h'.comparabilityKey →
        g'.conclusionSignature ≠ h'.conclusionSignature →
          ∃ r, result.outcomes[k]? = some r ∧ r.route = none := by
      intro k l x y g' h' hx hg' hy hh' hkey' hdiffer'
      obtain ⟨sidecar, binding, governed, conflict, routing, -, -, -, hconflict, hrouting, hroutes⟩ :=
        hroutings k _ hx
      obtain ⟨c, hc, hblocks⟩ :=
        conflito_of_divergentes (hclaim hx hg') (hclaim hy hh') hkey' hdiffer' hconflict
      rw [hc] at hroutes
      exact ⟨routing, hrouting, route_eq_none_of_conflito hblocks hroutes⟩
    obtain ⟨r, hr, hrnone⟩ := habstains ha hg hb hh hkey hdiffer
    obtain ⟨s, hs, hsnone⟩ := habstains hb hh ha hg hkey.symm hdiffer.symm
    exact ⟨r, s, hr, hs, hrnone, hsnone⟩

end PiaOs.Predictive
