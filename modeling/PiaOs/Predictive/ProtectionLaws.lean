import Mathlib.Data.List.Perm.Basic
import PiaOs.Predictive.LogReplay
import PiaOs.Predictive.Protection

/-!
# The partition of protective candidates

Every candidate is accepted, rejected or unresolved, and two accepted candidates are compatible.
The candidates that are incompatible are replaced by their identifier, so that candidates that
share one are taken for each other.
-/

namespace PiaOs.Predictive

open Support Memory Piap

section Partition

variable (assertiveness : PredictiveAssertiveness) (evaluation : PredictiveClaimEvaluationResult)
  (approvalBinding : Option ApprovalBinding) (conflictAssessment : PredictiveConflictAssessment)
  (at_ : Momento) (requiredScope requiredIdentifiers : List Texto)
  (inventoryReference : Option Texto)

/-- What a candidate is known by. -/
def PredictiveProtectionCandidateInput.dados (e : PredictiveProtectionCandidateInput) :
    Texto × Texto × Texto × Option PredictiveMaterialityAuthority :=
  (e.identifier, e.reason, e.provenance, e.authority)

/-- What the materiality of a candidate rests on. -/
structure Sustenta (e : PredictiveProtectionCandidateInput) : Prop where
  claimed : e.materialEffectClaimed = true
  authority : predictiveMaterialityAuthorityFailure e.authority evaluation approvalBinding at_
    requiredScope = .ok none
  noConflict : conflictAssessment.blocksSafeRoute = false
  authorized : assertiveness.authorityState = .authorized
  operable : e.Operavel

/-- The candidates of a set by their class. -/
def PredictiveProtectionSet.das (s : PredictiveProtectionSet) :
    PredictiveMaterialityStatus → List PredictiveProtectionCandidate
  | .supported => s.accepted
  | .notSupported => s.rejected
  | .unresolved => s.unresolved

/-- The set places each candidate once, in a class that does not depend on the order, and accepts
only compatible candidates whose authority holds. -/
structure Reparte (candidates : List PredictiveProtectionCandidateInput)
    (s : PredictiveProtectionSet) : Prop where
  once : ((s.accepted ++ s.rejected ++ s.unresolved).map (·.entrada.dados)).Perm
    (candidates.map (·.dados))
  anyOrder : ∀ candidates', candidates'.Perm candidates → ∃ s',
    predictiveProtectionSet candidates' assertiveness evaluation approvalBinding conflictAssessment
      at_ requiredScope requiredIdentifiers inventoryReference = .ok s' ∧
    ∀ m, ((s'.das m).map (·.entrada.dados)).Perm ((s.das m).map (·.entrada.dados))
  compatible : ∀ a ∈ s.accepted, ∀ b ∈ s.accepted, a.identifier ∉ b.entrada.incompatibleWith
  authority : ∀ a ∈ s.accepted, a.entrada.authority ≠ none ∧
    predictiveMaterialityAuthorityFailure a.entrada.authority evaluation approvalBinding at_
      requiredScope = .ok none

/-- The instants of the authorities can be compared, and candidates that share an identifier with
one of two incompatible candidates are known by the same. -/
structure SemHomonimos (candidates : List PredictiveProtectionCandidateInput) : Prop where
  comparable : ∀ e ∈ candidates, ∃ falha, predictiveMaterialityAuthorityFailure e.authority
    evaluation approvalBinding at_ requiredScope = .ok falha
  same : ∀ a ∈ candidates, ∀ b ∈ candidates,
    Sustenta assertiveness evaluation approvalBinding conflictAssessment at_ requiredScope a →
    Sustenta assertiveness evaluation approvalBinding conflictAssessment at_ requiredScope b →
    a.identifier ∈ b.incompatibleWith ∨ b.identifier ∈ a.incompatibleWith →
    ∀ c ∈ candidates, c.identifier = a.identifier → c.dados = a.dados

/-! ## One candidate -/

variable {assertiveness evaluation approvalBinding conflictAssessment at_ requiredScope}

theorem classificado_entrada {e : PredictiveProtectionCandidateInput} {falha : Option String}
    {h : falha = none → e.authority ≠ none} :
    (classificado e assertiveness conflictAssessment falha h).entrada = e := by
  unfold classificado
  split
  · rfl
  · split
    · rfl
    · split
      · rfl
      · split
        · rfl
        · split <;> rfl

/-- Only what its materiality rests on makes a candidate supported. -/
theorem classificado_supported {e : PredictiveProtectionCandidateInput} {falha : Option String}
    {h : falha = none → e.authority ≠ none} :
    (classificado e assertiveness conflictAssessment falha h).materiality = .supported ↔
      e.materialEffectClaimed = true ∧ falha = none ∧ conflictAssessment.blocksSafeRoute = false ∧
        assertiveness.authorityState = .authorized ∧ e.Operavel := by
  unfold classificado
  split
  case isTrue hclaimed => simp_all
  case isFalse hclaimed =>
    split
    case h_1 => simp
    case h_2 =>
      split
      case isTrue => simp_all
      case isFalse =>
        split
        case isTrue => simp_all
        case isFalse =>
          split <;> simp_all

theorem classificar_eq_ok {e : PredictiveProtectionCandidateInput}
    {c : PredictiveProtectionCandidate} (h : classificar assertiveness evaluation approvalBinding
      conflictAssessment at_ requiredScope e = .ok c) :
    c.entrada = e ∧ (∃ falha, predictiveMaterialityAuthorityFailure e.authority evaluation
      approvalBinding at_ requiredScope = .ok falha) ∧ (c.materiality = .supported ↔
        Sustenta assertiveness evaluation approvalBinding conflictAssessment at_ requiredScope e) := by
  unfold classificar at h
  split at h
  case h_1 => cases h
  case h_2 falha hfalha =>
    obtain rfl := Except.ok.inj h
    refine ⟨classificado_entrada, ⟨falha, hfalha⟩, classificado_supported.trans ⟨?_, ?_⟩⟩
    · rintro ⟨hclaimed, hnone, hconflict, hauthorized, hoperable⟩
      exact ⟨hclaimed, hnone ▸ hfalha, hconflict, hauthorized, hoperable⟩
    · intro hs
      exact ⟨hs.claimed, Except.ok.inj (hfalha.symm.trans hs.authority), hs.noConflict,
        hs.authorized, hs.operable⟩

theorem exists_classificar {e : PredictiveProtectionCandidateInput} {falha : Option String}
    (h : predictiveMaterialityAuthorityFailure e.authority evaluation approvalBinding at_
      requiredScope = .ok falha) : ∃ c, classificar assertiveness evaluation approvalBinding
        conflictAssessment at_ requiredScope e = .ok c := by
  unfold classificar
  split
  case h_1 error herror => simp [h] at herror
  case h_2 => exact ⟨_, rfl⟩

/-! ## All of them -/

/-- `aceitos`. -/
def aceitos (cs : List PredictiveProtectionCandidate) : List PredictiveProtectionCandidate :=
  cs.filter fun c => c.materiality = .supported

/-- What becomes of a candidate of the list. -/
def final (cs : List PredictiveProtectionCandidate) (c : PredictiveProtectionCandidate) :
    PredictiveProtectionCandidate :=
  if c.identifier ∈ idsIncompativeis (aceitos cs) then
    (((aceitos cs).reverse.find? fun outro => outro.identifier = c.identifier).map
      (·.reclassificado)).getD c
  else c

theorem finais_eq_map (cs : List PredictiveProtectionCandidate) : finais cs = cs.map (final cs) := rfl

variable {cs cs' : List PredictiveProtectionCandidate} {c : PredictiveProtectionCandidate}

theorem mem_aceitos : c ∈ aceitos cs ↔ c ∈ cs ∧ c.materiality = .supported := by
  simp [aceitos]

theorem mem_idsIncompativeis {ps : List PredictiveProtectionCandidate} {i : Texto} :
    i ∈ idsIncompativeis ps ↔ ∃ a ∈ ps, a.identifier = i ∧ ∃ b ∈ ps,
      b.identifier ∈ a.entrada.incompatibleWith ∨ a.identifier ∈ b.entrada.incompatibleWith := by
  simp only [idsIncompativeis, List.mem_map, List.mem_filter, Bool.or_eq_true, List.any_eq_true,
    decide_eq_true_eq]
  constructor
  · rintro ⟨a, ⟨ha, hcase⟩, hid⟩
    rcases hcase with ⟨i', hi', b, hb, hbid⟩ | ⟨b, hb, hin⟩
    · exact ⟨a, ha, hid, b, hb, .inl (hbid ▸ hi')⟩
    · exact ⟨a, ha, hid, b, hb, .inr hin⟩
  · rintro ⟨a, ha, hid, b, hb, hcase⟩
    rcases hcase with hin | hin
    · exact ⟨a, ⟨ha, .inl ⟨b.identifier, hin, b, hb, rfl⟩⟩, hid⟩
    · exact ⟨a, ⟨ha, .inr ⟨b, hb, hin⟩⟩, hid⟩

theorem final_of_not_mem (h : c.identifier ∉ idsIncompativeis (aceitos cs)) : final cs c = c :=
  if_neg h

/-- The last accepted candidate of an incompatible identifier stands for all that have it. -/
theorem exists_final {i : Texto} (h : i ∈ idsIncompativeis (aceitos cs)) :
    ∃ outro ∈ aceitos cs, outro.identifier = i ∧
      ∀ c, c.identifier = i → final cs c = outro.reclassificado := by
  obtain ⟨a, ha, hid, -⟩ := mem_idsIncompativeis.mp h
  cases hfind : (aceitos cs).reverse.find? fun outro => outro.identifier = i with
  | none =>
    rw [List.find?_eq_none] at hfind
    exact absurd hid (by simpa using hfind a (List.mem_reverse.mpr ha))
  | some outro =>
    refine ⟨outro, List.mem_reverse.mp (List.mem_of_find?_eq_some hfind),
      by simpa using List.find?_some hfind, ?_⟩
    rintro c rfl
    rw [final, if_pos h, hfind]
    rfl

/-- Only a supported candidate whose identifier is compatible stays supported, as it was. -/
theorem final_supported (h : (final cs c).materiality = .supported) :
    c.identifier ∉ idsIncompativeis (aceitos cs) ∧ final cs c = c := by
  by_cases hin : c.identifier ∈ idsIncompativeis (aceitos cs)
  · obtain ⟨outro, -, -, hall⟩ := exists_final hin
    rw [hall c rfl] at h
    cases h
  · exact ⟨hin, final_of_not_mem hin⟩

/-- The three classes together are the list. -/
theorem classes_perm (l : List PredictiveProtectionCandidate) :
    (l.filter (·.materiality = .supported) ++ l.filter (·.materiality = .notSupported) ++
      l.filter (·.materiality = .unresolved)).Perm l := by
  induction l with
  | nil => exact .refl _
  | cons c l ih =>
    cases hc : c.materiality with
    | supported => simpa [hc] using ih
    | notSupported =>
      simp only [List.filter_cons, hc, decide_true, decide_false, if_true, reduceCtorEq,
        Bool.false_eq_true, if_false, List.append_assoc, List.cons_append]
      refine List.perm_middle.trans (.cons c ?_)
      rwa [← List.append_assoc]
    | unresolved =>
      simp only [List.filter_cons, hc, decide_true, decide_false, if_true, reduceCtorEq,
        Bool.false_eq_true, if_false]
      exact List.perm_middle.trans (.cons c ih)

/-- Candidates that were classified, each as its materiality rests. -/
structure Classificados (assertiveness : PredictiveAssertiveness)
    (evaluation : PredictiveClaimEvaluationResult) (approvalBinding : Option ApprovalBinding)
    (conflictAssessment : PredictiveConflictAssessment) (at_ : Momento) (requiredScope : List Texto)
    (candidates : List PredictiveProtectionCandidateInput)
    (cs : List PredictiveProtectionCandidate) : Prop where
  entradas : cs.map (·.entrada) = candidates
  comparable : ∀ e ∈ candidates, ∃ falha, predictiveMaterialityAuthorityFailure e.authority
    evaluation approvalBinding at_ requiredScope = .ok falha
  supported : ∀ c ∈ cs, c.materiality = .supported ↔
    Sustenta assertiveness evaluation approvalBinding conflictAssessment at_ requiredScope c.entrada

variable {candidates candidates' : List PredictiveProtectionCandidateInput}
  {requiredIdentifiers : List Texto} {inventoryReference : Option Texto}

/-- A set is built of what `_classificar` gives for each candidate. -/
theorem protectionSet_eq_ok {s : PredictiveProtectionSet} :
    predictiveProtectionSet candidates assertiveness evaluation approvalBinding conflictAssessment
      at_ requiredScope requiredIdentifiers inventoryReference = .ok s ↔
    ∃ cs, candidates.mapM (classificar assertiveness evaluation approvalBinding conflictAssessment
        at_ requiredScope) = .ok cs ∧
      s = {
        accepted := (finais cs).filter (·.materiality = .supported)
        rejected := (finais cs).filter (·.materiality = .notSupported)
        unresolved := (finais cs).filter (·.materiality = .unresolved)
        assertiveness
        evaluation
        conflictAssessment
        coverageUnresolvedReason :=
          coberturaPendente cs requiredIdentifiers inventoryReference } := by
  unfold predictiveProtectionSet
  rw [bind_eq_ok]
  refine exists_congr fun cs => and_congr_right fun _ => ?_
  exact ⟨fun h => (Except.ok.inj h).symm, fun h => congrArg Except.ok h.symm⟩

theorem classificados_of_mapM (h : candidates.mapM (classificar assertiveness evaluation
      approvalBinding conflictAssessment at_ requiredScope) = .ok cs) :
    Classificados assertiveness evaluation approvalBinding conflictAssessment at_ requiredScope
      candidates cs := by
  rw [mapM_eq_ok] at h
  induction h with
  | nil => exact ⟨rfl, by simp, by simp⟩
  | cons hc _ ih =>
    obtain ⟨hentrada, hcomparable, hsupported⟩ := classificar_eq_ok hc
    refine ⟨?_, List.forall_mem_cons.mpr ⟨hcomparable, ih.comparable⟩,
      List.forall_mem_cons.mpr ⟨by rw [hentrada]; exact hsupported, ih.supported⟩⟩
    rw [List.map_cons, hentrada, ih.entradas]

/-- In another order the same candidates are classified. -/
theorem classificados_perm (h : candidates.mapM (classificar assertiveness evaluation
      approvalBinding conflictAssessment at_ requiredScope) = .ok cs)
    (hperm : candidates'.Perm candidates) : ∃ cs', candidates'.mapM (classificar assertiveness
      evaluation approvalBinding conflictAssessment at_ requiredScope) = .ok cs' ∧ cs'.Perm cs := by
  obtain ⟨cs', hcs', hcsperm⟩ := List.perm_comp_forall₂ hperm (mapM_eq_ok.mp h)
  exact ⟨cs', mapM_eq_ok.mpr hcs', hcsperm⟩

theorem exists_mapM (h : ∀ e ∈ candidates, ∃ falha, predictiveMaterialityAuthorityFailure
      e.authority evaluation approvalBinding at_ requiredScope = .ok falha) :
    ∃ cs, candidates.mapM (classificar assertiveness evaluation approvalBinding conflictAssessment
      at_ requiredScope) = .ok cs := by
  induction candidates with
  | nil => exact ⟨[], rfl⟩
  | cons e es ih =>
    obtain ⟨falha, hfalha⟩ := h e List.mem_cons_self
    have hclass : ∃ c, classificar assertiveness evaluation approvalBinding conflictAssessment at_
        requiredScope e = .ok c := exists_classificar hfalha
    obtain ⟨c, hc⟩ := hclass
    obtain ⟨cs, hcs⟩ := ih fun e' he' => h e' (List.mem_cons_of_mem e he')
    exact ⟨c :: cs, mapM_eq_ok.mpr (.cons hc (mapM_eq_ok.mp hcs))⟩

/-! ## The partition -/

/-- What is accepted is supported, and no other supported candidate excludes it. -/
theorem accepted_of_mem (h : c ∈ (finais cs).filter (·.materiality = .supported)) :
    c ∈ aceitos cs ∧ c.identifier ∉ idsIncompativeis (aceitos cs) := by
  obtain ⟨hin, hsupported⟩ := List.mem_filter.mp h
  have hsupported := of_decide_eq_true hsupported
  rw [finais_eq_map] at hin
  obtain ⟨c', hc', hfinal⟩ := List.mem_map.mp hin
  obtain ⟨hnot, hsame⟩ := final_supported (hfinal ▸ hsupported)
  obtain rfl := hsame.symm.trans hfinal
  exact ⟨mem_aceitos.mpr ⟨hc', hsupported⟩, hnot⟩

/-- What a candidate ends as: known by what it was known by, in its class. -/
def desfecho (ids : List Texto) (c : PredictiveProtectionCandidate) :
    (Texto × Texto × Texto × Option PredictiveMaterialityAuthority) × PredictiveMaterialityStatus :=
  (c.entrada.dados, if c.identifier ∈ ids then .unresolved else c.materiality)

variable (hcs : Classificados assertiveness evaluation approvalBinding conflictAssessment at_
  requiredScope candidates cs)

include hcs in
theorem mem_candidates (hc : c ∈ cs) : c.entrada ∈ candidates := by
  rw [← hcs.entradas]
  exact List.mem_map_of_mem hc

include hcs in
/-- Without different candidates of one identifier, nobody is taken for another. -/
theorem final_dados (hsem : SemHomonimos assertiveness evaluation approvalBinding conflictAssessment
    at_ requiredScope candidates) (hc : c ∈ cs) :
    ((final cs c).entrada.dados, (final cs c).materiality) =
      desfecho (idsIncompativeis (aceitos cs)) c := by
  by_cases hin : c.identifier ∈ idsIncompativeis (aceitos cs)
  · obtain ⟨outro, houtro, hid, hall⟩ := exists_final hin
    rw [hall c rfl, desfecho, if_pos hin]
    obtain ⟨a, ha, haid, b, hb, hexclude⟩ := mem_idsIncompativeis.mp hin
    obtain ⟨ha, hasup⟩ := mem_aceitos.mp ha
    obtain ⟨hb, hbsup⟩ := mem_aceitos.mp hb
    have hsame := hsem.same a.entrada (mem_candidates hcs ha) b.entrada (mem_candidates hcs hb)
      ((hcs.supported a ha).mp hasup) ((hcs.supported b hb).mp hbsup) hexclude.symm
    have hfirst := hsame outro.entrada (mem_candidates hcs (mem_aceitos.mp houtro).1)
      (hid.trans haid.symm)
    have hsecond := hsame c.entrada (mem_candidates hcs hc) haid.symm
    exact congrArg (·, PredictiveMaterialityStatus.unresolved) (hfirst.trans hsecond.symm)
  · rw [final_of_not_mem hin, desfecho, if_neg hin]

include hcs in
theorem finais_desfechos (hsem : SemHomonimos assertiveness evaluation approvalBinding
    conflictAssessment at_ requiredScope candidates) :
    (finais cs).map (fun c => (c.entrada.dados, c.materiality)) =
      cs.map (desfecho (idsIncompativeis (aceitos cs))) := by
  rw [finais_eq_map, List.map_map]
  exact List.map_congr_left fun c hc => final_dados hcs hsem hc

theorem desfechos_perm (h : cs'.Perm cs) :
    (cs'.map (desfecho (idsIncompativeis (aceitos cs')))).Perm
      (cs.map (desfecho (idsIncompativeis (aceitos cs)))) := by
  have hids : ∀ i, i ∈ idsIncompativeis (aceitos cs') ↔ i ∈ idsIncompativeis (aceitos cs) := by
    intro i
    simp only [mem_idsIncompativeis, mem_aceitos, h.mem_iff]
  have hsame : desfecho (idsIncompativeis (aceitos cs')) =
      desfecho (idsIncompativeis (aceitos cs)) := by
    funext c
    simp only [desfecho, hids]
  rw [hsame]
  exact h.map _

theorem map_dados_filter (l : List PredictiveProtectionCandidate) (m : PredictiveMaterialityStatus) :
    (l.filter (·.materiality = m)).map (·.entrada.dados) =
      ((l.map fun c => (c.entrada.dados, c.materiality)).filter (·.2 = m)).map (·.1) := by
  rw [List.filter_map, List.map_map]
  rfl

theorem SemHomonimos.perm (hsem : SemHomonimos assertiveness evaluation approvalBinding
    conflictAssessment at_ requiredScope candidates) (h : candidates'.Perm candidates) :
    SemHomonimos assertiveness evaluation approvalBinding conflictAssessment at_ requiredScope
      candidates' where
  comparable := fun e he => hsem.comparable e (h.mem_iff.mp he)
  same := fun a ha b hb hsa hsb hexclude c hc =>
    hsem.same a (h.mem_iff.mp ha) b (h.mem_iff.mp hb) hsa hsb hexclude c (h.mem_iff.mp hc)

theorem final_identifier (cs : List PredictiveProtectionCandidate)
    (c : PredictiveProtectionCandidate) : (final cs c).identifier = c.identifier := by
  by_cases hin : c.identifier ∈ idsIncompativeis (aceitos cs)
  · obtain ⟨outro, -, hid, hall⟩ := exists_final hin
    rw [hall c rfl]
    exact hid
  · rw [final_of_not_mem hin]

/-- Where nobody is lost, the candidates of an incompatible identifier are one. -/
theorem dados_of_once (honce : ((finais cs).map (·.entrada.dados)).Perm (candidates.map (·.dados)))
    {i : Texto} (hi : i ∈ idsIncompativeis (aceitos cs)) : ∃ d, ∀ e ∈ candidates,
      e.identifier = i → e.dados = d := by
  obtain ⟨outro, -, -, hall⟩ := exists_final hi
  refine ⟨outro.entrada.dados, fun e he hid => ?_⟩
  have hin := honce.mem_iff.mpr (List.mem_map_of_mem he)
  rw [finais_eq_map, List.map_map, List.mem_map] at hin
  obtain ⟨c, -, hdados⟩ := hin
  have hsame : (final cs c).identifier = e.identifier := congrArg Prod.fst hdados
  rw [final_identifier, hid] at hsame
  rw [← hdados, Function.comp_apply, hall c hsame]
  rfl

/-- A set in which nobody is lost or taken for another has no homonyms. -/
theorem semHomonimos_of_reparte {s : PredictiveProtectionSet}
    (hs : predictiveProtectionSet candidates assertiveness evaluation approvalBinding
      conflictAssessment at_ requiredScope requiredIdentifiers inventoryReference = .ok s)
    (hreparte : Reparte assertiveness evaluation approvalBinding conflictAssessment at_ requiredScope
      requiredIdentifiers inventoryReference candidates s) :
    SemHomonimos assertiveness evaluation approvalBinding conflictAssessment at_ requiredScope
      candidates := by
  obtain ⟨cs, hmap, rfl⟩ := protectionSet_eq_ok.mp hs
  have hcs := classificados_of_mapM hmap
  refine ⟨hcs.comparable, fun a ha b hb hsa hsb hexclude c hc hid => ?_⟩
  have honce : ((finais cs).map (·.entrada.dados)).Perm (candidates.map (·.dados)) :=
    ((classes_perm (finais cs)).map _).symm.trans hreparte.once
  have hof : ∀ e ∈ candidates, ∃ x ∈ cs, x.entrada = e := fun e he =>
    List.mem_map.mp (hcs.entradas ▸ he)
  obtain ⟨x, hx, rfl⟩ := hof a ha
  obtain ⟨y, hy, rfl⟩ := hof b hb
  have hi : x.identifier ∈ idsIncompativeis (aceitos cs) := mem_idsIncompativeis.mpr
    ⟨x, mem_aceitos.mpr ⟨hx, (hcs.supported x hx).mpr hsa⟩, rfl, y,
      mem_aceitos.mpr ⟨hy, (hcs.supported y hy).mpr hsb⟩, hexclude.symm⟩
  obtain ⟨d, hd⟩ := dados_of_once honce hi
  exact (hd c hc hid).trans (hd x.entrada ha rfl).symm

/-- The set of protective candidates places each of them once, whatever the order, exactly when
their authorities can be judged and nobody who is incompatible has a homonym. -/
theorem protection_partition : (∃ s, predictiveProtectionSet candidates assertiveness evaluation
      approvalBinding conflictAssessment at_ requiredScope requiredIdentifiers inventoryReference =
        .ok s ∧ Reparte assertiveness evaluation approvalBinding conflictAssessment at_ requiredScope
          requiredIdentifiers inventoryReference candidates s) ↔
    SemHomonimos assertiveness evaluation approvalBinding conflictAssessment at_ requiredScope
      candidates := by
  constructor
  · rintro ⟨s, hs, hreparte⟩
    exact semHomonimos_of_reparte hs hreparte
  · intro hsem
    have hall : ∃ cs, candidates.mapM (classificar assertiveness evaluation approvalBinding
        conflictAssessment at_ requiredScope) = .ok cs := exists_mapM hsem.comparable
    obtain ⟨cs, hmap⟩ := hall
    have hcs := classificados_of_mapM hmap
    refine ⟨_, protectionSet_eq_ok.mpr ⟨cs, hmap, rfl⟩, ?_, ?_, ?_, ?_⟩
    · refine ((classes_perm (finais cs)).map _).trans (.of_eq ?_)
      have hpairs := congrArg (List.map Prod.fst) (finais_desfechos hcs hsem)
      rw [List.map_map, List.map_map] at hpairs
      rw [← hcs.entradas, List.map_map]
      exact hpairs
    · intro candidates' hperm
      obtain ⟨cs', hmap', hcsperm⟩ := classificados_perm hmap hperm
      refine ⟨_, protectionSet_eq_ok.mpr ⟨cs', hmap', rfl⟩, fun m => ?_⟩
      have hclass : (((finais cs').filter (·.materiality = m)).map (·.entrada.dados)).Perm
          (((finais cs).filter (·.materiality = m)).map (·.entrada.dados)) := by
        rw [map_dados_filter, map_dados_filter, finais_desfechos hcs hsem,
          finais_desfechos (classificados_of_mapM hmap') (hsem.perm hperm)]
        exact ((desfechos_perm hcsperm).filter _).map _
      cases m with
      | supported => exact hclass
      | notSupported => exact hclass
      | unresolved => exact hclass
    · intro a ha b hb hexclude
      obtain ⟨ha, hnot⟩ := accepted_of_mem ha
      exact hnot (mem_idsIncompativeis.mpr ⟨a, ha, rfl, b, (accepted_of_mem hb).1, .inr hexclude⟩)
    · intro a ha
      obtain ⟨hin, hsupported⟩ := mem_aceitos.mp (accepted_of_mem ha).1
      have hsustenta := (hcs.supported a hin).mp hsupported
      exact ⟨(autoridade_of_sem_falha hsustenta.authority).1, hsustenta.authority⟩

end Partition

/-! ## A homonym -/

theorem umMicro_inRange : datetimeMin ≤ 1 ∧ 1 ≤ datetimeMax := by decide

/-- A microsecond after the epoch. -/
def umMicro : Datetime where
  wall := 1
  offset := 0
  wall_inRange := umMicro_inRange
  offset_bound := Datetime.epoch.offset_bound

def autoridadeDaProtecao : PredictiveMaterialityAuthority where
  reference := Texto.of "approval-7"
  authority := Texto.of "a"
  jurisdiction := Texto.of "br"
  version := 1
  scope := []
  validFrom := some (.ciente Datetime.epoch)
  validUntil := some (.ciente umMicro)

theorem sem_exclusoes (t : Texto) : t ∉ ([] : List Texto) ∧ ([] : List Texto).Nodup :=
  ⟨List.not_mem_nil, List.nodup_nil⟩

theorem preenchido_da_protecao : Texto.of "a" ≠ [] ∧ Texto.of "x" ≠ [] ∧ Texto.of "p" ≠ [] := by
  decide

theorem preenchido_do_homonimo : Texto.of "a" ≠ [] ∧ Texto.of "y" ≠ [] ∧ Texto.of "p" ≠ [] := by
  decide

theorem preenchido_do_excludente : Texto.of "b" ≠ [] ∧ Texto.of "x" ≠ [] ∧ Texto.of "p" ≠ [] := by
  decide

theorem exclui_outro : Texto.of "b" ∉ [Texto.of "a"] ∧ [Texto.of "a"].Nodup := by decide

def protecao : PredictiveProtectionCandidateInput where
  identifier := Texto.of "a"
  reason := Texto.of "x"
  provenance := Texto.of "p"
  materialEffectClaimed := true
  authority := some autoridadeDaProtecao
  owner := some (Texto.of "o")
  timeWindow := some (Texto.of "w")
  reversibility := some (Texto.of "v")
  triggers := [Texto.of "t"]
  incompatibleWith := []
  preenchido := preenchido_da_protecao
  consistente := sem_exclusoes _

/-- Excludes the first one. -/
def excludente : PredictiveProtectionCandidateInput where
  identifier := Texto.of "b"
  reason := Texto.of "x"
  provenance := Texto.of "p"
  materialEffectClaimed := true
  authority := some autoridadeDaProtecao
  owner := some (Texto.of "o")
  timeWindow := some (Texto.of "w")
  reversibility := some (Texto.of "v")
  triggers := [Texto.of "t"]
  incompatibleWith := [Texto.of "a"]
  preenchido := preenchido_do_excludente
  consistente := exclui_outro

/-- Another candidate with the identifier of the first, which claims no effect. -/
def homonimo : PredictiveProtectionCandidateInput where
  identifier := Texto.of "a"
  reason := Texto.of "y"
  provenance := Texto.of "p"
  materialEffectClaimed := false
  authority := none
  owner := none
  timeWindow := none
  reversibility := none
  triggers := []
  incompatibleWith := []
  preenchido := preenchido_do_homonimo
  consistente := sem_exclusoes _

theorem aprovacaoDaProtecao_valida : primeira
    [validarReferenciaOpaca "approval_reference" (Texto.of "approval-7"),
      validarInteiroPositivo "approval_version" 1, validarEscopo "approval_scope" [Texto.of "predictive"],
      (some (Texto.of "br")).bind (validarReferenciaOpaca "approval_jurisdiction")] = none := by
  decide +kernel

def aprovacaoDaProtecao : ApprovalBinding :=
  { aprovacaoExemplo with
    approvalJurisdiction := some (Texto.of "br")
    valido := aprovacaoDaProtecao_valida }

def semConflito : PredictiveConflictAssessment := predictiveConflictAssessment [] []

theorem assertividade_obrigatorios : Texto.of "c" ≠ [] ∧ Texto.of "d" ≠ [] := by decide

def assertividadeExemplo : PredictiveAssertiveness where
  candidateConclusion := Texto.of "c"
  decisiveConstraint := Texto.of "d"
  uncertainty := avaliacaoExemplo.uncertainty
  authorityState := .authorized
  nextGovernedRoute := .predict
  reviewOrStopTrigger := ""
  conflictAssessment := semConflito
  obrigatorios := assertividade_obrigatorios

/-- What `predictive_protection_set` is asked with. -/
theorem sustenta_exemplo {e : PredictiveProtectionCandidateInput}
    (hclaimed : e.materialEffectClaimed = true) (hautoridade : e.authority = some autoridadeDaProtecao)
    (hoperavel : e.Operavel) : Sustenta assertividadeExemplo avaliacaoExemplo (some aprovacaoDaProtecao)
      semConflito (.ciente Datetime.epoch) [] e where
  claimed := hclaimed
  authority := by
    rw [hautoridade]
    decide +kernel
  noConflict := rfl
  authorized := rfl
  operable := hoperavel

/-- A rejected candidate with the identifier of one that is incompatible is lost. -/
theorem homonym_lost : ¬ ∀ (assertiveness : PredictiveAssertiveness)
    (evaluation : PredictiveClaimEvaluationResult) (approvalBinding : Option ApprovalBinding)
    (conflictAssessment : PredictiveConflictAssessment) (at_ : Momento)
    (requiredScope requiredIdentifiers : List Texto) (inventoryReference : Option Texto)
    (candidates : List PredictiveProtectionCandidateInput) (s : PredictiveProtectionSet),
    predictiveProtectionSet candidates assertiveness evaluation approvalBinding conflictAssessment
      at_ requiredScope requiredIdentifiers inventoryReference = .ok s →
    Reparte assertiveness evaluation approvalBinding conflictAssessment at_ requiredScope
      requiredIdentifiers inventoryReference candidates s := by
  intro hall
  have hok : (predictiveProtectionSet [protecao, excludente, homonimo] assertividadeExemplo
      avaliacaoExemplo (some aprovacaoDaProtecao) semConflito (.ciente Datetime.epoch) [] [] none).isOk =
        true := by decide +kernel
  cases hs : predictiveProtectionSet [protecao, excludente, homonimo] assertividadeExemplo
      avaliacaoExemplo (some aprovacaoDaProtecao) semConflito (.ciente Datetime.epoch) [] [] none with
  | error e =>
    rw [hs] at hok
    cases hok
  | ok s =>
    have hsem := semHomonimos_of_reparte hs (hall _ _ _ _ _ _ _ _ _ _ hs)
    have hsame := hsem.same protecao (by simp) excludente (by simp)
      (sustenta_exemplo rfl rfl (by decide)) (sustenta_exemplo rfl rfl (by decide)) (by decide)
      homonimo (by simp) rfl
    have hreason : Texto.of "y" = Texto.of "x" := congrArg (·.2.1) hsame
    exact absurd hreason (by decide)

end PiaOs.Predictive
