import Mathlib.Data.List.Duplicate
import PiaOs.Integrity.Audit
import PiaOs.Support.Checked

/-!
# What the audit reports

Each code names one property of the tables. The report holds a finding of a code exactly when the
tables break its property.
-/

namespace PiaOs.Integrity

open Support

/-! ## The properties -/

namespace Patrimonio

variable {Id : Type} [LinearOrder Id]

def Existe (p : Patrimonio Id) (coid : Id) : Prop := ∃ o ∈ p.objects, o.coid = coid

/-- The first object is a parent of the second. -/
def Linhagem (p : Patrimonio Id) (parent child : Id) : Prop :=
  ∃ e ∈ p.lineage, e.parentCoid = parent ∧ e.childCoid = child

/-- The second event is declared before the first. -/
def Causa (p : Patrimonio Id) (event predecessor : Id) : Prop :=
  ∃ e ∈ p.events, e.id = event ∧ e.predecessorEventId = some predecessor

/-- The triples of the active relationships. -/
def triplasAtivas (p : Patrimonio Id) : List (Id × Id × String) :=
  (p.relationships.filter fun r => !r.retired).map IntegrityRepository.tripla

/-- The identities of the objects that are `CURRENT`. -/
def clidsCorrentes (p : Patrimonio Id) : List Id :=
  (p.objects.filter fun o => o.revisionStatus = some "current").filterMap (·.clid)

/-- The property that a code names is broken. -/
def Viola (p : Patrimonio Id) : IntegrityCode → Prop
  | .lineageCycle => ∃ coid, Relation.TransGen p.Linhagem coid coid
  | .lineageSelfLink => ∃ e ∈ p.lineage, e.parentCoid = e.childCoid
  | .lineageDanglingEndpoint =>
    ∃ e ∈ p.lineage, ¬p.Existe e.parentCoid ∨ ¬p.Existe e.childCoid
  | .relationshipSelfLink => ∃ r ∈ p.relationships, r.sourceCoid = r.targetCoid
  | .relationshipNonCanonicalSymmetric =>
    ∃ r ∈ p.relationships, r.relationshipType = "related_to" ∧ r.targetCoid ≤ r.sourceCoid
  | .relationshipDuplicateActive => ∃ triple, p.triplasAtivas.Duplicate triple
  | .relationshipDanglingEndpoint =>
    ∃ r ∈ p.relationships, ¬p.Existe r.sourceCoid ∨ ¬p.Existe r.targetCoid
  | .versionMultipleCurrentPerClid => ∃ clid, p.clidsCorrentes.Duplicate clid
  | .transformationDanglingActorRef =>
    ∃ t ∈ p.transformations, ∃ ref, t.actorRef = some ref ∧ ∀ r ∈ p.provenance, r.id ≠ ref
  | .identityInvalidAccessibilityState =>
    ∃ o ∈ p.objects, o.accessibility ∉ accessibilityStates
  | .provenanceDanglingCoid => ∃ r ∈ p.provenance, ¬p.Existe r.coid
  | .causalCycle => ∃ event, Relation.TransGen p.Causa event event
  | .causalSelfPredecessor => ∃ e ∈ p.events, e.predecessorEventId = some e.id
  | .causalMultipleHistoriesPerSubject =>
    ∃ subject, (p.histories.map (·.subjectCoid)).Duplicate subject
  | .causalDanglingReference =>
    (∃ h ∈ p.histories, ¬p.Existe h.subjectCoid) ∨
      ∃ e ∈ p.events, ∃ before, e.predecessorEventId = some before ∧ ∀ o ∈ p.events, o.id ≠ before

end Patrimonio

/-! ## Findings of a code -/

variable {Id : Type}

/-- The report holds a finding of the code. -/
def Traz (findings : List (IntegrityFinding Id)) (code : IntegrityCode) : Prop :=
  ∃ f ∈ findings, f.code = code

theorem traz_nil (code : IntegrityCode) : ¬Traz ([] : List (IntegrityFinding Id)) code := by
  rintro ⟨f, hf, -⟩
  cases hf

theorem traz_append {left right : List (IntegrityFinding Id)} {code : IntegrityCode} :
    Traz (left ++ right) code ↔ Traz left code ∨ Traz right code := by
  unfold Traz
  constructor
  · rintro ⟨f, hf, hcode⟩
    rcases List.mem_append.mp hf with hleft | hright
    · exact Or.inl ⟨f, hleft, hcode⟩
    · exact Or.inr ⟨f, hright, hcode⟩
  · rintro (⟨f, hf, hcode⟩ | ⟨f, hf, hcode⟩)
    · exact ⟨f, List.mem_append_left _ hf, hcode⟩
    · exact ⟨f, List.mem_append_right _ hf, hcode⟩

theorem traz_singleton {f : IntegrityFinding Id} {code : IntegrityCode} :
    Traz [f] code ↔ code = f.code := by
  unfold Traz
  constructor
  · rintro ⟨g, hg, rfl⟩
    rw [List.mem_singleton.mp hg]
  · intro h
    exact ⟨f, List.mem_singleton_self f, h.symm⟩

/-- A query that found rows brings its finding and nothing else. -/
theorem traz_seHouver {α : Type} {itens : List α} {f : IntegrityFinding Id}
    {code : IntegrityCode} :
    Traz (seHouver itens f) code ↔ code = f.code ∧ ∃ item, item ∈ itens := by
  unfold seHouver
  cases itens with
  | nil =>
    have hnil : ¬Traz ([] : List (IntegrityFinding Id)) code := traz_nil code
    simpa using hnil
  | cons first rest =>
    have hthere : ∃ item, item ∈ first :: rest := ⟨first, List.mem_cons_self⟩
    simp only [List.isEmpty_cons, Bool.false_eq_true, if_false, traz_singleton, hthere, and_true]

/-! ## What each query finds -/

theorem lineage_pairs {p : Patrimonio Id} (v w : Id) :
    (v, w) ∈ (IntegrityRepository.lineageEdges p).map (·.2) ↔ p.Linhagem v w := by
  unfold IntegrityRepository.lineageEdges Patrimonio.Linhagem
  simp [Prod.ext_iff]

theorem causal_pairs {p : Patrimonio Id} (v w : Id) :
    (v, w) ∈ IntegrityRepository.causalEdges p ↔ p.Causa v w := by
  unfold IntegrityRepository.causalEdges Patrimonio.Causa
  constructor
  · intro h
    obtain ⟨e, he, hpair⟩ := List.mem_filterMap.mp h
    obtain ⟨before, hbefore, heq⟩ := Option.map_eq_some_iff.mp hpair
    cases heq
    exact ⟨e, he, rfl, hbefore⟩
  · rintro ⟨e, he, rfl, hbefore⟩
    exact List.mem_filterMap.mpr ⟨e, he, by rw [hbefore]; rfl⟩

section
variable [LinearOrder Id] {p : Patrimonio Id}

/-- The groups of more than one row are those of the repeated values. -/
theorem mem_repetidos {α : Type} [DecidableEq α] {xs : List α} {par : α × ℕ} :
    par ∈ repetidos xs ↔ xs.Duplicate par.1 ∧ par.2 = xs.count par.1 := by
  unfold repetidos
  rw [List.mem_filter, List.mem_map]
  constructor
  · rintro ⟨⟨x, -, rfl⟩, hmany⟩
    have htwo : 1 < xs.count x := by simpa using hmany
    exact ⟨List.duplicate_iff_two_le_count.mpr htwo, rfl⟩
  · rintro ⟨hdup, hcount⟩
    have htwo := List.duplicate_iff_two_le_count.mp hdup
    constructor
    · exact ⟨par.1, List.mem_dedup.mpr hdup.mem, Prod.ext rfl hcount.symm⟩
    · rw [hcount, decide_eq_true_eq]
      omega

theorem mem_repetidos_count {α : Type} [DecidableEq α] {xs : List α} {x : α}
    (h : xs.Duplicate x) : (x, xs.count x) ∈ repetidos xs :=
  mem_repetidos.mpr ⟨h, rfl⟩

theorem exists_mem_repetidos {α : Type} [DecidableEq α] {xs : List α} :
    (∃ par, par ∈ repetidos xs) ↔ ∃ x, xs.Duplicate x := by
  constructor
  · rintro ⟨par, hpar⟩
    exact ⟨par.1, (mem_repetidos.mp hpar).1⟩
  · rintro ⟨x, hx⟩
    exact ⟨(x, xs.count x), mem_repetidos_count hx⟩

/-- The table of a list of edges has exactly these edges. -/
theorem edge_adjacency {edges : List (Id × Id)} {v w : Id} :
    (IntegrityManager.adjacency edges).Edge v w ↔ (v, w) ∈ edges := by
  have hfold : ∀ adj : Adjacency Id,
      (edges.foldl (fun adj edge => (adj.link edge.1 [edge.2]).link edge.2 []) adj).Edge v w ↔
        adj.Edge v w ∨ (v, w) ∈ edges := by
    induction edges with
    | nil =>
      intro adj
      simp
    | cons edge rest ih =>
      intro adj
      rw [List.foldl_cons, ih, Adjacency.edge_link, Adjacency.edge_link]
      simp only [List.mem_cons, Prod.ext_iff, List.not_mem_nil, and_false, or_false, or_assoc]
  have hempty : ¬Adjacency.Edge ([] : Adjacency Id) v w := by
    simp [Adjacency.Edge, Adjacency.neighbours]
  unfold IntegrityManager.adjacency
  rw [hfold]
  simp only [hempty, false_or]

/-- A cycle is found exactly when the relation of the edges has one. -/
theorem findCycle_isSome {edges : List (Id × Id)} {rel : Id → Id → Prop}
    (h : ∀ v w, (v, w) ∈ edges ↔ rel v w) :
    (IntegrityManager.adjacency edges).findCycle.isSome = true ↔
      ∃ v, Relation.TransGen rel v v := by
  have hrel : (IntegrityManager.adjacency edges).Edge = rel := by
    funext v w
    rw [eq_iff_iff, edge_adjacency, h]
  have hnone : (IntegrityManager.adjacency edges).findCycle = none ↔
      (IntegrityManager.adjacency edges).Acyclic := Adjacency.findCycle_eq_none_iff
  unfold Adjacency.Acyclic at hnone
  rw [hrel] at hnone
  rw [← Option.ne_none_iff_isSome, Ne, hnone, not_forall]
  simp only [not_not]

theorem exists_mem_dangling {α : Type} {rows : List α} {column idColumn : α → Id} :
    (∃ id, id ∈ IntegrityRepository.dangling p rows column idColumn) ↔
      ∃ row ∈ rows, ¬p.Existe (column row) := by
  unfold IntegrityRepository.dangling Patrimonio.Existe
  simp

/-! ## What each area reports -/

/-- The findings of an area are those of its codes, each when its property is broken. -/
def Area (area : IntegrityCategory) (p : Patrimonio Id) (findings : List (IntegrityFinding Id)) :
    Prop :=
  ∀ code, Traz findings code ↔ code.category = area ∧ p.Viola code

/-- An area with one code. -/
theorem area_seHouver {α : Type} {itens : List α} {own : IntegrityCode}
    {entityType message : String} {entityRefs : List Id} {evidence : List (String × Json)} {area : IntegrityCategory}
    (hcategory : ∀ code : IntegrityCode, code.category = area ↔ code = own)
    (hitens : (∃ item, item ∈ itens) ↔ p.Viola own) :
    Area area p (seHouver itens (achado own entityType message entityRefs evidence)) := by
  intro code
  rw [traz_seHouver, hitens, hcategory]
  constructor
  · rintro ⟨rfl, hviola⟩
    exact ⟨rfl, hviola⟩
  · rintro ⟨rfl, hviola⟩
    exact ⟨rfl, hviola⟩

theorem auditLineage_area (str : Id → String) :
    Area .lineage p (IntegrityManager.auditLineage str p) := by
  have hcycle : _ ↔ p.Viola .lineageCycle := findCycle_isSome lineage_pairs
  have hself : (∃ id, id ∈ IntegrityRepository.lineageSelfLinks p) ↔
      p.Viola .lineageSelfLink := by
    unfold IntegrityRepository.lineageSelfLinks Patrimonio.Viola
    simp
  have hdangling : (∃ id, id ∈ IntegrityRepository.lineageDanglingEndpoints p) ↔
      p.Viola .lineageDanglingEndpoint := by
    unfold IntegrityRepository.lineageDanglingEndpoints Patrimonio.Viola
    simp only [List.mem_append, exists_or, exists_mem_dangling, and_or_left]
  intro code
  cases hfind : (IntegrityManager.adjacency
    ((IntegrityRepository.lineageEdges p).map (·.2))).findCycle with
  | none =>
    have hnone : ¬p.Viola .lineageCycle := by
      rw [← hcycle, hfind]
      exact Bool.false_ne_true
    simp only [IntegrityManager.auditLineage, hfind, traz_append, traz_seHouver, achado, hself,
      hdangling]
    cases code <;> simp [IntegrityCode.category, hnone, traz_nil]
  | some cycle =>
    have hsome : p.Viola .lineageCycle := by
      rw [← hcycle, hfind]
      rfl
    simp only [IntegrityManager.auditLineage, hfind, traz_append, traz_seHouver, traz_singleton,
      achado, hself, hdangling]
    cases code <;> simp [IntegrityCode.category, hsome]

theorem auditCausalHistory_area (str : Id → String) :
    Area .causalHistory p (IntegrityManager.auditCausalHistory str p) := by
  have hcycle : _ ↔ p.Viola .causalCycle := findCycle_isSome causal_pairs
  have hself : (∃ id, id ∈ IntegrityRepository.causalSelfPredecessors p) ↔
      p.Viola .causalSelfPredecessor := by
    unfold IntegrityRepository.causalSelfPredecessors Patrimonio.Viola
    simp
  have hsubjects : (∃ par, par ∈ IntegrityRepository.subjectsWithMultipleHistories p) ↔
      p.Viola .causalMultipleHistoriesPerSubject := by
    unfold IntegrityRepository.subjectsWithMultipleHistories
    simp only [List.mem_mergeSort, exists_mem_repetidos]
    rfl
  have hdangling : (∃ id, id ∈ IntegrityRepository.causalDanglingSubjects p ++
      IntegrityRepository.causalDanglingPredecessors p) ↔ p.Viola .causalDanglingReference := by
    unfold IntegrityRepository.causalDanglingSubjects IntegrityRepository.causalDanglingPredecessors
    simp only [List.mem_append, exists_or, exists_mem_dangling]
    unfold Patrimonio.Viola
    simp [Option.any_eq_true]
  intro code
  cases hfind : (IntegrityManager.adjacency (IntegrityRepository.causalEdges p)).findCycle with
  | none =>
    have hnone : ¬p.Viola .causalCycle := by
      rw [← hcycle, hfind]
      exact Bool.false_ne_true
    simp only [IntegrityManager.auditCausalHistory, hfind, traz_append, traz_seHouver, achado,
      hself, hsubjects, hdangling]
    cases code <;> simp [IntegrityCode.category, hnone, traz_nil]
  | some cycle =>
    have hsome : p.Viola .causalCycle := by
      rw [← hcycle, hfind]
      rfl
    simp only [IntegrityManager.auditCausalHistory, hfind, traz_append, traz_seHouver,
      traz_singleton, achado, hself, hsubjects, hdangling]
    cases code <;> simp [IntegrityCode.category, hsome]

theorem auditVersions_area (str : Id → String) :
    Area .version p (IntegrityManager.auditVersions str p) := by
  refine area_seHouver (by intro code; cases code <;> simp [IntegrityCode.category]) ?_
  unfold IntegrityRepository.clidsWithMultipleCurrent
  simp only [List.mem_mergeSort, exists_mem_repetidos]
  rfl

theorem auditTransformations_area :
    Area .transformation p (IntegrityManager.auditTransformations p) := by
  refine area_seHouver (by intro code; cases code <;> simp [IntegrityCode.category]) ?_
  unfold IntegrityRepository.transformationDanglingActorRefs
  show _ ↔ p.Viola .transformationDanglingActorRef
  unfold Patrimonio.Viola
  simp [Option.any_eq_true]

theorem auditProvenance_area : Area .provenance p (IntegrityManager.auditProvenance p) :=
  area_seHouver (by intro code; cases code <;> simp [IntegrityCode.category]) exists_mem_dangling

theorem auditIdentity_area (str : Id → String) :
    Area .identity p (IntegrityManager.auditIdentity str p) := by
  refine area_seHouver (by intro code; cases code <;> simp [IntegrityCode.category]) ?_
  unfold IntegrityRepository.invalidAccessibilityStates
  show _ ↔ p.Viola .identityInvalidAccessibilityState
  unfold Patrimonio.Viola
  simp

/-! ## Relationships -/

/-- The type of each repeated triple belongs to the vocabulary. -/
def TiposLegiveis (p : Patrimonio Id) : Prop :=
  ∀ triple, p.triplasAtivas.Duplicate triple → triple.2.2 ∈ relationshipTypes

/-- The repeated triples load exactly when their types belong to the vocabulary. -/
theorem duplicateActiveRelationships_eq_ok {rows : List ((Id × Id × String) × ℕ)} :
    IntegrityRepository.duplicateActiveRelationships p = .ok rows ↔
      TiposLegiveis p ∧ rows = IntegrityRepository.triplasRepetidas p := by
  have hlinha : ∀ x y : (Id × Id × String) × ℕ,
      ((if x.1.2.2 ∈ relationshipTypes then .ok x else .error x.1.2.2 : Except String _) = .ok y ↔
        x.1.2.2 ∈ relationshipTypes ∧ x = y) := by
    intro x y
    by_cases htipo : x.1.2.2 ∈ relationshipTypes
    · simp [htipo]
    · simp [htipo]
  unfold IntegrityRepository.duplicateActiveRelationships
  rw [mapM_eq_ok]
  simp only [hlinha]
  rw [List.forall₂_and_left]
  constructor
  · rintro ⟨htipos, hsame⟩
    constructor
    · intro triple hdup
      exact htipos _ (mem_repetidos_count hdup)
    · exact (List.forall₂_eq_eq_eq ▸ hsame : IntegrityRepository.triplasRepetidas p = rows).symm
  · rintro ⟨htipos, rfl⟩
    constructor
    · intro par hpar
      exact htipos par.1 (mem_repetidos.mp hpar).1
    · rw [List.forall₂_eq_eq_eq]

theorem auditRelationships_area {str : Id → String} {findings : List (IntegrityFinding Id)}
    (h : IntegrityManager.auditRelationships str p = .ok findings) :
    Area .relationship p findings := by
  have hself : (∃ id, id ∈ IntegrityRepository.relationshipSelfLinks p) ↔
      p.Viola .relationshipSelfLink := by
    unfold IntegrityRepository.relationshipSelfLinks Patrimonio.Viola
    simp
  have hsymmetric : (∃ id, id ∈ IntegrityRepository.nonCanonicalSymmetricRelationships p) ↔
      p.Viola .relationshipNonCanonicalSymmetric := by
    unfold IntegrityRepository.nonCanonicalSymmetricRelationships Patrimonio.Viola
    simp [and_assoc]
  have hduplicate : (∃ row, row ∈ IntegrityRepository.triplasRepetidas p) ↔
      p.Viola .relationshipDuplicateActive := exists_mem_repetidos
  have hdangling : (∃ id, id ∈ IntegrityRepository.relationshipDanglingEndpoints p) ↔
      p.Viola .relationshipDanglingEndpoint := by
    unfold IntegrityRepository.relationshipDanglingEndpoints Patrimonio.Viola
    simp only [List.mem_append, exists_or, exists_mem_dangling, and_or_left]
  unfold IntegrityManager.auditRelationships at h
  obtain ⟨rows, hrows, hreport⟩ := bind_eq_ok.mp h
  obtain ⟨-, rfl⟩ := duplicateActiveRelationships_eq_ok.mp hrows
  cases hreport
  intro code
  simp only [traz_append, traz_seHouver, achado, hself, hsymmetric, hduplicate, hdangling]
  cases code <;> simp [IntegrityCode.category]

/-- The relationships are audited exactly when the repeated triples load. -/
theorem auditRelationships_ok (str : Id → String) :
    (∃ findings, IntegrityManager.auditRelationships str p = .ok findings) ↔ TiposLegiveis p := by
  unfold IntegrityManager.auditRelationships
  constructor
  · rintro ⟨findings, h⟩
    obtain ⟨rows, hrows, -⟩ := bind_eq_ok.mp h
    exact (duplicateActiveRelationships_eq_ok.mp hrows).1
  · intro h
    rw [duplicateActiveRelationships_eq_ok.mpr ⟨h, rfl⟩]
    exact ⟨_, rfl⟩

end

/-! ## The report -/

/-- The audit returns, and reports exactly the codes whose property is broken. -/
def Auditado [LinearOrder Id] (str : Id → String) (p : Patrimonio Id) : Prop :=
  ∃ findings, IntegrityManager.audit str p = .ok findings ∧
    ∀ code, Traz findings code ↔ p.Viola code

/-- The audit is sound and complete exactly on the contents whose repeated active triples have a
type of the vocabulary. -/
theorem audit_exact [LinearOrder Id] (str : Id → String) (p : Patrimonio Id) :
    Auditado str p ↔ TiposLegiveis p := by
  unfold Auditado IntegrityManager.audit
  rw [← auditRelationships_ok str]
  constructor
  · rintro ⟨findings, hreport, -⟩
    obtain ⟨relationships, hrelationships, -⟩ := bind_eq_ok.mp hreport
    exact ⟨relationships, hrelationships⟩
  · rintro ⟨relationships, hrelationships⟩
    rw [hrelationships]
    have hrelated := auditRelationships_area hrelationships
    refine ⟨_, rfl, ?_⟩
    intro code
    simp only [traz_append, auditLineage_area str code, hrelated code, auditVersions_area str code,
      auditTransformations_area code, auditProvenance_area code, auditCausalHistory_area str code,
      auditIdentity_area str code, ← or_and_right]
    cases code <;> simp [IntegrityCode.category]

/-- Two active relationships from one object to another, with a type that the vocabulary does not
have. -/
def relacaoSubstitui : Patrimonio ℕ where
  objects := [⟨1, none, "active", none⟩, ⟨2, none, "active", none⟩]
  lineage := []
  relationships := [⟨3, 1, 2, "replaces", false⟩, ⟨4, 1, 2, "replaces", false⟩]
  transformations := []
  provenance := []
  histories := []
  events := []

/-- The audit of a repeated triple with an unknown type does not return. -/
theorem audit_tipo_desconhecido : ¬Auditado toString relacaoSubstitui := by
  have herror : IntegrityManager.audit toString relacaoSubstitui = .error "replaces" := rfl
  rintro ⟨findings, hreport, -⟩
  rw [herror] at hreport
  cases hreport

end PiaOs.Integrity
