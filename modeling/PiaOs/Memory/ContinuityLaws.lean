import PiaOs.Memory.Continuity
import PiaOs.Memory.ConsolidationLaws

/-!
# Exact assessments

Over rows that can be read, an assessment shows each recorded fact once and nothing else. The
value objects then refuse nothing, and the order of what they show is that of their texts.
-/

namespace PiaOs.Memory.Continuity

open Support Piap Transactions Continuity.ContinuityEvidenceRepository

/-! ## The order of the evidence -/

/-- The code points of a key. -/
def pontos (textos : List Texto) : List (List ℕ) := textos.map (List.map CodePoint.ord)

theorem textosAntes_iff {as bs : List Texto} :
    textosAntes as bs = true ↔ pontos as < pontos bs := by
  induction as generalizing bs with
  | nil =>
    cases bs with
    | nil => simp [textosAntes, pontos]
    | cons b bs => simp [textosAntes, pontos]
  | cons a as ih =>
    cases bs with
    | nil => simp [textosAntes, pontos]
    | cons b bs =>
      have hhead : (a == b) = true ↔ a.map CodePoint.ord = b.map CodePoint.ord := by
        rw [beq_iff_eq, ord_injective.list_map.eq_iff]
      rw [textosAntes, pontos, pontos, List.map_cons, List.map_cons, List.cons_lt_cons_iff,
        Bool.or_eq_true, Bool.and_eq_true, antes_iff, hhead, ih]
      rfl

theorem textosAntes_eq_false {as bs : List Texto} :
    textosAntes bs as = false ↔ pontos as ≤ pontos bs := by
  rw [← Bool.not_eq_true, textosAntes_iff, not_lt]

theorem primeiroCampo_eq_none {checks : List (Bool × String)} :
    primeiroCampo checks = none ↔ ∀ check ∈ checks, check.1 = false := by
  simp [primeiroCampo]

/-- An evidence is well formed when each of its fields has the form that its kind asks for. -/
theorem recusado_eq_none {e : CamposDaEvidencia} :
    e.recusado = none ↔ (uuidCanonico? (Texto.of e.reference)).isSome ∧
      e.qualifier.any blank = false ∧
      e.relatedCoid.isSome = PersistenceEvidenceKind.comRelacionado e.kind ∧
      e.qualifier.isSome = PersistenceEvidenceKind.comQualificador e.kind := by
  rw [CamposDaEvidencia.recusado, primeiroCampo_eq_none]
  cases hreference : uuidCanonico? (Texto.of e.reference) <;> cases e.relatedCoid <;>
    cases e.qualifier <;> cases PersistenceEvidenceKind.comRelacionado e.kind <;>
      cases PersistenceEvidenceKind.comQualificador e.kind <;> simp

theorem kind_value_injective {k k' : PersistenceEvidenceKind} (h : k.value = k'.value) :
    k = k' := by
  revert h
  cases k <;> cases k' <;> decide

/-- The key covers every field. -/
theorem sortKey_injective {a b : PersistenceEvidence} (h : a.val.sortKey = b.val.sortKey) :
    a = b := by
  obtain ⟨⟨kind, reference, relatedCoid, qualifier⟩, ha⟩ := a
  obtain ⟨⟨kind', reference', relatedCoid', qualifier'⟩, hb⟩ := b
  obtain ⟨-, -, hrelated, hqualifier⟩ := recusado_eq_none.mp ha
  obtain ⟨-, -, hrelated', hqualifier'⟩ := recusado_eq_none.mp hb
  simp only [CamposDaEvidencia.sortKey, List.cons.injEq, and_true] at h
  obtain ⟨hkind, hreference, hcoid, htoken⟩ := h
  obtain rfl := kind_value_injective (texto_of_injective hkind)
  obtain rfl := texto_of_injective hreference
  have hsameCoid : relatedCoid = relatedCoid' := by
    have hisSome : relatedCoid.isSome = relatedCoid'.isSome := hrelated.trans hrelated'.symm
    have hstr := texto_of_injective hcoid
    cases relatedCoid <;> cases relatedCoid' <;> simp at hisSome
    · rfl
    · rw [str_injective hstr]
  have hsameToken : qualifier = qualifier' := by
    have hisSome : qualifier.isSome = qualifier'.isSome := hqualifier.trans hqualifier'.symm
    have htext := texto_of_injective htoken
    cases qualifier <;> cases qualifier' <;> simp at hisSome
    · rfl
    · exact congrArg some htext
  subst hsameCoid hsameToken
  rfl

section Order

variable {itens outros : List PersistenceEvidence} {e : PersistenceEvidence}

instance antes_total : Std.Total fun a b : PersistenceEvidence =>
    textosAntes b.val.sortKey a.val.sortKey = false where
  total a b := by
    rw [textosAntes_eq_false, textosAntes_eq_false]
    exact le_total _ _

instance antes_trans : IsTrans PersistenceEvidence fun a b =>
    textosAntes b.val.sortKey a.val.sortKey = false where
  trans a b c := by
    rw [textosAntes_eq_false, textosAntes_eq_false, textosAntes_eq_false]
    exact le_trans

theorem mem_canonicalEvidence : e ∈ canonicalEvidence itens ↔ e ∈ itens := by
  rw [canonicalEvidence, List.mem_insertionSort, List.mem_dedup]

theorem canonicalEvidence_nodup (itens : List PersistenceEvidence) :
    (canonicalEvidence itens).Nodup :=
  (List.perm_insertionSort _ _).nodup_iff.mpr (List.nodup_dedup itens)

@[simp] theorem canonicalEvidence_nil : canonicalEvidence [] = [] := rfl

/-- In the order of their texts. -/
def Ordenadas (itens : List PersistenceEvidence) : Prop :=
  itens.Pairwise fun a b => textosAntes b.val.sortKey a.val.sortKey = false

theorem ordenadas_canonicalEvidence (itens : List PersistenceEvidence) :
    Ordenadas (canonicalEvidence itens) :=
  List.pairwise_insertionSort _ _

/-- The same evidence comes in the same order. -/
theorem Ordenadas.eq (h : Ordenadas itens) (h' : Ordenadas outros) (hnodup : itens.Nodup)
    (hnodup' : outros.Nodup) (hmem : ∀ e, e ∈ itens ↔ e ∈ outros) : itens = outros := by
  have hsame : itens.Perm outros := (List.perm_ext_iff_of_nodup hnodup hnodup').mpr hmem
  refine hsame.eq_of_pairwise ?_ h h'
  intro a b _ _ hab hba
  rw [textosAntes_eq_false] at hab hba
  have hpoints : pontos a.val.sortKey = pontos b.val.sortKey := le_antisymm hab hba
  exact sortKey_injective (ord_injective.list_map.list_map hpoints)

end Order

/-- A traversal whose elements all succeed gives their results, and no others. -/
theorem exists_mapM {ε α β : Type} {f : α → Except ε β} {xs : List α}
    (h : ∀ x ∈ xs, ∃ y, f x = .ok y) :
    ∃ ys, xs.mapM f = .ok ys ∧ ∀ y, y ∈ ys ↔ ∃ x ∈ xs, f x = .ok y := by
  induction xs with
  | nil => exact ⟨[], rfl, by simp⟩
  | cons x xs ih =>
    obtain ⟨y, hy⟩ := h x List.mem_cons_self
    obtain ⟨ys, hys, hmem⟩ := ih fun x' hx' => h x' (List.mem_cons_of_mem _ hx')
    refine ⟨y :: ys, ?_, fun y' => ?_⟩
    · rw [List.mapM_cons, hy, ok_bind, hys]
      rfl
    · rw [List.mem_cons, hmem, List.exists_mem_cons_iff, hy, Except.ok.injEq]
      exact or_congr_left eq_comm

/-! ## What is recorded -/

section Facts

variable [Driver] {db : Patrimonio} {coid : Referencia} {coluna : String}

/-- A column lists the object. -/
def Cita (coid : Referencia) (coluna : String) : Prop :=
  ∃ itens, Driver.loads coluna = some (.lista itens) ∧ .texto (Texto.of coid.str) ∈ itens

/-- A column holds a list, or nothing. -/
def Lista (coluna : String) : Prop :=
  Driver.loads coluna = some .nulo ∨ ∃ itens, Driver.loads coluna = some (.lista itens)

/-- The recorded facts about the continuity of an object. -/
inductive Fato (db : Patrimonio) (coid : Referencia) : CamposDaEvidencia → Prop
  | clid {row : CognitiveObject} {clid : Referencia} (hrow : db.objects.lookup coid = some row)
      (hclid : row.clid = some clid) : Fato db coid ⟨.clid, clid.str, none, none⟩
  | lineageParent {id : Referencia} {edge : LineageEdge} (hedge : db.edges.lookup id = some edge)
      (hchild : edge.childCoid = coid) :
      Fato db coid ⟨.lineageParent, id.str, some edge.parentCoid, some edge.relationType⟩
  | lineageChild {id : Referencia} {edge : LineageEdge} (hedge : db.edges.lookup id = some edge)
      (hparent : edge.parentCoid = coid) :
      Fato db coid ⟨.lineageChild, id.str, some edge.childCoid, some edge.relationType⟩
  | transformationInput {id : Referencia} {row : TransformationRecord}
      (hrow : db.transformations.lookup id = some row) (hcites : Cita coid row.inputRefs) :
      Fato db coid ⟨.transformationInput, id.str, none, none⟩
  | transformationOutput {id : Referencia} {row : TransformationRecord}
      (hrow : db.transformations.lookup id = some row) (hcites : Cita coid row.outputRefs) :
      Fato db coid ⟨.transformationOutput, id.str, none, none⟩
  | causalEvent {id : Referencia} {event : CausalHistoryEvent} {history : CausalHistory}
      (hevent : db.events.lookup id = some event)
      (hhistory : db.histories.lookup event.historyId = some history)
      (hsubject : history.subjectCoid = coid) :
      Fato db coid ⟨.causalEvent, id.str, none, some event.eventType⟩

/-- A row records one fact of each kind. -/
theorem Fato.eq {e e' : CamposDaEvidencia} (h : Fato db coid e) (h' : Fato db coid e')
    (hkind : e.kind = e'.kind) (hreference : e.reference = e'.reference) : e = e' := by
  cases h with
  | clid hrow hclid =>
    cases h' <;> cases hkind
    case clid hrow' hclid' =>
      obtain rfl := Option.some.inj (hrow.symm.trans hrow')
      obtain rfl := Option.some.inj (hclid.symm.trans hclid')
      rfl
  | lineageParent hedge =>
    cases h' <;> cases hkind
    case lineageParent hedge' _ =>
      obtain rfl := str_injective hreference
      obtain rfl := Option.some.inj (hedge.symm.trans hedge')
      rfl
  | lineageChild hedge =>
    cases h' <;> cases hkind
    case lineageChild hedge' _ =>
      obtain rfl := str_injective hreference
      obtain rfl := Option.some.inj (hedge.symm.trans hedge')
      rfl
  | transformationInput hrow =>
    cases h' <;> cases hkind
    case transformationInput =>
      obtain rfl := str_injective hreference
      rfl
  | transformationOutput hrow =>
    cases h' <;> cases hkind
    case transformationOutput =>
      obtain rfl := str_injective hreference
      rfl
  | causalEvent hevent =>
    cases h' <;> cases hkind
    case causalEvent hevent' _ _ =>
      obtain rfl := str_injective hreference
      obtain rfl := Option.some.inj (hevent.symm.trans hevent')
      rfl

/-- The columns that an assessment reads hold what they are declared to hold: the references are
lists, and the tokens of a vocabulary are not blank. -/
structure Legivel (db : Patrimonio) (coid : Referencia) : Prop where
  inputRefs : ∀ id row, db.transformations.lookup id = some row → Lista row.inputRefs
  outputRefs : ∀ id row, db.transformations.lookup id = some row → Lista row.outputRefs
  relationType : ∀ id edge, db.edges.lookup id = some edge →
    edge.childCoid = coid ∨ edge.parentCoid = coid → blank edge.relationType = false
  eventType : ∀ id event history, db.events.lookup id = some event →
    db.histories.lookup event.historyId = some history → history.subjectCoid = coid →
    blank event.eventType = false
  revisionStatus : ∀ row, db.objects.lookup coid = some row → row.revisionStatus.any blank = false

/-! ## What the queries answer -/

omit [Driver] in
theorem contem_lista (alvo : Texto) (itens : List Valor) :
    ∃ b, contem alvo (.lista itens) = .ok b ∧ (b = true ↔ .texto alvo ∈ itens) := by
  refine ⟨_, rfl, ?_⟩
  rw [List.any_eq_true]
  constructor
  · rintro ⟨item, hitem, hsame⟩
    cases item with
    | texto t =>
      obtain rfl : t = alvo := eq_of_beq hsame
      exact hitem
    | _ => cases hsame
  · intro hmem
    exact ⟨_, hmem, beq_self_eq_true alvo⟩

/-- The answer of a column that holds a list, or nothing. -/
theorem contemNaColuna_ok (h : Lista coluna) :
    ∃ b, contemNaColuna (Texto.of coid.str) coluna = .ok b ∧ (b = true ↔ Cita coid coluna) := by
  unfold contemNaColuna Cita
  rcases h with hnull | ⟨itens, hitens⟩
  · refine ⟨false, by rw [hnull]; rfl, ?_⟩
    simp [hnull]
  · obtain ⟨b, hb, hmem⟩ := contem_lista (Texto.of coid.str) itens
    refine ⟨b, by rw [hitens]; exact hb, ?_⟩
    simp [hitens, hmem]

/-- The records that cite an object, on each side. -/
theorem transformationsCiting_ok (h : Legivel db coid) : ∃ entradas saidas,
    transformationsCiting coid db = .ok (entradas, saidas) ∧
      (∀ id, id ∈ entradas ↔ ∃ row, db.transformations.lookup id = some row ∧
        Cita coid row.inputRefs) ∧
      ∀ id, id ∈ saidas ↔ ∃ row, db.transformations.lookup id = some row ∧
        Cita coid row.outputRefs := by
  have hlinha {id : Referencia} {row : TransformationRecord}
      (hrow : db.transformations.lookup id = some row) : ∃ entrada saida,
      citacao coid (id, row) = .ok (id, entrada, saida) ∧
        (entrada = true ↔ Cita coid row.inputRefs) ∧
          (saida = true ↔ Cita coid row.outputRefs) := by
    obtain ⟨entrada, hentrada, hcitesIn⟩ := contemNaColuna_ok (h.inputRefs _ _ hrow)
    obtain ⟨saida, hsaida, hcitesOut⟩ := contemNaColuna_ok (h.outputRefs _ _ hrow)
    refine ⟨entrada, saida, ?_, hcitesIn, hcitesOut⟩
    rw [citacao, hentrada, hsaida]
    rfl
  have hall (linha : Referencia × TransformationRecord)
      (hmem : linha ∈ Memory.ContinuityEvidenceRepository.ordenadasPorId db.transformations) :
      ∃ cita, citacao coid linha = .ok cita := by
    obtain ⟨entrada, saida, hcita, -⟩ := hlinha (mem_ordenadasPorId.mp hmem)
    exact ⟨_, hcita⟩
  obtain ⟨citacoes, hcitacoes, hmem⟩ := exists_mapM hall
  have hcited {id : Referencia} {entrada saida : Bool} : (id, entrada, saida) ∈ citacoes ↔
      ∃ row, db.transformations.lookup id = some row ∧ (entrada = true ↔ Cita coid row.inputRefs) ∧
        (saida = true ↔ Cita coid row.outputRefs) := by
    rw [hmem]
    constructor
    · rintro ⟨⟨id', row⟩, hrow, hcita⟩
      have hrow' := mem_ordenadasPorId.mp hrow
      obtain ⟨entrada', saida', hcita', hin, hout⟩ := hlinha hrow'
      obtain ⟨rfl, hbools⟩ := Prod.mk.inj (Except.ok.inj (hcita'.symm.trans hcita))
      obtain ⟨rfl, rfl⟩ := Prod.mk.inj hbools
      exact ⟨row, hrow', hin, hout⟩
    · rintro ⟨row, hrow, hin, hout⟩
      obtain ⟨entrada', saida', hcita', hin', hout'⟩ := hlinha hrow
      obtain rfl : entrada = entrada' := Bool.eq_iff_iff.mpr (hin.trans hin'.symm)
      obtain rfl : saida = saida' := Bool.eq_iff_iff.mpr (hout.trans hout'.symm)
      exact ⟨(id, row), mem_ordenadasPorId.mpr hrow, hcita'⟩
  refine ⟨_, _, by rw [transformationsCiting, hcitacoes]; rfl, fun id => ?_, fun id => ?_⟩
  · rw [List.mem_map]
    constructor
    · rintro ⟨⟨id, entrada, saida⟩, hfilter, rfl⟩
      obtain ⟨hcitacao, htrue⟩ := List.mem_filter.mp hfilter
      obtain ⟨row, hrow, hin, -⟩ := hcited.mp hcitacao
      exact ⟨row, hrow, hin.mp htrue⟩
    · rintro ⟨row, hrow, hcites⟩
      obtain ⟨entrada, saida, -, hin, hout⟩ := hlinha hrow
      exact ⟨(id, entrada, saida), List.mem_filter.mpr ⟨hcited.mpr ⟨row, hrow, hin, hout⟩,
        hin.mpr hcites⟩, rfl⟩
  · rw [List.mem_map]
    constructor
    · rintro ⟨⟨id, entrada, saida⟩, hfilter, rfl⟩
      obtain ⟨hcitacao, htrue⟩ := List.mem_filter.mp hfilter
      obtain ⟨row, hrow, -, hout⟩ := hcited.mp hcitacao
      exact ⟨row, hrow, hout.mp htrue⟩
    · rintro ⟨row, hrow, hcites⟩
      obtain ⟨entrada, saida, -, hin, hout⟩ := hlinha hrow
      exact ⟨(id, entrada, saida), List.mem_filter.mpr ⟨hcited.mpr ⟨row, hrow, hin, hout⟩,
        hout.mpr hcites⟩, rfl⟩

omit [Driver] in
theorem mem_causalEvents {linha : Referencia × CausalHistoryEvent} :
    linha ∈ causalEvents coid db ↔ ∃ history, db.events.lookup linha.1 = some linha.2 ∧
      db.histories.lookup linha.2.historyId = some history ∧ history.subjectCoid = coid := by
  unfold causalEvents
  rw [List.mem_insertionSort, List.mem_filter, mem_ordenadasPorId, Option.any_eq_true]
  simp only [decide_eq_true_eq, exists_and_left]

end Facts

/-! ## The assessment -/

section Assessment

theorem new_eq_ok {e : CamposDaEvidencia} {evidence : PersistenceEvidence} :
    PersistenceEvidence.new e = .ok evidence ↔ evidence.val = e := by
  unfold PersistenceEvidence.new
  split
  case h_1 hnone =>
    rw [Except.ok.injEq, Subtype.ext_iff]
    exact eq_comm
  case h_2 campo hsome =>
    refine iff_of_false (by simp) ?_
    rintro rfl
    rw [evidence.property] at hsome
    cases hsome

/-- Rows with well formed evidence give it, and nothing else. -/
theorem evidencias_ends {ρ : Type} {campos : ρ → CamposDaEvidencia} {linhas : List ρ}
    {s : Session Patrimonio} (h : ∀ linha ∈ linhas, (campos linha).recusado = none) :
    Op.Ends (fun itens s' => s' = s ∧
      ∀ e : PersistenceEvidence, e ∈ itens ↔ ∃ linha ∈ linhas, campos linha = e.val)
      (fun _ _ => False) (evidencias campos linhas) s := by
  have hall (linha : ρ) (hlinha : linha ∈ linhas) :
      ∃ evidence, PersistenceEvidence.new (campos linha) = .ok evidence :=
    ⟨⟨campos linha, h linha hlinha⟩, new_eq_ok.mpr rfl⟩
  obtain ⟨itens, hitens, hmem⟩ := exists_mapM hall
  refine Op.Ends.lift (fun itens' hok => ⟨rfl, fun e => ?_⟩) (fun _ herror => ?_)
  · obtain rfl := Except.ok.inj (hitens.symm.trans hok)
    rw [hmem]
    simp only [new_eq_ok, eq_comm]
  · cases hitens.symm.trans herror

/-- An operation that leaves the session as it is. -/
def SoLe {α : Type} (p : Op Patrimonio Erro α) : Prop := ∀ s, (p s).2 = s

theorem SoLe.bind {α β : Type} {p : Op Patrimonio Erro α} {f : α → Op Patrimonio Erro β}
    (hp : SoLe p) (hf : ∀ a, SoLe (f a)) : SoLe (p >>= f) := by
  intro s
  have hsession := hp s
  have hrun : (p >>= f) s = Op.andThen p f s := rfl
  rw [hrun, Op.andThen]
  cases hresult : p s with
  | mk result s' =>
    rw [hresult] at hsession
    obtain rfl : s' = s := hsession
    cases result with
    | ok a => exact hf a s'
    | error e => rfl

theorem SoLe.lift {α : Type} (r : Except Erro α) : SoLe (Op.lift r) := fun _ => rfl

theorem SoLe.read {α : Type} (f : Patrimonio → α) : SoLe (Op.read f) := fun _ => rfl

variable [Driver] {s : Session Patrimonio} {coid : Referencia}

/-- Reading writes nothing, whatever comes of it. -/
theorem assess_reads : SoLe (assess coid) := by
  refine .bind (.read _) fun instantaneo => ?_
  cases instantaneo with
  | none => exact .lift _
  | some instantaneo =>
    exact .bind (.lift _) fun _ => .bind (.read _) fun _ => .bind (.lift _) fun _ =>
      .bind (.read _) fun _ => .bind (.lift _) fun _ => .bind (fun _ => rfl) fun _ =>
        .bind (.lift _) fun _ => .bind (.lift _) fun _ => .bind (.read _) fun _ =>
          .bind (.lift _) fun _ => .lift _

/-- An assessment says what is recorded, each fact once. -/
structure Exata (db : Patrimonio) (coid : Referencia) (a : CamposDoAssessment) : Prop where
  sujeito : a.coid = coid
  naoEncontrado : a.outcome = .subjectNotFound ↔ db.objects.lookup coid = none
  registrada : a.outcome = .recordedContinuityEvidence ↔ a.evidence ≠ []
  descricao : ∀ row, db.objects.lookup coid = some row → a.clid = row.clid ∧
    a.revisionStatus = row.revisionStatus ∧ a.subjectDeleted = row.deletedAt.isSome
  fatos : db.objects.lookup coid ≠ none → ∀ e, e ∈ a.evidence.map Subtype.val ↔ Fato db coid e
  umaVez : (a.evidence.map fun e => (e.val.kind, e.val.reference)).Nodup
  ordem : Ordenadas a.evidence

/-- What is recorded in columns that can be read is well formed. -/
theorem Fato.recusado {db : Patrimonio} (h : Legivel db coid) {e : CamposDaEvidencia}
    (hfact : Fato db coid e) : e.recusado = none := by
  rw [recusado_eq_none]
  cases hfact with
  | clid => simp [uuidCanonico?_str, PersistenceEvidenceKind.comRelacionado,
      PersistenceEvidenceKind.comQualificador]
  | lineageParent hedge hchild => simp [uuidCanonico?_str, PersistenceEvidenceKind.comRelacionado,
      PersistenceEvidenceKind.comQualificador, h.relationType _ _ hedge (.inl hchild)]
  | lineageChild hedge hparent => simp [uuidCanonico?_str, PersistenceEvidenceKind.comRelacionado,
      PersistenceEvidenceKind.comQualificador, h.relationType _ _ hedge (.inr hparent)]
  | transformationInput => simp [uuidCanonico?_str, PersistenceEvidenceKind.comRelacionado,
      PersistenceEvidenceKind.comQualificador]
  | transformationOutput => simp [uuidCanonico?_str, PersistenceEvidenceKind.comRelacionado,
      PersistenceEvidenceKind.comQualificador]
  | causalEvent hevent hhistory hsubject => simp [uuidCanonico?_str,
      PersistenceEvidenceKind.comRelacionado, PersistenceEvidenceKind.comQualificador,
      h.eventType _ _ _ hevent hhistory hsubject]

omit [Driver] in
theorem assessment_recusado_eq_none {a : CamposDoAssessment} :
    a.recusado = none ↔ a.revisionStatus.any blank = false ∧
      (a.outcome = .subjectNotFound → a.subjectDeleted = false ∧ a.evidence = [] ∧
        a.clid = none ∧ a.revisionStatus = none) ∧
      (a.outcome = .noRecordedContinuityEvidence → a.evidence = []) ∧
      (a.outcome = .recordedContinuityEvidence → a.evidence ≠ []) ∧
      (a.evidenceOf .clid).map (·.val.reference) = a.clid.toList.map (·.str) := by
  rw [CamposDoAssessment.recusado, primeiroCampo_eq_none]
  simp
  tauto

omit [Driver] in
theorem assessment_new_eq_ok {a : CamposDoAssessment} {assessment : PersistenceAssessment} :
    PersistenceAssessment.new a = .ok assessment ↔
      assessment.val = { a with evidence := canonicalEvidence a.evidence } := by
  unfold PersistenceAssessment.new
  simp only
  split
  case h_1 hnone =>
    rw [Except.ok.injEq, Subtype.ext_iff]
    exact eq_comm
  case h_2 campo hsome =>
    refine iff_of_false (by simp) fun heq => ?_
    rw [← heq, assessment.property] at hsome
    cases hsome

omit [Driver] in
/-- An assessment whose fields agree is accepted. -/
theorem ends_new {Q : PersistenceAssessment → Session Patrimonio → Prop} {a : CamposDoAssessment}
    (hwell : ({ a with evidence := canonicalEvidence a.evidence } : CamposDoAssessment).recusado =
      none)
    (hQ : ∀ r : PersistenceAssessment,
      r.val = { a with evidence := canonicalEvidence a.evidence } → Q r s) :
    Op.Ends Q (fun _ _ => False) (Op.lift (PersistenceAssessment.new a)) s := by
  refine .lift (fun r hr => hQ r (assessment_new_eq_ok.mp hr)) fun e he => ?_
  let r : PersistenceAssessment := ⟨_, hwell⟩
  have hr : PersistenceAssessment.new a = .ok r := assessment_new_eq_ok.mpr rfl
  cases hr.symm.trans he

/-- What an assessment of a recorded object is given. -/
def camposDe (coid : Referencia) (row : CognitiveObject) (itens : List PersistenceEvidence) :
    CamposDoAssessment where
  coid := coid
  outcome := if itens = [] then .noRecordedContinuityEvidence else .recordedContinuityEvidence
  evidence := itens
  clid := row.clid
  subjectDeleted := row.deletedAt.isSome
  revisionStatus := row.revisionStatus

/-- The evidence of the CLID is the CLID. -/
theorem references_clid {db : Patrimonio} {row : CognitiveObject}
    {itens : List PersistenceEvidence} (hrow : db.objects.lookup coid = some row)
    (hitens : ∀ e, e ∈ itens ↔ Fato db coid e.val) (hnodup : itens.Nodup) :
    (itens.filter (·.val.kind = .clid)).map (·.val.reference) = row.clid.toList.map (·.str) := by
  have hfact {e : PersistenceEvidence} : e ∈ itens.filter (·.val.kind = .clid) ↔
      ∃ clid, row.clid = some clid ∧ e.val = ⟨.clid, clid.str, none, none⟩ := by
    obtain ⟨e, he⟩ := e
    rw [List.mem_filter, hitens, decide_eq_true_eq]
    constructor
    · rintro ⟨hfact, hkind⟩
      cases hfact with
      | clid hrow' hclid =>
        obtain rfl := Option.some.inj (hrow.symm.trans hrow')
        exact ⟨_, hclid, rfl⟩
      | _ => cases hkind
    · rintro ⟨clid, hclid, rfl⟩
      exact ⟨.clid hrow hclid, rfl⟩
  cases hclid : row.clid with
  | none =>
    have hnil : itens.filter (·.val.kind = .clid) = [] := by
      refine List.eq_nil_iff_forall_not_mem.mpr fun e he => ?_
      obtain ⟨clid, hsome, -⟩ := hfact.mp he
      rw [hclid] at hsome
      cases hsome
    rw [hnil]
    rfl
  | some clid =>
    have hwell : (⟨.clid, clid.str, none, none⟩ : CamposDaEvidencia).recusado = none := by
      simp [recusado_eq_none, uuidCanonico?_str, PersistenceEvidenceKind.comRelacionado,
        PersistenceEvidenceKind.comQualificador]
    have hperm : (itens.filter (·.val.kind = .clid)).Perm [⟨_, hwell⟩] := by
      refine (List.perm_ext_iff_of_nodup (hnodup.filter _) (List.nodup_singleton _)).mpr fun e => ?_
      rw [hfact, List.mem_singleton, Subtype.ext_iff, hclid]
      simp
    rw [List.perm_singleton.mp hperm]
    rfl

/-- Given all that is recorded, the assessment is accepted and exact. -/
theorem ends_camposDe {row : CognitiveObject} {itens : List PersistenceEvidence}
    (h : Legivel s.current coid) (hrow : s.current.objects.lookup coid = some row)
    (hitens : ∀ e, e ∈ itens ↔ Fato s.current coid e.val) :
    Op.Ends (fun a s' => s' = s ∧ Exata s.current coid a.val) (fun _ _ => False)
      (Op.lift (PersistenceAssessment.new (camposDe coid row itens))) s := by
  have hcanonical (e : PersistenceEvidence) :
      e ∈ canonicalEvidence itens ↔ Fato s.current coid e.val :=
    mem_canonicalEvidence.trans (hitens e)
  have hnil : canonicalEvidence itens = [] ↔ itens = [] := by
    simp only [List.eq_nil_iff_forall_not_mem, mem_canonicalEvidence]
  have hwell : ({ camposDe coid row itens with
      evidence := canonicalEvidence itens } : CamposDoAssessment).recusado = none := by
    rw [assessment_recusado_eq_none]
    refine ⟨h.revisionStatus row hrow, ?_, ?_, ?_,
      references_clid hrow hcanonical (canonicalEvidence_nodup itens)⟩
    · by_cases hempty : itens = [] <;> simp [camposDe, hempty]
    · by_cases hempty : itens = [] <;> simp [camposDe, hempty, hnil]
    · by_cases hempty : itens = [] <;> simp [camposDe, hempty, hnil]
  refine ends_new hwell fun a ha => ⟨rfl, ?_⟩
  rw [ha]
  refine ⟨rfl, ?_, ?_, fun row' hrow' => ?_, fun _ e => ?_, ?_, ordenadas_canonicalEvidence _⟩
  · by_cases hempty : itens = [] <;> simp [camposDe, hempty, hrow]
  · by_cases hempty : itens = [] <;> simp [camposDe, hempty, hnil]
  · obtain rfl := Option.some.inj (hrow.symm.trans hrow')
    exact ⟨rfl, rfl, rfl⟩
  · rw [List.mem_map]
    constructor
    · rintro ⟨evidence, hmem, rfl⟩
      exact (hcanonical evidence).mp hmem
    · intro hfact
      exact ⟨⟨e, hfact.recusado h⟩, (hcanonical _).mpr hfact, rfl⟩
  · refine (canonicalEvidence_nodup itens).map_on fun e he e' he' hkey => ?_
    obtain ⟨hkind, hreference⟩ := Prod.mk.inj hkey
    exact Subtype.ext (((hcanonical e).mp he).eq ((hcanonical e').mp he') hkind hreference)

/-- The evidence of rows that record facts is those facts. -/
theorem ends_evidencias {ρ : Type} {campos : ρ → CamposDaEvidencia} {linhas : List ρ}
    (h : Legivel s.current coid) (hfacts : ∀ linha ∈ linhas, Fato s.current coid (campos linha)) :
    Op.Ends (fun itens s' => s' = s ∧
      ∀ e : PersistenceEvidence, e ∈ itens ↔ ∃ linha ∈ linhas, campos linha = e.val)
      (fun _ _ => False) (evidencias campos linhas) s :=
  evidencias_ends fun linha hlinha => (hfacts linha hlinha).recusado h

theorem ends_assess (h : s.current.objects.lookup coid ≠ none → Legivel s.current coid) :
    Op.Ends (fun a s' => s' = s ∧ Exata s.current coid a.val) (fun _ _ => False)
      (assess coid) s := by
  cases hrow : s.current.objects.lookup coid with
  | none =>
    have hsnapshot : subjectSnapshot coid s.current = none := by
      rw [subjectSnapshot, hrow]
      rfl
    refine .bind (.read (Q := fun found s' => s' = s ∧ found = none) ⟨rfl, hsnapshot⟩) ?_
    rintro _ _ ⟨rfl, rfl⟩
    refine ends_new (assessment_recusado_eq_none.mpr (by simp [CamposDoAssessment.evidenceOf]))
      fun a ha => ⟨rfl, ?_⟩
    rw [ha]
    exact ⟨rfl, iff_of_true rfl hrow, by simp, by simp [hrow], by simp [hrow], by simp,
      ordenadas_canonicalEvidence _⟩
  | some row =>
    have hlegivel := h (by simp [hrow])
    have hsnapshot : subjectSnapshot coid s.current =
        some (row.clid, row.revisionStatus, row.deletedAt.isSome) := by
      rw [subjectSnapshot, hrow]
      rfl
    obtain ⟨comoEntrada, comoSaida, hciting, hin, hout⟩ := transformationsCiting_ok hlegivel
    -- each row that a query answers records a fact
    have hclid (clid : Referencia) (hmem : clid ∈ row.clid.toList) :
        Fato s.current coid ⟨.clid, clid.str, none, none⟩ := .clid hrow (Option.mem_toList.mp hmem)
    have hparent (linha : Referencia × LineageEdge) (hmem : linha ∈ lineageAsChild coid s.current) :
        Fato s.current coid ⟨.lineageParent, linha.1.str, some linha.2.parentCoid,
          some linha.2.relationType⟩ := by
      obtain ⟨hedge, hchild⟩ := List.mem_filter.mp hmem
      exact .lineageParent (mem_ordenadasPorId.mp hedge) (of_decide_eq_true hchild)
    have hchild (linha : Referencia × LineageEdge) (hmem : linha ∈ lineageAsParent coid s.current) :
        Fato s.current coid ⟨.lineageChild, linha.1.str, some linha.2.childCoid,
          some linha.2.relationType⟩ := by
      obtain ⟨hedge, hparent⟩ := List.mem_filter.mp hmem
      exact .lineageChild (mem_ordenadasPorId.mp hedge) (of_decide_eq_true hparent)
    have hinput (id : Referencia) (hmem : id ∈ comoEntrada) :
        Fato s.current coid ⟨.transformationInput, id.str, none, none⟩ := by
      obtain ⟨record, hrecord, hcites⟩ := (hin id).mp hmem
      exact .transformationInput hrecord hcites
    have houtput (id : Referencia) (hmem : id ∈ comoSaida) :
        Fato s.current coid ⟨.transformationOutput, id.str, none, none⟩ := by
      obtain ⟨record, hrecord, hcites⟩ := (hout id).mp hmem
      exact .transformationOutput hrecord hcites
    have hcausal (linha : Referencia × CausalHistoryEvent)
        (hmem : linha ∈ causalEvents coid s.current) :
        Fato s.current coid ⟨.causalEvent, linha.1.str, none, some linha.2.eventType⟩ := by
      obtain ⟨history, hevent, hhistory, hsubject⟩ := mem_causalEvents.mp hmem
      exact .causalEvent hevent hhistory hsubject
    refine .bind (.read (Q := fun found s' => s' = s ∧ found = _) ⟨rfl, hsnapshot⟩) ?_
    rintro _ _ ⟨rfl, rfl⟩
    refine .bind (ends_evidencias hlegivel hclid) ?_
    rintro continuidade s' ⟨rfl, hcontinuidade⟩
    refine .bind (.read (Q := fun linhas s => s = s' ∧ linhas = _) ⟨rfl, rfl⟩) ?_
    rintro _ _ ⟨rfl, rfl⟩
    refine .bind (ends_evidencias hlegivel hparent) ?_
    rintro pais s' ⟨rfl, hpais⟩
    refine .bind (.read (Q := fun linhas s => s = s' ∧ linhas = _) ⟨rfl, rfl⟩) ?_
    rintro _ _ ⟨rfl, rfl⟩
    refine .bind (ends_evidencias hlegivel hchild) ?_
    rintro filhos s' ⟨rfl, hfilhos⟩
    refine .query_bind (fun citing hok => ?_) fun e herror => by cases hciting.symm.trans herror
    obtain rfl := Except.ok.inj (hciting.symm.trans hok)
    refine .bind (ends_evidencias hlegivel hinput) ?_
    rintro entradas s' ⟨rfl, hentradas⟩
    refine .bind (ends_evidencias hlegivel houtput) ?_
    rintro saidas s' ⟨rfl, hsaidas⟩
    refine .bind (.read (Q := fun linhas s => s = s' ∧ linhas = _) ⟨rfl, rfl⟩) ?_
    rintro _ _ ⟨rfl, rfl⟩
    refine .bind (ends_evidencias hlegivel hcausal) ?_
    rintro causais s' ⟨rfl, hcausais⟩
    refine ends_camposDe hlegivel hrow fun e => ?_
    simp only [List.mem_append, hcontinuidade, hpais, hfilhos, hentradas, hsaidas, hcausais]
    obtain ⟨e, he⟩ := e
    constructor
    · rintro (((((⟨x, hx, rfl⟩ | ⟨x, hx, rfl⟩) | ⟨x, hx, rfl⟩) | ⟨x, hx, rfl⟩) | ⟨x, hx, rfl⟩) |
        ⟨x, hx, rfl⟩)
      · exact hclid x hx
      · exact hparent x hx
      · exact hchild x hx
      · exact hinput x hx
      · exact houtput x hx
      · exact hcausal x hx
    · intro hfact
      cases hfact with
      | clid hrow' hsome =>
        obtain rfl := Option.some.inj (hrow.symm.trans hrow')
        exact .inl (.inl (.inl (.inl (.inl ⟨_, Option.mem_toList.mpr hsome, rfl⟩))))
      | lineageParent hedge hof =>
        exact .inl (.inl (.inl (.inl (.inr ⟨(_, _), List.mem_filter.mpr
          ⟨mem_ordenadasPorId.mpr hedge, decide_eq_true hof⟩, rfl⟩))))
      | lineageChild hedge hof =>
        exact .inl (.inl (.inl (.inr ⟨(_, _), List.mem_filter.mpr
          ⟨mem_ordenadasPorId.mpr hedge, decide_eq_true hof⟩, rfl⟩)))
      | transformationInput hrecord hcites =>
        exact .inl (.inl (.inr ⟨_, (hin _).mpr ⟨_, hrecord, hcites⟩, rfl⟩))
      | transformationOutput hrecord hcites =>
        exact .inl (.inr ⟨_, (hout _).mpr ⟨_, hrecord, hcites⟩, rfl⟩)
      | causalEvent hevent hhistory hsubject =>
        exact .inr ⟨(_, _), mem_causalEvents.mpr ⟨_, hevent, hhistory, hsubject⟩, rfl⟩

theorem exists_assess (h : s.current.objects.lookup coid ≠ none → Legivel s.current coid) :
    ∃ a : PersistenceAssessment, assess coid s = (.ok a, s) ∧ Exata s.current coid a.val := by
  have hends := ends_assess h
  unfold Op.Ends at hends
  cases hrun : assess coid s with
  | mk result s' =>
    rw [hrun] at hends
    cases result with
    | error e => exact hends.elim
    | ok a =>
      obtain ⟨rfl, hexata⟩ := hends
      exact ⟨a, rfl, hexata⟩

/-- The facts alone decide what is shown, and in which order. -/
theorem Exata.evidence_eq {db db' : Patrimonio} {a a' : CamposDoAssessment}
    (h : Exata db coid a) (h' : Exata db' coid a') (hfound : db.objects.lookup coid ≠ none)
    (hfound' : db'.objects.lookup coid ≠ none) (hsame : ∀ e, Fato db coid e ↔ Fato db' coid e) :
    a.evidence = a'.evidence := by
  refine h.ordem.eq h'.ordem (.of_map _ h.umaVez) (.of_map _ h'.umaVez) fun e => ?_
  have hmem := h.fatos hfound e.val
  have hmem' := h'.fatos hfound' e.val
  rw [List.mem_map_of_injective Subtype.val_injective] at hmem hmem'
  rw [hmem, hmem', hsame]

/-- An assessment writes nothing. Over columns that hold what they are declared to hold it
succeeds and says what is recorded, in an order that depends on the facts alone. -/
theorem persistence_assessment (coid : Referencia) : (∀ s, (assess coid s).2 = s) ∧
    ∀ s : Session Patrimonio, (s.current.objects.lookup coid ≠ none → Legivel s.current coid) →
      ∃ a : PersistenceAssessment, assess coid s = (.ok a, s) ∧ Exata s.current coid a.val ∧
        ∀ s' a', (s'.current.objects.lookup coid ≠ none → Legivel s'.current coid) →
          assess coid s' = (.ok a', s') → s.current.objects.lookup coid ≠ none →
          s'.current.objects.lookup coid ≠ none →
          (∀ e, Fato s.current coid e ↔ Fato s'.current coid e) →
          a.val.evidence = a'.val.evidence := by
  refine ⟨assess_reads, fun s h => ?_⟩
  obtain ⟨a, hrun, hexata⟩ := exists_assess h
  refine ⟨a, hrun, hexata, fun s' a' h' hrun' hfound hfound' hsame => ?_⟩
  obtain ⟨a'', hrun'', hexata'⟩ := exists_assess h'
  obtain rfl := Except.ok.inj (Prod.mk.inj (hrun''.symm.trans hrun')).1
  exact hexata.evidence_eq hexata' hfound hfound' hsame

end Assessment

/-! ## Columns that hold something else -/

namespace Sample

/-- The list that names object 1. -/
def refs : String := "[\"00000000-0000-0000-0000-000000000001\"]"

/-- What the driver reads in the columns below. -/
instance leitor : Driver where
  loads t :=
    if t = "[]" then some (.lista [])
    else if t = refs then some (.lista [.texto (Texto.of (1 : Referencia).str)])
    else if t = "5" then some (.numero false)
    else none

/-- A deleted object that came from another one. -/
def derivado : Patrimonio where
  objects := (AList.insert 2 ⟨none, none, none⟩ ∅).insert 1 ⟨some 9, none, some 0⟩
  edges := AList.insert 3 ⟨2, 1, "derived_from"⟩ ∅
  transformations := AList.insert 4 ⟨"[]", refs⟩ ∅

/-- A number stands where a list of references should. -/
def escalar : Patrimonio where
  objects := AList.insert 1 ⟨none, none, none⟩ ∅
  transformations := AList.insert 4 ⟨"5", "[]"⟩ ∅

/-- The type of a relation is an empty text. -/
def semToken : Patrimonio where
  objects := (AList.insert 2 ⟨none, none, none⟩ ∅).insert 1 ⟨none, none, none⟩
  edges := AList.insert 3 ⟨2, 1, ""⟩ ∅

end Sample

open Sample

theorem legivel_derivado : Legivel derivado 1 where
  inputRefs id row hrow := by
    obtain ⟨rfl, rfl⟩ | ⟨-, hnone⟩ := Table.insert_cases hrow
    · exact .inr ⟨_, rfl⟩
    · cases hnone
  outputRefs id row hrow := by
    obtain ⟨rfl, rfl⟩ | ⟨-, hnone⟩ := Table.insert_cases hrow
    · exact .inr ⟨_, rfl⟩
    · cases hnone
  relationType id edge hedge _ := by
    obtain ⟨rfl, rfl⟩ | ⟨-, hnone⟩ := Table.insert_cases hedge
    · decide
    · cases hnone
  eventType id event history hevent := by cases hevent
  revisionStatus row hrow := by
    obtain ⟨-, rfl⟩ | ⟨hne, -⟩ := Table.insert_cases hrow
    · rfl
    · exact absurd rfl hne

theorem persistence_assessment_derivado : ∃ a : PersistenceAssessment,
    assess 1 ⟨derivado, derivado⟩ = (.ok a, ⟨derivado, derivado⟩) ∧ Exata derivado 1 a.val := by
  obtain ⟨a, hrun, hexata, -⟩ := (persistence_assessment 1).2 ⟨derivado, derivado⟩
    fun _ => legivel_derivado
  exact ⟨a, hrun, hexata⟩

theorem valido_escalar : escalar.Valido where
  relationType id edge hedge := by cases hedge
  eventType id event hevent := by cases hevent
  revisionStatus id row hrow := by
    obtain ⟨rfl, rfl⟩ | ⟨-, hnone⟩ := Table.insert_cases hrow
    · simp
    · cases hnone
  noSelfLink id edge hedge := by cases hedge
  uniqueEdge id id' edge hedge := by cases hedge
  endpoints id edge hedge := by cases hedge
  oneCurrent id id' row row' hrow _ hcurrent := by
    obtain ⟨rfl, rfl⟩ | ⟨-, hnone⟩ := Table.insert_cases hrow
    · cases hcurrent
    · cases hnone
  oneHistory id id' history history' hhistory := by cases hhistory
  subject id history hhistory := by cases hhistory
  history id event hevent := by cases hevent

theorem valido_semToken : semToken.Valido where
  relationType id edge hedge := by
    obtain ⟨rfl, rfl⟩ | ⟨-, hnone⟩ := Table.insert_cases hedge
    · decide
    · cases hnone
  eventType id event hevent := by cases hevent
  revisionStatus id row hrow := by
    obtain ⟨rfl, rfl⟩ | ⟨-, hrow⟩ := Table.insert_cases hrow
    · simp
    · obtain ⟨rfl, rfl⟩ | ⟨-, hnone⟩ := Table.insert_cases hrow
      · simp
      · cases hnone
  noSelfLink id edge hedge := by
    obtain ⟨rfl, rfl⟩ | ⟨-, hnone⟩ := Table.insert_cases hedge
    · decide
    · cases hnone
  uniqueEdge id id' edge hedge hedge' := by
    obtain ⟨rfl, -⟩ | ⟨-, hnone⟩ := Table.insert_cases hedge
    · obtain ⟨rfl, -⟩ | ⟨-, hnone⟩ := Table.insert_cases hedge'
      · rfl
      · cases hnone
    · cases hnone
  endpoints id edge hedge := by
    obtain ⟨rfl, rfl⟩ | ⟨-, hnone⟩ := Table.insert_cases hedge
    · exact ⟨by decide, by decide⟩
    · cases hnone
  oneCurrent id id' row row' hrow _ hcurrent := by
    obtain ⟨rfl, rfl⟩ | ⟨-, hrow⟩ := Table.insert_cases hrow
    · cases hcurrent
    · obtain ⟨rfl, rfl⟩ | ⟨-, hnone⟩ := Table.insert_cases hrow
      · cases hcurrent
      · cases hnone
  oneHistory id id' history history' hhistory := by cases hhistory
  subject id history hhistory := by cases hhistory
  history id event hevent := by cases hevent

/-- Both stores are valid, and neither can be assessed. -/
theorem persistence_assessment_refused :
    (escalar.Valido ∧
      ¬ ∃ a : PersistenceAssessment, assess 1 ⟨escalar, escalar⟩ = (.ok a, ⟨escalar, escalar⟩)) ∧
    (semToken.Valido ∧
      ¬ ∃ a : PersistenceAssessment, assess 1 ⟨semToken, semToken⟩ = (.ok a, ⟨semToken, semToken⟩)) := by
  have hrefused {db : Patrimonio} (hraises : (assess 1 ⟨db, db⟩).1.isOk = false) :
      ¬ ∃ a : PersistenceAssessment, assess 1 ⟨db, db⟩ = (.ok a, ⟨db, db⟩) := by
    rintro ⟨a, hrun⟩
    rw [hrun] at hraises
    cases hraises
  exact ⟨⟨valido_escalar, hrefused (by decide +kernel)⟩,
    ⟨valido_semToken, hrefused (by decide +kernel)⟩⟩

end PiaOs.Memory.Continuity
