import PiaOs.Cognitive.Library

/-!
# Continuity and lineage

The manager of continuities gives a child the continuity of its parent and records the edge
between them, in the session of its caller.
-/

namespace PiaOs.Cognitive

open Support Piap Transactions

/-- The entity that the session has loaded. `refresh_for_update` loads it again. -/
def entidade (coid : Referencia) : Op Biblioteca Erro CognitiveObject := do
  match ← Op.read fun db => db.objects.lookup coid with
  | some row => pure row
  | none => Op.raise (.invalidRequest coid)

/-- `CognitiveObject._reject_clid_mutation`, and the assignment when it is allowed. -/
def CognitiveObject.comClid (coid clid : Referencia) (row : CognitiveObject) :
    Except Erro CognitiveObject :=
  match row.clid with
  | none => .ok { row with clid := some clid }
  | some currentClid =>
    if clid = currentClid then .ok row else .error (.clidAlreadySet coid currentClid clid)

/-- `entity.clid = clid`, and `BaseRepository.update`. -/
def atribuirClid (coid clid : Referencia) : Op Biblioteca Erro Unit := do
  let row ← entidade coid
  let row ← Op.lift (row.comClid coid clid)
  Op.send fun db => (db.updateObject coid row).mapError .persistence

namespace LineageRepository

/-- The error into which `add_edge` translates a refusal of the database. -/
def erroDaRecusa (edge : LineageEdge) : Recusa → Erro
  | .unique => .lineageDuplicateEdge edge
  | .foreignKey => .lineageEndpointNotFound edge.childCoid
  | .check => .persistence .check
  | .dados => .persistence .dados

/-- `add_edge`, with the identifier that the row will have. -/
def addEdge (id : Referencia) (edge : LineageEdge) : Op Biblioteca Erro LineageEdge := do
  if edge.parentCoid = edge.childCoid then Op.raise (.lineageSelfLink edge.parentCoid)
  else
    Op.send fun db => (db.insertEdge id edge).mapError (erroDaRecusa edge)
    pure edge

end LineageRepository

namespace ClidManager

/-- `assign`. -/
def assign (coid clid : Referencia) : Op Biblioteca Erro Unit := do
  let _ ← entidade coid
  atribuirClid coid clid

/-- `inherit`, with the CLID that `generate` gives and the identifier of the new edge. -/
def inherit (novo edgeId parent child : Referencia) (relationType : LineageRelation) :
    Op Biblioteca Erro LineageEdge := do
  let pai ← entidade parent
  let _ ← entidade child
  let resolvedClid := pai.clid.getD novo
  if pai.clid = none then atribuirClid parent resolvedClid
  atribuirClid child resolvedClid
  LineageRepository.addEdge edgeId ⟨parent, child, relationType⟩

end ClidManager

/-! ## One operation -/

/-- One object is written, and nothing else changes. -/
structure Gravado (coid : Referencia) (row : CognitiveObject) (db db' : Biblioteca) : Prop where
  objects : ∀ k, db'.objects.lookup k = if k = coid then some row else db.objects.lookup k
  resto : db' = { db with objects := db'.objects }

section Specs

variable {coid clid id : Referencia} {row : CognitiveObject} {edge : LineageEdge}
  {s : Session Biblioteca} {db db' : Biblioteca}

theorem updateObject_ok (h : db.updateObject coid row = .ok db') : Gravado coid row db db' := by
  unfold Biblioteca.updateObject at h
  split at h
  case isTrue hrow =>
    obtain rfl := Except.ok.inj h
    refine ⟨fun k => ?_, rfl⟩
    split
    case isTrue hk => rw [hk, hrow]
    case isFalse => rfl
  case isFalse =>
    split at h
    · cases h
    · obtain rfl := Except.ok.inj h
      exact ⟨fun k => Table.lookup_insert_ite _ _ _ _, rfl⟩

theorem insertEdge_ok (h : db.insertEdge id edge = .ok db') :
    edge.parentCoid ≠ edge.childCoid ∧ db.edges.lookup id = none ∧ ¬db.ligada edge ∧
      db' = { db with edges := db.edges.insert id edge } := by
  unfold Biblioteca.insertEdge at h
  split at h
  · cases h
  case isFalse hself =>
    split at h
    · cases h
    case isFalse hunique =>
      split at h
      · cases h
      · obtain ⟨hid, htriple⟩ := not_or.mp hunique
        exact ⟨hself, by simpa using hid, htriple, (Except.ok.inj h).symm⟩

theorem comClid_ok {row' : CognitiveObject} (h : row.comClid coid clid = .ok row') :
    (∀ currentClid, row.clid = some currentClid → currentClid = clid) ∧
      row' = { row with clid := some clid } := by
  unfold CognitiveObject.comClid at h
  split at h
  case h_1 hnone =>
    refine ⟨fun currentClid hsome => ?_, (Except.ok.inj h).symm⟩
    rw [hnone] at hsome
    cases hsome
  case h_2 currentClid hsome =>
    split at h
    case isTrue hsame =>
      obtain rfl := Except.ok.inj h
      refine ⟨fun other hother => ?_, ?_⟩
      · rw [hsome] at hother
        rw [hsame, Option.some.inj hother]
      · rw [hsame, ← hsome]
    case isFalse => cases h

theorem comClid_error {e : Erro} (h : row.comClid coid clid = .error e) : row.clid ≠ none := by
  intro hnone
  unfold CognitiveObject.comClid at h
  rw [hnone] at h
  cases h

theorem ends_entidade {Q : CognitiveObject → Session Biblioteca → Prop}
    {E : Erro → Session Biblioteca → Prop}
    (hfound : ∀ row, s.current.objects.lookup coid = some row → Q row s)
    (hgone : E (.invalidRequest coid) s) : Op.Ends Q E (entidade coid) s := by
  unfold entidade
  refine Op.Ends.bind (Op.Ends.read (Q := fun found s' =>
    found = s.current.objects.lookup coid ∧ s' = s) ⟨rfl, rfl⟩) ?_
  rintro found s' ⟨hlookup, rfl⟩
  cases found with
  | none => exact Op.Ends.raise hgone
  | some row => exact Op.Ends.ret (hfound row hlookup.symm)

/-- An object that is there is found, as it is. -/
theorem ends_entidade_of_lookup {E : Erro → Session Biblioteca → Prop}
    (hrow : s.current.objects.lookup coid = some row) :
    Op.Ends (fun row' s' => row' = row ∧ s' = s) E (entidade coid) s := by
  unfold entidade
  refine Op.Ends.bind (Op.Ends.read (Q := fun found s' => found = some row ∧ s' = s)
    ⟨hrow, rfl⟩) ?_
  rintro found s' ⟨rfl, rfl⟩
  exact Op.Ends.ret ⟨rfl, rfl⟩

/-- The object gets the CLID when it has no other. Nothing is written when it has, and a flush
that is refused takes the session back. -/
theorem ends_atribuirClid (hrow : s.current.objects.lookup coid = some row) :
    Op.Ends (fun _ s' => (∀ currentClid, row.clid = some currentClid → currentClid = clid) ∧
        s'.base = s.base ∧ Gravado coid { row with clid := some clid } s.current s'.current)
      (fun _ s' => (s' = s ∧ row.clid ≠ none) ∨ s' = s.rollback) (atribuirClid coid clid) s := by
  unfold atribuirClid
  refine Op.Ends.bind (ends_entidade_of_lookup hrow) ?_
  rintro row' s' ⟨rfl, rfl⟩
  refine Op.Ends.bind (Q := fun novo s'' => row'.comClid coid clid = .ok novo ∧ s'' = s')
    (Op.Ends.lift (fun novo hnovo => ⟨hnovo, rfl⟩) fun e he => .inl ⟨rfl, comClid_error he⟩) ?_
  rintro novo s'' ⟨hnovo, rfl⟩
  obtain ⟨hsame, rfl⟩ := comClid_ok hnovo
  refine Op.Ends.send (fun t ht => ⟨hsame, rfl, ?_⟩) fun e _ => .inr rfl
  exact updateObject_ok (mapError_eq_ok.mp ht)

theorem ends_addEdge :
    Op.Ends (fun edge' s' => edge' = edge ∧ s'.base = s.base ∧ edge.parentCoid ≠ edge.childCoid ∧
        s.current.edges.lookup id = none ∧ ¬s.current.ligada edge ∧
        s'.current = { s.current with edges := s.current.edges.insert id edge })
      (fun _ s' => (s' = s ∧ edge.parentCoid = edge.childCoid) ∨ s' = s.rollback)
      (LineageRepository.addEdge id edge) s := by
  unfold LineageRepository.addEdge
  split
  case isTrue hself => exact Op.Ends.raise (.inl ⟨rfl, hself⟩)
  case isFalse =>
    refine Op.Ends.bind (Q := fun _ s' => s'.base = s.base ∧
      s.current.insertEdge id edge = .ok s'.current) (Op.Ends.send ?_ fun e _ => .inr rfl) ?_
    · intro t ht
      exact ⟨rfl, mapError_eq_ok.mp ht⟩
    · rintro - s' ⟨hbase, hwrite⟩
      obtain ⟨hself, hid, htriple, hdb⟩ := insertEdge_ok hwrite
      exact Op.Ends.ret ⟨rfl, hbase, hself, hid, htriple, hdb⟩

end Specs

/-! ## Inheritance -/

section Inheritance

variable {novo edgeId parent child : Referencia} {relationType : LineageRelation}
  {s : Session Biblioteca}

/-- What a success of `inherit` has made of the tables. -/
structure Herdada (novo edgeId : Referencia) (edge : LineageEdge) (db db' : Biblioteca) :
    Prop where
  distintos : edge.parentCoid ≠ edge.childCoid
  /-- Both objects were there, and both have the CLID of the parent, or the new one. -/
  continuidade : ∃ pai filho,
    db.objects.lookup edge.parentCoid = some pai ∧ db.objects.lookup edge.childCoid = some filho ∧
    (∀ clid, filho.clid = some clid → clid = pai.clid.getD novo) ∧
    db'.objects.lookup edge.parentCoid = some { pai with clid := some (pai.clid.getD novo) } ∧
    db'.objects.lookup edge.childCoid = some { filho with clid := some (pai.clid.getD novo) }
  outros : ∀ k, k ≠ edge.parentCoid → k ≠ edge.childCoid →
    db'.objects.lookup k = db.objects.lookup k
  inedita : db.edges.lookup edgeId = none ∧ ¬db.ligada edge
  resto : db' = { db with objects := db'.objects, edges := db.edges.insert edgeId edge }

/-- The session after an error: gone back, or as it was but for a parent that had no CLID and
may have the new one already. -/
structure Interrompida (novo parent : Referencia) (s s' : Session Biblioteca) : Prop where
  base : s'.base = s.base
  estado : s'.current = s.base ∨
    s'.current = { s.current with objects := s'.current.objects } ∧
    ∀ k, s'.current.objects.lookup k = s.current.objects.lookup k ∨
      k = parent ∧ ∃ pai, s.current.objects.lookup parent = some pai ∧ pai.clid = none ∧
        s'.current.objects.lookup parent = some { pai with clid := some novo }

theorem Interrompida.intacta : Interrompida novo parent s s := ⟨rfl, .inr ⟨rfl, fun _ => .inl rfl⟩⟩

theorem Interrompida.desfeita {s' : Session Biblioteca} (h : s'.base = s.base) :
    Interrompida novo parent s s'.rollback := ⟨h, .inl h⟩

/-- The parent has its CLID, the one it had or the new one, before the child is looked at. -/
structure PaiPronto (novo parent : Referencia) (pai : CognitiveObject) (s s' : Session Biblioteca) :
    Prop where
  base : s'.base = s.base
  lido : s.current.objects.lookup parent = some pai
  gravado : Gravado parent { pai with clid := some (pai.clid.getD novo) } s.current s'.current

theorem PaiPronto.interrompida {pai : CognitiveObject} {s' : Session Biblioteca}
    (h : PaiPronto novo parent pai s s') : Interrompida novo parent s s' := by
  refine ⟨h.base, .inr ⟨h.gravado.resto, fun k => ?_⟩⟩
  rw [h.gravado.objects]
  split
  case isFalse => exact .inl rfl
  case isTrue hk =>
    subst hk
    cases hclid : pai.clid with
    | none =>
      refine .inr ⟨rfl, pai, h.lido, hclid, ?_⟩
      rw [h.gravado.objects, if_pos rfl, hclid, Option.getD_none]
    | some clid =>
      left
      rw [h.lido, Option.getD_some, ← hclid]

/-- After the parent, what is left gives the child the same CLID and records the edge. -/
theorem ends_filho {pai : CognitiveObject} {s' : Session Biblioteca}
    (h : PaiPronto novo parent pai s s') (hchild : ∃ filho, s.current.objects.lookup child = some filho) :
    Op.Ends (fun edge s'' => edge = ⟨parent, child, relationType⟩ ∧ s''.base = s.base ∧
        Herdada novo edgeId edge s.current s''.current)
      (fun _ s'' => Interrompida novo parent s s'')
      (do
        atribuirClid child (pai.clid.getD novo)
        LineageRepository.addEdge edgeId ⟨parent, child, relationType⟩) s' := by
  obtain ⟨filho, hfilho⟩ := hchild
  have hlookup : s'.current.objects.lookup child =
      some (if child = parent then { pai with clid := some (pai.clid.getD novo) } else filho) := by
    rw [h.gravado.objects, hfilho]
    split <;> rfl
  refine Op.Ends.bind ((ends_atribuirClid hlookup).mono (fun _ _ hQ => hQ) fun _ s'' hs'' => ?_) ?_
  · rcases hs'' with ⟨rfl, -⟩ | rfl
    · exact h.interrompida
    · exact .desfeita h.base
  · rintro - s'' ⟨hsame, hbase, hwritten⟩
    refine ends_addEdge.mono ?_ ?_
    · rintro edge s₃ ⟨rfl, hbase', hself, hid, htriple, hedges⟩
      have hself : parent ≠ child := hself
      rw [if_neg hself.symm] at hsame hwritten
      have hobjects : s₃.current.objects = s''.current.objects := by rw [hedges]
      have hkept : s''.current.edges = s.current.edges := by
        rw [hwritten.resto, h.gravado.resto]
      refine ⟨rfl, hbase'.trans (hbase.trans h.base), hself, ⟨pai, filho, h.lido, hfilho, hsame, ?_, ?_⟩,
        ?_, ?_, ?_⟩
      · rw [hobjects, hwritten.objects, if_neg hself, h.gravado.objects, if_pos rfl]
      · rw [hobjects, hwritten.objects, if_pos rfl]
      · intro k hparent hchild
        rw [hobjects, hwritten.objects, if_neg hchild, h.gravado.objects, if_neg hparent]
      · unfold Biblioteca.ligada at htriple ⊢
        rw [hkept] at hid htriple
        exact ⟨hid, htriple⟩
      · rw [hedges, hkept, hwritten.resto, h.gravado.resto]
    · rintro - s₃ (⟨rfl, hself⟩ | rfl)
      · obtain rfl : parent = child := hself
        rw [if_pos rfl] at hwritten
        refine PaiPronto.interrompida ⟨hbase.trans h.base, h.lido, fun k => ?_, ?_⟩
        · rw [hwritten.objects, h.gravado.objects]
          split <;> rfl
        · rw [hwritten.resto, h.gravado.resto]
      · exact .desfeita (hbase.trans h.base)

theorem ends_inherit :
    Op.Ends (fun edge s' => edge = ⟨parent, child, relationType⟩ ∧ s'.base = s.base ∧
        Herdada novo edgeId edge s.current s'.current)
      (fun _ s' => Interrompida novo parent s s')
      (ClidManager.inherit novo edgeId parent child relationType) s := by
  unfold ClidManager.inherit
  refine Op.Ends.bind (ends_entidade (Q := fun pai s' =>
    s.current.objects.lookup parent = some pai ∧ s' = s) (fun _ hpai => ⟨hpai, rfl⟩) .intacta) ?_
  rintro pai s₁ ⟨hpai, rfl⟩
  refine Op.Ends.bind (ends_entidade (Q := fun filho s' =>
    s₁.current.objects.lookup child = some filho ∧ s' = s₁) (fun _ hfilho => ⟨hfilho, rfl⟩)
    .intacta) ?_
  rintro filho s₂ ⟨hfilho, rfl⟩
  dsimp only
  split
  case isTrue hnone =>
    refine Op.Ends.bind (Q := fun _ s' => PaiPronto novo parent pai s₂ s') ?_
      fun _ s' hpronto => ends_filho hpronto ⟨filho, hfilho⟩
    refine (ends_atribuirClid hpai).mono (fun _ s' hs' => ⟨hs'.2.1, hpai, hs'.2.2⟩) fun _ s' hs' => ?_
    rcases hs' with ⟨rfl, -⟩ | rfl
    · exact .intacta
    · exact .desfeita rfl
  case isFalse hsome =>
    have hpronto : PaiPronto novo parent pai s₂ s₂ := by
      refine ⟨rfl, hpai, fun k => ?_, rfl⟩
      obtain ⟨clid, hclid⟩ := Option.ne_none_iff_exists'.mp hsome
      split
      case isFalse => rfl
      case isTrue hk => rw [hk, hpai, hclid, Option.getD_some, ← hclid]
    exact ends_filho hpronto ⟨filho, hfilho⟩

/-- The operation ends with an error. -/
def Falha {α : Type} (p : Op Biblioteca Erro α) (s : Session Biblioteca) : Prop :=
  ∃ e s', p s = (.error e, s')

/-- Inheritance in the session of a caller, who goes back when it raises. -/
structure HerancaAtomica (novo edgeId parent child : Referencia) (relationType : LineageRelation)
    (s : Session Biblioteca) : Prop where
  sucesso : ∀ edge s', ClidManager.inherit novo edgeId parent child relationType s = (.ok edge, s') →
    edge = ⟨parent, child, relationType⟩ ∧ s'.base = s.base ∧
      Herdada novo edgeId edge s.current s'.current
  erro : ∀ e s', ClidManager.inherit novo edgeId parent child relationType s = (.error e, s') →
    Interrompida novo parent s s' ∧ s'.rollback = s.rollback
  unidade : ∀ db e db', Op.unitOfWork
    (ClidManager.inherit novo edgeId parent child relationType) db = (.error e, db') → db' = db
  /-- A child of another continuity. -/
  outroClid : ∀ pai filho clid, s.current.objects.lookup parent = some pai →
    s.current.objects.lookup child = some filho → filho.clid = some clid →
    clid ≠ pai.clid.getD novo → Falha (ClidManager.inherit novo edgeId parent child relationType) s
  mesmo : parent = child → Falha (ClidManager.inherit novo edgeId parent child relationType) s
  recusada : s.current.edges.lookup edgeId ≠ none ∨ s.current.ligada ⟨parent, child, relationType⟩ →
    Falha (ClidManager.inherit novo edgeId parent child relationType) s

/-- What a success would contradict is a failure. -/
theorem falha_of_not (h : ∀ s', ¬Herdada novo edgeId ⟨parent, child, relationType⟩ s.current s') :
    Falha (ClidManager.inherit novo edgeId parent child relationType) s := by
  cases hrun : ClidManager.inherit novo edgeId parent child relationType s with
  | mk result s' =>
    cases result with
    | error e => exact ⟨e, s', hrun⟩
    | ok edge =>
      obtain ⟨rfl, -, hherdada⟩ := ends_inherit.of_ok hrun
      exact absurd hherdada (h _)

theorem inherit_atomic (novo edgeId parent child : Referencia) (relationType : LineageRelation)
    (s : Session Biblioteca) : HerancaAtomica novo edgeId parent child relationType s where
  sucesso _ _ hrun := ends_inherit.of_ok hrun
  erro e s' hrun := by
    have hstopped := ends_inherit.of_error hrun
    refine ⟨hstopped, ?_⟩
    unfold Session.rollback
    rw [hstopped.base]
  unidade db e db' hrun := by
    refine Op.unitOfWork_error (ends_inherit.mono (fun _ _ _ => trivial) fun _ s' h => ?_) hrun
    exact h.base
  outroClid pai filho clid hpai hfilho hclid hother := by
    refine falha_of_not fun db' h => ?_
    obtain ⟨pai', filho', hpai', hfilho', hsame, -⟩ := h.continuidade
    obtain rfl := Option.some.inj (hpai.symm.trans hpai')
    obtain rfl := Option.some.inj (hfilho.symm.trans hfilho')
    exact hother (hsame clid hclid)
  mesmo hself := falha_of_not fun _ h => h.distintos hself
  recusada htaken := by
    refine falha_of_not fun _ h => ?_
    rcases htaken with hid | htriple
    · exact hid h.inedita.1
    · exact h.inedita.2 htriple

end Inheritance

/-- A parent without a CLID, and an object of another continuity. -/
def patrimonioMisto : Biblioteca where
  objects := (AList.insert 1 {} ∅).insert 2 { clid := some 7 }

/-- The child is refused after the parent was written: the session shows its new CLID. -/
theorem parent_written_first :
    (ClidManager.inherit 9 5 1 2 .derivedFrom ⟨patrimonioMisto, patrimonioMisto⟩).1 =
      .error (.clidAlreadySet 2 7 9) ∧
    (patrimonioMisto.objects.lookup 1).bind (·.clid) = none ∧
    ((ClidManager.inherit 9 5 1 2 .derivedFrom
      ⟨patrimonioMisto, patrimonioMisto⟩).2.current.objects.lookup 1).bind (·.clid) = some 9 := by
  decide +kernel

end PiaOs.Cognitive
