import PiaOs.Sync.Insertion

/-!
# The order of the causal events

What `topologically_ordered_events` returns: the rows of the package, each after its
predecessor when the predecessor is in the package too and the package has no cycle.
-/

namespace PiaOs.Sync

open Support

variable {Id Data : Type} {t : Textos Id Data}

/-- The first row is the predecessor of the second, both in the list. -/
def Antecede (t : Textos Id Data) (rows : List (Registro Id Data))
    (parent row : Registro Id Data) : Prop :=
  parent ∈ rows ∧ row ∈ rows ∧ predecessor t row = some (idTexto t parent)

/-- Each row stands after its predecessor, if the list has it. -/
def PredecessoresAntes (t : Textos Id Data) (rows ordered : List (Registro Id Data)) : Prop :=
  ∀ antes row depois, ordered = antes ++ row :: depois →
    ∀ parent, Antecede t rows parent row → parent ∈ antes

/-- Rows with distinct identifiers are found by them. -/
theorem byId_eq_some {rows : List (Registro Id Data)} (hids : (rows.map (idTexto t)).Nodup)
    {id : String} {row : Registro Id Data} :
    byId t rows id = some row ↔ row ∈ rows ∧ idTexto t row = id := by
  unfold byId
  constructor
  · intro h
    exact ⟨List.mem_reverse.mp (List.mem_of_find?_eq_some h), by simpa using List.find?_some h⟩
  · rintro ⟨hmem, rfl⟩
    have hsome : (rows.reverse.find? fun r => idTexto t r = idTexto t row).isSome := by
      rw [List.find?_isSome]
      exact ⟨row, List.mem_reverse.mpr hmem, by simp⟩
    obtain ⟨found, hfound⟩ := Option.isSome_iff_exists.mp hsome
    have hin : found ∈ rows := List.mem_reverse.mp (List.mem_of_find?_eq_some hfound)
    have hid : idTexto t found = idTexto t row := by simpa using List.find?_some hfound
    rw [hfound, List.inj_on_of_nodup_map hids hin hmem hid]

/-- The parent that a row waits for. -/
theorem parent_eq_some {rows : List (Registro Id Data)} (hids : (rows.map (idTexto t)).Nodup)
    {row parent : Registro Id Data} (hrow : row ∈ rows) :
    (predecessor t row).bind (byId t rows) = some parent ↔ Antecede t rows parent row := by
  rw [Option.bind_eq_some_iff]
  constructor
  · rintro ⟨id, hid, hfind⟩
    obtain ⟨hmem, rfl⟩ := (byId_eq_some hids).mp hfind
    exact ⟨hmem, hrow, hid⟩
  · rintro ⟨hmem, -, hid⟩
    exact ⟨_, hid, (byId_eq_some hids).mpr ⟨hmem, rfl⟩⟩

/-! ## The call returns -/

/-- A call that returns within a limit returns the same within a larger one. -/
theorem place_mono {rows : List (Registro Id Data)} {limite : ℕ} {row : Registro Id Data}
    {guard : List String} {ordered ordered' : List (Registro Id Data)}
    (h : place t rows limite row guard ordered = some ordered') :
    place t rows (limite + 1) row guard ordered = some ordered' := by
  induction limite generalizing row guard ordered ordered' with
  | zero => cases h
  | succ limite ih =>
    unfold place at h ⊢
    by_cases hknown : idTexto t row ∈ ordered.map (idTexto t) ∨ idTexto t row ∈ guard
    · rwa [if_pos hknown] at h ⊢
    · rw [if_neg hknown] at h ⊢
      cases hparent : (predecessor t row).bind (byId t rows) with
      | none =>
        rw [hparent] at h
        exact h
      | some parent =>
        rw [hparent] at h
        obtain ⟨antes, hantes, heq⟩ := Option.map_eq_some_iff.mp h
        have hnext : place t rows (limite + 1) parent (idTexto t row :: guard) ordered =
            some antes := ih hantes
        simp only [hnext, Option.map_some]
        exact congrArg some heq

theorem place_le {rows : List (Registro Id Data)} {limite maior : ℕ} {row : Registro Id Data}
    {guard : List String} {ordered ordered' : List (Registro Id Data)} (hle : limite ≤ maior)
    (h : place t rows limite row guard ordered = some ordered') :
    place t rows maior row guard ordered = some ordered' := by
  induction hle with
  | refl => exact h
  | step _ ih => exact place_mono ih

theorem placeAll_le {rows : List (Registro Id Data)} {limite maior : ℕ} (hle : limite ≤ maior)
    {rest ordered ordered' : List (Registro Id Data)}
    (h : placeAll t rows limite rest ordered = some ordered') :
    placeAll t rows maior rest ordered = some ordered' := by
  induction rest generalizing ordered with
  | nil => exact h
  | cons row rest ih =>
    unfold placeAll at h ⊢
    obtain ⟨next, hnext, hrest⟩ := Option.bind_eq_some_iff.mp h
    exact Option.bind_eq_some_iff.mpr ⟨next, place_le hle hnext, ih hrest⟩

/-- The guard grows with each level, and holds identifiers of the list. -/
theorem exists_place {rows : List (Registro Id Data)} (hids : (rows.map (idTexto t)).Nodup)
    {limite : ℕ} {row : Registro Id Data} {guard : List String} (hrow : row ∈ rows)
    (hguard : guard.Nodup) (hsub : guard ⊆ rows.map (idTexto t))
    (hlimit : rows.length < limite + guard.length) (ordered : List (Registro Id Data)) :
    ∃ ordered', place t rows limite row guard ordered = some ordered' := by
  induction limite generalizing row guard with
  | zero =>
    have hlength := (hguard.subperm hsub).length_le
    rw [List.length_map] at hlength
    omega
  | succ limite ih =>
    unfold place
    by_cases hknown : idTexto t row ∈ ordered.map (idTexto t) ∨ idTexto t row ∈ guard
    · exact ⟨ordered, if_pos hknown⟩
    · rw [if_neg hknown]
      cases hparent : (predecessor t row).bind (byId t rows) with
      | none => exact ⟨_, rfl⟩
      | some parent =>
        have hmem : parent ∈ rows := ((parent_eq_some hids hrow).mp hparent).1
        have hnew : (idTexto t row :: guard).Nodup :=
          List.nodup_cons.mpr ⟨fun h => hknown (.inr h), hguard⟩
        have hnewsub : idTexto t row :: guard ⊆ rows.map (idTexto t) :=
          List.cons_subset.mpr ⟨List.mem_map_of_mem hrow, hsub⟩
        obtain ⟨antes, hantes⟩ := ih hmem hnew hnewsub (by rw [List.length_cons]; omega)
        simp only [hantes, Option.map_some]
        exact ⟨_, rfl⟩

theorem exists_placeAll {rows : List (Registro Id Data)} (hids : (rows.map (idTexto t)).Nodup)
    {limite : ℕ} (hlimit : rows.length < limite) {rest : List (Registro Id Data)}
    (hrest : rest ⊆ rows) (ordered : List (Registro Id Data)) :
    ∃ ordered', placeAll t rows limite rest ordered = some ordered' := by
  induction rest generalizing ordered with
  | nil => exact ⟨ordered, rfl⟩
  | cons row rest ih =>
    obtain ⟨hrow, hrest⟩ := List.cons_subset.mp hrest
    obtain ⟨next, hnext⟩ := exists_place hids hrow List.nodup_nil (List.nil_subset _)
      (by simpa using hlimit) ordered
    obtain ⟨last, hlast⟩ := ih hrest next
    exact ⟨last, by rw [placeAll, hnext, Option.bind_some, hlast]⟩

/-! ## What is returned -/

/-- No row is placed twice. -/
theorem place_nodup {rows : List (Registro Id Data)} {limite : ℕ} {row : Registro Id Data}
    {guard : List String} {ordered ordered' : List (Registro Id Data)}
    (h : place t rows limite row guard ordered = some ordered')
    (hnodup : (ordered.map (idTexto t)).Nodup) : (ordered'.map (idTexto t)).Nodup := by
  induction limite generalizing row guard ordered ordered' with
  | zero => cases h
  | succ limite ih =>
    unfold place at h
    by_cases hknown : idTexto t row ∈ ordered.map (idTexto t) ∨ idTexto t row ∈ guard
    · rw [if_pos hknown] at h
      rwa [← Option.some.inj h]
    · rw [if_neg hknown] at h
      obtain ⟨antes, hantes, rfl⟩ := Option.map_eq_some_iff.mp h
      have hbefore : (antes.map (idTexto t)).Nodup := by
        cases hparent : (predecessor t row).bind (byId t rows) with
        | none =>
          rw [hparent] at hantes
          rwa [← Option.some.inj hantes]
        | some parent =>
          rw [hparent] at hantes
          exact ih hantes hnodup
      by_cases hplaced : idTexto t row ∈ antes.map (idTexto t)
      · rwa [if_pos hplaced]
      · rw [if_neg hplaced, List.map_append, List.map_singleton]
        rw [← List.concat_eq_append]
        exact hbefore.concat hplaced

theorem PredecessoresAntes.append {rows ordered : List (Registro Id Data)}
    {row : Registro Id Data} (h : PredecessoresAntes t rows ordered)
    (hrow : ∀ parent, Antecede t rows parent row → parent ∈ ordered) :
    PredecessoresAntes t rows (ordered ++ [row]) := by
  intro antes other depois heq parent hparent
  obtain rfl | ⟨init, last, rfl⟩ := List.eq_nil_or_concat depois
  · obtain ⟨rfl, hother⟩ := List.append_inj' heq rfl
    obtain rfl := List.head_eq_of_cons_eq hother
    exact hrow parent hparent
  · rw [List.concat_eq_append, ← List.cons_append, ← List.append_assoc] at heq
    exact h antes other init (List.append_inj' heq rfl).1 parent hparent

/-- A row with the identifier of a placed one is that one. -/
theorem mem_of_id_mem {rows ordered : List (Registro Id Data)}
    (hids : (rows.map (idTexto t)).Nodup) (hordered : ordered ⊆ rows) {row : Registro Id Data}
    (hrow : row ∈ rows) (h : idTexto t row ∈ ordered.map (idTexto t)) : row ∈ ordered := by
  obtain ⟨other, hother, hsame⟩ := List.mem_map.mp h
  rwa [← List.inj_on_of_nodup_map hids (hordered hother) hrow hsame]

/-- The rows whose identifiers guard a call wait for its row. -/
def Aguardam (t : Textos Id Data) (rows : List (Registro Id Data)) (guard : List String)
    (row : Registro Id Data) : Prop :=
  ∀ id ∈ guard, ∃ waiting ∈ rows, idTexto t waiting = id ∧
    Relation.TransGen (Antecede t rows) row waiting

theorem Aguardam.cons {rows : List (Registro Id Data)} {guard : List String}
    {parent row : Registro Id Data} (h : Aguardam t rows guard row)
    (hedge : Antecede t rows parent row) : Aguardam t rows (idTexto t row :: guard) parent := by
  intro id hid
  obtain rfl | hid := List.mem_cons.mp hid
  · exact ⟨row, hedge.2.1, rfl, .single hedge⟩
  · obtain ⟨waiting, hmem, hsame, hpath⟩ := h id hid
    exact ⟨waiting, hmem, hsame, .head hedge hpath⟩

/-- Without a cycle no row waits for itself. -/
theorem Aguardam.not_mem {rows : List (Registro Id Data)} {guard : List String}
    {row : Registro Id Data} (h : Aguardam t rows guard row)
    (hids : (rows.map (idTexto t)).Nodup)
    (hacyclic : ∀ row, ¬Relation.TransGen (Antecede t rows) row row) (hrow : row ∈ rows) :
    idTexto t row ∉ guard := by
  intro hmem
  obtain ⟨waiting, hwaiting, hid, hpath⟩ := h _ hmem
  rw [List.inj_on_of_nodup_map hids hwaiting hrow hid] at hpath
  exact hacyclic row hpath

section Acyclic

variable {rows : List (Registro Id Data)} (hids : (rows.map (idTexto t)).Nodup)
  (hacyclic : ∀ row, ¬Relation.TransGen (Antecede t rows) row row)

include hids hacyclic

/-- A call places its row. -/
theorem mem_of_place {limite : ℕ} {row : Registro Id Data} {guard : List String}
    {ordered ordered' : List (Registro Id Data)}
    (h : place t rows limite row guard ordered = some ordered') (hrow : row ∈ rows)
    (hordered : ordered ⊆ rows) (hguard : Aguardam t rows guard row) : row ∈ ordered' := by
  obtain ⟨-, hin, hplaced⟩ := place_ok h hrow hordered
  exact mem_of_id_mem hids hin hrow (hplaced.resolve_left (hguard.not_mem hids hacyclic hrow))

/-- A call keeps the order: the parent is placed before its row. -/
theorem place_ordered {limite : ℕ} {row : Registro Id Data} {guard : List String}
    {ordered ordered' : List (Registro Id Data)}
    (h : place t rows limite row guard ordered = some ordered') (hrow : row ∈ rows)
    (hordered : ordered ⊆ rows) (hbefore : PredecessoresAntes t rows ordered)
    (hguard : Aguardam t rows guard row) : PredecessoresAntes t rows ordered' := by
  induction limite generalizing row guard ordered ordered' with
  | zero => cases h
  | succ limite ih =>
    unfold place at h
    by_cases hknown : idTexto t row ∈ ordered.map (idTexto t) ∨ idTexto t row ∈ guard
    · rw [if_pos hknown] at h
      rwa [← Option.some.inj h]
    rw [if_neg hknown] at h
    obtain ⟨antes, hantes, rfl⟩ := Option.map_eq_some_iff.mp h
    have hnext : PredecessoresAntes t rows antes ∧
        ∀ parent, Antecede t rows parent row → parent ∈ antes := by
      cases hparent : (predecessor t row).bind (byId t rows) with
      | none =>
        rw [hparent] at hantes
        rw [← Option.some.inj hantes]
        refine ⟨hbefore, fun parent hmem => ?_⟩
        rw [(parent_eq_some hids hrow).mpr hmem] at hparent
        cases hparent
      | some parent =>
        rw [hparent] at hantes
        have hedge : Antecede t rows parent row := (parent_eq_some hids hrow).mp hparent
        have hwaiting := hguard.cons hedge
        refine ⟨ih hantes hedge.1 hordered hbefore hwaiting, fun other hother => ?_⟩
        have hsome := (parent_eq_some hids hrow).mpr hother
        rw [hparent] at hsome
        rw [← Option.some.inj hsome]
        exact mem_of_place hids hacyclic hantes hedge.1 hordered hwaiting
    by_cases hdone : idTexto t row ∈ antes.map (idTexto t)
    · rw [if_pos hdone]
      exact hnext.1
    · rw [if_neg hdone]
      exact hnext.1.append hnext.2

end Acyclic

/-- A row whose parent is placed goes to the end at once. -/
theorem place_pronta {rows ordered : List (Registro Id Data)}
    (hids : (rows.map (idTexto t)).Nodup) {row : Registro Id Data} (hrow : row ∈ rows)
    (hnew : idTexto t row ∉ ordered.map (idTexto t))
    (hparents : ∀ parent, Antecede t rows parent row → parent ∈ ordered) (limite : ℕ) :
    place t rows (limite + 2) row [] ordered = some (ordered ++ [row]) := by
  have hunknown : ¬(idTexto t row ∈ ordered.map (idTexto t) ∨ idTexto t row ∈ ([] : List String)) := by
    simpa using hnew
  unfold place
  rw [if_neg hunknown]
  cases hparent : (predecessor t row).bind (byId t rows) with
  | none => simp only [Option.map_some, if_neg hnew]
  | some parent =>
    have hedge : Antecede t rows parent row := (parent_eq_some hids hrow).mp hparent
    have hplaced : idTexto t parent ∈ ordered.map (idTexto t) :=
      List.mem_map_of_mem (hparents parent hedge)
    have hkeep : place t rows (limite + 1) parent [idTexto t row] ordered = some ordered := by
      unfold place
      exact if_pos (.inl hplaced)
    simp only [hkeep, Option.map_some, if_neg hnew]

/-! ## The whole list -/

theorem placeAll_nodup {rows : List (Registro Id Data)} {limite : ℕ}
    {rest ordered ordered' : List (Registro Id Data)}
    (h : placeAll t rows limite rest ordered = some ordered')
    (hnodup : (ordered.map (idTexto t)).Nodup) : (ordered'.map (idTexto t)).Nodup := by
  induction rest generalizing ordered with
  | nil => rwa [← Option.some.inj h]
  | cons row rest ih =>
    unfold placeAll at h
    obtain ⟨next, hnext, h⟩ := Option.bind_eq_some_iff.mp h
    exact ih h (place_nodup hnext hnodup)

theorem placeAll_ordered {rows : List (Registro Id Data)} (hids : (rows.map (idTexto t)).Nodup)
    (hacyclic : ∀ row, ¬Relation.TransGen (Antecede t rows) row row) {limite : ℕ}
    {rest ordered ordered' : List (Registro Id Data)}
    (h : placeAll t rows limite rest ordered = some ordered') (hrest : rest ⊆ rows)
    (hordered : ordered ⊆ rows) (hbefore : PredecessoresAntes t rows ordered) :
    PredecessoresAntes t rows ordered' := by
  induction rest generalizing ordered with
  | nil => rwa [← Option.some.inj h]
  | cons row rest ih =>
    unfold placeAll at h
    obtain ⟨next, hnext, h⟩ := Option.bind_eq_some_iff.mp h
    obtain ⟨hrow, hrest⟩ := List.cons_subset.mp hrest
    have hguard : Aguardam t rows [] row := fun id hid => (List.not_mem_nil hid).elim
    exact ih h hrest (place_ok hnext hrow hordered).2.1
      (place_ordered hids hacyclic hnext hrow hordered hbefore hguard)

/-- Rows that are in order stay where they are. -/
theorem placeAll_pronta {rows : List (Registro Id Data)} (hids : (rows.map (idTexto t)).Nodup)
    (hbefore : PredecessoresAntes t rows rows) (limite : ℕ) {rest ordered : List (Registro Id Data)}
    (hrows : rows = ordered ++ rest) :
    placeAll t rows (limite + 2) rest ordered = some rows := by
  induction rest generalizing ordered with
  | nil => rw [hrows, List.append_nil]; rfl
  | cons row rest ih =>
    have hrow : row ∈ rows := by rw [hrows]; simp
    have hnew : idTexto t row ∉ ordered.map (idTexto t) := by
      rw [hrows, List.map_append, List.map_cons] at hids
      exact fun hmem => (List.nodup_append.mp hids).2.2 _ hmem _ List.mem_cons_self rfl
    have hplace := place_pronta hids hrow hnew (hbefore ordered row rest hrows) limite
    rw [placeAll, hplace, Option.bind_some]
    exact ih (by rw [hrows]; simp)

/-- Rows with distinct identifiers, in any order: whatever the limit there is one result, and
every limit above their number reaches it. It is a permutation, with predecessors first
where there is no cycle; rows in order are returned as they stand, and the rows of a set
listed in a canonical order give one result. -/
theorem events_ordered {rows : List (Registro Id Data)} (hids : (rows.map (idTexto t)).Nodup) :
    ∃ ordered, (∀ limite, rows.length < limite →
        topologicallyOrderedEvents t limite rows = some ordered) ∧
      (∀ limite other, topologicallyOrderedEvents t limite rows = some other → other = ordered) ∧
      ordered.Perm rows ∧
      ((∀ row, ¬Relation.TransGen (Antecede t rows) row row) →
        PredecessoresAntes t rows ordered) ∧
      (PredecessoresAntes t rows rows → ordered = rows) ∧
      ∀ (canonica : Registro Id Data → Registro Id Data → Prop) (outras : List (Registro Id Data)),
        (∀ a b, canonica a b → ¬canonica b a) → outras.Perm rows → rows.Pairwise canonica →
        outras.Pairwise canonica → ∀ limite, rows.length < limite →
          topologicallyOrderedEvents t limite outras = some ordered := by
  obtain ⟨ordered, hordered⟩ := exists_placeAll hids (Nat.lt_succ_self rows.length)
    (List.Subset.refl rows) []
  have hreturn : ∀ limite, rows.length < limite →
      topologicallyOrderedEvents t limite rows = some ordered :=
    fun limite hlimit => placeAll_le hlimit hordered
  obtain ⟨-, hin, hevery⟩ :=
    placeAll_ok hordered (List.Subset.refl rows) (List.nil_subset _)
  have hnodup : (ordered.map (idTexto t)).Nodup := placeAll_nodup hordered List.nodup_nil
  refine ⟨ordered, hreturn, ?_, ?_, ?_, ?_, ?_⟩
  · intro limite other hother
    have hlarge : topologicallyOrderedEvents t (limite + rows.length + 1) rows = some other :=
      placeAll_le (by omega) hother
    rw [hreturn _ (by omega)] at hlarge
    exact (Option.some.inj hlarge).symm
  · refine (List.perm_ext_iff_of_nodup (List.Nodup.of_map _ hnodup) (List.Nodup.of_map _ hids)).mpr ?_
    exact fun row => ⟨fun h => hin h, fun h => mem_of_id_mem hids hin h (hevery row h)⟩
  · intro hacyclic
    refine placeAll_ordered hids hacyclic hordered (List.Subset.refl rows) (List.nil_subset _) ?_
    intro antes row depois heq
    simp at heq
  · intro hbefore
    have hready := placeAll_pronta hids hbefore rows.length (List.nil_append rows).symm
    have hsame := hreturn (rows.length + 2) (by omega)
    exact Option.some.inj (hsame.symm.trans hready)
  · intro canonica outras hasymm hperm hrows houtras limite hlimit
    have hsame : outras = rows := hperm.eq_of_pairwise
      (fun a b _ _ hab hba => absurd hba (hasymm a b hab)) houtras hrows
    rw [hsame]
    exact hreturn limite hlimit

/-! ## Two events -/

/-- The texts of two identifiers, and of one instant. -/
def textosDeDois : Textos Bool Unit where
  str b :=
    if b then "9f1c2b7e-3d4a-4c5b-8e6f-0a1b2c3d4e5f" else "0d2e4f60-7182-4394-a5b6-c7d8e9fa0b1c"
  uuid s :=
    if s = "9f1c2b7e-3d4a-4c5b-8e6f-0a1b2c3d4e5f" then some true
    else if s = "0d2e4f60-7182-4394-a5b6-c7d8e9fa0b1c" then some false
    else none
  isoformat _ := "2026-01-01T00:00:00+00:00"
  fromisoformat s := if s = "2026-01-01T00:00:00+00:00" then some () else none
  mesmoInstante _ _ := true
  repr _ := "None"
  uuid_str := by decide
  uuid_null := by decide
  fromisoformat_isoformat := by decide
  mesmoInstante_self := by decide

/-- An event without a predecessor. -/
def raiz (b : Bool) : Registro Bool Unit := [("id", .uuid b), ("predecessor_event_id", .null)]

/-- An event after the other one. -/
def seguinte (b : Bool) : Registro Bool Unit :=
  [("id", .uuid b), ("predecessor_event_id", .uuid !b)]

theorem events_ordered_chain : ∃ ordered,
    topologicallyOrderedEvents textosDeDois 3 [seguinte true, raiz false] = some ordered ∧
      ordered.Perm [seguinte true, raiz false] := by
  have hids : ([seguinte true, raiz false].map (idTexto textosDeDois)).Nodup := by decide
  obtain ⟨ordered, hreturn, -, hperm, -⟩ := events_ordered hids
  exact ⟨ordered, hreturn 3 (by decide), hperm⟩

/-- Two events without predecessors are returned in the order in which they came. -/
theorem events_keep_their_order :
    ¬∀ rows outras : List (Registro Bool Unit), (rows.map (idTexto textosDeDois)).Nodup →
      (∀ row, ¬Relation.TransGen (Antecede textosDeDois rows) row row) → outras.Perm rows →
        ∀ limite, rows.length < limite →
          topologicallyOrderedEvents textosDeDois limite outras =
            topologicallyOrderedEvents textosDeDois limite rows := by
  intro h
  have hacyclic : ∀ row,
      ¬Relation.TransGen (Antecede textosDeDois [raiz true, raiz false]) row row := by
    intro row hpath
    obtain ⟨parent, -, -, hrow, hid⟩ := Relation.TransGen.tail'_iff.mp hpath
    have hnone : predecessor textosDeDois row = none := by
      obtain rfl | hrow := List.mem_cons.mp hrow
      · rfl
      · obtain rfl := List.mem_singleton.mp hrow
        rfl
    rw [hnone] at hid
    cases hid
  have hsame := h [raiz true, raiz false] [raiz false, raiz true] (by decide) hacyclic
    (List.Perm.swap _ _ _) 3 (by decide)
  have hleft : topologicallyOrderedEvents textosDeDois 3 [raiz false, raiz true] =
      some [raiz false, raiz true] := by rfl
  have hright : topologicallyOrderedEvents textosDeDois 3 [raiz true, raiz false] =
      some [raiz true, raiz false] := by rfl
  rw [hleft, hright] at hsame
  cases hsame

end PiaOs.Sync
