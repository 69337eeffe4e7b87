import PiaOs.Support.Cycles

/-!
# The cycle finder

`find_cycle` as it stands: colours and parents in dictionaries, a stack of nodes with the
index of the neighbour to look at next, and a path that is rebuilt from the parents. It
takes the steps of the search over an adjacency table.
-/

namespace PiaOs.Integrity.IntegrityManager

open Support

variable {Id : Type} [DecidableEq Id]

inductive Color
  | white
  | gray
  | black
  deriving DecidableEq

/-- Why a call has no result: its steps ran out, or a key is missing. -/
inductive Interrupted
  | running
  | keyError

/-- `color`, where a node without an entry is white, and `parent`. -/
structure Marks (Id : Type) where
  color : Id → Color
  parent : Id → Option (Option Id)

def Marks.paint (marks : Marks Id) (node : Id) (color : Color) : Marks Id :=
  { marks with color := Function.update marks.color node color }

/-- A node is discovered: gray, with the node it was reached from. -/
def Marks.discover (marks : Marks Id) (node : Id) (parent : Option Id) : Marks Id :=
  { color := Function.update marks.color node .gray
    parent := Function.update marks.parent node (some parent) }

/-- The loop of `_rebuild_cycle`. -/
def climb (parent : Id → Option (Option Id)) (target : Id) :
    ℕ → Id → List Id → Except Interrupted (List Id)
  | 0, _, _ => .error .running
  | fuel + 1, current, path =>
    if current = target then .ok path
    else
      match parent current with
      | none => .error .keyError
      | some none => .ok path
      | some (some previous) => climb parent target fuel previous (path ++ [previous])

/-- `_rebuild_cycle`. -/
def rebuildCycle (parent : Id → Option (Option Id)) (fuel : ℕ) (node target : Id) :
    Except Interrupted (List Id) := do
  let path ← climb parent target fuel node [node]
  return path.reverse ++ [target]

/-- The loop over the stack: it returns a path from the function, or leaves its marks. -/
def whileStack (adj : Adjacency Id) :
    ℕ → List (Id × ℕ) → Marks Id → Except Interrupted (List Id ⊕ Marks Id)
  | 0, _, _ => .error .running
  | _ + 1, [], marks => .ok (.inr marks)
  | fuel + 1, (node, index) :: below, marks =>
    match (adj.neighbours node)[index]? with
    | none => whileStack adj fuel below (marks.paint node .black)
    | some neighbour =>
      match marks.color neighbour with
      | .gray => .inl <$> rebuildCycle marks.parent fuel node neighbour
      | .white =>
        whileStack adj fuel ((neighbour, 0) :: (node, index + 1) :: below)
          (marks.discover neighbour (some node))
      | .black => whileStack adj fuel ((node, index + 1) :: below) marks

/-- The loop over the roots. -/
def forRoots (adj : Adjacency Id) (fuel : ℕ) :
    List Id → Marks Id → Except Interrupted (Option (List Id))
  | [], _ => .ok none
  | root :: roots, marks =>
    if marks.color root ≠ .white then forRoots adj fuel roots marks
    else do
      match ← whileStack adj fuel [(root, 0)] (marks.discover root none) with
      | .inl path => return some path
      | .inr marks => forRoots adj fuel roots marks

/-- `find_cycle`. -/
def findCycle (adj : Adjacency Id) (fuel : ℕ) : Except Interrupted (Option (List Id)) :=
  forRoots adj fuel (adj.map (·.1)) { color := fun _ => .white, parent := fun _ => none }

/-! ## The stack and the marks -/

/-- Each node of the stack was reached from the one below it. -/
inductive Parents (parent : Id → Option (Option Id)) : List Id → Prop
  | nil : Parents parent []
  | root {v : Id} (hnone : parent v = some none) : Parents parent [v]
  | cons {v w : Id} {rest : List Id} (hsome : parent v = some (some w))
      (hrest : Parents parent (w :: rest)) : Parents parent (v :: w :: rest)

omit [DecidableEq Id] in
theorem Parents.tail {parent : Id → Option (Option Id)} {v : Id} {rest : List Id}
    (h : Parents parent (v :: rest)) : Parents parent rest := by
  cases h with
  | root => exact .nil
  | cons _ hrest => exact hrest

theorem Parents.update {parent : Id → Option (Option Id)} {nodes : List Id} {v : Id}
    {p : Option (Option Id)} (h : Parents parent nodes) (hv : v ∉ nodes) :
    Parents (Function.update parent v p) nodes := by
  induction h with
  | nil => exact .nil
  | @root u hnone =>
    have hne : u ≠ v := fun heq => hv (heq ▸ List.mem_cons_self)
    exact .root (by rwa [Function.update_of_ne hne])
  | @cons u w rest hsome _ ih =>
    have hne : u ≠ v := fun heq => hv (heq ▸ List.mem_cons_self)
    exact .cons (by rwa [Function.update_of_ne hne]) (ih fun hmem => hv (List.mem_cons_of_mem _ hmem))

/-- Climbing from the top of the stack to a node on it reads the stack. -/
theorem climb_eq {parent : Id → Option (Option Id)} {target : Id} {fuel : ℕ} {nodes : List Id}
    (h : Parents parent nodes) (htarget : target ∈ nodes) (hfuel : nodes.length ≤ fuel) :
    ∀ node rest before, nodes = node :: rest →
      climb parent target fuel node (before ++ [node]) =
        .ok (before ++ (nodes.takeWhile (· ≠ target) ++ [target])) := by
  induction h generalizing fuel with
  | nil => cases htarget
  | @root v hnone =>
    intro node rest before heq
    obtain ⟨rfl, rfl⟩ := List.cons.inj heq
    obtain rfl := List.mem_singleton.mp htarget
    obtain ⟨fuel, rfl⟩ : ∃ n, fuel = n + 1 := ⟨fuel - 1, by simp at hfuel; omega⟩
    simp [climb]
  | @cons v w rest hsome hrest ih =>
    intro node others before heq
    obtain ⟨rfl, rfl⟩ := List.cons.inj heq
    rw [List.length_cons] at hfuel
    obtain ⟨fuel, rfl⟩ : ∃ n, fuel = n + 1 := ⟨fuel - 1, by omega⟩
    by_cases hv : v = target
    · subst hv
      simp [climb]
    · have hmem : target ∈ w :: rest := (List.mem_cons.mp htarget).resolve_left fun h => hv h.symm
      have hsmall : (w :: rest).length ≤ fuel := by omega
      have hclimb := ih hmem hsmall w rest (before ++ [v]) rfl
      have htake : (v :: w :: rest).takeWhile (· ≠ target) =
          v :: (w :: rest).takeWhile (· ≠ target) := by
        rw [List.takeWhile_cons, if_pos (by simpa using hv)]
      unfold climb
      rw [if_neg hv, hsome, htake]
      simp only [List.append_assoc, List.cons_append, List.nil_append] at hclimb ⊢
      exact hclimb

/-- The stack of the search: what is left of the neighbours of each node. -/
def opened (adj : Adjacency Id) (stack : List (Id × ℕ)) : Adjacency.Stack Id :=
  stack.map fun entry => (entry.1, (adj.neighbours entry.1).drop entry.2)

@[simp] theorem nodes_opened (adj : Adjacency Id) (stack : List (Id × ℕ)) :
    Adjacency.Stack.nodes (opened adj stack) = stack.map (·.1) := by
  simp [opened, Adjacency.Stack.nodes]

/-- Gray nodes are those of the stack, black ones are finished. -/
structure Marks.Agree (marks : Marks Id) (stack : List (Id × ℕ)) (finished : List Id) : Prop where
  gray : ∀ v, marks.color v = .gray ↔ v ∈ stack.map (·.1)
  black : ∀ v, marks.color v = .black ↔ v ∈ finished
  parents : Parents marks.parent (stack.map (·.1))

omit [DecidableEq Id] in
theorem Marks.Agree.white {marks : Marks Id} {stack : List (Id × ℕ)} {finished : List Id}
    (h : marks.Agree stack finished) {v : Id} (hgray : v ∉ stack.map (·.1))
    (hblack : v ∉ finished) : marks.color v = .white := by
  cases hcolor : marks.color v with
  | white => rfl
  | gray => exact absurd ((h.gray v).mp hcolor) hgray
  | black => exact absurd ((h.black v).mp hcolor) hblack

/-- A discovered node goes on the stack. -/
theorem Marks.Agree.discover {marks : Marks Id} {stack : List (Id × ℕ)} {finished : List Id}
    (h : marks.Agree stack finished) {v : Id} (hgray : v ∉ stack.map (·.1))
    (hblack : v ∉ finished) {index : ℕ} :
    (marks.discover v (stack.head?.map (·.1))).Agree ((v, index) :: stack) finished := by
  constructor
  · intro u
    by_cases hu : u = v
    · subst hu
      simp [Marks.discover]
    · have hcolor := h.gray u
      simp only [Marks.discover, Function.update_of_ne hu, List.map_cons, List.mem_cons, hu,
        false_or]
      exact hcolor
  · intro u
    by_cases hu : u = v
    · subst hu
      simp [Marks.discover, hblack]
    · have hcolor := h.black u
      simp only [Marks.discover, Function.update_of_ne hu]
      exact hcolor
  · have hparents := h.parents.update (p := some (stack.head?.map (·.1))) hgray
    cases stack with
    | nil => exact .root (Function.update_self v _ marks.parent)
    | cons below rest => exact .cons (Function.update_self v _ marks.parent) hparents

/-- A finished node leaves the stack. -/
theorem Marks.Agree.finish {marks : Marks Id} {node : Id} {index : ℕ} {below : List (Id × ℕ)}
    {finished : List Id} (h : marks.Agree ((node, index) :: below) finished)
    (hnode : node ∉ below.map (·.1)) :
    (marks.paint node .black).Agree below (node :: finished) := by
  constructor
  · intro u
    by_cases hu : u = node
    · subst hu
      simpa [Marks.paint] using hnode
    · have hcolor := h.gray u
      simp only [List.map_cons, List.mem_cons, hu, false_or] at hcolor
      simp only [Marks.paint, Function.update_of_ne hu]
      exact hcolor
  · intro u
    by_cases hu : u = node
    · subst hu
      simp [Marks.paint]
    · have hcolor := h.black u
      simp only [Marks.paint, Function.update_of_ne hu, List.mem_cons, hu, false_or]
      exact hcolor
  · exact h.parents.tail

omit [DecidableEq Id] in
/-- The index of a node moves on. -/
theorem Marks.Agree.advance {marks : Marks Id} {node : Id} {index : ℕ}
    {below : List (Id × ℕ)} {finished : List Id}
    (h : marks.Agree ((node, index) :: below) finished) (next : ℕ) :
    marks.Agree ((node, next) :: below) finished :=
  ⟨h.gray, h.black, h.parents⟩

/-! ## The loops take the steps of the search -/

/-- The loop ends as the search does: with its path, which is a cycle, or with marks that
agree with its finished nodes. -/
def Mirrors (adj : Adjacency Id) (outcome : Except (List Id) (List Id))
    (result : Except Interrupted (List Id ⊕ Marks Id)) : Prop :=
  (∃ path, outcome = .error path ∧ adj.IsCycle path ∧ result = .ok (.inl path)) ∨
    ∃ finished marks, outcome = .ok finished ∧ adj.Ranked finished ∧ marks.Agree [] finished ∧
      result = .ok (.inr marks)

theorem whileStack_mirrors {adj : Adjacency Id} {fuel fuel' : ℕ} {stack : List (Id × ℕ)}
    {marks : Marks Id} {finished : List Id} (h : adj.Searching (opened adj stack) finished)
    (hmarks : marks.Agree stack finished)
    (hfuel : adj.remaining (opened adj stack) finished < fuel)
    (hfuel' : adj.remaining (opened adj stack) finished < fuel') :
    Mirrors adj (adj.explore fuel' (opened adj stack) finished)
      (whileStack adj fuel stack marks) := by
  induction fuel generalizing fuel' stack marks finished with
  | zero => omega
  | succ fuel ih =>
    obtain ⟨fuel', rfl⟩ : ∃ n, fuel' = n + 1 := ⟨fuel' - 1, by omega⟩
    cases stack with
    | nil => exact .inr ⟨finished, marks, rfl, h.ranked, hmarks, rfl⟩
    | cons entry below =>
      obtain ⟨node, index⟩ := entry
      have hopened : opened adj ((node, index) :: below) =
          (node, (adj.neighbours node).drop index) :: opened adj below := rfl
      rw [hopened] at h hfuel hfuel' ⊢
      unfold whileStack
      cases hindex : (adj.neighbours node)[index]? with
      | none =>
        have hdrop : (adj.neighbours node).drop index = [] :=
          List.drop_eq_nil_of_le (List.getElem?_eq_none_iff.mp hindex)
        rw [hdrop] at h hfuel hfuel' ⊢
        obtain ⟨hnext, hcost⟩ := h.pop
        have hnode : node ∉ below.map (·.1) := by
          have hdistinct := h.chain.path.1
          simp only [Adjacency.Stack.nodes, List.map_cons, List.nodup_cons] at hdistinct
          simpa [opened] using hdistinct.1
        unfold Adjacency.explore
        exact ih hnext (hmarks.finish hnode) (by omega) (by omega)
      | some v =>
        have hdrop : (adj.neighbours node).drop index =
            v :: (adj.neighbours node).drop (index + 1) := by
          obtain ⟨hlt, hv⟩ := List.getElem?_eq_some_iff.mp hindex
          rw [List.drop_eq_getElem_cons hlt, hv]
        rw [hdrop] at h hfuel hfuel' ⊢
        have hnodes : (node :: Adjacency.Stack.nodes (opened adj below)) =
            ((node, index) :: below).map (·.1) := by simp
        unfold Adjacency.explore
        by_cases hgray : v ∈ node :: Adjacency.Stack.nodes (opened adj below)
        · have hcolor : marks.color v = .gray := (hmarks.gray v).mpr (hnodes ▸ hgray)
          have hlength : (((node, index) :: below).map (·.1)).length ≤ fuel := by
            have hload := Adjacency.length_le_load
              ((node, v :: (adj.neighbours node).drop (index + 1)) :: opened adj below)
            unfold Adjacency.remaining at hfuel
            simp only [opened, List.length_cons, List.length_map] at hload hfuel ⊢
            omega
          have hclimb := climb_eq hmarks.parents (hnodes ▸ hgray) hlength node _ [] rfl
          rw [if_pos hgray]
          refine .inl ⟨_, rfl, h.close hgray, ?_⟩
          simp only [hcolor, rebuildCycle]
          rw [List.nil_append, List.nil_append, ← hnodes] at hclimb
          rw [hclimb]
          rfl
        · rw [if_neg hgray]
          by_cases hblack : v ∈ finished
          · have hcolor : marks.color v = .black := (hmarks.black v).mpr hblack
            obtain ⟨hnext, hcost⟩ := h.skip hblack
            change adj.Searching (opened adj ((node, index + 1) :: below)) finished at hnext
            change adj.remaining (opened adj ((node, index + 1) :: below)) finished < _ at hcost
            rw [if_pos hblack]
            simp only [hcolor]
            exact ih hnext (hmarks.advance (index + 1)) (by omega) (by omega)
          · have hout : v ∉ ((node, index + 1) :: below).map (·.1) := by
              simpa using hgray
            have hcolor : marks.color v = .white := hmarks.white (by simpa using hgray) hblack
            obtain ⟨hnext, hcost⟩ := h.push hgray hblack
            change adj.Searching (opened adj ((v, 0) :: (node, index + 1) :: below)) finished at hnext
            change adj.remaining (opened adj ((v, 0) :: (node, index + 1) :: below)) finished < _
              at hcost
            rw [if_neg hblack]
            simp only [hcolor]
            exact ih hnext ((hmarks.advance (index + 1)).discover hout hblack) (by omega)
              (by omega)

omit [DecidableEq Id] in
/-- Between two roots the stack is empty. -/
theorem Marks.Agree.color_ne_white {marks : Marks Id} {finished : List Id}
    (h : marks.Agree [] finished) {v : Id} : marks.color v ≠ .white ↔ v ∈ finished := by
  rw [← h.black v]
  cases hcolor : marks.color v with
  | white => simp
  | gray => exact absurd ((h.gray v).mp hcolor) List.not_mem_nil
  | black => simp

/-- The loop over the roots ends as the search from them does. -/
theorem forRoots_mirrors {adj : Adjacency Id} {fuel : ℕ} {roots finished : List Id}
    {marks : Marks Id} (hfuel : adj.cost < fuel) (hroots : ∀ root ∈ roots, root ∈ adj.vertices)
    (hranked : adj.Ranked finished) (hmarks : marks.Agree [] finished) :
    (∃ path, adj.searchFrom roots finished = .error path ∧ adj.IsCycle path ∧
        forRoots adj fuel roots marks = .ok (some path)) ∨
      ∃ all, adj.searchFrom roots finished = .ok all ∧ forRoots adj fuel roots marks = .ok none := by
  induction roots generalizing finished marks with
  | nil => exact .inr ⟨finished, rfl, rfl⟩
  | cons root roots ih =>
    have hothers : ∀ other ∈ roots, other ∈ adj.vertices :=
      fun other hother => hroots other (List.mem_cons_of_mem _ hother)
    unfold Adjacency.searchFrom forRoots
    by_cases hroot : root ∈ finished
    · rw [if_pos hroot, if_pos (hmarks.color_ne_white.mpr hroot)]
      exact ih hothers hranked hmarks
    · rw [if_neg hroot, if_neg (mt hmarks.color_ne_white.mp hroot)]
      obtain ⟨hsearching, hcost⟩ :=
        Adjacency.Searching.root hranked (hroots root List.mem_cons_self) hroot
      change adj.remaining (opened adj [(root, 0)]) finished < _ at hcost
      have hdiscovered : (marks.discover root none).Agree [(root, 0)] finished :=
        hmarks.discover List.not_mem_nil hroot
      have hmirrors : Mirrors adj
          (adj.explore (adj.cost + 1) [(root, adj.neighbours root)] finished)
          (whileStack adj fuel [(root, 0)] (marks.discover root none)) :=
        whileStack_mirrors hsearching hdiscovered (by omega) hcost
      obtain ⟨path, hexplore, hcycle, hwhile⟩ | ⟨all, marks', hexplore, hall, hagree, hwhile⟩ :=
        hmirrors
      · rw [hexplore, hwhile]
        exact .inl ⟨path, rfl, hcycle, rfl⟩
      · rw [hexplore, hwhile]
        exact ih hothers hall hagree

/-- With enough steps the function returns what the search returns. -/
theorem findCycle_eq {adj : Adjacency Id} {fuel : ℕ} (hfuel : adj.cost < fuel) :
    findCycle adj fuel = .ok adj.findCycle ∧
      ∀ path, adj.findCycle = some path → adj.IsCycle path := by
  have hroots : ∀ root ∈ adj.map (·.1), root ∈ adj.vertices :=
    fun root hroot => Adjacency.mem_vertices_of_key hroot
  have hmarks : ({ color := fun _ => .white, parent := fun _ => none } : Marks Id).Agree [] [] := by
    constructor
    · simp
    · simp
    · exact .nil
  unfold findCycle Adjacency.findCycle
  obtain ⟨path, hsearch, hcycle, hloop⟩ | ⟨all, hsearch, hloop⟩ :=
    forRoots_mirrors hfuel hroots .nil hmarks
  · rw [hsearch, hloop]
    refine ⟨rfl, fun other hother => ?_⟩
    obtain rfl := Option.some.inj hother
    exact hcycle
  · rw [hsearch, hloop]
    refine ⟨rfl, fun other hother => ?_⟩
    cases hother

/-- On every graph the function returns, with nothing exactly when the graph has no cycle,
and else with a closed path along edges whose nodes are distinct. -/
theorem find_cycle_decides (adj : Adjacency Id) :
    ∃ result, (∀ fuel, adj.cost < fuel → findCycle adj fuel = .ok result) ∧
      (result = none ↔ adj.Acyclic) ∧ ∀ path, result = some path → adj.IsCycle path :=
  ⟨adj.findCycle, fun _ hfuel => (findCycle_eq hfuel).1, Adjacency.findCycle_eq_none_iff,
    (findCycle_eq (Nat.lt_succ_self adj.cost)).2⟩

end PiaOs.Integrity.IntegrityManager
