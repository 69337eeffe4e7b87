import Mathlib.Algebra.BigOperators.Group.Finset.Basic
import Mathlib.Algebra.GroupWithZero.Nat
import Mathlib.Algebra.BigOperators.Group.List.Basic
import Mathlib.Algebra.Order.BigOperators.Group.Finset
import Mathlib.Data.Finset.Filter
import Mathlib.Data.Finset.Union
import Mathlib.Data.Finset.Dedup
import Mathlib.Logic.Relation

/-!
# Depth-first search for a cycle

An iterative search over an adjacency table. A node on the stack is gray and a finished
node black; the search stops at an edge into a gray node. It stops so exactly when the
graph has a cycle.
-/

namespace Support

/-- The neighbours of each node, in the order in which the nodes were added. -/
abbrev Adjacency (α : Type) : Type := List (α × List α)

namespace Adjacency

variable {α : Type} [DecidableEq α]

/-- A node without an entry has no neighbour. -/
def neighbours (adj : Adjacency α) (v : α) : List α := (adj.lookup v).getD []

def Edge (adj : Adjacency α) (v w : α) : Prop := w ∈ adj.neighbours v

def Acyclic (adj : Adjacency α) : Prop := ∀ v, ¬Relation.TransGen adj.Edge v v

/-- Nodes of the stack with the neighbours that are still to be looked at. -/
abbrev Stack (α : Type) : Type := List (α × List α)

def Stack.nodes (stack : Stack α) : List α := stack.map (·.1)

/-- The closed path from a gray node to the top of the stack and back. -/
def rebuild (stack : Stack α) (target : α) : List α :=
  let path := (stack.nodes.takeWhile (· ≠ target)) ++ [target]
  path.reverse ++ [target]

/-- A closed path along edges whose nodes are distinct. -/
structure IsCycle (adj : Adjacency α) (path : List α) : Prop where
  closed : ∃ v inner, path = v :: inner ++ [v]
  distinct : path.dropLast.Nodup
  edges : path.IsChain adj.Edge

/-- The loop over the stack. It ends with a cycle, or with the finished nodes. -/
def explore (adj : Adjacency α) : ℕ → Stack α → List α → Except (List α) (List α)
  | 0, _, black => .ok black
  | _ + 1, [], black => .ok black
  | fuel + 1, (node, []) :: rest, black => explore adj fuel rest (node :: black)
  | fuel + 1, (node, v :: vs) :: rest, black =>
    if v ∈ node :: Stack.nodes rest then .error (rebuild ((node, v :: vs) :: rest) v)
    else if v ∈ black then explore adj fuel ((node, vs) :: rest) black
    else explore adj fuel ((v, adj.neighbours v) :: (node, vs) :: rest) black

/-- Every node of the graph. -/
def vertices (adj : Adjacency α) : Finset α :=
  (adj.flatMap fun entry => entry.1 :: entry.2).toFinset

/-- What the search of a whole graph costs: each node is pushed and popped once, and each
of its edges is looked at once. -/
def cost (adj : Adjacency α) : ℕ := ∑ v ∈ adj.vertices, ((adj.neighbours v).length + 2)

/-- The search from each node that is still white. -/
def searchFrom (adj : Adjacency α) : List α → List α → Except (List α) (List α)
  | [], black => .ok black
  | root :: roots, black =>
    if root ∈ black then searchFrom adj roots black
    else
      match explore adj (adj.cost + 1) [(root, adj.neighbours root)] black with
      | .error path => .error path
      | .ok black => searchFrom adj roots black

def findCycle (adj : Adjacency α) : Option (List α) :=
  match searchFrom adj (adj.map (·.1)) [] with
  | .error path => some path
  | .ok _ => none

/-! ## Building a table -/

/-- A node with more neighbours: a new entry, or a longer one. -/
def link (adj : Adjacency α) (node : α) (targets : List α) : Adjacency α :=
  if (adj.lookup node).isSome then
    adj.map fun entry => if entry.1 = node then (node, entry.2 ++ targets) else entry
  else adj ++ [(node, targets)]

/-- Changing the value of one key. -/
theorem lookup_map_update {β : Type} (d : List (α × β)) (key other : α) {g : β → β} :
    (d.map fun entry => if entry.1 = key then (key, g entry.2) else entry).lookup other =
      if other = key then (d.lookup other).map g else d.lookup other := by
  induction d with
  | nil => simp
  | cons entry rest ih =>
    obtain ⟨name, value⟩ := entry
    simp only [List.map_cons]
    by_cases hname : name = key
    · subst hname
      by_cases hother : other = name
      · simp [hother]
      · have hne : (other == name) = false := by simpa using hother
        rw [if_pos rfl, List.lookup_cons, List.lookup_cons, hne]
        simpa [hother] using ih
    · rw [if_neg hname]
      by_cases hother : other = name
      · subst hother
        simp [hname]
      · have hne : (other == name) = false := by simpa using hother
        rw [List.lookup_cons, List.lookup_cons, hne]
        exact ih

theorem edge_link {adj : Adjacency α} {node v w : α} {targets : List α} :
    (adj.link node targets).Edge v w ↔ adj.Edge v w ∨ (v = node ∧ w ∈ targets) := by
  unfold Edge neighbours link
  by_cases hthere : (adj.lookup node).isSome = true
  · have hupdate := lookup_map_update adj node v (g := fun old => old ++ targets)
    rw [if_pos hthere, hupdate]
    by_cases hv : v = node
    · subst hv
      obtain ⟨old, hold⟩ := Option.isSome_iff_exists.mp hthere
      simp [hold]
    · simp [hv]
  · rw [if_neg hthere]
    have hnone : adj.lookup node = none := Option.not_isSome_iff_eq_none.mp hthere
    rw [List.lookup_append]
    by_cases hv : v = node
    · subst hv
      simp [hnone]
    · have hne : (v == node) = false := by simpa using hv
      cases adj.lookup v <;> simp [List.lookup_cons, hne, hv]

/-! ## Finished nodes -/

/-- Each finished node was finished after all its neighbours. -/
inductive Ranked (adj : Adjacency α) : List α → Prop
  | nil : Ranked adj []
  | cons {v : α} {black : List α} (hnew : v ∉ black)
      (hafter : ∀ w ∈ adj.neighbours v, w ∈ black) (hrest : Ranked adj black) :
      Ranked adj (v :: black)

/-- A path from a finished node stays among the finished nodes and never comes back. -/
theorem Ranked.not_transGen {adj : Adjacency α} {black : List α} (h : Ranked adj black) :
    (∀ v ∈ black, ∀ w, Relation.ReflTransGen adj.Edge v w → w ∈ black) ∧
      ∀ v ∈ black, ¬Relation.TransGen adj.Edge v v := by
  induction h with
  | nil => exact ⟨fun v hv => (List.not_mem_nil hv).elim, fun v hv => (List.not_mem_nil hv).elim⟩
  | @cons v black hnew hafter hrest ih =>
    obtain ⟨hclosed, hacyclic⟩ := ih
    have hleave : ∀ w, Relation.TransGen adj.Edge v w → w ∈ black := by
      intro w hpath
      obtain ⟨u, hedge, hrest⟩ := Relation.TransGen.head'_iff.mp hpath
      exact hclosed u (hafter u hedge) w hrest
    constructor
    · intro u hu w hpath
      obtain rfl | hu := List.mem_cons.mp hu
      · obtain rfl | hpath := Relation.reflTransGen_iff_eq_or_transGen.mp hpath
        · exact List.mem_cons_self
        · exact List.mem_cons_of_mem _ (hleave w hpath)
      · exact List.mem_cons_of_mem _ (hclosed u hu w hpath)
    · intro u hu hpath
      obtain rfl | hu := List.mem_cons.mp hu
      · exact hnew (hleave u hpath)
      · exact hacyclic u hu hpath

/-! ## The search -/

/-- The stack below a node: every neighbour that was looked at is finished or is the node
above, and the nodes form a path of white or gray nodes. -/
inductive Chain (adj : Adjacency α) (black : List α) : Option α → Stack α → Prop
  | nil {above : Option α} : Chain adj black above []
  | cons {above : Option α} {node : α} {left : List α} {rest : Stack α}
      (hseen : ∀ w ∈ adj.neighbours node, w ∈ left ∨ w ∈ black ∨ above = some w)
      (hleft : ∀ w ∈ left, w ∈ adj.neighbours node)
      (habove : ∀ w, above = some w → w ∈ adj.neighbours node)
      (hgray : node ∉ black ∧ node ∉ Stack.nodes rest)
      (hrest : Chain adj black (some node) rest) :
      Chain adj black above ((node, left) :: rest)

/-- Finishing the node above leaves the stack below it in order. -/
theorem Chain.finish {adj : Adjacency α} {black : List α} {node : α} {rest : Stack α}
    (h : Chain adj black (some node) rest) (hnode : node ∉ Stack.nodes rest) :
    Chain adj (node :: black) none rest := by
  have hgrow : ∀ {above : Option α} {stack : Stack α}, Chain adj black above stack →
      node ∉ Stack.nodes stack → Chain adj (node :: black) above stack := by
    intro above stack hstack
    induction hstack with
    | nil =>
      intro _
      exact .nil
    | cons hseen hleft habove hgray _ ih =>
      intro hfresh
      simp only [Stack.nodes, List.map_cons, List.mem_cons, not_or] at hfresh
      refine .cons (fun w hw => ?_) hleft habove ⟨?_, hgray.2⟩ (ih hfresh.2)
      · exact (hseen w hw).imp_right (Or.imp_left (List.mem_cons_of_mem _))
      · simp only [List.mem_cons, not_or]
        exact ⟨fun heq => hfresh.1 heq.symm, hgray.1⟩
  cases h with
  | nil => exact .nil
  | cons hseen hleft habove hgray hrest =>
    simp only [Stack.nodes, List.map_cons, List.mem_cons, not_or] at hnode
    refine .cons (fun w hw => ?_) hleft (fun w hw => by cases hw) ⟨?_, hgray.2⟩
      (hgrow hrest hnode.2)
    · obtain hl | hb | habv := hseen w hw
      · exact .inl hl
      · exact .inr (.inl (List.mem_cons_of_mem _ hb))
      · exact .inr (.inl (Option.some.inj habv ▸ List.mem_cons_self))
    · simp only [List.mem_cons, not_or]
      exact ⟨fun heq => hnode.1 heq.symm, hgray.1⟩

/-- Going round a cycle. -/
theorem IsCycle.transGen {adj : Adjacency α} {path : List α} (h : adj.IsCycle path) :
    ∃ v, Relation.TransGen adj.Edge v v := by
  obtain ⟨v, inner, rfl⟩ := h.closed
  have hround : ∀ inner u, (u :: inner ++ [v]).IsChain adj.Edge →
      Relation.TransGen adj.Edge u v := by
    intro inner
    induction inner with
    | nil =>
      intro u hchain
      exact .single (List.isChain_cons_cons.mp hchain).1
    | cons w rest ih =>
      intro u hchain
      obtain ⟨hedge, hrest⟩ := List.isChain_cons_cons.mp hchain
      exact .head hedge (ih w hrest)
  exact ⟨v, hround inner v h.edges⟩

/-- An edge comes from an entry of the table. -/
theorem exists_entry_of_edge {adj : Adjacency α} {v w : α} (h : adj.Edge v w) :
    ∃ ws, (v, ws) ∈ adj ∧ w ∈ ws := by
  unfold Edge neighbours at h
  cases hlookup : List.lookup v adj with
  | none => simp [hlookup] at h
  | some ws =>
    obtain ⟨before, after, heq, -⟩ := List.lookup_eq_some_iff.mp hlookup
    refine ⟨ws, ?_, by simpa [hlookup] using h⟩
    rw [heq]
    simp

theorem mem_vertices_of_edge {adj : Adjacency α} {v w : α} (h : adj.Edge v w) :
    w ∈ adj.vertices := by
  obtain ⟨ws, hmem, hw⟩ := exists_entry_of_edge h
  unfold vertices
  rw [List.mem_toFinset, List.mem_flatMap]
  exact ⟨(v, ws), hmem, List.mem_cons_of_mem _ hw⟩

theorem mem_vertices_of_key {adj : Adjacency α} {v : α} (h : v ∈ adj.map (·.1)) :
    v ∈ adj.vertices := by
  obtain ⟨entry, hentry, rfl⟩ := List.mem_map.mp h
  unfold vertices
  rw [List.mem_toFinset, List.mem_flatMap]
  exact ⟨entry, hentry, List.mem_cons_self⟩

/-- What the white nodes still cost. -/
def white (adj : Adjacency α) (black : List α) (gray : List α) : ℕ :=
  ∑ v ∈ adj.vertices with v ∉ black ∧ v ∉ gray, ((adj.neighbours v).length + 2)

/-- What the stack still costs. -/
def load (stack : Stack α) : ℕ := (stack.map fun entry => entry.2.length + 1).sum

omit [DecidableEq α] in
theorem length_le_load (stack : Stack α) : stack.length < load stack + 1 := by
  induction stack with
  | nil => exact Nat.zero_lt_one
  | cons entry rest ih =>
    simp only [load, List.map_cons, List.sum_cons, List.length_cons] at ih ⊢
    omega

theorem white_finish {adj : Adjacency α} {black gray : List α} {node : α} :
    adj.white (node :: black) gray = adj.white black (node :: gray) := by
  unfold white
  congr 1
  apply Finset.filter_congr
  intro v _
  simp only [List.mem_cons, not_or]
  tauto

theorem white_push (adj : Adjacency α) {black : List α} (gray : List α) {v : α} (hv : v ∈ adj.vertices)
    (hblack : v ∉ black) (hgray : v ∉ gray) :
    adj.white black (v :: gray) + ((adj.neighbours v).length + 2) = adj.white black gray := by
  unfold white
  have hmem : v ∈ adj.vertices.filter fun v => v ∉ black ∧ v ∉ gray := by
    simp [hv, hblack, hgray]
  have herase : (adj.vertices.filter fun u => u ∉ black ∧ u ∉ v :: gray) =
      (adj.vertices.filter fun u => u ∉ black ∧ u ∉ gray).erase v := by
    ext u
    simp only [Finset.mem_filter, Finset.mem_erase, List.mem_cons, not_or]
    tauto
  rw [herase, Finset.sum_erase_add _ _ hmem]

/-- How a search ends: with a cycle of the graph, or with finished nodes, the known ones
among them. -/
def Ends (adj : Adjacency α) (known : List α) : Except (List α) (List α) → Prop
  | .error _ => ∃ v, Relation.TransGen adj.Edge v v
  | .ok finished => Ranked adj finished ∧ known ⊆ finished

theorem Ends.mono {adj : Adjacency α} {known known' : List α} {outcome : Except (List α) (List α)}
    (h : Ends adj known outcome) (hsub : known' ⊆ known) : Ends adj known' outcome := by
  cases outcome with
  | error path => exact h
  | ok finished => exact ⟨h.1, fun v hv => h.2 (hsub hv)⟩

/-- What holds between two steps of the loop. -/
structure Searching (adj : Adjacency α) (stack : Stack α) (black : List α) : Prop where
  chain : Chain adj black none stack
  ranked : Ranked adj black

/-- What the search from a stack still costs. -/
def remaining (adj : Adjacency α) (stack : Stack α) (black : List α) : ℕ :=
  adj.white black (Stack.nodes stack) + load stack

/-- A node without neighbours left is finished. -/
theorem Searching.pop {adj : Adjacency α} {node : α} {rest : Stack α} {black : List α}
    (h : Searching adj ((node, []) :: rest) black) :
    Searching adj rest (node :: black) ∧
      adj.remaining rest (node :: black) < adj.remaining ((node, []) :: rest) black := by
  obtain ⟨hchain, hranked⟩ := h
  cases hchain with
  | cons hseen hleft habove hgray hrest =>
    have hafter : ∀ w ∈ adj.neighbours node, w ∈ black := by
      intro w hw
      obtain hl | hb | habv := hseen w hw
      · cases hl
      · exact hb
      · cases habv
    refine ⟨⟨hrest.finish hgray.2, .cons hgray.1 hafter hranked⟩, ?_⟩
    unfold remaining
    rw [white_finish]
    simp only [Stack.nodes, List.map_cons, load, List.sum_cons, List.length_nil]
    omega

/-- A finished neighbour is passed over. -/
theorem Searching.skip {adj : Adjacency α} {node v : α} {vs : List α} {rest : Stack α}
    {black : List α} (h : Searching adj ((node, v :: vs) :: rest) black) (hv : v ∈ black) :
    Searching adj ((node, vs) :: rest) black ∧
      adj.remaining ((node, vs) :: rest) black < adj.remaining ((node, v :: vs) :: rest) black := by
  obtain ⟨hchain, hranked⟩ := h
  cases hchain with
  | cons hseen hleft habove hgray hrest =>
    have hnext : Chain adj black none ((node, vs) :: rest) := by
      refine .cons (fun w hw => ?_) (fun w hw => hleft w (List.mem_cons_of_mem _ hw))
        (fun w hw => by cases hw) hgray hrest
      obtain hl | hother := hseen w hw
      · obtain rfl | hl := List.mem_cons.mp hl
        · exact .inr (.inl hv)
        · exact .inl hl
      · exact .inr hother
    refine ⟨⟨hnext, hranked⟩, ?_⟩
    unfold remaining
    simp only [Stack.nodes, List.map_cons, load, List.sum_cons, List.length_cons]
    omega

/-- A white neighbour goes on the stack. -/
theorem Searching.push {adj : Adjacency α} {node v : α} {vs : List α} {rest : Stack α}
    {black : List α} (h : Searching adj ((node, v :: vs) :: rest) black)
    (hv : v ∉ node :: Stack.nodes rest) (hb : v ∉ black) :
    Searching adj ((v, adj.neighbours v) :: (node, vs) :: rest) black ∧
      adj.remaining ((v, adj.neighbours v) :: (node, vs) :: rest) black <
        adj.remaining ((node, v :: vs) :: rest) black := by
  obtain ⟨hchain, hranked⟩ := h
  cases hchain with
  | cons hseen hleft habove hgray hrest =>
    have hedge : adj.Edge node v := hleft v List.mem_cons_self
    have hnext : Chain adj black none ((v, adj.neighbours v) :: (node, vs) :: rest) := by
      refine .cons (fun w hw => .inl hw) (fun w hw => hw) (fun w hw => by cases hw) ⟨hb, hv⟩ ?_
      refine .cons (fun w hw => ?_) (fun w hw => hleft w (List.mem_cons_of_mem _ hw))
        (fun w hw => Option.some.inj hw ▸ hedge) hgray hrest
      obtain hl | hb' | hnone := hseen w hw
      · obtain rfl | hl := List.mem_cons.mp hl
        · exact .inr (.inr rfl)
        · exact .inl hl
      · exact .inr (.inl hb')
      · cases hnone
    refine ⟨⟨hnext, hranked⟩, ?_⟩
    have hpush := white_push adj _ (mem_vertices_of_edge hedge) hb hv
    unfold remaining
    simp only [Stack.nodes, List.map_cons, load, List.sum_cons, List.length_cons] at hpush ⊢
    omega

/-- The nodes of the stack are distinct, and an edge leads from each to the one above. -/
theorem Chain.path {adj : Adjacency α} {black : List α} {above : Option α} {stack : Stack α}
    (h : Chain adj black above stack) :
    (Stack.nodes stack).Nodup ∧ (Stack.nodes stack).IsChain (fun v w => adj.Edge w v) ∧
      ∀ top, above = some top → ∀ v ∈ (Stack.nodes stack).head?, adj.Edge v top := by
  induction h with
  | nil => exact ⟨List.nodup_nil, .nil, fun _ _ v hv => by cases hv⟩
  | @cons above node left rest _ _ habove hgray _ ih =>
    obtain ⟨hdistinct, hchain, htop⟩ := ih
    refine ⟨List.nodup_cons.mpr ⟨hgray.2, hdistinct⟩, ?_, ?_⟩
    · exact List.isChain_cons.mpr ⟨fun v hv => htop node rfl v hv, hchain⟩
    · intro top habv v hv
      obtain rfl := Option.some.inj hv
      exact habove top habv

/-- The part of a list up to its first copy of a member. -/
theorem exists_eq_takeWhile {v : α} {vs : List α} (h : v ∈ vs) :
    ∃ after, vs = vs.takeWhile (· ≠ v) ++ v :: after := by
  induction vs with
  | nil => cases h
  | cons w rest ih =>
    by_cases hw : w = v
    · exact ⟨rest, by simp [hw]⟩
    · have hrest : v ∈ rest := (List.mem_cons.mp h).resolve_left fun heq => hw heq.symm
      obtain ⟨after, hafter⟩ := ih hrest
      have htake : (w :: rest).takeWhile (· ≠ v) = w :: rest.takeWhile (· ≠ v) := by
        rw [List.takeWhile_cons, if_pos (by simpa using hw)]
      rw [htake]
      exact ⟨after, congrArg (w :: ·) hafter⟩

/-- An edge from the top of the stack to a gray node closes a cycle. -/
theorem Searching.close {adj : Adjacency α} {node v : α} {vs : List α} {rest : Stack α}
    {black : List α} (h : Searching adj ((node, v :: vs) :: rest) black)
    (hv : v ∈ node :: Stack.nodes rest) :
    adj.IsCycle (rebuild ((node, v :: vs) :: rest) v) := by
  have hnodes : Stack.nodes ((node, v :: vs) :: rest) = node :: Stack.nodes rest := rfl
  have hedge : adj.Edge node v := by
    obtain ⟨hchain, -⟩ := h
    cases hchain with
    | cons _ hleft _ _ _ => exact hleft v List.mem_cons_self
  obtain ⟨hdistinct, hchain, -⟩ := h.chain.path
  obtain ⟨after, hafter⟩ := exists_eq_takeWhile hv
  unfold rebuild
  rw [hnodes] at hdistinct hchain ⊢
  generalize hup : (node :: Stack.nodes rest).takeWhile (· ≠ v) = up at *
  have hsplit : node :: Stack.nodes rest = (up ++ [v]) ++ after := by simpa using hafter
  have hlast : (up ++ [v]).head? = some node := by
    have hhead := congrArg List.head? hsplit
    cases up with
    | nil => simpa using hhead.symm
    | cons u us => simpa using hhead.symm
  constructor
  · exact ⟨v, up.reverse, by simp⟩
  · have hpart : (up ++ [v]).Nodup := by
      rw [hsplit] at hdistinct
      exact hdistinct.of_append_left
    simpa only [List.dropLast_concat, List.nodup_reverse] using hpart
  · have hpart : (up ++ [v]).IsChain (fun v w => adj.Edge w v) := by
      rw [hsplit] at hchain
      exact hchain.left_of_append
    refine List.isChain_append.mpr ⟨List.isChain_reverse.mpr hpart, .singleton v, ?_⟩
    intro u hu w hw
    rw [List.getLast?_reverse, hlast] at hu
    obtain rfl := Option.some.inj hu
    obtain rfl := Option.some.inj hw
    exact hedge

/-- With enough fuel the loop ends with a cycle of the graph, or with every node of the
stack finished. -/
theorem explore_ends {adj : Adjacency α} {fuel : ℕ} {stack : Stack α} {black : List α}
    (h : Searching adj stack black) (hfuel : adj.remaining stack black < fuel) :
    Ends adj (Stack.nodes stack ++ black) (explore adj fuel stack black) := by
  induction fuel generalizing stack black with
  | zero => omega
  | succ fuel ih =>
    cases stack with
    | nil => exact ⟨h.ranked, List.Subset.refl _⟩
    | cons entry rest =>
      obtain ⟨node, left⟩ := entry
      cases left with
      | nil =>
        obtain ⟨hnext, hcost⟩ := h.pop
        unfold explore
        refine (ih hnext (by omega)).mono fun v hv => ?_
        simp only [Stack.nodes, List.map_cons, List.mem_append, List.mem_cons] at hv ⊢
        tauto
      | cons v vs =>
        unfold explore
        by_cases hv : v ∈ node :: Stack.nodes rest
        · rw [if_pos hv]
          exact (h.close hv).transGen
        · rw [if_neg hv]
          by_cases hb : v ∈ black
          · rw [if_pos hb]
            obtain ⟨hnext, hcost⟩ := h.skip hb
            exact ih hnext (by omega)
          · rw [if_neg hb]
            obtain ⟨hnext, hcost⟩ := h.push hv hb
            exact (ih hnext (by omega)).mono (List.subset_cons_self _ _)

/-- What the search costs from one white node. -/
theorem Searching.root {adj : Adjacency α} {root : α} {black : List α}
    (hranked : Ranked adj black) (hroot : root ∈ adj.vertices) (hwhite : root ∉ black) :
    Searching adj [(root, adj.neighbours root)] black ∧
      adj.remaining [(root, adj.neighbours root)] black < adj.cost + 1 := by
  have hchain : Chain adj black none [(root, adj.neighbours root)] :=
    .cons (fun w hw => .inl hw) (fun w hw => hw) (fun w hw => by cases hw)
      ⟨hwhite, List.not_mem_nil⟩ .nil
  refine ⟨⟨hchain, hranked⟩, ?_⟩
  have hpush := white_push adj [] hroot hwhite List.not_mem_nil
  have hall : adj.white black [] ≤ adj.cost := by
    unfold white cost
    exact Finset.sum_le_sum_of_subset (Finset.filter_subset _ _)
  unfold remaining
  simp only [Stack.nodes, List.map_cons, List.map_nil, load, List.sum_cons, List.sum_nil]
    at hpush ⊢
  omega

/-- The search from one white node. -/
theorem explore_root_ends {adj : Adjacency α} {root : α} {black : List α}
    (hranked : Ranked adj black) (hroot : root ∈ adj.vertices) (hwhite : root ∉ black) :
    Ends adj (root :: black)
      (explore adj (adj.cost + 1) [(root, adj.neighbours root)] black) := by
  obtain ⟨hsearching, hcost⟩ := Searching.root hranked hroot hwhite
  exact explore_ends hsearching hcost

theorem searchFrom_ends {adj : Adjacency α} {roots black : List α} (hranked : Ranked adj black)
    (hroots : ∀ root ∈ roots, root ∈ adj.vertices) :
    Ends adj (roots ++ black) (searchFrom adj roots black) := by
  induction roots generalizing black with
  | nil => exact ⟨hranked, List.Subset.refl _⟩
  | cons root roots ih =>
    have hothers : ∀ other ∈ roots, other ∈ adj.vertices :=
      fun other hother => hroots other (List.mem_cons_of_mem _ hother)
    unfold searchFrom
    by_cases hb : root ∈ black
    · rw [if_pos hb]
      refine (ih hranked hothers).mono ?_
      exact List.cons_subset.mpr ⟨List.mem_append_right _ hb, List.Subset.refl _⟩
    · rw [if_neg hb]
      have hexplored := explore_root_ends hranked (hroots root List.mem_cons_self) hb
      cases hresult : explore adj (adj.cost + 1) [(root, adj.neighbours root)] black with
      | error path =>
        rw [hresult] at hexplored
        exact hexplored
      | ok finished =>
        rw [hresult] at hexplored
        obtain ⟨hr, hknown⟩ := hexplored
        refine (ih hr hothers).mono fun v hv => ?_
        simp only [List.cons_append, List.mem_cons, List.mem_append] at hv ⊢
        obtain rfl | hv | hv := hv
        · exact .inr (hknown List.mem_cons_self)
        · exact .inl hv
        · exact .inr (hknown (List.mem_cons_of_mem _ hv))

/-- The search finds a cycle exactly when the graph has one. -/
theorem findCycle_eq_none_iff {adj : Adjacency α} : findCycle adj = none ↔ adj.Acyclic := by
  have hroots : ∀ root ∈ adj.map (·.1), root ∈ adj.vertices :=
    fun root hroot => mem_vertices_of_key hroot
  have hends : Ends adj (adj.map (·.1) ++ []) (searchFrom adj (adj.map (·.1)) []) :=
    searchFrom_ends .nil hroots
  unfold findCycle
  cases hresult : searchFrom adj (adj.map (·.1)) [] with
  | error path =>
    rw [hresult] at hends
    obtain ⟨v, hcycle⟩ := hends
    constructor
    · intro h
      cases h
    · intro hacyclic
      exact absurd hcycle (hacyclic v)
  | ok finished =>
    rw [hresult] at hends
    obtain ⟨hranked, hall⟩ := hends
    refine ⟨fun _ v hcycle => ?_, fun _ => rfl⟩
    obtain ⟨w, hedge, -⟩ := Relation.TransGen.head'_iff.mp hcycle
    obtain ⟨ws, hmem, -⟩ := exists_entry_of_edge hedge
    have hkey : v ∈ adj.map (·.1) := List.mem_map_of_mem hmem
    exact hranked.not_transGen.2 v (hall (List.mem_append_left _ hkey)) hcycle

end Adjacency

end Support
