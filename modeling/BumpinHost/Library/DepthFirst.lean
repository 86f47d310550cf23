import Mathlib.Data.Finset.Card

/-!
# Depth-first search with a limit on the depth

A search visits each node once and goes on with its children.  With a limit it can come to
a node too deep to go on from there, and then finds it visited on a shorter way.  A limit
of the number of nodes loses nothing.
-/

namespace BumpinHost.DepthFirst

variable {Node : Type*}

/-- The visited nodes, and each with the depth at which it was found. -/
structure Search (Node : Type*) where
  visited : List Node
  found : List (Node × Nat)

section Paths

variable (children : Node → List Node)

/-- A path of so many edges. -/
inductive Path : Nat → Node → Node → Prop
  | refl (node : Node) : Path 0 node node
  | head {length : Nat} {node child last : Node} :
      child ∈ children node → Path length child last → Path (length + 1) node last

def Reaches (first last : Node) : Prop := ∃ length, Path children length first last

variable {children}

/-- What a closed set has a node of, it has all of that is reached from the node. -/
theorem Path.closed {closed : Node → Prop}
    (step : ∀ node, closed node → ∀ child ∈ children node, closed child) {length : Nat}
    {first last : Node} (path : Path children length first last) (start : closed first) :
    closed last := by
  induction path with
  | refl => exact start
  | head isChild _ ih => exact ih (step _ start _ isChild)

end Paths

variable [DecidableEq Node] (children : Node → List Node)

/-- The first argument counts the levels that are left. -/
def visit : Nat → Node → Nat → Search Node → Search Node
  | 0, _, _, search => search
  | levels + 1, node, depth, search =>
      if node ∈ search.visited then search
      else
        (children node).foldl (fun search child => visit levels child (depth + 1) search)
          ⟨node :: search.visited, search.found ++ [(node, depth)]⟩

variable {children}

/-- The nodes found are the nodes visited, each once. -/
structure Search.Consistent (search : Search Node) : Prop where
  found : ∀ node, node ∈ search.visited ↔ node ∈ search.found.map Prod.fst
  once : (search.found.map Prod.fst).Nodup

omit [DecidableEq Node] in
theorem consistent_empty : (⟨[], []⟩ : Search Node).Consistent :=
  ⟨fun _ => Iff.rfl, List.nodup_nil⟩

theorem Search.Consistent.visit {search : Search Node} (consistent : search.Consistent)
    (levels : Nat) (node : Node) (depth : Nat) :
    (DepthFirst.visit children levels node depth search).Consistent := by
  induction levels generalizing node depth search with
  | zero => exact consistent
  | succ levels ih =>
      rw [DepthFirst.visit]
      split
      case isTrue => exact consistent
      case isFalse unvisited =>
          refine List.foldlRecOn (motive := Search.Consistent) _ _ ?_
            fun later sofar child _ => ih sofar child (depth + 1)
          constructor
          · intro other
            rw [List.map_append, List.mem_append, ← consistent.found, List.mem_cons, or_comm]
            simp
          · rw [List.map_append, List.nodup_append]
            refine ⟨consistent.once, by simp, ?_⟩
            intro other earlier last isLast
            rw [List.map_singleton, List.mem_singleton] at isLast
            rintro rfl
            rw [← consistent.found, isLast] at earlier
            exact unvisited earlier

/-- A node is found along a path as long as it is deep below where the search began. -/
theorem path_of_found {levels : Nat} {node : Node} {depth : Nat} {search : Search Node}
    {entry : Node × Nat} (found : entry ∈ (visit children levels node depth search).found) :
    entry ∈ search.found ∨
      ∃ length < levels, entry.2 = depth + length ∧ Path children length node entry.1 := by
  induction levels generalizing node depth search with
  | zero => exact .inl found
  | succ levels ih =>
      rw [visit] at found
      split at found
      case isTrue => exact .inl found
      case isFalse =>
          refine List.foldlRecOn
            (motive := fun later : Search Node => entry ∈ later.found → entry ∈ search.found ∨
              ∃ length < levels + 1, entry.2 = depth + length ∧
                Path children length node entry.1) _ _ ?_ ?_ found
          · intro listed
            rcases List.mem_append.mp listed with earlier | now
            · exact .inl earlier
            · rw [List.mem_singleton.mp now]
              exact .inr ⟨0, Nat.succ_pos _, rfl, .refl node⟩
          · intro later sofar child isChild listed
            rcases ih listed with earlier | ⟨length, short, deep, path⟩
            · exact sofar earlier
            · exact .inr ⟨length + 1, Nat.succ_lt_succ short, by omega, .head isChild path⟩

/-- The second search goes on from the first, and has gone on from every node it added. -/
structure Search.Completes (children : Node → List Node) (first second : Search Node) :
    Prop where
  visited : first.visited ⊆ second.visited
  finished : ∀ node ∈ second.visited, node ∉ first.visited →
    ∀ child ∈ children node, child ∈ second.visited

omit [DecidableEq Node] in
theorem Search.Completes.refl (search : Search Node) : search.Completes children search :=
  ⟨List.Subset.refl _, fun _ visited unvisited => absurd visited unvisited⟩

theorem Search.Completes.trans {first second third : Search Node}
    (before : first.Completes children second) (after : second.Completes children third) :
    first.Completes children third := by
  refine ⟨List.Subset.trans before.visited after.visited, ?_⟩
  intro node visited unvisited child isChild
  by_cases middle : node ∈ second.visited
  · exact after.visited (before.finished node middle unvisited child isChild)
  · exact after.finished node visited middle child isChild

section Universe

variable {nodes : Finset Node} {search : Search Node}

/-- The nodes that a search has not visited. -/
def unvisited (nodes : Finset Node) (search : Search Node) : Finset Node :=
  nodes \ search.visited.toFinset

theorem card_unvisited_le {later : Search Node} (more : search.visited ⊆ later.visited) :
    (unvisited nodes later).card ≤ (unvisited nodes search).card := by
  apply Finset.card_le_card
  apply Finset.sdiff_subset_sdiff (Finset.Subset.refl _)
  intro node visited
  exact List.mem_toFinset.mpr (more (List.mem_toFinset.mp visited))

/-- Visiting one more node leaves one fewer. -/
theorem card_unvisited_cons {node : Node} (found : List (Node × Nat)) {levels : Nat}
    (isNode : node ∈ nodes) (fresh : node ∉ search.visited)
    (bound : (unvisited nodes search).card ≤ levels + 1) :
    (unvisited nodes ⟨node :: search.visited, found⟩).card ≤ levels := by
  have member : node ∈ unvisited nodes search :=
    Finset.mem_sdiff.mpr ⟨isNode, fun visited => fresh (List.mem_toFinset.mp visited)⟩
  have erased : unvisited nodes ⟨node :: search.visited, found⟩ =
      (unvisited nodes search).erase node := by
    ext other
    simp only [unvisited, Finset.mem_sdiff, List.mem_toFinset, List.mem_cons, Finset.mem_erase]
    tauto
  rw [erased, Finset.card_erase_of_mem member]
  omega

/-- Steps that each complete the search do so one after the other. -/
theorem foldl_completes {levels : Nat} {next : Search Node → Node → Search Node}
    (completes : ∀ child ∈ nodes, ∀ sofar : Search Node, (unvisited nodes sofar).card ≤ levels →
      child ∈ (next sofar child).visited ∧ sofar.Completes children (next sofar child))
    {below : List Node} (areNodes : ∀ child ∈ below, child ∈ nodes) {start : Search Node}
    (bound : (unvisited nodes start).card ≤ levels) :
    (∀ child ∈ below, child ∈ (below.foldl next start).visited) ∧
      start.Completes children (below.foldl next start) := by
  induction below generalizing start with
  | nil => exact ⟨fun _ member => absurd member List.not_mem_nil, .refl _⟩
  | cons child below ih =>
      rw [List.forall_mem_cons] at areNodes
      obtain ⟨visitedChild, first⟩ := completes child areNodes.1 start bound
      obtain ⟨visitedBelow, rest⟩ := ih areNodes.2
        ((card_unvisited_le first.visited).trans bound)
      rw [List.foldl_cons, List.forall_mem_cons]
      exact ⟨⟨rest.visited visitedChild, visitedBelow⟩, first.trans rest⟩

/-- A search that has gone on from all children of a node it marked is complete. -/
theorem Search.Completes.mark {node : Node} {found : List (Node × Nat)} {final : Search Node}
    (completes : Search.Completes children ⟨node :: search.visited, found⟩ final)
    (descended : ∀ child ∈ children node, child ∈ final.visited) :
    search.Completes children final := by
  refine ⟨fun other member => completes.visited (List.mem_cons_of_mem _ member), ?_⟩
  intro other visited fresh child isChild
  by_cases same : other = node
  · subst same
    exact descended child isChild
  · exact completes.finished other visited (by simp [same, fresh]) child isChild

/-- With as many levels as there are nodes left the search is complete.  Each level it
descends visits a node, so the levels do not run out first. -/
theorem visit_completes (closed : ∀ node ∈ nodes, ∀ child ∈ children node, child ∈ nodes)
    {levels : Nat} {node : Node} (isNode : node ∈ nodes) (depth : Nat)
    (bound : (unvisited nodes search).card ≤ levels) :
    node ∈ (visit children levels node depth search).visited ∧
      search.Completes children (visit children levels node depth search) := by
  induction levels generalizing node depth search with
  | zero =>
      refine ⟨?_, .refl search⟩
      by_contra fresh
      have member : node ∈ unvisited nodes search :=
        Finset.mem_sdiff.mpr ⟨isNode, fun visited => fresh (List.mem_toFinset.mp visited)⟩
      rw [Nat.le_zero, Finset.card_eq_zero] at bound
      rw [bound] at member
      exact Finset.notMem_empty _ member
  | succ levels ih =>
      rw [visit]
      split
      case isTrue visited => exact ⟨visited, .refl search⟩
      case isFalse fresh =>
          have marked := card_unvisited_cons (search.found ++ [(node, depth)]) isNode fresh bound
          obtain ⟨descended, completes⟩ := foldl_completes
            (fun child isChild sofar few => ih isChild (depth + 1) few) (closed node isNode) marked
          exact ⟨completes.visited List.mem_cons_self, completes.mark descended⟩

/-- From nothing, with a level for each node, a search visits what can be reached. -/
theorem mem_visited_iff (closed : ∀ node ∈ nodes, ∀ child ∈ children node, child ∈ nodes)
    {levels : Nat} {start : Node} (isNode : start ∈ nodes) (depth : Nat)
    (bound : nodes.card ≤ levels) (node : Node) :
    node ∈ (visit children levels start depth ⟨[], []⟩).visited ↔
      Reaches children start node := by
  have few : (unvisited nodes ⟨[], []⟩).card ≤ levels := by
    simpa [unvisited] using bound
  obtain ⟨own, completes⟩ := visit_completes closed isNode depth few
  constructor
  · intro visited
    rw [(consistent_empty.visit levels start depth).found, List.mem_map] at visited
    obtain ⟨entry, found, rfl⟩ := visited
    rcases path_of_found found with none | ⟨length, -, -, path⟩
    · cases none
    · exact ⟨length, path⟩
  · rintro ⟨length, path⟩
    exact path.closed (fun other visited => completes.finished other visited List.not_mem_nil) own

end Universe

end BumpinHost.DepthFirst
