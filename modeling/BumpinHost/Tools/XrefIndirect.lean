import BumpinHost.Library.DepthFirst
import BumpinHost.Tools.XrefCache

/-!
# What the search for indirect calls finds

The search goes through the seeds that recorded calls make of a seed, each once.  Besides
the seed itself these are the parameters in the eight argument positions, so nine hops
find every indirect call that a chain of calls leads to.  Fewer hops can miss one that a
shorter chain leads to.
-/

namespace BumpinHost.Tools

open DepthFirst (Search Path Reaches visit)

/-- The seeds that a recorded call makes of a seed. -/
def XrefIndex.passedOn (index : XrefIndex) (seed : Expr) : List Expr :=
  index.recordedArgs.filterMap fun arg =>
    (matchSeedWithOffset arg.2 seed).map fun _ => .param arg.1

/-- The hits of seeds, in the order they were found. -/
def XrefIndex.hitsOfAll (index : XrefIndex) (found : List (Expr × Nat)) :
    List QueryIndex.IndirectHit :=
  found.flatMap fun entry => index.inMemory.hitsOf (.expr entry.1) entry.2

/-- A search through seeds as `find_reachable_indirect` keeps it. -/
def XrefIndex.indirectSearch (index : XrefIndex) (search : Search Expr) :
    QueryIndex.IndirectSearch :=
  ⟨search.visited.map exprKey, index.hitsOfAll search.found⟩

section Search

variable {index : XrefIndex}

theorem mem_visitedSeeds {search : Search Expr} {seed : Expr} :
    exprKey seed ∈ (index.indirectSearch search).visitedSeeds ↔ seed ∈ search.visited := by
  simp only [XrefIndex.indirectSearch, List.mem_map, exprKey_inj, exists_eq_right]

/-- The recursion is a depth-first search through seeds. -/
theorem recurseIndirect_eq (levels : Nat) (seed : Expr) (depth : Nat) (search : Search Expr) :
    index.inMemory.recurseIndirect levels (.expr seed) depth (index.indirectSearch search) =
      index.indirectSearch (visit index.passedOn levels seed depth search) := by
  induction levels generalizing seed depth search with
  | zero => rfl
  | succ levels ih =>
      rw [recurseIndirect_inMemory, visit]
      by_cases visited : seed ∈ search.visited
      · rw [if_pos (mem_visitedSeeds.mpr visited), if_pos visited]
      · rw [if_neg (mt mem_visitedSeeds.mp visited), if_neg visited]
        have marked : (⟨exprKey seed :: (index.indirectSearch search).visitedSeeds,
            (index.indirectSearch search).hits ++ index.inMemory.hitsOf (.expr seed) depth⟩ :
              QueryIndex.IndirectSearch) =
            index.indirectSearch ⟨seed :: search.visited, search.found ++ [(seed, depth)]⟩ := by
          simp [XrefIndex.indirectSearch, XrefIndex.hitsOfAll]
        rw [marked, XrefIndex.passedOn, List.foldl_filterMap]
        refine List.foldl_hom index.indirectSearch ?_
        intro sofar arg
        cases matched : matchSeedWithOffset arg.2 seed with
        | none => rfl
        | some k => exact ih _ _ _

theorem findReachableIndirect_eq (seed : Expr) (hops : Nat) :
    index.inMemory.findReachableIndirect (.expr seed) hops =
      index.hitsOfAll (visit index.passedOn hops seed 1 ⟨[], []⟩).found :=
  congrArg QueryIndex.IndirectSearch.hits (recurseIndirect_eq hops seed 1 ⟨[], []⟩)

end Search

/-- All arguments of calls are in the first eight positions. -/
def PositionsBelowEight (index : XrefIndex) : Prop :=
  ∀ arg ∈ index.recordedArgs, arg.1 < 8

theorem knownArgs_position {regs : Registers} {arg : Nat × Expr} (known : arg ∈ knownArgs regs) :
    arg.1 < 8 := by
  obtain ⟨⟨r, place⟩, listed, value⟩ := List.mem_filterMap.mp known
  obtain ⟨e, -, rfl⟩ := Option.map_eq_some_iff.mp value
  have bound := List.snd_lt_of_mem_zipIdx listed
  exact bound

theorem mem_args_appendUnder {calls : List (String × List CallSite)} {callee : String}
    {site : CallSite} {arg : Nat × Expr}
    (listed : arg ∈ (appendUnder calls callee site).flatMap fun entry =>
      entry.2.flatMap CallSite.args) :
    arg ∈ (calls.flatMap fun entry => entry.2.flatMap CallSite.args) ∨ arg ∈ site.args := by
  induction calls with
  | nil => simpa [appendUnder] using listed
  | cons entry rest ih =>
      unfold appendUnder at listed
      split at listed
      · simp only [List.flatMap_cons, List.flatMap_append, List.mem_append, List.flatMap_nil,
          List.append_nil] at listed ⊢
        tauto
      · simp only [List.flatMap_cons, List.mem_append] at listed ⊢
        rcases listed with first | later
        · exact .inl (.inl first)
        · exact (ih later).imp .inr id

theorem PositionsBelowEight.indexLine {index : XrefIndex} (below : PositionsBelowEight index)
    (func file : String) (regs : Registers) (lineno : Nat) (line : SourceLine) :
    PositionsBelowEight (Tools.indexLine func file regs index lineno line) := by
  unfold Tools.indexLine
  split
  · split
    · exact below
    · exact below
  · intro arg listed
    rcases mem_args_appendUnder listed with earlier | now
    · exact below arg earlier
    · exact knownArgs_position now
  · exact below
  · exact below

theorem PositionsBelowEight.analyzeLines {index : XrefIndex} (below : PositionsBelowEight index)
    (func file : String) (lineno : Nat) (regs : Registers) (lines : List SourceLine) :
    PositionsBelowEight (Tools.analyzeLines func file lineno regs index lines) := by
  induction lines generalizing lineno regs index with
  | nil => exact below
  | cons line rest ih => exact ih (below.indexLine func file regs lineno line) _ _

theorem positionsBelowEight_buildIndex (functions : List AnalysedFunction) :
    PositionsBelowEight (buildIndex functions) := by
  refine List.foldlRecOn (motive := PositionsBelowEight) _ _
    (fun arg listed => absurd listed List.not_mem_nil) ?_
  intro index below f _
  exact below.analyzeLines _ _ _ _ _

/-- The seed and the eight parameters. -/
def searchedSeeds (seed : Expr) : Finset Expr :=
  insert seed ((Finset.range 8).image Expr.param)

theorem card_searchedSeeds (seed : Expr) : (searchedSeeds seed).card ≤ 9 := by
  have parameters : ((Finset.range 8).image Expr.param).card ≤ 8 :=
    Finset.card_image_le.trans (by simp)
  exact (Finset.card_insert_le _ _).trans (Nat.succ_le_succ parameters)

theorem PositionsBelowEight.closed {index : XrefIndex} (below : PositionsBelowEight index)
    (seed : Expr) : ∀ node ∈ searchedSeeds seed, ∀ child ∈ index.passedOn node,
      child ∈ searchedSeeds seed := by
  intro node _ child passed
  obtain ⟨arg, recorded, matched⟩ := List.mem_filterMap.mp passed
  obtain ⟨-, -, rfl⟩ := Option.map_eq_some_iff.mp matched
  exact Finset.mem_insert_of_mem
    (Finset.mem_image_of_mem _ (Finset.mem_range.mpr (below arg recorded)))

/-- The search returns the hits of the seeds it found, each once, and each found at the end
of a chain of calls within the hops; with nine hops or more it finds every seed that any
chain of calls leads to. -/
theorem findReachableIndirect_exact (functions : List AnalysedFunction) (seed : Expr)
    (hops : Nat) :
    ∃ found : List (Expr × Nat),
      (buildIndex functions).inMemory.findReachableIndirect (.expr seed) hops =
        (buildIndex functions).hitsOfAll found ∧
      (found.map Prod.fst).Nodup ∧
      (∀ entry ∈ found, ∃ calls < hops, entry.2 = 1 + calls ∧
        Path (buildIndex functions).passedOn calls seed entry.1) ∧
      (9 ≤ hops → ∀ reached, reached ∈ found.map Prod.fst ↔
        Reaches (buildIndex functions).passedOn seed reached) := by
  have consistent : (visit (buildIndex functions).passedOn hops seed 1 ⟨[], []⟩).Consistent :=
    DepthFirst.consistent_empty.visit hops seed 1
  refine ⟨_, findReachableIndirect_eq seed hops, consistent.once, ?_, ?_⟩
  · intro entry found
    rcases DepthFirst.path_of_found found with none | path
    · cases none
    · exact path
  · intro enough reached
    rw [← consistent.found]
    exact DepthFirst.mem_visited_iff ((positionsBelowEight_buildIndex functions).closed seed)
      (Finset.mem_insert_self _ _) 1 ((card_searchedSeeds seed).trans enough) reached

/-- The address 1 is passed on as the first argument, which is passed on as the second, and
as the second argument, which is passed on as the third. -/
def twoWays : List AnalysedFunction :=
  [⟨"sub_1", "a.cpp", 2, [⟨"", .const 3 1⟩, ⟨"", .call "sub_5"⟩]⟩,
    ⟨"sub_2", "a.cpp", 6, [⟨"", .copy 4 3⟩, ⟨"", .call "sub_5"⟩]⟩,
    ⟨"sub_3", "a.cpp", 10, [⟨"", .const 4 1⟩, ⟨"", .call "sub_5"⟩]⟩,
    ⟨"sub_4", "a.cpp", 14, [⟨"", .copy 5 4⟩, ⟨"", .call "sub_5"⟩]⟩]

/-- Two calls lead to the third argument, but the search visits the second argument too
late to go on from it. -/
example :
    .param 2 ∈ (buildIndex twoWays).passedOn (.param 1) ∧
      .param 1 ∈ (buildIndex twoWays).passedOn (.const 1) ∧
      .param 2 ∉ (visit (buildIndex twoWays).passedOn 3 (.const 1) 1 ⟨[], []⟩).visited := by
  decide +kernel

end BumpinHost.Tools
