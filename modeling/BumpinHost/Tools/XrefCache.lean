import BumpinHost.Tools.XrefSearch
import BumpinHost.Tools.XrefWrites

/-!
# Queries on the reloaded index

The index is saved as JSON, where argument positions become text, while the values of
arguments keep their numbers.  A search that enters a callee makes a seed of a position,
so on the reloaded index it makes seeds that match nothing and stops behind one hop.  It
finds all that a search in memory finds exactly when a search in memory finds nothing new
behind the first hop.
-/

namespace BumpinHost.Tools

open BumpinHost.FirstPerKey

/-- An argument position: a number in memory, its digits in the cache. -/
inductive Position
  | number (n : Nat)
  | text (digits : String)
deriving DecidableEq, Repr

/-- What a search looks for: an expression, or the parameter at a position from the
cache. -/
inductive Seed
  | expr (e : Expr)
  | textParam (digits : String)
deriving DecidableEq, Repr

/-- `param` of a position. -/
def Seed.param : Position → Seed
  | .number n => .expr (.param n)
  | .text digits => .textParam digits

/-- A seed as nested lists in JSON. -/
def Seed.keyChars : Seed → List Char
  | .expr e => Tools.keyChars e
  | .textParam digits => openList "param" ++ ('"' :: (digits.toList ++ ['"', ']']))

/-- `expr_key` of a seed. -/
def Seed.key (seed : Seed) : String :=
  String.ofList seed.keyChars

/-- `expr_key` of the address at an offset from a seed. -/
def Seed.storeKey (seed : Seed) (offset : Int) : String :=
  String.ofList (openList "at" ++ (seed.keyChars ++ (',' :: ' ' :: (intChars offset ++ [']']))))

/-- `match_seed_with_offset`.  No recorded value has a position as text in it. -/
def matchSeed (e : Expr) : Seed → Option Int
  | .expr seed => matchSeedWithOffset e seed
  | .textParam _ => none

structure QuerySite where
  caller : String
  file : String
  line : Nat
  args : List (Position × Expr)
deriving DecidableEq, Repr

structure QueryIndex where
  writes : String → List WriteRecord
  calls : List (String × List QuerySite)
  indirect : List QuerySite

def CallSite.query (position : Nat → Position) (site : CallSite) : QuerySite :=
  ⟨site.caller, site.file, site.line, site.args.map fun arg => (position arg.1, arg.2)⟩

def XrefIndex.query (position : Nat → Position) (index : XrefIndex) : QueryIndex where
  writes := index.writes
  calls := index.calls.map fun entry => (entry.1, entry.2.map (CallSite.query position))
  indirect := index.indirect.map (CallSite.query position)

/-- The index that `build_index` serialises. -/
def XrefIndex.inMemory (index : XrefIndex) : QueryIndex :=
  index.query .number

/-- The index that `load_index` returns: the keys of a JSON object are text. -/
def XrefIndex.reloaded (index : XrefIndex) : QueryIndex :=
  index.query fun n => .text (toString n)

/-- Where a result stands. -/
def resultSite (result : WriteRecord × Option Nat) : String × Nat :=
  result.1.site

namespace QueryIndex

variable (index : QueryIndex)

def storesAt (seed : Seed) (offset : Int) : List WriteRecord :=
  index.writes (seed.storeKey offset)

def recordedArgs : List (Position × Expr) :=
  index.calls.flatMap fun entry => entry.2.flatMap QuerySite.args

/-- The inner `recurse` of `find_writes`. -/
def recurseWrites : Nat → Seed → Int → Nat → Found → Found
  | 0, _, _, _, found => found
  | levels + 1, seed, offset, depth, found =>
      index.recordedArgs.foldl (fun found arg =>
        match matchSeed arg.2 seed with
        | some k => recurseWrites levels (.param arg.1) (offset - k) (depth + 1) found
        | none => found)
        (((index.storesAt seed offset).map fun w => (w, depth)).foldl addStore found)

def findWrites (seed : Seed) (offset : Int) (hops : Nat) : List (WriteRecord × Option Nat) :=
  let results := (index.storesAt seed offset).map fun w => (w, none)
  (index.recurseWrites hops seed offset 1 ⟨[], results⟩).results

structure IndirectHit where
  site : QuerySite
  hop : Nat
  matchedArg : Position
  offsetApplied : Int

structure IndirectSearch where
  visitedSeeds : List String
  hits : List IndirectHit

/-- The hits at the sites where an argument matches the seed. -/
def hitsOf (seed : Seed) (depth : Nat) : List IndirectHit :=
  index.indirect.flatMap fun site => site.args.filterMap fun arg =>
    (matchSeed arg.2 seed).map fun k => ⟨site, depth, arg.1, k⟩

/-- The inner `recurse` of `find_reachable_indirect`. -/
def recurseIndirect : Nat → Seed → Nat → IndirectSearch → IndirectSearch
  | 0, _, _, search => search
  | levels + 1, seed, depth, search =>
      if seed.key ∈ search.visitedSeeds then search
      else
        index.recordedArgs.foldl (fun search arg =>
          match matchSeed arg.2 seed with
          | some _ => recurseIndirect levels (.param arg.1) (depth + 1) search
          | none => search)
          ⟨seed.key :: search.visitedSeeds, search.hits ++ index.hitsOf seed depth⟩

def findReachableIndirect (seed : Seed) (hops : Nat) : List IndirectHit :=
  (index.recurseIndirect hops seed 1 ⟨[], []⟩).hits

end QueryIndex

/-- A function that `analyze_file` goes through. -/
structure AnalysedFunction where
  name : String
  file : String
  firstLine : Nat
  body : List SourceLine
deriving DecidableEq, Repr

/-- The index of all functions of all files. -/
def buildIndex (functions : List AnalysedFunction) : XrefIndex :=
  functions.foldl (fun index f =>
    analyzeLines f.name f.file f.firstLine initialRegisters index f.body) .empty

/-- Only addresses of stores are keys of the write index. -/
def KeysAreStores (index : XrefIndex) : Prop :=
  ∀ key, index.writes key ≠ [] → ∃ base offset, key = exprKey (.storeAt base offset)

theorem KeysAreStores.indexLine {index : XrefIndex} (keys : KeysAreStores index)
    (func file : String) (regs : Registers) (lineno : Nat) (line : SourceLine) :
    KeysAreStores (Tools.indexLine func file regs index lineno line) := by
  intro key recorded
  unfold Tools.indexLine at recorded
  split at recorded
  · rename_i size rs off store
    split at recorded
    · rename_i base known
      by_cases same : key = exprKey (.storeAt base off)
      · exact ⟨base, off, same⟩
      · dsimp only at recorded
        rw [Function.update_of_ne same] at recorded
        exact keys key recorded
    · exact keys key recorded
  · exact keys key recorded
  · exact keys key recorded
  · exact keys key recorded

theorem KeysAreStores.analyzeLines {index : XrefIndex} (keys : KeysAreStores index)
    (func file : String) (lineno : Nat) (regs : Registers) (lines : List SourceLine) :
    KeysAreStores (Tools.analyzeLines func file lineno regs index lines) := by
  induction lines generalizing lineno regs index with
  | nil => exact keys
  | cons line rest ih => exact ih (keys.indexLine func file regs lineno line) _ _

theorem keysAreStores_buildIndex (functions : List AnalysedFunction) :
    KeysAreStores (buildIndex functions) := by
  have fold : ∀ {index : XrefIndex}, KeysAreStores index →
      KeysAreStores (functions.foldl (fun index f =>
        Tools.analyzeLines f.name f.file f.firstLine initialRegisters index f.body) index) := by
    induction functions with
    | nil => exact id
    | cons f functions ih => exact fun keys => ih (keys.analyzeLines _ _ _ _ _)
  exact fold fun key recorded => absurd rfl recorded

/-- The text of a parameter at a position from the cache is not that of an expression. -/
theorem textParam_ne_keyChars {digits : String} {e : Expr} {rest other : List Char} :
    (Seed.textParam digits).keyChars ++ rest ≠ keyChars e ++ other := by
  have plain : '"' ∉ "param".toList := by decide
  intro same
  rw [Seed.keyChars, List.append_assoc] at same
  cases e with
  | param index =>
      rw [keyChars, List.append_assoc] at same
      have follows := (openList_delimited plain plain same).2
      cases written : intChars (index : Int) with
      | nil =>
          rw [written] at follows
          cases (List.cons.inj follows).1
      | cons c chars =>
          rw [written] at follows
          have quote := (List.cons.inj follows).1
          have member : c ∈ intChars (index : Int) := by
            rw [written]
            exact List.mem_cons_self
          rw [← quote] at member
          exact absurd (isIntChar_of_mem member) (by decide)
  | const value =>
      rw [keyChars, List.append_assoc] at same
      exact absurd (openList_delimited plain (by decide) same).1 (by decide)
  | deref base offset size =>
      rw [keyChars, List.append_assoc] at same
      exact absurd (openList_delimited plain (by decide) same).1 (by decide)
  | addr base offset =>
      rw [keyChars, List.append_assoc] at same
      exact absurd (openList_delimited plain (by decide) same).1 (by decide)
  | storeAt base offset =>
      rw [keyChars, List.append_assoc] at same
      exact absurd (openList_delimited plain (by decide) same).1 (by decide)

section Index

variable {index : XrefIndex} (position : Nat → Position)

theorem storesAt_textParam (keys : KeysAreStores index) (digits : String) (offset : Int) :
    (index.query position).storesAt (.textParam digits) offset = [] := by
  by_contra recorded
  obtain ⟨base, baseOffset, same⟩ := keys _ recorded
  have plain : '"' ∉ "at".toList := by decide
  have chars := String.ofList_injective same
  rw [keyChars] at chars
  exact textParam_ne_keyChars (openList_delimited plain plain chars).2

theorem recordedArgs_query :
    (index.query position).recordedArgs =
      index.recordedArgs.map fun arg => (position arg.1, arg.2) := by
  unfold QueryIndex.recordedArgs XrefIndex.recordedArgs XrefIndex.query
  dsimp only
  rw [List.flatMap_map, List.map_flatMap]
  congr 1
  funext entry
  rw [List.flatMap_map, List.map_flatMap]
  rfl

/-- In memory, the search is the one over expressions. -/
theorem findWrites_inMemory (seed : Expr) (offset : Int) (hops : Nat) :
    index.inMemory.findWrites (.expr seed) offset hops =
      Tools.findWrites index seed offset hops := by
  have recursion : ∀ levels seed offset depth found,
      index.inMemory.recurseWrites levels (.expr seed) offset depth found =
        recurse index levels seed offset depth found := by
    intro levels
    induction levels with
    | zero => exact fun _ _ _ _ => rfl
    | succ levels ih =>
        intro seed offset depth found
        rw [QueryIndex.recurseWrites, XrefIndex.inMemory, recordedArgs_query, List.foldl_map,
          recurse, addWrites_eq]
        refine List.foldl_ext _ _ _ fun found arg _ => ?_
        dsimp only [matchSeed]
        cases matchSeedWithOffset arg.2 seed with
        | none => rfl
        | some k => exact ih _ _ _ _
  exact congrArg Found.results (recursion hops seed offset 1 _)

/-- From the cache, nothing is found behind one hop. -/
theorem findWrites_reloaded (keys : KeysAreStores index) (seed : Expr) (offset : Int)
    (hops : Nat) :
    index.reloaded.findWrites (.expr seed) offset hops =
      Tools.findWrites index seed offset (min hops 1) := by
  have behind : ∀ levels digits offset depth found,
      index.reloaded.recurseWrites levels (.textParam digits) offset depth found = found := by
    intro levels digits offset depth found
    cases levels with
    | zero => rfl
    | succ levels =>
        rw [QueryIndex.recurseWrites, XrefIndex.reloaded, storesAt_textParam _ keys]
        exact List.foldl_fixed' (fun _ => rfl) _
  have recursion : ∀ levels found,
      index.reloaded.recurseWrites (levels + 1) (.expr seed) offset 1 found =
        recurse index 1 seed offset 1 found := by
    intro levels found
    rw [QueryIndex.recurseWrites, XrefIndex.reloaded, recordedArgs_query, List.foldl_map,
      recurse, addWrites_eq]
    refine List.foldl_ext _ _ _ fun found arg _ => ?_
    dsimp only [matchSeed]
    cases matchSeedWithOffset arg.2 seed with
    | none => rfl
    | some k => exact behind _ _ _ _ _
  cases hops with
  | zero => rfl
  | succ hops =>
      rw [Nat.min_eq_right (Nat.le_add_left 1 hops)]
      exact congrArg Found.results (recursion hops _)

/-- The places that a search for writes returns. -/
theorem mem_writeSites_findWrites {place : String × Nat} (seed : Expr) (offset : Int)
    (hops : Nat) :
    place ∈ (Tools.findWrites index seed offset hops).map resultSite ↔
      place ∈ (index.storesAt seed offset).map WriteRecord.site ∨
        place ∈ (followedStores index hops seed offset 1).map entrySite := by
  have followed : resultSite ∘ atDepth = entrySite := rfl
  have direct : (resultSite ∘ fun w : WriteRecord => (w, (none : Option Nat))) =
    WriteRecord.site := rfl
  rw [findWrites_eq, List.map_append, List.mem_append, List.map_map, List.map_map, followed,
    direct, mem_keys_firsts, and_iff_right List.not_mem_nil]

/-- One hop follows no argument. -/
theorem followedStores_one (seed : Expr) (offset : Int) (depth : Nat) :
    followedStores index 1 seed offset depth =
      (index.storesAt seed offset).map fun w => (w, depth) := by
  rw [followedStores]
  have followed : ∀ behind : List (WriteRecord × Nat), behind = [] →
      (index.storesAt seed offset).map (fun w => (w, depth)) ++ behind =
        (index.storesAt seed offset).map fun w => (w, depth) := by
    rintro _ rfl
    exact List.append_nil _
  refine followed _ (List.flatMap_eq_nil_iff.mpr fun arg _ => ?_)
  cases matchSeedWithOffset arg.2 seed with
  | none => rfl
  | some k => rfl

/-- From the cache, a search finds the direct stores alone. -/
theorem mem_sites_reloaded (keys : KeysAreStores index) {place : String × Nat} (seed : Expr)
    (offset : Int) (hops : Nat) :
    place ∈ (index.reloaded.findWrites (.expr seed) offset hops).map resultSite ↔
      place ∈ (index.storesAt seed offset).map WriteRecord.site := by
  rw [findWrites_reloaded keys, mem_writeSites_findWrites]
  refine or_iff_left_of_imp fun listed => ?_
  cases hops with
  | zero => cases listed
  | succ hops =>
      rw [Nat.min_eq_right (Nat.le_add_left 1 hops), followedStores_one, List.map_map] at listed
      exact listed

/-- Where an indirect call stands. -/
def CallSite.place (site : CallSite) : String × Nat :=
  (site.file, site.line)

/-- Where a hit stands. -/
def QueryIndex.IndirectHit.place (hit : QueryIndex.IndirectHit) : String × Nat :=
  (hit.site.file, hit.site.line)

/-- The indirect calls with an argument that matches the seed. -/
def XrefIndex.sitesPassing (index : XrefIndex) (seed : Expr) : List CallSite :=
  index.indirect.filter fun site => site.args.any fun arg =>
    (matchSeedWithOffset arg.2 seed).isSome

theorem mem_sitesPassing {seed : Expr} {site : CallSite} :
    site ∈ index.sitesPassing seed ↔
      site ∈ index.indirect ∧ ∃ arg ∈ site.args, ∃ k, matchSeedWithOffset arg.2 seed = some k := by
  rw [XrefIndex.sitesPassing, List.mem_filter, List.any_eq_true]
  simp only [Option.isSome_iff_exists]

/-- The hits at a level are at the indirect calls that pass the seed. -/
theorem mem_places_hitsOf {place : String × Nat} (seed : Expr) (depth : Nat) :
    place ∈ ((index.query position).hitsOf (.expr seed) depth).map QueryIndex.IndirectHit.place ↔
      place ∈ (index.sitesPassing seed).map CallSite.place := by
  rw [List.mem_map, List.mem_map]
  constructor
  · rintro ⟨hit, listed, rfl⟩
    obtain ⟨_, recorded, produced⟩ := List.mem_flatMap.mp listed
    obtain ⟨site, siteListed, rfl⟩ := List.mem_map.mp recorded
    obtain ⟨_, passed, produces⟩ := List.mem_filterMap.mp produced
    obtain ⟨arg, argListed, rfl⟩ := List.mem_map.mp passed
    obtain ⟨k, matched, rfl⟩ := Option.map_eq_some_iff.mp produces
    exact ⟨site, mem_sitesPassing.mpr ⟨siteListed, arg, argListed, k, matched⟩, rfl⟩
  · rintro ⟨site, listed, rfl⟩
    obtain ⟨siteListed, arg, argListed, k, matched⟩ := mem_sitesPassing.mp listed
    refine ⟨⟨site.query position, depth, position arg.1, k⟩, ?_, rfl⟩
    refine List.mem_flatMap.mpr ⟨site.query position, List.mem_map_of_mem siteListed, ?_⟩
    refine List.mem_filterMap.mpr ⟨(position arg.1, arg.2), List.mem_map_of_mem argListed, ?_⟩
    exact Option.map_eq_some_iff.mpr ⟨k, matched, rfl⟩

theorem hitsOf_textParam (digits : String) (depth : Nat) :
    (index.query position).hitsOf (.textParam digits) depth = [] :=
  List.flatMap_eq_nil_iff.mpr fun _ _ => List.filterMap_eq_nil_iff.mpr fun _ _ => rfl

/-- A search for a parameter from the cache finds nothing. -/
theorem recurseIndirect_textParam (levels : Nat) (digits : String) (depth : Nat)
    (search : QueryIndex.IndirectSearch) :
    ((index.query position).recurseIndirect levels (.textParam digits) depth search).hits =
      search.hits := by
  cases levels with
  | zero => rfl
  | succ levels =>
      rw [QueryIndex.recurseIndirect]
      split
      · rfl
      · rw [hitsOf_textParam, List.append_nil, List.foldl_fixed' fun _ => rfl]

/-- From the cache, a search with hops finds the hits of the seed alone. -/
theorem findReachableIndirect_reloaded (seed : Expr) (hops : Nat) :
    index.reloaded.findReachableIndirect (.expr seed) (hops + 1) =
      index.reloaded.hitsOf (.expr seed) 1 := by
  rw [QueryIndex.findReachableIndirect, QueryIndex.recurseIndirect,
    if_neg List.not_mem_nil]
  refine List.foldlRecOn (motive := fun search : QueryIndex.IndirectSearch =>
    search.hits = index.reloaded.hitsOf (.expr seed) 1) _ _ rfl ?_
  intro search same arg listed
  rw [XrefIndex.reloaded, recordedArgs_query] at listed
  obtain ⟨recorded, -, rfl⟩ := List.mem_map.mp listed
  dsimp only
  split
  · exact (recurseIndirect_textParam _ _ _ _ _).trans same
  · exact same

theorem recurseIndirect_inMemory (levels : Nat) (seed : Expr) (depth : Nat)
    (search : QueryIndex.IndirectSearch) :
    index.inMemory.recurseIndirect (levels + 1) (.expr seed) depth search =
      if exprKey seed ∈ search.visitedSeeds then search
      else
        index.recordedArgs.foldl (fun search arg =>
          match matchSeedWithOffset arg.2 seed with
          | some _ =>
              index.inMemory.recurseIndirect levels (.expr (.param arg.1)) (depth + 1) search
          | none => search)
          ⟨exprKey seed :: search.visitedSeeds,
            search.hits ++ index.inMemory.hitsOf (.expr seed) depth⟩ := by
  rw [QueryIndex.recurseIndirect, XrefIndex.inMemory, recordedArgs_query, List.foldl_map]
  rfl

/-- A search goes on from another. -/
structure QueryIndex.IndirectSearch.Extends (first second : QueryIndex.IndirectSearch) :
    Prop where
  visitedSeeds : first.visitedSeeds ⊆ second.visitedSeeds
  hits : first.hits ⊆ second.hits

theorem QueryIndex.IndirectSearch.Extends.refl (search : QueryIndex.IndirectSearch) :
    search.Extends search :=
  ⟨List.Subset.refl _, List.Subset.refl _⟩

theorem QueryIndex.IndirectSearch.Extends.trans {first second third : QueryIndex.IndirectSearch}
    (before : first.Extends second) (after : second.Extends third) : first.Extends third :=
  ⟨List.Subset.trans before.visitedSeeds after.visitedSeeds,
    List.Subset.trans before.hits after.hits⟩

theorem extends_recurseIndirect (levels : Nat) (seed : Expr) (depth : Nat)
    (search : QueryIndex.IndirectSearch) :
    search.Extends (index.inMemory.recurseIndirect levels (.expr seed) depth search) := by
  induction levels generalizing seed depth search with
  | zero => exact .refl search
  | succ levels ih =>
      rw [recurseIndirect_inMemory]
      split
      · exact .refl search
      · refine List.foldlRecOn (motive := search.Extends) _ _ ?_ ?_
        · exact ⟨List.subset_cons_self _ _, List.subset_append_left _ _⟩
        · intro later sofar arg _
          split
          · exact sofar.trans (ih _ _ later)
          · exact sofar

/-- The hits of every seed that was visited are in the search. -/
def QueryIndex.IndirectSearch.Covers (search : QueryIndex.IndirectSearch) (index : XrefIndex) :
    Prop :=
  ∀ seed, exprKey seed ∈ search.visitedSeeds →
    (index.sitesPassing seed).map CallSite.place ⊆
      search.hits.map QueryIndex.IndirectHit.place

/-- A seed is visited together with its hits. -/
theorem covers_visit {search : QueryIndex.IndirectSearch} (covers : search.Covers index)
    (seed : Expr) (depth : Nat) :
    QueryIndex.IndirectSearch.Covers ⟨exprKey seed :: search.visitedSeeds,
      search.hits ++ index.inMemory.hitsOf (.expr seed) depth⟩ index := by
  intro other visited place listed
  rw [List.map_append, List.mem_append]
  rcases List.mem_cons.mp visited with own | earlier
  · obtain rfl := exprKey_inj.mp own
    exact .inr ((mem_places_hitsOf .number other depth).mpr listed)
  · exact .inl (covers other earlier listed)

theorem covers_recurseIndirect (levels : Nat) (seed : Expr) (depth : Nat)
    {search : QueryIndex.IndirectSearch} (covers : search.Covers index) :
    (index.inMemory.recurseIndirect levels (.expr seed) depth search).Covers index := by
  induction levels generalizing seed depth search with
  | zero => exact covers
  | succ levels ih =>
      rw [recurseIndirect_inMemory]
      split
      · exact covers
      · refine List.foldlRecOn
          (motive := fun search : QueryIndex.IndirectSearch => search.Covers index) _ _
          (covers_visit covers seed depth) ?_
        intro later sofar arg _
        split
        · exact ih _ _ sofar
        · exact sofar

theorem mem_visitedSeeds_recurseIndirect (levels : Nat) (seed : Expr) (depth : Nat)
    (search : QueryIndex.IndirectSearch) :
    exprKey seed ∈
      (index.inMemory.recurseIndirect (levels + 1) (.expr seed) depth search).visitedSeeds := by
  rw [recurseIndirect_inMemory]
  split
  · assumption
  · refine List.foldlRecOn (motive := fun search : QueryIndex.IndirectSearch =>
      exprKey seed ∈ search.visitedSeeds) _ _ List.mem_cons_self ?_
    intro later visited arg _
    split
    · exact (extends_recurseIndirect levels _ _ later).visitedSeeds visited
    · exact visited

/-- A parameter that a call passes an argument to leads to no places that the argument
itself does not lead to. -/
structure SurvivesReload (index : XrefIndex) : Prop where
  writes : ∀ arg ∈ index.recordedArgs, ∀ seed k, matchSeedWithOffset arg.2 seed = some k →
    ∀ offset, (index.storesAt (.param arg.1) (offset - k)).map WriteRecord.site ⊆
      (index.storesAt seed offset).map WriteRecord.site
  indirect : ∀ arg ∈ index.recordedArgs, ∀ seed k, matchSeedWithOffset arg.2 seed = some k →
    (index.sitesPassing (.param arg.1)).map CallSite.place ⊆
      (index.sitesPassing seed).map CallSite.place

/-- Both searches find the same places on the reloaded index as in memory. -/
def SameSites (index : XrefIndex) (seed : Expr) (offset : Int) (hops : Nat) : Prop :=
  (∀ place, place ∈ (index.reloaded.findWrites (.expr seed) offset hops).map resultSite ↔
      place ∈ (index.inMemory.findWrites (.expr seed) offset hops).map resultSite) ∧
    ∀ place, place ∈ (index.reloaded.findReachableIndirect (.expr seed) hops).map
        QueryIndex.IndirectHit.place ↔
      place ∈ (index.inMemory.findReachableIndirect (.expr seed) hops).map
        QueryIndex.IndirectHit.place

/-- Following arguments leads to no new stores.  The induction is on the levels. -/
theorem SurvivesReload.followedStores (survives : SurvivesReload index) (levels : Nat)
    (seed : Expr) (offset : Int) (depth : Nat) :
    (Tools.followedStores index levels seed offset depth).map entrySite ⊆
      (index.storesAt seed offset).map WriteRecord.site := by
  induction levels generalizing seed offset depth with
  | zero => exact List.nil_subset _
  | succ levels ih =>
      intro place listed
      obtain ⟨entry, followed, rfl⟩ := List.mem_map.mp listed
      rw [Tools.followedStores, List.mem_append] at followed
      rcases followed with direct | behind
      · obtain ⟨w, stored, rfl⟩ := List.mem_map.mp direct
        exact List.mem_map_of_mem stored
      · obtain ⟨arg, recorded, led⟩ := List.mem_flatMap.mp behind
        cases matched : matchSeedWithOffset arg.2 seed with
        | none =>
            rw [matched] at led
            cases led
        | some k =>
            rw [matched] at led
            exact survives.writes arg recorded seed k matched offset
              (ih _ _ _ (List.mem_map_of_mem led))

/-- Following arguments leads to no new indirect calls. -/
theorem SurvivesReload.recurseIndirect (survives : SurvivesReload index) (levels : Nat)
    (seed : Expr) (depth : Nat) (search : QueryIndex.IndirectSearch) {place : String × Nat}
    (hit : place ∈ (index.inMemory.recurseIndirect levels (.expr seed) depth search).hits.map
      QueryIndex.IndirectHit.place) :
    place ∈ search.hits.map QueryIndex.IndirectHit.place ∨
      place ∈ (index.sitesPassing seed).map CallSite.place := by
  induction levels generalizing seed depth search with
  | zero => exact .inl hit
  | succ levels ih =>
      rw [recurseIndirect_inMemory] at hit
      split at hit
      · exact .inl hit
      · revert hit
        refine List.foldlRecOn (motive := fun later : QueryIndex.IndirectSearch =>
          place ∈ later.hits.map QueryIndex.IndirectHit.place → _) _ _ ?_ ?_
        · intro hit
          rw [List.map_append, List.mem_append] at hit
          exact hit.imp_right (mem_places_hitsOf .number seed depth).mp
        · intro later sofar arg recorded hit
          split at hit
          · next k matched =>
            rcases ih _ _ _ hit with earlier | passed
            · exact sofar earlier
            · exact .inr (survives.indirect arg recorded seed k matched passed)
          · exact sofar hit

theorem covers_nil : QueryIndex.IndirectSearch.Covers ⟨[], []⟩ index :=
  fun _ visited => absurd visited List.not_mem_nil

/-- In memory, any hops find the indirect calls that pass the seed. -/
theorem sitesPassing_subset (seed : Expr) (hops : Nat) :
    (index.sitesPassing seed).map CallSite.place ⊆
      (index.inMemory.findReachableIndirect (.expr seed) (hops + 1)).map
        QueryIndex.IndirectHit.place :=
  covers_recurseIndirect _ _ _ covers_nil seed (mem_visitedSeeds_recurseIndirect hops _ _ _)

/-- In memory, two hops find the indirect calls behind a recorded argument. -/
theorem sitesPassing_subset_twoHops {arg : Nat × Expr} (recorded : arg ∈ index.recordedArgs)
    {seed : Expr} {k : Int} (matched : matchSeedWithOffset arg.2 seed = some k) :
    (index.sitesPassing (.param arg.1)).map CallSite.place ⊆
      (index.inMemory.findReachableIndirect (.expr seed) 2).map
        QueryIndex.IndirectHit.place := by
  -- the search visits the parameter in that position, and covers what it visits
  apply covers_recurseIndirect 2 seed 1 covers_nil (.param arg.1)
  obtain ⟨before, after, split⟩ := List.append_of_mem recorded
  rw [recurseIndirect_inMemory, if_neg List.not_mem_nil, split, List.foldl_append,
    List.foldl_cons, matched]
  refine List.foldlRecOn (motive := fun search : QueryIndex.IndirectSearch =>
    exprKey (.param arg.1) ∈ search.visitedSeeds) _ _
    (mem_visitedSeeds_recurseIndirect 0 _ _ _) ?_
  intro later visited other _
  split
  · exact (extends_recurseIndirect 1 _ _ later).visitedSeeds visited
  · exact visited

theorem mem_places_reloaded {place : String × Nat} (seed : Expr) (hops : Nat) :
    place ∈ (index.reloaded.findReachableIndirect (.expr seed) (hops + 1)).map
        QueryIndex.IndirectHit.place ↔
      place ∈ (index.sitesPassing seed).map CallSite.place := by
  rw [findReachableIndirect_reloaded]
  exact mem_places_hitsOf _ seed 1

theorem SurvivesReload.sameSites (keys : KeysAreStores index) (survives : SurvivesReload index)
    (seed : Expr) (offset : Int) (hops : Nat) : SameSites index seed offset hops := by
  constructor
  · intro place
    rw [mem_sites_reloaded keys, findWrites_inMemory, mem_writeSites_findWrites]
    exact (or_iff_left_of_imp fun listed =>
      survives.followedStores hops seed offset 1 listed).symm
  · intro place
    cases hops with
    | zero => exact Iff.rfl
    | succ hops =>
        rw [mem_places_reloaded]
        constructor
        · exact fun passed => sitesPassing_subset seed hops passed
        · intro hit
          exact (survives.recurseIndirect _ _ _ _ hit).resolve_left List.not_mem_nil

/-- In memory, two hops find the stores behind a recorded argument. -/
theorem storesAt_subset_twoHops {arg : Nat × Expr} (recorded : arg ∈ index.recordedArgs)
    {seed : Expr} {k : Int} (matched : matchSeedWithOffset arg.2 seed = some k)
    (offset : Int) :
    (index.storesAt (.param arg.1) (offset - k)).map WriteRecord.site ⊆
      (index.inMemory.findWrites (.expr seed) offset 2).map resultSite := by
  intro place listed
  rw [findWrites_inMemory, mem_writeSites_findWrites]
  right
  obtain ⟨w, stored, rfl⟩ := List.mem_map.mp listed
  refine List.mem_map.mpr ⟨(w, 2), ?_, rfl⟩
  rw [Tools.followedStores]
  refine List.mem_append_right _ (List.mem_flatMap.mpr ⟨arg, recorded, ?_⟩)
  rw [matched]
  exact List.mem_append_left _ (List.mem_map_of_mem stored)

end Index

/-- Both searches find the same places for every seed, offset and number of hops exactly
when a recorded argument leads to no places behind it that it does not lead to itself. -/
theorem buildIndex_sameSites_iff (functions : List AnalysedFunction) :
    (∀ seed offset hops, SameSites (buildIndex functions) seed offset hops) ↔
      SurvivesReload (buildIndex functions) := by
  have keys := keysAreStores_buildIndex functions
  constructor
  · intro same
    constructor
    · intro arg recorded seed k matched offset place listed
      have found := storesAt_subset_twoHops recorded matched offset listed
      exact (mem_sites_reloaded keys seed offset 2).mp (((same seed offset 2).1 place).mpr found)
    · intro arg recorded seed k matched place listed
      have found := sitesPassing_subset_twoHops recorded matched listed
      exact (mem_places_reloaded seed 1).mp (((same seed 0 2).2 place).mpr found)
  · intro survives seed offset hops
    exact survives.sameSites keys seed offset hops

/-- A function passes the address 1 to another, which stores to its first parameter. -/
def passedAddress : List AnalysedFunction :=
  [⟨"sub_1", "a.cpp", 2,
      [⟨"ctx.r3.s64 = 1;", .const 3 1⟩, ⟨"sub_2(ctx, base);", .call "sub_2"⟩]⟩,
    ⟨"sub_2", "a.cpp", 6, [⟨"PPC_STORE_U32(ctx.r3.u32 + 0, ctx.r4.u32);", .store 32 3 0⟩]⟩]

/-- The store of the callee is found in memory and not from the cache. -/
theorem passedAddress_lost :
    ¬ ∀ seed offset hops, SameSites (buildIndex passedAddress) seed offset hops := by
  intro same
  have found : (("a.cpp", 6) : String × Nat) ∈
      ((buildIndex passedAddress).inMemory.findWrites (.expr (.const 1)) 0 2).map
        resultSite := by decide +kernel
  have lost : (("a.cpp", 6) : String × Nat) ∉
      ((buildIndex passedAddress).reloaded.findWrites (.expr (.const 1)) 0 2).map
        resultSite := by decide +kernel
  exact lost (((same (.const 1) 0 2).1 _).mpr found)

end BumpinHost.Tools
