import BumpinHost.Library.FirstPerKey
import BumpinHost.Tools.Xref

/-!
# What the search for writes returns

The search follows a seed into the arguments of recorded calls, and from there goes on
with the parameter in that position, of whatever function.  Its results are the direct
writes, and then the first write at each place among all that it comes to.  So no place
is returned twice exactly when the search starts without direct writes or does not start
at all; and a write that it finds behind calls is in the function these calls lead to
exactly when it could also be found there.
-/

namespace BumpinHost.Tools

open BumpinHost.FirstPerKey

/-- All arguments recorded at calls, with their positions. -/
def XrefIndex.recordedArgs (index : XrefIndex) : List (Nat × Expr) :=
  index.calls.flatMap fun entry => entry.2.flatMap CallSite.args

/-- The stores recorded under a seed and an offset. -/
def XrefIndex.storesAt (index : XrefIndex) (seed : Expr) (offset : Int) : List WriteRecord :=
  index.writes (exprKey (.storeAt seed offset))

/-- The stores at the ends of all sequences of recorded arguments, each of which matches
the seed before it, in the order of the search and with the depth. -/
def followedStores (index : XrefIndex) : Nat → Expr → Int → Nat → List (WriteRecord × Nat)
  | 0, _, _, _ => []
  | levels + 1, seed, offset, depth =>
      (index.storesAt seed offset).map (fun w => (w, depth)) ++
        index.recordedArgs.flatMap fun arg =>
          match matchSeedWithOffset arg.2 seed with
          | some k => followedStores index levels (.param arg.1) (offset - k) (depth + 1)
          | none => []

theorem addWrites_eq (index : XrefIndex) (seed : Expr) (offset : Int) (depth : Nat)
    (found : Found) :
    addWrites index seed offset depth found =
      ((index.storesAt seed offset).map fun w => (w, depth)).foldl addStore found := by
  rw [List.foldl_map]
  rfl

theorem recurse_eq (index : XrefIndex) (levels : Nat) (seed : Expr) (offset : Int)
    (depth : Nat) (found : Found) :
    recurse index levels seed offset depth found =
      (followedStores index levels seed offset depth).foldl addStore found := by
  induction levels generalizing seed offset depth found with
  | zero => rfl
  | succ levels ih =>
      rw [followedStores, List.foldl_append, ← addWrites_eq]
      refine Eq.trans ?_ List.foldl_flatMap.symm
      refine List.foldl_ext _ _ _ fun found arg _ => ?_
      cases matchSeedWithOffset arg.2 seed with
      | none => rfl
      | some k => exact ih _ _ _ _

/-- A result found at a depth. -/
def atDepth (entry : WriteRecord × Nat) : WriteRecord × Option Nat :=
  (entry.1, some entry.2)

theorem results_foldl_addStore (entries : List (WriteRecord × Nat)) (found : Found) :
    (entries.foldl addStore found).results =
      found.results ++
        (firsts entrySite found.visited entries).map atDepth := by
  induction entries generalizing found with
  | nil => exact (List.append_nil _).symm
  | cons entry entries ih =>
      rw [List.foldl_cons, ih]
      unfold addStore
      by_cases old : entrySite entry ∈ found.visited
      · rw [if_pos old, firsts_of_mem old]
      · rw [if_neg old, firsts_of_not_mem old, List.map_cons, List.append_assoc]
        rfl

/-- The direct writes, and the first of the followed stores at each place. -/
theorem findWrites_eq (index : XrefIndex) (seed : Expr) (offset : Int) (hops : Nat) :
    findWrites index seed offset hops =
      (index.storesAt seed offset).map (fun w => (w, none)) ++
        (firsts entrySite [] (followedStores index hops seed offset 1)).map atDepth := by
  rw [findWrites, recurse_eq, results_foldl_addStore]
  rfl

/-- No place is returned twice. -/
def SitesOnce (results : List (WriteRecord × Option Nat)) : Prop :=
  (results.map fun result => result.1.site).Nodup

theorem sitesOnce_iff (index : XrefIndex) (seed : Expr) (offset : Int) (hops : Nat) :
    SitesOnce (findWrites index seed offset hops) ↔
      index.storesAt seed offset = [] ∨
        hops = 0 ∧ ((index.storesAt seed offset).map WriteRecord.site).Nodup := by
  have sites : (findWrites index seed offset hops).map (fun result => result.1.site) =
      (index.storesAt seed offset).map WriteRecord.site ++
        (firsts entrySite [] (followedStores index hops seed offset 1)).map entrySite := by
    rw [findWrites_eq, List.map_append, List.map_map, List.map_map]
    rfl
  unfold SitesOnce
  rw [sites]
  cases hops with
  | zero =>
      rw [followedStores, firsts, List.map_nil, List.append_nil]
      constructor
      · exact fun once => .inr ⟨rfl, once⟩
      · rintro (none | ⟨-, once⟩)
        · rw [none]
          exact List.nodup_nil
        · exact once
  | succ hops =>
      cases direct : index.storesAt seed offset with
      | nil =>
          rw [List.map_nil, List.nil_append]
          exact iff_of_true nodup_firsts (.inl rfl)
      | cons w rest =>
          have followed : ∃ after, followedStores index (hops + 1) seed offset 1 =
              [] ++ (w, 1) :: after := by
            rw [followedStores, direct, List.map_cons, List.cons_append]
            exact ⟨_, rfl⟩
          obtain ⟨after, split⟩ := followed
          have kept : (w, 1) ∈ firsts entrySite []
              (followedStores index (hops + 1) seed offset 1) :=
            mem_firsts_iff.mpr ⟨[], after, split, List.not_mem_nil,
              fun _ listed => absurd listed List.not_mem_nil⟩
          refine iff_of_false ?_ ?_
          · intro once
            exact List.disjoint_of_nodup_append once (List.mem_cons_self)
              (List.mem_map_of_mem kept)
          · rintro (none | ⟨zero, -⟩)
            · cases none
            · cases zero

/-- A recorded callee is a function by its name, with or without the prefix of an
implementation. -/
def Names (callee func : String) : Prop :=
  callee = func ∨ callee = "__imp__" ++ func

/-- So many recorded calls lead from the seed into a callee.  Each passes what the seed
has become, with the rest of the offset, and all but the first stand in the function that
the call before them names. -/
inductive CallChain (index : XrefIndex) (seed : Expr) (offset : Int) :
    Nat → String → Expr → Int → Prop
  | first {callee : String} {sites : List CallSite} {site : CallSite} {i : Nat}
      {value : Expr} {k : Int} : (callee, sites) ∈ index.calls → site ∈ sites →
      (i, value) ∈ site.args → matchSeedWithOffset value seed = some k →
      CallChain index seed offset 1 callee (.param i) (offset - k)
  | next {calls : Nat} {caller callee : String} {current : Expr} {rest : Int}
      {sites : List CallSite} {site : CallSite} {i : Nat} {value : Expr} {k : Int} :
      CallChain index seed offset calls caller current rest →
      (callee, sites) ∈ index.calls → site ∈ sites → Names caller site.caller →
      (i, value) ∈ site.args → matchSeedWithOffset value current = some k →
      CallChain index seed offset (calls + 1) callee (.param i) (rest - k)

/-- The store is recorded under a parameter of a function that so many calls lead to,
and stands in this function. -/
def AtChainEnd (index : XrefIndex) (seed : Expr) (offset : Int) (calls : Nat)
    (w : WriteRecord) : Prop :=
  ∃ callee current rest, CallChain index seed offset calls callee current rest ∧
    w ∈ index.storesAt current rest ∧ Names callee w.func

/-- Every result behind at least one call is at the end of a chain of that many calls. -/
def HopsChained (index : XrefIndex) (seed : Expr) (offset : Int)
    (results : List (WriteRecord × Option Nat)) : Prop :=
  ∀ w depth, (w, some depth) ∈ results → 1 < depth →
    AtChainEnd index seed offset (depth - 1) w

/-- Every store behind at least one call to which recorded arguments lead, and whose place
no earlier ones have led to, can also be reached by a chain of that many calls. -/
def FollowedChained (index : XrefIndex) (seed : Expr) (offset : Int) (hops : Nat) : Prop :=
  ∀ before w depth after,
    followedStores index hops seed offset 1 = before ++ (w, depth) :: after →
    (∀ earlier ∈ before, entrySite earlier ≠ w.site) → 1 < depth →
      AtChainEnd index seed offset (depth - 1) w

theorem mem_findWrites_iff {index : XrefIndex} {seed : Expr} {offset : Int} {hops depth : Nat}
    {w : WriteRecord} :
    (w, some depth) ∈ findWrites index seed offset hops ↔
      ∃ before after, followedStores index hops seed offset 1 = before ++ (w, depth) :: after ∧
        ∀ earlier ∈ before, entrySite earlier ≠ w.site := by
  have kept : (w, some depth) ∈ findWrites index seed offset hops ↔
      (w, depth) ∈ firsts entrySite [] (followedStores index hops seed offset 1) := by
    rw [findWrites_eq, List.mem_append]
    constructor
    · rintro (direct | followed)
      · obtain ⟨_, _, different⟩ := List.mem_map.mp direct
        cases (Prod.mk.inj different).2
      · obtain ⟨entry, listed, same⟩ := List.mem_map.mp followed
        obtain ⟨first, second⟩ := Prod.mk.inj same
        have equal : entry = (w, depth) := Prod.ext first (Option.some.inj second)
        exact equal ▸ listed
    · exact fun listed => .inr (List.mem_map_of_mem (f := atDepth) listed)
  rw [kept, mem_firsts_iff]
  constructor
  · rintro ⟨before, after, split, -, none⟩
    exact ⟨before, after, split, none⟩
  · rintro ⟨before, after, split, none⟩
    exact ⟨before, after, split, List.not_mem_nil, none⟩

theorem hopsChained_iff (index : XrefIndex) (seed : Expr) (offset : Int) (hops : Nat) :
    HopsChained index seed offset (findWrites index seed offset hops) ↔
      FollowedChained index seed offset hops := by
  constructor
  · intro chained before w depth after split none behind
    exact chained w depth (mem_findWrites_iff.mpr ⟨before, after, split, none⟩) behind
  · intro chained w depth listed behind
    obtain ⟨before, after, split, none⟩ := mem_findWrites_iff.mp listed
    exact chained before w depth after split none behind

/-- Some recorded call of the callee passes something in this position that the search follows:
the seed, or a parameter of whatever function. -/
def XrefIndex.Fills (index : XrefIndex) (seed : Expr) (callee : String) (i : Nat) : Prop :=
  ∃ sites, (callee, sites) ∈ index.calls ∧ ∃ site ∈ sites, ∃ value, (i, value) ∈ site.args ∧
    ∃ current k, (current = seed ∨ ∃ j, current = .param j) ∧
      matchSeedWithOffset value current = some k

/-- What is recorded under a parameter position that a call fills stands in the function that the
call names. -/
structure XrefIndex.ParamsUnshared (index : XrefIndex) (seed : Expr) : Prop where
  stores : ∀ {callee i}, index.Fills seed callee i → ∀ rest, ∀ w ∈ index.storesAt (.param i) rest,
    Names callee w.func
  args : ∀ {callee i}, index.Fills seed callee i → ∀ other ∈ index.calls, ∀ site ∈ other.2,
    ∀ arg ∈ site.args, ∀ k, matchSeedWithOffset arg.2 (.param i) = some k →
      Names callee site.caller

/-- A followed store is recorded under the seed, or a recorded argument that matches the seed
leads to it. -/
theorem mem_followedStores_succ {index : XrefIndex} {levels : Nat} {seed : Expr} {offset : Int}
    {depth : Nat} {entry : WriteRecord × Nat}
    (found : entry ∈ followedStores index (levels + 1) seed offset depth) :
    (entry.1 ∈ index.storesAt seed offset ∧ entry.2 = depth) ∨
      ∃ callee sites, (callee, sites) ∈ index.calls ∧ ∃ site ∈ sites, ∃ arg ∈ site.args,
        ∃ k, matchSeedWithOffset arg.2 seed = some k ∧
          entry ∈ followedStores index levels (.param arg.1) (offset - k) (depth + 1) := by
  rw [followedStores, List.mem_append, List.mem_map, List.mem_flatMap] at found
  obtain ⟨w, stored, rfl⟩ | ⟨arg, recorded, behind⟩ := found
  · exact .inl ⟨stored, rfl⟩
  · obtain ⟨⟨callee, sites⟩, called, passes⟩ := List.mem_flatMap.mp recorded
    obtain ⟨site, listed, passed⟩ := List.mem_flatMap.mp passes
    cases isMatch : matchSeedWithOffset arg.2 seed with
    | none =>
        rw [isMatch] at behind
        cases behind
    | some k =>
        rw [isMatch] at behind
        exact .inr ⟨callee, sites, called, site, listed, arg, passed, k, isMatch, behind⟩

/-- Behind a chain of calls the search stays in the called functions. -/
theorem followedStores_chained {index : XrefIndex} {seed : Expr}
    (unshared : index.ParamsUnshared seed) {offset : Int} (levels : Nat) {calls i : Nat}
    {callee : String} {rest : Int} (chain : CallChain index seed offset calls callee (.param i) rest)
    (fills : index.Fills seed callee i) {entry : WriteRecord × Nat}
    (found : entry ∈ followedStores index levels (.param i) rest (calls + 1)) :
    AtChainEnd index seed offset (entry.2 - 1) entry.1 := by
  induction levels generalizing calls i callee rest with
  | zero => cases found
  | succ levels ih =>
      obtain ⟨stored, depth⟩ | ⟨next, sites, called, site, listed, arg, passed, k, isMatch, behind⟩ :=
        mem_followedStores_succ found
      · rw [depth]
        exact ⟨callee, .param i, rest, chain, stored, unshared.stores fills rest _ stored⟩
      · have stays := unshared.args fills _ called site listed arg passed k isMatch
        exact ih (.next chain called listed stays passed isMatch)
          ⟨sites, called, site, listed, arg.2, passed, .param i, k, .inr ⟨i, rfl⟩, isMatch⟩ behind

/-- Where called functions do not share parameter positions, whatever the search comes to behind
calls is at the end of a chain of calls. -/
theorem followedChained_of_unshared {index : XrefIndex} {seed : Expr}
    (unshared : index.ParamsUnshared seed) (offset : Int) (hops : Nat) :
    FollowedChained index seed offset hops := by
  intro before w depth after split _ behind
  have found : (w, depth) ∈ followedStores index hops seed offset 1 := by
    rw [split]
    exact List.mem_append_right _ List.mem_cons_self
  cases hops with
  | zero => cases found
  | succ hops =>
      obtain ⟨-, direct⟩ | ⟨callee, sites, called, site, listed, arg, passed, k, isMatch, later⟩ :=
        mem_followedStores_succ found
      · exact absurd direct behind.ne'
      · exact followedStores_chained unshared hops (.first called listed passed isMatch)
          ⟨sites, called, site, listed, arg.2, passed, seed, k, .inl rfl, isMatch⟩ later

/-- A search returns no place twice, and behind calls only stores that chains of calls
lead to, exactly when it has no direct writes, or no hops and direct writes at different
places, and the stores that it comes to behind calls can be reached by such chains. -/
theorem findWrites_precise_iff (index : XrefIndex) (seed : Expr) (offset : Int)
    (hops : Nat) :
    SitesOnce (findWrites index seed offset hops) ∧
        HopsChained index seed offset (findWrites index seed offset hops) ↔
      (index.storesAt seed offset = [] ∨
        hops = 0 ∧ ((index.storesAt seed offset).map WriteRecord.site).Nodup) ∧
        FollowedChained index seed offset hops := by
  rw [sitesOnce_iff, hopsChained_iff]

/-- `main` stores to the address 1 and passes it to `f`; only `g` stores to its first
parameter. -/
def unrelatedIndex : XrefIndex where
  writes key :=
    if key = exprKey (.storeAt (.const 1) 0) then [⟨"main", "a.cpp", 2, "", 32⟩]
    else if key = exprKey (.storeAt (.param 0) 0) then [⟨"g", "a.cpp", 9, "", 32⟩]
    else []
  calls := [("f", [⟨"main", "a.cpp", 3, [(0, .const 1)]⟩])]
  indirect := []

/-- The store of `main` is found twice, and the store of `g` behind the call of `f`. -/
theorem unrelatedIndex_imprecise :
    ¬ SitesOnce (findWrites unrelatedIndex (.const 1) 0 2) ∧
      ¬ HopsChained unrelatedIndex (.const 1) 0 (findWrites unrelatedIndex (.const 1) 0 2) := by
  constructor
  · unfold SitesOnce
    decide +kernel
  · intro chained
    have found : ((⟨"g", "a.cpp", 9, "", 32⟩ : WriteRecord), some 2) ∈
        findWrites unrelatedIndex (.const 1) 0 2 := by decide +kernel
    obtain ⟨callee, current, rest, chain, -, names⟩ := chained _ _ found (by decide)
    cases chain with
    | first recorded _ _ _ =>
        obtain ⟨rfl, -⟩ := Prod.mk.inj (List.mem_singleton.mp recorded)
        revert names
        unfold Names
        decide +kernel
    | next before _ _ _ _ _ => cases before

end BumpinHost.Tools
