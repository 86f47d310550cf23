import BumpinHost.Library.BoundedWait
import BumpinHost.Library.ByteMemory

/-!
# Waiting for the fence

Two routines of the game wait for the words of a fence block that the GPU writes.  They are
replaced by waits that look at the block every 100 microseconds and give up after five
seconds, the time after which the console would stop.
-/

namespace BumpinHost.Guest

open BoundedWait Memory

/-- What the other threads and the clock do during one call: the memory at each of its loads,
and the time since its start at each look at the clock, in nanoseconds.  A sleep is at least
as long as it says. -/
structure Surroundings where
  memory : Nat → Memory
  elapsed : Nat → Nat
  sleeps : ∀ check, 100000 * check ≤ elapsed check

def kMaxWait : Nat := 5000 * 1000000

/-- The loop of a wait, whose checks are the loads from `firstLoad` on. -/
def waitLoop (around : Surroundings) (firstLoad : Nat) (reached : Memory → Bool) :
    Option Outcome :=
  poll (fun check => reached (around.memory (firstLoad + check))) around.elapsed kMaxWait 50002 0

/-- How a call returns: without a block or a target, at a gate before the wait, or after it. -/
inductive FenceReturn
  | nothingToWaitFor
  | atGate (load : Nat)
  | afterWait (outcome : Outcome)
deriving DecidableEq, Repr

/-- Same tag in the two lowest bits, or the next tag and a value that the fence has passed. -/
def satisfied (structPtr value : Word) (mem : Memory) : Bool :=
  let fence := loadU32 mem (structPtr + 4)
  let diff := value - fence
  if diff &&& 0x3 = 0 then true
  else diff &&& 0x3 = 1 ∧ value ≤ fence &&& ~~~0x3

def sub820B4EE8 (around : Surroundings) (self x target : Word) : Option FenceReturn :=
  let structPtr := loadU32 (around.memory 0) (self + 10768)
  if structPtr = 0 then some .nothingToWaitFor
  else if satisfied structPtr target (around.memory 1) then some (.atGate 1)
  else (waitLoop around 2 (satisfied structPtr x)).map .afterWait

/-- `target <= current()`. -/
def reachesTarget (structPtr target : Word) (mem : Memory) : Bool :=
  target ≤ loadU32 mem structPtr

/-- The call of `sub_820B6220`, when it is made, comes between the fourth load and the next. -/
def callsFlush (around : Surroundings) (self target : Word) : Bool :=
  let expectation := loadU32 (around.memory 2) (self + 10780)
  let inProgress := loadU32 (around.memory 3) (self + 12944)
  target = expectation ∧ inProgress = 0

/-- The way it returns, and whether it called `sub_820B6220`. -/
def sub820B5BC8 (around : Surroundings) (self target : Word) : Option (FenceReturn × Bool) :=
  if target = 0 then some (.nothingToWaitFor, false)
  else
    let structPtr := loadU32 (around.memory 0) (self + 10768)
    if structPtr = 0 then some (.nothingToWaitFor, false)
    else if reachesTarget structPtr target (around.memory 1) then some (.atGate 1, false)
    else
      let flushed := callsFlush around self target
      if reachesTarget structPtr target (around.memory 4) then some (.atGate 4, flushed)
      else (waitLoop around 5 (reachesTarget structPtr target)).map fun outcome =>
        (.afterWait outcome, flushed)

/-- The fence words that `sub_820B5A28` is made to publish before its own code runs. -/
def publishFence (self : Word) (mem : Memory) : Memory :=
  let structPtr := loadU32 mem (self + 10768)
  if structPtr ≠ 0 then
    let oldExpectation := loadU32 mem (self + 10780)
    let cursorFlags := (loadU32 mem (self + 13500) &&& 0x3) ||| loadU32 mem (self + 40)
    storeU32 (storeU32 mem (structPtr + 0) oldExpectation) (structPtr + 4) cursorFlags
  else mem

theorem waitLoop_ends (around : Surroundings) (firstLoad : Nat) (reached : Memory → Bool) :
    ∃ outcome, waitLoop around firstLoad reached = some outcome :=
  poll_ends around.sleeps (by decide : kMaxWait < 100000 * 50001)

/-- No check in time sees the fence reached. -/
def NeverReached (around : Surroundings) (firstLoad : Nat) (reached : Memory → Bool) : Prop :=
  ∀ check, (∀ earlier < check, around.elapsed earlier ≤ kMaxWait) →
    reached (around.memory (firstLoad + check)) = false

theorem waitLoop_gaveUp_iff (around : Surroundings) (firstLoad : Nat) (reached : Memory → Bool) :
    (∃ checks, waitLoop around firstLoad reached = some (.gaveUp checks)) ↔
      NeverReached around firstLoad reached :=
  gaveUp_iff around.sleeps (by decide : kMaxWait < 100000 * 50001)

/-- The call of `sub_820B4EE8` has a block, and its gate is not passed. -/
def Sub820B4EE8Waits (around : Surroundings) (self target : Word) : Prop :=
  loadU32 (around.memory 0) (self + 10768) ≠ 0 ∧
    satisfied (loadU32 (around.memory 0) (self + 10768)) target (around.memory 1) = false

theorem sub820B4EE8_wait {around : Surroundings} {self target : Word}
    (waits : Sub820B4EE8Waits around self target) (x : Word) :
    sub820B4EE8 around self x target =
      (waitLoop around 2 (satisfied (loadU32 (around.memory 0) (self + 10768)) x)).map
        .afterWait := by
  unfold sub820B4EE8
  dsimp only
  rw [if_neg waits.1, waits.2, if_neg Bool.false_ne_true]

theorem sub820B4EE8_noWait {around : Surroundings} {self target : Word}
    (gate : ¬Sub820B4EE8Waits around self target) (x : Word) :
    sub820B4EE8 around self x target = some .nothingToWaitFor ∨
      sub820B4EE8 around self x target = some (.atGate 1) := by
  unfold sub820B4EE8
  dsimp only
  by_cases none : loadU32 (around.memory 0) (self + 10768) = 0
  · exact .inl (if_pos none)
  · have passed : satisfied (loadU32 (around.memory 0) (self + 10768)) target
        (around.memory 1) = true := by
      by_contra off
      exact gate ⟨none, Bool.eq_false_iff.mpr off⟩
    rw [if_neg none, if_pos passed]
    exact .inr rfl

/-- The call of `sub_820B5BC8` has a target and a block, and passes neither gate. -/
def Sub820B5BC8Waits (around : Surroundings) (self target : Word) : Prop :=
  target ≠ 0 ∧ loadU32 (around.memory 0) (self + 10768) ≠ 0 ∧
    reachesTarget (loadU32 (around.memory 0) (self + 10768)) target (around.memory 1) = false ∧
    reachesTarget (loadU32 (around.memory 0) (self + 10768)) target (around.memory 4) = false

theorem sub820B5BC8_wait {around : Surroundings} {self target : Word}
    (waits : Sub820B5BC8Waits around self target) :
    sub820B5BC8 around self target =
      (waitLoop around 5 (reachesTarget (loadU32 (around.memory 0) (self + 10768)) target)).map
        fun outcome => (.afterWait outcome, callsFlush around self target) := by
  obtain ⟨some_, block, first, second⟩ := waits
  unfold sub820B5BC8
  dsimp only
  rw [if_neg some_, if_neg block, first, second, if_neg Bool.false_ne_true,
    if_neg Bool.false_ne_true]

theorem sub820B5BC8_noWait {around : Surroundings} {self target : Word}
    (gate : ¬Sub820B5BC8Waits around self target) :
    ∃ exit flushed, sub820B5BC8 around self target = some (exit, flushed) ∧
      ∀ outcome, exit ≠ .afterWait outcome := by
  unfold sub820B5BC8
  dsimp only
  by_cases some_ : target = 0
  · exact ⟨.nothingToWaitFor, false, if_pos some_, fun _ => nofun⟩
  · by_cases block : loadU32 (around.memory 0) (self + 10768) = 0
    · exact ⟨.nothingToWaitFor, false, by rw [if_neg some_, if_pos block], fun _ => nofun⟩
    · rw [if_neg some_, if_neg block]
      by_cases first : reachesTarget (loadU32 (around.memory 0) (self + 10768)) target
          (around.memory 1) = true
      · exact ⟨.atGate 1, false, if_pos first, fun _ => nofun⟩
      · have second : reachesTarget (loadU32 (around.memory 0) (self + 10768)) target
            (around.memory 4) = true := by
          by_contra off
          exact gate ⟨some_, block, Bool.eq_false_iff.mpr first, Bool.eq_false_iff.mpr off⟩
        exact ⟨.atGate 4, callsFlush around self target, by rw [if_neg first, if_pos second],
          fun _ => nofun⟩

/-- Whatever the other threads write, both waits return.  They give up exactly if no gate is
passed and no check finds the fence reached, up to the first check after five seconds. -/
theorem fenceWaits_return (around : Surroundings) (self x target : Word) :
    (∃ exit, sub820B4EE8 around self x target = some exit) ∧
      ((∃ checks, sub820B4EE8 around self x target = some (.afterWait (.gaveUp checks))) ↔
        Sub820B4EE8Waits around self target ∧
          NeverReached around 2 (satisfied (loadU32 (around.memory 0) (self + 10768)) x)) ∧
      (∃ exit, sub820B5BC8 around self target = some exit) ∧
      ((∃ checks flushed, sub820B5BC8 around self target =
          some (.afterWait (.gaveUp checks), flushed)) ↔
        Sub820B5BC8Waits around self target ∧
          NeverReached around 5
            (reachesTarget (loadU32 (around.memory 0) (self + 10768)) target)) := by
  refine ⟨?_, ?_, ?_, ?_⟩
  · by_cases waits : Sub820B4EE8Waits around self target
    · obtain ⟨outcome, ends⟩ := waitLoop_ends around 2
        (satisfied (loadU32 (around.memory 0) (self + 10768)) x)
      exact ⟨_, by rw [sub820B4EE8_wait waits, ends, Option.map_some]⟩
    · exact (sub820B4EE8_noWait waits x).elim (fun same => ⟨_, same⟩) fun same => ⟨_, same⟩
  · rw [← waitLoop_gaveUp_iff]
    constructor
    · rintro ⟨checks, ends⟩
      have waits : Sub820B4EE8Waits around self target := by
        by_contra gate
        obtain same | same := sub820B4EE8_noWait gate x <;> rw [same] at ends <;> cases ends
      rw [sub820B4EE8_wait waits] at ends
      obtain ⟨outcome, loop, same⟩ := Option.map_eq_some_iff.mp ends
      exact ⟨waits, checks, by rw [loop, FenceReturn.afterWait.inj same]⟩
    · rintro ⟨waits, checks, loop⟩
      exact ⟨checks, by rw [sub820B4EE8_wait waits, loop, Option.map_some]⟩
  · by_cases waits : Sub820B5BC8Waits around self target
    · obtain ⟨outcome, ends⟩ := waitLoop_ends around 5
        (reachesTarget (loadU32 (around.memory 0) (self + 10768)) target)
      exact ⟨_, by rw [sub820B5BC8_wait waits, ends, Option.map_some]⟩
    · obtain ⟨exit, flushed, same, -⟩ := sub820B5BC8_noWait waits
      exact ⟨_, same⟩
  · rw [← waitLoop_gaveUp_iff]
    constructor
    · rintro ⟨checks, flushed, ends⟩
      have waits : Sub820B5BC8Waits around self target := by
        by_contra gate
        obtain ⟨exit, flushed', same, other⟩ := sub820B5BC8_noWait gate
        rw [same] at ends
        exact other _ (congrArg Prod.fst (Option.some.inj ends))
      rw [sub820B5BC8_wait waits] at ends
      obtain ⟨outcome, loop, same⟩ := Option.map_eq_some_iff.mp ends
      exact ⟨waits, checks, by rw [loop, FenceReturn.afterWait.inj (congrArg Prod.fst same)]⟩
    · rintro ⟨waits, checks, loop⟩
      exact ⟨checks, _, by rw [sub820B5BC8_wait waits, loop, Option.map_some]⟩

/-- Nobody ever writes the fence word, and both routines return. -/
theorem fenceWaits_return_deadFence :
    ∃ exit, sub820B4EE8 ⟨fun _ _ => 1, fun check => 100000 * check, fun _ => Nat.le_refl _⟩
      0 0 7 = some exit :=
  (fenceWaits_return _ 0 0 7).1

/-- Once the expectation is published, a wait for it or for less does not wait. -/
theorem publishFence_releases {self target : Word} {mem : Memory} {around : Surroundings}
    (block : loadU32 mem (self + 10768) ≠ 0)
    (apart : Apart (loadU32 mem (self + 10768)) (self + 10768))
    (apart' : Apart (loadU32 mem (self + 10768) + 4) (self + 10768))
    (words : Apart (loadU32 mem (self + 10768) + 4) (loadU32 mem (self + 10768)))
    (quiet : around.memory 0 = publishFence self mem ∧ around.memory 1 = publishFence self mem)
    (expected : target ≠ 0 ∧ target ≤ loadU32 mem (self + 10780)) :
    sub820B5BC8 around self target = some (.atGate 1, false) := by
  have zero : loadU32 mem (self + 10768) + 0 = loadU32 mem (self + 10768) := BitVec.add_zero _
  have same : loadU32 (publishFence self mem) (self + 10768) = loadU32 mem (self + 10768) := by
    unfold publishFence
    dsimp only
    rw [if_pos block, zero, loadU32_storeU32_apart _ apart', loadU32_storeU32_apart _ apart]
  have published : loadU32 (publishFence self mem) (loadU32 mem (self + 10768)) =
      loadU32 mem (self + 10780) := by
    unfold publishFence
    dsimp only
    rw [if_pos block, zero, loadU32_storeU32_apart _ words, loadU32_storeU32_same]
  unfold sub820B5BC8
  dsimp only
  rw [if_neg expected.1, quiet.1, quiet.2, same, if_neg block, reachesTarget, published,
    if_pos (decide_eq_true expected.2)]

end BumpinHost.Guest
