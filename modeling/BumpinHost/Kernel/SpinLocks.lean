import BumpinHost.Kernel.Threads
import BumpinHost.Library.RecursiveMutex

/-!
# Spinlocks

The `Kf` entry points lock a recursive mutex that belongs to the address of the
lock word.  The entry points for a caller at raised interrupt level do nothing.
A thread is inside a lock between an acquire and the release that matches it,
whichever entry points the two are made through.
-/

namespace BumpinHost.Kernel

inductive SpinLockCall
  | kfAcquireSpinLock (spinLockAddr : Word)
  | kfReleaseSpinLock (spinLockAddr : Word)
  | keAcquireSpinLockAtRaisedIrql (spinLockAddr : Word)
  | keReleaseSpinLockFromRaisedIrql (spinLockAddr : Word)
deriving DecidableEq, Repr

/-- Made through one of the entry points that lock a mutex. -/
def SpinLockCall.ThroughMutex : SpinLockCall → Prop
  | .kfAcquireSpinLock _ => True
  | .kfReleaseSpinLock _ => True
  | .keAcquireSpinLockAtRaisedIrql _ => False
  | .keReleaseSpinLockFromRaisedIrql _ => False

structure SpinLockState where
  /-- `g_spinLocks`: a lock word that is used for the first time gets a free mutex. -/
  spinLocks : Word → RecursiveMutex ThreadId
  /-- Acquires that the thread has made on an address and not yet released. -/
  inside : ThreadId → Word → Nat

namespace SpinLockState

def initial : SpinLockState := ⟨fun _ => .free, fun _ _ => 0⟩

variable (s : SpinLockState)

def setMutex (spinLockAddr : Word) (mutex : RecursiveMutex ThreadId) : SpinLockState :=
  { s with spinLocks := Function.update s.spinLocks spinLockAddr mutex }

/-- The thread is inside a lock that many times. -/
def setInside (t : ThreadId) (spinLockAddr : Word) (acquires : Nat) : SpinLockState :=
  { s with
    inside := Function.update s.inside t
      (Function.update (s.inside t) spinLockAddr acquires) }

def acquired (t : ThreadId) (spinLockAddr : Word) : SpinLockState :=
  s.setInside t spinLockAddr (s.inside t spinLockAddr + 1)

def released (t : ThreadId) (spinLockAddr : Word) : SpinLockState :=
  s.setInside t spinLockAddr (s.inside t spinLockAddr - 1)

end SpinLockState

/-- A call that returns.  Threads release only locks they are inside; unlocking a mutex
that the thread does not own is undefined and may leave any mutex behind. -/
inductive SpinLockStep (s : SpinLockState) : ThreadId × SpinLockCall → SpinLockState → Prop
  | kfAcquireSpinLock (t : ThreadId) (spinLockAddr : Word)
      {mutex : RecursiveMutex ThreadId} :
      (s.spinLocks spinLockAddr).lock t = some mutex →
      SpinLockStep s (t, .kfAcquireSpinLock spinLockAddr)
        ((s.setMutex spinLockAddr mutex).acquired t spinLockAddr)
  | kfReleaseSpinLock (t : ThreadId) (spinLockAddr : Word)
      {mutex : RecursiveMutex ThreadId} :
      0 < s.inside t spinLockAddr →
      (s.spinLocks spinLockAddr).unlock t = some mutex ∨
        (s.spinLocks spinLockAddr).unlock t = none →
      SpinLockStep s (t, .kfReleaseSpinLock spinLockAddr)
        ((s.setMutex spinLockAddr mutex).released t spinLockAddr)
  | keAcquireSpinLockAtRaisedIrql (t : ThreadId) (spinLockAddr : Word) :
      SpinLockStep s (t, .keAcquireSpinLockAtRaisedIrql spinLockAddr)
        (s.acquired t spinLockAddr)
  | keReleaseSpinLockFromRaisedIrql (t : ThreadId) (spinLockAddr : Word) :
      0 < s.inside t spinLockAddr →
      SpinLockStep s (t, .keReleaseSpinLockFromRaisedIrql spinLockAddr)
        (s.released t spinLockAddr)

def spinLockSystem : Transition.System SpinLockState (ThreadId × SpinLockCall) where
  init := (· = .initial)
  step := SpinLockStep

/-- The runs that use the mutexes only. -/
def mutexSpinLockSystem : Transition.System SpinLockState (ThreadId × SpinLockCall) :=
  spinLockSystem.restrict fun _ label => label.2.ThroughMutex

namespace SpinLockState

variable (s : SpinLockState)

/-- At most one thread is inside a lock. -/
def Excludes : Prop :=
  ∀ t u spinLockAddr, 0 < s.inside t spinLockAddr → 0 < s.inside u spinLockAddr → t = u

/-- A lock that nobody is inside can be acquired by every thread, through either entry
point. -/
def Available : Prop :=
  ∀ spinLockAddr, (∀ t, s.inside t spinLockAddr = 0) → ∀ u,
    (∃ after, SpinLockStep s (u, .kfAcquireSpinLock spinLockAddr) after) ∧
      ∃ after, SpinLockStep s (u, .keAcquireSpinLockAtRaisedIrql spinLockAddr) after

def Sound : Prop := s.Excludes ∧ s.Available

/-- Every mutex has been acquired by the threads that are inside. -/
def MutexesAgree : Prop :=
  ∀ t spinLockAddr, s.inside t spinLockAddr = (s.spinLocks spinLockAddr).acquisitions t

variable {s}

@[simp]
theorem setInside_spinLocks (t : ThreadId) (spinLockAddr : Word) (acquires : Nat) :
    (s.setInside t spinLockAddr acquires).spinLocks = s.spinLocks := rfl

@[simp]
theorem setMutex_inside (spinLockAddr : Word) (mutex : RecursiveMutex ThreadId) :
    (s.setMutex spinLockAddr mutex).inside = s.inside := rfl

theorem setInside_inside (t u : ThreadId) (spinLockAddr other : Word) (acquires : Nat) :
    (s.setInside t spinLockAddr acquires).inside u other =
      if u = t ∧ other = spinLockAddr then acquires else s.inside u other := by
  unfold setInside
  by_cases thread : u = t
  · subst thread
    by_cases address : other = spinLockAddr
    · subst address
      simp
    · simp [address]
  · simp [thread]

theorem setMutex_spinLocks (spinLockAddr other : Word) (mutex : RecursiveMutex ThreadId) :
    (s.setMutex spinLockAddr mutex).spinLocks other =
      if other = spinLockAddr then mutex else s.spinLocks other :=
  Function.update_apply ..

/-- The invariant after an address has a new mutex and a thread a new count. -/
theorem MutexesAgree.set (agree : s.MutexesAgree) {t : ThreadId} {spinLockAddr : Word}
    {mutex : RecursiveMutex ThreadId} {acquires : Nat}
    (own : acquires = mutex.acquisitions t)
    (others : ∀ u, u ≠ t →
      (s.spinLocks spinLockAddr).acquisitions u = mutex.acquisitions u) :
    ((s.setMutex spinLockAddr mutex).setInside t spinLockAddr acquires).MutexesAgree := by
  intro u other
  rw [setInside_inside, setInside_spinLocks, setMutex_spinLocks, setMutex_inside]
  by_cases address : other = spinLockAddr
  · subst address
    by_cases thread : u = t
    · subst thread
      rw [if_pos ⟨rfl, rfl⟩, if_pos rfl, own]
    · rw [if_neg (fun both => thread both.1), if_pos rfl, agree, others u thread]
  · rw [if_neg (fun both => address both.2), if_neg address, agree]

theorem MutexesAgree.step {after : SpinLockState} {t : ThreadId} {call : SpinLockCall}
    (agree : s.MutexesAgree) (step : SpinLockStep s (t, call) after)
    (throughMutex : call.ThroughMutex) : after.MutexesAgree := by
  cases step with
  | kfAcquireSpinLock _ spinLockAddr locked =>
      have counts := RecursiveMutex.acquisitions_lock locked
      apply agree.set
      · rw [setMutex_inside, agree, counts, if_pos rfl]
      · intro u different
        rw [counts, if_neg different, Nat.add_zero]
  | kfReleaseSpinLock _ spinLockAddr isInside unlocked =>
      rw [agree] at isInside
      obtain ⟨unlockedMutex, succeeds⟩ := RecursiveMutex.exists_unlock isInside
      rcases unlocked with unlocked | undefined
      · have counts := RecursiveMutex.acquisitions_unlock unlocked
        apply agree.set
        · rw [setMutex_inside, agree, counts, if_pos rfl, Nat.add_sub_cancel]
        · intro u different
          rw [counts, if_neg different, Nat.add_zero]
      · rw [undefined] at succeeds
        cases succeeds
  | keAcquireSpinLockAtRaisedIrql => exact throughMutex.elim
  | keReleaseSpinLockFromRaisedIrql => exact throughMutex.elim

theorem MutexesAgree.of_reachable (reachable : mutexSpinLockSystem.Reachable s) :
    s.MutexesAgree := by
  apply reachable.invariant SpinLockState.MutexesAgree
  · rintro start rfl t spinLockAddr
    rfl
  · intro before label after agree step
    exact agree.step step.1 step.2

theorem MutexesAgree.sound (agree : s.MutexesAgree) : s.Sound := by
  constructor
  · intro t u spinLockAddr first second
    rw [agree] at first second
    exact RecursiveMutex.eq_of_acquisitions first second
  · intro spinLockAddr empty u
    have isFree : s.spinLocks spinLockAddr = .free := by
      apply RecursiveMutex.eq_free_of_acquisitions
      intro t
      rw [← agree, empty]
    have locked : (s.spinLocks spinLockAddr).lock u = some (.held u 0) := by
      rw [isFree]
      rfl
    exact ⟨⟨_, .kfAcquireSpinLock u spinLockAddr locked⟩,
      _, .keAcquireSpinLockAtRaisedIrql u spinLockAddr⟩

/-- A thread gives back several acquisitions, one `kfReleaseSpinLock` each. -/
theorem exists_run_releases {t : ThreadId} {spinLockAddr : Word}
    (acquires owned releases : Nat) (isInside : s.inside t spinLockAddr = acquires + releases)
    (isOwned : (s.spinLocks spinLockAddr).acquisitions t = owned + releases) :
    ∃ trace final, mutexSpinLockSystem.Run s trace final ∧
      final.inside t spinLockAddr = acquires ∧
      (final.spinLocks spinLockAddr).acquisitions t = owned ∧
      ∀ u, u ≠ t → final.inside u = s.inside u ∧
        (final.spinLocks spinLockAddr).acquisitions u =
          (s.spinLocks spinLockAddr).acquisitions u := by
  induction releases generalizing s with
  | zero => exact ⟨[], s, .refl, isInside, isOwned, fun _ _ => ⟨rfl, rfl⟩⟩
  | succ releases ih =>
      have owns : 0 < (s.spinLocks spinLockAddr).acquisitions t := by omega
      obtain ⟨mutex, unlocked⟩ := RecursiveMutex.exists_unlock owns
      have counts := RecursiveMutex.acquisitions_unlock unlocked
      have ownCount := counts t
      rw [if_pos rfl, isOwned] at ownCount
      have step : mutexSpinLockSystem.step s (t, .kfReleaseSpinLock spinLockAddr)
          ((s.setMutex spinLockAddr mutex).released t spinLockAddr) :=
        ⟨.kfReleaseSpinLock t spinLockAddr (by omega) (.inl unlocked), trivial⟩
      obtain ⟨trace, final, run, finalInside, finalOwned, others⟩ :=
        ih (s := (s.setMutex spinLockAddr mutex).released t spinLockAddr)
          (by
            rw [released, setInside_inside, if_pos ⟨rfl, rfl⟩, setMutex_inside, isInside]
            omega)
          (by
            rw [released, setInside_spinLocks, setMutex_spinLocks, if_pos rfl]
            omega)
      refine ⟨_, final, run.head step, finalInside, finalOwned, ?_⟩
      intro u different
      obtain ⟨sameInside, sameCount⟩ := others u different
      constructor
      · rw [sameInside]
        exact Function.update_of_ne different ..
      · rw [sameCount, released, setInside_spinLocks, setMutex_spinLocks, if_pos rfl,
          counts, if_neg different, Nat.add_zero]

/-- After an acquire that took no mutex, somebody else can get inside. -/
theorem MutexesAgree.keAcquire_unsound (agree : s.MutexesAgree) (t : ThreadId)
    (spinLockAddr : Word) :
    ∃ trace final, mutexSpinLockSystem.Run (s.acquired t spinLockAddr) trace final ∧
      ¬ final.Sound := by
  have own : (s.acquired t spinLockAddr).inside t spinLockAddr =
      s.inside t spinLockAddr + 1 := by
    rw [acquired, setInside_inside, if_pos ⟨rfl, rfl⟩]
  have others : ∀ u, u ≠ t →
      (s.acquired t spinLockAddr).inside u spinLockAddr = s.inside u spinLockAddr := by
    intro u different
    rw [acquired, setInside_inside, if_neg (fun both => different both.1)]
  by_cases shared : ∃ u, u ≠ t ∧ 0 < s.inside u spinLockAddr
  · obtain ⟨u, different, isInside⟩ := shared
    refine ⟨[], _, .refl, ?_⟩
    rintro ⟨excludes, -⟩
    apply different
    apply excludes u t spinLockAddr
    · rwa [others u different]
    · omega
  · -- the thread gives back the mutex it may have, and is still inside once
    obtain ⟨trace, final, run, finalInside, finalOwned, rest⟩ :=
      exists_run_releases 1 0 (s.inside t spinLockAddr)
        (own.trans (Nat.add_comm ..))
        (show (s.spinLocks spinLockAddr).acquisitions t = _ by rw [← agree, Nat.zero_add])
    have isFree : final.spinLocks spinLockAddr = .free := by
      apply RecursiveMutex.eq_free_of_acquisitions
      intro u
      by_cases same : u = t
      · rw [same, finalOwned]
      · have outside : s.inside u spinLockAddr = 0 := by
          by_contra isInside
          exact shared ⟨u, same, Nat.pos_of_ne_zero isInside⟩
        rw [(rest u same).2, ← outside, agree]
        rfl
    have step : mutexSpinLockSystem.step final (t + 1, .kfAcquireSpinLock spinLockAddr)
        ((final.setMutex spinLockAddr (.held (t + 1) 0)).acquired (t + 1) spinLockAddr) :=
      ⟨.kfAcquireSpinLock (t + 1) spinLockAddr (by rw [isFree]; rfl), trivial⟩
    refine ⟨_, _, run.tail step, ?_⟩
    rintro ⟨excludes, -⟩
    apply Nat.succ_ne_self t
    apply excludes (t + 1) t spinLockAddr
    · rw [acquired, setInside_inside, if_pos ⟨rfl, rfl⟩]
      exact Nat.succ_pos _
    · rw [acquired, setInside_inside, if_neg (by simp), setMutex_inside, finalInside]
      exact Nat.one_pos

/-- After a release that gave no mutex back, a lock that nobody is inside stays locked. -/
theorem MutexesAgree.keRelease_unsound (agree : s.MutexesAgree) {t : ThreadId}
    {spinLockAddr : Word} (isInside : 0 < s.inside t spinLockAddr) :
    ∃ trace final, mutexSpinLockSystem.Run (s.released t spinLockAddr) trace final ∧
      ¬ final.Sound := by
  have own : (s.released t spinLockAddr).inside t spinLockAddr =
      s.inside t spinLockAddr - 1 := by
    rw [released, setInside_inside, if_pos ⟨rfl, rfl⟩]
  obtain ⟨trace, final, run, finalInside, finalOwned, rest⟩ :=
    exists_run_releases 0 1 (s.inside t spinLockAddr - 1)
      (own.trans (Nat.zero_add _).symm)
      (show (s.spinLocks spinLockAddr).acquisitions t = _ by rw [← agree]; omega)
  refine ⟨trace, final, run, ?_⟩
  rintro ⟨-, available⟩
  have empty : ∀ u, final.inside u spinLockAddr = 0 := by
    intro u
    by_cases same : u = t
    · rw [same, finalInside]
    · rw [(rest u same).1, released, setInside_inside, if_neg (fun both => same both.1)]
      by_contra other
      exact same (agree.sound.1 u t spinLockAddr (Nat.pos_of_ne_zero other) isInside)
  obtain ⟨⟨after, step⟩, -⟩ := available spinLockAddr empty (t + 1)
  have waits : (final.spinLocks spinLockAddr).lock (t + 1) = none := by
    apply RecursiveMutex.lock_eq_none_of_other (t := t)
    · omega
    · exact Nat.succ_ne_self t
  cases step with
  | kfAcquireSpinLock _ _ locked =>
      rw [waits] at locked
      cases locked

end SpinLockState

open SpinLockState

/-- Exclusion and availability in every state that the mutexes lead to.  A call through
the other entry points can be followed by calls that end in a state without them. -/
theorem spinLocks_sound_throughMutex (s : SpinLockState)
    (reachable : mutexSpinLockSystem.Reachable s) :
    s.Sound ∧ ∀ t call after, SpinLockStep s (t, call) after → ¬ call.ThroughMutex →
      ∃ trace final, mutexSpinLockSystem.Run after trace final ∧ ¬ final.Sound := by
  have agree := MutexesAgree.of_reachable reachable
  refine ⟨agree.sound, ?_⟩
  intro t call after step other
  cases step with
  | kfAcquireSpinLock => exact absurd trivial other
  | kfReleaseSpinLock => exact absurd trivial other
  | keAcquireSpinLockAtRaisedIrql _ spinLockAddr => exact agree.keAcquire_unsound t spinLockAddr
  | keReleaseSpinLockFromRaisedIrql _ spinLockAddr isInside =>
      exact agree.keRelease_unsound isInside

/-- The first thread has entered and left the lock at an address, and the second is inside. -/
def handedOver : SpinLockState :=
  let entered := (SpinLockState.initial.setMutex 0x82000000 (.held 0 0)).acquired 0 0x82000000
  let left := (entered.setMutex 0x82000000 .free).released 0 0x82000000
  (left.setMutex 0x82000000 (.held 1 0)).acquired 1 0x82000000

/-- A call at raised interrupt level can still end the exclusion there. -/
theorem spinLocks_sound_throughMutex_handedOver :
    mutexSpinLockSystem.Reachable handedOver ∧ handedOver.inside 1 0x82000000 = 1 ∧
      handedOver.Sound ∧
        ∃ trace final, mutexSpinLockSystem.Run (handedOver.acquired 0 0x82000000) trace final ∧
          ¬ final.Sound := by
  let entered := (SpinLockState.initial.setMutex 0x82000000 (.held 0 0)).acquired 0 0x82000000
  let left := (entered.setMutex 0x82000000 .free).released 0 0x82000000
  have enter : mutexSpinLockSystem.step .initial (0, .kfAcquireSpinLock 0x82000000) entered :=
    ⟨.kfAcquireSpinLock 0 0x82000000 rfl, trivial⟩
  have leave : mutexSpinLockSystem.step entered (0, .kfReleaseSpinLock 0x82000000) left :=
    ⟨.kfReleaseSpinLock 0 0x82000000 (by decide) (.inl rfl), trivial⟩
  have next : mutexSpinLockSystem.step left (1, .kfAcquireSpinLock 0x82000000) handedOver :=
    ⟨.kfAcquireSpinLock 1 0x82000000 rfl, trivial⟩
  have reachable : mutexSpinLockSystem.Reachable handedOver :=
    ⟨_, .initial, rfl, .head enter (.head leave (.single next))⟩
  obtain ⟨sound, others⟩ := spinLocks_sound_throughMutex handedOver reachable
  exact ⟨reachable, by decide, sound,
    others 0 _ _ (.keAcquireSpinLockAtRaisedIrql 0 0x82000000) id⟩

/-- Two threads acquire one lock at raised interrupt level. -/
theorem keAcquireSpinLock_sharesLock :
    ¬ ∀ s, spinLockSystem.Reachable s → s.Sound := by
  intro sound
  have first := SpinLockStep.keAcquireSpinLockAtRaisedIrql (s := .initial) 0 0x82000000
  have second := SpinLockStep.keAcquireSpinLockAtRaisedIrql
    (s := SpinLockState.initial.acquired 0 0x82000000) 1 0x82000000
  have reachable : spinLockSystem.Reachable _ :=
    ⟨_, .initial, rfl, (Transition.System.Run.refl.tail first).tail second⟩
  have same := (sound _ reachable).1 0 1 0x82000000 (by decide) (by decide)
  exact absurd same (by decide)

end BumpinHost.Kernel
