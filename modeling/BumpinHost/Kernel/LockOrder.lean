import BumpinHost.Kernel.LockDiscipline

/-!
# Deadlocks among the host's locks

A first call of `VdGetSystemCommandBuffer` that holds the state mutex and has not
yet got the tracer's stands in the window of the one wait against the order.  A
thread that holds the tracer's mutex and still owes the state mutex closes the
circle; as long as the two never meet, no two threads wait for each other.
-/

namespace BumpinHost.Kernel

open LockAction

variable {s after : LockState} {label : LockLabel} {x : HostThread} {thread : LockThread}
  {held : List HostLock} {program : List LockAction}

/-- The program has taken the state mutex for a registration and is going to take the
tracer's. -/
def inWindow (bufferSet : Bool) : List LockAction → Bool
  | .registration .check :: _ => !bufferSet
  | .registration .lockTracer :: _ => true
  | _ => false

namespace LockState

def InWindow (s : LockState) (t : HostThread) : Prop :=
  inWindow s.bufferSet (s.threads t).program = true

/-- The thread holds the tracer's mutex and takes the state mutex before it gives control
back to guest code. -/
def Owes (s : LockState) (t : HostThread) : Prop :=
  s.Holds t .tracer ∧ owesState (s.threads t).program = true

/-- A first call takes the state mutex only while nobody owes it under the tracer's mutex,
and under the tracer's mutex nobody calls an export that takes the state mutex while a
first call is in the window. -/
def RegistersApart (s : LockState) : LockLabel → Prop
  | .acquire t .state =>
      (s.threads t).program.head? = some (.registration .lockState) → s.bufferSet = false →
        ∀ u, u ≠ t → ¬ s.Owes u
  | .call t callee =>
      s.Holds t .tracer → owesState (callee.actions s.bufferSet) = true →
        ∀ u, u ≠ t → ¬ s.InWindow u
  | _ => True

structure LockInvariant (s : LockState) : Prop where
  disciplined : ∀ t, MidDisciplined (s.threads t).held (s.threads t).program
  exclusive : LockOrder.Exclusive s.Holds
  apart : ∀ t u, t ≠ u → s.InWindow t → ¬ s.Owes u

end LockState

open LockState

theorem Disciplined.not_inWindow (disciplined : Disciplined held program) {bufferSet : Bool} :
    ¬ inWindow bufferSet program = true := by
  unfold inWindow
  split
  · cases disciplined
  · cases disciplined
  · simp

/-- Whoever is in the window holds the state mutex. -/
theorem MidDisciplined.state_mem (disciplined : MidDisciplined held program)
    {bufferSet : Bool} (window : inWindow bufferSet program = true) : .state ∈ held := by
  unfold inWindow at window
  split at window
  · obtain ⟨outer, rfl, -⟩ := disciplined
    exact List.mem_cons_self ..
  · obtain ⟨outer, rfl, -⟩ := disciplined
    exact List.mem_cons_self ..
  · cases window

theorem owesState_append_guestCode (actions rest : List LockAction) :
    owesState (actions ++ .guestCode :: rest) = owesState actions := by
  induction actions with
  | nil => rfl
  | cons action actions ih =>
      cases action with
      | guestCode | threadExit => rfl
      | _ => simp only [List.cons_append, owesState, ih]

/-- The state mutex that is still owed after an action was owed before it. -/
theorem owesState_cons {action : LockAction} {rest : List LockAction}
    (notGuest : action ≠ .guestCode) (notExit : action ≠ .threadExit)
    (owes : owesState rest = true) : owesState (action :: rest) = true := by
  cases action with
  | guestCode => exact absurd rfl notGuest
  | threadExit => exact absurd rfl notExit
  | _ => simp [owesState, owes]

theorem owesState_of_wants {action : LockAction} {rest : List LockAction}
    (wants : action.wants = some .state) : owesState (action :: rest) = true := by
  cases action with
  | guestCode | threadExit => cases wants
  | _ => simp [owesState, wants]

namespace LockState.LockInvariant

/-- A step of one thread, when what it holds is its own and the window and the debt stay
apart. -/
theorem update (invariant : s.LockInvariant) {flag : Bool}
    (flagKept : flag = false → s.bufferSet = false)
    (disciplined : MidDisciplined thread.held thread.program)
    (own : ∀ lock ∈ thread.held, lock ∈ (s.threads x).held ∨
      ∀ u, u ≠ x → lock ∉ (s.threads u).held)
    (entered : inWindow flag thread.program = true → ∀ u, u ≠ x → ¬ s.Owes u)
    (owing : .tracer ∈ thread.held → owesState thread.program = true →
      ∀ u, u ≠ x → ¬ s.InWindow u) :
    ({ s with bufferSet := flag }.setThread x thread).LockInvariant := by
  have same : ({ s with bufferSet := flag }.setThread x thread).threads x = thread := by
    simp [setThread]
  have others : ∀ u, u ≠ x →
      ({ s with bufferSet := flag }.setThread x thread).threads u = s.threads u := by
    intro u different
    simp [setThread, Function.update_of_ne different]
  refine ⟨?_, ?_, ?_⟩
  · intro t
    by_cases isX : t = x
    · rw [isX, same]
      exact disciplined
    · rw [others t isX]
      exact invariant.disciplined t
  · intro t u lock tHolds uHolds
    simp only [Holds] at tHolds uHolds
    by_cases tX : t = x <;> by_cases uX : u = x
    · rw [tX, uX]
    · rw [tX, same] at tHolds
      rw [others u uX] at uHolds
      rcases own lock tHolds with before | nobody
      · exact tX.trans (invariant.exclusive before uHolds)
      · exact absurd uHolds (nobody u uX)
    · rw [uX, same] at uHolds
      rw [others t tX] at tHolds
      rcases own lock uHolds with before | nobody
      · exact (invariant.exclusive tHolds before).trans uX.symm
      · exact absurd tHolds (nobody t tX)
    · rw [others t tX] at tHolds
      rw [others u uX] at uHolds
      exact invariant.exclusive tHolds uHolds
  · intro t u different window owes
    have before : t ≠ x → s.InWindow t := by
      intro tX
      rw [InWindow, others t tX] at window
      unfold inWindow at window
      split at window
      · rename_i program
        rw [InWindow, program]
        have unset : flag = false := by simpa [setThread] using window
        simp [inWindow, flagKept unset]
      · rename_i program
        rw [InWindow, program]
        rfl
      · cases window
    by_cases tX : t = x
    · have uX : u ≠ x := by
        rintro rfl
        exact different tX
      rw [InWindow, tX, same] at window
      rw [Owes, Holds, others u uX] at owes
      exact entered window u uX owes
    · by_cases uX : u = x
      · rw [Owes, Holds, uX, same] at owes
        exact owing owes.1 owes.2 t tX (before tX)
      · rw [Owes, Holds, others u uX] at owes
        exact invariant.apart t u different (before tX) owes

/-- A thread that owes the state mutex under the tracer's meets no window. -/
theorem not_inWindow (invariant : s.LockInvariant) (holds : .tracer ∈ (s.threads x).held)
    (owes : owesState (s.threads x).program = true) :
    ∀ u, u ≠ x → ¬ s.InWindow u :=
  fun u different window => invariant.apart u x different window ⟨holds, owes⟩

theorem acquire (invariant : s.LockInvariant) {action : LockAction} {rest : List LockAction}
    {lock : HostLock} (program : (s.threads x).program = action :: rest)
    (wants : action.wants = some lock) (available : s.Available x lock)
    (apart : s.RegistersApart (.acquire x lock)) :
    (s.setThread x ⟨lock :: (s.threads x).held, action.rest ++ rest⟩).LockInvariant := by
  have disciplined := invariant.disciplined x
  rw [program] at disciplined
  have own : ∀ other ∈ lock :: (s.threads x).held, other ∈ (s.threads x).held ∨
      ∀ u, u ≠ x → other ∉ (s.threads u).held := by
    intro other member
    rcases List.mem_cons.mp member with rfl | before
    · exact Or.inr available.1
    · exact Or.inl before
  cases action with
  | acquire wanted =>
      obtain rfl := Option.some.inj wants
      obtain ⟨-, quiet, next⟩ := disciplined
      refine invariant.update id next.mid own ?_ ?_
      · intro window
        exact absurd window next.not_inWindow
      · intro holds owes
        rcases List.mem_cons.mp holds with isTracer | before
        · exact absurd owes (by simp [LockAction.rest, quiet isTracer.symm])
        · refine invariant.not_inWindow before ?_
          rw [program]
          exact owesState_cons (by simp) (by simp) owes
  | registration phase =>
      cases phase with
      | lockState =>
          obtain rfl := Option.some.inj wants
          obtain ⟨only, next⟩ := disciplined
          refine invariant.update id ⟨_, rfl, only, next⟩ own ?_ ?_
          · intro window
            refine apart ?_ ?_
            · rw [program]
              rfl
            · simpa [LockAction.rest, inWindow] using window
          · intro holds _
            refine invariant.not_inWindow ?_ ?_
            · simpa using holds
            · rw [program]
              exact owesState_of_wants rfl
      | lockTracer =>
          obtain rfl := Option.some.inj wants
          obtain ⟨outer, heldEq, only, next⟩ := disciplined
          refine invariant.update id ⟨outer, by rw [heldEq], only, next⟩ own ?_ ?_
          · intro window
            cases window
          · intro _ _ u different window
            -- both would hold the state mutex
            have uState := (invariant.disciplined u).state_mem window
            have xState : .state ∈ (s.threads x).held := by
              rw [heldEq]
              exact List.mem_cons_self ..
            exact different (invariant.exclusive uState xState)
      | _ => cases wants
  | _ => cases wants

theorem release (invariant : s.LockInvariant) {action : LockAction} {rest : List LockAction}
    {lock : HostLock} (program : (s.threads x).program = action :: rest)
    (gives : action.gives = some lock) :
    (s.setThread x ⟨(s.threads x).held.erase lock, action.rest ++ rest⟩).LockInvariant := by
  have disciplined := invariant.disciplined x
  rw [program] at disciplined
  have own : ∀ other ∈ (s.threads x).held.erase lock, other ∈ (s.threads x).held ∨
      ∀ u, u ≠ x → other ∉ (s.threads u).held :=
    fun other member => Or.inl (List.mem_of_mem_erase member)
  have owing : .tracer ∈ (s.threads x).held.erase lock → owesState rest = true →
      ∀ u, u ≠ x → ¬ s.InWindow u := by
    intro holds owes
    refine invariant.not_inWindow (List.mem_of_mem_erase holds) ?_
    rw [program]
    refine owesState_cons ?_ ?_ owes
    · rintro rfl
      cases gives
    · rintro rfl
      cases gives
  cases action with
  | release given =>
      obtain rfl := Option.some.inj gives
      have next : Disciplined ((s.threads x).held.erase given) rest := disciplined
      refine invariant.update id next.mid own ?_ owing
      intro window
      exact absurd window next.not_inWindow
  | registration phase =>
      cases phase with
      | unlockTracer =>
          obtain rfl := Option.some.inj gives
          obtain ⟨outer, heldEq, only, next⟩ := disciplined
          refine invariant.update id ⟨outer, ?_, only, next⟩ own ?_ owing
          · rw [heldEq, List.erase_cons_head]
          · intro window
            cases window
      | unlockState =>
          obtain rfl := Option.some.inj gives
          obtain ⟨outer, heldEq, only, next⟩ := disciplined
          have nextMid : MidDisciplined ((s.threads x).held.erase .state) rest := by
            rw [heldEq, List.erase_cons_head]
            exact next.mid
          refine invariant.update id nextMid own ?_ owing
          intro window
          exact absurd window next.not_inWindow
      | _ => cases gives
  | _ => cases gives

theorem check (invariant : s.LockInvariant) {rest : List LockAction}
    (program : (s.threads x).program = .registration .check :: rest) :
    ({ s with bufferSet := true }.setThread x
      ⟨(s.threads x).held,
        .registration (if s.bufferSet then .unlockState else .lockTracer) :: rest⟩
      ).LockInvariant := by
  have disciplined := invariant.disciplined x
  rw [program] at disciplined
  obtain ⟨outer, heldEq, only, next⟩ := disciplined
  refine invariant.update (by simp) ?_ (fun _ member => Or.inl member) ?_ ?_
  · cases s.bufferSet <;> exact ⟨outer, heldEq, only, next⟩
  · intro window u different
    refine invariant.apart x u different.symm ?_
    rw [InWindow, program]
    cases set : s.bufferSet with
    | false => rfl
    | true =>
        rw [set] at window
        cases window
  · intro holds owes
    refine invariant.not_inWindow holds ?_
    rw [program]
    cases set : s.bufferSet <;> simpa [set, owesState, LockAction.wants] using owes

theorem call (invariant : s.LockInvariant) {callee : Export} {rest : List LockAction}
    (program : (s.threads x).program = .guestCode :: rest)
    (apart : s.RegistersApart (.call x callee)) :
    (s.setThread x
      ⟨(s.threads x).held, callee.actions s.bufferSet ++ .guestCode :: rest⟩).LockInvariant := by
  have disciplined := invariant.disciplined x
  rw [program] at disciplined
  have site : CallSite (s.threads x).held (.guestCode :: rest) :=
    ⟨disciplined.1, disciplined, rfl⟩
  have next := site.actions callee s.bufferSet
  refine invariant.update id next.mid (fun _ member => Or.inl member) ?_ ?_
  · intro window
    exact absurd window next.not_inWindow
  · intro holds owes
    refine apart holds ?_
    rwa [owesState_append_guestCode] at owes

theorem returnFrom (invariant : s.LockInvariant) {rest : List LockAction}
    (program : (s.threads x).program = .guestCode :: rest) :
    (s.setThread x ⟨(s.threads x).held, rest⟩).LockInvariant := by
  have disciplined := invariant.disciplined x
  rw [program] at disciplined
  obtain ⟨-, quiet, next⟩ := disciplined
  refine invariant.update id next.mid (fun _ member => Or.inl member) ?_ ?_
  · intro window
    exact absurd window next.not_inWindow
  · intro holds owes
    exact absurd owes (by simp [quiet holds])

/-- A thread with nothing to do holds nothing and may begin any disciplined program. -/
theorem begin (invariant : s.LockInvariant) (idle : (s.threads x).program = [])
    (disciplined : Disciplined [] program) :
    (s.setThread x ⟨(s.threads x).held, program⟩).LockInvariant := by
  have nothing : (s.threads x).held = [] := by
    have before := invariant.disciplined x
    rwa [idle] at before
  rw [nothing]
  refine invariant.update id disciplined.mid (by simp) ?_ (by simp)
  intro window
  exact absurd window disciplined.not_inWindow

theorem step (invariant : s.LockInvariant) (step : LockStep s label after)
    (apart : s.RegistersApart label) : after.LockInvariant := by
  cases step with
  | acquire t program wants available => exact invariant.acquire program wants available apart
  | release t program gives => exact invariant.release program gives
  | check t program => exact invariant.check program
  | call t callee program => exact invariant.call program apart
  | returnFrom t program => exact invariant.returnFrom program
  | unwind t program =>
      refine invariant.update id trivial (by simp) ?_ (by simp)
      intro window
      cases window
  | tick hasRing packets idle => exact invariant.begin idle (pumpTick_disciplined ..)
  | renderTick idle => exact invariant.begin idle renderTick_disciplined
  | start index idle => exact invariant.begin idle guestThread_disciplined

theorem of_lockBoot : lockBoot.LockInvariant := by
  refine ⟨fun _ => rfl, ?_, ?_⟩
  · intro t u lock holds
    cases holds
  · intro t u _ window
    cases window

/-- What a waiting thread holds lies below the lock it waits for, the tracer's mutex again
apart and except in the window. -/
theorem waits_inOrder (invariant : s.LockInvariant) {t : HostThread} {first second : HostLock}
    (holds : s.Holds t first) (waits : s.WaitsFor t second) :
    LockOrder.InOrder HostLock.rank first second ∨ first = second ∨
      (s.InWindow t ∧ first = .state ∧ second = .tracer) := by
  have disciplined := invariant.disciplined t
  rw [WaitsFor, wants] at waits
  cases program : (s.threads t).program with
  | nil => simp [program] at waits
  | cons action rest =>
      rw [program] at disciplined waits
      cases action with
      | acquire wanted =>
          obtain rfl := Option.some.inj waits
          rcases disciplined.1 first holds with below | ⟨rfl, rfl⟩
          · exact Or.inl below
          · exact Or.inr (Or.inl rfl)
      | registration phase =>
          cases phase with
          | lockState =>
              obtain rfl := Option.some.inj waits
              obtain rfl := disciplined.1 first holds
              exact Or.inl (Nat.zero_lt_one)
          | lockTracer =>
              obtain rfl := Option.some.inj waits
              obtain ⟨outer, heldEq, only, -⟩ := disciplined
              rw [Holds, heldEq] at holds
              rcases List.mem_cons.mp holds with rfl | inner
              · refine Or.inr (Or.inr ⟨?_, rfl, rfl⟩)
                rw [InWindow, program]
                rfl
              · exact Or.inr (Or.inl (only first inner))
          | _ => cases waits
      | _ => cases waits

theorem not_deadlocked (invariant : s.LockInvariant) : ¬ s.Deadlocked := by
  rintro ⟨t₀, u₀, first₀, second₀, wait₀⟩
  obtain ⟨t, u, first, second, wait, against⟩ := wait₀.exists_against HostLock.rank
  rcases invariant.waits_inOrder wait.holds_first wait.waits_second with
    ordered | same | ⟨window, rfl, rfl⟩
  · exact against ordered
  · exact wait.ne invariant.exclusive same
  · refine invariant.apart t u wait.distinct window ⟨wait.holds_second, ?_⟩
    have waits := wait.waits_first
    rw [WaitsFor, wants] at waits
    cases program : (s.threads u).program with
    | nil => simp [program] at waits
    | cons action rest =>
        rw [program] at waits
        exact owesState_of_wants waits

end LockState.LockInvariant

/-- All other threads are idle. -/
def pumpAndGuest (pump guest : LockThread) (bufferSet : Bool) : LockState where
  threads
    | .pump => pump
    | .guest 0 => guest
    | _ => ⟨[], []⟩
  bufferSet := bufferSet

section PumpAndGuest

variable {pump guest : LockThread} {bufferSet : Bool}

theorem setThread_pump : (pumpAndGuest pump guest bufferSet).setThread .pump thread =
    pumpAndGuest thread guest bufferSet := by
  rw [setThread, pumpAndGuest, pumpAndGuest]
  congr
  funext t
  rcases t with _ | _ | _ | _ <;> rfl

theorem setThread_guest : (pumpAndGuest pump guest bufferSet).setThread (.guest 0) thread =
    pumpAndGuest pump thread bufferSet := by
  rw [setThread, pumpAndGuest, pumpAndGuest]
  congr
  funext t
  rcases t with _ | _ | _ | _ <;> rfl

theorem pump_acquire {action : LockAction} {rest : List LockAction} {lock : HostLock}
    (program : pump.program = action :: rest) (wants : action.wants = some lock)
    (free : lock ∉ guest.held) (again : lock ∈ pump.held → lock = .tracer) :
    LockStep (pumpAndGuest pump guest bufferSet) (.acquire .pump lock)
      (pumpAndGuest ⟨lock :: pump.held, action.rest ++ rest⟩ guest bufferSet) := by
  have available : (pumpAndGuest pump guest bufferSet).Available .pump lock := by
    refine ⟨?_, again⟩
    rintro (_ | _ | _ | _) different
    · exact absurd rfl different
    · simp [pumpAndGuest]
    · exact free
    · simp [pumpAndGuest]
  have step := LockStep.acquire .pump program wants available
  rwa [setThread_pump] at step

theorem pump_release {action : LockAction} {rest : List LockAction} {lock : HostLock}
    (program : pump.program = action :: rest) (gives : action.gives = some lock) :
    LockStep (pumpAndGuest pump guest bufferSet) (.release .pump lock)
      (pumpAndGuest ⟨pump.held.erase lock, action.rest ++ rest⟩ guest bufferSet) := by
  have step := LockStep.release (s := pumpAndGuest pump guest bufferSet) .pump program gives
  rwa [setThread_pump] at step

theorem pump_call (callee : Export) {rest : List LockAction}
    (program : pump.program = .guestCode :: rest) :
    LockStep (pumpAndGuest pump guest bufferSet) (.call .pump callee)
      (pumpAndGuest ⟨pump.held, callee.actions bufferSet ++ .guestCode :: rest⟩ guest
        bufferSet) := by
  have step := LockStep.call (s := pumpAndGuest pump guest bufferSet) .pump callee program
  rwa [setThread_pump] at step

theorem guest_acquire {action : LockAction} {rest : List LockAction} {lock : HostLock}
    (program : guest.program = action :: rest) (wants : action.wants = some lock)
    (free : lock ∉ pump.held) (again : lock ∈ guest.held → lock = .tracer) :
    LockStep (pumpAndGuest pump guest bufferSet) (.acquire (.guest 0) lock)
      (pumpAndGuest pump ⟨lock :: guest.held, action.rest ++ rest⟩ bufferSet) := by
  have available : (pumpAndGuest pump guest bufferSet).Available (.guest 0) lock := by
    refine ⟨?_, again⟩
    rintro (_ | _ | _ | _) different
    · exact free
    · simp [pumpAndGuest]
    · exact absurd rfl different
    · simp [pumpAndGuest]
  have step := LockStep.acquire (.guest 0) program wants available
  rwa [setThread_guest] at step

/-- The second look finds the address not set. -/
theorem guest_check {rest : List LockAction}
    (program : guest.program = .registration .check :: rest) :
    LockStep (pumpAndGuest pump guest false) (.check (.guest 0))
      (pumpAndGuest pump ⟨guest.held, .registration .lockTracer :: rest⟩ true) := by
  have step := LockStep.check (s := pumpAndGuest pump guest false) (.guest 0) program
  have set : { pumpAndGuest pump guest false with bufferSet := true } =
      pumpAndGuest pump guest true := rfl
  rwa [set, setThread_guest] at step

theorem guest_call (callee : Export) {rest : List LockAction}
    (program : guest.program = .guestCode :: rest) :
    LockStep (pumpAndGuest pump guest bufferSet) (.call (.guest 0) callee)
      (pumpAndGuest pump ⟨guest.held, callee.actions bufferSet ++ .guestCode :: rest⟩
        bufferSet) := by
  have step := LockStep.call (s := pumpAndGuest pump guest bufferSet) (.guest 0) callee program
  rwa [setThread_guest] at step

end PumpAndGuest

/-- The pump has dispatched an interrupt and runs the callback; a guest thread is running. -/
def inCallback : LockState :=
  pumpAndGuest ⟨[.tracer], [.guestCode, .release .tracer]⟩ ⟨[], guestThread⟩ false

theorem inCallback_history : ∃ trace,
    (lockSystem.restrict RegistersApart).Run lockBoot trace inCallback := by
  have boot : lockBoot = pumpAndGuest ⟨[], []⟩ ⟨[], []⟩ false := by
    rw [lockBoot, pumpAndGuest]
    congr
    funext t
    rcases t with _ | _ | _ | _ <;> rfl
  have tick : LockStep lockBoot (.tick true [.interrupt true])
      (pumpAndGuest ⟨[], pumpTick true [.interrupt true]⟩ ⟨[], []⟩ false) := by
    have step := LockStep.tick (s := pumpAndGuest ⟨[], []⟩ ⟨[], []⟩ false) true
      [.interrupt true] rfl
    rwa [setThread_pump, ← boot] at step
  have start : LockStep
      (pumpAndGuest ⟨[.tracer], [.guestCode, .release .tracer]⟩ ⟨[], []⟩ false) (.start 0)
      inCallback := by
    have step := LockStep.start
      (s := pumpAndGuest ⟨[.tracer], [.guestCode, .release .tracer]⟩ ⟨[], []⟩ false) 0 rfl
    rwa [setThread_guest] at step
  exact ⟨_, .head ⟨tick, trivial⟩ <|
    .head ⟨pump_acquire rfl rfl (by simp) (by simp), trivial⟩ <|
      .head ⟨pump_release rfl rfl, trivial⟩ <|
        .head ⟨pump_acquire rfl rfl (by simp) (by simp), trivial⟩ <|
          .head ⟨pump_release rfl rfl, trivial⟩ <|
            .head ⟨pump_acquire rfl rfl (by simp) (by simp), trivial⟩ <|
              .single ⟨start, trivial⟩⟩

/-- As long as the first call of `VdGetSystemCommandBuffer` is kept apart from exports
called under the tracer's mutex, no two threads wait for each other. -/
theorem lockSystem_not_deadlocked :
    ∀ s, (lockSystem.restrict RegistersApart).Reachable s → ¬ s.Deadlocked := by
  intro s reachable
  have invariant : s.LockInvariant := by
    apply reachable.invariant LockInvariant
    · rintro start rfl
      exact LockInvariant.of_lockBoot
    · intro before label after holds step
      exact holds.step step.1 step.2
  exact invariant.not_deadlocked
/-- The callback signals an event and holds both mutexes when a guest thread makes the first
call of `VdGetSystemCommandBuffer`. -/
theorem lockSystem_not_deadlocked_waitingGuest :
    ∃ s, (lockSystem.restrict RegistersApart).Reachable s ∧ s.Holds .pump .tracer ∧
      s.Holds .pump .state ∧ s.WaitsFor (.guest 0) .state ∧ ¬ s.Deadlocked := by
  obtain ⟨trace, run⟩ := inCallback_history
  have called : RegistersApart inCallback (.call .pump .ntSetEvent) := by
    rintro - - (_ | _ | _ | _) different window
    · exact different rfl
    · cases window
    · cases window
    · cases window
  have signaling := run.tail ⟨pump_call .ntSetEvent rfl, called⟩
  have locked := signaling.tail ⟨pump_acquire rfl rfl (by simp) (by simp), nofun⟩
  have waiting := locked.tail ⟨guest_call .vdGetSystemCommandBuffer rfl, nofun⟩
  have safe := lockSystem_not_deadlocked _ ⟨_, lockBoot, rfl, waiting⟩
  exact ⟨_, ⟨_, lockBoot, rfl, waiting⟩, by simp [Holds, pumpAndGuest],
    by simp [Holds, pumpAndGuest], rfl, safe⟩

/-- A guest thread makes the first call of `VdGetSystemCommandBuffer` while the callback
signals an event. -/
theorem lockSystem_deadlocks :
    ¬ ∀ s, lockSystem.Reachable s → ¬ s.Deadlocked := by
  intro never
  obtain ⟨trace, restricted⟩ := inCallback_history
  have run := restricted.of_restrict
  have calling := run.tail (guest_call .vdGetSystemCommandBuffer rfl)
  have holding := calling.tail (guest_acquire rfl rfl (by simp) (by simp))
  have registering := holding.tail (guest_check rfl)
  have signaling := registering.tail (pump_call .ntSetEvent rfl)
  refine never _ ⟨_, lockBoot, rfl, signaling⟩ ⟨.pump, .guest 0, .tracer, .state, ?_⟩
  exact ⟨by simp, by simp [Holds, pumpAndGuest], rfl, by simp [Holds, pumpAndGuest], rfl⟩

end BumpinHost.Kernel
