import BumpinHost.Kernel.TableSteps

/-!
# Live handles

Handles come from a counter, so those of one run are distinct until it wraps.  The
table holds exactly the live ones as long as a waiter that looks again still finds
its object: `operator[]` puts an object where there is none.
-/

namespace BumpinHost.Kernel

variable {s after : KernelState} {label : KernelLabel} {table changed : HandleTable}
  {trace : List KernelLabel} {handle : Word} {type : HandleObjectType}

def KernelLabel.createdHandle : KernelLabel → Option Word
  | .create _ _ handle => some handle
  | _ => none

/-- The handles that creating calls have returned, in order. -/
def createdHandles (trace : List KernelLabel) : List Word :=
  trace.filterMap KernelLabel.createdHandle

/-- Returned by a create call for that type and not closed since. -/
def LiveAs (trace : List KernelLabel) (handle : Word) (type : HandleObjectType) : Prop :=
  ∃ past future t call, trace = past ++ .create t call handle :: future ∧
    (∀ u, .close u handle ∉ future) ∧ (createdObject call).type = type

def IsLive (trace : List KernelLabel) (handle : Word) : Prop := ∃ type, LiveAs trace handle type

/-- The table has an object exactly for the live handles, no handle was returned twice, and
every object has the type it was created with. -/
structure HoldsLiveHandles (trace : List KernelLabel) (s : KernelState) : Prop where
  domain : ∀ handle, (s.handleTable handle).isSome = true ↔ IsLive trace handle
  distinct : (createdHandles trace).Nodup
  typed : ∀ t call handle obj, .create t call handle ∈ trace →
    s.handleTable handle = some obj → obj.type = (createdObject call).type

/-- A waiter that has been woken, or whose timeout has passed, still finds its object. -/
def FindsObject (s : KernelState) : KernelLabel → Prop
  | .wake _ call _ | .timeOut _ call _ => (s.handleTable call.handle).isSome = true
  | _ => True

@[simp]
theorem createdHandles_snoc (trace : List KernelLabel) (label : KernelLabel) :
    createdHandles (trace ++ [label]) = createdHandles trace ++ label.createdHandle.toList := by
  rw [createdHandles, List.filterMap_append, createdHandles]
  cases found : label.createdHandle <;> simp [found]

theorem mem_createdHandles {t : ThreadId} {call : CreateCall}
    (member : .create t call handle ∈ trace) : handle ∈ createdHandles trace :=
  List.mem_filterMap.mpr ⟨.create t call handle, member, rfl⟩

theorem LiveAs.exists_create (live : LiveAs trace handle type) :
    ∃ t call, .create t call handle ∈ trace ∧ (createdObject call).type = type := by
  obtain ⟨past, future, t, call, rfl, -, typed⟩ := live
  exact ⟨t, call, List.mem_append_right _ (List.mem_cons_self ..), typed⟩

/-- A handle that was returned once was returned by one call. -/
theorem create_unique {t u : ThreadId} {call other : CreateCall}
    (distinct : (createdHandles trace).Nodup) (first : .create t call handle ∈ trace)
    (second : .create u other handle ∈ trace) : call = other := by
  induction trace with
  | nil => cases first
  | cons label rest ih =>
      cases created : label.createdHandle with
      | none =>
          rw [createdHandles, List.filterMap_cons_none created] at distinct
          rcases List.mem_cons.mp first with rfl | firstRest
          · cases created
          rcases List.mem_cons.mp second with rfl | secondRest
          · cases created
          exact ih distinct firstRest secondRest
      | some _ =>
          rw [createdHandles, List.filterMap_cons_some created, List.nodup_cons] at distinct
          rcases List.mem_cons.mp first with rfl | firstRest
          · obtain rfl := Option.some.inj created
            rcases List.mem_cons.mp second with same | secondRest
            · exact (KernelLabel.create.inj same).2.1.symm
            · exact absurd (mem_createdHandles secondRest) distinct.1
          · rcases List.mem_cons.mp second with rfl | secondRest
            · obtain rfl := Option.some.inj created
              exact absurd (mem_createdHandles firstRest) distinct.1
            · exact ih distinct.2 firstRest secondRest

/-- The last label decides what is live, or leaves it as it was. -/
theorem liveAs_snoc : LiveAs (trace ++ [label]) handle type ↔
    (∃ t call, label = .create t call handle ∧ (createdObject call).type = type) ∨
      (LiveAs trace handle type ∧ ∀ u, label ≠ .close u handle) := by
  constructor
  · rintro ⟨past, future, t, call, split, unclosed, typed⟩
    rcases List.eq_nil_or_concat future with rfl | ⟨rest, last, rfl⟩
    · obtain ⟨-, labelEq⟩ := List.append_inj' split rfl
      exact Or.inl ⟨t, call, by simpa using labelEq, typed⟩
    · rw [List.concat_eq_append, ← List.cons_append, ← List.append_assoc] at split
      obtain ⟨traceEq, labelEq⟩ := List.append_inj' split rfl
      obtain rfl : label = last := by simpa using labelEq
      simp only [List.concat_eq_append, List.mem_append, List.mem_singleton, not_or] at unclosed
      exact Or.inr ⟨⟨past, rest, t, call, traceEq, fun u => (unclosed u).1, typed⟩,
        fun u => Ne.symm (unclosed u).2⟩
  · rintro (⟨t, call, rfl, typed⟩ | ⟨⟨past, future, t, call, rfl, unclosed, typed⟩, notClosed⟩)
    · exact ⟨trace, [], t, call, rfl, by simp, typed⟩
    · refine ⟨past, future ++ [label], t, call, by simp, ?_, typed⟩
      intro u closed
      rcases List.mem_append.mp closed with earlier | last
      · exact unclosed u earlier
      · exact notClosed u (List.mem_singleton.mp last).symm

/-- The type of a handle's object. -/
def HandleTable.typeOf (table : HandleTable) (handle : Word) : Option HandleObjectType :=
  (table handle).map HandleObject.type

theorem HandleTable.typeOf_signal (signaled : Word) :
    (table.signal signaled).typeOf handle = table.typeOf handle := by
  by_cases own : handle = signaled
  · subst own
    unfold typeOf signal
    cases found : table handle with
    | some obj => simp [insert]
    | none => simp [found]
  · rw [typeOf, signal_of_ne _ _ own, typeOf]

theorem HandleTable.subscript_table_of_isSome (found : (table handle).isSome = true) :
    (table.subscript handle).2 = table := by
  obtain ⟨obj, found⟩ := Option.isSome_iff_exists.mp found
  rw [subscript_of_some found]

theorem HandleTable.typeOf_consume {consumed : Word} (found : (table consumed).isSome = true) :
    (table.consume consumed).typeOf handle = table.typeOf handle := by
  obtain ⟨obj, found⟩ := Option.isSome_iff_exists.mp found
  by_cases own : handle = consumed
  · subst own
    simp [typeOf, consume_same, subscript_of_some found, found]
  · rw [typeOf, consume_of_ne _ _ own, typeOf]

/-- The type table after a label: creating and closing calls alone change it. -/
def typesAfter (types : Word → Option HandleObjectType) :
    KernelLabel → Word → Option HandleObjectType
  | .create _ call created => Function.update types created (some (createdObject call).type)
  | .close _ closed => Function.update types closed none
  | _ => types

theorem typesAfter_of_waitOutcome {types : Word → Option HandleObjectType}
    {outcome : WaitCall × WaitResult} (found : label.waitOutcome = some outcome) :
    typesAfter types label = types := by
  cases label <;> first | rfl | cases found

theorem typesAfter_of_leavesTable {types : Word → Option HandleObjectType}
    (leaves : label.leavesTable = true) : typesAfter types label = types := by
  cases label <;> first | rfl | cases leaves

/-- When a wait finds its object, the types follow the labels. -/
theorem TableStep.typeOf_eq (step : TableStep table label changed)
    (finds : ∀ call result, label.waitOutcome = some (call, result) → result ≠ .invalidHandle →
      (table call.handle).isSome = true) :
    changed.typeOf = typesAfter table.typeOf label := by
  cases step with
  | same leaves => rw [typesAfter_of_leavesTable leaves]
  | signal t op isSignal =>
      funext handle
      exact HandleTable.typeOf_signal _
  | @create t call created =>
      funext handle
      by_cases own : handle = created
      · subst own
        simp [HandleTable.typeOf, HandleTable.insert_same, typesAfter]
      · rw [HandleTable.typeOf, HandleTable.insert_of_ne _ _ _ own, typesAfter,
          Function.update_of_ne own, HandleTable.typeOf]
  | @close t closed =>
      funext handle
      by_cases own : handle = closed
      · subst own
        simp [HandleTable.typeOf, HandleTable.erase_same, typesAfter]
      · rw [HandleTable.typeOf, HandleTable.erase_of_ne _ _ own, typesAfter,
          Function.update_of_ne own, HandleTable.typeOf]
  | invalidHandle outcome => rw [typesAfter_of_waitOutcome outcome]
  | unsuccessful outcome unfinished valid =>
      rw [HandleTable.subscript_table_of_isSome (finds _ _ outcome valid),
        typesAfter_of_waitOutcome outcome]
  | success outcome signaled =>
      have found := finds _ _ outcome (by simp)
      rw [HandleTable.subscript_table_of_isSome found, typesAfter_of_waitOutcome outcome]
      funext handle
      exact HandleTable.typeOf_consume found

/-- Every wait that gets past its first lookup has its object, unless it looks again at
one that has gone. -/
theorem KernelStep.finds (step : KernelStep s label after) (finds : FindsObject s label)
    (call : WaitCall) (result : WaitResult) (outcome : label.waitOutcome = some (call, result))
    (valid : result ≠ .invalidHandle) : (s.handleTable call.handle).isSome = true := by
  cases step with
  | enter t other running =>
      obtain ⟨rfl, rfl⟩ := Prod.mk.inj (Option.some.inj outcome)
      cases found : s.handleTable other.handle with
      | none => simp [KernelState.enterWait, found] at valid
      | some obj => rfl
  | wake t other parked =>
      obtain ⟨rfl, -⟩ := Prod.mk.inj (Option.some.inj outcome)
      exact finds
  | timeOut t other parked timed =>
      obtain ⟨rfl, -⟩ := Prod.mk.inj (Option.some.inj outcome)
      exact finds
  | _ => cases outcome

theorem evaluateWait_nextHandle (t : ThreadId) (call : WaitCall) (otherwise : Activity)
    (result : WaitResult) :
    (s.evaluateWait t call otherwise result).1.nextHandle = s.nextHandle := by
  unfold KernelState.evaluateWait KernelState.finishWait
  dsimp only
  split_ifs <;> rfl

/-- The counter moves only when it is used. -/
theorem KernelStep.nextHandle_eq (step : KernelStep s label after) :
    (label.createdHandle = none ∧ after.nextHandle = s.nextHandle) ∨
      (label.createdHandle = some s.nextHandle ∧ after.nextHandle = s.nextHandle + 1) := by
  cases step with
  | micro t op calling => cases op <;> exact Or.inl ⟨rfl, rfl⟩
  | enter t call running =>
      refine Or.inl ⟨rfl, ?_⟩
      unfold KernelState.enterWait
      split
      · rfl
      · exact evaluateWait_nextHandle ..
  | wake t call parked => exact Or.inl ⟨rfl, evaluateWait_nextHandle ..⟩
  | timeOut t call parked timed => exact Or.inl ⟨rfl, evaluateWait_nextHandle ..⟩
  | deliver t delivering =>
      refine Or.inl ⟨rfl, ?_⟩
      unfold KernelState.tryDeliverOneApc
      split <;> rfl
  | create t call running absent => exact Or.inr ⟨rfl, rfl⟩
  | _ => exact Or.inl ⟨rfl, rfl⟩

/-- The counter stands after the last handle, and the table has the types of what is live. -/
structure HandleInvariant (trace : List KernelLabel) (s : KernelState) : Prop where
  next : s.nextHandle.toNat = firstHandle.toNat + (createdHandles trace).length
  below : ∀ handle ∈ createdHandles trace, handle.toNat < s.nextHandle.toNat
  distinct : (createdHandles trace).Nodup
  types : ∀ handle type, s.handleTable.typeOf handle = some type ↔ LiveAs trace handle type

/-- Fewer handles than there are values from the first one on. -/
def CounterSuffices (trace : List KernelLabel) : Prop :=
  (createdHandles trace).length < 2 ^ 32 - firstHandle.toNat

instance : Decidable (CounterSuffices trace) := inferInstanceAs (Decidable (_ < _))

theorem CounterSuffices.of_snoc (enough : CounterSuffices (trace ++ [label])) :
    CounterSuffices trace := by
  rw [CounterSuffices, createdHandles_snoc, List.length_append] at enough
  exact lt_of_le_of_lt (Nat.le_add_right ..) enough

/-- What is live and what the table has change alike. -/
theorem HandleInvariant.types_step (invariant : HandleInvariant trace s)
    (step : KernelStep s label after) (finds : FindsObject s label) (handle : Word)
    (type : HandleObjectType) :
    after.handleTable.typeOf handle = some type ↔ LiveAs (trace ++ [label]) handle type := by
  rw [liveAs_snoc, step.tableStep.typeOf_eq (step.finds finds)]
  cases step with
  | create t call running absent =>
      rw [typesAfter]
      by_cases own : handle = s.nextHandle
      · subst own
        rw [Function.update_self]
        constructor
        · intro typed
          exact Or.inl ⟨t, call, rfl, Option.some.inj typed⟩
        · rintro (⟨_, _, same, typed⟩ | ⟨live, -⟩)
          · obtain ⟨-, rfl, -⟩ := KernelLabel.create.inj same
            rw [typed]
          · obtain ⟨u, other, member, -⟩ := live.exists_create
            exact absurd (invariant.below _ (mem_createdHandles member)) (lt_irrefl _)
      · rw [Function.update_of_ne own, invariant.types]
        constructor
        · intro live
          exact Or.inr ⟨live, by simp⟩
        · rintro (⟨_, _, same, -⟩ | ⟨live, -⟩)
          · exact absurd (KernelLabel.create.inj same).2.2.symm own
          · exact live
  | close t closed running =>
      rw [typesAfter]
      by_cases own : handle = closed
      · subst own
        simp
      · have others : ∀ u, KernelLabel.close t closed ≠ .close u handle := by
          intro u same
          exact own (KernelLabel.close.inj same).2.symm
        rw [Function.update_of_ne own, invariant.types]
        simp [others]
  | _ => simp [typesAfter, invariant.types]

theorem HandleInvariant.step (invariant : HandleInvariant trace s)
    (step : KernelStep s label after) (finds : FindsObject s label)
    (enough : CounterSuffices (trace ++ [label])) :
    HandleInvariant (trace ++ [label]) after := by
  have types := invariant.types_step step finds
  rcases step.nextHandle_eq with ⟨created, next⟩ | ⟨created, next⟩
  · refine ⟨?_, ?_, ?_, types⟩ <;> rw [createdHandles_snoc, created]
    · simpa [next] using invariant.next
    · simpa [next] using invariant.below
    · simpa using invariant.distinct
  · rw [CounterSuffices, createdHandles_snoc, created] at enough
    simp only [Option.toList_some, List.length_append, List.length_singleton] at enough
    have counter := invariant.next
    have nextNat : after.nextHandle.toNat = s.nextHandle.toNat + 1 := by
      rw [next, BitVec.toNat_add_of_lt]
      · rfl
      · change s.nextHandle.toNat + 1 < 2 ^ 32
        omega
    refine ⟨?_, ?_, ?_, types⟩ <;> rw [createdHandles_snoc, created]
    · simp only [Option.toList_some, List.length_append, List.length_singleton]
      omega
    · intro handle member
      rw [nextNat]
      rcases List.mem_append.mp member with earlier | last
      · exact Nat.lt_succ_of_lt (invariant.below handle earlier)
      · obtain rfl : handle = s.nextHandle := by simpa using last
        exact Nat.lt_succ_self _
    · rw [Option.toList_some, List.nodup_append]
      refine ⟨invariant.distinct, List.nodup_singleton _, ?_⟩
      rintro handle earlier other last rfl
      obtain rfl : handle = s.nextHandle := by simpa using last
      exact absurd (invariant.below _ earlier) (lt_irrefl _)

theorem HandleInvariant.holdsLiveHandles (invariant : HandleInvariant trace s) :
    HoldsLiveHandles trace s := by
  refine ⟨?_, invariant.distinct, ?_⟩
  · intro handle
    rw [IsLive]
    simp only [← invariant.types, HandleTable.typeOf, Option.map_eq_some_iff]
    constructor
    · intro found
      obtain ⟨obj, found⟩ := Option.isSome_iff_exists.mp found
      exact ⟨obj.type, obj, found, rfl⟩
    · rintro ⟨_, obj, found, -⟩
      rw [found]
      rfl
  · intro t call handle obj member found
    have live := (invariant.types handle obj.type).mp (by simp [HandleTable.typeOf, found])
    obtain ⟨u, other, created, typed⟩ := live.exists_create
    rw [← typed, create_unique invariant.distinct created member]

theorem HandleInvariant.of_isBoot (boot : s.IsBoot) : HandleInvariant [] s := by
  refine ⟨?_, by simp [createdHandles], by simp [createdHandles], ?_⟩
  · rw [boot.2.2]
    rfl
  · intro handle type
    rw [boot.2.1]
    constructor
    · intro typed
      cases typed
    · rintro ⟨past, future, t, call, split, -⟩
      simp at split

/-- A woken waiter leaves an object behind, whether or not there was one. -/
theorem evaluateWait_isSome (t : ThreadId) (call : WaitCall) (otherwise : Activity)
    (result : WaitResult) :
    ((s.evaluateWait t call otherwise result).1.handleTable call.handle).isSome = true := by
  have looked : ((s.handleTable.subscript call.handle).2 call.handle).isSome = true := by
    unfold HandleTable.subscript
    cases found : s.handleTable call.handle with
    | some obj => simp [found]
    | none => simp
  unfold KernelState.evaluateWait KernelState.finishWait
  dsimp only
  split_ifs
  · exact looked
  · simp [HandleTable.consume_same]
  · exact looked

/-- An object that a wait has left behind is a live one only if it was there before. -/
theorem HandleInvariant.isSome_of_live (invariant : HandleInvariant trace s)
    (holds : HoldsLiveHandles (trace ++ [label]) after) (waits : label.createdHandle = none)
    (found : (after.handleTable handle).isSome = true) :
    (s.handleTable handle).isSome = true := by
  obtain ⟨type, live⟩ := (holds.domain handle).mp found
  rcases liveAs_snoc.mp live with ⟨t, call, rfl, -⟩ | ⟨before, -⟩
  · cases waits
  · have typed := (invariant.types handle type).mpr before
    rw [HandleTable.typeOf, Option.map_eq_some_iff] at typed
    obtain ⟨obj, present, -⟩ := typed
    rw [present]
    rfl

theorem handleHistory_invariant
    (history : ((kernelSystem KernelState.IsBoot).restrict FindsObject).History trace s)
    (enough : CounterSuffices trace) : HandleInvariant trace s := by
  revert enough
  apply history.invariant (fun trace s => CounterSuffices trace → HandleInvariant trace s)
  · intro start boot _
    exact .of_isBoot boot
  · intro past before label after _ holds step enough
    exact (holds enough.of_snoc).step step.1 step.2 enough

/-- As long as every waiter that looks again finds its object, the table holds the live
handles; the first that does not puts one there that is not live. -/
theorem handleTable_holdsLiveHandles {trace : List KernelLabel} {s : KernelState}
    (history : ((kernelSystem KernelState.IsBoot).restrict FindsObject).History trace s) :
    (CounterSuffices trace → HoldsLiveHandles trace s) ∧
    (∀ label after, (kernelSystem KernelState.IsBoot).step s label after →
      CounterSuffices (trace ++ [label]) →
      (HoldsLiveHandles (trace ++ [label]) after ↔ FindsObject s label)) := by
  constructor
  · intro enough
    exact (handleHistory_invariant history enough).holdsLiveHandles
  · intro label after step enough
    have invariant := handleHistory_invariant history enough.of_snoc
    constructor
    · intro holds
      cases step with
      | wake t call parked =>
          exact invariant.isSome_of_live holds rfl (evaluateWait_isSome ..)
      | timeOut t call parked timed =>
          exact invariant.isSome_of_live holds rfl (evaluateWait_isSome ..)
      | _ => trivial
    · intro finds
      exact (invariant.step step finds enough).holdsLiveHandles

/-- No thread is parked on a handle that is closed. -/
def ClosesUnwaited (s : KernelState) : KernelLabel → Prop
  | .close _ handle => ∀ u call notified,
      (s.threads u).activity = .parked call notified → call.handle ≠ handle
  | _ => True

/-- Every thread is parked on an object of the table. -/
def ParkedOnObjects (s : KernelState) : Prop :=
  ∀ u call notified, (s.threads u).activity = .parked call notified →
    (s.handleTable call.handle).isSome = true

theorem setActivity_parked {t u : ThreadId} {activity : Activity} {call : WaitCall}
    {notified : Bool} (parked : ((s.setActivity t activity).threads u).activity =
      .parked call notified) :
    (u = t ∧ activity = .parked call notified) ∨
      (s.threads u).activity = .parked call notified := by
  by_cases own : u = t
  · subst own
    rw [KernelState.setActivity_activity_same] at parked
    exact Or.inl ⟨rfl, parked⟩
  · rw [KernelState.setActivity_activity_of_ne _ own] at parked
    exact Or.inr parked

theorem evaluateWait_parked {t u : ThreadId} {call other : WaitCall} {otherwise : Activity}
    {result : WaitResult} {notified : Bool}
    (parked : ((s.evaluateWait t other otherwise result).1.threads u).activity =
      .parked call notified) :
    (u = t ∧ otherwise = .parked call notified) ∨
      (s.threads u).activity = .parked call notified := by
  unfold KernelState.evaluateWait KernelState.finishWait at parked
  dsimp only at parked
  split_ifs at parked
  · exact Or.inr ((setActivity_parked parked).resolve_left (by simp))
  · exact Or.inr ((setActivity_parked parked).resolve_left (by simp))
  · exact setActivity_parked parked

theorem notifyAll_parked {u : ThreadId} {call : WaitCall} {notified : Bool}
    (parked : (s.notifyAll.threads u).activity = .parked call notified) :
    ∃ earlier, (s.threads u).activity = .parked call earlier := by
  unfold KernelState.notifyAll at parked
  dsimp only at parked
  split at parked
  · rename_i other earlier was
    obtain ⟨rfl, -⟩ := Activity.parked.inj parked
    exact ⟨earlier, was⟩
  · exact ⟨notified, parked⟩

/-- A thread is parked because it was, or because it has just found its object. -/
theorem KernelStep.parked_of (step : KernelStep s label after) {u : ThreadId} {call : WaitCall}
    {notified : Bool} (parked : (after.threads u).activity = .parked call notified) :
    (∃ earlier, (s.threads u).activity = .parked call earlier) ∨
      (s.handleTable call.handle).isSome = true := by
  cases step with
  | begin t other running =>
      left
      refine ⟨notified, (setActivity_parked parked).resolve_left ?_⟩
      exact fun own => Activity.afterOps_ne_parked _ _ _ own.2
  | @micro t op rest calling =>
      left
      have ended : ¬(u = t ∧ Activity.afterOps rest = .parked call notified) :=
        fun own => Activity.afterOps_ne_parked _ _ _ own.2
      cases op with
      | notifyAll | signalAndNotify =>
          exact notifyAll_parked ((setActivity_parked parked).resolve_left ended)
      | exit => exact ⟨notified, (setActivity_parked parked).resolve_left (by simp)⟩
      | _ => exact ⟨notified, (setActivity_parked parked).resolve_left ended⟩
  | enter t other running =>
      cases found : s.handleTable other.handle with
      | none =>
          rw [KernelState.enterWait, found] at parked
          exact Or.inl ⟨notified, parked⟩
      | some obj =>
          rw [KernelState.enterWait, found] at parked
          rcases evaluateWait_parked parked with ⟨-, same⟩ | earlier
          · obtain ⟨rfl, -⟩ := Activity.parked.inj same
            right
            rw [found]
            rfl
          · exact Or.inl ⟨notified, earlier⟩
  | wake t other was =>
      left
      rcases evaluateWait_parked parked with ⟨rfl, same⟩ | earlier
      · obtain ⟨rfl, -⟩ := Activity.parked.inj same
        exact ⟨true, was⟩
      · exact ⟨notified, earlier⟩
  | timeOut t other was timed =>
      exact Or.inl ⟨notified, (evaluateWait_parked parked).resolve_left (by simp)⟩
  | deliver t delivering =>
      left
      refine ⟨notified, ?_⟩
      unfold KernelState.tryDeliverOneApc at parked
      split at parked
      · exact (setActivity_parked parked).resolve_left (by simp)
      · by_cases own : u = t
        · subst own
          simp at parked
        · simpa [Function.update_of_ne own] using parked
  | returnUserApc t running =>
      left
      refine ⟨notified, ?_⟩
      by_cases own : u = t
      · subst own
        simpa [KernelState.returnUserApc] using parked
      · simpa [KernelState.returnUserApc, Function.update_of_ne own] using parked
  | create t other running absent =>
      left
      refine ⟨notified, ?_⟩
      cases other with
      | exCreateThread child =>
          by_cases own : u = child
          · subst own
            simp [KernelState.create] at parked
          · simpa [KernelState.create, Function.update_of_ne own] using parked
      | _ => exact parked
  | close t closed running => exact Or.inl ⟨notified, parked⟩

theorem ParkedOnObjects.findsObject (parkedOn : ParkedOnObjects s)
    (step : KernelStep s label after) : FindsObject s label := by
  cases step with
  | wake t call parked => exact parkedOn t call true parked
  | timeOut t call parked timed => exact parkedOn t call _ parked
  | _ => trivial

theorem isSome_typeOf : (table.typeOf handle).isSome = (table handle).isSome := by
  simp [HandleTable.typeOf]

theorem ParkedOnObjects.step (parkedOn : ParkedOnObjects s) (step : KernelStep s label after)
    (unwaited : ClosesUnwaited s label) : ParkedOnObjects after := by
  intro u call notified parked
  have found : (s.handleTable call.handle).isSome = true := by
    rcases step.parked_of parked with ⟨earlier, was⟩ | found
    · exact parkedOn u call earlier was
    · exact found
  rw [← isSome_typeOf, step.tableStep.typeOf_eq (step.finds (parkedOn.findsObject step))]
  cases step with
  | create t other running absent =>
      rw [typesAfter]
      by_cases own : call.handle = s.nextHandle
      · rw [own, Function.update_self]
        rfl
      · rw [Function.update_of_ne own, isSome_typeOf]
        exact found
  | close t closed running =>
      rw [typesAfter, Function.update_of_ne (unwaited u call notified parked), isSome_typeOf]
      exact found
  | _ => exact isSome_typeOf.trans found

theorem parkedOnObjects_of_history
    (history : ((kernelSystem KernelState.IsBoot).restrict ClosesUnwaited).History trace s) :
    ((kernelSystem KernelState.IsBoot).restrict FindsObject).History trace s ∧
      ParkedOnObjects s := by
  apply history.invariant fun trace s =>
    ((kernelSystem KernelState.IsBoot).restrict FindsObject).History trace s ∧ ParkedOnObjects s
  · intro start boot
    refine ⟨⟨start, boot, .refl⟩, ?_⟩
    intro u call notified parked
    rcases boot.1 u with running | absent
    · simp [running] at parked
    · simp [absent] at parked
  · rintro past before label after - ⟨⟨start, boot, run⟩, parkedOn⟩ ⟨step, unwaited⟩
    exact ⟨⟨start, boot, run.tail ⟨step, parkedOn.findsObject step⟩⟩,
      parkedOn.step step unwaited⟩

/-- Closing only handles that nobody waits for keeps the table to the live ones. -/
theorem holdsLiveHandles_of_closesUnwaited
    (history : ((kernelSystem KernelState.IsBoot).restrict ClosesUnwaited).History trace s)
    (enough : CounterSuffices trace) : HoldsLiveHandles trace s :=
  (handleHistory_invariant (parkedOnObjects_of_history history).1 enough).holdsLiveHandles

/-- A thread waits for an event, is woken, and the event is closed. -/
theorem handleTable_holdsLiveHandles_closedEvent :
    ∃ trace s, KernelLabel.close 0 firstHandle ∈ trace ∧
      ((kernelSystem KernelState.IsBoot).restrict FindsObject).History trace s ∧
      HoldsLiveHandles trace s := by
  let wait : WaitCall := ⟨firstHandle, false, false⟩
  let created := twoThreads.create (.ntCreateEvent true false)
  let waiting := (created.enterWait 1 wait).1
  let setting := waiting.setActivity 0 (.calling [.signal firstHandle, .notifyAll])
  let signaled := setting.applyOp 0 (.signal firstHandle) [.notifyAll]
  let notified := signaled.applyOp 0 .notifyAll []
  let woken := (notified.wakeWait 1 wait).1
  let trace : List KernelLabel :=
    [.create 0 (.ntCreateEvent true false) firstHandle, .enter 1 wait .parked,
      .begin 0 (.ntSetEvent firstHandle), .micro 0 (.signal firstHandle), .micro 0 .notifyAll,
      .wake 1 wait .success, .close 0 firstHandle]
  have history : ((kernelSystem KernelState.IsBoot).restrict FindsObject).History trace
      (woken.ntClose firstHandle) :=
    ⟨twoThreads, twoThreads_isBoot,
      .head ⟨.create 0 (.ntCreateEvent true false) rfl (by simp), trivial⟩ <|
        .head ⟨.enter 1 wait rfl, trivial⟩ <|
          .head ⟨.begin 0 (.ntSetEvent firstHandle) rfl, trivial⟩ <|
            .head ⟨.micro 0 (.signal firstHandle) rfl, trivial⟩ <|
              .head ⟨.micro 0 .notifyAll rfl, trivial⟩ <|
                .head ⟨.wake 1 wait rfl, rfl⟩ <|
                  .single ⟨.close 0 firstHandle rfl, trivial⟩⟩
  exact ⟨trace, woken.ntClose firstHandle, by simp [trace], history,
    (handleTable_holdsLiveHandles history).1 (by decide)⟩

/-- An event is closed while a thread waits for it; when the timeout passes, the waiter puts
a mutant in its place. -/
theorem closedEvent_comesBack :
    ¬ ∀ trace s, (kernelSystem KernelState.IsBoot).History trace s → CounterSuffices trace →
      HoldsLiveHandles trace s := by
  intro always
  let wait : WaitCall := ⟨firstHandle, false, true⟩
  let created := twoThreads.create (.ntCreateEvent true false)
  let waiting := (created.enterWait 1 wait).1
  let closed := waiting.ntClose firstHandle
  let timedOut := (closed.timeOutWait 1 wait).1
  have history : (kernelSystem KernelState.IsBoot).History
      ([.create 0 (.ntCreateEvent true false) firstHandle, .enter 1 wait .parked] ++
        [.close 0 firstHandle] ++ [.timeOut 1 wait .timedOut]) timedOut :=
    ⟨twoThreads, twoThreads_isBoot,
      .head (.create 0 (.ntCreateEvent true false) rfl (by simp)) <|
        .head (.enter 1 wait rfl) <|
          .head (.close 0 firstHandle rfl) <|
            .single (.timeOut 1 wait rfl rfl)⟩
  have holds := always _ timedOut history (by decide)
  obtain ⟨type, live⟩ := (holds.domain firstHandle).mp rfl
  rcases liveAs_snoc.mp live with ⟨t, call, created, -⟩ | ⟨unclosed, -⟩
  · cases created
  · rcases liveAs_snoc.mp unclosed with ⟨t, call, created, -⟩ | ⟨-, notClosed⟩
    · cases created
    · exact notClosed 0 rfl

end BumpinHost.Kernel
