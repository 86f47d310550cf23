import BumpinHost.Library.ByteMemory

/-!
# Dispatcher objects

The handle table and the asynchronous procedure calls that threads are sent.
Some operations look a handle up with `find`, others with `operator[]`, which
inserts an object that was not there.
-/

namespace BumpinHost.Kernel

inductive HandleObjectType
  | mutant
  | event
  | generic
  | thread
  | file
deriving DecidableEq, Repr

structure HandleObject where
  type : HandleObjectType
  signaled : Bool
  autoReset : Bool
deriving DecidableEq, Repr

namespace HandleObject

/-- What `operator[]` inserts. -/
def valueInitialized : HandleObject := ⟨.mutant, false, false⟩

/-- A successful wait takes the signal. -/
def consumesSignal (obj : HandleObject) : Bool :=
  obj.type == .mutant || (obj.type == .event && obj.autoReset)

def consumeSignalOnAcquire (obj : HandleObject) : HandleObject :=
  if obj.consumesSignal then { obj with signaled := false } else obj

@[simp]
theorem consumeSignalOnAcquire_type (obj : HandleObject) :
    obj.consumeSignalOnAcquire.type = obj.type := by
  unfold consumeSignalOnAcquire
  split <;> rfl

@[simp]
theorem consumeSignalOnAcquire_autoReset (obj : HandleObject) :
    obj.consumeSignalOnAcquire.autoReset = obj.autoReset := by
  unfold consumeSignalOnAcquire
  split <;> rfl

theorem consumeSignalOnAcquire_signaled (obj : HandleObject) :
    obj.consumeSignalOnAcquire.signaled = (obj.signaled && !obj.consumesSignal) := by
  unfold consumeSignalOnAcquire
  split <;> simp_all

end HandleObject

/-- The first handle; lower values are left to sentinels. -/
def firstHandle : Word := 0x1000

abbrev HandleTable := Word → Option HandleObject

namespace HandleTable

variable (table : HandleTable) (handle : Word)

/-- `operator[]`: the object, and the table that certainly has it. -/
def subscript : HandleObject × HandleTable :=
  match table handle with
  | some obj => (obj, table)
  | none =>
      (.valueInitialized, Function.update table handle (some .valueInitialized))

def insert (obj : HandleObject) : HandleTable := Function.update table handle (some obj)

def erase : HandleTable := Function.update table handle none

/-- Signal an object that `find` finds. -/
def signal : HandleTable :=
  match table handle with
  | some obj => table.insert handle { obj with signaled := true }
  | none => table

/-- `consumeSignalOnAcquire` of the object that `operator[]` gives. -/
def consume : HandleTable :=
  (table.subscript handle).2.insert handle (table.subscript handle).1.consumeSignalOnAcquire

/-- The flag of an object; a handle without one is not signaled. -/
def isSignaled : Bool := ((table handle).map HandleObject.signaled).getD false

theorem subscript_of_some {table : HandleTable} {handle : Word} {obj : HandleObject}
    (found : table handle = some obj) : table.subscript handle = (obj, table) := by
  simp [subscript, found]

@[simp]
theorem subscript_signaled : (table.subscript handle).1.signaled = table.isSignaled handle := by
  unfold subscript isSignaled
  cases table handle <;> rfl

/-- Inserting an object that is not signaled changes no flag. -/
@[simp]
theorem isSignaled_subscript (other : Word) :
    HandleTable.isSignaled (table.subscript handle).2 other = table.isSignaled other := by
  unfold subscript
  cases found : table handle with
  | some obj => rfl
  | none =>
      by_cases same : other = handle
      · simp [isSignaled, same, found, HandleObject.valueInitialized]
      · simp [isSignaled, Function.update_of_ne same]

theorem insert_same (obj : HandleObject) : table.insert handle obj handle = some obj :=
  Function.update_self ..

theorem insert_of_ne (obj : HandleObject) {other : Word} (different : other ≠ handle) :
    table.insert handle obj other = table other :=
  Function.update_of_ne different ..

theorem erase_same : table.erase handle handle = none := Function.update_self ..

theorem erase_of_ne {other : Word} (different : other ≠ handle) :
    table.erase handle other = table other :=
  Function.update_of_ne different ..

theorem subscript_of_ne {other : Word} (different : other ≠ handle) :
    (table.subscript handle).2 other = table other := by
  unfold subscript
  cases table handle with
  | some obj => rfl
  | none => exact Function.update_of_ne different ..

theorem signal_of_ne {other : Word} (different : other ≠ handle) :
    table.signal handle other = table other := by
  unfold signal
  cases table handle with
  | some obj => exact table.insert_of_ne handle _ different
  | none => rfl

theorem consume_of_ne {other : Word} (different : other ≠ handle) :
    table.consume handle other = table other := by
  unfold consume
  rw [insert_of_ne _ _ _ different, subscript_of_ne _ _ different]

/-- Signaling sets one flag and leaves the others. -/
theorem isSignaled_signal (other : Word) :
    (table.signal handle).isSignaled other =
      if other = handle then (table handle).isSome else table.isSignaled other := by
  split_ifs with same
  · subst same
    unfold signal isSignaled
    cases found : table other with
    | some obj => simp [insert]
    | none => simp [found]
  · rw [isSignaled, signal_of_ne _ _ same, isSignaled]

theorem isSignaled_consume_of_ne {other : Word} (different : other ≠ handle) :
    (table.consume handle).isSignaled other = table.isSignaled other := by
  rw [isSignaled, consume_of_ne _ _ different, isSignaled]

theorem consume_same : table.consume handle handle =
    some (table.subscript handle).1.consumeSignalOnAcquire :=
  insert_same ..

/-- Taking a signal never sets a flag. -/
theorem isSignaled_of_consume {other : Word}
    (signaled : (table.consume handle).isSignaled other = true) :
    table.isSignaled other = true := by
  by_cases same : other = handle
  · subst same
    simp only [isSignaled, consume_same, Option.map_some, Option.getD_some,
      HandleObject.consumeSignalOnAcquire_signaled, subscript_signaled, Bool.and_eq_true]
      at signaled
    exact signaled.1
  · rwa [isSignaled_consume_of_ne _ _ same] at signaled

end HandleTable

structure ApcEntry where
  routine : Word
  context : Word
  sysArg1 : Word
  sysArg2 : Word
deriving DecidableEq, Repr

/-- Queues by target thread handle; a thread without a queue has an empty one. -/
abbrev ApcQueues := Word → List ApcEntry

end BumpinHost.Kernel
