import BumpinHost.Library.ByteMemory

/-!
# The float control register

The guest's rounding and flush modes live in the control register of the host, of which the
context keeps a copy.  Changes of the flush mode look at the copy only, and write the register
only when the copy says so.
-/

namespace BumpinHost.Guest

/-- The bits of the host's register, and the rounding bits of each guest mode. -/
structure HostFloatUnit where
  roundShift : Nat
  roundMask : Word
  flushMask : Word
  guestToHost : BitVec 2 → Word
  apart : roundMask &&& flushMask = 0
  rounds : ∀ mode, guestToHost mode &&& roundMask = guestToHost mode

def hostToGuest : List Word :=
  [0x00, 0x03, 0x02, 0x01]

def x86 : HostFloatUnit where
  roundShift := 13
  roundMask := 0x6000
  flushMask := 0x8000 ||| 0x0040
  guestToHost mode := [0x0000, 0x6000, 0x4000, 0x2000].getD mode.toNat 0
  apart := by decide
  rounds := by decide

def aarch64 : HostFloatUnit where
  roundShift := 22
  roundMask := 3 <<< 22
  flushMask := (1 <<< 19) ||| (1 <<< 24)
  guestToHost mode := [0 <<< 22, 3 <<< 22, 1 <<< 22, 2 <<< 22].getD mode.toNat 0
  apart := by decide
  rounds := by decide

/-- The copy and the register. -/
structure FloatControl where
  csr : Word
  host : Word
deriving DecidableEq, Repr

namespace FloatControl

/-- What every change does: the copy first, then the register. -/
def setcsr (csr : Word) : FloatControl :=
  ⟨csr, csr⟩

/-- The guest's rounding mode, and the register copied. -/
def loadFromHost (unit : HostFloatUnit) (fpscr : FloatControl) : Word × FloatControl :=
  (hostToGuest.getD ((fpscr.host &&& unit.roundMask) >>> unit.roundShift).toNat 0,
    ⟨fpscr.host, fpscr.host⟩)

def storeFromGuest (unit : HostFloatUnit) (fpscr : FloatControl) (value : Word) : FloatControl :=
  setcsr ((fpscr.csr &&& ~~~unit.roundMask) ||| unit.guestToHost (value.setWidth 2))

def enableFlushModeUnconditional (unit : HostFloatUnit) (fpscr : FloatControl) : FloatControl :=
  setcsr (fpscr.csr ||| unit.flushMask)

def disableFlushModeUnconditional (unit : HostFloatUnit) (fpscr : FloatControl) : FloatControl :=
  setcsr (fpscr.csr &&& ~~~unit.flushMask)

def enableFlushMode (unit : HostFloatUnit) (fpscr : FloatControl) : FloatControl :=
  if fpscr.csr &&& unit.flushMask ≠ unit.flushMask then
    setcsr (fpscr.csr ||| unit.flushMask)
  else fpscr

def disableFlushMode (unit : HostFloatUnit) (fpscr : FloatControl) : FloatControl :=
  if fpscr.csr &&& unit.flushMask ≠ 0 then setcsr (fpscr.csr &&& ~~~unit.flushMask)
  else fpscr

end FloatControl

inductive FloatControlCall
  | loadFromHost
  | storeFromGuest (value : Word)
  | enableFlushModeUnconditional
  | disableFlushModeUnconditional
  | enableFlushMode
  | disableFlushMode
deriving DecidableEq, Repr

namespace FloatControlCall

def apply (unit : HostFloatUnit) (fpscr : FloatControl) : FloatControlCall → FloatControl
  | loadFromHost => (fpscr.loadFromHost unit).2
  | storeFromGuest value => fpscr.storeFromGuest unit value
  | enableFlushModeUnconditional => fpscr.enableFlushModeUnconditional unit
  | disableFlushModeUnconditional => fpscr.disableFlushModeUnconditional unit
  | enableFlushMode => fpscr.enableFlushMode unit
  | disableFlushMode => fpscr.disableFlushMode unit

def run (unit : HostFloatUnit) (fpscr : FloatControl) (calls : List FloatControlCall) :
    FloatControl :=
  calls.foldl (apply unit) fpscr

/-- The rounding mode that a call asks for. -/
def rounding : FloatControlCall → Option (BitVec 2)
  | storeFromGuest value => some (value.setWidth 2)
  | _ => none

/-- The flush mode that a call asks for. -/
def flushes : FloatControlCall → Option Bool
  | enableFlushModeUnconditional | enableFlushMode => some true
  | disableFlushModeUnconditional | disableFlushMode => some false
  | _ => none

end FloatControlCall

/-- The register as what the guest sets, and the bits that it never touches. -/
structure FloatModes where
  rounding : Word
  flush : Word
  others : Word
deriving DecidableEq, Repr

def FloatModes.of (unit : HostFloatUnit) (csr : Word) : FloatModes where
  rounding := csr &&& unit.roundMask
  flush := csr &&& unit.flushMask
  others := csr &&& ~~~(unit.roundMask ||| unit.flushMask)

/-- A call sets a mode, whatever the other one is. -/
def FloatModes.after (unit : HostFloatUnit) (modes : FloatModes) (call : FloatControlCall) :
    FloatModes where
  rounding := (call.rounding.map unit.guestToHost).getD modes.rounding
  flush := (call.flushes.map fun on => if on then unit.flushMask else 0).getD modes.flush
  others := modes.others

section Masks

variable {w : Nat} {word mask other bits : BitVec w}

theorem not_and_of_apart (apart : mask &&& other = 0) : ~~~mask &&& other = other := by
  apply BitVec.eq_of_getLsbD_eq
  intro bit inside
  have both := congrArg (fun masks => masks.getLsbD bit) apart
  simp only [BitVec.getLsbD_and, BitVec.ofNat_eq_ofNat, BitVec.getLsbD_zero] at both
  rw [BitVec.getLsbD_and, BitVec.getLsbD_not, decide_eq_true inside, Bool.true_and]
  cases set : mask.getLsbD bit with
  | false => rfl
  | true =>
      rw [set, Bool.true_and] at both
      rw [both]
      rfl

/-- The word with the bits of a mask replaced. -/
theorem replaced_masked (within : bits &&& mask = bits) :
    ((word &&& ~~~mask) ||| bits) &&& mask = bits := by
  rw [BitVec.and_or_distrib_right, BitVec.and_assoc, BitVec.not_and_self, BitVec.ofNat_eq_ofNat,
    BitVec.and_zero, BitVec.zero_or, within]

/-- Replaced bits are not seen through a mask that is apart. -/
theorem replaced_apart (within : bits &&& mask = bits) (apart : mask &&& other = 0) :
    ((word &&& ~~~mask) ||| bits) &&& other = word &&& other := by
  have bitsApart : bits &&& other = 0#w := by
    rw [← within, BitVec.and_assoc, apart, BitVec.ofNat_eq_ofNat, BitVec.and_zero]
  rw [BitVec.and_or_distrib_right, BitVec.and_assoc, not_and_of_apart apart, bitsApart, BitVec.or_zero]

theorem apart_not_or (first second : BitVec w) : first &&& ~~~(first ||| second) = 0 := by
  rw [BitVec.not_or, ← BitVec.and_assoc, BitVec.and_not_self, BitVec.ofNat_eq_ofNat,
    BitVec.zero_and]

/-- Setting every bit of a mask replaces them. -/
theorem or_eq_replaced : word ||| mask = (word &&& ~~~mask) ||| mask := by
  apply BitVec.eq_of_getLsbD_eq
  intro bit inside
  simp only [BitVec.getLsbD_or, BitVec.getLsbD_and, BitVec.getLsbD_not, inside]
  cases word.getLsbD bit <;> cases mask.getLsbD bit <;> rfl

variable (unit : HostFloatUnit)

/-- New rounding bits leave the others. -/
theorem of_store (csr : Word) (mode : BitVec 2) :
    FloatModes.of unit ((csr &&& ~~~unit.roundMask) ||| unit.guestToHost mode) =
      { FloatModes.of unit csr with rounding := unit.guestToHost mode } := by
  have within := unit.rounds mode
  rw [FloatModes.of, FloatModes.of, replaced_masked within, replaced_apart within unit.apart,
    replaced_apart within (apart_not_or _ _)]

/-- New flush bits leave the others. -/
theorem of_flush (csr : Word) {bits : Word} (within : bits &&& unit.flushMask = bits) :
    FloatModes.of unit ((csr &&& ~~~unit.flushMask) ||| bits) =
      { FloatModes.of unit csr with flush := bits } := by
  have apart : unit.flushMask &&& unit.roundMask = 0 := by
    rw [BitVec.and_comm, unit.apart]
  have others : unit.flushMask &&& ~~~(unit.roundMask ||| unit.flushMask) = 0 := by
    rw [BitVec.or_comm, apart_not_or]
  rw [FloatModes.of, FloatModes.of, replaced_masked within, replaced_apart within apart,
    replaced_apart within others]

/-- All flush bits set, and the others as before. -/
theorem of_enable (csr : Word) :
    FloatModes.of unit (csr ||| unit.flushMask) =
      { FloatModes.of unit csr with flush := unit.flushMask } := by
  rw [or_eq_replaced]
  exact of_flush unit csr BitVec.and_self

/-- No flush bit set, and the others as before. -/
theorem of_disable (csr : Word) :
    FloatModes.of unit (csr &&& ~~~unit.flushMask) =
      { FloatModes.of unit csr with flush := 0 } := by
  have cleared := of_flush unit csr BitVec.zero_and
  rw [BitVec.or_zero] at cleared
  exact cleared

end Masks

/-- The copy is the register, and both hold these modes. -/
structure Coherent (unit : HostFloatUnit) (fpscr : FloatControl) (modes : FloatModes) : Prop where
  copied : fpscr.csr = fpscr.host
  holds : FloatModes.of unit fpscr.host = modes

/-- On a copy that is the register, the call that looks first does what the other does. -/
theorem enableFlushMode_eq {unit : HostFloatUnit} {fpscr : FloatControl}
    (copied : fpscr.csr = fpscr.host) :
    fpscr.enableFlushMode unit = fpscr.enableFlushModeUnconditional unit := by
  unfold FloatControl.enableFlushMode
  split
  · rfl
  case isFalse already =>
      have all : fpscr.csr &&& unit.flushMask = unit.flushMask := not_not.mp already
      have same : fpscr.csr ||| unit.flushMask = fpscr.csr := by
        rw [← all]
        apply BitVec.eq_of_getLsbD_eq
        intro bit inside
        rw [BitVec.getLsbD_or, BitVec.getLsbD_and]
        cases fpscr.csr.getLsbD bit <;> simp
      obtain ⟨csr, host⟩ := fpscr
      obtain rfl : csr = host := copied
      rw [FloatControl.enableFlushModeUnconditional, FloatControl.setcsr, same]

theorem disableFlushMode_eq {unit : HostFloatUnit} {fpscr : FloatControl}
    (copied : fpscr.csr = fpscr.host) :
    fpscr.disableFlushMode unit = fpscr.disableFlushModeUnconditional unit := by
  unfold FloatControl.disableFlushMode
  split
  · rfl
  case isFalse already =>
      have none : fpscr.csr &&& unit.flushMask = 0 := not_not.mp already
      have same : fpscr.csr &&& ~~~unit.flushMask = fpscr.csr := by
        rw [BitVec.and_comm] at none ⊢
        exact not_and_of_apart none
      obtain ⟨csr, host⟩ := fpscr
      obtain rfl : csr = host := copied
      rw [FloatControl.disableFlushModeUnconditional, FloatControl.setcsr, same]

/-- Each call sets its mode in the copy and in the register. -/
theorem Coherent.apply {unit : HostFloatUnit} {fpscr : FloatControl} {modes : FloatModes}
    (coherent : Coherent unit fpscr modes) (call : FloatControlCall) :
    Coherent unit (call.apply unit fpscr) (modes.after unit call) := by
  obtain ⟨copied, rfl⟩ := coherent
  have enabled : Coherent unit (fpscr.enableFlushModeUnconditional unit)
      { FloatModes.of unit fpscr.host with flush := unit.flushMask } :=
    ⟨rfl, (of_enable unit fpscr.csr).trans (by rw [copied])⟩
  have disabled : Coherent unit (fpscr.disableFlushModeUnconditional unit)
      { FloatModes.of unit fpscr.host with flush := 0 } :=
    ⟨rfl, (of_disable unit fpscr.csr).trans (by rw [copied])⟩
  cases call with
  | loadFromHost => exact ⟨rfl, rfl⟩
  | storeFromGuest value => exact ⟨rfl, (of_store unit fpscr.csr _).trans (by rw [copied]; rfl)⟩
  | enableFlushModeUnconditional => exact enabled
  | disableFlushModeUnconditional => exact disabled
  | enableFlushMode =>
      have same := @enableFlushMode_eq unit fpscr copied
      exact (show FloatControlCall.apply unit fpscr .enableFlushMode = _ from same) ▸ enabled
  | disableFlushMode =>
      have same := @disableFlushMode_eq unit fpscr copied
      exact (show FloatControlCall.apply unit fpscr .disableFlushMode = _ from same) ▸ disabled

/-- The modes after all calls. -/
theorem Coherent.run {unit : HostFloatUnit} {fpscr : FloatControl} {modes : FloatModes}
    (coherent : Coherent unit fpscr modes) (calls : List FloatControlCall) :
    Coherent unit (FloatControlCall.run unit fpscr calls)
      (calls.foldl (FloatModes.after unit) modes) := by
  induction calls generalizing fpscr modes with
  | nil => exact coherent
  | cons call calls ih => exact ih (coherent.apply call)

/-- The mode that the calls asked for last, or the one at the start. -/
def lastAsked {Mode : Type} (asks : FloatControlCall → Option Mode) (bits : Mode → Word)
    (start : Word) (calls : List FloatControlCall) : Word :=
  ((calls.filterMap asks).getLast?.map bits).getD start

def flushBits (unit : HostFloatUnit) (on : Bool) : Word :=
  if on then unit.flushMask else 0

theorem lastAsked_append {Mode : Type} (asks : FloatControlCall → Option Mode)
    (bits : Mode → Word) (start : Word) (calls : List FloatControlCall) (call : FloatControlCall) :
    lastAsked asks bits start (calls ++ [call]) =
      ((asks call).map bits).getD (lastAsked asks bits start calls) := by
  unfold lastAsked
  rw [List.filterMap_append]
  cases asked : asks call with
  | none => rw [List.filterMap_cons_none asked, List.filterMap_nil, List.append_nil]; rfl
  | some mode =>
      rw [List.filterMap_cons_some asked, List.filterMap_nil, List.getLast?_append]
      rfl

theorem modes_after (unit : HostFloatUnit) (modes : FloatModes) (calls : List FloatControlCall) :
    calls.foldl (FloatModes.after unit) modes =
      ⟨lastAsked FloatControlCall.rounding unit.guestToHost modes.rounding calls,
        lastAsked FloatControlCall.flushes (flushBits unit) modes.flush calls, modes.others⟩ := by
  induction calls using List.reverseRecOn with
  | nil => rfl
  | append_singleton calls call ih =>
      rw [List.foldl_append, ih, lastAsked_append, lastAsked_append]
      rfl

/-- Rounding up and rounding down, exchanged. -/
def exchanged (mode : BitVec 2) : BitVec 2 :=
  if mode = 2 then 3 else if mode = 3 then 2 else mode

theorem x86_readsBack (mode : BitVec 2) :
    hostToGuest.getD (x86.guestToHost mode >>> x86.roundShift).toNat 0 = mode.setWidth 32 := by
  revert mode
  decide

/-- The table of the other order of host modes is used here, too. -/
theorem aarch64_readsBack (mode : BitVec 2) :
    hostToGuest.getD (aarch64.guestToHost mode >>> aarch64.roundShift).toNat 0 =
      (exchanged mode).setWidth 32 := by
  revert mode
  decide

/-- From a copied register on, after any calls: the copy is the register; it holds the flush mode
and the rounding mode asked for last, each whatever the other is, and all its other bits as at the
start.  The rounding mode reads back as it was stored on x86, and with up and down exchanged on
AArch64. -/
theorem floatControl_run {start : FloatControl} (copied : start.csr = start.host)
    (calls : List FloatControlCall) :
    (∀ unit, Coherent unit (FloatControlCall.run unit start calls)
      ⟨lastAsked FloatControlCall.rounding unit.guestToHost (start.host &&& unit.roundMask) calls,
        lastAsked FloatControlCall.flushes (flushBits unit) (start.host &&& unit.flushMask) calls,
        start.host &&& ~~~(unit.roundMask ||| unit.flushMask)⟩) ∧
    ∀ mode, (calls.filterMap FloatControlCall.rounding).getLast? = some mode →
      ((FloatControlCall.run x86 start calls).loadFromHost x86).1 = mode.setWidth 32 ∧
      ((FloatControlCall.run aarch64 start calls).loadFromHost aarch64).1 =
        (exchanged mode).setWidth 32 := by
  have modes : ∀ unit, Coherent unit (FloatControlCall.run unit start calls)
      ⟨lastAsked FloatControlCall.rounding unit.guestToHost (start.host &&& unit.roundMask) calls,
        lastAsked FloatControlCall.flushes (flushBits unit) (start.host &&& unit.flushMask) calls,
        start.host &&& ~~~(unit.roundMask ||| unit.flushMask)⟩ := by
    intro unit
    have initial : Coherent unit start (.of unit start.host) := ⟨copied, rfl⟩
    have final := initial.run calls
    rw [modes_after] at final
    exact final
  refine ⟨modes, fun mode last => ?_⟩
  have stored : ∀ unit, (FloatControlCall.run unit start calls).host &&& unit.roundMask =
      unit.guestToHost mode := by
    intro unit
    have rounding := congrArg FloatModes.rounding (modes unit).holds
    rw [lastAsked, last] at rounding
    exact rounding
  unfold FloatControl.loadFromHost
  rw [stored x86, stored aarch64]
  exact ⟨x86_readsBack mode, aarch64_readsBack mode⟩

theorem floatControl_run_upwards :
    ((FloatControlCall.run aarch64 ⟨0, 0⟩
      [.storeFromGuest 2, .enableFlushMode]).loadFromHost aarch64).1 = 3 :=
  ((@floatControl_run ⟨0, 0⟩ rfl [.storeFromGuest 2, .enableFlushMode]).2 2 rfl).2

end BumpinHost.Guest
