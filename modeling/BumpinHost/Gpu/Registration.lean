import BumpinHost.Gpu.Frame
import BumpinHost.Gpu.ScanRuns

/-!
# Registering a ring from inside the scan

An `INTERRUPT` packet runs guest code on the pump thread, which holds the recursive
lock of the tracer, and that code may register another ring.  The frame goes on with
what it read before: it finishes the scan of the old ring, stores the offset where
that scan stopped as the offset to resume from, and publishes it.
-/

namespace BumpinHost.Gpu

open Memory

variable {Guest : Type}

/-- What a registration sets and a frame resumes from. -/
structure RingFields where
  base : Word
  size : Word
  parsed : Word
deriving DecidableEq, Repr

def ringFields (m : Machine Guest) : RingFields :=
  ⟨m.ringBufferBase, m.ringBufferSize, m.lastParsedOffset⟩

/-- The fields after `RegisterRingBuffer`, whatever they were before. -/
def newRing (physAddr sizeLog2Raw : Word) : RingFields :=
  ⟨physAddr, (1 : Word) <<< (sizeLog2Raw + 3).toNat, 0⟩

theorem ringFields_registerRingBuffer (m : Machine Guest) (physAddr sizeLog2Raw : Word) :
    ringFields (registerRingBuffer m physAddr sizeLog2Raw) = newRing physAddr sizeLog2Raw :=
  rfl

/-- The packet is an `INTERRUPT` that calls the registered callback. -/
def CallsBack (m : Machine Guest) (bufferAddr offsetBytes header : Word) : Prop :=
  packetType header ≠ 0x2 ∧ packetType header ≠ 0x0 ∧
    packetOpcode header = kOpcodeInterrupt ∧ packetCount header = 1 ∧
      loadU32 m.mem (bufferAddr + offsetBytes + 4) ≠ 0 ∧ m.graphicsInterruptCallback ≠ 0

/-- The machine when the graphics interrupt callback has returned. -/
def afterCallback (env : Env Guest) (m : Machine Guest) : Machine Guest :=
  env.callIndirect m.graphicsInterruptCallback
    { m with ctx := ⟨1, m.graphicsInterruptContext.setWidth 64⟩ }

theorem drawIndx2_ringFields (env : Env Guest) (m : Machine Guest)
    (bufferAddr offsetBytes count : Word) :
    ringFields (drawIndx2 env m bufferAddr offsetBytes count) = ringFields m := by
  unfold drawIndx2
  dsimp only
  split
  · rfl
  · rfl

theorem executeInterrupt_fst (env : Env Guest) (m : Machine Guest)
    (bufferAddr offsetBytes : Word) :
    (executeInterrupt env m bufferAddr offsetBytes).1 =
      if loadU32 m.mem (bufferAddr + offsetBytes + 4) ≠ 0 ∧ m.graphicsInterruptCallback ≠ 0
      then afterCallback env m else m := by
  simp only [executeInterrupt, afterCallback]
  split_ifs
  · rfl
  · rfl

/-- A packet that neither starts a nested scan nor calls back leaves the registration. -/
theorem executePacket_ringFields {env : Env Guest}
    {nested : Machine Guest → Word → Word → Int → Option (ScanOutcome Guest)}
    {m : Machine Guest} {bufferAddr offsetBytes header : Word} {depth : Int}
    {body : Machine Guest × ScanTrace} (notFollowed : ¬ IsFollowed header depth)
    (silent : ¬ CallsBack m bufferAddr offsetBytes header)
    (executed : executePacket env nested m bufferAddr offsetBytes header depth = some body) :
    ringFields body.1 = ringFields m := by
  unfold executePacket at executed
  by_cases filler : packetType header = 0x2
  · rw [if_pos filler] at executed
    obtain rfl := Option.some.inj executed
    rfl
  by_cases type0 : packetType header = 0x0
  · rw [if_neg filler, if_pos type0] at executed
    obtain rfl := Option.some.inj executed
    rfl
  rw [if_neg filler, if_neg type0] at executed
  unfold executeType3 at executed
  by_cases indirect : packetOpcode header = kOpcodeIndirectBuffer
  · have ignored : ¬ (packetCount header = 2 ∧ depth < kMaxIndirectDepth) :=
      fun both => notFollowed ⟨filler, type0, indirect, both.1, both.2⟩
    simp only [if_pos indirect, if_neg ignored] at executed
    obtain rfl := Option.some.inj executed
    rfl
  by_cases interrupt : packetOpcode header = kOpcodeInterrupt
  · have notEvent : packetOpcode header ≠ kOpcodeEventWriteShd := by
      rw [interrupt]
      decide
    simp only [if_neg indirect, if_neg notEvent, if_pos interrupt] at executed
    by_cases single : packetCount header = 1
    · have masked : ¬ (loadU32 m.mem (bufferAddr + offsetBytes + 4) ≠ 0 ∧
          m.graphicsInterruptCallback ≠ 0) :=
        fun both => silent ⟨filler, type0, interrupt, single, both.1, both.2⟩
      rw [if_pos single] at executed
      obtain rfl := Option.some.inj executed
      rw [executeInterrupt_fst, if_neg masked]
    · rw [if_neg single] at executed
      obtain rfl := Option.some.inj executed
      rfl
  · simp only [if_neg indirect, if_neg interrupt] at executed
    split_ifs at executed
    all_goals obtain rfl := Option.some.inj executed
    all_goals first | rfl | exact drawIndx2_ringFields env m _ _ _

theorem executePacket_callsBack {env : Env Guest}
    {nested : Machine Guest → Word → Word → Int → Option (ScanOutcome Guest)}
    {m : Machine Guest} {bufferAddr offsetBytes header : Word} {depth : Int}
    {body : Machine Guest × ScanTrace}
    (calls : CallsBack m bufferAddr offsetBytes header)
    (executed : executePacket env nested m bufferAddr offsetBytes header depth = some body) :
    body.1 = afterCallback env m := by
  obtain ⟨notFiller, notType0, interrupt, single, mask, callback⟩ := calls
  have notIndirect : packetOpcode header ≠ kOpcodeIndirectBuffer := by
    rw [interrupt]
    decide
  have notEvent : packetOpcode header ≠ kOpcodeEventWriteShd := by
    rw [interrupt]
    decide
  simp only [executePacket, executeType3, if_neg notFiller, if_neg notType0,
    if_neg notIndirect, if_neg notEvent, if_pos interrupt, if_pos single] at executed
  obtain rfl := Option.some.inj executed
  rw [executeInterrupt_fst, if_pos ⟨mask, callback⟩]

theorem CallsBack.not_isFollowed {m : Machine Guest} {bufferAddr offsetBytes header : Word}
    {depth : Int} (calls : CallsBack m bufferAddr offsetBytes header) :
    ¬ IsFollowed header depth := by
  intro followed
  have opcode := followed.2.2.1
  rw [calls.2.2.1] at opcode
  exact absurd opcode (by decide)

theorem Executes.ringFields {env : Env Guest} {m : Machine Guest}
    {bufferAddr offsetBytes header : Word} {depth : Int} {body : Machine Guest × ScanTrace}
    (executed : Executes env m bufferAddr offsetBytes header depth body)
    (notFollowed : ¬ IsFollowed header depth)
    (silent : ¬ CallsBack m bufferAddr offsetBytes header) :
    ringFields body.1 = ringFields m := by
  obtain ⟨fuel, bodyEq⟩ := executed
  exact executePacket_ringFields notFollowed silent bodyEq

theorem Executes.callsBack {env : Env Guest} {m : Machine Guest}
    {bufferAddr offsetBytes header : Word} {depth : Int} {body : Machine Guest × ScanTrace}
    (executed : Executes env m bufferAddr offsetBytes header depth body)
    (calls : CallsBack m bufferAddr offsetBytes header) : body.1 = afterCallback env m := by
  obtain ⟨fuel, bodyEq⟩ := executed
  exact executePacket_callsBack calls bodyEq

/-- Guest code changes the registration only by registering the new ring. -/
def OnlyRegisters (env : Env Guest) (physAddr sizeLog2Raw : Word) : Prop :=
  ∀ callback m, ringFields (env.callIndirect callback m) = ringFields m ∨
    ringFields (env.callIndirect callback m) = newRing physAddr sizeLog2Raw

namespace Round

variable {env : Env Guest} {physAddr sizeLog2Raw : Word}

/-- The callback this round's packet calls leaves the new ring registered. -/
def Registers (env : Env Guest) (physAddr sizeLog2Raw : Word) (round : Round Guest) : Prop :=
  ∃ header, round.ActsOn header ∧
    CallsBack round.machine round.bufferAddr round.offset header ∧
      ringFields (afterCallback env round.machine) = newRing physAddr sizeLog2Raw

/-- A callback of the run registers the new ring. -/
def RunRegisters (env : Env Guest) (physAddr sizeLog2Raw : Word) (first : Round Guest) :
    Prop :=
  ∃ round, Reaches env first round ∧ round.Registers env physAddr sizeLog2Raw

theorem not_runRegisters_of_stops {round : Round Guest}
    (stops : packetAt round.machine.mem round.bufferAddr round.offset round.size = none) :
    ¬ RunRegisters env physAddr sizeLog2Raw round := by
  have still {header : Word} (acts : round.ActsOn header) : False := by
    rw [ActsOn, stops] at acts
    cases acts
  rintro ⟨last, reaches, header, acts, -⟩
  rcases Relation.ReflTransGen.cases_head reaches with rfl | ⟨next, step, -⟩
  · exact still acts
  · cases step with
    | nested found _ => exact still found
    | after found _ => exact still found

/-- A run registers in its first packet, in the scan nested there, or later. -/
theorem runRegisters_iff {round : Round Guest} {header : Word}
    {body : Machine Guest × ScanTrace} (acts : round.ActsOn header)
    (executed : Executes env round.machine round.bufferAddr round.offset header
      round.depth body) :
    RunRegisters env physAddr sizeLog2Raw round ↔
      round.Registers env physAddr sizeLog2Raw ∨
      (IsFollowed header round.depth ∧
        RunRegisters env physAddr sizeLog2Raw round.nested) ∨
      RunRegisters env physAddr sizeLog2Raw (round.after header body.1) := by
  constructor
  · rintro ⟨last, reaches, registers⟩
    rcases Relation.ReflTransGen.cases_head reaches with rfl | ⟨next, step, later⟩
    · exact .inl registers
    · cases step with
      | nested found followed =>
          obtain rfl := Option.some.inj (found.symm.trans acts)
          exact .inr (.inl ⟨followed, last, later, registers⟩)
      | after found other =>
          obtain rfl := Option.some.inj (found.symm.trans acts)
          obtain rfl := other.unique executed
          exact .inr (.inr ⟨last, later, registers⟩)
  · rintro (registers | ⟨followed, last, reaches, registers⟩ | ⟨last, reaches, registers⟩)
    · exact ⟨round, .refl, registers⟩
    · exact ⟨last, .head (.nested acts followed) reaches, registers⟩
    · exact ⟨last, .head (.after acts executed) reaches, registers⟩

/-- Whether a scan ends with the new ring registered, or with what it found. -/
def RegistersOrKeeps (env : Env Guest) (physAddr sizeLog2Raw : Word) (round : Round Guest)
    (outcome : ScanOutcome Guest) : Prop :=
  (RunRegisters env physAddr sizeLog2Raw round →
    ringFields outcome.machine = newRing physAddr sizeLog2Raw) ∧
  (¬ RunRegisters env physAddr sizeLog2Raw round →
    ringFields outcome.machine = ringFields round.machine)

/-- A scan that finds the new ring registered leaves it so. -/
theorem RegistersOrKeeps.of_registered {round : Round Guest} {outcome : ScanOutcome Guest}
    (either : RegistersOrKeeps env physAddr sizeLog2Raw round outcome)
    (registered : ringFields round.machine = newRing physAddr sizeLog2Raw) :
    ringFields outcome.machine = newRing physAddr sizeLog2Raw := by
  by_cases registers : RunRegisters env physAddr sizeLog2Raw round
  · exact either.1 registers
  · rw [either.2 registers, registered]

/-- What one packet does: a nested scan and a callback register or keep, every other
packet keeps. -/
theorem body_registersOrKeeps (only : OnlyRegisters env physAddr sizeLog2Raw)
    {round : Round Guest} {header : Word} {body : Machine Guest × ScanTrace}
    (acts : round.ActsOn header)
    (executed : Executes env round.machine round.bufferAddr round.offset header
      round.depth body)
    (within : IsFollowed header round.depth → ∃ inner : ScanOutcome Guest,
      body.1 = inner.machine ∧
        RegistersOrKeeps env physAddr sizeLog2Raw round.nested inner) :
    (round.Registers env physAddr sizeLog2Raw ∨
        IsFollowed header round.depth ∧
          RunRegisters env physAddr sizeLog2Raw round.nested →
      ringFields body.1 = newRing physAddr sizeLog2Raw) ∧
    (¬ (round.Registers env physAddr sizeLog2Raw ∨
        IsFollowed header round.depth ∧
          RunRegisters env physAddr sizeLog2Raw round.nested) →
      ringFields body.1 = ringFields round.machine) := by
  have callsOf : round.Registers env physAddr sizeLog2Raw →
      CallsBack round.machine round.bufferAddr round.offset header := by
    rintro ⟨other, found, calls, -⟩
    obtain rfl := Option.some.inj (found.symm.trans acts)
    exact calls
  by_cases followed : IsFollowed header round.depth
  · obtain ⟨inner, bodyEq, either⟩ := within followed
    rw [bodyEq]
    constructor
    · rintro (registers | ⟨-, registers⟩)
      · exact absurd followed (callsOf registers).not_isFollowed
      · exact either.1 registers
    · intro neither
      exact either.2 fun registers => neither (.inr ⟨followed, registers⟩)
  by_cases calls : CallsBack round.machine round.bufferAddr round.offset header
  · rw [executed.callsBack calls]
    constructor
    · rintro (⟨other, _, _, registered⟩ | ⟨nestedScan, -⟩)
      · exact registered
      · exact absurd nestedScan followed
    · intro neither
      rcases only round.machine.graphicsInterruptCallback
          { round.machine with ctx := ⟨1, round.machine.graphicsInterruptContext.setWidth 64⟩ }
        with kept | registered
      · exact kept
      · exact absurd (.inl ⟨header, acts, calls, registered⟩) neither
  · constructor
    · rintro (registers | ⟨nestedScan, -⟩)
      · exact absurd (callsOf registers) calls
      · exact absurd nestedScan followed
    · exact fun _ => executed.ringFields followed calls

/-- A scan ends with the new ring registered exactly when a callback of its run
registers it; otherwise the registration is the one it found. -/
theorem Returns.registersOrKeeps (only : OnlyRegisters env physAddr sizeLog2Raw)
    {first : Round Guest} {outcome : ScanOutcome Guest} (returns : Returns env first outcome) :
    RegistersOrKeeps env physAddr sizeLog2Raw first outcome := by
  refine returns.rounds (motive := RegistersOrKeeps env physAddr sizeLog2Raw) ?_ ?_
  · intro round stops
    have never : ¬ RunRegisters env physAddr sizeLog2Raw round :=
      not_runRegisters_of_stops stops
    exact ⟨fun registers => absurd registers never, fun _ => rfl⟩
  · intro round header body rest acts executed within later
    have bodyEither := body_registersOrKeeps only acts executed within
    have split : RunRegisters env physAddr sizeLog2Raw round ↔ _ :=
      runRegisters_iff acts executed
    constructor
    · intro registers
      rcases split.mp registers with own | nestedScan | afterwards
      · exact later.of_registered (bodyEither.1 (.inl own))
      · exact later.of_registered (bodyEither.1 (.inr nestedScan))
      · exact later.1 afterwards
    · intro silent
      have kept := bodyEither.2 fun either =>
        silent (split.mpr (either.elim .inl fun nestedScan => .inr (.inl nestedScan)))
      have rest := later.2 fun afterwards => silent (split.mpr (.inr (.inr afterwards)))
      exact rest.trans kept

end Round

/-- The first round of the scan a frame starts with. -/
def tailRound (m : Machine Guest) : Round Guest :=
  ⟨m, m.ringBufferBase, m.lastParsedOffset, (scanPlan m).scanBound, 0⟩

/-- The first round of the scan after a wrap. -/
def headRound (m : Machine Guest) (plan : ScanPlan) : Round Guest :=
  ⟨m, m.ringBufferBase, 0, plan.wrapTargetBytes, 0⟩

def systemRound (m : Machine Guest) : Round Guest :=
  ⟨m, m.systemCmdBufAddr, m.systemCmdBufLastOffset, m.systemCmdBufSize, 0⟩

/-- A frame that returned: what the scans of the ring and of the system command buffer
came back with. -/
structure FrameRun (env : Env Guest) (m : Machine Guest) where
  fuel : Nat
  ring : ScanOutcome Guest
  ringScanned : scanRing env fuel (beginFrame m) = some ring
  system : Machine Guest × ScanTrace
  systemScanned :
    scanSystemCommandBuffer env fuel (finishRing ring.machine ring.offset) = some system

namespace FrameRun

variable {env : Env Guest} {m : Machine Guest} {physAddr sizeLog2Raw : Word}

/-- The machine after the frame. -/
def final (run : FrameRun env m) : Machine Guest :=
  writeReadPointer run.system.1 run.ring.offset

theorem scanAndTraceFrame_eq (run : FrameRun env m) :
    scanAndTraceFrame env run.fuel m = some (run.final, run.ring.trace ++ run.system.2) := by
  rw [scanAndTraceFrame, run.ringScanned, Option.bind_some, run.systemScanned,
    Option.map_some]
  rfl

/-- Every frame that returns is such a run. -/
theorem exists_of_scanAndTraceFrame {fuel : Nat} {result : Machine Guest × ScanTrace}
    (scanned : scanAndTraceFrame env fuel m = some result) :
    ∃ run : FrameRun env m, result = (run.final, run.ring.trace ++ run.system.2) := by
  obtain ⟨ring, ringScanned, continued⟩ := Option.bind_eq_some_iff.mp scanned
  obtain ⟨system, systemScanned, resultEq⟩ := Option.map_eq_some_iff.mp continued
  exact ⟨⟨fuel, ring, ringScanned, system, systemScanned⟩, resultEq.symm⟩

/-- A callback of the ring scan registers the new ring. -/
def RingRegisters (env : Env Guest) (physAddr sizeLog2Raw : Word) (m : Machine Guest) : Prop :=
  (tailRound m).RunRegisters env physAddr sizeLog2Raw ∨
    ∃ tail, (tailRound m).Returns env tail ∧
      followsWrap (scanPlan m) m.lastParsedOffset tail.offset = true ∧
        (headRound tail.machine (scanPlan m)).RunRegisters env physAddr sizeLog2Raw

/-- A callback of the scan of the system command buffer registers the new ring. -/
def SystemRegisters (env : Env Guest) (physAddr sizeLog2Raw : Word) (m : Machine Guest) :
    Prop :=
  m.systemCmdBufAddr ≠ 0 ∧ (systemRound m).RunRegisters env physAddr sizeLog2Raw

/-- The ring scan registers the new ring or keeps what it finds. -/
theorem scanRing_ringFields (only : OnlyRegisters env physAddr sizeLog2Raw) {fuel : Nat}
    {ring : ScanOutcome Guest} (scanned : scanRing env fuel m = some ring) :
    (RingRegisters env physAddr sizeLog2Raw m →
      ringFields ring.machine = newRing physAddr sizeLog2Raw) ∧
    (¬ RingRegisters env physAddr sizeLog2Raw m →
      ringFields ring.machine = ringFields m) := by
  obtain ⟨tail, tailEq, continued⟩ := Option.bind_eq_some_iff.mp scanned
  have tailReturns : (tailRound m).Returns env tail := ⟨fuel, tailEq⟩
  have tailEither : (tailRound m).RegistersOrKeeps env physAddr sizeLog2Raw tail :=
    tailReturns.registersOrKeeps only
  cases follows : followsWrap (scanPlan m) m.lastParsedOffset tail.offset with
  | false =>
      simp only [follows] at continued
      obtain rfl := Option.some.inj continued
      constructor
      · rintro (inTail | ⟨other, returns, followsOther, -⟩)
        · exact tailEither.1 inTail
        · obtain rfl := returns.unique tailReturns
          rw [follows] at followsOther
          cases followsOther
      · exact fun silent => tailEither.2 fun inTail => silent (.inl inTail)
  | true =>
      simp only [follows] at continued
      obtain ⟨head, headEq, ringEq⟩ := Option.map_eq_some_iff.mp continued
      have headReturns : (headRound tail.machine (scanPlan m)).Returns env head :=
        ⟨fuel, headEq⟩
      have headEither : (headRound tail.machine (scanPlan m)).RegistersOrKeeps env physAddr
          sizeLog2Raw head := headReturns.registersOrKeeps only
      subst ringEq
      constructor
      · rintro (inTail | ⟨other, returns, -, inHead⟩)
        · exact headEither.of_registered (tailEither.1 inTail)
        · obtain rfl := returns.unique tailReturns
          exact headEither.1 inHead
      · intro silent
        have keptTail := tailEither.2 fun inTail => silent (.inl inTail)
        have keptHead := headEither.2 fun inHead =>
          silent (.inr ⟨tail, tailReturns, follows, inHead⟩)
        exact keptHead.trans keptTail

/-- The scan of the system command buffer registers the new ring or keeps what it finds. -/
theorem scanSystemCommandBuffer_ringFields (only : OnlyRegisters env physAddr sizeLog2Raw)
    {fuel : Nat} {system : Machine Guest × ScanTrace}
    (scanned : scanSystemCommandBuffer env fuel m = some system) :
    (SystemRegisters env physAddr sizeLog2Raw m →
      ringFields system.1 = newRing physAddr sizeLog2Raw) ∧
    (¬ SystemRegisters env physAddr sizeLog2Raw m → ringFields system.1 = ringFields m) := by
  unfold scanSystemCommandBuffer at scanned
  by_cases present : m.systemCmdBufAddr ≠ 0
  · rw [if_pos present] at scanned
    obtain ⟨outcome, outcomeEq, systemEq⟩ := Option.map_eq_some_iff.mp scanned
    subst systemEq
    have returns : (systemRound m).Returns env outcome := ⟨fuel, outcomeEq⟩
    have either : (systemRound m).RegistersOrKeeps env physAddr sizeLog2Raw outcome :=
      returns.registersOrKeeps only
    exact ⟨fun registers => either.1 registers.2,
      fun silent => either.2 fun registers => silent ⟨present, registers⟩⟩
  · rw [if_neg present] at scanned
    obtain rfl := Option.some.inj scanned
    exact ⟨fun registers => absurd registers.1 present, fun _ => rfl⟩

theorem ringFields_final (run : FrameRun env m) :
    ringFields run.final = ringFields run.system.1 := by
  unfold final writeReadPointer
  split_ifs
  · rfl
  · rfl

theorem rptrWriteBackAddr_final (run : FrameRun env m) :
    run.final.rptrWriteBackAddr = run.system.1.rptrWriteBackAddr := by
  unfold final writeReadPointer
  split_ifs
  · rfl
  · rfl

/-- What a frame publishes is where its ring scan stopped. -/
theorem published_final (run : FrameRun env m) (published : run.final.rptrWriteBackAddr ≠ 0) :
    loadU32 run.final.mem run.final.rptrWriteBackAddr = run.ring.offset / 4 := by
  rw [rptrWriteBackAddr_final] at published ⊢
  rw [final, writeReadPointer, if_pos published]
  exact loadU32_storeU32_same _ _ _

end FrameRun

/-- The ring is no longer than a registration can make it, and the scan resumes at an
offset such a ring can have. -/
structure SmallRing (m : Machine Guest) : Prop where
  size : m.ringBufferSize.toNat ≤ 2 ^ 31
  parsed : m.lastParsedOffset.toNat ≤ 2 ^ 31

theorem newRing_size_le (physAddr sizeLog2Raw : Word) :
    (newRing physAddr sizeLog2Raw).size.toNat ≤ 2 ^ 31 := by
  have one : (1 : Word).toNat = 1 := rfl
  simp only [newRing, BitVec.toNat_shiftLeft, one, Nat.shiftLeft_eq, one_mul]
  rcases Nat.lt_or_ge (sizeLog2Raw + 3).toNat 32 with small | large
  · exact (Nat.mod_le _ _).trans (Nat.pow_le_pow_right (by decide) (by omega))
  · rw [Nat.mod_eq_zero_of_dvd (pow_dvd_pow 2 large)]
    exact Nat.zero_le _

theorem SmallRing.initial (mem : Memory) (guest : Guest) :
    SmallRing (Machine.initial mem guest) :=
  ⟨Nat.zero_le _, Nat.zero_le _⟩

theorem SmallRing.registerRingBuffer (m : Machine Guest) (physAddr sizeLog2Raw : Word) :
    SmallRing (registerRingBuffer m physAddr sizeLog2Raw) :=
  ⟨newRing_size_le physAddr sizeLog2Raw, Nat.zero_le _⟩

theorem SmallRing.scanBound_le {m : Machine Guest} (small : SmallRing m) :
    (scanPlan m).scanBound.toNat ≤ 2 ^ 31 := by
  have sizeLe := small.size
  unfold scanPlan
  dsimp only
  split_ifs with _ inside
  · rw [BitVec.toNat_ofNat]
    exact (Nat.mod_le _ _).trans (inside.2.trans sizeLe)
  all_goals exact sizeLe

theorem SmallRing.wrapTargetBytes_le {m : Machine Guest} (small : SmallRing m) :
    (scanPlan m).wrapTargetBytes.toNat ≤ 2 ^ 31 := by
  have parsedLe := small.parsed
  unfold scanPlan
  dsimp only
  split_ifs with _ _ behind
  · exact Nat.zero_le _
  · rw [BitVec.toNat_ofNat]
    exact (Nat.mod_le _ _).trans (by omega)
  all_goals exact Nat.zero_le _

/-- Below 2^31 a scan never moves back and never gets past 2^31. -/
theorem Round.Returns.offset_le {env : Env Guest} {round : Round Guest}
    {outcome : ScanOutcome Guest} (returns : round.Returns env outcome)
    (offsetLe : round.offset.toNat ≤ 2 ^ 31) (sizeLe : round.size.toNat ≤ 2 ^ 31) :
    round.offset ≤ outcome.offset ∧ outcome.offset.toNat ≤ 2 ^ 31 := by
  revert offsetLe
  refine Scans.rounds
    (motive := fun _ offset outcome => offset.toNat ≤ 2 ^ 31 →
      offset ≤ outcome.offset ∧ outcome.offset.toNat ≤ 2 ^ 31) returns ?_ ?_
  · intro m offset _ offsetLe
    exact ⟨BitVec.le_refl _, offsetLe⟩
  · intro m offset header body rest found _ _ ih offsetLe
    have inside := packetAt_offset_le offsetLe found
    have advance := packetAt_advance inside sizeLe found
    have positive := packetBytes_pos header
    obtain ⟨lower, upper⟩ := ih (by bv_omega)
    exact ⟨by bv_omega, upper⟩

/-- A scan that acts on a packet moves on. -/
theorem Round.Returns.offset_lt {env : Env Guest} {round : Round Guest} {header : Word}
    {outcome : ScanOutcome Guest} (returns : round.Returns env outcome)
    (acts : round.ActsOn header)
    (offsetLe : round.offset.toNat ≤ 2 ^ 31) (sizeLe : round.size.toNat ≤ 2 ^ 31) :
    round.offset < outcome.offset := by
  obtain ⟨body, rest, -, continued, rfl⟩ := Scans.of_some returns acts
  have inside := packetAt_offset_le offsetLe acts
  have advance := packetAt_advance inside sizeLe acts
  have positive := packetBytes_pos header
  have later : (round.after header body.1).Returns env rest := continued
  have lower := (later.offset_le (by simp only [Round.after]; bv_omega) sizeLe).1
  simp only [Round.after] at lower
  bv_omega

/-- A run that registers acts on its first packet. -/
theorem Round.RunRegisters.acts {env : Env Guest} {physAddr sizeLog2Raw : Word}
    {round : Round Guest} (registers : round.RunRegisters env physAddr sizeLog2Raw) :
    ∃ header, round.ActsOn header := by
  cases found : packetAt round.machine.mem round.bufferAddr round.offset round.size with
  | none => exact absurd registers (not_runRegisters_of_stops found)
  | some header => exact ⟨header, found⟩

namespace FrameRun

variable {env : Env Guest} {m : Machine Guest} {physAddr sizeLog2Raw : Word}

/-- A tail in which the new ring is registered has moved on, so no wrap is followed. -/
theorem not_followsWrap_of_registers (small : SmallRing m) {tail : ScanOutcome Guest}
    (returns : (tailRound m).Returns env tail)
    (registers : (tailRound m).RunRegisters env physAddr sizeLog2Raw) :
    followsWrap (scanPlan m) m.lastParsedOffset tail.offset = false := by
  obtain ⟨header, acts⟩ := registers.acts
  have moved : m.lastParsedOffset < tail.offset :=
    returns.offset_lt acts small.parsed small.scanBound_le
  have different : tail.offset ≠ m.lastParsedOffset := by bv_omega
  rw [followsWrap, beq_false_of_ne different, Bool.and_false]

/-- A ring scan in which the new ring is registered stops beyond the ring's start. -/
theorem scanRing_offset_ne_zero (small : SmallRing m) {fuel : Nat}
    {ring : ScanOutcome Guest} (scanned : scanRing env fuel m = some ring)
    (registers : RingRegisters env physAddr sizeLog2Raw m) : ring.offset ≠ 0 := by
  obtain ⟨tail, tailEq, continued⟩ := Option.bind_eq_some_iff.mp scanned
  have tailReturns : (tailRound m).Returns env tail := ⟨fuel, tailEq⟩
  rcases registers with inTail | ⟨other, returns, follows, inHead⟩
  · have stays := not_followsWrap_of_registers small tailReturns inTail
    simp only [stays] at continued
    obtain rfl := Option.some.inj continued
    obtain ⟨header, acts⟩ := inTail.acts
    have moved := tailReturns.offset_lt acts small.parsed small.scanBound_le
    bv_omega
  · obtain rfl := returns.unique tailReturns
    simp only [follows] at continued
    obtain ⟨head, headEq, ringEq⟩ := Option.map_eq_some_iff.mp continued
    subst ringEq
    have headReturns : (headRound other.machine (scanPlan m)).Returns env head :=
      ⟨fuel, headEq⟩
    obtain ⟨header, acts⟩ := inHead.acts
    have moved := headReturns.offset_lt acts (Nat.zero_le _) small.wrapTargetBytes_le
    simp only [headRound] at moved
    bv_omega

/-- A scan of the new ring from its start, which the frame made after the registration,
came back with this offset. -/
def ScannedFromStart (env : Env Guest) (physAddr sizeLog2Raw : Word) (m : Machine Guest)
    (offset : Word) : Prop :=
  ∃ tail head, (tailRound m).Returns env tail ∧
    (tailRound m).RunRegisters env physAddr sizeLog2Raw ∧
    followsWrap (scanPlan m) m.lastParsedOffset tail.offset = true ∧
    (headRound tail.machine (scanPlan m)).Returns env head ∧ offset = head.offset

/-- After the frame the new ring is the registered one, its scan resumes at an offset
that scanning it from the start has reached, and what the frame publishes, if it
publishes a read pointer, is not where the scan of the old ring stopped. -/
structure KeepsRegistration (physAddr sizeLog2Raw : Word) (run : FrameRun env m) : Prop where
  base : run.final.ringBufferBase = (newRing physAddr sizeLog2Raw).base
  size : run.final.ringBufferSize = (newRing physAddr sizeLog2Raw).size
  parsed : run.final.lastParsedOffset = 0 ∨
    ScannedFromStart env physAddr sizeLog2Raw (beginFrame m) run.final.lastParsedOffset
  parsedLe : run.final.lastParsedOffset ≤ run.final.ringBufferSize
  published : run.final.rptrWriteBackAddr = 0 ∨
    ScannedFromStart env physAddr sizeLog2Raw (beginFrame m) run.ring.offset

theorem not_scannedFromStart (small : SmallRing m) (offset : Word) :
    ¬ ScannedFromStart env physAddr sizeLog2Raw m offset := by
  rintro ⟨tail, head, returns, registers, follows, -⟩
  rw [not_followsWrap_of_registers small returns registers] at follows
  cases follows

/-- The registration is in place when the scan of the system command buffer starts. -/
theorem registered_beforeSystem (only : OnlyRegisters env physAddr sizeLog2Raw)
    (run : FrameRun env m)
    (registers : RingRegisters env physAddr sizeLog2Raw (beginFrame m)) :
    ringFields (finishRing run.ring.machine run.ring.offset) =
      ⟨(newRing physAddr sizeLog2Raw).base, (newRing physAddr sizeLog2Raw).size,
        run.ring.offset⟩ := by
  have registered := (scanRing_ringFields only run.ringScanned).1 registers
  simp only [ringFields, RingFields.mk.injEq, finishRing, newRing] at registered ⊢
  exact ⟨registered.1, registered.2.1, trivial⟩

/-- A registration from inside the scan survives the frame exactly when a callback of the
system command buffer makes it and no read pointer is written back. -/
theorem keepsRegistration_iff (only : OnlyRegisters env physAddr sizeLog2Raw)
    (small : SmallRing m) (run : FrameRun env m)
    (registers : RingRegisters env physAddr sizeLog2Raw (beginFrame m) ∨
      SystemRegisters env physAddr sizeLog2Raw
        (finishRing run.ring.machine run.ring.offset)) :
    run.KeepsRegistration physAddr sizeLog2Raw ↔
      SystemRegisters env physAddr sizeLog2Raw
          (finishRing run.ring.machine run.ring.offset) ∧
        run.system.1.rptrWriteBackAddr = 0 := by
  have begun : SmallRing (beginFrame m) := ⟨small.size, small.parsed⟩
  have system := scanSystemCommandBuffer_ringFields only run.systemScanned
  constructor
  · intro keeps
    have parsedZero := keeps.parsed.resolve_right (not_scannedFromStart begun _)
    have unpublished := keeps.published.resolve_right (not_scannedFromStart begun _)
    rw [rptrWriteBackAddr_final] at unpublished
    refine ⟨?_, unpublished⟩
    -- otherwise the offset of the old ring is what the scan resumes from
    by_contra silent
    have inRing := registers.resolve_right silent
    have moved := scanRing_offset_ne_zero begun run.ringScanned inRing
    have fields := run.ringFields_final.trans
      ((system.2 silent).trans (registered_beforeSystem only run inRing))
    have parsedEq : run.final.lastParsedOffset = run.ring.offset :=
      congrArg RingFields.parsed fields
    exact moved (parsedEq.symm.trans parsedZero)
  · rintro ⟨inSystem, unpublished⟩
    have fields := run.ringFields_final.trans (system.1 inSystem)
    have parsedEq : run.final.lastParsedOffset = 0 := congrArg RingFields.parsed fields
    refine ⟨congrArg RingFields.base fields, congrArg RingFields.size fields, .inl parsedEq,
      ?_, .inl (run.rptrWriteBackAddr_final.trans unpublished)⟩
    rw [parsedEq]
    exact Nat.zero_le _

theorem scanRing_offset_le (small : SmallRing m) {fuel : Nat} {ring : ScanOutcome Guest}
    (scanned : scanRing env fuel m = some ring) : ring.offset.toNat ≤ 2 ^ 31 := by
  obtain ⟨tail, tailEq, continued⟩ := Option.bind_eq_some_iff.mp scanned
  have tailReturns : (tailRound m).Returns env tail := ⟨fuel, tailEq⟩
  cases follows : followsWrap (scanPlan m) m.lastParsedOffset tail.offset with
  | false =>
      simp only [follows] at continued
      obtain rfl := Option.some.inj continued
      exact (tailReturns.offset_le small.parsed small.scanBound_le).2
  | true =>
      simp only [follows] at continued
      obtain ⟨head, headEq, ringEq⟩ := Option.map_eq_some_iff.mp continued
      subst ringEq
      have headReturns : (headRound tail.machine (scanPlan m)).Returns env head :=
        ⟨fuel, headEq⟩
      exact (headReturns.offset_le (Nat.zero_le _) small.wrapTargetBytes_le).2

/-- Rings stay small over a frame. -/
theorem smallRing_final (only : OnlyRegisters env physAddr sizeLog2Raw) (small : SmallRing m)
    (run : FrameRun env m) : SmallRing run.final := by
  have begun : SmallRing (beginFrame m) := ⟨small.size, small.parsed⟩
  have newSize := newRing_size_le physAddr sizeLog2Raw
  have system := scanSystemCommandBuffer_ringFields only run.systemScanned
  by_cases inSystem : SystemRegisters env physAddr sizeLog2Raw
      (finishRing run.ring.machine run.ring.offset)
  · have fields := run.ringFields_final.trans (system.1 inSystem)
    have sizeEq := congrArg RingFields.size fields
    have parsedEq := congrArg RingFields.parsed fields
    simp only [ringFields] at sizeEq parsedEq
    exact ⟨by rw [sizeEq]; exact newSize, by rw [parsedEq]; exact Nat.zero_le _⟩
  · have fields := run.ringFields_final.trans (system.2 inSystem)
    have sizeEq := congrArg RingFields.size fields
    have parsedEq := congrArg RingFields.parsed fields
    simp only [ringFields, finishRing] at sizeEq parsedEq
    have ring := scanRing_ringFields only run.ringScanned
    have ringSize : run.ring.machine.ringBufferSize.toNat ≤ 2 ^ 31 := by
      by_cases inRing : RingRegisters env physAddr sizeLog2Raw (beginFrame m)
      · have kept := congrArg RingFields.size (ring.1 inRing)
        simp only [ringFields] at kept
        rw [kept]
        exact newSize
      · have kept := congrArg RingFields.size (ring.2 inRing)
        simp only [ringFields] at kept
        rw [kept]
        exact begun.size
    refine ⟨by rw [sizeEq]; exact ringSize, ?_⟩
    rw [parsedEq]
    exact scanRing_offset_le begun run.ringScanned

/-- Ring memory with one `INTERRUPT` packet at `0x1000`. -/
def interruptMemory : Memory := storeU32 (storeU32 (fun _ => 0) 0x1000 0xC0005400) 0x1004 1

/-- A callback that registers an empty ring at `0x200000`. -/
def registeringEnv : Env Unit :=
  { (Env.idle : Env Unit) with
    callIndirect := fun _ m => registerRingBuffer m 0x200000 10 }

def interruptingMachine : Machine Unit :=
  { registerRingBuffer (.initial interruptMemory ()) 0x1000 10 with
    graphicsInterruptCallback := 0x82000000 }

def interruptedFrame : FrameRun registeringEnv interruptingMachine where
  fuel := 2
  ring := (scanRing registeringEnv 2 (beginFrame interruptingMachine)).get (by decide)
  ringScanned := (Option.some_get _).symm
  system := (scanSystemCommandBuffer registeringEnv 2 _).get (by decide)
  systemScanned := (Option.some_get _).symm

/-- The scan of the new ring resumes behind its start, at the offset of the old ring,
although the new ring is empty. -/
theorem interruptedFrame_losesRegistration :
    interruptedFrame.final.ringBufferBase = 0x200000 ∧
      interruptedFrame.final.lastParsedOffset = 8 ∧
      packetAt interruptedFrame.final.mem 0x200000 0 interruptedFrame.final.ringBufferSize =
        none ∧
      ¬ interruptedFrame.KeepsRegistration 0x200000 10 := by
  have resumes : interruptedFrame.final.lastParsedOffset = 8 := by decide
  have small : SmallRing (beginFrame interruptingMachine) := ⟨by decide, by decide⟩
  refine ⟨by decide, resumes, by decide, fun keeps => ?_⟩
  have parsed := keeps.parsed.resolve_right (not_scannedFromStart small _)
  rw [resumes] at parsed
  exact absurd parsed (by decide)

theorem interruptingMachine_registers :
    RingRegisters registeringEnv 0x200000 10 (beginFrame interruptingMachine) := by
  refine .inl ⟨tailRound (beginFrame interruptingMachine), .refl, 0xC0005400, ?_, ?_, rfl⟩
  · exact (by decide : packetAt interruptMemory 0x1000 0 0x2000 = some 0xC0005400)
  · exact ⟨by decide, by decide, by decide, by decide, by decide, by decide⟩

theorem keepsRegistration_iff_interrupted :
    interruptedFrame.KeepsRegistration 0x200000 10 ↔
      SystemRegisters registeringEnv 0x200000 10
          (finishRing interruptedFrame.ring.machine interruptedFrame.ring.offset) ∧
        interruptedFrame.system.1.rptrWriteBackAddr = 0 :=
  keepsRegistration_iff (fun _ _ => .inr rfl) ⟨by decide, by decide⟩ interruptedFrame
    (.inl interruptingMachine_registers)

end FrameRun

end BumpinHost.Gpu
