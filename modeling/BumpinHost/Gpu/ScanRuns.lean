import BumpinHost.Gpu.ScanBuffer

/-!
# Scans that return

The fuel of `scanBuffer` only decides whether it returns.  `Scans` says that a
scan returns with some fuel; its two introduction rules, its inversion and its
induction rule follow the source loop, so that later proofs never mention fuel.
A scan whose own buffer and whose indirect buffers are small enough for the
offset arithmetic not to wrap always returns.
-/

namespace BumpinHost.Gpu

open Memory

theorem packetCount_toNat (header : Word) :
    (packetCount header).toNat = header.toNat / 2 ^ 16 % 2 ^ 14 + 1 := by
  have field : ((header >>> 16) &&& 0x3FFF).toNat =
      header.toNat / 2 ^ 16 % 2 ^ 14 :=
    BitFields.toNat_field header 16 14 (by decide)
  have small : header.toNat / 2 ^ 16 % 2 ^ 14 < 2 ^ 14 := Nat.mod_lt _ (by decide)
  have bound : ((header >>> 16) &&& 0x3FFF).toNat < 2 ^ 14 := by omega
  unfold packetCount
  rw [BitVec.toNat_add, field]
  exact Nat.mod_eq_of_lt (show _ < 2 ^ 32 by change _ + 1 < _; omega)

theorem packetCount_le (header : Word) : (packetCount header).toNat ≤ 2 ^ 14 := by
  have small : header.toNat / 2 ^ 16 % 2 ^ 14 < 2 ^ 14 := Nat.mod_lt _ (by decide)
  rw [packetCount_toNat]
  omega

theorem packetBytes_pos (header : Word) : 4 ≤ (packetBytes header).toNat := by
  have upper := packetCount_le header
  unfold packetBytes
  split
  · decide
  · bv_omega

theorem packetBytes_le (header : Word) : (packetBytes header).toNat ≤ 2 ^ 17 := by
  have upper := packetCount_le header
  unfold packetBytes
  split
  · decide
  · bv_omega

section PacketAt

variable {mem : Memory} {bufferAddr offsetBytes sizeBytes header : Word}

/-- The header `packetAt` returns is the dword at the offset, and it is not zero. -/
theorem packetAt_header
    (found : packetAt mem bufferAddr offsetBytes sizeBytes = some header) :
    header = loadU32 mem (bufferAddr + offsetBytes) ∧ header ≠ 0 := by
  simp only [packetAt] at found
  split_ifs at found with _ zero
  all_goals
    obtain rfl := Option.some.inj found
    exact ⟨rfl, zero⟩

theorem packetAt_decodes
    (found : packetAt mem bufferAddr offsetBytes sizeBytes = some header) :
    packetType header ≠ 1 := by
  have headerEq := (packetAt_header found).1
  simp only [packetAt, ← headerEq] at found
  split_ifs at found with _ _ filler kind
  · rw [filler]
    decide
  · rcases kind with type0 | type3
    · rw [type0]
      decide
    · rw [type3]
      decide

/-- A header that decodes and whose packet ends inside the buffer is acted on. -/
theorem packetAt_eq_some (headerEq : loadU32 mem (bufferAddr + offsetBytes) = header)
    (nonzero : header ≠ 0) (decodes : packetType header ≠ 1)
    (fits : offsetBytes.toNat + (packetBytes header).toNat ≤ sizeBytes.toNat) :
    packetAt mem bufferAddr offsetBytes sizeBytes = some header := by
  have positive := packetBytes_pos header
  have upper := packetCount_le header
  have typeLt : (packetType header).toNat < 4 := by
    have field : (packetType header).toNat = header.toNat / 2 ^ 30 % 2 ^ 2 :=
      BitFields.toNat_field header 30 2 (by decide)
    omega
  have sizeLt := sizeBytes.isLt
  simp only [packetAt, headerEq, if_neg nonzero]
  rw [if_pos (by bv_omega)]
  by_cases filler : packetType header = 0x2
  · rw [if_pos filler]
  · have kind : packetType header = 0x0 ∨ packetType header = 0x3 := by bv_omega
    unfold packetBytes at fits
    rw [if_neg filler] at fits
    rw [if_neg filler, if_pos kind, if_neg (by bv_omega)]

/-- A packet that is acted on and ends below the point where offsets wrap lies wholly
in the buffer. -/
theorem packetAt_fits_of_noWrap
    (below : offsetBytes.toNat + (packetBytes header).toNat < 2 ^ 32)
    (found : packetAt mem bufferAddr offsetBytes sizeBytes = some header) :
    offsetBytes.toNat + (packetBytes header).toNat ≤ sizeBytes.toNat := by
  have headerEq := (packetAt_header found).1
  have upper := packetCount_le header
  simp only [packetAt, ← headerEq] at found
  unfold packetBytes at below ⊢
  split_ifs at found with room _ filler _ short
  · rw [if_pos filler] at below ⊢
    bv_omega
  · rw [if_neg filler] at below ⊢
    bv_omega

/-- In a buffer of at most 2^31 bytes no packet end wraps. -/
theorem packetAt_noWrap (offsetLe : offsetBytes ≤ sizeBytes)
    (sizeLe : sizeBytes.toNat ≤ 2 ^ 31) (header : Word) :
    offsetBytes.toNat + (packetBytes header).toNat < 2 ^ 32 := by
  have upper := packetBytes_le header
  bv_omega

theorem packetAt_fits (offsetLe : offsetBytes ≤ sizeBytes)
    (sizeLe : sizeBytes.toNat ≤ 2 ^ 31)
    (found : packetAt mem bufferAddr offsetBytes sizeBytes = some header) :
    offsetBytes.toNat + (packetBytes header).toNat ≤ sizeBytes.toNat :=
  packetAt_fits_of_noWrap (packetAt_noWrap offsetLe sizeLe header) found

/-- An offset far below the wrap at which a packet is acted on lies in the buffer. -/
theorem packetAt_offset_le (offsetLe : offsetBytes.toNat ≤ 2 ^ 31)
    (found : packetAt mem bufferAddr offsetBytes sizeBytes = some header) :
    offsetBytes ≤ sizeBytes := by
  simp only [packetAt] at found
  split_ifs at found with room
  all_goals bv_omega

/-- A bound that a packet fits under leaves the decision to the packet alone. -/
theorem packetAt_of_fits {otherSize : Word}
    (found : packetAt mem bufferAddr offsetBytes sizeBytes = some header)
    (fits : offsetBytes.toNat + (packetBytes header).toNat ≤ otherSize.toNat) :
    packetAt mem bufferAddr offsetBytes otherSize = some header :=
  packetAt_eq_some (packetAt_header found).1.symm (packetAt_header found).2
    (packetAt_decodes found) fits

/-- A larger bound acts on every packet that a smaller one acts on. -/
theorem packetAt_mono {otherSize : Word} (offsetLe : offsetBytes ≤ sizeBytes)
    (sizeLe : sizeBytes ≤ otherSize) (otherLe : otherSize.toNat ≤ 2 ^ 31)
    (found : packetAt mem bufferAddr offsetBytes sizeBytes = some header) :
    packetAt mem bufferAddr offsetBytes otherSize = some header := by
  have sizeSmall : sizeBytes.toNat ≤ 2 ^ 31 := by bv_omega
  have fits := packetAt_fits offsetLe sizeSmall found
  exact packetAt_of_fits found (by bv_omega)

/-- A packet that the bound cuts off is not acted on. -/
theorem packetAt_cut {otherSize : Word} (offsetLe : offsetBytes ≤ otherSize)
    (otherLe : otherSize.toNat ≤ 2 ^ 31)
    (headerEq : header = loadU32 mem (bufferAddr + offsetBytes))
    (cut : otherSize.toNat < offsetBytes.toNat + (packetBytes header).toNat) :
    packetAt mem bufferAddr offsetBytes otherSize = none := by
  cases found : packetAt mem bufferAddr offsetBytes otherSize with
  | none => rfl
  | some other =>
      have same : other = header := (packetAt_header found).1.trans headerEq.symm
      have fits := packetAt_fits offsetLe otherLe found
      rw [same] at fits
      omega

/-- The next offset is where arithmetic says it is, and still in the buffer. -/
theorem packetAt_advance (offsetLe : offsetBytes ≤ sizeBytes)
    (sizeLe : sizeBytes.toNat ≤ 2 ^ 31)
    (found : packetAt mem bufferAddr offsetBytes sizeBytes = some header) :
    (offsetBytes + packetBytes header).toNat =
        offsetBytes.toNat + (packetBytes header).toNat ∧
      offsetBytes + packetBytes header ≤ sizeBytes := by
  have fits := packetAt_fits offsetLe sizeLe found
  have sum : (offsetBytes + packetBytes header).toNat =
      offsetBytes.toNat + (packetBytes header).toNat := by bv_omega
  exact ⟨sum, by bv_omega⟩

end PacketAt

variable {Guest : Type} (env : Env Guest)

/-- The nested scan of an indirect buffer with the given fuel. -/
abbrev nestedScan (fuel : Nat) :
    Machine Guest → Word → Word → Int → Option (ScanOutcome Guest) :=
  fun inner targetAddr targetSize => scanBuffer env fuel inner targetAddr 0 targetSize

/-- The packet is an `INDIRECT_BUFFER` that the scan follows at this depth. -/
def IsFollowed (header : Word) (depth : Int) : Prop :=
  packetType header ≠ 0x2 ∧ packetType header ≠ 0x0 ∧
    packetOpcode header = kOpcodeIndirectBuffer ∧
      packetCount header = 2 ∧ depth < kMaxIndirectDepth

instance (header : Word) (depth : Int) : Decidable (IsFollowed header depth) :=
  inferInstanceAs (Decidable (_ ∧ _ ∧ _ ∧ _ ∧ _))

/-- Address of the indirect buffer that the packet at an offset names. -/
def indirectAddr (mem : Memory) (bufferAddr offsetBytes : Word) : Word :=
  loadU32 mem (bufferAddr + offsetBytes + 4) ||| 0xA0000000

def indirectDwordCount (mem : Memory) (bufferAddr offsetBytes : Word) : Word :=
  loadU32 mem (bufferAddr + offsetBytes + 8)

theorem executePacket_of_isFollowed
    (nested : Machine Guest → Word → Word → Int → Option (ScanOutcome Guest))
    (m : Machine Guest) (bufferAddr offsetBytes : Word) {header : Word} {depth : Int}
    (followed : IsFollowed header depth) :
    executePacket env nested m bufferAddr offsetBytes header depth =
      (nested m (indirectAddr m.mem bufferAddr offsetBytes)
        (indirectDwordCount m.mem bufferAddr offsetBytes * 4) (depth + 1)).map
        fun inner => (inner.machine,
          .indirect (indirectAddr m.mem bufferAddr offsetBytes)
            (indirectDwordCount m.mem bufferAddr offsetBytes) :: inner.trace) := by
  obtain ⟨notFiller, notType0, opcode, count, shallow⟩ := followed
  simp only [executePacket, executeType3, if_neg notFiller, if_neg notType0, if_pos opcode,
    if_pos (And.intro count shallow), indirectAddr, indirectDwordCount]

/-- Every other packet has its effect without a nested scan. -/
theorem executePacket_of_not_isFollowed (m : Machine Guest)
    (bufferAddr offsetBytes : Word) {header : Word} {depth : Int}
    (notFollowed : ¬ IsFollowed header depth) :
    ∃ body, ∀ nested,
      executePacket env nested m bufferAddr offsetBytes header depth = some body := by
  unfold executePacket executeType3
  by_cases filler : packetType header = 0x2
  · simp only [if_pos filler]
    exact ⟨_, fun _ => rfl⟩
  by_cases type0 : packetType header = 0x0
  · simp only [if_neg filler, if_pos type0]
    exact ⟨_, fun _ => rfl⟩
  by_cases opcode : packetOpcode header = kOpcodeIndirectBuffer
  · have ignored : ¬ (packetCount header = 2 ∧ depth < kMaxIndirectDepth) :=
      fun both => notFollowed ⟨filler, type0, opcode, both.1, both.2⟩
    simp only [if_neg filler, if_neg type0, if_pos opcode, if_neg ignored]
    exact ⟨_, fun _ => rfl⟩
  · simp only [if_neg filler, if_neg type0, if_neg opcode]
    split_ifs
    all_goals exact ⟨_, fun _ => rfl⟩

theorem executePacket_mono
    {first second : Machine Guest → Word → Word → Int → Option (ScanOutcome Guest)}
    (agrees : ∀ inner targetAddr targetSize innerDepth outcome,
      first inner targetAddr targetSize innerDepth = some outcome →
        second inner targetAddr targetSize innerDepth = some outcome)
    {m : Machine Guest} {bufferAddr offsetBytes header : Word} {depth : Int}
    {body : Machine Guest × ScanTrace}
    (executed : executePacket env first m bufferAddr offsetBytes header depth = some body) :
    executePacket env second m bufferAddr offsetBytes header depth = some body := by
  by_cases followed : IsFollowed header depth
  · rw [executePacket_of_isFollowed env _ m bufferAddr offsetBytes followed] at executed ⊢
    obtain ⟨inner, innerEq, bodyEq⟩ := Option.map_eq_some_iff.mp executed
    rw [agrees _ _ _ _ _ innerEq, Option.map_some, bodyEq]
  · obtain ⟨effect, always⟩ :=
      executePacket_of_not_isFollowed env m bufferAddr offsetBytes followed
    rw [always] at executed ⊢
    exact executed

/-- A scan that returns stops at once, or acts on one packet and goes on behind it. -/
theorem scanBuffer_cases {fuel : Nat} {m : Machine Guest}
    {bufferAddr offsetBytes sizeBytes : Word} {depth : Int} {outcome : ScanOutcome Guest}
    (scanned : scanBuffer env (fuel + 1) m bufferAddr offsetBytes sizeBytes depth =
      some outcome) :
    (packetAt m.mem bufferAddr offsetBytes sizeBytes = none ∧
        outcome = ⟨m, offsetBytes, []⟩) ∨
      ∃ header body rest, packetAt m.mem bufferAddr offsetBytes sizeBytes = some header ∧
        executePacket env (nestedScan env fuel) m bufferAddr offsetBytes header depth =
          some body ∧
        scanBuffer env fuel body.1 bufferAddr (offsetBytes + packetBytes header) sizeBytes
          depth = some rest ∧
        outcome = ⟨rest.machine, rest.offset,
          .packet depth bufferAddr offsetBytes header :: (body.2 ++ rest.trace)⟩ := by
  rw [scanBuffer] at scanned
  cases found : packetAt m.mem bufferAddr offsetBytes sizeBytes with
  | none =>
      simp only [found] at scanned
      exact .inl ⟨rfl, (Option.some.inj scanned).symm⟩
  | some header =>
      simp only [found] at scanned
      obtain ⟨body, executed, continued⟩ := Option.bind_eq_some_iff.mp scanned
      obtain ⟨rest, restEq, outcomeEq⟩ := Option.map_eq_some_iff.mp continued
      exact .inr ⟨header, body, rest, rfl, executed, restEq, outcomeEq.symm⟩

theorem scanBuffer_succ {fuel : Nat} {m : Machine Guest}
    {bufferAddr offsetBytes sizeBytes : Word} {depth : Int} {outcome : ScanOutcome Guest}
    (scanned : scanBuffer env fuel m bufferAddr offsetBytes sizeBytes depth = some outcome) :
    scanBuffer env (fuel + 1) m bufferAddr offsetBytes sizeBytes depth = some outcome := by
  induction fuel generalizing m bufferAddr offsetBytes sizeBytes depth outcome with
  | zero => simp [scanBuffer] at scanned
  | succ fuel ih =>
      obtain ⟨stops, rfl⟩ | ⟨header, body, rest, found, executed, restEq, rfl⟩ :=
        scanBuffer_cases env scanned
      · simp only [scanBuffer, stops]
      · have executedMore : executePacket env (nestedScan env (fuel + 1)) m bufferAddr
            offsetBytes header depth = some body :=
          executePacket_mono env (fun _ _ _ _ _ inner => ih inner) executed
        rw [scanBuffer]
        simp only [found]
        rw [executedMore, Option.bind_some, ih restEq, Option.map_some]

/-- A scan that returns is unchanged by more fuel. -/
theorem scanBuffer_mono {fuel more : Nat} (fuelLe : fuel ≤ more) {m : Machine Guest}
    {bufferAddr offsetBytes sizeBytes : Word} {depth : Int} {outcome : ScanOutcome Guest}
    (scanned : scanBuffer env fuel m bufferAddr offsetBytes sizeBytes depth = some outcome) :
    scanBuffer env more m bufferAddr offsetBytes sizeBytes depth = some outcome := by
  induction fuelLe with
  | refl => exact scanned
  | step _ ih => exact scanBuffer_succ env ih

/-- A loop body that returns is unchanged by more fuel. -/
theorem executePacket_more {fuel more : Nat} (fuelLe : fuel ≤ more) {m : Machine Guest}
    {bufferAddr offsetBytes header : Word} {depth : Int} {body : Machine Guest × ScanTrace}
    (executed : executePacket env (nestedScan env fuel) m bufferAddr offsetBytes header
      depth = some body) :
    executePacket env (nestedScan env more) m bufferAddr offsetBytes header depth =
      some body :=
  executePacket_mono env (fun _ _ _ _ _ inner => scanBuffer_mono env fuelLe inner) executed

/-- The scan returns, with this outcome. -/
def Scans (m : Machine Guest) (bufferAddr offsetBytes sizeBytes : Word) (depth : Int)
    (outcome : ScanOutcome Guest) : Prop :=
  ∃ fuel, scanBuffer env fuel m bufferAddr offsetBytes sizeBytes depth = some outcome

/-- The loop body returns for this packet, with this machine and these events. -/
def Executes (m : Machine Guest) (bufferAddr offsetBytes header : Word) (depth : Int)
    (body : Machine Guest × ScanTrace) : Prop :=
  ∃ fuel, executePacket env (nestedScan env fuel) m bufferAddr offsetBytes header depth =
    some body

variable {env}

theorem Executes.unique {m : Machine Guest} {bufferAddr offsetBytes header : Word}
    {depth : Int} {first second : Machine Guest × ScanTrace}
    (left : Executes env m bufferAddr offsetBytes header depth first)
    (right : Executes env m bufferAddr offsetBytes header depth second) :
    first = second := by
  obtain ⟨leftFuel, leftEq⟩ := left
  obtain ⟨rightFuel, rightEq⟩ := right
  have leftMore := executePacket_more env (le_max_left leftFuel rightFuel) leftEq
  have rightMore := executePacket_more env (le_max_right leftFuel rightFuel) rightEq
  exact Option.some.inj (leftMore.symm.trans rightMore)

theorem Executes.of_indirect {m : Machine Guest} {bufferAddr offsetBytes header : Word}
    {depth : Int} {inner : ScanOutcome Guest} (followed : IsFollowed header depth)
    (scanned : Scans env m (indirectAddr m.mem bufferAddr offsetBytes) 0
      (indirectDwordCount m.mem bufferAddr offsetBytes * 4) (depth + 1) inner) :
    Executes env m bufferAddr offsetBytes header depth
      (inner.machine, .indirect (indirectAddr m.mem bufferAddr offsetBytes)
        (indirectDwordCount m.mem bufferAddr offsetBytes) :: inner.trace) := by
  obtain ⟨fuel, innerEq⟩ := scanned
  refine ⟨fuel, ?_⟩
  rw [executePacket_of_isFollowed env _ m bufferAddr offsetBytes followed]
  exact congrArg (Option.map _) innerEq

namespace Scans

variable {m : Machine Guest} {bufferAddr offsetBytes sizeBytes header : Word} {depth : Int}

theorem unique {first second : ScanOutcome Guest}
    (left : Scans env m bufferAddr offsetBytes sizeBytes depth first)
    (right : Scans env m bufferAddr offsetBytes sizeBytes depth second) :
    first = second := by
  obtain ⟨leftFuel, leftEq⟩ := left
  obtain ⟨rightFuel, rightEq⟩ := right
  have leftMore := scanBuffer_mono env (le_max_left leftFuel rightFuel) leftEq
  have rightMore := scanBuffer_mono env (le_max_right leftFuel rightFuel) rightEq
  exact Option.some.inj (leftMore.symm.trans rightMore)

theorem stop (stops : packetAt m.mem bufferAddr offsetBytes sizeBytes = none) :
    Scans env m bufferAddr offsetBytes sizeBytes depth ⟨m, offsetBytes, []⟩ :=
  ⟨1, by simp [scanBuffer, stops]⟩

theorem next {body : Machine Guest × ScanTrace} {rest : ScanOutcome Guest}
    (found : packetAt m.mem bufferAddr offsetBytes sizeBytes = some header)
    (executed : Executes env m bufferAddr offsetBytes header depth body)
    (continued : Scans env body.1 bufferAddr (offsetBytes + packetBytes header)
      sizeBytes depth rest) :
    Scans env m bufferAddr offsetBytes sizeBytes depth
      ⟨rest.machine, rest.offset,
        .packet depth bufferAddr offsetBytes header :: (body.2 ++ rest.trace)⟩ := by
  obtain ⟨bodyFuel, bodyEq⟩ := executed
  obtain ⟨restFuel, restEq⟩ := continued
  have bodyMore := executePacket_more env (le_max_left bodyFuel restFuel) bodyEq
  have restMore := scanBuffer_mono env (le_max_right bodyFuel restFuel) restEq
  refine ⟨max bodyFuel restFuel + 1, ?_⟩
  rw [scanBuffer]
  simp only [found]
  rw [bodyMore, Option.bind_some, restMore, Option.map_some]

/-- Induction over the rounds of one scan. -/
theorem rounds {motive : Machine Guest → Word → ScanOutcome Guest → Prop}
    {outcome : ScanOutcome Guest}
    (scanned : Scans env m bufferAddr offsetBytes sizeBytes depth outcome)
    (stop : ∀ m offsetBytes, packetAt m.mem bufferAddr offsetBytes sizeBytes = none →
      motive m offsetBytes ⟨m, offsetBytes, []⟩)
    (next : ∀ m offsetBytes header body rest,
      packetAt m.mem bufferAddr offsetBytes sizeBytes = some header →
      Executes env m bufferAddr offsetBytes header depth body →
      Scans env body.1 bufferAddr (offsetBytes + packetBytes header) sizeBytes depth rest →
      motive body.1 (offsetBytes + packetBytes header) rest →
      motive m offsetBytes ⟨rest.machine, rest.offset,
        .packet depth bufferAddr offsetBytes header :: (body.2 ++ rest.trace)⟩) :
    motive m offsetBytes outcome := by
  obtain ⟨fuel, scanEq⟩ := scanned
  induction fuel generalizing m offsetBytes outcome with
  | zero => simp [scanBuffer] at scanEq
  | succ fuel ih =>
      obtain ⟨stops, rfl⟩ | ⟨header, body, rest, found, executed, restEq, rfl⟩ :=
        scanBuffer_cases env scanEq
      · exact stop m offsetBytes stops
      · exact next m offsetBytes header body rest found ⟨fuel, executed⟩ ⟨fuel, restEq⟩
          (ih restEq)

/-- What a scan that acts on a packet does next. -/
theorem of_some {outcome : ScanOutcome Guest}
    (scanned : Scans env m bufferAddr offsetBytes sizeBytes depth outcome)
    (found : packetAt m.mem bufferAddr offsetBytes sizeBytes = some header) :
    ∃ body rest, Executes env m bufferAddr offsetBytes header depth body ∧
      Scans env body.1 bufferAddr (offsetBytes + packetBytes header) sizeBytes depth rest ∧
      outcome = ⟨rest.machine, rest.offset,
        .packet depth bufferAddr offsetBytes header :: (body.2 ++ rest.trace)⟩ := by
  revert found
  refine scanned.rounds
    (motive := fun m offsetBytes outcome =>
      packetAt m.mem bufferAddr offsetBytes sizeBytes = some header →
        ∃ body rest, Executes env m bufferAddr offsetBytes header depth body ∧
          Scans env body.1 bufferAddr (offsetBytes + packetBytes header) sizeBytes depth rest ∧
          outcome = ⟨rest.machine, rest.offset,
            .packet depth bufferAddr offsetBytes header :: (body.2 ++ rest.trace)⟩) ?_ ?_
  · intro m offsetBytes stops found
    rw [stops] at found
    cases found
  · intro m offsetBytes other body rest foundOther executed continued _ found
    obtain rfl : other = header := Option.some.inj (foundOther.symm.trans found)
    exact ⟨body, rest, executed, continued, rfl⟩

end Scans

/-- Where a scan stands when its loop condition is evaluated. -/
structure Round (Guest : Type) where
  machine : Machine Guest
  bufferAddr : Word
  offset : Word
  size : Word
  depth : Int

namespace Round

/-- The packet the loop acts on in this round. -/
def ActsOn (round : Round Guest) (header : Word) : Prop :=
  packetAt round.machine.mem round.bufferAddr round.offset round.size = some header

/-- The first round of the scan of the indirect buffer named by this round's packet. -/
def nested (round : Round Guest) : Round Guest where
  machine := round.machine
  bufferAddr := indirectAddr round.machine.mem round.bufferAddr round.offset
  offset := 0
  size := indirectDwordCount round.machine.mem round.bufferAddr round.offset * 4
  depth := round.depth + 1

/-- The round after a packet whose loop body left this machine. -/
def after (round : Round Guest) (header : Word) (machine : Machine Guest) : Round Guest :=
  { round with machine := machine, offset := round.offset + packetBytes header }

/-- One round leads to another: into an indirect buffer, or on to the next packet. -/
inductive Next (env : Env Guest) (round : Round Guest) : Round Guest → Prop
  | nested {header : Word} : round.ActsOn header → IsFollowed header round.depth →
      Next env round round.nested
  | after {header : Word} {body : Machine Guest × ScanTrace} : round.ActsOn header →
      Executes env round.machine round.bufferAddr round.offset header round.depth body →
      Next env round (round.after header body.1)

/-- The later round belongs to the run that starts with the first one. -/
def Reaches (env : Env Guest) : Round Guest → Round Guest → Prop :=
  Relation.ReflTransGen (Next env)

/-- No packet acted on in the run ends past the last 32-bit offset. -/
def NeverWraps (env : Env Guest) (first : Round Guest) : Prop :=
  ∀ round header, Reaches env first round → round.ActsOn header →
    round.offset.toNat + (packetBytes header).toNat < 2 ^ 32

theorem NeverWraps.of_next {first second : Round Guest} (never : NeverWraps env first)
    (next : Next env first second) : NeverWraps env second :=
  fun round header reaches acts => never round header (.head next reaches) acts

/-- The scan from this round returns, with this outcome. -/
def Returns (env : Env Guest) (round : Round Guest) (outcome : ScanOutcome Guest) : Prop :=
  Scans env round.machine round.bufferAddr round.offset round.size round.depth outcome

/-- Induction over the rounds of a scan and of the scans nested in it. -/
theorem Returns.rounds {motive : Round Guest → ScanOutcome Guest → Prop}
    {first : Round Guest} {outcome : ScanOutcome Guest} (returns : Returns env first outcome)
    (stop : ∀ round : Round Guest,
      packetAt round.machine.mem round.bufferAddr round.offset round.size = none →
      motive round ⟨round.machine, round.offset, []⟩)
    (next : ∀ (round : Round Guest) header body rest, round.ActsOn header →
      Executes env round.machine round.bufferAddr round.offset header round.depth body →
      (IsFollowed header round.depth →
        ∃ inner : ScanOutcome Guest, body.1 = inner.machine ∧ motive round.nested inner) →
      motive (round.after header body.1) rest →
      motive round ⟨rest.machine, rest.offset,
        .packet round.depth round.bufferAddr round.offset header ::
          (body.2 ++ rest.trace)⟩) :
    motive first outcome := by
  obtain ⟨fuel, scanEq⟩ := returns
  induction fuel generalizing first outcome with
  | zero => simp [scanBuffer] at scanEq
  | succ fuel ih =>
      obtain ⟨stops, rfl⟩ | ⟨header, body, rest, found, executed, restEq, rfl⟩ :=
        scanBuffer_cases env scanEq
      · exact stop first stops
      · have later : motive (first.after header body.1) rest := ih restEq
        refine next first header body rest found ⟨fuel, executed⟩ ?_ later
        intro followed
        rw [executePacket_of_isFollowed env _ _ _ _ followed] at executed
        obtain ⟨inner, innerEq, bodyEq⟩ := Option.map_eq_some_iff.mp executed
        have within : motive first.nested inner := ih innerEq
        exact ⟨inner, congrArg Prod.fst bodyEq.symm, within⟩

/-- A run in which no packet end wraps returns.  The outer induction is on the levels
left below this depth, the inner one on the bytes left in the buffer. -/
theorem returns_of_neverWraps {round : Round Guest} (never : NeverWraps env round) :
    ∃ outcome, Returns env round outcome := by
  generalize levelsEq : (kMaxIndirectDepth - round.depth).toNat = levels
  induction levels using Nat.strong_induction_on generalizing round with
  | _ levels levelsIH =>
    generalize leftEq : round.size.toNat - round.offset.toNat = left
    induction left using Nat.strong_induction_on generalizing round with
    | _ left leftIH =>
      cases found : packetAt round.machine.mem round.bufferAddr round.offset round.size with
      | none => exact ⟨_, Scans.stop found⟩
      | some header =>
          have below := never round header .refl found
          have fits := packetAt_fits_of_noWrap below found
          have positive := packetBytes_pos header
          have executes : ∃ body, Executes env round.machine round.bufferAddr round.offset
              header round.depth body := by
            by_cases followed : IsFollowed header round.depth
            · have deeper : (kMaxIndirectDepth - round.nested.depth).toNat < levels := by
                have shallow := followed.2.2.2.2
                simp only [kMaxIndirectDepth, nested] at shallow levelsEq ⊢
                omega
              obtain ⟨inner, scanned⟩ :=
                levelsIH _ deeper (never.of_next (.nested found followed)) rfl
              exact ⟨_, Executes.of_indirect followed scanned⟩
            · obtain ⟨body, always⟩ := executePacket_of_not_isFollowed env round.machine
                round.bufferAddr round.offset followed
              exact ⟨body, 0, always _⟩
          obtain ⟨body, executed⟩ := executes
          have shorter : (round.after header body.1).size.toNat -
              (round.after header body.1).offset.toNat < left := by
            simp only [after]
            bv_omega
          obtain ⟨rest, continued⟩ :=
            leftIH _ shorter (never.of_next (.after found executed)) levelsEq rfl
          exact ⟨_, Scans.next found executed continued⟩

/-- Where such a run stops: inside its buffer, not before its start. -/
theorem offset_bounds_of_neverWraps {round : Round Guest} {outcome : ScanOutcome Guest}
    (never : NeverWraps env round) (returns : Returns env round outcome)
    (offsetLe : round.offset ≤ round.size) :
    round.offset ≤ outcome.offset ∧ outcome.offset ≤ round.size := by
  obtain ⟨m, bufferAddr, offsetBytes, sizeBytes, depth⟩ := round
  simp only [Returns] at *
  revert never offsetLe
  refine returns.rounds
    (motive := fun m offsetBytes outcome =>
      NeverWraps env ⟨m, bufferAddr, offsetBytes, sizeBytes, depth⟩ →
        offsetBytes ≤ sizeBytes →
          offsetBytes ≤ outcome.offset ∧ outcome.offset ≤ sizeBytes) ?_ ?_
  · intro m offsetBytes _ _ offsetLe
    exact ⟨BitVec.le_refl _, offsetLe⟩
  · intro m offsetBytes header body rest found executed _ ih never offsetLe
    have below := never ⟨m, bufferAddr, offsetBytes, sizeBytes, depth⟩ header .refl found
    have fits := packetAt_fits_of_noWrap below found
    simp only at below
    obtain ⟨lower, upper⟩ := ih (never.of_next (.after found executed)) (by bv_omega)
    exact ⟨by bv_omega, upper⟩

end Round

/-- The scan follows, at some depth, an indirect buffer of this many dwords. -/
inductive FollowsIndirect (env : Env Guest) :
    Machine Guest → Word → Word → Word → Int → Word → Prop
  | here {m : Machine Guest} {bufferAddr offsetBytes sizeBytes header : Word} {depth : Int} :
      packetAt m.mem bufferAddr offsetBytes sizeBytes = some header →
      IsFollowed header depth →
      FollowsIndirect env m bufferAddr offsetBytes sizeBytes depth
        (indirectDwordCount m.mem bufferAddr offsetBytes)
  | inside {m : Machine Guest} {bufferAddr offsetBytes sizeBytes header dwordCount : Word}
      {depth : Int} :
      packetAt m.mem bufferAddr offsetBytes sizeBytes = some header →
      IsFollowed header depth →
      FollowsIndirect env m (indirectAddr m.mem bufferAddr offsetBytes) 0
        (indirectDwordCount m.mem bufferAddr offsetBytes * 4) (depth + 1) dwordCount →
      FollowsIndirect env m bufferAddr offsetBytes sizeBytes depth dwordCount
  | later {m : Machine Guest} {bufferAddr offsetBytes sizeBytes header dwordCount : Word}
      {depth : Int} {body : Machine Guest × ScanTrace} :
      packetAt m.mem bufferAddr offsetBytes sizeBytes = some header →
      Executes env m bufferAddr offsetBytes header depth body →
      FollowsIndirect env body.1 bufferAddr (offsetBytes + packetBytes header) sizeBytes
        depth dwordCount →
      FollowsIndirect env m bufferAddr offsetBytes sizeBytes depth dwordCount

/-- Every indirect buffer the scan follows is at most 2^31 bytes long. -/
def SmallIndirects (env : Env Guest) (m : Machine Guest)
    (bufferAddr offsetBytes sizeBytes : Word) (depth : Int) : Prop :=
  ∀ dwordCount, FollowsIndirect env m bufferAddr offsetBytes sizeBytes depth dwordCount →
    (dwordCount * 4).toNat ≤ 2 ^ 31

/-- An indirect buffer named in the run is one the scan follows. -/
theorem FollowsIndirect.of_reaches {first round : Round Guest} {header : Word}
    (reaches : Round.Reaches env first round) (acts : round.ActsOn header)
    (followed : IsFollowed header round.depth) :
    FollowsIndirect env first.machine first.bufferAddr first.offset first.size first.depth
      (indirectDwordCount round.machine.mem round.bufferAddr round.offset) := by
  induction reaches using Relation.ReflTransGen.head_induction_on with
  | refl => exact .here acts followed
  | head next _ ih =>
      cases next with
      | nested found outer => exact .inside found outer ih
      | after found executed => exact .later found executed ih

/-- In a run over small buffers every round lies inside a small buffer. -/
theorem Round.Reaches.small {first round : Round Guest}
    (reaches : Round.Reaches env first round) (offsetLe : first.offset ≤ first.size)
    (sizeLe : first.size.toNat ≤ 2 ^ 31)
    (small : SmallIndirects env first.machine first.bufferAddr first.offset first.size
      first.depth) :
    round.offset ≤ round.size ∧ round.size.toNat ≤ 2 ^ 31 := by
  induction reaches with
  | refl => exact ⟨offsetLe, sizeLe⟩
  | tail before next ih =>
      cases next with
      | nested found followed =>
          exact ⟨Nat.zero_le _, small _ (.of_reaches before found followed)⟩
      | after found _ => exact ⟨(packetAt_advance ih.1 ih.2 found).2, ih.2⟩

theorem SmallIndirects.neverWraps {first : Round Guest} (offsetLe : first.offset ≤ first.size)
    (sizeLe : first.size.toNat ≤ 2 ^ 31)
    (small : SmallIndirects env first.machine first.bufferAddr first.offset first.size
      first.depth) : first.NeverWraps env := by
  intro round header reaches _
  obtain ⟨inside, roundSmall⟩ := reaches.small offsetLe sizeLe small
  exact packetAt_noWrap inside roundSmall header

/-- A scan of a small buffer with small indirect buffers returns. -/
theorem scans_of_small {m : Machine Guest} {bufferAddr offsetBytes sizeBytes : Word}
    {depth : Int} (offsetLe : offsetBytes ≤ sizeBytes) (sizeLe : sizeBytes.toNat ≤ 2 ^ 31)
    (small : SmallIndirects env m bufferAddr offsetBytes sizeBytes depth) :
    ∃ outcome, Scans env m bufferAddr offsetBytes sizeBytes depth outcome := by
  have never : Round.NeverWraps env ⟨m, bufferAddr, offsetBytes, sizeBytes, depth⟩ :=
    SmallIndirects.neverWraps offsetLe sizeLe small
  exact Round.returns_of_neverWraps never

end BumpinHost.Gpu
