import BumpinHost.Shader.InstructionEncoding
import BumpinHost.Shader.ControlFlowScan

/-!
# Disassembly undoes assembly

A shader program is a list of control-flow pairs and the slots behind them.  Assembled, it is
an array of words without any mark of where the pairs end; the disassembler finds the end and
lists every instruction with the fields that it was assembled from.
-/

namespace BumpinHost.Shader

/-- An array of words from groups of three. -/
def flatten (groups : List (Word × Word × Word)) : List Word :=
  groups.flatMap fun (x, y, z) => [x, y, z]

theorem length_flatten (groups : List (Word × Word × Word)) :
    (flatten groups).length = 3 * groups.length := by
  induction groups with
  | nil => rfl
  | cons group groups ih =>
      rw [flatten, List.flatMap_cons, List.length_append, ← flatten, ih, List.length_cons]
      simp
      omega

theorem flatten_getElem? {groups : List (Word × Word × Word)} {i : Nat}
    {group : Word × Word × Word} (at_i : groups[i]? = some group) :
    (flatten groups)[3 * i]? = some group.1 ∧ (flatten groups)[3 * i + 1]? = some group.2.1 ∧
      (flatten groups)[3 * i + 2]? = some group.2.2 := by
  induction groups generalizing i with
  | nil => cases at_i
  | cons head groups ih =>
      cases i with
      | zero =>
          obtain rfl : head = group := Option.some.inj at_i
          exact ⟨rfl, rfl, rfl⟩
      | succ i => exact ih at_i

theorem toNat_slotDwords {slot : Word} (fits : 3 * slot.toNat + 2 < 2 ^ 32) :
    (slot * 3).toNat = 3 * slot.toNat ∧ (slot * 3 + 1).toNat = 3 * slot.toNat + 1 ∧
      (slot * 3 + 2).toNat = 3 * slot.toNat + 2 := by
  have start : (slot * 3).toNat = 3 * slot.toNat := by
    rw [BitVec.toNat_mul, show (3 : Word).toNat = 3 from rfl]
    omega
  refine ⟨start, ?_, ?_⟩
  · rw [BitVec.toNat_add, start, show (1 : Word).toNat = 1 from rfl]
    omega
  · rw [BitVec.toNat_add, start, show (2 : Word).toNat = 2 from rfl]
    omega

/-- The three words of a slot, as the microcode pointer reads them. -/
theorem dwordAt_flatten {groups : List (Word × Word × Word)} {i : Nat}
    {group : Word × Word × Word} (at_i : groups[i]? = some group) {slot : Word}
    (here : slot.toNat = i) (fits : 3 * groups.length < 2 ^ 32) :
    dwordAt (flatten groups) (slot * 3) = group.1 ∧
      dwordAt (flatten groups) (slot * 3 + 1) = group.2.1 ∧
      dwordAt (flatten groups) (slot * 3 + 2) = group.2.2 := by
  obtain ⟨inside, -⟩ := List.getElem?_eq_some_iff.mp at_i
  obtain ⟨first, second, third⟩ := flatten_getElem? at_i
  obtain ⟨start, next, last⟩ := toNat_slotDwords (by omega : 3 * slot.toNat + 2 < 2 ^ 32)
  rw [here] at start next last
  unfold dwordAt
  rw [start, next, last, List.getD_eq_getElem?_getD, List.getD_eq_getElem?_getD,
    List.getD_eq_getElem?_getD, first, second, third]
  exact ⟨rfl, rfl, rfl⟩

/-- A shader program.  The blocks begin right behind the control flow, and hold the kinds of
slots that their instructions say. -/
structure ShaderProgram where
  pairs : List (ControlFlowCode × ControlFlowCode)
  slots : List SlotCode
  outside : ∀ pair ∈ pairs, ∀ cf ∈ [pair.1, pair.2], isExecFamily cf.opcode = true →
    pairs.length ≤ cf.address.toNat
  reached : ∃ pair ∈ pairs, ∃ cf ∈ [pair.1, pair.2], isExecFamily cf.opcode = true ∧
    cf.address.toNat = pairs.length
  kinds : ∀ pair ∈ pairs, ∀ cf ∈ [pair.1, pair.2], isExecFamily cf.opcode = true →
    ∀ j < cf.count.toNat, ∃ slot, slots[cf.address.toNat + j - pairs.length]? = some slot ∧
      isFetchSlot cf.instruction j = slot.isFetch
  fits : 3 * (pairs.length + slots.length) < 2 ^ 32

namespace ShaderProgram

def groups (program : ShaderProgram) : List (Word × Word × Word) :=
  program.pairs.map (fun (a, b) => ControlFlowCode.pairWords a b) ++
    program.slots.map SlotCode.words

/-- The microcode of a program. -/
def assemble (program : ShaderProgram) : List Word :=
  flatten program.groups

/-- What the listing of a control-flow instruction should be. -/
def codeLines (program : ShaderProgram) (pair which : Nat) (cf : ControlFlowCode) :
    List DisassemblyLine :=
  .controlFlow (BitVec.ofNat 32 pair) which cf.instruction ::
    if isExecFamily cf.opcode then
      ((program.slots.drop (cf.address.toNat - program.pairs.length)).take
        cf.count.toNat).mapIdx SlotCode.line
    else []

/-- What the listing from a pair on should be. -/
def linesOf (program : ShaderProgram) : Nat → List (ControlFlowCode × ControlFlowCode) →
    List DisassemblyLine
  | _, [] => []
  | i, (a, b) :: rest =>
      program.codeLines i 0 a ++ program.codeLines i 1 b ++ program.linesOf (i + 1) rest

/-- What the listing of a program should be. -/
def listing (program : ShaderProgram) : List DisassemblyLine :=
  program.linesOf 0 program.pairs

variable (program : ShaderProgram)

theorem length_groups : program.groups.length = program.pairs.length + program.slots.length := by
  rw [groups, List.length_append, List.length_map, List.length_map]

theorem length_assemble :
    program.assemble.length = 3 * (program.pairs.length + program.slots.length) := by
  rw [assemble, length_flatten, length_groups]

theorem groups_fit : 3 * program.groups.length < 2 ^ 32 := by
  rw [length_groups]
  exact program.fits

theorem unpack_pair {i : Nat} {a b : ControlFlowCode} (at_i : program.pairs[i]? = some (a, b)) :
    unpackControlFlowPair (dwordAt program.assemble (BitVec.ofNat 32 i * 3))
      (dwordAt program.assemble (BitVec.ofNat 32 i * 3 + 1))
      (dwordAt program.assemble (BitVec.ofNat 32 i * 3 + 2)) = (a.instruction, b.instruction) := by
  obtain ⟨inside, -⟩ := List.getElem?_eq_some_iff.mp at_i
  have fits := program.fits
  have group : program.groups[i]? = some (ControlFlowCode.pairWords a b) := by
    rw [groups, List.getElem?_append_left (by rwa [List.length_map]), List.getElem?_map, at_i]
    rfl
  have here : (BitVec.ofNat 32 i).toNat = i := by
    rw [BitVec.toNat_ofNat]
    omega
  obtain ⟨first, second, third⟩ := dwordAt_flatten group here program.groups_fit
  rw [assemble, first, second, third, ControlFlowCode.unpack_pairWords]

theorem toNat_instruction_address (cf : ControlFlowCode) :
    cf.instruction.address.toNat = cf.address.toNat := by
  rw [ControlFlowCode.instruction, BitVec.toNat_setWidth,
    Nat.mod_eq_of_lt (cf.address.isLt.trans (by decide))]

/-- A slot of a block, as the listing of the block shows it. -/
theorem slotLine_slot {cf : ControlFlowCode} {j : Nat} {slot : SlotCode}
    (behind : program.pairs.length ≤ cf.address.toNat)
    (at_j : program.slots[cf.address.toNat + j - program.pairs.length]? = some slot)
    (kind : isFetchSlot cf.instruction j = slot.isFetch) :
    slotLine program.assemble (BitVec.ofNat 32 program.assemble.length) cf.instruction j =
      slot.line j := by
  obtain ⟨inside, -⟩ := List.getElem?_eq_some_iff.mp at_j
  have fits := program.fits
  have group : program.groups[cf.address.toNat + j]? = some slot.words := by
    rw [groups, List.getElem?_append_right (by rw [List.length_map]; omega), List.length_map,
      List.getElem?_map, at_j]
    rfl
  have here : (cf.instruction.address + BitVec.ofNat 32 j).toNat = cf.address.toNat + j := by
    rw [BitVec.toNat_add, toNat_instruction_address, BitVec.toNat_ofNat]
    omega
  obtain ⟨first, second, third⟩ := dwordAt_flatten group here program.groups_fit
  have last : 3 * (cf.address.toNat + j) + 2 <
      3 * (program.pairs.length + program.slots.length) := by omega
  obtain ⟨-, -, third'⟩ := toNat_slotDwords (by rw [here]; omega :
    3 * (cf.instruction.address + BitVec.ofNat 32 j).toNat + 2 < 2 ^ 32)
  refine slotLine_words ?_ first second third kind
  rw [BitVec.le_def, BitVec.toNat_ofNat, length_assemble, Nat.mod_eq_of_lt fits, third', here]
  omega

/-- The lines of a control-flow instruction and its block. -/
theorem controlFlowLines_code {pair : ControlFlowCode × ControlFlowCode}
    (listed : pair ∈ program.pairs) {cf : ControlFlowCode} (half : cf ∈ [pair.1, pair.2])
    (i which : Nat) :
    controlFlowLines program.assemble (BitVec.ofNat 32 program.assemble.length)
      (BitVec.ofNat 32 i) which cf.instruction = program.codeLines i which cf := by
  unfold controlFlowLines codeLines
  congr 1
  by_cases block : isExecFamily cf.opcode = true
  · have behind := program.outside pair listed cf half block
    have count : cf.instruction.count.toNat = cf.count.toNat := by
      rw [ControlFlowCode.instruction, BitVec.toNat_setWidth,
        Nat.mod_eq_of_lt (cf.count.isLt.trans (by decide))]
    have block' : isExecFamily cf.instruction.opcode = true := block
    rw [if_neg (not_not.2 block'), if_pos block, count]
    apply List.ext_getElem?
    intro j
    rw [List.getElem?_map, List.getElem?_mapIdx]
    by_cases inBlock : j < cf.count.toNat
    · obtain ⟨slot, at_j, kind⟩ := program.kinds pair listed cf half block j inBlock
      have place : cf.address.toNat - program.pairs.length + j =
          cf.address.toNat + j - program.pairs.length := by omega
      rw [List.getElem?_range inBlock, List.getElem?_take_of_lt inBlock, List.getElem?_drop, place,
        at_j, Option.map_some, Option.map_some, program.slotLine_slot behind at_j kind]
    · rw [List.getElem?_eq_none (by rw [List.length_range]; omega),
        List.getElem?_eq_none (by rw [List.length_take]; omega)]
      rfl
  · have block' : ¬isExecFamily cf.instruction.opcode = true := block
    rw [if_pos block', if_neg block]

theorem controlFlowFrom_assemble {before rest : List (ControlFlowCode × ControlFlowCode)}
    (parts : program.pairs = before ++ rest) :
    controlFlowFrom program.assemble rest.length (BitVec.ofNat 32 before.length) =
      rest.flatMap fun (a, b) => [a.instruction, b.instruction] := by
  induction rest generalizing before with
  | nil => rfl
  | cons pair rest ih =>
      obtain ⟨a, b⟩ := pair
      have here : program.pairs[before.length]? = some (a, b) := by
        rw [parts, List.getElem?_append_right (Nat.le_refl _), Nat.sub_self]
        rfl
      have next : (before ++ [(a, b)]).length = before.length + 1 := List.length_append
      have later := @ih (before ++ [(a, b)]) (by rw [parts, List.append_assoc]; rfl)
      rw [next] at later
      rw [List.length_cons, controlFlowFrom, program.unpack_pair here, ofNat_succ_pair, later]
      rfl

theorem mem_controlFlow {cf : ControlFlowInstruction} :
    cf ∈ controlFlowFrom program.assemble program.pairs.length 0 ↔
      ∃ pair ∈ program.pairs, ∃ code ∈ [pair.1, pair.2], code.instruction = cf := by
  have all := @controlFlowFrom_assemble program [] program.pairs rfl
  rw [show controlFlowFrom program.assemble program.pairs.length 0 = _ from all]
  simp only [List.mem_flatMap, List.mem_cons, List.not_mem_nil, or_false]
  constructor
  · rintro ⟨⟨a, b⟩, listed, rfl | rfl⟩
    · exact ⟨(a, b), listed, a, .inl rfl, rfl⟩
    · exact ⟨(a, b), listed, b, .inr rfl, rfl⟩
  · rintro ⟨⟨a, b⟩, listed, code, rfl | rfl, rfl⟩
    · exact ⟨(code, b), listed, .inl rfl⟩
    · exact ⟨(a, code), listed, .inr rfl⟩

/-- The control flow of an assembled program ends where its slots begin. -/
theorem controlFlowEndsAt : ControlFlowEndsAt program.assemble program.pairs.length where
  outside := by
    intro cf listed block
    obtain ⟨pair, isPair, code, half, rfl⟩ := program.mem_controlFlow.mp listed
    rw [toNat_instruction_address]
    exact program.outside pair isPair code half block
  reached := by
    obtain ⟨pair, isPair, code, half, block, here⟩ := program.reached
    refine ⟨code.instruction, program.mem_controlFlow.mpr ⟨pair, isPair, code, half, rfl⟩, block, ?_⟩
    rw [toNat_instruction_address, here]

/-- From any pair on the listing is that of the remaining pairs.  The induction is on these;
the invariant of the scan keeps its bound at the first slot or behind. -/
theorem linesFrom_assemble {before rest : List (ControlFlowCode × ControlFlowCode)}
    (parts : program.pairs = before ++ rest) {rounds : Nat} {cfEndDword : Word}
    (enough : rest.length ≤ rounds)
    (invariant : ScanInvariant program.assemble program.pairs.length before.length cfEndDword) :
    linesFrom program.assemble (BitVec.ofNat 32 program.assemble.length) rounds
      (BitVec.ofNat 32 before.length) cfEndDword = program.linesOf before.length rest := by
  have whole : program.pairs.length = before.length + rest.length := by
    rw [parts, List.length_append]
  have fits : program.pairs.length * 3 < 2 ^ 32 := by
    have := program.fits
    omega
  have start := toNat_pairStart fits (by omega : before.length ≤ program.pairs.length)
  induction rest generalizing before rounds cfEndDword with
  | nil =>
      have last : before.length = program.pairs.length := by simpa using whole.symm
      have reached : cfEndDword.toNat = program.pairs.length * 3 := by
        rcases invariant.reached with already | ⟨cf, listed, -⟩
        · exact already
        · rw [last, Nat.sub_self] at listed
          cases listed
      have outside : ¬ BitVec.ofNat 32 before.length * 3 < cfEndDword := by
        rw [BitVec.lt_def, start, reached]
        omega
      cases rounds with
      | zero => rfl
      | succ rounds =>
          rw [linesFrom, if_neg outside]
          rfl
  | cons pair rest ih =>
      obtain ⟨a, b⟩ := pair
      have here : program.pairs[before.length]? = some (a, b) := by
        rw [parts, List.getElem?_append_right (Nat.le_refl _), Nat.sub_self]
        rfl
      have listed : (a, b) ∈ program.pairs := List.mem_of_getElem? here
      have unpacked := program.unpack_pair here
      have lower := invariant.lower
      have more : before.length < program.pairs.length := by
        rw [whole, List.length_cons]
        omega
      have inside : BitVec.ofNat 32 before.length * 3 < cfEndDword := by
        rw [BitVec.lt_def, start]
        omega
      have next : (before ++ [(a, b)]).length = before.length + 1 := List.length_append
      have parts' : program.pairs = (before ++ [(a, b)]) ++ rest := by
        rw [parts, List.append_assoc]
        rfl
      obtain ⟨rounds, rfl⟩ : ∃ remaining, rounds = remaining + 1 :=
        ⟨rounds - 1, by rw [List.length_cons] at enough; omega⟩
      have later := @ih (before ++ [(a, b)]) parts' rounds
        (controlFlowEnd b.instruction (controlFlowEnd a.instruction cfEndDword))
        (by rw [List.length_cons] at enough; omega) (by rw [next]; exact invariant.next more unpacked)
        (by rw [parts', List.length_append])
        (toNat_pairStart fits (by rw [next]; omega))
      rw [next] at later
      rw [linesFrom, if_pos inside, unpacked]
      dsimp only
      rw [ofNat_succ_pair, later, program.controlFlowLines_code listed (by simp),
        program.controlFlowLines_code listed (by simp)]
      rfl

/-- Whatever program is assembled, and whatever its unread bits are, the disassembler lists
its control flow and the slots of each block in order, every field as it was assembled, and
takes no slot for control flow. -/
theorem disassembly_assemble :
    disassembly program.assemble (BitVec.ofNat 32 program.assemble.length) = program.listing := by
  have fits := program.fits
  have size : (BitVec.ofNat 32 program.assemble.length).toNat =
      3 * (program.pairs.length + program.slots.length) := by
    rw [length_assemble, BitVec.toNat_ofNat, Nat.mod_eq_of_lt fits]
  have limit : (BitVec.ofNat 32 program.assemble.length / 3 * 3).toNat =
      3 * (program.pairs.length + program.slots.length) := by
    rw [BitVec.toNat_mul, BitVec.toNat_udiv, size, show (3 : Word).toNat = 3 from rfl]
    omega
  have ends := program.controlFlowEndsAt
  have start : ScanInvariant program.assemble program.pairs.length 0
      (BitVec.ofNat 32 program.assemble.length / 3 * 3) :=
    ⟨by omega, ends.outside, .inr ends.reached⟩
  exact @linesFrom_assemble program [] program.pairs rfl _ _ (by omega) start

/-- One pair, whose second half runs a fetch and a move. -/
def fetchAndMove : ShaderProgram where
  pairs := [(⟨.kNop, 0, 0, 0, (1, 7)⟩, ⟨.kExecEnd, 1, 2, 1, (0, 0xFFFF)⟩)]
  slots := [.vertexFetch ⟨3, 2, 1, 0, 57, 3, -1, false, 0x688, (0, 1, 2, 3, 4, 1, 0)⟩,
    .alu ⟨2, 50, 62, 0, 15, 0, 1, 1, 0, true, true, false, 0, 0, 0, false, true, false, false,
      (1, 2, 3, 0, 5)⟩]
  outside := by decide
  reached := by decide
  kinds := by
    intro pair listed cf half block j inBlock
    obtain rfl := List.mem_singleton.mp listed
    obtain rfl | rfl := List.mem_pair.mp half
    · exact absurd block (by decide)
    · have small : j < 2 := inBlock
      obtain rfl | rfl : j = 0 ∨ j = 1 := by omega
      · exact ⟨_, rfl, by decide⟩
      · exact ⟨_, rfl, by decide⟩
  fits := by decide

theorem disassembly_assemble_fetchAndMove :
    disassembly fetchAndMove.assemble (BitVec.ofNat 32 fetchAndMove.assemble.length) =
      fetchAndMove.listing :=
  fetchAndMove.disassembly_assemble

end ShaderProgram

end BumpinHost.Shader
