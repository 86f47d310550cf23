import BumpinHost.Shader.ProgramEnd
import BumpinHost.Shader.TranslationTrace

/-!
# Where the control-flow scan ends

The end of the control-flow program is found while it is scanned, and only moves
towards the front.  When the first slots are control-flow pairs, and the nearest block
they name begins right after them, the scan reads exactly these pairs.  It never takes
an instruction slot for control flow, whatever the slots contain.
-/

namespace BumpinHost.Shader

/-- The pairs that lie before all blocks named so far, from pair `i` on. -/
def pairsFrom (dwords : List Word) : Nat → Word → Word → List Word
  | 0, _, _ => []
  | rounds + 1, i, cfEndDword =>
      if i * 3 < cfEndDword then
        let (a, b) := unpackControlFlowPair (dwordAt dwords (i * 3))
          (dwordAt dwords (i * 3 + 1)) (dwordAt dwords (i * 3 + 2))
        i :: pairsFrom dwords rounds (i + 1) (controlFlowEnd b (controlFlowEnd a cfEndDword))
      else
        []

theorem listedPairs_append (lines lines' : List DisassemblyLine) :
    listedPairs (lines ++ lines') = listedPairs lines ++ listedPairs lines' :=
  List.filterMap_append

theorem listedPairs_slotLines (dwords : List Word) (dwordCount : Word)
    (cf : ControlFlowInstruction) (slots : List Nat) :
    listedPairs (slots.map (slotLine dwords dwordCount cf)) = [] := by
  have none : ∀ j, listedPairs [slotLine dwords dwordCount cf j] = [] := by
    intro j
    unfold slotLine
    dsimp only
    split
    · rfl
    · split
      · split <;> rfl
      · rfl
  induction slots with
  | nil => rfl
  | cons j slots ih =>
      rw [List.map_cons, ← List.singleton_append, listedPairs_append, none, ih]
      rfl

/-- A pair is shown once, by its first half. -/
theorem listedPairs_controlFlowLines (dwords : List Word) (dwordCount pair : Word)
    (which : Nat) (cf : ControlFlowInstruction) :
    listedPairs (controlFlowLines dwords dwordCount pair which cf) =
      if which = 0 then [pair] else [] := by
  have slots : listedPairs (if ¬ isExecFamily cf.opcode then []
      else (List.range cf.count.toNat).map (slotLine dwords dwordCount cf)) = [] := by
    split
    · rfl
    · exact listedPairs_slotLines dwords dwordCount cf _
  rw [controlFlowLines, ← List.singleton_append, listedPairs_append, slots, List.append_nil]
  cases which with
  | zero => rfl
  | succ which => rfl

theorem listedPairs_linesFrom (dwords : List Word) (dwordCount : Word) (rounds : Nat)
    (i cfEndDword : Word) :
    listedPairs (linesFrom dwords dwordCount rounds i cfEndDword) =
      pairsFrom dwords rounds i cfEndDword := by
  induction rounds generalizing i cfEndDword with
  | zero => rfl
  | succ rounds ih =>
      unfold linesFrom pairsFrom
      split
      · dsimp only
        rw [listedPairs_append, listedPairs_append, listedPairs_controlFlowLines,
          listedPairs_controlFlowLines, ih]
        rfl
      · rfl

theorem unpackedPairs_append (events events' : List TranslateEvent) :
    unpackedPairs (events ++ events') = unpackedPairs events ++ unpackedPairs events' :=
  List.filterMap_append

/-- Reading a slot unpacks nothing. -/
theorem tracedSlot_unpacks (dwords : List Word) (dwordCount : Word) (shaderType : Int)
    (cf : ControlFlowInstruction) (st : TranslateState) (j : Nat) :
    ∀ event ∈ (tracedSlot dwords dwordCount shaderType cf st j).events,
      ∀ pair, event ≠ .unpack pair := by
  unfold tracedSlot
  dsimp only
  split
  · exact fun event listed => absurd listed List.not_mem_nil
  · rw [Traced.bind_of_ok rfl]
    intro event listed pair
    have slot : event = .slot (cf.address + BitVec.ofNat 32 j) (isFetchSlot cf j) := by
      split at listed <;> exact List.mem_singleton.mp listed
    rw [slot]
    exact TranslateEvent.noConfusion

theorem tracedControlFlow_unpacks (dwords : List Word) (dwordCount : Word)
    (shaderType : Int) (cf : ControlFlowInstruction) (cfEndDword : Word)
    (st : TranslateState) :
    unpackedPairs (tracedControlFlow dwords dwordCount shaderType cf cfEndDword st).events =
      [] := by
  have slots := Traced.forall_foldlM
    (tracedSlot_unpacks dwords dwordCount shaderType cf) (List.range cf.count.toNat) st
  unfold unpackedPairs
  rw [List.filterMap_eq_nil_iff]
  intro event listed
  unfold tracedControlFlow at listed
  dsimp only at listed
  split at listed
  · cases listed
  · split at listed
    · split at listed <;> cases listed
    · have inSlots : event ∈ ((List.range cf.count.toNat).foldlM
          (tracedSlot dwords dwordCount shaderType cf) st).events := by
        cases folded : ((List.range cf.count.toNat).foldlM
            (tracedSlot dwords dwordCount shaderType cf) st).result with
        | error reason =>
            rw [Traced.bind_of_error folded] at listed
            exact listed
        | ok st' =>
            rw [Traced.bind_of_ok folded] at listed
            exact (List.mem_append.mp listed).resolve_right List.not_mem_nil
      cases event with
      | unpack pair => exact absurd rfl (slots _ inSlots pair)
      | slot slot isFetch => rfl

/-- The computation unpacks these pairs in order, or fails before it has unpacked all of
them. -/
def Unpacks {Value : Type} (computation : TracedTranslation Value) (pairs : List Word) :
    Prop :=
  unpackedPairs computation.events <+: pairs ∧
    ∀ value, computation.result = .ok value → unpackedPairs computation.events = pairs

theorem Unpacks.of_eq {Value : Type} {computation : TracedTranslation Value}
    {pairs : List Word} (all : unpackedPairs computation.events = pairs) :
    Unpacks computation pairs :=
  ⟨all ▸ List.prefix_refl _, fun _ _ => all⟩

theorem Unpacks.bind {Value Result : Type} {first : TracedTranslation Value}
    {next : Value → TracedTranslation Result} {pairs pairs' : List Word}
    (before : Unpacks first pairs)
    (after : ∀ value, first.result = .ok value → Unpacks (next value) pairs') :
    Unpacks (first >>= next) (pairs ++ pairs') := by
  cases ended : first.result with
  | error reason =>
      constructor
      · rw [Traced.bind_of_error ended]
        exact before.1.trans (List.prefix_append _ _)
      · intro value succeeds
        rw [Traced.result_bind, ended] at succeeds
        cases succeeds
  | ok value =>
      obtain ⟨shown, all⟩ := after value ended
      unfold Unpacks
      rw [Traced.bind_of_ok ended, unpackedPairs_append, before.2 value ended]
      constructor
      · exact (List.prefix_append_right_inj pairs).mpr shown
      · intro result succeeds
        rw [Traced.result_bind, ended] at succeeds
        rw [all result succeeds]

/-- A walk unpacks the pairs of the scan in order, until it fails.  The induction is on
the rounds of the walk. -/
theorem tracedWalk_unpacks (dwords : List Word) (dwordCount : Word) (shaderType : Int)
    (rounds : Nat) (i cfEndDword : Word) (st : TranslateState) :
    Unpacks (tracedWalk dwords dwordCount shaderType rounds i cfEndDword st)
      (pairsFrom dwords rounds i cfEndDword) := by
  have block := fun cf cfEndDword st => Unpacks.of_eq
    (tracedControlFlow_unpacks dwords dwordCount shaderType cf cfEndDword st)
  have ending : ∀ {cf cfEndDword st next},
      (tracedControlFlow dwords dwordCount shaderType cf cfEndDword st).result = .ok next →
        next.1 = controlFlowEnd cf cfEndDword := by
    intro cf cfEndDword st next accepted
    rw [tracedControlFlow_result] at accepted
    exact (translateControlFlow_cases accepted).1
  induction rounds generalizing i cfEndDword st with
  | zero => exact .of_eq rfl
  | succ rounds ih =>
      unfold tracedWalk pairsFrom
      by_cases inside : i * 3 < cfEndDword
      · rw [if_pos inside, if_pos inside]
        generalize unpackControlFlowPair (dwordAt dwords (i * 3))
          (dwordAt dwords (i * 3 + 1)) (dwordAt dwords (i * 3 + 2)) = pair
        obtain ⟨a, b⟩ := pair
        have unpack : Unpacks (Traced.log (.unpack i)) [i] := .of_eq rfl
        refine unpack.bind fun _ _ => (block a cfEndDword st).bind fun next1 first => ?_
        refine (block b next1.1 next1.2).bind fun next2 second => ?_
        have end1 := ending first
        have end2 := ending second
        rw [← end1, ← end2]
        exact ih (i + 1) next2.1 next2.2
      · rw [if_neg inside, if_neg inside]
        exact .of_eq rfl

/-- An instruction that names no block in front of slot `slots`. -/
def NamesNoBlockBefore (slots : Nat) (cf : ControlFlowInstruction) : Prop :=
  isExecFamily cf.opcode = true → slots ≤ cf.address.toNat

/-- An instruction that names a block at slot `slots`. -/
def NamesBlockAt (slots : Nat) (cf : ControlFlowInstruction) : Prop :=
  isExecFamily cf.opcode = true ∧ cf.address.toNat = slots

/-- The first `slots` slots are control flow: they name no block among themselves, and
one that begins right after them. -/
structure ControlFlowEndsAt (dwords : List Word) (slots : Nat) : Prop where
  outside : ∀ cf ∈ controlFlowFrom dwords slots 0, NamesNoBlockBefore slots cf
  reached : ∃ cf ∈ controlFlowFrom dwords slots 0, NamesBlockAt slots cf

theorem toNat_address_lt (word0 word1 : Word) :
    (decodeOneControlFlowInstruction word0 word1).address.toNat < 4096 := by
  unfold decodeOneControlFlowInstruction
  rw [BitVec.toNat_and]
  exact lt_of_le_of_lt Nat.and_le_right (by decide)

/-- The bound in natural numbers: an address times three does not wrap. -/
theorem toNat_controlFlowEnd {cf : ControlFlowInstruction}
    (small : cf.address.toNat < 4096) (cfEndDword : Word) :
    (controlFlowEnd cf cfEndDword).toNat =
      if isExecFamily cf.opcode then min (cf.address.toNat * 3) cfEndDword.toNat
      else cfEndDword.toNat := by
  have product : (cf.address * 3).toNat = cf.address.toNat * 3 := by
    rw [BitVec.toNat_mul]
    exact Nat.mod_eq_of_lt (by simp; omega)
  unfold controlFlowEnd
  by_cases family : isExecFamily cf.opcode = true
  · by_cases lower : cf.address * 3 < cfEndDword
    · have lower' := BitVec.lt_def.mp lower
      rw [if_pos ⟨family, lower⟩, if_pos family, product]
      omega
    · have upper := BitVec.le_def.mp (BitVec.not_lt.mp lower)
      rw [if_neg (fun both => lower both.2), if_pos family]
      omega
  · rw [if_neg (fun both => family both.1), if_neg family]

/-- What is known of the bound when the scan reaches pair `i`: it is not in front of the
first instruction slot, and it is exactly there unless a pair still to come says so. -/
structure ScanInvariant (dwords : List Word) (slots i : Nat) (cfEndDword : Word) : Prop where
  lower : slots * 3 ≤ cfEndDword.toNat
  outside : ∀ cf ∈ controlFlowFrom dwords (slots - i) (BitVec.ofNat 32 i),
    NamesNoBlockBefore slots cf
  reached : cfEndDword.toNat = slots * 3 ∨
    ∃ cf ∈ controlFlowFrom dwords (slots - i) (BitVec.ofNat 32 i), NamesBlockAt slots cf

/-- One half of a pair keeps the bound, and puts it right when it names the block. -/
theorem bound_controlFlowEnd {slots : Nat} {cf : ControlFlowInstruction} {cfEndDword : Word}
    (small : cf.address.toNat < 4096) (outside : NamesNoBlockBefore slots cf)
    (lower : slots * 3 ≤ cfEndDword.toNat) :
    slots * 3 ≤ (controlFlowEnd cf cfEndDword).toNat ∧
      (cfEndDword.toNat = slots * 3 ∨ NamesBlockAt slots cf →
        (controlFlowEnd cf cfEndDword).toNat = slots * 3) := by
  rw [toNat_controlFlowEnd small]
  by_cases family : isExecFamily cf.opcode = true
  · have further := outside family
    rw [if_pos family]
    refine ⟨by omega, ?_⟩
    rintro (already | ⟨-, here⟩)
    · omega
    · omega
  · rw [if_neg family]
    refine ⟨lower, ?_⟩
    rintro (already | ⟨block, -⟩)
    · exact already
    · exact absurd block family

theorem toNat_pairStart {slots i : Nat} (fits : slots * 3 < 2 ^ 32) (before : i ≤ slots) :
    (BitVec.ofNat 32 i * 3).toNat = i * 3 := by
  rw [BitVec.toNat_mul, BitVec.toNat_ofNat]
  have small : i % 2 ^ 32 = i := Nat.mod_eq_of_lt (by omega)
  rw [small]
  exact Nat.mod_eq_of_lt (by simp; omega)

theorem ofNat_succ_pair (i : Nat) : BitVec.ofNat 32 i + 1 = BitVec.ofNat 32 (i + 1) := by
  rw [BitVec.ofNat_add]
  rfl

/-- Reading a pair of the control-flow program keeps the invariant. -/
theorem ScanInvariant.next {dwords : List Word} {slots i : Nat} {cfEndDword : Word}
    (invariant : ScanInvariant dwords slots i cfEndDword) (before : i < slots)
    {a b : ControlFlowInstruction}
    (unpacked : unpackControlFlowPair (dwordAt dwords (BitVec.ofNat 32 i * 3))
      (dwordAt dwords (BitVec.ofNat 32 i * 3 + 1)) (dwordAt dwords (BitVec.ofNat 32 i * 3 + 2)) =
        (a, b)) :
    ScanInvariant dwords slots (i + 1) (controlFlowEnd b (controlFlowEnd a cfEndDword)) := by
  have remaining : slots - i = slots - (i + 1) + 1 := by omega
  have listed : controlFlowFrom dwords (slots - i) (BitVec.ofNat 32 i) =
      a :: b :: controlFlowFrom dwords (slots - (i + 1)) (BitVec.ofNat 32 (i + 1)) := by
    rw [remaining, controlFlowFrom, unpacked, ofNat_succ_pair]
  obtain ⟨lower, outside, reached⟩ := invariant
  rw [listed] at outside reached
  obtain ⟨outsideA, outsideB, later⟩ :=
    (List.forall_mem_cons.mp outside).imp_right List.forall_mem_cons.mp
  have smallA : a.address.toNat < 4096 := by
    obtain rfl := congrArg Prod.fst unpacked
    exact toNat_address_lt _ _
  have smallB : b.address.toNat < 4096 := by
    obtain rfl := congrArg Prod.snd unpacked
    exact toNat_address_lt _ _
  obtain ⟨lowerA, exactA⟩ := bound_controlFlowEnd smallA outsideA lower
  obtain ⟨lowerB, exactB⟩ := bound_controlFlowEnd smallB outsideB lowerA
  refine ⟨lowerB, later, ?_⟩
  rcases reached with already | ⟨cf, listed, block⟩
  · exact .inl (exactB (.inl (exactA (.inl already))))
  · rcases List.mem_cons.mp listed with rfl | rest
    · exact .inl (exactB (.inl (exactA (.inr block))))
    · rcases List.mem_cons.mp rest with rfl | rest
      · exact .inl (exactB (.inr block))
      · exact .inr ⟨cf, rest, block⟩

/-- From a pair of the control-flow program on, the scan reads the pairs up to its end.
The induction is on the rounds, of which there are enough. -/
theorem pairsFrom_eq {dwords : List Word} {slots : Nat} (fits : slots * 3 < 2 ^ 32)
    {rounds i : Nat} {cfEndDword : Word} (before : i ≤ slots) (enough : slots ≤ rounds + i)
    (invariant : ScanInvariant dwords slots i cfEndDword) :
    pairsFrom dwords rounds (BitVec.ofNat 32 i) cfEndDword =
      (List.range' i (slots - i)).map (BitVec.ofNat 32) := by
  induction rounds generalizing i cfEndDword with
  | zero =>
      have done : slots - i = 0 := by omega
      rw [done]
      rfl
  | succ rounds ih =>
      have start := toNat_pairStart fits before
      unfold pairsFrom
      rcases Nat.lt_or_eq_of_le before with more | done
      · have remaining : slots - i = slots - (i + 1) + 1 := by omega
        have lower := invariant.lower
        have inside : BitVec.ofNat 32 i * 3 < cfEndDword := by
          rw [BitVec.lt_def, start]
          omega
        generalize pair : unpackControlFlowPair (dwordAt dwords (BitVec.ofNat 32 i * 3))
          (dwordAt dwords (BitVec.ofNat 32 i * 3 + 1))
          (dwordAt dwords (BitVec.ofNat 32 i * 3 + 2)) = unpacked
        obtain ⟨a, b⟩ := unpacked
        rw [if_pos inside, remaining, List.range'_succ, List.map_cons]
        dsimp only
        rw [ofNat_succ_pair, ih (by omega) (by omega) (invariant.next more pair)]
      · subst done
        have reached : cfEndDword.toNat = i * 3 := by
          rcases invariant.reached with already | ⟨cf, listed, -⟩
          · exact already
          · rw [Nat.sub_self] at listed
            cases listed
        have outside : ¬ BitVec.ofNat 32 i * 3 < cfEndDword := by
          rw [BitVec.lt_def, start]
          omega
        rw [if_neg outside, Nat.sub_self]
        rfl

/-- When the first `slots` slots are the control-flow program, the disassembler unpacks
exactly these as pairs, and so does the translator, unless it fails before that. -/
theorem controlFlowScan_exact (dwords : List Word) (dwordCount : Word) (shaderType : Int)
    (slots : Nat) (fits : 3 * slots ≤ dwordCount.toNat)
    (ends : ControlFlowEndsAt dwords slots) :
    listedPairs (disassembly dwords dwordCount) = (List.range slots).map (BitVec.ofNat 32) ∧
      Unpacks (tracedShaderWalk dwords dwordCount shaderType)
        ((List.range slots).map (BitVec.ofNat 32)) := by
  have bound := dwordCount.isLt
  have limit : (dwordCount / 3 * 3).toNat = dwordCount.toNat / 3 * 3 := by
    rw [BitVec.toNat_mul, BitVec.toNat_udiv]
    exact Nat.mod_eq_of_lt (by simp; omega)
  have start : ScanInvariant dwords slots 0 (dwordCount / 3 * 3) :=
    ⟨by omega, ends.outside, .inr ends.reached⟩
  have pairs : pairsFrom dwords (dwordCount.toNat / 3) 0 (dwordCount / 3 * 3) =
      (List.range slots).map (BitVec.ofNat 32) := by
    rw [List.range_eq_range']
    exact pairsFrom_eq (by omega) (Nat.zero_le slots) (by omega) start
  constructor
  · rw [disassembly, listedPairs_linesFrom, pairs]
  · rw [← pairs]
    exact tracedWalk_unpacks dwords dwordCount shaderType _ _ _ _

/-- Two pairs, of which only the last half names a block, and a slot that would be
control flow if it were read as a pair. -/
def secondHalfMicrocode : List Word :=
  [0, 0, 0, 0, 0x10020000, 0x20000000, 0x1000, 0x2000, 0]

theorem controlFlowScan_exact_secondHalf :
    listedPairs (disassembly secondHalfMicrocode 9) = (List.range 2).map (BitVec.ofNat 32) ∧
      Unpacks (tracedShaderWalk secondHalfMicrocode 9 0)
        ((List.range 2).map (BitVec.ofNat 32)) := by
  apply controlFlowScan_exact secondHalfMicrocode 9 0 2 (by decide)
  constructor
  · unfold NamesNoBlockBefore
    decide +kernel
  · unfold NamesBlockAt
    decide +kernel

end BumpinHost.Shader
