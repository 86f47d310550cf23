import BumpinHost.Library.Traced
import BumpinHost.Shader.Disassembly
import BumpinHost.Shader.Recognition

/-!
# The translator and the disassembler read the same program

The translator is run with a trace of the pairs it unpacks and the slots it reads.
Forgetting the trace gives back the translator.  A walk that succeeds has read exactly
the instructions that the disassembler lists, and the listing shows nothing that the
translator does not support.
-/

namespace BumpinHost.Shader

inductive TranslateEvent
  | unpack (pair : Word)
  | slot (slot : Word) (isFetch : Bool)
deriving DecidableEq, Repr

abbrev TracedTranslation := Traced TranslateEvent String

def tracedSlot (dwords : List Word) (dwordCount : Word) (shaderType : Int)
    (cf : ControlFlowInstruction) (st : TranslateState) (j : Nat) :
    TracedTranslation TranslateState :=
  let slot := cf.address + BitVec.ofNat 32 j
  let slotDwordStart := slot * 3
  if dwordCount ≤ slotDwordStart + 2 then
    Traced.lift (.error
      "control-flow address/count referenced a slot past the real microcode end")
  else do
    let iw0 := dwordAt dwords slotDwordStart
    let iw1 := dwordAt dwords (slotDwordStart + 1)
    let iw2 := dwordAt dwords (slotDwordStart + 2)
    Traced.log (.slot slot (isFetchSlot cf j))
    if isFetchSlot cf j then Traced.lift (translateFetch st iw0 iw1 iw2)
    else Traced.lift (translateAlu shaderType st iw0 iw1 iw2)

def tracedControlFlow (dwords : List Word) (dwordCount : Word) (shaderType : Int)
    (cf : ControlFlowInstruction) (cfEndDword : Word) (st : TranslateState) :
    TracedTranslation (Word × TranslateState) :=
  let isUnconditionalExec := cf.opcode = .kExec ∨ cf.opcode = .kExecEnd
  if isExecFamily cf.opcode ∧ ¬ isUnconditionalExec then
    Traced.lift (.error "conditional control flow not supported")
  else if ¬ isExecFamily cf.opcode then
    if cf.opcode ≠ .kNop ∧ cf.opcode ≠ .kAlloc then
      Traced.lift (.error "unsupported control-flow opcode")
    else
      pure (cfEndDword, st)
  else do
    let candidateEnd := cf.address * 3
    let cfEndDword := if candidateEnd < cfEndDword then candidateEnd else cfEndDword
    let st ← (List.range cf.count.toNat).foldlM
      (tracedSlot dwords dwordCount shaderType cf) st
    return (cfEndDword, st)

def tracedWalk (dwords : List Word) (dwordCount : Word) (shaderType : Int) :
    Nat → Word → Word → TranslateState → TracedTranslation TranslateState
  | 0, _, _, st => pure st
  | rounds + 1, i, cfEndDword, st =>
      if i * 3 < cfEndDword then do
        let (a, b) := unpackControlFlowPair (dwordAt dwords (i * 3))
          (dwordAt dwords (i * 3 + 1)) (dwordAt dwords (i * 3 + 2))
        Traced.log (.unpack i)
        let (cfEndDword, st) ← tracedControlFlow dwords dwordCount shaderType a cfEndDword st
        let (cfEndDword, st) ← tracedControlFlow dwords dwordCount shaderType b cfEndDword st
        tracedWalk dwords dwordCount shaderType rounds (i + 1) cfEndDword st
      else
        pure st

/-- The walk of `translateShader`, with its trace. -/
def tracedShaderWalk (dwords : List Word) (dwordCount : Word) (shaderType : Int) :
    TracedTranslation TranslateState :=
  tracedWalk dwords dwordCount shaderType (dwordCount.toNat / 3) 0 (dwordCount / 3 * 3)
    .initial

theorem tracedSlot_result (dwords : List Word) (dwordCount : Word) (shaderType : Int)
    (cf : ControlFlowInstruction) (st : TranslateState) (j : Nat) :
    (tracedSlot dwords dwordCount shaderType cf st j).result =
      translateSlot dwords dwordCount shaderType cf st j := by
  unfold tracedSlot translateSlot
  dsimp only
  split
  · rfl
  · split <;> rfl

theorem tracedControlFlow_result (dwords : List Word) (dwordCount : Word)
    (shaderType : Int) (cf : ControlFlowInstruction) (cfEndDword : Word)
    (st : TranslateState) :
    (tracedControlFlow dwords dwordCount shaderType cf cfEndDword st).result =
      translateControlFlow dwords dwordCount shaderType cf cfEndDword st := by
  unfold tracedControlFlow translateControlFlow
  dsimp only
  split
  · rfl
  · split
    · split <;> rfl
    · rw [Traced.result_bind, Traced.result_foldlM]
      simp only [tracedSlot_result]
      rfl

theorem tracedWalk_result (dwords : List Word) (dwordCount : Word) (shaderType : Int)
    (rounds : Nat) (i cfEndDword : Word) (st : TranslateState) :
    (tracedWalk dwords dwordCount shaderType rounds i cfEndDword st).result =
      translateWalk dwords dwordCount shaderType rounds i cfEndDword st := by
  induction rounds generalizing i cfEndDword st with
  | zero => rfl
  | succ rounds ih =>
      unfold tracedWalk translateWalk
      split
      · simp only [Traced.result_bind, Traced.result_log, tracedControlFlow_result, ih]
        rfl
      · rfl

/-- The instructions that the translator has processed, in order. -/
def processedInstructions (events : List TranslateEvent) : List ListedInstruction :=
  events.filterMap fun event =>
    match event with
    | .unpack _ => none
    | .slot slot isFetch => some (slot, isFetch)

/-- The pairs that the translator has unpacked as control flow, in order. -/
def unpackedPairs (events : List TranslateEvent) : List Word :=
  events.filterMap fun event =>
    match event with
    | .unpack pair => some pair
    | .slot _ _ => none

/-- What processing an accepted slot leaves in the trace. -/
def slotEvents (cf : ControlFlowInstruction) (j : Nat) : List TranslateEvent :=
  [.slot (cf.address + BitVec.ofNat 32 j) (isFetchSlot cf j)]

theorem tracedSlot_events {dwords : List Word} {dwordCount : Word} {shaderType : Int}
    {cf : ControlFlowInstruction} {st st' : TranslateState} {j : Nat}
    (succeeds : (tracedSlot dwords dwordCount shaderType cf st j).result = .ok st') :
    (tracedSlot dwords dwordCount shaderType cf st j).events = slotEvents cf j := by
  rw [tracedSlot_result] at succeeds
  have inside := (translateSlot_cases succeeds).1
  unfold tracedSlot
  dsimp only
  rw [if_neg (BitVec.not_le.mpr inside), Traced.bind_of_ok rfl]
  split <;> rfl

/-- The listing of an accepted slot shows the instruction, and it is supported. -/
theorem slotLine_of_translated {dwords : List Word} {dwordCount : Word} {shaderType : Int}
    {cf : ControlFlowInstruction} {st st' : TranslateState} {j : Nat}
    (translated : translateSlot dwords dwordCount shaderType cf st j = .ok st') :
    ¬ (slotLine dwords dwordCount cf j).Unsupported := by
  obtain ⟨inside, kind⟩ := translateSlot_cases translated
  unfold slotLine
  dsimp only
  rw [if_neg (BitVec.not_le.mpr inside)]
  obtain ⟨fetch, accepted⟩ | ⟨alu, -⟩ := kind
  · obtain ⟨format, vertexFetch, -⟩ := translateFetch_cases accepted
    have fetches : isFetchSlot cf j = true := fetch
    have plain : ¬ dwordAt dwords ((cf.address + BitVec.ofNat 32 j) * 3) &&& 0x1F ≠ 0 :=
      not_not.mpr vertexFetch
    rw [if_pos fetches, if_neg plain]
    exact id
  · have computes : isFetchSlot cf j = false := alu
    rw [if_neg (by simp [computes])]
    exact id

/-- A supported slot is listed as itself. -/
theorem listedFrom_slotLine {dwords : List Word} {dwordCount : Word}
    {cf : ControlFlowInstruction} {j : Nat}
    (supported : ¬ (slotLine dwords dwordCount cf j).Unsupported)
    (rest : List DisassemblyLine) :
    listedFrom cf.address (slotLine dwords dwordCount cf j :: rest) =
      (cf.address + BitVec.ofNat 32 j, isFetchSlot cf j) :: listedFrom cf.address rest := by
  unfold slotLine at supported ⊢
  dsimp only at supported ⊢
  split at supported
  · exact absurd trivial supported
  · rename_i inside
    rw [if_neg inside]
    split at supported
    · rename_i fetch
      rw [if_pos fetch]
      split at supported
      · exact absurd trivial supported
      · rename_i vertexFetch
        rw [if_neg vertexFetch, fetch]
        rfl
    · rename_i alu
      rw [if_neg alu, Bool.eq_false_of_not_eq_true alu]
      rfl

theorem listedFrom_slotLines {dwords : List Word} {dwordCount : Word}
    {cf : ControlFlowInstruction} {slots : List Nat}
    (supported : ∀ j ∈ slots, ¬ (slotLine dwords dwordCount cf j).Unsupported)
    (rest : List DisassemblyLine) :
    listedFrom cf.address (slots.map (slotLine dwords dwordCount cf) ++ rest) =
      slots.map (fun j => (cf.address + BitVec.ofNat 32 j, isFetchSlot cf j)) ++
        listedFrom cf.address rest := by
  induction slots with
  | nil => rfl
  | cons j slots ih =>
      obtain ⟨first, others⟩ := List.forall_mem_cons.mp supported
      rw [List.map_cons, List.cons_append, listedFrom_slotLine first, ih others]
      rfl

/-- Every slot of a fold that succeeds was accepted. -/
theorem translateSlot_of_foldlM {dwords : List Word} {dwordCount : Word} {shaderType : Int}
    {cf : ControlFlowInstruction} {slots : List Nat} {st st' : TranslateState}
    (folded : slots.foldlM (translateSlot dwords dwordCount shaderType cf) st = .ok st') :
    ∀ j ∈ slots, ∃ before after,
      translateSlot dwords dwordCount shaderType cf before j = .ok after := by
  induction slots generalizing st with
  | nil => exact fun j listed => absurd listed List.not_mem_nil
  | cons j slots ih =>
      rw [List.foldlM_cons] at folded
      obtain ⟨middle, first, rest⟩ := Fallible.bind_eq_ok_iff.mp folded
      exact List.forall_mem_cons.mpr ⟨⟨st, middle, first⟩, ih rest⟩

theorem processedInstructions_append (events events' : List TranslateEvent) :
    processedInstructions (events ++ events') =
      processedInstructions events ++ processedInstructions events' :=
  List.filterMap_append

/-- Lines and events show the same instructions, and the lines nothing unsupported. -/
structure AgreesOn (lines : List DisassemblyLine) (events : List TranslateEvent) : Prop where
  listed : ∀ address rest, ∃ address',
    listedFrom address (lines ++ rest) =
      processedInstructions events ++ listedFrom address' rest
  supported : ∀ line ∈ lines, ¬ line.Unsupported

theorem AgreesOn.silent {events : List TranslateEvent}
    (none : processedInstructions events = []) : AgreesOn [] events := by
  constructor
  · intro address rest
    exact ⟨address, by rw [none]; rfl⟩
  · exact fun line listed => absurd listed List.not_mem_nil

theorem AgreesOn.append {lines lines' : List DisassemblyLine}
    {events events' : List TranslateEvent} (first : AgreesOn lines events)
    (second : AgreesOn lines' events') : AgreesOn (lines ++ lines') (events ++ events') := by
  constructor
  · intro address rest
    obtain ⟨middle, before⟩ := first.listed address (lines' ++ rest)
    obtain ⟨address', after⟩ := second.listed middle rest
    refine ⟨address', ?_⟩
    rw [List.append_assoc, before, after, processedInstructions_append, List.append_assoc]
  · exact List.forall_mem_append.mpr ⟨first.supported, second.supported⟩

theorem processedInstructions_slotEvents (cf : ControlFlowInstruction) (slots : List Nat) :
    processedInstructions (slots.flatMap (slotEvents cf)) =
      slots.map fun j => (cf.address + BitVec.ofNat 32 j, isFetchSlot cf j) := by
  induction slots with
  | nil => rfl
  | cons j slots ih =>
      rw [List.flatMap_cons, processedInstructions_append, ih]
      rfl

theorem tracedSlots_events {dwords : List Word} {dwordCount : Word} {shaderType : Int}
    {cf : ControlFlowInstruction} {st st' : TranslateState} {slots : List Nat}
    (folded : (slots.foldlM (tracedSlot dwords dwordCount shaderType cf) st).result =
      .ok st') :
    (slots.foldlM (tracedSlot dwords dwordCount shaderType cf) st).events =
      slots.flatMap (slotEvents cf) := by
  apply Traced.events_foldlM _ folded
  intro state item next accepted
  exact tracedSlot_events accepted

/-- What processing an accepted control-flow instruction leaves in the trace. -/
def blockEvents (cf : ControlFlowInstruction) : List TranslateEvent :=
  if isExecFamily cf.opcode then (List.range cf.count.toNat).flatMap (slotEvents cf) else []

theorem tracedControlFlow_events {dwords : List Word} {dwordCount : Word}
    {shaderType : Int} {cf : ControlFlowInstruction} {cfEndDword : Word}
    {st : TranslateState} {next : Word × TranslateState}
    (succeeds : (tracedControlFlow dwords dwordCount shaderType cf cfEndDword st).result =
      .ok next) :
    (tracedControlFlow dwords dwordCount shaderType cf cfEndDword st).events =
      blockEvents cf := by
  unfold tracedControlFlow at succeeds ⊢
  unfold blockEvents
  dsimp only at succeeds ⊢
  split
  · rename_i conditional
    rw [if_pos conditional] at succeeds
    cases succeeds
  · rename_i unconditional
    rw [if_neg unconditional] at succeeds
    by_cases family : isExecFamily cf.opcode = true
    · rw [if_neg (not_not.mpr family), Traced.result_bind] at succeeds
      obtain ⟨st', folded, -⟩ := Fallible.bind_eq_ok_iff.mp succeeds
      rw [if_neg (not_not.mpr family), if_pos family, Traced.bind_of_ok folded,
        tracedSlots_events folded]
      exact List.append_nil _
    · rw [if_pos family] at succeeds
      rw [if_pos family, if_neg family]
      split <;> rfl

/-- The listing of an accepted control-flow instruction shows what was processed. -/
theorem controlFlowLines_agrees {dwords : List Word} {dwordCount : Word}
    {shaderType : Int} {cf : ControlFlowInstruction} {cfEndDword cfEndDword' : Word}
    {st st' : TranslateState} (pair : Word) (which : Nat)
    (translated : translateControlFlow dwords dwordCount shaderType cf cfEndDword st =
      .ok (cfEndDword', st')) :
    AgreesOn (controlFlowLines dwords dwordCount pair which cf) (blockEvents cf) := by
  unfold controlFlowLines blockEvents
  obtain ⟨skipped, -⟩ | ⟨exec, folded⟩ := (translateControlFlow_cases translated).2
  · have outside : ¬ isExecFamily cf.opcode = true := by
      rcases skipped with skipped | skipped <;> rw [skipped] <;> decide
    rw [if_pos outside, if_neg outside]
    refine ⟨fun address rest => ⟨cf.address, rfl⟩, ?_⟩
    intro line listed
    rw [List.mem_singleton.mp listed]
    rcases skipped with skipped | skipped <;>
      simp [DisassemblyLine.Unsupported, skipped, ControlFlowOpcode.Branches]
  · have family : isExecFamily cf.opcode = true := by
      rcases exec with exec | exec <;> rw [exec] <;> rfl
    have supported : ∀ j ∈ List.range cf.count.toNat,
        ¬ (slotLine dwords dwordCount cf j).Unsupported := by
      intro j listed
      obtain ⟨before, after, accepted⟩ := translateSlot_of_foldlM folded j listed
      exact slotLine_of_translated accepted
    rw [if_neg (not_not.mpr family), if_pos family]
    constructor
    · intro address rest
      refine ⟨cf.address, ?_⟩
      rw [processedInstructions_slotEvents]
      exact listedFrom_slotLines supported rest
    · refine List.forall_mem_cons.mpr ⟨?_, ?_⟩
      · rcases exec with exec | exec <;>
          simp [DisassemblyLine.Unsupported, exec, ControlFlowOpcode.Branches]
      · intro line listed
        obtain ⟨j, inside, rfl⟩ := List.mem_map.mp listed
        exact supported j inside

/-- One accepted round of the traced walk. -/
theorem tracedWalk_succ {dwords : List Word} {dwordCount : Word} {shaderType : Int}
    {rounds : Nat} {i cfEndDword : Word} {st st' : TranslateState}
    {a b : ControlFlowInstruction}
    (unpacked : unpackControlFlowPair (dwordAt dwords (i * 3)) (dwordAt dwords (i * 3 + 1))
      (dwordAt dwords (i * 3 + 2)) = (a, b)) (inside : i * 3 < cfEndDword)
    (succeeds : (tracedWalk dwords dwordCount shaderType (rounds + 1) i cfEndDword st).result =
      .ok st') :
    ∃ st1 st2,
      translateControlFlow dwords dwordCount shaderType a cfEndDword st =
        .ok (controlFlowEnd a cfEndDword, st1) ∧
      translateControlFlow dwords dwordCount shaderType b (controlFlowEnd a cfEndDword) st1 =
        .ok (controlFlowEnd b (controlFlowEnd a cfEndDword), st2) ∧
      (tracedWalk dwords dwordCount shaderType rounds (i + 1)
        (controlFlowEnd b (controlFlowEnd a cfEndDword)) st2).result = .ok st' ∧
      (tracedWalk dwords dwordCount shaderType (rounds + 1) i cfEndDword st).events =
        [.unpack i] ++ (blockEvents a ++ (blockEvents b ++
          (tracedWalk dwords dwordCount shaderType rounds (i + 1)
            (controlFlowEnd b (controlFlowEnd a cfEndDword)) st2).events)) := by
  rw [tracedWalk_result] at succeeds
  obtain ⟨st1, st2, first, second, rest⟩ := translateWalk_succ unpacked inside succeeds
  have firstTraced := (tracedControlFlow_result _ _ _ _ _ _).trans first
  have secondTraced := (tracedControlFlow_result _ _ _ _ _ _).trans second
  rw [← tracedWalk_result] at rest
  refine ⟨st1, st2, first, second, rest, ?_⟩
  rw [tracedWalk, if_pos inside, unpacked]
  dsimp only
  rw [Traced.bind_of_ok rfl, Traced.bind_of_ok firstTraced, Traced.bind_of_ok secondTraced,
    tracedControlFlow_events firstTraced, tracedControlFlow_events secondTraced]
  rfl

/-- A walk that succeeds agrees with the listing.  The induction is on the rounds, which
both walks count alike. -/
theorem linesFrom_agrees {dwords : List Word} {dwordCount : Word} {shaderType : Int}
    {rounds : Nat} {i cfEndDword : Word} {st st' : TranslateState}
    (succeeds : (tracedWalk dwords dwordCount shaderType rounds i cfEndDword st).result =
      .ok st') :
    AgreesOn (linesFrom dwords dwordCount rounds i cfEndDword)
      (tracedWalk dwords dwordCount shaderType rounds i cfEndDword st).events := by
  induction rounds generalizing i cfEndDword st with
  | zero => exact .silent rfl
  | succ rounds ih =>
      by_cases inside : i * 3 < cfEndDword
      · generalize pair : unpackControlFlowPair (dwordAt dwords (i * 3))
          (dwordAt dwords (i * 3 + 1)) (dwordAt dwords (i * 3 + 2)) = unpacked
        obtain ⟨a, b⟩ := unpacked
        obtain ⟨st1, st2, first, second, rest, traced⟩ := tracedWalk_succ pair inside succeeds
        have unpack : AgreesOn [] [.unpack i] := .silent rfl
        have firstAgrees := controlFlowLines_agrees i 0 first
        have secondAgrees := controlFlowLines_agrees i 1 second
        rw [traced, linesFrom, if_pos inside, pair]
        dsimp only
        rw [List.append_assoc]
        exact unpack.append (firstAgrees.append (secondAgrees.append (ih rest)))
      · rw [linesFrom, tracedWalk, if_neg inside, if_neg inside]
        exact .silent rfl

theorem tracedShaderWalk_result (dwords : List Word) (dwordCount : Word)
    (shaderType : Int) :
    (tracedShaderWalk dwords dwordCount shaderType).result =
      translateWalk dwords dwordCount shaderType (dwordCount.toNat / 3) 0
        (dwordCount / 3 * 3) .initial :=
  tracedWalk_result _ _ _ _ _ _ _

/-- Whenever a translation succeeds, the translator has processed exactly the
instructions that the disassembler lists, in the same order, and the listing has no line
that is not supported; whenever the listing has such a line, the translation fails. -/
theorem translateShader_readsListing (dwords : List Word) (dwordCount : Word)
    (shaderType : Int) :
    ((translateShader dwords dwordCount shaderType).success = true →
      processedInstructions (tracedShaderWalk dwords dwordCount shaderType).events =
          listedInstructions (disassembly dwords dwordCount) ∧
        ∀ line ∈ disassembly dwords dwordCount, ¬ line.Unsupported) ∧
      ((∃ line ∈ disassembly dwords dwordCount, line.Unsupported) →
        (translateShader dwords dwordCount shaderType).success = false) := by
  have agrees : (translateShader dwords dwordCount shaderType).success = true →
      AgreesOn (disassembly dwords dwordCount)
        (tracedShaderWalk dwords dwordCount shaderType).events := by
    intro success
    obtain ⟨st, walked, -⟩ := translateShader_walked success
    apply linesFrom_agrees
    rw [tracedWalk_result]
    exact walked
  constructor
  · intro success
    obtain ⟨listed, supported⟩ := agrees success
    obtain ⟨address, same⟩ := listed 0 []
    refine ⟨?_, supported⟩
    rw [List.append_nil] at same
    exact ((same.trans (List.append_nil _))).symm
  · rintro ⟨line, listed, unsupported⟩
    by_contra succeeded
    exact (agrees (Bool.eq_true_of_not_eq_false succeeded)).supported line listed unsupported

end BumpinHost.Shader
