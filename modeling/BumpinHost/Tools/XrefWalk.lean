import BumpinHost.Tools.XrefWrites

/-!
# Whether a recorded address is the address of the store

On straight-line code the value of a register is the end of a chain: it starts with a
register of the caller, a literal, or what an instruction of another form assigned, and
additions and loads follow.  The tool keeps an expression for each chain that starts with
an argument or a literal, whatever other forms have assigned to its registers since, and
makes a load of an addition of zero to a loaded value.  So the address it records is the
one of the store in every execution when no other form and no such addition is in the
chain.
-/

namespace BumpinHost.Tools

open Memory

/-- An instruction that assigns a general register. -/
inductive Instruction
  | const (rd : Nat) (value : Int)
  | copy (rd rs : Nat)
  | addi (rd rs : Nat) (off : Int)
  | load (rd size rs : Nat) (off : Int)
  /-- Any form that the tool does not recognize. -/
  | unmodelled (rd : Nat)
deriving DecidableEq, Repr

/-- What the tool recognizes the instruction as. -/
def Instruction.form : Instruction → LineForm
  | .const rd value => .const rd value
  | .copy rd rs => .copy rd rs
  | .addi rd rs off => .addi rd rs off
  | .load rd size rs off => .load rd size rs off
  | .unmodelled _ => .other

/-- The register that the instruction assigns. -/
def Instruction.target : Instruction → Nat
  | .const rd _ | .copy rd _ | .addi rd _ _ | .load rd _ _ _ | .unmodelled rd => rd

/-- A line of a function body. -/
structure Assignment where
  raw : String
  instruction : Instruction
deriving DecidableEq, Repr

def Assignment.line (assignment : Assignment) : SourceLine :=
  ⟨assignment.raw, assignment.instruction.form⟩

/-- `PPC_LOAD_U8`, `PPC_LOAD_U16`, `PPC_LOAD_U32` and `PPC_LOAD_U64`. -/
def loadSized (mem : Memory) (size : Nat) (addr : Word) : BitVec 64 :=
  if size = 8 then (mem addr.toNat).setWidth 64
  else if size = 16 then (loadU16 mem addr.toNat).setWidth 64
  else if size = 64 then loadU64 mem addr
  else (loadU32 mem addr).setWidth 64

/-- An instruction at work.  A form that is not recognized may leave any value. -/
inductive Executes (mem : Memory) (regs : Nat → BitVec 64) :
    Instruction → (Nat → BitVec 64) → Prop
  | const (rd : Nat) (value : Int) :
      Executes mem regs (.const rd value) (Function.update regs rd (BitVec.ofInt 64 value))
  | copy (rd rs : Nat) :
      Executes mem regs (.copy rd rs) (Function.update regs rd (regs rs))
  | addi (rd rs : Nat) (off : Int) :
      Executes mem regs (.addi rd rs off)
        (Function.update regs rd (regs rs + BitVec.ofInt 64 off))
  | load (rd size rs : Nat) (off : Int) :
      Executes mem regs (.load rd size rs off)
        (Function.update regs rd
          (loadSized mem size ((regs rs).setWidth 32 + BitVec.ofInt 32 off)))
  | unmodelled (rd : Nat) (value : BitVec 64) :
      Executes mem regs (.unmodelled rd) (Function.update regs rd value)

inductive Execution (mem : Memory) (start : Nat → BitVec 64) :
    List Assignment → (Nat → BitVec 64) → Prop
  | refl : Execution mem start [] start
  | tail {before : List Assignment} {last : Assignment} {regs after : Nat → BitVec 64} :
      Execution mem start before regs → Executes mem regs last.instruction after →
        Execution mem start (before ++ [last]) after

/-- The low word of what an expression stands for.  The reading says how many bits are
loaded for a size: `id` reads as many as the size says, and `fun _ => 32` always a word. -/
def Expr.address (reading : Nat → Nat) (mem : Memory) (regs : Nat → BitVec 64) : Expr → Word
  | .const value => BitVec.ofInt 32 value
  | .param i => (regs (3 + i)).setWidth 32
  | .deref base off size =>
      (loadSized mem (reading size)
        (base.address reading mem regs + BitVec.ofInt 32 off)).setWidth 32
  | .addr base off => base.address reading mem regs + BitVec.ofInt 32 off
  | .storeAt base off => base.address reading mem regs + BitVec.ofInt 32 off

/-- A function body with a single store. -/
structure StoreBody where
  before : List Assignment
  raw : String
  size : Nat
  rs : Nat
  off : Int
  behind : List Assignment
deriving DecidableEq, Repr

def StoreBody.lines (body : StoreBody) : List SourceLine :=
  body.before.map Assignment.line ++
    ⟨body.raw, .store body.size body.rs body.off⟩ :: body.behind.map Assignment.line

/-- How the value of a register comes about. -/
inductive Chain
  | initial (r : Nat)
  | literal (value : Int)
  /-- A form that is not recognized assigns a register that has come about so. -/
  | replaced (before : Chain)
  | added (base : Chain) (off : Int)
  | loaded (base : Chain) (size : Nat) (off : Int)
deriving DecidableEq, Repr

def nextChains (chains : Nat → Chain) : Instruction → Nat → Chain
  | .const rd value => Function.update chains rd (.literal value)
  | .copy rd rs => Function.update chains rd (chains rs)
  | .addi rd rs off => Function.update chains rd (.added (chains rs) off)
  | .load rd size rs off => Function.update chains rd (.loaded (chains rs) size off)
  | .unmodelled rd => Function.update chains rd (.replaced (chains rd))

def chainsAfter (before : List Assignment) : Nat → Chain :=
  before.foldl (fun chains assignment => nextChains chains assignment.instruction) .initial

/-- The chain of the register that the store is based on. -/
def StoreBody.base (body : StoreBody) : Chain :=
  chainsAfter body.before body.rs

namespace Chain

/-- The chain starts with an argument or a literal, other forms aside. -/
def isKnown : Chain → Bool
  | .initial r => decide (3 ≤ r ∧ r ≤ 10)
  | .literal _ => true
  | .replaced before => before.isKnown
  | .added base _ => base.isKnown
  | .loaded base _ _ => base.isKnown

/-- A form that is not recognized is in the chain. -/
def isReplaced : Chain → Bool
  | .initial _ | .literal _ => false
  | .replaced _ => true
  | .added base _ => base.isReplaced
  | .loaded base _ _ => base.isReplaced

/-- The chain ends with a load, additions of zero and other forms aside. -/
def endsWithLoad : Chain → Bool
  | .initial _ | .literal _ => false
  | .replaced before => before.endsWithLoad
  | .added base off => base.endsWithLoad && off == 0
  | .loaded _ _ _ => true

/-- How often zero is added to a loaded value. -/
def zeroAdds : Chain → Nat
  | .initial _ | .literal _ => 0
  | .replaced before => before.zeroAdds
  | .added base off => base.zeroAdds + if base.endsWithLoad && off == 0 then 1 else 0
  | .loaded base _ _ => base.zeroAdds

/-- The sizes of the loads. -/
def sizes : Chain → List Nat
  | .initial _ | .literal _ => []
  | .replaced before => before.sizes
  | .added base _ => base.sizes
  | .loaded base size _ => size :: base.sizes

/-- The values that a chain may have. -/
inductive Value (mem : Memory) (regs : Nat → BitVec 64) : Chain → BitVec 64 → Prop
  | initial (r : Nat) : Value mem regs (.initial r) (regs r)
  | literal (value : Int) : Value mem regs (.literal value) (BitVec.ofInt 64 value)
  | replaced (before : Chain) (value : BitVec 64) : Value mem regs (.replaced before) value
  | added {base : Chain} {value : BitVec 64} (off : Int) : Value mem regs base value →
      Value mem regs (.added base off) (value + BitVec.ofInt 64 off)
  | loaded {base : Chain} {value : BitVec 64} (size : Nat) (off : Int) :
      Value mem regs base value →
      Value mem regs (.loaded base size off)
        (loadSized mem size (value.setWidth 32 + BitVec.ofInt 32 off))

end Chain

/-- The last instruction that assigns the register is of a form that is not recognized. -/
def LastUnmodelled (before : List Assignment) (r : Nat) : Prop :=
  ∃ first raw rest, before = first ++ ⟨raw, .unmodelled r⟩ :: rest ∧
    ∀ later ∈ rest, later.instruction.target ≠ r

/-- The address of the store is recorded as what it is in every execution, and nothing is
kept or recorded for registers last assigned by a form that is not recognized. -/
structure WalkSound (reading : Nat → Nat) (func file : String) (firstLine : Nat)
    (body : StoreBody) : Prop where
  recorded : ∀ e, (analyzeBody func file firstLine body.lines).writes (exprKey e) ≠ [] →
    ∀ mem regs after, Execution mem regs body.before after →
      e.address reading mem regs = (after body.rs).setWidth 32 + BitVec.ofInt 32 body.off
  unknown : ∀ r, LastUnmodelled body.before r →
    registersAfter initialRegisters (body.before.map Assignment.line) r = none ∧
      (r = body.rs →
        ∀ key, (analyzeBody func file firstLine body.lines).writes key = [])

/-- No register that the tool keeps an expression for was last assigned by a form that is
not recognized, and no such form is in the chain of the address. -/
structure StoreBody.NoneReplaced (body : StoreBody) : Prop where
  registers : ∀ r, LastUnmodelled body.before r → (chainsAfter body.before r).isKnown = false
  base : body.base.isKnown = true → body.base.isReplaced = false

/-- No zero is added to a loaded value on the way to the address, and each load has the
size it is read with. -/
structure StoreBody.LoadsAsRead (reading : Nat → Nat) (body : StoreBody) : Prop where
  zeroAdds : body.base.isKnown = true → body.base.zeroAdds = 0
  sizes : body.base.isKnown = true → ∀ size ∈ body.base.sizes, reading size = size

/-- What an addition makes of an expression. -/
def Expr.plus (off : Int) : Expr → Expr
  | .const value => .const (value + off)
  | .deref base offset size =>
      if off = 0 then .deref (.deref base offset size) off 0
      else .addr (.deref base offset size) off
  | .param i => .addr (.param i) off
  | .addr base offset => .addr (.addr base offset) off
  | .storeAt base offset => .addr (.storeAt base offset) off

/-- The expression that the tool keeps for a chain. -/
def Chain.expr : Chain → Option Expr
  | .initial r => initialRegisters r
  | .literal value => some (.const value)
  | .replaced before => before.expr
  | .added base off => base.expr.map (Expr.plus off)
  | .loaded base size off => base.expr.map fun e => .deref e off size

theorem isSome_expr (chain : Chain) : chain.expr.isSome = chain.isKnown := by
  induction chain with
  | initial r =>
      unfold Chain.expr initialRegisters Chain.isKnown
      by_cases argument : 3 ≤ r ∧ r ≤ 10
      · rw [if_pos argument, decide_eq_true argument]
        rfl
      · rw [if_neg argument, decide_eq_false argument]
        rfl
  | literal value => rfl
  | replaced before ih => exact ih
  | added base off ih =>
      rw [Chain.expr, Option.isSome_map]
      exact ih
  | loaded base size off ih =>
      rw [Chain.expr, Option.isSome_map]
      exact ih

theorem updateRegisters_addi (regs : Registers) (rd rs : Nat) (off : Int) :
    updateRegisters regs (.addi rd rs off) =
      Function.update regs rd ((regs rs).map (Expr.plus off)) := by
  refine congrArg (Function.update regs rd) ?_
  cases regs rs with
  | none => rfl
  | some e =>
      cases e with
      | const value => rfl
      | param i => rfl
      | deref base offset size => exact (apply_ite some _ _ _).symm
      | addr base offset => rfl
      | storeAt base offset => rfl

/-- The tool keeps the expressions of the chains. -/
theorem updateRegisters_expr {regs : Registers} {chains : Nat → Chain}
    (kept : ∀ r, regs r = (chains r).expr) (instruction : Instruction) (r : Nat) :
    updateRegisters regs instruction.form r = (nextChains chains instruction r).expr := by
  have related := @update_related _ _ (fun value chain => value = Chain.expr chain) _ _ kept
  cases instruction with
  | const rd value => exact @related rd (some (.const value)) (.literal value) rfl r
  | copy rd rs => exact @related rd _ _ (kept rs) r
  | addi rd rs off =>
      rw [Instruction.form, updateRegisters_addi]
      refine @related rd _ _ ?_ r
      rw [kept rs]
      rfl
  | load rd size rs off =>
      refine @related rd _ _ ?_ r
      rw [kept rs]
      rfl
  | unmodelled rd =>
      have same : Function.update regs rd (regs rd) = regs := Function.update_eq_self rd regs
      rw [Instruction.form, updateRegisters, ← same]
      exact @related rd (regs rd) (.replaced (chains rd)) (kept rd) r

theorem chainsAfter_concat (before : List Assignment) (last : Assignment) :
    chainsAfter (before ++ [last]) = nextChains (chainsAfter before) last.instruction := by
  rw [chainsAfter, List.foldl_append]
  rfl

/-- The induction is on the instructions, from the last. -/
theorem registersAfter_eq_expr (before : List Assignment) (r : Nat) :
    registersAfter initialRegisters (before.map Assignment.line) r =
      (chainsAfter before r).expr := by
  induction before using List.reverseRecOn generalizing r with
  | nil => rfl
  | append_singleton before last ih =>
      rw [List.map_append, registersAfter, List.foldl_append, chainsAfter_concat]
      exact updateRegisters_expr ih last.instruction r

/-- The assignments record nothing. -/
theorem analyzeLines_assignments (func file : String) (lineno : Nat) (regs : Registers)
    (index : XrefIndex) (before : List Assignment) (rest : List SourceLine) :
    analyzeLines func file lineno regs index (before.map Assignment.line ++ rest) =
      analyzeLines func file (lineno + before.length)
        (registersAfter regs (before.map Assignment.line)) index rest := by
  induction before generalizing lineno regs with
  | nil => rfl
  | cons first before ih =>
      have nothing : indexLine func file regs index lineno first.line = index := by
        unfold indexLine Assignment.line
        cases first.instruction <;> rfl
      rw [List.map_cons, List.cons_append, analyzeLines, nothing, ih, List.length_cons,
        Nat.add_right_comm]
      rfl

/-- Only the address made of the base of the store is recorded. -/
theorem writes_storeBody (func file : String) (firstLine : Nat) (body : StoreBody)
    (key : String) :
    (analyzeBody func file firstLine body.lines).writes key ≠ [] ↔
      ∃ base, body.base.expr = some base ∧ key = exprKey (.storeAt base body.off) := by
  have kept : registersAfter initialRegisters (body.before.map Assignment.line) body.rs =
      body.base.expr := registersAfter_eq_expr body.before body.rs
  have behind := fun lineno regs index =>
    analyzeLines_assignments func file lineno regs index body.behind []
  simp only [List.append_nil] at behind
  unfold analyzeBody StoreBody.lines
  rw [analyzeLines_assignments]
  simp only [analyzeLines, behind, indexLine, kept]
  cases body.base.expr with
  | none =>
      refine iff_of_false (fun recorded => recorded rfl) ?_
      rintro ⟨_, ⟨⟩, -⟩
  | some base =>
      by_cases own : key = exprKey (.storeAt base body.off)
      · subst own
        refine iff_of_true ?_ ⟨base, rfl, rfl⟩
        simp [Function.update_self]
      · refine iff_of_false ?_ ?_
        · simp [Function.update_of_ne own, XrefIndex.empty]
        · rintro ⟨_, ⟨⟩, same⟩
          exact own same

variable {mem : Memory} {start : Nat → BitVec 64}

theorem Executes.value {regs after : Nat → BitVec 64} {chains : Nat → Chain}
    {instruction : Instruction} (executes : Executes mem regs instruction after)
    (values : ∀ r, (chains r).Value mem start (regs r)) (r : Nat) :
    (nextChains chains instruction r).Value mem start (after r) := by
  have related := @update_related _ _ (Chain.Value mem start) _ _ values
  cases executes with
  | const rd value => exact related (.literal value) r
  | copy rd rs => exact related (values rs) r
  | addi rd rs off => exact related (.added off (values rs)) r
  | load rd size rs off => exact related (.loaded size off (values rs)) r
  | unmodelled rd value => exact related (.replaced (chains rd) value) r

/-- Every execution leaves a value of its chain in each register. -/
theorem Execution.value {before : List Assignment} {after : Nat → BitVec 64}
    (execution : Execution mem start before after) (r : Nat) :
    (chainsAfter before r).Value mem start (after r) := by
  induction execution generalizing r with
  | refl => exact .initial r
  | tail _ executes ih =>
      rw [chainsAfter_concat]
      exact executes.value ih r

theorem Chain.exists_value (mem : Memory) (start : Nat → BitVec 64) (chain : Chain) :
    ∃ value, chain.Value mem start value := by
  induction chain with
  | initial r => exact ⟨_, .initial r⟩
  | literal value => exact ⟨_, .literal value⟩
  | replaced before => exact ⟨0, .replaced before 0⟩
  | added base off ih =>
      obtain ⟨value, valued⟩ := ih
      exact ⟨_, .added off valued⟩
  | loaded base size off ih =>
      obtain ⟨value, valued⟩ := ih
      exact ⟨_, .loaded size off valued⟩

theorem nextChains_of_ne {chains : Nat → Chain} {instruction : Instruction} {r : Nat}
    (other : r ≠ instruction.target) : nextChains chains instruction r = chains r := by
  cases instruction <;> exact Function.update_of_ne other _ _

/-- An instruction can always execute, and changes its target alone. -/
theorem executes_total (mem : Memory) (regs : Nat → BitVec 64) (instruction : Instruction) :
    ∃ after, Executes mem regs instruction after ∧
      ∀ r, r ≠ instruction.target → after r = regs r := by
  cases instruction with
  | const rd value => exact ⟨_, .const rd value, fun r other => Function.update_of_ne other _ _⟩
  | copy rd rs => exact ⟨_, .copy rd rs, fun r other => Function.update_of_ne other _ _⟩
  | addi rd rs off => exact ⟨_, .addi rd rs off, fun r other => Function.update_of_ne other _ _⟩
  | load rd size rs off =>
      exact ⟨_, .load rd size rs off, fun r other => Function.update_of_ne other _ _⟩
  | unmodelled rd => exact ⟨_, .unmodelled rd 0, fun r other => Function.update_of_ne other _ _⟩

/-- A value of a chain comes about from some value of a chain before the instruction. -/
theorem exists_executes {chains : Nat → Chain} {instruction : Instruction} {r : Nat}
    {value : BitVec 64} (valued : (nextChains chains instruction r).Value mem start value) :
    ∃ source needed, (chains source).Value mem start needed ∧
      ∀ regs : Nat → BitVec 64, regs source = needed →
        ∃ after, Executes mem regs instruction after ∧ after r = value := by
  by_cases own : r = instruction.target
  · subst own
    obtain ⟨old, oldValued⟩ := (chains instruction.target).exists_value mem start
    cases instruction with
    | const rd literal =>
        rw [nextChains, Instruction.target, Function.update_self] at valued
        cases valued
        exact ⟨rd, old, oldValued, fun regs _ =>
          ⟨_, .const rd literal, Function.update_self _ _ _⟩⟩
    | copy rd rs =>
        rw [nextChains, Instruction.target, Function.update_self] at valued
        refine ⟨rs, value, valued, ?_⟩
        rintro regs rfl
        exact ⟨_, .copy rd rs, Function.update_self _ _ _⟩
    | addi rd rs off =>
        rw [nextChains, Instruction.target, Function.update_self] at valued
        cases valued with
        | @added _ needed _ baseValued =>
            refine ⟨rs, needed, baseValued, ?_⟩
            rintro regs rfl
            exact ⟨_, .addi rd rs off, Function.update_self _ _ _⟩
    | load rd size rs off =>
        rw [nextChains, Instruction.target, Function.update_self] at valued
        cases valued with
        | @loaded _ needed _ _ baseValued =>
            refine ⟨rs, needed, baseValued, ?_⟩
            rintro regs rfl
            exact ⟨_, .load rd size rs off, Function.update_self _ _ _⟩
    | unmodelled rd =>
        exact ⟨rd, old, oldValued, fun regs _ =>
          ⟨_, .unmodelled rd value, Function.update_self _ _ _⟩⟩
  · rw [nextChains_of_ne own] at valued
    refine ⟨r, value, valued, ?_⟩
    rintro regs rfl
    obtain ⟨after, executes, unchanged⟩ := executes_total mem regs instruction
    exact ⟨after, executes, unchanged r own⟩

/-- Every value of the chain of a register is left there by some execution. -/
theorem exists_execution {before : List Assignment} {r : Nat} {value : BitVec 64}
    (valued : (chainsAfter before r).Value mem start value) :
    ∃ after, Execution mem start before after ∧ after r = value := by
  induction before using List.reverseRecOn generalizing r value with
  | nil =>
      cases valued
      exact ⟨start, .refl, rfl⟩
  | append_singleton before last ih =>
      rw [chainsAfter_concat] at valued
      obtain ⟨source, needed, sourceValued, executes⟩ := exists_executes valued
      obtain ⟨regs, execution, supplied⟩ := ih sourceValued
      obtain ⟨after, last, left⟩ := executes regs supplied
      exact ⟨after, .tail execution last, left⟩

/-- The expression is a load exactly when the chain ends with one. -/
def Expr.isDeref : Expr → Bool
  | .deref _ _ _ => true
  | _ => false

theorem isDeref_plus (e : Expr) (off : Int) :
    (e.plus off).isDeref = (e.isDeref && off == 0) := by
  cases e with
  | deref base offset size =>
      by_cases zero : off = 0
      · rw [Expr.plus, if_pos zero, beq_iff_eq.mpr zero]
        rfl
      · rw [Expr.plus, if_neg zero, beq_eq_false_iff_ne.mpr zero]
        rfl
  | const value => rfl
  | param i => rfl
  | addr base offset => rfl
  | storeAt base offset => rfl

theorem isDeref_expr {chain : Chain} {e : Expr} (kept : chain.expr = some e) :
    e.isDeref = chain.endsWithLoad := by
  induction chain generalizing e with
  | initial r =>
      unfold Chain.expr initialRegisters at kept
      split at kept
      · cases kept
        rfl
      · cases kept
  | literal value =>
      cases kept
      rfl
  | replaced before ih => exact ih kept
  | added base off ih =>
      obtain ⟨inner, innerKept, rfl⟩ := Option.map_eq_some_iff.mp kept
      rw [isDeref_plus, ih innerKept]
      rfl
  | loaded base size off ih =>
      obtain ⟨inner, -, rfl⟩ := Option.map_eq_some_iff.mp kept
      rfl

section Reading

variable (reading : Nat → Nat)

/-- An addition is a load when zero is added to a loaded value. -/
theorem address_plus (e : Expr) (off : Int) :
    (e.plus off).address reading mem start =
      if e.isDeref && off == 0 then
        (loadSized mem (reading 0) (e.address reading mem start)).setWidth 32
      else e.address reading mem start + BitVec.ofInt 32 off := by
  cases e with
  | const value => exact BitVec.ofInt_add value off
  | deref base offset size =>
      by_cases zero : off = 0
      · subst zero
        rw [Expr.plus, if_pos rfl, Expr.address]
        exact congrArg (fun addr => (loadSized mem (reading 0) addr).setWidth 32)
          (BitVec.add_zero _)
      · rw [Expr.plus, if_neg zero, beq_eq_false_iff_ne.mpr zero, Bool.and_false]
        rfl
  | param i => rfl
  | addr base offset => rfl
  | storeAt base offset => rfl

/-- Without other forms and zero additions, the expression stands for the value.  The
induction is on the chain. -/
theorem address_expr {chain : Chain} {e : Expr} {value : BitVec 64}
    (kept : chain.expr = some e) (valued : chain.Value mem start value)
    (noneReplaced : chain.isReplaced = false) (noZero : chain.zeroAdds = 0)
    (asRead : ∀ size ∈ chain.sizes, reading size = size) :
    e.address reading mem start = value.setWidth 32 := by
  induction valued generalizing e with
  | initial r =>
      unfold Chain.expr initialRegisters at kept
      split at kept
      case isTrue argument =>
        cases kept
        have same : 3 + (r - 3) = r := Nat.add_sub_cancel' argument.1
        rw [Expr.address, same]
      case isFalse => cases kept
  | literal value =>
      cases kept
      exact (setWidth_ofInt value).symm
  | replaced before value => cases noneReplaced
  | @added base value off _ ih =>
      obtain ⟨inner, innerKept, rfl⟩ := Option.map_eq_some_iff.mp kept
      obtain ⟨innerZero, last⟩ := Nat.add_eq_zero_iff.mp noZero
      rw [address_plus, isDeref_expr innerKept, ih innerKept noneReplaced innerZero asRead,
        setWidth_add_ofInt]
      split
      case isTrue zero =>
        rw [if_pos zero] at last
        cases last
      case isFalse => rfl
  | @loaded base value size off _ ih =>
      obtain ⟨inner, innerKept, rfl⟩ := Option.map_eq_some_iff.mp kept
      have own := asRead size List.mem_cons_self
      have inside := ih innerKept noneReplaced noZero fun other listed =>
        asRead other (List.mem_cons_of_mem size listed)
      rw [Expr.address, inside, own]

/-- A memory with the position of each byte, plus a constant, in the byte. -/
def positionBytes (k : Nat) : Memory := fun position => BitVec.ofNat 8 (position + k)

/-- How far behind its address the last byte of a load is. -/
def lastByte (size : Nat) : Nat :=
  if size = 8 then 0 else if size = 16 then 1 else if size = 64 then 7 else 3

theorem lowByte_append {m n : Nat} (first : BitVec m) (last : BitVec n) (wide : 8 ≤ n) :
    (first ++ last).setWidth 8 = last.setWidth 8 := by
  rw [BitVec.setWidth_append, dif_pos wide]

theorem lowByte_positionBytes (k behind : Nat) (addr : Word) :
    (positionBytes k (addr.toNat + behind)).setWidth 8 =
      addr.setWidth 8 + BitVec.ofNat 8 behind + BitVec.ofNat 8 k := by
  apply BitVec.eq_of_toNat_eq
  simp [positionBytes]

/-- The low byte of what is loaded is the one of the address, plus constants. -/
theorem lowByte_loadSized (k size : Nat) (addr : Word) :
    (loadSized (positionBytes k) size addr).setWidth 8 =
      addr.setWidth 8 + BitVec.ofNat 8 (lastByte size) + BitVec.ofNat 8 k := by
  rw [← lowByte_positionBytes]
  unfold loadSized lastByte
  split
  · exact BitVec.setWidth_setWidth_of_le _ (by decide)
  · split
    · rw [BitVec.setWidth_setWidth_of_le _ (by decide)]
      exact lowByte_append _ _ (by decide)
    · split
      · unfold loadU64
        rw [lowByte_append _ _ (by decide), lowByte_append _ _ (by decide)]
        exact lowByte_append _ _ (by decide)
      · rw [BitVec.setWidth_setWidth_of_le _ (by decide)]
        unfold loadU32
        rw [lowByte_append _ _ (by decide)]
        exact lowByte_append _ _ (by decide)

theorem lowByte_ofInt {width : Nat} (wide : 8 ≤ width) (value : Int) :
    (BitVec.ofInt width value).setWidth 8 = BitVec.ofInt 8 value := by
  have divides : ((2 ^ 8 : Nat) : Int) ∣ (2 ^ width : Nat) :=
    Int.natCast_dvd_natCast.mpr (pow_dvd_pow 2 wide)
  have positive : ((2 ^ width : Nat) : Int) ≠ 0 := by positivity
  apply BitVec.eq_of_toNat_eq
  rw [BitVec.toNat_setWidth, BitVec.toNat_ofInt, BitVec.toNat_ofInt, ← Int.natCast_inj,
    Int.natCast_mod, Int.toNat_of_nonneg (Int.emod_nonneg value positive),
    Int.toNat_of_nonneg (Int.emod_nonneg value (by decide)), Int.emod_emod_of_dvd value divides]

theorem lowByte_plus {width : Nat} (wide : 8 ≤ width) (value : BitVec width) (off : Int) :
    (value + BitVec.ofInt width off).setWidth 8 = value.setWidth 8 + BitVec.ofInt 8 off := by
  rw [BitVec.setWidth_add _ _ wide, lowByte_ofInt wide]

theorem lowByte_word {width : Nat} (value : BitVec width) :
    (value.setWidth 32).setWidth 8 = value.setWidth 8 :=
  BitVec.setWidth_setWidth_of_le value (by decide)

/-- How much farther behind their addresses the last bytes are that are read for the loads
than those that are loaded. -/
def misread (sizes : List Nat) : Int :=
  (sizes.map fun size => (lastByte (reading size) : Int) - lastByte size).sum

/-- Without other forms, the low byte of the expression differs from the one of the value
by what is misread, and by a load for each zero that is added to a loaded value. -/
theorem lowByte_expr {chain : Chain} {e : Expr} {k : Nat} {value : BitVec 64}
    (kept : chain.expr = some e) (valued : chain.Value (positionBytes k) start value)
    (noneReplaced : chain.isReplaced = false) :
    (e.address reading (positionBytes k) start).setWidth 8 =
      value.setWidth 8 + BitVec.ofInt 8 (misread reading chain.sizes) +
        BitVec.ofNat 8 ((lastByte (reading 0) + k) * chain.zeroAdds) := by
  induction valued generalizing e with
  | initial r =>
      unfold Chain.expr initialRegisters at kept
      split at kept
      case isTrue argument =>
        cases kept
        have same : 3 + (r - 3) = r := Nat.add_sub_cancel' argument.1
        rw [Expr.address, same, lowByte_word]
        simp [Chain.zeroAdds, Chain.sizes, misread]
      case isFalse => cases kept
  | literal value =>
      cases kept
      rw [Expr.address, lowByte_ofInt (by decide), lowByte_ofInt (by decide)]
      simp [Chain.zeroAdds, Chain.sizes, misread]
  | replaced before value => cases noneReplaced
  | @added base value off _ ih =>
      obtain ⟨inner, innerKept, rfl⟩ := Option.map_eq_some_iff.mp kept
      have inside := ih innerKept noneReplaced
      rw [address_plus, isDeref_expr innerKept, Chain.zeroAdds]
      by_cases zero : (base.endsWithLoad && off == 0) = true
      · have noOffset : off = 0 := beq_iff_eq.mp (Bool.and_eq_true_iff.mp zero).2
        subst noOffset
        have start : value + BitVec.ofInt 64 0 = value := BitVec.add_zero value
        rw [if_pos zero, if_pos zero, lowByte_word, lowByte_loadSized, inside, start,
          Nat.mul_succ, BitVec.ofNat_add, BitVec.ofNat_add, Chain.sizes]
        ring
      · rw [if_neg zero, if_neg zero, lowByte_plus (by decide), inside,
          lowByte_plus (by decide), Nat.add_zero, Chain.sizes]
        ring
  | @loaded base value size off _ ih =>
      obtain ⟨inner, innerKept, rfl⟩ := Option.map_eq_some_iff.mp kept
      have one : misread reading (size :: base.sizes) =
          lastByte (reading size) - lastByte size + misread reading base.sizes :=
        List.sum_cons
      have differ : BitVec.ofInt 8 (lastByte (reading size) - lastByte size) =
          BitVec.ofNat 8 (lastByte (reading size)) - BitVec.ofNat 8 (lastByte size) := by
        rw [sub_eq_add_neg, BitVec.ofInt_add, BitVec.ofInt_neg, BitVec.ofInt_natCast,
          BitVec.ofInt_natCast, ← sub_eq_add_neg]
      rw [Expr.address, lowByte_word, lowByte_loadSized, lowByte_plus (by decide),
        ih innerKept noneReplaced, lowByte_loadSized, lowByte_plus (by decide), lowByte_word,
        Chain.zeroAdds, Chain.sizes, one, BitVec.ofInt_add, differ]
      ring

/-- When another form is in the chain, its value can have any low byte. -/
theorem exists_value_lowByte {chain : Chain} (replaced : chain.isReplaced = true) (k : Nat)
    (byte : Byte) :
    ∃ value, chain.Value (positionBytes k) start value ∧ value.setWidth 8 = byte := by
  induction chain generalizing byte with
  | initial r => cases replaced
  | literal value => cases replaced
  | replaced before ih =>
      refine ⟨byte.setWidth 64, .replaced before _, ?_⟩
      rw [BitVec.setWidth_setWidth_of_le _ (by decide), BitVec.setWidth_eq]
  | added base off ih =>
      obtain ⟨value, valued, low⟩ := ih replaced (byte - BitVec.ofInt 8 off)
      refine ⟨_, .added off valued, ?_⟩
      rw [lowByte_plus (by decide), low, sub_add_cancel]
  | loaded base size off ih =>
      obtain ⟨value, valued, low⟩ := ih replaced
        (byte - BitVec.ofNat 8 k - BitVec.ofNat 8 (lastByte size) - BitVec.ofInt 8 off)
      refine ⟨_, .loaded size off valued, ?_⟩
      rw [lowByte_loadSized, lowByte_plus (by decide), lowByte_word, low, sub_add_cancel,
        sub_add_cancel, sub_add_cancel]

variable {func file : String} {firstLine : Nat} {body : StoreBody}

/-- What is recorded of a body is the address made of the base. -/
theorem recorded_iff {e : Expr} :
    (analyzeBody func file firstLine body.lines).writes (exprKey e) ≠ [] ↔
      ∃ base, body.base.expr = some base ∧ e = .storeAt base body.off := by
  rw [writes_storeBody]
  simp only [exprKey_inj]

theorem registersAfter_eq_none {r : Nat} :
    registersAfter initialRegisters (body.before.map Assignment.line) r = none ↔
      (chainsAfter body.before r).isKnown = false := by
  rw [registersAfter_eq_expr, ← isSome_expr, Option.isSome_eq_false_iff, Option.isNone_iff_eq_none]

theorem StoreBody.NoneReplaced.walkSound (noneReplaced : body.NoneReplaced)
    (asRead : body.LoadsAsRead reading) : WalkSound reading func file firstLine body := by
  constructor
  · intro e recorded mem regs after execution
    obtain ⟨base, kept, rfl⟩ := recorded_iff.mp recorded
    have known : body.base.isKnown = true := by
      rw [← isSome_expr, kept]
      rfl
    rw [Expr.address, address_expr reading kept (execution.value body.rs)
      (noneReplaced.base known) (asRead.zeroAdds known) (asRead.sizes known)]
  · intro r unmodelled
    have unknown := noneReplaced.registers r unmodelled
    refine ⟨registersAfter_eq_none.mpr unknown, ?_⟩
    rintro rfl key
    by_contra recorded
    obtain ⟨base, kept, -⟩ := (writes_storeBody func file firstLine body key).mp recorded
    have known := isSome_expr body.base
    rw [kept] at known
    cases known.trans unknown

namespace WalkSound

variable {reading} (sound : WalkSound reading func file firstLine body)

include sound

/-- In a sound walk, the low byte of the base is the one of its expression. -/
theorem lowByte_base {base : Expr} (kept : body.base.expr = some base) {k : Nat}
    {value : BitVec 64} (valued : body.base.Value (positionBytes k) start value) :
    (base.address reading (positionBytes k) start).setWidth 8 = value.setWidth 8 := by
  obtain ⟨after, execution, left⟩ := exists_execution valued
  have address := sound.recorded _ (recorded_iff.mpr ⟨base, kept, rfl⟩) _ _ after execution
  rw [Expr.address, left] at address
  have low := congrArg (fun addr => addr.setWidth 8) (add_right_cancel address)
  exact low.trans (lowByte_word value)

theorem noneReplaced : body.NoneReplaced := by
  constructor
  · intro r unmodelled
    exact registersAfter_eq_none.mp (sound.unknown r unmodelled).1
  · intro known
    by_contra replaced
    obtain ⟨base, kept⟩ := Option.isSome_iff_exists.mp ((isSome_expr body.base).trans known)
    -- the base can have a low byte other than the one of its expression
    let wanted := (base.address reading (positionBytes 0) fun _ => 0).setWidth 8
    obtain ⟨value, valued, low⟩ := exists_value_lowByte (eq_true_of_ne_false replaced) 0
      (wanted + 1)
    have same : wanted = wanted + 1 := (sound.lowByte_base kept valued).trans low
    exact absurd (left_eq_add.mp same) (by decide)

/-- With what is misread, the extra loads of every memory come to nothing in the low byte. -/
theorem lowByte_drift (known : body.base.isKnown = true) (k : Nat) :
    BitVec.ofInt 8 (misread reading body.base.sizes) +
      BitVec.ofNat 8 ((lastByte (reading 0) + k) * body.base.zeroAdds) = 0 := by
  obtain ⟨base, kept⟩ := Option.isSome_iff_exists.mp ((isSome_expr body.base).trans known)
  obtain ⟨value, valued⟩ := body.base.exists_value (positionBytes k) fun _ => 0
  have drifted := lowByte_expr reading kept valued (sound.noneReplaced.base known)
  rw [sound.lowByte_base kept valued, add_assoc] at drifted
  exact left_eq_add.mp drifted

theorem dvd_zeroAdds (known : body.base.isKnown = true) : 256 ∣ body.base.zeroAdds := by
  have first := sound.lowByte_drift known 0
  have second := sound.lowByte_drift known 1
  rw [Nat.add_zero] at first
  rw [Nat.succ_mul, BitVec.ofNat_add, ← add_assoc, first, zero_add] at second
  have value := congrArg BitVec.toNat second
  rw [BitVec.toNat_ofNat] at value
  exact Nat.dvd_of_mod_eq_zero value

theorem dvd_misread (known : body.base.isKnown = true) :
    256 ∣ misread reading body.base.sizes := by
  have loads : BitVec.ofNat 8 ((lastByte (reading 0) + 0) * body.base.zeroAdds) = 0 := by
    apply BitVec.eq_of_toNat_eq
    rw [BitVec.toNat_ofNat]
    exact Nat.mod_eq_zero_of_dvd ((sound.dvd_zeroAdds known).mul_left _)
  have drift := sound.lowByte_drift known 0
  rw [loads, add_zero] at drift
  have value := congrArg BitVec.toNat drift
  rw [BitVec.toNat_ofInt] at value
  apply Int.dvd_of_emod_eq_zero
  exact le_antisymm (Int.toNat_eq_zero.mp value) (Int.emod_nonneg _ (by decide))

end WalkSound

/-- The walk is sound when no other form is in a chain that the tool keeps an expression
for, no zero is added to a loaded value on the way to the address, and each load has the
size it is read with.  It is not sound when another form is in such a chain, and only
where the number of zero additions, or of bytes misread, is a multiple of 256 may it be
sound with these. -/
theorem walkSound_conditions (func file : String) (firstLine : Nat) (body : StoreBody) :
    (body.NoneReplaced ∧ body.LoadsAsRead reading →
        WalkSound reading func file firstLine body) ∧
      (WalkSound reading func file firstLine body →
        body.NoneReplaced ∧ (body.base.isKnown = true →
          256 ∣ body.base.zeroAdds ∧ 256 ∣ misread reading body.base.sizes)) := by
  constructor
  · rintro ⟨noneReplaced, asRead⟩
    exact noneReplaced.walkSound reading asRead
  · intro sound
    exact ⟨sound.noneReplaced, fun known => ⟨sound.dvd_zeroAdds known, sound.dvd_misread known⟩⟩

end Reading

/-- The first argument is masked, and the result stored to. -/
def maskedPointer : StoreBody where
  before := [⟨"ctx.r3.u64 = ctx.r3.u64 & 0xFFFF;", .unmodelled 3⟩]
  raw := "PPC_STORE_U32(ctx.r3.u32 + 0, ctx.r4.u32);"
  size := 32
  rs := 3
  off := 0
  behind := []

/-- A pointer is loaded, zero is added, and the result is stored to. -/
def zeroAdded : StoreBody where
  before := [⟨"ctx.r4.u64 = PPC_LOAD_U32(ctx.r3.u32 + 0);", .load 4 32 3 0⟩,
    ⟨"ctx.r4.s64 = ctx.r4.s64 + 0;", .addi 4 4 0⟩]
  raw := "PPC_STORE_U32(ctx.r4.u32 + 0, ctx.r5.u32);"
  size := 32
  rs := 4
  off := 0
  behind := []

/-- The masked register keeps the expression of the argument, and the address made of the
pointer loads once more. -/
theorem maskedPointer_zeroAdded_unsound :
    ¬ WalkSound id "sub_1" "a.cpp" 2 maskedPointer ∧
      ¬ WalkSound id "sub_1" "a.cpp" 2 zeroAdded := by
  constructor
  · intro sound
    have last : LastUnmodelled maskedPointer.before 3 :=
      ⟨[], _, [], rfl, fun _ listed => absurd listed List.not_mem_nil⟩
    have unknown := (sound.unknown 3 last).1
    exact absurd unknown (by decide +kernel)
  · intro sound
    exact absurd (sound.dvd_zeroAdds (by decide)) (by decide)

end BumpinHost.Tools
