import BumpinHost.Library.ByteMemory

/-!
# The cross-reference tool over generated code

`ppc_xref` walks the lines of a generated function once, keeps a symbolic value for
each register, and records every store under the text of its symbolic address.  A
query looks up the text of the address it is asked for, and follows it into callees
as an argument.
-/

namespace BumpinHost.Tools

/-- A symbolic value, or the address of a store. -/
inductive Expr
  | const (value : Int)
  | param (index : Nat)
  | deref (base : Expr) (offset : Int) (size : Nat)
  | addr (base : Expr) (offset : Int)
  | storeAt (base : Expr) (offset : Int)
deriving DecidableEq, Repr

/-- A decimal literal. -/
def intChars : Int → List Char
  | .ofNat n => Nat.toDigits 10 n
  | .negSucc n => '-' :: Nat.toDigits 10 (n + 1)

/-- The start of a list whose first element is a name. -/
def openList (name : String) : List Char :=
  '[' :: '"' :: (name.toList ++ ['"', ',', ' '])

/-- An expression as nested lists in JSON. -/
def keyChars : Expr → List Char
  | .const value => openList "const" ++ (intChars value ++ [']'])
  | .param index => openList "param" ++ (intChars index ++ [']'])
  | .deref base offset size =>
      openList "deref" ++ (keyChars base ++
        (',' :: ' ' :: (intChars offset ++ (',' :: ' ' :: (intChars size ++ [']'])))))
  | .addr base offset =>
      openList "addr" ++ (keyChars base ++ (',' :: ' ' :: (intChars offset ++ [']'])))
  | .storeAt base offset =>
      openList "at" ++ (keyChars base ++ (',' :: ' ' :: (intChars offset ++ [']'])))

def exprKey (e : Expr) : String := String.ofList (keyChars e)

/-- What a line of a function body is recognized as. -/
inductive LineForm
  /-- `ctx.rD.s64 = value;` -/
  | const (rd : Nat) (value : Int)
  /-- `ctx.rD.u64 = ctx.rS.u64;` -/
  | copy (rd rs : Nat)
  /-- `ctx.rD.s64 = ctx.rS.s64 + off;` -/
  | addi (rd rs : Nat) (off : Int)
  /-- `ctx.rD.u64 = PPC_LOAD_U<size>(ctx.rS.u32 + off);` -/
  | load (rd size rs : Nat) (off : Int)
  /-- `PPC_STORE_U<size>(ctx.rS.u32 + off, ...);` -/
  | store (size rs : Nat) (off : Int)
  /-- `callee(ctx, base);` -/
  | call (callee : String)
  /-- `PPC_CALL_INDIRECT_FUNC(ctx.ctr.u32);` -/
  | indirect
  | other
deriving DecidableEq, Repr

structure SourceLine where
  raw : String
  form : LineForm
deriving DecidableEq, Repr

structure WriteRecord where
  func : String
  file : String
  line : Nat
  raw : String
  size : Nat
deriving DecidableEq, Repr

/-- A call or an indirect call, with the known argument registers. -/
structure CallSite where
  caller : String
  file : String
  line : Nat
  args : List (Nat × Expr)
deriving DecidableEq, Repr

structure XrefIndex where
  writes : String → List WriteRecord
  calls : List (String × List CallSite)
  indirect : List CallSite

def XrefIndex.empty : XrefIndex := ⟨fun _ => [], [], []⟩

/-- Append to the list kept under a name, which starts out empty. -/
def appendUnder (calls : List (String × List CallSite)) (callee : String) (site : CallSite) :
    List (String × List CallSite) :=
  match calls with
  | [] => [(callee, [site])]
  | (name, sites) :: rest =>
      if name = callee then (name, sites ++ [site]) :: rest
      else (name, sites) :: appendUnder rest callee site

abbrev Registers := Nat → Option Expr

/-- Registers 3 to 10 hold the first eight integer arguments. -/
def argRegs : List Nat := [3, 4, 5, 6, 7, 8, 9, 10]

def initialRegisters : Registers := fun r =>
  if 3 ≤ r ∧ r ≤ 10 then some (.param (r - 3)) else none

/-- A call leaves nothing known of registers 3 to 12. -/
def clobberVolatile (regs : Registers) : Registers := fun r =>
  if 3 ≤ r ∧ r ≤ 12 then none else regs r

/-- The register file after a line. -/
def updateRegisters (regs : Registers) : LineForm → Registers
  | .const rd value => Function.update regs rd (some (.const value))
  | .copy rd rs => Function.update regs rd (regs rs)
  | .addi rd rs off =>
      Function.update regs rd <|
        match regs rs with
        | some (.const value) => some (.const (value + off))
        | some (.deref base offset size) =>
            if off = 0 then some (.deref (.deref base offset size) off 0)
            else some (.addr (.deref base offset size) off)
        | some base => some (.addr base off)
        | none => none
  | .load rd size rs off =>
      Function.update regs rd ((regs rs).map fun base => .deref base off size)
  | .store _ _ _ => regs
  | .call _ => clobberVolatile regs
  | .indirect => clobberVolatile regs
  | .other => regs

/-- The arguments that are known at a call. -/
def knownArgs (regs : Registers) : List (Nat × Expr) :=
  argRegs.zipIdx.filterMap fun entry => (regs entry.1).map fun value => (entry.2, value)

/-- What a line adds to the index. -/
def indexLine (func file : String) (regs : Registers) (index : XrefIndex) (lineno : Nat)
    (line : SourceLine) : XrefIndex :=
  match line.form with
  | .store size rs off =>
      match regs rs with
      | some base =>
          let key := exprKey (.storeAt base off)
          { index with
            writes := Function.update index.writes key
              (index.writes key ++ [⟨func, file, lineno, line.raw, size⟩]) }
      | none => index
  | .call callee =>
      { index with
        calls := appendUnder index.calls callee ⟨func, file, lineno, knownArgs regs⟩ }
  | .indirect =>
      { index with indirect := index.indirect ++ [⟨func, file, lineno, knownArgs regs⟩] }
  | _ => index

/-- The loop of `analyze_file` over the lines of one function. -/
def analyzeLines (func file : String) : Nat → Registers → XrefIndex → List SourceLine → XrefIndex
  | _, _, index, [] => index
  | lineno, regs, index, line :: rest =>
      analyzeLines func file (lineno + 1) (updateRegisters regs line.form)
        (indexLine func file regs index lineno line) rest

/-- The index built from one function body. -/
def analyzeBody (func file : String) (firstLine : Nat) (body : List SourceLine) : XrefIndex :=
  analyzeLines func file firstLine initialRegisters .empty body

/-- The offset that was added to the seed, if the value is the seed or comes from it by
one addition. -/
def matchSeedWithOffset (e seed : Expr) : Option Int :=
  if e = seed then some 0
  else
    match e with
    | .addr base offset => if base = seed then some offset else none
    | _ => none

/-- The places that a query has visited, and its results with the hop they were found at. -/
structure Found where
  visited : List (String × Nat)
  results : List (WriteRecord × Option Nat)

/-- The writes to an address, each place once. -/
def addWrites (index : XrefIndex) (seed : Expr) (offset : Int) (depth : Nat) (found : Found) :
    Found :=
  (index.writes (exprKey (.storeAt seed offset))).foldl (fun found w =>
    if (w.file, w.line) ∈ found.visited then found
    else ⟨(w.file, w.line) :: found.visited, found.results ++ [(w, some depth)]⟩) found

/-- Where a store stands. -/
def WriteRecord.site (w : WriteRecord) : String × Nat :=
  (w.file, w.line)

/-- Where a store stands. -/
def entrySite (entry : WriteRecord × Nat) : String × Nat :=
  entry.1.site

/-- Add a store unless its place has been visited. -/
def addStore (found : Found) (entry : WriteRecord × Nat) : Found :=
  if entrySite entry ∈ found.visited then found
  else ⟨entrySite entry :: found.visited, found.results ++ [(entry.1, some entry.2)]⟩

/-- The inner `recurse` of `find_writes`; the first argument counts the levels that are
left. -/
def recurse (index : XrefIndex) : Nat → Expr → Int → Nat → Found → Found
  | 0, _, _, _, found => found
  | levels + 1, seed, offset, depth, found =>
      (index.calls.flatMap fun entry => entry.2.flatMap CallSite.args).foldl (fun found arg =>
        match matchSeedWithOffset arg.2 seed with
        | some k => recurse index levels (.param arg.1) (offset - k) (depth + 1) found
        | none => found) (addWrites index seed offset depth found)

def findWrites (index : XrefIndex) (seed : Expr) (offset : Int) (hops : Nat) :
    List (WriteRecord × Option Nat) :=
  let results := (index.writes (exprKey (.storeAt seed offset))).map fun w => (w, none)
  (recurse index hops seed offset 1 ⟨[], results⟩).results

end BumpinHost.Tools
