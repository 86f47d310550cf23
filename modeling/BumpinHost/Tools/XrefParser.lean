import BumpinHost.Library.Nesting

/-!
# Finding the functions of a generated file

`parse_functions` goes through the lines of a file.  It knows the header of a function by
a pattern, and takes every line that begins with a closing brace for the end of a level,
while only headers open one.  So it keeps a body whole exactly when those two kinds of
lines balance in it: the closing brace of a nested block ends the function.
-/

namespace BumpinHost.Tools

open BumpinHost.Nesting

/-- A line of a file, without its line break. -/
abbrev Line := List Char

/-- White space as `str.strip` and `\s` know it. -/
def isSpace (c : Char) : Bool :=
  let code := c.toNat
  (0x09 ≤ code ∧ code ≤ 0x0D) ∨ (0x1C ≤ code ∧ code ≤ 0x20) ∨ code = 0x85 ∨ code = 0xA0 ∨
    code = 0x1680 ∨ (0x2000 ≤ code ∧ code ≤ 0x200A) ∨ code = 0x2028 ∨ code = 0x2029 ∨
    code = 0x202F ∨ code = 0x205F ∨ code = 0x3000

def strip (line : Line) : Line :=
  ((line.dropWhile isSpace).reverse.dropWhile isSpace).reverse

structure ParsedFunction where
  name : List Char
  startLine : Nat
  body : List (Nat × Line)
deriving DecidableEq, Repr

/-- How `parse_functions` takes a line inside a body. -/
def lineKind (line : Line) : Kind :=
  let stripped := strip line
  if "PPC_FUNC_IMPL(".toList <+: stripped ∨ "PPC_FUNC(".toList <+: stripped then .opens
  else if "\x7d".toList <+: stripped then .closes
  else .neither

/-- A function whose end has not been found. -/
structure OpenFunction where
  name : List Char
  start : Nat
  depth : Nat
  body : List (Nat × Line)

/-- What is yielded for it when the loop over its lines ends. -/
def OpenFunction.parsed (f : OpenFunction) : ParsedFunction :=
  ⟨f.name, f.start, f.body⟩

section Parser

-- The table behind `\w` is not part of the repository.
variable (isWord : Char → Bool)

/-- `FUNC_START_RE`: the name in a header. -/
def funcStart (stripped : Line) : Option (List Char) :=
  if "PPC_FUNC_IMPL(__imp__".toList <+: stripped then
    let rest := stripped.drop 21
    let name := rest.takeWhile isWord
    if name = [] then none
    else
      match rest.drop name.length with
      | ')' :: rest =>
          match rest.dropWhile isSpace with
          | '\x7b' :: _ => some name
          | _ => none
      | _ => none
  else none

/-- Both loops of `parse_functions` from a line on: the outer one when no function is
open, the inner one otherwise. -/
def parseFrom : Option OpenFunction → Nat → List Line → List ParsedFunction
  | none, _, [] => []
  | some f, _, [] => [f.parsed]
  | none, lineno, line :: rest =>
      match funcStart isWord (strip line) with
      | none => parseFrom none (lineno + 1) rest
      | some name => parseFrom (some ⟨name, lineno, 1, []⟩) (lineno + 1) rest
  | some f, lineno, line :: rest =>
      let body := f.body ++ [(lineno, line)]
      match lineKind line with
      | .opens =>
          parseFrom (some { f with depth := f.depth + 1, body := body }) (lineno + 1) rest
      | .closes =>
          if f.depth - 1 = 0 then f.parsed :: parseFrom none (lineno + 1) rest
          else parseFrom (some { f with depth := f.depth - 1, body := body }) (lineno + 1) rest
      | .neither => parseFrom (some { f with body := body }) (lineno + 1) rest

def parseFunctions (lines : List Line) : List ParsedFunction :=
  parseFrom isWord none 1 lines

end Parser

/-- The depth of braces behind a text, unless one of its braces closes the last level. -/
def braceDepth : Nat → List Char → Option Nat
  | depth, [] => some depth
  | depth, c :: text =>
      if c = '\x7b' then braceDepth (depth + 1) text
      else if c = '\x7d' then if depth - 1 = 0 then none else braceDepth (depth - 1) text
      else braceDepth depth text

/-- A block that implements a function: its header with the opening brace, the lines
between its braces, and the line that begins with the matching one.  The braces of the
body are balanced. -/
structure FunctionBlock (isWord : Char → Bool) where
  name : List Char
  header : Line
  body : List Line
  closing : Line
  isHeader : funcStart isWord (strip header) = some name
  oneBrace : header.count '\x7b' = 1 ∧ header.count '\x7d' = 0
  balanced : braceDepth 1 body.flatten = some 1
  closes : "\x7d".toList <+: strip closing

/-- A function, or another line at the top level. -/
inductive TopLevel (isWord : Char → Bool)
  | function (block : FunctionBlock isWord)
  | other (line : Line) (notHeader : funcStart isWord (strip line) = none)

variable {isWord : Char → Bool}

def TopLevel.lines : TopLevel isWord → List Line
  | .function block => block.header :: (block.body ++ [block.closing])
  | .other line _ => [line]

/-- The text as the list of its lines. -/
def layout (items : List (TopLevel isWord)) : List Line :=
  items.flatMap TopLevel.lines

/-- Lines with their numbers. -/
def numbered : Nat → List Line → List (Nat × Line)
  | _, [] => []
  | lineno, line :: rest => (lineno, line) :: numbered (lineno + 1) rest

/-- The functions of a text, with their whole bodies. -/
def functionsFrom : Nat → List (TopLevel isWord) → List ParsedFunction
  | _, [] => []
  | lineno, .function block :: rest =>
      ⟨block.name, lineno, numbered (lineno + 1) block.body⟩ ::
        functionsFrom (lineno + block.body.length + 2) rest
  | lineno, .other _ _ :: rest => functionsFrom (lineno + 1) rest

/-- In no part of the body from its beginning do more lines begin with a closing brace
than with the header of a function, and in the whole body as many do. -/
def BracesOnlyAfterHeaders (body : List Line) : Prop :=
  Settles lineKind 1 body

theorem numbered_injective {lineno : Nat} {lines other : List Line}
    (same : numbered lineno lines = numbered lineno other) : lines = other := by
  induction lines generalizing lineno other with
  | nil =>
      cases other with
      | nil => rfl
      | cons line rest => cases same
  | cons line rest ih =>
      cases other with
      | nil => cases same
      | cons line' rest' =>
          obtain ⟨first, later⟩ := List.cons.inj same
          rw [(Prod.mk.inj first).2, ih later]

/-- The inner loop takes the lines in front of the one that closes the last level. -/
theorem parseFrom_open (f : OpenFunction) (lineno : Nat) (lines : List Line) :
    parseFrom isWord (some f) lineno lines =
      ⟨f.name, f.start, f.body ++
          numbered lineno (taken lineKind f.depth lines)⟩ ::
        parseFrom isWord none
          (lineno + (taken lineKind f.depth lines).length + 1)
          (lines.drop
            ((taken lineKind f.depth lines).length + 1)) := by
  induction lines generalizing f lineno with
  | nil =>
      rw [parseFrom, taken, numbered, List.append_nil]
      rfl
  | cons line rest ih =>
      rw [parseFrom]
      cases sort : lineKind line with
      | opens =>
          rw [taken_opens sort]
          dsimp only
          rw [ih, List.append_assoc, List.length_cons, List.drop_succ_cons, numbered]
          simp only [List.singleton_append, Nat.add_assoc, Nat.add_comm 1]
      | closes =>
          rw [taken_closes sort]
          dsimp only
          by_cases last : f.depth - 1 = 0
          · rw [if_pos last, if_pos last, numbered, List.append_nil]
            rfl
          · rw [if_neg last, if_neg last, ih, List.append_assoc, List.length_cons,
              List.drop_succ_cons, numbered]
            simp only [List.singleton_append, Nat.add_assoc, Nat.add_comm 1]
      | neither =>
          rw [taken_neither sort]
          dsimp only
          rw [ih, List.append_assoc, List.length_cons, List.drop_succ_cons, numbered]
          simp only [List.singleton_append, Nat.add_assoc, Nat.add_comm 1]

theorem lineKind_closes {line : Line} (closing : "\x7d".toList <+: strip line) :
    lineKind line = .closes := by
  obtain ⟨rest, begins⟩ := closing
  unfold lineKind
  dsimp only
  rw [← begins]
  rfl

/-- In a body without lines that begin like a header, the condition is that no line
begins with a closing brace. -/
theorem bracesOnlyAfterHeaders_iff {body : List Line}
    (noHeader : ∀ line ∈ body, lineKind line ≠ .opens) :
    BracesOnlyAfterHeaders body ↔ ∀ line ∈ body, ¬ "\x7d".toList <+: strip line := by
  have none : opened lineKind body = 0 := by
    rw [opened, List.countP_eq_zero]
    intro line listed
    simpa using noHeader line listed
  constructor
  · intro settles line listed closing
    have some : 0 < closed lineKind body := by
      rw [closed, List.countP_pos_iff]
      exact ⟨line, listed, by simpa using lineKind_closes closing⟩
    have left := settles.one_left
    omega
  · intro plain
    have noneClosed : closed lineKind body = 0 := by
      rw [closed, List.countP_eq_zero]
      intro line listed
      have kind : lineKind line ≠ .closes := by
        unfold lineKind
        dsimp only
        rw [if_neg (plain line listed)]
        split <;> exact Kind.noConfusion
      simpa using kind
    refine ⟨fun front shorter => ?_, by rw [none, noneClosed]⟩
    have fewer : closed lineKind front ≤ closed lineKind body :=
      shorter.sublist.countP_le
    omega

theorem parseFrom_layout_iff (lineno : Nat) (items : List (TopLevel isWord)) :
    parseFrom isWord none lineno (layout items) = functionsFrom lineno items ↔
      ∀ block, TopLevel.function block ∈ items → BracesOnlyAfterHeaders block.body := by
  induction items generalizing lineno with
  | nil => exact iff_of_true rfl fun block listed => absurd listed List.not_mem_nil
  | cons item items ih =>
      have split : layout (item :: items) = item.lines ++ layout items := List.flatMap_cons
      rw [split]
      cases item with
      | other line notHeader =>
          rw [TopLevel.lines, List.singleton_append, parseFrom, notHeader, functionsFrom]
          dsimp only
          rw [ih]
          simp
      | function block =>
          have settles : taken lineKind 1 (block.body ++ block.closing :: layout items) =
              block.body ↔ BracesOnlyAfterHeaders block.body :=
            taken_eq_iff (lineKind_closes block.closes) Nat.zero_lt_one
          rw [TopLevel.lines, List.cons_append, List.append_assoc, List.singleton_append,
            parseFrom, block.isHeader, functionsFrom]
          dsimp only
          rw [parseFrom_open]
          dsimp only
          rw [List.nil_append]
          have behind : (block.body ++ block.closing :: layout items).drop
              (block.body.length + 1) = layout items := by simp
          have next : lineno + 1 + block.body.length + 1 = lineno + block.body.length + 2 := by
            omega
          constructor
          · intro same
            obtain ⟨first, rest⟩ := List.cons.inj same
            have whole := numbered_injective (congrArg ParsedFunction.body first)
            rw [whole, behind, next, ih] at rest
            intro other listed
            obtain equal | later := List.mem_cons.mp listed
            · obtain rfl := TopLevel.function.inj equal
              exact settles.mp whole
            · exact rest other later
          · intro condition
            have whole := settles.mpr (condition block List.mem_cons_self)
            rw [whole, behind, next,
              (ih _).mpr fun other later => condition other (List.mem_cons_of_mem _ later)]

/-- A text is parsed into its functions, each once and with its whole body, exactly when
in every body the lines that begin with a closing brace balance those that begin like a
header. -/
theorem parseFunctions_wholeBodies_iff (isWord : Char → Bool)
    (items : List (TopLevel isWord)) :
    parseFunctions isWord (layout items) = functionsFrom 1 items ↔
      ∀ block, TopLevel.function block ∈ items → BracesOnlyAfterHeaders block.body :=
  parseFrom_layout_iff 1 items

/-- The word characters among the ASCII characters. -/
def isAsciiWord (c : Char) : Bool :=
  c.isAlphanum || c = '_'

/-- A function whose first statement is a `switch`. -/
def switchBlock : FunctionBlock isAsciiWord where
  name := "f".toList
  header := "PPC_FUNC_IMPL(__imp__f) \x7b".toList
  body := ["switch (x) \x7b".toList, "\x7d".toList, "ctx.r3.s64 = 0;".toList]
  closing := "\x7d".toList
  isHeader := by decide +kernel
  oneBrace := by decide +kernel
  balanced := by decide +kernel
  closes := by decide +kernel

/-- The closing brace of the `switch` ends the function. -/
theorem switchBlock_truncated :
    parseFunctions isAsciiWord (layout [.function switchBlock]) ≠
      functionsFrom 1 [.function switchBlock] := by
  decide +kernel

end BumpinHost.Tools
