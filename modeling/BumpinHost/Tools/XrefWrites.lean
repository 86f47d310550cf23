import BumpinHost.Tools.Xref

/-!
# Which stores a query reports

Two addresses are the same to the tool when their texts are, and texts are the same
when the expressions are.  On straight-line code an expression is known for every
register that a chain of literals, or a load through one, determines.
-/

namespace BumpinHost.Tools

theorem intChars_injective {first second : Int} (same : intChars first = intChars second) :
    first = second := by
  have digits : ∀ {m n : Nat}, Nat.toDigits 10 m = Nat.toDigits 10 n → m = n := by
    intro m n same
    have value := congrArg (fun chars => Nat.ofDigitChars 10 chars 0) same
    simpa only [Nat.ofDigitChars_toDigits (by decide : 1 < 10) (by decide : 10 ≤ 10)] using value
  have unsigned : ∀ {m : Nat} {rest}, Nat.toDigits 10 m ≠ '-' :: rest := by
    intro m rest signed
    have digit : ('-' : Char).isDigit = true :=
      Nat.isDigit_of_mem_toDigits (by decide : 0 < 10) (by decide : 10 ≤ 10)
        (by rw [signed]; exact List.mem_cons_self : '-' ∈ Nat.toDigits 10 m)
    exact absurd digit (by decide)
  cases first with
  | ofNat m =>
      cases second with
      | ofNat n => rw [digits same]
      | negSucc n => exact absurd same unsigned
  | negSucc m =>
      cases second with
      | ofNat n => exact absurd same.symm unsigned
      | negSucc n =>
          have tails := (List.cons.inj same).2
          have := digits tails
          congr 1
          omega

/-- Digits and the sign. -/
def isIntChar (c : Char) : Bool := c.isDigit || c == '-'

theorem isIntChar_of_mem {value : Int} {c : Char} (member : c ∈ intChars value) :
    isIntChar c = true := by
  have digit : ∀ {n : Nat}, c ∈ Nat.toDigits 10 n → isIntChar c = true := by
    intro n inDigits
    unfold isIntChar
    rw [Nat.isDigit_of_mem_toDigits (by decide : 0 < 10) (by decide : 10 ≤ 10) inDigits]
    rfl
  cases value with
  | ofNat n => exact digit member
  | negSucc n =>
      rcases List.mem_cons.mp member with rfl | inDigits
      · rfl
      · exact digit inDigits

/-- A text that a character of another kind follows can be read back. -/
theorem delimited {first second rest other : List Char} {p : Char → Bool} {c d : Char}
    (firstKind : ∀ x ∈ first, p x = true) (secondKind : ∀ x ∈ second, p x = true)
    (cKind : p c = false) (dKind : p d = false)
    (same : first ++ c :: rest = second ++ d :: other) :
    first = second ∧ c = d ∧ rest = other := by
  induction first generalizing second with
  | nil =>
      cases second with
      | nil => simpa using same
      | cons x second =>
          have head := (List.cons.inj same).1
          rw [head, secondKind x List.mem_cons_self] at cKind
          cases cKind
  | cons x first ih =>
      cases second with
      | nil =>
          have head := (List.cons.inj same).1
          rw [← head, firstKind x List.mem_cons_self] at dKind
          cases dKind
      | cons y second =>
          obtain ⟨rfl, tails⟩ := List.cons.inj same
          obtain ⟨rfl, rest⟩ := ih (fun z member => firstKind z (List.mem_cons_of_mem _ member))
            (fun z member => secondKind z (List.mem_cons_of_mem _ member)) tails
          exact ⟨rfl, rest⟩

theorem intChars_delimited {first second : Int} {rest other : List Char} {c d : Char}
    (cKind : isIntChar c = false) (dKind : isIntChar d = false)
    (same : intChars first ++ c :: rest = intChars second ++ d :: other) :
    first = second ∧ c = d ∧ rest = other := by
  obtain ⟨digits, follows⟩ := delimited (fun _ => isIntChar_of_mem) (fun _ => isIntChar_of_mem)
    cKind dKind same
  exact ⟨intChars_injective digits, follows⟩

/-- The name of the list that an expression is written as. -/
def keyName : Expr → String
  | .const _ => "const"
  | .param _ => "param"
  | .deref _ _ _ => "deref"
  | .addr _ _ => "addr"
  | .storeAt _ _ => "at"

/-- The name of a list can be read back. -/
theorem openList_delimited {first second : String} {rest other : List Char}
    (firstPlain : '"' ∉ first.toList) (secondPlain : '"' ∉ second.toList)
    (same : openList first ++ rest = openList second ++ other) :
    first = second ∧ rest = other := by
  have plain : ∀ {name : String}, '"' ∉ name.toList →
      ∀ x ∈ name.toList, (x != '"') = true := by
    intro name noQuote x member
    simp only [bne_iff_ne]
    rintro rfl
    exact noQuote member
  have inner : first.toList ++ '"' :: (',' :: ' ' :: rest) =
      second.toList ++ '"' :: (',' :: ' ' :: other) := by
    simpa [openList] using same
  obtain ⟨names, -, follows⟩ := delimited (plain firstPlain) (plain secondPlain) (by decide)
    (by decide) inner
  exact ⟨String.toList_inj.mp names, (List.cons.inj (List.cons.inj follows).2).2⟩

/-- Whether two expressions are lists of the same kind can be read off their texts. -/
theorem keyName_eq {first second : Expr} {rest other : List Char}
    (same : keyChars first ++ rest = keyChars second ++ other) :
    keyName first = keyName second := by
  have opens : ∀ e : Expr, '"' ∉ (keyName e).toList ∧
      ∃ body, keyChars e = openList (keyName e) ++ body := by
    intro e
    cases e with
    | const => exact ⟨(by decide : '"' ∉ "const".toList), _, rfl⟩
    | param => exact ⟨(by decide : '"' ∉ "param".toList), _, rfl⟩
    | deref => exact ⟨(by decide : '"' ∉ "deref".toList), _, rfl⟩
    | addr => exact ⟨(by decide : '"' ∉ "addr".toList), _, rfl⟩
    | storeAt => exact ⟨(by decide : '"' ∉ "at".toList), _, rfl⟩
  obtain ⟨firstPlain, firstBody, firstOpens⟩ := opens first
  obtain ⟨secondPlain, secondBody, secondOpens⟩ := opens second
  rw [firstOpens, secondOpens, List.append_assoc, List.append_assoc] at same
  exact (openList_delimited firstPlain secondPlain same).1

/-- A base and an offset after it can be read back. -/
theorem fields_delimited {firstBase secondBase : Expr} {firstOffset secondOffset : Int}
    {rest other : List Char} {c d : Char} (cKind : isIntChar c = false)
    (dKind : isIntChar d = false)
    (baseBack : ∀ {rest other}, keyChars firstBase ++ rest = keyChars secondBase ++ other →
      firstBase = secondBase ∧ rest = other)
    (same : keyChars firstBase ++ (',' :: ' ' :: (intChars firstOffset ++ c :: rest)) =
      keyChars secondBase ++ (',' :: ' ' :: (intChars secondOffset ++ d :: other))) :
    firstBase = secondBase ∧ firstOffset = secondOffset ∧ c = d ∧ rest = other := by
  obtain ⟨base, follows⟩ := baseBack same
  exact ⟨base, intChars_delimited cKind dKind (List.cons.inj (List.cons.inj follows).2).2⟩

/-- A list of a base and an offset can be read back. -/
theorem based_delimited {name : String} {firstBase secondBase : Expr}
    {firstOffset secondOffset : Int} {rest other : List Char}
    (baseBack : ∀ {rest other}, keyChars firstBase ++ rest = keyChars secondBase ++ other →
      firstBase = secondBase ∧ rest = other)
    (same : openList name ++ (keyChars firstBase ++
          (',' :: ' ' :: (intChars firstOffset ++ [']']))) ++ rest =
      openList name ++ (keyChars secondBase ++
          (',' :: ' ' :: (intChars secondOffset ++ [']']))) ++ other) :
    firstBase = secondBase ∧ firstOffset = secondOffset ∧ rest = other := by
  simp only [List.append_assoc, List.append_cancel_left_eq, List.cons_append,
    List.nil_append] at same
  obtain ⟨base, offset, -, follows⟩ := fields_delimited (by decide) (by decide) baseBack same
  exact ⟨base, offset, follows⟩

/-- An expression can be read back from the front of a text. -/
theorem keyChars_delimited {first second : Expr} {rest other : List Char}
    (same : keyChars first ++ rest = keyChars second ++ other) :
    first = second ∧ rest = other := by
  have names := keyName_eq same
  induction first generalizing second rest other with
  | const value =>
      cases second with
      | const otherValue =>
          simp only [keyChars, List.append_assoc, List.append_cancel_left_eq, List.cons_append,
            List.nil_append] at same
          obtain ⟨rfl, -, follows⟩ := intChars_delimited (by decide) (by decide) same
          exact ⟨rfl, follows⟩
      | _ => exact absurd names (by simp [keyName])
  | param index =>
      cases second with
      | param otherIndex =>
          simp only [keyChars, List.append_assoc, List.append_cancel_left_eq, List.cons_append,
            List.nil_append] at same
          obtain ⟨equal, -, follows⟩ := intChars_delimited (by decide) (by decide) same
          obtain rfl := Int.ofNat_inj.mp equal
          exact ⟨rfl, follows⟩
      | _ => exact absurd names (by simp [keyName])
  | addr base offset ih =>
      cases second with
      | addr otherBase otherOffset =>
          obtain ⟨rfl, rfl, follows⟩ :=
            based_delimited (fun same => ih same (keyName_eq same)) same
          exact ⟨rfl, follows⟩
      | _ => exact absurd names (by simp [keyName])
  | storeAt base offset ih =>
      cases second with
      | storeAt otherBase otherOffset =>
          obtain ⟨rfl, rfl, follows⟩ :=
            based_delimited (fun same => ih same (keyName_eq same)) same
          exact ⟨rfl, follows⟩
      | _ => exact absurd names (by simp [keyName])
  | deref base offset size ih =>
      cases second with
      | deref otherBase otherOffset otherSize =>
          simp only [keyChars, List.append_assoc, List.append_cancel_left_eq, List.cons_append,
            List.nil_append] at same
          obtain ⟨rfl, rfl, -, sizes⟩ := fields_delimited (by decide) (by decide)
            (fun same => ih same (keyName_eq same)) same
          obtain ⟨equal, -, follows⟩ := intChars_delimited (by decide) (by decide)
            (List.cons.inj sizes).2
          obtain rfl := Int.ofNat_inj.mp equal
          exact ⟨rfl, follows⟩
      | _ => exact absurd names (by simp [keyName])

/-- Two expressions share a key only when they are the same. -/
theorem exprKey_inj {first second : Expr} : exprKey first = exprKey second ↔ first = second := by
  constructor
  · intro same
    have chars : keyChars first ++ [] = keyChars second ++ [] := by
      rw [List.append_nil, List.append_nil]
      exact String.ofList_injective same
    exact (keyChars_delimited chars).1
  · rintro rfl
    rfl

/-- The forms of straight-line code. -/
def LineForm.IsStraightLine : LineForm → Prop
  | .const _ _ | .copy _ _ | .addi _ _ _ | .load _ _ _ _ | .store _ _ _ => True
  | .call _ | .indirect | .other => False

/-- How the value of a register comes about: a literal and what was added to it, or a load
through such a value and what was added after. -/
inductive Origin
  | literal (parts : List Int)
  | loaded (parts : List Int) (displacement : Int) (size : Nat) (added : List Int)
  | unknown
deriving DecidableEq, Repr

def nextOrigins (origins : Nat → Origin) : LineForm → Nat → Origin
  | .const rd value => Function.update origins rd (.literal [value])
  | .copy rd rs => Function.update origins rd (origins rs)
  | .addi rd rs off =>
      Function.update origins rd <|
        match origins rs with
        | .literal parts => .literal (parts ++ [off])
        | .loaded parts displacement size added =>
            .loaded parts displacement size (added ++ [off])
        | .unknown => .unknown
  | .load rd size rs off =>
      Function.update origins rd <|
        match origins rs with
        | .literal parts => .loaded parts off size []
        | _ => .unknown
  | .store _ _ _ => origins
  | .call _ | .indirect | .other => fun _ => .unknown

def originsAfter (lines : List SourceLine) : Nat → Origin :=
  lines.foldl (fun origins line => nextOrigins origins line.form) fun _ => .unknown

/-- The seed and the offset of the query that a store at a displacement from the value
answers to. -/
def Origin.query (off : Int) : Origin → Option (Expr × Int)
  | .literal parts => some (.const (BitVec.ofInt 32 (parts.sum + off)).toNat, 0)
  | .loaded parts displacement _ added =>
      some (.deref (.const (BitVec.ofInt 32 (parts.sum + displacement)).toNat) 0 32,
        added.sum + off)
  | .unknown => none

/-- The whole address is in the base, the base is written as an unsigned number, and a
loaded pointer was loaded by a 32-bit load and nothing was added to it. -/
def Origin.IsPlain (off : Int) : Origin → Prop
  | .literal parts => off = 0 ∧ 0 ≤ parts.sum ∧ parts.sum < 2 ^ 32
  | .loaded parts displacement size added =>
      displacement = 0 ∧ 0 ≤ parts.sum ∧ parts.sum < 2 ^ 32 ∧ size = 32 ∧ added = []
  | .unknown => True

/-- A line of straight-line code at work on the 64-bit registers; a load may read
anything. -/
inductive LineStep (regs : Nat → BitVec 64) : LineForm → (Nat → BitVec 64) → Prop
  | const (rd : Nat) (value : Int) :
      LineStep regs (.const rd value) (Function.update regs rd (BitVec.ofInt 64 value))
  | copy (rd rs : Nat) : LineStep regs (.copy rd rs) (Function.update regs rd (regs rs))
  | addi (rd rs : Nat) (off : Int) :
      LineStep regs (.addi rd rs off)
        (Function.update regs rd (regs rs + BitVec.ofInt 64 off))
  | load (rd size rs : Nat) (off : Int) (value : BitVec 64) :
      LineStep regs (.load rd size rs off) (Function.update regs rd value)
  | store (size rs : Nat) (off : Int) : LineStep regs (.store size rs off) regs

inductive LineRun (start : Nat → BitVec 64) : List SourceLine → (Nat → BitVec 64) → Prop
  | refl : LineRun start [] start
  | tail {lines : List SourceLine} {line : SourceLine} {regs after : Nat → BitVec 64} :
      LineRun start lines regs → LineStep regs line.form after →
        LineRun start (lines ++ [line]) after

@[simp]
theorem originsAfter_concat (lines : List SourceLine) (line : SourceLine) :
    originsAfter (lines ++ [line]) = nextOrigins (originsAfter lines) line.form := by
  simp [originsAfter]

theorem setWidth_ofInt (value : Int) :
    (BitVec.ofInt 64 value).setWidth 32 = BitVec.ofInt 32 value := by
  apply BitVec.eq_of_toNat_eq
  rw [BitVec.toNat_setWidth, BitVec.toNat_ofInt, BitVec.toNat_ofInt]
  omega

theorem setWidth_add_ofInt (value : BitVec 64) (off : Int) :
    (value + BitVec.ofInt 64 off).setWidth 32 = value.setWidth 32 + BitVec.ofInt 32 off := by
  rw [BitVec.setWidth_add _ _ (by decide), setWidth_ofInt]

/-- Two register files that agree everywhere agree after the same update. -/
theorem update_related {α β : Type} (related : α → β → Prop) {first : Nat → α} {second : Nat → β}
    (agree : ∀ r, related (first r) (second r)) {rd : Nat} {a : α} {b : β} (new : related a b)
    (r : Nat) : related (Function.update first rd a r) (Function.update second rd b r) := by
  by_cases own : r = rd
  · subst own
    rw [Function.update_self, Function.update_self]
    exact new
  · rw [Function.update_of_ne own, Function.update_of_ne own]
    exact agree r

/-- A literal origin gives the low word of the value. -/
def Origin.Determines (origin : Origin) (value : BitVec 64) : Prop :=
  ∀ parts, origin = .literal parts → value.setWidth 32 = BitVec.ofInt 32 parts.sum

theorem LineStep.determines {origins : Nat → Origin} {regs after : Nat → BitVec 64}
    {form : LineForm} (step : LineStep regs form after)
    (known : ∀ r, (origins r).Determines (regs r)) (r : Nat) :
    (nextOrigins origins form r).Determines (after r) := by
  cases step with
  | store size rs off => exact known r
  | const rd value =>
      apply update_related Origin.Determines known
      rintro _ ⟨⟩
      rw [List.sum_singleton]
      exact setWidth_ofInt value
  | copy rd rs => exact update_related Origin.Determines known (known rs) r
  | addi rd rs off =>
      apply update_related Origin.Determines known
      intro parts literal
      split at literal
      case h_1 sofar base =>
          cases literal
          rw [setWidth_add_ofInt, known rs sofar base, List.sum_append, List.sum_singleton,
            BitVec.ofInt_add]
      all_goals cases literal
  | load rd size rs off value =>
      apply update_related Origin.Determines known
      intro parts literal
      split at literal <;> cases literal

/-- A literal origin is a constant: every run leaves its sum in the low word. -/
theorem literal_sound {start regs : Nat → BitVec 64} {lines : List SourceLine}
    (run : LineRun start lines regs) (r : Nat) :
    (originsAfter lines r).Determines (regs r) := by
  induction run generalizing r with
  | refl =>
      rintro parts ⟨⟩
  | @tail lines line before after _ step ih =>
      rw [originsAfter_concat]
      exact step.determines ih r

/-- A query for a constant asks for the effective address that the store has in every
run. -/
theorem effectiveAddress_eq_query {start regs : Nat → BitVec 64} {lines : List SourceLine}
    (run : LineRun start lines regs) {rs : Nat} {off address : Int}
    (asked : (originsAfter lines rs).query off = some (.const address, 0)) :
    (((regs rs).setWidth 32 + BitVec.ofInt 32 off).toNat : Int) = address := by
  have determined := literal_sound run rs
  cases origin : originsAfter lines rs with
  | unknown =>
      rw [origin] at asked
      cases asked
  | loaded parts displacement size added =>
      rw [origin] at asked
      cases asked
  | literal parts =>
      rw [origin] at asked
      cases asked
      rw [determined parts origin, ← BitVec.ofInt_add]

/-- What an addition makes of a loaded pointer. -/
def Expr.IsDerived : Expr → Prop
  | .addr _ _ => True
  | .deref (.deref _ _ _) _ _ => True
  | _ => False

/-- The expression that the tool keeps for a value of known origin. -/
def Origin.Tracked : Origin → Option Expr → Prop
  | .literal parts, value => value = some (.const parts.sum)
  | .loaded parts displacement size added, value =>
      (added = [] → value = some (.deref (.const parts.sum) displacement size)) ∧
        (added ≠ [] → ∃ e, value = some e ∧ e.IsDerived)
  | .unknown, _ => True

def registersAfter (regs : Registers) (lines : List SourceLine) : Registers :=
  lines.foldl (fun regs line => updateRegisters regs line.form) regs

theorem Origin.Tracked.next {origins : Nat → Origin} {regs : Registers}
    (tracked : ∀ r, (origins r).Tracked (regs r)) {form : LineForm}
    (straight : form.IsStraightLine) (r : Nat) :
    (nextOrigins origins form r).Tracked (updateRegisters regs form r) := by
  cases form with
  | call => cases straight
  | indirect => cases straight
  | other => cases straight
  | store size rs off => exact tracked r
  | const rd value =>
      apply update_related Origin.Tracked tracked
      simp [Origin.Tracked]
  | copy rd rs => exact update_related Origin.Tracked tracked (tracked rs) r
  | load rd size rs off =>
      apply update_related Origin.Tracked tracked
      have base := tracked rs
      cases known : origins rs with
      | literal parts =>
          rw [known] at base
          have base : regs rs = some (.const parts.sum) := base
          simp [Origin.Tracked, base]
      | _ => trivial
  | addi rd rs off =>
      apply update_related Origin.Tracked tracked
      have base := tracked rs
      cases known : origins rs with
      | unknown => trivial
      | literal parts =>
          rw [known] at base
          have base : regs rs = some (.const parts.sum) := base
          simp [Origin.Tracked, base]
      | loaded parts displacement size added =>
          rw [known] at base
          obtain ⟨direct, derived⟩ := base
          refine ⟨fun none => absurd none (by simp), fun _ => ?_⟩
          by_cases first : added = []
          · rw [direct first]
            by_cases zero : off = 0
            · exact ⟨_, if_pos zero, trivial⟩
            · exact ⟨_, if_neg zero, trivial⟩
          · obtain ⟨e, value, isDerived⟩ := derived first
            rw [value]
            cases e with
            | addr base offset => exact ⟨_, rfl, trivial⟩
            | deref base offset size =>
                by_cases zero : off = 0
                · exact ⟨_, if_pos zero, trivial⟩
                · exact ⟨_, if_neg zero, trivial⟩
            | _ => cases isDerived

theorem tracked_after {lines : List SourceLine}
    (straight : ∀ line ∈ lines, line.form.IsStraightLine) (r : Nat) :
    (originsAfter lines r).Tracked (registersAfter initialRegisters lines r) := by
  induction lines using List.reverseRecOn generalizing r with
  | nil => trivial
  | append_singleton lines line ih =>
      rw [List.forall_mem_append, List.forall_mem_singleton] at straight
      rw [originsAfter_concat]
      have last : registersAfter initialRegisters (lines ++ [line]) =
          updateRegisters (registersAfter initialRegisters lines) line.form := by
        simp [registersAfter]
      rw [last]
      exact Origin.Tracked.next (fun r => ih straight.1 r) straight.2 r

section Index

variable {func file : String} {lineno : Nat} {regs : Registers} {index : XrefIndex}
  {line : SourceLine} {key : String} {w : WriteRecord}

/-- The store that a line is recorded as, under a key. -/
def RecordsStore (func file : String) (regs : Registers) (lineno : Nat) (line : SourceLine)
    (key : String) (w : WriteRecord) : Prop :=
  ∃ size rs off base, line.form = .store size rs off ∧ regs rs = some base ∧
    key = exprKey (.storeAt base off) ∧ w = ⟨func, file, lineno, line.raw, size⟩

theorem mem_writes_indexLine :
    w ∈ (indexLine func file regs index lineno line).writes key ↔
      w ∈ index.writes key ∨ RecordsStore func file regs lineno line key w := by
  unfold indexLine RecordsStore
  cases form : line.form with
  | store size rs off =>
      cases known : regs rs with
      | none => simp [known]
      | some base =>
          by_cases own : key = exprKey (.storeAt base off)
          · subst own
            simp [known]
          · simp [known, own]
  | _ => simp

/-- The records of a body are those of its stores. -/
theorem mem_writes_analyzeLines {lines : List SourceLine} :
    w ∈ (analyzeLines func file lineno regs index lines).writes key ↔
      w ∈ index.writes key ∨ ∃ before line after, lines = before ++ line :: after ∧
        RecordsStore func file (registersAfter regs before) (lineno + before.length) line key
          w := by
  induction lines generalizing lineno regs index with
  | nil => simp [analyzeLines]
  | cons first rest ih =>
      rw [analyzeLines, ih, mem_writes_indexLine, or_assoc]
      apply or_congr_right
      constructor
      · rintro (here | ⟨before, line, after, rfl, recorded⟩)
        · exact ⟨[], first, rest, rfl, here⟩
        · refine ⟨first :: before, line, after, rfl, ?_⟩
          rw [List.length_cons, show lineno + (before.length + 1) = lineno + 1 + before.length by
            omega]
          exact recorded
      · rintro ⟨before, line, after, split, recorded⟩
        cases before with
        | nil =>
            obtain ⟨rfl, rfl⟩ := List.cons.inj split
            exact Or.inl recorded
        | cons head before =>
            obtain ⟨rfl, rfl⟩ := List.cons.inj split
            refine Or.inr ⟨before, line, after, rfl, ?_⟩
            rw [List.length_cons, show lineno + (before.length + 1) = lineno + 1 + before.length by
              omega] at recorded
            exact recorded

theorem analyzeLines_calls {lines : List SourceLine}
    (straight : ∀ line ∈ lines, line.form.IsStraightLine) :
    (analyzeLines func file lineno regs index lines).calls = index.calls := by
  induction lines generalizing lineno regs index with
  | nil => rfl
  | cons first rest ih =>
      have tail : (analyzeLines func file (lineno + 1) (updateRegisters regs first.form)
          (indexLine func file regs index lineno first) rest).calls =
          (indexLine func file regs index lineno first).calls :=
        ih fun line member => straight line (List.mem_cons_of_mem _ member)
      rw [analyzeLines, tail]
      have plain := straight first List.mem_cons_self
      unfold indexLine
      cases form : first.form with
      | store size rs off =>
          dsimp only
          cases regs rs <;> rfl
      | call callee => simp [form, LineForm.IsStraightLine] at plain
      | indirect => simp [form, LineForm.IsStraightLine] at plain
      | _ => rfl

/-- What a level of the search adds are writes under the key it looks up. -/
theorem mem_addWrites {seed : Expr} {offset : Int} {depth : Nat} {found : Found}
    {hop : Option Nat} (member : (w, hop) ∈ (addWrites index seed offset depth found).results) :
    (w, hop) ∈ found.results ∨ w ∈ index.writes (exprKey (.storeAt seed offset)) := by
  unfold addWrites at member
  generalize index.writes (exprKey (.storeAt seed offset)) = writes at member
  induction writes generalizing found with
  | nil => exact Or.inl member
  | cons first rest ih =>
      rw [List.foldl_cons] at member
      rcases ih member with earlier | later
      · split at earlier
        · exact Or.inl earlier
        · rcases List.mem_append.mp earlier with old | new
          · exact Or.inl old
          · cases List.mem_singleton.mp new
            exact Or.inr List.mem_cons_self
      · exact Or.inr (List.mem_cons_of_mem _ later)

theorem mem_addWrites_of_found {seed : Expr} {offset : Int} {depth : Nat} {found : Found}
    {result : WriteRecord × Option Nat} (member : result ∈ found.results) :
    result ∈ (addWrites index seed offset depth found).results := by
  unfold addWrites
  generalize index.writes (exprKey (.storeAt seed offset)) = writes
  induction writes generalizing found with
  | nil => exact member
  | cons first rest ih =>
      rw [List.foldl_cons]
      apply ih
      split
      · exact member
      · exact List.mem_append_left _ member

/-- Without calls to follow, a query reports what is recorded under the text of its
address. -/
theorem mem_findWrites_of_noCalls (noCalls : index.calls = []) {seed : Expr} {offset : Int}
    {hops : Nat} :
    (∃ hop, (w, hop) ∈ findWrites index seed offset hops) ↔
      w ∈ index.writes (exprKey (.storeAt seed offset)) := by
  unfold findWrites
  dsimp only
  cases hops with
  | zero => simp [recurse]
  | succ levels =>
      rw [recurse, noCalls]
      constructor
      · rintro ⟨hop, member⟩
        rcases mem_addWrites member with direct | recorded
        · obtain ⟨found, listed, same⟩ := List.mem_map.mp direct
          cases same
          exact listed
        · exact recorded
      · intro recorded
        exact ⟨none, mem_addWrites_of_found (List.mem_map_of_mem recorded)⟩

/-- The record of a store is under the key of its tracked base and its displacement only. -/
theorem mem_writes_analyzeBody (firstLine : Nat) {before after : List SourceLine} {raw : String}
    {size rs : Nat} {off offset : Int} {seed : Expr} :
    ⟨func, file, firstLine + before.length, raw, size⟩ ∈
        (analyzeBody func file firstLine (before ++ ⟨raw, .store size rs off⟩ :: after)).writes
          (exprKey (.storeAt seed offset)) ↔
      registersAfter initialRegisters before rs = some seed ∧ off = offset := by
  unfold analyzeBody
  rw [mem_writes_analyzeLines]
  constructor
  · rintro (none | ⟨earlier, line, later, split, recorded⟩)
    · cases none
    · obtain ⟨otherSize, otherRs, otherOff, base, form, known, key, record⟩ := recorded
      have lines : before.length = earlier.length := by
        have := congrArg WriteRecord.line record
        dsimp only at this
        omega
      obtain ⟨rfl, rest⟩ := List.append_inj split lines
      obtain ⟨rfl, -⟩ := List.cons.inj rest
      cases form
      cases exprKey_inj.mp key
      exact ⟨known, rfl⟩
  · rintro ⟨known, rfl⟩
    exact Or.inr ⟨before, _, after, rfl, size, rs, off, seed, rfl, known, rfl, rfl⟩

end Index

theorem toNat_ofInt_eq_iff {total : Int} :
    ((BitVec.ofInt 32 total).toNat : Int) = total ↔ 0 ≤ total ∧ total < 2 ^ 32 := by
  rw [BitVec.toNat_ofInt]
  omega

/-- The expression kept for a value is the seed asked for exactly when the value is plain. -/
theorem Origin.Tracked.query_iff {origin : Origin} {value : Option Expr}
    (tracked : origin.Tracked value) (off : Int) :
    (∀ seed offset, origin.query off = some (seed, offset) → value = some seed ∧ off = offset) ↔
      origin.IsPlain off := by
  cases origin with
  | unknown => simp [Origin.query, Origin.IsPlain]
  | literal parts =>
      have value : value = some (.const parts.sum) := tracked
      subst value
      constructor
      · intro asked
        obtain ⟨same, zero⟩ := asked _ _ rfl
        have total := Expr.const.inj (Option.some_inj.mp same)
        rw [zero, add_zero] at total
        exact ⟨zero, toNat_ofInt_eq_iff.mp total.symm⟩
      · rintro ⟨rfl, range⟩ seed offset ⟨⟩
        rw [add_zero, toNat_ofInt_eq_iff.mpr range]
        exact ⟨rfl, rfl⟩
  | loaded parts displacement size added =>
      obtain ⟨direct, derived⟩ := tracked
      constructor
      · intro asked
        obtain ⟨same, -⟩ := asked _ _ rfl
        by_cases none : added = []
        · rw [direct none] at same
          obtain ⟨base, rfl, rfl⟩ := Expr.deref.inj (Option.some_inj.mp same)
          have total := Expr.const.inj base
          rw [add_zero] at total
          obtain ⟨lower, upper⟩ := toNat_ofInt_eq_iff.mp total.symm
          exact ⟨rfl, lower, upper, rfl, none⟩
        · obtain ⟨e, kept, isDerived⟩ := derived none
          rw [kept] at same
          obtain rfl := Option.some_inj.mp same
          cases isDerived
      · rintro ⟨rfl, lower, upper, rfl, rfl⟩ seed offset ⟨⟩
        rw [direct rfl, add_zero, toNat_ofInt_eq_iff.mpr ⟨lower, upper⟩]
        exact ⟨rfl, (zero_add off).symm⟩

/-- A store of straight-line code is reported for the address it writes to exactly when the
address is written out in its base register. -/
theorem findWrites_reports_iff (func file : String) (firstLine hops : Nat)
    {before after : List SourceLine} {raw : String} {size rs : Nat} {off : Int}
    (straight : ∀ line ∈ before ++ ⟨raw, .store size rs off⟩ :: after,
      line.form.IsStraightLine) :
    (∀ seed offset, (originsAfter before rs).query off = some (seed, offset) →
      ∃ hop, (⟨func, file, firstLine + before.length, raw, size⟩, hop) ∈
        findWrites
          (analyzeBody func file firstLine (before ++ ⟨raw, .store size rs off⟩ :: after))
          seed offset hops) ↔
      (originsAfter before rs).IsPlain off := by
  have noCalls : (analyzeBody func file firstLine
      (before ++ ⟨raw, .store size rs off⟩ :: after)).calls = [] := analyzeLines_calls straight
  have tracked := tracked_after
    (fun line member => straight line (List.mem_append_left _ member)) rs
  simp only [mem_findWrites_of_noCalls noCalls, mem_writes_analyzeBody]
  exact tracked.query_iff off

/-- A pointer slot at 4096 is loaded and its target written to. -/
def pointerStore : List SourceLine :=
  [⟨"ctx.r11.s64 = 4096;", .const 11 4096⟩,
    ⟨"ctx.r11.u64 = PPC_LOAD_U32(ctx.r11.u32 + 0);", .load 11 32 11 0⟩]

theorem findWrites_reports_iff_pointerStore :
    (originsAfter pointerStore 11).IsPlain 136 ∧
      ∀ seed offset, (originsAfter pointerStore 11).query 136 = some (seed, offset) →
        ∃ hop, (⟨"sub_1", "ppc_recomp.1.cpp", 10 + pointerStore.length,
            "PPC_STORE_U32(ctx.r11.u32 + 136, ctx.r10.u32);", 32⟩, hop) ∈
          findWrites
            (analyzeBody "sub_1" "ppc_recomp.1.cpp" 10 (pointerStore ++
              ⟨"PPC_STORE_U32(ctx.r11.u32 + 136, ctx.r10.u32);", .store 32 11 136⟩ :: []))
            seed offset 3 := by
  have straight : ∀ line ∈ pointerStore ++
      ⟨"PPC_STORE_U32(ctx.r11.u32 + 136, ctx.r10.u32);", .store 32 11 136⟩ :: [],
      line.form.IsStraightLine := by
    intro line member
    simp only [pointerStore, List.cons_append, List.nil_append, List.mem_cons,
      List.not_mem_nil, or_false] at member
    rcases member with rfl | rfl | rfl <;> trivial
  have plain : (originsAfter pointerStore 11).IsPlain 136 :=
    ⟨rfl, by decide, by decide, rfl, rfl⟩
  exact ⟨plain, (findWrites_reports_iff "sub_1" "ppc_recomp.1.cpp" 10 3 straight).mpr plain⟩

/-- The slot of the loading object, at 0x826EB104, addressed as generated code does: from
the next multiple of 65536, which is written as a negative number. -/
def slotBase : SourceLine := ⟨"ctx.r11.s64 = -2106654720;", .const 11 (-2106654720)⟩

def slotStore : SourceLine :=
  ⟨"PPC_STORE_U32(ctx.r11.u32 + -20220, ctx.r10.u32);", .store 32 11 (-20220)⟩

/-- The tool finds no write to the slot that the store writes to. -/
theorem findWrites_missesSlot :
    (∀ line ∈ [slotBase, slotStore], line.form.IsStraightLine) ∧
      (originsAfter [slotBase] 11).query (-20220) = some (.const 0x826EB104, 0) ∧
      findWrites (analyzeBody "sub_1" "ppc_recomp.1.cpp" 10 [slotBase, slotStore])
        (.const 0x826EB104) 0 3 = [] := by
  refine ⟨?_, by decide +kernel, by decide +kernel⟩
  intro line member
  rcases List.mem_pair.mp member with rfl | rfl <;> trivial

end BumpinHost.Tools
