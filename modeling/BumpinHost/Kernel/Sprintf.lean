import BumpinHost.Kernel.AnsiStrings
import BumpinHost.Library.CFormat

/-!
# Formatted output

`sprintf` scans the format for conversions and has the host format each of them into a
buffer, which has 64 bytes, or 64 more than the string that is shown.  What it appends of
the buffer ends at the first zero byte.  So a wide conversion is cut off, and a zero
character ends its conversion early.
-/

namespace BumpinHost.Kernel

open CFormat Memory

/-- The registers that `sprintf` reads. -/
structure SprintfContext where
  r3 : BitVec 64
  r4 : BitVec 64
  r5 : BitVec 64
  r6 : BitVec 64
  r7 : BitVec 64
  r8 : BitVec 64
  r9 : BitVec 64
  r10 : BitVec 64
deriving DecidableEq, Repr

namespace SprintfContext

def bufferPtr (ctx : SprintfContext) : Word := ctx.r3.setWidth 32

def formatPtr (ctx : SprintfContext) : Word := ctx.r4.setWidth 32

def gprArgs (ctx : SprintfContext) : List (BitVec 64) :=
  [ctx.r5, ctx.r6, ctx.r7, ctx.r8, ctx.r9, ctx.r10]

end SprintfContext

/-- The text that the host makes of a format and an argument when there is room for it. -/
abbrev HostFormat := List Byte → Argument → List Byte

/-- What `+=` appends of a buffer of this size after `snprintf`. -/
def snprintfResult (host : HostFormat) (size : Nat) (spec : List Byte) (arg : Argument) :
    List Byte :=
  beforeZero ((host spec arg).take (size - 1))

/-- `nextGpr < 6 ? gprArgs[nextGpr++] : 0` as 32 bits, and the arguments that are left. -/
def nextArg : List (BitVec 64) → Word × List (BitVec 64)
  | [] => (0, [])
  | arg :: args => (arg.setWidth 32, args)

def isSpecChar (c : Byte) : Bool :=
  c == ascii '-' || c == ascii '+' || c == ascii '0' || c == ascii ' ' || c == ascii '#' ||
    (ascii '0' ≤ c && c ≤ ascii '9') || c == ascii '.'

def isLengthChar (c : Byte) : Bool :=
  c == ascii 'l' || c == ascii 'h' || c == ascii 'L'

/-- What both inner loops go over behind a percent sign. -/
def specModifiers (rest : List Byte) : List Byte :=
  rest.takeWhile isSpecChar ++ (rest.dropWhile isSpecChar).takeWhile isLengthChar

/-- The cases of the conversion letter: what is appended, and the arguments that are left. -/
def convert (host : HostFormat) (mem : Memory) (spec : List Byte) (conv : Byte)
    (args : List (BitVec 64)) : Option (List Byte × List (BitVec 64)) :=
  let v := (nextArg args).1
  let left := (nextArg args).2
  if conv = ascii '%' then some ([ascii '%'], args)
  else if conv = ascii 'd' ∨ conv = ascii 'i' then
    some (snprintfResult host 64 spec (.int v), left)
  else if conv = ascii 'u' ∨ conv = ascii 'x' ∨ conv = ascii 'X' ∨ conv = ascii 'o' then
    some (snprintfResult host 64 spec (.int v), left)
  else if conv = ascii 'c' then some (snprintfResult host 64 spec (.int v), left)
  else if conv = ascii 's' then
    (if v ≠ 0 then loadString mem v else some []).map fun arg =>
      (snprintfResult host (arg.length + 64) spec (.string arg), left)
  else if conv = ascii 'p' then
    some (snprintfResult host 64 ("0x%X".toList.map ascii) (.int v), left)
  else some (spec, left)

/-- The loop over the format.  Each round takes at least one character. -/
def formatLoop (host : HostFormat) (mem : Memory) :
    Nat → List Byte → List (BitVec 64) → Option (List Byte)
  | 0, _, _ => some []
  | _ + 1, [], _ => some []
  | rounds + 1, c :: rest, args =>
      if c ≠ ascii '%' then (formatLoop host mem rounds rest args).map (c :: ·)
      else
        let modifiers := specModifiers rest
        match rest.drop modifiers.length with
        | [] => some (c :: rest)
        | conv :: behind =>
            (convert host mem (c :: (modifiers ++ [conv])) conv args).bind fun converted =>
              (formatLoop host mem rounds behind converted.2).map (converted.1 ++ ·)

/-- The memory and `r3` after `sprintf`. -/
def sprintf (host : HostFormat) (mem : Memory) (ctx : SprintfContext) :
    Option (Memory × BitVec 64) :=
  (loadString mem ctx.formatPtr).bind fun format =>
    (formatLoop host mem format.length format ctx.gprArgs).map fun result =>
      (Function.update (storeBytes mem ctx.bufferPtr result)
          (ctx.bufferPtr + BitVec.ofNat 32 result.length).toNat 0,
        (BitVec.ofNat 32 result.length).setWidth 64)

/-- The string that an argument points to. -/
def guestString (mem : Memory) (addr : Word) : List Byte :=
  (loadString mem addr).getD []

/-- What C99 writes for a conversion with an argument. -/
def c99Written (mem : Memory) (d : Directive) (arg : BitVec 64) : List Byte :=
  match d.conversion with
  | .s => d.c99Text (.string (guestString mem (arg.setWidth 32)))
  | _ => d.c99Text (.int (arg.setWidth 32))

def c99Result (mem : Memory) (ctx : SprintfContext) (items : List Item) : List Byte :=
  render (c99Written mem) items ctx.gprArgs

/-- The host formats single conversions as C99 says. -/
def ConformsToC99 (host : HostFormat) : Prop :=
  ∀ (d : Directive) (arg : Argument), d.Takes arg → host d.text arg = d.c99Text arg

/-- `sprintf` returns, stores the result and a zero byte behind it and nothing else, and
returns the length of the result. -/
def MeetsC99 (host : HostFormat) (mem : Memory) (ctx : SprintfContext) (items : List Item) :
    Prop :=
  ∃ after r3, sprintf host mem ctx = some (after, r3) ∧
    r3.toNat = (c99Result mem ctx items).length ∧
    (∀ index, (inside : index < (c99Result mem ctx items ++ [0]).length) →
      after (ctx.bufferPtr + BitVec.ofNat 32 index).toNat =
        (c99Result mem ctx items ++ [0])[index]) ∧
    ∀ position, (∀ index < (c99Result mem ctx items ++ [0]).length,
        (ctx.bufferPtr + BitVec.ofNat 32 index).toNat ≠ position) →
      after position = mem position

/-- The string that `sprintf` shows: no memory is read for a null pointer. -/
def shownArgument (mem : Memory) (addr : Word) : List Byte :=
  if addr ≠ 0 then guestString mem addr else []

/-- There is room for the conversion, no zero character in it, and a null pointer stands
for a string that is written like the empty one. -/
def Fits (mem : Memory) (d : Directive) (arg : BitVec 64) : Prop :=
  match d.conversion with
  | .s =>
      d.c99Text (.string (shownArgument mem (arg.setWidth 32))) = c99Written mem d arg ∧
        d.widthValue ≤ (shownArgument mem (arg.setWidth 32)).length + 63
  | .c => d.widthValue ≤ 63 ∧ arg.setWidth 8 ≠ 0
  | _ =>
      d.widthValue ≤ 63 ∧
        (d.number (arg.setWidth 32)).1.length + (d.number (arg.setWidth 32)).2.length ≤ 63

/-- What `sprintf` writes for a conversion with an argument. -/
def written (host : HostFormat) (mem : Memory) (d : Directive) (arg : BitVec 64) : List Byte :=
  match d.conversion with
  | .s =>
      let shown := shownArgument mem (arg.setWidth 32)
      snprintfResult host (shown.length + 64) d.text (.string shown)
  | _ => snprintfResult host 64 d.text (.int (arg.setWidth 32))

theorem isSpecChar_modifiers (d : Directive) : ∀ byte ∈ d.modifiers, isSpecChar byte = true := by
  have flags : ∀ flag : Flag, isSpecChar flag.byte = true := by
    intro flag
    cases flag <;> decide
  have digits : ∀ digit : Fin 10, isSpecChar (digitByte 'a' digit) = true := by decide
  intro byte listed
  unfold Directive.modifiers precisionBytes decimalBytes at listed
  rcases List.mem_append.mp listed with inFlags | behind
  · obtain ⟨flag, -, rfl⟩ := List.mem_map.mp inFlags
    exact flags flag
  · rcases List.mem_append.mp behind with inWidth | inPrecision
    · obtain ⟨digit, -, rfl⟩ := List.mem_map.mp inWidth
      exact digits digit
    · split at inPrecision
      · exact absurd inPrecision List.not_mem_nil
      · rcases List.mem_cons.mp inPrecision with rfl | inDigits
        · decide
        · obtain ⟨digit, -, rfl⟩ := List.mem_map.mp inDigits
          exact digits digit

/-- The loops stop at the letter. -/
theorem specModifiers_eq (d : Directive) (rest : List Byte) :
    specModifiers (d.modifiers ++ d.conversion.byte :: rest) = d.modifiers := by
  have letter : isSpecChar d.conversion.byte = false ∧ isLengthChar d.conversion.byte = false := by
    cases d.conversion <;> decide
  unfold specModifiers
  rw [List.takeWhile_append_of_pos (isSpecChar_modifiers d),
    List.dropWhile_append_of_pos (isSpecChar_modifiers d),
    List.takeWhile_cons_of_neg (by rw [letter.1]; decide),
    List.dropWhile_cons_of_neg (by rw [letter.1]; decide),
    List.takeWhile_cons_of_neg (by rw [letter.2]; decide), List.append_nil, List.append_nil]

section Scan

variable {host : HostFormat} {mem : Memory} (terminated : ∀ addr, (loadString mem addr).isSome)

include terminated in
theorem convert_eq (d : Directive) (arg : BitVec 64) (args : List (BitVec 64)) :
    convert host mem d.text d.conversion.byte (arg :: args) =
      some (written host mem d arg, args) := by
  have shown : (if arg.setWidth 32 ≠ 0 then loadString mem (arg.setWidth 32) else some []) =
      some (shownArgument mem (arg.setWidth 32)) := by
    unfold shownArgument guestString
    split
    · obtain ⟨bytes, found⟩ := Option.isSome_iff_exists.mp (terminated (arg.setWidth 32))
      rw [found]
      rfl
    · rfl
  unfold convert nextArg written
  cases d.conversion with
  | d | i | u | x | upperX | o | c => rfl
  | s =>
      dsimp only
      rw [shown]
      rfl

/-- One round at a percent sign. -/
theorem formatLoop_percent {rounds : Nat} {modifiers behind : List Byte} {conv : Byte}
    (scanned : specModifiers (modifiers ++ conv :: behind) = modifiers)
    (args : List (BitVec 64)) :
    formatLoop host mem (rounds + 1) (ascii '%' :: (modifiers ++ conv :: behind)) args =
      (convert host mem (ascii '%' :: (modifiers ++ [conv])) conv args).bind fun converted =>
        (formatLoop host mem rounds behind converted.2).map (converted.1 ++ ·) := by
  rw [formatLoop, if_neg (not_not.mpr rfl)]
  dsimp only
  rw [scanned, List.drop_left]

theorem formatLoop_twoPercents (rounds : Nat) (behind : List Byte) (args : List (BitVec 64)) :
    formatLoop host mem (rounds + 1) (ascii '%' :: ascii '%' :: behind) args =
      (formatLoop host mem rounds behind args).map (ascii '%' :: ·) := by
  have none : specModifiers ([] ++ ascii '%' :: behind) = [] := by
    rw [List.nil_append]
    rfl
  refine (formatLoop_percent none args).trans ?_
  rw [convert, if_pos rfl, Option.bind_some]
  rfl

include terminated in
theorem formatLoop_directive (rounds : Nat) (d : Directive) (behind : List Byte)
    (arg : BitVec 64) (args : List (BitVec 64)) :
    formatLoop host mem (rounds + 1) (d.text ++ behind) (arg :: args) =
      (formatLoop host mem rounds behind args).map (written host mem d arg ++ ·) := by
  have split : d.text ++ behind =
      ascii '%' :: (d.modifiers ++ d.conversion.byte :: behind) := by
    rw [Directive.text, List.cons_append, List.append_assoc]
    rfl
  have converted := @convert_eq host mem terminated d arg args
  rw [Directive.text] at converted
  rw [split, formatLoop_percent (specModifiers_eq d behind), converted, Option.bind_some]

theorem length_text_pos (item : Item) : 0 < item.text.length := by
  cases item with
  | literal byte plain nonzero => exact Nat.one_pos
  | percent => exact Nat.two_pos
  | directive d => exact Nat.succ_pos _

include terminated in
/-- The loop writes a format item by item.  The induction is on the items. -/
theorem formatLoop_eq {rounds : Nat} {items : List Item} {args : List (BitVec 64)}
    (enough : (formatText items).length ≤ rounds)
    (few : (directives items).length ≤ args.length) :
    formatLoop host mem rounds (formatText items) args =
      some (render (written host mem) items args) := by
  induction items generalizing rounds args with
  | nil => cases rounds <;> rfl
  | cons item items ih =>
      have rest : formatText (item :: items) = item.text ++ formatText items := List.flatMap_cons
      have taken := length_text_pos item
      rw [rest, List.length_append] at enough
      obtain ⟨rounds, rfl⟩ := Nat.exists_eq_succ_of_ne_zero (by omega : rounds ≠ 0)
      have left : (formatText items).length ≤ rounds := by omega
      rw [rest]
      cases item with
      | literal byte plain nonzero =>
          rw [Item.text, List.singleton_append, formatLoop, if_pos plain, ih left few]
          rfl
      | percent =>
          refine (formatLoop_twoPercents rounds (formatText items) args).trans ?_
          rw [ih left few]
          rfl
      | directive d =>
          cases args with
          | nil => exact absurd few (Nat.not_succ_le_zero _)
          | cons arg args =>
              rw [Item.text, formatLoop_directive terminated,
                ih left (Nat.le_of_succ_le_succ few)]
              rfl

end Scan

section Written

variable {host : HostFormat} {mem : Memory}

/-- A text without zero bytes comes back from the buffer as far as there is room. -/
theorem snprintfResult_eq {size : Nat} {spec text : List Byte} {arg : Argument}
    (formatted : host spec arg = text) (nonzero : ∀ byte ∈ text, byte ≠ 0) :
    snprintfResult host size spec arg = text.take (size - 1) := by
  unfold snprintfResult
  rw [formatted]
  exact beforeZero_eq_self fun byte listed => nonzero byte (List.mem_of_mem_take listed)

theorem length_snprintfResult_le {size : Nat} {spec text : List Byte} {arg : Argument}
    (formatted : host spec arg = text) :
    (snprintfResult host size spec arg).length ≤ text.length := by
  unfold snprintfResult
  rw [formatted]
  exact (length_beforeZero_le _).trans (List.length_take_le' _ _)

variable (conforms : ConformsToC99 host) {d : Directive}

include conforms in
/-- An integer is written whole when there is room for it. -/
theorem snprintf_number_iff (isNumber : d.conversion ≠ .s) (notChar : d.conversion ≠ .c)
    (v : Word) :
    snprintfResult host 64 d.text (.int v) = d.c99Text (.int v) ↔
      d.widthValue ≤ 63 ∧ (d.number v).1.length + (d.number v).2.length ≤ 63 := by
  have nonzero := Directive.number_nonzero notChar v
  rw [snprintfResult_eq (conforms d (.int v) isNumber)
      (Directive.pad_nonzero nonzero.1 nonzero.2), List.take_eq_self_iff, Directive.c99Text,
    Directive.length_pad, max_le_iff]

include conforms in
/-- A character is written whole when it is not zero and there is room for it. -/
theorem snprintf_char_iff (isChar : d.conversion = .c) (v : Word) :
    snprintfResult host 64 d.text (.int v) = d.c99Text (.int v) ↔
      d.widthValue ≤ 63 ∧ v.setWidth 8 ≠ 0 := by
  have formatted := conforms d (.int v) fun isString => nomatch isChar.symm.trans isString
  have number : d.number v = ([], [v.setWidth 8]) := by
    rw [Directive.number, isChar]
  have text : d.c99Text (.int v) = d.pad [] [v.setWidth 8] := by
    rw [Directive.c99Text, number]
  have none : ∀ byte ∈ ([] : List Byte), byte ≠ 0 := fun _ listed =>
    absurd listed List.not_mem_nil
  by_cases zero : v.setWidth 8 = 0
  · refine iff_of_false ?_ fun fits => fits.2 zero
    intro same
    have listed : (0 : Byte) ∈ d.c99Text (.int v) := by
      rw [text, zero]
      exact Directive.mem_pad_of_body List.mem_cons_self
    rw [← same] at listed
    exact beforeZero_nonzero 0 listed rfl
  · rw [snprintfResult_eq formatted, List.take_eq_self_iff, text, Directive.length_pad,
      List.length_nil, List.length_singleton, max_le_iff]
    · exact and_congr_right fun _ => iff_of_true (by decide) zero
    · rw [text]
      exact Directive.pad_nonzero none (List.forall_mem_singleton.mpr zero)

theorem guestString_nonzero (addr : Word) : ∀ byte ∈ guestString mem addr, byte ≠ 0 := by
  unfold guestString
  cases found : loadString mem addr with
  | none => exact fun _ listed => absurd listed List.not_mem_nil
  | some bytes => exact nonzero_of_stringWithin found

theorem shownArgument_nonzero (addr : Word) : ∀ byte ∈ shownArgument mem addr, byte ≠ 0 := by
  unfold shownArgument
  split
  · exact guestString_nonzero addr
  · exact fun _ listed => absurd listed List.not_mem_nil

/-- What is shown of an argument is never longer than its string. -/
theorem length_shownArgument_le (d : Directive) (addr : Word) :
    (d.c99Text (.string (shownArgument mem addr))).length ≤
      (d.c99Text (.string (guestString mem addr))).length := by
  unfold shownArgument
  split
  · exact le_refl _
  · rw [Directive.length_string, Directive.length_string, List.length_nil, Nat.min_zero,
      Nat.max_zero]
    exact Nat.le_max_left _ _

include conforms in
/-- A string is written whole when there is room for it and it is not at a null pointer, or
is written like the empty one there. -/
theorem snprintf_string_iff (isString : d.conversion = .s) (addr : Word) :
    snprintfResult host ((shownArgument mem addr).length + 64) d.text
        (.string (shownArgument mem addr)) = d.c99Text (.string (guestString mem addr)) ↔
      d.c99Text (.string (shownArgument mem addr)) = d.c99Text (.string (guestString mem addr)) ∧
        d.widthValue ≤ (shownArgument mem addr).length + 63 := by
  have none : ∀ byte ∈ ([] : List Byte), byte ≠ 0 := fun _ listed =>
    absurd listed List.not_mem_nil
  have nonzero : ∀ byte ∈ d.c99Text (.string (shownArgument mem addr)), byte ≠ 0 :=
    Directive.pad_nonzero none (Directive.shownString_nonzero (shownArgument_nonzero addr))
  have length := d.length_string (shownArgument mem addr)
  rw [snprintfResult_eq (conforms d (.string _) isString) nonzero]
  constructor
  · intro same
    have cut := congrArg List.length same
    rw [List.length_take] at cut
    have shorter := @length_shownArgument_le mem d addr
    have room : (d.c99Text (.string (shownArgument mem addr))).length ≤
        (shownArgument mem addr).length + 64 - 1 := by omega
    rw [List.take_of_length_le room] at same
    exact ⟨same, by omega⟩
  · rintro ⟨same, wide⟩
    rw [List.take_of_length_le (by omega)]
    exact same

include conforms in
/-- `sprintf` writes a conversion as C99 says exactly when it fits. -/
theorem written_eq_iff (d : Directive) (arg : BitVec 64) :
    written host mem d arg = c99Written mem d arg ↔ Fits mem d arg := by
  have number := fun isNumber notChar =>
    @snprintf_number_iff host conforms d isNumber notChar (arg.setWidth 32)
  unfold written Fits c99Written
  cases conversion : d.conversion with
  | s => exact snprintf_string_iff conforms conversion _
  | c =>
      refine (snprintf_char_iff conforms conversion _).trans ?_
      rw [BitVec.setWidth_setWidth_of_le _ (by decide)]
  | d | i | u | x | upperX | o =>
      exact number (by rw [conversion]; decide) (by rw [conversion]; decide)

include conforms in
/-- `sprintf` never writes more than C99 says. -/
theorem length_written_le (d : Directive) (arg : BitVec 64) :
    (written host mem d arg).length ≤ (c99Written mem d arg).length := by
  have number := fun isNumber : d.conversion ≠ .s =>
    @length_snprintfResult_le host 64 _ _ _ (conforms d (.int (arg.setWidth 32)) isNumber)
  unfold written c99Written
  cases conversion : d.conversion with
  | s =>
      exact (length_snprintfResult_le (conforms d (.string _) conversion)).trans
        (length_shownArgument_le d _)
  | c | d | i | u | x | upperX | o => exact number (by rw [conversion]; decide)

end Written

theorem HoldsAnsiString.length_lt {mem : Memory} {addr : Word} {s : List Byte}
    (holds : HoldsAnsiString mem addr s) : s.length < 2 ^ 32 := by
  by_contra long
  have wrapped : s.length - 2 ^ 32 < s.length := by omega
  have same : BitVec.ofNat 32 (s.length - 2 ^ 32) = BitVec.ofNat 32 s.length := by
    apply BitVec.eq_of_toNat_eq
    rw [BitVec.toNat_ofNat, BitVec.toNat_ofNat]
    omega
  have byte := holds.bytes _ wrapped
  rw [same, holds.terminated] at byte
  exact holds.nonzero _ (List.getElem_mem wrapped) byte.symm

theorem HoldsAnsiString.loadString_eq {mem : Memory} {addr : Word} {s : List Byte}
    (holds : HoldsAnsiString mem addr s) : loadString mem addr = some s :=
  stringWithin_eq holds.length_lt holds.bytes holds.nonzero holds.terminated

section Format

variable {host : HostFormat} {mem : Memory} {ctx : SprintfContext} {items : List Item}
  (held : HoldsAnsiString mem ctx.formatPtr (formatText items))
  (few : (directives items).length ≤ 6)

include held few

/-- What `sprintf` stores and returns. -/
theorem sprintf_eq :
    sprintf host mem ctx =
      some (storeBytes mem ctx.bufferPtr (render (written host mem) items ctx.gprArgs ++ [0]),
        (BitVec.ofNat 32 (render (written host mem) items ctx.gprArgs).length).setWidth 64) := by
  have terminated : ∀ addr, (loadString mem addr).isSome := isSome_loadString held.terminated
  unfold sprintf
  rw [held.loadString_eq, Option.bind_some, formatLoop_eq terminated (le_refl _) few,
    storeBytes_concat]
  rfl

/-- The result is stored and returned exactly when it is what `sprintf` writes and there
are addresses for all of it. -/
theorem meetsC99_iff_eq
    (shorter : ∀ d arg, (written host mem d arg).length ≤ (c99Written mem d arg).length) :
    MeetsC99 host mem ctx items ↔
      render (written host mem) items ctx.gprArgs = c99Result mem ctx items ∧
        (c99Result mem ctx items).length < 2 ^ 32 := by
  have total := length_render_le shorter items ctx.gprArgs
  unfold MeetsC99
  rw [sprintf_eq held few]
  constructor
  · rintro ⟨_, _, ⟨⟩, returned, stored, -⟩
    rw [BitVec.toNat_setWidth, BitVec.toNat_ofNat] at returned
    unfold c99Result at returned stored ⊢
    have length : (render (written host mem) items ctx.gprArgs).length =
        (render (c99Written mem) items ctx.gprArgs).length := by omega
    refine ⟨List.ext_getElem length fun index inside outside => ?_, by omega⟩
    have fits : (render (written host mem) items ctx.gprArgs ++ [0]).length ≤ 2 ^ 32 := by
      rw [List.length_append, List.length_singleton]
      omega
    have whole : index < (render (written host mem) items ctx.gprArgs ++ [0]).length := by
      rw [List.length_append]
      omega
    have own := @storeBytes_inside mem ctx.bufferPtr _ fits index whole
    rw [stored index (by rw [List.length_append]; omega), List.getElem_append_left outside,
      List.getElem_append_left inside] at own
    exact own.symm
  · rintro ⟨same, small⟩
    rw [same]
    refine ⟨_, _, rfl, ?_, fun index inside => storeBytes_inside ?_ inside,
      fun position outside => storeBytes_outside outside⟩
    · rw [BitVec.toNat_setWidth, BitVec.toNat_ofNat]
      omega
    · rw [List.length_append, List.length_singleton]
      omega

/-- `sprintf` meets C99 exactly when every conversion fits and the result is shorter than
the address space. -/
theorem sprintf_meetsC99_iff (conforms : ConformsToC99 host) :
    MeetsC99 host mem ctx items ↔
      (∀ entry ∈ (directives items).zip ctx.gprArgs, Fits mem entry.1 entry.2) ∧
        (c99Result mem ctx items).length < 2 ^ 32 := by
  rw [meetsC99_iff_eq held few (length_written_le conforms)]
  refine and_congr_left fun _ => (render_eq_iff (length_written_le conforms) _ _).trans ?_
  simp only [written_eq_iff conforms]

end Format

theorem formatDirective_conforms : ConformsToC99 formatDirective := by
  intro d arg _
  rw [formatDirective, readDirective_text]

/-- A format at address 16, and zero everywhere else. -/
def formatMemory (items : List Item) : Memory :=
  writeBytes (fun _ => 0) 16 (formatText items)

theorem formatMemory_holds {items : List Item} (short : (formatText items).length < 2 ^ 16)
    (nonzero : ∀ byte ∈ formatText items, byte ≠ 0) :
    HoldsAnsiString (formatMemory items) 16 (formatText items) := by
  have addr : ∀ index ≤ (formatText items).length,
      ((16 : Word) + BitVec.ofNat 32 index).toNat = 16 + index := by
    intro index inside
    have start : (16 : Word).toNat = 16 := rfl
    rw [BitVec.toNat_add, BitVec.toNat_ofNat, start]
    omega
  refine ⟨?_, nonzero, ?_⟩
  · intro index inside
    rw [addr index inside.le, formatMemory, writeBytes_inside]
  · rw [addr _ (le_refl _), formatMemory, writeBytes_of_outside]
    exact .inr (le_refl _)

/-- The digits of 63. -/
def widestFitting : List (Fin 10) := [Fin.mk 6 (by decide), Fin.mk 3 (by decide)]

theorem widestFitting_start : widestFitting.head? ≠ some 0 := by
  rintro ⟨⟩

/-- `n=%63d%%` -/
def paddedNumber : List Item :=
  [.literal (ascii 'n') (by decide) (by decide), .literal (ascii '=') (by decide) (by decide),
    .directive ⟨[], widestFitting, widestFitting_start, none, .d⟩, .percent]

theorem sprintf_meetsC99_iff_paddedNumber :
    MeetsC99 formatDirective (formatMemory paddedNumber) ⟨4096, 16, 7, 0, 0, 0, 0, 0⟩
      paddedNumber := by
  have held := @formatMemory_holds paddedNumber (by decide) (by decide)
  refine (sprintf_meetsC99_iff held (by decide) formatDirective_conforms).mpr ⟨?_, ?_⟩
  · have room : (63 : Nat) ≤ 63 ∧ (1 : Nat) ≤ 63 := by decide
    exact List.forall_mem_singleton.mpr room
  · decide +kernel

/-- The digits of 64. -/
def firstTooWide : List (Fin 10) := [Fin.mk 6 (by decide), Fin.mk 4 (by decide)]

theorem firstTooWide_start : firstTooWide.head? ≠ some 0 := by
  rintro ⟨⟩

/-- `%64d` -/
def wideNumber : Directive := ⟨[], firstTooWide, firstTooWide_start, none, .d⟩

theorem noWidth_start : ([] : List (Fin 10)).head? ≠ some 0 := by
  rintro ⟨⟩

/-- `%c` -/
def character : Directive := ⟨[], [], noWidth_start, none, .c⟩

/-- A single conversion that does not fit is not written as C99 says. -/
theorem not_meetsC99_directive {d : Directive} {mem : Memory} {ctx : SprintfContext}
    (held : HoldsAnsiString mem ctx.formatPtr (formatText [.directive d]))
    (wide : ¬ Fits mem d ctx.r5) :
    ¬ MeetsC99 formatDirective mem ctx [.directive d] := by
  intro meets
  have shorter := @length_written_le _ mem formatDirective_conforms
  have same := ((meetsC99_iff_eq held (Nat.le_add_left 1 5) shorter).mp meets).1
  have each := (render_eq_iff shorter _ _).mp same
  exact wide ((written_eq_iff formatDirective_conforms d ctx.r5).mp
    (each (d, ctx.r5) List.mem_cons_self))

/-- The last digit of a wide number is cut off, and a zero character is dropped. -/
theorem wideNumber_character_cutOff :
    ¬ MeetsC99 formatDirective (formatMemory [.directive wideNumber])
        ⟨4096, 16, 7, 0, 0, 0, 0, 0⟩ [.directive wideNumber] ∧
      ¬ MeetsC99 formatDirective (formatMemory [.directive character])
        ⟨4096, 16, 0, 0, 0, 0, 0, 0⟩ [.directive character] := by
  constructor
  · refine not_meetsC99_directive (formatMemory_holds (by decide) (by decide)) fun fits => ?_
    have width : wideNumber.widthValue ≤ 63 := fits.1
    exact absurd width (by decide)
  · refine not_meetsC99_directive (formatMemory_holds (by decide) (by decide)) fun fits => ?_
    exact fits.2 rfl

end BumpinHost.Kernel
