import BumpinHost.Library.CStrings
import Mathlib.Data.Nat.Digits.Defs

/-!
# Formatting in C

A conversion is written as flags, a width, a precision and a letter.  Its text is made of
a prefix and a body, which the width pads with spaces or zeros.  The text of a format is
that of its items one behind the other, so two ways to write the conversions agree on a
whole format when one never writes more than the other and they agree on each conversion.
-/

namespace BumpinHost.CFormat

/-- A character of the basic set as a byte. -/
def ascii (c : Char) : Byte := BitVec.ofNat 8 c.toNat

inductive Flag
  | minus
  | plus
  | space
  | zero
  | hash
deriving DecidableEq, Repr

def Flag.byte : Flag → Byte
  | .minus => ascii '-'
  | .plus => ascii '+'
  | .space => ascii ' '
  | .zero => ascii '0'
  | .hash => ascii '#'

/-- The letter of a conversion; `upperX` is `X`. -/
inductive Conversion
  | d
  | i
  | u
  | x
  | upperX
  | o
  | c
  | s
deriving DecidableEq, Repr

def Conversion.byte : Conversion → Byte
  | .d => ascii 'd'
  | .i => ascii 'i'
  | .u => ascii 'u'
  | .x => ascii 'x'
  | .upperX => ascii 'X'
  | .o => ascii 'o'
  | .c => ascii 'c'
  | .s => ascii 's'

/-- A digit, with letters from the given one on above nine. -/
def digitByte (letters : Char) (digit : Nat) : Byte :=
  if digit < 10 then BitVec.ofNat 8 (48 + digit)
  else BitVec.ofNat 8 (letters.toNat + (digit - 10))

/-- A conversion without a length modifier.  A width that started with zero would be a
flag and a width. -/
structure Directive where
  flags : List Flag
  width : List (Fin 10)
  width_start : width.head? ≠ some 0
  precision : Option (List (Fin 10))
  conversion : Conversion
deriving DecidableEq, Repr

/-- What is written for an integer or a string. -/
inductive Argument
  | int (value : Word)
  | string (bytes : List Byte)
deriving DecidableEq, Repr

def decimalBytes (digits : List (Fin 10)) : List Byte :=
  digits.map fun digit : Fin 10 => digitByte 'a' digit

def precisionBytes : Option (List (Fin 10)) → List Byte
  | none => []
  | some digits => ascii '.' :: decimalBytes digits

def decimalValue (digits : List (Fin 10)) : Nat :=
  digits.foldl (fun value digit => 10 * value + digit) 0

namespace Directive

/-- The flags, the width and the precision as they are written. -/
def modifiers (d : Directive) : List Byte :=
  d.flags.map Flag.byte ++ (decimalBytes d.width ++ precisionBytes d.precision)

def text (d : Directive) : List Byte :=
  ascii '%' :: (d.modifiers ++ [d.conversion.byte])

/-- The minimum number of characters. -/
def widthValue (d : Directive) : Nat := decimalValue d.width

/-- A period alone stands for zero. -/
def precisionValue (d : Directive) : Option Nat := d.precision.map decimalValue

/-- The digits of a number, with zeros in front up to the precision, which is one if it is
not given. -/
def digits (d : Directive) (base : Nat) (letters : Char) (value : Nat) : List Byte :=
  let shown := (Nat.digits base value).reverse.map (digitByte letters)
  List.replicate (d.precisionValue.getD 1 - shown.length) (ascii '0') ++ shown

/-- The sign of a signed number. -/
def sign (d : Directive) (value : Int) : List Byte :=
  if value < 0 then [ascii '-']
  else if .plus ∈ d.flags then [ascii '+']
  else if .space ∈ d.flags then [ascii ' ']
  else []

/-- Hexadecimal numbers other than zero are marked on demand. -/
def mark (d : Directive) (letter : Char) (value : Word) : List Byte :=
  if .hash ∈ d.flags ∧ value ≠ 0 then [ascii '0', ascii letter] else []

/-- On demand an octal number starts with zero. -/
def octalDigits (d : Directive) (value : Nat) : List Byte :=
  let shown := d.digits 8 'a' value
  if .hash ∈ d.flags ∧ shown.head? ≠ some (ascii '0') then ascii '0' :: shown else shown

/-- The prefix and the digits of an integer, or the character that it is the code of. -/
def number (d : Directive) (value : Word) : List Byte × List Byte :=
  match d.conversion with
  | .d | .i => (d.sign value.toInt, d.digits 10 'a' value.toInt.natAbs)
  | .u => ([], d.digits 10 'a' value.toNat)
  | .x => (d.mark 'x' value, d.digits 16 'a' value.toNat)
  | .upperX => (d.mark 'X' value, d.digits 16 'A' value.toNat)
  | .o => ([], d.octalDigits value.toNat)
  | .c => ([], [value.setWidth 8])
  | .s => ([], [])

/-- As many bytes of a string as the precision allows. -/
def shownString (d : Directive) (bytes : List Byte) : List Byte :=
  match d.precisionValue with
  | none => bytes
  | some most => bytes.take most

/-- Zeros fill the width of integers without a precision on demand. -/
def zeroFills (d : Directive) : Bool :=
  match d.conversion with
  | .c | .s => false
  | _ => decide (.zero ∈ d.flags) && d.precision.isNone

/-- Fill up to the width. -/
def pad (d : Directive) (front body : List Byte) : List Byte :=
  let missing := d.widthValue - (front.length + body.length)
  if .minus ∈ d.flags then front ++ (body ++ List.replicate missing (ascii ' '))
  else if d.zeroFills then front ++ (List.replicate missing (ascii '0') ++ body)
  else List.replicate missing (ascii ' ') ++ (front ++ body)

/-- The text of a conversion.  A flag or a precision for which the meaning is not defined
has no effect. -/
def c99Text (d : Directive) : Argument → List Byte
  | .int value => d.pad (d.number value).1 (d.number value).2
  | .string bytes => d.pad [] (d.shownString bytes)

/-- The conversion is for arguments of this kind. -/
def Takes (d : Directive) : Argument → Prop
  | .int _ => d.conversion ≠ .s
  | .string _ => d.conversion = .s

end Directive

/-- A part of a format. -/
inductive Item
  | literal (byte : Byte) (plain : byte ≠ ascii '%') (nonzero : byte ≠ 0)
  | percent
  | directive (d : Directive)
deriving DecidableEq, Repr

def Item.text : Item → List Byte
  | .literal byte _ _ => [byte]
  | .percent => [ascii '%', ascii '%']
  | .directive d => d.text

def formatText (items : List Item) : List Byte :=
  items.flatMap Item.text

/-- The conversions in a format. -/
def directives : List Item → List Directive
  | [] => []
  | .literal _ _ _ :: items => directives items
  | .percent :: items => directives items
  | .directive d :: items => d :: directives items

/-- The text of a format, given what is written for each conversion with its argument.  A
conversion for which no argument is left writes nothing. -/
def render {Arg : Type*} (written : Directive → Arg → List Byte) :
    List Item → List Arg → List Byte
  | [], _ => []
  | .literal byte _ _ :: items, args => byte :: render written items args
  | .percent :: items, args => ascii '%' :: render written items args
  | .directive _ :: items, [] => render written items []
  | .directive d :: items, arg :: args => written d arg ++ render written items args

section Render

variable {Arg : Type*} {first second : Directive → Arg → List Byte}

theorem length_render_le (shorter : ∀ d arg, (first d arg).length ≤ (second d arg).length)
    (items : List Item) (args : List Arg) :
    (render first items args).length ≤ (render second items args).length := by
  induction items generalizing args with
  | nil => exact le_refl _
  | cons item items ih =>
      cases item with
      | literal byte plain nonzero => exact Nat.succ_le_succ (ih args)
      | percent => exact Nat.succ_le_succ (ih args)
      | directive d =>
          cases args with
          | nil => exact ih []
          | cons arg args =>
              rw [render, render, List.length_append, List.length_append]
              exact Nat.add_le_add (shorter d arg) (ih args)

/-- Where one way never writes more than another, they write the same exactly when they do
so for each conversion.  The induction is on the format. -/
theorem render_eq_iff (shorter : ∀ d arg, (first d arg).length ≤ (second d arg).length)
    (items : List Item) (args : List Arg) :
    render first items args = render second items args ↔
      ∀ entry ∈ (directives items).zip args, first entry.1 entry.2 = second entry.1 entry.2 := by
  induction items generalizing args with
  | nil => exact iff_of_true rfl fun _ listed => absurd listed List.not_mem_nil
  | cons item items ih =>
      cases item with
      | literal byte plain nonzero =>
          rw [render, render, List.cons_inj_right]
          exact ih args
      | percent =>
          rw [render, render, List.cons_inj_right]
          exact ih args
      | directive d =>
          cases args with
          | nil =>
              refine (ih []).trans ?_
              rw [List.zip_nil_right, List.zip_nil_right]
          | cons arg args =>
              rw [directives, List.zip_cons_cons, List.forall_mem_cons, ← ih args, render, render]
              dsimp only
              constructor
              · intro same
                have total := congrArg List.length same
                rw [List.length_append, List.length_append] at total
                have front := shorter d arg
                have rest := length_render_le shorter items args
                exact List.append_inj same (by omega)
              · rintro ⟨front, rest⟩
                rw [front, rest]

end Render

namespace Directive

variable (d : Directive)

theorem length_pad (front body : List Byte) :
    (d.pad front body).length = max d.widthValue (front.length + body.length) := by
  unfold pad
  dsimp only
  split
  · rw [List.length_append, List.length_append, List.length_replicate]
    omega
  · split
    · rw [List.length_append, List.length_append, List.length_replicate]
      omega
    · rw [List.length_append, List.length_append, List.length_replicate]
      omega

theorem length_shownString (bytes : List Byte) :
    (d.shownString bytes).length = min (d.precisionValue.getD bytes.length) bytes.length := by
  unfold shownString
  cases d.precisionValue with
  | none => exact (Nat.min_self _).symm
  | some most => exact List.length_take

theorem length_string (bytes : List Byte) :
    (d.c99Text (.string bytes)).length =
      max d.widthValue (min (d.precisionValue.getD bytes.length) bytes.length) := by
  rw [c99Text, length_pad, length_shownString, List.length_nil, Nat.zero_add]

variable {d}

theorem mem_pad {front body : List Byte} {byte : Byte} (listed : byte ∈ d.pad front body) :
    byte = ascii ' ' ∨ byte = ascii '0' ∨ byte ∈ front ∨ byte ∈ body := by
  unfold pad at listed
  dsimp only at listed
  split at listed
  · simp only [List.mem_append, List.mem_replicate] at listed
    tauto
  · split at listed
    · simp only [List.mem_append, List.mem_replicate] at listed
      tauto
    · simp only [List.mem_append, List.mem_replicate] at listed
      tauto

theorem mem_pad_of_body {front body : List Byte} {byte : Byte} (listed : byte ∈ body) :
    byte ∈ d.pad front body := by
  unfold pad
  dsimp only
  split
  · exact List.mem_append_right _ (List.mem_append_left _ listed)
  · split
    · exact List.mem_append_right _ (List.mem_append_right _ listed)
    · exact List.mem_append_right _ (List.mem_append_right _ listed)

theorem pad_nonzero {front body : List Byte} (frontNonzero : ∀ byte ∈ front, byte ≠ 0)
    (bodyNonzero : ∀ byte ∈ body, byte ≠ 0) : ∀ byte ∈ d.pad front body, byte ≠ 0 := by
  intro byte listed
  rcases mem_pad listed with rfl | rfl | inFront | inBody
  · decide
  · decide
  · exact frontNonzero byte inFront
  · exact bodyNonzero byte inBody

theorem digitByte_ne_zero {letters : Char} (known : letters = 'a' ∨ letters = 'A')
    {digit : Nat} (small : digit < 16) : digitByte letters digit ≠ 0 := by
  rcases known with rfl | rfl
  · interval_cases digit <;> decide
  · interval_cases digit <;> decide

theorem digits_nonzero {base : Nat} {letters : Char} (known : letters = 'a' ∨ letters = 'A')
    (lower : 1 < base) (upper : base ≤ 16) (value : Nat) :
    ∀ byte ∈ d.digits base letters value, byte ≠ 0 := by
  intro byte listed
  unfold digits at listed
  rcases List.mem_append.mp listed with zeros | shown
  · rw [List.eq_of_mem_replicate zeros]
    decide
  · obtain ⟨digit, inDigits, rfl⟩ := List.mem_map.mp shown
    exact digitByte_ne_zero known
      ((Nat.digits_lt_base lower (List.mem_reverse.mp inDigits)).trans_le upper)

theorem octalDigits_nonzero (value : Nat) : ∀ byte ∈ d.octalDigits value, byte ≠ 0 := by
  have shown := digits_nonzero (d := d) (.inl rfl : 'a' = 'a' ∨ 'a' = 'A') (by decide : 1 < 8)
    (by decide) value
  unfold octalDigits
  dsimp only
  split
  · exact List.forall_mem_cons.mpr ⟨by decide, shown⟩
  · exact shown

theorem sign_nonzero (value : Int) : ∀ byte ∈ d.sign value, byte ≠ 0 := by
  unfold sign
  split
  · decide
  · split
    · decide
    · split
      · decide
      · exact fun _ listed => absurd listed List.not_mem_nil

theorem mark_nonzero {letter : Char} (known : letter = 'x' ∨ letter = 'X') (value : Word) :
    ∀ byte ∈ d.mark letter value, byte ≠ 0 := by
  unfold mark
  split
  · rcases known with rfl | rfl
    · decide
    · decide
  · exact fun _ listed => absurd listed List.not_mem_nil

/-- Only the character of a code can be zero. -/
theorem number_nonzero (notChar : d.conversion ≠ .c) (value : Word) :
    (∀ byte ∈ (d.number value).1, byte ≠ 0) ∧ ∀ byte ∈ (d.number value).2, byte ≠ 0 := by
  have none : ∀ byte ∈ ([] : List Byte), byte ≠ 0 := fun _ listed =>
    absurd listed List.not_mem_nil
  unfold number
  cases conversion : d.conversion with
  | d => exact ⟨sign_nonzero _, digits_nonzero (.inl rfl) (by decide) (by decide) _⟩
  | i => exact ⟨sign_nonzero _, digits_nonzero (.inl rfl) (by decide) (by decide) _⟩
  | u => exact ⟨none, digits_nonzero (.inl rfl) (by decide) (by decide) _⟩
  | x => exact ⟨mark_nonzero (.inl rfl) _, digits_nonzero (.inl rfl) (by decide) (by decide) _⟩
  | upperX =>
      exact ⟨mark_nonzero (.inr rfl) _, digits_nonzero (.inr rfl) (by decide) (by decide) _⟩
  | o => exact ⟨none, octalDigits_nonzero _⟩
  | c => exact absurd conversion notChar
  | s => exact ⟨none, none⟩

theorem shownString_nonzero {bytes : List Byte} (nonzero : ∀ byte ∈ bytes, byte ≠ 0) :
    ∀ byte ∈ d.shownString bytes, byte ≠ 0 := by
  unfold shownString
  split
  · exact nonzero
  · exact fun byte listed => nonzero byte (List.mem_of_mem_take listed)

end Directive

/-- What the front of a text stands for, up to the first byte that stands for nothing. -/
def readRun {α : Type*} (read : Byte → Option α) : List Byte → List α × List Byte
  | [] => ([], [])
  | byte :: rest =>
      match read byte with
      | some value => (value :: (readRun read rest).1, (readRun read rest).2)
      | none => ([], byte :: rest)

theorem readRun_append {α : Type*} {read : Byte → Option α} {write : α → Byte}
    (back : ∀ value, read (write value) = some value) {rest : List Byte}
    (stops : ∀ byte ∈ rest.head?, read byte = none) (values : List α) :
    readRun read (values.map write ++ rest) = (values, rest) := by
  induction values with
  | nil =>
      cases rest with
      | nil => rfl
      | cons byte rest =>
          rw [List.map_nil, List.nil_append, readRun, stops byte rfl]
  | cons value values ih =>
      rw [List.map_cons, List.cons_append, readRun, back]
      dsimp only
      rw [ih]

def readFlag (byte : Byte) : Option Flag :=
  [Flag.minus, .plus, .space, .zero, .hash].find? fun flag => flag.byte == byte

def readDigit (byte : Byte) : Option (Fin 10) :=
  (List.finRange 10).find? fun digit => digitByte 'a' digit == byte

def readConversion (byte : Byte) : Option Conversion :=
  [Conversion.d, .i, .u, .x, .upperX, .o, .c, .s].find? fun conversion =>
    conversion.byte == byte

def readPrecision : List Byte → Option (List (Fin 10)) × List Byte
  | [] => (none, [])
  | byte :: rest =>
      if byte = ascii '.' then (some (readRun readDigit rest).1, (readRun readDigit rest).2)
      else (none, byte :: rest)

def makeDirective (flags : List Flag) (width : List (Fin 10))
    (precision : Option (List (Fin 10))) (conversion : Conversion) : Option Directive :=
  if start : width.head? ≠ some 0 then some ⟨flags, width, start, precision, conversion⟩
  else none

def readDirective (spec : List Byte) : Option Directive :=
  let flags := readRun readFlag (spec.drop 1)
  let width := readRun readDigit flags.2
  let precision := readPrecision width.2
  match precision.2 with
  | [letter] => (readConversion letter).bind (makeDirective flags.1 width.1 precision.1)
  | _ => none

theorem readFlag_byte (flag : Flag) : readFlag flag.byte = some flag := by
  cases flag <;> rfl

theorem readDigit_byte : ∀ digit : Fin 10, readDigit (digitByte 'a' digit) = some digit := by
  decide

theorem readConversion_byte (conversion : Conversion) :
    readConversion conversion.byte = some conversion := by
  cases conversion <;> rfl

/-- Only zero is both a digit and a flag. -/
theorem readFlag_digit : ∀ digit : Fin 10, digit ≠ 0 → readFlag (digitByte 'a' digit) = none := by
  decide

/-- A letter is neither a flag nor a digit nor a period. -/
theorem letter_stops (conversion : Conversion) :
    readFlag conversion.byte = none ∧ readDigit conversion.byte = none ∧
      conversion.byte ≠ ascii '.' := by
  cases conversion <;> decide

theorem head_precisionBytes (precision : Option (List (Fin 10))) (conversion : Conversion) :
    ∀ byte ∈ (precisionBytes precision ++ [conversion.byte]).head?,
      readFlag byte = none ∧ readDigit byte = none := by
  obtain ⟨notFlag, notDigit, -⟩ := letter_stops conversion
  rintro byte first
  cases precision with
  | none =>
      cases first
      exact ⟨notFlag, notDigit⟩
  | some digits =>
      cases first
      decide

theorem readPrecision_bytes (precision : Option (List (Fin 10))) (conversion : Conversion) :
    readPrecision (precisionBytes precision ++ [conversion.byte]) =
      (precision, [conversion.byte]) := by
  obtain ⟨-, notDigit, notPeriod⟩ := letter_stops conversion
  cases precision with
  | none =>
      rw [precisionBytes, List.nil_append, readPrecision, if_neg notPeriod]
  | some digits =>
      have stops : ∀ byte ∈ [conversion.byte].head?, readDigit byte = none := by
        rintro byte ⟨⟩
        exact notDigit
      have run := readRun_append readDigit_byte stops digits
      rw [precisionBytes, List.cons_append, readPrecision, if_pos rfl, decimalBytes, run]

/-- A conversion can be read back from its text. -/
theorem readDirective_text (d : Directive) : readDirective d.text = some d := by
  let ending := precisionBytes d.precision ++ [d.conversion.byte]
  have stops := head_precisionBytes d.precision d.conversion
  have width : readRun readDigit (decimalBytes d.width ++ ending) = (d.width, ending) :=
    readRun_append readDigit_byte (fun byte first => (stops byte first).2) d.width
  have flags : readRun readFlag (d.flags.map Flag.byte ++ (decimalBytes d.width ++ ending)) =
      (d.flags, decimalBytes d.width ++ ending) := by
    refine readRun_append readFlag_byte ?_ d.flags
    intro byte first
    cases written : d.width with
    | nil =>
        rw [written] at first
        exact (stops byte first).1
    | cons digit digits =>
        rw [written] at first
        cases first
        apply readFlag_digit
        rintro rfl
        exact d.width_start (by rw [written]; rfl)
  have text : d.text.drop 1 = d.flags.map Flag.byte ++ (decimalBytes d.width ++ ending) := by
    rw [Directive.text, Directive.modifiers, List.append_assoc, List.append_assoc]
    rfl
  rw [readDirective, text, flags]
  dsimp only
  rw [width]
  dsimp only
  rw [readPrecision_bytes]
  dsimp only
  rw [readConversion_byte, Option.bind_some, makeDirective, dif_pos d.width_start]

/-- Formatting of single conversions. -/
def formatDirective (spec : List Byte) (arg : Argument) : List Byte :=
  match readDirective spec with
  | some d => d.c99Text arg
  | none => []

end BumpinHost.CFormat
