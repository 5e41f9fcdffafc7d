import Authorization.Json.Fault

/-! The parts of a JSON text that hold no values of their own: blanks, words, number literals and
quoted texts. What is taken from the front of a text leaves a strictly shorter rest. -/

set_option autoImplicit false

namespace Authorization.Json

/-! ## Numbers

A literal without point and exponent that fits in 64 bits is a whole number. Any other is a
double-precision number: the leading digits that fit in 64 bits, rounded, and then multiplied or
divided by a rounded power of ten. -/

open Decimal (Binary64)

structure NumberLiteral where
  negative : Bool
  whole : List Char
  fraction : List Char
  /-- Whether the exponent is negative, and its digits. -/
  exponent : Option (Bool × List Char)
  isWhole : Bool

namespace NumberLiteral

def digitValue (c : Char) : Nat := c.toNat - '0'.toNat

/-- Appends digits to a number as long as it stays below 2 ^ 64, and counts them. -/
def absorb (number : Nat) : List Char → Nat × Nat
  | [] => (number, 0)
  | c :: rest =>
    let grown := 10 * number + digitValue c
    if grown < Nat.pow 2 64 then
      let (result, count) := absorb grown rest
      (result, count + 1)
    else (number, 0)

def divideByPower (x : Binary64) (exponent : Nat) : Binary64 :=
  if exponent ≤ 308 then x.div (.powerOfTen exponent)
  else if x.isZero then x
  else divideByPower (x.div (.powerOfTen 308)) (exponent - 308)
termination_by exponent

def scaled? (number : Nat) (exponent : Int) : Option Binary64 :=
  let x := Binary64.ofNat number
  if exponent < 0 then some (divideByPower x exponent.natAbs)
  else if x.isZero then some x
  else if exponent ≤ 308 then
    let product := x.mul (.powerOfTen exponent.natAbs)
    if product.isFinite then some product else none
  else none

def writtenExponent (literal : NumberLiteral) : Int :=
  match literal.exponent with
  | none => 0
  | some (negative, digits) =>
    let value : Int := digits.foldl (fun value c => 10 * value + digitValue c) 0
    if negative then -value else value

def float? (literal : NumberLiteral) : Option Binary64 :=
  let (number, taken) := absorb 0 literal.whole
  let (number, places) := absorb number literal.fraction
  let exponent : Int := (literal.whole.length - taken : Nat) - (places : Int) + literal.writtenExponent
  (scaled? number exponent).map fun x => if literal.negative then x.negate else x

/-- The value of the literal; `none` beyond the finite numbers. A negative zero and a negative
number below -2 ^ 63 are double-precision numbers. -/
def value? (literal : NumberLiteral) : Option Json :=
  let (number, taken) := absorb 0 literal.whole
  let fits := if literal.negative then 0 < number && number ≤ Nat.pow 2 63 else true
  if literal.isWhole && taken == literal.whole.length && fits then
    some (.integer (if literal.negative then -number else number))
  else literal.float?.map .float

end NumberLiteral

structure Taken (text : List Char) (α : Type) where
  value : α
  rest : List Char
  shorter : rest.length < text.length

abbrev Reader (α : Type) := (text : List Char) → Except Fault (Taken text α)

namespace Taken

variable {α β : Type} {text : List Char}

def map (f : α → β) (taken : Taken text α) : Taken text β := { taken with value := f taken.value }

def widen {longer : List Char} (taken : Taken text α) (longerText : text.length ≤ longer.length) :
    Taken longer α :=
  ⟨taken.value, taken.rest, Nat.lt_of_lt_of_le taken.shorter longerText⟩

end Taken

def isBlankByte (c : Char) : Bool := c == ' ' || c == '\n' || c == '\t' || c == '\r'

def skipBlanks (text : List Char) : List Char := text.dropWhile isBlankByte

theorem length_skipBlanks_le (text : List Char) : (skipBlanks text).length ≤ text.length :=
  (List.dropWhile_sublist _).length_le

theorem rest_shorter {text rest : List Char} {c : Char} (found : skipBlanks text = c :: rest) :
    rest.length < text.length := by
  have bound := length_skipBlanks_le text
  simp only [found, List.length_cons] at bound
  omega

theorem length_lt_cons {α : Type} (head : α) (rest : List α) : rest.length < (head :: rest).length :=
  Nat.lt_succ_self _

theorem length_le_cons {α : Type} (head : α) (rest : List α) : rest.length ≤ (head :: rest).length :=
  Nat.le_succ _

theorem length_le_cons_cons {α : Type} (first second : α) (rest : List α) :
    rest.length ≤ (first :: second :: rest).length :=
  Nat.le_add_right _ 2

def hexValue? (digits : List Char) : Option Nat :=
  digits.foldlM (fun value c =>
    let point := c.toNat
    if '0'.toNat ≤ point ∧ point ≤ '9'.toNat then some (16 * value + (point - '0'.toNat))
    else if 'a'.toNat ≤ point ∧ point ≤ 'f'.toNat then some (16 * value + (point - 'a'.toNat + 10))
    else if 'A'.toNat ≤ point ∧ point ≤ 'F'.toNat then some (16 * value + (point - 'A'.toNat + 10))
    else none) 0

def readUnit : Reader Nat := fun text =>
  match text with
  | a :: b :: c :: d :: rest =>
    match hexValue? [a, b, c, d] with
    | some unit => .ok ⟨unit, rest, Nat.lt_add_of_pos_right (Nat.succ_pos 3)⟩
    | none => .error (.before .invalidEscape (text.drop 4))
  | short =>
    if Fault.byteCount short < 4 then .error (.before .endInText [])
    else .error (.before .invalidEscape [])

def isHighSurrogate (unit : Nat) : Bool := 0xD800 ≤ unit && unit ≤ 0xDBFF

def isLowSurrogate (unit : Nat) : Bool := 0xDC00 ≤ unit && unit ≤ 0xDFFF

def simpleEscape? : Char → Option Char
  | '"' => some '"'
  | '\\' => some '\\'
  | '/' => some '/'
  | 'b' => some '\x08'
  | 'f' => some '\x0C'
  | 'n' => some '\n'
  | 'r' => some '\r'
  | 't' => some '\t'
  | _ => none

def readLowHalf : Reader Nat := fun text =>
  match text with
  | [] => .error (.before .endInText [])
  | first :: rest =>
    if first ≠ '\\' then .error (.before .brokenSurrogatePair rest)
    else match rest with
      | [] => .error (.before .endInText [])
      | second :: rest => do
        if second ≠ 'u' then throw (.before .brokenSurrogatePair rest)
        let unit ← readUnit rest
        if isLowSurrogate unit.value then return unit.widen (length_le_cons_cons ..)
        else throw (.before .loneSurrogate unit.rest)

/-- A hexadecimal escape, or two that make one character, after the `u`. -/
def readCodePoint : Reader Char := fun text => do
  let unit ← readUnit text
  if isLowSurrogate unit.value then throw (.before .loneSurrogate unit.rest)
  else if isHighSurrogate unit.value then
    let low ← readLowHalf unit.rest
    let point := 0x10000 + (unit.value - 0xD800) * 0x400 + (low.value - 0xDC00)
    return (low.map fun _ => Char.ofNat point).widen (Nat.le_of_lt unit.shorter)
  else return unit.map Char.ofNat

/-- A hexadecimal escape whose value does not matter, after the `u`. -/
def passCodePoint : Reader Char := fun text => (readUnit text).map fun unit => unit.map Char.ofNat

def readQuoted (escape : Reader Char) (passed : List Char) : Reader String := fun text =>
  match text with
  | [] => .error (.before .endInText [])
  | '"' :: rest => .ok ⟨String.ofList passed.reverse, rest, length_lt_cons ..⟩
  | '\\' :: [] => .error (.before .endInText [])
  | '\\' :: 'u' :: rest => do
    let taken ← escape rest
    have := taken.shorter
    let result ← readQuoted escape (taken.value :: passed) taken.rest
    return result.widen (Nat.le_trans (Nat.le_of_lt taken.shorter) (length_le_cons_cons ..))
  | '\\' :: c :: rest =>
    match simpleEscape? c with
    | some meant => do
      let result ← readQuoted escape (meant :: passed) rest
      return result.widen (length_le_cons_cons ..)
    | none => .error (.before .invalidEscape rest)
  | c :: rest => do
    if c.toNat < 0x20 then throw (.before .controlCharacter rest)
    let result ← readQuoted escape (c :: passed) rest
    return result.widen (length_le_cons ..)
termination_by text => text.length

def readText : Reader String := readQuoted readCodePoint []

def passText : Reader String := readQuoted passCodePoint []

structure Kept (text : List Char) (α : Type) where
  value : α
  rest : List Char
  notLonger : rest.length ≤ text.length

namespace Kept

variable {α : Type} {text : List Char}

def whole (value : α) : Kept text α := ⟨value, text, Nat.le_refl _⟩

def after (kept : Kept text α) (c : Char) : Taken (c :: text) α :=
  ⟨kept.value, kept.rest, Nat.lt_succ_of_le kept.notLonger⟩

end Kept

def passLetters (letters text : List Char) : Except Fault (Kept text Unit) :=
  match letters, text with
  | [], _ => .ok (.whole ())
  | _ :: _, [] => .error (.before .endInValue [])
  | letter :: letters, c :: rest => do
    if c ≠ letter then throw (.before .expectedWord rest)
    let kept ← passLetters letters rest
    return ⟨(), kept.rest, Nat.le_succ_of_le kept.notLonger⟩

def readPlaces (atEnd : FaultCause) (text : List Char) :
    Except Fault (Kept text (Option (List Char))) :=
  match text with
  | '.' :: rest =>
    match rest.takeWhile Char.isDigit, rest with
    | [], [] => .error (.showing atEnd [])
    | [], rest => .error (.showing .invalidNumber rest)
    | digits, rest =>
      .ok ⟨some digits, rest.dropWhile Char.isDigit,
        Nat.le_succ_of_le (List.dropWhile_sublist _).length_le⟩
  | _ => .ok (.whole none)

def readSign (text : List Char) : Kept text Bool :=
  match text with
  | '+' :: rest => ⟨false, rest, length_le_cons ..⟩
  | '-' :: rest => ⟨true, rest, length_le_cons ..⟩
  | _ => .whole false

def readMoreDigits {text others : List Char} {c : Char} (digits : text = c :: others) :
    Kept text (List Char) :=
  ⟨c :: others.takeWhile Char.isDigit, others.dropWhile Char.isDigit,
    digits ▸ Nat.le_succ_of_le (List.dropWhile_sublist _).length_le⟩

def readExponent (atEnd : FaultCause) (text : List Char) :
    Except Fault (Kept text (Option (Bool × List Char))) :=
  match text with
  | mark :: rest =>
    if mark = 'e' ∨ mark = 'E' then
      let sign := readSign rest
      match digits : sign.rest with
      | [] => .error (.before atEnd [])
      | c :: others =>
        if c.isDigit then
          let more := readMoreDigits digits
          .ok ⟨some (sign.value, more.value), more.rest,
            Nat.le_succ_of_le (Nat.le_trans more.notLonger sign.notLonger)⟩
        else .error (.before .invalidNumber others)
    else .ok (.whole none)
  | [] => .ok (.whole none)

def readWhole (atEnd : FaultCause) : Reader (List Char) := fun text =>
  match text with
  | [] => .error (.before atEnd [])
  | c :: rest =>
    if c = '0' then
      match rest with
      | d :: others =>
        if d.isDigit then .error (.showing .invalidNumber (d :: others))
        else .ok ⟨['0'], d :: others, length_lt_cons ..⟩
      | [] => .ok ⟨['0'], [], length_lt_cons ..⟩
    else if c.isDigit then
      .ok ⟨c :: rest.takeWhile Char.isDigit, rest.dropWhile Char.isDigit,
        Nat.lt_succ_of_le (List.dropWhile_sublist _).length_le⟩
    else .error (.before .invalidNumber rest)

/-- A number literal after its sign; `atEnd` is the fault of a text that ends inside it. -/
def readLiteral (atEnd : FaultCause) (negative : Bool) : Reader NumberLiteral := fun text => do
  let whole ← readWhole atEnd text
  let places ← readPlaces atEnd whole.rest
  let exponent ← readExponent atEnd places.rest
  let literal : NumberLiteral := {
    negative := negative
    whole := whole.value
    fraction := places.value.getD []
    exponent := exponent.value
    isWhole := places.value.isNone && exponent.value.isNone }
  return ⟨literal, exponent.rest,
    Nat.lt_of_le_of_lt (Nat.le_trans exponent.notLonger places.notLonger) whole.shorter⟩

def readNumber (negative : Bool) : Reader Json := fun text => do
  let literal ← readLiteral .endInValue negative text
  match literal.value.value? with
  | some number => return literal.map fun _ => number
  | none => throw (.before .numberOutOfRange literal.rest)

def readScalar : Reader Json := fun text =>
  match text with
  | 'n' :: rest => do return ((← passLetters ['u', 'l', 'l'] rest).after _).map fun _ => .null
  | 't' :: rest => do return ((← passLetters ['r', 'u', 'e'] rest).after _).map fun _ => .bool true
  | 'f' :: rest => do
    return ((← passLetters ['a', 'l', 's', 'e'] rest).after _).map fun _ => .bool false
  | '-' :: rest => do return (← readNumber true rest).widen (length_le_cons ..)
  | '"' :: rest => do return ((← readText rest).map .text).widen (length_le_cons ..)
  | c :: rest =>
    if c.isDigit then readNumber false (c :: rest) else .error (.showing .expectedValue (c :: rest))
  | [] => .error (.showing .endInValue [])

def passScalar : Reader Unit := fun text =>
  match text with
  | 'n' :: rest => do return (← passLetters ['u', 'l', 'l'] rest).after _
  | 't' :: rest => do return (← passLetters ['r', 'u', 'e'] rest).after _
  | 'f' :: rest => do return (← passLetters ['a', 'l', 's', 'e'] rest).after _
  | '-' :: rest => do
    return ((← readLiteral .invalidNumber true rest).map fun _ => ()).widen (length_le_cons ..)
  | '"' :: rest => do return ((← passText rest).map fun _ => ()).widen (length_le_cons ..)
  | c :: rest =>
    if c.isDigit then
      (readLiteral .invalidNumber false (c :: rest)).map fun literal => literal.map fun _ => ()
    else .error (.showing .expectedValue (c :: rest))
  | [] => .error (.showing .endInValue [])

end Authorization.Json
