/-! Machine numbers: bounded ranges of whole numbers, and double-precision numbers as bit patterns,
with exact rounding of ratios in natural numbers. A finite pattern stands for
`mantissa · 2 ^ exponent`; every operation computes the exact ratio and rounds it once, to the nearest
pattern and to the even one of two equally near. -/

set_option autoImplicit false

namespace Authorization

structure IntegerRange where
  name : String
  low : Int
  high : Int
  deriving DecidableEq, Repr

namespace IntegerRange

def i32 : IntegerRange := ⟨"i32", -2147483648, 2147483647⟩

def u32 : IntegerRange := ⟨"u32", 0, 4294967295⟩

def i64 : IntegerRange := ⟨"i64", -9223372036854775808, 9223372036854775807⟩

def holds (range : IntegerRange) (value : Int) : Bool := range.low ≤ value && value ≤ range.high

end IntegerRange

namespace Decimal

/-- A double-precision number, not a NaN unless it is the one of `nan`. -/
structure Binary64 where
  bits : UInt64
  deriving DecidableEq, Repr

/-- The pattern of a magnitude read as a value: either `mantissa · 2 ^ (scale - 1074)` or beyond
every finite number. -/
structure Magnitude where
  mantissa : Nat
  scale : Nat
  deriving DecidableEq, Repr

/-- The quotient rounded to the nearest natural number, a half to the even one. -/
def roundDiv (numerator denominator : Nat) : Nat :=
  let quotient := numerator / denominator
  let twice := 2 * (numerator % denominator)
  if twice < denominator then quotient
  else if twice > denominator then quotient + 1
  else quotient + quotient % 2

namespace Binary64

def infinityBits : Nat := 0x7FF0000000000000

def signBit : Nat := 0x8000000000000000

def ofMagnitude (negative : Bool) (magnitude : Nat) : Binary64 :=
  ⟨(if negative then signBit + magnitude else magnitude).toUInt64⟩

/-- The power of two, above 2 ^ -1074, by which a ratio is divided to leave 53 bits; a ratio too
small for that keeps fewer. Zero has no such power. -/
def scaleOf (numerator denominator : Nat) : Nat :=
  let shift := numerator.log2 + 1074 - denominator.log2
  let fits := denominator * Nat.pow 2 shift ≤ numerator * Nat.pow 2 1074
  (if fits then shift else shift - 1) - 52

/-- The pattern of the magnitude nearest to a ratio; overflow gives infinity. -/
def roundRatio (numerator denominator : Nat) : Nat :=
  if numerator = 0 then 0
  else
    let scale := scaleOf numerator denominator
    let mantissa := roundDiv (numerator * Nat.pow 2 1074) (denominator * Nat.pow 2 scale)
    min (scale * Nat.pow 2 52 + mantissa) infinityBits

def isNegative (x : Binary64) : Bool := signBit ≤ x.bits.toNat

def magnitudeBits (x : Binary64) : Nat := x.bits.toNat % signBit

def isFinite (x : Binary64) : Bool := x.magnitudeBits < infinityBits

def isNaN (x : Binary64) : Bool := infinityBits < x.magnitudeBits

def isZero (x : Binary64) : Bool := x.magnitudeBits == 0

def magnitude (x : Binary64) : Magnitude :=
  let biased := x.magnitudeBits / Nat.pow 2 52
  let fraction := x.magnitudeBits % Nat.pow 2 52
  if biased = 0 then ⟨fraction, 0⟩ else ⟨Nat.pow 2 52 + fraction, biased - 1⟩

def infinity (negative : Bool) : Binary64 := ofMagnitude negative infinityBits

def nan : Binary64 := ofMagnitude false 0x7FF8000000000000

def zero (negative : Bool) : Binary64 := ofMagnitude negative 0

def ofRatio (negative : Bool) (numerator denominator : Nat) : Binary64 :=
  ofMagnitude negative (roundRatio numerator denominator)

def ofNat (n : Nat) : Binary64 := ofRatio false n 1

def negate (x : Binary64) : Binary64 := ofMagnitude (!x.isNegative) x.magnitudeBits

def powerOfTen (exponent : Nat) : Binary64 := ofNat (Nat.pow 10 exponent)

def mul (x y : Binary64) : Binary64 :=
  let a := x.magnitude
  let b := y.magnitude
  ofRatio (x.isNegative != y.isNegative) (a.mantissa * b.mantissa * Nat.pow 2 (a.scale + b.scale))
    (Nat.pow 2 2148)

def div (x y : Binary64) : Binary64 :=
  let a := x.magnitude
  let b := y.magnitude
  ofRatio (x.isNegative != y.isNegative) (a.mantissa * Nat.pow 2 a.scale)
    (b.mantissa * Nat.pow 2 b.scale)

def agrees (x y : Binary64) : Bool :=
  !x.isNaN && !y.isNaN && (x.bits == y.bits || (x.isZero && y.isZero))

example : ofRatio false 1 10 = ⟨0x3FB999999999999A⟩ := by decide +kernel

example : ofRatio true 0 7 = zero true := by decide +kernel

example : ofRatio true 3 2 = ⟨0xBFF8000000000000⟩ := by decide +kernel

example : ofRatio false 1 (Nat.pow 2 1074) = ⟨1⟩ := by decide +kernel

example : (powerOfTen 309).isFinite = false := by decide +kernel

end Binary64

end Decimal

/-! ## Literals

A text is read as a decimal with or without point and exponent, or as one of the words for infinity
and for what is no number. -/

namespace Decimal

structure Literal where
  whole : List Char
  fraction : List Char
  exponent : Int

def digitsValue (digits : List Char) : Nat :=
  digits.foldl (fun value c => 10 * value + (c.toNat - '0'.toNat)) 0

def splitSign : List Char → Bool × List Char
  | '-' :: rest => (true, rest)
  | '+' :: rest => (false, rest)
  | chars => (false, chars)

def readDigits? (chars : List Char) : Option Nat :=
  if chars ≠ [] && chars.all Char.isDigit then some (digitsValue chars) else none

def readInteger? (chars : List Char) : Option Int :=
  let (negative, digits) := splitSign chars
  (readDigits? digits).map fun value => if negative then -value else value

def readExponent? : List Char → Option Int
  | [] => some 0
  | mark :: rest => if mark = 'e' ∨ mark = 'E' then readInteger? rest else none

def Literal.ofChars? (chars : List Char) : Option Literal := do
  let whole := chars.takeWhile Char.isDigit
  let (fraction, rest) :=
    match chars.dropWhile Char.isDigit with
    | '.' :: rest => (rest.takeWhile Char.isDigit, rest.dropWhile Char.isDigit)
    | rest => ([], rest)
  if whole.isEmpty && fraction.isEmpty then none
  else return ⟨whole, fraction, ← readExponent? rest⟩

/-- The double-precision number nearest to a literal. One far beyond the finite numbers is infinite,
and one far below them is zero, without the power of ten being computed. -/
def Literal.value (negative : Bool) (literal : Literal) : Binary64 :=
  let digits := (literal.whole ++ literal.fraction).dropWhile (· = '0')
  let exponent := literal.exponent - literal.fraction.length
  let leading : Int := exponent + digits.length
  if digits.isEmpty || leading < -400 then .zero negative
  else if 400 < leading then .infinity negative
  else .ofRatio negative (digitsValue digits * Nat.pow 10 exponent.toNat)
    (Nat.pow 10 (-exponent).toNat)

def readNumber? (text : String) : Option Binary64 :=
  let (negative, chars) := splitSign text.toList
  let word := String.ofList (chars.map Char.toLower)
  if word = "inf" ∨ word = "infinity" then some (.infinity negative)
  else if word = "nan" then some .nan
  else (Literal.ofChars? chars).map (Literal.value negative)

example : (readNumber? ".5").map Binary64.bits = some 0x3FE0000000000000 := by decide +kernel

example : (readNumber? "1e").isNone = true := by decide +kernel

example : (readNumber? "-1e999").map Binary64.bits = some 0xFFF0000000000000 := by decide +kernel

end Decimal

end Authorization
