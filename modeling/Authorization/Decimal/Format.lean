import Authorization.Decimal.Binary64

/-! Written forms of numbers: the shortest decimal that reads back, which decimals are positional, and
how the others show their exponent. -/

set_option autoImplicit false

namespace Authorization.Decimal

/-! ## Shortest decimals

The shortest decimal belongs to the coarsest power of ten one of whose multiples lies among the reals
that round to the number, and of those multiples it is the nearest. -/

/-- The number `digits · 10 ^ exponent`, as it is written in figures. -/
structure Numeral where
  digits : Nat
  exponent : Int
  deriving DecidableEq, Repr

/-- The reals that round to a magnitude, as numerators over one denominator; the ends belong to it
when the mantissa is even. -/
structure RoundingRange where
  low : Nat
  middle : Nat
  high : Nat
  denominator : Nat
  closed : Bool

/-- A power of two has a neighbour below at half the distance. -/
def Magnitude.range (magnitude : Magnitude) : RoundingRange :=
  let unit := Nat.pow 2 magnitude.scale
  let below := if magnitude.mantissa = Nat.pow 2 52 ∧ 0 < magnitude.scale then 1 else 2
  { low := (4 * magnitude.mantissa - below) * unit
    middle := 4 * magnitude.mantissa * unit
    high := (4 * magnitude.mantissa + 2) * unit
    denominator := Nat.pow 2 1076
    closed := magnitude.mantissa % 2 == 0 }

def RoundingRange.scale (range : RoundingRange) (exponent : Int) : RoundingRange :=
  let up := Nat.pow 10 (-exponent).toNat
  { range with
    low := range.low * up
    middle := range.middle * up
    high := range.high * up
    denominator := range.denominator * Nat.pow 10 exponent.toNat }

def RoundingRange.holds (range : RoundingRange) (n : Nat) : Bool :=
  let point := n * range.denominator
  if range.closed then range.low ≤ point && point ≤ range.high
  else range.low < point && point < range.high

def RoundingRange.nearest? (range : RoundingRange) : Option Nat :=
  let down := range.middle / range.denominator
  let nearest := roundDiv range.middle range.denominator
  let other := if nearest = down then down + 1 else down
  if range.holds nearest then some nearest
  else if range.holds other then some other
  else none

/-- Searches the exponents `steps - 325`, `steps - 326`, … in turn. -/
def shortestFrom (range : RoundingRange) : Nat → Numeral
  | 0 => ⟨0, 0⟩
  | steps + 1 =>
    let exponent : Int := steps - 324
    match (range.scale exponent).nearest? with
    | some digits => ⟨digits, exponent⟩
    | none => shortestFrom range steps

def Binary64.shortest (x : Binary64) : Numeral :=
  if x.isZero then ⟨0, 0⟩ else shortestFrom x.magnitude.range 633

/-! ## Formats -/

structure Format where
  /-- The exponents written positionally; every one if absent. -/
  positional : Option (Int × Int)
  /-- What follows a whole number in positional form. -/
  wholeTail : String

def plainFormat : Format := ⟨none, ""⟩

/-- From 0.00001 up to below 10 ^ 16 positional, with a point in every number. -/
def pointedFormat : Format := ⟨some (-5, 15), ".0"⟩

def zeros (n : Nat) : List Char := List.replicate n '0'

def Numeral.chars (numeral : Numeral) : List Char := Nat.toDigits 10 numeral.digits

def Numeral.leading (numeral : Numeral) : Int := numeral.exponent + numeral.chars.length - 1

def positionalText (tail : String) (numeral : Numeral) : String :=
  let chars := numeral.chars
  if 0 ≤ numeral.exponent then
    String.ofList (chars ++ zeros numeral.exponent.toNat) ++ tail
  else
    let places := (-numeral.exponent).toNat
    if places < chars.length then
      String.ofList (chars.take (chars.length - places) ++ '.' :: chars.drop (chars.length - places))
    else
      String.ofList ('0' :: '.' :: zeros (places - chars.length) ++ chars)

def exponentText (numeral : Numeral) : String :=
  let mantissa :=
    match numeral.chars with
    | first :: second :: rest => first :: '.' :: second :: rest
    | chars => chars
  let exponent := Nat.toDigits 10 numeral.leading.natAbs
  String.ofList (mantissa ++ 'e' :: (if numeral.leading < 0 then '-' else '+') ::
    zeros (2 - exponent.length) ++ exponent)

def Format.numeralText (format : Format) (numeral : Numeral) : String :=
  match format.positional with
  | none => positionalText format.wholeTail numeral
  | some (low, high) =>
    if low ≤ numeral.leading ∧ numeral.leading ≤ high then positionalText format.wholeTail numeral
    else exponentText numeral

def Format.text (format : Format) (x : Binary64) : String :=
  if x.isNaN then "NaN"
  else
    (if x.isNegative then "-" else "") ++
      (if x.isFinite then format.numeralText x.shortest else "inf")

example : pointedFormat.numeralText ⟨1, 20⟩ = "1e+20" := by decide +kernel

example : pointedFormat.numeralText ⟨1, 0⟩ = "1.0" := by decide +kernel

example : plainFormat.numeralText ⟨15, -1⟩ = "1.5" := by decide +kernel

end Authorization.Decimal
