import Authorization.Text.Blank

/-! Instants in universal time, to the nanosecond, and their date-time text. A leap second is kept
as second 60 of its minute. -/

set_option autoImplicit false

namespace Authorization

/-! ## Days

The calendar is the proleptic Gregorian one. -/

def isLeapYear (year : Int) : Bool := year % 4 == 0 && (year % 100 != 0 || year % 400 == 0)

def daysInMonth (year : Int) (month : Nat) : Nat :=
  match month with
  | 2 => if isLeapYear year then 29 else 28
  | 4 | 6 | 9 | 11 => 30
  | _ => 31

structure Day where
  year : Int
  month : Nat
  day : Nat
  deriving DecidableEq, Repr

namespace Day

def inYearRange (year : Int) : Bool := -262143 ≤ year && year ≤ 262142

def isValid (day : Day) : Bool :=
  inYearRange day.year && 1 ≤ day.month && day.month ≤ 12 && 1 ≤ day.day &&
    day.day ≤ daysInMonth day.year day.month

def next (day : Day) : Day :=
  if day.day < daysInMonth day.year day.month then { day with day := day.day + 1 }
  else if day.month < 12 then { day with month := day.month + 1, day := 1 }
  else ⟨day.year + 1, 1, 1⟩

def previous (day : Day) : Day :=
  if 1 < day.day then { day with day := day.day - 1 }
  else if 1 < day.month then ⟨day.year, day.month - 1, daysInMonth day.year (day.month - 1)⟩
  else ⟨day.year - 1, 12, 31⟩

example : (Day.mk 2024 2 28).next = ⟨2024, 2, 29⟩ := by decide

example : (Day.mk 2023 3 1).previous = ⟨2023, 2, 28⟩ := by decide

end Day

structure Instant where
  day : Day
  hour : Nat
  minute : Nat
  second : Nat
  nanosecond : Nat
  deriving DecidableEq, Repr

namespace Instant

/-- The instant whose local reading is `reading` where clocks run `ahead` seconds before universal
time, if it lies in the calendar. The seconds of the reading follow; a leap second at its end
stays one. -/
def ofLocal (reading : Instant) (ahead : Int) : Option Instant :=
  let (leap, second) := if reading.second = 60 then (true, 59) else (false, reading.second)
  let total : Int := reading.hour * 3600 + reading.minute * 60 + second - ahead
  let day :=
    if total < 0 then reading.day.previous
    else if 86400 ≤ total then reading.day.next
    else reading.day
  let ofDay := (total % 86400).toNat
  if Day.inYearRange day.year then
    some {
      day := day
      hour := ofDay / 3600
      minute := ofDay / 60 % 60
      second := ofDay % 60 + (if leap then 1 else 0)
      nanosecond := reading.nanosecond }
  else none

end Instant

/-! ## Texts

Writing is strict: universal time, and the fewest of 0, 3, 6 or 9 fraction digits that lose nothing.
Reading is lenient: blanks may stand around the parts, figures may be fewer, and the offset may be
written in several ways. -/

inductive InstantFault where
  | outOfRange
  | impossible
  | tooShort
  | invalid
  | tooLong
  deriving DecidableEq, Repr

def InstantFault.message : InstantFault → String
  | outOfRange => "input is out of range"
  | impossible => "no possible date and time matching input"
  | tooShort => "premature end of input"
  | invalid => "input contains invalid characters"
  | tooLong => "trailing input"

namespace Instant

def padded (width n : Nat) : List Char :=
  let digits := Nat.toDigits 10 n
  List.replicate (width - digits.length) '0' ++ digits

def yearChars (year : Int) : List Char :=
  if 0 ≤ year ∧ year ≤ 9999 then padded 4 year.toNat
  else (if year < 0 then '-' else '+') :: padded 4 year.natAbs

def fractionChars (nanosecond : Nat) : List Char :=
  if nanosecond = 0 then []
  else if nanosecond % 1000000 = 0 then '.' :: padded 3 (nanosecond / 1000000)
  else if nanosecond % 1000 = 0 then '.' :: padded 6 (nanosecond / 1000)
  else '.' :: padded 9 nanosecond

def text (instant : Instant) : String :=
  String.ofList (
    yearChars instant.day.year ++ '-' :: padded 2 instant.day.month ++
    '-' :: padded 2 instant.day.day ++ 'T' :: padded 2 instant.hour ++
    ':' :: padded 2 instant.minute ++ ':' :: padded 2 instant.second ++
    fractionChars instant.nanosecond ++ ['Z'])

abbrev Reading (α : Type) := List Char → Except InstantFault (α × List Char)

def digitsValue (digits : List Char) : Nat :=
  digits.foldl (fun value c => 10 * value + (c.toNat - '0'.toNat)) 0

def readNumber (width : Nat) : Reading Nat := fun chars =>
  let digits := (chars.take width).takeWhile Char.isDigit
  match chars, digits with
  | [], _ => .error .tooShort
  | _, [] => .error .invalid
  | _, _ => .ok (digitsValue digits, chars.drop digits.length)

def readField (low high : Nat) : Reading Nat := fun chars => do
  let (value, rest) ← readNumber 2 (Text.trimStart chars)
  if low ≤ value ∧ value ≤ high then .ok (value, rest) else .error .outOfRange

def readYear : Reading Int := fun chars =>
  match Text.trimStart chars with
  | '-' :: rest => signed rest (-1)
  | '+' :: rest => signed rest 1
  | rest => do
    let (value, rest) ← readNumber 4 rest
    .ok (value, rest)
where
  signed (chars : List Char) (sign : Int) : Except InstantFault (Int × List Char) := do
    let (value, rest) ← readNumber chars.length chars
    let year := sign * value
    if -2147483648 ≤ year ∧ year ≤ 2147483647 then .ok (year, rest) else .error .outOfRange

def readMark (mark : Char) : Reading Unit := fun chars =>
  match Text.trimStart chars with
  | [] => .error .tooShort
  | c :: rest => if c = mark then .ok ((), rest) else .error .invalid

/-- A point and digits, of which the first nine count. -/
def readFraction : Reading Nat := fun chars =>
  match chars with
  | '.' :: rest => do
    let (value, after) ← readNumber 9 rest
    .ok (value * Nat.pow 10 (9 - (rest.length - after.length)), after.dropWhile Char.isDigit)
  | _ => .ok (0, chars)

/-- Two digits of an offset; a text of less than two bytes is too short for them. -/
def readPair : Reading (Nat × Nat) := fun chars =>
  match chars with
  | a :: b :: rest =>
    if a.isDigit && b.isDigit then .ok ((digitsValue [a], digitsValue [b]), rest)
    else .error .invalid
  | [a] => if a.utf8Size < 2 then .error .tooShort else .error .invalid
  | [] => .error .tooShort

def readOffset : Reading Int := fun chars =>
  match Text.trimStart chars with
  | [] => .error .tooShort
  | first :: rest =>
    if ((first :: rest).take 3).map Char.toLower = ['u', 't', 'c'] then .ok (0, rest.drop 2)
    else if first = 'Z' ∨ first = 'z' then .ok (0, rest)
    else if first = '+' then signed rest 1
    else if first = '-' ∨ first = '−' then signed rest (-1)
    else .error .invalid
where
  signed (chars : List Char) (sign : Int) : Except InstantFault (Int × List Char) := do
    let ((tens, ones), rest) ← readPair chars
    let rest := rest.dropWhile fun c => c = ':' || Text.isBlankChar c
    let ((minuteTens, minuteOnes), rest) ← readPair rest
    if 5 < minuteTens then .error .outOfRange
    else
      .ok (sign * ((10 * tens + ones) * 3600 + (10 * minuteTens + minuteOnes) * 60 : Nat), rest)

/-- The parts in order, each checked when it is met; then the date as a whole, and the offset. -/
def ofText (text : String) : Except InstantFault Instant := do
  let (year, rest) ← readYear text.toList
  let ((), rest) ← readMark '-' rest
  let (month, rest) ← readField 1 12 rest
  let ((), rest) ← readMark '-' rest
  let (day, rest) ← readField 1 31 rest
  let rest ← match rest with
    | [] => .error .tooShort
    | c :: rest => if c = 'T' ∨ c = 't' ∨ c = ' ' then pure rest else .error .invalid
  let (hour, rest) ← readField 0 23 rest
  let ((), rest) ← readMark ':' rest
  let (minute, rest) ← readField 0 59 rest
  let ((), rest) ← readMark ':' rest
  let (second, rest) ← readField 0 60 rest
  let (nanosecond, rest) ← readFraction rest
  let (ahead, rest) ← readOffset rest
  if !(Text.trimStart rest).isEmpty then .error .tooLong
  else
    let reading : Instant := ⟨⟨year, month, day⟩, hour, minute, second, nanosecond⟩
    if !reading.day.isValid ∨ 86400 ≤ ahead.natAbs then .error .outOfRange
    else match ofLocal reading ahead with
      | some instant => .ok instant
      | none => .error .impossible

example : (ofText "2024-01-02T03:04:05.1000+02:00").toOption.map text =
    some "2024-01-02T01:04:05.100Z" := by decide +kernel

example : (ofText "2016-12-31T23:59:60Z").toOption.map text = some "2016-12-31T23:59:60Z" := by
  decide +kernel

end Instant

end Authorization
