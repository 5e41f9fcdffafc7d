import Std.Data.ExtTreeMap
import Std.Data.ExtTreeSet

/-! Identifiers of users, sessions and constraints: 128-bit numbers written as 26 base-32 digits. The
bare form is the digits alone; the display form puts the kind's tag before them. Identifiers of
different kinds have different types. -/

set_option autoImplicit false

namespace Authorization

/-! ## Digits

The digits are ten figures, then the letters without I, L, O and U, read in either case and written
in upper case. -/

namespace Base32

def alphabet : List Char := "0123456789ABCDEFGHJKMNPQRSTVWXYZ".toList

def digitChar (digit : Fin 32) : Char := alphabet.get ⟨digit.val, by
  have length : alphabet.length = 32 := by decide
  omega⟩

def digit? (c : Char) : Option (Fin 32) :=
  (List.finRange 32).find? fun digit => digitChar digit == c || (digitChar digit).toLower == c

theorem digit?_digitChar (digit : Fin 32) : digit? (digitChar digit) = some digit := by
  revert digit
  decide

theorem digit?_toLower (digit : Fin 32) : digit? (digitChar digit).toLower = some digit := by
  revert digit
  decide

/-- The number written by `chars`, most significant digit first, after the digits of `start`. -/
def readFrom (start : Nat) : List Char → Option Nat
  | [] => some start
  | c :: rest => (digit? c).bind fun digit => readFrom (32 * start + digit.val) rest

def read? (chars : List Char) : Option Nat := readFrom 0 chars

/-- The `count` lowest digits of a number, most significant first. -/
def write : (count : Nat) → (number : Nat) → List Char
  | 0, _ => []
  | count + 1, number =>
    write count (number / 32) ++ [digitChar ⟨number % 32, Nat.mod_lt _ (by decide)⟩]

@[simp] theorem length_write (count number : Nat) : (write count number).length = count := by
  induction count generalizing number with
  | zero => rfl
  | succ count ih => simp [write, ih]

theorem readFrom_append (start : Nat) (first second : List Char) :
    readFrom start (first ++ second) = (readFrom start first).bind (readFrom · second) := by
  induction first generalizing start with
  | nil => rfl
  | cons c rest ih =>
    cases found : digit? c with
    | none => simp [readFrom, found]
    | some digit => simp [readFrom, found, ih]

theorem read?_write (count number : Nat) : read? (write count number) = some (number % Nat.pow 32 count) := by
  induction count generalizing number with
  | zero => simp [write, read?, readFrom, Nat.mod_one]
  | succ count ih =>
    have upper : readFrom 0 (write count (number / 32)) = some (number / 32 % Nat.pow 32 count) := ih _
    simp only [read?, write, readFrom_append, upper, Option.bind_some, readFrom, digit?_digitChar]
    rw [Nat.pow_eq, Nat.pow_eq, Nat.pow_succ, Nat.mul_comm (32 ^ count) 32, Nat.mod_mul]
    simp [Nat.add_comm]

end Base32

inductive IdKind where
  | user
  | session
  | constraint
  deriving DecidableEq, Repr

namespace IdKind

def tag : IdKind → String
  | user => "usr"
  | session => "ses"
  | constraint => "cns"

def typeName : IdKind → String
  | user => "UserId"
  | session => "SessionId"
  | constraint => "ConstraintId"

end IdKind

structure Id (kind : IdKind) where
  number : Nat
  bounded : number < Nat.pow 2 128
  deriving DecidableEq, Repr

abbrev UserId := Id .user
abbrev SessionId := Id .session
abbrev ConstraintId := Id .constraint

inductive IdFault where
  | length
  | character
  deriving DecidableEq, Repr

def IdFault.message : IdFault → String
  | .length => "invalid length"
  | .character => "invalid character"

structure IdError where
  typeName : String
  reason : String
  deriving DecidableEq, Repr

def IdError.message (error : IdError) : String :=
  "failed to parse " ++ error.typeName ++ ": " ++ error.reason

namespace Id

variable {kind : IdKind}

theorem ext {x y : Id kind} (same : x.number = y.number) : x = y := by
  cases x; cases y; cases same; rfl

def ofNat (number : Nat) : Id kind := ⟨number % Nat.pow 2 128, Nat.mod_lt _ (by decide)⟩

def isNil (id : Id kind) : Bool := id.number == 0

instance : LT (Id kind) := ⟨fun x y => x.number < y.number⟩

instance (x y : Id kind) : Decidable (x < y) := inferInstanceAs (Decidable (x.number < y.number))

instance : Ord (Id kind) := ⟨compareOn Id.number⟩

instance : Std.TransOrd (Id kind) :=
  inferInstanceAs (Std.TransCmp (compareOn (Id.number : Id kind → Nat)))

instance : Std.LawfulEqOrd (Id kind) where
  eq_of_compare same := ext (Std.LawfulEqOrd.eq_of_compare same)

def digits (id : Id kind) : List Char := Base32.write 26 id.number

def text (id : Id kind) : String := String.ofList id.digits

def display (id : Id kind) : String := kind.tag ++ "_" ++ id.text

/-- Reads the bare form: 26 digits in either case. They hold 130 bits, and the two highest are
dropped. -/
def ofDigits (text : String) : Except IdFault (Id kind) :=
  if text.utf8ByteSize ≠ 26 then .error .length
  else match Base32.read? text.toList with
    | none => .error .character
    | some number => .ok (ofNat number)

def withoutTag (kind : IdKind) (text : String) : String :=
  let mark := (kind.tag ++ "_").toList
  if mark.isPrefixOf text.toList then String.ofList (text.toList.drop mark.length) else text

def ofText (text : String) : Except IdError (Id kind) :=
  (ofDigits (withoutTag kind text)).mapError fun fault => ⟨kind.typeName, fault.message⟩

end Id

abbrev IdSet (kind : IdKind) := Std.ExtTreeSet (Id kind)

def IdSet.insertEach {kind : IdKind} (set : IdSet kind) : List (Id kind) → List Bool × IdSet kind
  | [] => ([], set)
  | id :: rest =>
    let (others, result) := IdSet.insertEach (set.insert id) rest
    ((!set.contains id) :: others, result)

end Authorization
