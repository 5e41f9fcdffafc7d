/-! Sets of characters, with the blank ones among them, and the splitting of texts at a mark. -/

set_option autoImplicit false

namespace Authorization.Text

/-! ## Sets of characters

The properties that standards tabulate are given by ranges of code points. -/

/-- The code points, in ascending order, at which membership changes. -/
structure CharSet where
  changes : List Nat

/-- A code point is inside when an odd number of changes lie at or below it. -/
def CharSet.contains (set : CharSet) (c : Char) : Bool :=
  (set.changes.takeWhile (· ≤ c.toNat)).length % 2 == 1

example : (CharSet.mk [0x41, 0x5B]).contains 'Z' = true := by decide

example : (CharSet.mk [0x41, 0x5B]).contains '[' = false := by decide

/-! ## Blank characters -/

/-- The Unicode property White_Space. -/
def isBlankChar (c : Char) : Bool :=
  let point := c.toNat
  (9 ≤ point && point ≤ 13) || point == 0x20 || point == 0x85 || point == 0xA0 ||
    point == 0x1680 || (0x2000 ≤ point && point ≤ 0x200A) || point == 0x2028 ||
    point == 0x2029 || point == 0x202F || point == 0x205F || point == 0x3000

def trimStart (chars : List Char) : List Char := chars.dropWhile isBlankChar

def trimChars (chars : List Char) : List Char := (trimStart (trimStart chars).reverse).reverse

def isBlank (text : String) : Bool := text.toList.all isBlankChar

theorem trimStart_eq_nil_iff (chars : List Char) :
    trimStart chars = [] ↔ chars.all isBlankChar = true := by
  induction chars with
  | nil => simp [trimStart]
  | cons head rest ih =>
    cases blank : isBlankChar head with
    | false => simp [trimStart, blank]
    | true =>
      have step : trimStart (head :: rest) = trimStart rest := by simp [trimStart, blank]
      rw [step, ih, List.all_cons, blank, Bool.true_and]

theorem trimStart_head (chars rest : List Char) (head : Char)
    (kept : trimStart chars = head :: rest) : isBlankChar head = false := by
  induction chars with
  | nil => simp [trimStart] at kept
  | cons first others ih =>
    cases blank : isBlankChar first with
    | false =>
      simp [trimStart, blank] at kept
      exact kept.1 ▸ blank
    | true =>
      apply ih
      simpa [trimStart, blank] using kept

theorem trimChars_eq_nil_iff (chars : List Char) :
    trimChars chars = [] ↔ chars.all isBlankChar = true := by
  rw [trimChars, List.reverse_eq_nil_iff, trimStart_eq_nil_iff, List.all_reverse,
    ← trimStart_eq_nil_iff]
  cases kept : trimStart chars with
  | nil => simp [trimStart_eq_nil_iff, (trimStart_eq_nil_iff chars).mp kept]
  | cons head rest =>
    have notBlank : ¬ chars.all isBlankChar = true := by
      rw [← trimStart_eq_nil_iff, kept]; simp
    simp [trimStart, trimStart_head chars rest head kept, notBlank]

/-! ## Lists -/

/-- The parts between the marks; a text without a mark is one part. -/
def splitAt (mark : Char) : List Char → List (List Char)
  | [] => [[]]
  | c :: rest =>
    if c = mark then [] :: splitAt mark rest
    else match splitAt mark rest with
      | [] => [[c]]
      | first :: others => (c :: first) :: others

theorem splitAt_ne_nil (mark : Char) (chars : List Char) : splitAt mark chars ≠ [] := by
  cases chars with
  | nil => simp [splitAt]
  | cons c rest =>
    simp only [splitAt]
    split
    · simp
    · split <;> simp

theorem splitAt_plain (mark : Char) (chars : List Char) (plain : mark ∉ chars) :
    splitAt mark chars = [chars] := by
  induction chars with
  | nil => rfl
  | cons c others ih =>
    have apart : c ≠ mark := fun same => plain (same ▸ List.mem_cons_self)
    simp [splitAt, apart, ih fun member => plain (List.mem_cons_of_mem c member)]

/-- The entries of a list written with commas: blanks around an entry do not belong to it, and
empty entries do not count. -/
def listEntries (list : String) : List String :=
  (((splitAt ',' list.toList).map trimChars).filter (· ≠ [])).map String.ofList

example : listEntries " root , , administrators" = ["root", "administrators"] := by
  decide +kernel

end Authorization.Text
