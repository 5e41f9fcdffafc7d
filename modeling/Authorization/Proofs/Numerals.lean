import Mathlib.Data.Nat.Digits.Lemmas
import Mathlib.Tactic.Common
import Authorization.Identifier
import Authorization.Proofs.Entries

/-! Base-32 numerals. A text of digits, each in upper or lower case, denotes the number that has them,
the most significant first; nothing else is read as a number. -/

set_option autoImplicit false

namespace Authorization

namespace Base32

theorem utf8Size_digitChar (digit : Fin 32) : (digitChar digit).utf8Size = 1 := by
  revert digit
  decide

theorem utf8ByteSize_write (count number : Nat) :
    (String.ofList (write count number)).utf8ByteSize = count := by
  induction count generalizing number with
  | zero => rfl
  | succ count ih =>
    rw [write, String.ofList_append, String.utf8ByteSize_append, ih, ← String.singleton_eq_ofList,
      String.utf8ByteSize_singleton, utf8Size_digitChar]

end Base32

namespace Id

theorem ofDigits_text {kind : IdKind} (id : Id kind) (other : IdKind) :
    ofDigits id.text = .ok (⟨id.number, id.bounded⟩ : Id other) := by
  have size : id.text.utf8ByteSize = 26 := Base32.utf8ByteSize_write 26 id.number
  have digits : Base32.read? id.text.toList = some (id.number % Nat.pow 32 26) := by
    rw [text, String.toList_ofList]
    exact Base32.read?_write 26 id.number
  have below : id.number < Nat.pow 32 26 := Nat.lt_trans id.bounded (by decide)
  rw [ofDigits, if_neg (not_not.mpr size), digits, Nat.mod_eq_of_lt below]
  exact congrArg Except.ok (ext (Nat.mod_eq_of_lt id.bounded))

end Id

namespace Base32

/-! ## Digits -/

/-- The character is that of the digit, in upper or lower case. -/
def Denotes (c : Char) (digit : Fin 32) : Prop :=
  c = digitChar digit ∨ c = (digitChar digit).toLower

instance (c : Char) (digit : Fin 32) : Decidable (Denotes c digit) :=
  inferInstanceAs (Decidable (_ ∨ _))

theorem digit?_eq_some_iff (c : Char) (digit : Fin 32) :
    digit? c = some digit ↔ Denotes c digit := by
  constructor
  · intro found
    have same := List.find?_some found
    simp only [Bool.or_eq_true, beq_iff_eq] at same
    exact same.imp Eq.symm Eq.symm
  · rintro (rfl | rfl)
    · exact digit?_digitChar digit
    · exact digit?_toLower digit

theorem Denotes.unique {c : Char} {digit other : Fin 32} (denotes : Denotes c digit)
    (denotes' : Denotes c other) : digit = other := by
  rw [← digit?_eq_some_iff] at denotes denotes'
  exact Option.some.inj (denotes.symm.trans denotes')

theorem toLower_of_denotes {c : Char} {digit : Fin 32} (denotes : Denotes c digit) :
    c.toLower = (digitChar digit).toLower := by
  have twice : ∀ digit, (digitChar digit).toLower.toLower = (digitChar digit).toLower := by decide
  rcases denotes with rfl | rfl
  · rfl
  · exact twice digit

theorem denotes_toLower_iff (c : Char) (digit : Fin 32) :
    Denotes c.toLower digit ↔ Denotes c digit := by
  refine ⟨fun lower => ?_, fun denotes => .inr (toLower_of_denotes denotes)⟩
  by_cases upper : c.val ≥ 'A'.val ∧ c.val ≤ 'Z'.val
  · have letters : ∀ point ∈ List.range' 65 26, ∀ digit,
        Denotes (Char.ofNat point).toLower digit → Denotes (Char.ofNat point) digit := by decide
    have first : 65 ≤ c.toNat := UInt32.le_iff_toNat_le.mp upper.1
    have last : c.toNat ≤ 90 := UInt32.le_iff_toNat_le.mp upper.2
    rw [← Char.ofNat_toNat c] at lower ⊢
    exact letters c.toNat (by rw [List.mem_range'_1]; omega) digit lower
  · unfold Char.toLower at lower
    rwa [dif_neg upper] at lower

theorem lowerDigit_injective : Function.Injective fun digit => (digitChar digit).toLower := by
  intro digit other same
  have read := congrArg digit? same
  dsimp only at read
  rw [digit?_toLower, digit?_toLower] at read
  exact Option.some.inj read

theorem utf8Size_of_denotes {c : Char} {digit : Fin 32} (denotes : Denotes c digit) :
    c.utf8Size = 1 := by
  have lower : ∀ digit, (digitChar digit).toLower.utf8Size = 1 := by decide
  rcases denotes with rfl | rfl
  · exact utf8Size_digitChar digit
  · exact lower digit

/-! ## Values -/

/-- The number with these digits, the most significant first. -/
def value (digits : List (Fin 32)) : Nat := Nat.ofDigits 32 (digits.map Fin.val).reverse

theorem value_cons (digit : Fin 32) (rest : List (Fin 32)) :
    value (digit :: rest) = digit.val * 32 ^ rest.length + value rest := by
  rw [value, List.map_cons, List.reverse_cons, Nat.ofDigits_append, Nat.ofDigits_singleton,
    List.length_reverse, List.length_map, Nat.add_comm, Nat.mul_comm, value]

theorem value_lt (digits : List (Fin 32)) : value digits < 32 ^ digits.length := by
  have below := Nat.ofDigits_lt_base_pow_length (b := 32) (l := (digits.map Fin.val).reverse)
    (by decide) (by simp)
  rwa [List.length_reverse, List.length_map] at below

theorem value_inj {digits others : List (Fin 32)} (length : digits.length = others.length)
    (same : value digits = value others) : digits = others := by
  have reversed : (digits.map Fin.val).reverse = (others.map Fin.val).reverse :=
    Nat.ofDigits_inj_of_len_eq (b := 32) (by decide) (by simp [length]) (by simp) (by simp) same
  exact List.map_injective_iff.mpr Fin.val_injective (List.reverse_injective reversed)

/-! ## Texts -/

/-- The characters are those of the digits, each in upper or lower case. -/
def Spells (chars : List Char) (digits : List (Fin 32)) : Prop := List.Forall₂ Denotes chars digits

theorem exists_spells_iff (chars : List Char) :
    (∃ digits, Spells chars digits) ↔ ∀ c ∈ chars, ∃ digit, Denotes c digit :=
  Pairs.exists_related_iff

theorem not_spelled_iff (chars : List Char) :
    (¬ ∃ digits, Spells chars digits) ↔ ∃ c ∈ chars, ∀ digit, ¬ Denotes c digit := by
  rw [exists_spells_iff]
  push Not
  rfl

theorem readFrom_eq_some_iff (start : Nat) (chars : List Char) (number : Nat) :
    readFrom start chars = some number ↔
      ∃ digits, Spells chars digits ∧ number = start * 32 ^ digits.length + value digits := by
  induction chars generalizing start with
  | nil =>
    rw [readFrom, Option.some.injEq]
    constructor
    · rintro rfl
      exact ⟨[], .nil, by rw [List.length_nil, Nat.pow_zero, Nat.mul_one]; rfl⟩
    · rintro ⟨_, ⟨⟩, rfl⟩
      rw [List.length_nil, Nat.pow_zero, Nat.mul_one]
      rfl
  | cons c rest ih =>
    have shift : ∀ (digit : Fin 32) (digits : List (Fin 32)),
        (32 * start + digit.val) * 32 ^ digits.length + value digits =
          start * 32 ^ (digit :: digits).length + value (digit :: digits) := by
      intro digit digits
      rw [value_cons, List.length_cons, Nat.pow_succ]
      ring
    simp only [readFrom, Option.bind_eq_some_iff, digit?_eq_some_iff, ih]
    constructor
    · rintro ⟨digit, denotes, digits, spells, rfl⟩
      exact ⟨digit :: digits, .cons denotes spells, shift digit digits⟩
    · rintro ⟨_, spells, rfl⟩
      cases spells with
      | cons denotes spells => exact ⟨_, denotes, _, spells, (shift _ _).symm⟩

theorem read?_eq_some_iff (chars : List Char) (number : Nat) :
    read? chars = some number ↔ ∃ digits, Spells chars digits ∧ number = value digits := by
  simp only [read?, readFrom_eq_some_iff, Nat.zero_mul, Nat.zero_add]

theorem read?_eq_none_iff (chars : List Char) :
    read? chars = none ↔ ¬ ∃ digits, Spells chars digits := by
  rw [Option.eq_none_iff_forall_ne_some]
  simp only [ne_eq, read?_eq_some_iff]
  constructor
  · rintro unread ⟨digits, spells⟩
    exact unread _ ⟨digits, spells, rfl⟩
  · rintro unspelled number ⟨digits, spells, -⟩
    exact unspelled ⟨digits, spells⟩

namespace Spells

variable {chars others : List Char} {digits digits' : List (Fin 32)}

theorem utf8ByteSize (spells : Spells chars digits) :
    (String.ofList chars).utf8ByteSize = digits.length := by
  induction spells with
  | nil => rfl
  | cons denotes _ ih =>
    rw [String.ofList_cons, String.utf8ByteSize_append, String.utf8ByteSize_singleton,
      utf8Size_of_denotes denotes, ih, List.length_cons, Nat.add_comm]

theorem map_toLower (spells : Spells chars digits) :
    chars.map Char.toLower = digits.map fun digit => (digitChar digit).toLower := by
  induction spells with
  | nil => rfl
  | cons denotes _ ih => rw [List.map_cons, List.map_cons, toLower_of_denotes denotes, ih]

theorem map_toLower_eq_iff (spells : Spells chars digits) (spells' : Spells others digits') :
    chars.map Char.toLower = others.map Char.toLower ↔ digits = digits' := by
  rw [spells.map_toLower, spells'.map_toLower]
  exact (List.map_injective_iff.mpr lowerDigit_injective).eq_iff

theorem of_map_toLower (spells : Spells chars digits)
    (same : others.map Char.toLower = chars.map Char.toLower) : Spells others digits := by
  have lower : ∀ chars, Spells (chars.map Char.toLower) digits ↔ Spells chars digits := by
    intro chars
    rw [Spells, List.forall₂_map_left_iff]
    simp only [denotes_toLower_iff]
    rfl
  rw [← lower, same, lower]
  exact spells

end Spells

end Base32

end Authorization
