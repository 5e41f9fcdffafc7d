import Authorization.Config
import Authorization.Proofs.RoleLists

/-! Words: texts without commas and blanks. Truth values and numbers are words, however they are
spelled, and so are the texts that settings show for them. As a list, a word has itself alone. -/

set_option autoImplicit false

namespace Authorization

namespace Text

def isPlainChar (c : Char) : Bool := c ≠ ',' && !isBlankChar c

structure IsWord (chars : List Char) : Prop where
  full : chars ≠ []
  plain : ∀ c ∈ chars, isPlainChar c = true

-- Decided along the list: a quantifier over characters would be decided by trying all of them.
instance (chars : List Char) : Decidable (IsWord chars) :=
  decidable_of_iff (chars ≠ [] ∧ chars.all isPlainChar = true)
    ⟨fun both => ⟨both.1, List.all_eq_true.mp both.2⟩,
      fun word => ⟨word.full, List.all_eq_true.mpr word.plain⟩⟩

theorem isPlainChar_iff (c : Char) : isPlainChar c = true ↔ c ≠ ',' ∧ isBlankChar c = false := by
  simp [isPlainChar]

theorem isPlainChar_of_range {c : Char} (low : 45 ≤ c.toNat) (high : c.toNat ≤ 122) :
    isPlainChar c = true := by
  rw [isPlainChar_iff]
  constructor
  · rintro rfl
    exact absurd low (by decide)
  · simp only [isBlankChar, Bool.or_eq_false_iff, Bool.and_eq_false_iff, decide_eq_false_iff_not,
      beq_eq_false_iff_ne]
    omega

theorem isPlainChar_of_isDigit {c : Char} (digit : c.isDigit = true) : isPlainChar c = true := by
  obtain ⟨low, high⟩ := Char.isDigit_iff_toNat.mp digit
  exact isPlainChar_of_range (Nat.le_trans (by decide) low) (Nat.le_trans high (by decide))

namespace IsWord

variable {chars others : List Char}

theorem append_left (word : IsWord chars) (plain : ∀ c ∈ others, isPlainChar c = true) :
    IsWord (others ++ chars) :=
  ⟨List.append_ne_nil_of_right_ne_nil others word.full,
    List.forall_mem_append.mpr ⟨plain, word.plain⟩⟩

theorem append_right (word : IsWord chars) (plain : ∀ c ∈ others, isPlainChar c = true) :
    IsWord (chars ++ others) :=
  ⟨List.append_ne_nil_of_left_ne_nil word.full others,
    List.forall_mem_append.mpr ⟨word.plain, plain⟩⟩

theorem lists_iff {text : String} (word : IsWord text.toList) (name : String) :
    Lists text name ↔ name = text := by
  have blankless : ∀ c ∈ text.toList, isBlankChar c = false :=
    fun c member => ((isPlainChar_iff c).mp (word.plain c member)).2
  have core : IsCore text.toList text.toList :=
    ⟨⟨[], [], (List.append_nil _).symm, nofun, nofun⟩,
      fun c member => blankless c (List.mem_of_head? member),
      fun c member => blankless c (List.mem_of_getLast? member)⟩
  rw [lists_self_iff (fun comma => nomatch word.plain _ comma) core, and_iff_right_iff_imp]
  rintro rfl rfl
  exact word.full rfl

end IsWord

/-! ## Lower case -/

theorem isPlainChar_of_toLower {c : Char} (plain : isPlainChar c.toLower = true) :
    isPlainChar c = true := by
  unfold Char.toLower at plain
  split at plain
  · rename_i upper
    exact isPlainChar_of_range (Nat.le_trans (by decide) (UInt32.le_iff_toNat_le.mp upper.1))
      (Nat.le_trans (UInt32.le_iff_toNat_le.mp upper.2) (by decide))
  · exact plain

/-- The characters that are not plain. -/
def gapPoints : List Nat :=
  List.range' 9 5 ++ List.range' 0x2000 11 ++
    [0x20, 0x2C, 0x85, 0xA0, 0x1680, 0x2028, 0x2029, 0x202F, 0x205F, 0x3000]

theorem mem_gapPoints {c : Char} (gap : isPlainChar c = false) : c.toNat ∈ gapPoints := by
  simp only [isPlainChar, Bool.and_eq_false_iff, decide_eq_false_iff_not, ne_eq, not_not,
    Bool.not_eq_false'] at gap
  rcases gap with rfl | blank
  · decide
  · simp only [isBlankChar, Bool.or_eq_true, Bool.and_eq_true, decide_eq_true_eq,
      beq_iff_eq] at blank
    simp only [gapPoints, List.mem_append, List.mem_range'_1, List.mem_cons, List.not_mem_nil,
      or_false]
    omega

theorem lowerChar_of_gap {c : Char} (gap : isPlainChar c = false) :
    (c == 'Σ') = false ∧ lowerChar c = [c] := by
  have all : ∀ point ∈ gapPoints,
      (Char.ofNat point == 'Σ') = false ∧ lowerChar (Char.ofNat point) = [Char.ofNat point] := by
    decide +kernel
  rw [← Char.ofNat_toNat c]
  exact all c.toNat (mem_gapPoints gap)

theorem mem_lowerChars_of_gap {chars : List Char} {c : Char} (member : c ∈ chars)
    (gap : isPlainChar c = false) (before : List Char) : c ∈ lowerChars before chars := by
  induction chars generalizing before with
  | nil => cases member
  | cons first rest ih =>
    rw [lowerChars, List.mem_append]
    rcases List.mem_cons.mp member with rfl | later
    · obtain ⟨other, same⟩ := lowerChar_of_gap gap
      rw [other, same]
      exact .inl List.mem_cons_self
    · exact .inr (ih later _)

theorem isWord_of_lowercase {text : String} (word : IsWord (lowercase text).toList) :
    IsWord text.toList := by
  rw [lowercase, String.toList_ofList] at word
  constructor
  · intro empty
    rw [empty] at word
    exact word.full rfl
  · intro c member
    -- A comma or a blank would have stayed in the lower-cased text, which has none.
    by_contra gap
    exact gap (word.plain c (mem_lowerChars_of_gap member (Bool.not_eq_true _ ▸ gap) []))

end Text

namespace Decimal

open Text (IsWord isPlainChar)

variable {chars : List Char}

theorem plain_of_digits (digits : chars.all Char.isDigit = true) :
    ∀ c ∈ chars, isPlainChar c = true :=
  fun c member => Text.isPlainChar_of_isDigit (List.all_eq_true.mp digits c member)

theorem isWord_of_splitSign (word : IsWord (splitSign chars).2) : IsWord chars := by
  unfold splitSign at word
  split at word
  · exact word.append_left (List.all_eq_true.mp (by decide : ['-'].all isPlainChar = true))
  · exact word.append_left (List.all_eq_true.mp (by decide : ['+'].all isPlainChar = true))
  · exact word

theorem isWord_of_readInteger? {value : Int} (read : readInteger? chars = some value) :
    IsWord chars := by
  apply isWord_of_splitSign
  obtain ⟨_, found, -⟩ := Option.map_eq_some_iff.mp read
  obtain ⟨number, digits, -⟩ := Option.bind_eq_some_iff.mp found
  change readDigits? (splitSign chars).2 = some number at digits
  rw [readDigits?, Option.ite_none_right_eq_some, Bool.and_eq_true, decide_eq_true_eq] at digits
  exact ⟨digits.1.1, plain_of_digits digits.1.2⟩

theorem plain_of_readExponent? {exponent : Int} (read : readExponent? chars = some exponent) :
    ∀ c ∈ chars, isPlainChar c = true := by
  cases chars with
  | nil => nofun
  | cons mark rest =>
    rw [readExponent?, Option.ite_none_right_eq_some] at read
    obtain ⟨known, read⟩ := read
    refine List.forall_mem_cons.mpr ⟨?_, (isWord_of_readInteger? read).plain⟩
    rcases known with rfl | rfl <;> decide

theorem isWord_of_ofChars? {literal : Literal} (read : Literal.ofChars? chars = some literal) :
    IsWord chars := by
  constructor
  · rintro rfl
    cases read
  · rw [← List.takeWhile_append_dropWhile (p := Char.isDigit) (l := chars),
      List.forall_mem_append]
    refine ⟨plain_of_digits List.all_takeWhile, ?_⟩
    -- Behind the digits comes a fraction and then an exponent, or an exponent at once.
    unfold Literal.ofChars? at read
    generalize chars.dropWhile Char.isDigit = tail at read ⊢
    dsimp only at read
    split at read
    · obtain ⟨-, kept⟩ := Option.ite_none_left_eq_some.mp read
      obtain ⟨exponent, found, -⟩ := Option.bind_eq_some_iff.mp kept
      rename_i rest
      refine List.forall_mem_cons.mpr ⟨by decide, ?_⟩
      rw [← List.takeWhile_append_dropWhile (p := Char.isDigit) (l := rest),
        List.forall_mem_append]
      exact ⟨plain_of_digits List.all_takeWhile, plain_of_readExponent? found⟩
    · obtain ⟨-, kept⟩ := Option.ite_none_left_eq_some.mp read
      obtain ⟨exponent, found, -⟩ := Option.bind_eq_some_iff.mp kept
      exact plain_of_readExponent? found

theorem isWord_of_map_toLower (word : IsWord (chars.map Char.toLower)) : IsWord chars := by
  constructor
  · rintro rfl
    exact word.full rfl
  · exact fun c member => Text.isPlainChar_of_toLower (word.plain _ (List.mem_map_of_mem member))

theorem isWord_of_readNumber? {text : String} {value : Binary64}
    (read : readNumber? text = some value) : IsWord text.toList := by
  apply isWord_of_splitSign
  unfold readNumber? at read
  generalize splitSign text.toList = parts at read ⊢
  dsimp only at read
  by_cases special : String.ofList (parts.2.map Char.toLower) ∈ ["inf", "infinity", "nan"]
  · apply isWord_of_map_toLower
    rw [← String.toList_ofList (l := parts.2.map Char.toLower)]
    have words : ∀ word ∈ ["inf", "infinity", "nan"], IsWord word.toList := by decide +kernel
    exact words _ special
  · simp only [List.mem_cons, List.not_mem_nil, or_false, not_or] at special
    obtain ⟨inf, infinity, nan⟩ := special
    rw [if_neg (not_or.mpr ⟨inf, infinity⟩), if_neg nan] at read
    obtain ⟨literal, found, -⟩ := Option.map_eq_some_iff.mp read
    exact isWord_of_ofChars? found

/-! ## Written numbers -/

theorem isWord_toDigits (n : Nat) : IsWord (Nat.toDigits 10 n) :=
  ⟨Nat.toDigits_ne_nil, fun _ member =>
    Text.isPlainChar_of_isDigit (Nat.isDigit_of_mem_toDigits (by decide) (by decide) member)⟩

theorem isWord_toString (value : Int) : IsWord (toString value).toList := by
  rw [Int.toString_eq_repr]
  cases value with
  | ofNat n =>
    show IsWord n.repr.toList
    rw [Nat.toList_repr]
    exact isWord_toDigits n
  | negSucc n =>
    show IsWord ("-" ++ n.succ.repr).toList
    rw [String.toList_append, Nat.toList_repr]
    exact (isWord_toDigits n.succ).append_left (List.all_eq_true.mp (by decide))

theorem plain_zeros (n : Nat) : ∀ c ∈ zeros n, isPlainChar c = true := by
  intro c member
  rw [List.eq_of_mem_replicate member]
  decide

theorem isWord_positionalText (numeral : Numeral) : IsWord (positionalText "" numeral).toList := by
  have word : IsWord numeral.chars := isWord_toDigits numeral.digits
  unfold positionalText
  dsimp only
  split
  · rw [String.append_empty, String.toList_ofList]
    exact word.append_right (plain_zeros _)
  · split
    · rw [String.toList_ofList]
      refine ⟨List.append_ne_nil_of_right_ne_nil _ (List.cons_ne_nil _ _), ?_⟩
      rw [List.forall_mem_append, List.forall_mem_cons]
      exact ⟨fun c member => word.plain c (List.mem_of_mem_take member), by decide,
        fun c member => word.plain c (List.mem_of_mem_drop member)⟩
    · rw [String.toList_ofList]
      refine word.append_left (List.forall_mem_cons.mpr ⟨by decide, ?_⟩)
      exact List.forall_mem_cons.mpr ⟨by decide, plain_zeros _⟩

theorem isWord_plainFormat (x : Binary64) : IsWord (plainFormat.text x).toList := by
  unfold Format.text
  split
  · decide
  · rw [String.toList_append]
    refine IsWord.append_left ?_ ?_
    · split
      · exact isWord_positionalText _
      · decide
    · split <;> exact List.all_eq_true.mp (by decide)

end Decimal

/-! ## Values of variables -/

namespace Config

/-- The text that a variable becomes: that of the truth value or the number that it reads as, and
its own if it reads as neither. -/
def variableText (text : String) : String := (settingText? (variableValue text)).getD text

/-- A value is the text itself, or it stands for a word and is shown as a word. -/
def Stands (text : String) (value : Json) : Prop :=
  value = .text text ∨ Text.IsWord text.toList ∧
    ∃ shown, settingText? value = some shown ∧ Text.IsWord shown.toList

theorem stands_number (text : String) :
    Stands text (((Decimal.readNumber? text).map .float).getD (.text text)) := by
  cases read : Decimal.readNumber? text with
  | none => exact .inl rfl
  | some value =>
    exact .inr ⟨Decimal.isWord_of_readNumber? read, _, rfl, Decimal.isWord_plainFormat value⟩

theorem stands_variableValue (text : String) : Stands text (variableValue text) := by
  unfold variableValue
  split
  · rename_i same
    exact .inr ⟨Text.isWord_of_lowercase (by rw [same]; decide), _, rfl, by decide⟩
  · rename_i same
    exact .inr ⟨Text.isWord_of_lowercase (by rw [same]; decide), _, rfl, by decide⟩
  · split
    · rename_i value read
      split
      · exact .inr ⟨Decimal.isWord_of_readInteger? read, _, rfl, Decimal.isWord_toString value⟩
      -- A whole number beyond 64 bits is read again, as any other number.
      · exact stands_number text
    · exact stands_number text

theorem settingText?_variableValue (text : String) :
    settingText? (variableValue text) = some (variableText text) := by
  rw [variableText]
  rcases stands_variableValue text with same | ⟨-, shown, found, -⟩
  · rw [same]
    rfl
  · rw [found]
    rfl

theorem isWord_of_variableText_ne {text : String} (changed : variableText text ≠ text) :
    Text.IsWord text.toList ∧ Text.IsWord (variableText text).toList := by
  rcases stands_variableValue text with same | ⟨word, shown, found, word'⟩
  · rw [variableText, same] at changed
    exact absurd rfl changed
  · rw [variableText, found]
    exact ⟨word, word'⟩

end Config

end Authorization
