import Authorization.Json.Shape
import Authorization.Proofs.Numerals

/-! Texts of identifiers. The bare form is read in either case, the display form only with the tag of
its own kind, and documents hold the bare form alone. Two texts of one identifier differ at most in
their tags, in case, and in the two highest bits of the first digit. -/

set_option autoImplicit false

namespace Authorization

open Base32 (Denotes Spells)

theorem IdError.message_eq (error : IdError) {typeName reason : String}
    (named : error.typeName = typeName) (told : error.reason = reason) :
    error.message = "failed to parse " ++ typeName ++ ": " ++ reason := by
  subst named told
  rfl

namespace Id

/-! ## Tags -/

/-- What is left of a text without the tag of a kind, which it may have once. -/
inductive Stem (kind : IdKind) : String → String → Prop
  | tagged (rest : String) : Stem kind (kind.tag ++ "_" ++ rest) rest
  | bare {text : String} : (∀ rest, text ≠ kind.tag ++ "_" ++ rest) → Stem kind text text

theorem toList_tagged (kind : IdKind) (rest : String) :
    (kind.tag ++ "_" ++ rest).toList = (kind.tag ++ "_").toList ++ rest.toList :=
  String.toList_append

theorem withoutTag_tagged (kind : IdKind) (rest : String) :
    withoutTag kind (kind.tag ++ "_" ++ rest) = rest := by
  have marked : (kind.tag ++ "_").toList.isPrefixOf (kind.tag ++ "_" ++ rest).toList = true := by
    rw [List.isPrefixOf_iff_prefix, toList_tagged]
    exact List.prefix_append ..
  rw [withoutTag, if_pos marked, toList_tagged, List.drop_left, String.ofList_toList]

theorem withoutTag_bare {kind : IdKind} {text : String}
    (apart : ∀ rest, text ≠ kind.tag ++ "_" ++ rest) : withoutTag kind text = text := by
  refine if_neg fun marked => ?_
  obtain ⟨rest, same⟩ := List.isPrefixOf_iff_prefix.mp marked
  refine apart (String.ofList rest) (String.toList_injective ?_)
  rw [toList_tagged, String.toList_ofList, same]

theorem stem_iff (kind : IdKind) (text stem : String) :
    Stem kind text stem ↔ withoutTag kind text = stem := by
  constructor
  · intro left
    cases left with
    | tagged => exact withoutTag_tagged kind stem
    | bare apart => exact withoutTag_bare apart
  · rintro rfl
    by_cases marked : ∃ rest, text = kind.tag ++ "_" ++ rest
    · obtain ⟨rest, rfl⟩ := marked
      rw [withoutTag_tagged]
      exact .tagged rest
    · have apart : ∀ rest, text ≠ kind.tag ++ "_" ++ rest := fun rest same => marked ⟨rest, same⟩
      rw [withoutTag_bare apart]
      exact .bare apart

theorem stem_display {kind : IdKind} (id : Id kind) : Stem kind id.display id.text := .tagged id.text

/-- The tags of two kinds begin with different letters. -/
theorem kind_eq_of_tagged {kind other : IdKind} {rest rest' : String}
    (same : kind.tag ++ "_" ++ rest = other.tag ++ "_" ++ rest') : kind = other := by
  have first := congrArg (·.toList.head?) same
  simp only [String.toList_append, List.head?_append] at first
  revert first
  cases kind <;> cases other <;> simp [IdKind.tag]

theorem stem_display_of_ne {kind other : IdKind} (apart : other ≠ kind) (id : Id kind) :
    Stem other id.display id.display :=
  .bare fun _ same => apart (kind_eq_of_tagged same).symm

theorem stem_of_spells (kind : IdKind) {text : String} {digits : List (Fin 32)}
    (spells : Spells text.toList digits) : Stem kind text text := by
  refine .bare fun rest same => ?_
  have mark : '_' ∈ text.toList := by simp [same]
  obtain ⟨digit, denotes⟩ := (Base32.exists_spells_iff _).mp ⟨digits, spells⟩ '_' mark
  have apart : ∀ digit, ¬ Denotes '_' digit := by decide
  exact apart digit denotes

/-! ## Reading -/

section

variable {kind : IdKind}

theorem ofDigits_cases (kind : IdKind) (text : String) :
    (text.utf8ByteSize ≠ 26 ∧ (ofDigits text : Except IdFault (Id kind)) = .error .length) ∨
    (text.utf8ByteSize = 26 ∧ (¬ ∃ digits, Spells text.toList digits) ∧
      (ofDigits text : Except IdFault (Id kind)) = .error .character) ∨
    (text.utf8ByteSize = 26 ∧ ∃ digits, Spells text.toList digits ∧
      (ofDigits text : Except IdFault (Id kind)) = .ok (ofNat (Base32.value digits))) := by
  by_cases size : text.utf8ByteSize = 26
  · refine .inr ?_
    cases read : Base32.read? text.toList with
    | none =>
      refine .inl ⟨size, (Base32.read?_eq_none_iff _).mp read, ?_⟩
      rw [ofDigits, if_neg (not_not.mpr size), read]
    | some number =>
      obtain ⟨digits, spells, rfl⟩ := (Base32.read?_eq_some_iff ..).mp read
      refine .inr ⟨size, digits, spells, ?_⟩
      rw [ofDigits, if_neg (not_not.mpr size), read]
  · exact .inl ⟨size, if_pos size⟩

theorem ofDigits_eq_ok_iff (text : String) (id : Id kind) :
    ofDigits text = .ok id ↔
      text.utf8ByteSize = 26 ∧
        ∃ digits, Spells text.toList digits ∧ id = ofNat (Base32.value digits) := by
  rcases ofDigits_cases kind text with ⟨size, read⟩ | ⟨size, unspelled, read⟩ |
    ⟨size, digits, spells, read⟩
  · simp [read, size]
  · rw [not_exists] at unspelled
    simp [read, size, unspelled]
  · rw [read, Except.ok.injEq, and_iff_right size]
    constructor
    · rintro rfl
      exact ⟨digits, spells, rfl⟩
    · rintro ⟨digits', spells', rfl⟩
      rw [(spells.map_toLower_eq_iff spells').mp rfl]

theorem ofDigits_eq_length_iff (text : String) :
    (ofDigits text : Except IdFault (Id kind)) = .error .length ↔ text.utf8ByteSize ≠ 26 := by
  rcases ofDigits_cases kind text with ⟨size, read⟩ | ⟨size, -, read⟩ | ⟨size, digits, -, read⟩
  · simp [read, size]
  · simp [read, size]
  · simp [read, size]

theorem ofDigits_eq_character_iff (text : String) :
    (ofDigits text : Except IdFault (Id kind)) = .error .character ↔
      text.utf8ByteSize = 26 ∧ ∃ c ∈ text.toList, ∀ digit, ¬ Denotes c digit := by
  rw [← Base32.not_spelled_iff]
  rcases ofDigits_cases kind text with ⟨size, read⟩ | ⟨size, unspelled, read⟩ |
    ⟨size, digits, spells, read⟩
  · simp [read, size]
  · exact iff_of_true read ⟨size, unspelled⟩
  · have spelled : ∃ digits, Spells text.toList digits := ⟨digits, spells⟩
    simp [read, spelled]

theorem ofText_of_stem {text stem : String} (left : Stem kind text stem) :
    (ofText text : Except IdError (Id kind)) =
      (ofDigits stem).mapError fun fault => ⟨kind.typeName, fault.message⟩ := by
  rw [ofText, (stem_iff ..).mp left]

theorem ofText_eq_ok_iff {text stem : String} (left : Stem kind text stem) (id : Id kind) :
    ofText text = .ok id ↔ ofDigits stem = .ok id := by
  rw [ofText_of_stem left]
  cases (ofDigits stem : Except IdFault (Id kind)) <;> simp [Except.mapError]

theorem ofText_eq_error_iff {text stem : String} (left : Stem kind text stem) (fault : IdFault) :
    (ofText text : Except IdError (Id kind)) = .error ⟨kind.typeName, fault.message⟩ ↔
      (ofDigits stem : Except IdFault (Id kind)) = .error fault := by
  have message_inj : ∀ {first second : IdFault}, first.message = second.message ↔ first = second := by
    intro first second
    cases first <;> cases second <;> decide
  rw [ofText_of_stem left]
  cases (ofDigits stem : Except IdFault (Id kind)) <;> simp [Except.mapError, message_inj]

theorem fields_of_refused {text stem : String} (left : Stem kind text stem) {error : IdError}
    (refused : (ofText text : Except IdError (Id kind)) = .error error) :
    error.typeName = kind.typeName ∧
      error.reason = if stem.utf8ByteSize = 26 then "invalid character" else "invalid length" := by
  rw [ofText_of_stem left] at refused
  rcases ofDigits_cases kind stem with ⟨size, read⟩ | ⟨size, -, read⟩ | ⟨-, digits, -, read⟩
  · rw [read] at refused
    cases refused
    exact ⟨rfl, (if_neg size).symm⟩
  · rw [read] at refused
    cases refused
    exact ⟨rfl, (if_pos size).symm⟩
  · rw [read] at refused
    cases refused

theorem ofText_of_map_toLower (id : Id kind) {text : String}
    (same : text.toList.map Char.toLower = id.text.toList.map Char.toLower) :
    ofText text = .ok id := by
  obtain ⟨size, digits, spells, named⟩ := (ofDigits_eq_ok_iff id.text id).mp (ofDigits_text id kind)
  have respelled : Spells text.toList digits := spells.of_map_toLower same
  rw [ofText_eq_ok_iff (stem_of_spells kind respelled), ofDigits_eq_ok_iff]
  refine ⟨?_, digits, respelled, named⟩
  have counted := respelled.utf8ByteSize
  have counted' := spells.utf8ByteSize
  rw [String.ofList_toList] at counted counted'
  rw [counted, ← counted', size]

theorem asId_text (text : String) :
    (Json.asId (.text text) : Except DecodeError (Id kind)) =
      (ofDigits text).mapError .identifier := by
  simp only [Json.asId, Json.asText, bind, Except.bind]
  cases (ofDigits text : Except IdFault (Id kind)) <;> rfl

theorem utf8ByteSize_display (id : Id kind) : id.display.utf8ByteSize = 30 := by
  have tag : kind.tag.utf8ByteSize = 3 := by cases kind <;> rfl
  have digits : id.text.utf8ByteSize = 26 := Base32.utf8ByteSize_write 26 id.number
  rw [display, String.utf8ByteSize_append, String.utf8ByteSize_append, tag, digits]
  rfl

end

/-! ## Texts of one identifier -/

/-- The characters agree up to case, but that of the first digits only the three lowest bits count. -/
def Agree (first second : List Char) : Prop :=
  ∃ c c' rest rest' digit digit', first = c :: rest ∧ second = c' :: rest' ∧
    Denotes c digit ∧ Denotes c' digit' ∧ digit.val % 8 = digit'.val % 8 ∧
    rest.map Char.toLower = rest'.map Char.toLower

/-- 26 digits hold 130 bits, of which 128 are kept. -/
theorem value_cons_mod (digit : Fin 32) {rest : List (Fin 32)} (length : rest.length = 25) :
    Base32.value (digit :: rest) % 2 ^ 128 = digit.val % 8 * 2 ^ 125 + Base32.value rest := by
  have below := Base32.value_lt rest
  have power : (32 : Nat) ^ 25 = 2 ^ 125 := by decide
  rw [length, power] at below
  rw [Base32.value_cons, length, power]
  omega

theorem ofNat_value_eq_iff {kind : IdKind} (digit digit' : Fin 32) {rest rest' : List (Fin 32)}
    (length : rest.length = 25) (length' : rest'.length = 25) :
    (ofNat (Base32.value (digit :: rest)) : Id kind) = ofNat (Base32.value (digit' :: rest')) ↔
      digit.val % 8 = digit'.val % 8 ∧ rest = rest' := by
  have low : Base32.value rest < 32 ^ 25 := length ▸ Base32.value_lt rest
  have low' : Base32.value rest' < 32 ^ 25 := length' ▸ Base32.value_lt rest'
  have power : (32 : Nat) ^ 25 = 2 ^ 125 := by decide
  constructor
  · intro same
    have numbers : Base32.value (digit :: rest) % 2 ^ 128 =
        Base32.value (digit' :: rest') % 2 ^ 128 := congrArg Id.number same
    rw [value_cons_mod digit length, value_cons_mod digit' length'] at numbers
    have values : Base32.value rest = Base32.value rest' := by omega
    exact ⟨by omega, Base32.value_inj (length.trans length'.symm) values⟩
  · rintro ⟨top, rfl⟩
    have numbers : Base32.value (digit :: rest) % 2 ^ 128 =
        Base32.value (digit' :: rest) % 2 ^ 128 := by
      rw [value_cons_mod digit length, value_cons_mod digit' length, top]
    exact ext numbers

theorem eq_iff_agree {kind : IdKind} {stem stem' : String} {id id' : Id kind}
    (read : ofDigits stem = .ok id) (read' : ofDigits stem' = .ok id') :
    id = id' ↔ Agree stem.toList stem'.toList := by
  -- The digits that a text of 26 bytes spells are a first one and 25 others.
  have digits_of : ∀ {text : String} {id : Id kind}, ofDigits text = .ok id →
      ∃ c chars digit rest, text.toList = c :: chars ∧ Denotes c digit ∧ Spells chars rest ∧
        rest.length = 25 ∧ id = ofNat (Base32.value (digit :: rest)) := by
    intro text id read
    obtain ⟨size, digits, spells, rfl⟩ := (ofDigits_eq_ok_iff text id).mp read
    have counted := spells.utf8ByteSize
    rw [String.ofList_toList, size] at counted
    cases digits with
    | nil => cases counted
    | cons digit rest =>
      obtain ⟨c, chars, denotes, others, same⟩ := List.forall₂_cons_right_iff.mp spells
      exact ⟨c, chars, digit, rest, same, denotes, others, (Nat.succ.inj counted).symm, rfl⟩
  obtain ⟨c, chars, digit, rest, same, denotes, others, length, rfl⟩ := digits_of read
  obtain ⟨c', chars', digit', rest', same', denotes', others', length', rfl⟩ := digits_of read'
  rw [ofNat_value_eq_iff digit digit' length length', ← others.map_toLower_eq_iff others']
  constructor
  · rintro ⟨top, lower⟩
    exact ⟨c, c', chars, chars', digit, digit', same, same', denotes, denotes', top, lower⟩
  · rintro ⟨_, _, _, _, first, first', here, here', denoted, denoted', top, lower⟩
    rw [same, List.cons.injEq] at here
    rw [same', List.cons.injEq] at here'
    obtain ⟨rfl, rfl⟩ := here
    obtain ⟨rfl, rfl⟩ := here'
    rw [denotes.unique denoted, denotes'.unique denoted']
    exact ⟨top, lower⟩

/-- The texts of identifiers of a kind. Read is what has, behind one tag of the kind or without it,
26 bytes of digits, and it means the number that they denote, modulo `2 ^ 128`. Every other text is
refused with the name of the type and the fault, of which the length is found first. All written
forms are read back, the bare one in any case. Documents do not hold the display form, and no other
kind reads it. Two texts mean one identifier when they agree but for case and the bits that are
dropped. -/
theorem ofText_decision (kind : IdKind) :
    let nameOf : IdKind → String := fun
      | .user => "UserId"
      | .session => "SessionId"
      | .constraint => "ConstraintId"
    (∀ text, ∃ stem, Stem kind text stem ∧
      (∀ id : Id kind, ofText text = .ok id ↔
        stem.utf8ByteSize = 26 ∧
          ∃ digits, Spells stem.toList digits ∧ id = ofNat (Base32.value digits)) ∧
      ((∃ id : Id kind, ofText text = .ok id) ↔
        stem.utf8ByteSize = 26 ∧ ∀ c ∈ stem.toList, ∃ digit, Denotes c digit) ∧
      ((ofText text : Except IdError (Id kind)) = .error ⟨nameOf kind, "invalid length"⟩ ↔
        stem.utf8ByteSize ≠ 26) ∧
      ((ofText text : Except IdError (Id kind)) = .error ⟨nameOf kind, "invalid character"⟩ ↔
        stem.utf8ByteSize = 26 ∧ ∃ c ∈ stem.toList, ∀ digit, ¬ Denotes c digit) ∧
      ∀ error, (ofText text : Except IdError (Id kind)) = .error error →
        error.typeName = nameOf kind ∧
        error.reason =
          (if stem.utf8ByteSize = 26 then "invalid character" else "invalid length") ∧
        error.message = "failed to parse " ++ nameOf kind ++ ": " ++
          if stem.utf8ByteSize = 26 then "invalid character" else "invalid length") ∧
    (∀ id : Id kind,
      ofText id.display = .ok id ∧
      (∀ text : String, text.toList.map Char.toLower = id.text.toList.map Char.toLower →
        ofText text = .ok id) ∧
      (Json.asId (.text id.text) : Except DecodeError (Id kind)) = .ok id ∧
      (Json.asId (.text id.display) : Except DecodeError (Id kind)) =
        .error (.identifier .length) ∧
      ∀ other, other ≠ kind →
        (ofText id.display : Except IdError (Id other)) =
          .error ⟨nameOf other, "invalid length"⟩) ∧
    ∀ (text text' stem stem' : String) (id id' : Id kind), Stem kind text stem →
      Stem kind text' stem' → ofText text = .ok id → ofText text' = .ok id' →
      (id = id' ↔ Agree stem.toList stem'.toList) := by
  intro nameOf
  have named : ∀ kind, nameOf kind = kind.typeName := by
    intro kind
    cases kind <;> rfl
  have tooLong : ∀ id : Id kind, id.display.utf8ByteSize ≠ 26 := by
    intro id
    rw [utf8ByteSize_display]
    decide
  refine ⟨fun text => ?_, fun id => ⟨?_, fun text => ofText_of_map_toLower id, ?_, ?_, ?_⟩, ?_⟩
  · have left := (stem_iff kind text _).mpr rfl
    refine ⟨withoutTag kind text, left, ?_⟩
    simp only [named, ofText_eq_ok_iff left]
    refine ⟨ofDigits_eq_ok_iff _, ?_, ?_, ?_, ?_⟩
    · simp only [ofDigits_eq_ok_iff, exists_and_left, ← Base32.exists_spells_iff]
      refine and_congr_right fun _ => ⟨fun ⟨_, digits, spells, _⟩ => ⟨digits, spells⟩, ?_⟩
      exact fun ⟨digits, spells⟩ => ⟨_, digits, spells, rfl⟩
    · exact (ofText_eq_error_iff left .length).trans (ofDigits_eq_length_iff _)
    · exact (ofText_eq_error_iff left .character).trans (ofDigits_eq_character_iff _)
    · intro error refused
      obtain ⟨name, reason⟩ := fields_of_refused left refused
      exact ⟨name, reason, error.message_eq name reason⟩
  · rw [ofText_eq_ok_iff (stem_display id)]
    exact ofDigits_text id kind
  · rw [asId_text, ofDigits_text]
    rfl
  · rw [asId_text, (ofDigits_eq_length_iff _).mpr (tooLong id)]
    rfl
  · intro other apart
    rw [named]
    exact (ofText_eq_error_iff (stem_display_of_ne apart id) .length).mpr
      ((ofDigits_eq_length_iff _).mpr (tooLong id))
  · intro text text' stem stem' id id' left left' read read'
    exact eq_iff_agree ((ofText_eq_ok_iff left id).mp read) ((ofText_eq_ok_iff left' id').mp read')

/-- A tagged text and a bare one that differ in case and in the highest bit mean one session, whose
display form is no text of a user, and says so. -/
theorem ofText_decision_dropped :
    ∃ id id' : SessionId, ofText "ses_8000000000000000000000000A" = .ok id ∧
      ofText "0000000000000000000000000a" = .ok id' ∧ id = id' ∧
      ofText id'.display = .ok id' ∧
      ∃ error, (ofText id.display : Except IdError UserId) = .error error ∧
        error.message = "failed to parse UserId: invalid length" := by
  obtain ⟨-, forms, same⟩ := ofText_decision .session
  have read : ofText "ses_8000000000000000000000000A" = .ok (ofNat 10 : SessionId) := by
    decide +kernel
  have read' : ofText "0000000000000000000000000a" = .ok (ofNat 10 : SessionId) := by
    decide +kernel
  have agree : Agree "8000000000000000000000000A".toList "0000000000000000000000000a".toList :=
    ⟨'8', '0', _, _, 8, 0, rfl, rfl, by decide, by decide, by decide, by decide⟩
  have tagged : Stem .session "ses_8000000000000000000000000A" "8000000000000000000000000A" :=
    .tagged "8000000000000000000000000A"
  have bare : Stem .session "0000000000000000000000000a" "0000000000000000000000000a" :=
    (stem_iff ..).mpr (by decide +kernel)
  obtain ⟨shown, -, -, -, refused⟩ := forms (ofNat 10)
  refine ⟨_, _, read, read', (same _ _ _ _ _ _ tagged bare read read').mpr agree, shown,
    ⟨"UserId", "invalid length"⟩, ?_, by decide +kernel⟩
  exact refused .user (by decide)

end Id

end Authorization
