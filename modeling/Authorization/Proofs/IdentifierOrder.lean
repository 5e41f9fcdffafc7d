import Authorization.Identifier
import Authorization.Proofs.Entries
import Authorization.Proofs.Sorting

/-! Identifiers in order. Numerals of one length are in the order of their numbers, since the
characters of the digits are in the order of the digits. So identifiers of a kind sort as their texts
do, byte by byte, and a set of them lists its texts in ascending order, each once. -/

set_option autoImplicit false

namespace Authorization

namespace Base32

/-- The alphabet leaves out letters, but keeps the order of the others. -/
theorem digitChar_lt_iff (digit other : Fin 32) : digitChar digit < digitChar other ↔ digit < other := by
  revert digit other
  decide

theorem concat_lt_concat_iff {chars others : List Char} (length : chars.length = others.length)
    (last last' : Char) :
    chars ++ [last] < others ++ [last'] ↔ chars < others ∨ chars = others ∧ last < last' := by
  induction chars generalizing others with
  | nil =>
    cases others with
    | nil => simp [List.cons_lt_cons_iff]
    | cons c others => cases length
  | cons c rest ih =>
    cases others with
    | nil => cases length
    | cons c' others =>
      rw [List.cons_append, List.cons_append, List.cons_lt_cons_iff, List.cons_lt_cons_iff,
        ih (Nat.succ.inj length), List.cons.injEq]
      tauto

theorem write_inj {count number other : Nat} (small : number < 32 ^ count)
    (small' : other < 32 ^ count) : write count number = write count other ↔ number = other := by
  constructor
  · intro same
    have read := congrArg read? same
    rwa [read?_write, read?_write, Nat.pow_eq, Nat.mod_eq_of_lt small, Nat.mod_eq_of_lt small',
      Option.some.injEq] at read
  · rintro rfl
    rfl

theorem write_lt_write_iff {count number other : Nat} (small : number < 32 ^ count)
    (small' : other < 32 ^ count) : write count number < write count other ↔ number < other := by
  induction count generalizing number other with
  | zero => exact iff_of_false (List.lt_irrefl []) (by omega)
  | succ count ih =>
    -- The last digits are the remainders, and the digits before them write the quotients.
    rw [Nat.pow_succ'] at small small'
    have upper : number / 32 < 32 ^ count := Nat.div_lt_of_lt_mul small
    have upper' : other / 32 < 32 ^ count := Nat.div_lt_of_lt_mul small'
    rw [write, write, concat_lt_concat_iff (by simp), ih upper upper', write_inj upper upper',
      digitChar_lt_iff, Fin.mk_lt_mk]
    omega

end Base32

namespace Id

variable {kind : IdKind}

theorem compare_eq_lt_iff (x y : Id kind) : compare x y = .lt ↔ x < y := Nat.compare_eq_lt

theorem bytes_text_lt_iff (x y : Id kind) : Text.bytes x.text < Text.bytes y.text ↔ x < y := by
  have small : ∀ id : Id kind, id.number < 32 ^ 26 := fun id =>
    Nat.lt_trans id.bounded (by decide)
  rw [Text.bytes_lt_iff, String.lt_iff_toList_lt, text, text, String.toList_ofList,
    String.toList_ofList]
  exact Base32.write_lt_write_iff (small x) (small y)

theorem bytes_display_lt_iff (x y : Id kind) :
    Text.bytes x.display < Text.bytes y.display ↔ x < y := by
  rw [display, display, Text.bytes_append (kind.tag ++ "_"), Text.bytes_append (kind.tag ++ "_"),
    Text.append_lt_append_left_iff, bytes_text_lt_iff]

end Id

namespace IdSet

variable {kind : IdKind}

theorem ascending_displays (set : IdSet kind) :
    (set.toList.map Id.display).Pairwise fun first second => Text.bytes first < Text.bytes second := by
  rw [List.pairwise_map]
  refine Std.ExtTreeSet.ordered_toList.imp fun {first second} before => ?_
  rwa [Id.bytes_display_lt_iff, ← Id.compare_eq_lt_iff]

theorem mem_insert_iff (set : IdSet kind) (id other : Id kind) :
    other ∈ set.insert id ↔ other = id ∨ other ∈ set := by
  rw [Std.ExtTreeSet.mem_insert, Std.LawfulEqOrd.compare_eq_iff_eq, eq_comm]

theorem mem_insertEach_iff (set : IdSet kind) (ids : List (Id kind)) (id : Id kind) :
    id ∈ (set.insertEach ids).2 ↔ id ∈ set ∨ id ∈ ids := by
  induction ids generalizing set with
  | nil => simp [insertEach]
  | cons first rest ih =>
    simp only [insertEach, ih, mem_insert_iff, List.mem_cons]
    tauto

theorem length_insertEach (set : IdSet kind) (ids : List (Id kind)) :
    (set.insertEach ids).1.length = ids.length := by
  induction ids generalizing set with
  | nil => rfl
  | cons first rest ih => simp [insertEach, ih]

theorem exists_new_iff (set : IdSet kind) {ids : List (Id kind)} {place : Nat} {id : Id kind}
    (found : ids[place]? = some id) :
    ∃ new, (set.insertEach ids).1[place]? = some new ∧
      (new = true ↔ id ∉ set ∧ id ∉ ids.take place) := by
  induction ids generalizing set place with
  | nil => cases found
  | cons first rest ih =>
    cases place with
    | zero =>
      obtain rfl := Option.some.inj found
      refine ⟨!set.contains first, rfl, ?_⟩
      simp [← Std.ExtTreeSet.contains_iff_mem]
    | succ place =>
      obtain ⟨new, told, new_iff⟩ := ih (set.insert first) found
      refine ⟨new, told, new_iff.trans ?_⟩
      rw [mem_insert_iff, List.take_succ_cons, List.mem_cons]
      tauto

end IdSet

namespace Id

/-- Identifiers of a kind are in the order of their texts, in the display form and in the bare one.
A set of those that some texts mean, inserted one after the other, has just these and lists them in
ascending order; an insertion is told to be new when no text before it means the same identifier. -/
theorem ordered_as_texts (kind : IdKind) :
    (∀ x y : Id kind,
      (compare x y = .lt ↔ x < y) ∧
      (x < y ↔ Text.bytes x.display < Text.bytes y.display) ∧
      (x < y ↔ Text.bytes x.text < Text.bytes y.text)) ∧
    ∀ texts : List String, (∀ text ∈ texts, ∃ id : Id kind, ofText text = .ok id) →
      ∃ (ids : List (Id kind)) (told : List Bool) (set : IdSet kind),
        texts.mapM ofText = .ok ids ∧ (∅ : IdSet kind).insertEach ids = (told, set) ∧
        ((set.toList.map display).Pairwise fun first second =>
          Text.bytes first < Text.bytes second) ∧
        (∀ id, id ∈ set.toList ↔ ∃ text ∈ texts, ofText text = .ok id) ∧
        told.length = texts.length ∧
        ∀ place text, texts[place]? = some text →
          ∃ (id : Id kind) (new : Bool), ofText text = .ok id ∧ told[place]? = some new ∧
            (new = true ↔ ∀ earlier ∈ texts.take place, ofText earlier ≠ .ok id) := by
  refine ⟨fun x y => ⟨compare_eq_lt_iff x y, (bytes_display_lt_iff x y).symm,
    (bytes_text_lt_iff x y).symm⟩, fun texts accepted => ?_⟩
  obtain ⟨ids, reads⟩ := Pairs.exists_related_iff.mpr accepted
  refine ⟨ids, _, _, Results.mapM_eq_ok reads, rfl, IdSet.ascending_displays _, fun id => ?_, ?_,
    fun place text found => ?_⟩
  · rw [Std.ExtTreeSet.mem_toList, IdSet.mem_insertEach_iff, Results.mem_iff_of_reads reads]
    exact or_iff_right Std.ExtTreeSet.not_mem_empty
  · rw [IdSet.length_insertEach, reads.length_eq]
  · rcases Pairs.place_cases reads place with ⟨missing, -⟩ | ⟨_, id, here, there, read⟩
    · rw [missing] at found
      cases found
    · obtain rfl := Option.some.inj (here.symm.trans found)
      obtain ⟨new, told, new_iff⟩ := IdSet.exists_new_iff ∅ there
      refine ⟨id, new, read, told, new_iff.trans ?_⟩
      rw [Results.mem_iff_of_reads (List.forall₂_take place reads),
        and_iff_right Std.ExtTreeSet.not_mem_empty]
      push Not
      rfl

/-- The second of three texts differs from the first in its tag, in case and in the highest bit, and
is not new; the third means a smaller identifier. -/
theorem ordered_as_texts_respelled :
    let texts := ["ses_8000000000000000000000000A", "0000000000000000000000000a",
      "ses_00000000000000000000000009"]
    (∀ text ∈ texts, ∃ id : SessionId, ofText text = .ok id) ∧
    ∃ (ids : List SessionId) (told : List Bool) (set : IdSet .session),
      texts.mapM ofText = .ok ids ∧ (∅ : IdSet .session).insertEach ids = (told, set) ∧
      ((set.toList.map display).Pairwise fun first second => Text.bytes first < Text.bytes second) ∧
      ofNat 9 ∈ set.toList ∧ ofNat 10 ∈ set.toList ∧
      told.length = 3 ∧ told[1]? = some false ∧ told[2]? = some true := by
  intro texts
  have first : ofText texts[0] = .ok (ofNat 10 : SessionId) := by decide +kernel
  have second : ofText texts[1] = .ok (ofNat 10 : SessionId) := by decide +kernel
  have third : ofText texts[2] = .ok (ofNat 9 : SessionId) := by decide +kernel
  have accepted : ∀ text ∈ texts, ∃ id : SessionId, ofText text = .ok id :=
    List.forall_mem_cons.mpr ⟨⟨_, first⟩, List.forall_mem_cons.mpr ⟨⟨_, second⟩,
      List.forall_mem_cons.mpr ⟨⟨_, third⟩, List.forall_mem_nil _⟩⟩⟩
  obtain ⟨ids, told, set, read, inserted, ascending, members, length, places⟩ :=
    (ordered_as_texts .session).2 texts accepted
  refine ⟨accepted, ids, told, set, read, inserted, ascending, (members _).mpr ⟨_, ?_, third⟩,
    (members _).mpr ⟨_, ?_, first⟩, length, ?_, ?_⟩
  · decide
  · decide
  · obtain ⟨id, new, same, here, new_iff⟩ := places 1 texts[1] rfl
    obtain rfl := Except.ok.inj (same.symm.trans second)
    rw [here, Option.some.injEq, Bool.eq_false_iff]
    exact fun unknown => new_iff.mp unknown texts[0] (by decide) first
  · obtain ⟨id, new, same, here, new_iff⟩ := places 2 texts[2] rfl
    obtain rfl := Except.ok.inj (same.symm.trans third)
    rw [here, Option.some.injEq, new_iff]
    decide +kernel

end Id

end Authorization
