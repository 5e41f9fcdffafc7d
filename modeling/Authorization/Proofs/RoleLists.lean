import Mathlib.Data.List.TakeWhile
import Mathlib.Tactic.Common
import Authorization.Role

/-! What a list of role names says. A name is listed when it stands, with blanks around it or
without, in one of the parts between the commas, and the first of three lists that has it gives it
its category. -/

set_option autoImplicit false

namespace Authorization

namespace Text

/-- The core of a text: what is left without the blanks at its two ends. -/
structure IsCore (core chars : List Char) : Prop where
  inside : ∃ left right, chars = left ++ core ++ right ∧
    (∀ c ∈ left, isBlankChar c = true) ∧ ∀ c ∈ right, isBlankChar c = true
  first : ∀ c ∈ core.head?, isBlankChar c = false
  last : ∀ c ∈ core.getLast?, isBlankChar c = false

theorem trimStart_of_head {chars : List Char} (first : ∀ c ∈ chars.head?, isBlankChar c = false) :
    trimStart chars = chars := by
  cases chars with
  | nil => rfl
  | cons c rest => simp [trimStart, first c rfl]

theorem head?_trimStart (chars : List Char) :
    ∀ c ∈ (trimStart chars).head?, isBlankChar c = false := by
  intro c member
  cases kept : trimStart chars with
  | nil => simp [kept] at member
  | cons first rest =>
    rw [kept, List.head?_cons, Option.mem_some_iff] at member
    exact member ▸ trimStart_head chars rest first kept

theorem exists_eq_append_trimStart (chars : List Char) :
    ∃ left, chars = left ++ trimStart chars ∧ ∀ c ∈ left, isBlankChar c = true :=
  ⟨chars.takeWhile isBlankChar, List.takeWhile_append_dropWhile.symm,
    fun _ => List.mem_takeWhile_imp⟩

theorem isCore_trimChars (chars : List Char) : IsCore (trimChars chars) chars := by
  obtain ⟨left, split, blank⟩ := exists_eq_append_trimStart chars
  obtain ⟨right, split', blank'⟩ := exists_eq_append_trimStart (trimStart chars).reverse
  have rest : trimStart chars = trimChars chars ++ right.reverse := by
    rw [trimChars, ← List.reverse_append, ← split', List.reverse_reverse]
  refine ⟨⟨left, right.reverse, ?_, blank, ?_⟩, ?_, ?_⟩
  · rw [List.append_assoc, ← rest]
    exact split
  · exact fun c member => blank' c (List.mem_reverse.mp member)
  · intro c member
    refine head?_trimStart chars c ?_
    rw [rest, List.head?_append, Option.mem_def.mp member]
    rfl
  · intro c member
    rw [trimChars, List.getLast?_reverse] at member
    exact head?_trimStart _ c member

theorem trimChars_eq_iff (chars core : List Char) : trimChars chars = core ↔ IsCore core chars := by
  constructor
  · rintro rfl
    exact isCore_trimChars chars
  · rintro ⟨⟨left, right, rfl, blank, blank'⟩, first, last⟩
    cases core with
    -- Blanks alone have no first character at which the trimming could stop.
    | nil =>
      rw [trimChars_eq_nil_iff, List.append_nil, List.all_append, Bool.and_eq_true]
      exact ⟨List.all_eq_true.mpr blank, List.all_eq_true.mpr blank'⟩
    | cons c rest =>
      have start : trimStart (left ++ (c :: rest) ++ right) = c :: rest ++ right := by
        rw [List.append_assoc, trimStart, List.dropWhile_append_of_pos blank]
        exact trimStart_of_head first
      have finish : trimStart (c :: rest ++ right).reverse = (c :: rest).reverse := by
        rw [List.reverse_append, trimStart,
          List.dropWhile_append_of_pos fun c member => blank' c (List.mem_reverse.mp member)]
        refine trimStart_of_head fun c member => last c ?_
        rwa [List.head?_reverse] at member
      rw [trimChars, start, finish, List.reverse_reverse]

theorem splitAt_eq_splitOn (mark : Char) (chars : List Char) :
    splitAt mark chars = chars.splitOn mark := by
  rw [List.splitOn]
  induction chars with
  | nil => rfl
  | cons c rest ih =>
    rw [splitAt, List.splitOnP_cons_eq_if_modifyHead, ← ih]
    by_cases same : c = mark
    · simp [same]
    · simp only [same, if_false, beq_iff_eq]
      cases split : splitAt mark rest with
      | nil => exact absurd split (splitAt_ne_nil mark rest)
      | cons first others => rfl

/-- A list has a name when the name is not empty and is the core of a part between commas. -/
def Lists (list name : String) : Prop :=
  name ≠ "" ∧ ∃ part ∈ list.toList.splitOn ',', IsCore name.toList part

theorem mem_listEntries_iff (list name : String) : name ∈ listEntries list ↔ Lists list name := by
  simp only [listEntries, splitAt_eq_splitOn, List.mem_map, List.mem_filter, decide_eq_true_eq,
    Lists, ← trimChars_eq_iff]
  constructor
  · rintro ⟨core, ⟨⟨part, between, rfl⟩, full⟩, rfl⟩
    refine ⟨fun empty => full ?_, part, between, String.toList_ofList.symm⟩
    simpa using congrArg String.toList empty
  · rintro ⟨full, part, between, core⟩
    refine ⟨name.toList, ⟨⟨part, between, core⟩, fun empty => full ?_⟩, String.ofList_toList⟩
    exact String.toList_injective empty

theorem lists_self_iff {list : String} (plain : ',' ∉ list.toList)
    (core : IsCore list.toList list.toList) (name : String) :
    Lists list name ↔ name ≠ "" ∧ name = list := by
  rw [Lists, ← splitAt_eq_splitOn, splitAt_plain ',' list.toList plain]
  simp only [List.mem_singleton, exists_eq_left, ← trimChars_eq_iff] at core ⊢
  rw [core, eq_comm (a := name), String.toList_inj]

end Text

namespace RoleMapping

variable (mapping : RoleMapping) (name : String)

theorem categoryOf_eq_super_iff :
    mapping.categoryOf name = .super ↔ Text.Lists mapping.superRoles name := by
  rw [categoryOf, ← Text.mem_listEntries_iff]
  split_ifs <;> simp [*]

theorem categoryOf_eq_readOnly_iff :
    mapping.categoryOf name = .readOnly ↔
      Text.Lists mapping.readOnlyRoles name ∧ ¬ Text.Lists mapping.superRoles name := by
  rw [categoryOf, ← Text.mem_listEntries_iff, ← Text.mem_listEntries_iff]
  split_ifs <;> simp [*]

theorem categoryOf_eq_denying_iff :
    mapping.categoryOf name = .denying ↔
      Text.Lists mapping.denyingRoles name ∧ ¬ Text.Lists mapping.readOnlyRoles name ∧
        ¬ Text.Lists mapping.superRoles name := by
  simp only [categoryOf, ← Text.mem_listEntries_iff]
  split_ifs <;> simp [*]

/-- Two mappings give a name one category when each list agrees on it, as far as it is consulted. -/
theorem categoryOf_eq_iff (other : RoleMapping) :
    other.categoryOf name = mapping.categoryOf name ↔
      (Text.Lists other.superRoles name ↔ Text.Lists mapping.superRoles name) ∧
      (¬ Text.Lists mapping.superRoles name →
        (Text.Lists other.readOnlyRoles name ↔ Text.Lists mapping.readOnlyRoles name)) ∧
      (¬ (Text.Lists mapping.superRoles name ∨ Text.Lists mapping.readOnlyRoles name) →
        (Text.Lists other.denyingRoles name ↔ Text.Lists mapping.denyingRoles name)) := by
  simp only [categoryOf, ← Text.mem_listEntries_iff]
  split_ifs <;> simp [*]

end RoleMapping

end Authorization
