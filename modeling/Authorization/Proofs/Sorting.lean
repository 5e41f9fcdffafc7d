import Mathlib.Data.List.Perm.Basic
import Mathlib.Data.String.Basic
import Mathlib.Tactic.SplitIfs

/-! Stable sorting by a text. A sorted list is known by what it has under each text, and in which
order it has that; stable sorting keeps all of this. -/

set_option autoImplicit false

namespace Authorization

/-! ## Byte order

Texts are compared character by character, and this is also the order of their bytes: the code of a
character is greater than those of all characters before it. -/

namespace Text

def bytes (text : String) : List UInt8 := text.toByteArray.data.toList

theorem bytes_eq (text : String) : bytes text = text.toList.flatMap String.utf8EncodeChar := by
  have written : text.toByteArray = (text.toList.flatMap String.utf8EncodeChar).toByteArray := by
    conv_lhs => rw [← String.ofList_toList (s := text)]
    rfl
  rw [bytes, written, List.data_toByteArray]

theorem bytes_append (first second : String) : bytes (first ++ second) = bytes first ++ bytes second := by
  rw [bytes_eq, bytes_eq, bytes_eq, String.toList_append, List.flatMap_append]

theorem val_lt (c : Char) : c.val.toNat < 1114112 := by
  have valid := c.valid
  simp only [UInt32.isValidChar, Nat.isValidChar] at valid
  omega

theorem toNat_ofNat_of_lt {value : Nat} (small : value < 256) :
    (UInt8.ofNat value).toNat = value := by
  rw [UInt8.toNat_ofNat', Nat.mod_eq_of_lt small]

/-- The codes of two characters differ in a byte, and the first such byte decides whatever follows
the codes. -/
theorem utf8EncodeChar_append_lt {first second : Char} (less : first < second)
    (rest others : List UInt8) :
    String.utf8EncodeChar first ++ rest < String.utf8EncodeChar second ++ others := by
  have values : first.val.toNat < second.val.toNat := less
  have bound := val_lt second
  -- A code is the number in base 64, behind marks that grow with the length of the code.
  have twice : ∀ value : Nat, value / 4096 = value / 64 / 64 := by omega
  have thrice : ∀ value : Nat, value / 262144 = value / 64 / 64 / 64 := by omega
  simp only [String.utf8EncodeChar, twice, thrice]
  split_ifs <;>
    simp (disch := omega) only [List.cons_append, List.nil_append, List.cons_lt_cons_iff,
      UInt8.lt_iff_toNat_lt, ← UInt8.toNat_inj, toNat_ofNat_of_lt] <;>
    omega

theorem append_lt_append_left_iff (shared rest others : List UInt8) :
    shared ++ rest < shared ++ others ↔ rest < others := by
  induction shared with
  | nil => rfl
  | cons first shared ih =>
    rw [List.cons_append, List.cons_append, List.cons_lt_cons_self, ih]

theorem flatMap_utf8EncodeChar_lt {chars others : List Char} (less : chars < others) :
    chars.flatMap String.utf8EncodeChar < others.flatMap String.utf8EncodeChar := by
  induction chars generalizing others with
  | nil =>
    cases others with
    | nil => exact absurd less (List.lt_irrefl [])
    | cons second others =>
      cases code : String.utf8EncodeChar second with
      | nil => exact absurd code String.utf8EncodeChar_ne_nil
      | cons byte bytes =>
        rw [List.flatMap_cons, code]
        exact List.nil_lt_cons byte _
  | cons first rest ih =>
    cases others with
    | nil => exact absurd less (List.not_lt_nil _)
    | cons second others =>
      rw [List.flatMap_cons, List.flatMap_cons]
      rcases List.cons_lt_cons_iff.mp less with before | ⟨rfl, later⟩
      · exact utf8EncodeChar_append_lt before _ _
      · exact List.append_left_lt (ih later)

theorem bytes_lt_of_lt {first second : String} (less : first < second) :
    bytes first < bytes second := by
  rw [bytes_eq, bytes_eq]
  exact flatMap_utf8EncodeChar_lt (String.lt_iff_toList_lt.mp less)

theorem bytes_lt_iff (first second : String) : bytes first < bytes second ↔ first < second := by
  refine ⟨fun less => ?_, bytes_lt_of_lt⟩
  rcases lt_trichotomy first second with before | rfl | after
  · exact before
  · exact absurd less (List.lt_irrefl _)
  · exact absurd (bytes_lt_of_lt after) (List.lt_asymm less)

theorem bytes_le_iff (first second : String) : bytes first ≤ bytes second ↔ first ≤ second := by
  rw [← List.not_lt, bytes_lt_iff, String.not_lt]

theorem lt_of_compare_eq_lt {first second : String} (order : compare first second = .lt) :
    first < second := compareOfLessAndEq_eq_lt.mp order

end Text

/-! ## Sorting -/

namespace Sorting

variable {α : Type}

/-- Sorts by the bytes of a text. Values with the same text keep their order. -/
def byBytes (text : α → String) (values : List α) : List α :=
  values.mergeSort fun first second => decide (Text.bytes (text first) ≤ Text.bytes (text second))

def Sorted (text : α → String) (values : List α) : Prop :=
  values.Pairwise fun first second => text first ≤ text second

def under (text : α → String) (wanted : String) (values : List α) : List α :=
  values.filter fun value => text value = wanted

variable {text : α → String} {values others : List α}

theorem mem_under {wanted : String} {value : α} :
    value ∈ under text wanted values ↔ value ∈ values ∧ text value = wanted := by
  rw [under, List.mem_filter, decide_eq_true_eq]

theorem under_cons (text : α → String) (wanted : String) (first : α) (rest : List α) :
    under text wanted (first :: rest) =
      if text first = wanted then first :: under text wanted rest else under text wanted rest := by
  simp only [under, List.filter_cons, decide_eq_true_eq]

def le (text : α → String) (first second : α) : Bool := decide (text first ≤ text second)

theorem le_trans (text : α → String) (first second third : α) (before : le text first second = true)
    (after : le text second third = true) : le text first third = true := by
  rw [le, decide_eq_true_eq] at before after ⊢
  exact String.le_trans before after

theorem le_total (text : α → String) (first second : α) :
    (le text first second || le text second first) = true := by
  rw [le, le, Bool.or_eq_true, decide_eq_true_eq, decide_eq_true_eq]
  exact String.le_total (text first) (text second)

theorem byBytes_eq (text : α → String) (values : List α) :
    byBytes text values = values.mergeSort (le text) := by
  simp only [byBytes, Text.bytes_le_iff]
  rfl

theorem sorted_byBytes (text : α → String) (values : List α) :
    Sorted text (byBytes text values) := by
  rw [byBytes_eq]
  exact (List.pairwise_mergeSort (le_trans text) (le_total text) values).imp of_decide_eq_true

theorem byBytes_perm (text : α → String) (values : List α) : (byBytes text values).Perm values :=
  List.mergeSort_perm ..

theorem byBytes_of_sorted (sorted : Sorted text values) : byBytes text values = values := by
  rw [byBytes_eq]
  exact List.mergeSort_of_pairwise (sorted.imp decide_eq_true)

/-- Stability: what has one text is the same list before and after. -/
theorem under_byBytes (text : α → String) (wanted : String) (values : List α) :
    under text wanted (byBytes text values) = under text wanted values := by
  have level : (under text wanted values).Pairwise fun first second =>
      le text first second = true := by
    refine List.pairwise_of_forall_mem_list fun first here second there => ?_
    rw [le, (mem_under.mp here).2, (mem_under.mp there).2]
    exact decide_eq_true (String.le_refl wanted)
  have kept : (under text wanted values).Sublist (byBytes text values) := by
    rw [byBytes_eq]
    exact List.sublist_mergeSort (le_trans text) (le_total text) level List.filter_sublist
  -- The same values in the same numbers: a sublist of full length is the whole list.
  have inside := kept.filter fun value => decide (text value = wanted)
  rw [under, List.filter_filter] at inside
  simp only [Bool.and_self] at inside
  have sizes := ((byBytes_perm text values).filter fun value => decide (text value = wanted)).length_eq
  exact (inside.eq_of_length sizes.symm).symm

namespace Sorted

theorem head_le {first value : α} {rest : List α} (sorted : Sorted text (first :: rest))
    (member : value ∈ first :: rest) : text first ≤ text value := by
  rcases List.mem_cons.mp member with rfl | later
  · exact String.le_refl _
  · exact (List.pairwise_cons.mp sorted).1 value later

/-- Two sorted lists with the same values under each text are the same list. -/
theorem ext (sorted : Sorted text values) (sorted' : Sorted text others)
    (same : ∀ wanted, under text wanted values = under text wanted others) : values = others := by
  have members : ∀ value, value ∈ values ↔ value ∈ others := fun value => by
    have here := congrArg (value ∈ ·) (same (text value))
    simpa only [mem_under, and_true, eq_iff_iff] using here
  induction values generalizing others with
  | nil => exact (List.eq_nil_iff_forall_not_mem.mpr fun value member =>
      List.not_mem_nil ((members value).mpr member)).symm
  | cons first rest ih =>
    cases others with
    | nil => exact absurd ((members first).mp List.mem_cons_self) List.not_mem_nil
    | cons second others =>
      -- Each head is among the values of the other list, which its own head does not exceed.
      have heads : text first = text second := String.le_antisymm
        (sorted.head_le ((members second).mpr List.mem_cons_self))
        (sorted'.head_le ((members first).mp List.mem_cons_self))
      have here := same (text first)
      rw [under_cons, under_cons, if_pos rfl, if_pos heads.symm, List.cons.injEq] at here
      obtain ⟨rfl, -⟩ := here
      have tails : ∀ wanted, under text wanted rest = under text wanted others := by
        intro wanted
        have both := same wanted
        rw [under_cons, under_cons] at both
        split at both
        · exact (List.cons.inj both).2
        · exact both
      refine congrArg (first :: ·) (ih (List.pairwise_cons.mp sorted).2
        (List.pairwise_cons.mp sorted').2 tails fun value => ?_)
      have there := congrArg (value ∈ ·) (tails (text value))
      simpa only [mem_under, and_true, eq_iff_iff] using there

end Sorted

end Sorting

end Authorization
