import Std.Data.ExtTreeMap
import Mathlib.Data.List.Forall2
import Mathlib.Data.List.Nodup
import Mathlib.Tactic.Common

/-! Lists under computations that may fail, under relations place by place, and as entries of
maps. -/

set_option autoImplicit false

namespace Authorization

/-! ## Results -/

namespace Results

variable {ε α β : Type}

theorem bind_eq_ok_iff (first : Except ε α) (next : α → Except ε β) (result : β) :
    first >>= next = .ok result ↔ ∃ value, first = .ok value ∧ next value = .ok result := by
  cases first with
  | error fault =>
    constructor
    · rintro ⟨⟩
    · rintro ⟨_, ⟨⟩, _⟩
  | ok value =>
    constructor
    · intro same
      exact ⟨value, rfl, same⟩
    · rintro ⟨_, ⟨rfl⟩, same⟩
      exact same

theorem forM_eq_ok_iff (check : α → Except ε Unit) (values : List α) :
    values.forM check = .ok () ↔ ∀ value ∈ values, check value = .ok () := by
  induction values with
  | nil => simp [pure, Except.pure]
  | cons first rest ih =>
    rw [List.forM_eq_forM] at ih ⊢
    rw [List.forM_cons, bind_eq_ok_iff, List.forall_mem_cons, ← ih]
    constructor
    · rintro ⟨⟨⟩, here, later⟩
      exact ⟨here, later⟩
    · rintro ⟨here, later⟩
      exact ⟨(), here, later⟩

theorem mapM_eq_ok {read : β → Except ε α} {documents : List β} {values : List α}
    (reads : List.Forall₂ (fun document value => read document = .ok value) documents values) :
    documents.mapM read = .ok values := by
  induction reads with
  | nil => rfl
  | cons here _ later =>
    rw [List.mapM_cons, here, later]
    rfl

theorem mem_iff_of_reads {read : β → Except ε α} {documents : List β} {values : List α}
    (reads : List.Forall₂ (fun document value => read document = .ok value) documents values)
    (value : α) : value ∈ values ↔ ∃ document ∈ documents, read document = .ok value := by
  induction reads with
  | nil => simp
  | cons here _ ih =>
    rw [List.mem_cons, List.exists_mem_cons_iff, here, Except.ok.injEq, ih, eq_comm]

theorem mapM_map_eq_ok {read : β → Except ε α} {write : α → β} {values : List α}
    (reads : ∀ value ∈ values, read (write value) = .ok value) :
    (values.map write).mapM read = .ok values :=
  mapM_eq_ok (List.forall₂_map_left_iff.mpr (List.forall₂_same.mpr reads))

end Results

/-! ## Pairs -/

namespace Pairs

variable {α β : Type} {related : α → β → Prop} {first : List α} {second : List β}

theorem exists_related_iff :
    (∃ others, List.Forall₂ related first others) ↔ ∀ value ∈ first, ∃ other, related value other := by
  induction first with
  | nil => exact iff_of_true ⟨[], .nil⟩ fun _ member => nomatch member
  | cons value rest ih =>
    rw [List.forall_mem_cons, ← ih]
    constructor
    · rintro ⟨_, all⟩
      cases all with
      | cons head tail => exact ⟨⟨_, head⟩, _, tail⟩
    · rintro ⟨⟨other, head⟩, others, tail⟩
      exact ⟨other :: others, .cons head tail⟩

theorem place_cases (all : List.Forall₂ related first second) (place : Nat) :
    (first[place]? = none ∧ second[place]? = none) ∨
      ∃ value other, first[place]? = some value ∧ second[place]? = some other ∧
        related value other := by
  have lengths := all.length_eq
  cases found : first[place]? with
  | none =>
    rw [List.getElem?_eq_none_iff, lengths] at found
    exact .inl ⟨rfl, List.getElem?_eq_none found⟩
  | some value =>
    obtain ⟨inside, same⟩ := List.getElem?_eq_some_iff.mp found
    have inside' : place < second.length := lengths ▸ inside
    refine .inr ⟨value, second[place], rfl, List.getElem?_eq_getElem inside', ?_⟩
    rw [← same]
    exact all.get inside inside'

theorem modify (all : List.Forall₂ related first second) {change : α → α} {change' : β → β}
    (place : Nat) (kept : ∀ value other, first[place]? = some value → second[place]? = some other →
      related value other → related (change value) (change' other)) :
    List.Forall₂ related (first.modify place change) (second.modify place change') := by
  induction all generalizing place with
  | nil =>
    rw [List.modify_nil, List.modify_nil]
    exact .nil
  | cons head tail ih =>
    cases place with
    | zero => exact .cons (kept _ _ rfl rfl head) tail
    | succ place =>
      rw [List.modify_succ_cons, List.modify_succ_cons]
      exact .cons head (ih place kept)

end Pairs

/-! ## Entries

Looking up in a list of entries with different names does not depend on its order, and agrees with
the map that it lists. -/

namespace Entries

variable {α β : Type}

theorem lookup_eq_some_iff_mem {entries : List (String × α)}
    (distinct : (entries.map Prod.fst).Nodup) (name : String) (value : α) :
    entries.lookup name = some value ↔ (name, value) ∈ entries := by
  induction entries with
  | nil => simp
  | cons first rest ih =>
    obtain ⟨other, held⟩ := first
    obtain ⟨fresh, later⟩ := List.nodup_cons.mp distinct
    rw [List.lookup_cons, List.mem_cons, ← ih later]
    by_cases same : name = other
    -- The name of the head cannot come again, so that the rest has nothing to say about it.
    · subst same
      have absent : rest.lookup name ≠ some value := by
        rw [ne_eq, ih later]
        exact fun member => fresh (List.mem_map.mpr ⟨(name, value), member, rfl⟩)
      simp [absent, eq_comm]
    · have apart : (name == other) = false := by simpa using same
      simp [apart, same]

theorem lookup_eq_none_iff_not_mem (entries : List (String × α)) (name : String) :
    entries.lookup name = none ↔ name ∉ entries.map Prod.fst := by
  rw [List.lookup_eq_none_iff, List.mem_map]
  constructor
  · rintro absent ⟨entry, member, rfl⟩
    simpa using absent entry member
  · intro absent entry member
    have apart : entry.1 ≠ name := fun same => absent ⟨entry, member, same⟩
    simpa using Ne.symm apart

theorem lookup_perm {first second : List (String × α)} (same : first.Perm second)
    (distinct : (first.map Prod.fst).Nodup) (name : String) :
    first.lookup name = second.lookup name := by
  have distinct' : (second.map Prod.fst).Nodup := (same.map Prod.fst).nodup_iff.mp distinct
  apply Option.ext
  intro value
  rw [lookup_eq_some_iff_mem distinct, lookup_eq_some_iff_mem distinct', same.mem_iff]

theorem lookup_map_snd (f : α → β) (entries : List (String × α)) (name : String) :
    (entries.map fun (other, value) => (other, f value)).lookup name =
      (entries.lookup name).map f := by
  induction entries with
  | nil => rfl
  | cons first rest ih =>
    rw [List.map_cons, List.lookup_cons, List.lookup_cons, ih]
    cases name == first.1 <;> rfl

theorem distinct_toList (map : Std.ExtTreeMap String α) : (map.toList.map Prod.fst).Nodup := by
  rw [List.nodup_iff_pairwise_ne, List.pairwise_map]
  apply map.distinct_keys_toList.imp
  intro first second apart same
  rw [same] at apart
  exact apart Std.ReflOrd.compare_self

theorem lookup_toList (map : Std.ExtTreeMap String α) (name : String) :
    map.toList.lookup name = map[name]? := by
  apply Option.ext
  intro value
  rw [lookup_eq_some_iff_mem (distinct_toList map), Std.ExtTreeMap.mem_toList_iff_getElem?_eq_some]

theorem getElem?_ofList {entries : List (String × α)} (distinct : (entries.map Prod.fst).Nodup)
    (name : String) : (Std.ExtTreeMap.ofList entries)[name]? = entries.lookup name := by
  cases found : entries.lookup name with
  | none =>
    apply Std.ExtTreeMap.getElem?_ofList_of_contains_eq_false
    rw [lookup_eq_none_iff_not_mem] at found
    simpa using found
  | some value =>
    rw [lookup_eq_some_iff_mem distinct] at found
    refine Std.ExtTreeMap.getElem?_ofList_of_mem Std.ReflOrd.compare_self ?_ found
    rw [List.nodup_iff_pairwise_ne, List.pairwise_map] at distinct
    exact distinct.imp fun apart same => apart (Std.LawfulEqOrd.eq_of_compare same)

theorem ofList_of_perm {entries : List (String × α)} {map : Std.ExtTreeMap String α}
    (same : entries.Perm map.toList) : Std.ExtTreeMap.ofList entries = map := by
  have distinct := (same.map Prod.fst).nodup_iff.mpr (distinct_toList map)
  apply Std.ExtTreeMap.ext_getElem?
  intro name
  rw [getElem?_ofList distinct, lookup_perm same distinct, lookup_toList]

end Entries

end Authorization
