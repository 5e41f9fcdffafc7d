import Authorization.Constraint.Index
import Authorization.Proofs.Entries

/-! Well-formed constraint indexes. Every operation keeps an index well formed, and a well-formed
index is known by its lists alone, so that loading its snapshot gives it back. -/

set_option autoImplicit false

namespace Authorization.ConstraintIndex

/-- What may stand under an entity: constraints that name it, and at least one of them. -/
structure Filed (entity : String) (list : List Constraint) : Prop where
  nonempty : list ≠ []
  named : ∀ constraint ∈ list, constraint.entityName = entity
  bound : ∀ constraint ∈ list, constraint.isBound = true

def WellFormed (index : ConstraintIndex) : Prop :=
  ∀ (entity : String) (list : List Constraint), index.lists[entity]? = some list → Filed entity list

theorem Filed.append {list : List Constraint} {constraint : Constraint}
    (filed : list ≠ [] → Filed constraint.entityName list) (bound : constraint.isBound = true) :
    Filed constraint.entityName (list ++ [constraint]) := by
  by_cases empty : list = []
  · subst empty
    exact ⟨by simp, by simp, by simpa using bound⟩
  · have old := filed empty
    refine ⟨by simp, ?_, ?_⟩ <;> intro other member <;> rcases List.mem_append.mp member with
      before | new
    · exact old.named other before
    · rw [List.mem_singleton.mp new]
    · exact old.bound other before
    · rw [List.mem_singleton.mp new, bound]

theorem Filed.filter {entity : String} {list : List Constraint} (filed : Filed entity list)
    {keeps : Constraint → Bool} (some : list.filter keeps ≠ []) : Filed entity (list.filter keeps) :=
  ⟨some, fun other member => filed.named other (List.mem_filter.mp member).1,
    fun other member => filed.bound other (List.mem_filter.mp member).1⟩

theorem wellFormed_empty : empty.WellFormed := by
  intro entity list found
  simp [empty] at found

theorem list_empty (entity : String) : empty.list entity = [] := by
  simp [list, empty]

theorem list_of_getElem? {index : ConstraintIndex} {entity : String} {list : List Constraint}
    (found : index.lists[entity]? = some list) : index.list entity = list := by
  rw [ConstraintIndex.list, found, Option.getD_some]

theorem getElem?_append (index : ConstraintIndex) (constraint : Constraint) (entity : String) :
    (index.append constraint).lists[entity]? =
      if constraint.entityName = entity then some (index.list entity ++ [constraint])
      else index.lists[entity]? := by
  simp only [append, Std.ExtTreeMap.getElem?_insert, Std.LawfulEqCmp.compare_eq_iff_eq]
  split
  · rename_i same
    rw [same]
  · rfl

theorem getElem?_remove (index : ConstraintIndex) (entity other : String) (id : ConstraintId) :
    (index.remove entity id).lists[other]? =
      if entity = other then
        (some ((index.list other).filter (·.id ≠ id))).filter fun kept => !kept.isEmpty
      else index.lists[other]? := by
  unfold remove
  split
  · rename_i none
    simp only [Std.ExtTreeMap.getElem?_erase, Std.LawfulEqCmp.compare_eq_iff_eq]
    split
    · rename_i same
      rw [← same, none]
      rfl
    · rfl
  · rename_i kept some
    simp only [Std.ExtTreeMap.getElem?_insert, Std.LawfulEqCmp.compare_eq_iff_eq]
    split
    · rename_i same
      rw [← same]
      have full : (!((index.list entity).filter (·.id ≠ id)).isEmpty) = true := by
        simpa using some
      rw [Option.filter_some, if_pos full]
    · rfl

namespace WellFormed

variable {index : ConstraintIndex}

theorem filed (formed : index.WellFormed) {entity : String} (some : index.list entity ≠ []) :
    Filed entity (index.list entity) := by
  cases found : index.lists[entity]? with
  | none => exact absurd (by rw [list, found]; rfl) some
  | some list =>
    rw [list_of_getElem? found]
    exact formed entity list found

/-- The presence of a key adds nothing to the lists. -/
theorem getElem?_lists (formed : index.WellFormed) (entity : String) :
    index.lists[entity]? = if index.list entity = [] then none else some (index.list entity) := by
  cases found : index.lists[entity]? with
  | none => simp [list, found]
  | some list => rw [list_of_getElem? found, if_neg (formed entity list found).nonempty]

theorem ext {other : ConstraintIndex} (formed : index.WellFormed) (others : other.WellFormed)
    (same : ∀ entity, index.list entity = other.list entity) : index = other := by
  have lists : index.lists = other.lists := by
    apply Std.ExtTreeMap.ext_getElem?
    intro entity
    rw [formed.getElem?_lists, others.getElem?_lists, same]
  cases index
  cases other
  rw [mk.injEq]
  exact lists

theorem append (formed : index.WellFormed) {constraint : Constraint}
    (bound : constraint.isBound = true) : (index.append constraint).WellFormed := by
  intro entity list found
  rw [getElem?_append] at found
  split at found
  · rename_i same
    subst same
    cases found
    exact .append formed.filed bound
  · exact formed entity list found

theorem remove (formed : index.WellFormed) (entity : String) (id : ConstraintId) :
    (index.remove entity id).WellFormed := by
  intro other list found
  rw [getElem?_remove] at found
  split at found
  · obtain ⟨kept, full⟩ := Option.filter_eq_some_iff.mp found
    cases kept
    have some : (index.list other).filter (·.id ≠ id) ≠ [] := by simpa using full
    -- What is kept shows that there was something before, and that it was filed rightly.
    have some' : index.list other ≠ [] := fun empty => some (by rw [empty, List.filter_nil])
    exact (formed.filed some').filter some
  · exact formed other list found

end WellFormed

theorem add_eq (index : ConstraintIndex) (constraint : Constraint) :
    index.add constraint =
      if constraint.isBound then .ok (index.append constraint)
      else .error (.missingEntityName constraint.id) := by
  rw [add, Constraint.validate]
  split <;> rfl

theorem WellFormed.add {index grown : ConstraintIndex} {constraint : Constraint}
    (formed : index.WellFormed) (added : index.add constraint = .ok grown) : grown.WellFormed := by
  rw [add_eq] at added
  split at added
  · rename_i bound
    cases added
    exact formed.append bound
  · cases added

/-! ## Loading a list -/

theorem list_foldl_append (index : ConstraintIndex) (constraints : List Constraint)
    (entity : String) :
    (constraints.foldl append index).list entity =
      index.list entity ++ constraints.filter (·.entityName = entity) := by
  induction constraints generalizing index with
  | nil => simp
  | cons first rest ih =>
    rw [List.foldl_cons, ih, list_append, List.filter_cons]
    split
    · simp [*]
    · simp [*]

theorem WellFormed.foldl_append {index : ConstraintIndex} (formed : index.WellFormed)
    {constraints : List Constraint}
    (bound : ∀ constraint ∈ constraints, constraint.isBound = true) :
    (constraints.foldl ConstraintIndex.append index).WellFormed := by
  induction constraints generalizing index with
  | nil => exact formed
  | cons first rest ih =>
    obtain ⟨here, later⟩ := List.forall_mem_cons.mp bound
    exact ih (formed.append here) later

theorem foldlM_add_eq_ok_iff (index result : ConstraintIndex) (constraints : List Constraint) :
    constraints.foldlM add index = .ok result ↔
      (∀ constraint ∈ constraints, constraint.isBound = true) ∧
        result = constraints.foldl append index := by
  induction constraints generalizing index with
  | nil =>
    rw [List.foldlM_nil]
    exact ⟨fun same => ⟨by simp, (Except.ok.inj same).symm⟩, fun same => congrArg _ same.2.symm⟩
  | cons first rest ih =>
    rw [List.foldlM_cons, add_eq, List.forall_mem_cons]
    by_cases bound : first.isBound = true
    · rw [if_pos bound]
      exact (ih (index.append first)).trans (by rw [List.foldl_cons]; simp only [bound, true_and])
    · rw [if_neg bound]
      constructor
      · intro impossible
        cases impossible
      · intro all
        exact absurd all.1.1 bound

theorem WellFormed.ofSnapshot {constraints : List Constraint} {index : ConstraintIndex}
    (loaded : ofSnapshot constraints = .ok index) : index.WellFormed := by
  rw [ofSnapshot_eq_foldlM] at loaded
  obtain ⟨bound, rfl⟩ := (foldlM_add_eq_ok_iff empty index constraints).mp loaded
  exact wellFormed_empty.foldl_append bound

/-! ## Snapshots -/

theorem mem_snapshot (index : ConstraintIndex) (constraint : Constraint) :
    constraint ∈ index.snapshot ↔ ∃ (entity : String) (list : List Constraint),
      index.lists[entity]? = some list ∧ constraint ∈ list := by
  rw [snapshot, List.mem_flatMap]
  constructor
  · rintro ⟨⟨entity, list⟩, entry, member⟩
    exact ⟨entity, list, Std.ExtTreeMap.mem_toList_iff_getElem?_eq_some.mp entry, member⟩
  · rintro ⟨entity, list, found, member⟩
    exact ⟨(entity, list), Std.ExtTreeMap.mem_toList_iff_getElem?_eq_some.mpr found, member⟩

/-- In a list of entries whose names differ, each filed under its own name, the constraints of an
entity are those of its entry. -/
theorem filter_flatMap_entries {entries : List (String × List Constraint)}
    (distinct : (entries.map Prod.fst).Nodup)
    (named : ∀ entry ∈ entries, ∀ constraint ∈ entry.2, constraint.entityName = entry.1)
    (entity : String) :
    (entries.flatMap Prod.snd).filter (·.entityName = entity) =
      (entries.lookup entity).getD [] := by
  induction entries with
  | nil => rfl
  | cons first rest ih =>
    obtain ⟨name, list⟩ := first
    obtain ⟨fresh, distinct⟩ := List.nodup_cons.mp distinct
    obtain ⟨here, later⟩ := List.forall_mem_cons.mp named
    rw [List.flatMap_cons, List.filter_append, ih distinct later, List.lookup_cons]
    by_cases same : entity = name
    · subst same
      have all : list.filter (·.entityName = entity) = list :=
        List.filter_eq_self.mpr fun constraint member => by simpa using here constraint member
      have none := (Entries.lookup_eq_none_iff_not_mem rest entity).mpr fresh
      simp [all, none]
    -- Nothing filed under another name can be about this entity.
    · have nothing : list.filter (·.entityName = entity) = [] := by
        rw [List.filter_eq_nil_iff]
        intro constraint member
        have named : constraint.entityName = name := here constraint member
        simpa [named] using Ne.symm same
      have apart : (entity == name) = false := by simpa using same
      rw [nothing, apart]
      simp

namespace WellFormed

variable {index : ConstraintIndex}

theorem bound_of_mem_snapshot (formed : index.WellFormed) {constraint : Constraint}
    (member : constraint ∈ index.snapshot) : constraint.isBound = true := by
  obtain ⟨entity, list, found, inside⟩ := (mem_snapshot index constraint).mp member
  exact (formed entity list found).bound constraint inside

theorem filter_snapshot (formed : index.WellFormed) (entity : String) :
    index.snapshot.filter (·.entityName = entity) = index.list entity := by
  rw [snapshot, filter_flatMap_entries (Entries.distinct_toList index.lists),
    Entries.lookup_toList, list]
  intro entry member
  exact (formed entry.1 entry.2 (Std.ExtTreeMap.mem_toList_iff_getElem?_eq_some.mp member)).named

theorem ofSnapshot_snapshot (formed : index.WellFormed) :
    ConstraintIndex.ofSnapshot index.snapshot = .ok index := by
  have bound : ∀ constraint ∈ index.snapshot, constraint.isBound = true :=
    fun constraint => formed.bound_of_mem_snapshot
  rw [ConstraintIndex.ofSnapshot_eq_foldlM, foldlM_add_eq_ok_iff]
  -- Both indexes are well formed, and so it is enough to compare them entity by entity.
  refine ⟨bound, formed.ext (wellFormed_empty.foldl_append bound) ?_⟩
  intro entity
  rw [list_foldl_append, list_empty, List.nil_append, formed.filter_snapshot]

end WellFormed

theorem hasAny_iff (index : ConstraintIndex) : index.hasAny = true ↔ index.snapshot ≠ [] := by
  rw [hasAny, List.any_eq_true, snapshot, ne_eq, List.flatMap_eq_nil_iff]
  simp only [not_forall, Bool.not_eq_true', List.isEmpty_eq_false_iff, exists_prop]

theorem hasAnyFor_iff (index : ConstraintIndex) (entity : String) :
    index.hasAnyFor entity = true ↔ index.list entity ≠ [] := by
  rw [hasAnyFor, Bool.not_eq_true', List.isEmpty_eq_false_iff]

end Authorization.ConstraintIndex
