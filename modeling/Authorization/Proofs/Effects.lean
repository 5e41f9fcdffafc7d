import Authorization.Proofs.Targets

/-! What a change does to the holdings and to a profile, key by key. A level is revoked or raised, the
list of an entity goes through one change of the index, and every other entry is written or left
alone. -/

set_option autoImplicit false

namespace Authorization

/-! ## Writes -/

def afterWrite {κ α : Type} [DecidableEq κ] (write : Option (κ × Option α)) (key : κ)
    (before : Option α) : Option α :=
  match write with
  | some (written, value) => if written = key then value else before
  | none => before

theorem afterWrite_of_ne {κ α : Type} [DecidableEq κ] {write : Option (κ × Option α)} {key : κ}
    (apart : write.map Prod.fst ≠ some key) (before : Option α) :
    afterWrite write key before = before := by
  cases write with
  | none => rfl
  | some write => exact if_neg fun same => apart (congrArg some same)

theorem afterWrite_comm {κ α : Type} [DecidableEq κ] {first second : Option (κ × Option α)}
    (apart : ∀ key, first.map Prod.fst = some key → second.map Prod.fst ≠ some key) (key : κ)
    (before : Option α) :
    afterWrite second key (afterWrite first key before) =
      afterWrite first key (afterWrite second key before) := by
  cases first with
  | none => rfl
  | some write =>
    cases second with
    | none => rfl
    | some other =>
      have different : other.1 ≠ write.1 := fun same => apart write.1 rfl (congrArg some same)
      simp only [afterWrite]
      by_cases here : write.1 = key
      · subst here
        simp [different]
      · simp [here]

namespace Mutation

def attributeWrite? : Mutation → Option (String × Option Json)
  | .setAttribute name value => some (name, some value)
  | .removeAttribute name => some (name, none)
  | _ => none

def localWrite? : Mutation → Option (String × Option LocalValue)
  | .setLocal name value => some (name, some value)
  | .removeLocal name => some (name, none)
  | _ => none

def environmentWrite? : Mutation → Option (EnvironmentField × Option String)
  | .setEnvironment field value => some (field, value)
  | _ => none

def constraintChange? : Mutation → Option ConstraintChange
  | .addConstraint constraint => some (.add constraint)
  | .removeConstraint entity id => some (.remove entity id)
  | _ => none

def lists (kind : PermissionKind) : Mutation → Bool
  | .grant granted _ _ _ => granted = kind
  | _ => false

end Mutation

/-! ## Profiles -/

namespace Profile

theorem get_environment_apply (profile : Profile) (mutation : Mutation) (field : EnvironmentField) :
    (profile.apply mutation).environment.get field =
      afterWrite mutation.environmentWrite? field (profile.environment.get field) := by
  cases mutation with
  | setEnvironment written value =>
    simp only [apply, Environment.get_set, Mutation.environmentWrite?, afterWrite, eq_comm]
  | _ => rfl

theorem getElem?_localAttributes_apply (profile : Profile) (mutation : Mutation) (name : String) :
    (profile.apply mutation).localAttributes[name]? =
      afterWrite mutation.localWrite? name profile.localAttributes[name]? := by
  cases mutation with
  | setLocal written value =>
    simp only [apply, Std.ExtTreeMap.getElem?_insert, Std.LawfulEqCmp.compare_eq_iff_eq]
    rfl
  | removeLocal written =>
    simp only [apply, Std.ExtTreeMap.getElem?_erase, Std.LawfulEqCmp.compare_eq_iff_eq]
    rfl
  | _ => rfl

theorem apply_eq (profile : Profile) (mutation : Mutation) :
    profile.apply mutation = { profile with
      environment := (profile.apply mutation).environment
      localAttributes := (profile.apply mutation).localAttributes } := by
  cases mutation <;> rfl

end Profile

/-! ## Holdings -/

attribute [ext] Holdings

namespace Holdings

theorem getElem?_attributes_apply (holdings : Holdings) (mutation : Mutation) (name : String) :
    (holdings.apply mutation).attributes[name]? =
      afterWrite mutation.attributeWrite? name holdings.attributes[name]? := by
  cases mutation with
  | setAttribute written value =>
    simp only [apply, Std.ExtTreeMap.getElem?_insert, Std.LawfulEqCmp.compare_eq_iff_eq]
    rfl
  | removeAttribute written =>
    simp only [apply, Std.ExtTreeMap.getElem?_erase, Std.LawfulEqCmp.compare_eq_iff_eq]
    rfl
  | addConstraint constraint =>
    rw [apply]
    split <;> rfl
  | _ => rfl

theorem constraints_apply (holdings : Holdings) (mutation : Mutation) :
    (holdings.apply mutation).constraints =
      mutation.constraintChange?.elim holdings.constraints holdings.constraints.apply := by
  cases mutation with
  | addConstraint constraint =>
    rw [apply, Mutation.constraintChange?, Option.elim_some, ConstraintIndex.apply]
    cases holdings.constraints.add constraint <;> rfl
  | _ => rfl

theorem isSome_entries_apply (holdings : Holdings) (mutation : Mutation) (kind : PermissionKind) :
    ((holdings.apply mutation).permissions.entries.get kind).isSome =
      (mutation.lists kind || (holdings.permissions.entries.get kind).isSome) := by
  cases mutation with
  | grant granted target aliasName value =>
    simp only [apply, PermissionTable.grant, PerKind.get_set, Mutation.lists]
    by_cases same : kind = granted
    · simp [same]
    · simp [same, Ne.symm same]
  | revoke revoked target =>
    simp only [apply, PermissionTable.revoke, PerKind.get_set, Mutation.lists, Bool.false_or]
    split
    · rename_i same
      rw [same, Option.isSome_map]
    · rfl
  | addConstraint constraint =>
    rw [apply]
    split <;> rfl
  | _ => rfl

end Holdings

/-- A table is known by its levels and by the kinds that it lists. -/
theorem PermissionTable.ext_level? {first second : PermissionTable}
    (listed : ∀ kind, (first.entries.get kind).isSome = (second.entries.get kind).isSome)
    (levels : ∀ kind target, first.level? kind target = second.level? kind target) :
    first = second := by
  obtain ⟨entries⟩ := first
  obtain ⟨entries'⟩ := second
  refine congrArg PermissionTable.mk (PerKind.ext_get fun kind => ?_)
  have flags := listed kind
  have same := levels kind
  dsimp only [level?, levelsOf] at flags same
  cases known : entries.get kind with
  | none =>
    cases known' : entries'.get kind with
    | none => rfl
    | some levels' => simp [known, known'] at flags
  | some levels =>
    cases known' : entries'.get kind with
    | none => simp [known, known'] at flags
    | some levels' =>
      rw [known, known'] at same
      exact congrArg some (Std.ExtTreeMap.ext_getElem? fun {target} => same target)

namespace ConstraintChange

def entity : ConstraintChange → String
  | .add constraint => constraint.entityName
  | .remove entity _ => entity

def relist : ConstraintChange → Option (List Constraint) → Option (List Constraint)
  | .add constraint, before =>
    if constraint.isBound then some (before.getD [] ++ [constraint]) else before
  | .remove _ id, before =>
    (some ((before.getD []).filter (·.id ≠ id))).filter fun kept => !kept.isEmpty

end ConstraintChange

namespace ConstraintIndex

/-- A change concerns the list of its entity, and what becomes of it depends on nothing else. -/
theorem getElem?_apply (index : ConstraintIndex) (change : ConstraintChange) (entity : String) :
    (index.apply change).lists[entity]? =
      if change.entity = entity then change.relist index.lists[entity]?
      else index.lists[entity]? := by
  cases change with
  | add constraint =>
    rw [apply, add_eq, ConstraintChange.relist, ConstraintChange.entity]
    cases constraint.isBound with
    | true => exact getElem?_append index constraint entity
    | false => simp
  | remove removed id => exact getElem?_remove index removed entity id

theorem list_apply_of_ne (index : ConstraintIndex) {change : ConstraintChange} {entity : String}
    (apart : change.entity ≠ entity) : (index.apply change).list entity = index.list entity := by
  rw [list, getElem?_apply, if_neg apart, list]

theorem apply_comm (index : ConstraintIndex) {first second : ConstraintChange}
    (apart : first.entity ≠ second.entity) :
    (index.apply first).apply second = (index.apply second).apply first := by
  have lists : ((index.apply first).apply second).lists =
      ((index.apply second).apply first).lists := by
    apply Std.ExtTreeMap.ext_getElem?
    intro entity
    simp only [getElem?_apply]
    by_cases here : first.entity = entity
    · subst here
      simp [apart.symm]
    · simp [here]
  exact congrArg mk lists

end ConstraintIndex

/-! ## Outcomes -/

/-- What the caller gets back depends only on the entries that the change writes. -/
theorem Session.outcome_congr {session other : Session} (mutation : Mutation)
    (lists : ∀ change, mutation.constraintChange? = some change →
      other.constraints.list change.entity = session.constraints.list change.entity)
    (attributes : ∀ name, mutation.attributeWrite?.map Prod.fst = some name →
      other.attributes[name]? = session.attributes[name]?)
    (locals : ∀ name, mutation.localWrite?.map Prod.fst = some name →
      other.localAttributes[name]? = session.localAttributes[name]?) :
    other.outcome mutation = session.outcome mutation := by
  cases mutation with
  | addConstraint constraint =>
    simp only [outcome, ConstraintIndex.add_eq]
    cases constraint.isBound <;> rfl
  | removeConstraint entity id =>
    have same : other.constraints.list entity = session.constraints.list entity := lists _ rfl
    rw [outcome, outcome, ConstraintIndex.countOf, ConstraintIndex.countOf, same]
  | removeAttribute name => exact congrArg Outcome.removedAttribute (attributes name rfl)
  | removeLocal name => exact congrArg Outcome.removedLocal (locals name rfl)
  | _ => rfl

end Authorization
