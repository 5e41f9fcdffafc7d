import Authorization.Proofs.Effects
import Authorization.Proofs.Isolation
import Authorization.Session.Script

/-! Independent calls commute. Where both calls grant, levels are raised in either order; everywhere
else at most one of the calls reads or writes. Neither call sees from what it gets back whether the
other came first. -/

set_option autoImplicit false

namespace Authorization

namespace Call

variable {first second call : Call}

theorem Independent.symm (independent : first.Independent second) : second.Independent first :=
  fun key member shared => (independent key shared member).symm

theorem Independent.not_mem (independent : first.Independent second) {key : Key}
    (touched : key ∈ first.keys ∧ first.isGrant = false) : key ∉ second.keys := by
  intro shared
  obtain ⟨grants, -⟩ := independent key touched.1 shared
  rw [touched.2] at grants
  exact Bool.noConfusion grants

/-! ## What a call touches -/

theorem spares_of_not_mem {kind : PermissionKind} {target : String}
    (absent : .level kind target ∉ call.keys) : call.mutation.Spares kind target := by
  obtain ⟨handle, mutation⟩ := call
  cases mutation with
  | grant granted main aliasName value =>
    refine ⟨if_neg ?_, rfl⟩
    rintro ⟨rfl, named⟩
    rcases named with rfl | rfl <;> simp [keys] at absent
  | revoke revoked main =>
    have apart : ¬ (revoked = kind ∧ main = target) := by
      rintro ⟨rfl, rfl⟩
      exact absent (List.mem_singleton_self _)
    exact ⟨rfl, by simpa [Mutation.revokes] using apart⟩
  | _ => exact ⟨rfl, rfl⟩

theorem revokes_of_isGrant (grants : call.isGrant = true) (kind : PermissionKind) (target : String) :
    call.mutation.revokes kind target = false := by
  obtain ⟨handle, mutation⟩ := call
  cases mutation with
  | grant granted main aliasName value => rfl
  | _ => exact Bool.noConfusion grants

theorem touches_constraints {change : ConstraintChange}
    (changes : call.mutation.constraintChange? = some change) :
    .constraints change.entity ∈ call.keys ∧ call.isGrant = false := by
  obtain ⟨handle, mutation⟩ := call
  cases mutation with
  | addConstraint | removeConstraint =>
    cases changes
    exact ⟨List.mem_singleton_self _, rfl⟩
  | _ => exact nomatch changes

theorem touches_attribute {name : String}
    (writes : call.mutation.attributeWrite?.map Prod.fst = some name) :
    .attribute name ∈ call.keys ∧ call.isGrant = false := by
  obtain ⟨handle, mutation⟩ := call
  cases mutation with
  | setAttribute | removeAttribute =>
    cases writes
    exact ⟨List.mem_singleton_self _, rfl⟩
  | _ => exact nomatch writes

theorem touches_localAttribute {name : String}
    (writes : call.mutation.localWrite?.map Prod.fst = some name) :
    .localAttribute call.handle name ∈ call.keys ∧ call.isGrant = false := by
  obtain ⟨handle, mutation⟩ := call
  cases mutation with
  | setLocal | removeLocal =>
    cases writes
    exact ⟨List.mem_singleton_self _, rfl⟩
  | _ => exact nomatch writes

theorem touches_environment {field : EnvironmentField}
    (writes : call.mutation.environmentWrite?.map Prod.fst = some field) :
    .environment call.handle field ∈ call.keys ∧ call.isGrant = false := by
  obtain ⟨handle, mutation⟩ := call
  cases mutation with
  | setEnvironment =>
    cases writes
    exact ⟨List.mem_singleton_self _, rfl⟩
  | _ => exact nomatch writes

end Call

/-! ## Holdings -/

namespace Holdings

variable {first second : Call}

theorem level?_apply_comm_of_spares (holdings : Holdings) {change : Mutation}
    {kind : PermissionKind} {target : String} (spares : change.Spares kind target)
    (other : Mutation) :
    ((holdings.apply change).apply other).permissions.level? kind target =
      ((holdings.apply other).apply change).permissions.level? kind target := by
  simp only [level?_apply, spares.1, spares.2, Option.toList_none, List.foldl_nil,
    Bool.false_eq_true, if_false]

theorem level?_apply_comm_of_grants (holdings : Holdings) {change other : Mutation}
    {kind : PermissionKind} {target : String} (grants : change.revokes kind target = false)
    (grants' : other.revokes kind target = false) :
    ((holdings.apply change).apply other).permissions.level? kind target =
      ((holdings.apply other).apply change).permissions.level? kind target := by
  simp only [level?_apply, grants, grants', Bool.false_eq_true, if_false]
  cases change.granted? kind target with
  | none => rfl
  | some value =>
    cases other.granted? kind target with
    | none => rfl
    | some value' =>
      cases holdings.permissions.level? kind target with
      | none => exact congrArg some (Level.max_comm value value')
      | some known =>
        refine congrArg some ?_
        rw [Level.max_assoc, Level.max_comm value value', ← Level.max_assoc]

theorem level?_apply_comm (independent : first.Independent second) (holdings : Holdings)
    (kind : PermissionKind) (target : String) :
    ((holdings.apply first.mutation).apply second.mutation).permissions.level? kind target =
      ((holdings.apply second.mutation).apply first.mutation).permissions.level? kind target := by
  by_cases touched : .level kind target ∈ first.keys
  · by_cases shared : .level kind target ∈ second.keys
    · obtain ⟨grants, grants'⟩ := independent _ touched shared
      exact holdings.level?_apply_comm_of_grants (Call.revokes_of_isGrant grants kind target)
        (Call.revokes_of_isGrant grants' kind target)
    · exact (holdings.level?_apply_comm_of_spares (Call.spares_of_not_mem shared) _).symm
  · exact holdings.level?_apply_comm_of_spares (Call.spares_of_not_mem touched) _

theorem constraints_apply_comm (independent : first.Independent second) (holdings : Holdings) :
    ((holdings.apply first.mutation).apply second.mutation).constraints =
      ((holdings.apply second.mutation).apply first.mutation).constraints := by
  simp only [constraints_apply]
  cases changes : first.mutation.constraintChange? with
  | none => rfl
  | some change =>
    cases changes' : second.mutation.constraintChange? with
    | none => rfl
    | some other =>
      refine holdings.constraints.apply_comm fun same => ?_
      apply independent.not_mem (Call.touches_constraints changes)
      rw [same]
      exact (Call.touches_constraints changes').1

theorem list_apply_of_independent (independent : first.Independent second) (holdings : Holdings)
    {change : ConstraintChange} (changes : second.mutation.constraintChange? = some change) :
    (holdings.apply first.mutation).constraints.list change.entity =
      holdings.constraints.list change.entity := by
  rw [constraints_apply]
  cases others : first.mutation.constraintChange? with
  | none => rfl
  | some other =>
    refine ConstraintIndex.list_apply_of_ne _ fun same => ?_
    apply independent.symm.not_mem (Call.touches_constraints changes)
    rw [← same]
    exact (Call.touches_constraints others).1

theorem getElem?_attributes_apply_of_independent (independent : first.Independent second)
    (holdings : Holdings) {name : String}
    (writes : second.mutation.attributeWrite?.map Prod.fst = some name) :
    (holdings.apply first.mutation).attributes[name]? = holdings.attributes[name]? := by
  rw [getElem?_attributes_apply]
  exact afterWrite_of_ne (fun others => independent.not_mem (Call.touches_attribute others)
    (Call.touches_attribute writes).1) _

theorem attributes_apply_comm (independent : first.Independent second) (holdings : Holdings) :
    ((holdings.apply first.mutation).apply second.mutation).attributes =
      ((holdings.apply second.mutation).apply first.mutation).attributes := by
  apply Std.ExtTreeMap.ext_getElem?
  intro name
  simp only [getElem?_attributes_apply]
  exact afterWrite_comm (fun name writes writes' =>
    independent.not_mem (Call.touches_attribute writes) (Call.touches_attribute writes').1) _ _

theorem permissions_apply_comm (independent : first.Independent second) (holdings : Holdings) :
    ((holdings.apply first.mutation).apply second.mutation).permissions =
      ((holdings.apply second.mutation).apply first.mutation).permissions := by
  refine PermissionTable.ext_level? (fun kind => ?_) (level?_apply_comm independent holdings)
  simp only [isSome_entries_apply, Bool.or_left_comm]

theorem apply_comm (independent : first.Independent second) (holdings : Holdings) :
    (holdings.apply first.mutation).apply second.mutation =
      (holdings.apply second.mutation).apply first.mutation :=
  Holdings.ext (permissions_apply_comm independent holdings)
    (constraints_apply_comm independent holdings) (attributes_apply_comm independent holdings)

end Holdings

/-! ## Profiles -/

namespace Profile

variable {first second : Call}

theorem environment_apply_comm (independent : first.Independent second)
    (same : first.handle = second.handle) (profile : Profile) :
    ((profile.apply first.mutation).apply second.mutation).environment =
      ((profile.apply second.mutation).apply first.mutation).environment := by
  refine Environment.ext_get fun field => ?_
  simp only [get_environment_apply]
  refine afterWrite_comm (fun field writes writes' => ?_) _ _
  apply independent.not_mem (Call.touches_environment writes)
  rw [same]
  exact (Call.touches_environment writes').1

theorem localAttributes_apply_comm (independent : first.Independent second)
    (same : first.handle = second.handle) (profile : Profile) :
    ((profile.apply first.mutation).apply second.mutation).localAttributes =
      ((profile.apply second.mutation).apply first.mutation).localAttributes := by
  apply Std.ExtTreeMap.ext_getElem?
  intro name
  simp only [getElem?_localAttributes_apply]
  refine afterWrite_comm (fun name writes writes' => ?_) _ _
  apply independent.not_mem (Call.touches_localAttribute writes)
  rw [same]
  exact (Call.touches_localAttribute writes').1

theorem getElem?_localAttributes_apply_of_independent (independent : first.Independent second)
    (same : first.handle = second.handle) (profile : Profile) {name : String}
    (writes : second.mutation.localWrite?.map Prod.fst = some name) :
    (profile.apply first.mutation).localAttributes[name]? = profile.localAttributes[name]? := by
  rw [getElem?_localAttributes_apply]
  refine afterWrite_of_ne (fun others => ?_) _
  apply independent.not_mem (Call.touches_localAttribute others)
  rw [same]
  exact (Call.touches_localAttribute writes).1

theorem apply_comm (independent : first.Independent second) (same : first.handle = second.handle)
    (profile : Profile) :
    (profile.apply first.mutation).apply second.mutation =
      (profile.apply second.mutation).apply first.mutation := by
  rw [apply_eq (profile.apply first.mutation), apply_eq (profile.apply second.mutation),
    environment_apply_comm independent same, localAttributes_apply_comm independent same,
    apply_eq profile first.mutation, apply_eq profile second.mutation]

end Profile

/-! ## Registries -/

theorem modify_comm {α : Type} (list : List α) (place other : Nat) (change change' : α → α)
    (comm : place = other → ∀ value, change' (change value) = change (change' value)) :
    (list.modify place change).modify other change' =
      (list.modify other change').modify place change := by
  by_cases same : place = other
  · subst same
    rw [List.modify_modify_eq, List.modify_modify_eq]
    exact congrArg _ (funext (comm rfl))
  · exact List.modify_modify_ne _ _ _ same

namespace Registry

variable {first second : Call}

theorem perform_comm (independent : first.Independent second) (registry : Registry) :
    (registry.perform first).perform second = (registry.perform second).perform first := by
  simp only [perform]
  cases found : registry.members[first.handle]? with
  | none => rw [mutate_of_none found, mutate_of_none (members_mutate_of_none found _ _)]
  | some member =>
    cases found' : registry.members[second.handle]? with
    | none => rw [mutate_of_none found', mutate_of_none (members_mutate_of_none found' _ _)]
    | some member' =>
      -- Neither call moves a session to another family.
      obtain ⟨changed, place, family⟩ :=
        members_mutate_of_member found second.handle second.mutation
      obtain ⟨changed', place', family'⟩ :=
        members_mutate_of_member found' first.handle first.mutation
      rw [mutate_of_member place, mutate_of_member place', mutate_of_member found,
        mutate_of_member found', family, family']
      have members := modify_comm registry.members first.handle second.handle
        (fun member => { member with profile := member.profile.apply first.mutation })
        (fun member => { member with profile := member.profile.apply second.mutation })
        fun same member => congrArg (Member.mk · member.family)
          (Profile.apply_comm independent same member.profile)
      have families := modify_comm registry.families member.family member'.family
        (fun holdings => holdings.apply first.mutation)
        (fun holdings => holdings.apply second.mutation)
        fun _ => Holdings.apply_comm independent
      rw [mk.injEq]
      exact ⟨members, families, rfl⟩

theorem outcome?_perform (independent : first.Independent second) (registry : Registry) :
    (registry.perform first).outcome? second = registry.outcome? second := by
  rw [outcome?, outcome?, perform, session?_mutate, Option.map_map]
  refine Option.map_congr fun session found => session.outcome_congr second.mutation ?_ ?_ ?_
  · intro change changes
    dsimp only
    split
    · exact Holdings.list_apply_of_independent independent _ changes
    · rfl
  · intro name writes
    dsimp only
    split
    · exact Holdings.getElem?_attributes_apply_of_independent independent _ writes
    · rfl
  · intro name writes
    dsimp only
    split
    · rename_i same
      exact Profile.getElem?_localAttributes_apply_of_independent independent same _ writes
    · rfl

end Registry

end Authorization
