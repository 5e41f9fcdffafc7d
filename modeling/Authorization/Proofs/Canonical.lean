import Authorization.Proofs.Grants
import Authorization.Proofs.Sorting

/-! Canonical snapshots. Any snapshot can be offered for restoration; what a restored session gives
back is its canonical form, which is also the form of every snapshot that a session gives. -/

set_option autoImplicit false

namespace Authorization

namespace ConstraintIndex

theorem foldlM_add_eq (index : ConstraintIndex) (constraints : List Constraint) :
    constraints.foldlM add index =
      match constraints.find? fun constraint => !constraint.isBound with
      | some constraint => .error (.missingEntityName constraint.id)
      | none => .ok (constraints.foldl append index) := by
  induction constraints generalizing index with
  | nil => rfl
  | cons first rest ih =>
    rw [List.foldlM_cons, add_eq, List.find?_cons]
    cases bound : first.isBound with
    | false => rfl
    | true => exact ih (index.append first)

theorem WellFormed.sorted_snapshot {index : ConstraintIndex} (formed : index.WellFormed) :
    Sorting.Sorted Constraint.entityName index.snapshot := by
  have named : ∀ entry ∈ index.lists.toList, ∀ constraint ∈ entry.2,
      constraint.entityName = entry.1 := fun entry member =>
    (formed entry.1 entry.2 (Std.ExtTreeMap.mem_toList_iff_getElem?_eq_some.mp member)).named
  rw [Sorting.Sorted, snapshot, List.pairwise_flatMap]
  constructor
  · intro entry member
    refine List.pairwise_of_forall_mem_list fun first here second there => ?_
    rw [named entry member first here, named entry member second there]
  · refine index.lists.ordered_keys_toList.imp_of_mem fun {entry other} inside inside' order => ?_
    intro first here second there
    rw [named entry inside first here, named other inside' second there]
    exact Std.le_of_lt (Text.lt_of_compare_eq_lt order)

/-- An index that groups a list by entity lists it stably sorted. -/
theorem WellFormed.snapshot_eq {index : ConstraintIndex} (formed : index.WellFormed)
    {constraints : List Constraint}
    (lists : ∀ entity, index.list entity = Sorting.under Constraint.entityName entity constraints) :
    index.snapshot = Sorting.byBytes Constraint.entityName constraints := by
  refine formed.sorted_snapshot.ext (Sorting.sorted_byBytes _ constraints) fun entity => ?_
  calc
    _ = index.list entity := formed.filter_snapshot entity
    _ = Sorting.under Constraint.entityName entity constraints := lists entity
    _ = _ := (Sorting.under_byBytes _ entity constraints).symm

theorem snapshot_foldl_append {constraints : List Constraint}
    (bound : ∀ constraint ∈ constraints, constraint.isBound = true) :
    (constraints.foldl append empty).snapshot =
      Sorting.byBytes Constraint.entityName constraints := by
  refine (wellFormed_empty.foldl_append bound).snapshot_eq fun entity => ?_
  rw [list_foldl_append, list_empty, List.nil_append]
  rfl

end ConstraintIndex

namespace SessionSnapshot

/-- The snapshot without a substitution by the authenticated user and without kinds that list no
level, and with its constraints in the order of their entities. -/
def canonical (snapshot : SessionSnapshot) : SessionSnapshot :=
  { snapshot with
    substituted :=
      if snapshot.substituted.map Principal.id = some snapshot.principal.id then none
      else snapshot.substituted
    permissions := .ofFunction fun kind =>
      if snapshot.permissions.get kind = some ∅ then none else snapshot.permissions.get kind
    constraints := Sorting.byBytes Constraint.entityName snapshot.constraints }

structure IsCanonical (snapshot : SessionSnapshot) : Prop where
  substituted : snapshot.substituted.map Principal.id ≠ some snapshot.principal.id
  permissions : ∀ kind, snapshot.permissions.get kind ≠ some ∅
  constraints : Sorting.Sorted Constraint.entityName snapshot.constraints

theorem isCanonical_canonical (snapshot : SessionSnapshot) : snapshot.canonical.IsCanonical where
  substituted := by
    rw [canonical]
    dsimp only
    split
    · exact nofun
    · assumption
  permissions := by
    intro kind
    rw [canonical]
    dsimp only
    rw [PerKind.get_ofFunction]
    split
    · exact nofun
    · assumption
  constraints := Sorting.sorted_byBytes _ _

theorem IsCanonical.canonical_eq {snapshot : SessionSnapshot} (formed : snapshot.IsCanonical) :
    snapshot.canonical = snapshot := by
  have permissions : (PerKind.ofFunction fun kind =>
      if snapshot.permissions.get kind = some ∅ then none else snapshot.permissions.get kind) =
        snapshot.permissions := by
    refine PerKind.ext_get fun kind => ?_
    rw [PerKind.get_ofFunction, if_neg (formed.permissions kind)]
  rw [canonical, if_neg formed.substituted, permissions,
    Sorting.byBytes_of_sorted formed.constraints]

end SessionSnapshot

theorem Session.isCanonical_snapshot {session : Session} (profile : session.toProfile.Sound)
    (formed : session.constraints.WellFormed) : session.snapshot.IsCanonical where
  substituted := by
    intro same
    obtain ⟨user, acting, self⟩ := Option.map_eq_some_iff.mp same
    exact profile.substituted user acting self
  permissions := session.permissions.snapshot_ne_empty
  constraints := formed.sorted_snapshot

namespace SessionSnapshot

/-- A restored session gives the canonical form of what it was restored from. -/
theorem snapshot_sessionFor (snapshot : SessionSnapshot) (context : AccessContext)
    (bound : ∀ constraint ∈ snapshot.constraints, constraint.isBound = true) :
    (snapshot.sessionFor context (snapshot.constraints.foldl ConstraintIndex.append .empty)).snapshot =
      snapshot.canonical := by
  have substituted : (snapshot.substituted.filter fun user => !user.isSameUser snapshot.principal) =
      if snapshot.substituted.map Principal.id = some snapshot.principal.id then none
      else snapshot.substituted := by
    cases snapshot.substituted with
    | none => rfl
    | some user => simp [Principal.isSameUser, Option.filter]
  have permissions : (PermissionTable.ofSnapshot snapshot.permissions).snapshot =
      .ofFunction fun kind =>
        if snapshot.permissions.get kind = some ∅ then none else snapshot.permissions.get kind := by
    refine PerKind.ext_get fun kind => ?_
    rw [PerKind.get_ofFunction, PermissionTable.snapshot, PerKind.get_map]
    show (snapshot.permissions.get kind).filter _ = _
    cases snapshot.permissions.get kind with
    | none => rfl
    | some levels => simp [Option.filter]
  rw [canonical, ← substituted, ← permissions, ← ConstraintIndex.snapshot_foldl_append bound]
  rfl

/-- The ways in which a restoration ends, by the check that decides. -/
theorem restore_cases (snapshot : SessionSnapshot) (context : AccessContext) :
    (snapshot.id.isNil = true ∧ snapshot.restore context = .error .missingSessionId) ∨
    (snapshot.id.isNil = false ∧ Text.isBlank snapshot.principal.login = true ∧
      snapshot.restore context = .error .blankLogin) ∨
    (snapshot.id.isNil = false ∧ Text.isBlank snapshot.principal.login = false ∧
      ∃ first, (snapshot.constraints.find? fun constraint => !constraint.isBound) = some first ∧
        snapshot.restore context =
          .error (.malformedConstraint (ConstraintFault.missingEntityName first.id).message)) ∨
    (snapshot.id.isNil = false ∧ Text.isBlank snapshot.principal.login = false ∧
      (snapshot.constraints.find? fun constraint => !constraint.isBound) = none ∧
      snapshot.restore context =
        .ok (snapshot.sessionFor context
          (snapshot.constraints.foldl ConstraintIndex.append .empty))) := by
  rw [restore, ConstraintIndex.ofSnapshot_eq_foldlM, ConstraintIndex.foldlM_add_eq]
  cases snapshot.id.isNil with
  | true => exact .inl ⟨rfl, rfl⟩
  | false =>
    cases Text.isBlank snapshot.principal.login with
    | true => exact .inr (.inl ⟨rfl, rfl, rfl⟩)
    | false =>
      cases snapshot.constraints.find? fun constraint => !constraint.isBound with
      | some first => exact .inr (.inr (.inl ⟨rfl, rfl, first, rfl, rfl⟩))
      | none => exact .inr (.inr (.inr ⟨rfl, rfl, rfl, rfl⟩))

theorem find?_unbound_iff (constraints : List Constraint) (first : Constraint) :
    (constraints.find? fun constraint => !constraint.isBound) = some first ↔
      ∃ before after, constraints = before ++ first :: after ∧
        (∀ constraint ∈ before, Text.isBlank constraint.entityName = false) ∧
        Text.isBlank first.entityName = true := by
  simp only [List.find?_eq_some_iff_append, Constraint.isBound, Bool.not_not,
    Bool.not_eq_true']
  constructor
  · rintro ⟨blank, before, after, split, bound⟩
    exact ⟨before, after, split, bound, blank⟩
  · rintro ⟨before, after, split, bound, blank⟩
    exact ⟨blank, before, after, split, bound⟩

theorem find?_unbound_eq_none_iff (constraints : List Constraint) :
    (constraints.find? fun constraint => !constraint.isBound) = none ↔
      ∀ constraint ∈ constraints, constraint.isBound = true := by
  simp only [List.find?_eq_none, Bool.not_eq_true', Bool.not_eq_false]

theorem restore_eq_malformedConstraint_iff (snapshot : SessionSnapshot) (context : AccessContext)
    (reason : String) :
    snapshot.restore context = .error (.malformedConstraint reason) ↔
      snapshot.id.isNil = false ∧ Text.isBlank snapshot.principal.login = false ∧
        ∃ before first after, snapshot.constraints = before ++ first :: after ∧
          (∀ constraint ∈ before, Text.isBlank constraint.entityName = false) ∧
          Text.isBlank first.entityName = true ∧
          reason = "constraint " ++ first.id.display ++ " has no entity name" := by
  -- The reason tells of the first constraint found, whichever way the list is taken apart.
  have found_iff : (∃ before first after, snapshot.constraints = before ++ first :: after ∧
      (∀ constraint ∈ before, Text.isBlank constraint.entityName = false) ∧
      Text.isBlank first.entityName = true ∧
      reason = "constraint " ++ first.id.display ++ " has no entity name") ↔
      ∃ first, (snapshot.constraints.find? fun constraint => !constraint.isBound) = some first ∧
        (ConstraintFault.missingEntityName first.id).message = reason := by
    simp only [find?_unbound_iff, ConstraintFault.message]
    constructor
    · rintro ⟨before, first, after, split, bound, blank, rfl⟩
      exact ⟨first, ⟨before, after, split, bound, blank⟩, rfl⟩
    · rintro ⟨first, ⟨before, after, split, bound, blank⟩, rfl⟩
      exact ⟨before, first, after, split, bound, blank, rfl⟩
  rw [found_iff]
  rcases snapshot.restore_cases context with ⟨nil, ends⟩ | ⟨nil, blank, ends⟩ |
    ⟨nil, blank, first, found, ends⟩ | ⟨nil, blank, bound, ends⟩
  · simp [ends, nil]
  · simp [ends, blank]
  · simp [ends, nil, blank, found]
  · simp [ends, bound]

theorem restore_canonical_iff (snapshot : SessionSnapshot) (context : AccessContext) :
    (∃ session, snapshot.restore context = .ok session ∧ session.context = context ∧
        session.snapshot = snapshot.canonical) ↔
      snapshot.id.isNil = false ∧ Text.isBlank snapshot.principal.login = false ∧
        ∀ constraint ∈ snapshot.constraints, Text.isBlank constraint.entityName = false := by
  have bound_iff : (∀ constraint ∈ snapshot.constraints,
      Text.isBlank constraint.entityName = false) ↔
      (snapshot.constraints.find? fun constraint => !constraint.isBound) = none := by
    rw [find?_unbound_eq_none_iff]
    simp only [Constraint.isBound, Bool.not_eq_true']
  rw [bound_iff]
  rcases snapshot.restore_cases context with ⟨nil, ends⟩ | ⟨nil, blank, ends⟩ |
    ⟨nil, blank, first, found, ends⟩ | ⟨nil, blank, bound, ends⟩
  · simp [ends, nil]
  · simp [ends, blank]
  · simp [ends, found]
  · refine iff_of_true ⟨_, ends, rfl, ?_⟩ ⟨nil, blank, bound⟩
    exact snapshot.snapshot_sessionFor context ((find?_unbound_eq_none_iff _).mp bound)

/-- Which snapshots are refused and why, in which form the others come back, and that this form is
the one of every snapshot that a session gives. -/
theorem restore_decision (snapshot : SessionSnapshot) (context : AccessContext) :
    (snapshot.restore context = .error .missingSessionId ↔ snapshot.id.isNil = true) ∧
    (snapshot.restore context = .error .blankLogin ↔
      snapshot.id.isNil = false ∧ Text.isBlank snapshot.principal.login = true) ∧
    (∀ reason, snapshot.restore context = .error (.malformedConstraint reason) ↔
      snapshot.id.isNil = false ∧ Text.isBlank snapshot.principal.login = false ∧
        ∃ before first after, snapshot.constraints = before ++ first :: after ∧
          (∀ constraint ∈ before, Text.isBlank constraint.entityName = false) ∧
          Text.isBlank first.entityName = true ∧
          reason = "constraint " ++ first.id.display ++ " has no entity name") ∧
    ((∃ session, snapshot.restore context = .ok session ∧ session.context = context ∧
        session.snapshot = snapshot.canonical) ↔
      snapshot.id.isNil = false ∧ Text.isBlank snapshot.principal.login = false ∧
        ∀ constraint ∈ snapshot.constraints, Text.isBlank constraint.entityName = false) ∧
    (snapshot.canonical.constraints.Pairwise fun first second =>
      Text.bytes first.entityName ≤ Text.bytes second.entityName) ∧
    (∀ entity, (snapshot.canonical.constraints.filter fun constraint =>
        constraint.entityName = entity) =
      snapshot.constraints.filter fun constraint => constraint.entityName = entity) ∧
    snapshot.canonical.constraints.Perm snapshot.constraints ∧
    snapshot.canonical.canonical = snapshot.canonical ∧
    ∀ (commands : List Command) (handle : Nat) (session : Session),
      (Registry.empty.run commands).session? handle = some session →
        session.snapshot.canonical = session.snapshot := by
  have unnamed : snapshot.restore context = .error .missingSessionId ↔
      snapshot.id.isNil = true := by
    rcases snapshot.restore_cases context with ⟨nil, ends⟩ | ⟨nil, blank, ends⟩ |
      ⟨nil, blank, first, found, ends⟩ | ⟨nil, blank, bound, ends⟩ <;> simp [ends, nil]
  have blankLogin : snapshot.restore context = .error .blankLogin ↔
      snapshot.id.isNil = false ∧ Text.isBlank snapshot.principal.login = true := by
    rcases snapshot.restore_cases context with ⟨nil, ends⟩ | ⟨nil, blank, ends⟩ |
      ⟨nil, blank, first, found, ends⟩ | ⟨nil, blank, bound, ends⟩ <;> simp [*]
  have sorted : snapshot.canonical.constraints.Pairwise fun first second =>
      Text.bytes first.entityName ≤ Text.bytes second.entityName :=
    snapshot.isCanonical_canonical.constraints.imp (Text.bytes_le_iff _ _).mpr
  refine ⟨unnamed, blankLogin, snapshot.restore_eq_malformedConstraint_iff context,
    snapshot.restore_canonical_iff context, sorted,
    fun entity => Sorting.under_byBytes Constraint.entityName entity snapshot.constraints,
    Sorting.byBytes_perm _ _, snapshot.isCanonical_canonical.canonical_eq, ?_⟩
  intro commands handle session found
  obtain ⟨profile, formed⟩ := (Registry.sound_empty.run commands).session found
  exact (Session.isCanonical_snapshot profile formed).canonical_eq

/-- A snapshot that no session gives: the user acts for itself, a kind lists no level, and the
constraints of two entities alternate. -/
theorem restore_decision_alternating :
    let snapshot : SessionSnapshot := {
      id := .ofNat 1
      principal := ⟨.ofNat 2, "ada", none, none, none⟩
      substituted := some ⟨.ofNat 2, "grace", none, none, none⟩
      roles := .empty
      environment := .empty
      createdAt := ⟨⟨2024, 1, 2⟩, 3, 4, 5, 0⟩
      system := false
      permissions := .ofFunction fun kind => if kind = .ui then some ∅ else none
      constraints := [.ofId (.ofNat 5) "order", .ofId (.ofNat 6) "invoice", .ofId (.ofNat 4) "order"]
      attributes := ∅ }
    ∃ session, snapshot.restore .standard = .ok session ∧
      session.snapshot.substituted = none ∧ session.snapshot.permissions.get .ui = none ∧
      session.snapshot.constraints =
        [.ofId (.ofNat 6) "invoice", .ofId (.ofNat 5) "order", .ofId (.ofNat 4) "order"] := by
  intro snapshot
  obtain ⟨-, -, -, restored, -⟩ := restore_decision snapshot .standard
  obtain ⟨session, made, -, form⟩ := restored.mpr (by decide +kernel)
  refine ⟨session, made, ?_⟩
  rw [form]
  refine ⟨by decide +kernel, by decide +kernel, ?_⟩
  rw [canonical, Sorting.byBytes_eq]
  simp [snapshot, List.mergeSort, Sorting.le, Constraint.ofId]

end SessionSnapshot

end Authorization
