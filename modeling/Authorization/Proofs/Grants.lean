import Authorization.Proofs.Families

/-! The permission table as a function of its history. The level of a target is the highest one
granted on it since it was last revoked, through whichever session of a family, and every reading
of the table shows the same levels. -/

set_option autoImplicit false

namespace Authorization

namespace Level

theorem max_value (first second : Level) :
    (max first second).value = max first.value second.value := by
  show (if first ≤ second then second else first).value = max first.value second.value
  simp only [le_iff]
  split <;> omega

theorem max_comm (first second : Level) : max first second = max second first :=
  ext (by rw [max_value, max_value, Int.max_comm])

theorem max_assoc (first second third : Level) :
    max (max first second) third = max first (max second third) :=
  ext (by simp only [max_value, Int.max_assoc])

instance : Std.Associative (max : Level → Level → Level) := ⟨max_assoc⟩

theorem raise_raise (known : Option Level) (value : Level) :
    raise (raise known value) value = raise known value := by
  have same : max value value = value := ext (by rw [max_value, Int.max_self])
  cases known with
  | none => exact congrArg some same
  | some level => exact congrArg some (by rw [max_assoc, same])

theorem max?_cons (value : Level) (others : List Level) :
    (value :: others).max? = raise others.max? value := by
  rw [List.max?_cons]
  cases others.max? with
  | none => rfl
  | some level => exact congrArg some (max_comm value level)

end Level

/-! ## Histories -/

namespace Mutation

/-- The level that a change grants on a target of a kind, as its target or as its alias. -/
def granted? (kind : PermissionKind) (target : String) : Mutation → Option Level
  | .grant granted main aliasName value =>
    if granted = kind ∧ (main = target ∨ aliasName = some target) then some value else none
  | _ => none

def revokes (kind : PermissionKind) (target : String) : Mutation → Bool
  | .revoke revoked main => revoked = kind && main = target
  | _ => false

end Mutation

/-- The levels granted on a target since it was last revoked, the latest first. -/
def liveGrants (kind : PermissionKind) (target : String) (changes : List Mutation) : List Level :=
  (changes.reverse.takeWhile fun change => !change.revokes kind target).filterMap
    (·.granted? kind target)

/-- A revocation ends the life of all grants before it; every other change adds what it grants. -/
theorem liveGrants_append (kind : PermissionKind) (target : String) (changes : List Mutation)
    (last : Mutation) :
    liveGrants kind target (changes ++ [last]) =
      if last.revokes kind target then []
      else (last.granted? kind target).toList ++ liveGrants kind target changes := by
  rw [liveGrants, List.reverse_append, List.reverse_singleton, List.singleton_append,
    List.takeWhile_cons]
  cases revoked : last.revokes kind target with
  | true => rfl
  | false =>
    simp only [Bool.not_false, if_true, Bool.false_eq_true, if_false, List.filterMap_cons]
    cases last.granted? kind target <;> rfl

theorem PermissionTable.level?_grant (table : PermissionTable) (kind other : PermissionKind)
    (main target : String) (aliasName : Option String) (value : Level) :
    (table.grant kind main aliasName value).level? other target =
      if kind = other ∧ (main = target ∨ aliasName = some target) then
        Level.raise (table.level? other target) value
      else table.level? other target := by
  rw [level?, levelsOf_grant, level?]
  by_cases sameKind : kind = other
  · subst sameKind
    rw [if_pos rfl]
    cases aliasName with
    | none =>
      simp only [Option.elim_none, Levels.getElem?_widen, reduceCtorEq, or_false, true_and]
      split
      · rename_i same
        rw [same]
      · rfl
    | some name =>
      -- The alias may be the target itself, and then the level is raised twice.
      simp only [Option.elim_some, Levels.getElem?_widen, Option.some.injEq, true_and]
      by_cases atName : name = target <;> by_cases atMain : main = target
      · subst atName atMain
        simp [Level.raise_raise]
      · subst atName
        simp [atMain]
      · subst atMain
        simp [atName]
      · simp [atName, atMain]
  · rw [if_neg (Ne.symm sameKind), if_neg fun both => sameKind both.1]

theorem Holdings.level?_apply (holdings : Holdings) (change : Mutation) (kind : PermissionKind)
    (target : String) :
    (holdings.apply change).permissions.level? kind target =
      if change.revokes kind target then none
      else ((change.granted? kind target).toList).foldl Level.raise
        (holdings.permissions.level? kind target) := by
  cases change with
  | grant granted main aliasName value =>
    simp only [apply, PermissionTable.level?_grant, Mutation.granted?, Mutation.revokes,
      Bool.false_eq_true, if_false]
    split <;> rfl
  | revoke revoked main =>
    simp only [apply, PermissionTable.level?_revoke, Mutation.granted?, Mutation.revokes,
      Bool.and_eq_true, decide_eq_true_eq, eq_comm (a := kind), eq_comm (a := target)]
    split <;> rfl
  | addConstraint constraint =>
    rw [apply]
    split <;> rfl
  | removeConstraint | setAttribute | removeAttribute | setLocal | removeLocal | setEnvironment =>
    rfl

/-- What holdings show of a history, if one more change keeps it up, they show after any changes. -/
theorem Holdings.foldl_apply_of_step {P : Holdings → List Mutation → Prop}
    (step : ∀ {holdings history}, P holdings history →
      ∀ change, P (holdings.apply change) (history ++ [change]))
    {holdings : Holdings} {history : List Mutation} (shown : P holdings history)
    (changes : List Mutation) : P (changes.foldl apply holdings) (history ++ changes) := by
  induction changes generalizing holdings history with
  | nil =>
    rw [List.append_nil]
    exact shown
  | cons change rest ih =>
    rw [List.append_cons]
    exact ih (step shown change)

def PermissionTable.Records (table : PermissionTable) (history : List Mutation) : Prop :=
  ∀ kind target, table.level? kind target = (liveGrants kind target history).max?

namespace PermissionTable.Records

variable {holdings : Holdings} {history : List Mutation}

theorem empty : PermissionTable.empty.Records [] := by
  intro kind target
  cases kind <;> rfl

theorem apply (records : holdings.permissions.Records history) (change : Mutation) :
    (holdings.apply change).permissions.Records (history ++ [change]) := by
  intro kind target
  rw [Holdings.level?_apply, liveGrants_append, records]
  split
  · rfl
  · cases change.granted? kind target with
    | none => rfl
    | some value => exact (Level.max?_cons value _).symm

theorem foldl (records : holdings.permissions.Records history) (changes : List Mutation) :
    (changes.foldl Holdings.apply holdings).permissions.Records (history ++ changes) :=
  Holdings.foldl_apply_of_step (P := fun holdings history => holdings.permissions.Records history)
    (fun records change => records.apply change) records changes

theorem ofSnapshot {table : PermissionTable} (records : table.Records history) :
    (PermissionTable.ofSnapshot table.snapshot).Records history := by
  intro kind target
  rw [level?, levelsOf_ofSnapshot_snapshot]
  exact records kind target

end PermissionTable.Records

theorem Holdings.level?_foldl_apply (changes : List Mutation) (kind : PermissionKind)
    (target : String) :
    (changes.foldl apply .empty).permissions.level? kind target =
      (liveGrants kind target changes).max? := by
  have untouched : Holdings.empty.permissions.Records [] := .empty
  exact untouched.foldl changes kind target

/-! ## Readings -/

theorem PermissionTable.getD_snapshot (table : PermissionTable) (kind : PermissionKind) :
    (table.snapshot.get kind).getD ∅ = table.levelsOf kind := levelsOf_ofSnapshot_snapshot table kind

theorem PermissionTable.snapshot_ne_empty (table : PermissionTable) (kind : PermissionKind) :
    table.snapshot.get kind ≠ some ∅ := by
  rw [get_snapshot]
  split
  · exact fun impossible => nomatch impossible
  · rename_i some
    intro same
    rw [Option.some.inj same] at some
    exact some Std.ExtTreeMap.isEmpty_empty

/-- Let a session be built in any reachable registry, and let any commands follow. Then every member
of its family can be found, and all of its readings of the permission table show for each target
the highest level granted on it through any member since it was last revoked through one. -/
theorem Session.levels_of_run (earlier commands : List Command) (builder : SessionBuilder)
    (now : Instant) (root : Session) (built : builder.build now = .ok root) (handle : Nat)
    (related : handle ∈ ((Registry.empty.run earlier).familyFrom root commands).handles) :
    ∃ session : Session,
      (((Registry.empty.run earlier).register root).run commands).session? handle = some session ∧
      ∀ kind target,
        let levels :=
          liveGrants kind target ((Registry.empty.run earlier).familyFrom root commands).changes
        session.permissions.level? kind target = levels.max? ∧
        (session.permissions.levelsOf kind)[target]? = levels.max? ∧
        ((session.snapshot.permissions.get kind).getD ∅)[target]? = levels.max? ∧
        session.snapshot.permissions.get kind ≠ some ∅ := by
  have held := Registry.familyFrom_held (Registry.sound_empty.run earlier) root commands
  have untouched : root.toHoldings = .empty := by
    obtain ⟨id, principal, -, -, -, -, same⟩ :=
      (SessionBuilder.build_eq_ok_iff builder now root).mp built
    rw [same]
    rfl
  obtain ⟨session, found, holdings⟩ := held.session related
  rw [untouched] at holdings
  refine ⟨session, found, fun kind target => ?_⟩
  have level := Holdings.level?_foldl_apply
    ((Registry.empty.run earlier).familyFrom root commands).changes kind target
  rw [← holdings] at level
  refine ⟨level, level, ?_, session.permissions.snapshot_ne_empty kind⟩
  show ((session.permissions.snapshot.get kind).getD ∅)[target]? = _
  rw [PermissionTable.getD_snapshot]
  exact level

/-- A grant with an alias, and then, through a derived session, a revocation and a lower grant. -/
theorem Session.levels_of_run_alias :
    ∃ session : Session,
      ((Registry.empty.register (SessionBuilder.empty.sessionFor (.ofNat 1)
          ⟨.ofNat 2, "ada", none, none, none⟩ ⟨⟨2024, 1, 2⟩, 3, 4, 5, 0⟩)).run [
        .mutate 0 (.grant .screen "orders" (some "invoices") ⟨5, by decide, by decide⟩),
        .derive 0 ⟨.ofNat 3, "grace", none, none, none⟩ .empty "de",
        .mutate 1 (.revoke .screen "orders"),
        .mutate 1 (.grant .screen "orders" none .permit)]).session? 0 = some session ∧
      session.permissions.level? .screen "orders" = some .permit ∧
      session.permissions.level? .screen "invoices" = some ⟨5, by decide, by decide⟩ := by
  have built : { SessionBuilder.empty with
      id := some (.ofNat 1)
      principal := some ⟨.ofNat 2, "ada", none, none, none⟩ }.build ⟨⟨2024, 1, 2⟩, 3, 4, 5, 0⟩ =
      .ok (SessionBuilder.empty.sessionFor (.ofNat 1)
        ⟨.ofNat 2, "ada", none, none, none⟩ ⟨⟨2024, 1, 2⟩, 3, 4, 5, 0⟩) :=
    (SessionBuilder.build_eq_ok_iff ..).mpr
      ⟨_, _, rfl, by decide +kernel, rfl, by decide +kernel, rfl⟩
  obtain ⟨session, found, levels⟩ := levels_of_run [] [
    .mutate 0 (.grant .screen "orders" (some "invoices") ⟨5, by decide, by decide⟩),
    .derive 0 ⟨.ofNat 3, "grace", none, none, none⟩ .empty "de",
    .mutate 1 (.revoke .screen "orders"),
    .mutate 1 (.grant .screen "orders" none .permit)] _ _ _ built 0 (by decide +kernel)
  exact ⟨session, found, (levels .screen "orders").1.trans (by decide +kernel),
    (levels .screen "invoices").1.trans (by decide +kernel)⟩

end Authorization
