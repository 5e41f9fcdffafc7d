import Authorization.Proofs.Canonical
import Authorization.Proofs.Connections
import Authorization.Proofs.Scenes

/-! Restoring as rebuilding. A snapshot is restored exactly when its user can be given a session that
takes all its constraints, and is refused for the same reason as that. What is rebuilt step by step,
with the grants and the attributes in any order, answers like what is restored at once. -/

set_option autoImplicit false

namespace Authorization

/-! ## Grants and writes in any order -/

/-- In a fold, let some items bring a reading from its first value to a wanted one and keep it there,
and the others leave it alone. If one of the former comes, then the wanted value is read in the end. -/
theorem read_foldl_eq {σ α ρ : Type} {step : σ → α → σ} (read : σ → ρ) (first : ρ) {wanted : ρ}
    (brings : α → Prop) {items : List α} {state : σ}
    (brought : ∀ item ∈ items, brings item → ∀ state, read state = wanted ∨ read state = first →
      read (step state item) = wanted)
    (left : ∀ item ∈ items, ¬ brings item → ∀ state, read (step state item) = read state)
    (start : read state = wanted ∨ read state = first ∧ ∃ item ∈ items, brings item) :
    read (items.foldl step state) = wanted := by
  induction items generalizing state with
  | nil =>
    rcases start with same | ⟨-, item, member, -⟩
    · exact same
    · exact absurd member List.not_mem_nil
  | cons item rest ih =>
    obtain ⟨brought, brought'⟩ := List.forall_mem_cons.mp brought
    obtain ⟨left, left'⟩ := List.forall_mem_cons.mp left
    refine ih brought' left' ?_
    by_cases here : brings item
    · exact .inl (brought here state (start.imp_right And.left))
    · rw [left here state]
      refine start.imp_right fun ⟨before, exists_item⟩ => ⟨before, ?_⟩
      exact (List.exists_mem_cons_iff ..).mp exists_item |>.resolve_left here

theorem PermissionTable.level?_foldl_grant {grants : List (PermissionKind × String × Level)}
    {kind : PermissionKind} {target : String} {wanted : Option Level}
    (listed : ∀ level, (kind, target, level) ∈ grants ↔ wanted = some level) :
    (grants.foldl (fun table (kind, target, level) => table.grant kind target none level)
      empty).level? kind target = wanted := by
  have untouched : empty.level? kind target = none := by cases kind <;> rfl
  refine read_foldl_eq (level? · kind target) none
    (fun grant => grant.1 = kind ∧ grant.2.1 = target) ?_ ?_ ?_
  · rintro ⟨kind', target', level⟩ member ⟨rfl, rfl⟩ table before
    have same := (listed level).mp member
    rw [same] at before ⊢
    rw [level?_grant, if_pos ⟨rfl, .inl rfl⟩]
    rcases before with before | before
    · rw [before]
      exact Level.raise_raise none level
    · rw [before]
      rfl
  · rintro ⟨kind', target', level⟩ - apart table
    rw [level?_grant, if_neg (by simpa using apart)]
  · cases wanted with
    | none => exact .inl untouched
    | some level => exact .inr ⟨untouched, _, (listed level).mpr rfl, rfl, rfl⟩

theorem DurableAttributes.getElem?_foldl_insert {attributes : List (String × Json)} {name : String}
    {wanted : Option Json} (listed : ∀ value, (name, value) ∈ attributes ↔ wanted = some value) :
    (attributes.foldl (fun (map : DurableAttributes) (name, value) => map.insert name value)
      ∅)[name]? = wanted := by
  refine read_foldl_eq (fun map : DurableAttributes => map[name]?) none
    (fun entry => entry.1 = name) ?_ ?_ ?_
  · rintro ⟨name', value⟩ member rfl map -
    rw [Std.ExtTreeMap.getElem?_insert_self]
    exact ((listed value).mp member).symm
  · rintro ⟨name', value⟩ - apart map
    simp only [Std.ExtTreeMap.getElem?_insert, Std.LawfulEqCmp.compare_eq_iff_eq]
    exact if_neg apart
  · cases wanted with
    | none => exact .inl Std.ExtTreeMap.getElem?_empty
    | some value => exact .inr ⟨Std.ExtTreeMap.getElem?_empty, _, (listed value).mpr rfl, rfl⟩

/-! ## The changes of a snapshot -/

namespace Holdings

theorem foldl_grants (grants : List (PermissionKind × String × Level)) (holdings : Holdings) :
    (grants.map fun (kind, target, level) => Mutation.grant kind target none level).foldl apply
        holdings =
      { holdings with
        permissions := grants.foldl (fun table (kind, target, level) =>
          table.grant kind target none level) holdings.permissions } := by
  induction grants generalizing holdings with
  | nil => rfl
  | cons first rest ih => exact ih _

theorem foldl_addConstraints {constraints : List Constraint}
    (bound : ∀ constraint ∈ constraints, constraint.isBound = true) (holdings : Holdings) :
    (constraints.map Mutation.addConstraint).foldl apply holdings =
      { holdings with
        constraints := constraints.foldl ConstraintIndex.append holdings.constraints } := by
  induction constraints generalizing holdings with
  | nil => rfl
  | cons first rest ih =>
    obtain ⟨here, later⟩ := List.forall_mem_cons.mp bound
    have added : holdings.apply (.addConstraint first) =
        { holdings with constraints := holdings.constraints.append first } := by
      rw [apply, ConstraintIndex.add_eq, if_pos here]
    rw [List.map_cons, List.foldl_cons, added]
    exact ih later _

theorem foldl_setAttributes (attributes : List (String × Json)) (holdings : Holdings) :
    (attributes.map fun (name, value) => Mutation.setAttribute name value).foldl apply holdings =
      { holdings with
        attributes := attributes.foldl (fun map (name, value) => map.insert name value)
          holdings.attributes } := by
  induction attributes generalizing holdings with
  | nil => rfl
  | cons first rest ih => exact ih _

end Holdings

theorem Session.foldl_apply (changes : List Mutation) (session : Session) :
    changes.foldl Session.apply session =
      ⟨changes.foldl Profile.apply session.toProfile,
        changes.foldl Holdings.apply session.toHoldings⟩ := by
  induction changes generalizing session with
  | nil => rfl
  | cons change rest ih => exact ih (session.apply change)

namespace SessionSnapshot

variable (snapshot : SessionSnapshot) (grants : List (PermissionKind × String × Level))
  (attributes : List (String × Json))

theorem foldl_profile (profile : Profile) :
    (snapshot.changes grants attributes).foldl Profile.apply profile =
      { profile with environment := snapshot.environment } := by
  simp only [changes, List.foldl_append, List.foldl_map]
  rw [List.foldl_fixed' fun _ => rfl, List.foldl_fixed' fun _ => rfl, List.foldl_fixed' fun _ => rfl]
  rfl

theorem foldl_holdings (bound : ∀ constraint ∈ snapshot.constraints, constraint.isBound = true) :
    (snapshot.changes grants attributes).foldl Holdings.apply .empty =
      ⟨grants.foldl (fun table (kind, target, level) => table.grant kind target none level) .empty,
        snapshot.constraints.foldl ConstraintIndex.append .empty,
        attributes.foldl (fun map (name, value) => map.insert name value) ∅⟩ := by
  rw [changes, List.foldl_append, List.foldl_append, List.foldl_append, Holdings.foldl_grants,
    Holdings.foldl_addConstraints bound, Holdings.foldl_setAttributes]
  rfl

end SessionSnapshot

/-! ## The rebuilt session -/

namespace Registry

theorem session?_run_mutate (changes : List Mutation) (registry : Registry) (handle : Nat) :
    (registry.run (changes.map (.mutate handle))).session? handle =
      (registry.session? handle).map fun session => changes.foldl Session.apply session := by
  induction changes generalizing registry with
  | nil => exact Option.map_id'.symm
  | cons change rest ih =>
    have changed : (registry.mutate handle change).session? handle =
        (registry.session? handle).map fun session => session.apply change := by
      rw [session?_mutate]
      simp only [if_true]
      rfl
    exact (ih (registry.mutate handle change)).trans (by rw [changed, Option.map_map]; rfl)

end Registry

namespace SessionSnapshot

/-- Before the changes, the last session made has no holdings, and of its profile only the
environment and the time are not yet those of the restored session. -/
theorem exists_start {snapshot : SessionSnapshot} {context : AccessContext} {now : Instant}
    {built : Session} (made : (snapshot.builder context).build now = .ok built)
    (registry : Registry) (locale : String) (constraints : ConstraintIndex) :
    ∃ start : Session,
      (registry.run (.build (snapshot.builder context) now ::
        snapshot.substituted.toList.map fun user =>
          .derive registry.nextHandle user snapshot.roles locale)).session?
            (snapshot.rebuiltHandle registry.nextHandle) = some start ∧
      start.toHoldings = .empty ∧
      { start.toProfile with environment := snapshot.environment } =
        { (snapshot.sessionFor context constraints).toProfile with createdAt := now } := by
  obtain ⟨id, principal, same, -, same', -, rfl⟩ := (SessionBuilder.build_eq_ok_iff ..).mp made
  cases same
  cases same'
  have registered := registry.session?_register_nextHandle
    ((snapshot.builder context).sessionFor snapshot.id snapshot.principal now)
  have first : registry.step (.build (snapshot.builder context) now) = registry.register
      ((snapshot.builder context).sessionFor snapshot.id snapshot.principal now) := by
    rw [Registry.step, made]
    rfl
  rw [Registry.run, List.foldl_cons, first, rebuiltHandle]
  cases acting : snapshot.substituted with
  | none =>
    refine ⟨_, registered, rfl, ?_⟩
    rw [sessionFor, acting]
    rfl
  | some user =>
    have derived := Registry.session?_derive_nextHandle registered user snapshot.roles locale
    have next : (registry.register ((snapshot.builder context).sessionFor snapshot.id
        snapshot.principal now)).nextHandle = registry.nextHandle + 1 := List.length_append
    rw [next] at derived
    refine ⟨_, derived, rfl, ?_⟩
    rw [sessionFor, acting, Option.filter_some, Profile.derive, SessionBuilder.sessionFor]
    cases user.isSameUser snapshot.principal <;> rfl

theorem exists_rebuilt {snapshot : SessionSnapshot} {context : AccessContext} {now : Instant}
    {built : Session} (made : (snapshot.builder context).build now = .ok built)
    (bound : ∀ constraint ∈ snapshot.constraints, constraint.isBound = true) (registry : Registry)
    (locale : String) {grants : List (PermissionKind × String × Level)}
    {attributes : List (String × Json)}
    (levels : ∀ kind target level,
      (kind, target, level) ∈ grants ↔ snapshot.level? kind target = some level)
    (values : ∀ name value, (name, value) ∈ attributes ↔ snapshot.attributes[name]? = some value) :
    ∃ rebuilt : Session,
      (registry.run (snapshot.rebuilding context now locale registry.nextHandle grants
        attributes)).session? (snapshot.rebuiltHandle registry.nextHandle) = some rebuilt ∧
      Session.Alike { rebuilt with createdAt := snapshot.createdAt }
        (snapshot.sessionFor context
          (snapshot.constraints.foldl ConstraintIndex.append .empty)) := by
  obtain ⟨start, found, untouched, profile⟩ := exists_start made registry locale
    (snapshot.constraints.foldl ConstraintIndex.append .empty)
  refine ⟨(snapshot.changes grants attributes).foldl Session.apply start, ?_, ?_⟩
  · rw [rebuilding, Registry.run_append, Registry.session?_run_mutate, found]
    rfl
  -- The tables may differ in the kinds that they list without levels, and so only levels are compared.
  · rw [Session.foldl_apply, foldl_profile, untouched, foldl_holdings _ _ _ bound, profile]
    refine ⟨⟨_, rfl⟩, fun kind => Std.ExtTreeMap.ext_getElem? fun target => ?_, rfl,
      Std.ExtTreeMap.ext_getElem? fun name => ?_⟩
    · exact PermissionTable.level?_foldl_grant (levels kind target)
    · exact DurableAttributes.getElem?_foldl_insert (values name)

end SessionSnapshot

theorem Session.answer_createdAt (session : Session) (time : Instant) (overrides : RequestOverrides)
    {query : Query} (timeless : query.readsTime = false) :
    Session.answer { session with createdAt := time } overrides query =
      session.answer overrides query := by
  cases query with
  | createdAt | snapshot => cases timeless
  | _ => rfl

/-! ## Which constraints are taken -/

theorem Session.outcomes_addConstraint (constraints : List Constraint) (session : Session) :
    session.outcomes (constraints.map .addConstraint) = constraints.map fun constraint =>
      if constraint.isBound then .done else .refused (.missingEntityName constraint.id) := by
  induction constraints generalizing session with
  | nil => rfl
  | cons first rest ih =>
    rw [List.map_cons, outcomes, ih, List.map_cons, outcome, ConstraintIndex.add_eq]
    cases first.isBound <;> rfl

theorem Session.outcomes_done_iff (constraints : List Constraint) (session : Session) :
    (∀ outcome ∈ session.outcomes (constraints.map .addConstraint), outcome = .done) ↔
      ∀ constraint ∈ constraints, Text.isBlank constraint.entityName = false := by
  rw [outcomes_addConstraint, List.forall_mem_map]
  refine forall₂_congr fun constraint _ => ?_
  rw [Constraint.isBound]
  cases Text.isBlank constraint.entityName <;> simp

theorem Session.outcome_refused_iff (session : Session) (constraint : Constraint)
    (fault : ConstraintFault) :
    session.outcome (.addConstraint constraint) = .refused fault ↔
      Text.isBlank constraint.entityName = true ∧ fault = .missingEntityName constraint.id := by
  rw [outcome, ConstraintIndex.add_eq, Constraint.isBound]
  cases Text.isBlank constraint.entityName <;> simp [eq_comm]

namespace SessionSnapshot

theorem build_cases {snapshot : SessionSnapshot} {builder : SessionBuilder}
    (id : builder.id = some snapshot.id) (principal : builder.principal = some snapshot.principal)
    (now : Instant) :
    (snapshot.id.isNil = true ∧ builder.build now = .error .missingSessionId) ∨
    (snapshot.id.isNil = false ∧ Text.isBlank snapshot.principal.login = true ∧
      builder.build now = .error .blankLogin) ∨
    (snapshot.id.isNil = false ∧ Text.isBlank snapshot.principal.login = false ∧
      builder.build now = .ok (builder.sessionFor snapshot.id snapshot.principal now)) := by
  rw [SessionBuilder.build, id, principal, Option.filter_some]
  cases snapshot.id.isNil with
  | true => exact .inl ⟨rfl, rfl⟩
  | false =>
    cases blank : Text.isBlank snapshot.principal.login with
    | true => exact .inr (.inl ⟨rfl, rfl, by simp [blank]; rfl⟩)
    | false => exact .inr (.inr ⟨rfl, rfl, by simp [blank]; rfl⟩)

theorem restore_eq_ok_iff_bound (snapshot : SessionSnapshot) (context : AccessContext)
    (restored : Session) :
    snapshot.restore context = .ok restored ↔
      snapshot.id.isNil = false ∧ Text.isBlank snapshot.principal.login = false ∧
        (∀ constraint ∈ snapshot.constraints, Text.isBlank constraint.entityName = false) ∧
        restored = snapshot.sessionFor context
          (snapshot.constraints.foldl ConstraintIndex.append .empty) := by
  have loaded_iff : ∀ index, ConstraintIndex.ofSnapshot snapshot.constraints = .ok index ↔
      (∀ constraint ∈ snapshot.constraints, Text.isBlank constraint.entityName = false) ∧
        index = snapshot.constraints.foldl ConstraintIndex.append .empty := by
    intro index
    rw [ConstraintIndex.ofSnapshot_eq_foldlM, ConstraintIndex.foldlM_add_eq_ok_iff]
    simp only [Constraint.isBound, Bool.not_eq_true']
  rw [restore_eq_ok_iff]
  simp only [loaded_iff]
  constructor
  · rintro ⟨id, login, _, ⟨named, rfl⟩, same⟩
    exact ⟨id, login, named, same⟩
  · rintro ⟨id, login, named, same⟩
    exact ⟨id, login, _, ⟨named, rfl⟩, same⟩

theorem restore_agrees_with_build (snapshot : SessionSnapshot) (context : AccessContext)
    {builder : SessionBuilder} (id : builder.id = some snapshot.id)
    (principal : builder.principal = some snapshot.principal) (now : Instant) :
    ((∃ restored, snapshot.restore context = .ok restored) ↔
      ∃ built, builder.build now = .ok built ∧
        ∀ outcome ∈ built.outcomes (snapshot.constraints.map .addConstraint), outcome = .done) ∧
    (∀ fault, builder.build now = .error fault →
      (fault = .missingSessionId ∨ fault = .blankLogin) ∧
        snapshot.restore context = .error fault) ∧
    ∀ built, builder.build now = .ok built → ∀ reason,
      snapshot.restore context = .error (.malformedConstraint reason) ↔
        ∃ before first after fault, snapshot.constraints = before ++ first :: after ∧
          (∀ outcome ∈ built.outcomes (before.map .addConstraint), outcome = .done) ∧
          ((before.map .addConstraint).foldl Session.apply built).outcome (.addConstraint first) =
            .refused fault ∧
          reason = fault.message := by
  -- Whether a constraint is taken depends on nothing but its name, and so on neither path.
  simp only [restore_eq_ok_iff_bound, Session.outcomes_done_iff, Session.outcome_refused_iff,
    restore_eq_malformedConstraint_iff]
  rcases build_cases id principal now with ⟨nil, ends⟩ | ⟨named, blank, ends⟩ |
    ⟨named, login, ends⟩
  · have refused : snapshot.restore context = .error .missingSessionId := by
      rw [restore, nil]
      rfl
    simp [ends, nil, refused]
  · have refused : snapshot.restore context = .error .blankLogin := by
      rw [restore, named, blank]
      rfl
    simp [ends, named, blank, refused]
  · simp [ends, named, login, ConstraintFault.message]

/-- A snapshot is restored exactly when a builder with its identifier, its user and the context makes
a session that takes its constraints one after the other. Otherwise the restoration names the fault
that the builder has, or that of the first constraint which the session refuses. If it is restored,
then its session answers all but the questions about the time and local attributes like one that is
built from the snapshot, derived if somebody is substituted, and given the rest by changes. -/
theorem restore_agrees_with_rebuilding (snapshot : SessionSnapshot) (context : AccessContext) :
    (∀ builder : SessionBuilder, builder.id = some snapshot.id →
      builder.principal = some snapshot.principal → ∀ now,
      ((∃ restored, snapshot.restore context = .ok restored) ↔
        ∃ built, builder.build now = .ok built ∧
          ∀ outcome ∈ built.outcomes (snapshot.constraints.map .addConstraint), outcome = .done) ∧
      (∀ fault, builder.build now = .error fault →
        (fault = .missingSessionId ∨ fault = .blankLogin) ∧
          snapshot.restore context = .error fault) ∧
      ∀ built, builder.build now = .ok built → ∀ reason,
        snapshot.restore context = .error (.malformedConstraint reason) ↔
          ∃ before first after fault, snapshot.constraints = before ++ first :: after ∧
            (∀ outcome ∈ built.outcomes (before.map .addConstraint), outcome = .done) ∧
            ((before.map .addConstraint).foldl Session.apply built).outcome (.addConstraint first) =
              .refused fault ∧
            reason = fault.message) ∧
    ∀ restored, snapshot.restore context = .ok restored →
      ∀ (registry : Registry) (now : Instant) (locale : String)
        (grants : List (PermissionKind × String × Level)) (attributes : List (String × Json)),
      (∀ kind target level,
        (kind, target, level) ∈ grants ↔ snapshot.level? kind target = some level) →
      (∀ name value, (name, value) ∈ attributes ↔ snapshot.attributes[name]? = some value) →
      ∃ rebuilt : Session,
        (registry.run (snapshot.rebuilding context now locale registry.nextHandle grants
          attributes)).session? (snapshot.rebuiltHandle registry.nextHandle) = some rebuilt ∧
        restored.snapshot = { rebuilt.snapshot with createdAt := snapshot.createdAt } ∧
        ∀ overrides query, query.readsLocal = false → query.readsTime = false →
          restored.answer overrides query = rebuilt.answer overrides query := by
  refine ⟨fun builder id principal now =>
    snapshot.restore_agrees_with_build context id principal now, ?_⟩
  intro restored made registry now locale grants attributes levels values
  obtain ⟨named, login, bound, rfl⟩ := (snapshot.restore_eq_ok_iff_bound context restored).mp made
  have built : (snapshot.builder context).build now = .ok
      ((snapshot.builder context).sessionFor snapshot.id snapshot.principal now) :=
    (SessionBuilder.build_eq_ok_iff ..).mpr ⟨_, _, rfl, named, rfl, login, rfl⟩
  obtain ⟨rebuilt, found, alike⟩ := exists_rebuilt built
    (fun constraint member => by rw [Constraint.isBound, bound constraint member]; rfl)
    registry locale levels values
  refine ⟨rebuilt, found, alike.snapshot.symm, fun overrides query shared timeless => ?_⟩
  rw [← alike.answer overrides shared, rebuilt.answer_createdAt snapshot.createdAt overrides timeless]

/-- A session on behalf of another user, with a level, a constraint and an attribute. -/
theorem restore_agrees_with_rebuilding_substituted :
    let snapshot : SessionSnapshot := {
      id := .ofNat 1
      principal := ⟨.ofNat 2, "ada", none, some "en", none⟩
      substituted := some ⟨.ofNat 3, "grace", none, none, some "UTC"⟩
      roles := .empty
      environment := ⟨none, none, some "localhost", none⟩
      createdAt := ⟨⟨2024, 1, 2⟩, 3, 4, 5, 0⟩
      system := false
      permissions := .ofFunction fun kind =>
        if kind = .screen then some (Std.ExtTreeMap.insert ∅ "orders" .deny) else none
      constraints := [.ofId (.ofNat 5) "order"]
      attributes := Std.ExtTreeMap.insert ∅ "cart" (.text "full") }
    ∃ restored rebuilt : Session, snapshot.restore .standard = .ok restored ∧
      (Registry.empty.run (snapshot.rebuilding .standard ⟨⟨2025, 6, 7⟩, 8, 9, 10, 0⟩ "de" 0
        [(.screen, "orders", .deny)] [("cart", .text "full")])).session? 1 = some rebuilt ∧
      restored.isScreenPermitted "orders" = false ∧ rebuilt.isScreenPermitted "orders" = false := by
  intro snapshot
  obtain ⟨-, rebuilds⟩ := snapshot.restore_agrees_with_rebuilding .standard
  have made : snapshot.restore .standard = .ok (snapshot.sessionFor .standard
      (snapshot.constraints.foldl ConstraintIndex.append .empty)) :=
    (snapshot.restore_eq_ok_iff_bound ..).mpr
      ⟨by decide +kernel, by decide +kernel, by decide +kernel, rfl⟩
  have levels : ∀ kind target level, (kind, target, level) ∈
      [(PermissionKind.screen, "orders", Level.deny)] ↔ snapshot.level? kind target = some level := by
    intro kind target level
    cases kind <;> simp [snapshot, level?, PerKind.get_ofFunction, Std.ExtTreeMap.getElem?_insert,
      eq_comm (b := target), eq_comm (b := level)]
  have values : ∀ name value, (name, value) ∈ [("cart", Json.text "full")] ↔
      snapshot.attributes[name]? = some value := by
    intro name value
    simp [snapshot, Std.ExtTreeMap.getElem?_insert, eq_comm (b := name), eq_comm (b := value)]
  obtain ⟨rebuilt, found, -, answers⟩ := rebuilds _ made .empty ⟨⟨2025, 6, 7⟩, 8, 9, 10, 0⟩ "de"
    [(.screen, "orders", .deny)] [("cart", .text "full")] levels values
  have screen := answers .empty (.isScreenPermitted "orders") rfl rfl
  have denied : (snapshot.sessionFor .standard
      (snapshot.constraints.foldl ConstraintIndex.append .empty)).isScreenPermitted "orders" =
      false := by
    decide +kernel
  refine ⟨_, rebuilt, made, found, denied, ?_⟩
  rw [← denied]
  exact (Answer.flag.inj screen).symm

end SessionSnapshot

end Authorization
