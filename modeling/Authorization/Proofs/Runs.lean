import Authorization.Proofs.Entries
import Authorization.Session.Command

/-! What one command does to a registry. It registers a session that it made, registers a derived
profile beside its origin, changes one member and its family, or leaves both lists alone. -/

set_option autoImplicit false

namespace Authorization

/-! ## Making -/

/-- A builder makes a session exactly when it has an identifier other than nil and a user whose
login is not blank. -/
theorem SessionBuilder.build_eq_ok_iff (builder : SessionBuilder) (now : Instant)
    (session : Session) :
    builder.build now = .ok session ↔
      ∃ id principal, builder.id = some id ∧ id.isNil = false ∧ builder.principal = some principal ∧
        Text.isBlank principal.login = false ∧ session = builder.sessionFor id principal now := by
  -- The cases follow the checks in the order in which the builder makes them.
  unfold build
  cases known : builder.id with
  | none =>
    constructor
    · rintro ⟨⟩
    · rintro ⟨_, _, ⟨⟩, _⟩
  | some id =>
    cases nil : id.isNil with
    | true =>
      have dropped : (some id).filter (fun id => !id.isNil) = none := by
        rw [Option.filter_some, nil]
        rfl
      rw [dropped]
      constructor
      · rintro ⟨⟩
      · rintro ⟨_, _, ⟨rfl⟩, named, _⟩
        rw [nil] at named
        cases named
    | false =>
      have kept : (some id).filter (fun id => !id.isNil) = some id := by
        rw [Option.filter_some, nil]
        rfl
      rw [kept]
      cases user : builder.principal with
      | none =>
        constructor
        · rintro ⟨⟩
        · rintro ⟨_, _, _, _, ⟨⟩, _⟩
      | some principal =>
        cases blank : Text.isBlank principal.login with
        | true =>
          simp only [blank, if_true]
          constructor
          · rintro ⟨⟩
          · rintro ⟨_, _, _, _, ⟨rfl⟩, full, _⟩
            rw [blank] at full
            cases full
        | false =>
          simp only [blank, Bool.false_eq_true, if_false]
          constructor
          · rintro ⟨rfl⟩
            exact ⟨id, principal, rfl, nil, rfl, blank, rfl⟩
          · rintro ⟨_, _, ⟨rfl⟩, _, ⟨rfl⟩, _, rfl⟩
            rfl

theorem SessionSnapshot.restore_eq_ok_iff (snapshot : SessionSnapshot) (context : AccessContext)
    (session : Session) :
    snapshot.restore context = .ok session ↔
      snapshot.id.isNil = false ∧ Text.isBlank snapshot.principal.login = false ∧
        ∃ constraints, ConstraintIndex.ofSnapshot snapshot.constraints = .ok constraints ∧
          session = snapshot.sessionFor context constraints := by
  unfold restore
  cases nil : snapshot.id.isNil with
  | true =>
    constructor
    · rintro ⟨⟩
    · rintro ⟨⟨⟩, _⟩
  | false =>
    cases blank : Text.isBlank snapshot.principal.login with
    | true =>
      constructor
      · rintro ⟨⟩
      · rintro ⟨_, ⟨⟩, _⟩
    | false =>
      cases loaded : ConstraintIndex.ofSnapshot snapshot.constraints with
      | error fault =>
        constructor
        · rintro ⟨⟩
        · rintro ⟨_, _, _, ⟨⟩, _⟩
      | ok constraints => simp [pure, Except.pure, eq_comm]

theorem Session.restored_of_parse {text : String} {session : Session}
    (read : Session.parse text = .ok session) :
    ∃ snapshot : SessionSnapshot, snapshot.restore .standard = .ok session := by
  -- The text may fail to scan, to decode or to describe a session; only the last way out is open.
  unfold Session.parse Shape.parse at read
  obtain ⟨taken, -, used⟩ := (Results.bind_eq_ok_iff ..).mp read
  split at used
  · cases used
  · rename_i value made
    dsimp only at made
    split at made
    · cases made
    · rename_i snapshot _
      split at made
      · cases made
      · rename_i restored
        cases made
        dsimp only at used
        split at used
        · cases used
          exact ⟨snapshot, restored⟩
        · cases used

/-! ## Commands -/

/-- The command makes a session that starts a family of its own. -/
def Command.Makes (session : Session) : Command → Prop
  | .build builder now => builder.build now = .ok session
  | .restore snapshot context => snapshot.restore context = .ok session
  | .parse text => Session.parse text = .ok session
  | _ => False

namespace Registry

theorem registerMade_cases {ε : Type} (registry : Registry) (made : Except ε Session) :
    (∃ session, made = .ok session ∧ registry.registerMade made = registry.register session) ∨
      registry.registerMade made = registry := by
  cases made with
  | ok session => exact .inl ⟨session, rfl, rfl⟩
  | error fault => exact .inr rfl

theorem derive_of_member {registry : Registry} {handle : Nat} {member : Member}
    (found : registry.members[handle]? = some member) (principal : Principal) (roles : RoleSet)
    (locale : String) :
    registry.derive handle principal roles locale =
      { registry with
        members := registry.members ++
          [⟨member.profile.derive principal roles locale, member.family⟩] } := by
  rw [derive, found]
  dsimp only
  rw [registerBeside, found]

theorem mutate_of_member {registry : Registry} {handle : Nat} {member : Member}
    (found : registry.members[handle]? = some member) (mutation : Mutation) :
    registry.mutate handle mutation =
      { registry with
        members := registry.members.modify handle fun member =>
          { member with profile := member.profile.apply mutation }
        families := registry.families.modify member.family fun holdings =>
          holdings.apply mutation } := by
  rw [mutate, found]

theorem mutate_of_none {registry : Registry} {place : Nat} (found : registry.members[place]? = none)
    (mutation : Mutation) : registry.mutate place mutation = registry := by
  rw [mutate, found]

/-- Everything that a command can do. -/
theorem step_cases (registry : Registry) (command : Command) :
    (∃ session, command.Makes session ∧ registry.step command = registry.register session) ∨
    (∃ handle member principal roles locale,
      command = .derive handle principal roles locale ∧
      registry.members[handle]? = some member ∧
      registry.step command = { registry with
        members := registry.members ++
          [⟨member.profile.derive principal roles locale, member.family⟩] }) ∨
    (∃ handle member mutation,
      command = .mutate handle mutation ∧
      registry.members[handle]? = some member ∧
      registry.step command = { registry with
        members := registry.members.modify handle fun member =>
          { member with profile := member.profile.apply mutation }
        families := registry.families.modify member.family fun holdings =>
          holdings.apply mutation }) ∨
    ∃ overrides, registry.step command = { registry with overrides := overrides } := by
  -- A command that is refused or finds no session falls under the last case, with the overrides
  -- as they were.
  cases command with
  | build builder now =>
    rcases registry.registerMade_cases (builder.build now) with made | refused
    · exact .inl made
    · exact .inr (.inr (.inr ⟨registry.overrides, refused⟩))
  | restore snapshot context =>
    rcases registry.registerMade_cases (snapshot.restore context) with made | refused
    · exact .inl made
    · exact .inr (.inr (.inr ⟨registry.overrides, refused⟩))
  | parse text =>
    rcases registry.registerMade_cases (Session.parse text) with made | refused
    · exact .inl made
    · exact .inr (.inr (.inr ⟨registry.overrides, refused⟩))
  | derive handle principal roles locale =>
    cases found : registry.members[handle]? with
    | none => exact .inr (.inr (.inr ⟨registry.overrides, by rw [step, derive, found]⟩))
    | some member =>
      exact .inr (.inl ⟨handle, member, principal, roles, locale, rfl, found,
        derive_of_member found principal roles locale⟩)
  | mutate handle mutation =>
    cases found : registry.members[handle]? with
    | none => exact .inr (.inr (.inr ⟨registry.overrides, by rw [step, mutate, found]⟩))
    | some member =>
      exact .inr (.inr (.inl ⟨handle, member, mutation, rfl, found,
        mutate_of_member found mutation⟩))
  | enter session values => exact .inr (.inr (.inr ⟨_, rfl⟩))
  | leave session => exact .inr (.inr (.inr ⟨_, rfl⟩))

theorem session?_eq_some_iff (registry : Registry) (handle : Nat) (session : Session) :
    registry.session? handle = some session ↔
      ∃ member, registry.members[handle]? = some member ∧
        registry.families[member.family]? = some session.toHoldings ∧
        session.toProfile = member.profile := by
  simp only [session?, Option.bind_eq_bind, Option.bind_eq_some_iff, Option.pure_def,
    Option.some.injEq]
  constructor
  · rintro ⟨member, found, holdings, held, rfl⟩
    exact ⟨member, found, held, rfl⟩
  · rintro ⟨member, found, held, profile⟩
    refine ⟨member, found, session.toHoldings, held, ?_⟩
    rw [← profile]

theorem session?_register_of_some {registry : Registry} {handle : Nat} {session : Session}
    (found : registry.session? handle = some session) (other : Session) :
    (registry.register other).session? handle = some session := by
  obtain ⟨member, place, held, profile⟩ := (registry.session?_eq_some_iff handle session).mp found
  rw [session?_eq_some_iff]
  refine ⟨member, ?_, ?_, profile⟩
  · rw [register, List.getElem?_append_left (List.getElem?_eq_some_iff.mp place).1, place]
  · rw [register, List.getElem?_append_left (List.getElem?_eq_some_iff.mp held).1, held]

theorem session?_register_nextHandle (registry : Registry) (session : Session) :
    (registry.register session).session? registry.nextHandle = some session := by
  rw [session?_eq_some_iff]
  refine ⟨⟨session.toProfile, registry.families.length⟩, ?_, ?_, rfl⟩
  · rw [register, nextHandle, List.getElem?_concat_length]
  · rw [register, List.getElem?_concat_length]

theorem session?_derive_nextHandle {registry : Registry} {handle : Nat} {session : Session}
    (found : registry.session? handle = some session) (principal : Principal) (roles : RoleSet)
    (locale : String) :
    (registry.derive handle principal roles locale).session? registry.nextHandle =
      some ⟨session.toProfile.derive principal roles locale, session.toHoldings⟩ := by
  obtain ⟨member, place, held, profile⟩ := (registry.session?_eq_some_iff handle session).mp found
  rw [derive_of_member place, session?_eq_some_iff]
  refine ⟨⟨member.profile.derive principal roles locale, member.family⟩, ?_, held, ?_⟩
  · rw [nextHandle, List.getElem?_concat_length]
  · rw [profile]

theorem session?_derive_of_some {registry : Registry} {place : Nat} {session : Session}
    (found : registry.session? place = some session) (handle : Nat) (principal : Principal)
    (roles : RoleSet) (locale : String) :
    (registry.derive handle principal roles locale).session? place = some session := by
  cases origin : registry.members[handle]? with
  | none => rw [derive, origin, found]
  | some owner =>
    obtain ⟨member, here, held, profile⟩ := (registry.session?_eq_some_iff place session).mp found
    rw [derive_of_member origin, session?_eq_some_iff]
    refine ⟨member, ?_, held, profile⟩
    rw [List.getElem?_append_left (List.getElem?_eq_some_iff.mp here).1, here]

theorem overrides_mutate (registry : Registry) (handle : Nat) (mutation : Mutation) :
    (registry.mutate handle mutation).overrides = registry.overrides := by
  rw [mutate]
  split <;> rfl

theorem overrides_derive (registry : Registry) (handle : Nat) (principal : Principal)
    (roles : RoleSet) (locale : String) :
    (registry.derive handle principal roles locale).overrides = registry.overrides := by
  cases found : registry.members[handle]? with
  | none => rw [derive, found]
  | some member => rw [derive_of_member found]

theorem length_families_mutate (registry : Registry) (handle : Nat) (mutation : Mutation) :
    (registry.mutate handle mutation).families.length = registry.families.length := by
  rw [mutate]
  split
  · rfl
  · exact List.length_modify ..

theorem length_families_derive (registry : Registry) (handle : Nat) (principal : Principal)
    (roles : RoleSet) (locale : String) :
    (registry.derive handle principal roles locale).families.length = registry.families.length := by
  cases found : registry.members[handle]? with
  | none => rw [derive, found]
  | some member => rw [derive_of_member found]

end Registry

end Authorization
