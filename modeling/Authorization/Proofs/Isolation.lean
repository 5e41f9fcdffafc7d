import Authorization.Proofs.Connections

/-! Isolation of sessions. A change reaches the holdings of the session that it is addressed to, and
with them every connected session, but of the profiles only that session's own. A session that is
not connected with it answers as if there had been no change, then and ever after. -/

set_option autoImplicit false

namespace Authorization.Registry

/-! ## One change -/

theorem session?_mutate_of_ne {registry : Registry} {place handle : Nat} {session : Session}
    (found : registry.session? handle = some session) (other : handle ≠ place)
    (mutation : Mutation) :
    ∃ changed, (registry.mutate place mutation).session? handle = some changed ∧
      changed.toProfile = session.toProfile ∧
      (registry.familyOf? place ≠ registry.familyOf? handle → changed = session) := by
  rw [session?_mutate, found, Option.map_some, if_neg other.symm]
  exact ⟨_, rfl, rfl, fun apart => by rw [if_neg apart]⟩

/-! ## Whole runs -/

def SameOutside (family : Nat) (member other : Member) : Prop :=
  member.family = other.family ∧ (member.family ≠ family → member = other)

/-- The registries differ at most in the holdings of one family and in the profiles of its
members. -/
structure AgreesOutside (family : Nat) (first second : Registry) : Prop where
  overrides : first.overrides = second.overrides
  members : List.Forall₂ (SameOutside family) first.members second.members
  stores : first.families.length = second.families.length
  families : ∀ index, index ≠ family → first.families[index]? = second.families[index]?

theorem SameOutside.refl (family : Nat) (member : Member) : SameOutside family member member :=
  ⟨rfl, fun _ => rfl⟩

namespace AgreesOutside

variable {family : Nat} {first second : Registry}

theorem append (agrees : AgreesOutside family first second) {member other : Member}
    (same : SameOutside family member other) :
    AgreesOutside family { first with members := first.members ++ [member] }
      { second with members := second.members ++ [other] } where
  overrides := agrees.overrides
  members := List.rel_append agrees.members (.cons same .nil)
  stores := agrees.stores
  families := agrees.families

theorem register (agrees : AgreesOutside family first second) (session : Session) :
    AgreesOutside family (first.register session) (second.register session) where
  overrides := agrees.overrides
  members := by
    rw [Registry.register, Registry.register, agrees.stores]
    exact List.rel_append agrees.members (.cons (.refl family _) .nil)
  stores := by
    rw [Registry.register, Registry.register, List.length_append, List.length_append, agrees.stores]
  families := by
    intro index apart
    simp only [Registry.register, List.getElem?_append, agrees.families index apart, agrees.stores]

theorem registerMade {ε : Type} (agrees : AgreesOutside family first second)
    (made : Except ε Session) :
    AgreesOutside family (first.registerMade made) (second.registerMade made) := by
  cases made with
  | ok session => exact agrees.register session
  | error fault => exact agrees

theorem derive (agrees : AgreesOutside family first second) (handle : Nat) (principal : Principal)
    (roles : RoleSet) (locale : String) :
    AgreesOutside family (first.derive handle principal roles locale)
      (second.derive handle principal roles locale) := by
  rcases Pairs.place_cases agrees.members handle with ⟨none, none'⟩ |
    ⟨member, other, found, found', same, alike⟩
  · rw [Registry.derive, Registry.derive, none, none']
    exact agrees
  · rw [derive_of_member found, derive_of_member found']
    refine agrees.append ⟨same, fun apart => ?_⟩
    rw [alike apart]

theorem mutate (agrees : AgreesOutside family first second) (handle : Nat) (mutation : Mutation) :
    AgreesOutside family (first.mutate handle mutation) (second.mutate handle mutation) := by
  rcases Pairs.place_cases agrees.members handle with ⟨none, none'⟩ |
    ⟨member, other, found, found', same, -⟩
  · rw [mutate_of_none none, mutate_of_none none']
    exact agrees
  · rw [mutate_of_member found, mutate_of_member found']
    refine ⟨agrees.overrides, ?_, ?_, fun index apart => ?_⟩
    · refine Pairs.modify agrees.members handle fun member other _ _ ⟨same, alike⟩ => ?_
      exact ⟨same, fun apart => by rw [alike apart]⟩
    · simp only [List.length_modify, agrees.stores]
    · simp only [List.getElem?_modify, agrees.families index apart, same]

theorem step (agrees : AgreesOutside family first second) (command : Command) :
    AgreesOutside family (first.step command) (second.step command) := by
  cases command with
  | build builder now => exact agrees.registerMade _
  | restore snapshot context => exact agrees.registerMade _
  | parse text => exact agrees.registerMade _
  | derive handle principal roles locale => exact agrees.derive handle principal roles locale
  | mutate handle mutation => exact agrees.mutate handle mutation
  | enter session values =>
    exact ⟨congrArg (·.enter session values) agrees.overrides, agrees.members, agrees.stores,
      agrees.families⟩
  | leave session =>
    exact ⟨congrArg (·.leave session) agrees.overrides, agrees.members, agrees.stores,
      agrees.families⟩

theorem run (agrees : AgreesOutside family first second) (commands : List Command) :
    AgreesOutside family (first.run commands) (second.run commands) := by
  induction commands generalizing first second with
  | nil => exact agrees
  | cons command rest ih => exact ih (agrees.step command)

theorem session?_eq (agrees : AgreesOutside family first second) {handle : Nat}
    (apart : first.familyOf? handle ≠ some family) :
    first.session? handle = second.session? handle := by
  rcases Pairs.place_cases agrees.members handle with ⟨none, none'⟩ |
    ⟨member, other, found, found', -, alike⟩
  · rw [session?, session?, none, none']
    rfl
  · rw [familyOf?_of_member found] at apart
    have other' : member.family ≠ family := fun same => apart (congrArg some same)
    have holdings := agrees.families member.family other'
    rw [session?, session?, found, found', ← alike other']
    simp only [Option.bind_eq_bind, Option.bind_some, holdings]

end AgreesOutside

theorem agreesOutside_mutate {registry : Registry} {place : Nat} {owner : Member}
    (addressed : registry.members[place]? = some owner) (mutation : Mutation) :
    AgreesOutside owner.family (registry.mutate place mutation) registry := by
  have alike : List.Forall₂ (SameOutside owner.family) registry.members registry.members :=
    List.forall₂_same.mpr fun member _ => .refl owner.family member
  have members : List.Forall₂ (SameOutside owner.family)
      (registry.members.modify place fun member =>
        { member with profile := member.profile.apply mutation })
      (registry.members.modify place id) := by
    refine Pairs.modify alike place fun member other found _ ⟨same, _⟩ => ⟨same, fun apart => ?_⟩
    -- The changed member is the one addressed, and so it is of the family of the difference.
    rw [addressed] at found
    exact absurd (congrArg Member.family (Option.some.inj found)).symm apart
  rw [List.modify_id] at members
  rw [mutate_of_member addressed]
  exact ⟨rfl, members, List.length_modify .., fun index apart => by simp [apart.symm]⟩

/-- For a session that is not connected with the changed one, a run is as good as the run without
the change. -/
theorem run_without {before after : List Command} {place handle : Nat} {mutation : Mutation}
    (apart : ¬ Connected (before ++ .mutate place mutation :: after) place handle) :
    (empty.run (before ++ .mutate place mutation :: after)).session? handle =
        (empty.run (before ++ after)).session? handle ∧
      (empty.run (before ++ .mutate place mutation :: after)).overrides =
        (empty.run (before ++ after)).overrides := by
  have split : empty.run (before ++ .mutate place mutation :: after) =
      ((empty.run before).mutate place mutation).run after := run_append ..
  rw [split, run_append]
  cases addressed : (empty.run before).members[place]? with
  | none =>
    rw [mutate_of_none addressed]
    exact ⟨rfl, rfl⟩
  | some owner =>
    have agrees := (agreesOutside_mutate addressed mutation).run after
    refine ⟨agrees.session?_eq fun uses => apart ?_, agrees.overrides⟩
    -- The two would use the same holdings at the end, and so they would be connected.
    have owned := familyOf?_step (familyOf?_of_member addressed) (.mutate place mutation)
    have uses' : (empty.run (before ++ .mutate place mutation :: after)).familyOf? place =
        some owner.family := by
      rw [split]
      exact familyOf?_run owned after
    exact (connected_iff uses').mpr (by rw [split, uses])

/-! ## Sharing and isolation -/

theorem Connected.session {commands : List Command} {first second : Nat} {session : Session}
    (connected : Connected commands first second)
    (found : (empty.run commands).session? first = some session) :
    ∃ other, (empty.run commands).session? second = some other ∧
      other.toHoldings = session.toHoldings := by
  obtain ⟨member, place, held, -⟩ := (session?_eq_some_iff ..).mp found
  have uses := (connected_iff (familyOf?_of_member place)).mp connected
  obtain ⟨member', place', same⟩ := Option.map_eq_some_iff.mp uses
  refine ⟨⟨member'.profile, session.toHoldings⟩, (session?_eq_some_iff ..).mpr ?_, rfl⟩
  exact ⟨member', place', same ▸ held, rfl⟩

/-- Whatever was done before: connected sessions show the same levels, constraints and durable
attributes; a change leaves the profile of every other session alone, and all of every session that
is not connected with the changed one, whose later answers do not depend on the change either. -/
theorem isolated_of_run (commands : List Command) :
    (∀ first second session, Connected commands first second →
      (empty.run commands).session? first = some session →
      ∃ other, (empty.run commands).session? second = some other ∧
        (∀ kind target,
          other.permissions.level? kind target = session.permissions.level? kind target) ∧
        (∀ kind, other.permissions.levelsOf kind = session.permissions.levelsOf kind) ∧
        (∀ entity, other.constraints.list entity = session.constraints.list entity) ∧
        other.attributes = session.attributes) ∧
    (∀ place handle mutation session, handle ≠ place →
      (empty.run commands).session? handle = some session →
      ∃ changed, ((empty.run commands).mutate place mutation).session? handle = some changed ∧
        changed.toProfile = session.toProfile ∧
        (¬ Connected commands place handle → changed = session ∧
          ∀ query, changed.answer ((empty.run commands).mutate place mutation).overrides query =
            session.answer (empty.run commands).overrides query)) ∧
    (∀ before after place handle mutation,
      commands = before ++ .mutate place mutation :: after → ¬ Connected commands place handle →
      (empty.run commands).session? handle = (empty.run (before ++ after)).session? handle ∧
      (empty.run commands).overrides = (empty.run (before ++ after)).overrides) := by
  refine ⟨?_, ?_, ?_⟩
  · intro first second session connected found
    obtain ⟨other, found', same⟩ := connected.session found
    refine ⟨other, found', ?_⟩
    rw [same]
    exact ⟨fun _ _ => rfl, fun _ => rfl, fun _ => rfl, rfl⟩
  · intro place handle mutation session other found
    obtain ⟨changed, found', profile, alone⟩ := session?_mutate_of_ne found other mutation
    refine ⟨changed, found', profile, fun apart => ?_⟩
    have same : changed = session := alone fun shared => apart ?_
    · rw [same, overrides_mutate]
      exact ⟨rfl, fun _ => rfl⟩
    · obtain ⟨member, here, -, -⟩ := (session?_eq_some_iff ..).mp found
      have uses := familyOf?_of_member here
      exact ((connected_iff uses).mpr (shared.trans uses)).reverse
  · rintro before after place handle mutation rfl apart
    exact run_without apart

/-- A grant through a derived session, seen by its origin and not by a session restored under the
same identifier. -/
theorem isolated_of_run_restored :
    let made : List Command := [
      .build { SessionBuilder.empty with
        id := some (.ofNat 1)
        principal := some ⟨.ofNat 2, "ada", none, none, none⟩ } ⟨⟨2024, 1, 2⟩, 3, 4, 5, 0⟩,
      .derive 0 ⟨.ofNat 3, "grace", none, none, none⟩ .empty "de",
      .restore {
        id := .ofNat 1
        principal := ⟨.ofNat 2, "ada", none, none, none⟩
        substituted := none
        roles := .empty
        environment := .empty
        createdAt := ⟨⟨2024, 1, 2⟩, 3, 4, 5, 0⟩
        system := false
        permissions := .ofFunction fun _ => none
        constraints := []
        attributes := ∅ } .standard]
    let grant : Command := .mutate 1 (.grant .screen "orders" none .permit)
    (∃ origin, (empty.run (made ++ [grant])).session? 0 = some origin ∧
      origin.permissions.level? .screen "orders" = some .permit) ∧
    (empty.run (made ++ [grant])).session? 2 = (empty.run (made ++ [])).session? 2 := by
  intro made grant
  obtain ⟨shared, -, without⟩ := isolated_of_run (made ++ [grant])
  have granted : ((empty.run (made ++ [grant])).session? 1).map
      (·.permissions.level? .screen "orders") = some (some .permit) := by decide +kernel
  obtain ⟨derived, found, level⟩ := Option.map_eq_some_iff.mp granted
  have uses : (empty.run (made ++ [grant])).familyOf? 1 = some 0 := by decide +kernel
  constructor
  · obtain ⟨origin, found', levels, -⟩ :=
      shared 1 0 derived ((connected_iff uses).mpr (by decide +kernel)) found
    exact ⟨origin, found', (levels .screen "orders").trans level⟩
  · refine (without made [] 1 2 _ rfl fun connected => ?_).1
    have other : (empty.run (made ++ [grant])).familyOf? 2 ≠ some 0 := by decide +kernel
    exact other ((connected_iff uses).mp connected)

end Authorization.Registry
