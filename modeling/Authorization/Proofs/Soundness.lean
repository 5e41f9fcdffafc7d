import Authorization.Proofs.Constraints
import Authorization.Proofs.Runs

/-! What holds of every session that a run can reach, however it was made and whatever was done
through it or through a session that shares its holdings. -/

set_option autoImplicit false

namespace Authorization

/-- The rules of a session's own data. -/
structure Profile.Sound (profile : Profile) : Prop where
  id : profile.id.isNil = false
  login : Text.isBlank profile.principal.login = false
  substituted : ∀ user, profile.substituted = some user → user.id ≠ profile.principal.id
  categories : profile.categories = profile.roles.categories

structure Registry.Sound (registry : Registry) : Prop where
  members : ∀ member ∈ registry.members, member.profile.Sound
  linked : ∀ member ∈ registry.members, member.family < registry.families.length
  families : ∀ holdings ∈ registry.families, holdings.constraints.WellFormed

namespace Profile.Sound

variable {profile : Profile}

theorem derive (sound : profile.Sound) (principal : Principal) (roles : RoleSet) (locale : String) :
    (profile.derive principal roles locale).Sound where
  id := sound.id
  login := sound.login
  substituted := by
    intro user found
    rw [Profile.derive] at found ⊢
    dsimp only at found ⊢
    -- The substitute of the origin is forgotten, so that only the new user matters.
    split at found
    · cases found
    · rename_i apart
      cases found
      simpa [Principal.isSameUser] using apart
  categories := rfl

theorem apply (sound : profile.Sound) (mutation : Mutation) : (profile.apply mutation).Sound := by
  cases mutation <;> exact ⟨sound.id, sound.login, sound.substituted, sound.categories⟩

end Profile.Sound

theorem SessionBuilder.sound_of_build {builder : SessionBuilder} {now : Instant} {session : Session}
    (made : builder.build now = .ok session) :
    session.toProfile.Sound ∧ session.constraints.WellFormed := by
  obtain ⟨id, principal, -, named, -, login, rfl⟩ := (build_eq_ok_iff builder now session).mp made
  refine ⟨⟨named, login, ?_, rfl⟩, ConstraintIndex.wellFormed_empty⟩
  intro user found
  cases found

theorem SessionSnapshot.sound_of_restore {snapshot : SessionSnapshot} {context : AccessContext}
    {session : Session} (made : snapshot.restore context = .ok session) :
    session.toProfile.Sound ∧ session.constraints.WellFormed := by
  obtain ⟨named, login, constraints, loaded, rfl⟩ :=
    (restore_eq_ok_iff snapshot context session).mp made
  refine ⟨⟨named, login, ?_, rfl⟩, .ofSnapshot loaded⟩
  intro user found
  obtain ⟨-, apart⟩ := Option.filter_eq_some_iff.mp found
  show user.id ≠ snapshot.principal.id
  simpa [Principal.isSameUser] using apart

theorem Command.Makes.sound {session : Session} {command : Command} (makes : command.Makes session) :
    session.toProfile.Sound ∧ session.constraints.WellFormed := by
  cases command with
  | build builder now => exact SessionBuilder.sound_of_build makes
  | restore snapshot context => exact SessionSnapshot.sound_of_restore makes
  | parse text =>
    obtain ⟨snapshot, restored⟩ := Session.restored_of_parse makes
    exact SessionSnapshot.sound_of_restore restored
  | derive | mutate | enter | leave => exact makes.elim

theorem Holdings.wellFormed_apply {holdings : Holdings} (formed : holdings.constraints.WellFormed)
    (mutation : Mutation) : (holdings.apply mutation).constraints.WellFormed := by
  cases mutation with
  | addConstraint constraint =>
    rw [apply]
    split
    · rename_i grown added
      exact formed.add added
    · exact formed
  | removeConstraint entity id => exact formed.remove entity id
  | grant | revoke | setAttribute | removeAttribute | setLocal | removeLocal | setEnvironment =>
    exact formed

theorem forall_mem_modify {α : Type} {rule : α → Prop} {values : List α} {change : α → α}
    (place : Nat) (all : ∀ value ∈ values, rule value)
    (kept : ∀ value, rule value → rule (change value)) :
    ∀ value ∈ values.modify place change, rule value := by
  intro value member
  obtain ⟨index, found⟩ := List.mem_iff_getElem?.mp member
  rw [List.getElem?_modify, Option.map_eq_map, Option.map_eq_some_iff] at found
  obtain ⟨old, held, rfl⟩ := found
  have before := all old (List.mem_of_getElem? held)
  split
  · exact kept old before
  · exact before

namespace Registry

theorem sound_empty : empty.Sound := by
  constructor <;> intro _ member <;> cases member

namespace Sound

variable {registry : Registry}

theorem register (sound : registry.Sound) {session : Session} (profile : session.toProfile.Sound)
    (formed : session.constraints.WellFormed) : (registry.register session).Sound where
  members := List.forall_mem_append.mpr ⟨sound.members, List.forall_mem_singleton.mpr profile⟩
  linked := by
    rw [Registry.register, List.length_append, List.forall_mem_append, List.forall_mem_singleton]
    exact ⟨fun member found => Nat.lt_succ_of_lt (sound.linked member found), Nat.lt_succ_self _⟩
  families := List.forall_mem_append.mpr ⟨sound.families, List.forall_mem_singleton.mpr formed⟩

theorem beside (sound : registry.Sound) {member : Member} (found : member ∈ registry.members)
    {profile : Profile} (other : profile.Sound) :
    Sound { registry with members := registry.members ++ [⟨profile, member.family⟩] } where
  members := List.forall_mem_append.mpr ⟨sound.members, List.forall_mem_singleton.mpr other⟩
  linked := List.forall_mem_append.mpr
    ⟨sound.linked, List.forall_mem_singleton.mpr (sound.linked member found)⟩
  families := sound.families

theorem mutate (sound : registry.Sound) (place family : Nat) (mutation : Mutation) :
    Sound { registry with
      members := registry.members.modify place fun member =>
        { member with profile := member.profile.apply mutation }
      families := registry.families.modify family fun holdings => holdings.apply mutation } where
  members := forall_mem_modify place sound.members fun _ kept => kept.apply mutation
  linked := by
    rw [List.length_modify]
    exact forall_mem_modify place sound.linked fun _ kept => kept
  families := forall_mem_modify family sound.families fun _ formed =>
    Holdings.wellFormed_apply formed mutation

theorem step (sound : registry.Sound) (command : Command) : (registry.step command).Sound := by
  -- No case looks at how a session came to be: what its maker checked is all that is needed.
  rcases registry.step_cases command with ⟨session, makes, stepped⟩ |
    ⟨handle, member, principal, roles, locale, -, found, stepped⟩ |
    ⟨handle, member, mutation, -, -, stepped⟩ | ⟨overrides, stepped⟩
  · rw [stepped]
    exact sound.register makes.sound.1 makes.sound.2
  · rw [stepped]
    have origin : member ∈ registry.members := List.mem_of_getElem? found
    exact sound.beside origin ((sound.members member origin).derive principal roles locale)
  · rw [stepped]
    exact sound.mutate handle member.family mutation
  · rw [stepped]
    exact ⟨sound.members, sound.linked, sound.families⟩

theorem run (sound : registry.Sound) (commands : List Command) : (registry.run commands).Sound := by
  induction commands generalizing registry with
  | nil => exact sound
  | cons command rest ih => exact ih (sound.step command)

theorem session (sound : registry.Sound) {handle : Nat} {session : Session}
    (found : registry.session? handle = some session) :
    session.toProfile.Sound ∧ session.constraints.WellFormed := by
  obtain ⟨member, place, held, profile⟩ := (registry.session?_eq_some_iff handle session).mp found
  rw [profile]
  exact ⟨sound.members member (List.mem_of_getElem? place),
    sound.families session.toHoldings (List.mem_of_getElem? held)⟩

end Sound

end Registry

/-! ## Sessions -/

/-- The rules of a session, with its constraints. A blank text is one without a character that is
not blank. -/
structure Session.Sound (session : Session) : Prop where
  id : session.id.isNil = false
  login : ∃ c ∈ session.principal.login.toList, Text.isBlankChar c = false
  substituted : ∀ user, session.substituted = some user → user.id ≠ session.principal.id
  roleNames : session.roles.names.Nodup
  categories : ∀ category,
    category ∈ session.categories ↔ ∃ role ∈ session.roles.roles, role.category = category
  isSuper : session.isSuper = session.roles.isSuper
  filed : ∀ (entity : String) (list : List Constraint),
    session.constraints.lists[entity]? = some list →
      list ≠ [] ∧ (∀ constraint ∈ list, constraint.entityName = entity) ∧
        ∃ c ∈ entity.toList, Text.isBlankChar c = false
  hasAnyFor : ∀ entity,
    session.constraints.hasAnyFor entity = true ↔ session.constraints.list entity ≠ []
  hasAny : session.constraints.hasAny = true ↔ session.snapshot.constraints ≠ []

theorem Text.isBlank_eq_false_iff (text : String) :
    isBlank text = false ↔ ∃ c ∈ text.toList, isBlankChar c = false := by
  rw [isBlank, List.all_eq_false]
  simp only [Bool.not_eq_true]

theorem Profile.Sound.isSuper {profile : Profile} (sound : profile.Sound) :
    profile.isSuper = profile.roles.isSuper := by
  rw [Bool.eq_iff_iff, Profile.isSuper, sound.categories, List.contains_iff_mem,
    RoleSet.mem_categories, RoleSet.isSuper, List.any_eq_true]
  simp only [decide_eq_true_eq]

theorem ConstraintIndex.Filed.entity_not_blank {entity : String} {list : List Constraint}
    (filed : Filed entity list) : Text.isBlank entity = false := by
  obtain ⟨constraint, member⟩ := List.exists_mem_of_ne_nil list filed.nonempty
  have bound := filed.bound constraint member
  rw [Constraint.isBound, filed.named constraint member] at bound
  exact Bool.not_eq_true' _ ▸ bound

/-- Whatever makes, derives and changes the sessions of a run, every one of them keeps the rules. -/
theorem Session.sound_of_run (commands : List Command) (handle : Nat) (session : Session)
    (found : (Registry.empty.run commands).session? handle = some session) : session.Sound := by
  obtain ⟨profile, formed⟩ := (Registry.sound_empty.run commands).session found
  exact {
    id := profile.id
    login := (Text.isBlank_eq_false_iff _).mp profile.login
    substituted := profile.substituted
    roleNames := session.roles.distinct
    categories := by
      intro category
      rw [profile.categories, RoleSet.mem_categories]
    isSuper := profile.isSuper
    filed := by
      intro entity list indexed
      have filed := formed entity list indexed
      exact ⟨filed.nonempty, filed.named, (Text.isBlank_eq_false_iff _).mp filed.entity_not_blank⟩
    hasAnyFor := session.constraints.hasAnyFor_iff
    hasAny := session.constraints.hasAny_iff }

/-- A derived session whose origin holds one constraint and had one refused. -/
theorem Session.sound_of_run_derived :
    ∃ session : Session,
      (Registry.empty.run [
        .build { SessionBuilder.empty with
          id := some (.ofNat 1)
          principal := some ⟨.ofNat 2, "ada", none, none, none⟩ } ⟨⟨2024, 1, 2⟩, 3, 4, 5, 0⟩,
        .mutate 0 (.addConstraint (.ofId (.ofNat 7) "order")),
        .mutate 0 (.addConstraint (.ofId (.ofNat 8) " ")),
        .derive 0 ⟨.ofNat 3, "grace", none, none, none⟩ .empty "de"]).session? 1 = some session ∧
      session.Sound := by
  refine (Option.isSome_iff_exists.mp ?_).imp fun session found =>
    ⟨found, sound_of_run _ 1 session found⟩
  decide +kernel

end Authorization
