import Authorization.Proofs.Connections
import Authorization.Proofs.Requests

/-! Requests win while they last, and leave no trace. What becomes of the overrides and what becomes
of everything else are two runs that do not depend on each other. Only the environment values that a
session shows come from both. -/

set_option autoImplicit false

namespace Authorization

/-! ## Two runs in one -/

def Registry.withOverrides (registry : Registry) (overrides : RequestOverrides) : Registry :=
  { registry with overrides := overrides }

def Archive.withOverrides (archive : Archive) (overrides : RequestOverrides) : Archive :=
  { archive with registry := archive.registry.withOverrides overrides }

namespace Registry

theorem registerMade_withOverrides {ε : Type} (registry : Registry) (overrides : RequestOverrides)
    (made : Except ε Session) :
    (registry.withOverrides overrides).registerMade made =
      (registry.registerMade made).withOverrides overrides := by
  cases made <;> rfl

/-- A command does to the overrides what it does, and to the rest what it would do without them. -/
theorem step_withOverrides (registry : Registry) (overrides : RequestOverrides) (command : Command) :
    (registry.withOverrides overrides).step command =
      (registry.step command).withOverrides (overrides.run command.change?.toList) := by
  -- Where a command looks at the registry it looks at its members, which are the same ones.
  cases command with
  | build builder now => exact registry.registerMade_withOverrides overrides _
  | restore snapshot context => exact registry.registerMade_withOverrides overrides _
  | parse text => exact registry.registerMade_withOverrides overrides _
  | derive handle principal roles locale =>
    cases found : registry.members[handle]? with
    | none =>
      have found' : (registry.withOverrides overrides).members[handle]? = none := found
      rw [step, step, derive, derive, found, found']
      rfl
    | some member =>
      have found' : (registry.withOverrides overrides).members[handle]? = some member := found
      rw [step, step, derive_of_member found, derive_of_member found']
      rfl
  | mutate handle mutation =>
    cases found : registry.members[handle]? with
    | none =>
      have found' : (registry.withOverrides overrides).members[handle]? = none := found
      rw [step, step, mutate_of_none found, mutate_of_none found']
      rfl
    | some member =>
      have found' : (registry.withOverrides overrides).members[handle]? = some member := found
      rw [step, step, mutate_of_member found, mutate_of_member found']
      rfl
  | enter session values => rfl
  | leave session => rfl

theorem step_of_change? {command : Command} {change : OverrideChange}
    (requests : command.change? = some change) (registry : Registry) :
    registry.step command = registry.withOverrides (registry.overrides.apply change) := by
  cases command with
  | enter session values | leave session =>
    cases requests
    rfl
  | build | restore | parse | derive | mutate => cases requests

end Registry

namespace Archive

theorem undergo_withOverrides (archive : Archive) (overrides : RequestOverrides)
    (occurrence : Occurrence) :
    (archive.withOverrides overrides).undergo occurrence =
      (archive.undergo occurrence).withOverrides (overrides.run occurrence.change?.toList) := by
  have performed : ∀ command, (archive.withOverrides overrides).perform command =
      (archive.perform command).withOverrides (overrides.run command.change?.toList) := by
    intro command
    rw [perform, perform, withOverrides, withOverrides]
    exact congrArg (Archive.mk · archive.snapshots)
      (archive.registry.step_withOverrides overrides command)
  cases occurrence with
  | command command => exact performed command
  | capture handle =>
    have found : (archive.withOverrides overrides).registry.session? handle =
      archive.registry.session? handle := rfl
    rw [undergo, undergo, step, step, found]
    cases archive.registry.session? handle <;> rfl
  | restore place context =>
    have found : (archive.withOverrides overrides).snapshots[place]? = archive.snapshots[place]? := rfl
    rw [undergo, undergo, step, step, found]
    cases archive.snapshots[place]? with
    | none => rfl
    | some snapshot => exact performed (.restore snapshot context)

theorem serve_withOverrides (archive : Archive) (overrides : RequestOverrides)
    (occurrences : List Occurrence) :
    (archive.withOverrides overrides).serve occurrences =
      (archive.serve occurrences).withOverrides
        (overrides.run (Occurrence.changes occurrences)) := by
  induction occurrences generalizing archive overrides with
  | nil => rfl
  | cons occurrence rest ih =>
    have changes : Occurrence.changes (occurrence :: rest) =
        occurrence.change?.toList ++ Occurrence.changes rest := by
      rw [Occurrence.changes, List.filterMap_cons]
      cases occurrence.change? <;> rfl
    show ((archive.withOverrides overrides).undergo occurrence).serve rest = _
    rw [undergo_withOverrides, ih, changes, RequestOverrides.run_append]
    rfl

theorem overrides_serve (archive : Archive) (occurrences : List Occurrence) :
    (archive.serve occurrences).registry.overrides =
      archive.registry.overrides.run (Occurrence.changes occurrences) :=
  congrArg (·.registry.overrides)
    (archive.serve_withOverrides archive.registry.overrides occurrences)

theorem undergo_of_change? {occurrence : Occurrence} {change : OverrideChange}
    (requests : occurrence.change? = some change) (archive : Archive) :
    archive.undergo occurrence =
      archive.withOverrides (archive.registry.overrides.apply change) := by
  cases occurrence with
  | command command =>
    exact congrArg (Archive.mk · archive.snapshots)
      (Registry.step_of_change? requests archive.registry)
  | capture | restore => cases requests

/-- Everything but the overrides is as if there had been no requests. -/
theorem withOverrides_serve_withoutRequests (archive : Archive) (overrides : RequestOverrides)
    (occurrences : List Occurrence) :
    (archive.serve (Occurrence.withoutRequests occurrences)).withOverrides overrides =
      (archive.serve occurrences).withOverrides overrides := by
  induction occurrences generalizing archive with
  | nil => rfl
  | cons occurrence rest ih =>
    cases requests : occurrence.change? with
    | none =>
      rw [Occurrence.withoutRequests, List.filter_cons_of_pos (by rw [requests]; rfl)]
      exact ih (archive.undergo occurrence)
    | some change =>
      rw [Occurrence.withoutRequests, List.filter_cons_of_neg (by rw [requests]; exact nofun)]
      show _ = ((archive.undergo occurrence).serve rest).withOverrides overrides
      rw [undergo_of_change? requests, serve_withOverrides]
      exact ih archive

end Archive

/-! ## Sessions of one family -/

namespace Registry

/-- Every family has an owner's identifier and context, and so have its sessions. -/
def OwnedBy (registry : Registry) (owners : Nat → SessionId × AccessContext) : Prop :=
  ∀ member ∈ registry.members,
    (member.profile.id, member.profile.context) = owners member.family

theorem exists_owners_step {registry : Registry} (sound : registry.Sound)
    {owners : Nat → SessionId × AccessContext} (owned : registry.OwnedBy owners)
    (command : Command) : ∃ owners', (registry.step command).OwnedBy owners' := by
  rcases registry.step_cases command with ⟨session, -, stepped⟩ |
    ⟨handle, member, principal, roles, locale, -, found, stepped⟩ |
    ⟨handle, member, mutation, -, -, stepped⟩ | ⟨overrides, stepped⟩
  · rw [stepped]
    -- Nobody is linked to the new family yet, so that giving it an owner concerns no other session.
    refine ⟨Function.update owners registry.families.length (session.id, session.context), ?_⟩
    rw [OwnedBy, register, List.forall_mem_append, List.forall_mem_singleton]
    refine ⟨fun member known => ?_, ?_⟩
    · rw [Function.update_of_ne (Nat.ne_of_lt (sound.linked member known)), owned member known]
    · rw [Function.update_self]
  · rw [stepped]
    refine ⟨owners, List.forall_mem_append.mpr ⟨owned, List.forall_mem_singleton.mpr ?_⟩⟩
    exact owned member (List.mem_of_getElem? found)
  · rw [stepped]
    refine ⟨owners, forall_mem_modify handle owned fun member same => ?_⟩
    rw [← same]
    cases mutation <;> rfl
  · rw [stepped]
    exact ⟨owners, owned⟩

theorem exists_owners_run {registry : Registry} (sound : registry.Sound)
    {owners : Nat → SessionId × AccessContext} (owned : registry.OwnedBy owners)
    (commands : List Command) : ∃ owners', (registry.run commands).OwnedBy owners' := by
  induction commands generalizing registry owners with
  | nil => exact ⟨owners, owned⟩
  | cons command rest ih =>
    obtain ⟨owners', owned'⟩ := exists_owners_step sound owned command
    exact ih (sound.step command) owned'

theorem same_owner_of_run {commands : List Command} {handle other : Nat} {session view : Session}
    (found : (empty.run commands).session? handle = some session)
    (found' : (empty.run commands).session? other = some view)
    (related : (empty.run commands).familyOf? other = (empty.run commands).familyOf? handle) :
    view.id = session.id ∧ view.context = session.context := by
  have nobody : empty.OwnedBy fun _ => ⟨.ofNat 0, .standard⟩ := fun _ known => nomatch known
  obtain ⟨owners, owned⟩ := exists_owners_run sound_empty nobody commands
  obtain ⟨member, place, -, profile⟩ := (session?_eq_some_iff ..).mp found
  obtain ⟨member', place', -, profile'⟩ := (session?_eq_some_iff ..).mp found'
  rw [familyOf?_of_member place, familyOf?_of_member place', Option.some.injEq] at related
  rw [profile, profile', ← Prod.mk.injEq, owned member (List.mem_of_getElem? place),
    owned member' (List.mem_of_getElem? place'), related]

end Registry

namespace Archive

theorem exists_run_of_undergo (archive : Archive) (occurrence : Occurrence) :
    ∃ commands, (archive.undergo occurrence).registry = archive.registry.run commands := by
  cases occurrence with
  | command command => exact ⟨[command], rfl⟩
  | capture handle =>
    refine ⟨[], ?_⟩
    rw [undergo, step]
    split <;> rfl
  | restore place context =>
    rw [undergo, step]
    split
    · rename_i snapshot _
      exact ⟨[.restore snapshot context], rfl⟩
    · exact ⟨[], rfl⟩

theorem exists_run_of_serve (archive : Archive) (occurrences : List Occurrence) :
    ∃ commands, (archive.serve occurrences).registry = archive.registry.run commands := by
  induction occurrences generalizing archive with
  | nil => exact ⟨[], rfl⟩
  | cons occurrence rest ih =>
    obtain ⟨commands, first⟩ := archive.exists_run_of_undergo occurrence
    obtain ⟨others, last⟩ := ih (archive.undergo occurrence)
    refine ⟨commands ++ others, ?_⟩
    rw [Registry.run_append, ← first, ← last]
    rfl

end Archive

/-! ## What sessions show -/

namespace Profile

variable {profile : Profile} {changes : List OverrideChange}

theorem environmentValue_of_inForce (consults : profile.context.scope = .overrides)
    {values : Environment} (inForce : OverrideChange.InForce changes profile.id values)
    (field : EnvironmentField) :
    profile.environmentValue (RequestOverrides.empty.run changes) field =
      (values.get field).or (profile.environment.get field) := by
  rw [profile.environmentValue_of_overrides consults,
    RequestOverrides.values?_run_of_inForce inForce, Option.bind_some]

theorem environmentValue_of_not_inForce (consults : profile.context.scope = .overrides)
    (lapsed : ∀ values, ¬ OverrideChange.InForce changes profile.id values)
    (field : EnvironmentField) :
    profile.environmentValue (RequestOverrides.empty.run changes) field =
      profile.environment.get field := by
  rw [profile.environmentValue_of_overrides consults,
    RequestOverrides.values?_run_of_not_inForce lapsed, Option.bind_none, Option.none_or]

end Profile

/-- Of all questions, only those for environment values have to do with overrides. -/
theorem Session.answer_eq_of_overrides (session : Session) {query : Query}
    (other : ∀ field, query ≠ .environmentValue field) (overrides overrides' : RequestOverrides) :
    session.answer overrides query = session.answer overrides' query := by
  cases query with
  | environmentValue field => exact absurd rfl (other field)
  | _ => rfl

/-- A session that consults the overrides shows, field by field, what the most recent request for it
supplied if that has not been left, and what it has stored where it supplied nothing. So does every
session that shares its holdings. Without requests, all snapshots, all sessions and all answers to
other questions would be the same. -/
theorem Archive.environmentValue_of_serve (occurrences : List Occurrence) :
    let busy := Archive.empty.serve occurrences
    let quiet := Archive.empty.serve (Occurrence.withoutRequests occurrences)
    (∀ handle session, busy.registry.session? handle = some session →
      session.context.scope = .overrides →
      ∀ other view, busy.registry.session? other = some view →
        busy.registry.familyOf? other = busy.registry.familyOf? handle →
        view.id = session.id ∧
        (∀ values, OverrideChange.InForce (Occurrence.changes occurrences) session.id values →
          ∀ field, view.environmentValue busy.registry.overrides field =
            (values.get field).or (view.environment.get field)) ∧
        ((∀ values,
            ¬ OverrideChange.InForce (Occurrence.changes occurrences) session.id values) →
          ∀ field, view.environmentValue busy.registry.overrides field =
            view.environment.get field)) ∧
    busy.snapshots = quiet.snapshots ∧
    (∀ handle, busy.registry.session? handle = quiet.registry.session? handle) ∧
    ∀ handle session, busy.registry.session? handle = some session →
      ∀ query, (∀ field, query ≠ .environmentValue field) →
        session.answer busy.registry.overrides query =
          session.answer quiet.registry.overrides query := by
  intro busy quiet
  have apart : quiet.withOverrides .empty = busy.withOverrides .empty :=
    Archive.empty.withOverrides_serve_withoutRequests .empty occurrences
  have snapshots : busy.snapshots = quiet.snapshots := by
    show (busy.withOverrides .empty).snapshots = (quiet.withOverrides .empty).snapshots
    rw [apart]
  have sessions : ∀ handle, busy.registry.session? handle = quiet.registry.session? handle := by
    intro handle
    show (busy.withOverrides .empty).registry.session? handle =
      (quiet.withOverrides .empty).registry.session? handle
    rw [apart]
  refine ⟨?_, snapshots, sessions, fun handle session _ query other =>
    session.answer_eq_of_overrides other _ _⟩
  intro handle session found consults other view found' related
  have overrides : busy.registry.overrides =
      RequestOverrides.empty.run (Occurrence.changes occurrences) :=
    Archive.empty.overrides_serve occurrences
  obtain ⟨commands, reached⟩ := Archive.empty.exists_run_of_serve occurrences
  have reached : busy.registry = Registry.empty.run commands := reached
  obtain ⟨id, context⟩ : view.id = session.id ∧ view.context = session.context := by
    rw [reached] at found found' related
    exact Registry.same_owner_of_run found found' related
  have consults' : view.context.scope = .overrides := by rw [context, consults]
  rw [overrides, ← id]
  exact ⟨rfl, fun values inForce => Profile.environmentValue_of_inForce consults' inForce,
    Profile.environmentValue_of_not_inForce consults'⟩

/-- A session is derived and copied while a request supplies another locale, and then the request is
over. -/
theorem Archive.environmentValue_of_serve_copied :
    let past : List Occurrence := [
      .command (.build { SessionBuilder.empty with
        id := some (.ofNat 1)
        principal := some ⟨.ofNat 2, "ada", none, some "en", none⟩
        context := ⟨staticRules, .overrides⟩ } ⟨⟨2024, 1, 2⟩, 3, 4, 5, 0⟩),
      .command (.enter (.ofNat 1) { Environment.empty with locale := some "fr" }),
      .command (.derive 0 ⟨.ofNat 3, "grace", none, none, some "Europe/London"⟩ .empty "de"),
      .command (.mutate 1 (.setEnvironment .address (some "192.0.2.1"))),
      .capture 1,
      .restore 0 ⟨staticRules, .overrides⟩]
    let busy := Archive.empty.serve past
    let idle := Archive.empty.serve (past ++ [.command (.leave (.ofNat 1))])
    ∃ view copy : Session,
      busy.registry.session? 1 = some view ∧
      view.environmentValue busy.registry.overrides .locale = some "fr" ∧
      view.environmentValue busy.registry.overrides .timezone = some "Europe/London" ∧
      idle.registry.session? 2 = some copy ∧
      copy.environmentValue idle.registry.overrides .locale = some "de" ∧
      busy.snapshots = (Archive.empty.serve (Occurrence.withoutRequests past)).snapshots := by
  intro past busy idle
  have entered : OverrideChange.InForce (Occurrence.changes past) (.ofNat 1)
      { Environment.empty with locale := some "fr" } :=
    ⟨[], [], rfl, nofun⟩
  have left : ∀ values, ¬ OverrideChange.InForce
      (Occurrence.changes (past ++ [.command (.leave (.ofNat 1))])) (.ofNat 1) values := by
    intro values inForce
    have held := RequestOverrides.empty.values?_run_of_inForce inForce
    have gone : (RequestOverrides.empty.run (Occurrence.changes
        (past ++ [.command (.leave (.ofNat 1))]))).values? (.ofNat 1) = none := rfl
    rw [gone] at held
    cases held
  obtain ⟨during, snapshots, -, -⟩ := environmentValue_of_serve past
  obtain ⟨afterwards, -, -, -⟩ :=
    environmentValue_of_serve (past ++ [.command (.leave (.ofNat 1))])
  obtain ⟨-, shown, -⟩ := during 0 _ rfl rfl 1 _ rfl rfl
  obtain ⟨-, -, stored⟩ := afterwards 2 _ rfl rfl 2 _ rfl rfl
  exact ⟨_, _, rfl, shown _ entered .locale, shown _ entered .timezone, rfl, stored left .locale,
    snapshots⟩

end Authorization
