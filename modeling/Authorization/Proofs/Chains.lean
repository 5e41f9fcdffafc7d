import Mathlib.Data.List.Induction
import Authorization.Proofs.Families

/-! Chains of substitution collapse. Whatever the length of a chain, its last session is as if it had
been derived from the first one at once, but for the timezone, which is the last one that anybody in
the chain prefers. -/

set_option autoImplicit false

namespace Authorization

/-! ## What is done between derivations -/

namespace Registry

variable {registry : Registry} {handle : Nat} {session : Session}

/-- A session is still there after a command, and its own data change only if it is addressed. -/
theorem exists_session?_step (found : registry.session? handle = some session) (command : Command) :
    ∃ later, (registry.step command).session? handle = some later ∧
      (later.toProfile = session.toProfile ∨ ∃ mutation,
        command = .mutate handle mutation ∧
          later.toProfile = session.toProfile.apply mutation) := by
  rcases registry.step_cases command with ⟨made, -, stepped⟩ |
    ⟨place, member, principal, roles, locale, rfl, -, -⟩ |
    ⟨place, member, mutation, rfl, -, -⟩ | ⟨overrides, stepped⟩
  · rw [stepped]
    exact ⟨session, session?_register_of_some found made, .inl rfl⟩
  · exact ⟨session, session?_derive_of_some found place principal roles locale, .inl rfl⟩
  · rw [step, session?_mutate, found, Option.map_some]
    refine ⟨_, rfl, ?_⟩
    dsimp only
    split
    · rename_i addressed
      exact .inr ⟨mutation, by rw [addressed], rfl⟩
    · exact .inl rfl
  · rw [stepped]
    exact ⟨session, found, .inl rfl⟩

end Registry

namespace Profile

def SameButLocal (profile other : Profile) : Prop :=
  other = { profile with localAttributes := other.localAttributes }

theorem SameButLocal.refl (profile : Profile) : profile.SameButLocal profile := rfl

theorem SameButLocal.trans {first second third : Profile} (same : first.SameButLocal second)
    (same' : second.SameButLocal third) : first.SameButLocal third := by
  rw [SameButLocal] at same same' ⊢
  rw [same', same]

theorem sameButLocal_apply (profile : Profile) {mutation : Mutation} {handle : Nat}
    (calm : (Command.mutate handle mutation).setsEnvironment = false) :
    profile.SameButLocal (profile.apply mutation) := by
  cases mutation with
  | setEnvironment field value => cases calm
  | _ => rfl

end Profile

namespace Registry

variable {registry : Registry} {handle : Nat} {session : Session}

theorem exists_session?_run (found : registry.session? handle = some session)
    {commands : List Command} (calm : ∀ command ∈ commands, command.setsEnvironment = false) :
    ∃ later, (registry.run commands).session? handle = some later ∧
      session.toProfile.SameButLocal later.toProfile := by
  induction commands generalizing registry session with
  | nil => exact ⟨session, found, .refl _⟩
  | cons command rest ih =>
    rw [List.forall_mem_cons] at calm
    obtain ⟨next, found', changed⟩ := exists_session?_step found command
    have kept : session.toProfile.SameButLocal next.toProfile := by
      rcases changed with same | ⟨mutation, rfl, applied⟩
      · rw [same]
        exact .refl _
      · rw [applied]
        exact session.sameButLocal_apply calm.1
    obtain ⟨later, found'', kept'⟩ := ih found' calm.2
    exact ⟨later, found'', kept.trans kept'⟩

end Registry

/-! ## Whom a derived session acts for -/

namespace Profile

variable {profile : Profile} {principal : Principal}

theorem acts_derive_of_ne (other : principal.id ≠ profile.principal.id) (roles : RoleSet)
    (locale : String) :
    (profile.derive principal roles locale).substituted = some principal ∧
      (profile.derive principal roles locale).current = principal := by
  have substituted : (profile.derive principal roles locale).substituted = some principal :=
    if_neg (by simpa [Principal.isSameUser] using other)
  exact ⟨substituted, by rw [current, substituted, Option.getD_some]⟩

/-- Acting for the authenticated user is acting as the one who is stored. -/
theorem acts_derive_of_eq (self : principal.id = profile.principal.id) (roles : RoleSet)
    (locale : String) :
    (profile.derive principal roles locale).substituted = none ∧
      (profile.derive principal roles locale).current = profile.principal := by
  have collapsed : (profile.derive principal roles locale).substituted = none :=
    if_pos (by simpa [Principal.isSameUser] using self)
  exact ⟨collapsed, by rw [current, collapsed, Option.getD_none]; rfl⟩

end Profile

/-! ## Chains -/

/-- The timezone that the last of the users prefers who prefer one. -/
def Link.lastTimezone (links : List Link) : Option String :=
  (links.filterMap fun link => link.principal.timezone).getLast?

theorem Link.lastTimezone_concat (links : List Link) (last : Link) :
    lastTimezone (links ++ [last]) = last.principal.timezone.or (lastTimezone links) := by
  rw [lastTimezone, List.filterMap_append, List.getLast?_append, lastTimezone]
  congr 1
  cases preferred : last.principal.timezone with
  | none => simp [preferred]
  | some timezone => simp [preferred]

/-- What every session of a chain has from the first one, as far as later ones depend on it. -/
structure Profile.Descends (origin : Profile) (links : List Link) (profile : Profile) : Prop where
  id : profile.id = origin.id
  principal : profile.principal = origin.principal
  createdAt : profile.createdAt = origin.createdAt
  system : profile.system = origin.system
  context : profile.context = origin.context
  timezone : profile.environment.timezone =
    (Link.lastTimezone links).or origin.environment.timezone
  address : profile.environment.address = origin.environment.address
  clientInfo : profile.environment.clientInfo = origin.environment.clientInfo

namespace Profile.Descends

variable {origin profile : Profile} {links : List Link}

theorem refl (origin : Profile) : origin.Descends [] origin :=
  ⟨rfl, rfl, rfl, rfl, rfl, rfl, rfl, rfl⟩

theorem of_same (descends : origin.Descends links profile) {later : Profile}
    (same : profile.SameButLocal later) : origin.Descends links later := by
  rw [SameButLocal] at same
  rw [same]
  exact ⟨descends.id, descends.principal, descends.createdAt, descends.system, descends.context,
    descends.timezone, descends.address, descends.clientInfo⟩

theorem derive (descends : origin.Descends links profile) (last : Link) :
    origin.Descends (links ++ [last])
      (profile.derive last.principal last.roles last.locale) where
  id := descends.id
  principal := descends.principal
  createdAt := descends.createdAt
  system := descends.system
  context := descends.context
  timezone := by
    rw [Link.lastTimezone_concat, Option.or_assoc, ← descends.timezone]
    rfl
  address := descends.address
  clientInfo := descends.clientInfo

end Profile.Descends

namespace Chain

theorem follow_concat (chain : Chain) (links : List Link) (last : Link) :
    chain.follow (links ++ [last]) = (chain.follow links).extend last := by
  rw [follow, List.foldl_concat, follow]

theorem exists_origin {chain : Chain} {session : Session} (found : chain.session? = some session)
    {link : Link} (calm : ∀ command ∈ link.before, command.setsEnvironment = false) :
    ∃ origin : Session, session.toProfile.SameButLocal origin.toProfile ∧
      (chain.extend link).session? = some
        ⟨origin.toProfile.derive link.principal link.roles link.locale, origin.toHoldings⟩ := by
  obtain ⟨origin, found', same⟩ := Registry.exists_session?_run found calm
  exact ⟨origin, same, Registry.session?_derive_nextHandle found' ..⟩

theorem exists_descendant {chain : Chain} {origin : Session} (found : chain.session? = some origin)
    (links : List Link)
    (calm : ∀ link ∈ links, ∀ command ∈ link.before, command.setsEnvironment = false) :
    ∃ reached, (chain.follow links).session? = some reached ∧
      origin.toProfile.Descends links reached.toProfile := by
  -- From the end of the chain, where the last derivation builds on all that came before.
  induction links using List.reverseRecOn with
  | nil => exact ⟨origin, found, .refl _⟩
  | append_singleton links last ih =>
    rw [List.forall_mem_append, List.forall_mem_singleton] at calm
    obtain ⟨reached, found', descends⟩ := ih calm.1
    obtain ⟨base, same, extended⟩ := exists_origin found' calm.2
    rw [follow_concat]
    exact ⟨_, extended, (descends.of_same same).derive last⟩

theorem extend_of_some (chain : Chain) (link : Link) {place : Nat} {session : Session}
    (found : (chain.prepared link).session? place = some session) :
    (chain.extend link).registry.session? place = some session :=
  Registry.session?_derive_of_some found ..

theorem follow_of_some {chain : Chain} {links : List Link} (bare : ∀ link ∈ links, link.before = [])
    {place : Nat} {session : Session} (found : chain.registry.session? place = some session) :
    (chain.follow links).registry.session? place = some session := by
  induction links generalizing chain with
  | nil => exact found
  | cons link rest ih =>
    rw [List.forall_mem_cons] at bare
    refine ih bare.2 (chain.extend_of_some link ?_)
    rw [prepared, bare.1]
    exact found

/-- The last session of a chain, if nothing sets an environment value in between: it belongs to the first
one's user, and acts for the last link's unless that is the same; its roles and its locale are those
of the last link, its timezone is the last one preferred, and the rest of its environment is the
first one's. No derivation of the chain changes a session that is there before it. -/
theorem derived_of_follow (chain : Chain) (origin : Session) (found : chain.session? = some origin)
    (links : List Link) (last : Link)
    (calm : ∀ link ∈ links ++ [last], ∀ command ∈ link.before, command.setsEnvironment = false) :
    (∃ derived : Session, (chain.follow (links ++ [last])).session? = some derived ∧
      derived.id = origin.id ∧ derived.principal = origin.principal ∧
      derived.createdAt = origin.createdAt ∧ derived.system = origin.system ∧
      derived.context = origin.context ∧
      (last.principal.id ≠ origin.principal.id →
        derived.substituted = some last.principal ∧ derived.current = last.principal) ∧
      (last.principal.id = origin.principal.id →
        derived.substituted = none ∧ derived.current = origin.principal) ∧
      derived.roles = last.roles ∧ derived.categories = last.roles.categories ∧
      derived.environment = {
        locale := some last.locale
        timezone := (Link.lastTimezone (links ++ [last])).or origin.environment.timezone
        address := origin.environment.address
        clientInfo := origin.environment.clientInfo } ∧
      derived.localAttributes = ∅) ∧
    (∀ front link back, links ++ [last] = front ++ link :: back →
      ∀ place session, ((chain.follow front).prepared link).session? place = some session →
        (chain.follow (front ++ [link])).registry.session? place = some session) ∧
    ∀ front back, links ++ [last] = front ++ back → (∀ link ∈ back, link.before = []) →
      ∀ place session, (chain.follow front).registry.session? place = some session →
        (chain.follow (links ++ [last])).registry.session? place = some session := by
  refine ⟨?_, fun front link back _ place session there => ?_, fun front back split bare place
    session there => ?_⟩
  · rw [List.forall_mem_append, List.forall_mem_singleton] at calm
    obtain ⟨reached, found', descends⟩ := exists_descendant found links calm.1
    obtain ⟨base, same, extended⟩ := exists_origin found' calm.2
    have kept := (descends.of_same same).derive last
    have principal : base.principal = origin.principal := (descends.of_same same).principal
    rw [follow_concat]
    refine ⟨_, extended, kept.id, kept.principal, kept.createdAt, kept.system, kept.context,
      fun other => ?_, fun self => ?_, rfl, rfl, ?_, rfl⟩
    · rw [← principal] at other
      exact Profile.acts_derive_of_ne other ..
    · rw [← principal] at self ⊢
      exact Profile.acts_derive_of_eq self ..
    · rw [← kept.timezone, ← kept.address, ← kept.clientInfo]
      rfl
  · rw [follow_concat]
    exact (chain.follow front).extend_of_some link there
  · have split' : chain.follow (links ++ [last]) = (chain.follow front).follow back := by
      rw [split, follow, List.foldl_append]
      rfl
    rw [split']
    exact follow_of_some bare there

/-- The user comes back to act for herself, by way of two others, one of whom prefers a timezone. -/
theorem derived_of_follow_self :
    let origin := { SessionBuilder.empty with
        roles := ⟨[⟨"root", .super⟩], by decide⟩
        environment := { Environment.empty with address := some "192.0.2.1" } }.sessionFor (.ofNat 1)
      ⟨.ofNat 2, "ada", none, some "en", some "Europe/London"⟩ ⟨⟨2024, 1, 2⟩, 3, 4, 5, 0⟩
    let chain : Chain := ⟨Registry.empty.register origin, 0⟩
    let links : List Link := [
      ⟨[], ⟨.ofNat 3, "grace", none, none, some "America/New_York"⟩, .empty, "fr"⟩,
      ⟨[.mutate 1 (.setLocal "cache" (.text "warm")), .mutate 0 (.revoke .screen "orders")],
        ⟨.ofNat 4, "alan", none, none, none⟩, ⟨[⟨"guests", .denying⟩], by decide⟩, "de"⟩]
    let last : Link :=
      ⟨[.leave (.ofNat 1)], ⟨.ofNat 2, "Ada", none, none, none⟩, .empty, "pt"⟩
    ∃ derived : Session, (chain.follow (links ++ [last])).session? = some derived ∧
      derived.current.login = "ada" ∧ derived.categories = [] ∧
      derived.environment =
        ⟨some "pt", some "America/New_York", some "192.0.2.1", none⟩ := by
  intro origin chain links last
  obtain ⟨⟨derived, found, -, -, -, -, -, -, self, -, categories, environment, -⟩, -, -⟩ :=
    derived_of_follow chain origin rfl links last (by decide)
  obtain ⟨-, current⟩ := self (by decide)
  exact ⟨derived, found, congrArg Principal.login current, categories.trans (by decide),
    environment.trans (by decide +kernel)⟩

end Chain

end Authorization
