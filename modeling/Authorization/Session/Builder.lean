import Authorization.Audit
import Authorization.Session.Basic

/-! The making of sessions: built, derived on behalf of another user, or restored from a
snapshot. -/

set_option autoImplicit false

namespace Authorization

inductive SessionFault where
  | missingSessionId
  | missingPrincipal
  | blankLogin
  | malformedConstraint (reason : String)
  deriving DecidableEq, Repr

def SessionFault.message : SessionFault → String
  | missingSessionId => "session requires a non-nil session id"
  | missingPrincipal => "session requires an authenticated principal"
  | blankLogin => "principal login must not be blank"
  | malformedConstraint reason => "malformed constraint in session: " ++ reason

structure SessionBuilder where
  id : Option SessionId
  principal : Option Principal
  roles : RoleSet
  environment : Environment
  system : Bool
  context : AccessContext

namespace SessionBuilder

def empty : SessionBuilder := ⟨none, none, .empty, .empty, false, .standard⟩

/-- The environment, with the locale and the timezone that the user prefers where it has none. -/
def environmentFor (builder : SessionBuilder) (principal : Principal) : Environment :=
  { builder.environment with
    locale := builder.environment.locale.or principal.locale
    timezone := builder.environment.timezone.or principal.timezone }

def sessionFor (builder : SessionBuilder) (id : SessionId) (principal : Principal) (now : Instant) :
    Session :=
  { Holdings.empty with
    id := id
    principal := principal
    substituted := none
    roles := builder.roles
    categories := builder.roles.categories
    environment := builder.environmentFor principal
    createdAt := now
    system := builder.system
    localAttributes := ∅
    context := builder.context }

def build (builder : SessionBuilder) (now : Instant) : Except SessionFault Session := do
  let some id := builder.id.filter fun id => !id.isNil | throw .missingSessionId
  let some principal := builder.principal | throw .missingPrincipal
  if Text.isBlank principal.login then throw .blankLogin
  return builder.sessionFor id principal now

end SessionBuilder

namespace Profile

def createdEvent (profile : Profile) : Event :=
  .sessionCreated profile.id profile.principal.login profile.roles.roles.length

/-- The profile of a session that acts for another user. It keeps the identifier and the
authenticated user; acting for the latter is no substitution. -/
def derive (profile : Profile) (principal : Principal) (roles : RoleSet) (locale : String) :
    Profile :=
  { profile with
    substituted := if principal.isSameUser profile.principal then none else some principal
    roles := roles
    categories := roles.categories
    environment := {
      profile.environment with
      locale := some locale
      timezone := principal.timezone.or profile.environment.timezone }
    localAttributes := ∅ }

def derivedEvents (derived : Profile) (principal : Principal) : List Event :=
  [.derivation derived.id principal.login, .sessionDerived derived.isSubstituted]

end Profile

/-! ## Snapshots

A snapshot has everything of a session that travels with it, which excludes local attributes and the
context. -/

structure SessionSnapshot where
  id : SessionId
  principal : Principal
  substituted : Option Principal
  roles : RoleSet
  environment : Environment
  createdAt : Instant
  system : Bool
  permissions : ListedLevels
  constraints : List Constraint
  attributes : DurableAttributes

def Session.snapshot (session : Session) : SessionSnapshot where
  id := session.id
  principal := session.principal
  substituted := session.substituted
  roles := session.roles
  environment := session.environment
  createdAt := session.createdAt
  system := session.system
  permissions := session.permissions.snapshot
  constraints := session.constraints.snapshot
  attributes := session.attributes

namespace SessionSnapshot

def sessionFor (snapshot : SessionSnapshot) (context : AccessContext)
    (constraints : ConstraintIndex) : Session where
  id := snapshot.id
  principal := snapshot.principal
  substituted := snapshot.substituted.filter fun user => !user.isSameUser snapshot.principal
  roles := snapshot.roles
  categories := snapshot.roles.categories
  environment := snapshot.environment
  createdAt := snapshot.createdAt
  system := snapshot.system
  localAttributes := ∅
  context := context
  permissions := .ofSnapshot snapshot.permissions
  constraints := constraints
  attributes := snapshot.attributes

def restore (snapshot : SessionSnapshot) (context : AccessContext) : Except SessionFault Session := do
  if snapshot.id.isNil then throw .missingSessionId
  if Text.isBlank snapshot.principal.login then throw .blankLogin
  match ConstraintIndex.ofSnapshot snapshot.constraints with
  | .error fault => throw (.malformedConstraint fault.message)
  | .ok constraints => return snapshot.sessionFor context constraints

end SessionSnapshot

end Authorization
