import Authorization.Session.Builder

/-! Changes of sessions, and registries of sessions with the holdings that they share. -/

set_option autoImplicit false

namespace Authorization

/-! ## Changes

A change reaches either the holdings, and with them every session that shares them, or the profile
of one session. -/

inductive Mutation where
  | grant (kind : PermissionKind) (target : String) (aliasName : Option String) (value : Level)
  | revoke (kind : PermissionKind) (target : String)
  | addConstraint (constraint : Constraint)
  | removeConstraint (entity : String) (id : ConstraintId)
  | setAttribute (name : String) (value : Json)
  | removeAttribute (name : String)
  | setLocal (name : String) (value : LocalValue)
  | removeLocal (name : String)
  | setEnvironment (field : EnvironmentField) (value : Option String)

inductive Outcome where
  | done
  | refused (fault : ConstraintFault)
  | removedConstraints (count : Nat)
  | removedAttribute (value : Option Json)
  | removedLocal (value : Option LocalValue)

namespace Holdings

def apply (holdings : Holdings) : Mutation → Holdings
  | .grant kind target aliasName value =>
    { holdings with permissions := holdings.permissions.grant kind target aliasName value }
  | .revoke kind target => { holdings with permissions := holdings.permissions.revoke kind target }
  | .addConstraint constraint =>
    match holdings.constraints.add constraint with
    | .ok constraints => { holdings with constraints := constraints }
    | .error _ => holdings
  | .removeConstraint entity id =>
    { holdings with constraints := holdings.constraints.remove entity id }
  | .setAttribute name value => { holdings with attributes := holdings.attributes.insert name value }
  | .removeAttribute name => { holdings with attributes := holdings.attributes.erase name }
  | .setLocal _ _ | .removeLocal _ | .setEnvironment _ _ => holdings

def events (holdings : Holdings) : Mutation → List Event
  | .grant kind target aliasName value => [.permissionGranted kind target aliasName value]
  | .revoke kind target => [holdings.permissions.revokeEvent kind target]
  | .addConstraint constraint => ConstraintIndex.addEvents constraint
  | .removeConstraint entity id => holdings.constraints.removeEvents entity id
  | .setAttribute _ _ | .removeAttribute _ => []
  | .setLocal _ _ | .removeLocal _ | .setEnvironment _ _ => []

end Holdings

namespace Profile

def apply (profile : Profile) : Mutation → Profile
  | .setLocal name value =>
    { profile with localAttributes := profile.localAttributes.insert name value }
  | .removeLocal name => { profile with localAttributes := profile.localAttributes.erase name }
  | .setEnvironment field value =>
    { profile with environment := profile.environment.set field value }
  | _ => profile

end Profile

namespace Session

def apply (session : Session) (mutation : Mutation) : Session where
  toProfile := session.toProfile.apply mutation
  toHoldings := session.toHoldings.apply mutation

def outcome (session : Session) : Mutation → Outcome
  | .addConstraint constraint =>
    match session.constraints.add constraint with
    | .ok _ => .done
    | .error fault => .refused fault
  | .removeConstraint entity id => .removedConstraints (session.constraints.countOf entity id)
  | .removeAttribute name => .removedAttribute session.attributes[name]?
  | .removeLocal name => .removedLocal session.localAttributes[name]?
  | _ => .done

end Session

/-! ## Registries

The sessions derived from one another make a family with common holdings; a built or restored
session starts a family. -/

/-- A session's own profile, and the family whose holdings it uses. -/
structure Member where
  profile : Profile
  family : Nat

/-- Sessions are known by their places among the members. -/
structure Registry where
  members : List Member
  families : List Holdings
  overrides : RequestOverrides

namespace Registry

def empty : Registry := ⟨[], [], .empty⟩

def session? (registry : Registry) (handle : Nat) : Option Session := do
  let member ← registry.members[handle]?
  let holdings ← registry.families[member.family]?
  return ⟨member.profile, holdings⟩

def nextHandle (registry : Registry) : Nat := registry.members.length

def register (registry : Registry) (session : Session) : Registry :=
  { registry with
    members := registry.members ++ [⟨session.toProfile, registry.families.length⟩]
    families := registry.families ++ [session.toHoldings] }

def registerBeside (registry : Registry) (handle : Nat) (profile : Profile) : Registry :=
  match registry.members[handle]? with
  | none => registry
  | some member =>
    { registry with members := registry.members ++ [⟨profile, member.family⟩] }

def derive (registry : Registry) (handle : Nat) (principal : Principal) (roles : RoleSet)
    (locale : String) : Registry :=
  match registry.members[handle]? with
  | none => registry
  | some member => registry.registerBeside handle (member.profile.derive principal roles locale)

def mutate (registry : Registry) (handle : Nat) (mutation : Mutation) : Registry :=
  match registry.members[handle]? with
  | none => registry
  | some member =>
    { registry with
      members := registry.members.modify handle fun member =>
        { member with profile := member.profile.apply mutation }
      families := registry.families.modify member.family fun holdings => holdings.apply mutation }

def enter (registry : Registry) (session : SessionId) (values : Environment) : Registry :=
  { registry with overrides := registry.overrides.enter session values }

def leave (registry : Registry) (session : SessionId) : Registry :=
  { registry with overrides := registry.overrides.leave session }

end Registry

end Authorization
