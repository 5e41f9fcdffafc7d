import Authorization.Session.Builder

/-! What a session tells about itself: permission checks, descriptions, and the answers to all
questions. No question changes the session. -/

set_option autoImplicit false

namespace Authorization

/-! ## Decisions

A super role passes every check. Otherwise the stored level is raised to the highest level that the
attached categories supply, and a target without any level is permitted. -/

namespace Session

def suppliedLevels (session : Session) (kind : PermissionKind) (target : String) : List Level :=
  session.categories.filterMap fun category => session.context.rules category kind target

def level? (session : Session) (kind : PermissionKind) (target : String) : Option Level :=
  (session.suppliedLevels kind target).foldl Level.raise (session.permissions.level? kind target)

def isPermitted (session : Session) (kind : PermissionKind) (target : String)
    (required : Level) : Bool :=
  session.isSuper || (session.level? kind target).all fun level => required ≤ level

def isScreenPermitted (session : Session) (screen : String) : Bool :=
  session.isPermitted .screen screen .permit

def isOpPermitted (session : Session) (entity : String) (op : EntityOp) : Bool :=
  session.isPermitted .entityOperation (Target.ofOp entity op) .permit

def isAttributePermitted (session : Session) (entity name : String) (access : AttributeAccess) :
    Bool :=
  session.isPermitted .entityAttribute (Target.ofAttribute entity name) access.level

def attributeAccess (session : Session) (entity name : String) : AttributeAccess :=
  if session.isSuper then .modify
  else
    match session.level? .entityAttribute (Target.ofAttribute entity name) with
    | none => .modify
    | some level => (AttributeAccess.ofLevel? (level.clamp 0 2)).getD .deny

def isSpecificPermitted (session : Session) (name : String) : Bool :=
  session.isPermitted .specific name .permit

def isComponentPermitted (session : Session) (screen component : String) : Bool :=
  session.isPermitted .ui (Target.compose screen component) .permit

/-- What a check reports: only a failed one is reported, with the level that decided. -/
def checkEvents (session : Session) (kind : PermissionKind) (target : String)
    (required : Level) : List Event :=
  if session.isPermitted kind target required then []
  else
    (session.level? kind target).toList.map fun level =>
      .permissionDenied session.id kind target required level

end Session

/-! ## Descriptions

For diagnosis, sessions and what they are made of show every field by name, with texts quoted and
`..` for what is left out. -/

namespace Description

def record (name : String) (complete : Bool) (fields : List (String × String)) : String :=
  let shown := fields.map (fun (field, value) => field ++ ": " ++ value) ++
    (if complete then [] else [".."])
  name ++ " \x7b " ++ ", ".intercalate shown ++ " \x7d"

def option {α : Type} (describe : α → String) : Option α → String
  | some value => "Some(" ++ describe value ++ ")"
  | none => "None"

def id {kind : IdKind} (id : Id kind) : String :=
  kind.typeName ++ "(Ulid(" ++ toString id.number ++ "))"

def principal (principal : Principal) : String :=
  record "Principal" true [
    ("id", id principal.id),
    ("login", Text.quoted principal.login),
    ("name", Text.quotedOption principal.name),
    ("locale", Text.quotedOption principal.locale),
    ("timezone", Text.quotedOption principal.timezone)]

def category : RoleCategory → String
  | .standard => "Standard"
  | .super => "Super"
  | .readOnly => "ReadOnly"
  | .denying => "Denying"

def role (role : Role) : String :=
  record "Role" true [("name", Text.quoted role.name), ("category", category role.category)]

def roleSet (set : RoleSet) : String :=
  record "RoleSet" true [("roles", "[" ++ ", ".intercalate (set.roles.map role) ++ "]")]

def environment (environment : Environment) : String :=
  record "SessionEnvironment" true [
    ("locale", Text.quotedOption environment.locale),
    ("timezone", Text.quotedOption environment.timezone),
    ("address", Text.quotedOption environment.address),
    ("client_info", Text.quotedOption environment.clientInfo)]

def context (context : AccessContext) : String :=
  record "AccessContext" false [("request_scope", toString context.scope.isPresent)]

def builder (builder : SessionBuilder) : String :=
  record "SessionBuilder" true [
    ("id", option id builder.id),
    ("principal", option principal builder.principal),
    ("roles", roleSet builder.roles),
    ("environment", environment builder.environment),
    ("system", toString builder.system),
    ("context", context builder.context)]

def session (profile : Profile) : String :=
  record "AuthorizationSession" false [
    ("id", id profile.id),
    ("principal", principal profile.principal),
    ("substituted", option principal profile.substituted),
    ("roles", roleSet profile.roles),
    ("system", toString profile.system)]

def localAttributes (attributes : LocalAttributes) : String :=
  record "LocalAttributes" true
    [("names", "\x7b" ++ ", ".intercalate (attributes.keys.map Text.quoted) ++ "\x7d")]

end Description

/-! ## Questions -/

inductive Query where
  | id
  | principal
  | substituted
  | current
  | isSubstituted
  | roles
  | roleNames
  | categories
  | isSuper
  | createdAt
  | isSystem
  | isPermitted (kind : PermissionKind) (target : String) (required : Level)
  | isScreenPermitted (screen : String)
  | isOpPermitted (entity : String) (op : EntityOp)
  | isAttributePermitted (entity name : String) (access : AttributeAccess)
  | attributeAccess (entity name : String)
  | isSpecificPermitted (name : String)
  | isComponentPermitted (screen component : String)
  | level (kind : PermissionKind) (target : String)
  | levelsOf (kind : PermissionKind)
  | constraints (entity : String)
  | constraintsMatching (entity : String) (accepts : Constraint → Bool)
  | hasConstraintsFor (entity : String)
  | hasConstraints
  | attribute (name : String)
  | attributeNames
  | environmentValue (field : EnvironmentField)
  | storedEnvironment
  | snapshot
  | display
  | description
  | localAttribute (name : String)
  | localAttributeAs (name : String) (kind : LocalKind)
  | localAttributeNames

inductive Answer where
  | flag (value : Bool)
  | id (value : SessionId)
  | principal (value : Principal)
  | substituted (value : Option Principal)
  | roles (value : RoleSet)
  | categories (value : List RoleCategory)
  | names (value : List String)
  | instant (value : Instant)
  | access (value : AttributeAccess)
  | level (value : Option Level)
  | levels (value : Levels)
  | constraints (value : List Constraint)
  | attribute (value : Option Json)
  | environmentValue (value : Option String)
  | environment (value : Environment)
  | snapshot (value : SessionSnapshot)
  | text (value : String)
  | localAttribute (value : Option LocalValue)

def Query.readsLocal : Query → Bool
  | localAttribute _ | localAttributeAs _ _ | localAttributeNames => true
  | _ => false

namespace Session

def answer (session : Session) (overrides : RequestOverrides) : Query → Answer
  | .id => .id session.id
  | .principal => .principal session.principal
  | .substituted => .substituted session.substituted
  | .current => .principal session.current
  | .isSubstituted => .flag session.isSubstituted
  | .roles => .roles session.roles
  | .roleNames => .names session.roles.names
  | .categories => .categories session.categories
  | .isSuper => .flag session.isSuper
  | .createdAt => .instant session.createdAt
  | .isSystem => .flag session.system
  | .isPermitted kind target required => .flag (session.isPermitted kind target required)
  | .isScreenPermitted screen => .flag (session.isScreenPermitted screen)
  | .isOpPermitted entity op => .flag (session.isOpPermitted entity op)
  | .isAttributePermitted entity name access =>
    .flag (session.isAttributePermitted entity name access)
  | .attributeAccess entity name => .access (session.attributeAccess entity name)
  | .isSpecificPermitted name => .flag (session.isSpecificPermitted name)
  | .isComponentPermitted screen component => .flag (session.isComponentPermitted screen component)
  | .level kind target => .level (session.permissions.level? kind target)
  | .levelsOf kind => .levels (session.permissions.levelsOf kind)
  | .constraints entity => .constraints (session.constraints.list entity)
  | .constraintsMatching entity accepts =>
    .constraints (session.constraints.listMatching entity accepts)
  | .hasConstraintsFor entity => .flag (session.constraints.hasAnyFor entity)
  | .hasConstraints => .flag session.constraints.hasAny
  | .attribute name => .attribute (session.attribute? name)
  | .attributeNames => .names session.attributes.keys
  | .environmentValue field => .environmentValue (session.environmentValue overrides field)
  | .storedEnvironment => .environment session.environment
  | .snapshot => .snapshot session.snapshot
  | .display => .text session.display
  | .description => .text (Description.session session.toProfile)
  | .localAttribute name => .localAttribute session.localAttributes[name]?
  | .localAttributeAs name kind => .localAttribute (session.localAttributes.getAs? name kind)
  | .localAttributeNames => .names session.localAttributes.keys

/-- What a question reports: a permission check reports that it failed, any other question nothing. -/
def askEvents (session : Session) : Query → List Event
  | .isPermitted kind target required => session.checkEvents kind target required
  | .isScreenPermitted screen => session.checkEvents .screen screen .permit
  | .isOpPermitted entity op =>
    session.checkEvents .entityOperation (Target.ofOp entity op) .permit
  | .isAttributePermitted entity name access =>
    session.checkEvents .entityAttribute (Target.ofAttribute entity name) access.level
  | .isSpecificPermitted name => session.checkEvents .specific name .permit
  | .isComponentPermitted screen component =>
    session.checkEvents .ui (Target.compose screen component) .permit
  | _ => []

end Session

end Authorization
