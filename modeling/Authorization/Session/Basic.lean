import Std.Data.ExtTreeMap
import Authorization.Constraint.Index
import Authorization.Environment
import Authorization.Role
import Authorization.Text.LowerCase

/-! Authorization sessions. A session has a profile of its own, with the user it belongs to, and
holdings that it may share with other sessions: a permission table, a constraint index and durable
attributes. -/

set_option autoImplicit false

namespace Authorization

/-! ## Principals

Principals are authenticated or substituted users, the same user when their identifiers agree. -/

structure Principal where
  id : UserId
  login : String
  name : Option String
  locale : Option String
  timezone : Option String
  deriving DecidableEq, Repr

namespace Principal

def lowerLogin (principal : Principal) : String := Text.lowercase principal.login

def isSameUser (first second : Principal) : Bool := first.id = second.id

end Principal

/-! ## Attributes

Durable attributes are JSON values that travel with a session; local ones are typed values that
never leave the process. In both tiers the last value set under a name counts. -/

abbrev DurableAttributes := Std.ExtTreeMap String Json

inductive LocalKind where
  | u32
  | i64
  | text
  | json
  deriving DecidableEq, Repr

def LocalKind.name : LocalKind → String
  | u32 => "u32"
  | i64 => "i64"
  | text => "text"
  | json => "json"

inductive LocalValue where
  | u32 (value : UInt32)
  | i64 (value : Int64)
  | text (value : String)
  | json (value : Json)

namespace LocalValue

def kind : LocalValue → LocalKind
  | u32 _ => .u32
  | i64 _ => .i64
  | text _ => .text
  | json _ => .json

def toJson : LocalValue → Json
  | u32 value => .integer value.toNat
  | i64 value => .integer value.toInt
  | text value => .text value
  | json value => value

def ofJson (kind : LocalKind) (document : Json) : Except DecodeError LocalValue :=
  match kind with
  | .u32 => return .u32 (UInt32.ofNat (← document.asInteger .u32).toNat)
  | .i64 => return .i64 (Int64.ofInt (← document.asInteger .i64))
  | .text => return .text (← document.asText)
  | .json => return .json document

end LocalValue

abbrev LocalAttributes := Std.ExtTreeMap String LocalValue

def LocalAttributes.getAs? (attributes : LocalAttributes) (name : String) (kind : LocalKind) :
    Option LocalValue :=
  attributes[name]?.filter fun value => value.kind = kind

/-! ## Sessions -/

structure AccessContext where
  rules : RoleRules
  scope : RequestScope

def AccessContext.standard : AccessContext := ⟨staticRules, .absent⟩

structure Profile where
  id : SessionId
  principal : Principal
  /-- The user acted for, if it is another one. -/
  substituted : Option Principal
  roles : RoleSet
  /-- The categories of the roles, taken when the session was made. -/
  categories : List RoleCategory
  environment : Environment
  createdAt : Instant
  system : Bool
  localAttributes : LocalAttributes
  context : AccessContext

structure Holdings where
  permissions : PermissionTable
  constraints : ConstraintIndex
  attributes : DurableAttributes

def Holdings.empty : Holdings := ⟨.empty, .empty, ∅⟩

structure Session extends Profile, Holdings

namespace Profile

def current (profile : Profile) : Principal := profile.substituted.getD profile.principal

def isSubstituted (profile : Profile) : Bool := profile.substituted.isSome

def isSuper (profile : Profile) : Bool := profile.categories.contains .super

/-- An environment value: that of the current request if it supplies one, and the stored one if
not. -/
def environmentValue (profile : Profile) (overrides : RequestOverrides) (field : EnvironmentField) :
    Option String :=
  (profile.context.scope.get? overrides profile.id field).or (profile.environment.get field)

def display (profile : Profile) : String :=
  let logins :=
    match profile.substituted with
    | some substituted => profile.principal.login ++ " / " ++ substituted.login
    | none => profile.principal.login
  profile.id.display ++ " [" ++ logins ++ "]"

end Profile

namespace Session

def userIdAttribute : String := "userId"

def userLoginAttribute : String := "userLogin"

/-- An attribute: one of the two reserved ones, or a durable one. -/
def attribute? (session : Session) (name : String) : Option Json :=
  if name = userIdAttribute then some (.text session.current.id.text)
  else if name = userLoginAttribute then some (.text session.current.lowerLogin)
  else session.attributes[name]?

end Session

end Authorization
