import Authorization.Json.Reader
import Authorization.Session.Builder

/-! The written forms of sessions and of their parts, as JSON documents. -/

set_option autoImplicit false

namespace Authorization

namespace Principal

def recordType : RecordType where
  name := "Principal"
  fields := [
    .mk "id" true (.text .identifier),
    .mk "login" true (.text .any),
    .mk "name" false (.optional (.text .any)),
    .mk "locale" false (.optional (.text .any)),
    .mk "timezone" false (.optional (.text .any))]

def toJson (principal : Principal) : Json :=
  .object (
    [("id", .text principal.id.text), ("login", .text principal.login)] ++
    Json.optionalMember "name" principal.name ++
    Json.optionalMember "locale" principal.locale ++
    Json.optionalMember "timezone" principal.timezone)

def ofJson : Json → Except DecodeError Principal :=
  recordType.decode fun row => return {
    id := ← row.required "id" Json.asId
    login := ← row.required "login" Json.asText
    name := ← row.optionalText "name"
    locale := ← row.optionalText "locale"
    timezone := ← row.optionalText "timezone" }

end Principal

namespace Role

def recordType : RecordType where
  name := "Role"
  fields := [
    .mk "name" true (.text .any),
    .mk "category" true RoleCategory.vocabulary.shape]

def toJson (role : Role) : Json :=
  .object [("name", .text role.name), ("category", RoleCategory.vocabulary.toJson role.category)]

def ofJson : Json → Except DecodeError Role :=
  recordType.decode fun row => return {
    name := ← row.required "name" Json.asText
    category := ← row.required "category" RoleCategory.vocabulary.ofJson }

end Role

namespace RoleSet

def shape : Shape := .list Role.recordType.shape

def toJson (set : RoleSet) : Json := .list (set.roles.map Role.toJson)

def ofJson (document : Json) : Except DecodeError RoleSet :=
  return ofList (← document.asList Role.ofJson)

end RoleSet

namespace Levels

def shape : Shape := .table none Level.shape

def toJson (levels : Levels) : Json :=
  .object (levels.toList.map fun (target, level) => (target, level.toJson))

def ofJson (document : Json) : Except DecodeError Levels :=
  return .ofList (← document.asMembers Level.ofJson)

end Levels

namespace ListedLevels

def shape : Shape := .table (some PermissionKind.vocabulary.names) Levels.shape

def toJson (listed : ListedLevels) : Json :=
  .object (listed.toList.filterMap fun (kind, levels) =>
    levels.map fun levels => (kind.name, levels.toJson))

/-- The listed kinds come from a document in which every member is named for a kind. -/
def ofJson (document : Json) : Except DecodeError ListedLevels := do
  shape.check document
  let members ← document.asMembers Levels.ofJson
  return .ofFunction fun kind => members.lookup kind.name

end ListedLevels

namespace Environment

def recordType : RecordType where
  name := "SessionEnvironment"
  fields := [
    .mk "locale" false (.optional (.text .any)),
    .mk "timezone" false (.optional (.text .any)),
    .mk "address" false (.optional (.text .any)),
    .mk "client_info" false (.optional (.text .any))]

def toJson (environment : Environment) : Json :=
  .object (
    Json.optionalMember "locale" environment.locale ++
    Json.optionalMember "timezone" environment.timezone ++
    Json.optionalMember "address" environment.address ++
    Json.optionalMember "client_info" environment.clientInfo)

def ofJson : Json → Except DecodeError Environment :=
  recordType.decode fun row => return {
    locale := ← row.optionalText "locale"
    timezone := ← row.optionalText "timezone"
    address := ← row.optionalText "address"
    clientInfo := ← row.optionalText "client_info" }

end Environment

namespace Constraint

def recordType : RecordType where
  name := "Constraint"
  fields := [
    .mk "id" true (.text .identifier),
    .mk "entity_name" true (.text .any),
    .mk "code" false (.optional (.text .any)),
    .mk "operation" false ConstraintOperation.vocabulary.shape,
    .mk "check_type" false CheckType.vocabulary.shape,
    .mk "join_clause" false (.optional (.text .any)),
    .mk "where_clause" false (.optional (.text .any)),
    .mk "script" false (.optional (.text .any))]

def toJson (constraint : Constraint) : Json :=
  .object (
    [("id", .text constraint.id.text), ("entity_name", .text constraint.entityName)] ++
    Json.optionalMember "code" constraint.code ++
    [("operation", ConstraintOperation.vocabulary.toJson constraint.operation),
      ("check_type", CheckType.vocabulary.toJson constraint.checkType)] ++
    Json.optionalMember "join_clause" constraint.joinClause ++
    Json.optionalMember "where_clause" constraint.whereClause ++
    Json.optionalMember "script" constraint.script)

def ofJson : Json → Except DecodeError Constraint :=
  recordType.decode fun row => return {
    id := ← row.required "id" Json.asId
    entityName := ← row.required "entity_name" Json.asText
    code := ← row.optionalText "code"
    operation := ← row.withDefault "operation" .standard ConstraintOperation.vocabulary.ofJson
    checkType := ← row.withDefault "check_type" .standard CheckType.vocabulary.ofJson
    joinClause := ← row.optionalText "join_clause"
    whereClause := ← row.optionalText "where_clause"
    script := ← row.optionalText "script" }

end Constraint

/-! ## Snapshots -/

namespace SessionSnapshot

def recordType : RecordType where
  name := "SessionSnapshot"
  fields := [
    .mk "id" true (.text .identifier),
    .mk "principal" true Principal.recordType.shape,
    .mk "substituted" false (.optional Principal.recordType.shape),
    .mk "roles" false RoleSet.shape,
    .mk "environment" false Environment.recordType.shape,
    .mk "created_at" true (.text .instant),
    .mk "system" false .bool,
    .mk "permissions" false ListedLevels.shape,
    .mk "constraints" false (.list Constraint.recordType.shape),
    .mk "attributes" false (.table none .any)]

def toJsonWith (createdAt : Json) (snapshot : SessionSnapshot) : Json :=
  .object (
    [("id", .text snapshot.id.text), ("principal", snapshot.principal.toJson)] ++
    (snapshot.substituted.map fun user => ("substituted", user.toJson)).toList ++
    [("roles", snapshot.roles.toJson),
      ("environment", snapshot.environment.toJson),
      ("created_at", createdAt),
      ("system", .bool snapshot.system),
      ("permissions", snapshot.permissions.toJson),
      ("constraints", .list (snapshot.constraints.map Constraint.toJson)),
      ("attributes", .object snapshot.attributes.toList)])

def toJson (snapshot : SessionSnapshot) : Json :=
  snapshot.toJsonWith (.text snapshot.createdAt.text)

def ofJson : Json → Except DecodeError SessionSnapshot :=
  recordType.decode fun row => return {
    id := ← row.required "id" Json.asId
    principal := ← row.required "principal" Principal.ofJson
    substituted := ← row.withDefault "substituted" none (Json.asOption Principal.ofJson)
    roles := ← row.withDefault "roles" .empty RoleSet.ofJson
    environment := ← row.withDefault "environment" .empty Environment.ofJson
    createdAt := ← row.required "created_at" Json.asInstant
    system := ← row.withDefault "system" false Json.asBool
    permissions := ← row.withDefault "permissions" (.ofFunction fun _ => none) ListedLevels.ofJson
    constraints := ← row.withDefault "constraints" [] (Json.asList Constraint.ofJson)
    attributes := ← row.withDefault "attributes" ∅ fun document =>
      return .ofList (← document.asMembers .ok) }

def agrees (first second : SessionSnapshot) : Bool :=
  first.createdAt = second.createdAt && first.toJson.agrees second.toJson

end SessionSnapshot

def Session.parse (text : String) : Except Json.Fault Session :=
  SessionSnapshot.recordType.shape.parse (fun document =>
    match SessionSnapshot.ofJson document with
    | .error error => .error (.decode error)
    | .ok snapshot =>
      match snapshot.restore .standard with
      | .error fault => .error (.refused fault.message)
      | .ok session => .ok session) text

end Authorization
