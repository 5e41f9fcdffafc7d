import Authorization.Constraint.Index
import Authorization.Permission.Table

/-! The audit trail: events in the order in which operations cause them, and their replay by somebody
who knows nothing else. -/

set_option autoImplicit false

namespace Authorization

inductive Event where
  | permissionGranted (kind : PermissionKind) (target : String) (aliasName : Option String)
      (value : Level)
  | permissionRevoked (kind : PermissionKind) (target : String) (removed : Bool)
  | permissionDenied (session : SessionId) (kind : PermissionKind) (target : String)
      (required : Level) (level : Level)
  | constraintAdded (id : ConstraintId) (entity : String)
  | constraintRemoved (id : ConstraintId) (entity : String) (removed : Nat)
  | sessionCreated (session : SessionId) (login : String) (roles : Nat)
  | derivation (session : SessionId) (substitute : String)
  | sessionDerived (substituted : Bool)
  deriving DecidableEq, Repr

namespace Event

private def record (level message : String) (fields : List (String × Json)) : Json :=
  .object [("fields", .object fields), ("level", .text level), ("message", .text message)]

def toJson : Event → Json
  | permissionGranted kind target aliasName value =>
    record "DEBUG" "permission granted" <|
      Json.optionalMember "alias" aliasName ++
        [("kind", .text kind.name), ("resource", .text target), ("value", value.toJson)]
  | permissionRevoked kind target removed =>
    record "DEBUG" "permission revoked"
      [("kind", .text kind.name), ("removed", .bool removed), ("resource", .text target)]
  | permissionDenied session kind target required level =>
    record "TRACE" "permission denied"
      [("kind", .text kind.name), ("level", .text ("Some(" ++ toString level.value ++ ")")),
        ("required", required.toJson), ("resource", .text target),
        ("session_id", .text session.display)]
  | constraintAdded id entity =>
    record "DEBUG" "constraint added"
      [("constraint_id", .text id.display), ("entity", .text entity)]
  | constraintRemoved id entity removed =>
    record "DEBUG" "constraint removed"
      [("constraint_id", .text id.display), ("entity", .text entity), ("removed", .integer removed)]
  | sessionCreated session login roles =>
    record "DEBUG" "session created"
      [("login", .text login), ("roles", .integer roles), ("session_id", .text session.display)]
  | derivation session substitute =>
    .object [
      ("fields", .object [("session_id", .text session.display), ("substitute", .text substitute)]),
      ("level", .text "INFO"), ("span", .text "derive_substituted")]
  | sessionDerived substituted =>
    record "DEBUG" "derived session" [("substituted", .bool substituted)]

end Event

namespace PermissionTable

def revokeEvent (table : PermissionTable) (kind : PermissionKind) (target : String) : Event :=
  .permissionRevoked kind target (table.level? kind target).isSome

end PermissionTable

namespace ConstraintIndex

/-- What the adding of a constraint reports; a refused one goes unreported. -/
def addEvents (constraint : Constraint) : List Event :=
  if constraint.isBound then [.constraintAdded constraint.id constraint.entityName] else []

/-- What a removal reports; an entity without constraints goes unreported. -/
def removeEvents (index : ConstraintIndex) (entity : String) (id : ConstraintId) : List Event :=
  if index.lists.contains entity then [.constraintRemoved id entity (index.countOf entity id)] else []

end ConstraintIndex

/-! ## Replay -/

namespace Event

def isDenial : Event → Bool
  | permissionDenied _ _ _ _ _ => true
  | _ => false

end Event

/-- What the events so far tell: the level of every target, and the constraints of every entity. -/
structure Reconstruction where
  levels : PermissionKind → String → Option Level
  ids : String → List ConstraintId

namespace Reconstruction

def empty : Reconstruction := ⟨fun _ _ => none, fun _ => []⟩

def follow (known : Reconstruction) : Event → Reconstruction
  | .permissionGranted kind target aliasName value =>
    { known with
      levels := fun other wanted =>
        if other = kind ∧ (wanted = target ∨ aliasName = some wanted) then
          some ((known.levels other wanted).elim value fun level => max level value)
        else known.levels other wanted }
  | .permissionRevoked kind target _ =>
    { known with
      levels := fun other wanted =>
        if other = kind ∧ wanted = target then none else known.levels other wanted }
  | .constraintAdded id entity =>
    { known with
      ids := fun other =>
        if other = entity then known.ids other ++ [id] else known.ids other }
  | .constraintRemoved id entity _ =>
    { known with
      ids := fun other =>
        if other = entity then (known.ids other).filter (· ≠ id) else known.ids other }
  | .permissionDenied _ _ _ _ _ | .sessionCreated _ _ _ | .derivation _ _ | .sessionDerived _ => known

def replay (events : List Event) : Reconstruction := events.foldl follow empty

end Reconstruction

end Authorization
