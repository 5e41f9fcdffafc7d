import Authorization.Session.Query
import Authorization.Session.Registry

/-! What clients do with sessions that share their holdings: scripts with their replies and their
audit trail, and schedules of several clients. -/

set_option autoImplicit false

namespace Authorization

/-! ## Scripts

Questions, changes and derivations are addressed to a session and to the sessions derived from it in
the course of the script, which are counted in the order of their derivation. -/

inductive Operation where
  | ask (query : Query)
  | change (mutation : Mutation)
  | derive (principal : Principal) (roles : RoleSet) (locale : String)

inductive Reply where
  | answer (value : Answer)
  | outcome (value : Outcome)
  | derived

def Operation.readsLocal : Operation → Bool
  | ask query => query.readsLocal
  | change (.removeLocal _) => true
  | change _ | derive _ _ _ => false

/-- A registry, and the handles of the sessions that a script can address. -/
structure Scene where
  registry : Registry
  handles : List Nat

namespace Scene

def opening (registry : Registry) (handle : Nat) : Scene := ⟨registry, [handle]⟩

def session? (scene : Scene) (place : Nat) : Option Session :=
  scene.handles[place]?.bind scene.registry.session?

def reply? (scene : Scene) (place : Nat) (operation : Operation) : Option Reply :=
  (scene.session? place).map fun session =>
    match operation with
    | .ask query => .answer (session.answer scene.registry.overrides query)
    | .change mutation => .outcome (session.outcome mutation)
    | .derive _ _ _ => .derived

def perform (scene : Scene) (place : Nat) (operation : Operation) : Scene :=
  match scene.handles[place]? with
  | none => scene
  | some handle =>
    match operation with
    | .ask _ => scene
    | .change mutation => { scene with registry := scene.registry.mutate handle mutation }
    | .derive principal roles locale =>
      { registry := scene.registry.derive handle principal roles locale
        handles := scene.handles ++ [scene.registry.nextHandle] }

/-- The replies to a script, without those that tell of local attributes. -/
def transcript (scene : Scene) : List (Nat × Operation) → List (Option Reply)
  | [] => []
  | (place, operation) :: rest =>
    if operation.readsLocal then (scene.perform place operation).transcript rest
    else scene.reply? place operation :: (scene.perform place operation).transcript rest

end Scene

/-! ## Trails

The trail has the events of the operations in their order. Beside it stand the permission checks of
the script that failed. -/

structure Check where
  kind : PermissionKind
  target : String
  required : Level

/-- The check that a question about a permission states, with its target and level written out. -/
def Query.check? : Query → Option Check
  | isPermitted kind target required => some ⟨kind, target, required⟩
  | isScreenPermitted screen => some ⟨.screen, screen, 1⟩
  | isOpPermitted entity .create => some ⟨.entityOperation, entity ++ ":create", 1⟩
  | isOpPermitted entity .read => some ⟨.entityOperation, entity ++ ":read", 1⟩
  | isOpPermitted entity .update => some ⟨.entityOperation, entity ++ ":update", 1⟩
  | isOpPermitted entity .delete => some ⟨.entityOperation, entity ++ ":delete", 1⟩
  | isAttributePermitted entity name .deny => some ⟨.entityAttribute, entity ++ ":" ++ name, 0⟩
  | isAttributePermitted entity name .view => some ⟨.entityAttribute, entity ++ ":" ++ name, 1⟩
  | isAttributePermitted entity name .modify => some ⟨.entityAttribute, entity ++ ":" ++ name, 2⟩
  | isSpecificPermitted name => some ⟨.specific, name, 1⟩
  | isComponentPermitted screen component => some ⟨.ui, screen ++ ":" ++ component, 1⟩
  | _ => none

def Reply.isRefusal : Reply → Bool
  | answer (.flag value) => !value
  | _ => false

def Session.eventsOf (session : Session) : Operation → List Event
  | .ask query => session.askEvents query
  | .change mutation => session.toHoldings.events mutation
  | .derive principal roles locale =>
    Profile.derivedEvents (session.toProfile.derive principal roles locale) principal

namespace Scene

def eventsOf (scene : Scene) (place : Nat) (operation : Operation) : List Event :=
  (scene.session? place).elim [] fun session => session.eventsOf operation

/-- The session and the check, if the operation is a permission check that fails. -/
def failedCheck? (scene : Scene) (place : Nat) : Operation → Option (Session × Check)
  | .ask query => do
    let check ← query.check?
    let session ← scene.session? place
    let reply ← scene.reply? place (.ask query)
    if reply.isRefusal then some (session, check) else none
  | .change _ | .derive _ _ _ => none

def run (scene : Scene) (script : List (Nat × Operation)) : Scene :=
  script.foldl (fun scene (place, operation) => scene.perform place operation) scene

def trail (scene : Scene) : List (Nat × Operation) → List Event
  | [] => []
  | (place, operation) :: rest =>
    scene.eventsOf place operation ++ (scene.perform place operation).trail rest

def failedChecks (scene : Scene) : List (Nat × Operation) → List (Session × Check)
  | [] => []
  | (place, operation) :: rest =>
    (scene.failedCheck? place operation).toList ++
      (scene.perform place operation).failedChecks rest

end Scene

/-! ## Schedules

Every client calls sessions of a registry in an order of its own; a schedule
takes the calls of all clients in turn, one whole call after the other. Calls are independent unless
they touch a common key, and on one key grants do not disturb each other. -/

structure Call where
  handle : Nat
  mutation : Mutation

/-- What calls can have in common: an entry of the holdings, through whichever session it is
reached, or one of a session's own entries. -/
inductive Key where
  | level (kind : PermissionKind) (target : String)
  | constraints (entity : String)
  | attribute (name : String)
  | localAttribute (handle : Nat) (name : String)
  | environment (handle : Nat) (field : EnvironmentField)
  deriving DecidableEq

namespace Call

def keys (call : Call) : List Key :=
  match call.mutation with
  | .grant kind target aliasName _ => .level kind target :: (aliasName.map (Key.level kind)).toList
  | .revoke kind target => [.level kind target]
  | .addConstraint constraint => [.constraints constraint.entityName]
  | .removeConstraint entity _ => [.constraints entity]
  | .setAttribute name _ | .removeAttribute name => [.attribute name]
  | .setLocal name _ | .removeLocal name => [.localAttribute call.handle name]
  | .setEnvironment field _ => [.environment call.handle field]

def isGrant (call : Call) : Bool :=
  match call.mutation with
  | .grant _ _ _ _ => true
  | _ => false

/-- Whatever key both calls touch, both of them grant on it. -/
def Independent (first second : Call) : Prop :=
  ∀ key ∈ first.keys, key ∈ second.keys → first.isGrant = true ∧ second.isGrant = true

instance (first second : Call) : Decidable (first.Independent second) :=
  inferInstanceAs (Decidable (∀ key ∈ first.keys, _))

end Call

structure Turn where
  client : Nat
  call : Call

def callsOf (schedule : List Turn) (client : Nat) : List Call :=
  schedule.filterMap fun turn => if turn.client = client then some turn.call else none

/-- The schedule consists of the calls of the clients, and leaves those of each in their order. -/
def Interleaves (clients : List (List Call)) (schedule : List Turn) : Prop :=
  ∀ client, callsOf schedule client = clients[client]?.getD []

namespace Registry

def perform (registry : Registry) (call : Call) : Registry :=
  registry.mutate call.handle call.mutation

def outcome? (registry : Registry) (call : Call) : Option Outcome :=
  (registry.session? call.handle).map fun session => session.outcome call.mutation

def serve (registry : Registry) (schedule : List Turn) : Registry :=
  schedule.foldl (fun registry turn => registry.perform turn.call) registry

def outcomesOf (registry : Registry) (client : Nat) : List Turn → List (Option Outcome)
  | [] => []
  | turn :: rest =>
    let later := (registry.perform turn.call).outcomesOf client rest
    if turn.client = client then registry.outcome? turn.call :: later else later

end Registry

end Authorization
