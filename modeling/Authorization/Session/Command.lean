import Authorization.Session.Query
import Authorization.Session.Registry
import Authorization.Wire

/-! Runs of a registry: sequences of commands that make sessions, change them through any of their
handles, and mark the begin and the end of requests. A command that fails changes nothing. -/

set_option autoImplicit false

namespace Authorization

inductive Command where
  | build (builder : SessionBuilder) (now : Instant)
  | restore (snapshot : SessionSnapshot) (context : AccessContext)
  | parse (text : String)
  | derive (handle : Nat) (principal : Principal) (roles : RoleSet) (locale : String)
  | mutate (handle : Nat) (mutation : Mutation)
  | enter (session : SessionId) (values : Environment)
  | leave (session : SessionId)

namespace Registry

def registerMade {ε : Type} (registry : Registry) : Except ε Session → Registry
  | .ok session => registry.register session
  | .error _ => registry

def step (registry : Registry) : Command → Registry
  | .build builder now => registry.registerMade (builder.build now)
  | .restore snapshot context => registry.registerMade (snapshot.restore context)
  | .parse text => registry.registerMade (Session.parse text)
  | .derive handle principal roles locale => registry.derive handle principal roles locale
  | .mutate handle mutation => registry.mutate handle mutation
  | .enter session values => registry.enter session values
  | .leave session => registry.leave session

def run (registry : Registry) (commands : List Command) : Registry := commands.foldl step registry

end Registry

/-! ## Archives

A registry with the snapshots that were taken of its sessions. A snapshot can be restored any time
later, and as often as one likes. -/

structure Archive where
  registry : Registry
  snapshots : List SessionSnapshot

inductive ArchiveCommand where
  | build (builder : SessionBuilder) (now : Instant)
  | derive (handle : Nat) (principal : Principal) (roles : RoleSet) (locale : String)
  | mutate (handle : Nat) (mutation : Mutation)
  | capture (handle : Nat)
  | restore (place : Nat) (context : AccessContext)

namespace Archive

def empty : Archive := ⟨.empty, []⟩

def perform (archive : Archive) (command : Command) : Archive :=
  { archive with registry := archive.registry.step command }

def step (archive : Archive) : ArchiveCommand → Archive
  | .build builder now => archive.perform (.build builder now)
  | .derive handle principal roles locale => archive.perform (.derive handle principal roles locale)
  | .mutate handle mutation => archive.perform (.mutate handle mutation)
  | .capture handle =>
    match archive.registry.session? handle with
    | some session => { archive with snapshots := archive.snapshots ++ [session.snapshot] }
    | none => archive
  | .restore place context =>
    match archive.snapshots[place]? with
    | some snapshot => archive.perform (.restore snapshot context)
    | none => archive

def run (archive : Archive) (commands : List ArchiveCommand) : Archive :=
  commands.foldl step archive

end Archive

/-! ## Services

Sessions are made, changed, derived and copied while requests come and go. What a request supplies
for a session counts until the request is over. -/

def Command.change? : Command → Option OverrideChange
  | enter session values => some (.enter session values)
  | leave session => some (.leave session)
  | build _ _ | restore _ _ | parse _ | derive _ _ _ _ | mutate _ _ => none

inductive Occurrence where
  | command (command : Command)
  | capture (handle : Nat)
  | restore (place : Nat) (context : AccessContext)

namespace Occurrence

def change? : Occurrence → Option OverrideChange
  | command given => given.change?
  | capture _ | restore _ _ => none

def changes (occurrences : List Occurrence) : List OverrideChange := occurrences.filterMap change?

def withoutRequests (occurrences : List Occurrence) : List Occurrence :=
  occurrences.filter fun occurrence => occurrence.change?.isNone

end Occurrence

namespace Archive

def undergo (archive : Archive) : Occurrence → Archive
  | .command command => archive.perform command
  | .capture handle => archive.step (.capture handle)
  | .restore place context => archive.step (.restore place context)

def serve (archive : Archive) (occurrences : List Occurrence) : Archive :=
  occurrences.foldl undergo archive

end Archive

/-! ## Chains

From a session another one is derived, from that one the next, and so on. Between two derivations
there is room for other commands. -/

/-- Whom the next session of a chain acts for, and what is done before it is derived. -/
structure Link where
  before : List Command
  principal : Principal
  roles : RoleSet
  locale : String

structure Chain where
  registry : Registry
  handle : Nat

def Command.setsEnvironment : Command → Bool
  | mutate _ (.setEnvironment _ _) => true
  | _ => false

namespace Chain

def session? (chain : Chain) : Option Session := chain.registry.session? chain.handle

def prepared (chain : Chain) (link : Link) : Registry := chain.registry.run link.before

def extend (chain : Chain) (link : Link) : Chain where
  registry :=
    (chain.prepared link).derive chain.handle link.principal link.roles link.locale
  handle := (chain.prepared link).nextHandle

def follow (chain : Chain) (links : List Link) : Chain := links.foldl extend chain

end Chain

/-! ## Rebuilding

What a snapshot describes can be rebuilt by means that are open to everybody: a builder, a derivation
if the user acts for another one, and changes, one for everything that was held. -/

namespace Session

def outcomes (session : Session) : List Mutation → List Outcome
  | [] => []
  | mutation :: rest => session.outcome mutation :: (session.apply mutation).outcomes rest

end Session

def Query.readsTime : Query → Bool
  | createdAt | snapshot => true
  | _ => false

namespace SessionSnapshot

/-- The builder that is given all of a snapshot that it can take. -/
def builder (snapshot : SessionSnapshot) (context : AccessContext) : SessionBuilder where
  id := some snapshot.id
  principal := some snapshot.principal
  roles := snapshot.roles
  environment := .empty
  system := snapshot.system
  context := context

def level? (snapshot : SessionSnapshot) (kind : PermissionKind) (target : String) : Option Level :=
  ((snapshot.permissions.get kind).getD ∅)[target]?

/-- The changes that bring in the environment, some grants, the constraints and some attributes. -/
def changes (snapshot : SessionSnapshot) (grants : List (PermissionKind × String × Level))
    (attributes : List (String × Json)) : List Mutation :=
  [EnvironmentField.locale, .timezone, .address, .clientInfo].map (fun field =>
    .setEnvironment field (snapshot.environment.get field)) ++
  grants.map (fun (kind, target, level) => .grant kind target none level) ++
  snapshot.constraints.map .addConstraint ++
  attributes.map (fun (name, value) => .setAttribute name value)

def rebuiltHandle (snapshot : SessionSnapshot) (handle : Nat) : Nat :=
  handle + snapshot.substituted.toList.length

/-- The commands that build a session, derive one for the substituted user if there is one, and
change the last one made. -/
def rebuilding (snapshot : SessionSnapshot) (context : AccessContext) (now : Instant)
    (locale : String) (handle : Nat) (grants : List (PermissionKind × String × Level))
    (attributes : List (String × Json)) : List Command :=
  .build (snapshot.builder context) now ::
    snapshot.substituted.toList.map (fun user => .derive handle user snapshot.roles locale) ++
    (snapshot.changes grants attributes).map (.mutate (snapshot.rebuiltHandle handle))

end SessionSnapshot

end Authorization
