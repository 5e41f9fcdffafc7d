import Std.Data.ExtTreeMap
import Authorization.Json.Shape

/-! Environments: what is known about the client of a session or of a request, and what requests
put in its place while they are served. -/

set_option autoImplicit false

namespace Authorization

inductive EnvironmentField where
  | locale
  | timezone
  | address
  | clientInfo
  deriving DecidableEq, Repr

structure Environment where
  locale : Option String
  timezone : Option String
  address : Option String
  clientInfo : Option String
  deriving DecidableEq, Repr

namespace Environment

def empty : Environment := ⟨none, none, none, none⟩

def get (environment : Environment) : EnvironmentField → Option String
  | .locale => environment.locale
  | .timezone => environment.timezone
  | .address => environment.address
  | .clientInfo => environment.clientInfo

def set (environment : Environment) (field : EnvironmentField) (value : Option String) :
    Environment :=
  match field with
  | .locale => { environment with locale := value }
  | .timezone => { environment with timezone := value }
  | .address => { environment with address := value }
  | .clientInfo => { environment with clientInfo := value }

theorem get_set (environment : Environment) (field other : EnvironmentField)
    (value : Option String) :
    (environment.set field value).get other = if other = field then value else environment.get other := by
  cases field <;> cases other <;> rfl

theorem ext_get {first second : Environment} (same : ∀ field, first.get field = second.get field) :
    first = second := by
  cases first
  cases second
  simp only [mk.injEq]
  exact ⟨same .locale, same .timezone, same .address, same .clientInfo⟩

end Environment

/-! ## Overrides

The values of a request are found by session and never written back to it. -/

structure RequestOverrides where
  active : Std.ExtTreeMap SessionId Environment

namespace RequestOverrides

def empty : RequestOverrides := ⟨∅⟩

def enter (overrides : RequestOverrides) (session : SessionId) (values : Environment) :
    RequestOverrides :=
  ⟨overrides.active.insert session values⟩

def leave (overrides : RequestOverrides) (session : SessionId) : RequestOverrides :=
  ⟨overrides.active.erase session⟩

def values? (overrides : RequestOverrides) (session : SessionId) : Option Environment :=
  overrides.active[session]?

def get? (overrides : RequestOverrides) (session : SessionId) (field : EnvironmentField) :
    Option String :=
  (overrides.values? session).bind fun values => values.get field

theorem values?_enter (overrides : RequestOverrides) (session other : SessionId)
    (values : Environment) :
    (overrides.enter session values).values? other =
      if session = other then some values else overrides.values? other := by
  simp only [values?, enter, Std.ExtTreeMap.getElem?_insert, Std.LawfulEqCmp.compare_eq_iff_eq]

theorem values?_leave (overrides : RequestOverrides) (session other : SessionId) :
    (overrides.leave session).values? other =
      if session = other then none else overrides.values? other := by
  simp only [values?, leave, Std.ExtTreeMap.getElem?_erase, Std.LawfulEqCmp.compare_eq_iff_eq]

end RequestOverrides

inductive RequestScope where
  | absent
  | source (lookup : SessionId → EnvironmentField → Option String)
  | overrides

namespace RequestScope

def silent : RequestScope := .source fun _ _ => none

def isPresent : RequestScope → Bool
  | .absent => false
  | .source _ | .overrides => true

def get? (scope : RequestScope) (overrides : RequestOverrides) (session : SessionId)
    (field : EnvironmentField) : Option String :=
  match scope with
  | .absent => none
  | .source lookup => lookup session field
  | .overrides => overrides.get? session field

end RequestScope

/-! ## Requests

Each request enters once, with the values that it supplies for its session, and leaves once after
that; requests overlap as they like. To overrides they are a sequence of changes. -/

inductive OverrideChange where
  | enter (session : SessionId) (values : Environment)
  | leave (session : SessionId)
  deriving DecidableEq, Repr

namespace OverrideChange

def session : OverrideChange → SessionId
  | enter session _ | leave session => session

def values? : OverrideChange → Option Environment
  | enter _ values => some values
  | leave _ => none

/-- The values are those of the most recent entering for a session, and no leaving followed. -/
def InForce (changes : List OverrideChange) (session : SessionId) (values : Environment) : Prop :=
  ∃ before after, changes = before ++ enter session values :: after ∧
    ∀ change ∈ after, change.session ≠ session

end OverrideChange

namespace RequestOverrides

def apply (overrides : RequestOverrides) : OverrideChange → RequestOverrides
  | .enter session values => overrides.enter session values
  | .leave session => overrides.leave session

def run (overrides : RequestOverrides) (changes : List OverrideChange) : RequestOverrides :=
  changes.foldl apply overrides

end RequestOverrides

structure Request where
  session : SessionId
  values : Environment
  deriving DecidableEq, Repr

/-- What a request does; requests are known by their places in a list. -/
inductive RequestStep where
  | enters (place : Nat)
  | leaves (place : Nat)
  deriving DecidableEq, Repr

namespace RequestStep

def place : RequestStep → Nat
  | enters place | leaves place => place

def change? (requests : List Request) : RequestStep → Option OverrideChange
  | enters place => requests[place]?.map fun request => .enter request.session request.values
  | leaves place => requests[place]?.map fun request => .leave request.session

/-- It is a step of a request for the session. -/
def Concerns (requests : List Request) (session : SessionId) (step : RequestStep) : Prop :=
  ∃ request ∈ requests[step.place]?, request.session = session

end RequestStep

/-- The schedule has every request enter once and leave once later, and has no other steps. -/
def Serves (requests : List Request) (schedule : List RequestStep) : Prop :=
  (∀ place < requests.length,
    schedule.filter (·.place = place) = [.enters place, .leaves place]) ∧
  ∀ step ∈ schedule, step.place < requests.length

instance (requests : List Request) (schedule : List RequestStep) :
    Decidable (Serves requests schedule) :=
  inferInstanceAs (Decidable (_ ∧ _))

def overridesAfter (requests : List Request) (past : List RequestStep) : RequestOverrides :=
  RequestOverrides.empty.run (past.filterMap (RequestStep.change? requests))

/-- The request is one for the session, and has entered and not left. -/
def IsActive (requests : List Request) (past : List RequestStep) (session : SessionId)
    (place : Nat) (request : Request) : Prop :=
  requests[place]? = some request ∧ request.session = session ∧
    .enters place ∈ past ∧ .leaves place ∉ past

/-- A request for the session has left, and none has entered since. -/
def HasLapsed (requests : List Request) (past : List RequestStep) (session : SessionId) : Prop :=
  ∃ before place after, past = before ++ .leaves place :: after ∧
    RequestStep.Concerns requests session (.leaves place) ∧
    ∀ other, .enters other ∈ after → ¬ RequestStep.Concerns requests session (.enters other)

end Authorization
