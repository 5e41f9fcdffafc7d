import Authorization.Proofs.Decision
import Authorization.Proofs.Grants
import Authorization.Proofs.Replication

/-! Audit trails. Whoever replays the events of a script knows the levels and the constraints that
its sessions have in the end. Events tell rightly how much they took away, and a denial stands in
the trail for every check that failed and for nothing else. -/

set_option autoImplicit false

namespace Authorization

/-! ## Changes -/

namespace Reconstruction

/-- What the events told is what the holdings show. -/
structure Tells (known : Reconstruction) (holdings : Holdings) : Prop where
  levels : ∀ kind target, known.levels kind target = holdings.permissions.level? kind target
  ids : ∀ entity, known.ids entity = (holdings.constraints.list entity).map (·.id)

namespace Tells

variable {known : Reconstruction} {holdings : Holdings}

theorem empty : Reconstruction.empty.Tells .empty where
  levels := fun kind target => by cases kind <;> rfl
  ids := fun entity => by rw [Holdings.empty, ConstraintIndex.list_empty]; rfl

theorem grant (tells : known.Tells holdings) (kind : PermissionKind) (target : String)
    (aliasName : Option String) (value : Level) :
    (known.follow (.permissionGranted kind target aliasName value)).Tells
      (holdings.apply (.grant kind target aliasName value)) := by
  refine ⟨fun other wanted => ?_, tells.ids⟩
  rw [Holdings.apply, PermissionTable.level?_grant, ← tells.levels, follow]
  simp only [eq_comm (a := kind), eq_comm (a := target)]
  split
  · cases known.levels other wanted <;> rfl
  · rfl

theorem revoke (tells : known.Tells holdings) (kind : PermissionKind) (target : String)
    (removed : Bool) :
    (known.follow (.permissionRevoked kind target removed)).Tells
      (holdings.apply (.revoke kind target)) := by
  refine ⟨fun other wanted => ?_, tells.ids⟩
  rw [Holdings.apply, PermissionTable.level?_revoke, ← tells.levels, follow]

theorem addConstraint (tells : known.Tells holdings) (constraint : Constraint) :
    ((ConstraintIndex.addEvents constraint).foldl follow known).Tells
      (holdings.apply (.addConstraint constraint)) := by
  rw [Holdings.apply, ConstraintIndex.addEvents, ConstraintIndex.add_eq]
  cases constraint.isBound with
  | false => exact tells
  | true =>
    refine ⟨tells.levels, fun entity => ?_⟩
    simp only [if_true, List.foldl_cons, List.foldl_nil, follow, ConstraintIndex.list_append,
      tells.ids, eq_comm (a := constraint.entityName)]
    split
    · rw [List.map_append, List.map_singleton]
    · rfl

theorem removeConstraint (tells : known.Tells holdings) (entity : String) (id : ConstraintId) :
    ((holdings.constraints.removeEvents entity id).foldl follow known).Tells
      (holdings.apply (.removeConstraint entity id)) := by
  rw [Holdings.apply, ConstraintIndex.removeEvents]
  cases listed : holdings.constraints.lists.contains entity with
  | true =>
    refine ⟨tells.levels, fun other => ?_⟩
    simp only [if_true, List.foldl_cons, List.foldl_nil, follow, ConstraintIndex.list_remove,
      tells.ids, eq_comm (a := entity)]
    split
    · exact List.filter_map
    · rfl
  -- An entity without constraints has none to lose, and nothing is reported.
  | false =>
    have none : holdings.constraints.list entity = [] := by
      rw [ConstraintIndex.list, Std.ExtTreeMap.getElem?_eq_none_of_contains_eq_false listed]
      rfl
    refine ⟨tells.levels, fun other => (tells.ids other).trans (congrArg _ ?_)⟩
    rw [ConstraintIndex.list_remove]
    by_cases same : entity = other
    · rw [if_pos same, ← same, none, List.filter_nil]
    · rw [if_neg same]

theorem change (tells : known.Tells holdings) (mutation : Mutation) :
    ((holdings.events mutation).foldl follow known).Tells (holdings.apply mutation) := by
  cases mutation with
  | grant kind target aliasName value => exact tells.grant kind target aliasName value
  | revoke kind target => exact tells.revoke kind target (holdings.permissions.level? kind target).isSome
  | addConstraint constraint => exact tells.addConstraint constraint
  | removeConstraint entity id => exact tells.removeConstraint entity id
  | _ => exact ⟨tells.levels, tells.ids⟩

end Tells

end Reconstruction

/-! ## What goes away -/

/-- If the event reports a removal, then rightly how much went away between two holdings. -/
def Event.Accounts (before after : Holdings) : Event → Prop
  | .permissionRevoked kind target removed =>
    (removed = true ↔ (before.permissions.level? kind target).isSome = true) ∧
      after.permissions.level? kind target = none
  | .constraintRemoved _ entity removed =>
    removed + (after.constraints.list entity).length = (before.constraints.list entity).length
  | _ => True

theorem ConstraintIndex.countOf_add_length_remove (index : ConstraintIndex) (entity : String)
    (id : ConstraintId) :
    index.countOf entity id + ((index.remove entity id).list entity).length =
      (index.list entity).length := by
  rw [list_remove, if_pos rfl, countOf, ← List.countP_eq_length_filter,
    List.length_eq_countP_add_countP (fun constraint => decide (constraint.id = id))]
  simp

namespace Holdings

theorem accounts_of_mem_events {holdings : Holdings} {mutation : Mutation} {event : Event}
    (reported : event ∈ holdings.events mutation) :
    event.Accounts holdings (holdings.apply mutation) := by
  cases mutation with
  | grant kind target aliasName value =>
    rw [List.mem_singleton.mp reported]
    trivial
  | revoke kind target =>
    rw [List.mem_singleton.mp reported]
    refine ⟨Iff.rfl, ?_⟩
    rw [apply, PermissionTable.level?_revoke, if_pos ⟨rfl, rfl⟩]
  | addConstraint constraint =>
    obtain ⟨-, same⟩ := List.mem_ite_nil_right.mp reported
    rw [List.mem_singleton.mp same]
    trivial
  | removeConstraint entity id =>
    obtain ⟨-, same⟩ := List.mem_ite_nil_right.mp reported
    rw [List.mem_singleton.mp same]
    exact holdings.constraints.countOf_add_length_remove entity id
  | _ => exact absurd reported List.not_mem_nil

theorem not_isDenial_of_mem_events {holdings : Holdings} {mutation : Mutation} {event : Event}
    (reported : event ∈ holdings.events mutation) : ¬ event.isDenial = true := by
  cases mutation with
  | grant | revoke =>
    rw [List.mem_singleton.mp reported]
    exact Bool.false_ne_true
  | addConstraint | removeConstraint =>
    obtain ⟨-, same⟩ := List.mem_ite_nil_right.mp reported
    rw [List.mem_singleton.mp same]
    exact Bool.false_ne_true
  | _ => exact absurd reported List.not_mem_nil

end Holdings

/-! ## Denials -/

/-- The event of a failed check, with the highest level known, which misses the required one. -/
def Event.Denies (event : Event) (session : Session) (check : Check) : Prop :=
  ∃ level,
    event = .permissionDenied session.id check.kind check.target check.required level ∧
    session.Knows check.kind check.target level ∧
    (∀ other, session.Knows check.kind check.target other → other ≤ level) ∧
    ¬ check.required ≤ level

theorem Target.compose_eq (scope name : String) : compose scope name = scope ++ (":" ++ name) := by
  rw [compose, delimiter, String.push_eq_append, String.append_assoc]
  rfl

namespace Query

theorem check?_isOpPermitted (entity : String) (op : EntityOp) :
    (isOpPermitted entity op).check? =
      some ⟨.entityOperation, Target.ofOp entity op, .permit⟩ := by
  rw [Target.ofOp, Target.compose_eq]
  cases op <;> rfl

theorem check?_isAttributePermitted (entity name : String) (access : AttributeAccess) :
    (isAttributePermitted entity name access).check? =
      some ⟨.entityAttribute, Target.ofAttribute entity name, access.level⟩ := by
  rw [Target.ofAttribute, Target.compose_eq, ← String.append_assoc]
  cases access <;> rfl

theorem check?_isComponentPermitted (screen component : String) :
    (isComponentPermitted screen component).check? =
      some ⟨.ui, Target.compose screen component, .permit⟩ := by
  rw [Target.compose_eq, ← String.append_assoc]
  rfl

end Query

namespace Session

/-- A question that states a check is answered and reported by it; any other question reports
nothing. -/
theorem ask_cases (session : Session) (overrides : RequestOverrides) (query : Query) :
    (query.check? = none ∧ session.askEvents query = []) ∨
    ∃ check, query.check? = some check ∧
      session.askEvents query =
        session.checkEvents check.kind check.target check.required ∧
      session.answer overrides query =
        .flag (session.isPermitted check.kind check.target check.required) := by
  cases query with
  | isPermitted | isScreenPermitted | isSpecificPermitted => exact .inr ⟨_, rfl, rfl, rfl⟩
  | isOpPermitted entity op => exact .inr ⟨_, Query.check?_isOpPermitted entity op, rfl, rfl⟩
  | isAttributePermitted entity name access =>
    exact .inr ⟨_, Query.check?_isAttributePermitted entity name access, rfl, rfl⟩
  | isComponentPermitted screen component =>
    exact .inr ⟨_, Query.check?_isComponentPermitted screen component, rfl, rfl⟩
  | _ => exact .inl ⟨rfl, rfl⟩

theorem exists_denial {session : Session} {check : Check}
    (failed : session.isPermitted check.kind check.target check.required = false) :
    ∃ event, session.checkEvents check.kind check.target check.required = [event] ∧
      event.isDenial = true ∧ event.Denies session check := by
  have reported := failed
  rw [isPermitted, Bool.or_eq_false_iff] at failed
  cases decided : session.level? check.kind check.target with
  | none =>
    rw [decided] at failed
    exact Bool.noConfusion failed.2
  | some level =>
    obtain ⟨known, highest⟩ := (session.level?_eq_some_iff ..).mp decided
    have misses : ¬ check.required ≤ level := by simpa [decided] using failed.2
    refine ⟨_, ?_, rfl, level, rfl, known, highest, misses⟩
    simp [checkEvents, reported, decided]

end Session

theorem Scene.mem_eventsOf (scene : Scene) {place : Nat} {operation : Operation} {event : Event}
    (reported : event ∈ scene.eventsOf place operation) :
    ∃ session, scene.session? place = some session ∧ event ∈ session.eventsOf operation := by
  rw [eventsOf] at reported
  cases found : scene.session? place with
  | none =>
    rw [found] at reported
    exact absurd reported List.not_mem_nil
  | some session =>
    rw [found] at reported
    exact ⟨session, rfl, reported⟩

def Denials (events : List Event) (failed : List (Session × Check)) : Prop :=
  List.Forall₂ (fun event failed => event.Denies failed.1 failed.2) (events.filter Event.isDenial)
    failed

namespace Denials

theorem append {events later : List Event} {failed failed' : List (Session × Check)}
    (denials : Denials events failed) (denials' : Denials later failed') :
    Denials (events ++ later) (failed ++ failed') := by
  rw [Denials, List.filter_append]
  exact List.rel_append denials denials'

theorem of_none {events : List Event} (none : ∀ event ∈ events, ¬ event.isDenial = true) :
    Denials events [] := by
  rw [Denials, List.filter_eq_nil_iff.mpr none]
  exact .nil

theorem ask (scene : Scene) (place : Nat) (query : Query) :
    Denials (scene.eventsOf place (.ask query)) (scene.failedCheck? place (.ask query)).toList := by
  rw [Scene.eventsOf, Scene.failedCheck?, Scene.reply?]
  cases found : scene.session? place with
  | none =>
    cases query.check? <;> exact .nil
  | some session =>
    rw [Option.elim_some, Session.eventsOf]
    obtain ⟨asked, silent⟩ | ⟨check, asked, reported, answered⟩ :=
      session.ask_cases scene.registry.overrides query
    · rw [asked, silent]
      exact .nil
    · simp only [asked, reported, answered, Option.bind_eq_bind, Option.bind_some,
        Option.map_some, Reply.isRefusal]
      cases decided : session.isPermitted check.kind check.target check.required with
      | true =>
        rw [Session.checkEvents, if_pos decided]
        exact .nil
      | false =>
        obtain ⟨event, single, denial, denies⟩ := Session.exists_denial decided
        rw [Denials, single, List.filter_singleton, denial]
        exact .cons denies .nil

theorem perform (scene : Scene) (place : Nat) (operation : Operation) :
    Denials (scene.eventsOf place operation) (scene.failedCheck? place operation).toList := by
  cases operation with
  | ask query => exact ask scene place query
  | change mutation =>
    refine of_none fun event reported => ?_
    obtain ⟨session, -, reported⟩ := scene.mem_eventsOf reported
    exact Holdings.not_isDenial_of_mem_events reported
  | derive principal roles locale =>
    refine of_none fun event reported => ?_
    obtain ⟨session, -, reported⟩ := scene.mem_eventsOf reported
    rcases List.mem_pair.mp reported with rfl | rfl <;> exact Bool.false_ne_true

theorem trail (scene : Scene) (script : List (Nat × Operation)) :
    Denials (scene.trail script) (scene.failedChecks script) := by
  induction script generalizing scene with
  | nil => exact .nil
  | cons head rest ih =>
    exact (perform scene head.1 head.2).append (ih (scene.perform head.1 head.2))

end Denials

/-! ## Runs -/

def Holdings.after (holdings : Holdings) : Operation → Holdings
  | .change mutation => holdings.apply mutation
  | .ask _ | .derive _ _ _ => holdings

/-- A session stays where it is, and shares in what becomes of the holdings. -/
theorem View.perform_of_session? {view : View} {place : Nat} {session : Session}
    (found : view.session? place = some session) (operation : Operation) :
    (view.perform place operation).holdings = session.toHoldings.after operation ∧
    ∃ next, (view.perform place operation).session? place = some next ∧
      next.toHoldings = session.toHoldings.after operation := by
  obtain ⟨profile, known, rfl⟩ := Option.map_eq_some_iff.mp found
  rw [perform, known]
  cases operation with
  | ask query => exact ⟨rfl, _, found, rfl⟩
  | change mutation =>
    refine ⟨rfl, ⟨profile.apply mutation, view.holdings.apply mutation⟩, ?_, rfl⟩
    simp [session?, known]
  | derive principal roles locale =>
    refine ⟨rfl, ⟨profile, view.holdings⟩, ?_, rfl⟩
    rw [session?, List.getElem?_append_left (List.getElem?_eq_some_iff.mp known).1, known]
    rfl

theorem Reconstruction.Tells.eventsOf {known : Reconstruction} {session : Session}
    (tells : known.Tells session.toHoldings) (operation : Operation) :
    ((session.eventsOf operation).foldl follow known).Tells
      (session.toHoldings.after operation) := by
  cases operation with
  | ask query =>
    rw [Session.eventsOf]
    obtain ⟨-, silent⟩ | ⟨check, -, reported, -⟩ := session.ask_cases .empty query
    · rw [silent]
      exact tells
    · rw [reported, Session.checkEvents]
      split
      · exact tells
      · cases session.level? check.kind check.target <;> exact tells
  | change mutation => exact tells.change mutation
  | derive principal roles locale => exact tells

namespace Session

variable {session : Session}

theorem accounts_of_mem_eventsOf {operation : Operation} {event : Event}
    (reported : event ∈ session.eventsOf operation) :
    event.Accounts session.toHoldings (session.toHoldings.after operation) := by
  cases operation with
  | ask query =>
    rw [eventsOf] at reported
    obtain ⟨-, silent⟩ | ⟨check, -, told, -⟩ := session.ask_cases .empty query
    · rw [silent] at reported
      exact absurd reported List.not_mem_nil
    · rw [told, checkEvents, List.mem_ite_nil_left] at reported
      obtain ⟨level, -, rfl⟩ := List.mem_map.mp reported.2
      trivial
  | change mutation => exact Holdings.accounts_of_mem_events reported
  | derive principal roles locale =>
    rcases List.mem_pair.mp reported with rfl | rfl <;> trivial

theorem eventsOf_eq_nil_of_refused {constraint : Constraint} {fault : ConstraintFault}
    (refused : session.outcome (.addConstraint constraint) = .refused fault) :
    session.eventsOf (.change (.addConstraint constraint)) = [] := by
  rw [outcome, ConstraintIndex.add_eq] at refused
  cases bound : constraint.isBound with
  | true =>
    rw [bound] at refused
    cases refused
  | false => exact if_neg (bound ▸ Bool.false_ne_true)

end Session

theorem Scene.length_handles_le_run (scene : Scene) (script : List (Nat × Operation)) :
    scene.handles.length ≤ (scene.run script).handles.length := by
  induction script generalizing scene with
  | nil => exact Nat.le_refl _
  | cons head rest ih =>
    refine Nat.le_trans ?_ (ih (scene.perform head.1 head.2))
    rw [perform]
    split
    · exact Nat.le_refl _
    · cases head.2 <;> simp

namespace Scene.Shows

variable {scene : Scene} {view : View} {family : Nat} {known : Reconstruction}

theorem tells_perform (shows : scene.Shows view family) (tells : known.Tells view.holdings)
    (place : Nat) (operation : Operation) :
    ((scene.eventsOf place operation).foldl Reconstruction.follow known).Tells
      (view.perform place operation).holdings := by
  rw [eventsOf, shows.session?_eq]
  cases found : view.session? place with
  | none =>
    have absent : view.profiles[place]? = none := Option.map_eq_none_iff.mp found
    rw [View.perform, absent]
    exact tells
  | some session =>
    obtain ⟨after, -⟩ := View.perform_of_session? found operation
    rw [after]
    obtain ⟨profile, -, rfl⟩ := Option.map_eq_some_iff.mp found
    exact tells.eventsOf operation

theorem tells_trail (shows : scene.Shows view family) (tells : known.Tells view.holdings)
    (script : List (Nat × Operation)) :
    ∃ view', (scene.run script).Shows view' family ∧
      ((scene.trail script).foldl Reconstruction.follow known).Tells view'.holdings := by
  induction script generalizing scene view known with
  | nil => exact ⟨view, shows, tells⟩
  | cons head rest ih =>
    obtain ⟨place, operation⟩ := head
    rw [trail, List.foldl_append]
    exact ih (shows.perform place operation) (shows.tells_perform tells place operation)

theorem exists_session (shows : scene.Shows view family) {place : Nat}
    (inside : place < scene.handles.length) :
    ∃ session, scene.session? place = some session ∧ session.toHoldings = view.holdings := by
  rcases shows.place_cases place with ⟨none, -⟩ | ⟨handle, profile, -, known, -⟩
  · exact absurd inside (Nat.not_lt_of_le (List.getElem?_eq_none_iff.mp none))
  · rw [shows.session?_eq, View.session?, known]
    exact ⟨_, rfl, rfl⟩

end Scene.Shows

/-- Let a session be built in any registry, and let a script run on it and on the sessions derived
from it. Then replaying the events gives the levels and the constraints of each of them; every event
of a next operation accounts for what goes away, and a refused constraint goes unreported; and the
denials are those of the checks that failed, in their order, with the level that decided. -/
theorem Session.trail_of_script (registry : Registry) (builder : SessionBuilder) (now : Instant)
    (root : Session) (built : builder.build now = .ok root) (script : List (Nat × Operation)) :
    let opening := Scene.opening (registry.register root) registry.nextHandle
    let trail := root.createdEvent :: opening.trail script
    let final := opening.run script
    0 < final.handles.length ∧
    (∀ place < final.handles.length, ∃ session, final.session? place = some session ∧
      (∀ kind target, (Reconstruction.replay trail).levels kind target =
        session.permissions.level? kind target) ∧
      (∀ entity, (Reconstruction.replay trail).ids entity =
        (session.constraints.list entity).map (·.id)) ∧
      (∀ operation, ∃ next, (final.perform place operation).session? place = some next ∧
        ∀ event ∈ final.eventsOf place operation,
          event.Accounts session.toHoldings next.toHoldings) ∧
      ∀ constraint fault, final.reply? place (.change (.addConstraint constraint)) =
          some (.outcome (.refused fault)) →
        final.eventsOf place (.change (.addConstraint constraint)) = []) ∧
    List.Forall₂ (fun event failed => event.Denies failed.1 failed.2)
      (trail.filter Event.isDenial) (opening.failedChecks script) := by
  intro opening trail final
  have untouched : root.toHoldings = .empty := by
    obtain ⟨id, principal, -, -, -, -, same⟩ :=
      (SessionBuilder.build_eq_ok_iff builder now root).mp built
    rw [same]
    rfl
  have tells : Reconstruction.empty.Tells root.toHoldings := by
    rw [untouched]
    exact .empty
  obtain ⟨family, shows⟩ := Scene.opening_shows (registry.session?_register_nextHandle root)
  obtain ⟨view, shows, tells⟩ := shows.tells_trail tells script
  refine ⟨opening.length_handles_le_run script, fun place inside => ?_, ?_⟩
  · obtain ⟨session, found, holdings⟩ := shows.exists_session inside
    rw [← holdings] at tells
    refine ⟨session, found, tells.levels, tells.ids, fun operation => ?_, ?_⟩
    · obtain ⟨-, next, there, after⟩ :=
        View.perform_of_session? ((shows.session?_eq place).symm.trans found) operation
      refine ⟨next, ((shows.perform place operation).session?_eq place).trans there, ?_⟩
      intro event reported
      rw [Scene.eventsOf, found] at reported
      rw [after]
      exact accounts_of_mem_eventsOf reported
    · intro constraint fault refused
      rw [Scene.reply?, found] at refused
      rw [Scene.eventsOf, found]
      exact eventsOf_eq_nil_of_refused (Reply.outcome.inj (Option.some.inj refused))
  · exact Denials.trail opening script

/-- Changes on both sides of a derivation, and failing checks of all sorts beside one that passes. -/
theorem Session.trail_of_script_denied :
    let root := SessionBuilder.empty.sessionFor (.ofNat 1) ⟨.ofNat 2, "ada", none, none, none⟩
      ⟨⟨2024, 1, 2⟩, 3, 4, 5, 0⟩
    let opening := Scene.opening (Registry.empty.register root) Registry.empty.nextHandle
    let script : List (Nat × Operation) := [
      (0, .change (.grant .screen "orders" (some "invoices") .deny)),
      (0, .change (.grant .entityOperation "order:delete" none .deny)),
      (0, .change (.grant .entityAttribute "order:total" none .permit)),
      (0, .derive ⟨.ofNat 3, "grace", none, none, none⟩ .empty "de"),
      (1, .change (.grant .specific "reports" none .permit)),
      (1, .change (.grant .ui "orders:save" none .deny)),
      (1, .ask (.isScreenPermitted "invoices")),
      (1, .ask (.isOpPermitted "order" .delete)),
      (1, .ask (.isAttributePermitted "order" "total" .view)),
      (1, .ask (.isAttributePermitted "order" "total" .modify)),
      (1, .change (.addConstraint (.ofId (.ofNat 7) "order"))),
      (0, .change (.revoke .specific "reports")),
      (0, .change (.grant .specific "reports" none .deny)),
      (0, .ask (.isSpecificPermitted "reports")),
      (0, .ask (.isComponentPermitted "orders" "save")),
      (0, .ask (.isPermitted .entityAttribute "order:total" 3)),
      (1, .change (.revoke .screen "orders"))]
    (∃ session, (opening.run script).session? 0 = some session ∧
      session.permissions.level? .screen "orders" = none ∧
      session.permissions.level? .screen "invoices" = some .deny ∧
      (session.constraints.list "order").map (·.id) = [.ofNat 7]) ∧
    (opening.failedChecks script).length = 6 := by
  intro root opening script
  have built : { SessionBuilder.empty with
      id := some (.ofNat 1)
      principal := some ⟨.ofNat 2, "ada", none, none, none⟩ }.build ⟨⟨2024, 1, 2⟩, 3, 4, 5, 0⟩ =
      .ok root :=
    (SessionBuilder.build_eq_ok_iff ..).mpr
      ⟨_, _, rfl, by decide +kernel, rfl, by decide +kernel, rfl⟩
  obtain ⟨first, places, denials⟩ := trail_of_script .empty _ _ _ built script
  obtain ⟨session, found, levels, ids, -⟩ := places 0 first
  exact ⟨⟨session, found, (levels .screen "orders").symm.trans (by decide +kernel),
    (levels .screen "invoices").symm.trans (by decide +kernel),
    (ids "order").symm.trans (by decide +kernel)⟩,
    denials.length_eq.symm.trans (by decide +kernel)⟩

end Authorization
