import Authorization.Proofs.Runs
import Authorization.Session.Script

/-! Scenes whose sessions share their holdings. All that a script can learn of such a scene is what
the holdings and the profiles show, and so two scenes that are alike in these answer alike. -/

set_option autoImplicit false

namespace Authorization

/-! ## Likeness

Sessions cannot be told apart by questions other than those about local attributes when their
profiles differ in these attributes only, and their permission tables in the kinds listed without
levels. -/

theorem PermissionTable.snapshot_congr {first second : PermissionTable}
    (levels : ∀ kind, first.levelsOf kind = second.levelsOf kind) :
    first.snapshot = second.snapshot := by
  refine PerKind.ext_get fun kind => ?_
  rw [get_snapshot, get_snapshot, levels]

def Profile.Alike (first second : Profile) : Prop :=
  ∃ localAttributes, second = { first with localAttributes := localAttributes }

structure Holdings.Alike (first second : Holdings) : Prop where
  levels : ∀ kind, first.permissions.levelsOf kind = second.permissions.levelsOf kind
  constraints : first.constraints = second.constraints
  attributes : first.attributes = second.attributes

namespace Profile.Alike

variable {first second : Profile}

theorem apply (alike : first.Alike second) (mutation : Mutation) :
    (first.apply mutation).Alike (second.apply mutation) := by
  obtain ⟨localAttributes, rfl⟩ := alike
  cases mutation <;> exact ⟨_, rfl⟩

theorem derive (alike : first.Alike second) (principal : Principal) (roles : RoleSet)
    (locale : String) :
    (first.derive principal roles locale).Alike (second.derive principal roles locale) := by
  obtain ⟨localAttributes, rfl⟩ := alike
  exact ⟨∅, rfl⟩

end Profile.Alike

namespace Holdings.Alike

variable {first second : Holdings}

theorem apply (alike : first.Alike second) (mutation : Mutation) :
    (first.apply mutation).Alike (second.apply mutation) := by
  obtain ⟨table, index, attributes⟩ := first
  obtain ⟨table', index', attributes'⟩ := second
  obtain ⟨levels, same, same'⟩ := alike
  dsimp only at levels same same'
  subst same same'
  cases mutation with
  | grant kind target aliasName value =>
    refine ⟨fun other => ?_, rfl, rfl⟩
    simp only [Holdings.apply, PermissionTable.levelsOf_grant, levels]
  | revoke kind target =>
    refine ⟨fun other => ?_, rfl, rfl⟩
    simp only [Holdings.apply, PermissionTable.levelsOf_revoke, levels]
  -- The indexes are one and the same, so that both refuse the constraint or neither does.
  | addConstraint constraint =>
    rw [Holdings.apply, Holdings.apply]
    dsimp only
    split <;> exact ⟨levels, rfl, rfl⟩
  | removeConstraint | setAttribute | removeAttribute | setLocal | removeLocal | setEnvironment =>
    exact ⟨levels, rfl, rfl⟩

end Holdings.Alike

structure Session.Alike (first second : Session) : Prop where
  profile : first.toProfile.Alike second.toProfile
  holdings : first.toHoldings.Alike second.toHoldings

namespace Session.Alike

variable {first second : Session}

theorem level? (alike : first.Alike second) (kind : PermissionKind) (target : String) :
    first.level? kind target = second.level? kind target := by
  obtain ⟨localAttributes, same⟩ := alike.profile
  have stored : first.permissions.level? kind target = second.permissions.level? kind target := by
    rw [PermissionTable.level?, PermissionTable.level?, alike.holdings.levels]
  rw [Session.level?, Session.level?, suppliedLevels, suppliedLevels, stored, same]

theorem isPermitted (alike : first.Alike second) (kind : PermissionKind) (target : String)
    (required : Level) :
    first.isPermitted kind target required = second.isPermitted kind target required := by
  obtain ⟨localAttributes, same⟩ := alike.profile
  rw [Session.isPermitted, Session.isPermitted, alike.level?, same]
  rfl

theorem snapshot (alike : first.Alike second) : first.snapshot = second.snapshot := by
  obtain ⟨localAttributes, same⟩ := alike.profile
  have permissions := PermissionTable.snapshot_congr alike.holdings.levels
  rw [Session.snapshot, Session.snapshot, same, permissions, alike.holdings.constraints,
    alike.holdings.attributes]

theorem attributeAccess (alike : first.Alike second) (entity name : String) :
    first.attributeAccess entity name = second.attributeAccess entity name := by
  obtain ⟨localAttributes, same⟩ := alike.profile
  rw [Session.attributeAccess, Session.attributeAccess, alike.level?, same]
  rfl

/-- What no permission has a part in is the same by the profile and the other holdings alone. -/
theorem answer (alike : first.Alike second) (overrides : RequestOverrides) {query : Query}
    (shared : query.readsLocal = false) :
    first.answer overrides query = second.answer overrides query := by
  cases query with
  | localAttribute | localAttributeAs | localAttributeNames => cases shared
  | isPermitted | isScreenPermitted | isOpPermitted | isAttributePermitted | isSpecificPermitted
  | isComponentPermitted => exact congrArg Answer.flag (alike.isPermitted ..)
  | attributeAccess => exact congrArg Answer.access (alike.attributeAccess ..)
  | level kind target =>
    rw [Session.answer, Session.answer, PermissionTable.level?, PermissionTable.level?,
      alike.holdings.levels]
  | levelsOf kind => exact congrArg Answer.levels (alike.holdings.levels kind)
  | snapshot => exact congrArg Answer.snapshot alike.snapshot
  -- The rest reads neither levels nor local attributes, and the sessions agree in all else.
  | _ =>
    obtain ⟨profile, table, index, attributes⟩ := first
    obtain ⟨profile', table', index', attributes'⟩ := second
    obtain ⟨⟨localAttributes, same⟩, -, constraints, durable⟩ := alike
    dsimp only at same constraints durable
    subst same constraints durable
    rfl

theorem outcome (alike : first.Alike second) {mutation : Mutation}
    (shared : (Operation.change mutation).readsLocal = false) :
    first.outcome mutation = second.outcome mutation := by
  cases mutation with
  | removeLocal => cases shared
  | addConstraint constraint =>
    rw [Session.outcome, Session.outcome, alike.holdings.constraints]
  | removeConstraint entity id =>
    rw [Session.outcome, Session.outcome, alike.holdings.constraints]
  | removeAttribute name => rw [Session.outcome, Session.outcome, alike.holdings.attributes]
  | grant | revoke | setAttribute | setLocal | setEnvironment => rfl

end Session.Alike

/-! ## Scenes -/

/-- Holdings, and the profiles of the sessions that use them. -/
structure View where
  holdings : Holdings
  profiles : List Profile

namespace View

def session? (view : View) (place : Nat) : Option Session :=
  view.profiles[place]?.map fun profile => ⟨profile, view.holdings⟩

def perform (view : View) (place : Nat) (operation : Operation) : View :=
  match view.profiles[place]? with
  | none => view
  | some profile =>
    match operation with
    | .ask _ => view
    | .change mutation =>
      { holdings := view.holdings.apply mutation
        profiles := view.profiles.modify place fun profile => profile.apply mutation }
    | .derive principal roles locale =>
      { view with profiles := view.profiles ++ [profile.derive principal roles locale] }

structure Alike (first second : View) : Prop where
  holdings : first.holdings.Alike second.holdings
  profiles : List.Forall₂ Profile.Alike first.profiles second.profiles

end View

namespace Scene

/-- The scene has the sessions of the view, in their order. -/
structure Shows (scene : Scene) (view : View) (family : Nat) : Prop where
  members : scene.handles.map (fun handle => scene.registry.members[handle]?) =
    view.profiles.map fun profile => some ⟨profile, family⟩
  holdings : scene.registry.families[family]? = some view.holdings
  distinct : scene.handles.Nodup

namespace Shows

variable {scene : Scene} {view : View} {family : Nat}

theorem place_cases (shows : scene.Shows view family) (place : Nat) :
    (scene.handles[place]? = none ∧ view.profiles[place]? = none) ∨
      ∃ handle profile, scene.handles[place]? = some handle ∧
        view.profiles[place]? = some profile ∧
        scene.registry.members[handle]? = some ⟨profile, family⟩ := by
  have same := congrArg (·[place]?) shows.members
  simp only [List.getElem?_map] at same
  cases found : scene.handles[place]? with
  | none =>
    rw [found, Option.map_none, eq_comm, Option.map_eq_none_iff] at same
    exact .inl ⟨rfl, same⟩
  | some handle =>
    rw [found, Option.map_some, eq_comm, Option.map_eq_some_iff] at same
    obtain ⟨profile, known, member⟩ := same
    exact .inr ⟨handle, profile, rfl, known, member.symm⟩

theorem session?_eq (shows : scene.Shows view family) (place : Nat) :
    scene.session? place = view.session? place := by
  rcases shows.place_cases place with ⟨none, none'⟩ | ⟨handle, profile, known, known', member⟩
  · rw [session?, View.session?, none, none']
    rfl
  · rw [session?, View.session?, known, known', Option.bind_some, Option.map_some,
      Registry.session?_eq_some_iff]
    exact ⟨_, member, shows.holdings, rfl⟩

theorem change (shows : scene.Shows view family) {place handle : Nat}
    (known : scene.handles[place]? = some handle) {profile : Profile}
    (member : scene.registry.members[handle]? = some ⟨profile, family⟩) (mutation : Mutation) :
    Shows { scene with registry := scene.registry.mutate handle mutation }
      { holdings := view.holdings.apply mutation
        profiles := view.profiles.modify place fun profile => profile.apply mutation } family := by
  rw [Registry.mutate_of_member member]
  refine ⟨List.ext_getElem? fun other => ?_, ?_, shows.distinct⟩
  · simp only [List.getElem?_map, List.getElem?_modify]
    rcases shows.place_cases other with ⟨none, none'⟩ | ⟨handle', profile', known', held, member'⟩
    · rw [none, none']
      rfl
    · rw [known', held, Option.map_some, member']
      -- The handles differ, so that only the place of the change holds its handle.
      by_cases here : place = other
      · subst here
        rw [known] at known'
        cases known'
        simp
      · have apart : handle ≠ handle' := by
          rintro rfl
          have inside := (List.getElem?_eq_some_iff.mp known).1
          exact here ((List.getElem?_inj inside shows.distinct).mp (known.trans known'.symm))
        simp [here, apart]
  · simp only [List.getElem?_modify, shows.holdings]
    simp

theorem derive (shows : scene.Shows view family) {handle : Nat} {profile : Profile}
    (member : scene.registry.members[handle]? = some ⟨profile, family⟩) (principal : Principal)
    (roles : RoleSet) (locale : String) :
    Shows ⟨scene.registry.derive handle principal roles locale,
        scene.handles ++ [scene.registry.nextHandle]⟩
      { view with profiles := view.profiles ++ [profile.derive principal roles locale] } family := by
  -- Every handle is taken by a member already, and so the next one is new.
  have inside : ∀ handle ∈ scene.handles, handle < scene.registry.members.length := by
    intro handle known
    obtain ⟨place, here⟩ := List.mem_iff_getElem?.mp known
    rcases shows.place_cases place with ⟨none, -⟩ | ⟨handle', profile', known', -, member'⟩
    · rw [none] at here
      cases here
    · rw [here] at known'
      cases known'
      exact (List.getElem?_eq_some_iff.mp member').1
  rw [Registry.derive_of_member member]
  refine ⟨?_, shows.holdings, ?_⟩
  · rw [List.map_append, List.map_append, ← shows.members]
    congr 1
    · refine List.map_congr_left fun handle known => ?_
      rw [List.getElem?_append_left (inside handle known)]
    · simp [Registry.nextHandle]
  · rw [List.nodup_append]
    refine ⟨shows.distinct, List.nodup_cons.mpr ⟨List.not_mem_nil, .nil⟩, ?_⟩
    intro old known new added
    rw [List.mem_singleton.mp added, Registry.nextHandle]
    exact Nat.ne_of_lt (inside old known)

theorem perform (shows : scene.Shows view family) (place : Nat) (operation : Operation) :
    (scene.perform place operation).Shows (view.perform place operation) family := by
  rcases shows.place_cases place with ⟨none, none'⟩ | ⟨handle, profile, known, known', member⟩
  · rw [Scene.perform, View.perform, none, none']
    exact shows
  · rw [Scene.perform, View.perform, known, known']
    cases operation with
    | ask query => exact shows
    | change mutation => exact shows.change known member mutation
    | derive principal roles locale => exact shows.derive member principal roles locale

end Shows

def Alike (first second : Scene) : Prop :=
  first.registry.overrides = second.registry.overrides ∧
    ∃ view family view' family', first.Shows view family ∧ second.Shows view' family' ∧
      view.Alike view'

end Scene

namespace View.Alike

variable {first second : View}

theorem perform (alike : first.Alike second) (place : Nat) (operation : Operation) :
    (first.perform place operation).Alike (second.perform place operation) := by
  rcases Pairs.place_cases alike.profiles place with
    ⟨none, none'⟩ | ⟨profile, profile', known, known', likeness⟩
  · rw [View.perform, View.perform, none, none']
    exact alike
  · rw [View.perform, View.perform, known, known']
    cases operation with
    | ask query => exact alike
    | change mutation =>
      exact ⟨alike.holdings.apply mutation,
        Pairs.modify alike.profiles place fun _ _ _ _ likeness => likeness.apply mutation⟩
    | derive principal roles locale =>
      have added := List.Forall₂.cons (likeness.derive principal roles locale) .nil
      exact ⟨alike.holdings, List.rel_append alike.profiles added⟩

end View.Alike

theorem Scene.overrides_perform (scene : Scene) (place : Nat) (operation : Operation) :
    (scene.perform place operation).registry.overrides = scene.registry.overrides := by
  rw [perform]
  split
  · rfl
  · cases operation with
    | ask query => rfl
    | change mutation => exact Registry.overrides_mutate ..
    | derive principal roles locale => exact Registry.overrides_derive ..

namespace Scene.Alike

variable {first second : Scene}

theorem perform (alike : first.Alike second) (place : Nat) (operation : Operation) :
    (first.perform place operation).Alike (second.perform place operation) := by
  obtain ⟨overrides, view, family, view', family', shows, shows', likeness⟩ := alike
  refine ⟨?_, _, family, _, family', shows.perform place operation, shows'.perform place operation,
    likeness.perform place operation⟩
  rw [overrides_perform, overrides_perform, overrides]

theorem reply?_eq (alike : first.Alike second) (place : Nat) {operation : Operation}
    (shared : operation.readsLocal = false) :
    first.reply? place operation = second.reply? place operation := by
  obtain ⟨overrides, view, family, view', family', shows, shows', likeness⟩ := alike
  rw [reply?, reply?, shows.session?_eq, shows'.session?_eq, View.session?, View.session?]
  rcases Pairs.place_cases likeness.profiles place with
    ⟨none, none'⟩ | ⟨profile, profile', known, known', same⟩
  · rw [none, none']
    rfl
  · have sessions : Session.Alike ⟨profile, view.holdings⟩ ⟨profile', view'.holdings⟩ :=
      ⟨same, likeness.holdings⟩
    rw [known, known']
    refine congrArg some ?_
    cases operation with
    | ask query =>
      dsimp only
      rw [overrides, sessions.answer _ shared]
    | change mutation => exact congrArg Reply.outcome (sessions.outcome shared)
    | derive principal roles locale => rfl

theorem transcript_eq (alike : first.Alike second) (script : List (Nat × Operation)) :
    first.transcript script = second.transcript script := by
  induction script generalizing first second with
  | nil => rfl
  | cons head rest ih =>
    obtain ⟨place, operation⟩ := head
    rw [transcript, transcript, ih (alike.perform place operation)]
    split
    · rfl
    · rename_i shared
      rw [alike.reply?_eq place (Bool.not_eq_true _ ▸ shared)]

end Scene.Alike

end Authorization
