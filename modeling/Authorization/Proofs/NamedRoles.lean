import Authorization.Proofs.RoleLists
import Authorization.Proofs.Targets

/-! From the names of roles to decisions. The three lists of a mapping and the names that a user has
tell which levels are known for a target, and thereby every answer of the session. -/

set_option autoImplicit false

namespace Authorization

/-! ## Categories of named roles -/

namespace RoleSet

theorem mem_insert (set : RoleSet) (added role : Role) :
    role ∈ (set.insert added).1.roles ↔
      role ∈ set.roles ∨ (added.name ∉ set.names ∧ role = added) := by
  rw [roles_insert]
  split <;> simp [*]

def Follows (set : RoleSet) (mapping : RoleMapping) : Prop :=
  ∀ role ∈ set.roles, role.category = mapping.categoryOf role.name

variable {set : RoleSet} {mapping : RoleMapping}

theorem Follows.insert (follows : set.Follows mapping) (name : String) :
    (set.insert ⟨name, mapping.categoryOf name⟩).1.Follows mapping := by
  intro role member
  rcases (mem_insert ..).mp member with present | ⟨-, rfl⟩
  · exact follows role present
  · rfl

/-- A name that is present already has its category, so that nothing is lost when it is dropped. -/
theorem Follows.exists_insert_iff (follows : set.Follows mapping) (name : String)
    (category : RoleCategory) :
    (∃ role ∈ (set.insert ⟨name, mapping.categoryOf name⟩).1.roles, role.category = category) ↔
      (∃ role ∈ set.roles, role.category = category) ∨ mapping.categoryOf name = category := by
  constructor
  · rintro ⟨role, member, rfl⟩
    rcases (mem_insert ..).mp member with present | ⟨-, rfl⟩
    · exact .inl ⟨role, present, rfl⟩
    · exact .inr rfl
  · rintro (⟨role, present, rfl⟩ | rfl)
    · exact ⟨role, (mem_insert ..).mpr (.inl present), rfl⟩
    · by_cases known : name ∈ set.names
      · obtain ⟨role, present, rfl⟩ := List.mem_map.mp known
        exact ⟨role, (mem_insert ..).mpr (.inl present), follows role present⟩
      · exact ⟨_, (mem_insert ..).mpr (.inr ⟨known, rfl⟩), rfl⟩

theorem Follows.mem_categories_extend (follows : set.Follows mapping) (names : List String)
    (category : RoleCategory) :
    category ∈ (set.extend (names.map fun name => ⟨name, mapping.categoryOf name⟩)).categories ↔
      category ∈ set.categories ∨ ∃ name ∈ names, mapping.categoryOf name = category := by
  -- The induction runs over the names, from any set of roles that follow the mapping.
  induction names generalizing set with
  | nil => simp [extend]
  | cons name rest ih =>
    refine (ih (follows.insert name)).trans ?_
    rw [mem_categories, follows.exists_insert_iff, mem_categories, or_assoc]
    simp

theorem mem_categories_ofNames (mapping : RoleMapping) (names : List String)
    (category : RoleCategory) :
    category ∈ (ofNames mapping names).categories ↔
      ∃ name ∈ names, mapping.categoryOf name = category := by
  have follows : empty.Follows mapping := fun role member => nomatch member
  rw [ofNames, ofList, follows.mem_categories_extend]
  simp [empty]

end RoleSet

namespace RoleMapping

variable (mapping : RoleMapping) (names : List String)

def NamesSuper : Prop := ∃ name ∈ names, Text.Lists mapping.superRoles name

def NamesReadOnly : Prop :=
  ∃ name ∈ names, Text.Lists mapping.readOnlyRoles name ∧ ¬ Text.Lists mapping.superRoles name

def NamesDenying : Prop :=
  ∃ name ∈ names, Text.Lists mapping.denyingRoles name ∧
    ¬ Text.Lists mapping.readOnlyRoles name ∧ ¬ Text.Lists mapping.superRoles name

theorem super_mem_categories_iff :
    .super ∈ (RoleSet.ofNames mapping names).categories ↔ mapping.NamesSuper names := by
  simp only [RoleSet.mem_categories_ofNames, categoryOf_eq_super_iff, NamesSuper]

theorem readOnly_mem_categories_iff :
    .readOnly ∈ (RoleSet.ofNames mapping names).categories ↔ mapping.NamesReadOnly names := by
  simp only [RoleSet.mem_categories_ofNames, categoryOf_eq_readOnly_iff, NamesReadOnly]

theorem denying_mem_categories_iff :
    .denying ∈ (RoleSet.ofNames mapping names).categories ↔ mapping.NamesDenying names := by
  simp only [RoleSet.mem_categories_ofNames, categoryOf_eq_denying_iff, NamesDenying]

end RoleMapping

/-! ## Levels and decisions -/

/-- A level that counts for a target of a user with named roles: the stored one, and those that
read-only and denying roles add to it. -/
inductive NamedLevel (mapping : RoleMapping) (names : List String) (table : PermissionTable) :
    PermissionKind → String → Level → Prop where
  | stored {kind : PermissionKind} {target : String} {level : Level} :
      table.level? kind target = some level → NamedLevel mapping names table kind target level
  | read (scope : String) :
      mapping.NamesReadOnly names →
        NamedLevel mapping names table .entityOperation (scope ++ ":read") .permit
  | change {target : String} :
      mapping.NamesReadOnly names → (¬ ∃ scope, target = scope ++ ":read") →
        NamedLevel mapping names table .entityOperation target .deny
  | view (target : String) :
      mapping.NamesReadOnly names →
        NamedLevel mapping names table .entityAttribute target .permit
  | deny (kind : PermissionKind) (target : String) :
      mapping.NamesDenying names → NamedLevel mapping names table kind target .deny

theorem namedLevel_of_staticRules {mapping : RoleMapping} {names : List String}
    (table : PermissionTable) {category : RoleCategory} {kind : PermissionKind} {target : String}
    {level : Level} (attached : category ∈ (RoleSet.ofNames mapping names).categories)
    (supplied : staticRules category kind target = some level) :
    NamedLevel mapping names table kind target level := by
  cases category with
  | standard | super => cases supplied
  | denying =>
    cases supplied
    exact .deny kind target ((mapping.denying_mem_categories_iff names).mp attached)
  | readOnly =>
    have readOnly := (mapping.readOnly_mem_categories_iff names).mp attached
    cases kind with
    | screen | specific | ui => cases supplied
    | entityAttribute =>
      cases supplied
      exact .view target readOnly
    -- Only here does the rule look at the target, at what stands behind its last delimiter.
    | entityOperation =>
      cases read : Target.isRead target with
      | true =>
        obtain ⟨scope, rfl⟩ := (Target.isRead_iff target).mp read
        simp only [staticRules, read, if_true, Option.some.injEq] at supplied
        exact supplied ▸ .read scope readOnly
      | false =>
        have other : ¬ ∃ scope, target = scope ++ ":read" := by
          rw [← Target.isRead_iff, read]
          exact Bool.false_ne_true
        simp only [staticRules, read, Bool.false_eq_true, if_false, Option.some.injEq] at supplied
        exact supplied ▸ .change readOnly other

theorem Session.knows_iff_namedLevel (mapping : RoleMapping) (names : List String)
    (session : Session)
    (categories : session.categories = (RoleSet.ofNames mapping names).categories)
    (rules : session.context.rules = staticRules) (kind : PermissionKind) (target : String)
    (level : Level) :
    session.Knows kind target level ↔
      NamedLevel mapping names session.permissions kind target level := by
  rw [Knows, categories, rules]
  constructor
  · rintro (stored | ⟨category, attached, supplied⟩)
    · exact .stored stored
    · exact namedLevel_of_staticRules session.permissions attached supplied
  · intro named
    cases named with
    | stored stored => exact .inl stored
    | read scope readOnly =>
      refine .inr ⟨.readOnly, (mapping.readOnly_mem_categories_iff names).mpr readOnly, ?_⟩
      rw [staticRules, if_pos ((Target.isRead_iff _).mpr ⟨scope, rfl⟩)]
    | change readOnly other =>
      refine .inr ⟨.readOnly, (mapping.readOnly_mem_categories_iff names).mpr readOnly, ?_⟩
      rw [staticRules, if_neg (mt (Target.isRead_iff target).mp other)]
    | view _ readOnly =>
      exact .inr ⟨.readOnly, (mapping.readOnly_mem_categories_iff names).mpr readOnly, rfl⟩
    | deny _ _ denying =>
      exact .inr ⟨.denying, (mapping.denying_mem_categories_iff names).mpr denying, rfl⟩

/-- A session of a user with named roles passes a check when a name is listed as super, when no
level counts for the target, or when one of them reaches the required level. The order of the names
and their repetition do not matter. -/
theorem SessionBuilder.isPermitted_of_names (mapping : RoleMapping) (names : List String)
    (builder : SessionBuilder) (roles : builder.roles = .ofNames mapping names)
    (rules : builder.context.rules = staticRules) (now : Instant) (session : Session)
    (built : builder.build now = .ok session) (table : PermissionTable) (kind : PermissionKind)
    (target : String) (required : Level) :
    (Session.isPermitted { session with permissions := table } kind target required = true ↔
      mapping.NamesSuper names ∨ (∀ level, ¬ NamedLevel mapping names table kind target level) ∨
        ∃ level, NamedLevel mapping names table kind target level ∧ required ≤ level) ∧
    ∀ others : List String, (∀ name, name ∈ others ↔ name ∈ names) →
      ∃ other : Session,
        { builder with roles := .ofNames mapping others }.build now = .ok other ∧
        Session.isPermitted { other with permissions := table } kind target required =
          Session.isPermitted { session with permissions := table } kind target required := by
  obtain ⟨id, principal, known, proper, user, named, rfl⟩ := (build_eq_ok_iff ..).mp built
  have categories : builder.roles.categories = (RoleSet.ofNames mapping names).categories :=
    congrArg RoleSet.categories roles
  constructor
  · rw [Session.isPermitted_iff, ← mapping.super_mem_categories_iff names, ← categories]
    have known_iff := Session.knows_iff_namedLevel mapping names
      { builder.sessionFor id principal now with permissions := table } categories rules kind target
    simp only [known_iff]
    rfl
  · intro others same
    refine ⟨_, (build_eq_ok_iff ..).mpr ⟨id, principal, known, proper, user, named, rfl⟩, ?_⟩
    refine Session.isPermitted_eq_of_same_categories kind target required rfl rfl ?_
    intro category
    show category ∈ (RoleSet.ofNames mapping others).categories ↔
      category ∈ builder.roles.categories
    rw [categories, RoleSet.mem_categories_ofNames, RoleSet.mem_categories_ofNames]
    simp only [same]

/-- An auditor who is a guest as well, whose stored level is raised for reading only. -/
theorem SessionBuilder.isPermitted_of_names_auditor :
    let mapping : RoleMapping := ⟨"root", " auditors ,, root", "guests,auditors"⟩
    let builder (names : List String) : SessionBuilder :=
      { SessionBuilder.empty with
        id := some (.ofNat 1)
        principal := some ⟨.ofNat 2, "ada", none, none, none⟩
        roles := .ofNames mapping names }
    let now : Instant := ⟨⟨2024, 1, 2⟩, 3, 4, 5, 0⟩
    let table := PermissionTable.empty.grant .entityOperation "order:line:read" none
      ⟨-5, by decide, by decide⟩
    ∃ session other, (builder ["guests", "auditors"]).build now = .ok session ∧
      (builder ["auditors", "guests", "auditors"]).build now = .ok other ∧
      Session.isPermitted { session with permissions := table } .entityOperation "order:line:read"
        .permit = true ∧
      Session.isPermitted { other with permissions := table } .entityOperation "order:line:read"
        .permit = true := by
  intro mapping builder now table
  obtain ⟨decided, unchanged⟩ := isPermitted_of_names mapping ["guests", "auditors"]
    (builder ["guests", "auditors"]) rfl rfl now _ rfl table .entityOperation "order:line:read"
    .permit
  obtain ⟨other, built, same⟩ := unchanged ["auditors", "guests", "auditors"] (by grind)
  have named : mapping.NamesReadOnly ["guests", "auditors"] := by
    refine ⟨"auditors", by decide, ?_, ?_⟩ <;> rw [← Text.mem_listEntries_iff] <;> decide +kernel
  have passed := decided.mpr (.inr (.inr ⟨.permit, .read "order:line" named, by decide⟩))
  exact ⟨_, other, rfl, built, passed, same.trans passed⟩

end Authorization
