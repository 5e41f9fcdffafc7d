import Mathlib.Tactic.SplitIfs
import Authorization.Session.Query
import Authorization.Session.Registry

/-! What decides a permission check: the levels known for a target, as a set. The fold over the
attached categories only looks for the highest of them, so neither the order of the categories nor
their repetition matters. -/

set_option autoImplicit false

namespace Authorization

namespace Level

theorem le_trans {first second third : Level} (low : first ≤ second) (high : second ≤ third) :
    first ≤ third := by
  rw [le_iff] at low high ⊢
  omega

theorem le_refl (level : Level) : level ≤ level := (le_iff level level).mpr (Int.le_refl level.value)

theorem le_antisymm {first second : Level} (low : first ≤ second) (high : second ≤ first) :
    first = second := ext (Int.le_antisymm low high)

theorem raise_ne_none (known : Option Level) (candidate : Level) : raise known candidate ≠ none := by
  cases known <;> simp [raise]

theorem reaches_raise (known : Option Level) (candidate required : Level) :
    (∃ level, raise known candidate = some level ∧ required ≤ level) ↔
      (∃ level, known = some level ∧ required ≤ level) ∨ required ≤ candidate := by
  cases known with
  | none => simp [raise]
  | some level => simp [raise, le_max_iff]

theorem foldl_raise_eq_none (known : Option Level) (candidates : List Level) :
    candidates.foldl raise known = none ↔ known = none ∧ candidates = [] := by
  induction candidates generalizing known with
  | nil => simp
  | cons first rest ih =>
    rw [List.foldl_cons, ih]
    simp [raise_ne_none]

theorem reaches_foldl_raise (known : Option Level) (candidates : List Level) (required : Level) :
    (∃ level, candidates.foldl raise known = some level ∧ required ≤ level) ↔
      (∃ level, known = some level ∧ required ≤ level) ∨
        ∃ candidate ∈ candidates, required ≤ candidate := by
  induction candidates generalizing known with
  | nil => simp
  | cons first rest ih =>
    rw [List.foldl_cons, ih, reaches_raise, or_assoc]
    simp

end Level

namespace Session

/-- A level known for a target: the stored one, or one that an attached category supplies. -/
def Knows (session : Session) (kind : PermissionKind) (target : String) (level : Level) : Prop :=
  session.permissions.level? kind target = some level ∨
    ∃ category ∈ session.categories, session.context.rules category kind target = some level

theorem mem_suppliedLevels (session : Session) (kind : PermissionKind) (target : String)
    (level : Level) :
    level ∈ session.suppliedLevels kind target ↔
      ∃ category ∈ session.categories, session.context.rules category kind target = some level := by
  rw [suppliedLevels, List.mem_filterMap]

theorem isSuper_iff (session : Session) :
    session.isSuper = true ↔ .super ∈ session.categories := by
  rw [Profile.isSuper, List.contains_iff_mem]

theorem level?_eq_none_iff (session : Session) (kind : PermissionKind) (target : String) :
    session.level? kind target = none ↔ ∀ level, ¬ session.Knows kind target level := by
  rw [level?, Level.foldl_raise_eq_none, List.eq_nil_iff_forall_not_mem,
    Option.eq_none_iff_forall_ne_some]
  simp only [Knows, ← mem_suppliedLevels, not_or]
  exact ⟨fun unknown level => ⟨unknown.1 level, unknown.2 level⟩,
    fun unknown => ⟨fun level => (unknown level).1, fun level => (unknown level).2⟩⟩

theorem level?_reaches_iff (session : Session) (kind : PermissionKind) (target : String)
    (required : Level) :
    (∃ level, session.level? kind target = some level ∧ required ≤ level) ↔
      ∃ level, session.Knows kind target level ∧ required ≤ level := by
  rw [level?, Level.reaches_foldl_raise]
  simp only [Knows, ← mem_suppliedLevels]
  constructor
  · rintro (⟨level, stored, reached⟩ | ⟨level, supplied, reached⟩)
    · exact ⟨level, .inl stored, reached⟩
    · exact ⟨level, .inr supplied, reached⟩
  · rintro ⟨level, stored | supplied, reached⟩
    · exact .inl ⟨level, stored, reached⟩
    · exact .inr ⟨level, supplied, reached⟩

/-- The level that decides is the highest of those known. -/
theorem level?_eq_some_iff (session : Session) (kind : PermissionKind) (target : String)
    (level : Level) :
    session.level? kind target = some level ↔
      session.Knows kind target level ∧ ∀ other, session.Knows kind target other → other ≤ level := by
  have highest : ∀ decided, session.level? kind target = some decided →
      session.Knows kind target decided ∧
        ∀ other, session.Knows kind target other → other ≤ decided := by
    intro decided found
    have above : ∀ other, session.Knows kind target other → other ≤ decided := by
      intro other known
      obtain ⟨reached, found', below⟩ :=
        (session.level?_reaches_iff kind target other).mpr ⟨other, known, Level.le_refl other⟩
      rw [found] at found'
      cases found'
      exact below
    obtain ⟨known, knows, reached⟩ :=
      (session.level?_reaches_iff kind target decided).mp ⟨decided, found, Level.le_refl decided⟩
    rw [Level.le_antisymm reached (above known knows)]
    rw [Level.le_antisymm reached (above known knows)] at above
    exact ⟨knows, above⟩
  constructor
  · exact highest level
  · rintro ⟨known, above⟩
    cases found : session.level? kind target with
    | none => exact absurd known ((session.level?_eq_none_iff kind target).mp found level)
    | some decided =>
      obtain ⟨knows, above'⟩ := highest decided found
      rw [Level.le_antisymm (above decided knows) (above' level known)]

/-- A check passes when a super category is attached, when no level is known, or when some known
level reaches the required one. -/
theorem isPermitted_iff (session : Session) (kind : PermissionKind) (target : String)
    (required : Level) :
    session.isPermitted kind target required = true ↔
      .super ∈ session.categories ∨ (∀ level, ¬ session.Knows kind target level) ∨
        ∃ level, session.Knows kind target level ∧ required ≤ level := by
  -- Both sides are brought down to the one level that decides, known or not.
  rw [← level?_eq_none_iff, ← level?_reaches_iff, isPermitted, Bool.or_eq_true, isSuper_iff]
  cases session.level? kind target with
  | none => simp
  | some level => simp

theorem Knows.mono {narrow wide : Session} {kind : PermissionKind} {target : String} {level : Level}
    (known : narrow.Knows kind target level) (permissions : wide.permissions = narrow.permissions)
    (rules : wide.context.rules = narrow.context.rules)
    (categories : ∀ category ∈ narrow.categories, category ∈ wide.categories) :
    wide.Knows kind target level := by
  rw [Knows, permissions, rules]
  rcases known with stored | ⟨category, attached, supplied⟩
  · exact .inl stored
  · exact .inr ⟨category, categories category attached, supplied⟩

theorem isPermitted_eq_of_same_categories {first second : Session} (kind : PermissionKind)
    (target : String) (required : Level) (permissions : second.permissions = first.permissions)
    (rules : second.context.rules = first.context.rules)
    (categories : ∀ category, category ∈ second.categories ↔ category ∈ first.categories) :
    second.isPermitted kind target required = first.isPermitted kind target required := by
  have knows : ∀ level, second.Knows kind target level ↔ first.Knows kind target level :=
    fun level => ⟨
      fun known => known.mono permissions.symm rules.symm fun category => (categories category).mp,
      fun known => known.mono permissions rules fun category => (categories category).mpr⟩
  rw [Bool.eq_iff_iff, isPermitted_iff, isPermitted_iff, categories]
  simp only [knows]

theorem isPermitted_of_le {session : Session} {kind : PermissionKind} {target : String}
    {lower required : Level} (passed : session.isPermitted kind target required = true)
    (below : lower ≤ required) : session.isPermitted kind target lower = true := by
  rw [isPermitted_iff] at passed ⊢
  rcases passed with super | unknown | ⟨level, known, reached⟩
  · exact .inl super
  · exact .inr (.inl unknown)
  · exact .inr (.inr ⟨level, known, Level.le_trans below reached⟩)

theorem isPermitted_of_more_categories {narrow wide : Session} {kind : PermissionKind}
    {target : String} {required : Level} (permissions : wide.permissions = narrow.permissions)
    (rules : wide.context.rules = narrow.context.rules)
    (categories : ∀ category ∈ narrow.categories, category ∈ wide.categories)
    (passed : narrow.isPermitted kind target required = true)
    (informed : .super ∈ narrow.categories ∨ ∃ level, narrow.Knows kind target level) :
    wide.isPermitted kind target required = true := by
  rw [isPermitted_iff] at passed ⊢
  rcases passed with super | unknown | ⟨level, known, reached⟩
  · exact .inl (categories _ super)
  -- A check that passed for want of any level may fail when another category supplies a low one.
  · rcases informed with super | ⟨level, known⟩
    · exact .inl (categories _ super)
    · exact absurd known (unknown level)
  · exact .inr (.inr ⟨level, known.mono permissions rules categories, reached⟩)

/-- The decision in full: when a check passes, that the order of the categories does not count,
that passing goes down with the required level, and how far it goes up with the categories. -/
theorem isPermitted_decision (session : Session) (kind : PermissionKind) (target : String)
    (required : Level) :
    (session.isPermitted kind target required = true ↔
      .super ∈ session.categories ∨ (∀ level, ¬ session.Knows kind target level) ∨
        ∃ level, session.Knows kind target level ∧ required ≤ level) ∧
    (∀ order : List RoleCategory,
      (∀ category, category ∈ order ↔ category ∈ session.categories) →
      Session.isPermitted { session with categories := order } kind target required =
        session.isPermitted kind target required) ∧
    (session.isPermitted kind target required = true →
      ∀ lower ≤ required, session.isPermitted kind target lower = true) ∧
    (∀ wide : Session, wide.permissions = session.permissions →
      wide.context.rules = session.context.rules →
      (∀ category ∈ session.categories, category ∈ wide.categories) →
      session.isPermitted kind target required = true →
      (.super ∈ session.categories ∨ ∃ level, session.Knows kind target level) →
      wide.isPermitted kind target required = true) := by
  refine ⟨session.isPermitted_iff kind target required, ?_, ?_, ?_⟩
  · intro order same
    exact isPermitted_eq_of_same_categories kind target required rfl rfl same
  · intro passed lower below
    exact isPermitted_of_le passed below
  · intro wide permissions rules categories passed informed
    exact isPermitted_of_more_categories permissions rules categories passed informed

end Session

/-! ## Access to attributes

The two ways to ask about an attribute: whether it may be accessed in some way, and how it may be
accessed at most. They agree but where all known levels are below a denial: there the most that one
may do is to be denied, and not even the check for that passes. -/

namespace AttributeAccess

theorem le_modify (access : AttributeAccess) : access ≤ modify := by cases access <;> decide

theorem clamp_eq (level : Level) :
    level.clamp 0 2 =
      if modify.level ≤ level then modify.level
      else if view.level ≤ level then view.level
      else deny.level := by
  have lowest : (0 : Level).value = 0 := rfl
  have highest : (2 : Level).value = 2 := rfl
  refine Level.ext ?_
  simp only [Level.clamp, Level.le_iff, AttributeAccess.level, lowest, highest]
  split_ifs <;> simp only [lowest, highest] <;> omega

/-- What is left of a level between the bounds is the highest access that it reaches. -/
theorem getD_ofLevel?_clamp (level : Level) :
    (ofLevel? (level.clamp 0 2)).getD deny =
      if modify.level ≤ level then modify else if view.level ≤ level then view else deny := by
  rw [clamp_eq]
  split
  · rw [ofLevel?_level, Option.getD_some]
  · split <;> rw [ofLevel?_level, Option.getD_some]

theorem le_getD_ofLevel?_clamp_iff (access : AttributeAccess) (level : Level) :
    access ≤ (ofLevel? (level.clamp 0 2)).getD deny ↔ access = deny ∨ access.level ≤ level := by
  rw [getD_ofLevel?_clamp]
  by_cases high : modify.level ≤ level
  · rw [if_pos high]
    exact iff_of_true access.le_modify (.inr (Level.le_trans access.le_modify high))
  · rw [if_neg high]
    by_cases middle : view.level ≤ level
    · rw [if_pos middle]
      cases access with
      | deny => exact iff_of_true (by decide) (.inl rfl)
      | view => exact iff_of_true (by decide) (.inr middle)
      | modify => exact iff_of_false (by decide) (by simpa using high)
    · rw [if_neg middle]
      cases access with
      | deny => exact iff_of_true (by decide) (.inl rfl)
      | view => exact iff_of_false (by decide) (by simpa using middle)
      | modify => exact iff_of_false (by decide) (by simpa using high)

end AttributeAccess

namespace Session

/-- Levels are known for an attribute, all of them below a denial, and nothing overrules them. -/
def Undercuts (session : Session) (entity name : String) : Prop :=
  .super ∉ session.categories ∧
    (∃ level, session.Knows .entityAttribute (Target.ofAttribute entity name) level) ∧
    ∀ level, session.Knows .entityAttribute (Target.ofAttribute entity name) level →
      ¬ Level.deny ≤ level

theorem undercuts_iff_of_level? {session : Session} {entity name : String} {level : Level}
    (ordinary : .super ∉ session.categories)
    (decided : session.level? .entityAttribute (Target.ofAttribute entity name) = some level) :
    session.Undercuts entity name ↔ ¬ Level.deny ≤ level := by
  obtain ⟨known, highest⟩ := (session.level?_eq_some_iff ..).mp decided
  constructor
  · rintro ⟨-, -, below⟩
    exact below level known
  · intro low
    exact ⟨ordinary, ⟨level, known⟩, fun other knows reached =>
      low (Level.le_trans reached (highest other knows))⟩

/-- An attribute may be accessed in some way exactly when that is at most what may be done with it,
unless it is to be denied where the known levels are below a denial. -/
theorem isAttributePermitted_iff_le_access (session : Session) (entity name : String)
    (access : AttributeAccess) :
    session.isAttributePermitted entity name access = true ↔
      access ≤ session.attributeAccess entity name ∧
        ¬ (access = .deny ∧ session.Undercuts entity name) := by
  rw [isAttributePermitted, isPermitted, attributeAccess]
  cases super : session.isSuper with
  | true =>
    have attached := session.isSuper_iff.mp super
    exact iff_of_true rfl ⟨access.le_modify, fun both => both.2.1 attached⟩
  | false =>
    have ordinary : .super ∉ session.categories := by
      rw [← isSuper_iff, super]
      exact Bool.false_ne_true
    rw [Bool.false_or, if_neg Bool.false_ne_true]
    cases decided : session.level? .entityAttribute (Target.ofAttribute entity name) with
    | none =>
      have unknown := (session.level?_eq_none_iff ..).mp decided
      exact iff_of_true rfl ⟨access.le_modify, fun both => both.2.2.1.elim unknown⟩
    | some level =>
      rw [Option.all_some, decide_eq_true_eq, AttributeAccess.le_getD_ofLevel?_clamp_iff,
        undercuts_iff_of_level? ordinary decided]
      constructor
      · intro reached
        refine ⟨.inr reached, ?_⟩
        rintro ⟨rfl, low⟩
        exact low reached
      · rintro ⟨rfl | reached, apart⟩
        · exact Decidable.not_not.mp fun low => apart ⟨rfl, low⟩
        · exact reached

/-- A level below that of a denial denies access, and yet the check for being denied fails. -/
theorem exists_denied_unpermitted :
    ∃ session, { SessionBuilder.empty with
        id := some (.ofNat 1)
        principal := some ⟨.ofNat 2, "ada", none, none, none⟩ }.build
          ⟨⟨2024, 1, 2⟩, 3, 4, 5, 0⟩ = .ok session ∧
      let lowered := session.apply
        (.grant .entityAttribute (Target.ofAttribute "order" "total") none ⟨-1, by decide, by decide⟩)
      AttributeAccess.deny ≤ lowered.attributeAccess "order" "total" ∧
        lowered.isAttributePermitted "order" "total" .deny = false :=
  ⟨_, rfl, by decide +kernel⟩

end Session

end Authorization
