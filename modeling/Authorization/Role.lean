import Authorization.Permission.Table

/-! Roles: their categories, the lists of names that assign them, the sets of those that are granted,
and the levels that categories supply. -/

set_option autoImplicit false

namespace Authorization

inductive RoleCategory where
  | standard
  | super
  | readOnly
  | denying
  deriving DecidableEq, Repr

namespace RoleCategory

def all : List RoleCategory := [standard, super, readOnly, denying]

def name : RoleCategory → String
  | standard => "standard"
  | super => "super"
  | readOnly => "readonly"
  | denying => "denying"

def vocabulary : Vocabulary RoleCategory := ⟨all, name⟩

theorem mem_all (category : RoleCategory) : category ∈ all := by cases category <;> decide

theorem ofName?_name (category : RoleCategory) :
    vocabulary.ofName? category.name = some category := by
  cases category <;> decide +kernel

end RoleCategory

/-! ## Mappings -/

structure RoleMapping where
  superRoles : String
  readOnlyRoles : String
  denyingRoles : String
  deriving DecidableEq, Repr

namespace RoleMapping

def empty : RoleMapping := ⟨"", "", ""⟩

/-- The category of a role name: that of the first list that has it. -/
def categoryOf (mapping : RoleMapping) (name : String) : RoleCategory :=
  if name ∈ Text.listEntries mapping.superRoles then .super
  else if name ∈ Text.listEntries mapping.readOnlyRoles then .readOnly
  else if name ∈ Text.listEntries mapping.denyingRoles then .denying
  else .standard

example : (RoleMapping.mk " root , administrators" "auditors" "guests").categoryOf "administrators" =
    .super := by decide +kernel

example : (RoleMapping.mk "ops" "ops" "ops").categoryOf "ops" = .super := by decide +kernel

end RoleMapping

/-! ## Sets of roles

Roles stand in grant order, one for each name. The first grant of a name counts. -/

structure Role where
  name : String
  category : RoleCategory
  deriving DecidableEq, Repr

structure RoleSet where
  roles : List Role
  distinct : (roles.map Role.name).Nodup
  deriving DecidableEq

namespace RoleSet

theorem ext {first second : RoleSet} (same : first.roles = second.roles) : first = second := by
  cases first
  cases second
  cases same
  rfl

def empty : RoleSet := ⟨[], .nil⟩

def names (set : RoleSet) : List String := set.roles.map Role.name

/-- Adds a role behind the others, and tells whether it did so: not if its name is present. -/
def insert (set : RoleSet) (role : Role) : RoleSet × Bool :=
  if present : role.name ∈ set.names then (set, false)
  else
    ({ roles := set.roles ++ [role]
       distinct := by
        rw [List.map_append, List.nodup_append]
        refine ⟨set.distinct, List.nodup_cons.mpr ⟨List.not_mem_nil, .nil⟩, ?_⟩
        intro name member other single
        cases List.mem_singleton.mp single
        rintro rfl
        exact present member }, true)

def extend (set : RoleSet) (roles : List Role) : RoleSet :=
  roles.foldl (fun set role => (set.insert role).1) set

def insertEach (set : RoleSet) : List Role → List Bool × RoleSet
  | [] => ([], set)
  | role :: rest =>
    let (grown, new) := set.insert role
    let (others, result) := insertEach grown rest
    (new :: others, result)

def ofList (roles : List Role) : RoleSet := empty.extend roles

def ofNames (mapping : RoleMapping) (names : List String) : RoleSet :=
  ofList (names.map fun name => ⟨name, mapping.categoryOf name⟩)

def categories (set : RoleSet) : List RoleCategory :=
  RoleCategory.all.filter fun category => set.roles.any (·.category = category)

def isSuper (set : RoleSet) : Bool := set.roles.any (·.category = .super)

theorem insert_snd (set : RoleSet) (role : Role) :
    (set.insert role).2 = decide (role.name ∉ set.names) := by
  unfold insert
  split <;> simp [*]

theorem roles_insert (set : RoleSet) (role : Role) :
    (set.insert role).1.roles =
      if role.name ∈ set.names then set.roles else set.roles ++ [role] := by
  unfold insert
  split <;> simp [*]

theorem roles_extend_of_nodup (set : RoleSet) (roles : List Role)
    (distinct : ((set.roles ++ roles).map Role.name).Nodup) :
    (set.extend roles).roles = set.roles ++ roles := by
  induction roles generalizing set with
  | nil => exact (List.append_nil _).symm
  | cons first rest ih =>
    have fresh : first.name ∉ set.names := by
      rw [List.map_append, List.nodup_append] at distinct
      exact fun present => distinct.2.2 first.name present first.name List.mem_cons_self rfl
    have inserted : (set.insert first).1.roles = set.roles ++ [first] := by
      rw [roles_insert, if_neg fresh]
    have grown : set.roles ++ first :: rest = (set.insert first).1.roles ++ rest := by
      rw [inserted, List.append_assoc, List.singleton_append]
    rw [grown]
    exact ih (set.insert first).1 (grown ▸ distinct)

theorem ofList_roles (set : RoleSet) : ofList set.roles = set :=
  ext (roles_extend_of_nodup empty set.roles set.distinct)

@[simp] theorem mem_categories (set : RoleSet) (category : RoleCategory) :
    category ∈ set.categories ↔ ∃ role ∈ set.roles, role.category = category := by
  simp [categories, RoleCategory.mem_all]

end RoleSet

/-! ## Rules

A category may supply levels of its own. They can only raise the stored level. -/

/-- The level that a category gives to a target, if it has an opinion. -/
abbrev RoleRules := RoleCategory → PermissionKind → String → Option Level

/-- A read-only role lets entities be read and attributes be viewed; a denying role denies what has
no higher level. -/
def staticRules : RoleRules
  | .readOnly, .entityOperation, target => some (if Target.isRead target then .permit else .deny)
  | .readOnly, .entityAttribute, _ => some AttributeAccess.view.level
  | .denying, _, _ => some .deny
  | _, _, _ => none

structure LevelRule where
  category : Option RoleCategory
  kind : Option PermissionKind
  target : Option String
  level : Option Level

def LevelRule.fits (rule : LevelRule) (category : RoleCategory) (kind : PermissionKind)
    (target : String) : Bool :=
  rule.category.all (· = category) && rule.kind.all (· = kind) && rule.target.all (· = target)

def listedRules (rules : List LevelRule) : RoleRules := fun category kind target =>
  (rules.find? fun rule => rule.fits category kind target).bind LevelRule.level

end Authorization
