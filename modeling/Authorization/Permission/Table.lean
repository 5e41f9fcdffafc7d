import Authorization.Permission.Target

/-! Access levels, and the table of those that are granted. A grant never lowers a level; only a
revocation takes one away. -/

set_option autoImplicit false

namespace Authorization

/-! ## Levels

Levels are whole numbers of 32 bits, of which a higher one implies every lower one. -/

structure Level where
  value : Int
  lower : -2147483648 ≤ value := by decide
  upper : value ≤ 2147483647 := by decide
  deriving DecidableEq, Repr

namespace Level

def ofInt? (value : Int) : Option Level :=
  if bounds : -2147483648 ≤ value ∧ value ≤ 2147483647 then some ⟨value, bounds.1, bounds.2⟩
  else none

instance (number : Nat) : OfNat Level number :=
  ⟨⟨(min number 2147483647 : Nat), by omega, by omega⟩⟩

def deny : Level := ⟨0, by decide, by decide⟩

def permit : Level := ⟨1, by decide, by decide⟩

instance : LE Level := ⟨fun first second => first.value ≤ second.value⟩

instance (first second : Level) : Decidable (first ≤ second) :=
  inferInstanceAs (Decidable (first.value ≤ second.value))

instance : Max Level := maxOfLe

def clamp (level lowest highest : Level) : Level :=
  if level.value < lowest.value then lowest
  else if highest.value < level.value then highest
  else level

def raise (known : Option Level) (candidate : Level) : Option Level :=
  match known with
  | none => some candidate
  | some level => some (max level candidate)

theorem ext {first second : Level} (same : first.value = second.value) : first = second := by
  cases first
  cases second
  cases same
  rfl

theorem le_iff (first second : Level) : first ≤ second ↔ first.value ≤ second.value := Iff.rfl

theorem le_max_iff (required first second : Level) :
    required ≤ max first second ↔ required ≤ first ∨ required ≤ second := by
  show required ≤ (if first ≤ second then second else first) ↔ _
  simp only [le_iff]
  split <;> omega

theorem ofInt?_value (level : Level) : ofInt? level.value = some level := by
  simp [ofInt?, level.lower, level.upper]

def shape : Shape := .integer .i32

def toJson (level : Level) : Json := .integer level.value

def ofJson (document : Json) : Except DecodeError Level := do
  let value ← document.asInteger .i32
  match ofInt? value with
  | some level => return level
  | none => throw (.invalidValue document (.integer IntegerRange.i32.name))

end Level

inductive AttributeAccess where
  | deny
  | view
  | modify
  deriving DecidableEq, Repr

namespace AttributeAccess

def vocabulary : Vocabulary AttributeAccess where
  all := [deny, view, modify]
  name
    | deny => "deny"
    | view => "view"
    | modify => "modify"

def level : AttributeAccess → Level
  | deny => ⟨0, by decide, by decide⟩
  | view => ⟨1, by decide, by decide⟩
  | modify => ⟨2, by decide, by decide⟩

def ofLevel? (level : Level) : Option AttributeAccess :=
  vocabulary.all.find? (·.level = level)

instance : LE AttributeAccess := ⟨fun lower higher => lower.level ≤ higher.level⟩

instance (lower higher : AttributeAccess) : Decidable (lower ≤ higher) :=
  inferInstanceAs (Decidable (lower.level ≤ higher.level))

theorem ofLevel?_level (access : AttributeAccess) : ofLevel? access.level = some access := by
  cases access <;> decide

end AttributeAccess

/-! ## Tables -/

abbrev Levels := Std.ExtTreeMap String Level

namespace Levels

def widen (levels : Levels) (target : String) (value : Level) : Levels :=
  levels.alter target fun known => Level.raise known value

theorem getElem?_widen (levels : Levels) (target other : String) (value : Level) :
    (levels.widen target value)[other]? =
      if target = other then Level.raise levels[target]? value else levels[other]? := by
  simp only [widen, Std.ExtTreeMap.getElem?_alter, Std.LawfulEqCmp.compare_eq_iff_eq]

end Levels

abbrev ListedLevels := PerKind (Option Levels)

/-- A kind is listed from its first grant on, even when all its levels are revoked. -/
structure PermissionTable where
  entries : ListedLevels
  deriving DecidableEq

namespace PermissionTable

def empty : PermissionTable := ⟨.ofFunction fun _ => none⟩

def levelsOf (table : PermissionTable) (kind : PermissionKind) : Levels :=
  (table.entries.get kind).getD ∅

def level? (table : PermissionTable) (kind : PermissionKind) (target : String) : Option Level :=
  (table.levelsOf kind)[target]?

def grant (table : PermissionTable) (kind : PermissionKind) (target : String)
    (aliasName : Option String) (value : Level) : PermissionTable :=
  let widened := (table.levelsOf kind).widen target value
  ⟨table.entries.set kind (some (aliasName.elim widened fun name => widened.widen name value))⟩

/-- Removes the level of a target, and nothing under its alias. -/
def revoke (table : PermissionTable) (kind : PermissionKind) (target : String) : PermissionTable :=
  ⟨table.entries.set kind ((table.entries.get kind).map fun levels => levels.erase target)⟩

def snapshot (table : PermissionTable) : ListedLevels :=
  table.entries.map fun listed => listed.filter fun levels => !levels.isEmpty

def ofSnapshot (listed : ListedLevels) : PermissionTable := ⟨listed⟩

theorem levelsOf_grant (table : PermissionTable) (kind other : PermissionKind) (target : String)
    (aliasName : Option String) (value : Level) :
    (table.grant kind target aliasName value).levelsOf other =
      if other = kind then
        let widened := (table.levelsOf kind).widen target value
        aliasName.elim widened fun name => widened.widen name value
      else table.levelsOf other := by
  simp only [levelsOf, grant, PerKind.get_set]
  split <;> rfl

theorem levelsOf_revoke (table : PermissionTable) (kind other : PermissionKind) (target : String) :
    (table.revoke kind target).levelsOf other =
      if other = kind then (table.levelsOf kind).erase target else table.levelsOf other := by
  simp only [levelsOf, revoke, PerKind.get_set]
  split
  · cases table.entries.get kind <;> simp
  · rfl

theorem level?_revoke (table : PermissionTable) (kind other : PermissionKind)
    (target wanted : String) :
    (table.revoke kind target).level? other wanted =
      if other = kind ∧ wanted = target then none else table.level? other wanted := by
  simp only [level?, levelsOf_revoke]
  by_cases sameKind : other = kind
  · subst sameKind
    simp only [if_true, true_and, Std.ExtTreeMap.getElem?_erase,
      Std.LawfulEqCmp.compare_eq_iff_eq, eq_comm (a := target)]
  · simp [sameKind]

theorem filter_isEmpty (listed : Option Levels) :
    (listed.filter fun levels => !levels.isEmpty) =
      if (listed.getD ∅).isEmpty then none else some (listed.getD ∅) := by
  cases listed with
  | none => simp
  | some levels => cases empty : levels.isEmpty <;> simp [Option.filter, empty]

theorem get_snapshot (table : PermissionTable) (kind : PermissionKind) :
    table.snapshot.get kind =
      if (table.levelsOf kind).isEmpty then none else some (table.levelsOf kind) := by
  rw [snapshot, PerKind.get_map, filter_isEmpty, levelsOf]

/-- Reloading loses no level; it only forgets which kinds were once listed. -/
theorem levelsOf_ofSnapshot_snapshot (table : PermissionTable) (kind : PermissionKind) :
    (ofSnapshot table.snapshot).levelsOf kind = table.levelsOf kind := by
  show (table.snapshot.get kind).getD ∅ = table.levelsOf kind
  rw [get_snapshot]
  split
  · rename_i none
    exact (Std.ExtTreeMap.isEmpty_iff.mp none).symm
  · rfl

end PermissionTable

end Authorization
