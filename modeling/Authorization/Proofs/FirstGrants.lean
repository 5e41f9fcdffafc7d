import Mathlib.Data.List.Induction
import Mathlib.Data.List.Nodup
import Authorization.Role

/-! The first grant of a role name counts. The roles of a set are those of the list it is made from
whose name no earlier role of the list has; later roles are added behind them or leave the set as it
is, and no name ever changes its category. -/

set_option autoImplicit false

namespace Authorization

/-- The roles of a list whose name no role before them has, in their order. -/
def Role.firsts (roles : List Role) : List Role :=
  (roles.zipIdx.filter fun (role, place) =>
    decide (∀ earlier ∈ roles.take place, earlier.name ≠ role.name)).map Prod.fst

theorem Role.firsts_concat (roles : List Role) (last : Role) :
    firsts (roles ++ [last]) =
      firsts roles ++ if ∀ earlier ∈ roles, earlier.name ≠ last.name then [last] else [] := by
  have kept : ∀ granted ∈ roles.zipIdx,
      (decide (∀ earlier ∈ (roles ++ [last]).take granted.2, earlier.name ≠ granted.1.name)) =
        decide (∀ earlier ∈ roles.take granted.2, earlier.name ≠ granted.1.name) := by
    intro granted member
    have inside : granted.2 < roles.length := List.snd_lt_of_mem_zipIdx member
    rw [List.take_append_of_le_length (Nat.le_of_lt inside)]
  rw [firsts, firsts, List.zipIdx_append, List.filter_append, List.map_append,
    List.filter_congr kept, List.zipIdx_singleton, Nat.zero_add]
  congr 1
  simp only [List.filter_cons, List.filter_nil, List.take_append_of_le_length (Nat.le_refl _),
    List.take_length, decide_eq_true_eq]
  split <;> rfl

namespace RoleSet

/-! ## Lists of roles -/

theorem extend_append (set : RoleSet) (roles added : List Role) :
    set.extend (roles ++ added) = (set.extend roles).extend added := List.foldl_append

theorem ofList_append (roles added : List Role) :
    ofList (roles ++ added) = (ofList roles).extend added := empty.extend_append roles added

theorem ofList_concat (roles : List Role) (last : Role) :
    ofList (roles ++ [last]) = ((ofList roles).insert last).1 := ofList_append roles [last]

theorem mem_names_insert (set : RoleSet) (role : Role) (name : String) :
    name ∈ (set.insert role).1.names ↔ name ∈ set.names ∨ role.name = name := by
  rw [names, roles_insert]
  split
  · rename_i present
    exact (or_iff_left_of_imp fun same => same ▸ present).symm
  · rw [List.map_append, List.mem_append, List.map_singleton, List.mem_singleton, names,
      eq_comm (a := name)]

theorem mem_names_ofList (roles : List Role) (name : String) :
    name ∈ (ofList roles).names ↔ ∃ role ∈ roles, role.name = name := by
  induction roles using List.reverseRecOn with
  | nil => exact iff_of_false List.not_mem_nil fun ⟨_, member, _⟩ => nomatch member
  | append_singleton roles last ih =>
    rw [ofList_concat, mem_names_insert, ih]
    simp only [List.mem_append, List.mem_singleton, or_and_right, exists_or, exists_eq_left]

theorem roles_ofList (roles : List Role) : (ofList roles).roles = Role.firsts roles := by
  induction roles using List.reverseRecOn with
  | nil => rfl
  | append_singleton roles last ih =>
    have known : last.name ∈ (ofList roles).names ↔
        ¬ ∀ earlier ∈ roles, earlier.name ≠ last.name := by
      rw [mem_names_ofList]
      push Not
      rfl
    rw [ofList_concat, roles_insert, Role.firsts_concat, ih]
    by_cases new : ∀ earlier ∈ roles, earlier.name ≠ last.name
    · rw [if_neg (mt known.mp (not_not_intro new)), if_pos new]
    · rw [if_pos (known.mpr new), if_neg new, List.append_nil]

theorem find?_of_mem_ofList {roles : List Role} {role : Role} (granted : role ∈ (ofList roles).roles) :
    roles.find? (·.name = role.name) = some role := by
  induction roles using List.reverseRecOn with
  | nil => nomatch granted
  | append_singleton roles last ih =>
    rw [ofList_concat, roles_insert] at granted
    rw [List.find?_append]
    split at granted
    · rw [ih granted, Option.some_or]
    · rename_i new
      rcases List.mem_append.mp granted with before | here
      · rw [ih before, Option.some_or]
      · cases List.mem_singleton.mp here
        have unknown : roles.find? (·.name = role.name) = none := by
          rw [List.find?_eq_none]
          intro earlier member same
          exact new ((mem_names_ofList ..).mpr ⟨earlier, member, of_decide_eq_true same⟩)
        rw [unknown, Option.none_or, List.find?_singleton, if_pos (decide_eq_true rfl)]

/-! ## Insertions -/

variable (set : RoleSet)

theorem insertEach_snd (added : List Role) : (set.insertEach added).2 = set.extend added := by
  induction added generalizing set with
  | nil => rfl
  | cons role rest ih => exact ih (set.insert role).1

theorem length_insertEach_fst (added : List Role) :
    (set.insertEach added).1.length = added.length := by
  induction added generalizing set with
  | nil => rfl
  | cons role rest ih => exact congrArg Nat.succ (ih (set.insert role).1)

theorem getElem?_insertEach_fst (added : List Role) (place : Nat) :
    (set.insertEach added).1[place]? =
      added[place]?.map fun role => ((set.extend (added.take place)).insert role).2 := by
  induction added generalizing set place with
  | nil => rfl
  | cons role rest ih =>
    cases place with
    | zero => rfl
    | succ place => exact ih (set.insert role).1 place

theorem insert_snd_iff (role : Role) : (set.insert role).2 = true ↔ role.name ∉ set.names := by
  rw [insert_snd, decide_eq_true_iff]

theorem insert_fst_of_mem {role : Role} (present : role.name ∈ set.names) :
    (set.insert role).1 = set :=
  ext (by rw [roles_insert, if_pos present])

theorem roles_prefix_insert (role : Role) : set.roles <+: (set.insert role).1.roles := by
  rw [roles_insert]
  split
  · exact List.prefix_rfl
  · exact List.prefix_append ..

theorem roles_prefix_extend (added : List Role) : set.roles <+: (set.extend added).roles := by
  induction added generalizing set with
  | nil => exact List.prefix_rfl
  | cons role rest ih => exact (set.roles_prefix_insert role).trans (ih (set.insert role).1)

theorem eq_of_name_eq {role other : Role} (granted : role ∈ set.roles) (granted' : other ∈ set.roles)
    (same : other.name = role.name) : other = role :=
  List.inj_on_of_nodup_map set.distinct granted' granted same

theorem isSuper_eq_true_iff : set.isSuper = true ↔ .super ∈ set.categories := by
  simp [isSuper]

/-- A set made from a list has the first role of every name, in the order of the list. To make it
from a longer list is to insert the further roles one by one; each insertion tells whether the name
was missing, and leaves the set as it is if not. So the roles granted first stay in front and no name
changes its category. Sets survive the way through their lists, and are super when a role is. -/
theorem ofList_keeps_first (roles added : List Role) :
    ((ofList roles).roles = Role.firsts roles ∧
      (ofList roles).names.Nodup ∧
      (∀ name, name ∈ (ofList roles).names ↔ ∃ role ∈ roles, role.name = name) ∧
      ∀ role ∈ (ofList roles).roles, roles.find? (·.name = role.name) = some role) ∧
    (((ofList roles).insertEach added).2 = ofList (roles ++ added) ∧
      ((ofList roles).insertEach added).1.length = added.length ∧
      ∀ place role, added[place]? = some role →
        let before := ofList (roles ++ added.take place)
        ∃ new, ((ofList roles).insertEach added).1[place]? = some new ∧
          before.insert role = (ofList (roles ++ added.take (place + 1)), new) ∧
          (new = true ↔ role.name ∉ before.names) ∧
          (new = false → ofList (roles ++ added.take (place + 1)) = before)) ∧
    ((ofList roles).roles <+: (ofList (roles ++ added)).roles ∧
      ∀ role ∈ (ofList roles).roles, ∀ later ∈ (ofList (roles ++ added)).roles,
        later.name = role.name → later.category = role.category) ∧
    ∀ set : RoleSet, ofList set.roles = set ∧ (set.isSuper = true ↔ .super ∈ set.categories) := by
  have grown : (ofList roles).roles <+: (ofList (roles ++ added)).roles := by
    rw [ofList_append]
    exact (ofList roles).roles_prefix_extend added
  refine ⟨⟨roles_ofList roles, (ofList roles).distinct, mem_names_ofList roles,
    fun role => find?_of_mem_ofList⟩, ⟨?_, length_insertEach_fst .., ?_⟩, ⟨grown, ?_⟩,
    fun set => ⟨ofList_roles set, set.isSuper_eq_true_iff⟩⟩
  · rw [insertEach_snd, ofList_append]
  · intro place role found before
    have one : added.take (place + 1) = added.take place ++ [role] := by
      rw [List.take_add_one, found, Option.toList_some]
    have grown : ofList (roles ++ added.take (place + 1)) = (before.insert role).1 := by
      rw [one, ← List.append_assoc, ofList_concat]
    refine ⟨(before.insert role).2, ?_, ?_, before.insert_snd_iff role, ?_⟩
    · rw [getElem?_insertEach_fst, found, ← ofList_append]
      rfl
    · rw [grown]
    · intro known
      rw [grown]
      refine before.insert_fst_of_mem (not_not.mp fun absent => ?_)
      rw [(before.insert_snd_iff role).mpr absent] at known
      cases known
  · intro role granted later granted' same
    rw [(ofList (roles ++ added)).eq_of_name_eq (grown.subset granted) granted' same]

/-- A clerk who is granted the same role as a super one, in the list and later, stays a clerk. -/
theorem ofList_keeps_first_clerk :
    let roles : List Role := [⟨"clerk", .standard⟩, ⟨"clerk", .super⟩, ⟨"auditor", .readOnly⟩]
    let added : List Role := [⟨"guest", .denying⟩, ⟨"clerk", .super⟩]
    (ofList roles).roles = [⟨"clerk", .standard⟩, ⟨"auditor", .readOnly⟩] ∧
    ((ofList roles).insertEach added).1[1]? = some false ∧
    ∀ later ∈ (ofList (roles ++ added)).roles, later.name = "clerk" →
      later.category = .standard := by
  intro roles added
  obtain ⟨⟨firsts, -⟩, ⟨-, -, each⟩, ⟨-, stays⟩, -⟩ := ofList_keeps_first roles added
  obtain ⟨new, told, -, new_iff, -⟩ := each 1 ⟨"clerk", .super⟩ rfl
  refine ⟨firsts.trans (by decide +kernel), ?_, stays ⟨"clerk", .standard⟩ (by decide +kernel)⟩
  rw [told, Option.some.injEq, Bool.eq_false_iff]
  exact mt new_iff.mp (by decide +kernel)

end RoleSet

end Authorization
