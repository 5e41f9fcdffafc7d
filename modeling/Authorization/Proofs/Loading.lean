import Authorization.Proofs.Reordering
import Authorization.Proofs.Words

/-! The role mapping that environment variables give. Each list is read as a value first, and the
text that it is then shown as may be another one, for a list with a single name only. -/

set_option autoImplicit false

namespace Authorization

namespace Config

/-! ## Settings -/

def settingOf? (given : String × String) : Option (String × Json) :=
  (variablePath? given.1).map fun path => (path, variableValue given.2)

theorem ofVariables_eq (given : List (String × String)) :
    ofVariables given = ofList (Json.orderMembers (given.filterMap settingOf?)) := rfl

theorem ofVariables_eq_of_perm {given others : List (String × String)}
    (same : (given.filter fun entry => (variablePath? entry.1).isSome).Perm others)
    (distinct : ((others.filterMap settingOf?).map Prod.fst).Nodup) :
    ofVariables given = ofVariables others := by
  have marked : given.filterMap settingOf? =
      (given.filter fun entry => (variablePath? entry.1).isSome).filterMap settingOf? := by
    rw [List.filterMap_filter]
    refine List.filterMap_congr fun entry _ => ?_
    cases path : variablePath? entry.1 <;> simp [settingOf?, path]
  rw [ofVariables_eq, ofVariables_eq, marked,
    Json.orderMembers_eq_of_perm (same.filterMap settingOf?) distinct]

theorem merge_variableValue (old : Json) (text : String) :
    merge old (variableValue text) = variableValue text := by
  have shown := settingText?_variableValue text
  cases value : variableValue text with
  | object members =>
    rw [value] at shown
    cases shown
  | _ => rw [merge]; nofun

theorem set_roles {text key : String} {value : Json}
    (path : Path.ofText text = ⟨"roles", [.key key]⟩) (scalar : ∀ old, merge old value = value) :
    set (.object []) text value = .object [("roles", .object [(key, value)])] ∧
      ∀ members, set (.object [("roles", .object members)]) text value =
        .object [("roles", .object (Json.insertMember key value members))] := by
  simp [set, path, changeAt, membersOf, Json.insertMember, scalar]

end Config

/-- The variables that write a mapping down. -/
def RoleMapping.variables (mapping : RoleMapping) : List (String × String) :=
  [("TOLLGATE_ROLES__SUPER_ROLES", mapping.superRoles),
    ("TOLLGATE_ROLES__READONLY_ROLES", mapping.readOnlyRoles),
    ("TOLLGATE_ROLES__DENYING_ROLES", mapping.denyingRoles)]

namespace Config

theorem settings_variables (mapping : RoleMapping) :
    mapping.variables.filterMap settingOf? =
      [("roles.super_roles", variableValue mapping.superRoles),
        ("roles.readonly_roles", variableValue mapping.readOnlyRoles),
        ("roles.denying_roles", variableValue mapping.denyingRoles)] := by
  have super : variablePath? "TOLLGATE_ROLES__SUPER_ROLES" = some "roles.super_roles" := by
    decide +kernel
  have readOnly : variablePath? "TOLLGATE_ROLES__READONLY_ROLES" = some "roles.readonly_roles" := by
    decide +kernel
  have denying : variablePath? "TOLLGATE_ROLES__DENYING_ROLES" = some "roles.denying_roles" := by
    decide +kernel
  simp [RoleMapping.variables, settingOf?, super, readOnly, denying]

theorem ofVariables_variables (mapping : RoleMapping) :
    ofVariables mapping.variables = .object [("roles", .object [
      ("denying_roles", variableValue mapping.denyingRoles),
      ("readonly_roles", variableValue mapping.readOnlyRoles),
      ("super_roles", variableValue mapping.superRoles)])] := by
  -- The paths come in the order of their names, and so the keys are set at the end of one another.
  have first : compare "roles.readonly_roles" "roles.super_roles" = .lt := by decide +kernel
  have second : compare "roles.denying_roles" "roles.readonly_roles" = .lt := by decide +kernel
  have third : compare "readonly_roles" "denying_roles" = .gt := by decide +kernel
  have fourth : compare "super_roles" "denying_roles" = .gt := by decide +kernel
  have fifth : compare "super_roles" "readonly_roles" = .gt := by decide +kernel
  have super : Path.ofText "roles.super_roles" = ⟨"roles", [.key "super_roles"]⟩ := by
    decide +kernel
  have readOnly : Path.ofText "roles.readonly_roles" = ⟨"roles", [.key "readonly_roles"]⟩ := by
    decide +kernel
  have denying : Path.ofText "roles.denying_roles" = ⟨"roles", [.key "denying_roles"]⟩ := by
    decide +kernel
  rw [ofVariables_eq, settings_variables]
  simp only [Json.orderMembers, Json.insertMember, List.foldl_cons, List.foldl_nil, first, second,
    ofList]
  rw [(set_roles denying fun old => merge_variableValue old _).1,
    (set_roles readOnly fun old => merge_variableValue old _).2,
    (set_roles super fun old => merge_variableValue old _).2]
  simp only [Json.insertMember, third, fourth, fifth]

theorem ofEnvironment_eq (mapping : RoleMapping) {given : List (String × String)}
    (only : (given.filter fun entry => (variablePath? entry.1).isSome).Perm mapping.variables) :
    ofEnvironment given = .ok ⟨variableText mapping.superRoles,
      variableText mapping.readOnlyRoles, variableText mapping.denyingRoles⟩ := by
  have distinct : ((mapping.variables.filterMap settingOf?).map Prod.fst).Nodup := by
    rw [settings_variables]
    show ["roles.super_roles", "roles.readonly_roles", "roles.denying_roles"].Nodup
    decide +kernel
  rw [ofEnvironment, ofVariables_eq_of_perm only distinct, ofVariables_variables]
  have roleList_eq : ∀ text path, roleList (some (variableValue text)) path =
      .ok (variableText text) := by
    intro text path
    rw [roleList, settingText?_variableValue]
  show mappingOf (.object _) = _
  simp only [mappingOf, List.lookup_cons, String.reduceBEq, roleList_eq]
  rfl

/-! ## Categories -/

/-- Where a list is consulted, it lists the same names before and after, if it keeps its text, or if
it and its new text are single names for which it is not consulted. -/
theorem forall_lists_variableText_iff (text : String) (settled : String → Prop) :
    (∀ name, ¬ settled name → (Text.Lists (variableText text) name ↔ Text.Lists text name)) ↔
      variableText text = text ∨ (settled text ∧ settled (variableText text)) := by
  by_cases same : variableText text = text
  · simp [same]
  obtain ⟨word, word'⟩ := isWord_of_variableText_ne same
  -- Both texts are single names, so each list has itself alone and disagrees at just these two.
  simp only [word.lists_iff, word'.lists_iff, same, false_or]
  constructor
  · intro agree
    constructor
    · by_contra consulted
      exact same ((agree text consulted).mpr rfl).symm
    · by_contra consulted
      exact same ((agree _ consulted).mp rfl)
  · rintro ⟨before, after⟩ name consulted
    constructor
    · rintro rfl
      exact absurd after consulted
    · rintro rfl
      exact absurd before consulted

/-- Let the variables that write a mapping down be the only marked ones. They always load, each list
as the text that its value is shown as. Every name keeps its category exactly when the first list
keeps its text, and each of the others keeps its own too, or is overruled by those before it. -/
theorem ofEnvironment_categories (mapping : RoleMapping) (given : List (String × String))
    (only : (given.filter fun entry => (variablePath? entry.1).isSome).Perm mapping.variables) :
    ∃ loaded : RoleMapping, ofEnvironment given = .ok loaded ∧
      loaded = ⟨variableText mapping.superRoles, variableText mapping.readOnlyRoles,
        variableText mapping.denyingRoles⟩ ∧
      ((∀ name, loaded.categoryOf name = mapping.categoryOf name) ↔
        variableText mapping.superRoles = mapping.superRoles ∧
        (variableText mapping.readOnlyRoles = mapping.readOnlyRoles ∨
          Text.Lists mapping.superRoles mapping.readOnlyRoles ∧
          Text.Lists mapping.superRoles (variableText mapping.readOnlyRoles)) ∧
        (variableText mapping.denyingRoles = mapping.denyingRoles ∨
          (Text.Lists mapping.superRoles mapping.denyingRoles ∨
            Text.Lists mapping.readOnlyRoles mapping.denyingRoles) ∧
          (Text.Lists mapping.superRoles (variableText mapping.denyingRoles) ∨
            Text.Lists mapping.readOnlyRoles (variableText mapping.denyingRoles)))) := by
  refine ⟨_, ofEnvironment_eq mapping only, rfl, ?_⟩
  have superRoles := forall_lists_variableText_iff mapping.superRoles fun _ => False
  have readOnlyRoles := forall_lists_variableText_iff mapping.readOnlyRoles
    (Text.Lists mapping.superRoles)
  have denyingRoles := forall_lists_variableText_iff mapping.denyingRoles fun name =>
    Text.Lists mapping.superRoles name ∨ Text.Lists mapping.readOnlyRoles name
  simp only [not_false_eq_true, true_implies, and_false, or_false] at superRoles
  -- The three conditions are turned back into agreement of the lists, name by name.
  rw [← superRoles, ← readOnlyRoles, ← denyingRoles, ← forall_and, ← forall_and]
  refine forall_congr' fun name => ?_
  rw [RoleMapping.categoryOf_eq_iff]

/-- Variables in another order than the lists, and one without the mark. The denying role has a
number for a name, but is listed as a super role already. -/
theorem ofEnvironment_categories_overruled :
    let mapping : RoleMapping := ⟨"root, 7, 007", " auditors ", "007"⟩
    ∃ loaded : RoleMapping, ofEnvironment [("TOLLGATE_ROLES__DENYING_ROLES", "007"),
        ("HOME", "/root"), ("TOLLGATE_ROLES__SUPER_ROLES", "root, 7, 007"),
        ("TOLLGATE_ROLES__READONLY_ROLES", " auditors ")] = .ok loaded ∧
      loaded ≠ mapping ∧ ∀ name, loaded.categoryOf name = mapping.categoryOf name := by
  intro mapping
  obtain ⟨loaded, read, same, agree⟩ := ofEnvironment_categories mapping
    [("TOLLGATE_ROLES__DENYING_ROLES", "007"), ("HOME", "/root"),
      ("TOLLGATE_ROLES__SUPER_ROLES", "root, 7, 007"),
      ("TOLLGATE_ROLES__READONLY_ROLES", " auditors ")] (by decide +kernel)
  have listed : ∀ name ∈ ["007", "7"], Text.Lists mapping.superRoles name := by
    simp only [← Text.mem_listEntries_iff]
    decide +kernel
  have number : variableText mapping.denyingRoles = "7" := by decide +kernel
  refine ⟨loaded, read, ?_, agree.mpr ⟨by decide +kernel, .inl (by decide +kernel), .inr ?_⟩⟩
  · rw [same]
    decide +kernel
  · rw [number]
    exact ⟨.inl (listed "007" (by decide)), .inl (listed "7" (by decide))⟩

/-- A denying role with a number for a name is lost: its list becomes another text of the number. -/
theorem ofEnvironment_loses_role :
    let mapping : RoleMapping := ⟨"", "", "007"⟩
    ∃ loaded : RoleMapping, ofEnvironment mapping.variables = .ok loaded ∧
      loaded.categoryOf "007" = .standard ∧ mapping.categoryOf "007" = .denying := by
  intro mapping
  have marked : (mapping.variables.filter fun entry => (variablePath? entry.1).isSome).Perm
      mapping.variables := by decide +kernel
  exact ⟨_, ofEnvironment_eq mapping marked, by decide +kernel, by decide +kernel⟩

end Config

end Authorization
