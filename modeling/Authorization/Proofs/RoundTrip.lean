import Authorization.Proofs.Written

/-! Snapshots, read back as they were written or reworded, in any order of members. -/

set_option autoImplicit false

namespace Authorization

variable {form : Json → Json}

theorem DurableAttributes.readsAs_object (reorders : Json.Reorders form)
    (attributes : DurableAttributes)
    (fixed : ∀ (name : String) (value : Json), attributes[name]? = some value → form value = value) :
    (form (.object attributes.toList)).ReadsAs (.table none .any)
      (fun document => return .ofList (← document.asMembers .ok)) attributes := by
  have kept : ∀ entry ∈ attributes.toList,
      (form (id entry.2)).ReadsAs .any Except.ok entry.2 := by
    rintro ⟨name, value⟩ member
    have same := fixed name value (Std.ExtTreeMap.mem_toList_iff_getElem?_eq_some.mp member)
    exact ⟨by rw [Shape.check], congrArg Except.ok same⟩
  obtain ⟨others, same, row, -, fits, written, reads⟩ :=
    reorders.readsAs_table (Entries.distinct_toList attributes) kept
  change form (.object (attributes.toList.map id)) = .object row at written
  rw [List.map_id] at written
  rw [written]
  refine ⟨Shape.check_table fits, ?_⟩
  rw [reads]
  exact congrArg Except.ok (Entries.ofList_of_perm same)

theorem RecordType.ne_null {type : RecordType} {document : Json}
    (fits : type.shape.check document = .ok ()) : document ≠ .null := by
  rintro rfl
  rw [shape, Shape.check] at fits
  · cases fits
  all_goals
    intro _ same
    cases same

namespace SessionSnapshot

theorem names_substituted (substituted : Option Principal) :
    ((substituted.map fun user => ("substituted", user.toJson)).toList.map Prod.fst).Sublist
      ["substituted"] := by
  cases substituted with
  | none => exact List.nil_sublist _
  | some user => exact .refl _

theorem lookup_substituted (substituted : Option Principal) (name : String) :
    (substituted.map fun user => ("substituted", user.toJson)).toList.lookup name =
      if name = "substituted" then substituted.map Principal.toJson else none := by
  cases substituted with
  | none => simp
  | some user =>
    by_cases same : name = "substituted"
    · simp [same]
    · simp [same]

structure Spelled (row : Row) (snapshot : SessionSnapshot) : Prop where
  distinct : (row.map Prod.fst).Nodup
  id : row.Supplies "id" (.text .identifier) Json.asId snapshot.id
  principal : row.Supplies "principal" Principal.recordType.shape Principal.ofJson snapshot.principal
  substituted : row.Yields "substituted" (.optional Principal.recordType.shape)
    (Json.asOption Principal.ofJson) none snapshot.substituted
  roles : row.Yields "roles" RoleSet.shape RoleSet.ofJson .empty snapshot.roles
  environment : row.Yields "environment" Environment.recordType.shape Environment.ofJson .empty
    snapshot.environment
  createdAt : row.Supplies "created_at" (.text .instant) Json.asInstant snapshot.createdAt
  system : row.Yields "system" .bool Json.asBool false snapshot.system
  permissions : row.Yields "permissions" ListedLevels.shape ListedLevels.ofJson
    (.ofFunction fun _ => none) snapshot.permissions
  constraints : row.Yields "constraints" (.list Constraint.recordType.shape)
    (Json.asList Constraint.ofJson) [] snapshot.constraints
  attributes : row.Yields "attributes" (.table none .any)
    (fun document => return .ofList (← document.asMembers .ok)) ∅ snapshot.attributes

theorem Spelled.readsAs {row : Row} {snapshot : SessionSnapshot} (spelled : Spelled row snapshot) :
    (Json.object row).ReadsAs recordType.shape ofJson snapshot := by
  refine RecordType.readsAs spelled.distinct ?_ ?_
  · simp only [recordType, List.forall_mem_cons]
    exact ⟨spelled.id.fits true, spelled.principal.fits true, spelled.substituted.fits,
      spelled.roles.fits, spelled.environment.fits, spelled.createdAt.fits true,
      spelled.system.fits, spelled.permissions.fits, spelled.constraints.fits,
      spelled.attributes.fits, nofun⟩
  · simp only [spelled.id.required, spelled.principal.required, spelled.substituted.withDefault,
      spelled.roles.withDefault, spelled.environment.withDefault, spelled.createdAt.required,
      spelled.system.withDefault, spelled.permissions.withDefault,
      spelled.constraints.withDefault, spelled.attributes.withDefault]
    rfl

/-- The members with a default may be left out when they hold it, and the users, roles, environment
and constraints may be reworded themselves. -/
def rewording : Rewording :=
  .record [
    .fixed "id",
    ⟨"principal", none, Principal.rewording⟩,
    ⟨"substituted", none, Principal.rewording⟩,
    ⟨"roles", some RoleSet.empty.toJson, RoleSet.rewording⟩,
    ⟨"environment", some Environment.empty.toJson, Environment.rewording⟩,
    .fixed "created_at",
    ⟨"system", some (.bool false), .exact⟩,
    ⟨"permissions", some (ListedLevels.toJson (.ofFunction fun _ => none)), .exact⟩,
    ⟨"constraints", some (.list []), Constraint.rewording.list⟩,
    ⟨"attributes", some (.object []), .exact⟩]

/-- A snapshot whose time of creation can be read back is read back from every rewording of it, in
every form that leaves its attributes alone. -/
theorem readsAs_of_rewords (reorders : Json.Reorders form) {snapshot : SessionSnapshot}
    (legible : Instant.ofText snapshot.createdAt.text = .ok snapshot.createdAt)
    (fixed : ∀ (name : String) (value : Json),
      snapshot.attributes[name]? = some value → form value = value)
    {document : Json} (rewords : rewording.Rewords (form snapshot.toJson) document) :
    document.ReadsAs recordType.shape ofJson snapshot := by
  have different : (recordType.fields.map Field.name).Nodup := by decide
  refine reorders.readsAs_of_record different ?_ rewords fun row distinct allows => ?_
  · simp only [List.map_append]
    exact ((List.Sublist.refl ["id", "principal"]).append (names_substituted _)).append (.refl _)
  · simp only [List.forall_mem_cons] at allows
    obtain ⟨id, principal, substituted, roles, environment, createdAt, system, permissions,
      constraints, attributes, -⟩ := allows
    have users : ∀ user document, Principal.rewording.Rewords (form (Principal.toJson user)) document →
        document.ReadsAs Principal.recordType.shape Principal.ofJson user ∧ document ≠ .null := by
      intro user document rewords
      have readsAs := Principal.readsAs_of_rewords reorders user rewords
      exact ⟨readsAs, RecordType.ne_null readsAs.fits⟩
    refine Spelled.readsAs {
      distinct := distinct
      id := id.supplies ?_ (Json.readsAs_id snapshot.id).exact rfl
      principal := principal.supplies ?_
        (fun _ => Principal.readsAs_of_rewords reorders snapshot.principal) rfl
      substituted := substituted.yieldsOption ?substituted users rfl
      roles := roles.yields ?_ (fun _ => RoleSet.readsAs_of_rewords reorders snapshot.roles)
        rfl (RoleSet.readsAs_toJson Json.reorders_id .empty)
      environment := environment.yields ?_
        (fun _ => Environment.readsAs_of_rewords reorders snapshot.environment)
        rfl (Environment.readsAs_toJson Json.reorders_id .empty)
      createdAt := createdAt.supplies ?_ (Json.readsAs_instant legible).exact rfl
      system := system.yields ?_ (Json.readsAs_bool snapshot.system).exact
        rfl (Json.readsAs_bool false)
      permissions := permissions.yields ?_
        (ListedLevels.readsAs_toJson reorders snapshot.permissions).exact
        rfl (ListedLevels.readsAs_toJson Json.reorders_id _)
      constraints := constraints.yields ?_
        (fun _ rewords => reorders.readsAs_of_list rewords
          fun constraint _ => Constraint.readsAs_of_rewords reorders constraint)
        rfl (.list .nil)
      attributes := attributes.yields ?_
        (DurableAttributes.readsAs_object reorders snapshot.attributes fixed).exact
        rfl (DurableAttributes.readsAs_object Json.reorders_id ∅ fun _ _ _ => rfl) }
    case substituted =>
      simp [List.lookup_append, List.lookup_cons, lookup_substituted, Function.comp_def]
    all_goals simp [Leeway.fixed, List.lookup_append, List.lookup_cons, lookup_substituted,
      reorders.text, reorders.bool]

theorem ofJson_toJson {snapshot : SessionSnapshot}
    (legible : Instant.ofText snapshot.createdAt.text = .ok snapshot.createdAt) :
    ofJson snapshot.toJson = .ok snapshot :=
  (readsAs_of_rewords Json.reorders_id legible (fun _ _ _ => rfl) (rewording.same _)).reads

theorem ofJson_ordered_toJson {snapshot : SessionSnapshot}
    (legible : Instant.ofText snapshot.createdAt.text = .ok snapshot.createdAt)
    (ordered : ∀ (name : String) (value : Json),
      snapshot.attributes[name]? = some value → value.ordered = value) :
    ofJson snapshot.toJson.ordered = .ok snapshot :=
  (readsAs_of_rewords Json.reorders_ordered legible ordered (rewording.same _)).reads

/-- Nothing is lost in writing: what a snapshot is written as, and every rewording of that, reads as
the snapshot, with the members in the order of the fields or in that of their names. -/
theorem ofJson_of_rewords (snapshot : SessionSnapshot)
    (legible : Instant.ofText snapshot.createdAt.text = .ok snapshot.createdAt) :
    ofJson snapshot.toJson = .ok snapshot ∧
    (∀ document, rewording.Rewords snapshot.toJson document → ofJson document = .ok snapshot) ∧
    ((∀ (name : String) (value : Json),
        snapshot.attributes[name]? = some value → value.ordered = value) →
      ofJson snapshot.toJson.ordered = .ok snapshot ∧
      ∀ document, rewording.Rewords snapshot.toJson.ordered document →
        ofJson document = .ok snapshot) := by
  refine ⟨ofJson_toJson legible, fun document rewords => ?_,
    fun ordered => ⟨ofJson_ordered_toJson legible ordered, fun document rewords => ?_⟩⟩
  · exact (readsAs_of_rewords Json.reorders_id legible (fun _ _ _ => rfl) rewords).reads
  · exact (readsAs_of_rewords Json.reorders_ordered legible ordered rewords).reads

/-- All members with a default are left out, those of the constraint included, and the snapshot and
its user have one member each that no field is named for. -/
theorem ofJson_of_rewords_plain :
    let snapshot : SessionSnapshot := {
      id := .ofNat 1
      principal := ⟨.ofNat 2, "ada", none, none, none⟩
      substituted := none
      roles := .empty
      environment := .empty
      createdAt := ⟨⟨2024, 1, 2⟩, 3, 4, 5, 0⟩
      system := false
      permissions := .ofFunction fun _ => none
      constraints := [.ofId (.ofNat 7) "order"]
      attributes := ∅ }
    ofJson (.object [
      ("version", .integer 2),
      ("id", .text snapshot.id.text),
      ("created_at", .text snapshot.createdAt.text),
      ("principal", .object [
        ("verified", .bool true),
        ("login", .text "ada"),
        ("id", .text snapshot.principal.id.text)]),
      ("constraints", .list [.object [
        ("entity_name", .text "order"),
        ("id", .text (Id.ofNat 7 : ConstraintId).text)]])]) = .ok snapshot := by
  intro snapshot
  obtain ⟨-, reads, -⟩ := ofJson_of_rewords snapshot (by decide +kernel)
  refine reads _ (.inr ⟨_, _, rfl, rfl, by decide, ?_⟩)
  simp only [List.forall_mem_cons]
  refine ⟨.kept rfl, .kept ?user, .unwritten, .omitted rfl, .omitted rfl, .kept rfl, .omitted rfl,
    .omitted rfl, .kept ?constraints, .omitted rfl, nofun⟩
  case user =>
    refine .inr ⟨_, _, rfl, rfl, by decide, ?_⟩
    simp only [List.forall_mem_cons]
    exact ⟨.kept rfl, .kept rfl, .unwritten, .unwritten, .unwritten, nofun⟩
  case constraints =>
    refine .inr ⟨_, _, rfl, rfl, .cons (.inr ⟨_, _, rfl, rfl, by decide, ?_⟩) .nil⟩
    simp only [List.forall_mem_cons]
    exact ⟨.kept rfl, .kept rfl, .unwritten, .omitted rfl, .omitted rfl, .unwritten, .unwritten,
      .unwritten, nofun⟩

end SessionSnapshot

end Authorization
