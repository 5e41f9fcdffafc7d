import Authorization.Proofs.Targets

/-! Targets of operations. The operation stands behind the last delimiter of its target and holds none
itself, so that entity and operation are read back as they were written, whatever the entity is
called. A read-only role thus lets its user read every entity, and do nothing else but what was
granted for that very entity and operation. -/

set_option autoImplicit false

namespace Authorization

/-! ## Reading a target -/

namespace EntityOp

theorem delimiter_not_mem_name (op : EntityOp) : Target.delimiter ∉ op.name.toList := by
  cases op <;> decide

theorem name_injective {first second : EntityOp} (same : first.name = second.name) :
    first = second := by
  have read := ofName?_name first
  rw [same, ofName?_name] at read
  exact (Option.some.inj read).symm

end EntityOp

namespace Target

theorem lastPart?_ofOp (entity : String) (op : EntityOp) :
    lastPart? (ofOp entity op).toList = some op.name.toList := by
  rw [ofOp, toList_compose]
  exact lastPart?_append entity.toList op.name.toList op.delimiter_not_mem_name

theorem isRead_ofOp_iff (entity : String) (op : EntityOp) :
    isRead (ofOp entity op) = true ↔ op = .read := by
  rw [isRead, beq_iff_eq, lastPart?_ofOp, Option.some.injEq, String.toList_inj]
  constructor
  · exact EntityOp.name_injective
  · rintro rfl
    rfl

theorem ofOp_inj {entity other : String} {op op' : EntityOp} :
    ofOp entity op = ofOp other op' ↔ entity = other ∧ op = op' := by
  constructor
  · intro same
    have read : some op.name.toList = some op'.name.toList := by
      rw [← lastPart?_ofOp entity op, ← lastPart?_ofOp other op', same]
    have ops : op = op' := EntityOp.name_injective (String.toList_inj.mp (Option.some.inj read))
    subst ops
    -- Behind equal operations, what is left of the targets are the entities.
    have chars := congrArg String.toList same
    rw [ofOp, ofOp, toList_compose, toList_compose] at chars
    exact ⟨String.toList_inj.mp (List.append_cancel_right chars), rfl⟩
  · rintro ⟨rfl, rfl⟩
    rfl

end Target

/-! ## Read-only users -/

theorem staticRules_ofOp (entity : String) (op : EntityOp) :
    staticRules .readOnly .entityOperation (Target.ofOp entity op) =
      some (if op = .read then .permit else .deny) := by
  rw [staticRules]
  simp only [Target.isRead_ofOp_iff]

/-- Of all categories only the read-only one supplies more than a denial, and only for reading. -/
theorem eq_read_of_supplied {category : RoleCategory} {entity : String} {op : EntityOp}
    {level : Level} (user : category ≠ .super)
    (supplied : staticRules category .entityOperation (Target.ofOp entity op) = some level)
    (reached : .permit ≤ level) : op = .read := by
  cases category with
  | super => exact absurd rfl user
  | standard => cases supplied
  | denying =>
    cases supplied
    exact absurd reached (by decide)
  | readOnly =>
    rw [staticRules_ofOp, Option.some.injEq] at supplied
    by_contra other
    rw [if_neg other] at supplied
    subst supplied
    exact absurd reached (by decide)

namespace Session

theorem isOpPermitted_iff_of_readOnly (session : Session) (ordinary : session.isSuper = false)
    (static : session.context.rules = staticRules) (attached : .readOnly ∈ session.categories)
    (entity : String) (op : EntityOp) :
    session.isOpPermitted entity op = true ↔
      op = .read ∨ ∃ level,
        session.permissions.level? .entityOperation (Target.ofOp entity op) = some level ∧
          .permit ≤ level := by
  have user : .super ∉ session.categories := by
    rw [← isSuper_iff, ordinary]
    exact Bool.false_ne_true
  have supplied : session.Knows .entityOperation (Target.ofOp entity op)
      (if op = .read then .permit else .deny) :=
    .inr ⟨.readOnly, attached, by rw [static, staticRules_ofOp]⟩
  rw [isOpPermitted, isPermitted_iff]
  constructor
  · rintro (super | unknown | ⟨level, stored | ⟨category, present, supplies⟩, reached⟩)
    · exact absurd super user
    · exact absurd supplied (unknown _)
    · exact .inr ⟨level, stored, reached⟩
    · rw [static] at supplies
      refine .inl (eq_read_of_supplied ?_ supplies reached)
      rintro rfl
      exact user present
  · rintro (rfl | ⟨level, stored, reached⟩)
    · exact .inr (.inr ⟨.permit, supplied, Level.le_refl _⟩)
    · exact .inr (.inr ⟨level, .inl stored, reached⟩)

theorem isOpPermitted_grant_alias_iff (session : Session) (ordinary : session.isSuper = false)
    (static : session.context.rules = staticRules) (attached : .readOnly ∈ session.categories)
    (entity main : String) (op : EntityOp) (value : Level) :
    (session.apply (.grant .entityOperation main (some (Target.ofOp entity op)) value)).isOpPermitted
        entity op = true ↔
      session.isOpPermitted entity op = true ∨ .permit ≤ value := by
  let granted := session.apply
    (.grant .entityOperation main (some (Target.ofOp entity op)) value)
  have level : granted.permissions.level? .entityOperation (Target.ofOp entity op) =
      Level.raise (session.permissions.level? .entityOperation (Target.ofOp entity op)) value := by
    show (session.permissions.grant ..).level? _ _ = _
    rw [PermissionTable.level?_grant, if_pos ⟨rfl, .inr rfl⟩]
  have decided := granted.isOpPermitted_iff_of_readOnly ordinary static attached entity op
  rw [decided, level, Level.reaches_raise, ← or_assoc,
    session.isOpPermitted_iff_of_readOnly ordinary static attached]

/-- A target of an operation is one for reading exactly when the operation is, and no other entity or
operation has it. So a user who is read-only, and whatever else but super, may read every entity, and
otherwise do what a stored level permits for the very entity and operation. What is granted or
revoked for any others makes no difference, unless it is granted for these as well, by an alias. -/
theorem isOpPermitted_of_readOnly (entity : String) (op : EntityOp) :
    (Target.isRead (Target.ofOp entity op) = true ↔ op = .read) ∧
    (∀ other, other ≠ (entity, op) → Target.ofOp other.1 other.2 ≠ Target.ofOp entity op) ∧
    ∀ session : Session, session.isSuper = false → session.context.rules = staticRules →
      .readOnly ∈ session.categories →
      (session.isOpPermitted entity op = true ↔
        op = .read ∨ ∃ level,
          session.permissions.level? .entityOperation (Target.ofOp entity op) = some level ∧
            .permit ≤ level) ∧
      ∀ other, other ≠ (entity, op) →
        (∀ aliasName value, aliasName ≠ some (Target.ofOp entity op) →
          (session.apply (.grant .entityOperation (Target.ofOp other.1 other.2) aliasName
            value)).isOpPermitted entity op = session.isOpPermitted entity op) ∧
        (∀ value,
          ((session.apply (.grant .entityOperation (Target.ofOp other.1 other.2)
            (some (Target.ofOp entity op)) value)).isOpPermitted entity op = true ↔
              session.isOpPermitted entity op = true ∨ .permit ≤ value)) ∧
        (session.apply (.revoke .entityOperation (Target.ofOp other.1 other.2))).isOpPermitted
          entity op = session.isOpPermitted entity op := by
  have apart : ∀ other, other ≠ (entity, op) →
      Target.ofOp other.1 other.2 ≠ Target.ofOp entity op := by
    intro other different same
    exact different (Prod.ext_iff.mpr (Target.ofOp_inj.mp same))
  refine ⟨Target.isRead_ofOp_iff entity op, apart, fun session ordinary static attached =>
    ⟨session.isOpPermitted_iff_of_readOnly ordinary static attached entity op, ?_⟩⟩
  intro other different
  refine ⟨fun aliasName value unaliased => ?_, fun value => ?_, ?_⟩
  · exact session.isPermitted_apply_of_spares
      (Mutation.spares_grant (apart other different) unaliased value) .permit
  · exact session.isOpPermitted_grant_alias_iff ordinary static attached entity _ op value
  · exact session.isPermitted_apply_of_spares
      (Mutation.spares_revoke (apart other different)) .permit

/-- A guest who is read-only as well: an entity that is named like a target keeps its operations
apart from those of the entity that it seems to name. -/
theorem isOpPermitted_of_readOnly_nested :
    let session := { SessionBuilder.empty with
        roles := ⟨[⟨"auditors", .readOnly⟩, ⟨"guests", .denying⟩], by decide⟩ }.sessionFor (.ofNat 1)
      ⟨.ofNat 2, "ada", none, none, none⟩ ⟨⟨2024, 1, 2⟩, 3, 4, 5, 0⟩
    let granted := session.apply
      (.grant .entityOperation (Target.ofOp "order" .update) (some "order:line:update") .permit)
    session.isSuper = false ∧ session.context.rules = staticRules ∧
      .readOnly ∈ session.categories ∧
      session.isOpPermitted "order:update" .read = true ∧
      granted.isOpPermitted "order" .update = true ∧
      granted.isOpPermitted "order:read" .update = false := by
  intro session granted
  have ordinary : session.isSuper = false := by decide
  have attached : .readOnly ∈ session.categories := by decide
  refine ⟨ordinary, rfl, attached, ?_, ?_, ?_⟩
  · obtain ⟨-, -, decided⟩ := isOpPermitted_of_readOnly "order:update" .read
    exact (decided session ordinary rfl attached).1.mpr (.inl rfl)
  · obtain ⟨-, -, decided⟩ := isOpPermitted_of_readOnly "order" .update
    exact (decided granted ordinary rfl attached).1.mpr
      (.inr ⟨.permit, by decide +kernel, Level.le_refl _⟩)
  · obtain ⟨-, -, decided⟩ := isOpPermitted_of_readOnly "order:read" .update
    obtain ⟨unchanged, -, -⟩ :=
      (decided session ordinary rfl attached).2 ("order", .update) (by decide)
    rw [unchanged (some "order:line:update") .permit (by decide +kernel)]
    decide +kernel

/-- A grant for creating orders lets a read-only user change them, for its alias says so. -/
theorem isOpPermitted_changed_by_alias :
    let session := { SessionBuilder.empty with
        roles := ⟨[⟨"auditors", .readOnly⟩], by decide⟩ }.sessionFor (.ofNat 1)
      ⟨.ofNat 2, "ada", none, none, none⟩ ⟨⟨2024, 1, 2⟩, 3, 4, 5, 0⟩
    let granted := session.apply
      (.grant .entityOperation (Target.ofOp "order" .create) (some (Target.ofOp "order" .update))
        .permit)
    session.isSuper = false ∧ session.context.rules = staticRules ∧
      .readOnly ∈ session.categories ∧
      Target.ofOp "order" .create ≠ Target.ofOp "order" .update ∧
      session.isOpPermitted "order" .update = false ∧
      granted.isOpPermitted "order" .update = true := by
  intro session granted
  exact ⟨by decide, rfl, by decide, by decide +kernel, by decide +kernel, by decide +kernel⟩

end Session

end Authorization
