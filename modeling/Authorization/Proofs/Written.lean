import Authorization.Proofs.Numerals
import Authorization.Proofs.Rewording
import Authorization.Wire

/-! The parts of a snapshot, read back as they were written or reworded. Each record type first states
which rows spell one of its values, and then that every rewording of a written value does. -/

set_option autoImplicit false

namespace Authorization

variable {form : Json → Json}

/-! ## Scalars -/

namespace Json

theorem readsAs_id {kind : IdKind} (id : Id kind) :
    (text id.text).ReadsAs (.text .identifier) asId id where
  fits := by
    rw [Shape.check, TextForm.check, Id.ofDigits_text]
  reads := by
    rw [asId, Results.bind_eq_ok_iff]
    refine ⟨id.text, rfl, ?_⟩
    rw [Id.ofDigits_text]
    rfl

theorem readsAs_instant {instant : Instant} (legible : Instant.ofText instant.text = .ok instant) :
    (text instant.text).ReadsAs (.text .instant) asInstant instant where
  fits := by
    rw [Shape.check, TextForm.check, legible]
  reads := by
    rw [asInstant, legible]

theorem names_optionalMember (name : String) (value : Option String) :
    ((optionalMember name value).map Prod.fst).Sublist [name] := by
  cases value with
  | none => exact List.nil_sublist _
  | some value => exact .refl _

@[simp] theorem lookup_optionalMember (name wanted : String) (value : Option String) :
    (optionalMember name value).lookup wanted =
      if wanted = name then value.map Json.text else none := by
  cases value with
  | none => simp [optionalMember]
  | some value =>
    by_cases same : wanted = name
    · simp [optionalMember, same]
    · simp [optionalMember, same]

end Json

theorem Vocabulary.readsAs {α : Type} {vocabulary : Vocabulary α} {value : α}
    (found : vocabulary.ofName? (vocabulary.name value) = some value) :
    (vocabulary.toJson value).ReadsAs vocabulary.shape vocabulary.ofJson value := by
  have listed : vocabulary.name value ∈ vocabulary.names :=
    List.mem_map_of_mem (List.mem_of_find?_eq_some found)
  have chosen : checkChoice vocabulary.names (.text (vocabulary.name value)) = .ok () := by
    rw [checkChoice, if_pos listed]
  rw [toJson]
  refine ⟨?_, ?_⟩
  · rw [shape, Shape.check, chosen]
  · rw [ofJson, Results.bind_eq_ok_iff]
    refine ⟨(), chosen, ?_⟩
    dsimp only
    rw [found]
    rfl

abbrev Row.YieldsText (row : Row) (name : String) (value : Option String) : Prop :=
  row.Yields name (.optional (.text .any)) (Json.asOption Json.asText) none value

/-- A member that is written only for a present value, and never as null. -/
theorem Row.yields_of_lookup {α : Type} {row : Row} {name : String} {shape : Shape}
    {read : Json → Except DecodeError α} {write : α → Json} {value : Option α}
    (found : row.lookup name = value.map write)
    (reads : ∀ value, (write value).ReadsAs shape read value) (full : ∀ value, write value ≠ .null) :
    row.Yields name (.optional shape) (Json.asOption read) none value := by
  cases value with
  | none => exact .inr ⟨found, rfl⟩
  | some value => exact .inl ⟨_, found, (reads value).optional (full value)⟩

theorem Json.Reorders.yieldsText (reorders : Reorders form) {row : Row} {name : String}
    {value : Option String} (found : row.lookup name = (value.map Json.text).map form) :
    row.YieldsText name value := by
  refine Row.yields_of_lookup ?_ Json.readsAs_text nofun
  rw [found, Option.map_map]
  congr 1
  funext value
  exact reorders.text value

/-! ## Principals -/

namespace Principal

structure Spelled (row : Row) (principal : Principal) : Prop where
  distinct : (row.map Prod.fst).Nodup
  id : row.Supplies "id" (.text .identifier) Json.asId principal.id
  login : row.Supplies "login" (.text .any) Json.asText principal.login
  name : row.YieldsText "name" principal.name
  locale : row.YieldsText "locale" principal.locale
  timezone : row.YieldsText "timezone" principal.timezone

theorem Spelled.readsAs {row : Row} {principal : Principal} (spelled : Spelled row principal) :
    (Json.object row).ReadsAs recordType.shape ofJson principal := by
  refine RecordType.readsAs spelled.distinct ?_ ?_
  · simp only [recordType, List.forall_mem_cons]
    exact ⟨spelled.id.fits true, spelled.login.fits true, spelled.name.fits, spelled.locale.fits,
      spelled.timezone.fits, nofun⟩
  · simp only [Row.optionalText, spelled.id.required, spelled.login.required,
      spelled.name.withDefault, spelled.locale.withDefault, spelled.timezone.withDefault]
    rfl

def rewording : Rewording :=
  .record [.fixed "id", .fixed "login", .fixed "name", .fixed "locale", .fixed "timezone"]

theorem readsAs_of_rewords (reorders : Json.Reorders form) (principal : Principal) {document : Json}
    (rewords : rewording.Rewords (form principal.toJson) document) :
    document.ReadsAs recordType.shape ofJson principal := by
  have different : (recordType.fields.map Field.name).Nodup := by decide
  refine reorders.readsAs_of_record different ?_ rewords fun row distinct allows => ?_
  · simp only [List.map_append]
    exact (((List.Sublist.refl ["id", "login"]).append (Json.names_optionalMember ..)).append
      (Json.names_optionalMember ..)).append (Json.names_optionalMember ..)
  · simp only [List.forall_mem_cons] at allows
    obtain ⟨id, login, name, locale, timezone, -⟩ := allows
    refine Spelled.readsAs {
      distinct := distinct
      id := id.supplies ?_ (Json.readsAs_id principal.id).exact rfl
      login := login.supplies ?_ (Json.readsAs_text principal.login).exact rfl
      name := reorders.yieldsText (name.eq_of_fixed.trans ?_)
      locale := reorders.yieldsText (locale.eq_of_fixed.trans ?_)
      timezone := reorders.yieldsText (timezone.eq_of_fixed.trans ?_) }
    all_goals simp [Leeway.fixed, List.lookup_append, List.lookup_cons, reorders.text]

end Principal

/-! ## Environments -/

namespace Environment

structure Spelled (row : Row) (environment : Environment) : Prop where
  distinct : (row.map Prod.fst).Nodup
  locale : row.YieldsText "locale" environment.locale
  timezone : row.YieldsText "timezone" environment.timezone
  address : row.YieldsText "address" environment.address
  clientInfo : row.YieldsText "client_info" environment.clientInfo

theorem Spelled.readsAs {row : Row} {environment : Environment} (spelled : Spelled row environment) :
    (Json.object row).ReadsAs recordType.shape ofJson environment := by
  refine RecordType.readsAs spelled.distinct ?_ ?_
  · simp only [recordType, List.forall_mem_cons]
    exact ⟨spelled.locale.fits, spelled.timezone.fits, spelled.address.fits,
      spelled.clientInfo.fits, nofun⟩
  · simp only [Row.optionalText, spelled.locale.withDefault, spelled.timezone.withDefault,
      spelled.address.withDefault, spelled.clientInfo.withDefault]
    rfl

def rewording : Rewording :=
  .record [.fixed "locale", .fixed "timezone", .fixed "address", .fixed "client_info"]

theorem readsAs_of_rewords (reorders : Json.Reorders form) (environment : Environment)
    {document : Json} (rewords : rewording.Rewords (form environment.toJson) document) :
    document.ReadsAs recordType.shape ofJson environment := by
  have different : (recordType.fields.map Field.name).Nodup := by decide
  refine reorders.readsAs_of_record different ?_ rewords fun row distinct allows => ?_
  · simp only [List.map_append]
    exact (((Json.names_optionalMember ..).append (Json.names_optionalMember ..)).append
      (Json.names_optionalMember ..)).append (Json.names_optionalMember ..)
  · simp only [List.forall_mem_cons] at allows
    obtain ⟨locale, timezone, address, clientInfo, -⟩ := allows
    refine Spelled.readsAs {
      distinct := distinct
      locale := reorders.yieldsText (locale.eq_of_fixed.trans ?_)
      timezone := reorders.yieldsText (timezone.eq_of_fixed.trans ?_)
      address := reorders.yieldsText (address.eq_of_fixed.trans ?_)
      clientInfo := reorders.yieldsText (clientInfo.eq_of_fixed.trans ?_) }
    all_goals simp [Leeway.fixed, List.lookup_append]

theorem readsAs_toJson (reorders : Json.Reorders form) (environment : Environment) :
    (form environment.toJson).ReadsAs recordType.shape ofJson environment :=
  readsAs_of_rewords reorders environment (rewording.same _)

end Environment

/-! ## Constraints -/

namespace Constraint

structure Spelled (row : Row) (constraint : Constraint) : Prop where
  distinct : (row.map Prod.fst).Nodup
  id : row.Supplies "id" (.text .identifier) Json.asId constraint.id
  entityName : row.Supplies "entity_name" (.text .any) Json.asText constraint.entityName
  code : row.YieldsText "code" constraint.code
  operation : row.Yields "operation" ConstraintOperation.vocabulary.shape
    ConstraintOperation.vocabulary.ofJson .standard constraint.operation
  checkType : row.Yields "check_type" CheckType.vocabulary.shape CheckType.vocabulary.ofJson
    .standard constraint.checkType
  joinClause : row.YieldsText "join_clause" constraint.joinClause
  whereClause : row.YieldsText "where_clause" constraint.whereClause
  script : row.YieldsText "script" constraint.script

theorem Spelled.readsAs {row : Row} {constraint : Constraint} (spelled : Spelled row constraint) :
    (Json.object row).ReadsAs recordType.shape ofJson constraint := by
  refine RecordType.readsAs spelled.distinct ?_ ?_
  · simp only [recordType, List.forall_mem_cons]
    exact ⟨spelled.id.fits true, spelled.entityName.fits true, spelled.code.fits,
      spelled.operation.fits, spelled.checkType.fits, spelled.joinClause.fits,
      spelled.whereClause.fits, spelled.script.fits, nofun⟩
  · simp only [Row.optionalText, spelled.id.required, spelled.entityName.required,
      spelled.code.withDefault, spelled.operation.withDefault, spelled.checkType.withDefault,
      spelled.joinClause.withDefault, spelled.whereClause.withDefault, spelled.script.withDefault]
    rfl

def rewording : Rewording :=
  .record [
    .fixed "id",
    .fixed "entity_name",
    .fixed "code",
    ⟨"operation", some (ConstraintOperation.vocabulary.toJson .standard), .exact⟩,
    ⟨"check_type", some (CheckType.vocabulary.toJson .standard), .exact⟩,
    .fixed "join_clause",
    .fixed "where_clause",
    .fixed "script"]

theorem readsAs_of_rewords (reorders : Json.Reorders form) (constraint : Constraint)
    {document : Json} (rewords : rewording.Rewords (form constraint.toJson) document) :
    document.ReadsAs recordType.shape ofJson constraint := by
  have different : (recordType.fields.map Field.name).Nodup := by decide
  refine reorders.readsAs_of_record different ?_ rewords fun row distinct allows => ?_
  · simp only [List.map_append]
    exact ((((List.Sublist.refl ["id", "entity_name"]).append (Json.names_optionalMember ..)).append
      (.refl ["operation", "check_type"])).append (Json.names_optionalMember ..)).append
      (Json.names_optionalMember ..) |>.append (Json.names_optionalMember ..)
  · simp only [List.forall_mem_cons] at allows
    obtain ⟨id, entityName, code, operation, checkType, joinClause, whereClause, script, -⟩ := allows
    refine Spelled.readsAs {
      distinct := distinct
      id := id.supplies ?_ (Json.readsAs_id constraint.id).exact rfl
      entityName := entityName.supplies ?_ (Json.readsAs_text constraint.entityName).exact rfl
      code := reorders.yieldsText (code.eq_of_fixed.trans ?_)
      operation := operation.yields ?_ (Vocabulary.readsAs constraint.operation.ofName?_name).exact
        rfl (Vocabulary.readsAs (ConstraintOperation.ofName?_name .standard))
      checkType := checkType.yields ?_ (Vocabulary.readsAs constraint.checkType.ofName?_name).exact
        rfl (Vocabulary.readsAs (CheckType.ofName?_name .standard))
      joinClause := reorders.yieldsText (joinClause.eq_of_fixed.trans ?_)
      whereClause := reorders.yieldsText (whereClause.eq_of_fixed.trans ?_)
      script := reorders.yieldsText (script.eq_of_fixed.trans ?_) }
    all_goals simp [Leeway.fixed, List.lookup_append, List.lookup_cons, Vocabulary.toJson,
      reorders.text]

end Constraint

/-! ## Roles -/

namespace Role

structure Spelled (row : Row) (role : Role) : Prop where
  distinct : (row.map Prod.fst).Nodup
  name : row.Supplies "name" (.text .any) Json.asText role.name
  category : row.Supplies "category" RoleCategory.vocabulary.shape RoleCategory.vocabulary.ofJson
    role.category

theorem Spelled.readsAs {row : Row} {role : Role} (spelled : Spelled row role) :
    (Json.object row).ReadsAs recordType.shape ofJson role := by
  refine RecordType.readsAs spelled.distinct ?_ ?_
  · simp only [recordType, List.forall_mem_cons]
    exact ⟨spelled.name.fits true, spelled.category.fits true, nofun⟩
  · simp only [spelled.name.required, spelled.category.required]
    rfl

def rewording : Rewording := .record [.fixed "name", .fixed "category"]

theorem readsAs_of_rewords (reorders : Json.Reorders form) (role : Role) {document : Json}
    (rewords : rewording.Rewords (form role.toJson) document) :
    document.ReadsAs recordType.shape ofJson role := by
  have different : (recordType.fields.map Field.name).Nodup := by decide
  refine reorders.readsAs_of_record different (.refl _) rewords fun row distinct allows => ?_
  simp only [List.forall_mem_cons] at allows
  obtain ⟨name, category, -⟩ := allows
  refine Spelled.readsAs {
    distinct := distinct
    name := name.supplies ?_ (Json.readsAs_text role.name).exact rfl
    category := category.supplies ?_ (Vocabulary.readsAs role.category.ofName?_name).exact rfl }
  all_goals simp [Leeway.fixed, List.lookup_cons, Vocabulary.toJson, reorders.text]

end Role

namespace RoleSet

def rewording : Rewording := Role.rewording.list

theorem readsAs_of_rewords (reorders : Json.Reorders form) (set : RoleSet) {document : Json}
    (rewords : rewording.Rewords (form set.toJson) document) :
    document.ReadsAs shape ofJson set := by
  have listed := reorders.readsAs_of_list rewords fun role _ => Role.readsAs_of_rewords reorders role
  refine ⟨listed.fits, ?_⟩
  rw [ofJson, listed.reads]
  exact congrArg Except.ok (ofList_roles set)

theorem readsAs_toJson (reorders : Json.Reorders form) (set : RoleSet) :
    (form set.toJson).ReadsAs shape ofJson set :=
  readsAs_of_rewords reorders set (rewording.same _)

end RoleSet

/-! ## Levels -/

theorem Level.readsAs_toJson (reorders : Json.Reorders form) (level : Level) :
    (form level.toJson).ReadsAs shape ofJson level := by
  have held : IntegerRange.i32.holds level.value = true := by
    simp [IntegerRange.holds, IntegerRange.i32, level.lower, level.upper]
  rw [toJson, reorders.integer]
  refine ⟨?_, ?_⟩
  · rw [shape, Shape.check, if_pos held]
  · rw [ofJson, Results.bind_eq_ok_iff]
    refine ⟨level.value, ?_, ?_⟩
    · rw [Json.asInteger, if_pos held]
    · rw [ofInt?_value]
      rfl

theorem Levels.readsAs_toJson (reorders : Json.Reorders form) (levels : Levels) :
    (form levels.toJson).ReadsAs shape ofJson levels := by
  obtain ⟨others, same, row, -, fits, written, reads⟩ := reorders.readsAs_table
    (Entries.distinct_toList levels) fun entry _ => Level.readsAs_toJson reorders entry.2
  rw [toJson, written]
  refine ⟨Shape.check_table fits, ?_⟩
  rw [ofJson, reads]
  exact congrArg Except.ok (Entries.ofList_of_perm same)

namespace PermissionKind

theorem name_injective {first second : PermissionKind} (same : first.name = second.name) :
    first = second := by
  have found := ofName?_name first
  rw [same, ofName?_name] at found
  exact (Option.some.inj found).symm

def entries {α : Type} (value : PermissionKind → Option α) (kinds : List PermissionKind) :
    List (String × α) :=
  kinds.filterMap fun kind => (value kind).map fun value => (kind.name, value)

theorem names_entries {α : Type} (value : PermissionKind → Option α) (kinds : List PermissionKind) :
    ((entries value kinds).map Prod.fst).Sublist (kinds.map name) := by
  induction kinds with
  | nil => exact .refl _
  | cons first rest ih =>
    rw [entries, List.filterMap_cons]
    cases value first with
    | none => exact ih.cons _
    | some value => exact ih.cons_cons _

theorem lookup_entries {α : Type} (value : PermissionKind → Option α) (kinds : List PermissionKind)
    (kind : PermissionKind) :
    (entries value kinds).lookup kind.name = if kind ∈ kinds then value kind else none := by
  induction kinds with
  | nil => rfl
  | cons first rest ih =>
    rw [entries, List.filterMap_cons]
    -- A kind without a value leaves no entry, and a later entry of its name would be its own.
    by_cases same : kind = first
    · subst same
      rw [if_pos List.mem_cons_self]
      cases known : value kind with
      | none =>
        rw [entries] at ih
        simp [ih, known]
      | some level => simp
    · have apart : (kind.name == first.name) = false := by
        simpa using fun names => same (name_injective names)
      rw [entries] at ih
      cases value first with
      | none => simp [ih, same]
      | some level => simp [List.lookup_cons, apart, ih, same]

end PermissionKind

theorem ListedLevels.toJson_eq (listed : ListedLevels) :
    listed.toJson = .object ((PermissionKind.entries listed.get PermissionKind.all).map
      fun (name, levels) => (name, levels.toJson)) := by
  rw [toJson, PerKind.toList, List.filterMap_map, PermissionKind.entries, List.map_filterMap]
  congr 2
  funext kind
  simp only [Function.comp_apply, Option.map_map]
  rfl

theorem ListedLevels.readsAs_toJson (reorders : Json.Reorders form) (listed : ListedLevels) :
    (form listed.toJson).ReadsAs shape ofJson listed := by
  have named := PermissionKind.names_entries listed.get PermissionKind.all
  have distinct := named.nodup (by decide)
  obtain ⟨others, same, row, names, fits, written, reads⟩ := reorders.readsAs_table
    distinct fun entry _ => Levels.readsAs_toJson reorders entry.2
  rw [toJson_eq, written]
  have accepted : shape.check (.object row) = .ok () := by
    refine Shape.check_listedTable (fun member inside => ?_) fits
    have known : member.1 ∈ others.map Prod.fst := names ▸ List.mem_map_of_mem inside
    exact named.subset ((same.map Prod.fst).mem_iff.mp known)
  refine ⟨accepted, ?_⟩
  rw [ofJson, accepted, reads]
  refine congrArg Except.ok (PerKind.ext_get fun kind => ?_)
  rw [PerKind.get_ofFunction, ← Entries.lookup_perm same.symm distinct, PermissionKind.lookup_entries,
    if_pos kind.mem_all]

end Authorization
