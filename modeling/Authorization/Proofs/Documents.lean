import Authorization.Json.Shape
import Authorization.Proofs.Entries

/-! Documents that are accepted by a shape and read as a value. Only the lookups of a record count,
so that neither the order of the members nor members without a field have an effect. -/

set_option autoImplicit false

namespace Authorization

variable {α β : Type}

/-- The document fits the shape, and reading it gives the value. -/
structure Json.ReadsAs (document : Json) (shape : Shape) (read : Json → Except DecodeError α)
    (value : α) : Prop where
  fits : shape.check document = .ok ()
  reads : read document = .ok value

namespace Row

def Fits (row : Row) (field : Field) : Prop :=
  match field with
  | .mk name required shape =>
    match row.lookup name with
    | some document => shape.check document = .ok ()
    | none => required = false

def Supplies (row : Row) (name : String) (shape : Shape) (read : Json → Except DecodeError α)
    (value : α) : Prop :=
  ∃ document, row.lookup name = some document ∧ document.ReadsAs shape read value

/-- The member under the name reads as the value, or there is none and the value is the default. -/
def Yields (row : Row) (name : String) (shape : Shape) (read : Json → Except DecodeError α)
    (default value : α) : Prop :=
  row.Supplies name shape read value ∨ row.lookup name = none ∧ value = default

variable {row : Row} {name : String} {shape : Shape} {read : Json → Except DecodeError α}
  {default value : α}

namespace Supplies

theorem fits (supplies : row.Supplies name shape read value) (required : Bool) :
    row.Fits (.mk name required shape) := by
  obtain ⟨document, found, readsAs⟩ := supplies
  rw [Fits, found]
  exact readsAs.fits

theorem required (supplies : row.Supplies name shape read value) :
    row.required name read = .ok value := by
  obtain ⟨document, found, readsAs⟩ := supplies
  rw [Row.required, found]
  exact readsAs.reads

end Supplies

namespace Yields

theorem fits (yields : row.Yields name shape read default value) :
    row.Fits (.mk name false shape) := by
  rcases yields with supplies | ⟨absent, -⟩
  · exact supplies.fits false
  · rw [Fits, absent]

theorem withDefault (yields : row.Yields name shape read default value) :
    row.withDefault name default read = .ok value := by
  rcases yields with ⟨document, found, readsAs⟩ | ⟨absent, rfl⟩
  · rw [Row.withDefault, found]
    exact readsAs.reads
  · rw [Row.withDefault, absent]

end Yields

end Row

namespace Shape

-- The equations of the checks, for all lemmas below.
attribute [local simp] check checkMember

theorem checkMember_eq_ok {fields : List Field} {name : String} {document : Json}
    (fits : ∀ required shape, .mk name required shape ∈ fields → shape.check document = .ok ()) :
    checkMember fields name document = .ok () := by
  induction fields with
  | nil => rw [checkMember]
  | cons field rest ih =>
    obtain ⟨fieldName, required, shape⟩ := field
    rw [checkMember]
    split
    · rename_i same
      subst same
      exact fits required shape List.mem_cons_self
    · exact ih fun required shape member => fits required shape (List.mem_cons_of_mem _ member)

theorem missingField_eq_none {row : Row} {fields : List Field}
    (fits : ∀ field ∈ fields, row.Fits field) : missingField row fields = none := by
  rw [missingField, Option.map_eq_none_iff, List.find?_eq_none]
  rintro ⟨name, required, shape⟩ member
  have fit := fits (.mk name required shape) member
  rw [Row.Fits] at fit
  cases found : row.lookup name with
  | some document => simp [Field.name, found]
  | none =>
    rw [found] at fit
    simp [Field.isRequired, fit]

theorem check_record {name : String} {fields : List Field} {row : Row}
    (distinct : (row.map Prod.fst).Nodup) (fits : ∀ field ∈ fields, row.Fits field) :
    (record name fields).check (.object row) = .ok () := by
  rw [check, Results.bind_eq_ok_iff]
  refine ⟨(), ?_, ?_⟩
  · rw [Results.forM_eq_ok_iff]
    rintro ⟨member, document⟩ inside
    -- The check goes through the members, the fields are found by lookup: with different names
    -- both meet the same document.
    refine checkMember_eq_ok fun required shape known => ?_
    have fit := fits _ known
    rw [Row.Fits, (Entries.lookup_eq_some_iff_mem distinct member document).mpr inside] at fit
    exact fit
  · rw [missingField_eq_none fits]

theorem check_list {element : Shape} {elements : List Json}
    (fits : ∀ document ∈ elements, element.check document = .ok ()) :
    (list element).check (.list elements) = .ok () := by
  rw [check, Results.forM_eq_ok_iff]
  exact fits

theorem check_table {value : Shape} {row : Row}
    (fits : ∀ member ∈ row, value.check member.2 = .ok ()) :
    (table none value).check (.object row) = .ok () := by
  rw [check, Results.forM_eq_ok_iff]
  exact fits

theorem check_listedTable {names : List String} {value : Shape} {row : Row}
    (known : ∀ member ∈ row, member.1 ∈ names)
    (fits : ∀ member ∈ row, value.check member.2 = .ok ()) :
    (table (some names) value).check (.object row) = .ok () := by
  rw [check, Results.forM_eq_ok_iff]
  rintro ⟨name, document⟩ inside
  dsimp only
  rw [if_pos (known (name, document) inside)]
  exact fits (name, document) inside

end Shape

/-- An object reads as what the lookups of its members build, when every field fits. -/
theorem RecordType.readsAs {type : RecordType} {build : Row → Except DecodeError α} {row : Row}
    {value : α} (distinct : (row.map Prod.fst).Nodup) (fits : ∀ field ∈ type.fields, row.Fits field)
    (builds : build row = .ok value) :
    (Json.object row).ReadsAs type.shape (type.decode build) value := by
  have accepted : type.shape.check (.object row) = .ok () := Shape.check_record distinct fits
  exact ⟨accepted, (Results.bind_eq_ok_iff ..).mpr ⟨(), accepted, builds⟩⟩

namespace Json

theorem readsAs_text (value : String) : (text value).ReadsAs (.text .any) asText value :=
  ⟨by rw [Shape.check, TextForm.check], rfl⟩

theorem readsAs_bool (value : Bool) : (bool value).ReadsAs .bool asBool value :=
  ⟨by rw [Shape.check], rfl⟩

theorem ReadsAs.optional {document : Json} {shape : Shape} {read : Json → Except DecodeError α}
    {value : α} (readsAs : document.ReadsAs shape read value) (full : document ≠ .null) :
    document.ReadsAs (.optional shape) (asOption read) (some value) where
  fits := by
    rw [Shape.check]
    · exact readsAs.fits
    · exact full
  reads := by
    rw [asOption]
    · rw [readsAs.reads]
      rfl
    · exact full

theorem ReadsAs.list {shape : Shape} {read : Json → Except DecodeError α} {elements : List Json}
    {values : List α}
    (all : List.Forall₂ (fun document value => document.ReadsAs shape read value) elements values) :
    (Json.list elements).ReadsAs (.list shape) (asList read) values where
  fits := by
    refine Shape.check_list ?_
    induction all with
    | nil => exact List.forall_mem_nil _
    | cons here _ later => exact List.forall_mem_cons.mpr ⟨here.fits, later⟩
  reads := Results.mapM_eq_ok (all.imp fun _ _ readsAs => readsAs.reads)

theorem asMembers_map {read : Json → Except DecodeError α} {write : α → Json}
    {entries : List (String × α)} (reads : ∀ entry ∈ entries, read (write entry.2) = .ok entry.2) :
    asMembers read (object (entries.map fun (name, value) => (name, write value))) = .ok entries := by
  refine Results.mapM_map_eq_ok fun entry member => ?_
  dsimp only
  rw [reads entry member]
  rfl

end Json

end Authorization
