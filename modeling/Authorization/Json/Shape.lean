import Authorization.Json.Fault

/-! Shapes: what a place of a document may hold. A shape says which documents are accepted and, of
several faults in a refused one, which is reported. -/

set_option autoImplicit false

namespace Authorization

inductive TextForm where
  | any
  | identifier
  | instant
  deriving DecidableEq, Repr

def TextForm.expectation : TextForm → Expectation
  | any | identifier => .text
  | instant => .instant

mutual

inductive Shape where
  | any
  | bool
  | text (form : TextForm)
  | integer (range : IntegerRange)
  /-- One of several names, alone or as the only member of an object, with the value null. -/
  | choice (names : List String)
  | optional (inner : Shape)
  | list (element : Shape)
  /-- An object with members of one shape; the names are free if none are listed. -/
  | table (names : Option (List String)) (value : Shape)
  /-- An object with the given fields, or the list of their values in this order. -/
  | record (name : String) (fields : List Field)

inductive Field where
  | mk (name : String) (required : Bool) (shape : Shape)

end

namespace Field

def name : Field → String
  | mk name _ _ => name

def isRequired : Field → Bool
  | mk _ required _ => required

end Field

def TextForm.check (form : TextForm) (value : String) : Except DecodeError Unit :=
  match form with
  | any => .ok ()
  | identifier =>
    match (Id.ofDigits value : Except IdFault UserId) with
    | .ok _ => .ok ()
    | .error fault => .error (.identifier fault)
  | instant =>
    match Instant.ofText value with
    | .ok _ => .ok ()
    | .error fault => .error (.instant fault)

def checkChoice (names : List String) : Json → Except DecodeError Unit
  | .text name => if name ∈ names then .ok () else .error (.unknownVariant name names)
  | .object [(name, value)] =>
    if name ∉ names then .error (.unknownVariant name names)
    else match value with
      | .null => .ok ()
      | value => .error (.invalidType value .unit)
  | .object members => .error (.invalidValue (.object members) .singleMember)
  | found => .error (.invalidType found .variant)

namespace Shape

/-- The first required field whose place in a list lies beyond the list's end. -/
def missingPlace (place : Nat) : List Field → Option Nat
  | [] => none
  | field :: rest => if field.isRequired then some place else missingPlace (place + 1) rest

def missingField (members : List (String × Json)) (fields : List Field) : Option String :=
  (fields.find? fun field => field.isRequired && (members.lookup field.name).isNone).map Field.name

mutual

/-- Accepts a document or names the fault in it. Members are checked in the order in which the
document has them, and fields without a member after all of them. -/
def check (shape : Shape) (document : Json) : Except DecodeError Unit :=
  match shape, document with
  | any, _ => .ok ()
  | bool, .bool _ => .ok ()
  | bool, found => .error (.invalidType found .boolean)
  | text form, .text value => form.check value
  | text form, found => .error (.invalidType found form.expectation)
  | integer range, .integer value =>
    if range.holds value then .ok ()
    else .error (.invalidValue (.integer value) (.integer range.name))
  | integer range, found => .error (.invalidType found (.integer range.name))
  | choice names, document => checkChoice names document
  | optional _, .null => .ok ()
  | optional inner, document => inner.check document
  | list element, .list elements => elements.forM fun value => element.check value
  | list _, found => .error (.invalidType found .sequence)
  | table names value, .object members =>
    members.forM fun (name, document) =>
      match names with
      | none => value.check document
      | some names =>
        if name ∈ names then value.check document else .error (.unknownVariant name names)
  | table _ _, found => .error (.invalidType found .map)
  | record _ fields, .object members => do
    members.forM fun (name, document) => checkMember fields name document
    match missingField members fields with
    | some name => .error (.missingField name)
    | none => .ok ()
  | record name fields, .list elements =>
    checkPlaces name fields.length elements.length 0 fields elements
  | record name _, found => .error (.invalidType found (.record name))

/-- A member that no field is named for is accepted as it is. -/
def checkMember (fields : List Field) (name : String) (document : Json) : Except DecodeError Unit :=
  match fields with
  | [] => .ok ()
  | .mk fieldName _ shape :: rest =>
    if name = fieldName then shape.check document else checkMember rest name document

def checkPlaces (name : String) (count length place : Nat) (fields : List Field)
    (elements : List Json) : Except DecodeError Unit :=
  match fields, elements with
  | [], [] => .ok ()
  | [], _ :: _ => .error (.invalidLength length .fewerElements)
  | fields, [] =>
    match missingPlace place fields with
    | some place => .error (.invalidLength place (.recordOf name count))
    | none => .ok ()
  | .mk _ _ shape :: rest, element :: others => do
    shape.check element
    checkPlaces name count length (place + 1) rest others

end

end Shape

/-! ## Values and records

Documents hold scalars, lists, names of a vocabulary, and records whose fields are found by name in
an object or by place in a list. -/

namespace Json

variable {α : Type}

def asText : Json → Except DecodeError String
  | text value => .ok value
  | found => .error (.invalidType found .text)

def asBool : Json → Except DecodeError Bool
  | bool value => .ok value
  | found => .error (.invalidType found .boolean)

def asInteger (range : IntegerRange) : Json → Except DecodeError Int
  | integer value =>
    if range.holds value then .ok value
    else .error (.invalidValue (.integer value) (.integer range.name))
  | found => .error (.invalidType found (.integer range.name))

def asList (read : Json → Except DecodeError α) : Json → Except DecodeError (List α)
  | list elements => elements.mapM read
  | found => .error (.invalidType found .sequence)

def asMembers (read : Json → Except DecodeError α) : Json → Except DecodeError (List (String × α))
  | object members => members.mapM fun (name, value) => return (name, ← read value)
  | found => .error (.invalidType found .map)

def asOption (read : Json → Except DecodeError α) : Json → Except DecodeError (Option α)
  | null => .ok none
  | value => some <$> read value

def asId {kind : IdKind} (document : Json) : Except DecodeError (Id kind) := do
  match Id.ofDigits (← document.asText) with
  | .ok id => return id
  | .error fault => throw (.identifier fault)

def asInstant : Json → Except DecodeError Instant
  | text value =>
    match Instant.ofText value with
    | .ok instant => .ok instant
    | .error fault => .error (.instant fault)
  | found => .error (.invalidType found .instant)

def optionalMember (name : String) : Option String → List (String × Json)
  | some value => [(name, text value)]
  | none => []

end Json

structure Vocabulary (α : Type) where
  all : List α
  name : α → String

namespace Vocabulary

variable {α : Type}

def names (vocabulary : Vocabulary α) : List String := vocabulary.all.map vocabulary.name

def ofName? (vocabulary : Vocabulary α) (name : String) : Option α :=
  vocabulary.all.find? (vocabulary.name · == name)

def shape (vocabulary : Vocabulary α) : Shape := .choice vocabulary.names

def toJson (vocabulary : Vocabulary α) (value : α) : Json := .text (vocabulary.name value)

def ofJson (vocabulary : Vocabulary α) (document : Json) : Except DecodeError α := do
  checkChoice vocabulary.names document
  let name :=
    match document with
    | .object [(name, _)] => name
    | .text name => name
    | _ => ""
  match vocabulary.ofName? name with
  | some value => return value
  | none => throw (.unknownVariant name vocabulary.names)

end Vocabulary

structure RecordType where
  name : String
  fields : List Field

abbrev Row := List (String × Json)

namespace RecordType

variable {α : Type}

def shape (type : RecordType) : Shape := .record type.name type.fields

/-- The members of a record; in list form they are named by their places. -/
def row (type : RecordType) : Json → Row
  | .object members => members
  | .list elements => (type.fields.map Field.name).zip elements
  | _ => []

def decode (type : RecordType) (build : Row → Except DecodeError α) (document : Json) :
    Except DecodeError α := do
  type.shape.check document
  build (type.row document)

end RecordType

namespace Row

variable {α : Type}

def required (row : Row) (name : String) (read : Json → Except DecodeError α) :
    Except DecodeError α :=
  match row.lookup name with
  | some document => read document
  | none => .error (.missingField name)

def withDefault (row : Row) (name : String) (value : α) (read : Json → Except DecodeError α) :
    Except DecodeError α :=
  match row.lookup name with
  | some document => read document
  | none => .ok value

def optionalText (row : Row) (name : String) : Except DecodeError (Option String) :=
  row.withDefault name none (Json.asOption Json.asText)

end Row

end Authorization
