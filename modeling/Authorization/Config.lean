import Authorization.Json.Reader
import Authorization.Role
import Authorization.Text.LowerCase

/-! The access configuration: the role mapping, from settings in a JSON text or in environment
variables. -/

set_option autoImplicit false

namespace Authorization.Config

/-! ## Paths

A path leads to a setting, such as `roles.readonly_roles` or `lists[0]`. -/

inductive PathStep where
  | key (name : String)
  /-- A place in a list; a negative one counts from the end. -/
  | index (place : Int)
  deriving DecidableEq, Repr

structure Path where
  root : String
  steps : List PathStep
  deriving DecidableEq, Repr

namespace Path

def isKeyChar (c : Char) : Bool := c.isAlphanum || c == '_' || c == '-'

def isGap (c : Char) : Bool := c == ' ' || c == '\t'

def readKey? (chars : List Char) : Option String :=
  match chars.takeWhile isKeyChar with
  | [] => none
  | key => some (String.ofList key)

def readPlace? (chars : List Char) : Option Int := do
  let (negative, digits) :=
    match chars with
    | '-' :: rest => (true, rest)
    | rest => (false, rest)
  if digits.isEmpty || !digits.all Char.isDigit then none
  else
    let value : Int := digits.foldl (fun value c => 10 * value + (c.toNat - '0'.toNat)) 0
    let place := if negative then -value else value
    if IntegerRange.i64.holds place then some place else none

theorem length_lt_of_dropWhile {chars rest : List Char} {stops : Char → Bool} {c : Char}
    (found : chars.dropWhile stops = c :: rest) : rest.length < chars.length := by
  have shorter := (List.dropWhile_sublist (l := chars) stops).length_le
  rw [found, List.length_cons] at shorter
  exact shorter

def readSteps? (chars : List Char) : Option (List PathStep) :=
  match chars with
  | [] => some []
  | '.' :: rest => do
    let key ← readKey? rest
    have := (List.dropWhile_sublist (l := rest) isKeyChar).length_le
    let steps ← readSteps? (rest.dropWhile isKeyChar)
    return .key key :: steps
  | '[' :: rest => do
    let inside := (rest.takeWhile (· ≠ ']')).dropWhile isGap
    let place ← readPlace? (inside.reverse.dropWhile isGap).reverse
    match found : rest.dropWhile (· ≠ ']') with
    | [] => none
    | _ :: after =>
      have := length_lt_of_dropWhile found
      let steps ← readSteps? after
      return .index place :: steps
  | _ => none
termination_by chars.length

def ofText? (text : String) : Option Path := do
  let root ← readKey? text.toList
  let steps ← readSteps? (text.toList.dropWhile isKeyChar)
  return ⟨root, steps⟩

/-- The path that a text writes; any other text is a key as it stands. -/
def ofText (text : String) : Path := (ofText? text).getD ⟨text, []⟩

example : ofText "roles.lists[ -1 ]" = ⟨"roles", [.key "lists", .index (-1)]⟩ := by decide +kernel

example : ofText "roles." = ⟨"roles.", []⟩ := by decide +kernel

end Path

/-! ## Settings

The places of a document are set through paths. Objects are merged member by member, and any other
value replaces what it meets. -/

def membersOf : Json → List (String × Json)
  | .object members => members
  | _ => []

def elementsOf : Json → List Json
  | .list elements => elements
  | _ => []

mutual

def merge (old : Json) : Json → Json
  | .object members => .object (mergeMembers (membersOf old) members)
  | value => value

def mergeMembers (old : List (String × Json)) : List (String × Json) → List (String × Json)
  | [] => old
  | (name, value) :: rest =>
    mergeMembers (Json.insertMember name (merge ((old.lookup name).getD .null) value) old) rest

end

/-- Lengthens a list, at its end or at its front, until it has the place, which is then counted
from the front. -/
def reach (elements : List Json) (place : Int) : List Json × Nat :=
  let fromFront := if place < 0 then elements.length + place else place
  if fromFront < 0 then (List.replicate fromFront.natAbs .null ++ elements, 0)
  else
    (elements ++ List.replicate (fromFront.toNat + 1 - elements.length) .null, fromFront.toNat)

def changeAt (change : Json → Json) : List PathStep → Json → Json
  | [], old => change old
  | .key name :: rest, old =>
    let members := membersOf old
    .object (Json.insertMember name (changeAt change rest ((members.lookup name).getD .null)) members)
  | .index place :: rest, old =>
    let (elements, place) := reach (elementsOf old) place
    .list (elements.modify place (changeAt change rest))

def set (settings : Json) (text : String) (value : Json) : Json :=
  let path := Path.ofText text
  changeAt (fun old => merge old value) (.key path.root :: path.steps) settings

def ofList (values : List (String × Json)) : Json :=
  values.foldl (fun settings (text, value) => set settings text value) (.object [])

/-! ## Variables

The name of a variable, in lower case and after its mark, is a path in which two low lines stand for
a point. -/

def variableMark : String := "tollgate_"

def pointed : List Char → List Char
  | '_' :: '_' :: rest => '.' :: pointed rest
  | c :: rest => c :: pointed rest
  | [] => []

def variablePath? (name : String) : Option String :=
  let chars := Text.lowerChars [] name.toList
  let mark := variableMark.toList
  if mark.isPrefixOf chars then some (String.ofList (pointed (chars.drop mark.length))) else none

/-- The value of a variable: a truth value, a whole number of 64 bits, a number, or else the text
itself. -/
def variableValue (text : String) : Json :=
  match Text.lowercase text with
  | "true" => .bool true
  | "false" => .bool false
  | _ =>
    match Decimal.readInteger? text.toList with
    | some value =>
      if IntegerRange.i64.holds value then .integer value
      else ((Decimal.readNumber? text).map .float).getD (.text text)
    | none => ((Decimal.readNumber? text).map .float).getD (.text text)

/-- The settings of some variables. Of several with one path the last counts. -/
def ofVariables (given : List (String × String)) : Json :=
  let paths := given.filterMap fun (name, value) =>
    (variablePath? name).map fun path => (path, variableValue value)
  ofList (Json.orderMembers paths)

example : variablePath? "TOLLGATE_ROLES__SUPER_ROLES" = some "roles.super_roles" := by
  decide +kernel

/-! ## Role mappings -/

inductive ConfigFault where
  | unreadable (message : String)
  | rootNotMap (found : Json)
  | listNotText (found : Json) (path : String)
  | rolesNotMapping (found : Json)

/-- A found value as it is named in messages. Numbers show a point if they are not whole. -/
def describe : Json → String
  | .null => "unit value"
  | .float value => "floating point `" ++ (Decimal.Format.mk none ".0").text value ++ "`"
  | found => found.describe

def describeRoot : Json → String
  | .integer value =>
    if IntegerRange.i64.holds value then "64-bit integer `" ++ toString value ++ "`"
    else "64-bit unsigned integer `" ++ toString value ++ "`"
  | .float value => "floating point `" ++ Decimal.plainFormat.text value ++ "`"
  | found => describe found

def ConfigFault.message : ConfigFault → String
  | unreadable message => message
  | rootNotMap found => "invalid type: " ++ describeRoot found ++ ", expected a map"
  | listNotText found path =>
    "invalid type: " ++ describe found ++ ", expected a string for key `" ++ path ++ "`"
  | rolesNotMapping found =>
    "invalid type: " ++ describe found ++ ", expected struct RoleMapping for key `roles`"

def settingText? : Json → Option String
  | .text value => some value
  | .bool value => some (toString value)
  | .integer value => some (toString value)
  | .float value => some (Decimal.plainFormat.text value)
  | _ => none

def roleList (found : Option Json) (path : String) : Except ConfigFault String :=
  match found with
  | none => .ok ""
  | some document =>
    match settingText? document with
    | some text => .ok text
    | none => .error (.listNotText document path)

/-- The mapping in the setting `roles`: an object of lists, or the lists in order. -/
def mappingOf : Json → Except ConfigFault RoleMapping
  | .object members => return {
      superRoles := ← roleList (members.lookup "super_roles") "roles.super_roles"
      readOnlyRoles := ← roleList (members.lookup "readonly_roles") "roles.readonly_roles"
      denyingRoles := ← roleList (members.lookup "denying_roles") "roles.denying_roles" }
  | .list elements => return {
      superRoles := ← roleList elements[0]? "roles[0]"
      readOnlyRoles := ← roleList elements[1]? "roles[1]"
      denyingRoles := ← roleList elements[2]? "roles[2]" }
  | found => .error (.rolesNotMapping found)

def ofSettings (settings : Json) : Except ConfigFault RoleMapping :=
  match settings.member? "roles" with
  | none => .ok .empty
  | some found => mappingOf found

def ofJsonText (text : String) : Except ConfigFault RoleMapping :=
  match Json.parse text with
  | .error fault => .error (.unreadable (fault.message text))
  | .ok (.object members) => ofSettings (ofList members)
  | .ok found => .error (.rootNotMap found)

def ofEnvironment (given : List (String × String)) : Except ConfigFault RoleMapping :=
  ofSettings (ofVariables given)

end Authorization.Config
