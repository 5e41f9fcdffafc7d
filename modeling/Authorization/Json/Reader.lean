import Authorization.Json.Shape
import Authorization.Json.Skip

/-! Reading a text as JSON, as a whole or in a given shape. The text is read from left to right and
the first fault decides, be it of form or of content. Objects come out with their members ordered
by name. -/

set_option autoImplicit false

namespace Authorization

namespace Json

def depthLimit : Nat := 127

namespace Reader

variable {α β : Type}

def map (f : α → β) (read : Reader α) : Reader β := fun text =>
  (read text).map fun taken => taken.map f

def afterBlanks (read : Reader α) : Reader α := fun text =>
  if (skipBlanks text).isEmpty then .error (.showing .endInValue [])
  else (read (skipBlanks text)).map fun taken => taken.widen (length_skipBlanks_le text)

def afterFirst (read : Reader α) : Reader α := fun text =>
  match text with
  | [] => .error (.showing .endInValue [])
  | _ :: rest => (read rest).map fun taken => taken.widen (Nat.le_succ _)

def byFirst (choose : Option Char → Reader α) : Reader α := fun text => choose text.head? text

def fail (cause : FaultCause) : Reader α := fun text => .error (.showing cause text)

def checking (read : Reader Json) (check : Json → Except DecodeError Unit) : Reader Json :=
  fun text => do
    let taken ← read text
    match check taken.value with
    | .ok () => return taken
    | .error fault => throw (.before (.decode fault) taken.rest)

end Reader

open Reader (afterBlanks afterFirst byFirst fail checking)

def readElements {α : Type} (element : Reader α) : Reader (List α) := fun text => do
  let first ← element text
  match found : skipBlanks first.rest with
  | [] => throw (.showing .endInList [])
  | ']' :: rest =>
    return ⟨[first.value], rest, Nat.lt_trans (rest_shorter found) first.shorter⟩
  | ',' :: rest =>
    have shorter := Nat.lt_trans (rest_shorter found) first.shorter
    match skipBlanks rest with
    | [] => throw (.showing .endInValue [])
    | ']' :: others => throw (.showing .trailingComma (']' :: others))
    | _ =>
      let others ← readElements element rest
      return (others.map (first.value :: ·)).widen (Nat.le_of_lt shorter)
  | rest => throw (.showing .expectedElementEnd rest)
termination_by text => text.length

def readList {α : Type} (element : Reader α) : Reader (List α) := fun text =>
  match found : skipBlanks text with
  | [] => .error (.showing .endInList [])
  | ']' :: rest =>
    .ok ⟨[], rest, rest_shorter found⟩
  | _ => readElements element text

/-- How the value of a member is read, given the members before it and its name; `none` for a
member that is passed over. -/
abbrev MemberReader := List (String × Json) → String → Except DecodeError (Option (Reader Json))

/-- A member after the opening mark of its name, put before the members already read. -/
def readMember (member : MemberReader) (before : List (String × Json)) :
    Reader (List (String × Json)) := fun text => do
  let name ← readText text
  match member before name.value with
  | .error fault => throw (.before (.decode fault) name.rest)
  | .ok reader =>
    let colon ← passColon name.rest
    have bound : colon.rest.length ≤ text.length :=
      Nat.le_of_lt (Nat.lt_trans colon.shorter name.shorter)
    match reader with
    | some read =>
      return ((← read colon.rest).map fun value => (name.value, value) :: before).widen bound
    | none => return ((← skipValue colon.rest).map fun _ => before).widen bound

def readMembers (member : MemberReader) (before : List (String × Json)) :
    Reader (List (String × Json)) := fun text => do
  let first ← readMember member before text
  match found : skipBlanks first.rest with
  | [] => throw (.showing .endInObject [])
  | '\x7d' :: rest =>
    return ⟨first.value, rest, Nat.lt_trans (rest_shorter found) first.shorter⟩
  | ',' :: rest =>
    have shorter := Nat.lt_trans (rest_shorter found) first.shorter
    match next : skipBlanks rest with
    | [] => throw (.showing .endInValue [])
    | '\x7d' :: others => throw (.showing .trailingComma ('\x7d' :: others))
    | '"' :: others =>
      have inner := Nat.lt_trans (rest_shorter next) shorter
      let rest ← readMembers member first.value others
      return rest.widen (Nat.le_of_lt inner)
    | others => throw (.showing .keyMustBeText others)
  | rest => throw (.showing .expectedMemberEnd rest)
termination_by text => text.length

def readObject (member : MemberReader) : Reader (List (String × Json)) := fun text =>
  match found : skipBlanks text with
  | [] => .error (.showing .endInObject [])
  | '\x7d' :: rest => .ok ⟨[], rest, rest_shorter found⟩
  | '"' :: rest => do
    let members ← readMembers member [] rest
    return (members.map List.reverse).widen (Nat.le_of_lt (rest_shorter found))
  | rest => .error (.showing .keyMustBeText rest)

def readAny : (depth : Nat) → Reader Json
  | 0 => afterBlanks <| byFirst fun
    | some '[' | some '\x7b' => fail .tooDeep
    | _ => readScalar
  | depth + 1 => afterBlanks <| byFirst fun
    | some '[' => afterFirst ((readList (readAny depth)).map .list)
    | some '\x7b' =>
      afterFirst ((readObject fun _ _ => .ok (some (readAny depth))).map (.object ∘ orderMembers))
    | _ => readScalar

/-- A value of the wrong kind: a scalar must be well formed for that to show. -/
def refuse (expected : Expectation) : Reader Json := byFirst fun
  | some '[' => fail (.decode (.invalidType (.list []) expected))
  | some '\x7b' => fail (.decode (.invalidType (.object []) expected))
  | _ => checking readScalar fun found => .error (.invalidType found expected)

def readFieldValues (first : Bool) (readers : List (Reader Json)) (text : List Char) :
    Except Fault (Kept text (List Json)) :=
  match readers with
  | [] => .ok (.whole [])
  | read :: others =>
    match found : skipBlanks text with
    | [] => .error (.showing .endInList [])
    | ']' :: _ => .ok (.whole [])
    | c :: rest =>
      if first then do
        let value ← read text
        let kept ← readFieldValues false others value.rest
        return ⟨value.value :: kept.value, kept.rest,
          Nat.le_trans kept.notLonger (Nat.le_of_lt value.shorter)⟩
      else if c = ',' then
        match skipBlanks rest with
        | [] => .error (.showing .endInValue [])
        | ']' :: after => .error (.showing .trailingComma (']' :: after))
        | _ => do
          let value ← read rest
          let kept ← readFieldValues false others value.rest
          return ⟨value.value :: kept.value, kept.rest, Nat.le_of_lt
            (Nat.lt_of_le_of_lt kept.notLonger (Nat.lt_trans value.shorter (rest_shorter found)))⟩
      else .error (.showing .expectedElementEnd (c :: rest))

/-- The end of a list whose last element is known to have been read. -/
def passListEnd : Reader Unit := fun text =>
  match found : skipBlanks text with
  | [] => .error (.showing .endInList [])
  | ']' :: rest => .ok ⟨(), rest, rest_shorter found⟩
  | ',' :: rest =>
    match skipBlanks rest with
    | ']' :: others => .error (.showing .trailingComma (']' :: others))
    | others => .error (.showing .trailingCharacters others)
  | rest => .error (.showing .trailingCharacters rest)

def readRecordList (name : String) (fields : List Field) (readers : List (Reader Json)) :
    Reader Json := fun text => do
  let values ← readFieldValues true readers text
  let count := values.value.length
  match Shape.missingPlace count (fields.drop count) with
  | some place =>
    throw (.before (.decode (.invalidLength place (.recordOf name fields.length))) values.rest)
  | none =>
    let ended ← passListEnd values.rest
    return (ended.map fun _ => .list values.value).widen values.notLonger

/-- A record written as an object, after its opening bracket. A field may not be given twice, and
other members are passed over. -/
def readRecordObject (fields : List Field) (reader? : String → Option (Reader Json)) :
    Reader Json :=
  let member : MemberReader := fun before name =>
    match reader? name with
    | none => .ok none
    | some reader =>
      if (before.lookup name).isSome then .error (.duplicateField name) else .ok (some reader)
  checking ((readObject member).map (.object ∘ orderMembers)) fun found =>
    match found with
    | .object members =>
      match Shape.missingField members fields with
      | some name => .error (.missingField name)
      | none => .ok ()
    | _ => .ok ()

def readChoiceObject (names : List String) : Reader Json := fun text => do
  let name ← afterBlanks (byFirst fun
    | some '"' => checking readScalar (checkChoice names)
    | _ => refuse .text) text
  let colon ← passColon name.rest
  let value ← afterBlanks (byFirst fun
    | some 'n' => readScalar
    | _ => refuse .unit) colon.rest
  match found : skipBlanks value.rest with
  | [] => throw (.showing .endInObject [])
  | c :: rest =>
    if c ≠ '\x7d' then throw (.before .expectedValue (c :: rest))
    return ⟨name.value, rest, Nat.lt_trans (rest_shorter found)
      (Nat.lt_trans value.shorter (Nat.lt_trans colon.shorter name.shorter))⟩

end Json

namespace Shape

open Json (Reader readScalar readAny refuse)
open Json.Reader (afterBlanks afterFirst byFirst fail checking)

mutual

def reader (depth : Nat) (shape : Shape) : Reader Json :=
  match shape with
  | any => readAny depth
  | bool => afterBlanks <| byFirst fun
    | some 't' | some 'f' => readScalar
    | _ => refuse .boolean
  | text form => afterBlanks <| byFirst fun
    | some '"' => checking readScalar (Shape.text form).check
    | _ => refuse form.expectation
  | integer range => afterBlanks <| byFirst fun first =>
    if first.any fun c => c == '-' || c.isDigit then
      checking readScalar (Shape.integer range).check
    else refuse (.integer range.name)
  | choice names => afterBlanks <| byFirst fun
    | some '\x7b' => if depth = 0 then fail .tooDeep else afterFirst (Json.readChoiceObject names)
    | some '"' => checking readScalar (checkChoice names)
    | _ => fail .expectedValue
  | optional inner => afterBlanks <| byFirst fun
    | some 'n' => readScalar
    | _ => inner.reader depth
  | list element => afterBlanks <| byFirst fun
    | some '[' =>
      if depth = 0 then fail .tooDeep
      else afterFirst ((Json.readList (element.reader (depth - 1))).map .list)
    | _ => refuse .sequence
  | table names value => afterBlanks <| byFirst fun
    | some '\x7b' =>
      if depth = 0 then fail .tooDeep
      else
        let member : Json.MemberReader := fun _ name =>
          if names.all (name ∈ ·) then .ok (some (value.reader (depth - 1)))
          else .error (.unknownVariant name (names.getD []))
        afterFirst ((Json.readObject member).map (.object ∘ Json.orderMembers))
    | _ => refuse .map
  | record name fields => afterBlanks <| byFirst fun
    | some '[' =>
      if depth = 0 then fail .tooDeep
      else afterFirst (Json.readRecordList name fields (placeReaders (depth - 1) fields))
    | some '\x7b' =>
      if depth = 0 then fail .tooDeep
      else afterFirst (Json.readRecordObject fields (memberReader? (depth - 1) fields))
    | _ => refuse (.record name)

def placeReaders (depth : Nat) (fields : List Field) : List (Reader Json) :=
  match fields with
  | [] => []
  | .mk _ _ shape :: rest => shape.reader depth :: placeReaders depth rest

def memberReader? (depth : Nat) (fields : List Field) (name : String) : Option (Reader Json) :=
  match fields with
  | [] => none
  | .mk fieldName _ shape :: rest =>
    if name = fieldName then some (shape.reader depth) else memberReader? depth rest name

end

/-- Reads a whole text in the shape and makes a value of the document. Only then does the text have
to be at its end. -/
def parse {α : Type} (shape : Shape) (use : Json → Except Json.FaultCause α) (text : String) :
    Except Json.Fault α := do
  let taken ← shape.reader Json.depthLimit text.toList
  match use taken.value with
  | .error cause => throw (.before cause taken.rest)
  | .ok value =>
    let rest := Json.skipBlanks taken.rest
    if rest.isEmpty then return value else throw (.showing .trailingCharacters rest)

end Shape

def Json.parse (text : String) : Except Fault Json := Shape.any.parse .ok text

example : (Json.parse " [1, null] ").toOption.map (Json.agrees (.list [.integer 1, .null])) = some true := by
  decide +kernel

end Authorization
