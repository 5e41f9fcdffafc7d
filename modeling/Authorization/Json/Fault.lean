import Authorization.Identifier
import Authorization.Instant
import Authorization.Json.Basic

/-! Why a document is not the written form of a value, and why a text is not one of JSON. -/

set_option autoImplicit false

namespace Authorization

inductive Expectation where
  | text
  | boolean
  | integer (range : String)
  | sequence
  | map
  | unit
  | instant
  | variant
  | singleMember
  | record (name : String)
  | recordOf (name : String) (count : Nat)
  | fewerElements
  deriving DecidableEq, Repr

def Expectation.message : Expectation → String
  | text => "a string"
  | boolean => "a boolean"
  | integer range => range
  | sequence => "a sequence"
  | map => "a map"
  | unit => "unit"
  | instant => "an RFC 3339 formatted date and time string"
  | variant => "string or map"
  | singleMember => "map with a single key"
  | record name => "struct " ++ name
  | recordOf name count => "struct " ++ name ++ " with " ++ toString count ++ " elements"
  | fewerElements => "fewer elements in array"

inductive DecodeError where
  | invalidType (found : Json) (expected : Expectation)
  | invalidValue (found : Json) (expected : Expectation)
  | invalidLength (length : Nat) (expected : Expectation)
  | unknownVariant (name : String) (choices : List String)
  | missingField (name : String)
  | duplicateField (name : String)
  | identifier (fault : IdFault)
  | instant (fault : InstantFault)
  deriving Repr

def markedName (name : String) : String := "`" ++ name ++ "`"

def DecodeError.message : DecodeError → String
  | invalidType found expected =>
    "invalid type: " ++ found.describe ++ ", expected " ++ expected.message
  | invalidValue found expected =>
    "invalid value: " ++ found.describe ++ ", expected " ++ expected.message
  | invalidLength length expected =>
    "invalid length " ++ toString length ++ ", expected " ++ expected.message
  | unknownVariant name choices =>
    "unknown variant " ++ markedName name ++ ", expected one of " ++
      ", ".intercalate (choices.map markedName)
  | missingField name => "missing field " ++ markedName name
  | duplicateField name => "duplicate field " ++ markedName name
  | identifier fault => fault.message
  | instant fault => fault.message

/-! ## Faults in a text

A fault is known with the place where it is noticed. -/

namespace Json

inductive FaultCause where
  | endInValue
  | endInList
  | endInObject
  | endInText
  | expectedColon
  | expectedElementEnd
  | expectedMemberEnd
  | expectedWord
  | expectedValue
  | invalidEscape
  | invalidNumber
  | numberOutOfRange
  | controlCharacter
  | keyMustBeText
  | loneSurrogate
  | brokenSurrogatePair
  | trailingComma
  | trailingCharacters
  | tooDeep
  | decode (error : DecodeError)
  | refused (reason : String)
  deriving Repr

inductive FaultCategory where
  | syntaxFault
  | data
  | endOfText
  deriving DecidableEq, Repr

namespace FaultCause

def category : FaultCause → FaultCategory
  | endInValue | endInList | endInObject | endInText => .endOfText
  | decode _ | refused _ => .data
  | _ => .syntaxFault

def message : FaultCause → String
  | endInValue => "EOF while parsing a value"
  | endInList => "EOF while parsing a list"
  | endInObject => "EOF while parsing an object"
  | endInText => "EOF while parsing a string"
  | expectedColon => "expected `:`"
  | expectedElementEnd => "expected `,` or `]`"
  | expectedMemberEnd => "expected `,` or `\x7d`"
  | expectedWord => "expected ident"
  | expectedValue => "expected value"
  | invalidEscape => "invalid escape"
  | invalidNumber => "invalid number"
  | numberOutOfRange => "number out of range"
  | controlCharacter => "control character (\\u0000-\\u001F) found while parsing a string"
  | keyMustBeText => "key must be a string"
  | loneSurrogate => "lone leading surrogate in hex escape"
  | brokenSurrogatePair => "unexpected end of hex escape"
  | trailingComma => "trailing comma"
  | trailingCharacters => "trailing characters"
  | tooDeep => "recursion limit exceeded"
  | decode error => error.message
  | refused reason => reason

end FaultCause

/-- A fault, and how many bytes of the text lie after its place. -/
structure Fault where
  cause : FaultCause
  bytesLeft : Nat
  deriving Repr

namespace Fault

def byteCount (chars : List Char) : Nat := chars.foldl (fun count c => count + c.utf8Size) 0

def before (cause : FaultCause) (rest : List Char) : Fault := ⟨cause, byteCount rest⟩

def showing (cause : FaultCause) (rest : List Char) : Fault := ⟨cause, byteCount rest - 1⟩

def position (fault : Fault) (text : String) : Nat × Nat :=
  let bytes := text.toUTF8.toList
  let passed := bytes.take (bytes.length - fault.bytesLeft)
  (1 + passed.count 10, (passed.reverse.takeWhile (· != 10)).length)

def message (fault : Fault) (text : String) : String :=
  let (line, column) := fault.position text
  fault.cause.message ++ " at line " ++ toString line ++ " column " ++ toString column

end Fault

end Json

end Authorization
