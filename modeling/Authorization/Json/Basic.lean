import Std.Data.ExtTreeMap
import Authorization.Decimal.Format
import Authorization.Text.Quoted

/-! JSON values. Whole numbers and double-precision numbers are different values, and the members
of an object keep the order in which they are to be written; reading puts them in the order of
their names. -/

set_option autoImplicit false

namespace Authorization

open Decimal (Binary64)

inductive Json where
  | null
  | bool (value : Bool)
  | integer (value : Int)
  | float (value : Binary64)
  | text (value : String)
  | list (elements : List Json)
  | object (members : List (String × Json))
  deriving Repr, Inhabited

namespace Json

def member? (name : String) : Json → Option Json
  | object members => members.lookup name
  | _ => none

def describe : Json → String
  | null => "null"
  | bool value => "boolean `" ++ toString value ++ "`"
  | integer value => "integer `" ++ toString value ++ "`"
  | float value => "floating point `" ++ Decimal.pointedFormat.text value ++ "`"
  | text value => "string " ++ Text.quoted value
  | list _ => "sequence"
  | object _ => "map"

def insertMember {α : Type} (name : String) (value : α) : List (String × α) → List (String × α)
  | [] => [(name, value)]
  | (other, kept) :: rest =>
    match compare name other with
    | .lt => (name, value) :: (other, kept) :: rest
    | .eq => (name, value) :: rest
    | .gt => (other, kept) :: insertMember name value rest

/-- The members ordered by name; of several with one name the last counts. -/
def orderMembers {α : Type} (members : List (String × α)) : List (String × α) :=
  members.foldl (fun ordered (name, value) => insertMember name value ordered) []

mutual

def ordered : Json → Json
  | list elements => list (orderedElements elements)
  | object members => object (orderMembers (orderedMembers members))
  | value => value

def orderedElements : List Json → List Json
  | [] => []
  | element :: rest => element.ordered :: orderedElements rest

def orderedMembers : List (String × Json) → List (String × Json)
  | [] => []
  | (name, value) :: rest => (name, value.ordered) :: orderedMembers rest

end

mutual

def agrees : Json → Json → Bool
  | null, null => true
  | bool x, bool y => x == y
  | integer x, integer y => x == y
  | float x, float y => x.agrees y
  | text x, text y => x == y
  | list xs, list ys => elementsAgree xs ys
  | object xs, object ys => membersAgree xs ys
  | _, _ => false

def elementsAgree : List Json → List Json → Bool
  | [], [] => true
  | x :: xs, y :: ys => x.agrees y && elementsAgree xs ys
  | _, _ => false

def membersAgree : List (String × Json) → List (String × Json) → Bool
  | [], [] => true
  | (name, x) :: xs, (other, y) :: ys => name == other && x.agrees y && membersAgree xs ys
  | _, _ => false

end

end Json

/-! ## Texts

There are no blanks, and only the escapes that the format demands. -/

namespace Json

def hexDigit (n : Nat) : Char := Nat.digitChar (n % 16)

def escapedChar (c : Char) : List Char :=
  match c with
  | '"' => ['\\', '"']
  | '\\' => ['\\', '\\']
  | '\x08' => ['\\', 'b']
  | '\x0C' => ['\\', 'f']
  | '\n' => ['\\', 'n']
  | '\r' => ['\\', 'r']
  | '\t' => ['\\', 't']
  | c =>
    if c.toNat < 0x20 then ['\\', 'u', '0', '0', hexDigit (c.toNat / 16), hexDigit c.toNat]
    else [c]

def quotedText (value : String) : String :=
  String.ofList ('"' :: value.toList.flatMap escapedChar ++ ['"'])

mutual

def printAfter (before : String) : Json → String
  | null => before ++ "null"
  | bool value => before ++ toString value
  | integer value => before ++ toString value
  | float value => before ++ Decimal.pointedFormat.text value
  | text value => before ++ quotedText value
  | list elements => printElements (before ++ "[") "" elements ++ "]"
  | object members => printMembers (before ++ "\x7b") "" members ++ "\x7d"

def printElements (before separator : String) : List Json → String
  | [] => before
  | element :: rest => printElements (element.printAfter (before ++ separator)) "," rest

def printMembers (before separator : String) : List (String × Json) → String
  | [] => before
  | (name, value) :: rest =>
    printMembers (value.printAfter (before ++ separator ++ quotedText name ++ ":")) "," rest

end

def print (document : Json) : String := document.printAfter ""

example : (object [("a", list [null, integer (-1)]), ("b", text "\n\x01")]).print =
    "\x7b\"a\":[null,-1],\"b\":\"\\n\\u0001\"\x7d" := by decide +kernel

end Json

end Authorization
