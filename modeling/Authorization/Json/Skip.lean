import Authorization.Json.Scan

/-! Passing over a JSON value whose content does not matter. Its form is checked, but not its depth,
the range of its numbers or the pairing of its escapes. -/

set_option autoImplicit false

namespace Authorization.Json

inductive Bracket where
  | list
  | object
  deriving DecidableEq

namespace Bracket

def closing : Bracket → Char
  | list => ']'
  | object => '\x7d'

def endFault : Bracket → FaultCause
  | list => .endInList
  | object => .endInObject

def separatorFault : Bracket → FaultCause
  | list => .expectedElementEnd
  | object => .expectedMemberEnd

end Bracket

def passColon : Reader Unit := fun text =>
  match found : skipBlanks text with
  | [] => .error (.showing .endInObject [])
  | c :: rest =>
    if c = ':' then
      .ok ⟨(), rest, rest_shorter found⟩
    else .error (.showing .expectedColon (c :: rest))

def passName (bracket : Bracket) (text : List Char) : Except Fault (Kept text Unit) :=
  match bracket with
  | .list => .ok (.whole ())
  | .object =>
    match found : skipBlanks text with
    | [] => .error (.showing .endInObject [])
    | c :: rest =>
      if c = '"' then do
        let name ← passText rest
        let colon ← passColon name.rest
        return ⟨(), colon.rest, Nat.le_of_lt
          (Nat.lt_trans (Nat.lt_trans colon.shorter name.shorter) (rest_shorter found))⟩
      else .error (.showing .keyMustBeText (c :: rest))

theorem twice_lt {m n : Nat} (less : m < n) : 2 * m < 2 * n :=
  Nat.mul_lt_mul_of_pos_left less Nat.two_pos

theorem twice_succ_lt {m n : Nat} (less : m < n) : 2 * m + 1 < 2 * n := by omega

theorem twice_lt_succ {m n : Nat} (bound : m ≤ n) : 2 * m < 2 * n + 1 :=
  Nat.lt_succ_of_le (Nat.mul_le_mul_left 2 bound)

mutual

/-- Passes a value and then what closes the brackets around it. -/
def skipItem (brackets : List Bracket) (text : List Char) : Except Fault (Taken text Unit) :=
  match found : skipBlanks text with
  | [] => .error (.showing .endInValue [])
  | c :: rest => do
    have consumed := rest_shorter found
    if c = '[' then
      return (← skipFirst .list brackets rest).widen (Nat.le_of_lt consumed)
    else if c = '\x7b' then
      return (← skipFirst .object brackets rest).widen (Nat.le_of_lt consumed)
    else
      let scalar ← passScalar (c :: rest)
      have shorter : scalar.rest.length < text.length :=
        Nat.lt_of_lt_of_le scalar.shorter (found ▸ length_skipBlanks_le text)
      let kept ← skipNext brackets scalar.rest
      return ⟨(), kept.rest, Nat.lt_of_le_of_lt kept.notLonger shorter⟩
termination_by 2 * text.length
decreasing_by
  · exact twice_succ_lt consumed
  · exact twice_succ_lt consumed
  · exact twice_lt shorter

def skipFirst (bracket : Bracket) (brackets : List Bracket) (text : List Char) :
    Except Fault (Taken text Unit) :=
  match found : skipBlanks text with
  | [] => .error (.showing bracket.endFault [])
  | c :: rest => do
    have consumed := rest_shorter found
    if c = bracket.closing then
      let kept ← skipNext brackets rest
      return ⟨(), kept.rest, Nat.lt_of_le_of_lt kept.notLonger consumed⟩
    else
      let name ← passName bracket text
      let item ← skipItem (bracket :: brackets) name.rest
      return item.widen name.notLonger
termination_by 2 * text.length + 1
decreasing_by
  · exact twice_lt_succ (Nat.le_of_lt consumed)
  · exact twice_lt_succ name.notLonger

def skipNext (brackets : List Bracket) (text : List Char) : Except Fault (Kept text Unit) :=
  match brackets with
  | [] => .ok (.whole ())
  | bracket :: outer =>
    match found : skipBlanks text with
    | [] => .error (.showing bracket.endFault [])
    | c :: rest => do
      have consumed := rest_shorter found
      if c = ',' then
        let name ← passName bracket rest
        let item ← skipItem (bracket :: outer) name.rest
        return ⟨(), item.rest,
          Nat.le_of_lt (Nat.lt_trans (Nat.lt_of_lt_of_le item.shorter name.notLonger) consumed)⟩
      else if c = bracket.closing then
        let kept ← skipNext outer rest
        return ⟨(), kept.rest, Nat.le_of_lt (Nat.lt_of_le_of_lt kept.notLonger consumed)⟩
      else throw (.showing bracket.separatorFault (c :: rest))
termination_by 2 * text.length
decreasing_by
  · exact twice_lt (Nat.lt_of_le_of_lt name.notLonger consumed)
  · exact twice_lt consumed

end

def skipValue : Reader Unit := skipItem []

end Authorization.Json
