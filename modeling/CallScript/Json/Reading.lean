import CallScript.Number.Reading
import CallScript.Value

/-! JSON texts read into values. Numbers with a fraction or an exponent are floating-point; the words
`NaN`, `Infinity` and `-Infinity` are numbers too. Of several members with one name the last counts, in
the place of the first. A text that cannot be read is faulted at the first place from which no way of
reading it goes on. -/
namespace CallScript.Json

inductive Defect where
  | place (n : Nat)
  | tooManyDigits
  deriving DecidableEq, Repr

structure Cursor where
  rest : List Char
  place : Nat

def Cursor.skip (c : Cursor) (n : Nat) : Cursor :=
  ⟨c.rest.drop n, c.place + n⟩

def isSpace (c : Char) : Bool :=
  c == ' ' || c == '\t' || c == '\n' || c == '\r'

def Cursor.skipSpace (c : Cursor) : Cursor :=
  c.skip (c.rest.takeWhile isSpace).length

def hexDigit? (c : Char) : Option Nat :=
  if c.isDigit then some (c.toNat - 48)
  else if 'a' ≤ c && c ≤ 'f' then some (c.toNat - 87)
  else if 'A' ≤ c && c ≤ 'F' then some (c.toNat - 55)
  else none

def fourHexDigits? : List Char → Option Nat
  | a :: b :: c :: d :: _ => do
      return (((← hexDigit? a) * 16 + (← hexDigit? b)) * 16 + (← hexDigit? c)) * 16 + (← hexDigit? d)
  | _ => none

def isHighSurrogate (code : Nat) : Bool := 0xD800 ≤ code && code < 0xDC00

def isLowSurrogate (code : Nat) : Bool := 0xDC00 ≤ code && code < 0xE000

/-- A character by its code; half of a pair that stands alone is none. -/
def characterOf (code : Nat) : Char :=
  if isHighSurrogate code || isLowSurrogate code then '\ufffd' else Char.ofNat code

def pairCode (high low : Nat) : Nat :=
  0x10000 + (high - 0xD800) * 0x400 + (low - 0xDC00)

def secondHalf (place : Nat) (rest : List Char) : Except Defect (Option Nat) :=
  match rest with
  | '\\' :: 'u' :: digits =>
      if digits.length < 5 then .ok none
      else
        match fourHexDigits? digits with
        | none => .error (.place (place + 1))
        | some code => .ok (some code)
  | _ => .ok none

def codedCharacter (place : Nat) (rest : List Char) : Except Defect (Char × Nat) :=
  if rest.length < 5 then .error (.place place)
  else
    match fourHexDigits? rest with
    | none => .error (.place place)
    | some code =>
        if isHighSurrogate code then
          match secondHalf (place + 5) (rest.drop 4) with
          | .error defect => .error defect
          | .ok (some low) =>
              if isLowSurrogate low then .ok (Char.ofNat (pairCode code low), 10) else .ok (characterOf code, 4)
          | .ok none => .ok (characterOf code, 4)
        else .ok (characterOf code, 4)

def escapedCharacter? (c : Char) : Option Char :=
  match c with
  | '"' | '\\' | '/' => some c
  | 'b' => some '\x08'
  | 'f' => some '\x0c'
  | 'n' => some '\n'
  | 'r' => some '\r'
  | 't' => some '\t'
  | _ => none

def readText (opening place : Nat) : List Char → Except Defect (List Char × Cursor)
  | [] => .error (.place opening)
  | ['\\'] => .error (.place opening)
  | '\\' :: 'u' :: rest =>
      match codedCharacter (place + 1) rest with
      | .error defect => .error defect
      | .ok (c, width) => do
          let (text, cursor) ← readText opening (place + 2 + width) (rest.drop width)
          return (c :: text, cursor)
  | '\\' :: c :: rest =>
      match escapedCharacter? c with
      | none => .error (.place place)
      | some found => do
          let (text, cursor) ← readText opening (place + 2) rest
          return (found :: text, cursor)
  | c :: rest =>
      if c == '"' then .ok ([], ⟨rest, place + 1⟩)
      else if c.toNat < 32 then .error (.place place)
      else do
        let (text, cursor) ← readText opening (place + 1) rest
        return (c :: text, cursor)
termination_by cs => cs.length
decreasing_by
  all_goals simp only [List.length_drop, List.length_cons]; omega

structure NumberParts where
  negative : Bool
  whole : List Char
  fraction : List Char
  exponent : List Char

def wholePart : List Char → List Char
  | '0' :: _ => ['0']
  | cs => cs.takeWhile Char.isDigit

def fractionPart : List Char → List Char
  | '.' :: rest =>
      let digits := rest.takeWhile Char.isDigit
      if digits.isEmpty then [] else '.' :: digits
  | _ => []

def exponentPart : List Char → List Char
  | e :: rest =>
      if e == 'e' || e == 'E' then
        let sign := match rest with
          | s :: _ => if s == '-' || s == '+' then [s] else []
          | [] => []
        let digits := (rest.drop sign.length).takeWhile Char.isDigit
        if digits.isEmpty then [] else e :: (sign ++ digits)
      else []
  | [] => []

def numberParts? (cs : List Char) : Option NumberParts :=
  let negative := cs.head? == some '-'
  let rest := if negative then cs.drop 1 else cs
  let whole := wholePart rest
  if whole.isEmpty then none
  else
    let rest := rest.drop whole.length
    let fraction := fractionPart rest
    some ⟨negative, whole, fraction, exponentPart (rest.drop fraction.length)⟩

def NumberParts.width (n : NumberParts) : Nat :=
  (if n.negative then 1 else 0) + n.whole.length + n.fraction.length + n.exponent.length

def NumberParts.value (n : NumberParts) : Except Defect Value :=
  if n.fraction.isEmpty && n.exponent.isEmpty then
    if Number.integerDigitLimit < n.whole.length then .error .tooManyDigits
    else
      let size := Int.ofNat (Number.digitsValue n.whole)
      .ok (.int (if n.negative then -size else size))
  else
    match Number.readDecimal? n.negative (n.whole ++ n.fraction ++ n.exponent) with
    | some x => .ok (.float x)
    | none => .error .tooManyDigits

def words : List (String × Value) := [
  ("null", .null), ("true", .bool true), ("false", .bool false),
  ("NaN", .float Number.undefinedFloat),
  ("Infinity", .float (Number.infinity false)), ("-Infinity", .float (Number.infinity true))]

def wordAt? (cs : List Char) : Option (String × Value) :=
  words.find? (fun word => word.1.toList.isPrefixOf cs)

def readScalar (c : Cursor) : Except Defect (Value × Cursor) :=
  match wordAt? c.rest with
  | some (word, v) => .ok (v, c.skip word.length)
  | none =>
      match numberParts? c.rest with
      | none => .error (.place c.place)
      | some n => do return (← n.value, c.skip n.width)

def Cursor.expect (c : Cursor) (wanted : Char) : Except Defect Cursor :=
  if c.rest.head? == some wanted then .ok (c.skip 1) else .error (.place c.place)

def putMember (members : List (Value × Value)) (name : String) (v : Value) : List (Value × Value) :=
  match members with
  | [] => [(.text name, v)]
  | (.text other, w) :: rest =>
      if other = name then (.text name, v) :: rest else (.text other, w) :: putMember rest name v
  | member :: rest => member :: putMember rest name v

mutual

/-- Reads a value. The bound is on the number of values, items and members; the length of the text will
do. -/
def readValue (bound : Nat) (c : Cursor) : Except Defect (Value × Cursor) :=
  match bound with
  | 0 => .error (.place c.place)
  | bound + 1 =>
      match c.rest with
      | '"' :: rest => do
          let (text, c) ← readText c.place (c.place + 1) rest
          return (.text (String.ofList text), c)
      | '[' :: _ =>
          let c := (c.skip 1).skipSpace
          if c.rest.head? == some ']' then .ok (.list [], c.skip 1)
          else do
            let (items, c) ← readItems bound c
            return (.list items, c)
      | '\x7b' :: _ =>
          let c := (c.skip 1).skipSpace
          if c.rest.head? == some '\x7d' then .ok (.dict [], c.skip 1)
          else do
            let (members, c) ← readMembers bound [] c
            return (.dict members, c)
      | _ => readScalar c

def readItems (bound : Nat) (c : Cursor) : Except Defect (List Value × Cursor) :=
  match bound with
  | 0 => .error (.place c.place)
  | bound + 1 => do
      let (v, c) ← readValue bound c
      let c := c.skipSpace
      if c.rest.head? == some ']' then return ([v], c.skip 1)
      let (more, c) ← readItems bound (← c.expect ',').skipSpace
      return (v :: more, c)

def readMembers (bound : Nat) (members : List (Value × Value)) (c : Cursor) : Except Defect (List (Value × Value) × Cursor) :=
  match bound with
  | 0 => .error (.place c.place)
  | bound + 1 => do
      let opening ← c.expect '"'
      let (name, c) ← readText c.place opening.place opening.rest
      let c ← c.skipSpace.expect ':'
      let (v, c) ← readValue bound c.skipSpace
      let members := putMember members (String.ofList name) v
      let c := c.skipSpace
      if c.rest.head? == some '\x7d' then return (members, c.skip 1)
      readMembers bound members (← c.expect ',').skipSpace

end

def read (s : String) : Except Defect Value := do
  let cs := s.toList
  let (v, c) ← readValue (2 * cs.length + 2) (Cursor.skipSpace ⟨cs, 0⟩)
  let c := c.skipSpace
  if c.rest.isEmpty then return v else .error (.place c.place)

end CallScript.Json
