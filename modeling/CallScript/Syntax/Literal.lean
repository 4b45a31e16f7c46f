import CallScript.Number.Reading
import CallScript.Syntax.Tree
import CallScript.Text.CharacterName

/-! What the literals of a script denote. A number without point and exponent is an integer, any other
the nearest floating-point number. A text is what stands between its quotes, with escapes resolved in
both styles of quotes; a backslash at the end of a line joins it to the next one. Half of a surrogate pair is no
character; where an escape asks for one, the null character stands in. -/
namespace CallScript.Syntax

def numberLiteral (spelling : String) : Except Fault Value :=
  if spelling.toList.all Text.isDigit then do return .int (← Number.readInteger spelling)
  else do return .float (← Number.readFloat spelling)

def plainLineEnds : List Char → List Char
  | [] => []
  | '\r' :: '\n' :: rest => '\n' :: plainLineEnds rest
  | '\r' :: rest => '\n' :: plainLineEnds rest
  | c :: rest => c :: plainLineEnds rest

/-- The number of lines of a quoted text, if its closing quote really closes it: every line end is
escaped, and the last character is not a lone backslash. -/
def linesWithin (line : Nat) : List Char → Except Fault Nat
  | [] => .ok line
  | ['\\'] => .error (.unterminatedLiteral line)
  | '\\' :: c :: rest => linesWithin (if c == '\n' then line + 1 else line) rest
  | c :: rest => if c == '\n' then .error (.unterminatedLiteral line) else linesWithin line rest

def hexValue? (c : Char) : Option Nat :=
  if c.isDigit then some (c.toNat - 48)
  else if 'a' ≤ c && c ≤ 'f' then some (c.toNat - 87)
  else if 'A' ≤ c && c ≤ 'F' then some (c.toNat - 55)
  else none

def isHexDigit (c : Char) : Bool :=
  (hexValue? c).isSome

def isOctalDigit (c : Char) : Bool :=
  '0' ≤ c && c ≤ '7'

def namedEscape? (c : Char) : Option Char :=
  match c with
  | '\\' | '\x27' | '"' => some c
  | 'a' => some '\x07'
  | 'b' => some '\x08'
  | 'f' => some '\x0c'
  | 'n' => some '\n'
  | 'r' => some '\r'
  | 't' => some '\t'
  | 'v' => some '\x0b'
  | _ => none

def hexEscape? (c : Char) : Option (Nat × String) :=
  match c with
  | 'x' => some (2, "truncated \\xXX escape")
  | 'u' => some (4, "truncated \\uXXXX escape")
  | 'U' => some (8, "truncated \\UXXXXXXXX escape")
  | _ => none

/-- Places within a quoted text count a character above the first 128 as ten. -/
def placeWidth (c : Char) : Nat :=
  if c.toNat < 128 then 1 else 10

def pairWidth (c : Char) : Nat :=
  if c.toNat < 128 then 2 else 6 + placeWidth c

def placesWidth : List Char → Nat
  | [] => 0
  | ['\\'] => 1
  | '\\' :: c :: rest => pairWidth c + placesWidth rest
  | c :: rest => placeWidth c + placesWidth rest

structure BadEscape where
  read : Nat
  reason : String

def valueIn (radix : Nat) (digits : List Char) : Nat :=
  digits.foldl (fun n c => radix * n + (hexValue? c).getD 0) 0

def hexCharacter (count : Nat) (reason : String) (cs : List Char) : Except BadEscape (List Char × Nat) :=
  let digits := (cs.take count).takeWhile isHexDigit
  if digits.length < count then .error ⟨2 + digits.length, reason⟩
  else if 0x110000 ≤ valueIn 16 digits then .error ⟨2 + count, "illegal Unicode character"⟩
  else .ok ([Char.ofNat (valueIn 16 digits)], count)

def namedCharacter (cs : List Char) : Except BadEscape (List Char × Nat) :=
  let malformed := "malformed \\N character escape"
  match cs with
  | c :: rest =>
      if c != '\x7b' then .error ⟨2, malformed⟩
      else
        let name := rest.takeWhile (· != '\x7d')
        if name.length == rest.length || name.isEmpty then .error ⟨3 + placesWidth name, malformed⟩
        else
          match Text.characterNamed? (String.ofList name) with
          | some found => .ok ([found], name.length + 2)
          | none => .error ⟨4 + placesWidth name, "unknown Unicode character name"⟩
  | [] => .error ⟨2, malformed⟩

def escaped (c : Char) (rest : List Char) : Except BadEscape (List Char × Nat) :=
  if c == '\n' then .ok ([], 0)
  else if isOctalDigit c then
    let digits := c :: (rest.take 2).takeWhile isOctalDigit
    .ok ([Char.ofNat (valueIn 8 digits)], digits.length - 1)
  else if c == 'N' then namedCharacter rest
  else
    match namedEscape? c, hexEscape? c with
    | some found, _ => .ok ([found], 0)
    | none, some (count, reason) => hexCharacter count reason rest
    | none, none => .ok (['\\', c], 0)

def unescape (lines place : Nat) : List Char → Except Fault (List Char)
  | [] => .ok []
  | ['\\'] => .ok ['\\']
  | '\\' :: c :: rest =>
      match escaped c rest with
      | .error bad => .error (.literalEscape place (place + bad.read - 1) bad.reason lines)
      | .ok (found, more) => do
          let tail ← unescape lines (place + pairWidth c + placesWidth (rest.take more)) (rest.drop more)
          return found ++ tail
  | c :: rest => do
      let tail ← unescape lines (place + placeWidth c) rest
      return c :: tail
termination_by cs => cs.length
decreasing_by
  · simp only [List.length_drop, List.length_cons]; omega
  · simp only [List.length_cons]; omega

def textLiteral (spelling : String) : Except Fault Value := do
  let body := (spelling.toList.drop 1).dropLast
  if body.contains '\x00' then .error .nullCharacter
  let body := plainLineEnds body
  let lines ← linesWithin 1 body
  return .text (String.ofList (← unescape lines 0 body))

def Lexeme.literal : Lexeme → Except Fault Literal
  | .number spelling => return ⟨.number, ← numberLiteral spelling⟩
  | .text spelling => return ⟨.text, ← textLiteral spelling⟩
  | .truth b => .ok ⟨.truth, .bool b⟩

end CallScript.Syntax
