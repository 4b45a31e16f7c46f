import CallScript.Fault
import CallScript.Number.Binary64
import CallScript.Text.Blank
import CallScript.Text.Digit

/-! Numbers read from text. Digits of every script count, one underscore may stand between two digits,
and white space around the number is dropped. -/
namespace CallScript.Number

def dropUnderscores : Bool → List Char → Option (List Char)
  | _, [] => some []
  | afterDigit, '_' :: c :: rest =>
      if afterDigit && Text.isDigit c then (dropUnderscores true rest).map (c :: ·) else none
  | _, ['_'] => none
  | _, c :: rest => (dropUnderscores (Text.isDigit c) rest).map (c :: ·)

def digitsValue (cs : List Char) : Nat :=
  cs.foldl (fun n c => 10 * n + (Text.digitValue? c).getD 0) 0

def takeSign : List Char → Bool × List Char
  | '-' :: rest => (true, rest)
  | '+' :: rest => (false, rest)
  | cs => (false, cs)

def integerDigitLimit : Nat := 4300

def readInteger (s : String) : Except Fault Int :=
  let fault : Fault := .integerText s
  let (negative, body) := takeSign (Text.trim s.toList)
  match dropUnderscores false body with
  | none => .error fault
  | some digits =>
      if digits.isEmpty || !digits.all Text.isDigit then .error fault
      else if integerDigitLimit < digits.length then .error (.digitLimitReading digits.length)
      else .ok (if negative then -Int.ofNat (digitsValue digits) else Int.ofNat (digitsValue digits))

/-- The number nearest to `mantissa * 10 ^ exponent`, where `mantissa` has at most `count` digits. -/
def ofDecimal (negative : Bool) (mantissa count : Nat) (exponent : Int) : Float :=
  if mantissa == 0 then zero negative
  else if 400 < exponent then infinity negative
  else if exponent < -400 - Int.ofNat count then zero negative
  else if 0 ≤ exponent then nearest negative (mantissa * Nat.pow 10 exponent.toNat) 1
  else nearest negative mantissa (Nat.pow 10 (-exponent).toNat)

def readDecimal? (negative : Bool) (cs : List Char) : Option Float :=
  let whole := cs.takeWhile Text.isDigit
  let rest := cs.dropWhile Text.isDigit
  let (fraction, rest) :=
    match rest with
    | '.' :: more => (more.takeWhile Text.isDigit, more.dropWhile Text.isDigit)
    | _ => ([], rest)
  if whole.isEmpty && fraction.isEmpty then none
  else
    let finish (exponent : Int) : Float :=
      let digits := whole ++ fraction
      ofDecimal negative (digitsValue digits) digits.length (exponent - Int.ofNat fraction.length)
    match rest with
    | [] => some (finish 0)
    | c :: more =>
        if c == 'e' || c == 'E' then
          let (down, digits) := takeSign more
          if digits.isEmpty || !digits.all Text.isDigit then none
          else
            let size := digitsValue digits
            some (finish (if down then -Int.ofNat size else Int.ofNat size))
        else none

def lowerAscii (cs : List Char) : List Char :=
  cs.map Char.toLower

def readFloat (s : String) : Except Fault Float :=
  let fault : Fault := .floatText s
  match dropUnderscores false (Text.trim s.toList) with
  | none => .error fault
  | some cs =>
      let (negative, body) := takeSign cs
      let word := lowerAscii body
      if word == ['i', 'n', 'f'] || word == ['i', 'n', 'f', 'i', 'n', 'i', 't', 'y'] then
        .ok (infinity negative)
      else if word == ['n', 'a', 'n'] then .ok undefinedFloat
      else
        match readDecimal? negative body with
        | some x => .ok x
        | none => .error fault

end CallScript.Number
