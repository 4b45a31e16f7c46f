import CallScript.Template
import CallScript.Number.Places
import CallScript.Value.Shown

/-! A print template filled in with values. A tuple gives its items one by one; any other value stands
for itself, once, and a list or a dictionary also answers for keys. Whatever is left over is a fault,
except where keys could be used. For half of a surrogate pair, which is no character, the null character stands in. -/
namespace CallScript.Template

structure Supply where
  values : List Value
  mapping : Option Value

def Supply.of : Value → Supply
  | .tuple items => ⟨items, none⟩
  | .list items => ⟨[.list items], some (.list items)⟩
  | .dict entries => ⟨[.dict entries], some (.dict entries)⟩
  | v => ⟨[v], none⟩

def Supply.take (supply : Supply) : Except Fault (Value × Supply) :=
  match supply.values with
  | [] => .error (.format "not enough arguments for format string")
  | v :: rest => .ok (v, { supply with values := rest })

def Supply.select (supply : Supply) : Key → Except Fault Supply
  | .absent => .ok supply
  | key =>
      match supply.mapping, key with
      | none, _ => .error (.format "format requires a mapping")
      | some _, .unclosed => .error (.formatValue "incomplete format key")
      | some (.dict entries), .named name =>
          match entries.find? (fun entry => match entry.1 with | .text s => s == name | _ => false) with
          | some entry => .ok { supply with values := [entry.2] }
          | none => .error (.missingKey (Text.quoted name))
      | some _, _ => .error (.format "list indices must be integers or slices, not str")

def largestWidth : Nat := Nat.pow 2 63 - 1

def largestPrecision : Nat := Nat.pow 2 31 - 1

/-- Beyond this size a text is refused for want of memory. -/
def largestPadding : Nat := Nat.pow 2 30

def takeWhole (supply : Supply) : Except Fault (Int × Supply) := do
  let (v, supply) ← supply.take
  match v.wholeNumber? with
  | some n => return (n, supply)
  | none => .error (.format "* wants int")

def resolveWidth (supply : Supply) : Size → Except Fault (Option Nat × Bool × Supply)
  | .absent => .ok (none, false, supply)
  | .given n =>
      if largestWidth < n then .error (.formatValue "width too big") else .ok (some n, false, supply)
  | .argument => do
      let (n, supply) ← takeWhole supply
      if n.natAbs ≤ largestWidth then return (some n.natAbs, n < 0, supply)
      else .error (.formatOverflow "Python int too large to convert to C ssize_t")

def resolvePrecision (supply : Supply) : Size → Except Fault (Option Nat × Supply)
  | .absent => .ok (none, supply)
  | .given n =>
      if largestPrecision < n then .error (.formatValue "precision too big") else .ok (some n, supply)
  | .argument => do
      let (n, supply) ← takeWhole supply
      if n.natAbs ≤ largestPrecision || n == -(Nat.pow 2 31) then return (some n.toNat, supply)
      else .error (.formatOverflow "Python int too large to convert to C int")

structure Field where
  sign : List Char
  base : List Char
  body : List Char
  numeric : Bool

def Field.text (cs : List Char) : Field := ⟨[], [], cs, false⟩

def signOf (flags : Flags) (negative : Bool) : List Char :=
  if negative then ['-'] else if flags.sign then ['+'] else if flags.blank then [' '] else []

/-- The field at its width: zeros go after the sign and the base, blanks before the sign or, on the
left side, after everything. -/
def Field.padded (field : Field) (flags : Flags) (left : Bool) (width : Nat) : List Char :=
  let filled := field.numeric && flags.zero
  let lead := field.sign ++ field.base
  let missing := width - (lead.length + field.body.length)
  if left then lead ++ field.body ++ List.replicate missing ' '
  else if filled then lead ++ List.replicate missing '0' ++ field.body
  else List.replicate missing ' ' ++ lead ++ field.body

def upperAscii (cs : List Char) : List Char :=
  cs.map Char.toUpper

def integerFor (letter : Char) (v : Value) : Except Fault Int :=
  let based := letter == 'o' || letter == 'x' || letter == 'X'
  let refused (wanted : String) : Except Fault Int :=
    .error (.format ("%" ++ letter.toString ++ " format: " ++ wanted ++ " is required, not " ++ v.type.name))
  match v with
  | .float x =>
      if based then refused "an integer"
      else
        match Number.parts x with
        | .undefined => .error .undefinedToInteger
        | .infinite _ => .error .infiniteToInteger
        | .finite negative mantissa exponent => .ok (Number.truncate negative mantissa exponent)
  | _ =>
      match v.wholeNumber? with
      | some n => .ok n
      | none => refused (if based then "an integer" else "a real number")

def integerField (flags : Flags) (precision : Option Nat) (letter : Char) (n : Int) : Except Fault Field := do
  let radix := if letter == 'o' then 8 else if letter == 'x' || letter == 'X' then 16 else 10
  if radix == 10 then let _ ← integerText n
  let digits := Nat.toDigits radix n.natAbs
  if Nat.pow 2 31 - 4 < precision.getD 0 then .error (.formatOverflow "precision too large")
  if largestPadding < precision.getD 0 then .error .outOfMemory
  let padded := Text.padStart (precision.getD 0) '0' digits
  let body := if letter == 'X' then upperAscii padded else padded
  let base := if flags.alternate && radix != 10 then ['0', letter] else []
  return ⟨signOf flags (n < 0), base, body, true⟩

def floatFor (v : Value) : Except Fault Float :=
  match v with
  | .float x => .ok x
  | _ =>
      match v.wholeNumber? with
      | some n => ((Number.ofInt? n).map Except.ok).getD (.error .integerTooLarge)
      | none => .error (.format ("must be real number, not " ++ v.type.name))

def styleFor (letter : Char) : Number.Notation :=
  if letter == 'f' || letter == 'F' then .fixed else if letter == 'e' || letter == 'E' then .scientific else .general

def floatField (flags : Flags) (precision : Option Nat) (letter : Char) (x : Float) : Field :=
  let size := (Number.notationText (styleFor letter) flags.alternate (precision.getD 6) x).toList
  let size := if letter.isUpper then upperAscii size else size
  match size with
  | '-' :: body => ⟨['-'], [], body, true⟩
  | body => ⟨signOf flags false, [], body, true⟩

def characterField (v : Value) : Except Fault Field :=
  match v with
  | .text s =>
      match s.toList with
      | [c] => .ok (.text [c])
      | _ => .error (.format "%c requires int or char")
  | _ =>
      match v.wholeNumber? with
      | none => .error (.format "%c requires int or char")
      | some n =>
          if 0 ≤ n && n < 0x110000 then .ok (.text [Char.ofNat n.toNat])
          else .error (.formatOverflow "%c arg not in range(0x110000)")

def asciiOnly (s : String) : List Char :=
  s.toList.flatMap (fun c => if c.toNat < 128 then [c] else Text.codeEscape c.toNat)

def textField (precision : Option Nat) (cs : List Char) : Field :=
  match precision with
  | none => .text cs
  | some count => .text (cs.take count)

def convert (d : Directive) (precision : Option Nat) (letter : Char) (v : Value) : Except Fault Field :=
  if letter == 's' then do return textField precision (← v.plain).toList
  else if letter == 'r' then do return textField precision (← v.shown).toList
  else if letter == 'a' then do return textField precision (asciiOnly (← v.shown))
  else if ['d', 'i', 'u', 'o', 'x', 'X'].contains letter then do
    integerField d.flags precision letter (← integerFor letter v)
  else if ['e', 'E', 'f', 'F', 'g', 'G'].contains letter then do
    let x ← floatFor v
    if largestPadding < precision.getD 0 then .error .outOfMemory
    return floatField d.flags precision letter x
  else if letter == 'c' then characterField v
  else
    let shown := if 31 ≤ letter.toNat && letter.toNat ≤ 126 then letter else '?'
    .error (.formatValue ("unsupported format character '" ++ shown.toString ++ "' (0x" ++
      String.ofList (Text.hexDigits letter.toNat) ++ ") at index " ++ toString d.position))

def fillDirective (supply : Supply) (d : Directive) : Except Fault (List Char × Supply) := do
  let supply ← supply.select d.key
  let (width, turned, supply) ← resolveWidth supply d.width
  let (precision, supply) ← resolvePrecision supply d.precision
  match d.letter with
  | none => .error (.formatValue "incomplete format")
  | some letter =>
      let (v, supply) ← supply.take
      let field ← convert d precision letter v
      if largestPadding < width.getD 0 then .error .outOfMemory
      return (field.padded d.flags (d.flags.left || turned) (width.getD 0), supply)

def fillPieces : Supply → List Piece → Except Fault (List (List Char) × Supply)
  | supply, [] => .ok ([], supply)
  | supply, .text cs :: rest => do
      let (more, supply) ← fillPieces supply rest
      return (cs :: more, supply)
  | supply, .directive d :: rest => do
      let (cs, supply) ← fillDirective supply d
      let (more, supply) ← fillPieces supply rest
      return (cs :: more, supply)

def fill (template : String) (argument : Value) : Except Fault String := do
  let (texts, supply) ← fillPieces (Supply.of argument) (pieces template)
  if !supply.values.isEmpty && supply.mapping.isNone then
    .error (.format "not all arguments converted during string formatting")
  return String.ofList texts.flatten

end CallScript.Template
