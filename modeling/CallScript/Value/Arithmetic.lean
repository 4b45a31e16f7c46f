import CallScript.Number.ComplexPower
import CallScript.Template.Filled
import CallScript.Value.Order

/-! The operators of the language on values. Numbers of two types meet in the wider one: integers are
exact, an integer beside a floating-point number is rounded to one, either beside a complex number
becomes complex. Sums join texts and lists, products repeat them, and the remainder of a text fills it
in as a print template. -/
namespace CallScript

inductive Arithmetic where
  | add
  | subtract
  | multiply
  | divide
  | modulo
  | power
  deriving DecidableEq, Repr

def Arithmetic.symbol : Arithmetic → String
  | .add => "+"
  | .subtract => "-"
  | .multiply => "*"
  | .divide => "/"
  | .modulo => "%"
  | .power => "^"

def Arithmetic.name : Arithmetic → String
  | .power => "** or pow()"
  | op => op.symbol

inductive NumberPair where
  | integers (a b : Int)
  | reals (x y : Float)
  | complexes (a b : Number.Complex)

def Value.isNumber : Value → Bool
  | .bool _ | .int _ | .float _ | .complex _ _ => true
  | _ => false

def floatOfInt (n : Int) : Except Fault Float :=
  match Number.ofInt? n with
  | some x => .ok x
  | none => .error .integerTooLarge

def Value.asComplex : Value → Except Fault Number.Complex
  | .complex re im => .ok ⟨re, im⟩
  | .float x => .ok ⟨x, 0.0⟩
  | v => do return ⟨← floatOfInt (v.wholeNumber?.getD 0), 0.0⟩

def Value.asFloat : Value → Except Fault Float
  | .float x => .ok x
  | v => floatOfInt (v.wholeNumber?.getD 0)

def isComplex : Value → Bool
  | .complex _ _ => true
  | _ => false

def numberPair (a b : Value) : Except Fault NumberPair := do
  match a.wholeNumber?, b.wholeNumber? with
  | some m, some n => return .integers m n
  | _, _ =>
      if isComplex a || isComplex b then return .complexes (← a.asComplex) (← b.asComplex)
      else return .reals (← a.asFloat) (← b.asFloat)

def ofComplex (z : Number.Complex) : Value := .complex z.re z.im

def isOddInteger (x : Float) : Bool :=
  match Number.parts x with
  | .finite _ mantissa exponent =>
      if 0 < exponent then false
      else
        let unit := Nat.pow 2 (-exponent).toNat
        mantissa % unit == 0 && mantissa / unit % 2 == 1
  | _ => false

def isWholeFloat (x : Float) : Bool :=
  x == x.floor

def complexPower (a b : Number.Complex) : Except Fault Value :=
  match Number.Complex.pow a b with
  | .ok z => .ok (ofComplex z)
  | .error .undefined => .error (.division "0.0 to a negative or complex power")
  | .error .tooLarge => .error .complexPowerTooLarge

/-- A power of floating-point numbers: special operands first, then a negative base by the parity of
the exponent, complex where the exponent is no integer. -/
def floatPower (x y : Float) : Except Fault Value :=
  if y == 0.0 then .ok (.float 1.0)
  else if Number.isUndefined x then .ok (.float x)
  else if Number.isUndefined y then .ok (.float (if x == 1.0 then 1.0 else y))
  else if Number.isInfinite y then
    if x.abs == 1.0 then .ok (.float 1.0)
    else if (0.0 < y) == (1.0 < x.abs) then .ok (.float y.abs)
    else .ok (.float 0.0)
  else if Number.isInfinite x then
    if 0.0 < y then .ok (.float (if isOddInteger y then x else x.abs))
    else .ok (.float (Number.zero (isOddInteger y && x < 0.0)))
  else if x == 0.0 then
    if y < 0.0 then .error (.division "0.0 cannot be raised to a negative power")
    else .ok (.float (if isOddInteger y then x else 0.0))
  else if x < 0.0 && !isWholeFloat y then complexPower ⟨x, 0.0⟩ ⟨y, 0.0⟩
  else
    let size := if x.abs == 1.0 then 1.0 else Float.pow x.abs y
    if Number.isInfinite size then .error .powerTooLarge
    else .ok (.float (if x < 0.0 && isOddInteger y then -size else size))

def integerPower (a : Int) (n : Nat) : Int :=
  if n == 0 then 1
  else if a == 0 || a == 1 then a
  else if a == -1 then (if n % 2 == 0 then 1 else -1)
  else Int.pow a n

def integerQuotient (a b : Int) : Except Fault Value :=
  if b == 0 then .error (.division "division by zero")
  else
    match Number.nearest? ((a < 0) != (b < 0)) a.natAbs b.natAbs with
    | some x => .ok (.float x)
    | none => .error .quotientTooLarge

def Arithmetic.onIntegers (op : Arithmetic) (a b : Int) : Except Fault Value :=
  match op with
  | .add => .ok (.int (a + b))
  | .subtract => .ok (.int (a - b))
  | .multiply => .ok (.int (a * b))
  | .divide => integerQuotient a b
  | .modulo => if b == 0 then .error (.division "integer modulo by zero") else .ok (.int (Int.fmod a b))
  | .power =>
      if 0 ≤ b then .ok (.int (integerPower a b.toNat))
      else do floatPower (← floatOfInt a) (← floatOfInt b)

def Arithmetic.onReals (op : Arithmetic) (x y : Float) : Except Fault Value :=
  match op with
  | .add => .ok (.float (x + y))
  | .subtract => .ok (.float (x - y))
  | .multiply => .ok (.float (x * y))
  | .divide => if y == 0.0 then .error (.division "float division by zero") else .ok (.float (x / y))
  | .modulo => if y == 0.0 then .error (.division "float modulo") else .ok (.float (Number.modulo x y))
  | .power => floatPower x y

def Arithmetic.onComplexes (op : Arithmetic) (a b : Number.Complex) : Except Fault Value :=
  match op with
  | .add => .ok (ofComplex (a.add b))
  | .subtract => .ok (ofComplex (a.sub b))
  | .multiply => .ok (ofComplex (a.mul b))
  | .divide =>
      match Number.Complex.div? a b with
      | some z => .ok (ofComplex z)
      | none => .error (.division "complex division by zero")
  | .modulo => .error (.operands op.name .complex .complex)
  | .power => complexPower a b

def largestSize : Nat := Nat.pow 2 32

def largestCount : Nat := Nat.pow 2 63 - 1

def repeated {α : Type} (items : List α) : Nat → List α
  | 0 => []
  | n + 1 => items ++ repeated items n

def Value.times (sequence : Value) (count : Int) : Except Fault Value :=
  if largestCount < count.natAbs && count != -(Nat.pow 2 63) then .error .repetitionCount
  else
    let bounded (size : Nat) : Except Fault Nat :=
      if size == 0 then .ok 0 else if largestSize < size * count.toNat then .error .outOfMemory else .ok count.toNat
    match sequence with
    | .text s => do
        if largestCount < s.length * count.toNat then .error .repeatedText
        return .text (String.ofList (repeated s.toList (← bounded s.length)))
    | .list items => do return .list (repeated items (← bounded items.length))
    | .tuple items => do return .tuple (repeated items (← bounded items.length))
    | v => .ok v

def Value.isSequence : Value → Bool
  | .text _ | .list _ | .tuple _ => true
  | _ => false

def Value.repeatBy (sequence count : Value) : Except Fault Value :=
  match count.wholeNumber? with
  | some n => sequence.times n
  | none => .error (.repetition count.type)

def Arithmetic.onNumbers (op : Arithmetic) (a b : Value) : Except Fault Value :=
  if !a.isNumber || !b.isNumber then .error (.operands op.name a.type b.type)
  else if op == .modulo && (isComplex a || isComplex b) then .error (.operands op.name a.type b.type)
  else do
    match ← numberPair a b with
    | .integers m n => op.onIntegers m n
    | .reals x y => op.onReals x y
    | .complexes z w => op.onComplexes z w

def Arithmetic.apply (op : Arithmetic) (a b : Value) : Except Fault Value :=
  match op, a, b with
  | .add, .text s, .text t => .ok (.text (s ++ t))
  | .add, .list xs, .list ys => .ok (.list (xs ++ ys))
  | .add, .tuple xs, .tuple ys => .ok (.tuple (xs ++ ys))
  | .modulo, .text s, _ => do return .text (← Template.fill s b)
  | _, _, _ =>
      if op == .add && a.isSequence then .error (.concatenation a.type b.type)
      else if op == .multiply && a.isSequence then a.repeatBy b
      else if op == .multiply && b.isSequence then b.repeatBy a
      else op.onNumbers a b

def Value.negate : Value → Except Fault Value
  | .float x => .ok (.float (-x))
  | .complex re im => .ok (.complex (-re) (-im))
  | v =>
      match v.wholeNumber? with
      | some n => .ok (.int (-n))
      | none => .error (.negation v.type)

end CallScript
