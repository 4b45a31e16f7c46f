/-! Binary floating-point numbers as exact fractions. A finite number is a sign, a mantissa and a
power of two; `nearest` goes back, rounding a quotient of naturals to the closest number and a tie to
the even mantissa. Arithmetic that has to be exact is done on these parts. -/
namespace CallScript.Number

inductive Parts where
  | undefined
  | infinite (negative : Bool)
  | finite (negative : Bool) (mantissa : Nat) (exponent : Int)
  deriving DecidableEq, Repr

def fractionBits : Nat := 52

def lowestExponent : Int := -1074

def highestExponent : Int := 971

def partsOfBits (bits : Nat) : Parts :=
  let negative := bits / Nat.pow 2 63 % 2 == 1
  let scale := bits / Nat.pow 2 fractionBits % Nat.pow 2 11
  let fraction := bits % Nat.pow 2 fractionBits
  if scale == 2047 then
    if fraction == 0 then .infinite negative else .undefined
  else if scale == 0 then .finite negative fraction lowestExponent
  else .finite negative (Nat.pow 2 fractionBits + fraction) (Int.ofNat scale - 1075)

def parts (x : Float) : Parts :=
  partsOfBits x.toBits.toNat

def signBit (negative : Bool) : Nat :=
  if negative then Nat.pow 2 63 else 0

def infinity (negative : Bool) : Float :=
  Float.ofBits (UInt64.ofNat (signBit negative + 2047 * Nat.pow 2 fractionBits))

def undefinedFloat : Float :=
  Float.ofBits (UInt64.ofNat (2047 * Nat.pow 2 fractionBits + Nat.pow 2 (fractionBits - 1)))

def zero (negative : Bool) : Float :=
  Float.ofBits (UInt64.ofNat (signBit negative))

/-- The number with this mantissa below `2 ^ 53` and an exponent in range. -/
def assemble (negative : Bool) (mantissa : Nat) (exponent : Int) : Float :=
  if mantissa < Nat.pow 2 fractionBits then Float.ofBits (UInt64.ofNat (signBit negative + mantissa))
  else Float.ofBits (UInt64.ofNat
    (signBit negative + (exponent + 1075).toNat * Nat.pow 2 fractionBits + (mantissa - Nat.pow 2 fractionBits)))

def roundHalfEven (num den : Nat) : Nat :=
  let quotient := num / den
  let rest := num % den
  if 2 * rest < den then quotient
  else if den < 2 * rest then quotient + 1
  else if quotient % 2 == 0 then quotient else quotient + 1

def scaled (num den : Nat) (exponent : Int) : Nat × Nat :=
  if 0 ≤ exponent then (num, den * Nat.pow 2 exponent.toNat) else (num * Nat.pow 2 (-exponent).toNat, den)

def nearest? (negative : Bool) (num den : Nat) : Option Float :=
  if num == 0 then some (zero negative)
  else
    let guess : Int := Int.ofNat num.log2 - Int.ofNat den.log2 - Int.ofNat fractionBits - 1
    let start := max guess lowestExponent
    let (a, b) := scaled num den start
    let exponent := if Nat.pow 2 (fractionBits + 1) ≤ a / b then start + 1 else start
    let exponent := if Nat.pow 2 (fractionBits + 2) ≤ a / b then start + 2 else exponent
    let (a, b) := scaled num den exponent
    let mantissa := roundHalfEven a b
    let (mantissa, exponent) :=
      if mantissa == Nat.pow 2 (fractionBits + 1) then (Nat.pow 2 fractionBits, exponent + 1) else (mantissa, exponent)
    if highestExponent < exponent then none else some (assemble negative mantissa exponent)

def nearest (negative : Bool) (num den : Nat) : Float :=
  (nearest? negative num den).getD (infinity negative)

def ofInt? (n : Int) : Option Float :=
  nearest? (n < 0) n.natAbs 1

def magnitude (mantissa : Nat) (exponent : Int) : Nat × Nat :=
  if 0 ≤ exponent then (mantissa * Nat.pow 2 exponent.toNat, 1) else (mantissa, Nat.pow 2 (-exponent).toNat)

def isUndefined (x : Float) : Bool :=
  match parts x with
  | .undefined => true
  | _ => false

def isNegative (x : Float) : Bool :=
  match parts x with
  | .undefined => false
  | .infinite negative => negative
  | .finite negative _ _ => negative

def truncate (negative : Bool) (mantissa : Nat) (exponent : Int) : Int :=
  let (num, den) := magnitude mantissa exponent
  if negative then -Int.ofNat (num / den) else Int.ofNat (num / den)

def compareInt (n : Int) (x : Float) : Option Ordering :=
  match parts x with
  | .undefined => none
  | .infinite negative => some (if negative then .gt else .lt)
  | .finite negative mantissa exponent =>
      let (num, den) := magnitude mantissa exponent
      let signed : Int := if negative then -Int.ofNat num else Int.ofNat num
      some (compare (n * Int.ofNat den) signed)

/-- The remainder of `x / y` truncated toward zero, exact, with the sign of `x`. -/
def remainder (x y : Float) : Float :=
  match parts x, parts y with
  | .finite negative m e, .finite _ n f =>
      if n == 0 then undefinedFloat
      else
        let low := min e f
        let a := m * Nat.pow 2 (e - low).toNat
        let b := n * Nat.pow 2 (f - low).toNat
        let (num, den) := magnitude (a % b) low
        nearest negative num den
  | .finite _ _ _, .infinite _ => x
  | _, _ => undefinedFloat

def modulo (x y : Float) : Float :=
  let rest := remainder x y
  if isUndefined rest then rest
  else if rest == 0.0 then zero (isNegative y)
  else if (y < 0.0) != (rest < 0.0) then rest + y
  else rest

end CallScript.Number
