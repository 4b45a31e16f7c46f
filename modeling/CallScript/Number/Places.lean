import CallScript.Number.Shortest

/-! Numbers with a given number of decimal places or of significant digits, rounded exactly, a tie to
the even digit. The three notations of print templates are made of them. -/
namespace CallScript.Number

def roundScaled (num den : Nat) (power : Int) : Nat :=
  let (a, b) := overPowerOfTen num den (-power)
  roundHalfEven a b

def significant (num den count : Nat) : Decimal :=
  if num == 0 then ⟨List.replicate count 0, 1⟩
  else
    let point := decimalPoint num den
    let n := roundScaled num den (Int.ofNat count - point)
    if n == Nat.pow 10 count then ⟨1 :: List.replicate (count - 1) 0, point + 1⟩
    else ⟨digitsOf n, point⟩

def dropTrailingZeros (digits : List Nat) : List Nat :=
  (digits.reverse.dropWhile (· == 0)).reverse

def fractionText (keepPoint : Bool) (digits : List Nat) : String :=
  if digits.isEmpty then (if keepPoint then "." else "") else "." ++ digitText digits

def fixedText (keepPoint : Bool) (places num den : Nat) : String :=
  let n := roundScaled num den (Int.ofNat places)
  let digits := digitsOf n
  let padded := List.replicate (places + 1 - digits.length) 0 ++ digits
  digitText (padded.take (padded.length - places)) ++ fractionText keepPoint (padded.drop (padded.length - places))

def scientificDigits (keepPoint : Bool) (d : Decimal) (digits : List Nat) : String :=
  digitText (digits.take 1) ++ fractionText keepPoint (digits.drop 1) ++ "e" ++ exponentText (d.point - 1)

def scientificText (keepPoint : Bool) (places num den : Nat) : String :=
  let d := significant num den (places + 1)
  scientificDigits keepPoint d d.digits

/-- Positional while the exponent is from -4 up to the number of digits, scientific beyond; trailing
zeros are dropped unless the point is kept. -/
def generalText (keepPoint : Bool) (count num den : Nat) : String :=
  let count := max count 1
  let d := significant num den count
  let digits := if keepPoint then d.digits
    else match dropTrailingZeros d.digits with
      | [] => [0]
      | digits => digits
  if d.point ≤ -4 || Int.ofNat count < d.point then scientificDigits keepPoint d digits
  else if d.point ≤ 0 then
    "0" ++ fractionText keepPoint (List.replicate (-d.point).toNat 0 ++ digits)
  else
    let whole := digits.take d.point.toNat
    digitText (whole ++ List.replicate (d.point.toNat - whole.length) 0) ++
      fractionText keepPoint (digits.drop d.point.toNat)

inductive Notation where
  | fixed
  | scientific
  | general
  deriving DecidableEq, Repr

def notationText (style : Notation) (keepPoint : Bool) (precision : Nat) (x : Float) : String :=
  match parts x with
  | .undefined => "nan"
  | .infinite negative => if negative then "-inf" else "inf"
  | .finite negative mantissa exponent =>
      let (num, den) := magnitude mantissa exponent
      let size :=
        match style with
        | .fixed => fixedText keepPoint precision num den
        | .scientific => scientificText keepPoint precision num den
        | .general => generalText keepPoint precision num den
      (if negative then "-" else "") ++ size

end CallScript.Number
