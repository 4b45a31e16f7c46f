import CallScript.Number.Binary64

/-! The fewest decimal digits that read back as the same floating-point number, and the text made of
them. `shortest` tries one digit, then two, and so on: the first decimal grid with a point inside the
interval of reals that round to the number wins, and of two such points the nearer. -/
namespace CallScript.Number

/-- Digits `d₁ d₂ … dₙ` with the point before the first: the value is `0.d₁d₂…dₙ * 10 ^ point`. -/
structure Decimal where
  digits : List Nat
  point : Int
  deriving DecidableEq, Repr

def digitsOf (n : Nat) : List Nat :=
  (Nat.toDigits 10 n).map (fun c => c.toNat - 48)

/-- The exponent `k` with `10 ^ (k - 1) ≤ num / den < 10 ^ k`, sought upward from a low guess. -/
def decimalPoint (num den : Nat) : Int :=
  let guess : Int := (Int.ofNat num.log2 - Int.ofNat den.log2 - 1) * 30103 / 100000 - 1
  let above (k : Int) : Bool :=
    if 0 ≤ k then num < den * Nat.pow 10 k.toNat else num * Nat.pow 10 (-k).toNat < den
  let rec seek (steps : Nat) (k : Int) : Int :=
    match steps with
    | 0 => k
    | steps + 1 => if above k then k else seek steps (k + 1)
  seek 8 guess

def overPowerOfTen (num den : Nat) (power : Int) : Nat × Nat :=
  if 0 ≤ power then (num, den * Nat.pow 10 power.toNat) else (num * Nat.pow 10 (-power).toNat, den)

/-- The reals that round to `mantissa * 2 ^ exponent`, as quarter units of its last place: from
`low` to `high`, the ends included when the mantissa is even. -/
structure Interval where
  low : Nat
  high : Nat
  closed : Bool

def roundingInterval (mantissa : Nat) (exponent : Int) : Interval :=
  let low := if mantissa == Nat.pow 2 fractionBits && lowestExponent < exponent
    then 4 * mantissa - 1 else 4 * mantissa - 2
  ⟨low, 4 * mantissa + 2, mantissa % 2 == 0⟩

def Interval.contains (range : Interval) (exponent : Int) (candidate : Nat) (power : Int) : Bool :=
  let (num, den) := if 0 ≤ power then (candidate * Nat.pow 10 power.toNat, 1) else (candidate, Nat.pow 10 (-power).toNat)
  let (num, den) := if 0 ≤ exponent then (num * 4, den * Nat.pow 2 exponent.toNat)
    else (num * 4 * Nat.pow 2 (-exponent).toNat, den)
  if range.closed then range.low * den ≤ num && num ≤ range.high * den
  else range.low * den < num && num < range.high * den

def gridPoint (mantissa : Nat) (exponent power : Int) : Option Nat :=
  let (num, den) := magnitude mantissa exponent
  let (a, b) := overPowerOfTen num den power
  let below := a / b
  let range := roundingInterval mantissa exponent
  let inside (n : Nat) : Bool := range.contains exponent n power
  let near := roundHalfEven a b
  if inside near then some near
  else if inside below then some below
  else if inside (below + 1) then some (below + 1)
  else none

def shortest (mantissa : Nat) (exponent : Int) : Decimal :=
  let (num, den) := magnitude mantissa exponent
  let point := decimalPoint num den
  let rec seek (left count : Nat) : Decimal :=
    match left with
    | 0 => ⟨[0], point⟩
    | left + 1 =>
        match gridPoint mantissa exponent (point - Int.ofNat count) with
        | some n =>
            let digits := digitsOf n
            ⟨(digits.reverse.dropWhile (· == 0)).reverse, point + Int.ofNat digits.length - Int.ofNat count⟩
        | none => seek left (count + 1)
  seek 18 1

def digitText (digits : List Nat) : String :=
  String.ofList (digits.map (fun d => Char.ofNat (48 + d)))

structure Layout where
  lowPoint : Int
  highPoint : Int
  keepPoint : Bool

def Layout.alone : Layout := ⟨-4, 16, true⟩

def Layout.inner : Layout := ⟨-4, 16, false⟩

def exponentText (exponent : Int) : String :=
  let size := exponent.natAbs
  (if exponent < 0 then "-" else "+") ++ (if size < 10 then "0" else "") ++ toString size

def Decimal.text (d : Decimal) (layout : Layout) : String :=
  let count : Int := d.digits.length
  if layout.lowPoint < d.point && d.point ≤ layout.highPoint then
    if d.point ≤ 0 then "0." ++ "".pushn '0' (-d.point).toNat ++ digitText d.digits
    else if count ≤ d.point then
      digitText d.digits ++ "".pushn '0' (d.point - count).toNat ++ (if layout.keepPoint then ".0" else "")
    else digitText (d.digits.take d.point.toNat) ++ "." ++ digitText (d.digits.drop d.point.toNat)
  else
    let tail := d.digits.drop 1
    digitText (d.digits.take 1) ++ (if tail.isEmpty then "" else "." ++ digitText tail) ++
      "e" ++ exponentText (d.point - 1)

def floatText (layout : Layout) (x : Float) : String :=
  match parts x with
  | .undefined => "nan"
  | .infinite negative => if negative then "-inf" else "inf"
  | .finite negative mantissa exponent =>
      let size := if mantissa == 0 then (if layout.keepPoint then "0.0" else "0")
        else (shortest mantissa exponent).text layout
      (if negative then "-" else "") ++ size

end CallScript.Number
