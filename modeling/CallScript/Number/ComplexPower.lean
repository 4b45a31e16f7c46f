import CallScript.Number.Binary64

/-! Complex arithmetic on pairs of floating-point numbers: products and quotients term by term, powers
by repeated multiplication for small whole exponents and through polar form otherwise. -/
namespace CallScript.Number

structure Complex where
  re : Float
  im : Float

def Complex.add (a b : Complex) : Complex := ⟨a.re + b.re, a.im + b.im⟩

def Complex.sub (a b : Complex) : Complex := ⟨a.re - b.re, a.im - b.im⟩

def Complex.mul (a b : Complex) : Complex :=
  ⟨a.re * b.re - a.im * b.im, a.re * b.im + a.im * b.re⟩

def Complex.div? (a b : Complex) : Option Complex :=
  if b.re.abs ≥ b.im.abs then
    if b.re.abs == 0.0 then none
    else
      let ratio := b.im / b.re
      let scale := b.re + b.im * ratio
      some ⟨(a.re + a.im * ratio) / scale, (a.im - a.re * ratio) / scale⟩
  else if b.im.abs ≥ b.re.abs then
    let ratio := b.re / b.im
    let scale := b.re * ratio + b.im
    some ⟨(a.re * ratio + a.im) / scale, (a.im * ratio - a.re) / scale⟩
  else some ⟨undefinedFloat, undefinedFloat⟩

def squareRoot (n : Nat) : Nat :=
  let rec refine (steps guess : Nat) : Nat :=
    match steps with
    | 0 => guess
    | steps + 1 =>
        let next := (guess + n / guess) / 2
        if next < guess then refine steps next else guess
  if n == 0 then 0 else refine (n.log2 + 2) (Nat.pow 2 (n.log2 / 2 + 1))

/-- The length of a vector, rounded once: the root of the exact sum of squares with spare digits. -/
def hypotenuse (x y : Float) : Float :=
  match parts x, parts y with
  | .infinite _, _ | _, .infinite _ => infinity false
  | .finite _ m e, .finite _ n f =>
      let low := min e f
      let a := m * Nat.pow 2 (e - low).toNat
      let b := n * Nat.pow 2 (f - low).toNat
      let square := a * a + b * b
      let root := squareRoot (square * Nat.pow 2 256)
      let root := if root * root == square * Nat.pow 2 256 then 2 * root else 2 * root + 1
      let (num, den) := magnitude root (low - 129)
      nearest false num den
  | _, _ => undefinedFloat

def Complex.power (base : Complex) (exponent : Nat) : Complex :=
  let rec climb (steps : Nat) (left : Nat) (result square : Complex) : Complex :=
    match steps with
    | 0 => result
    | steps + 1 =>
        if left == 0 then result
        else climb steps (left / 2) (if left % 2 == 1 then result.mul square else result) (square.mul square)
  climb 8 exponent ⟨1.0, 0.0⟩ base

inductive PowerFault where
  | undefined
  | tooLarge
  deriving DecidableEq, Repr

def isInfinite (x : Float) : Bool :=
  match parts x with
  | .infinite _ => true
  | _ => false

def polarPower (a b : Complex) : Except PowerFault Complex :=
  if b.re == 0.0 && b.im == 0.0 then .ok ⟨1.0, 0.0⟩
  else if a.re == 0.0 && a.im == 0.0 then
    if b.im != 0.0 || b.re < 0.0 then .error .undefined else .ok ⟨0.0, 0.0⟩
  else
    let size := hypotenuse a.re a.im
    let angle := Float.atan2 a.im a.re
    let length := Float.pow size b.re
    let phase := angle * b.re
    let (length, phase) :=
      if b.im != 0.0 then (length / Float.exp (angle * b.im), phase + b.im * Float.log size)
      else (length, phase)
    if isInfinite phase then .error .undefined
    else .ok ⟨length * Float.cos phase, length * Float.sin phase⟩

def Complex.pow (a b : Complex) : Except PowerFault Complex := do
  let result ←
    if b.im == 0.0 && b.re == b.re.floor && b.re.abs ≤ 100.0 then
      let count := b.re.abs.toUInt64.toNat
      if b.re > 0.0 then pure (a.power count)
      else
        match Complex.div? ⟨1.0, 0.0⟩ (a.power count) with
        | some quotient => pure quotient
        | none => .error .undefined
    else polarPower a b
  if isInfinite result.re || isInfinite result.im then .error .tooLarge else pure result

end CallScript.Number
