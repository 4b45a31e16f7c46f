/-! The arithmetic mean of floating-point numbers. They are summed in pairs of parts, which decides the last
bits: up to 128 numbers in eight running sums, more than that in two halves, the first a multiple of
eight long. -/
namespace CallScript.Number

def addAll (start : Float) (xs : List Float) : Float :=
  xs.foldl (· + ·) start

/-- Adds groups of eight numbers to eight sums; gives the sums and the numbers left over. -/
def eightSums : Nat → List Float → List Float → List Float × List Float
  | 0, sums, xs => (sums, xs)
  | groups + 1, sums, xs => eightSums groups (List.zipWith (· + ·) sums (xs.take 8)) (xs.drop 8)

def combine (sums : List Float) : Float :=
  match sums with
  | [a, b, c, d, e, f, g, h] => ((a + b) + (c + d)) + ((e + f) + (g + h))
  | _ => 0.0

def blockSum (xs : List Float) : Float :=
  if xs.length < 8 then addAll 0.0 xs
  else
    let (sums, rest) := eightSums (xs.length / 8 - 1) (xs.take 8) (xs.drop 8)
    addAll (combine sums) rest

def halfLength (count : Nat) : Nat :=
  count / 2 - count / 2 % 8

def pairwiseSum (xs : List Float) : Float :=
  if _h : xs.length ≤ 128 then blockSum xs
  else pairwiseSum (xs.take (halfLength xs.length)) + pairwiseSum (xs.drop (halfLength xs.length))
termination_by xs.length
decreasing_by
  · simp only [List.length_take, halfLength]; omega
  · simp only [List.length_drop, halfLength]; omega

def mean (xs : List Float) : Float :=
  if xs.isEmpty then 0.0 else (0.0 + pairwiseSum xs) / Float.ofNat xs.length

end CallScript.Number
