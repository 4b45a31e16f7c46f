import CallScript.Fault
import CallScript.Number.Binary64

/-! Equality and order of values. Numbers compare by what they are worth, whatever their type; texts by
code points; lists and tuples by their first difference. Values of other pairs of types are unequal,
and asking for their order is a fault. Values have no identity: an undefined number is unequal to itself, also as an
item of a list that is compared with itself. -/
namespace CallScript

/-- The order of two real numbers: exact, and none when one of them is undefined. -/
def Value.compareReal? : Value → Value → Option (Option Ordering)
  | .float x, .float y =>
      some (if x < y then some .lt else if x == y then some .eq else if x > y then some .gt else none)
  | a, .float y => a.wholeNumber?.map (fun n => Number.compareInt n y)
  | .float x, b => b.wholeNumber?.map (fun n => (Number.compareInt n x).map Ordering.swap)
  | a, b => do return some (compare (← a.wholeNumber?) (← b.wholeNumber?))

def sameNumber : Value → Value → Bool
  | .complex re im, .complex re' im' => re == re' && im == im'
  | .complex re im, b => im == 0.0 && Value.compareReal? (.float re) b == some (some .eq)
  | a, .complex re im => im == 0.0 && Value.compareReal? a (.float re) == some (some .eq)
  | a, b => Value.compareReal? a b == some (some .eq)

mutual

def Value.same : Value → Value → Bool
  | .null, .null => true
  | .text s, .text t => s == t
  | .environment s, .environment t => s == t
  | .list xs, .list ys => sameItems xs ys
  | .tuple xs, .tuple ys => sameItems xs ys
  | .dict xs, .dict ys => xs.length == ys.length && sameEntries xs ys
  | a, b => sameNumber a b

def sameItems : List Value → List Value → Bool
  | [], [] => true
  | x :: xs, y :: ys => x.same y && sameItems xs ys
  | _, _ => false

def sameEntries : List (Value × Value) → List (Value × Value) → Bool
  | [], _ => true
  | (key, value) :: rest, ys => ys.any (fun y => key.same y.1 && value.same y.2) && sameEntries rest ys

end

inductive Relation where
  | less
  | lessEqual
  | greater
  | greaterEqual
  deriving DecidableEq, Repr

def Relation.symbol : Relation → String
  | .less => "<"
  | .lessEqual => "<="
  | .greater => ">"
  | .greaterEqual => ">="

def Relation.holds : Relation → Ordering → Bool
  | .less, order => order == .lt
  | .lessEqual, order => order != .gt
  | .greater, order => order == .gt
  | .greaterEqual, order => order != .lt

mutual

def Value.related (relation : Relation) : Value → Value → Except Fault Bool
  | .text s, .text t => .ok (relation.holds (compare s t))
  | .list xs, .list ys => relatedItems relation xs ys
  | .tuple xs, .tuple ys => relatedItems relation xs ys
  | a, b =>
      match Value.compareReal? a b with
      | some order => .ok (order.any relation.holds)
      | none => .error (.comparison relation.symbol a.type b.type)

def relatedItems (relation : Relation) : List Value → List Value → Except Fault Bool
  | [], [] => .ok (relation.holds .eq)
  | [], _ :: _ => .ok (relation.holds .lt)
  | _ :: _, [] => .ok (relation.holds .gt)
  | x :: xs, y :: ys => if x.same y then relatedItems relation xs ys else x.related relation y

end

end CallScript
