/-! Patterns that texts are split on, as trees. A node matches some characters from a place on; groups
remember what they matched. -/
namespace CallScript.Pattern

inductive Category where
  | digit
  | space
  | word
  deriving DecidableEq, Repr

inductive Member where
  | literal (code : Nat)
  | range (low high : Nat)
  | category (c : Category) (negated : Bool)
  deriving DecidableEq, Repr

inductive Boundary where
  | beginning
  | ending
  | textBeginning
  | textEnding
  | word
  | notWord
  deriving DecidableEq, Repr

structure Options where
  ignoreCase : Bool := false
  multiline : Bool := false
  dotAll : Bool := false
  verbose : Bool := false
  ascii : Bool := false
  deriving DecidableEq, Repr

inductive Eagerness where
  | greedy
  | lazy
  | possessive
  deriving DecidableEq, Repr

/-- Options that a group turns on and off; asking for all characters overrides asking for ASCII. -/
structure Scoping where
  added : Options
  removed : Options
  unicode : Bool
  deriving DecidableEq, Repr

inductive Node where
  | any
  | set (negated : Bool) (members : List Member)
  | boundary (b : Boundary)
  | sequence (nodes : List Node)
  | choice (nodes : List Node)
  | capture (group : Nat) (body : Node)
  | scoped (scoping : Scoping) (body : Node)
  | repeated (eagerness : Eagerness) (least : Nat) (most : Option Nat) (body : Node)
  | reference (group : Nat)
  | conditional (group : Nat) (matched unmatched : Node)
  | atomic (body : Node)
  | look (behind : Option Nat) (negated : Bool) (body : Node)
  deriving Inhabited

def Node.literal (code : Nat) : Node := .set false [.literal code]

def widestWidth : Nat := Nat.pow 2 64

def unbounded : Nat := Nat.pow 2 32 - 1

def capWidth (width : Nat × Nat) : Nat × Nat :=
  (min width.1 widestWidth, min width.2 widestWidth)

mutual

def Node.width (groups : Nat → Nat × Nat) : Node → Nat × Nat
  | .any | .set _ _ => (1, 1)
  | .boundary _ | .look _ _ _ => (0, 0)
  | .sequence nodes => capWidth (sumWidth groups nodes)
  | .choice nodes => capWidth (choiceWidth groups nodes)
  | .capture _ body | .scoped _ body | .atomic body => body.width groups
  | .repeated _ least most body =>
      let (low, high) := body.width groups
      match most with
      | none => capWidth (low * least, if high == 0 then 0 else widestWidth)
      | some most => capWidth (low * least, high * most)
  | .reference group => groups group
  | .conditional _ matched unmatched =>
      let (low, high) := matched.width groups
      let (low', high') := unmatched.width groups
      (min low low', max high high')

def sumWidth (groups : Nat → Nat × Nat) : List Node → Nat × Nat
  | [] => (0, 0)
  | node :: rest =>
      let (low, high) := node.width groups
      let (low', high') := sumWidth groups rest
      (low + low', high + high')

def choiceWidth (groups : Nat → Nat × Nat) : List Node → Nat × Nat
  | [] => (widestWidth, 0)
  | node :: rest =>
      let (low, high) := node.width groups
      let (low', high') := choiceWidth groups rest
      (min low low', max high high')

end

end CallScript.Pattern
