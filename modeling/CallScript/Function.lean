import CallScript.Environment
import CallScript.Journal
import CallScript.Value

/-! Functions that scripts can call: a name, an arity, a kind, a documentation and a body. A body is one
of a fixed stock of actions on the arguments; those that look at more than the arguments say so by name. -/
namespace CallScript

inductive FunctionKind where
  | statement
  | rvalue
  deriving DecidableEq, Repr

def FunctionKind.name : FunctionKind → String
  | .statement => "statement"
  | .rvalue => "rvalue"

def FunctionKind.ofValue? : Value → Option FunctionKind
  | .text s => if s == "statement" then some .statement else if s == "rvalue" then some .rvalue else none
  | _ => none

inductive Body where
  | arguments
  | sequence
  | count
  | first
  | multiple (n : Nat)
  | joined
  | environmentName
  | ambientName
  | sameRegistry
  | readVariable
  | writeVariable
  | delegate
  | defineConstant
  | constant (v : Value)
  | raiseReport (message : String)
  | crash (message : String)
  | log (level : Level)
  | defined
  | fail
  | mean
  | safeDivide
  | digest
  | split
  | format
  deriving Inhabited

structure Function where
  name : String
  /-- The exact number of arguments, or `-n` for at least `n - 1`. -/
  arity : Int
  kind : FunctionKind
  doc : Value
  body : Body

def Function.shown (f : Function) : String :=
  "<FunctionWrapper " ++ f.name ++ "/" ++ toString f.arity ++ ">"

def Function.minimum (f : Function) : Nat :=
  (f.arity + 1).natAbs

def Function.accepts (f : Function) (given : Nat) : Bool :=
  if 0 ≤ f.arity then given == f.arity.toNat else f.minimum ≤ given

/-- A definition as it is asked for, its options still to be checked. An absent environment is the
ambient one, an absent arity any number of arguments. -/
structure Definition where
  name : Value
  body : Body
  arity : Value := .int (-1)
  kind : Value := .text "statement"
  doc : Value := .null
  environment : Value := .null

end CallScript
