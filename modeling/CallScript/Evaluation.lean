import CallScript.Calling
import CallScript.Syntax.Literal
import CallScript.Syntax.Script

/-! The meaning of scripts. Statements run in order and the last one gives the value; the operands of an
operator are evaluated from left to right, except that a conjunction and a disjunction stop at the first
operand that decides them. A call is checked against the kind of its function before its arguments are
evaluated. -/
namespace CallScript

open Syntax (Node Tree Operator UnaryOperator)

def Syntax.Operator.apply (op : Operator) (a b : Value) : Except Fault Value :=
  match op with
  | .arithmetic op => op.apply a b
  | .equal => .ok (.bool (a.same b))
  | .unequal => .ok (.bool (!a.same b))
  | .relation r => do return .bool (← a.related r b)
  | .both | .either => .ok .null
  | .unknown symbol => .error (.unknownOperator symbol)

def Fault.isOperational (f : Fault) : Bool :=
  match f.kind with
  | .typeMismatch | .zeroDivision | .overflow => true
  | _ => false

def applyOperator (op : Operator) (a b : Value) : Except Failure Value :=
  match op.apply a b with
  | .ok v => .ok v
  | .error f =>
      if f.isOperational then
        match a.shown, b.shown with
        | .ok left, .ok right => .error (.operation op.symbol left right f)
        | .error g, _ | _, .error g => .error (.fault g)
      else .error (.fault f)

def applyUnary (op : UnaryOperator) (v : Value) : Except Failure Value :=
  match op with
  | .minus =>
      match v.negate with
      | .ok negated => .ok negated
      | .error f =>
          match v.shown with
          | .ok operand => .error (.negation operand f)
          | .error g => .error (.fault g)
  | .negation => .ok (.bool (!v.truthy))
  | .unknown symbol => .error (.unknownUnary symbol)

def attempt {α : Type} : Except Failure α → Running α
  | .ok a => pure a
  | .error failure => throw failure

def resolveCall (around : Surroundings) (scope : Scope) (name : String) (statement : Bool) : Running Function := do
  match ← onHost (lookup around.tree name scope.environment) with
  | none => throw (.unknownFunction name scope.environment)
  | some f =>
      if statement && f.kind == .rvalue then throw (.mustBeValue name)
      else if !statement && f.kind != .rvalue then throw (.noValue name)
      else return f

mutual

def evaluate (around : Surroundings) (scope : Scope) : Node → Running Value
  | .program statements => evaluateInOrder around scope .null statements
  | .assignment name value => do
      let v ← evaluate around scope value
      assign name v
      return v
  | .literal leaf => return leaf.value
  | .variable name => variableValue name
  | .list items => return .list (← evaluateAll around scope items)
  | .unary op operand => do attempt (applyUnary op (← evaluate around scope operand))
  | .binary op left right => do
      let a ← evaluate around scope left
      match op with
      | .both =>
          if a.truthy then return .bool (← evaluate around scope right).truthy else return .bool false
      | .either =>
          if a.truthy then return .bool true else return .bool (← evaluate around scope right).truthy
      | op => attempt (applyOperator op a (← evaluate around scope right))
  | .call name args statement => do
      let f ← resolveCall around scope name statement
      let values ← evaluateAll around scope args
      call around (some scope) false values f
  | .foreign v => throw (.fault (.unknownNode v.type))

def evaluateAll (around : Surroundings) (scope : Scope) : List Node → Running (List Value)
  | [] => return []
  | node :: rest => do
      let v ← evaluate around scope node
      return v :: (← evaluateAll around scope rest)

def evaluateInOrder (around : Surroundings) (scope : Scope) (last : Value) : List Node → Running Value
  | [] => return last
  | node :: rest => do
      let v ← evaluate around scope node
      evaluateInOrder around scope v rest

end

structure Completion where
  result : Except Failure Value
  bindings : Dictionary Value
  host : Host

def runOn (around : Surroundings) (scope : Scope) (host : Host) (bindings : Dictionary Value) (node : Node) :
    Completion :=
  let (result, run) := (evaluate around scope node).run ⟨host, bindings⟩
  ⟨result, run.bindings, run.host⟩

def parse (source : String) : Except Failure Node :=
  match Syntax.readTree source with
  | .error misfit => .error (.misfit misfit)
  | .ok tree =>
      match tree.decode Syntax.Lexeme.literal with
      | .error f => .error (.badLiteral f)
      | .ok node => .ok node

end CallScript
