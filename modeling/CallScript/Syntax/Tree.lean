import CallScript.Value.Arithmetic

/-! Scripts as trees. The leaves of a tree that has just been read are lexemes; `Tree.decode` turns
them into literals, the first of them that denotes nothing deciding the fault. -/
namespace CallScript.Syntax

inductive Operator where
  | arithmetic (op : Arithmetic)
  | equal
  | unequal
  | relation (r : Relation)
  | both
  | either
  | unknown (symbol : String)
  deriving DecidableEq, Repr

def Operator.symbol : Operator → String
  | .arithmetic op => op.symbol
  | .equal => "=="
  | .unequal => "!="
  | .relation r => r.symbol
  | .both => "&&"
  | .either => "||"
  | .unknown symbol => symbol

def Operator.known : List Operator := [
  .either, .both, .equal, .unequal,
  .relation .greater, .relation .greaterEqual, .relation .less, .relation .lessEqual,
  .arithmetic .add, .arithmetic .subtract, .arithmetic .multiply, .arithmetic .divide,
  .arithmetic .modulo, .arithmetic .power]

def Operator.ofSymbol (symbol : String) : Operator :=
  (Operator.known.find? (fun op => op.symbol == symbol)).getD (.unknown symbol)

inductive UnaryOperator where
  | minus
  | negation
  | unknown (symbol : String)
  deriving DecidableEq, Repr

def UnaryOperator.symbol : UnaryOperator → String
  | .minus => "-"
  | .negation => "!"
  | .unknown symbol => symbol

def UnaryOperator.ofSymbol (symbol : String) : UnaryOperator :=
  if symbol == "-" then .minus else if symbol == "!" then .negation else .unknown symbol

inductive LiteralKind where
  | number
  | text
  | truth
  deriving DecidableEq, Repr

def LiteralKind.name : LiteralKind → String
  | .number => "Number"
  | .text => "String"
  | .truth => "Boolean"

structure Literal where
  kind : LiteralKind
  value : Value

inductive Lexeme where
  | number (spelling : String)
  | text (spelling : String)
  | truth (b : Bool)
  deriving DecidableEq, Repr

inductive Tree (α : Type) where
  | program (statements : List (Tree α))
  | assignment (name : String) (value : Tree α)
  | literal (leaf : α)
  | variable (name : String)
  | list (items : List (Tree α))
  | unary (op : UnaryOperator) (operand : Tree α)
  | binary (op : Operator) (left right : Tree α)
  | call (name : String) (args : List (Tree α)) (statement : Bool)
  | foreign (v : Value)
  deriving Inhabited

abbrev Node := Tree Literal

mutual

def Tree.decode (literal : Lexeme → Except Fault Literal) : Tree Lexeme → Except Fault Node
  | .program statements => return .program (← decodeAll literal statements)
  | .assignment name value => return .assignment name (← value.decode literal)
  | .literal leaf => return .literal (← literal leaf)
  | .variable name => .ok (.variable name)
  | .list items => return .list (← decodeAll literal items)
  | .unary op operand => return .unary op (← operand.decode literal)
  | .binary op left right => do
      let left ← left.decode literal
      return .binary op left (← right.decode literal)
  | .call name args statement => return .call name (← decodeAll literal args) statement
  | .foreign v => .ok (.foreign v)

def decodeAll (literal : Lexeme → Except Fault Literal) : List (Tree Lexeme) → Except Fault (List Node)
  | [] => .ok []
  | tree :: rest => do
      let tree ← tree.decode literal
      return tree :: (← decodeAll literal rest)

end

end CallScript.Syntax
