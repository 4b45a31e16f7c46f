import CallScript.Syntax.Terminal

/-! How far a script has been read. The statements that are complete, the constructs that are open
around the current place, and the phase say which tokens may follow; `step` takes one token, `finish`
the end of the script. An operator closes the pending operators that bind at least as tightly, except
that powers group to the right. -/
namespace CallScript.Syntax

structure Token where
  kind : Terminal
  text : String
  deriving DecidableEq, Repr

def Operator.level : Operator → Nat
  | .either => 1
  | .both => 2
  | .equal | .unequal | .relation _ => 3
  | .arithmetic .add | .arithmetic .subtract => 4
  | .arithmetic .multiply | .arithmetic .divide | .arithmetic .modulo => 5
  | .arithmetic .power => 6
  | .unknown _ => 0

def Operator.rightward (op : Operator) : Bool :=
  op == .arithmetic .power

inductive Frame where
  | assignment (name : String)
  | unary (op : UnaryOperator)
  | binary (op : Operator) (left : Tree Lexeme)
  | group
  | list (items : List (Tree Lexeme))
  | call (name : String) (args : List (Tree Lexeme))

inductive Phase where
  | statement
  | target (name : String)
  | callee (name : String)
  | operand (opened : Bool)
  | ended (tree : Tree Lexeme)

structure Reading where
  statements : List (Tree Lexeme)
  frames : List Frame
  phase : Phase

def Reading.start : Reading := ⟨[], [], .statement⟩

/-- Whether a pending operator takes its operand before `op` does. -/
def Frame.closesBefore (op : Operator) : Frame → Bool
  | .unary _ => true
  | .binary pending _ => if op.rightward then op.level < pending.level else op.level ≤ pending.level
  | _ => false

def Frame.close (tree : Tree Lexeme) : Frame → Tree Lexeme
  | .unary op => .unary op tree
  | .binary op left => .binary op left tree
  | _ => tree

def closeBefore (op : Operator) : Tree Lexeme → List Frame → Tree Lexeme × List Frame
  | tree, [] => (tree, [])
  | tree, frame :: frames =>
      if frame.closesBefore op then closeBefore op (frame.close tree) frames else (tree, frame :: frames)

def Frame.isOperator : Frame → Bool
  | .unary _ | .binary _ _ => true
  | _ => false

def closeAll : Tree Lexeme → List Frame → Tree Lexeme × List Frame
  | tree, [] => (tree, [])
  | tree, frame :: frames =>
      if frame.isOperator then closeAll (frame.close tree) frames else (tree, frame :: frames)

def Phase.wants : Phase → Terminal → Bool
  | .statement, t => t == .variable || t == .name
  | .target _, t => t == .equal
  | .callee _, t => t == .leftParenthesis
  | .operand opened, t =>
      [.number, .text, .variable, .name, .falseWord, .trueWord, .bang, .leftParenthesis, .leftBracket,
        .operator (.arithmetic .subtract)].contains t ||
      (opened && (t == .rightParenthesis || t == .rightBracket))
  | .ended _, .operator _ => true
  | .ended _, t => [.variable, .name, .comma, .rightParenthesis, .rightBracket, .semicolon].contains t

def variableName (text : String) : String :=
  String.ofList (text.toList.drop 1)

/-- Ends the current statement: an assignment whose value is complete, or a call. -/
def Reading.endStatement (r : Reading) (tree : Tree Lexeme) : Option Reading :=
  match closeAll tree r.frames with
  | (tree, [.assignment name]) => some ⟨.assignment name tree :: r.statements, [], .statement⟩
  | (tree, []) => some ⟨tree :: r.statements, [], .statement⟩
  | _ => none

def Reading.beginStatement (r : Reading) (t : Token) : Option Reading :=
  match t.kind with
  | .variable => some { r with phase := .target (variableName t.text) }
  | .name => some { r with phase := .callee t.text }
  | _ => none

def Reading.operandStep (r : Reading) (opened : Bool) (t : Token) : Option Reading :=
  let ended (tree : Tree Lexeme) : Option Reading := some { r with phase := .ended tree }
  let push (frame : Frame) (opened : Bool) : Option Reading :=
    some { r with frames := frame :: r.frames, phase := .operand opened }
  match t.kind with
  | .number => ended (.literal (.number t.text))
  | .text => ended (.literal (.text t.text))
  | .trueWord => ended (.literal (.truth true))
  | .falseWord => ended (.literal (.truth false))
  | .variable => ended (.variable (variableName t.text))
  | .name => some { r with phase := .callee t.text }
  | .operator (.arithmetic .subtract) => push (.unary .minus) false
  | .bang => push (.unary .negation) false
  | .leftParenthesis => push .group false
  | .leftBracket => push (.list []) true
  | .rightParenthesis =>
      match opened, r.frames with
      | true, .call name [] :: frames => some { r with frames, phase := .ended (.call name [] frames.isEmpty) }
      | _, _ => none
  | .rightBracket =>
      match opened, r.frames with
      | true, .list [] :: frames => some { r with frames, phase := .ended (.list []) }
      | _, _ => none
  | _ => none

def Reading.endedStep (r : Reading) (tree : Tree Lexeme) (t : Token) : Option Reading :=
  match t.kind with
  | .operator op =>
      match closeBefore op tree r.frames with
      | (_, []) => none
      | (tree, frames) => some { r with frames := .binary op tree :: frames, phase := .operand false }
  | .comma =>
      match closeAll tree r.frames with
      | (tree, .list items :: frames) =>
          some { r with frames := .list (tree :: items) :: frames, phase := .operand false }
      | (tree, .call name args :: frames) =>
          some { r with frames := .call name (tree :: args) :: frames, phase := .operand false }
      | _ => none
  | .rightParenthesis =>
      match closeAll tree r.frames with
      | (tree, .group :: frames) => some { r with frames, phase := .ended tree }
      | (tree, .call name args :: frames) =>
          some { r with frames, phase := .ended (.call name (tree :: args).reverse frames.isEmpty) }
      | _ => none
  | .rightBracket =>
      match closeAll tree r.frames with
      | (tree, .list items :: frames) => some { r with frames, phase := .ended (.list (tree :: items).reverse) }
      | _ => none
  | .semicolon => r.endStatement tree
  | _ => do (← r.endStatement tree).beginStatement t

def Reading.step (r : Reading) (t : Token) : Option Reading :=
  match r.phase with
  | .statement => r.beginStatement t
  | .target name =>
      if t.kind == .equal then some { r with frames := .assignment name :: r.frames, phase := .operand false }
      else none
  | .callee name =>
      if t.kind == .leftParenthesis then some { r with frames := .call name [] :: r.frames, phase := .operand true }
      else none
  | .operand opened => r.operandStep opened t
  | .ended tree => r.endedStep tree t

def Reading.finish (r : Reading) : Option (Tree Lexeme) :=
  match r.phase with
  | .statement => some (.program r.statements.reverse)
  | .ended tree => (r.endStatement tree).map (fun ended => .program ended.statements.reverse)
  | _ => none

end CallScript.Syntax
