import CallScript.Syntax.Tree
import CallScript.Value.Shown

/-! Two views of a tree: an outline of one line for each node, children indented below it and labelled
by their part, and a record of nested dictionaries. -/
namespace CallScript.Syntax

def indexed (label : String) (n : Nat) : String :=
  label ++ "[" ++ toString n ++ "]"

def callStyle (statement : Bool) : String :=
  if statement then "statement" else "value"

def Tree.headline : Node → Except Fault String
  | .program _ => .ok "Program"
  | .assignment name _ => .ok ("Assignment($" ++ name ++ ")")
  | .literal leaf => return leaf.kind.name ++ "(" ++ (← leaf.value.shown) ++ ")"
  | .variable name => .ok ("Variable($" ++ name ++ ")")
  | .list _ => .ok "List"
  | .unary op _ => .ok ("UnaryOp(" ++ op.symbol ++ ")")
  | .binary op _ _ => .ok ("BinOp(" ++ op.symbol ++ ")")
  | .call name _ statement => .ok ("Call(" ++ name ++ ", " ++ callStyle statement ++ ")")
  | .foreign v => .ok v.type.name

def indentation (indent : String) : Nat → String
  | 0 => ""
  | depth + 1 => indent ++ indentation indent depth

def outlineLine (indent : String) (depth : Nat) (label headline : String) : String :=
  indentation indent depth ++ (if label.isEmpty then "" else label ++ ": ") ++ headline

mutual

def Tree.outlineLines (indent : String) (depth : Nat) (label : String) (node : Node) :
    Except Fault (List String) := do
  let line := outlineLine indent depth label (← node.headline)
  match node with
  | .program statements => return line :: (← outlineChildren indent (depth + 1) "stmt" 0 statements)
  | .assignment _ value => return line :: (← value.outlineLines indent (depth + 1) "value")
  | .literal _ => return [line]
  | .variable _ => return [line]
  | .list items => return line :: (← outlineChildren indent (depth + 1) "item" 0 items)
  | .unary _ operand => return line :: (← operand.outlineLines indent (depth + 1) "operand")
  | .binary _ left right => do
      let leftLines ← left.outlineLines indent (depth + 1) "left"
      let rightLines ← right.outlineLines indent (depth + 1) "right"
      return line :: (leftLines ++ rightLines)
  | .call _ args _ => return line :: (← outlineChildren indent (depth + 1) "arg" 0 args)
  | .foreign _ => return [line]

def outlineChildren (indent : String) (depth : Nat) (label : String) (index : Nat) :
    List Node → Except Fault (List String)
  | [] => .ok []
  | node :: rest => do
      let lines ← node.outlineLines indent depth (indexed label index)
      return lines ++ (← outlineChildren indent depth label (index + 1) rest)

end

def Tree.outline (indent : String) (node : Node) : Except Fault String :=
  return "\n".intercalate (← node.outlineLines indent 0 "")

def record (type : String) (fields : List (String × Value)) : Value :=
  .dict (("type", .text type) :: fields |>.map (fun field => (.text field.1, field.2)))

mutual

def Tree.record : Node → Except Fault Value
  | .program statements => return Syntax.record "Program" [("statements", .list (← recordAll statements))]
  | .assignment name value =>
      return Syntax.record "Assignment" [("name", .text name), ("value", ← value.record)]
  | .literal leaf => .ok (Syntax.record leaf.kind.name [("value", leaf.value)])
  | .variable name => .ok (Syntax.record "Variable" [("name", .text name)])
  | .list items => return Syntax.record "List" [("items", .list (← recordAll items))]
  | .unary op operand =>
      return Syntax.record "UnaryOp" [("op", .text op.symbol), ("operand", ← operand.record)]
  | .binary op left right => do
      let left ← left.record
      return Syntax.record "BinOp" [("op", .text op.symbol), ("left", left), ("right", ← right.record)]
  | .call name args statement =>
      return Syntax.record "Call"
        [("name", .text name), ("statement", .bool statement), ("args", .list (← recordAll args))]
  | .foreign v => return Syntax.record "Unknown" [("repr", .text (← v.shown))]

def recordAll : List Node → Except Fault (List Value)
  | [] => .ok []
  | node :: rest => do
      let node ← node.record
      return node :: (← recordAll rest)

end

end CallScript.Syntax
