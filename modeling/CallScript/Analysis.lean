import CallScript.Registry
import CallScript.Syntax.Tree

/-! What a script mentions: the variables it assigns, the variables it reads, the functions it calls, and
the calls that stand where their function may not. Nothing is loaded for it. -/
namespace CallScript

open Syntax (Node Tree)

namespace Syntax

mutual

def Tree.subtrees {α : Type} : Tree α → List (Tree α)
  | .program statements => .program statements :: allSubtrees statements
  | .assignment name value => .assignment name value :: value.subtrees
  | .literal leaf => [.literal leaf]
  | .variable name => [.variable name]
  | .list items => .list items :: allSubtrees items
  | .unary op operand => .unary op operand :: operand.subtrees
  | .binary op left right => .binary op left right :: (left.subtrees ++ right.subtrees)
  | .call name args statement => .call name args statement :: allSubtrees args
  | .foreign v => [.foreign v]

def allSubtrees {α : Type} : List (Tree α) → List (Tree α)
  | [] => []
  | tree :: rest => tree.subtrees ++ allSubtrees rest

end

def Tree.assignedName? {α : Type} : Tree α → Option String
  | .assignment name _ => some name
  | _ => none

def Tree.variableName? {α : Type} : Tree α → Option String
  | .variable name => some name
  | _ => none

def Tree.call? {α : Type} : Tree α → Option (String × Bool)
  | .call name _ statement => some (name, statement)
  | _ => none

def Tree.assigned {α : Type} (tree : Tree α) : List String := tree.subtrees.filterMap Tree.assignedName?

def Tree.reads {α : Type} (tree : Tree α) : List String := tree.subtrees.filterMap Tree.variableName?

def Tree.calls {α : Type} (tree : Tree α) : List (String × Bool) := tree.subtrees.filterMap Tree.call?

end Syntax

def problemOf (r : Registry) (env : Environment) (name : String) (statement : Bool) : Option Failure :=
  match r.get? name env with
  | none => none
  | some f =>
      if statement && f.kind == .rvalue then some (.mustBeValue name)
      else if !statement && f.kind == .statement then some (.noValue name)
      else none

structure Analysis where
  assigned : List String
  reads : List String
  functions : List String
  problems : List String
  deriving DecidableEq, Repr

def sortedNames (names : List String) : List String :=
  (names.mergeSort (fun a b => decide (a ≤ b))).eraseDups

def analyze (r : Registry) (env : Environment) (node : Node) : Analysis :=
  { assigned := sortedNames node.assigned
    reads := sortedNames node.reads
    functions := sortedNames (node.calls.map Prod.fst)
    problems := (node.calls.filterMap (fun (name, statement) => problemOf r env name statement)).map Failure.message }

end CallScript
