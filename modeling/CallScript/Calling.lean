import CallScript.Digest.Sha1
import CallScript.Loading
import CallScript.Number.Mean
import CallScript.Pattern.Split
import CallScript.Value.Arithmetic

/-! Calls of functions. A function checks the number of its arguments and then acts; what it may look at
or change beyond them belongs to the scope it is called from: the variables, the environment, and the
registry. Without a scope a function acts on the active registry in the ambient environment. -/
namespace CallScript

structure Surroundings where
  tree : FileTree
  ambient : Environment

structure Scope where
  environment : Environment
  active : Bool

structure Run where
  host : Host
  bindings : Dictionary Value

/-- An action of a running script. What it did before it failed stays done. -/
abbrev Running := ExceptT Failure (StateM Run)

def onHost {α : Type} (action : Hosted α) : Running α := ExceptT.mk do
  let run ← get
  let (result, host) := action.run run.host
  set { run with host }
  return result

def fallible {α : Type} : Except Fault α → Running α
  | .ok a => pure a
  | .error f => throw (.fault f)

structure Arguments where
  values : List Value
  tuple : Bool := false

def Arguments.asValue (args : Arguments) : Value :=
  if args.tuple then .tuple args.values else .list args.values

def Arguments.get (args : Arguments) (n : Nat) : Except Fault Value :=
  match args.values[n]? with
  | some v => .ok v
  | none => .error (.missingIndex (if args.tuple then .tuple else .list))

def hashable : Value → Except Fault Unit
  | .list _ => .error (.unhashable .list)
  | .dict _ => .error (.unhashable .dict)
  | _ => .ok ()

def variableKey (v : Value) : Except Fault String := do
  hashable v
  v.plain

def variableValue (name : String) : Running Value := do
  match (← get).bindings.get? name with
  | some v => return v
  | none => throw (.unknownVariable name)

def assign (name : String) (v : Value) : Running Unit :=
  modify (fun run => { run with bindings := run.bindings.put name v })

mutual

def flatten : Value → List Value
  | .list items => flattenAll items
  | .tuple items => flattenAll items
  | v => [v]

def flattenAll : List Value → List Value
  | [] => []
  | v :: rest => flatten v ++ flattenAll rest

end

def Value.toFloat : Value → Except Fault Float
  | .text s => Number.readFloat s
  | .float x => .ok x
  | v =>
      match v.wholeNumber? with
      | some n => floatOfInt n
      | none => .error (.floatFrom v.type)

def Value.toSample : Value → Except Fault Float
  | .null => .ok Number.undefinedFloat
  | v => v.toFloat

def meanOf (values : List Value) : Except Fault Value := do
  return .float (Number.mean (← (flattenAll values).mapM Value.toSample))

def reportedBy (function : String) (f : Fault) : Failure :=
  match f.kind with
  | .typeMismatch | .badValue => .scripted (function ++ "(): " ++ f.message)
  | _ => .fault f

def reporting {α : Type} (function : String) : Except Fault α → Running α
  | .ok a => pure a
  | .error f => throw (reportedBy function f)

def safeQuotient (x y : Float) : Float :=
  if y == 0.0 || Number.isUndefined y then 0.0 else x / y

def digestOf (s : String) : String :=
  Digest.hexText (Digest.sha1 s.toUTF8.toList)

def splitPieces (pieces : List (Option String)) : Value :=
  .list (pieces.map (fun piece =>
    match piece with
    | some s => .text s
    | none => .null))

def needScope (scope : Option Scope) (field : String) : Except Fault Scope :=
  match scope with
  | some s => .ok s
  | none => .error (.missingAttribute field)

def Body.act (around : Surroundings) (scope : Option Scope) (args : Arguments) : Body → Running Value
  | .arguments => return .list args.values
  | .sequence => return args.asValue
  | .count => return .int args.values.length
  | .first => fallible (args.get 0)
  | .multiple n => fallible (do Arithmetic.apply .multiply (← args.get 0) (.int n))
  | .joined => return .text (← fallible (joinPlain "" args.values))
  | .environmentName =>
      match scope with
      | some s => return .text s.environment.name
      | none => return .null
  | .ambientName => return .text around.ambient.name
  | .sameRegistry => return .bool (← fallible (needScope scope "registry")).active
  | .readVariable => do
      let _ ← fallible (needScope scope "lookup_var")
      variableValue (← fallible (do variableKey (← args.get 0)))
  | .writeVariable => do
      let _ ← fallible (needScope scope "set_var")
      let name ← fallible (args.get 0)
      let v ← fallible (args.get 1)
      assign (← fallible (variableKey name)) v
      return .null
  | .delegate => return .null
  | .defineConstant => do
      let s ← fallible (needScope scope "registry")
      let name ← fallible (args.get 0)
      let v ← fallible (args.get 1)
      let kind ← fallible (args.get 2)
      let d : Definition :=
        { name, body := .constant v, arity := .int 0, kind, environment := .environment s.environment.name }
      let _ ← onHost (define around.ambient d)
      return .null
  | .constant v => return v
  | .raiseReport message => throw (.scripted message)
  | .crash message => throw (.fault (.crash message))
  | .log level => do
      let message ← fallible (joinPlain " " args.values)
      onHost (record .script level message)
      return .null
  | .defined => do
      let name ← fallible (do (← args.get 0).plain)
      let env := match scope with
        | some s => s.environment
        | none => around.ambient
      return .bool (← onHost (lookup around.tree name env)).isSome
  | .fail => do throw (.scripted (← fallible (joinPlain " " args.values)))
  | .mean => fallible (meanOf args.values)
  | .safeDivide => do
      let (x, y) ← reporting "sdiv" (do
        let x ← (← args.get 0).toFloat
        return (x, ← (← args.get 1).toFloat))
      return .float (safeQuotient x y)
  | .digest => return .text (digestOf (← fallible (do (← args.get 0).plain)))
  | .split => do
      let pattern ← fallible (do (← args.get 1).plain)
      let text ← fallible (do (← args.get 0).plain)
      return splitPieces (← fallible (Pattern.split pattern text))
  | .format => do
      let template ← fallible (do (← args.get 0).plain)
      return .text (← reporting "sprintf" (Template.fill template (.tuple (args.values.drop 1))))

def Function.check (f : Function) (given : Nat) : Except Failure Unit :=
  if f.accepts given then .ok ()
  else if 0 ≤ f.arity then .error (.argumentCount f.name given f.arity.toNat false)
  else .error (.argumentCount f.name given f.minimum true)

/-- Calls a function. One that delegates calls the function that its first argument names with the
others. -/
def call (around : Surroundings) (scope : Option Scope) (tuple : Bool) : List Value → Function → Running Value
  | [], f => do
      liftExcept (f.check 0)
      match f.body with
      | .delegate => do
          let _ ← fallible (needScope scope "registry")
          fallible (Arguments.get ⟨[], tuple⟩ 0)
      | body => body.act around scope ⟨[], tuple⟩
  | v :: rest, f => do
      liftExcept (f.check (rest.length + 1))
      match f.body with
      | .delegate => do
          let s ← fallible (needScope scope "registry")
          let name ← fallible v.plain
          match ← onHost (lookup around.tree name s.environment) with
          | some g => call around scope tuple rest g
          | none => throw (.fault .notCallable)
      | body => body.act around scope ⟨v :: rest, tuple⟩
where
  liftExcept {α : Type} : Except Failure α → Running α
    | .ok a => pure a
    | .error failure => throw failure

end CallScript
