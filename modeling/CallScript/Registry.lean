import CallScript.Bundle
import CallScript.Failure
import CallScript.Number.Reading
import CallScript.Text.Scrubbed

/-! The registry of functions: a table for each environment, and the gateway through which what is
missing may be loaded. An environment sees its own table over that of the root. -/
namespace CallScript

structure Loader where
  searchPath : List Path := []
  environmentPath : Option Path := none
  bundled : Bool := true
  loaded : List (Environment × String) := []
  /-- How deep files may load one another, which the stack of the interpreter bounds. -/
  nesting : Nat := 160

inductive Answer where
  | define (d : Definition)
  | refuse (message : String)

structure Recorder where
  answers : Dictionary Answer
  loads : List (String × Environment)
  loadAlls : List Environment
  resets : Option Nat

inductive Gateway where
  | files (loader : Loader)
  | recording (recorder : Recorder)

structure Registry where
  tables : Dictionary Table
  gateway : Gateway

def Registry.table (r : Registry) (env : Environment) : Table :=
  (r.tables.get? env.name).getD Dictionary.empty

def Registry.get? (r : Registry) (name : String) (env : Environment) : Option Function :=
  match (r.table env).get? name with
  | some f => some f
  | none => (r.table Environment.root).get? name

def Registry.functions (r : Registry) (env : Environment) : Table :=
  (r.table Environment.root).overlay (r.table env)

def Registry.insert (r : Registry) (env : Environment) (f : Function) : Registry :=
  { r with tables := r.tables.put env.name ((r.table env).put f.name f) }

def Registry.isRvalue (r : Registry) (name : String) (env : Environment) : Bool :=
  match r.get? name env with
  | some f => f.kind == .rvalue
  | none => false

def Registry.arity (r : Registry) (name : String) (env : Environment) : Int :=
  match r.get? name env with
  | some f => f.arity
  | none => -1

def Registry.listing (r : Registry) (env : Environment) : List Function :=
  (r.functions env).sorted.map Prod.snd

structure Host where
  registry : Registry
  journal : Journal

/-- An action on a host. What it did before it failed stays done. -/
abbrev Hosted := ExceptT Failure (StateM Host)

def liftFault {α : Type} : Except Fault α → Hosted α
  | .ok a => pure a
  | .error f => throw (.fault f)

def record (source : Source) (level : Level) (message : String) : Hosted Unit :=
  modify (fun host => { host with journal := host.journal ++ [⟨source, level, message⟩] })

def modifyRegistry (change : Registry → Registry) : Hosted Unit :=
  modify (fun host => { host with registry := change host.registry })

def modifyLoader (change : Loader → Loader) : Hosted Unit :=
  modifyRegistry (fun r =>
    match r.gateway with
    | .files loader => { r with gateway := .files (change loader) }
    | .recording _ => r)

def modifyRecorder (change : Recorder → Recorder) : Hosted Unit :=
  modifyRegistry (fun r =>
    match r.gateway with
    | .recording recorder => { r with gateway := .recording (change recorder) }
    | .files _ => r)

def Environment.ofValue (ambient : Environment) : Value → Except Fault Environment
  | .null => .ok ambient
  | .environment name => .ok ⟨name⟩
  | .text name => .ok ⟨name⟩
  | v => do .error (.environmentFrom (← v.shown))

def arityOfValue : Value → Except Fault Int
  | .null => .ok (-1)
  | .text s => Number.readInteger s
  | .float x =>
      match Number.parts x with
      | .undefined => .error .undefinedToInteger
      | .infinite _ => .error .infiniteToInteger
      | .finite negative mantissa exponent => .ok (Number.truncate negative mantissa exponent)
  | v =>
      match v.wholeNumber? with
      | some n => .ok n
      | none => .error (.integerFrom v.type)

def kindOfValue (v : Value) : Hosted FunctionKind :=
  match FunctionKind.ofValue? v with
  | some kind => pure kind
  | none => do throw (.badKind (← liftFault v.shown))

def define (ambient : Environment) (d : Definition) : Hosted Function := do
  let name ← liftFault d.name.plain
  let kind ← kindOfValue d.kind
  let arity ← liftFault (arityOfValue d.arity)
  let env ← liftFault (Environment.ofValue ambient d.environment)
  if ((← get).registry.get? name env).isSome then
    record .registry .warning ("Overwriting previous definition for function " ++ name)
  let f : Function := ⟨name, arity, kind, d.doc, d.body⟩
  modifyRegistry (fun r => r.insert env f)
  return f

def logFunction (level : Level) : Function :=
  ⟨level.name, -1, .statement, .text ("Log a message on the server at level " ++ level.name ++ "."), .log level⟩

def Gateway.reset : Gateway → Gateway
  | .files loader => .files { loader with loaded := [] }
  | .recording recorder => .recording { recorder with resets := recorder.resets.map (· + 1) }

def Registry.reset (r : Registry) : Registry :=
  Level.all.foldl (fun r level => r.insert Environment.root (logFunction level))
    ⟨Dictionary.empty, r.gateway.reset⟩

def Registry.withGateway (gateway : Gateway) : Registry :=
  Registry.reset ⟨Dictionary.empty, gateway⟩

end CallScript
