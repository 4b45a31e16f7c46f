import CallScript.Analysis
import CallScript.Evaluation
import CallScript.Settings

/-! Sessions: a registry of its own beside the standard one, and steps that act on them one after the
other. A step that fails leaves what it did before it failed; the steps after it are taken all the same. -/
namespace CallScript

inductive Owner where
  | own
  | standard
  deriving DecidableEq, Repr

inductive Target where
  | registry (owner : Owner)
  | active

structure Session where
  own : Registry
  standard : Registry
  tree : FileTree
  environments : List Environment
  activations : List Owner
  workspace : Environment × Dictionary Value
  journal : Journal

def Session.open (own : Registry) (tree : FileTree) : Session :=
  { own, standard := Registry.stock, tree, environments := [], activations := []
    workspace := (Environment.root, Dictionary.empty), journal := [] }

def Session.ambient (s : Session) : Environment :=
  s.environments.headD Environment.root

def Session.active (s : Session) : Owner :=
  s.activations.headD .standard

def Session.registry (s : Session) : Owner → Registry
  | .own => s.own
  | .standard => s.standard

def Session.setRegistry (s : Session) (r : Registry) : Owner → Session
  | .own => { s with own := r }
  | .standard => { s with standard := r }

def Session.owner (s : Session) : Target → Owner
  | .registry owner => owner
  | .active => s.active

def Session.surroundings (s : Session) : Surroundings :=
  ⟨s.tree, s.ambient⟩

def Session.scope (s : Session) (owner : Owner) (env : Environment) : Scope :=
  ⟨env, s.active == owner⟩

abbrev InSession := ExceptT Failure (StateM Session)

def onRegistry {α : Type} (owner : Owner) (action : Hosted α) : InSession α := ExceptT.mk do
  let s ← get
  let (result, host) := action.run ⟨s.registry owner, s.journal⟩
  set { s.setRegistry host.registry owner with journal := host.journal }
  return result

def onRun {α : Type} (owner : Owner) (bindings : Dictionary Value) (action : Running α) :
    InSession (Except Failure α × Dictionary Value) := do
  let s ← get
  let (result, run) := action.run ⟨⟨s.registry owner, s.journal⟩, bindings⟩
  set { s.setRegistry run.host.registry owner with journal := run.host.journal }
  return (result, run.bindings)

def settle {α : Type} : Except Failure α → InSession α
  | .ok a => pure a
  | .error failure => throw failure

def settleFault {α : Type} : Except Fault α → InSession α
  | .ok a => pure a
  | .error f => throw (.fault f)

def environmentOf (v : Value) : InSession Environment := do
  settleFault (Environment.ofValue (← get).ambient v)

structure Invocation where
  positional : List Value
  keywords : Bool
  bindings : Option (Dictionary Value)

inductive Step where
  | define (target : Target) (d : Definition)
  | register (d : Definition)
  | get (target : Target) (name env : Value)
  | lookup (target : Target) (name env : Value)
  | call (target : Target) (name env : Value) (invocation : Invocation)
  | isRvalue (target : Target) (name env : Value)
  | arity (target : Target) (name env : Value)
  | functions (target : Target) (env : Value)
  | table (target : Target) (env : Value)
  | listing (target : Target) (env : Value)
  | documentation (target : Target) (env : Value)
  | reset (target : Target)
  | load (target : Target) (name env : Value)
  | loadAll (target : Target) (env : Value)
  | isLoaded (target : Target) (name env : Value)
  | find (target : Target) (name env : Value)
  | searchDirectories (target : Target) (env : Value)
  | loadsInProgress (target : Target)
  | addPath (target : Target) (path : String)
  | write (path : String) (entry : Entry)
  | remove (path : String)
  | account
  | enter (env : Value)
  | leave
  | environment (env : Value)
  | activate (owner : Owner)
  | deactivate
  | active
  | run (target : Target) (script : String) (env : Value) (bindings : Dictionary Value)
  | analyze (target : Target) (script : String) (env : Value)
  | openWorkspace (env : Value) (bindings : Dictionary Value)
  | evaluate (script : String)
  | assign (name : String) (v : Value)
  | variable (name : String)
  | bindings

inductive Reply where
  | done
  | truth (b : Bool)
  | number (n : Int)
  | text (s : String)
  | texts (items : List String)
  | value (v : Value)
  | noFunction
  | nothing
  | function (f : Function)
  | wrapper (f : Function)
  | functions (fs : List Function)
  | listing (fs : List Function)
  | table (env : Environment) (names : List String)
  | account (recorder : Recorder)
  | environment (env : Environment)
  | registry (owner : Owner)
  | outcome (env : Environment) (bindings : Dictionary Value)
  | analysis (a : Analysis)
  | bindings (bindings : Dictionary Value)

def Invocation.arguments? (i : Invocation) : Option Arguments :=
  if i.keywords then none
  else
    match i.positional with
    | [.list values] => some ⟨values, false⟩
    | [.tuple values] => some ⟨values, true⟩
    | _ => none

def invoke (f : Function) (env : Value) (i : Invocation) : InSession Reply := do
  let s ← get
  let scope ←
    match i.bindings with
    | none => pure none
    | some _ => do pure (some (s.scope .own (← environmentOf env)))
  match i.arguments? with
  | none => throw (.convention f.name)
  | some args => do
      let owner := if scope.isSome then Owner.own else s.active
      let bindings := i.bindings.getD Dictionary.empty
      let (result, _) ← onRun owner bindings (CallScript.call s.surroundings scope args.tuple args.values f)
      return .value (← settle result)

def evaluateOn (owner : Owner) (env : Environment) (bindings : Dictionary Value) (node : Syntax.Node) :
    InSession (Except Failure Value × Dictionary Value) := do
  let s ← get
  onRun owner bindings (CallScript.evaluate s.surroundings (s.scope owner env) node)

def analyzeOn (owner : Owner) (env : Value) (node : Syntax.Node) : InSession Analysis := do
  let s ← get
  let environment ← if node.calls.isEmpty then pure Environment.root else environmentOf env
  return CallScript.analyze (s.registry owner) environment node

def foundReply (shape : Function → Reply) : Option Function → Reply
  | some f => shape f
  | none => .nothing

def Session.loader? (s : Session) (owner : Owner) : Option Loader :=
  match (s.registry owner).gateway with
  | .files loader => some loader
  | .recording _ => none

def searchDirectoriesOf (owner : Owner) (env : Environment) : InSession (List Path) := do
  return (((← get).loader? owner).map (fun loader => loader.searchDirectories env)).getD []

def perform : Step → InSession Reply
  | .define target d => do
      let s ← get
      return .function (← onRegistry (s.owner target) (CallScript.define s.ambient d))
  | .register d => do
      let s ← get
      let _ ← onRegistry s.active (CallScript.define s.ambient d)
      return .truth true
  | .get target name env => do
      let s ← get
      let env ← environmentOf env
      return foundReply .function ((s.registry (s.owner target)).get? (← settleFault name.plain) env)
  | .lookup target name env => do
      let s ← get
      let name ← settleFault name.plain
      let env ← environmentOf env
      return foundReply .wrapper (← onRegistry (s.owner target) (CallScript.lookup s.tree name env))
  | .call target name env invocation => do
      let s ← get
      let name ← settleFault name.plain
      let environment ← environmentOf env
      match ← onRegistry (s.owner target) (CallScript.lookup s.tree name environment) with
      | none => return .noFunction
      | some f => invoke f env invocation
  | .isRvalue target name env => do
      let s ← get
      let env ← environmentOf env
      return .truth ((s.registry (s.owner target)).isRvalue (← settleFault name.plain) env)
  | .arity target name env => do
      let s ← get
      let env ← environmentOf env
      return .number ((s.registry (s.owner target)).arity (← settleFault name.plain) env)
  | .functions target env => do
      let s ← get
      return .functions ((s.registry (s.owner target)).listing (← environmentOf env))
  | .table target env => do
      let s ← get
      let env ← environmentOf env
      return .table env (((s.registry (s.owner target)).table env).sorted.map Prod.fst)
  | .listing target env => do
      let s ← get
      return .listing ((s.registry (s.owner target)).listing (← environmentOf env))
  | .documentation target env => do
      let s ← get
      let env ← environmentOf env
      return .text (← onRegistry (s.owner target) (CallScript.documentation s.tree env))
  | .reset target => do
      let s ← get
      onRegistry (s.owner target) (modifyRegistry Registry.reset)
      return .done
  | .load target name env => do
      let s ← get
      let name ← settleFault name.plain
      if (s.loader? (s.owner target)).isSome && !isLoadable name then return .truth false
      let env ← environmentOf env
      return .truth (← onRegistry (s.owner target) (CallScript.load s.tree name env))
  | .loadAll target env => do
      let s ← get
      let env ← environmentOf env
      onRegistry (s.owner target) (CallScript.loadAll s.tree env)
      return .done
  | .isLoaded target name env => do
      let s ← get
      let env ← environmentOf env
      let name ← settleFault name.plain
      return .truth (((s.loader? (s.owner target)).map (fun loader => loader.loaded.contains (env, name))).getD false)
  | .find target name env => do
      let s ← get
      let directories ← searchDirectoriesOf (s.owner target) (← environmentOf env)
      match ← settleFault (findIn s.tree (← settleFault name.plain) directories) with
      | some path => return .text path.text
      | none => return .nothing
  | .searchDirectories target env => do
      let s ← get
      let directories ← searchDirectoriesOf (s.owner target) (← environmentOf env)
      return .texts (directories.map Path.text)
  | .loadsInProgress _ => return .number 0
  | .addPath target path => do
      let s ← get
      onRegistry (s.owner target) (modifyLoader (fun loader =>
        { loader with searchPath := Path.ofText path :: loader.searchPath }))
      return .done
  | .write path entry => do
      modify (fun s => { s with tree := s.tree.write (Path.ofText path) entry })
      return .done
  | .remove path => do
      modify (fun s => { s with tree := s.tree.remove (Path.ofText path) })
      return .done
  | .account => do
      match (← get).own.gateway with
      | .recording recorder => return .account recorder
      | .files _ => return .nothing
  | .enter env => do
      let env ← environmentOf env
      modify (fun s => { s with environments := env :: s.environments })
      return .text env.name
  | .leave => do
      if (← get).environments.isEmpty then throw (.fault .emptyStack)
      modify (fun s => { s with environments := s.environments.tail })
      return .text (← get).ambient.name
  | .environment env => return .environment (← environmentOf env)
  | .activate owner => do
      modify (fun s => { s with activations := owner :: s.activations })
      return .done
  | .deactivate => do
      if (← get).activations.isEmpty then throw (.fault .emptyStack)
      modify (fun s => { s with activations := s.activations.tail })
      return .done
  | .active => return .registry (← get).active
  | .run target script env bindings => do
      let s ← get
      let node ← settle (parse script)
      let env ← environmentOf env
      let (result, bindings) ← evaluateOn (s.owner target) env bindings node
      let _ ← settle result
      return .outcome env bindings
  | .analyze target script env => do
      let s ← get
      return .analysis (← analyzeOn (s.owner target) env (← settle (parse script)))
  | .openWorkspace env bindings => do
      let env ← environmentOf env
      modify (fun s => { s with workspace := (env, bindings) })
      return .text env.name
  | .evaluate script => do
      let (env, bindings) := (← get).workspace
      let node ← settle (parse script)
      let (result, bindings) ← evaluateOn .own env bindings node
      modify (fun s => { s with workspace := (env, bindings) })
      return .value (← settle result)
  | .assign name v => do
      modify (fun s => { s with workspace := (s.workspace.1, s.workspace.2.put name v) })
      return .done
  | .variable name => do
      match (← get).workspace.2.get? name with
      | some v => return .value v
      | none => throw (.unknownVariable name)
  | .bindings => return .bindings (← get).workspace.2

structure Outcome where
  result : Except Failure Reply
  journal : Journal

def takeSteps (s : Session) : List Step → List Outcome × Session
  | [] => ([], s)
  | step :: rest =>
      let (result, s) := (perform step).run { s with journal := [] }
      let (outcomes, last) := takeSteps s rest
      (⟨result, s.journal⟩ :: outcomes, last)

/-- The account of a recording gateway names the requests of the whole session, those after the step
included; its resets are those up to the step. -/
def Reply.complete (last : Session) : Reply → Reply
  | .account recorder =>
      match last.own.gateway with
      | .recording final => .account { final with resets := recorder.resets }
      | .files _ => .account recorder
  | reply => reply

def Session.play (s : Session) (steps : List Step) : List Outcome :=
  let (outcomes, last) := takeSteps s steps
  outcomes.map (fun outcome => { outcome with result := outcome.result.map (Reply.complete last) })

end CallScript
