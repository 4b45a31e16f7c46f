import CallScript.Analysis
import CallScript.Evaluation
import CallScript.Service.Address
import CallScript.Settings
import CallScript.Syntax.Outline

/-! The service: functions are listed and looked up, and scripts are analyzed, shown as trees and run,
by requests to a registry that lasts from one request to the next. Reports of the language are answered
as bad requests; faults, and values that JSON has no form for, as errors of the server. -/
namespace CallScript.Service

structure Request where
  method : String
  address : Address
  body : String

inductive Body where
  | json (v : Value)
  | text (s : String)
  | complaints (complaints : List Complaint)

structure Response where
  status : Nat
  body : Body

structure Server where
  registry : Registry
  tree : FileTree

/-- The server of a tree of files: functions are sought in its directory `lib`. -/
def Server.ofTree (tree : FileTree) : Server :=
  ⟨Settings.registry { functionPath := ["lib"] }, tree⟩

mutual

def isPortable : Value → Bool
  | .int n => n.natAbs < Nat.pow 10 digitLimit
  | .float x => !Number.isUndefined x && !Number.isInfinite x
  | .complex .. | .environment _ => false
  | .list items => arePortable items
  | .tuple items => arePortable items
  | .dict entries => areEntriesPortable entries
  | .null | .bool _ | .text _ => true

def arePortable : List Value → Bool
  | [] => true
  | v :: rest => isPortable v && arePortable rest

def areEntriesPortable : List (Value × Value) → Bool
  | [] => true
  | (_, v) :: rest => isPortable v && areEntriesPortable rest

end

def record (entries : List (String × Value)) : Value :=
  .dict (entries.map (fun (name, v) => (.text name, v)))

def textsValue (items : List String) : Value :=
  .list (items.map Value.text)

def internalError : Response :=
  ⟨500, .text "Internal Server Error"⟩

def jsonResponse (status : Nat) (v : Value) : Response :=
  if isPortable v then ⟨status, .json v⟩ else internalError

def detail (status : Nat) (message : String) : Response :=
  ⟨status, .json (record [("detail", .text message)])⟩

def reportValue (r : Report) : Value :=
  record [("message", .text r.message), ("code", .text r.kind.code), ("context", record r.context)]

def failureResponse (failure : Failure) : Response :=
  match failure.report? with
  | some r => jsonResponse 400 (record [("detail", reportValue r)])
  | none => internalError

def functionValue (f : Function) : Value :=
  record [("name", .text f.name), ("arity", .int f.arity), ("kind", .text f.kind.name), ("doc", f.doc)]

inductive Route where
  | functions
  | function (name : String)
  | documentation
  | parse
  | evaluate
  | ast
  deriving DecidableEq, Repr

def Route.method : Route → String
  | .functions | .function _ | .documentation => "GET"
  | .parse | .evaluate | .ast => "POST"

def Route.ofPath? (path : String) : Option Route :=
  match path with
  | "/functions" => some .functions
  | "/documentation" => some .documentation
  | "/parse" => some .parse
  | "/evaluate" => some .evaluate
  | "/ast" => some .ast
  | path =>
      match Text.pieces '/' path.toList with
      | [[], directory, name] =>
          if directory == "functions".toList && !name.isEmpty then some (.function (String.ofList name)) else none
      | _ => none

def trimSlashes (path : String) : String :=
  String.ofList (path.toList.reverse.dropWhile (· == '/')).reverse

def Route.find? (path : String) : Option Route :=
  match Route.ofPath? path with
  | some route => some route
  | none => if path.endsWith "/" then Route.ofPath? (trimSlashes path) else none

structure Task where
  script : String
  environment : Option String
  bindings : Dictionary Value

def bodyPlace (field : String) : List Locator := [.field "body", .field field]

def checkText (place : List Locator) : Value → Checked String
  | .text s => .ok s
  | _ => complain .notText place

def checkVariables : Value → Checked (Dictionary Value)
  | .dict entries =>
      .ok (Dictionary.ofList (entries.filterMap (fun (key, v) =>
        match key with
        | .text name => some (name, v)
        | _ => none)))
  | _ => complain .notDictionary (bodyPlace "variables")

def memberOf (entries : List (Value × Value)) (name : String) : Option Value :=
  entries.findSome? (fun (key, v) =>
    match key with
    | .text s => if s == name then some v else none
    | _ => none)

def Task.ofValue (withVariables : Bool) : Value → Checked Task
  | .dict entries => do
      let script : Checked String :=
        match memberOf entries "script" with
        | some v => checkText (bodyPlace "script") v
        | none => complain .missing (bodyPlace "script")
      let environment : Checked (Option String) :=
        match memberOf entries "environment" with
        | some .null | none => .ok none
        | some v => (checkText (bodyPlace "environment") v).map some
      let bindings : Checked (Dictionary Value) :=
        match memberOf entries "variables" with
        | some v => if withVariables then checkVariables v else .ok Dictionary.empty
        | none => .ok Dictionary.empty
      let (script, environment, bindings) ← script.pair (environment.pair bindings)
      return ⟨script, environment, bindings⟩
  | _ => complain .notRecord [.field "body"]

def readTask (withVariables : Bool) (body : String) : Except Response Task :=
  if body.isEmpty then .error ⟨422, .complaints [⟨.missing, [.field "body"]⟩]⟩
  else
    match Json.read (String.ofList (if body.startsWith "\ufeff" then body.toList.drop 1 else body.toList)) with
    | .error (.place n) => .error ⟨422, .complaints [⟨.unreadable, [.field "body", .item n]⟩]⟩
    | .error .tooManyDigits => .error (detail 400 "There was an error parsing the body")
    | .ok v =>
        match Task.ofValue withVariables v with
        | .ok task => .ok task
        | .error complaints => .error ⟨422, .complaints complaints⟩

def environmentOf (name : Option String) : Environment :=
  match name with
  | some name => ⟨name⟩
  | none => Environment.root

def Server.act {α : Type} (s : Server) (action : Hosted α) : Except Failure α × Server :=
  let (result, host) := action.run ⟨s.registry, []⟩
  (result, { s with registry := host.registry })

def Server.functions (s : Server) (env : Environment) : Response :=
  jsonResponse 200 (record [("functions", .list ((s.registry.listing env).map functionValue))])

def Server.function (s : Server) (name : String) (env : Environment) : Response × Server :=
  let (result, s) := s.act (lookup s.tree name env)
  match result with
  | .error failure => (failureResponse failure, s)
  | .ok none => (detail 404 ("Unknown function '" ++ name ++ "'"), s)
  | .ok (some f) => (jsonResponse 200 (functionValue f), s)

def Server.documentation (s : Server) (env : Environment) : Response × Server :=
  let (result, s) := s.act (CallScript.documentation s.tree env)
  match result with
  | .error _ => (internalError, s)
  | .ok text => (⟨200, .text text⟩, s)

def analysisValue (a : Analysis) : Value :=
  record [("ok", .bool a.problems.isEmpty), ("assigned", textsValue a.assigned),
    ("variables", textsValue a.reads), ("functions", textsValue a.functions),
    ("problems", textsValue a.problems)]

def Server.parse (s : Server) (task : Task) : Response :=
  match CallScript.parse task.script with
  | .error failure => failureResponse failure
  | .ok node => jsonResponse 200 (analysisValue (analyze s.registry (environmentOf task.environment) node))

def treeResponse (task : Task) : Response :=
  match CallScript.parse task.script with
  | .error failure => failureResponse failure
  | .ok node =>
      match node.outline "  ", node.record with
      | .ok outline, .ok tree =>
          jsonResponse 200 (record [("ok", .bool true), ("pretty", .text outline), ("tree", tree)])
      | _, _ => internalError

def Server.evaluate (s : Server) (task : Task) : Response × Server :=
  match CallScript.parse task.script with
  | .error failure => (failureResponse failure, s)
  | .ok node =>
      let env := environmentOf task.environment
      let done := runOn ⟨s.tree, Environment.root⟩ ⟨env, true⟩ ⟨s.registry, []⟩ task.bindings node
      let s := { s with registry := done.host.registry }
      match done.result with
      | .error failure => (failureResponse failure, s)
      | .ok _ =>
          (jsonResponse 200
            (record [("environment", .text env.name), ("variables", record done.bindings.entries)]), s)

def Server.take (s : Server) (route : Route) (r : Request) : Response × Server :=
  let env := environmentOf (r.address.value? "environment")
  match route with
  | .functions => (s.functions env, s)
  | .function name => s.function name env
  | .documentation => s.documentation env
  | .parse =>
      match readTask false r.body with
      | .error response => (response, s)
      | .ok task => (s.parse task, s)
  | .ast =>
      match readTask false r.body with
      | .error response => (response, s)
      | .ok task => (treeResponse task, s)
  | .evaluate =>
      match readTask true r.body with
      | .error response => (response, s)
      | .ok task => s.evaluate task

def Server.answer (s : Server) (r : Request) : Response × Server :=
  match Route.find? r.address.path with
  | none => (detail 404 "Not Found", s)
  | some route =>
      if r.method == route.method then s.take route r else (detail 405 "Method Not Allowed", s)

def Server.answerAll (s : Server) : List Request → List Response
  | [] => []
  | r :: rest =>
      let (response, s) := s.answer r
      response :: s.answerAll rest

end CallScript.Service
