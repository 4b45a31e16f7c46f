import CallScript.Dictionary
import CallScript.FileTree
import CallScript.Registry
import CallScript.Validation

/-! Where functions are sought, the environment to run in and the least level that is logged: from the
variables of the process, or from values. -/
namespace CallScript

structure Settings where
  functionPath : List String := []
  environmentPath : Option String := none
  environment : Option String := none
  level : Level := .notice

def levelSetting (s : String) : Checked Level :=
  match Level.ofName? s.toLower with
  | some level => .ok level
  | none => complain .unknownLevel [.field "log_level"]

def processVariable (process : Dictionary String) (name : String) : Option String :=
  (process.get? ("SCRIPTDSL_" ++ name)).filter (fun s => !s.isEmpty)

def searchPathParts (s : String) : List String :=
  (s.splitOn ":").filter (fun part => !part.isEmpty)

def Settings.ofProcess (process : Dictionary String) : Checked Settings := do
  let level ←
    match processVariable process "LOG_LEVEL" with
    | some s => levelSetting s
    | none => .ok Level.notice
  return { functionPath := ((processVariable process "FUNCTION_PATH").map searchPathParts).getD []
           environmentPath := processVariable process "ENVIRONMENT_PATH"
           environment := processVariable process "ENVIRONMENT"
           level }

def textSetting (place : List Locator) : Value → Checked String
  | .text s => .ok s
  | _ => complain .notText place

def optionalText (place : List Locator) : Value → Checked (Option String)
  | .null => .ok none
  | v => (textSetting place v).map some

def textItems (field : String) (index : Nat) : List Value → Checked (List String)
  | [] => .ok []
  | v :: rest =>
      ((textSetting [.field field, .item index] v).pair (textItems field (index + 1) rest)).map
        (fun (s, more) => s :: more)

def textList (field : String) (v : Value) : Checked (List String) :=
  match v.items? with
  | some items => textItems field 0 items
  | none => complain .notList [.field field]

def Settings.ofValues (values : Dictionary Value) : Checked Settings := do
  let read {α : Type} (field : String) (absent : α) (check : Value → Checked α) : Checked α :=
    match values.get? field with
    | some v => check v
    | none => .ok absent
  let paths := read "function_path" [] (textList "function_path")
  let environments := read "environment_path" none (optionalText [.field "environment_path"])
  let environment := read "environment" none (optionalText [.field "environment"])
  let level := read "log_level" Level.notice (fun v => do levelSetting (← textSetting [.field "log_level"] v))
  let ((functionPath, environmentPath), environment, level) ←
    (paths.pair environments).pair (environment.pair level)
  return { functionPath, environmentPath, environment, level }

/-- The loader that searches where settings say, and then among the bundled functions. An empty
directory of environments is as good as none. -/
def Settings.loader (settings : Settings) : Loader :=
  { searchPath := settings.functionPath.map Path.ofText
    environmentPath := (settings.environmentPath.filter (fun s => !s.isEmpty)).map Path.ofText }

def Settings.registry (settings : Settings) : Registry :=
  Registry.withGateway (.files settings.loader)

def Registry.stock : Registry :=
  Settings.registry {}

end CallScript
