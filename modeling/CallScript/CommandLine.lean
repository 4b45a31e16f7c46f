import CallScript.CommandLine.Arguments
import CallScript.Evaluation
import CallScript.Settings
import CallScript.Text.Utf8

/-! The command line: it runs a script, writes the reference of all functions, or lists the functions
that are registered. What it reads and writes is a tree of files and two streams; a failure that it does
not report itself ends it. -/
namespace CallScript.CommandLine

inductive Command where
  | run (file : String)
  | reference (file : Option String)
  | functions
  deriving DecidableEq, Repr

structure Options where
  environment : Option String := none
  functionPath : List String := []
  level : Option Level := none

structure Request where
  options : Options
  command : Command

inductive Ending where
  | returned (status : Nat)
  | exited (status : Nat)
  | failed (failure : Failure)
  | rejected (complaints : List Complaint)

structure Transcript where
  ending : Ending
  output : String
  errors : String
  journal : Journal
  level : Level
  tree : FileTree

def helpSwitch : Switch := ⟨["-h", "--help"], false, []⟩

def environmentSwitch : Switch := ⟨["--environment"], true, []⟩

def pathSwitch : Switch := ⟨["--function-path"], true, []⟩

def levelSwitch : Switch := ⟨["--log-level"], true, Level.all.map Level.name⟩

def outputSwitch : Switch := ⟨["-o", "--output"], true, []⟩

def levelChoices : String :=
  "\x7b" ++ ",".intercalate (Level.all.map Level.name) ++ "\x7d"

def commandChoices : String := "\x7brun,reference,functions\x7d"

def mainInterface : Interface :=
  { program := "scriptdsl"
    switches := [helpSwitch, environmentSwitch, pathSwitch, levelSwitch]
    operand := some (.command "command" ["run", "reference", "functions"])
    usage := "usage: scriptdsl [-h] [--environment ENVIRONMENT]\n" ++
      "                 [--function-path FUNCTION_PATH]\n" ++
      "                 [--log-level " ++ levelChoices ++ "]\n" ++
      "                 " ++ commandChoices ++ " ...\n"
    description := "\npositional arguments:\n" ++
      "  " ++ commandChoices ++ "\n" ++
      "    run                 evaluate a script file\n" ++
      "    reference           print the function reference\n" ++
      "    functions           list registered functions\n" ++
      "\noptions:\n" ++
      "  -h, --help            show this help message and exit\n" ++
      "  --environment ENVIRONMENT\n" ++
      "                        environment to run in (default: $SCRIPTDSL_ENVIRONMENT\n" ++
      "                        or root)\n" ++
      "  --function-path FUNCTION_PATH\n" ++
      "                        extra directory of function definition files\n" ++
      "                        (repeatable)\n" ++
      "  --log-level " ++ levelChoices ++ "\n" }

def runInterface : Interface :=
  { program := "scriptdsl run"
    switches := [helpSwitch]
    operand := some (.word "file")
    usage := "usage: scriptdsl run [-h] file\n"
    description := "\npositional arguments:\n  file\n" ++
      "\noptions:\n  -h, --help  show this help message and exit\n" }

def referenceInterface : Interface :=
  { program := "scriptdsl reference"
    switches := [helpSwitch, outputSwitch]
    operand := none
    usage := "usage: scriptdsl reference [-h] [-o OUTPUT]\n"
    description := "\noptions:\n" ++
      "  -h, --help            show this help message and exit\n" ++
      "  -o OUTPUT, --output OUTPUT\n" ++
      "                        write to this file instead of stdout\n" }

def functionsInterface : Interface :=
  { program := "scriptdsl functions"
    switches := [helpSwitch]
    operand := none
    usage := "usage: scriptdsl functions [-h]\n"
    description := "\noptions:\n  -h, --help  show this help message and exit\n" }

structure Refusal where
  status : Nat
  output : String
  errors : String

def Interface.help (i : Interface) : Refusal :=
  ⟨0, i.usage ++ i.description, ""⟩

def Interface.refuse (i : Interface) (message : String) : Refusal :=
  ⟨2, "", i.usage ++ i.program ++ ": error: " ++ message ++ "\n"⟩

def Interface.accept (i : Interface) (r : Reading) : Except Refusal (List Finding × List String) :=
  if r.findings.contains (.switch helpSwitch none) then .error i.help
  else
    match r.error with
    | some message => .error (i.refuse message)
    | none => .ok (r.findings, r.leftOver)

def Options.add (options : Options) : Finding → Options
  | .switch s (some argument) =>
      if s = environmentSwitch then { options with environment := some argument }
      else if s = pathSwitch then { options with functionPath := options.functionPath ++ [argument] }
      else if s = levelSwitch then { options with level := Level.ofName? argument }
      else options
  | _ => options

def operandOf (findings : List Finding) : List String :=
  (findings.findSome? (fun finding =>
    match finding with
    | .operand words => some words
    | .switch .. => none)).getD []

def argumentOf (s : Switch) (findings : List Finding) : Option String :=
  (findings.reverse.findSome? (fun finding =>
    match finding with
    | .switch t argument => if t = s then argument else none
    | .operand _ => none))

def readCommand : List String → Except Refusal (Command × List String)
  | "run" :: words => do
      let (findings, leftOver) ← runInterface.accept (runInterface.read words)
      return (.run ((operandOf findings).headD ""), leftOver)
  | "reference" :: words => do
      let (findings, leftOver) ← referenceInterface.accept (referenceInterface.read words)
      return (.reference (argumentOf outputSwitch findings), leftOver)
  | words => do
      let (_, leftOver) ← functionsInterface.accept (functionsInterface.read (words.drop 1))
      return (.functions, leftOver)

def readRequest (words : List String) : Except Refusal Request := do
  let (findings, leftOver) ← mainInterface.accept (mainInterface.read words)
  let (command, more) ← readCommand (operandOf findings)
  if (leftOver ++ more).isEmpty then return ⟨findings.foldl Options.add {}, command⟩
  else .error (mainInterface.refuse ("unrecognized arguments: " ++ " ".intercalate (leftOver ++ more)))

def searchFirst (r : Registry) (paths : List String) : Registry :=
  match r.gateway with
  | .recording _ => r
  | .files loader =>
      { r with gateway := .files { loader with searchPath := (paths.map Path.ofText).reverse ++ loader.searchPath } }

/-- The environment to run in: an option goes before a setting, and an empty one counts for nothing. -/
def environmentOf (options : Options) (settings : Settings) : Environment :=
  match options.environment.filter (fun s => !s.isEmpty), settings.environment with
  | some name, _ => ⟨name⟩
  | none, some name => ⟨name⟩
  | none, none => Environment.root

def column (width : Nat) (s : String) : String :=
  s ++ String.ofList (List.replicate (width - s.length) ' ')

def listingLine (f : Function) : String :=
  column 16 f.name ++ " " ++ column 10 f.kind.name ++ " arity=" ++ toString f.arity ++ "\n"

structure Setting where
  host : Host
  active : Bool
  tree : FileTree
  environment : Environment
  level : Level

def Setting.finish (s : Setting) (ending : Ending) (output errors : String) : Transcript :=
  ⟨ending, output, errors, s.host.journal, s.level, s.tree⟩

def Setting.fail (s : Setting) (failure : Failure) : Transcript :=
  if failure.reportClass?.isSome then s.finish (.returned 1) "" ("Error: " ++ failure.message ++ "\n")
  else s.finish (.failed failure) "" ""

def readSource (tree : FileTree) (file : String) : Except Fault String := do
  let text ← Text.decodeText (← tree.readBytes (Path.ofText file))
  return String.ofList (Syntax.plainLineEnds text.toList)

def Setting.run (s : Setting) (file : String) : Transcript :=
  match readSource s.tree file with
  | .error (.fileMissing _) => s.finish (.returned 1) "" ("Error: file not found: " ++ file ++ "\n")
  | .error f => s.finish (.failed (.fault f)) "" ""
  | .ok source =>
      match parse source with
      | .error failure => s.fail failure
      | .ok node =>
          let done := runOn ⟨s.tree, Environment.root⟩ ⟨s.environment, s.active⟩ s.host Dictionary.empty node
          let s := { s with host := done.host }
          match done.result with
          | .error failure => s.fail failure
          | .ok _ => s.finish (.returned 0) "" ""

def Setting.reference (s : Setting) (file : Option String) : Transcript :=
  let (result, host) := (documentation s.tree s.environment).run s.host
  let s := { s with host }
  match result, file.filter (fun f => !f.isEmpty) with
  | .error failure, _ => s.finish (.failed failure) "" ""
  | .ok text, none => s.finish (.returned 0) text ""
  | .ok text, some file =>
      match s.tree.writeText (Path.ofText file) text with
      | .error f => s.finish (.failed (.fault f)) "" ""
      | .ok tree => { s with tree }.finish (.returned 0) "" ""

def Setting.functions (s : Setting) : Transcript :=
  s.finish (.returned 0) (String.join ((s.host.registry.listing s.environment).map listingLine)) ""

def Setting.perform (s : Setting) : Command → Transcript
  | .run file => s.run file
  | .reference file => s.reference file
  | .functions => s.functions

/-- Runs the program on a command line, with the variables of the process, a registry and a tree of
files. `active` tells whether the registry is the active one. -/
def run (process : Dictionary String) (registry : Registry) (active : Bool) (tree : FileTree)
    (words : List String) : Transcript :=
  match readRequest words with
  | .error refusal => ⟨.exited refusal.status, refusal.output, refusal.errors, [], .notice, tree⟩
  | .ok request =>
      match Settings.ofProcess process with
      | .error complaints => ⟨.rejected complaints, "", "", [], .notice, tree⟩
      | .ok settings =>
          let registry := searchFirst registry request.options.functionPath
          Setting.perform
            { host := ⟨registry, []⟩, active, tree
              environment := environmentOf request.options settings
              level := request.options.level.getD settings.level }
            request.command

end CallScript.CommandLine
