import CallScript.Dictionary
import CallScript.Environment
import CallScript.Journal
import CallScript.Syntax.Script
import CallScript.Value.Shown

/-! Why an operation of the language fails. A fault of a primitive operation is passed on as it is; all
other failures are reports of the language itself, with a class, a message and a context that names what
the message is about. -/
namespace CallScript

def log (level message : String) : Except Fault Record :=
  match Level.ofName? level with
  | some found => .ok ⟨.script, found, message⟩
  | none => .error (.unknownLevel level)

inductive ReportClass where
  | general
  | configuration
  | argumentCount
  | convention
  | loading
  | script
  | parsing
  | unknownFunction
  deriving DecidableEq, Repr

def ReportClass.code : ReportClass → String
  | .general => "DSLError"
  | .configuration => "InvalidConfiguration"
  | .argumentCount => "ArgumentCountError"
  | .convention => "InvalidCallConvention"
  | .loading => "AutoloadError"
  | .script => "ScriptError"
  | .parsing => "ScriptParseError"
  | .unknownFunction => "UnknownFunctionError"

def ReportClass.all : List ReportClass :=
  [.general, .configuration, .argumentCount, .convention, .loading, .script, .parsing, .unknownFunction]

def ReportClass.parent? : ReportClass → Option ReportClass
  | .general => none
  | .parsing | .unknownFunction => some .script
  | _ => some .general

def ReportClass.lineage (c : ReportClass) : List ReportClass :=
  match c.parent? with
  | none => [c]
  | some .script => [c, .script, .general]
  | some wider => [c, wider]

def ReportClass.ofCode? (code : String) : Option ReportClass :=
  ReportClass.all.find? (fun c => c.code == code)

structure Report where
  kind : ReportClass
  message : String
  context : List (String × Value)

def Report.ofMessage (kind : ReportClass) (message : Value) (context : List (String × Value)) :
    Except Fault Report := do
  return ⟨kind, ← message.plain, context⟩

def Report.argumentCount (function given expected : Value) (minimum : Bool) : Except Fault Report := do
  let bound := (if minimum then "minimum " else "") ++ (← expected.plain)
  return ⟨.argumentCount,
    (← function.plain) ++ "(): Wrong number of arguments given (" ++ (← given.plain) ++ " for " ++ bound ++ ")",
    [("function", function), ("given", given), ("expected", expected), ("minimum", .bool minimum)]⟩

def Report.unknownFunction (name environment : Value) : Except Fault Report := do
  return ⟨.unknownFunction, "Unknown function '" ++ (← name.plain) ++ "'",
    [("function", name), ("environment", environment)]⟩

inductive Failure where
  | fault (f : Fault)
  | badKind (shown : String)
  | argumentCount (function : String) (given expected : Nat) (minimum : Bool)
  | convention (function : String)
  | loading (function path : String) (env : Environment) (cause : Failure)
  | refused (message : String)
  | scripted (message : String)
  | unknownVariable (name : String)
  | mustBeValue (function : String)
  | noValue (function : String)
  | operation (op left right : String) (cause : Fault)
  | negation (operand : String) (cause : Fault)
  | unknownUnary (op : String)
  | misfit (m : Syntax.Misfit)
  | badLiteral (f : Fault)
  | unknownFunction (name : String) (env : Environment)
  deriving DecidableEq, Repr

def parseMessage (text : String) : String :=
  "Could not parse script: " ++ text

def Failure.message : Failure → String
  | .fault f => f.message
  | .badKind shown => "Invalid statement type " ++ shown
  | .argumentCount function given expected minimum =>
      function ++ "(): Wrong number of arguments given (" ++ toString given ++ " for " ++
        (if minimum then "minimum " else "") ++ toString expected ++ ")"
  | .convention function =>
      "custom functions must be called with a single list that contains the arguments. For example, " ++
        function ++ "([1]) instead of " ++ function ++ "(1)"
  | .loading function _ _ cause => "Could not autoload " ++ function ++ ": " ++ cause.message
  | .refused message => message
  | .scripted message => message
  | .unknownVariable name => "Unknown variable '$" ++ name ++ "'"
  | .mustBeValue function => "Function '" ++ function ++ "' must be the value of a statement"
  | .noValue function => "Function '" ++ function ++ "' does not return a value"
  | .operation op left right cause =>
      "Cannot evaluate " ++ left ++ " " ++ op ++ " " ++ right ++ ": " ++ cause.message
  | .negation operand cause => "Cannot negate " ++ operand ++ ": " ++ cause.message
  | .unknownUnary op => "Unknown unary op " ++ op
  | .misfit m => parseMessage m.message
  | .badLiteral f => parseMessage f.message
  | .unknownFunction name _ => "Unknown function '" ++ name ++ "'"

def Failure.context : Failure → List (String × Value)
  | .badKind shown => [("kind", .text shown)]
  | .argumentCount function given expected minimum =>
      [("function", .text function), ("given", .int given), ("expected", .int expected), ("minimum", .bool minimum)]
  | .convention function => [("function", .text function)]
  | .loading function path env _ =>
      [("function", .text function), ("path", .text path), ("environment", .text env.name)]
  | .unknownVariable name => [("variable", .text name)]
  | .mustBeValue function | .noValue function => [("function", .text function)]
  | .unknownFunction name env => [("function", .text name), ("environment", .text env.name)]
  | _ => []

def Failure.reportClass? : Failure → Option ReportClass
  | .fault _ => none
  | .badKind _ => some .configuration
  | .argumentCount .. => some .argumentCount
  | .convention _ => some .convention
  | .loading .. | .refused _ => some .loading
  | .scripted _ | .unknownVariable _ | .mustBeValue _ | .noValue _ => some .script
  | .operation .. | .negation .. | .unknownUnary _ => some .script
  | .misfit _ | .badLiteral _ => some .parsing
  | .unknownFunction .. => some .unknownFunction

def Failure.report? (failure : Failure) : Option Report :=
  failure.reportClass?.map (fun kind => ⟨kind, failure.message, failure.context⟩)

end CallScript
