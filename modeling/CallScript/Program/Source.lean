import CallScript.Program
import CallScript.Syntax.Literal
import CallScript.Syntax.Terminal
import CallScript.Text.Pieces
import CallScript.Text.Utf8

/-! Definition files read from their source. A source is understood if it consists of imports, names given to the
environment that the file is executed for, lookups, decorated functions that return one plain expression, and errors
raised; comments may stand anywhere. Any other source is refused as a whole: it is executed by no step and fails. -/
namespace CallScript.Source

inductive Word where
  | name (s : String)
  | text (s : String)
  | number (n : Nat)
  | mark (c : Char)

def digits (cs : List Char) : List Char :=
  cs.takeWhile Char.isDigit

def words : List Char → Option (List Word)
  | [] => some []
  | c :: rest =>
      if c == '#' then some []
      else if c == ' ' || c == '\t' then words rest
      else if c == '"' || c == '\x27' then
        let inside := rest.takeWhile (· != c)
        if inside.length < rest.length && !inside.contains '\\' then
          (words (rest.drop (inside.length + 1))).map (.text (String.ofList inside) :: ·)
        else none
      else if Syntax.isNameStart c then
        let part := rest.takeWhile Syntax.isNamePart
        (words (rest.drop part.length)).map (.name (String.ofList (c :: part)) :: ·)
      else if c.isDigit then
        let more := digits rest
        if c == '0' && !more.isEmpty then none
        else (words (rest.drop more.length)).map (.number (Syntax.valueIn 10 (c :: more)) :: ·)
      else (words rest).map (.mark c :: ·)
termination_by cs => cs.length
decreasing_by all_goals simp only [List.length_drop, List.length_cons]; omega

/-- What a function returns. A variable holds the name of the environment that the file is executed for. -/
inductive Expression where
  | body (body : Body)
  | variable (name : String)

def keywords : List String :=
  ["False", "None", "True", "and", "as", "assert", "async", "await", "break", "class", "continue", "def", "del", "elif",
    "else", "except", "finally", "for", "from", "global", "if", "import", "in", "is", "lambda", "nonlocal", "not", "or",
    "pass", "raise", "return", "try", "while", "with", "yield"]

def isReserved (name : String) : Bool :=
  keywords.contains name ||
    ["RuntimeError", "active_registry", "args", "current_environment", "len", "list", "register", "scope"].contains name

def Expression.read (known : List String) : List Word → Option Expression
  | [.name "args"] => some (.body .sequence)
  | [.name "list", .mark '(', .name "args", .mark ')'] => some (.body .arguments)
  | [.name "len", .mark '(', .name "args", .mark ')'] => some (.body .count)
  | [.name "args", .mark '[', .number 0, .mark ']'] => some (.body .first)
  | [.name "args", .mark '[', .number 0, .mark ']', .mark '*', .number n] => some (.body (.multiple n))
  | [.name "current_environment", .mark '(', .mark ')', .mark '.', .name "name"] =>
      if known.contains "current_environment" then some (.body .ambientName) else none
  | [.name "None"] => some (.body (.constant .null))
  | [.name "True"] => some (.body (.constant (.bool true)))
  | [.name "False"] => some (.body (.constant (.bool false)))
  | [.text s] => some (.body (.constant (.text s)))
  | [.number n] => some (.body (.constant (.int n)))
  | [.name name] => if known.contains name && !isReserved name then some (.variable name) else none
  | _ => none

def Expression.meaning (env : Environment) : Expression → Body
  | .body known => known
  | .variable _ => .constant (.text env.name)

structure Registration where
  name : String
  arity : Int
  kind : String
  doc : Value

def arityOption : List Word → Int × List Word
  | .mark ',' :: .name "arity" :: .mark '=' :: .mark '-' :: .number n :: rest => (-n, rest)
  | .mark ',' :: .name "arity" :: .mark '=' :: .number n :: rest => (n, rest)
  | words => (-1, words)

def kindOption : List Word → String × List Word
  | .mark ',' :: .name "kind" :: .mark '=' :: .text kind :: rest => (kind, rest)
  | words => ("statement", words)

def docOption : List Word → Value × List Word
  | .mark ',' :: .name "doc" :: .mark '=' :: .text doc :: rest => (.text doc, rest)
  | .mark ',' :: .name "doc" :: .mark '=' :: .name "None" :: rest => (.null, rest)
  | words => (.null, words)

def Registration.read : List Word → Option Registration
  | .mark '@' :: .name "register" :: .mark '(' :: .text name :: options =>
      let (arity, options) := arityOption options
      let (kind, options) := kindOption options
      let (doc, options) := docOption options
      match options with
      | [.mark ')'] => some ⟨name, arity, kind, doc⟩
      | _ => none
  | _ => none

def isHeading (known : List String) : List Word → Bool
  | [.name "def", .name name, .mark '(', .name "scope", .mark ',', .name "args", .mark ')', .mark ':'] =>
      !known.contains name && !isReserved name
  | _ => false

def importedNames (provided : List String) : List Word → Option (List String)
  | [.name name] => if provided.contains name then some [name] else none
  | .name name :: .mark ',' :: rest =>
      if provided.contains name then (importedNames provided rest).map (name :: ·) else none
  | _ => none

def newNames (known : List String) : List Word → Option (List String)
  | [] => some []
  | .name "from" :: .name "scriptdsl" :: .mark '.' :: .name "registry" :: .name "import" :: names =>
      importedNames ["register", "active_registry"] names
  | .name "from" :: .name "scriptdsl" :: .mark '.' :: .name "environment" :: .name "import" :: names =>
      importedNames ["current_environment"] names
  | [.name name, .mark '=', .name "current_environment", .mark '(', .mark ')', .mark '.', .name "name"] =>
      if known.contains "current_environment" && !isReserved name then some [name] else none
  | _ => none

inductive Statement where
  | lookup (name : String)
  | raising (message : String)
  | register (r : Registration) (returned : Expression)

def Statement.read (known : List String) : List Word → Option Statement
  | [.name "active_registry", .mark '(', .mark ')', .mark '.', .name "lookup", .mark '(', .text name, .mark ')'] =>
      if known.contains "active_registry" then some (.lookup name) else none
  | [.name "raise", .name "RuntimeError", .mark '(', .text message, .mark ')'] => some (.raising message)
  | _ => none

structure Line where
  indented : Bool
  words : List Word

def sourceLines (cs : List Char) : Option (List Line) := do
  let lines ← (Text.pieces '\n' (Syntax.plainLineEnds cs)).mapM (fun line => do
    return ⟨(line.head?.map (fun c => c == ' ' || c == '\t')).getD false, ← words line⟩)
  return lines.filter (fun line => !line.words.isEmpty)

def statements (known : List String) : List Line → Option (List Statement)
  | [] => some []
  | line :: rest =>
      if line.indented then none
      else
        match newNames known line.words, Registration.read line.words with
        | some names, _ => statements (names ++ known) rest
        | none, none => do return (← Statement.read known line.words) :: (← statements known rest)
        | none, some r =>
            match rest with
            | ⟨false, heading⟩ :: ⟨true, .name "return" :: returned⟩ :: rest =>
                if known.contains "register" && isHeading known heading then do
                  let e ← Expression.read known returned
                  return .register r e :: (← statements known rest)
                else none
            | _ => none

def perform (env : Environment) : List Statement → Program
  | [] => .finish
  | .lookup name :: rest => .lookup (.text name) (perform env rest).requiring
  | .raising message :: _ => .fail (.fault (.crash message))
  | .register r returned :: rest =>
      .define
        { name := .text r.name, body := returned.meaning env, arity := .int r.arity, kind := .text r.kind, doc := r.doc }
        (perform env rest).requiring

def program? (bytes : List UInt8) : Option Program := do
  let text ← (Text.decodeText bytes).toOption
  let steps ← statements [] (← sourceLines text.toList)
  return .environment (fun env => perform env steps)

end CallScript.Source

namespace CallScript

def Program.ofSource (bytes : List UInt8) : Program :=
  (Source.program? bytes).getD (.fail (.fault (.crash "invalid syntax")))

end CallScript
