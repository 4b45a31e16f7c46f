import CallScript.FileTree
import CallScript.Json.Reading
import CallScript.Text.Utf8

/-! Definition files read from JSON: the names to look up, the functions to define, and the message to
fail with. A body is named by a word, or by a word with what it needs. -/
namespace CallScript

def memberOf? (v : Value) (name : String) : Option Value :=
  match v with
  | .dict entries =>
      entries.findSome? (fun (key, member) =>
        match key with
        | .text s => if s = name then some member else none
        | _ => none)
  | _ => none

def namedBodies : List (String × Body) := [
  ("args", .arguments), ("raw", .sequence), ("count", .count), ("first", .first), ("double", .multiple 2),
  ("triple", .multiple 3), ("concat", .joined), ("env", .environmentName), ("ambient", .ambientName),
  ("same_registry", .sameRegistry), ("var", .readVariable), ("setvar", .writeVariable),
  ("delegate", .delegate), ("defconst", .defineConstant)]

def Body.ofValue? : Value → Option Body
  | .text name => (namedBodies.find? (fun entry => entry.1 == name)).map Prod.snd
  | .list [.text word, v] =>
      match word, v with
      | "const", v => some (.constant v)
      | "fail", .text message => some (.raiseReport message)
      | "boom", .text message => some (.crash message)
      | _, _ => none
  | _ => none

def Definition.ofValue? (v : Value) : Option Definition := do
  let body ← Body.ofValue? (← memberOf? v "impl")
  let plain : Definition := { name := (memberOf? v "name").getD .null, body }
  return { plain with
    arity := (memberOf? v "arity").getD plain.arity
    kind := (memberOf? v "kind").getD plain.kind
    doc := (memberOf? v "doc").getD plain.doc }

def DefinitionFile.ofValue? (v : Value) : Option DefinitionFile := do
  let items (name : String) : List Value := ((memberOf? v name).bind Value.items?).getD []
  let definitions ← (items "defs").mapM Definition.ofValue?
  return {
    lookups := items "lookups"
    definitions
    failure :=
      match memberOf? v "raise" with
      | some (.text message) => some message
      | _ => none }

def DefinitionFile.ofBytes? (bytes : List UInt8) : Option DefinitionFile := do
  let text ← (Text.decodeText bytes).toOption
  let v ← (Json.read text).toOption
  DefinitionFile.ofValue? v

end CallScript
