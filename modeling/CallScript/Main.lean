import CallScript.CommandLine
import CallScript.Function.Reading

/-! The program. It reads the files that its command line can lead to, runs, writes what came of it and
logs to the errors. -/
namespace CallScript.Main

open CommandLine

def variableNames : List String :=
  ["FUNCTION_PATH", "ENVIRONMENT_PATH", "ENVIRONMENT", "LOG_LEVEL"].map ("SCRIPTDSL_" ++ ·)

def readVariables : IO (Dictionary String) := do
  let mut process := Dictionary.empty
  for name in variableNames do
    if let some value ← IO.getEnv name then
      process := process.put name value
  return process

def readNames (path : String) : IO (Option (List String)) := do
  try
    let here ← IO.currentDir
    return some ((← (here / path).readDir).toList.map (fun entry => entry.fileName))
  catch _ => return none

def readEntry (path : String) : IO (Option Entry) := do
  if (← readNames path).isSome then return some .directory
  try return some (.contents (← IO.FS.readBinFile path).toList)
  catch _ => return none

def readInto (tree : FileTree) (path : Path) : IO FileTree := do
  match ← readEntry path.text with
  | some entry => return tree.write path entry
  | none => return tree

/-- Reads the definition files of a directory. -/
def readDefinitions (tree : FileTree) (directory : Path) : IO FileTree := do
  let names := (← readNames directory.text).getD []
  let mut tree := tree
  for name in names.filter hasSuffix do
    let path := directory.child name
    if let some (.contents bytes) ← readEntry path.text then
      tree := tree.write path (((DefinitionFile.ofBytes? bytes).map Entry.definitions).getD (.contents bytes))
  return tree

def filesOf : Command → List Path
  | .run file => [Path.ofText file]
  | .reference (some file) =>
      let path := Path.ofText file
      [⟨path.anchor, path.parts.dropLast⟩, path]
  | .reference none | .functions => []

def readTree (request : Request) (settings : Settings) : IO FileTree := do
  let env := environmentOf request.options settings
  let loader := settings.loader
  let loader := { loader with searchPath := request.options.functionPath.map Path.ofText ++ loader.searchPath }
  let mut tree := FileTree.installed
  for path in filesOf request.command do
    tree ← readInto tree path
  for directory in loader.searchDirectories env do
    if directory.anchor != .bundled then
      tree ← readDefinitions tree directory
  return tree

def sourceLabel : Source → String
  | .script => "scriptdsl.log"
  | .registry => "scriptdsl.registry"
  | .loader => "scriptdsl.autoload"

def status : Ending → Nat
  | .returned n | .exited n => n
  | .failed _ | .rejected _ => 1

def report (done : Transcript) : IO Unit := do
  IO.print done.output
  for r in done.journal do
    if done.level.severity ≤ r.level.severity then
      IO.eprintln (r.level.heading ++ " " ++ sourceLabel r.source ++ ": " ++ r.message)
  IO.eprint done.errors
  match done.ending with
  | .failed failure => IO.eprintln failure.message
  | .rejected complaints => for c in complaints do IO.eprintln c.flaw.message
  | _ => pure ()

def saveReference (request : Request) (done : Transcript) : IO Unit := do
  match request.command, done.ending with
  | .reference (some file), .returned 0 =>
      if let .ok bytes := done.tree.readBytes (Path.ofText file) then
        IO.FS.writeBinFile (Path.ofText file).text (ByteArray.mk bytes.toArray)
  | _, _ => pure ()

end CallScript.Main

open CallScript CallScript.CommandLine CallScript.Main in
def main (words : List String) : IO UInt32 := do
  let process ← readVariables
  let settings := (Settings.ofProcess process).toOption.getD {}
  match readRequest words with
  | .error _ =>
      let done := run process settings.registry true FileTree.installed words
      report done
      return (status done.ending).toUInt32
  | .ok request =>
      let done := run process settings.registry true (← readTree request settings) words
      report done
      saveReference request done
      return (status done.ending).toUInt32
