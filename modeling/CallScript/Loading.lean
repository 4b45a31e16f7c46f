import CallScript.Registry

/-! Functions loaded when they are missed. The file of a name is sought in the directory of the
environment, then along the search path, then among the bundled functions. While a file is executed its
own lookups may load further files, as deep as the loader allows. -/
namespace CallScript

/-- Names that a definition file may have: letters, digits and underscores. One line feed may follow. -/
def isLoadable (name : String) : Bool :=
  let cs := name.toList
  let rest := cs.drop (Syntax.nameWidth cs)
  0 < Syntax.nameWidth cs && (rest.isEmpty || rest == ['\n'])

def Loader.searchDirectories (loader : Loader) (env : Environment) : List Path :=
  let own := match loader.environmentPath with
    | some directory => if env.isRoot then [] else [(directory.join (Path.ofText env.name)).child "functions"]
    | none => []
  own ++ loader.searchPath ++ (if loader.bundled then [Path.bundled] else [])

def findIn (tree : FileTree) (name : String) : List Path → Except Fault (Option Path)
  | [] => .ok none
  | directory :: rest => do
      let candidate := directory.definitionOf name
      if ← tree.isFile candidate then return some candidate
      findIn tree name rest

def Loader.find (loader : Loader) (tree : FileTree) (name : String) (env : Environment) :
    Except Fault (Option Path) :=
  findIn tree name (loader.searchDirectories env)

def observed {α : Type} (action : Hosted α) : Hosted (Except Failure α) :=
  tryCatch (do return .ok (← action)) (fun cause => return .error cause)

def Program.execute (seek : String → Hosted (Option Function)) (env : Environment) : Program → Hosted Unit
  | .finish => return ()
  | .fail cause => throw cause
  | .environment next => (next env).execute seek env
  | .functions next => do (next ((← get).registry.functions env)).execute seek env
  | .lookup name next => do
      let told ← observed (do seek (← liftFault name.plain))
      (next told).execute seek env
  | .define d next => do
      let told ← observed (CallScript.define env d)
      (next told).execute seek env

/-- Loads the definition of a name for an environment from its file, nested loads to the given depth.
True when the name has a meaning afterwards; a name loaded before is not loaded again. -/
def loadFile (tree : FileTree) (env : Environment) : Nat → Loader → String → Hosted Bool
  | 0, _, _ => throw (.fault .nesting)
  | depth + 1, loader, name => do
      if !isLoadable name then return false
      if loader.loaded.contains (env, name) then return false
      match ← liftFault (loader.find tree name env) with
      | none => do
          record .loader .debug ("No definition file for function " ++ name ++ " in " ++ env.name)
          return false
      | some path => do
          record .loader .debug
            ("Loading function " ++ name ++ " for " ++ env.name ++ " from " ++ path.text)
          let seek (wanted : String) : Hosted (Option Function) := do
            let registry := (← get).registry
            match registry.get? wanted env, registry.gateway with
            | none, .files inner => do
                let _ ← loadFile tree env depth inner wanted
                return (← get).registry.get? wanted env
            | known, _ => return known
          try (tree.program path).execute seek env
          catch cause => throw (.loading name path.text env cause)
          modifyLoader (fun loader => { loader with loaded := (env, name) :: loader.loaded })
          if ((← get).registry.get? name env).isNone then
            record .loader .warning (path.text ++ " did not define function " ++ name)
            return false
          return true

def requestFrom (recorder : Recorder) (name : String) (env : Environment) : Hosted Bool := do
  modifyRecorder (fun r => { r with loads := r.loads ++ [(name, env)] })
  match recorder.answers.get? name with
  | none => return false
  | some (.refuse message) => throw (.refused message)
  | some (.define d) => do
      let _ ← define env { d with name := .text name, environment := .environment env.name }
      return true

def load (tree : FileTree) (name : String) (env : Environment) : Hosted Bool := do
  match (← get).registry.gateway with
  | .files loader => loadFile tree env (loader.nesting + 1) loader name
  | .recording recorder => requestFrom recorder name env

def lookup (tree : FileTree) (name : String) (env : Environment) : Hosted (Option Function) := do
  match (← get).registry.get? name env with
  | some f => return some f
  | none => do
      let _ ← load tree name env
      return (← get).registry.get? name env

def stem (fileName : String) : String :=
  let cs := fileName.toList
  if cs.length ≤ definitionSuffix.length then fileName
  else String.ofList (cs.take (cs.length - definitionSuffix.length))

def hasSuffix (name : String) : Bool :=
  definitionSuffix.toList.isSuffixOf name.toList

def Failure.isLoading : Failure → Bool
  | .loading .. | .refused _ => true
  | _ => false

def loadNames (tree : FileTree) (env : Environment) (directory : Path) :
    List String → List String → Hosted (List String)
  | seen, [] => return seen
  | seen, fileName :: rest => do
      let name := stem fileName
      if name.startsWith "_" || seen.contains name then loadNames tree env directory seen rest
      else do
        try let _ ← load tree name env
        catch failure =>
          if failure.isLoading then
            record .loader .warning
              ("Skipping " ++ (directory.child fileName).text ++ ": " ++ failure.message)
          else throw failure
        loadNames tree env directory (name :: seen) rest

def loadDirectories (tree : FileTree) (env : Environment) : List String → List Path → Hosted Unit
  | _, [] => return ()
  | seen, directory :: rest => do
      let _ ← liftFault (tree.isDirectory directory)
      match tree.resolve directory with
      | .found place .directory => do
          let seen ← loadNames tree env directory seen ((tree.children place).filter hasSuffix)
          loadDirectories tree env seen rest
      | _ => loadDirectories tree env seen rest

def loadAll (tree : FileTree) (env : Environment) : Hosted Unit := do
  match (← get).registry.gateway with
  | .files loader => loadDirectories tree env [] (loader.searchDirectories env)
  | .recording _ => modifyRecorder (fun r => { r with loadAlls := r.loadAlls ++ [env] })

def Function.section? (f : Function) : Except Fault String := do
  let body ←
    match f.doc with
    | .text s => pure (Text.scrub s)
    | v => if v.truthy then .error (.notText v.type) else pure ""
  return f.name ++ "\n" ++ String.ofList (List.replicate f.name.length '-') ++ "\n" ++
    (if body.isEmpty then "Undocumented." else body) ++ "\n\n" ++ "- Type: " ++ f.kind.name ++ "\n\n"

def documentation (tree : FileTree) (env : Environment) : Hosted String := do
  loadAll tree env
  let sections ← liftFault (((← get).registry.listing env).mapM Function.section?)
  return String.join sections

end CallScript
