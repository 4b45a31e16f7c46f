import CallScript.Proofs.Actions

/-! What a loader does about a name, and properties of hosts that survive loading and evaluation. What holds
through the definitions of a file and the lookups it makes holds through its execution; what holds through
executions holds through loads within loads; what holds through loads and warnings holds through everything
that loads many names; what holds through lookups, definitions and messages in the environment of a script
holds through its evaluation. -/
namespace CallScript

inductive Errand where
  | nothing
  | fail (f : Fault)
  | missing
  | execute (path : Path)

def Loader.errand (loader : Loader) (tree : FileTree) (env : Environment) (name : String) : Errand :=
  if !isLoadable name || loader.loaded.contains (env, name) then .nothing
  else
    match loader.find tree name env with
    | .error f => .fail f
    | .ok none => .missing
    | .ok (some path) => .execute path

structure Loader.Due (loader : Loader) (tree : FileTree) (env : Environment) (name : String) (path : Path) :
    Prop where
  loadable : isLoadable name = true
  fresh : (env, name) ∉ loader.loaded
  found : loader.find tree name env = .ok (some path)

theorem errandDue {loader : Loader} {tree : FileTree} {env : Environment} {name : String} {path : Path}
    (errand : loader.errand tree env name = .execute path) : loader.Due tree env name path := by
  rw [Loader.errand] at errand
  split at errand
  · cases errand
  · rename_i news
    simp only [Bool.or_eq_true, Bool.not_eq_true', List.contains_eq_mem, decide_eq_true_eq, not_or,
      Bool.not_eq_false] at news
    split at errand
    · cases errand
    · cases errand
    · rename_i found
      cases errand
      exact ⟨news.1, news.2, found⟩

def FileTree.filesIn (tree : FileTree) (directory : Path) : List String :=
  match tree.resolve directory with
  | .found place .directory => (tree.children place).filter hasSuffix
  | _ => []

def markLoaded (env : Environment) (name : String) (loader : Loader) : Loader :=
  { loader with loaded := (env, name) :: loader.loaded }

def seekNested (tree : FileTree) (env : Environment) (depth : Nat) (wanted : String) : Hosted (Option Function) := do
  let registry := (← get).registry
  match registry.get? wanted env, registry.gateway with
  | none, .files inner => do
      let _ ← loadFile tree env depth inner wanted
      return (← get).registry.get? wanted env
  | known, _ => return known

def executeFound (tree : FileTree) (env : Environment) (depth : Nat) (name : String) (path : Path) : Hosted Bool := do
  record .loader .debug ("Loading function " ++ name ++ " for " ++ env.name ++ " from " ++ path.text)
  try (tree.program path).execute (seekNested tree env depth) env
  catch cause => throw (.loading name path.text env cause)
  modifyLoader (markLoaded env name)
  if ((← get).registry.get? name env).isNone then
    record .loader .warning (path.text ++ " did not define function " ++ name)
    return false
  return true

theorem loadFileErrand (tree : FileTree) (env : Environment) (depth : Nat) (loader : Loader) (name : String) :
    loadFile tree env (depth + 1) loader name =
      match loader.errand tree env name with
      | .nothing => pure false
      | .fail f => throw (.fault f)
      | .missing => do
          record .loader .debug ("No definition file for function " ++ name ++ " in " ++ env.name)
          return false
      | .execute path => executeFound tree env depth name path := by
  rw [loadFile, Loader.errand]
  cases isLoadable name with
  | false => rfl
  | true =>
    cases loader.loaded.contains (env, name) with
    | true => rfl
    | false =>
      cases loader.find tree name env with
      | error f => rfl
      | ok path => cases path <;> rfl

inductive Program.Defines (env : Environment) (d : Definition) : Program → Prop where
  | here {next} : Defines env d (.define d next)
  | environment {next} (later : Defines env d (next env)) : Defines env d (.environment next)
  | functions {next table} (later : Defines env d (next table)) : Defines env d (.functions next)
  | lookup {name next told} (later : Defines env d (next told)) : Defines env d (.lookup name next)
  | define {other next told} (later : Defines env d (next told)) : Defines env d (.define other next)

theorem runObserved {α : Type} (action : Hosted α) (h : Host) :
    (observed action).run h = (.ok (action.run h).1, (action.run h).2) := by
  rw [observed, runTry, runBind]
  rcases action.run h with ⟨result | a, t⟩ <;> rfl

section Files

variable {tree : FileTree} {env : Environment} {R : Host → Host → Prop}

theorem faultRelated {α : Type} (result : Except Fault α) : Related R (liftFault result) (liftFault result) := by
  cases result with
  | ok a => exact relatedPure a
  | error f => exact relatedThrow _

theorem observedRelated {α : Type} {x y : Hosted α} (same : Related R x y) : Related R (observed x) (observed y) := by
  intro h k related
  obtain ⟨told, kept⟩ := same h k related
  rw [Meets, runObserved, runObserved]
  exact ⟨congrArg Except.ok told, kept⟩

theorem executionRelated {seek : String → Hosted (Option Function)} {p : Program}
    (views : ∀ h k, R h k → h.registry.functions env = k.registry.functions env)
    (seeks : ∀ wanted, Related R (seek wanted) (seek wanted))
    (defines : ∀ d, p.Defines env d → Related R (define env d) (define env d)) :
    Related R (p.execute seek env) (p.execute seek env) := by
  induction p with
  | finish => exact relatedPure ()
  | fail cause => exact relatedThrow cause
  | environment next ih => exact ih env (fun d later => defines d (.environment later))
  | functions next ih =>
    refine relatedGet (fun h k related => ?_)
    rw [views h k related]
    exact ih _ (fun d later => defines d (.functions later)) h k related
  | lookup name next ih =>
    refine relatedBind (observedRelated (relatedBind (faultRelated _) seeks)) (fun told => ?_)
    exact ih told (fun d later => defines d (.lookup later))
  | define d next ih =>
    refine relatedBind (observedRelated (defines d .here)) (fun told => ?_)
    exact ih told (fun d later => defines d (.define later))

/- A relation of hosts that loads for an environment keep: related hosts agree on what names mean there, on what is
to be done about them and on how deep that may go. -/
structure Attuned (tree : FileTree) (env : Environment) (R : Host → Host → Prop) : Prop where
  sees : ∀ h k, R h k → ∀ name, h.registry.get? name env = k.registry.get? name env
  views : ∀ h k, R h k → h.registry.functions env = k.registry.functions env
  attends : ∀ h k, R h k →
    (∃ loader loader', h.registry.gateway = .files loader ∧ k.registry.gateway = .files loader' ∧
      loader.nesting = loader'.nesting ∧ ∀ name, loader.errand tree env name = loader'.errand tree env name) ∨
    ∃ recorder recorder', h.registry.gateway = .recording recorder ∧ k.registry.gateway = .recording recorder'
  tells : ∀ level message, Related R (record .loader level message) (record .loader level message)
  marks : ∀ name, Related R (modifyLoader (markLoaded env name)) (modifyLoader (markLoaded env name))
  defines : ∀ h k loader name path, R h k → h.registry.gateway = .files loader → loader.Due tree env name path →
    ∀ d, (tree.program path).Defines env d → Related R (define env d) (define env d)

theorem foundRelated {depth : Nat} {path : Path} (attuned : Attuned tree env R)
    (seeks : ∀ wanted, Related R (seekNested tree env depth wanted) (seekNested tree env depth wanted))
    (defines : ∀ d, (tree.program path).Defines env d → Related R (define env d) (define env d))
    (name : String) :
    Related R (executeFound tree env depth name path) (executeFound tree env depth name path) := by
  refine relatedBind (attuned.tells _ _) (fun _ => ?_)
  refine relatedBind (relatedTry (executionRelated attuned.views seeks defines) (fun _ => relatedThrow _)) (fun _ => ?_)
  refine relatedBind (attuned.marks name) (fun _ => relatedGet (fun h k related => ?_))
  rw [attuned.sees h k related]
  split
  · exact relatedBind (attuned.tells _ _) (fun _ => relatedPure _) h k related
  · exact relatedPure _ h k related

theorem loadFileRelated (attuned : Attuned tree env R) (depth : Nat) (name : String) {h k : Host}
    {loader loader' : Loader} (gateway : h.registry.gateway = .files loader)
    (gateway' : k.registry.gateway = .files loader') (related : R h k) :
    Meets R (loadFile tree env depth loader name) (loadFile tree env depth loader' name) h k := by
  -- the induction is on the depth of nested loads
  induction depth generalizing name h k loader loader' with
  | zero => exact ⟨rfl, related⟩
  | succ depth ih =>
    have seeks (wanted : String) :
        Related R (seekNested tree env depth wanted) (seekNested tree env depth wanted) := by
      refine relatedGet (fun h k related => ?_)
      dsimp only
      rw [attuned.sees h k related]
      cases k.registry.get? wanted env with
      | some f => exact relatedPure _ h k related
      | none =>
        rcases attuned.attends h k related with ⟨_, _, files, files', -⟩ | ⟨_, _, records, records'⟩
        · rw [files, files']
          refine meetsBind (ih wanted files files' related) (fun _ => relatedGet (fun h k related => ?_))
          rw [attuned.sees h k related]
          exact relatedPure _ h k related
        · rw [records, records']
          exact relatedPure _ h k related
    rcases attuned.attends h k related with ⟨_, _, files, files', -, same⟩ | ⟨_, _, records, -⟩
    · cases gateway.symm.trans files
      cases gateway'.symm.trans files'
      rw [loadFileErrand, loadFileErrand, ← same]
      cases errand : loader.errand tree env name with
      | nothing => exact relatedPure false h k related
      | fail f => exact relatedThrow _ h k related
      | missing => exact relatedBind (attuned.tells _ _) (fun _ => relatedPure false) h k related
      | execute path =>
        exact foundRelated attuned seeks (attuned.defines h k loader name path related gateway (errandDue errand))
          name h k related
    · cases gateway.symm.trans records

theorem attunedLoad (attuned : Attuned tree env R)
    (requests : ∀ h k recorder recorder', R h k → h.registry.gateway = .recording recorder →
      k.registry.gateway = .recording recorder' → ∀ name,
        Meets R (requestFrom recorder name env) (requestFrom recorder' name env) h k)
    (name : String) : Related R (load tree name env) (load tree name env) := by
  refine relatedGet (fun h k related => ?_)
  rcases attuned.attends h k related with ⟨_, _, files, files', deep, -⟩ | ⟨_, _, records, records'⟩
  · rw [files, files']
    dsimp only
    rw [deep]
    exact loadFileRelated attuned _ name files files' related
  · rw [records, records']
    exact requests h k _ _ related records records' name

variable (loads : ∀ name, Related R (load tree name env) (load tree name env))

include loads

theorem seenLookup (sees : ∀ h k, R h k → ∀ name, h.registry.get? name env = k.registry.get? name env)
    (name : String) : Related R (lookup tree name env) (lookup tree name env) := by
  refine relatedGet (fun h k related => ?_)
  rw [sees h k related]
  split
  · exact relatedPure _ h k related
  · refine relatedBind (loads name) (fun _ => relatedGet (fun h k related => ?_)) h k related
    rw [sees h k related]
    exact relatedPure _ h k related

variable (warns : ∀ message, Related R (record .loader .warning message) (record .loader .warning message))

include warns

theorem namesRelated (directory : Path) (seen names : List String) :
    Related R (loadNames tree env directory seen names) (loadNames tree env directory seen names) := by
  induction names generalizing seen with
  | nil => exact relatedPure seen
  | cons fileName rest ih =>
    rw [loadNames]
    split
    · exact ih seen
    · refine relatedBind (relatedTry ?_ (fun failure => ?_)) (fun _ => ih _)
      · exact relatedBind (loads _) (fun _ => relatedPure _)
      · split
        · exact warns _
        · exact relatedThrow failure

theorem directoriesRelated (seen : List String) (directories : List Path) :
    Related R (loadDirectories tree env seen directories) (loadDirectories tree env seen directories) := by
  induction directories generalizing seen with
  | nil => exact relatedPure _
  | cons directory rest ih =>
    rw [loadDirectories]
    refine relatedBind (faultRelated _) (fun _ => ?_)
    split
    · exact relatedBind (namesRelated loads warns directory seen _) (fun seen => ih seen)
    · exact ih seen

end Files

section Loads

variable {tree : FileTree} {env : Environment} {I : Host → Prop}

theorem executionKept {seek : String → Hosted (Option Function)} {p : Program}
    (seeks : ∀ wanted, Keeps I (seek wanted)) (defines : ∀ d, p.Defines env d → Keeps I (define env d)) :
    Keeps I (p.execute seek env) :=
  keepsRelated.mpr (executionRelated (fun _ _ related => by rw [related.1])
    (fun wanted => keepsRelated.mp (seeks wanted)) (fun d asked => keepsRelated.mp (defines d asked)))

theorem loadFileKept (tells : ∀ level message, Keeps I (record .loader level message))
    (marks : ∀ name, Keeps I (modifyLoader (markLoaded env name)))
    (defines : ∀ h loader name path, I h → h.registry.gateway = .files loader → loader.Due tree env name path →
      ∀ d, (tree.program path).Defines env d → Keeps I (define env d))
    (depth : Nat) {loader : Loader} (name : String) {h : Host} (gateway : h.registry.gateway = .files loader)
    (holds : I h) : I ((loadFile tree env depth loader name).run h).2 := by
  have attuned : Attuned tree env (fun h k => h = k ∧ I h) :=
    { sees := fun _ _ related _ => by rw [related.1]
      views := fun _ _ related => by rw [related.1]
      attends := fun h k related => by
        rw [related.1]
        cases k.registry.gateway with
        | files loader => exact .inl ⟨loader, loader, rfl, rfl, rfl, fun _ => rfl⟩
        | recording recorder => exact .inr ⟨recorder, recorder, rfl, rfl⟩
      tells := fun level message => keepsRelated.mp (tells level message)
      marks := fun name => keepsRelated.mp (marks name)
      defines := fun h _ loader name path related gateway due d asked =>
        keepsRelated.mp (defines h loader name path related.2 gateway due d asked) }
  exact (loadFileRelated attuned depth name gateway gateway ⟨rfl, holds⟩).2.2

variable (loads : ∀ name, Keeps I (load tree name env)) (warns : ∀ message, Keeps I (record .loader .warning message))

include loads

theorem lookupKept (name : String) : Keeps I (lookup tree name env) :=
  keepsRelated.mpr (seenLookup (fun name => keepsRelated.mp (loads name))
    (fun _ _ related _ => by rw [related.1]) name)

include warns

theorem directoriesKept (seen : List String) (directories : List Path) :
    Keeps I (loadDirectories tree env seen directories) :=
  keepsRelated.mpr (directoriesRelated (fun name => keepsRelated.mp (loads name))
    (fun message => keepsRelated.mp (warns message)) seen directories)

omit loads warns

theorem directoriesStep {directory : Path} {b : Bool} (short : tree.isDirectory directory = .ok b) (seen : List String)
    (rest : List Path) : loadDirectories tree env seen (directory :: rest) =
      (loadNames tree env directory seen (tree.filesIn directory) >>= fun seen =>
        loadDirectories tree env seen rest) := by
  rw [loadDirectories, short, FileTree.filesIn]
  cases tree.resolve directory with
  | found place entry => cases entry <;> rfl
  | _ => rfl

theorem loadDirectory {directory : Path} {place : Place} {names : List String}
    (resolved : tree.resolve directory = .found place .directory) (children : tree.children place = names)
    (seen : List String) (rest : List Path) :
    loadDirectories tree env seen (directory :: rest) =
      (loadNames tree env directory seen (names.filter hasSuffix) >>= fun seen =>
        loadDirectories tree env seen rest) := by
  have isDirectory : tree.isDirectory directory = .ok true := by rw [FileTree.isDirectory, resolved]
  rw [directoriesStep isDirectory, FileTree.filesIn, resolved, ← children]

theorem documentationHost (h : Host) : ((documentation tree env).run h).2 = ((loadAll tree env).run h).2 := by
  rw [documentation, runBind]
  generalize (loadAll tree env).run h = ran
  obtain ⟨failure | _, after⟩ := ran
  · rfl
  · dsimp only
    rw [runGet]
    cases (after.registry.listing env).mapM Function.section? <;> rfl

theorem documentationKept (all : Keeps I (loadAll tree env)) : Keeps I (documentation tree env) := by
  intro h holds
  rw [documentationHost]
  exact all h holds

end Loads

section Evaluation

variable {I : Host → Prop}

theorem onHostKept {α : Type} {action : Hosted α} (kept : Keeps I action) :
    Keeps (fun run => I run.host) (onHost action) :=
  fun s holds => kept s.host holds

variable (around : Surroundings) (scope : Scope)
  (looks : ∀ name, Keeps I (lookup around.tree name scope.environment))
  (defines : ∀ d : Definition, d.environment = .environment scope.environment.name → Keeps I (define around.ambient d))
  (logs : ∀ level message, Keeps I (record .script level message))

include looks defines logs

theorem keptEnduring :
    Enduring around scope.environment (fun _ => True) (fun _ x => Keeps (fun run : Run => I run.host) x) where
  gives := keepsPure
  fails failure _ := keepsThrow failure
  throws := keepsThrow
  chains := keepsBind
  reads name := by
    refine keepsBind keepsGet (fun run => ?_)
    split
    · exact keepsPure _
    · exact keepsThrow _
  writes _ _ _ holds := holds
  logs level message := onHostKept (logs level message)
  defines _ d same := onHostKept (defines d same)
  looks name _ rest := keepsBind (onHostKept (looks name)) (fun found => rest found (fun _ _ => trivial))

theorem evaluationKept (node : Syntax.Node) : Keeps (fun run => I run.host) (evaluate around scope node) :=
  evaluationLasts (keptEnduring around scope looks defines logs) node

end Evaluation

end CallScript
