import CallScript.Proofs.Confinement
import CallScript.Proofs.Turns

/-! Where functions come from, as long as each definition file registers just the function it is named for and
nothing else defines any. The table of an environment holds the functions that were loaded for it, each from the
first file of its name, and the root holds those of the log besides. A lookup gives what the tables hold, and else
what the first file registers. -/
namespace CallScript

open Syntax (Identifier identifierWithout nameWhole)

inductive Finds (tree : FileTree) (name : String) : List Path → Except Fault (Option Path) → Prop where
  | first {before after directory} (skipped : ∀ other ∈ before, tree.isFile (other.definitionOf name) = .ok false)
      (file : tree.isFile (directory.definitionOf name) = .ok true) :
      Finds tree name (before ++ directory :: after) (.ok (some (directory.definitionOf name)))
  | nowhere {directories} (skipped : ∀ other ∈ directories, tree.isFile (other.definitionOf name) = .ok false) :
      Finds tree name directories (.ok none)
  | stuck {before after directory} (skipped : ∀ other ∈ before, tree.isFile (other.definitionOf name) = .ok false)
      (long : tree.isFile (directory.definitionOf name) = .error (.nameTooLong (directory.definitionOf name).text)) :
      Finds tree name (before ++ directory :: after) (.error (.nameTooLong (directory.definitionOf name).text))

section Searching

variable {tree : FileTree} {name : String}

theorem findsNext {directory : Path} {rest : List Path} {found : Except Fault (Option Path)}
    (skipped : tree.isFile (directory.definitionOf name) = .ok false) (finds : Finds tree name rest found) :
    Finds tree name (directory :: rest) found := by
  cases finds with
  | @first before after next others file =>
    exact @Finds.first tree name (directory :: before) after next (List.forall_mem_cons.mpr ⟨skipped, others⟩) file
  | nowhere others => exact .nowhere (List.forall_mem_cons.mpr ⟨skipped, others⟩)
  | @stuck before after next others long =>
    exact @Finds.stuck tree name (directory :: before) after next (List.forall_mem_cons.mpr ⟨skipped, others⟩) long

theorem fileFault {path : Path} {f : Fault} (fails : tree.isFile path = .error f) : f = .nameTooLong path.text := by
  unfold FileTree.isFile at fails
  split at fails <;> cases fails
  rfl

theorem findInFinds (directories : List Path) : Finds tree name directories (findIn tree name directories) := by
  induction directories with
  | nil => exact .nowhere (fun _ mem => nomatch mem)
  | cons directory rest ih =>
    rw [findIn]
    cases file : tree.isFile (directory.definitionOf name) with
    | error f =>
      cases fileFault file
      exact @Finds.stuck tree name [] rest directory (fun _ mem => nomatch mem) file
    | ok here =>
      cases here with
      | true => exact @Finds.first tree name [] rest directory (fun _ mem => nomatch mem) file
      | false => exact findsNext file ih

theorem findInSkips {before rest : List Path}
    (skipped : ∀ other ∈ before, tree.isFile (other.definitionOf name) = .ok false) :
    findIn tree name (before ++ rest) = findIn tree name rest := by
  induction before with
  | nil => rfl
  | cons directory before ih =>
    rw [List.forall_mem_cons] at skipped
    rw [List.cons_append, findIn, skipped.1]
    exact ih skipped.2

theorem findsOnly {directories : List Path} {found : Except Fault (Option Path)} :
    Finds tree name directories found ↔ findIn tree name directories = found := by
  refine ⟨fun finds => ?_, fun same => same ▸ findInFinds directories⟩
  cases finds with
  | first skipped file =>
    rw [findInSkips skipped, findIn, file]
    rfl
  | nowhere skipped =>
    rw [← List.append_nil directories, findInSkips skipped]
    rfl
  | stuck skipped long =>
    rw [findInSkips skipped, findIn, long]
    rfl

end Searching

structure Registry.Sourced (r : Registry) (tree : FileTree) (loader : Loader) : Prop where
  gateway : r.gateway = .files { loader with loaded := r.loaded }
  files : ∀ env name, (env, name) ∈ r.loaded → isLoadable name = true ∧
    ∃ path, loader.find tree name env = .ok (some path) ∧
      ∃ f r', (tree.program path).Enters env r' f ∧ f.name = name ∧ (r.table env).get? name = some f
  others : ∀ env name, (env, name) ∉ r.loaded →
    (r.table env).get? name = if env = Environment.root then (Level.ofName? name).map logFunction else none

/- For any environment and on any registry, the program registers a function of a name, and nothing else. -/
def Program.Registers (p : Program) (name : String) : Prop :=
  ∀ env r, ∃ f, p.Enters env r f ∧ f.name = name

def Stocked (tree : FileTree) (loader : Loader) : Prop :=
  ∀ env name path, isLoadable name = true → Finds tree name (loader.searchDirectories env) (.ok (some path)) →
    (tree.program path).Registers name

def FileTree.Names (tree : FileTree) : Prop :=
  ∀ place entry name, (place ++ [name ++ definitionSuffix], entry) ∈ tree.entries → isLoadable name = true →
    entry = .directory ∨ entry.executed.Registers name

def Turn.isSearch : Turn → Bool
  | .define .. | .operation (.evaluate ..) => false
  | _ => true

section Sourced

variable {tree : FileTree} {loader : Loader}

theorem namesStocked (names : tree.Names) (loader : Loader) : Stocked tree loader := by
  intro env name path loadable finds
  obtain ⟨place, entry, listed, file, does⟩ := foundListed loadable (findsOnly.mp finds)
  rw [does]
  exact (names place entry name listed loadable).resolve_left file

theorem stockedFile (stocked : Stocked tree loader) {env : Environment} {name : String} {path : Path}
    (loadable : isLoadable name = true) (found : loader.find tree name env = .ok (some path)) :
    (tree.program path).Registers name :=
  stocked env name path loadable (findsOnly.mpr found)

theorem levelledTable (gateway : Gateway) (env : Environment) (name : String) :
    (((Registry.withGateway gateway).table env).get? name) =
      if env = Environment.root then (Level.ofName? name).map logFunction else none := by
  cases entry : ((Registry.withGateway gateway).table env).get? name with
  | some f =>
    rcases levelEntries entry with ⟨rfl, level, rfl, rfl⟩ | nothing
    · rw [if_pos rfl, levelNamed]
      rfl
    · cases nothing
  | none =>
    split
    · rename_i root
      subst root
      cases named : Level.ofName? name with
      | none => rfl
      | some level =>
        have entered : ((Registry.withGateway gateway).table Environment.root).get? level.name =
            some (logFunction level) := levelsEntered (.inl (by cases level <;> decide))
        rw [namedLevel named, entered] at entry
        cases entry
    · rfl

theorem resetSourced {r : Registry} {loaded : List (Environment × String)}
    (gateway : r.gateway = .files { loader with loaded }) : r.reset.Sourced tree loader := by
  have files : r.reset.gateway = .files { loader with loaded := [] } := by
    refine (gatewayLevels _ _).trans ?_
    rw [gateway]
    rfl
  have unloaded : r.reset.loaded = [] := by rw [Registry.loaded, files]
  refine ⟨by rw [unloaded, files], fun env name mem => ?_, fun env name _ => levelledTable r.gateway env name⟩
  rw [unloaded] at mem
  cases mem

theorem freshSourced : (Registry.withGateway (.files loader)).Sourced tree loader :=
  @resetSourced tree loader ⟨Dictionary.empty, .files loader⟩ loader.loaded rfl

theorem extendedSourced {r r' : Registry} (sourced : r.Sourced tree loader) {env : Environment} {path : Path}
    {f : Function} (loadable : isLoadable f.name = true) (found : loader.find tree f.name env = .ok (some path))
    (enters : (tree.program path).Enters env r' f) :
    (r.extended { loader with loaded := r.loaded } env f.name r.loaded f).Sourced tree loader := by
  have table := extendedTable { loader with loaded := r.loaded } r.loaded f r env
  refine ⟨rfl, fun other n mem => ?_, fun other n fresh => ?_⟩
  · rw [table]
    split
    · rename_i here
      obtain ⟨rfl, rfl⟩ := here
      exact ⟨loadable, path, found, f, r', enters, rfl, rfl⟩
    · rename_i elsewhere
      rcases List.mem_cons.mp mem with here | mem
      · exact absurd (Prod.mk.inj here) elsewhere
      · exact sourced.files other n mem
  · have elsewhere : ¬(other = env ∧ n = f.name) := by
      rintro ⟨rfl, rfl⟩
      exact fresh List.mem_cons_self
    rw [table, if_neg elsewhere]
    exact sourced.others other n (fun mem => fresh (List.mem_cons_of_mem _ mem))

theorem loadErrand {h : Host} (sourced : h.registry.Sourced tree loader) (name : String) (env : Environment) :
    (load tree name env).run h =
      (match ({ loader with loaded := h.registry.loaded } : Loader).errand tree env name with
        | .nothing => pure false
        | .fail f => throw (.fault f)
        | .missing => do
            record .loader .debug ("No definition file for function " ++ name ++ " in " ++ env.name)
            return false
        | .execute path => executeFound tree env loader.nesting name path : Hosted Bool).run h := by
  rw [load, runGet, sourced.gateway]
  exact congrArg (fun loading : Hosted Bool => loading.run h) (loadFileErrand tree env loader.nesting _ name)

theorem loadSourced (stocked : Stocked tree loader) (name : String) (env : Environment) :
    Keeps (fun h => h.registry.Sourced tree loader) (load tree name env) := by
  intro h sourced
  rw [loadErrand sourced]
  cases errand : ({ loader with loaded := h.registry.loaded } : Loader).errand tree env name with
  | nothing | fail | missing => exact sourced
  | execute path =>
    have due := errandDue errand
    obtain ⟨f, enters, rfl⟩ := stockedFile stocked due.loadable due.found env h.registry
    obtain ⟨told, -, run⟩ := executeFoundRuns enters loader.nesting sourced.gateway
    dsimp only
    rw [run]
    exact extendedSourced sourced due.loadable due.found enters

theorem turnSourced (stocked : Stocked tree loader) {h : Host} (sourced : h.registry.Sourced tree loader) {turn : Turn}
    (search : turn.isSearch = true) : (turn.perform tree h).registry.Sourced tree loader := by
  have loads (env : Environment) (name : String) := loadSourced stocked name env
  have all (env : Environment) : Keeps (fun h => h.registry.Sourced tree loader) (loadAll tree env) := by
    intro h sourced
    rw [loadAll, runGet, sourced.gateway]
    exact directoriesKept (loads env) (fun _ _ kept => kept) [] _ h sourced
  cases turn with
  | define => cases search
  | reset => exact resetSourced sourced.gateway
  | read => exact sourced
  | operation o =>
    cases o with
    | lookup name env => exact lookupKept (loads env) name h sourced
    | load name env => exact loads env name h sourced
    | loadAll env => exact all env h sourced
    | documentation env => exact documentationKept (all env) h sourced
    | isRvalue | analyze => exact sourced
    | evaluate => cases search

theorem turnsSourced (stocked : Stocked tree loader) {turns : List Turn} (searches : ∀ turn ∈ turns, turn.isSearch = true)
    {h : Host} (sourced : h.registry.Sourced tree loader) :
    (turns.foldl (Turn.perform tree) h).registry.Sourced tree loader := by
  induction turns generalizing h with
  | nil => exact sourced
  | cons turn turns ih =>
    rw [List.forall_mem_cons] at searches
    exact ih searches.2 (turnSourced stocked sourced searches.1)

theorem loadedKnown {r : Registry} (sourced : r.Sourced tree loader)
    {env : Environment} {name : String} (loaded : (env, name) ∈ r.loaded) : ((r.table env).get? name).isSome = true := by
  obtain ⟨-, path, -, f, -, -, -, entry⟩ := sourced.files env name loaded
  rw [entry]
  rfl

inductive Supplied (tree : FileTree) (env : Environment) (r : Registry) (name : String) :
    Except Fault (Option Path) → Except Failure (Option Function) → Prop where
  | entered {path f} (enters : (tree.program path).Enters env r f) (named : f.name = name) :
      Supplied tree env r name (.ok (some path)) (.ok (some f))
  | nowhere : Supplied tree env r name (.ok none) (.ok none)
  | stuck {fault} : Supplied tree env r name (.error fault) (.error (.fault fault))

theorem suppliedStuck {name : String} {r : Registry} {env : Environment} {fault : Fault} {answer : Except Failure (Option Function)}
    (supplied : Supplied tree env r name (.error fault) answer) : answer = .error (.fault fault) := by
  cases supplied
  rfl

theorem unknownLookup (stocked : Stocked tree loader) {h : Host} (sourced : h.registry.Sourced tree loader)
    {name : String} {env : Environment} (unknown : h.registry.get? name env = none)
    (loadable : isLoadable name = true) :
    Supplied tree env h.registry name (loader.find tree name env) ((lookup tree name env).run h).1 := by
  have fresh : (env, name) ∉ h.registry.loaded := by
    intro mem
    have known := ownEntry (loadedKnown sourced mem)
    rw [unknown] at known
    cases known
  have searched : ({ loader with loaded := h.registry.loaded } : Loader).find tree name env =
      loader.find tree name env := rfl
  rw [lookup, runGet, unknown]
  dsimp only
  rw [runBind, loadErrand sourced]
  cases found : loader.find tree name env with
  | error f =>
    have errand : ({ loader with loaded := h.registry.loaded } : Loader).errand tree env name = .fail f := by
      simp [Loader.errand, loadable, fresh, searched, found]
    rw [errand]
    exact .stuck
  | ok path =>
    cases path with
    | none =>
      have errand : ({ loader with loaded := h.registry.loaded } : Loader).errand tree env name = .missing := by
        simp [Loader.errand, loadable, fresh, searched, found]
      rw [errand]
      change Supplied tree env h.registry name (.ok none) (.ok (h.registry.get? name env))
      rw [unknown]
      exact .nowhere
    | some path =>
      have errand : ({ loader with loaded := h.registry.loaded } : Loader).errand tree env name = .execute path := by
        simp [Loader.errand, loadable, fresh, searched, found]
      obtain ⟨f, enters, rfl⟩ := stockedFile stocked loadable found env h.registry
      obtain ⟨told, -, run⟩ := executeFoundRuns enters loader.nesting sourced.gateway
      rw [errand]
      dsimp only
      rw [run]
      change Supplied tree env h.registry f.name (.ok (some path)) (.ok ((h.registry.insert env f).get? f.name env))
      rw [getEntered]
      exact .entered enters rfl

end Sourced

structure Host.Originates (h : Host) (tree : FileTree) (loader : Loader) : Prop where
  held : ∀ env name, ((h.registry.table env).get? name).isSome = true ↔
    (env, name) ∈ h.registry.loaded ∨ env = Environment.root ∧ ∃ level : Level, name = level.name
  files : ∀ env name, (env, name) ∈ h.registry.loaded →
    ∃ path f r, Finds tree name (loader.searchDirectories env) (.ok (some path)) ∧
      (tree.program path).Enters env r f ∧ f.name = name ∧ (h.registry.table env).get? name = some f
  levels : ∀ level : Level, (Environment.root, level.name) ∉ h.registry.loaded →
    (h.registry.table Environment.root).get? level.name = some (logFunction level)
  lookups : ∀ env name found, isLoadable name = true → Finds tree name (loader.searchDirectories env) found →
    match (h.registry.table env).get? name, (h.registry.table Environment.root).get? name with
    | some f, _ => ((lookup tree name env).run h).1 = .ok (some f)
    | none, some f => ((lookup tree name env).run h).1 = .ok (some f)
    | none, none => Supplied tree env h.registry name found ((lookup tree name env).run h).1

theorem sourcedOriginates {tree : FileTree} {loader : Loader} (stocked : Stocked tree loader) {h : Host}
    (sourced : h.registry.Sourced tree loader) : h.Originates tree loader := by
  refine ⟨fun env name => ?_, fun env name mem => ?_, fun level fresh => ?_, fun env name found loadable finds => ?_⟩
  · constructor
    · intro held
      by_cases loaded : (env, name) ∈ h.registry.loaded
      · exact .inl loaded
      · rw [sourced.others env name loaded] at held
        split at held
        · rename_i root
          obtain ⟨f, same⟩ := Option.isSome_iff_exists.mp held
          obtain ⟨level, named, -⟩ := Option.map_eq_some_iff.mp same
          exact .inr ⟨root, level, namedLevel named⟩
        · cases held
    · rintro (loaded | ⟨rfl, level, rfl⟩)
      · exact loadedKnown sourced loaded
      · by_cases loaded : (Environment.root, level.name) ∈ h.registry.loaded
        · exact loadedKnown sourced loaded
        · rw [sourced.others _ _ loaded, if_pos rfl, levelNamed]
          rfl
  · obtain ⟨-, path, found, f, r, enters, named, entry⟩ := sourced.files env name mem
    exact ⟨path, f, r, findsOnly.mpr found, enters, named, entry⟩
  · rw [sourced.others _ _ fresh, if_pos rfl, levelNamed]
    rfl
  · have same : loader.find tree name env = found := findsOnly.mp finds
    subst same
    cases known : h.registry.get? name env with
    | some f =>
      rw [lookup, runGet, known]
      rw [Registry.get?] at known
      cases own : (h.registry.table env).get? name with
      | some g =>
        rw [own] at known
        cases known
        rfl
      | none =>
        rw [own] at known
        dsimp only at known
        rw [known]
        rfl
    | none =>
      have supplied := unknownLookup stocked sourced known loadable
      rw [Registry.get?] at known
      split at known
      · cases known
      · rename_i own
        rw [own, known]
        exact supplied

/- For every run of searches and resets, in whatever environments. -/
theorem definitionsOriginate {tree : FileTree} {loader : Loader} (stocked : Stocked tree loader) {turns : List Turn}
    (searches : ∀ turn ∈ turns, turn.isSearch = true) :
    (turns.foldl (Turn.perform tree) ⟨Registry.withGateway (.files loader), []⟩).Originates tree loader :=
  sourcedOriginates stocked (turnsSourced stocked searches freshSourced)

def shadowing : FileTree :=
  [("envs/production/functions/triple.py", 7), ("lib/triple.py", 6)].foldl
    (fun tree (path, n) => tree.write (Path.ofText path)
      (.definitions { definitions := [{ name := .text "triple", body := .constant (.int n), kind := .text "rvalue" }] }))
    FileTree.installed

def shadowingLoader : Loader := { searchPath := [Path.ofText "lib"], environmentPath := some (Path.ofText "envs") }

theorem installedNames : FileTree.installed.Names := by
  intro place entry name mem loadable
  refine (installedListed mem).imp_right ?_
  rintro ⟨d, listed, rfl, does⟩ env r
  rw [does]
  exact ⟨_, definitionEnters (bundledRegisters d listed).1 env r, rfl⟩

theorem shadowingNames : shadowing.Names := by
  let tripling (n : Int) : DefinitionFile :=
    { definitions := [{ name := .text "triple", body := .constant (.int n), kind := .text "rvalue" }] }
  have only : shadowing.entries = FileTree.installed.entries ++ [(["/work", "envs"], .directory),
    (["/work", "envs", "production"], .directory), (["/work", "envs", "production", "functions"], .directory),
    (["/work", "envs", "production", "functions", "triple.py"], .definitions (tripling 7)),
    (["/work", "lib"], .directory), (["/work", "lib", "triple.py"], .definitions (tripling 6))] := rfl
  intro place entry name mem loadable
  rw [only] at mem
  rcases List.mem_append.mp mem with before | added
  · exact installedNames place entry name before loadable
  · simp only [List.mem_cons, Prod.mk.injEq, List.not_mem_nil, or_false] at added
    have file {n : Int} {front : Place} (there : place ++ [name ++ definitionSuffix] = front ++ ["triple.py"])
        (same : entry = .definitions (tripling n)) :
        entry = .directory ∨ entry.executed.Registers name := by
      have named : name = "triple" := @fileNamed _ front name "triple" there
      subst named same
      exact .inr (fun env r => ⟨_, definitionEnters ⟨rfl, ⟨.rvalue, rfl⟩, ⟨-1, rfl⟩, rfl⟩ env r, rfl⟩)
    rcases added with ⟨-, same⟩ | ⟨-, same⟩ | ⟨-, same⟩ | ⟨there, same⟩ | ⟨-, same⟩ | ⟨there, same⟩
    · exact .inl same
    · exact .inl same
    · exact .inl same
    · exact @file 7 ["/work", "envs", "production", "functions"] there same
    · exact .inl same
    · exact @file 6 ["/work", "lib"] there same

def shadowingTurns : List Turn := [.operation (.lookup "triple" Environment.root),
  .operation (.documentation ⟨"production"⟩), .reset, .operation (.load "triple" ⟨"production"⟩)]

theorem shadowingOriginates : Stocked shadowing shadowingLoader ∧ (∀ turn ∈ shadowingTurns, turn.isSearch = true) ∧
    (shadowingTurns.foldl (Turn.perform shadowing) ⟨Registry.withGateway (.files shadowingLoader), []⟩).Originates
      shadowing shadowingLoader :=
  ⟨namesStocked shadowingNames _, by decide, definitionsOriginate (namesStocked shadowingNames _) (by decide)⟩

/- A search stops at the first name that is too long for a file. -/
theorem longStuck {name : String} (loadable : isLoadable name = true)
    (long : longestName < (name ++ definitionSuffix).utf8ByteSize) :
    bundledLoader.find FileTree.installed name Environment.root =
      .error (.nameTooLong (Path.bundled.definitionOf name).text) := by
  have nulls : ([name ++ definitionSuffix].any (fun part => part.toList.contains '\x00')) = false := by
    obtain ⟨cs, rest, whole, identifier, ends⟩ := loadableShape loadable
    have inside : '\x00' ∉ cs := identifierWithout identifier rfl rfl
    have suffix : definitionSuffix.toList = ['.', 'p', 'y'] := rfl
    simp only [List.any_cons, List.any_nil, Bool.or_false, String.toList_append, whole, suffix]
    rcases ends with rfl | rfl <;> simp [inside]
  have resolved : FileTree.installed.resolve ⟨.bundled, [name ++ definitionSuffix]⟩ = .tooLong := by
    have place : FileTree.installed.entry? Anchor.bundled.place = some .directory := rfl
    rw [FileTree.resolve, nulls, if_neg Bool.false_ne_true, FileTree.walk, place]
    dsimp only
    rw [if_neg (by simpa using fileNameUp name), if_pos long]
  refine findsOnly.mp (@Finds.stuck _ _ [] [] Path.bundled (List.forall_mem_nil _) ?_)
  rw [definitionPath loadable]
  change FileTree.installed.isFile ⟨.bundled, [name ++ definitionSuffix]⟩ = _
  rw [FileTree.isFile, resolved]
  rfl

def letters : Nat → String
  | 0 => ""
  | n + 1 => (letters n).push 'a'

theorem lettersList (n : Nat) : (letters n).toList = List.replicate n 'a' := by
  induction n with
  | zero => rfl
  | succ n ih => rw [letters, String.toList_push, ih, List.replicate_succ']

theorem lettersSize (n : Nat) : (letters n).utf8ByteSize = n := by
  induction n with
  | zero => rfl
  | succ n ih =>
    rw [letters, String.utf8ByteSize_push, ih]
    rfl

theorem lettersLoadable (n : Nat) : isLoadable (letters (n + 1)) = true := by
  have identifier : Identifier (List.replicate (n + 1) 'a') :=
    ⟨'a', List.replicate n 'a', rfl, rfl, fun c mem => List.eq_of_mem_replicate mem ▸ rfl⟩
  have whole := (@nameWhole _ [] identifier (.inl rfl)).1
  rw [List.append_nil] at whole
  simp [isLoadable, lettersList, whole]

theorem lettersUnlevelled {n : Nat} (long : 7 < n) : Level.ofName? (letters n) = none := by
  cases named : Level.ofName? (letters n) with
  | none => rfl
  | some level =>
    have same := congrArg String.utf8ByteSize (namedLevel named)
    have short : level.name.utf8ByteSize ≤ 7 := by cases level <;> decide
    rw [lettersSize] at same
    omega

theorem longNameRaises : isLoadable (letters 256) = true ∧
    ((lookup FileTree.installed (letters 256) Environment.root).run
      ⟨Registry.withGateway (.files bundledLoader), []⟩).1 =
        .error (.fault (.nameTooLong (Path.bundled.definitionOf (letters 256)).text)) := by
  have loadable := lettersLoadable 255
  have unlevelled : Level.ofName? (letters 256) = none := lettersUnlevelled (by decide)
  have long : longestName < (letters 256 ++ definitionSuffix).utf8ByteSize := by
    rw [String.utf8ByteSize_append, lettersSize]
    decide
  generalize letters 256 = name at *
  refine ⟨loadable, ?_⟩
  have unknown : (Registry.withGateway (.files bundledLoader)).get? name Environment.root = none := by
    rw [Registry.get?, levelledTable, if_pos rfl, unlevelled]
    rfl
  have supplied := unknownLookup (h := ⟨_, []⟩) (namesStocked installedNames _) freshSourced unknown loadable
  rw [longStuck loadable long] at supplied
  exact suppliedStuck supplied

end CallScript
