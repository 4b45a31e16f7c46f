import CallScript.Proofs.Events
import CallScript.Proofs.Files

/-! Where the definition files lie that loads execute. The name of a function leads to a file directly in one of
the directories that are searched; the name of an environment may lead anywhere, but one that never climbs stays
below the directory of the environments. Nothing but such files defines functions while names are loaded. -/
namespace CallScript

def staysBelow : Nat → List String → Bool
  | _, [] => true
  | 0, part :: rest => part != ".." && staysBelow 1 rest
  | n + 1, part :: rest => if part == ".." then staysBelow n rest else staysBelow (n + 2) rest

def Path.Descends (p : Path) : Prop :=
  p.anchor = .workingDirectory ∧ staysBelow 0 p.parts = true

section Walking

variable {tree : FileTree}

theorem walkStart {place found : Place} {part : String} {rest : List String} {entry : Entry}
    (walked : tree.walk place (part :: rest) = .found found entry) : tree.entry? place = some .directory := by
  rw [FileTree.walk] at walked
  split at walked
  · cases walked
  · assumption
  · cases walked

theorem walkNext {place found : Place} {part : String} {rest : List String} {entry : Entry}
    (walked : tree.walk place (part :: rest) = .found found entry) :
    tree.walk (if part = ".." then place.dropLast else place ++ [part]) rest = .found found entry := by
  rw [FileTree.walk, walkStart walked] at walked
  dsimp only at walked
  split at walked
  · rename_i up
    rwa [if_pos (eq_of_beq up)]
  · rename_i down
    rw [if_neg (fun same => down (beq_iff_eq.mpr same))]
    split at walked
    · cases walked
    · exact walked

theorem walkAppend {place found : Place} {first second : List String} {entry : Entry}
    (walked : tree.walk place (first ++ second) = .found found entry) :
    ∃ middle there, tree.walk place first = .found middle there ∧ tree.walk middle second = .found found entry := by
  induction first generalizing place with
  | nil =>
    have here : ∃ there, tree.entry? place = some there := by
      cases second with
      | nil => exact ⟨entry, by
          rw [List.nil_append, FileTree.walk] at walked
          split at walked
          · cases walked
            assumption
          · cases walked⟩
      | cons part rest => exact ⟨.directory, walkStart walked⟩
    obtain ⟨there, some⟩ := here
    exact ⟨place, there, by rw [FileTree.walk, some], walked⟩
  | cons part rest ih =>
    have start := walkStart walked
    rw [List.cons_append, FileTree.walk, start] at walked
    dsimp only at walked
    split at walked
    · rename_i up
      obtain ⟨middle, there, before, after⟩ := ih walked
      exact ⟨middle, there, by rwa [FileTree.walk, start, if_pos up], after⟩
    · rename_i down
      split at walked
      · cases walked
      · rename_i short
        obtain ⟨middle, there, before, after⟩ := ih walked
        exact ⟨middle, there, by rwa [FileTree.walk, start, if_neg down, if_neg short], after⟩

theorem walkBelow {base found : Place} {parts : List String} {entry : Entry} {extra : List String}
    (below : staysBelow extra.length parts = true) (walked : tree.walk (base ++ extra) parts = .found found entry) :
    base <+: found := by
  -- the recursion counts how far below the base the walk is
  induction parts generalizing extra with
  | nil =>
    rw [FileTree.walk] at walked
    split at walked
    · cases walked
      exact List.prefix_append base extra
    · cases walked
  | cons part rest ih =>
    have next := walkNext walked
    by_cases up : part = ".."
    · rw [if_pos up] at next
      rcases List.eq_nil_or_concat extra with rfl | ⟨front, x, rfl⟩
      · simp [staysBelow, up] at below
      · rw [List.concat_eq_append, ← List.append_assoc, List.dropLast_concat] at next
        refine ih ?_ next
        simpa [staysBelow, up] using below
    · rw [if_neg up, List.append_assoc] at next
      refine ih ?_ next
      rw [List.length_append]
      cases extra with
      | nil => simpa [staysBelow, up] using below
      | cons x extra => simpa [staysBelow, up] using below

theorem staysBelowAppend {first second : List String} {n : Nat} (below : staysBelow n first = true)
    (more : ∀ m, staysBelow m second = true) : staysBelow n (first ++ second) = true := by
  induction first generalizing n with
  | nil => exact more n
  | cons part rest ih =>
    cases n with
    | zero =>
      simp only [List.cons_append, staysBelow, Bool.and_eq_true] at below ⊢
      exact ⟨below.1, ih below.2⟩
    | succ n =>
      simp only [List.cons_append, staysBelow] at below ⊢
      split
      · rename_i up
        exact ih (by simpa [up] using below)
      · rename_i down
        exact ih (by simpa [down] using below)

theorem resolveAppend {anchor : Anchor} {first second : List String} {found : Place} {entry : Entry}
    (resolved : tree.resolve ⟨anchor, first ++ second⟩ = .found found entry) :
    ∃ middle there, tree.resolve ⟨anchor, first⟩ = .found middle there ∧
      tree.walk middle second = .found found entry := by
  rw [FileTree.resolve] at resolved
  split at resolved
  · cases resolved
  · rename_i admitted
    obtain ⟨middle, there, before, after⟩ := walkAppend resolved
    refine ⟨middle, there, ?_, after⟩
    rw [FileTree.resolve, if_neg]
    · exact before
    · simp only [List.any_append, Bool.or_eq_true, not_or] at admitted
      exact admitted.1

theorem resolveWalked {p : Path} {found : Place} {entry : Entry} (resolved : tree.resolve p = .found found entry) :
    tree.walk p.anchor.place p.parts = .found found entry := by
  rw [FileTree.resolve] at resolved
  split at resolved
  · cases resolved
  · exact resolved

theorem resolveDirectory {p : Path} {place found : Place} {there entry : Entry} {part : String}
    {rest : List String} (resolved : tree.resolve p = .found place there)
    (onward : tree.walk place (part :: rest) = .found found entry) : there = .directory :=
  Option.some.inj ((walkFound (resolveWalked resolved)).symm.trans (walkStart onward))

end Walking

inductive Loader.Searches (loader : Loader) (tree : FileTree) (env : Environment) (there : Place) : Prop where
  | along {directory} (listed : directory ∈ loader.searchPath)
      (resolved : tree.resolve directory = .found there .directory)
  | bundled (admitted : loader.bundled = true) (resolved : tree.resolve Path.bundled = .found there .directory)
  | own {base} (named : env.isRoot = false) (environments : loader.environmentPath = some base)
      (resolved : tree.resolve ((base.join (Path.ofText env.name)).child "functions") = .found there .directory)
      (inside : (Path.ofText env.name).Descends →
        ∃ place, tree.resolve base = .found place .directory ∧ place <+: there)

def Loader.Lies (loader : Loader) (tree : FileTree) (env : Environment) (name : String) (path : Path) : Prop :=
  ∃ there entry, loader.Searches tree env there ∧
    tree.resolve path = .found (there ++ [name ++ definitionSuffix]) entry

def Loader.Encloses (loader : Loader) (tree : FileTree) (env : Environment) (place : Place) : Prop :=
  (env.isRoot = false ∧ ∃ base there, loader.environmentPath = some base ∧
    tree.resolve base = .found there .directory ∧ there <+: place) ∨
  ∃ directory, (directory ∈ loader.searchPath ∨ loader.bundled = true ∧ directory = Path.bundled) ∧
    tree.resolve directory = .found place.dropLast .directory

section Finding

variable {tree : FileTree} {loader : Loader} {env : Environment} {name : String} {path : Path}

theorem liesEnclosed (descends : env.isRoot = false → (Path.ofText env.name).Descends)
    (lies : loader.Lies tree env name path) :
    ∃ place entry, tree.resolve path = .found place entry ∧ loader.Encloses tree env place := by
  obtain ⟨there, entry, searches, resolved⟩ := lies
  refine ⟨_, entry, resolved, ?_⟩
  have directly : (there ++ [name ++ definitionSuffix]).dropLast = there := List.dropLast_concat
  cases searches with
  | along listed directory => exact .inr ⟨_, .inl listed, directly.symm ▸ directory⟩
  | bundled admitted directory => exact .inr ⟨_, .inr ⟨admitted, rfl⟩, directly.symm ▸ directory⟩
  | own named environments _ inside =>
    obtain ⟨place, base, before⟩ := inside (descends named)
    exact .inl ⟨named, _, place, environments, base, before.trans (List.prefix_append there _)⟩

theorem findInFound {directories : List Path} (found : findIn tree name directories = .ok (some path)) :
    ∃ directory ∈ directories, path = directory.definitionOf name ∧ tree.isFile path = .ok true := by
  induction directories with
  | nil => cases found
  | cons directory rest ih =>
    rw [findIn] at found
    cases file : tree.isFile (directory.definitionOf name) with
    | error f =>
      rw [file] at found
      cases found
    | ok here =>
      rw [file] at found
      cases here with
      | true =>
        cases found
        exact ⟨directory, List.mem_cons_self, rfl, file⟩
      | false =>
        obtain ⟨other, mem, same, whole⟩ := ih found
        exact ⟨other, List.mem_cons_of_mem _ mem, same, whole⟩

theorem fileFound (file : tree.isFile path = .ok true) : ∃ place entry, tree.resolve path = .found place entry := by
  rw [FileTree.isFile] at file
  split at file
  · cases file
  · cases file
  · exact ⟨_, _, by assumption⟩
  · cases file

theorem ownInside {base : Path} {there : Place}
    (resolved : tree.resolve ((base.join (Path.ofText env.name)).child "functions") = .found there .directory)
    (descends : (Path.ofText env.name).Descends) :
    ∃ place, tree.resolve base = .found place .directory ∧ place <+: there := by
  obtain ⟨relative, below⟩ := descends
  have path : (base.join (Path.ofText env.name)).child "functions" =
      ⟨base.anchor, base.parts ++ ((Path.ofText env.name).parts ++ ["functions"])⟩ := by
    have functions : Path.ofText "functions" = ⟨.workingDirectory, ["functions"]⟩ := by decide
    rw [Path.child, functions, Path.join, Path.join, relative]
    simp
  rw [path] at resolved
  obtain ⟨place, entry, before, after⟩ := resolveAppend resolved
  have stays : staysBelow ([] : Place).length ((Path.ofText env.name).parts ++ ["functions"]) = true :=
    staysBelowAppend below (fun m => by cases m <;> rfl)
  have directory : entry = .directory := by
    cases parts : (Path.ofText env.name).parts ++ ["functions"] with
    | nil => simp at parts
    | cons part rest => exact resolveDirectory before (parts ▸ after)
  rw [← List.append_nil place] at after
  exact ⟨place, directory ▸ before, walkBelow stays after⟩

theorem directorySearched {directory : Path} {there : Place} (mem : directory ∈ loader.searchDirectories env)
    (resolved : tree.resolve directory = .found there .directory) : loader.Searches tree env there := by
  rw [Loader.searchDirectories, List.mem_append, List.mem_append] at mem
  rcases mem with (own | along) | bundled
  · cases environments : loader.environmentPath with
    | none => simp [environments] at own
    | some base =>
      rw [environments] at own
      dsimp only at own
      split at own
      · cases own
      · rename_i named
        cases List.mem_singleton.mp own
        exact .own (by simpa using named) environments resolved (ownInside resolved)
  · exact .along along resolved
  · split at bundled
    · rename_i admitted
      cases List.mem_singleton.mp bundled
      exact .bundled admitted resolved
    · cases bundled

theorem foundLies (loadable : isLoadable name = true) (found : loader.find tree name env = .ok (some path)) :
    loader.Lies tree env name path := by
  obtain ⟨directory, mem, rfl, file⟩ := findInFound found
  obtain ⟨place, entry, resolved⟩ := fileFound file
  rw [definitionPath loadable] at resolved ⊢
  obtain ⟨there, middle, before, after⟩ := resolveAppend resolved
  cases resolveDirectory before after
  obtain ⟨rfl, -⟩ := walkOne (fileNameUp name) after
  exact ⟨there, entry, directorySearched mem before, resolved⟩

theorem foundListed (loadable : isLoadable name = true) (found : loader.find tree name env = .ok (some path)) :
    ∃ place entry, (place ++ [name ++ definitionSuffix], entry) ∈ tree.entries ∧ entry ≠ .directory ∧
      tree.program path = entry.executed := by
  obtain ⟨there, entry, -, resolved⟩ := foundLies loadable found
  obtain ⟨directory, -, rfl, file⟩ := findInFound found
  refine ⟨there, entry, entryListed (walkFound (resolveWalked resolved)) (by simp), ?_, ?_⟩
  · rintro rfl
    rw [FileTree.isFile, resolved] at file
    cases file
  · rw [FileTree.program, resolved]

end Finding

/- The events that loads for an environment may come to: a file begins to be executed only where it lies in a
directory that is searched, and definitions come from such files. -/
inductive Event.Confined (tree : FileTree) (loader : Loader) (env : Environment) : Event → Prop where
  | start {name path} (lies : loader.Lies tree env name path) : Confined tree loader env (.start env name path)
  | define {name path d} (lies : loader.Lies tree env name path)
      (asked : (tree.program path).Defines env d) : Confined tree loader env (.define env d)
  | finish {name} : Confined tree loader env (.finish env name)
  | tell {entry} (other : ∀ env name path, entry ≠ loadingRecord env name path) :
      Confined tree loader env (.tell entry)

structure Confines (tree : FileTree) (loader : Loader) (env : Environment) (h last : Host) : Prop where
  gateway : ∃ loaded, last.registry.gateway = .files { loader with loaded }
  events : ∃ events : List Event, (∀ event ∈ events, event.Confined tree loader env) ∧
    last = events.foldl Host.after h

section Confining

variable {tree : FileTree} {loader : Loader} {env : Environment} {h : Host}

theorem confinesSelf (gateway : h.registry.gateway = .files loader) : Confines tree loader env h h :=
  ⟨⟨loader.loaded, gateway⟩, [], by simp, rfl⟩

theorem confinesAfter {last : Host} {event : Event} (confines : Confines tree loader env h last)
    (confined : event.Confined tree loader env) : Confines tree loader env h (last.after event) := by
  obtain ⟨⟨loaded, gateway⟩, events, all, rfl⟩ := confines
  refine ⟨?_, events ++ [event], ?_, by rw [List.foldl_append]; rfl⟩
  · rw [afterRegistry]
    cases confined with
    | start | tell => exact ⟨loaded, gateway⟩
    | @define _ _ d =>
      rw [Registry.after]
      cases d.requested env <;> exact ⟨loaded, gateway⟩
    | @finish name => exact ⟨(env, name) :: loaded, by rw [Registry.after, gateway]; rfl⟩
  · exact List.forall_mem_append.mpr ⟨all, List.forall_mem_singleton.mpr confined⟩

theorem tellsConfined {level : Level} {message : String}
    (other : ∀ env name path, (⟨.loader, level, message⟩ : Record) ≠ loadingRecord env name path) :
    Keeps (Confines tree loader env h) (record .loader level message) :=
  fun _ confines => confinesAfter confines (.tell other)

theorem warningsConfined (message : String) :
    Keeps (Confines tree loader env h) (record .loader .warning message) := by
  refine tellsConfined (fun _ _ _ same => ?_)
  cases congrArg Record.level same

theorem missingConfined (name : String) : Keeps (Confines tree loader env h)
    (record .loader .debug ("No definition file for function " ++ name ++ " in " ++ env.name)) := by
  refine tellsConfined (fun _ _ _ same => ?_)
  have heads := congrArg (fun entry => entry.message.toList.head?) same
  simp [loadingRecord, String.toList_append] at heads

theorem foundConfined {depth : Nat} {name : String} {path : Path}
    (nested : ∀ wanted, Keeps (Confines tree loader env h) (seekNested tree env depth wanted))
    (lies : loader.Lies tree env name path) :
    Keeps (Confines tree loader env h) (executeFound tree env depth name path) := by
  have begins : Keeps (Confines tree loader env h) (record .loader .debug
      ("Loading function " ++ name ++ " for " ++ env.name ++ " from " ++ path.text)) :=
    fun _ confines => confinesAfter confines (.start lies)
  have executes : Keeps (Confines tree loader env h)
      ((tree.program path).execute (seekNested tree env depth) env) :=
    executionKept nested (fun d asked _ confines => confinesAfter confines (.define lies asked))
  have ends : Keeps (Confines tree loader env h) (modifyLoader (markLoaded env name)) :=
    fun _ confines => confinesAfter confines .finish
  refine keepsBind begins (fun _ => keepsBind (keepsTry executes (fun _ => keepsThrow _)) (fun _ => ?_))
  refine keepsBind ends (fun _ => keepsBind keepsGet (fun k => ?_))
  split
  · exact keepsBind (warningsConfined _) (fun _ => keepsPure _)
  · exact keepsPure _

theorem loadFileConfined (depth : Nat) (name : String) {k : Host} {current : Loader}
    (gateway : k.registry.gateway = .files current) (confines : Confines tree loader env h k) :
    Confines tree loader env h ((loadFile tree env depth current name).run k).2 := by
  induction depth generalizing name k current with
  | zero => exact confines
  | succ depth ih =>
    rw [loadFileErrand]
    cases errand : current.errand tree env name with
    | nothing | fail => exact confines
    | missing => exact keepsBind (missingConfined name) (fun _ => keepsPure _) k confines
    | execute path =>
      obtain ⟨loadable, -, found⟩ := errandDue errand
      obtain ⟨loaded, files⟩ := confines.gateway
      cases gateway.symm.trans files
      have nested (wanted : String) : Keeps (Confines tree loader env h) (seekNested tree env depth wanted) := by
        intro k confines
        rw [seekNested, runGet]
        dsimp only
        split
        · rename_i inner _ gateway
          have kept := ih wanted gateway confines
          rw [runBind]
          generalize (loadFile tree env depth inner wanted).run k = ran at kept ⊢
          obtain ⟨failure | _, after⟩ := ran <;> exact kept
        · exact confines
      exact foundConfined nested (foundLies loadable found) k confines

theorem loadConfined (name : String) : Keeps (Confines tree loader env h) (load tree name env) := by
  intro k confines
  obtain ⟨loaded, gateway⟩ := confines.gateway
  rw [load, runGet, gateway]
  exact loadFileConfined _ name gateway confines

theorem loadAllConfined : Keeps (Confines tree loader env h) (loadAll tree env) := by
  intro k confines
  obtain ⟨loaded, gateway⟩ := confines.gateway
  rw [loadAll, runGet, gateway]
  exact directoriesKept loadConfined warningsConfined [] _ k confines

end Confining

/- Whatever is loaded, one name or all, the files that are executed lie directly in a directory that is searched:
along the search path, among the bundled functions, or for an environment below the directory of the
environments, unless the name of the environment leads out of it. -/
theorem loadsConfined {tree : FileTree} {loader : Loader} {h : Host} (gateway : h.registry.gateway = .files loader)
    (env : Environment) :
    (∀ name, Confines tree loader env h ((load tree name env).run h).2) ∧
      (∀ name, Confines tree loader env h ((lookup tree name env).run h).2) ∧
      Confines tree loader env h ((loadAll tree env).run h).2 ∧
      Confines tree loader env h ((documentation tree env).run h).2 :=
  have start := confinesSelf gateway
  ⟨fun name => loadConfined name h start, fun name => lookupKept loadConfined name h start,
    loadAllConfined h start, documentationKept loadAllConfined h start⟩

def straying : FileTree :=
  ["envs/production/functions/probe.py", "outside/functions/probe.py"].foldl
    (fun tree path => tree.write (Path.ofText path)
      (.definitions
        { definitions := [{ name := .text "probe", body := .constant (.int 7), kind := .text "rvalue" }] }))
    FileTree.installed

def strayingLoader : Loader := { environmentPath := some (Path.ofText "envs"), bundled := false }

def unprobed : Host := ⟨Registry.withGateway (.files strayingLoader), []⟩

def probing (env : Environment) : Host :=
  ((lookup straying "probe" env).run unprobed).2

theorem probingConfined : unprobed.registry.gateway = .files strayingLoader ∧
    Confines straying strayingLoader ⟨"production"⟩ unprobed (probing ⟨"production"⟩) ∧
    (∀ name path, strayingLoader.Lies straying ⟨"production"⟩ name path →
      ∃ place entry, straying.resolve path = .found place entry ∧
        strayingLoader.Encloses straying ⟨"production"⟩ place) ∧
    ((probing ⟨"production"⟩).registry.get? "probe" ⟨"production"⟩).isSome = true :=
  ⟨rfl, (loadsConfined rfl ⟨"production"⟩).2.1 "probe", fun _ _ => liesEnclosed (fun _ => ⟨rfl, rfl⟩),
    by decide +kernel⟩

theorem probingStrays : ∃ path place entry,
    (probing ⟨"../outside"⟩).journal = [loadingRecord ⟨"../outside"⟩ "probe" path] ∧
    straying.resolve path = .found place entry ∧ ¬ strayingLoader.Encloses straying ⟨"../outside"⟩ place := by
  refine ⟨⟨.workingDirectory, ["envs", "..", "outside", "functions", "probe.py"]⟩,
    ["/work", "outside", "functions", "probe.py"], _, by decide +kernel, rfl, ?_⟩
  rintro (⟨-, base, there, environments, resolved, before⟩ | ⟨directory, listed | ⟨admitted, -⟩, -⟩)
  · cases environments
    have envs : straying.resolve (Path.ofText "envs") = .found ["/work", "envs"] .directory := rfl
    cases envs.symm.trans resolved
    exact absurd before (by decide)
  · cases listed
  · cases admitted

end CallScript
