import CallScript.Proofs.Failing
import CallScript.Proofs.Mentions

/-! Lookups that are made again. A load that came to its end leaves the name idle: loaded, or without a file to load.
A lookup that was answered is answered in the same way by the next one, which executes nothing: it comes to the same
whatever the files hold by then. So `defined` foretells whether a call finds its function. -/
namespace CallScript

def Entry.outline : Entry → Entry
  | .directory => .directory
  | _ => .contents []

def FileTree.outline (tree : FileTree) : FileTree :=
  ⟨tree.entries.map (fun entry => (entry.1, entry.2.outline))⟩

def Resolution.outline : Resolution → Resolution
  | .found place entry => .found place entry.outline
  | other => other

section Outline

theorem outlineEntry (tree : FileTree) (place : Place) :
    tree.outline.entry? place = (tree.entry? place).map Entry.outline := by
  rw [FileTree.entry?, FileTree.entry?]
  split
  · rfl
  · rw [FileTree.outline, List.find?_map, Option.map_map, Option.map_map]
    rfl

theorem outlineWalk (tree : FileTree) (place : Place) (parts : List String) :
    tree.outline.walk place parts = (tree.walk place parts).outline := by
  induction parts generalizing place with
  | nil =>
    rw [FileTree.walk, FileTree.walk, outlineEntry]
    cases tree.entry? place <;> rfl
  | cons part rest ih =>
    rw [FileTree.walk, FileTree.walk, outlineEntry]
    rcases tree.entry? place with _ | _ | _ | _
    · rfl
    · dsimp only [Option.map_some, Entry.outline]
      split
      · exact ih _
      · split
        · rfl
        · exact ih _
    · rfl
    · rfl

theorem outlineResolves (tree : FileTree) (p : Path) : tree.outline.resolve p = (tree.resolve p).outline := by
  rw [FileTree.resolve, FileTree.resolve]
  split
  · rfl
  · exact outlineWalk tree _ _

theorem outlineFile (tree : FileTree) (p : Path) : tree.outline.isFile p = tree.isFile p := by
  rw [FileTree.isFile, FileTree.isFile, outlineResolves]
  rcases tree.resolve p with ⟨_, _ | _ | _⟩ | _ | _ | _ <;> rfl

theorem outlineFinds (tree : FileTree) (name : String) (directories : List Path) :
    findIn tree.outline name directories = findIn tree name directories := by
  induction directories with
  | nil => rfl
  | cons directory rest ih => rw [findIn, findIn, outlineFile, ih]

theorem outlineErrand {tree other : FileTree} (same : other.outline = tree.outline) (loader : Loader)
    (env : Environment) (name : String) : loader.errand other env name = loader.errand tree env name := by
  have finds : loader.find other name env = loader.find tree name env := by
    rw [Loader.find, ← outlineFinds, same, outlineFinds]
    rfl
  rw [Loader.errand, finds]
  rfl

end Outline

def Registry.Idle (r : Registry) (tree : FileTree) (env : Environment) (name : String) : Prop :=
  ∃ loader, r.gateway = .files loader ∧ (loader.errand tree env name).idle = true

def missingRecord (env : Environment) (name : String) : Record :=
  ⟨.loader, .debug, "No definition file for function " ++ name ++ " in " ++ env.name⟩

section Loads

variable {tree other : FileTree} {env : Environment} {name : String} {h t : Host}

theorem loadFromFiles {loader : Loader} (gateway : h.registry.gateway = .files loader) :
    (load tree name env).run h = (loadFile tree env (loader.nesting + 1) loader name).run h := by
  rw [load, runGet, gateway]

theorem loadCompleting (tree : FileTree) (env : Environment) (name : String) :
    Completing tree env (load tree name env) := by
  rintro h ⟨loader, gateway⟩
  rw [loadFromFiles gateway]
  exact (loadingAll tree env _).completes loader name h gateway

theorem loadSettles {b : Bool} (files : h.registry.Files) (ran : (load tree name env).run h = (.ok b, t)) :
    t.registry.Idle tree env name := by
  obtain ⟨loader, gateway⟩ := files
  rw [loadFromFiles gateway] at ran
  exact ((loadingAll tree env _).settles loader name h t b gateway ran).2

theorem idleLoad (idle : h.registry.Idle tree env name) (same : other.outline = tree.outline) :
    ∃ told, (load other name env).run h = (.ok false, ⟨h.registry, h.journal ++ told⟩) ∧
      ∀ entry ∈ told, entry = missingRecord env name := by
  obtain ⟨loader, gateway, idle⟩ := idle
  rw [loadFromFiles gateway, loadFileErrand, outlineErrand same]
  cases errand : loader.errand tree env name with
  | nothing => exact ⟨[], by rw [List.append_nil]; rfl, fun _ mem => nomatch mem⟩
  | missing => exact ⟨[missingRecord env name], rfl, fun _ mem => List.mem_singleton.mp mem⟩
  | fail | execute =>
    rw [errand] at idle
    cases idle

theorem lookupKnown {f : Function} (known : h.registry.get? name env = some f) :
    (lookup tree name env).run h = (.ok (some f), h) := by
  rw [lookup, runGet, known]
  rfl

theorem lookupAnswered {found : Option Function} (unknown : h.registry.get? name env = none)
    (ran : (lookup tree name env).run h = (.ok found, t)) :
    (∃ b, (load tree name env).run h = (.ok b, t)) ∧ t.registry.get? name env = found := by
  rw [lookup, runGet, unknown] at ran
  obtain ⟨b, u, loaded, ended⟩ := endedBind ran
  rw [runGet] at ended
  cases ended
  exact ⟨⟨b, loaded⟩, rfl⟩

theorem lookupMeans {found : Option Function} (ran : (lookup tree name env).run h = (.ok found, t)) :
    t.registry.get? name env = found := by
  cases before : h.registry.get? name env with
  | some f =>
    cases (lookupKnown before).symm.trans ran
    exact before
  | none => exact (lookupAnswered before ran).2

theorem lookupUnknown {b : Bool} (unknown : h.registry.get? name env = none)
    (loaded : (load tree name env).run h = (.ok b, t)) (still : t.registry.get? name env = none) :
    (lookup tree name env).run h = (.ok none, t) := by
  rw [lookup, runGet, unknown]
  dsimp only
  rw [runBind, loaded]
  dsimp only
  rw [runGet, still]
  rfl

theorem lookupAgain {found : Option Function} (files : h.registry.Files)
    (ran : (lookup tree name env).run h = (.ok found, t)) (same : other.outline = tree.outline) :
    ∃ told, (lookup other name env).run t = (.ok found, ⟨t.registry, t.journal ++ told⟩) ∧
      ∀ entry ∈ told, found = none ∧ entry = missingRecord env name := by
  have means := lookupMeans ran
  cases found with
  | some f => exact ⟨[], by rw [lookupKnown means, List.append_nil], fun _ mem => nomatch mem⟩
  | none =>
    cases before : h.registry.get? name env with
    | some f => cases (lookupKnown before).symm.trans ran
    | none =>
      obtain ⟨⟨b, loaded⟩, -⟩ := lookupAnswered before ran
      obtain ⟨told, idled, missing⟩ := idleLoad (loadSettles files loaded) same
      exact ⟨told, lookupUnknown means idled means, fun entry mem => ⟨rfl, missing entry mem⟩⟩

end Loads

section Calls

open Syntax (Node)

variable {around : Surroundings} {scope : Scope} {name : String} {s t : Run}

def Lodged (α : Type) (x : Running α) : Prop := Keeps (fun run => run.host.registry.Files) x

theorem filesEnduring (around : Surroundings) (scope : Scope) :
    Enduring around scope.environment (fun _ => True) Lodged :=
  keptEnduring (I := fun h => h.registry.Files) around scope
    (fun name _ files => reachesFiles (lookupReaches name _) files)
    (fun d _ _ files => filesRemain (.define around.ambient d) files) (fun _ _ _ files => files)

theorem resolveLodged (around : Surroundings) (scope : Scope) (name : String) (statement : Bool) :
    Lodged Function (resolveCall around scope name statement) := by
  have enduring := filesEnduring around scope
  have looks : Looks around.tree scope.environment (fun _ => True) Lodged := enduring.looks
  rw [← bind_pure (resolveCall around scope name statement)]
  exact calleeLasts around scope @looks (fun failure => enduring.throws failure) (fun g _ => enduring.gives g)

def Function.placed (f : Function) (name : String) (statement : Bool) : Except Failure Function :=
  if statement && f.kind == .rvalue then .error (.mustBeValue name)
  else if !statement && f.kind != .rvalue then .error (.noValue name)
  else .ok f

theorem resolveFound {f : Function} {last : Host}
    (found : (lookup around.tree name scope.environment).run s.host = (.ok (some f), last)) (statement : Bool) :
    (resolveCall around scope name statement).run s = (f.placed name statement, ⟨last, s.bindings⟩) := by
  rw [resolveCall, runBind, onHostRuns found, Function.placed]
  dsimp only
  split
  · rfl
  · split <;> rfl

theorem resolveMissed {last : Host}
    (missed : (lookup around.tree name scope.environment).run s.host = (.ok none, last)) (statement : Bool) :
    (resolveCall around scope name statement).run s =
      (.error (.unknownFunction name scope.environment), ⟨last, s.bindings⟩) := by
  rw [resolveCall, runBind, onHostRuns missed]
  rfl

theorem hostRan {α : Type} {action : Hosted α} {a : α} (ran : (onHost action).run s = (.ok a, t)) :
    action.run s.host = (.ok a, t.host) ∧ t.bindings = s.bindings := by
  have whole : (onHost action).run s = ((action.run s.host).1, ⟨(action.run s.host).2, s.bindings⟩) := rfl
  obtain ⟨first, rfl⟩ := Prod.mk.inj (whole.symm.trans ran)
  exact ⟨Prod.ext first rfl, rfl⟩

theorem definedAnswers {f : Function} (body : f.body = .defined) {values : List Value} {answer : Value}
    (ran : (call around (some scope) false values f).run s = (.ok answer, t)) :
    ∃ v rest name found, values = v :: rest ∧ v.plain = .ok name ∧ answer = .bool found.isSome ∧
      (lookup around.tree name scope.environment).run s.host = (.ok found, t.host) := by
  cases values with
  | nil =>
    rw [call, body] at ran
    obtain ⟨_, u, -, ran⟩ := endedBind ran
    obtain ⟨_, _, lacks, -⟩ := endedBind ran
    cases lacks
  | cons v rest =>
    rw [call, body] at ran
    obtain ⟨_, u, checked, ran⟩ := endedBind ran
    obtain ⟨name, w, plain, ran⟩ := endedBind ran
    obtain ⟨found, z, looked, ended⟩ := endedBind ran
    cases ended
    obtain ⟨-, rfl⟩ := checkRan checked
    obtain ⟨named, rfl⟩ := fallibleRan plain
    refine ⟨v, rest, name, found, rfl, named, rfl, ?_⟩
    have ran : (onHost (lookup around.tree name scope.environment)).run w = (.ok found, t) := looked
    exact (hostRan ran).1

/- What an answer about a name foretells: a call of it that comes next is resolved if the answer is true, and refused as
unknown if it is false. -/
def Foretells (around : Surroundings) (scope : Scope) (name : String) (t : Run) (answer : Value) : Prop :=
  (answer = .bool true ∧ ∃ f, t.host.registry.get? name scope.environment = some f ∧
    ∀ statement, (resolveCall around scope name statement).run t = (f.placed name statement, t)) ∨
  (answer = .bool false ∧ ∀ statement, ∃ last,
    (resolveCall around scope name statement).run t = (.error (.unknownFunction name scope.environment), last))

theorem definedForetells {caller : String} {args : List Node} {statement : Bool} {f : Function} {u : Run}
    {answer : Value}
    (files : s.host.registry.Files) (resolved : (resolveCall around scope caller statement).run s = (.ok f, u))
    (body : f.body = .defined) (ran : (evaluate around scope (.call caller args statement)).run s = (.ok answer, t)) :
    ∃ v rest w name, (evaluateAll around scope args).run u = (.ok (v :: rest), w) ∧ v.plain = .ok name ∧
      Foretells around scope name t answer := by
  rw [evaluate] at ran
  obtain ⟨g, u', first, ran⟩ := endedBind ran
  cases resolved.symm.trans first
  obtain ⟨values, w, second, called⟩ := endedBind ran
  obtain ⟨v, rest, name, found, rfl, named, rfl, looked⟩ := definedAnswers body called
  have resolving := resolveLodged around scope caller statement s files
  rw [resolved] at resolving
  have evaluating := evaluationsLast (filesEnduring around scope) args u resolving
  rw [second] at evaluating
  refine ⟨v, rest, w, name, second, named, ?_⟩
  cases found with
  | some g =>
    have known := lookupMeans looked
    exact .inl ⟨rfl, g, known, fun stands => resolveFound (lookupKnown known) stands⟩
  | none =>
    obtain ⟨told, again, -⟩ := lookupAgain evaluating looked rfl
    exact .inr ⟨rfl, fun stands => ⟨_, resolveMissed again stands⟩⟩

end Calls

/- Answers stand. A lookup that has answered, with a function or with none, gives the same answer when it is made again;
it executes no file, changes neither tables nor what counts as loaded, and at most tells that there is no file. What
the files hold by then does not matter. In particular, where a call of `defined` has answered about a name, a call of
that name from the same scope is resolved if the answer was true, and refused as unknown if it was false. -/
theorem answersStand (tree : FileTree) :
    (∀ (name : String) (env : Environment) (h after : Host) (found : Option Function), h.registry.Files →
      (lookup tree name env).run h = (.ok found, after) → ∀ other : FileTree, other.outline = tree.outline →
        ∃ told, (lookup other name env).run after = (.ok found, ⟨after.registry, after.journal ++ told⟩) ∧
          ∀ entry ∈ told, found = none ∧ entry = missingRecord env name) ∧
    ∀ (ambient : Environment) (scope : Scope) (caller : String) (args : List Syntax.Node) (statement : Bool)
      (f : Function) (s t u : Run) (answer : Value), s.host.registry.Files →
      (resolveCall ⟨tree, ambient⟩ scope caller statement).run s = (.ok f, u) → f.body = .defined →
      (evaluate ⟨tree, ambient⟩ scope (.call caller args statement)).run s = (.ok answer, t) →
        ∃ v rest w name, (evaluateAll ⟨tree, ambient⟩ scope args).run u = (.ok (v :: rest), w) ∧ v.plain = .ok name ∧
          Foretells ⟨tree, ambient⟩ scope name t answer := by
  refine ⟨fun name env h after found files ran other same => lookupAgain files ran same, ?_⟩
  intro ambient scope caller args statement f s t u answer files resolved body ran
  exact definedForetells files resolved body ran

def misnaming : FileTree :=
  libraryOf [
    ("inner", { lookups := [.text "outer"], definitions := [{ name := .text "other", body := .arguments }] }),
    ("outer", { definitions := [{ name := .text "outer", body := .arguments }] })]

def unasked : Run :=
  ⟨⟨Registry.withGateway (.files { searchPath := [Path.ofText "lib"] }), []⟩, .empty⟩

def rooted : Scope := ⟨Environment.root, true⟩

def inquiry (name : String) : Syntax.Node :=
  .call "defined" [.literal ⟨.text, .text name⟩] false

def misnamed : Host := ((lookup misnaming "inner" Environment.root).run unasked.host).2

def asked : Run := ((evaluate ⟨misnaming, Environment.root⟩ rooted (inquiry "inner")).run unasked).2

theorem misnamedStands :
    unasked.host.registry.Files ∧
      (lookup misnaming "inner" Environment.root).run unasked.host = (.ok none, misnamed) ∧
      (∃ told, (lookup misnaming "inner" Environment.root).run misnamed =
          (.ok none, ⟨misnamed.registry, misnamed.journal ++ told⟩) ∧
        ∀ entry ∈ told, (none : Option Function) = none ∧ entry = missingRecord Environment.root "inner") ∧
      ∃ f u, (resolveCall ⟨misnaming, Environment.root⟩ rooted "defined" false).run unasked = (.ok f, u) ∧
        f.body = .defined ∧
        (evaluate ⟨misnaming, Environment.root⟩ rooted (inquiry "inner")).run unasked = (.ok (.bool false), asked) ∧
        ∀ stands, ∃ last, (resolveCall ⟨misnaming, Environment.root⟩ rooted "inner" stands).run asked =
          (.error (.unknownFunction "inner" Environment.root), last) := by
  have files : unasked.host.registry.Files := ⟨_, rfl⟩
  obtain ⟨lookups, calls⟩ := answersStand misnaming
  refine ⟨files, Prod.ext rfl rfl, ?_, _, _, rfl, rfl, Prod.ext rfl rfl, ?_⟩
  · exact lookups "inner" Environment.root unasked.host misnamed none files (Prod.ext rfl rfl) misnaming rfl
  · obtain ⟨v, rest, w, name, evaluated, plain, ⟨yes, -⟩ | ⟨-, refused⟩⟩ :=
      calls Environment.root rooted "defined" _ false _ unasked asked _ (.bool false) files rfl rfl (Prod.ext rfl rfl)
    · cases yes
    · cases evaluated
      cases plain
      exact refused

end CallScript
