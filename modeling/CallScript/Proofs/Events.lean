import CallScript.Proofs.Definitions
import CallScript.Proofs.Loads

/-! What operations do to a host, one event after the other: definitions, the beginning and the end of the
execution of a definition file, messages, and requests that a recording gateway takes down. Whatever is
done in an environment, loads within loads included, comes down to events that are possible there. -/
namespace CallScript

inductive Event where
  | define (ambient : Environment) (d : Definition)
  | reset
  | start (env : Environment) (name : String) (path : Path)
  | finish (env : Environment) (name : String)
  | tell (entry : Record)
  | request (env : Environment) (name : String)
  | requestAll (env : Environment)

def Host.tell (h : Host) (entry : Record) : Host :=
  { h with journal := h.journal ++ [entry] }

def loadingRecord (env : Environment) (name : String) (path : Path) : Record :=
  ⟨.loader, .debug, "Loading function " ++ name ++ " for " ++ env.name ++ " from " ++ path.text⟩

def noteRequest (env : Environment) (name : String) (recorder : Recorder) : Recorder :=
  { recorder with loads := recorder.loads ++ [(name, env)] }

def noteRequestAll (env : Environment) (recorder : Recorder) : Recorder :=
  { recorder with loadAlls := recorder.loadAlls ++ [env] }

def Host.after (h : Host) : Event → Host
  | .define ambient d => ((CallScript.define ambient d).run h).2
  | .reset => { h with registry := h.registry.reset }
  | .start env name path => h.tell (loadingRecord env name path)
  | .finish env name => ((modifyLoader (markLoaded env name)).run h).2
  | .tell entry => h.tell entry
  | .request env name => ((modifyRecorder (noteRequest env name)).run h).2
  | .requestAll env => ((modifyRecorder (noteRequestAll env)).run h).2

/- The events that operations in an environment can bring about: a file is executed only if it was found
for a name that is not loaded yet, and it defines for the environment it is executed for. -/
inductive Event.Possible (tree : FileTree) (env : Environment) : Host → Event → Prop where
  | fromFile {h path d} (asked : (tree.program path).Defines env d) : Possible tree env h (.define env d)
  | named {h ambient d} (same : d.environment = .environment env.name) : Possible tree env h (.define ambient d)
  | start {h loader name path} (gateway : h.registry.gateway = .files loader)
      (due : loader.Due tree env name path) : Possible tree env h (.start env name path)
  | finish {h loader name} (gateway : h.registry.gateway = .files loader) : Possible tree env h (.finish env name)
  | tell {h entry} (other : entry.source ≠ .registry) : Possible tree env h (.tell entry)
  | request {h name} : Possible tree env h (.request env name)
  | requestAll {h} : Possible tree env h (.requestAll env)

inductive Unfolds (possible : Host → Event → Prop) : Host → List Event → Host → Prop where
  | nil (h : Host) : Unfolds possible h [] h
  | cons {h event events last} (able : possible h event) (rest : Unfolds possible (h.after event) events last) :
      Unfolds possible h (event :: events) last

section Unfolding

variable {possible : Host → Event → Prop} {h mid last : Host} {first second : List Event}

theorem unfoldsAppend (before : Unfolds possible h first mid) (rest : Unfolds possible mid second last) :
    Unfolds possible h (first ++ second) last := by
  induction before with
  | nil => exact rest
  | cons able _ ih => exact .cons able (ih rest)

theorem unfoldsSplit (whole : Unfolds possible h (first ++ second) last) :
    ∃ mid, Unfolds possible h first mid ∧ Unfolds possible mid second last := by
  induction first generalizing h with
  | nil => exact ⟨h, .nil h, whole⟩
  | cons event events ih =>
    cases whole with
    | cons able rest =>
      obtain ⟨mid, before, after⟩ := ih rest
      exact ⟨mid, .cons able before, after⟩

theorem unfoldsFold (whole : Unfolds possible h first last) : last = first.foldl Host.after h := by
  induction whole with
  | nil => rfl
  | cons _ _ ih => exact ih

theorem unfoldsWeaken {other : Host → Event → Prop} (weaker : ∀ h event, possible h event → other h event)
    (whole : Unfolds possible h first last) : Unfolds other h first last := by
  induction whole with
  | nil h => exact .nil h
  | cons able _ ih => exact .cons (weaker _ _ able) ih

end Unfolding

def Registry.after (r : Registry) : Event → Registry
  | .define ambient d =>
      match d.requested ambient with
      | .ok (env, f) => r.insert env f
      | .error _ => r
  | .reset => r.reset
  | .finish env name =>
      match r.gateway with
      | .files loader => { r with gateway := .files (markLoaded env name loader) }
      | .recording _ => r
  | .request env name =>
      match r.gateway with
      | .files _ => r
      | .recording recorder => { r with gateway := .recording (noteRequest env name recorder) }
  | .requestAll env =>
      match r.gateway with
      | .files _ => r
      | .recording recorder => { r with gateway := .recording (noteRequestAll env recorder) }
  | .start .. | .tell _ => r

theorem afterRegistry (h : Host) (event : Event) : (h.after event).registry = h.registry.after event := by
  obtain ⟨⟨tables, gateway⟩, journal⟩ := h
  cases event with
  | define ambient d =>
    rw [Host.after, defineRun, Registry.after]
    cases d.requested ambient <;> rfl
  | reset | start | tell => rfl
  | finish | request | requestAll => cases gateway <;> rfl

theorem filesRemain {h : Host} (event : Event) (files : ∃ loader, h.registry.gateway = .files loader) :
    ∃ loader, (h.after event).registry.gateway = .files loader := by
  obtain ⟨loader, gateway⟩ := files
  rw [afterRegistry]
  cases event with
  | define ambient d =>
    rw [Registry.after]
    cases d.requested ambient <;> exact ⟨loader, gateway⟩
  | reset =>
    refine ⟨{ loader with loaded := [] }, (gatewayLevels _ _).trans ?_⟩
    rw [gateway]
    rfl
  | start | tell => exact ⟨loader, gateway⟩
  | finish | request | requestAll => simp [Registry.after, gateway]

def Registry.loaded (r : Registry) : List (Environment × String) :=
  match r.gateway with
  | .files loader => loader.loaded
  | .recording _ => []

def Event.starts (env : Environment) (name : String) : Event → Bool
  | .start e n _ => e == env && n == name
  | _ => false

def Event.finishes (env : Environment) (name : String) : Event → Bool
  | .finish e n => e == env && n == name
  | _ => false

/- No file is executed to its end more often than it was started. -/
def Balanced (events : List Event) : Prop :=
  ∀ env name, events.countP (Event.finishes env name) ≤ events.countP (Event.starts env name)

theorem balancedAppend {first second : List Event} (before : Balanced first) (rest : Balanced second) :
    Balanced (first ++ second) := by
  intro env name
  rw [List.countP_append, List.countP_append]
  exact Nat.add_le_add (before env name) (rest env name)

theorem balancedOne {event : Event} (unfinished : ∀ env name, event ≠ .finish env name) : Balanced [event] := by
  intro env name
  have none : event.finishes env name = false := by
    cases event with
    | finish e n => exact absurd rfl (unfinished e n)
    | _ => rfl
  simp [none]

theorem balancedFile {events : List Event} (balanced : Balanced events) (env : Environment) (name : String)
    (path : Path) : Balanced (.start env name path :: (events ++ [.finish env name])) := by
  intro e n
  have inner := balanced e n
  simp only [List.countP_cons, List.countP_append, List.countP_nil, Event.starts, Event.finishes,
    Bool.false_eq_true, if_false]
  by_cases here : (env == e && name == n) = true
  · simp only [here, if_true]
    omega
  · simpa [here] using inner

def Reaches (tree : FileTree) (env : Environment) (h last : Host) : Prop :=
  ∃ events, Balanced events ∧ Unfolds (Event.Possible tree env) h events last

section Reaching

variable {tree : FileTree} {env : Environment}

theorem reachesSelf (h : Host) : Reaches tree env h h := ⟨[], fun _ _ => Nat.le_refl _, .nil h⟩

theorem reachesTrans {h mid last : Host} (before : Reaches tree env h mid) (rest : Reaches tree env mid last) :
    Reaches tree env h last := by
  obtain ⟨first, balanced, unfolds⟩ := before
  obtain ⟨second, balanced', unfolds'⟩ := rest
  exact ⟨first ++ second, balancedAppend balanced balanced', unfoldsAppend unfolds unfolds'⟩

theorem reachesOne {h : Host} {event : Event} (able : event.Possible tree env h)
    (unfinished : ∀ env name, event ≠ .finish env name) : Reaches tree env h (h.after event) :=
  ⟨[event], balancedOne unfinished, .cons able (.nil _)⟩

theorem reachesFiles {h last : Host} (reaches : Reaches tree env h last)
    (files : ∃ loader, h.registry.gateway = .files loader) : ∃ loader, last.registry.gateway = .files loader := by
  obtain ⟨events, -, unfolds⟩ := reaches
  induction unfolds with
  | nil => exact files
  | cons _ _ ih => exact ih (filesRemain _ files)

theorem reachesFinish {h mid : Host} {name : String} {path : Path}
    (able : (Event.start env name path).Possible tree env h)
    (within : Reaches tree env (h.after (.start env name path)) mid) :
    Reaches tree env h (mid.after (.finish env name)) := by
  cases able with
  | start gateway due =>
    obtain ⟨loader, files⟩ := reachesFiles within ⟨_, gateway⟩
    obtain ⟨events, balanced, unfolds⟩ := within
    refine ⟨.start env name path :: (events ++ [.finish env name]), balancedFile balanced env name path, ?_⟩
    refine .cons (.start gateway due) (unfoldsAppend unfolds ?_)
    exact .cons (.finish files) (.nil _)

theorem reachesKeeps {α : Type} {x : Hosted α} (each : ∀ h, Reaches tree env h (x.run h).2) (start : Host) :
    Keeps (Reaches tree env start) x :=
  fun h reached => reachesTrans reached (each h)

theorem recordReaches {source : Source} (other : source ≠ .registry) (level : Level) (message : String)
    (start : Host) : Keeps (Reaches tree env start) (record source level message) :=
  reachesKeeps (fun _ => reachesOne (.tell other) (by rintro _ _ ⟨⟩)) start

theorem defineReaches {path : Path} {d : Definition} (asked : (tree.program path).Defines env d)
    (start : Host) : Keeps (Reaches tree env start) (define env d) :=
  reachesKeeps (fun _ => reachesOne (.fromFile asked) (by rintro _ _ ⟨⟩)) start

theorem executionReaches {depth : Nat} {path : Path}
    (nested : ∀ wanted h, Reaches tree env h ((seekNested tree env depth wanted).run h).2) (h : Host) :
    Reaches tree env h (((tree.program path).execute (seekNested tree env depth) env).run h).2 :=
  executionKept (fun wanted => reachesKeeps (nested wanted) h) (fun _ asked => defineReaches asked h) h (reachesSelf h)

theorem foundReaches {depth : Nat} {h : Host} {loader : Loader} {name : String} {path : Path}
    (nested : ∀ wanted h, Reaches tree env h ((seekNested tree env depth wanted).run h).2)
    (gateway : h.registry.gateway = .files loader) (due : loader.Due tree env name path) :
    Reaches tree env h ((executeFound tree env depth name path).run h).2 := by
  have able : (Event.start env name path).Possible tree env h := .start gateway due
  have started := reachesOne able (by rintro _ _ ⟨⟩)
  let begun := h.after (.start env name path)
  have executes : Keeps (Reaches tree env begun)
      ((tree.program path).execute (seekNested tree env depth) env) :=
    reachesKeeps (executionReaches nested) begun
  let execution : Hosted Unit :=
    tryCatch ((tree.program path).execute (seekNested tree env depth) env)
      (fun cause => throw (.loading name path.text env cause))
  have within : Reaches tree env begun (execution.run begun).2 :=
    keepsTry executes (fun _ => keepsThrow _) begun (reachesSelf begun)
  rw [executeFound, runBind]
  change Reaches tree env h ((execution >>= _ : Hosted Bool).run begun).2
  rw [runBind]
  generalize execution.run begun = ran at within ⊢
  obtain ⟨failure | _, mid⟩ := ran
  · exact reachesTrans started within
  · have finished := reachesFinish able within
    dsimp only
    rw [runBind]
    change Reaches tree env h ((_ : Hosted Bool).run (mid.after (.finish env name))).2
    refine (keepsBind keepsGet (fun k => ?_) : Keeps (Reaches tree env h) _) _ finished
    split
    · exact keepsBind (recordReaches (by rintro ⟨⟩) _ _ h) (fun _ => keepsPure _)
    · exact keepsPure _

theorem nestedReaches {depth : Nat}
    (loads : ∀ loader name h, h.registry.gateway = .files loader →
      Reaches tree env h ((loadFile tree env depth loader name).run h).2)
    (wanted : String) (h : Host) : Reaches tree env h ((seekNested tree env depth wanted).run h).2 := by
  rw [seekNested, runGet]
  dsimp only
  split
  · rename_i inner _ gateway
    have reached := loads inner wanted h gateway
    rw [runBind]
    generalize (loadFile tree env depth inner wanted).run h = ran at reached ⊢
    obtain ⟨failure | _, mid⟩ := ran <;> exact reached
  · exact reachesSelf h

theorem loadFileReaches (depth : Nat) (loader : Loader) (name : String) (h : Host)
    (gateway : h.registry.gateway = .files loader) :
    Reaches tree env h ((loadFile tree env depth loader name).run h).2 := by
  induction depth generalizing loader name h with
  | zero => exact reachesSelf h
  | succ depth ih =>
    rw [loadFileErrand]
    cases errand : loader.errand tree env name with
    | nothing | fail => exact reachesSelf h
    | missing => exact reachesOne (.tell (by rintro ⟨⟩)) (by rintro _ _ ⟨⟩)
    | execute path => exact foundReaches (nestedReaches ih) gateway (errandDue errand)

theorem requestReaches (recorder : Recorder) (name : String) (h : Host) :
    Reaches tree env h ((requestFrom recorder name env).run h).2 := by
  refine (keepsBind (reachesKeeps (fun _ => reachesOne .request (by rintro _ _ ⟨⟩)) h) (fun _ => ?_) :
    Keeps (Reaches tree env h) _) h (reachesSelf h)
  split
  · exact keepsPure _
  · exact keepsThrow _
  · exact keepsBind (reachesKeeps (fun _ => reachesOne (.named rfl) (by rintro _ _ ⟨⟩)) h) (fun _ => keepsPure _)

theorem loadReaches (name : String) (h : Host) : Reaches tree env h ((load tree name env).run h).2 := by
  rw [load, runGet]
  cases gateway : h.registry.gateway with
  | files loader => exact loadFileReaches _ loader name h gateway
  | recording recorder => exact requestReaches recorder name h

theorem lookupReaches (name : String) (h : Host) : Reaches tree env h ((lookup tree name env).run h).2 :=
  lookupKept (fun name => reachesKeeps (loadReaches name) h) name h (reachesSelf h)

theorem loadAllReaches (h : Host) : Reaches tree env h ((loadAll tree env).run h).2 := by
  rw [loadAll, runGet]
  cases gateway : h.registry.gateway with
  | files loader =>
    exact directoriesKept (fun name => reachesKeeps (loadReaches name) h)
      (fun message => recordReaches (by rintro ⟨⟩) _ message h) [] _ h (reachesSelf h)
  | recording recorder => exact reachesOne .requestAll (by rintro _ _ ⟨⟩)

theorem documentationReaches (h : Host) : Reaches tree env h ((documentation tree env).run h).2 :=
  documentationKept (reachesKeeps loadAllReaches h) h (reachesSelf h)

theorem evaluationReaches (ambient : Environment) (scope : Scope) (h : Host) (bindings : Dictionary Value)
    (node : Syntax.Node) : Reaches tree scope.environment h (runOn ⟨tree, ambient⟩ scope h bindings node).host := by
  have kept : Keeps (fun run => Reaches tree scope.environment h run.host) (evaluate ⟨tree, ambient⟩ scope node) :=
    evaluationKept ⟨tree, ambient⟩ scope (fun name => reachesKeeps (lookupReaches name) h)
      (fun _ same => reachesKeeps (fun _ => reachesOne (.named same) (by rintro _ _ ⟨⟩)) h)
      (fun level message => recordReaches (by rintro ⟨⟩) level message h) node
  exact kept ⟨h, bindings⟩ (reachesSelf h)

end Reaching

end CallScript
