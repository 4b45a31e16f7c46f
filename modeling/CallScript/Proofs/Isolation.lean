import CallScript.Proofs.Files
import CallScript.Proofs.Turns

/-! Environments are kept apart. What is done in one of them leaves the functions and the loaded names of every
other as they are; and what a lookup comes to depends on nothing but the functions of its environment and of
the root, and on what was loaded for its environment. -/
namespace CallScript

def Registry.loadedFor (r : Registry) (env : Environment) : List String :=
  (r.loaded.filter (fun key => key.1 == env)).map Prod.snd

def Loader.seenFrom (env : Environment) (loader : Loader) : Loader :=
  { loader with loaded := loader.loaded.filter (fun key => key.1 == env) }

def Gateway.seenFrom (env : Environment) : Gateway → Gateway
  | .files loader => .files (loader.seenFrom env)
  | .recording recorder => .recording ⟨recorder.answers, [], [], none⟩

inductive Gateway.SeenAlike (env : Environment) : Gateway → Gateway → Prop where
  | files {loader loader'} (same : loader.seenFrom env = loader'.seenFrom env) :
      SeenAlike env (.files loader) (.files loader')
  | recording {recorder recorder'} (answers : recorder.answers = recorder'.answers) :
      SeenAlike env (.recording recorder) (.recording recorder')

theorem seenAlike {env : Environment} {g g' : Gateway} (same : g.seenFrom env = g'.seenFrom env) :
    g.SeenAlike env g' := by
  cases g <;> cases g' <;> simp only [Gateway.seenFrom, Gateway.files.injEq, Gateway.recording.injEq,
    Recorder.mk.injEq, reduceCtorEq] at same
  · exact .files same
  · exact .recording same.1

section Seen

variable {env : Environment} {loader loader' : Loader} (same : loader.seenFrom env = loader'.seenFrom env)

include same

theorem seenFind (tree : FileTree) (name : String) : loader.find tree name env = loader'.find tree name env := by
  have within (l : Loader) : (l.seenFrom env).find tree name env = l.find tree name env := rfl
  rw [← within loader, same, within loader']

theorem seenContains (name : String) : loader.loaded.contains (env, name) = loader'.loaded.contains (env, name) := by
  have within (l : Loader) : (l.seenFrom env).loaded.contains (env, name) = l.loaded.contains (env, name) := by
    simp [Loader.seenFrom]
  rw [← within loader, same, within loader']

theorem seenErrand (tree : FileTree) (name : String) :
    loader.errand tree env name = loader'.errand tree env name := by
  rw [Loader.errand, Loader.errand, seenContains same, seenFind same]

theorem seenMark (name : String) :
    (markLoaded env name loader).seenFrom env = (markLoaded env name loader').seenFrom env := by
  have within (l : Loader) : (markLoaded env name l).seenFrom env = markLoaded env name (l.seenFrom env) := by
    simp [Loader.seenFrom, markLoaded]
  rw [within loader, same, within loader']

end Seen

theorem loadedSeen {r s : Registry} {env : Environment} (same : r.gateway.seenFrom env = s.gateway.seenFrom env) :
    r.loadedFor env = s.loadedFor env := by
  obtain ⟨_, gateway⟩ := r
  obtain ⟨_, gateway'⟩ := s
  cases seenAlike same with
  | files alike => exact congrArg (fun l : Loader => l.loaded.map Prod.snd) alike
  | recording => rfl

structure Registry.Untouched (r s : Registry) (env : Environment) : Prop where
  table : s.table env = r.table env
  gateway : s.gateway.seenFrom env = r.gateway.seenFrom env

section Apart

variable {tree : FileTree} {a b : Environment}

theorem insertUntouched (r : Registry) (other : b ≠ a) (f : Function) : r.Untouched (r.insert a f) b :=
  ⟨by rw [insertTable, if_neg other], rfl⟩

theorem defineUntouched {r : Registry} {ambient : Environment} {d : Definition}
    (target : ∀ env, Environment.ofValue ambient d.environment = .ok env → env = a) (other : b ≠ a) :
    r.Untouched (r.after (.define ambient d)) b := by
  rw [Registry.after]
  cases requested : d.requested ambient with
  | error failure => exact ⟨rfl, rfl⟩
  | ok entry =>
    obtain ⟨env, f⟩ := entry
    cases target env (requestedEnvironment requested)
    exact insertUntouched r other f

theorem eventUntouched (files : tree.Ambient) {h : Host} {event : Event} (able : event.Possible tree a h)
    (other : b ≠ a) : h.registry.Untouched (h.after event).registry b := by
  rw [afterRegistry]
  cases able with
  | fromFile asked =>
    refine defineUntouched (fun env same => ?_) other
    rw [ambientFile files _ _ _ asked] at same
    exact (Except.ok.inj same).symm
  | named same =>
    refine defineUntouched (fun env target => ?_) other
    rw [same] at target
    exact (Except.ok.inj target).symm
  | start | tell => exact ⟨rfl, rfl⟩
  | finish gateway =>
    rw [Registry.after, gateway]
    refine ⟨rfl, ?_⟩
    have elsewhere : (a == b) = false := by simpa using Ne.symm other
    rw [gateway]
    simp [Gateway.seenFrom, Loader.seenFrom, markLoaded, elsewhere]
  | request | requestAll =>
    rw [Registry.after]
    split
    · exact ⟨rfl, rfl⟩
    · rename_i gateway
      refine ⟨rfl, ?_⟩
      rw [gateway]
      rfl

theorem reachesUntouched (files : tree.Ambient) {h last : Host} (reaches : Reaches tree a h last) (other : b ≠ a) :
    h.registry.Untouched last.registry b := by
  obtain ⟨events, -, unfolds⟩ := reaches
  induction unfolds with
  | nil => exact ⟨rfl, rfl⟩
  | cons able _ ih =>
    have first := eventUntouched files able other
    exact ⟨ih.table.trans first.table, ih.gateway.trans first.gateway⟩

end Apart

structure Host.Agrees (env : Environment) (h k : Host) : Prop where
  own : h.registry.table env = k.registry.table env
  root : h.registry.table Environment.root = k.registry.table Environment.root
  gateway : h.registry.gateway.seenFrom env = k.registry.gateway.seenFrom env

section Agreement

variable {tree : FileTree} {env : Environment}

theorem agreesGet {h k : Host} (agrees : Host.Agrees env h k) (name : String) :
    h.registry.get? name env = k.registry.get? name env := by
  rw [Registry.get?, Registry.get?, agrees.own, agrees.root]

theorem agreesFunctions {h k : Host} (agrees : Host.Agrees env h k) :
    h.registry.functions env = k.registry.functions env := by
  rw [Registry.functions, Registry.functions, agrees.own, agrees.root]

theorem agreesInsert {h k : Host} (agrees : Host.Agrees env h k) (target : Environment) (f : Function)
    (journal journal' : Journal) :
    Host.Agrees env ⟨h.registry.insert target f, journal⟩ ⟨k.registry.insert target f, journal'⟩ := by
  refine ⟨?_, ?_, agrees.gateway⟩
  all_goals
    simp only [insertTable]
    split
  · rename_i here
    rw [← here, agrees.own]
  · exact agrees.own
  · rename_i here
    rw [← here, agrees.root]
  · exact agrees.root

theorem recordRelated (source : Source) (level : Level) (message : String) :
    Related (Host.Agrees env) (record source level message) (record source level message) :=
  fun _ _ agrees => ⟨rfl, agrees.own, agrees.root, agrees.gateway⟩

theorem defineRelated (ambient : Environment) (d : Definition) :
    Related (Host.Agrees env) (define ambient d) (define ambient d) := by
  intro h k agrees
  rw [Meets, defineRun, defineRun]
  cases d.requested ambient with
  | error failure => exact ⟨rfl, agrees⟩
  | ok entry => exact ⟨rfl, agreesInsert agrees entry.1 entry.2 _ _⟩

theorem markRelated (name : String) :
    Related (Host.Agrees env) (modifyLoader (markLoaded env name)) (modifyLoader (markLoaded env name)) := by
  rintro ⟨⟨tables, gateway⟩, journal⟩ ⟨⟨tables', gateway'⟩, journal'⟩ ⟨own, root, same⟩
  cases seenAlike same with
  | files alike => exact ⟨rfl, own, root, congrArg Gateway.files (seenMark alike name)⟩
  | recording => exact ⟨rfl, own, root, same⟩

theorem agreesAttuned : Attuned tree env (Host.Agrees env) where
  sees _ _ agrees name := agreesGet agrees name
  views _ _ agrees := agreesFunctions agrees
  attends h k agrees := by
    obtain ⟨-, -, same⟩ := agrees
    generalize h.registry.gateway = gateway at same ⊢
    generalize k.registry.gateway = gateway' at same ⊢
    cases seenAlike same with
    | files alike =>
      have deep : (Loader.seenFrom env _).nesting = (Loader.seenFrom env _).nesting := congrArg Loader.nesting alike
      exact .inl ⟨_, _, rfl, rfl, deep, seenErrand alike tree⟩
    | recording => exact .inr ⟨_, _, rfl, rfl⟩
  tells level message := recordRelated .loader level message
  marks := markRelated
  defines _ _ _ _ _ _ _ _ d _ := defineRelated env d

theorem requestRelated {recorder recorder' : Recorder} (answers : recorder.answers = recorder'.answers)
    (name : String) :
    Related (Host.Agrees env) (requestFrom recorder name env) (requestFrom recorder' name env) := by
  refine relatedBind ?_ (fun _ => ?_)
  · rintro ⟨⟨tables, gateway⟩, journal⟩ ⟨⟨tables', gateway'⟩, journal'⟩ ⟨own, root, same⟩
    cases seenAlike same <;> exact ⟨rfl, own, root, same⟩
  · rw [answers]
    split
    · exact relatedPure _
    · exact relatedThrow _
    · exact relatedBind (defineRelated env _) (fun _ => relatedPure _)

theorem loadRelated (name : String) :
    Related (Host.Agrees env) (load tree name env) (load tree name env) := by
  refine attunedLoad agreesAttuned (fun h k _ _ agrees here there name => ?_) name
  have same := agrees.gateway
  rw [here, there] at same
  cases seenAlike same with
  | recording answers => exact requestRelated answers name h k agrees

theorem lookupRelated (name : String) :
    Related (Host.Agrees env) (lookup tree name env) (lookup tree name env) :=
  seenLookup loadRelated (fun _ _ => agreesGet) name

end Agreement

/- A turn that is taken in one environment; a definition is taken in the environment it is for. -/
def Turn.Inside (a : Environment) : Turn → Prop
  | .define ambient d => ∀ env, Environment.ofValue ambient d.environment = .ok env → env = a
  | .reset => False
  | .read _ _ => True
  | .operation o => o.environment = a

theorem turnUntouched {tree : FileTree} (files : tree.Ambient) {a b : Environment} (other : b ≠ a) (h : Host)
    {turn : Turn} (inside : turn.Inside a) : h.registry.Untouched (turn.perform tree h).registry b := by
  cases turn with
  | define ambient d =>
    have after : (Turn.define ambient d).perform tree h = h.after (.define ambient d) := rfl
    rw [after, afterRegistry]
    exact defineUntouched inside other
  | reset => exact inside.elim
  | read name env => exact ⟨rfl, rfl⟩
  | operation o =>
    cases inside
    exact reachesUntouched files (operationReaches tree h o) other

/- What is done in an environment, whether it ends or fails, is done to its functions and its loaded names only.
Unless it is the root, nothing can be told of it from any other environment. -/
theorem environmentsApart (tree : FileTree) (files : tree.Ambient) (h : Host) (a : Environment) (turn : Turn)
    (inside : turn.Inside a) :
    let after := turn.perform tree h
    (∀ b, b ≠ a → after.registry.table b = h.registry.table b ∧
      after.registry.loadedFor b = h.registry.loadedFor b) ∧
    (a ≠ Environment.root → ∀ b, b ≠ a →
      (∀ name, after.registry.get? name b = h.registry.get? name b ∧
        after.registry.isRvalue name b = h.registry.isRvalue name b ∧
        after.registry.arity name b = h.registry.arity name b ∧
        ((lookup tree name b).run after).1 = ((lookup tree name b).run h).1) ∧
      after.registry.functions b = h.registry.functions b ∧
      after.registry.listing b = h.registry.listing b) := by
  intro after
  refine ⟨fun b other => ?_, fun below b other => ?_⟩
  · have untouched := turnUntouched files other h inside
    exact ⟨untouched.table, loadedSeen untouched.gateway⟩
  · have untouched := turnUntouched files other h inside
    have agrees : Host.Agrees b after h :=
      ⟨untouched.table, (turnUntouched files (Ne.symm below) h inside).table, untouched.gateway⟩
    have functions := agreesFunctions agrees
    refine ⟨fun name => ?_, functions, by rw [Registry.listing, functions, Registry.listing]⟩
    have get := agreesGet agrees name
    refine ⟨get, ?_, ?_, (lookupRelated name after h agrees).1⟩
    · rw [Registry.isRvalue, get, Registry.isRvalue]
    · rw [Registry.arity, get, Registry.arity]

theorem meanLoadedApart :
    let before : Host := ⟨Registry.withGateway (.files bundledLoader), []⟩
    let turn : Turn := .operation (.lookup "mean" ⟨"web"⟩)
    let after := turn.perform FileTree.installed before
    FileTree.installed.Ambient ∧ turn.Inside ⟨"web"⟩ ∧ after.registry.loadedFor ⟨"web"⟩ = ["mean"] ∧
      after.registry.loadedFor ⟨"db"⟩ = before.registry.loadedFor ⟨"db"⟩ ∧
      after.registry.functions ⟨"db"⟩ = before.registry.functions ⟨"db"⟩ ∧
      ((lookup FileTree.installed "mean" ⟨"db"⟩).run after).1 =
        ((lookup FileTree.installed "mean" ⟨"db"⟩).run before).1 := by
  intro before turn after
  have other : (⟨"db"⟩ : Environment) ≠ ⟨"web"⟩ := by decide
  have below : (⟨"web"⟩ : Environment) ≠ Environment.root := by decide
  have loaded : after.registry.loadedFor ⟨"web"⟩ = ["mean"] := by decide +kernel
  have apart := environmentsApart FileTree.installed installedAmbient before ⟨"web"⟩ turn rfl
  have seen := apart.2 below ⟨"db"⟩ other
  exact ⟨installedAmbient, rfl, loaded, (apart.1 ⟨"db"⟩ other).2, seen.2.1, (seen.1 "mean").2.2.2⟩

end CallScript
