import CallScript.Proofs.Purity
import CallScript.Session

/-! Steps do not see empty tables. Two sessions that are the same but for these give the same reply to a step and
log the same, and are the same but for these afterwards, whether the step fails or not. -/
namespace CallScript

/- Sessions that are the same but for empty tables. -/
structure Session.Alike (s t : Session) : Prop where
  own : s.own.Alike t.own
  standard : s.standard.Alike t.standard
  tree : s.tree = t.tree
  environments : s.environments = t.environments
  activations : s.activations = t.activations
  workspace : s.workspace = t.workspace

structure Session.Matched (s t : Session) : Prop extends Session.Alike s t where
  journal : s.journal = t.journal

section Alike

variable {s t : Session} (alike : s.Alike t)

include alike

theorem alikeAmbient : s.ambient = t.ambient := by
  rw [Session.ambient, alike.environments, Session.ambient]

theorem alikeActive : s.active = t.active := by
  rw [Session.active, alike.activations, Session.active]

theorem alikeOwner (target : Target) : s.owner target = t.owner target := by
  cases target with
  | registry owner => rfl
  | active => exact alikeActive alike

theorem alikeSurroundings : s.surroundings = t.surroundings := by
  rw [Session.surroundings, alike.tree, alikeAmbient alike, Session.surroundings]

theorem alikeScope (owner : Owner) (env : Environment) : s.scope owner env = t.scope owner env := by
  rw [Session.scope, alikeActive alike, Session.scope]

theorem alikeRegistry (owner : Owner) : (s.registry owner).Alike (t.registry owner) := by
  cases owner with
  | own => exact alike.own
  | standard => exact alike.standard

theorem alikeTarget (target : Target) : (s.registry (s.owner target)).Alike (t.registry (t.owner target)) := by
  rw [alikeOwner alike]
  exact alikeRegistry alike (t.owner target)

theorem alikeFiles (owner : Owner) : s.loader? owner = t.loader? owner := by
  rw [Session.loader?, (alikeRegistry alike owner).gateway, Session.loader?]

theorem alikeSet {h k : Host} (hosts : h.Alike k) (owner : Owner) :
    { s.setRegistry h.registry owner with journal := h.journal }.Matched
      { t.setRegistry k.registry owner with journal := k.journal } := by
  cases owner with
  | own =>
    exact ⟨⟨hosts.registry, alike.standard, alike.tree, alike.environments, alike.activations, alike.workspace⟩,
      hosts.journal⟩
  | standard =>
    exact ⟨⟨alike.own, hosts.registry, alike.tree, alike.environments, alike.activations, alike.workspace⟩,
      hosts.journal⟩

end Alike

def Oblivious {α : Type} (x : InSession α) : Prop :=
  Related Session.Matched x x

theorem settleRelated {α : Type} {R : Session → Session → Prop} (result : Except Failure α) :
    Related R (settle result) (settle result) := by
  cases result with
  | ok a => exact relatedPure a
  | error failure => exact relatedThrow failure

theorem outcomeRelated {α : Type} {R : Session → Session → Prop} (result : Except Fault α) :
    Related R (settleFault result) (settleFault result) := by
  cases result with
  | ok a => exact relatedPure a
  | error f => exact relatedThrow _

theorem obliviousEnvironment (v : Value) : Oblivious (environmentOf v) := by
  refine relatedGet (fun s t matched => ?_)
  rw [alikeAmbient matched.toAlike]
  exact outcomeRelated _ s t matched

theorem obliviousRegistry {α : Type} {action : Hosted α} (owner : Owner)
    (related : Related Host.Alike action action) : Oblivious (onRegistry owner action) := by
  intro s t matched
  obtain ⟨same, after⟩ := related ⟨s.registry owner, s.journal⟩ ⟨t.registry owner, t.journal⟩
    ⟨alikeRegistry matched.toAlike owner, matched.journal⟩
  exact ⟨same, alikeSet matched.toAlike after owner⟩

theorem obliviousRun {α : Type} {action : Running α} (owner : Owner) (bindings : Dictionary Value)
    (indifferent : Indifferent α action) : Oblivious (onRun owner bindings action) := by
  intro s t matched
  have hosts : Host.Alike ⟨s.registry owner, s.journal⟩ ⟨t.registry owner, t.journal⟩ :=
    ⟨alikeRegistry matched.toAlike owner, matched.journal⟩
  obtain ⟨same, after⟩ := indifferent ⟨_, bindings⟩ ⟨_, bindings⟩ ⟨hosts, rfl⟩
  exact ⟨congrArg Except.ok (Prod.ext same after.bindings), alikeSet matched.toAlike after.host owner⟩

theorem obliviousChange {change : Session → Session}
    (kept : ∀ s t : Session, s.Matched t → (change s).Matched (change t)) : Oblivious (modify change) :=
  fun s t matched => ⟨rfl, kept s t matched⟩

theorem obliviousDone {change : Session → Session} (reply : Reply)
    (kept : ∀ s t : Session, s.Matched t → (change s).Matched (change t)) : Oblivious (do
      modify change
      return reply) :=
  relatedBind (obliviousChange kept) (fun _ => relatedPure reply)

theorem obliviousDirectories (owner : Owner) (env : Environment) : Oblivious (searchDirectoriesOf owner env) := by
  refine relatedGet (fun s t matched => ?_)
  rw [alikeFiles matched.toAlike]
  exact relatedPure _ s t matched

theorem obliviousQuestion (target : Target) (name env : Value) (ask : Registry → String → Environment → Reply)
    (same : ∀ r s : Registry, r.Alike s → ∀ name env, ask r name env = ask s name env) : Oblivious (do
      let s ← get
      let env ← environmentOf env
      return ask (s.registry (s.owner target)) (← settleFault name.plain) env) := by
  refine relatedGet (fun s t matched => ?_)
  refine relatedBind (obliviousEnvironment env) (fun env => relatedBind (outcomeRelated _) (fun name => ?_)) s t matched
  rw [same _ _ (alikeTarget matched.toAlike target)]
  exact relatedPure _

theorem obliviousView (target : Target) (env : Value) (ask : Registry → Environment → Reply)
    (same : ∀ r s : Registry, r.Alike s → ∀ env, ask r env = ask s env) : Oblivious (do
      let s ← get
      return ask (s.registry (s.owner target)) (← environmentOf env)) := by
  refine relatedGet (fun s t matched => ?_)
  refine relatedBind (obliviousEnvironment env) (fun env => ?_) s t matched
  rw [same _ _ (alikeTarget matched.toAlike target)]
  exact relatedPure _

def callWithin (f : Function) (i : Invocation) (around : Surroundings) (active : Owner) (scope : Option Scope) :
    InSession Reply :=
  match i.arguments? with
  | none => throw (.convention f.name)
  | some args => do
      let owner := if scope.isSome then Owner.own else active
      let bindings := i.bindings.getD Dictionary.empty
      let (result, _) ← onRun owner bindings (CallScript.call around scope args.tuple args.values f)
      return .value (← settle result)

theorem invokeWithin (f : Function) (env : Value) (i : Invocation) : invoke f env i = (do
    let s ← get
    match i.bindings with
    | none => callWithin f i s.surroundings s.active none
    | some _ => do callWithin f i s.surroundings s.active (some (s.scope .own (← environmentOf env)))) := by
  unfold invoke callWithin
  cases i.bindings <;> rfl

theorem obliviousCall (f : Function) (i : Invocation) (around : Surroundings) (active : Owner)
    (scope : Option Scope) : Oblivious (callWithin f i around active scope) := by
  unfold callWithin
  split
  · exact relatedThrow _
  · refine relatedBind (obliviousRun _ _ (indifferentCall around scope _ _ f)) (fun ended => ?_)
    exact relatedBind (settleRelated _) (fun _ => relatedPure _)

theorem obliviousInvoke (f : Function) (env : Value) (i : Invocation) : Oblivious (invoke f env i) := by
  rw [invokeWithin]
  refine relatedGet (fun s t matched => ?_)
  rw [alikeSurroundings matched.toAlike, alikeActive matched.toAlike]
  have scope (env : Environment) := alikeScope matched.toAlike .own env
  simp only [scope]
  split
  · exact obliviousCall f i _ _ _ s t matched
  · exact relatedBind (obliviousEnvironment env) (fun env => obliviousCall f i _ _ _) s t matched

theorem obliviousEvaluate (owner : Owner) (env : Environment) (bindings : Dictionary Value) (node : Syntax.Node) :
    Oblivious (evaluateOn owner env bindings node) := by
  refine relatedGet (fun s t matched => ?_)
  rw [alikeSurroundings matched.toAlike, alikeScope matched.toAlike]
  exact obliviousRun owner bindings (indifferentEvaluation _ _ node) s t matched

theorem obliviousAnalyze (owner : Owner) (env : Value) (node : Syntax.Node) :
    Oblivious (analyzeOn owner env node) := by
  refine relatedGet (fun s t matched => ?_)
  have same (env : Environment) := alikeAnalyze (alikeRegistry matched.toAlike owner) env node
  simp only [same]
  split
  · exact relatedPure _ s t matched
  · exact relatedBind (obliviousEnvironment env) (fun _ => relatedPure _) s t matched

section Steps

variable {α : Type}

theorem obliviousAct {owner : Session → Owner} (same : ∀ s t : Session, s.Alike t → owner s = owner t)
    (action : Environment → Hosted α) (reply : α → Reply)
    (related : ∀ env, Related Host.Alike (action env) (action env)) : Oblivious (do
      let s ← get
      return reply (← onRegistry (owner s) (action s.ambient))) := by
  refine relatedGet (fun s t matched => ?_)
  rw [same s t matched.toAlike, alikeAmbient matched.toAlike]
  exact relatedBind (obliviousRegistry _ (related _)) (fun _ => relatedPure _) s t matched

theorem obliviousErrand (target : Target) (env : Value) (action : FileTree → Environment → Hosted α)
    (reply : α → Reply) (related : ∀ tree env, Related Host.Alike (action tree env) (action tree env)) :
    Oblivious (do
      let s ← get
      let env ← environmentOf env
      return reply (← onRegistry (s.owner target) (action s.tree env))) := by
  refine relatedGet (fun s t matched => ?_)
  rw [alikeOwner matched.toAlike, matched.tree]
  refine relatedBind (obliviousEnvironment env) (fun env => ?_) s t matched
  exact relatedBind (obliviousRegistry _ (related _ env)) (fun _ => relatedPure _)

theorem obliviousFound (target : Target) (name env : Value) {rest : Option Function → InSession Reply}
    (each : ∀ found, Oblivious (rest found)) : Oblivious (do
      let s ← get
      let name ← settleFault name.plain
      let env ← environmentOf env
      rest (← onRegistry (s.owner target) (CallScript.lookup s.tree name env))) := by
  refine relatedGet (fun s t matched => ?_)
  rw [alikeOwner matched.toAlike, matched.tree]
  refine relatedBind (outcomeRelated _) (fun name => ?_) s t matched
  refine relatedBind (obliviousEnvironment env) (fun env => ?_)
  exact relatedBind (obliviousRegistry _ (alikeLookup _ env name)) each

theorem obliviousSeen {view : Session → α} (same : ∀ s t : Session, s.Alike t → view s = view t)
    (rest : α → InSession Reply) (each : ∀ a, Oblivious (rest a)) : Oblivious (do rest (view (← get))) := by
  refine relatedGet (fun s t matched => ?_)
  rw [same s t matched.toAlike]
  exact each _ s t matched

theorem obliviousUnless (empty : Bool) {failure : Failure} {rest : InSession Reply} (oblivious : Oblivious rest) :
    Oblivious (do
      if empty then throw failure
      rest) := by
  cases empty with
  | true => exact relatedThrow failure
  | false => exact oblivious

theorem obliviousLeaving : Oblivious (do
    modify (fun s : Session => { s with environments := s.environments.tail })
    return Reply.text (← get).ambient.name) := by
  refine relatedBind (obliviousChange (fun s t matched => ?_)) (fun _ => ?_)
  · exact { matched with environments := congrArg List.tail matched.environments }
  · exact obliviousSeen (fun _ _ => alikeAmbient) (fun ambient => return .text ambient.name) (fun _ => relatedPure _)

end Steps

theorem obliviousPerform (step : Step) : Oblivious (perform step) := by
  cases step with
  | define target d =>
    exact obliviousAct (fun _ _ alike => alikeOwner alike target) (fun env => CallScript.define env d) .function
      (fun env => alikeDefine env d)
  | register d =>
    exact obliviousAct (fun _ _ => alikeActive) (fun env => CallScript.define env d) (fun _ => .truth true)
      (fun env => alikeDefine env d)
  | reset target =>
    exact obliviousAct (fun _ _ alike => alikeOwner alike target) (fun _ => modifyRegistry Registry.reset)
      (fun _ => .done) (fun _ => alikeRestart)
  | addPath target path =>
    exact obliviousAct (fun _ _ alike => alikeOwner alike target)
      (fun _ => modifyLoader (fun loader => { loader with searchPath := Path.ofText path :: loader.searchPath }))
      (fun _ => .done) (fun _ => alikeLoader _)
  | get target name env =>
    exact obliviousQuestion target name env (fun r name env => foundReply .function (r.get? name env))
      (fun _ _ alike name env => congrArg _ (alikeGet alike name env))
  | isRvalue target name env =>
    exact obliviousQuestion target name env (fun r name env => .truth (r.isRvalue name env))
      (fun _ _ alike name env => congrArg _ (alikeRvalue alike name env))
  | arity target name env =>
    exact obliviousQuestion target name env (fun r name env => .number (r.arity name env))
      (fun _ _ alike name env => congrArg _ (alikeArity alike name env))
  | functions target env =>
    exact obliviousView target env (fun r env => .functions (r.listing env))
      (fun _ _ alike env => congrArg _ (alikeListing alike env))
  | table target env =>
    exact obliviousView target env (fun r env => .table env ((r.table env).sorted.map Prod.fst))
      (fun _ _ alike env => by rw [alike.table])
  | listing target env =>
    exact obliviousView target env (fun r env => .listing (r.listing env))
      (fun _ _ alike env => congrArg _ (alikeListing alike env))
  | documentation target env => exact obliviousErrand target env CallScript.documentation .text alikeDocumentation
  | loadAll target env => exact obliviousErrand target env CallScript.loadAll (fun _ => .done) alikeLoadAll
  | lookup target name env => exact obliviousFound target name env (fun _ => relatedPure _)
  | call target name env invocation =>
    refine obliviousFound target name env (fun found => ?_)
    cases found with
    | none => exact relatedPure _
    | some f => exact obliviousInvoke f env invocation
  | load target name env =>
    refine relatedGet (fun s t matched => ?_)
    rw [alikeOwner matched.toAlike, matched.tree, alikeFiles matched.toAlike]
    refine relatedBind (outcomeRelated _) (fun name => ?_) s t matched
    split
    · exact relatedPure _
    · refine relatedBind (obliviousEnvironment env) (fun env => ?_)
      exact relatedBind (obliviousRegistry _ (alikeLoad _ env name)) (fun _ => relatedPure _)
  | isLoaded target name env =>
    refine relatedGet (fun s t matched => ?_)
    rw [alikeOwner matched.toAlike, alikeFiles matched.toAlike]
    refine relatedBind (obliviousEnvironment env) (fun env => ?_) s t matched
    exact relatedBind (outcomeRelated _) (fun _ => relatedPure _)
  | find target name env =>
    refine relatedGet (fun s t matched => ?_)
    rw [alikeOwner matched.toAlike, matched.tree]
    refine relatedBind (obliviousEnvironment env) (fun env => ?_) s t matched
    refine relatedBind (obliviousDirectories _ env) (fun directories => relatedBind (outcomeRelated _) (fun name => ?_))
    refine relatedBind (outcomeRelated _) (fun found => ?_)
    cases found with
    | none => exact relatedPure _
    | some path => exact relatedPure _
  | searchDirectories target env =>
    refine relatedGet (fun s t matched => ?_)
    rw [alikeOwner matched.toAlike]
    refine relatedBind (obliviousEnvironment env) (fun env => ?_) s t matched
    exact relatedBind (obliviousDirectories _ env) (fun _ => relatedPure _)
  | loadsInProgress target => exact relatedPure _
  | write path entry =>
    refine obliviousDone _ (fun s t matched => ?_)
    exact { matched with tree := congrArg (fun tree => tree.write (Path.ofText path) entry) matched.tree }
  | remove path =>
    refine obliviousDone _ (fun s t matched => ?_)
    exact { matched with tree := congrArg (fun tree => tree.remove (Path.ofText path)) matched.tree }
  | account =>
    refine relatedGet (fun s t matched => ?_)
    rw [matched.own.gateway]
    split <;> exact relatedPure _ s t matched
  | environment env => exact relatedBind (obliviousEnvironment env) (fun _ => relatedPure _)
  | enter env =>
    refine relatedBind (obliviousEnvironment env) (fun env => obliviousDone _ (fun s t matched => ?_))
    exact { matched with environments := congrArg (env :: ·) matched.environments }
  | leave =>
    refine relatedGet (fun s t matched => ?_)
    rw [matched.environments]
    exact obliviousUnless _ obliviousLeaving s t matched
  | activate owner =>
    refine obliviousDone _ (fun s t matched => ?_)
    exact { matched with activations := congrArg (owner :: ·) matched.activations }
  | deactivate =>
    refine relatedGet (fun s t matched => ?_)
    rw [matched.activations]
    refine obliviousUnless _ (obliviousDone _ (fun s t matched => ?_)) s t matched
    exact { matched with activations := congrArg List.tail matched.activations }
  | active => exact obliviousSeen (fun _ _ => alikeActive) (fun owner => return .registry owner) (fun _ => relatedPure _)
  | run target script env bindings =>
    refine relatedGet (fun s t matched => ?_)
    rw [alikeOwner matched.toAlike]
    refine relatedBind (settleRelated _) (fun node => ?_) s t matched
    refine relatedBind (obliviousEnvironment env) (fun env => ?_)
    refine relatedBind (obliviousEvaluate _ env bindings node) (fun ended => ?_)
    exact relatedBind (settleRelated _) (fun _ => relatedPure _)
  | analyze target script env =>
    refine relatedGet (fun s t matched => ?_)
    rw [alikeOwner matched.toAlike]
    refine relatedBind (settleRelated _) (fun node => ?_) s t matched
    exact relatedBind (obliviousAnalyze _ env node) (fun _ => relatedPure _)
  | openWorkspace env bindings =>
    refine relatedBind (obliviousEnvironment env) (fun env => obliviousDone _ (fun s t matched => ?_))
    exact { matched with workspace := rfl }
  | evaluate script =>
    refine relatedGet (fun s t matched => ?_)
    rw [matched.workspace]
    refine relatedBind (settleRelated _) (fun node => ?_) s t matched
    refine relatedBind (obliviousEvaluate .own _ _ node) (fun ended => ?_)
    refine relatedBind (obliviousChange (fun s t matched => ?_)) (fun _ => ?_)
    · exact { matched with workspace := rfl }
    · exact relatedBind (settleRelated _) (fun _ => relatedPure _)
  | assign name v =>
    refine obliviousDone _ (fun s t matched => ?_)
    exact { matched with workspace := congrArg (fun w => (w.1, w.2.put name v)) matched.workspace }
  | «variable» name =>
    refine relatedGet (fun s t matched => ?_)
    rw [matched.workspace]
    split
    · exact relatedPure _ s t matched
    · exact relatedThrow _ s t matched
  | bindings =>
    exact obliviousSeen (fun _ _ alike => alike.workspace) (fun workspace => return .bindings workspace.2)
      (fun _ => relatedPure _)

end CallScript
