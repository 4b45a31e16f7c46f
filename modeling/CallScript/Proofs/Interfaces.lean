import CallScript.Proofs.Outside

/-! Registries over any gateway, and account of what the gateway is asked for and of every lookup. Over the gateway
that a registry has, whatever is asked of it comes to what it comes to on the registry itself. -/
namespace CallScript

open Syntax (Node)

variable {σ τ α : Type}

structure Interface (σ : Type) where
  load : String → Environment → HostBeside σ Bool
  loadAll : Environment → HostBeside σ Unit
  reset : σ → σ

inductive GatewayRequest where
  | load (name : String) (env : Environment)
  | loadAll (env : Environment)

def GatewayRequest.isLoad : GatewayRequest → Bool
  | .load .. => true
  | .loadAll _ => false

structure Sought where
  name : String
  env : Environment
  before : Registry
  result : Except Failure (Option Function)
  after : Registry

def Sought.missed (t : Sought) : Bool := (t.before.get? t.name t.env).isNone

def Sought.request (t : Sought) : GatewayRequest := .load t.name t.env

/- A lookup that ends gives what its name means then; one that hits ends and changes nothing. -/
structure Sought.Sound (t : Sought) : Prop where
  gives : ∀ found, t.result = .ok found → found = t.after.get? t.name t.env
  rests : t.missed = false → (∃ f, t.result = .ok (some f)) ∧ t.after = t.before

def attemptsOf (sought : List Sought) : List GatewayRequest := (sought.filter Sought.missed).map Sought.request

structure Account (σ : Type) where
  inner : σ
  requests : List GatewayRequest
  lookups : List Sought

/- A request is taken down before it is answered. -/
def asking (request : GatewayRequest) (x : HostBeside σ α) : HostBeside (Account σ) α := ExceptT.mk fun s =>
  let (result, host, inner) := x.run (s.1, s.2.inner)
  (result, host, { s.2 with inner, requests := s.2.requests ++ [request] })

def scripted (bindings : Dictionary Value) (x : Running α) : Hosted α := ExceptT.mk fun h =>
  let (result, run) := x.run ⟨h, bindings⟩
  (result, run.host)

def scriptedBeside (bindings : Dictionary Value) (x : Beside τ α) : HostBeside τ α := ExceptT.mk fun s =>
  let (result, run, aside) := x.run (⟨s.1, bindings⟩, s.2)
  (result, run.host, aside)

section Performing

variable (gateway : Interface σ) (tree : FileTree)

def Interface.lookup (name : String) (env : Environment) : HostBeside (Account σ) (Option Function) := do
  match (← get).1.registry.get? name env with
  | some f => return some f
  | none => do
      let _ ← asking (.load name env) (gateway.load name env)
      return (← get).1.registry.get? name env

def Interface.sought (name : String) (env : Environment) (s : Host × Account σ) : Sought :=
  let (result, t) := (gateway.lookup name env).run s
  ⟨name, env, s.1.registry, result, t.1.registry⟩

def Interface.seek (name : String) (env : Environment) : HostBeside (Account σ) (Option Function) := ExceptT.mk fun s =>
  let (result, host, account) := (gateway.lookup name env).run s
  (result, host, { account with lookups := account.lookups ++ [gateway.sought name env s] })

def Interface.documentation (env : Environment) : HostBeside (Account σ) String := do
  asking (.loadAll env) (gateway.loadAll env)
  let sections ← beside (liftFault (((← get).1.registry.listing env).mapM Function.section?))
  return String.join sections

def Interface.outside : Outside (Account σ) where
  look := gateway.seek
  note _ account := account
  stray failure := throw failure

inductive Deed where
  | define (ambient : Environment) (d : Definition)
  | reset
  | get (name : String) (env : Environment)
  | isRvalue (name : String) (env : Environment)
  | arity (name : String) (env : Environment)
  | functions (env : Environment)
  | listing (env : Environment)
  | analyze (env : Environment) (node : Node)
  | lookup (name : String) (env : Environment)
  | documentation (env : Environment)
  | evaluate (ambient : Environment) (scope : Scope) (bindings : Dictionary Value) (node : Node)
  | call (ambient : Environment) (scope : Option Scope) (bindings : Dictionary Value) (tuple : Bool)
      (values : List Value) (f : Function)

inductive Answered where
  | done
  | function (found : Option Function)
  | truth (b : Bool)
  | number (n : Int)
  | table (t : Table)
  | functions (fs : List Function)
  | analysis (a : Analysis)
  | text (s : String)
  | value (v : Value)

def Deed.act : Deed → Hosted Answered
  | .define ambient d => return .function (some (← CallScript.define ambient d))
  | .reset => do
      modifyRegistry Registry.reset
      return .done
  | .get name env => return .function ((← MonadState.get).registry.get? name env)
  | .isRvalue name env => return .truth ((← MonadState.get).registry.isRvalue name env)
  | .arity name env => return .number ((← MonadState.get).registry.arity name env)
  | .functions env => return .table ((← MonadState.get).registry.functions env)
  | .listing env => return .functions ((← MonadState.get).registry.listing env)
  | .analyze env node => return .analysis (CallScript.analyze (← MonadState.get).registry env node)
  | .lookup name env => return .function (← CallScript.lookup tree name env)
  | .documentation env => return .text (← CallScript.documentation tree env)
  | .evaluate ambient scope bindings node =>
      return .value (← scripted bindings (CallScript.evaluate ⟨tree, ambient⟩ scope node))
  | .call ambient scope bindings tuple values f =>
      return .value (← scripted bindings (CallScript.call ⟨tree, ambient⟩ scope tuple values f))

def Interface.perform : Deed → HostBeside (Account σ) Answered
  | .reset => do
      modify (fun s => ({ s.1 with registry := s.1.registry.reset }, { s.2 with inner := gateway.reset s.2.inner }))
      return .done
  | .lookup name env => return .function (← gateway.seek name env)
  | .documentation env => return .text (← gateway.documentation env)
  | .evaluate ambient scope bindings node =>
      return .value (← scriptedBeside bindings (evaluateWith gateway.outside ⟨tree, ambient⟩ scope node))
  | .call ambient scope bindings tuple values f =>
      return .value (← scriptedBeside bindings (callWith gateway.outside ⟨tree, ambient⟩ scope tuple values f))
  | deed => beside (deed.act tree)

def Interface.carryOut (s : Host × Account σ) : List Deed → Host × Account σ
  | [] => s
  | deed :: deeds => Interface.carryOut ((gateway.perform tree deed).run s).2 deeds

end Performing

section Hits

variable {gateway : Interface σ}

theorem lookupHits {name : String} {env : Environment} {s : Host × Account σ} {f : Function}
    (found : s.1.registry.get? name env = some f) : (gateway.lookup name env).run s = (.ok (some f), s) := by
  rw [Interface.lookup, runGet, found]
  rfl

theorem lookupMisses {name : String} {env : Environment} {s : Host × Account σ}
    (missing : s.1.registry.get? name env = none) :
    (gateway.lookup name env).run s =
      match (asking (.load name env) (gateway.load name env)).run s with
      | (.ok _, t) => (.ok (t.1.registry.get? name env), t)
      | (.error failure, t) => (.error failure, t) := by
  rw [Interface.lookup, runGet, missing]
  dsimp only
  rw [runBind]
  cases (asking (.load name env) (gateway.load name env)).run s with
  | mk result t => cases result <;> rfl

end Hits

section Own

variable {tree : FileTree}

def Interface.own (tree : FileTree) : Interface Unit where
  load name env := beside (CallScript.load tree name env)
  loadAll env := beside (CallScript.loadAll tree env)
  reset := id

theorem askingFollows (request : GatewayRequest) {x : HostBeside σ α} {y : Hosted α} (follows : Follows α x y) :
    Follows α (asking request x) y := by
  intro h account
  obtain ⟨inner, ran⟩ := follows h account.inner
  have asked : (asking request x).run (h, account) = ((x.run (h, account.inner)).1, (x.run (h, account.inner)).2.1,
    { account with
      inner := (x.run (h, account.inner)).2.2
      requests := account.requests ++ [request] }) := rfl
  rw [asked, ran]
  exact ⟨_, rfl⟩

theorem scriptedFollows (bindings : Dictionary Value) {x : Beside τ α} {y : Running α} (follows : Follows α x y) :
    Follows α (scriptedBeside bindings x) (scripted bindings y) := by
  intro h aside
  obtain ⟨after, ran⟩ := follows ⟨h, bindings⟩ aside
  have whole : (scriptedBeside bindings x).run (h, aside) = ((x.run (⟨h, bindings⟩, aside)).1,
    (x.run (⟨h, bindings⟩, aside)).2.1.host, (x.run (⟨h, bindings⟩, aside)).2.2) := rfl
  rw [whole, ran]
  exact ⟨after, rfl⟩

theorem ownLookup (name : String) (env : Environment) :
    Follows (Option Function) ((Interface.own tree).lookup name env) (lookup tree name env) := by
  intro h account
  rw [lookup, runGet]
  cases found : h.registry.get? name env with
  | some f => exact ⟨account, lookupHits found⟩
  | none =>
    obtain ⟨after, ran⟩ := askingFollows (.load name env) (followsBeside (load tree name env)) h account
    rw [lookupMisses found]
    dsimp only
    rw [runBind]
    change (asking _ ((Interface.own tree).load name env)).run _ = _ at ran
    rw [ran]
    rcases (load tree name env).run h with ⟨failure | _, next⟩ <;> exact ⟨after, rfl⟩

theorem ownSeek (tree : FileTree) : (Interface.own tree).outside.Faithful tree := by
  intro name env h account
  obtain ⟨after, ran⟩ := ownLookup name env h account
  have taken : ((Interface.own tree).seek name env).run (h, account) =
    ((((Interface.own tree).lookup name env).run (h, account)).1,
      (((Interface.own tree).lookup name env).run (h, account)).2.1,
      (((Interface.own tree).seek name env).run (h, account)).2.2) := rfl
  rw [ran] at taken
  exact ⟨_, taken⟩

theorem ownDocumentation (env : Environment) :
    Follows String ((Interface.own tree).documentation env) (documentation tree env) := by
  refine followsBind (askingFollows _ (followsBeside (loadAll tree env))) (fun _ h account => ?_)
  exact followsBind (followsBeside (liftFault ((h.registry.listing env).mapM Function.section?)))
    (fun sections => followsPure (String.join sections)) h account

/- Over the gateway that a registry has, every deed does what it does on the registry. -/
theorem ownPerforms (tree : FileTree) (deed : Deed) :
    Follows Answered ((Interface.own tree).perform tree deed) (deed.act tree) := by
  cases deed with
  | reset => exact fun _ account => ⟨account, rfl⟩
  | lookup name env => exact followsBind (ownSeek tree name env) (fun _ => followsPure _)
  | documentation env => exact followsBind (ownDocumentation env) (fun _ => followsPure _)
  | evaluate ambient scope bindings node =>
    have follows := @evaluationFollows _ _ ⟨tree, ambient⟩ (ownSeek tree) scope node
      (fun _ _ _ _ _ aside => ⟨aside, rfl⟩)
    exact followsBind (scriptedFollows bindings follows) (fun _ => followsPure _)
  | call ambient scope bindings tuple values f =>
    have follows := @callTracks _ _ ⟨tree, ambient⟩ _ (followsTracks (ownSeek tree)) scope tuple values f
    exact followsBind (scriptedFollows bindings follows) (fun _ => followsPure _)
  | _ => exact followsBeside _

theorem ownCarriesOut (tree : FileTree) (deeds : List Deed) (h : Host) (account : Account Unit) :
    ((Interface.own tree).carryOut tree (h, account) deeds).1 =
      deeds.foldl (fun h deed => ((deed.act tree).run h).2) h := by
  induction deeds generalizing h account with
  | nil => rfl
  | cons deed deeds ih =>
    obtain ⟨after, ran⟩ := ownPerforms tree deed h account
    rw [Interface.carryOut, ran, List.foldl_cons]
    exact ih _ after

end Own

end CallScript
