import CallScript.Analysis
import CallScript.Proofs.Actions
import CallScript.Proofs.Definitions

/-! Evaluation with its outside left open: what a lookup does, what is noted when a variable is assigned, and
what stands where the evaluation has no meaning for a node. An observer keeps something of its own beside the
run. Where lookups are the registry's, an open evaluation comes to what the evaluation comes to, unless it gets
to a node without a meaning. -/
namespace CallScript

open Syntax (Node Tree Operator UnaryOperator allSubtrees)

variable {ρ τ α β : Type}

abbrev Beside (τ : Type) := ExceptT Failure (StateM (Run × τ))

abbrev HostBeside (τ : Type) := ExceptT Failure (StateM (Host × τ))

def beside (x : ExceptT Failure (StateM ρ) α) : ExceptT Failure (StateM (ρ × τ)) α := ExceptT.mk fun s =>
  ((x.run s.1).1, (x.run s.1).2, s.2)

def onHostBeside (x : HostBeside τ α) : Beside τ α := ExceptT.mk fun s =>
  let (result, host, aside) := x.run (s.1.host, s.2)
  (result, { s.1 with host }, aside)

structure Outside (τ : Type) where
  look : String → Environment → HostBeside τ (Option Function)
  note : String → τ → τ
  stray : Failure → Beside τ Value

section Open

variable (outside : Outside τ) (around : Surroundings)

def Body.actWith (scope : Option Scope) (args : Arguments) : Body → Beside τ Value
  | .defined => do
      let name ← beside (fallible (do (← args.get 0).plain))
      return .bool (← onHostBeside (outside.look name (around.environment scope))).isSome
  | body => beside (body.act around scope args)

def callWith (scope : Option Scope) (tuple : Bool) : List Value → Function → Beside τ Value
  | [], f => do
      beside (call.liftExcept (f.check 0))
      match f.body with
      | .delegate => do
          let _ ← beside (fallible (needScope scope "registry"))
          beside (fallible (Arguments.get ⟨[], tuple⟩ 0))
      | body => body.actWith outside around scope ⟨[], tuple⟩
  | v :: rest, f => do
      beside (call.liftExcept (f.check (rest.length + 1)))
      match f.body with
      | .delegate => do
          let s ← beside (fallible (needScope scope "registry"))
          let name ← beside (fallible v.plain)
          match ← onHostBeside (outside.look name s.environment) with
          | some g => callWith scope tuple rest g
          | none => throw (.fault .notCallable)
      | body => body.actWith outside around scope ⟨v :: rest, tuple⟩

def resolveWith (scope : Scope) (name : String) (statement : Bool) : Beside τ Function := do
  match ← onHostBeside (outside.look name scope.environment) with
  | none => throw (.unknownFunction name scope.environment)
  | some f =>
      if statement && f.kind == .rvalue then throw (.mustBeValue name)
      else if !statement && f.kind != .rvalue then throw (.noValue name)
      else return f

def assignWith (name : String) (v : Value) : Beside τ Unit := do
  beside (assign name v)
  modify (fun s => (s.1, outside.note name s.2))

def Syntax.Tree.fallback? : Node → Option Failure
  | .foreign v => some (.fault (.unknownNode v.type))
  | .unary (.unknown symbol) _ => some (.unknownUnary symbol)
  | .binary (.unknown symbol) _ _ => some (.fault (.unknownOperator symbol))
  | _ => none

mutual

def evaluateWith (scope : Scope) : Node → Beside τ Value
  | .program statements => evaluateInOrderWith scope .null statements
  | .assignment name value => do
      let v ← evaluateWith scope value
      assignWith outside name v
      return v
  | .literal leaf => return leaf.value
  | .variable name => beside (variableValue name)
  | .list items => return .list (← evaluateAllWith scope items)
  | .unary op operand => do
      let v ← evaluateWith scope operand
      match op with
      | .unknown symbol => outside.stray (.unknownUnary symbol)
      | op => beside (attempt (applyUnary op v))
  | .binary op left right => do
      let a ← evaluateWith scope left
      match op with
      | .both =>
          if a.truthy then return .bool (← evaluateWith scope right).truthy else return .bool false
      | .either =>
          if a.truthy then return .bool true else return .bool (← evaluateWith scope right).truthy
      | .unknown symbol => do
          let _ ← evaluateWith scope right
          outside.stray (.fault (.unknownOperator symbol))
      | op => do beside (attempt (applyOperator op a (← evaluateWith scope right)))
  | .call name args statement => do
      let f ← resolveWith outside scope name statement
      let values ← evaluateAllWith scope args
      callWith outside around (some scope) false values f
  | .foreign v => outside.stray (.fault (.unknownNode v.type))

def evaluateAllWith (scope : Scope) : List Node → Beside τ (List Value)
  | [] => return []
  | node :: rest => do
      let v ← evaluateWith scope node
      return v :: (← evaluateAllWith scope rest)

def evaluateInOrderWith (scope : Scope) (last : Value) : List Node → Beside τ Value
  | [] => return last
  | node :: rest => do
      let v ← evaluateWith scope node
      evaluateInOrderWith scope v rest

end

end Open

def Unasking (α : Type) (x : Running α) : Prop :=
  ∀ gateway, Keeps (fun run => run.host.registry.gateway = gateway) x

theorem defineUnasking (ambient : Environment) (d : Definition) (gateway : Gateway) :
    Keeps (fun h => h.registry.gateway = gateway) (define ambient d) := by
  intro h same
  rw [defineRun]
  cases d.requested ambient with
  | error failure => exact same
  | ok target => exact same

theorem unaskingLasting : Lasting Unasking where
  gives a _ := keepsPure a
  fails failure _ _ := keepsThrow failure
  chains first rest gateway := keepsBind (first gateway) (fun a => rest a gateway)
  logs _ _ _ _ same := same
  reads name gateway s same := by
    rw [variableValue, runGet]
    cases s.bindings.get? name <;> exact same
  writes _ _ _ _ same := same

theorem bodyUnasking (around : Surroundings) (scope : Option Scope) (args : Arguments) {body : Body}
    (other : body ≠ .defined) : Unasking Value (body.act around scope args) :=
  bodyLasts (fun _ => True) unaskingLasting.toQuiet (fun _ => unaskingLasting.reads) (fun _ => unaskingLasting.writes)
    (fun _ d _ gateway s => defineUnasking around.ambient d gateway s.host) (fun same => absurd same other)

theorem attemptUnasking (result : Except Failure α) : Unasking α (attempt result) := by
  intro gateway
  cases result with
  | ok a => exact keepsPure a
  | error failure => exact keepsThrow failure

section Tracking

variable {outside : Outside τ} {around : Surroundings} {P : (α : Type) → Beside τ α → Running α → Prop}

/- A relation between open actions and the closed ones that they stand for, which everything that an evaluation
is made of keeps, apart from nodes without a meaning. -/
structure Tracks (outside : Outside τ) (tree : FileTree) (P : (α : Type) → Beside τ α → Running α → Prop) :
    Prop where
  besides : ∀ {α : Type} {x : Running α}, Unasking α x → P α (beside x) x
  gives : ∀ {α : Type} (a : α), P α (pure a) (pure a)
  throws : ∀ {α : Type} (failure : Failure), P α (throw failure) (throw failure)
  chains : ∀ {α β : Type} {x : Beside τ α} {y : Running α} {f : α → Beside τ β} {g : α → Running β},
    P α x y → (∀ a, P β (f a) (g a)) → P β (x >>= f) (y >>= g)
  looks : ∀ name env, P (Option Function) (onHostBeside (outside.look name env)) (onHost (lookup tree name env))
  notes : ∀ name v, P Unit (assignWith outside name v) (assign name v)

theorem faultTracks {tree : FileTree} (tracks : Tracks outside tree P) (result : Except Fault α) :
    P α (beside (fallible result)) (fallible result) :=
  tracks.besides (fallibleLasts unaskingLasting.toQuiet result)

theorem actTracks (tracks : Tracks outside around.tree P) (scope : Option Scope) (args : Arguments)
    (body : Body) : P Value (body.actWith outside around scope args) (body.act around scope args) := by
  unfold Body.actWith
  split
  · refine tracks.chains (faultTracks tracks _) (fun name => ?_)
    cases scope <;> exact tracks.chains (tracks.looks name _) (fun found => tracks.gives _)
  · rename_i other
    exact tracks.besides (bodyUnasking around scope args other)

theorem callTracks (tracks : Tracks outside around.tree P) (scope : Option Scope) (tuple : Bool)
    (values : List Value) (f : Function) :
    P Value (callWith outside around scope tuple values f) (call around scope tuple values f) := by
  have checks := checkLasts unaskingLasting.toQuiet
  induction values generalizing f with
  | nil =>
    rw [callWith, call]
    refine tracks.chains (tracks.besides (checks f 0)) (fun _ => ?_)
    cases f.body with
    | delegate => exact tracks.chains (faultTracks tracks _) (fun _ => faultTracks tracks _)
    | _ => exact actTracks tracks scope _ _
  | cons v rest ih =>
    rw [callWith, call]
    refine tracks.chains (tracks.besides (checks f _)) (fun _ => ?_)
    cases f.body with
    | delegate =>
      refine tracks.chains (faultTracks tracks _) (fun s => tracks.chains (faultTracks tracks _) (fun name => ?_))
      refine tracks.chains (tracks.looks name s.environment) (fun found => ?_)
      cases found with
      | none => exact tracks.throws _
      | some g => exact ih g
    | _ => exact actTracks tracks scope _ _

theorem resolveTracks (tracks : Tracks outside around.tree P) (scope : Scope) (name : String) (statement : Bool) :
    P Function (resolveWith outside scope name statement) (resolveCall around scope name statement) := by
  refine tracks.chains (tracks.looks name scope.environment) (fun found => ?_)
  cases found with
  | none => exact tracks.throws _
  | some f =>
    dsimp only
    split
    · exact tracks.throws _
    · split
      · exact tracks.throws _
      · exact tracks.gives f

def Outside.Strays (outside : Outside τ) (P : (α : Type) → Beside τ α → Running α → Prop) (nodes : List Node) :
    Prop :=
  ∀ node ∈ nodes, ∀ failure, node.fallback? = some failure → P Value (outside.stray failure) (throw failure)

theorem straysAppend {first second : List Node} :
    outside.Strays P (first ++ second) ↔ outside.Strays P first ∧ outside.Strays P second := by
  simp only [Outside.Strays, List.mem_append, or_imp, forall_and]

theorem straysCons {node : Node} {nodes : List Node} (strays : outside.Strays P (node :: nodes)) :
    (∀ failure, node.fallback? = some failure → P Value (outside.stray failure) (throw failure)) ∧
      outside.Strays P nodes :=
  List.forall_mem_cons.mp strays

mutual

theorem evaluationTracks (tracks : Tracks outside around.tree P) (scope : Scope) :
    ∀ node : Node, outside.Strays P node.subtrees →
      P Value (evaluateWith outside around scope node) (evaluate around scope node)
  | .program statements, strays => by
    rw [evaluateWith, evaluate]
    exact sequenceTracks tracks scope .null statements (straysCons strays).2
  | .assignment name value, strays => by
    rw [evaluateWith, evaluate]
    exact tracks.chains (evaluationTracks tracks scope value (straysCons strays).2) (fun v =>
      tracks.chains (tracks.notes name v) (fun _ => tracks.gives v))
  | .literal leaf, _ => by
    rw [evaluateWith, evaluate]
    exact tracks.gives _
  | .variable name, _ => by
    rw [evaluateWith, evaluate]
    exact tracks.besides (unaskingLasting.reads name)
  | .list items, strays => by
    rw [evaluateWith, evaluate]
    exact tracks.chains (evaluationsTrack tracks scope items (straysCons strays).2) (fun _ => tracks.gives _)
  | .unary op operand, strays => by
    rw [evaluateWith, evaluate]
    obtain ⟨here, inside⟩ := straysCons strays
    refine tracks.chains (evaluationTracks tracks scope operand inside) (fun v => ?_)
    cases op with
    | unknown symbol => exact here _ rfl
    | _ => exact tracks.besides (attemptUnasking _)
  | .binary op left right, strays => by
    rw [evaluateWith, evaluate]
    obtain ⟨here, inside⟩ := straysCons strays
    obtain ⟨insideLeft, insideRight⟩ := straysAppend.mp inside
    refine tracks.chains (evaluationTracks tracks scope left insideLeft) (fun a => ?_)
    have second {f : Value → Beside τ Value} {g : Value → Running Value} (rest : ∀ b, P Value (f b) (g b)) :
        P Value (evaluateWith outside around scope right >>= f) (evaluate around scope right >>= g) :=
      tracks.chains (evaluationTracks tracks scope right insideRight) rest
    cases op with
    | both =>
      dsimp only
      split
      · exact second (fun _ => tracks.gives _)
      · exact tracks.gives _
    | either =>
      dsimp only
      split
      · exact tracks.gives _
      · exact second (fun _ => tracks.gives _)
    | unknown symbol => exact second (fun _ => here _ rfl)
    | _ => exact second (fun _ => tracks.besides (attemptUnasking _))
  | .call name args statement, strays => by
    rw [evaluateWith, evaluate]
    refine tracks.chains (resolveTracks tracks scope name statement) (fun f => ?_)
    refine tracks.chains (evaluationsTrack tracks scope args (straysCons strays).2) (fun values => ?_)
    exact callTracks tracks (some scope) false values f
  | .foreign v, strays => by
    rw [evaluateWith, evaluate]
    exact (straysCons strays).1 _ rfl

theorem evaluationsTrack (tracks : Tracks outside around.tree P) (scope : Scope) :
    ∀ nodes : List Node, outside.Strays P (allSubtrees nodes) →
      P (List Value) (evaluateAllWith outside around scope nodes) (evaluateAll around scope nodes)
  | [], _ => by
    rw [evaluateAllWith, evaluateAll]
    exact tracks.gives _
  | node :: rest, strays => by
    rw [evaluateAllWith, evaluateAll]
    obtain ⟨head, tail⟩ := straysAppend.mp strays
    exact tracks.chains (evaluationTracks tracks scope node head) (fun _ =>
      tracks.chains (evaluationsTrack tracks scope rest tail) (fun _ => tracks.gives _))

theorem sequenceTracks (tracks : Tracks outside around.tree P) (scope : Scope) (last : Value) :
    ∀ nodes : List Node, outside.Strays P (allSubtrees nodes) →
      P Value (evaluateInOrderWith outside around scope last nodes) (evaluateInOrder around scope last nodes)
  | [], _ => by
    rw [evaluateInOrderWith, evaluateInOrder]
    exact tracks.gives _
  | node :: rest, strays => by
    rw [evaluateInOrderWith, evaluateInOrder]
    obtain ⟨head, tail⟩ := straysAppend.mp strays
    exact tracks.chains (evaluationTracks tracks scope node head) (fun v =>
      sequenceTracks tracks scope v rest tail)

end

end Tracking

/- An action comes to what another one comes to, whatever is kept beside it. -/
def Follows (α : Type) (x : ExceptT Failure (StateM (ρ × τ)) α) (y : ExceptT Failure (StateM ρ) α) : Prop :=
  ∀ s aside, ∃ after, x.run (s, aside) = ((y.run s).1, (y.run s).2, after)

def Outside.Faithful (outside : Outside τ) (tree : FileTree) : Prop :=
  ∀ name env, Follows (Option Function) (outside.look name env) (lookup tree name env)

theorem besideRun (x : ExceptT Failure (StateM ρ) α) (s : ρ) (aside : τ) :
    (beside x).run (s, aside) = ((x.run s).1, (x.run s).2, aside) := rfl

theorem onHostBesideRun (x : HostBeside τ α) (run : Run) (aside : τ) :
    (onHostBeside x).run (run, aside) = ((x.run (run.host, aside)).1,
      ⟨(x.run (run.host, aside)).2.1, run.bindings⟩, (x.run (run.host, aside)).2.2) := rfl

theorem followsBeside (x : ExceptT Failure (StateM ρ) α) :
    Follows α (beside x : ExceptT Failure (StateM (ρ × τ)) α) x :=
  fun s aside => ⟨aside, besideRun x s aside⟩

theorem followsPure (a : α) : Follows α (pure a : ExceptT Failure (StateM (ρ × τ)) α) (pure a) :=
  fun _ aside => ⟨aside, rfl⟩

theorem followsBind {x : ExceptT Failure (StateM (ρ × τ)) α} {y : ExceptT Failure (StateM ρ) α}
    {f : α → ExceptT Failure (StateM (ρ × τ)) β} {g : α → ExceptT Failure (StateM ρ) β}
    (first : Follows α x y) (rest : ∀ a, Follows β (f a) (g a)) : Follows β (x >>= f) (y >>= g) := by
  intro s aside
  obtain ⟨between, ran⟩ := first s aside
  rw [runBind, runBind, ran]
  rcases y.run s with ⟨failure | a, next⟩
  · exact ⟨between, rfl⟩
  · exact rest a next between

theorem followsTracks {outside : Outside τ} {tree : FileTree} (faithful : outside.Faithful tree) :
    Tracks outside tree Follows where
  besides _ := followsBeside _
  gives := followsPure
  throws _ _ aside := ⟨aside, rfl⟩
  chains := followsBind
  looks name env run aside := by
    obtain ⟨after, ran⟩ := faithful name env run.host aside
    exact ⟨after, by rw [onHostBesideRun, ran]; rfl⟩
  notes name v _ aside := ⟨outside.note name aside, rfl⟩

theorem evaluationFollows {outside : Outside τ} {around : Surroundings} (faithful : outside.Faithful around.tree)
    (scope : Scope) {node : Node} (strays : outside.Strays Follows node.subtrees) :
    Follows Value (evaluateWith outside around scope node) (evaluate around scope node) :=
  evaluationTracks (followsTracks faithful) scope node strays

end CallScript
