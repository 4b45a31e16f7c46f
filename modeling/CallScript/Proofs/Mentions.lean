import CallScript.Analysis
import CallScript.Proofs.Actions

/-! Scripts depend on the variables that they mention. Two runs of a script from variables that agree where it
reads them stay in step, as long as the functions that are called keep away from variables: they come to the
same, do the same to the host, and leave variables that they do not assign as they were. -/
namespace CallScript

open Syntax (Node Tree Operator allSubtrees)

def Unaware (α : Type) (x : Running α) : Prop :=
  ∀ host, ∃ result after, ∀ bindings, x.run ⟨host, bindings⟩ = (result, ⟨after, bindings⟩)

theorem unawarePure {α : Type} (a : α) : Unaware α (pure a) :=
  fun host => ⟨.ok a, host, fun _ => rfl⟩

theorem unawareThrow {α : Type} (failure : Failure) : Unaware α (throw failure) :=
  fun host => ⟨.error failure, host, fun _ => rfl⟩

theorem unawareHost {α : Type} (action : Hosted α) : Unaware α (onHost action) :=
  fun host => ⟨(action.run host).1, (action.run host).2, fun _ => rfl⟩

theorem unawareBind {α β : Type} {x : Running α} {f : α → Running β} (first : Unaware α x)
    (rest : ∀ a, Unaware β (f a)) : Unaware β (x >>= f) := by
  intro host
  obtain ⟨result, after, ran⟩ := first host
  cases result with
  | error failure => exact ⟨.error failure, after, fun bindings => by rw [runBind, ran]⟩
  | ok a =>
    obtain ⟨result, last, went⟩ := rest a after
    exact ⟨result, last, fun bindings => by rw [runBind, ran]; exact went bindings⟩

theorem unawareQuiet : Quiet Unaware where
  gives := unawarePure
  fails failure _ := unawareThrow failure
  chains := unawareBind
  logs _ _ := unawareHost _

theorem unawareLooks (tree : FileTree) (env : Environment) : Looks tree env (fun _ => True) Unaware := by
  intro α name f rest
  exact unawareBind (unawareHost _) (fun found => rest found (fun _ _ => trivial))

section Calling

variable (around : Surroundings) (scope : Scope)

def Function.Blind (f : Function) : Prop :=
  ∀ args, Unaware Value (f.body.act around (some scope) args)

theorem otherBlind {f : Function} (reads : f.body ≠ .readVariable) (writes : f.body ≠ .writeVariable) :
    f.Blind around scope := by
  intro args
  exact bodyLasts (fun _ => True) unawareQuiet (fun same => absurd same reads) (fun same => absurd same writes)
    (fun _ _ _ => unawareHost _) (fun _ => unawareLooks _ _)

inductive Invokes : Function → List Value → Run → Function → Prop where
  | itself {f values s} : Invokes f values s f
  | handed {f g h v rest name s t} (checked : f.check (rest.length + 1) = .ok ()) (delegates : f.body = .delegate)
      (named : v.plain = .ok name)
      (found : (onHost (lookup around.tree name scope.environment)).run s = (.ok (some g), t))
      (invoked : Invokes g rest t h) : Invokes f (v :: rest) s h

def Syntax.Operator.goesOn (op : Operator) (first : Value) : Bool :=
  match op with
  | .both => first.truthy
  | .either => !first.truthy
  | _ => true

mutual

inductive Calls : Node → Run → Function → Prop where
  | program {statements s f} (inside : CallsAmong statements s f) : Calls (.program statements) s f
  | assignment {name value s f} (inside : Calls value s f) : Calls (.assignment name value) s f
  | list {items s f} (inside : CallsAmong items s f) : Calls (.list items) s f
  | unary {op operand s f} (inside : Calls operand s f) : Calls (.unary op operand) s f
  | first {op left right s f} (inside : Calls left s f) : Calls (.binary op left right) s f
  | second {op left right a s t f} (ran : (evaluate around scope left).run s = (.ok a, t))
      (onward : op.goesOn a = true) (inside : Calls right t f) : Calls (.binary op left right) s f
  | argument {name args statement g s t f}
      (resolved : (resolveCall around scope name statement).run s = (.ok g, t)) (inside : CallsAmong args t f) :
      Calls (.call name args statement) s f
  | callee {name args statement g values s t u f}
      (resolved : (resolveCall around scope name statement).run s = (.ok g, t))
      (ran : (evaluateAll around scope args).run t = (.ok values, u)) (invoked : Invokes around scope g values u f) :
      Calls (.call name args statement) s f

inductive CallsAmong : List Node → Run → Function → Prop where
  | head {node rest s f} (inside : Calls node s f) : CallsAmong (node :: rest) s f
  | tail {node rest v s t f} (ran : (evaluate around scope node).run s = (.ok v, t))
      (inside : CallsAmong rest t f) : CallsAmong (node :: rest) s f

end

end Calling

section InStep

variable {b b' : Dictionary Value}

/- Two runs on the same host that have been left, in each variable, the same value or what they began with. -/
def InStep (b b' : Dictionary Value) (s t : Run) : Prop :=
  s.host = t.host ∧ ∀ name, s.bindings.get? name = t.bindings.get? name ∨
    s.bindings.get? name = b.get? name ∧ t.bindings.get? name = b'.get? name

def Agree (b b' : Dictionary Value) (names : List String) : Prop :=
  ∀ name ∈ names, b.get? name = b'.get? name

theorem agreeAppend {first second : List String} :
    Agree b b' (first ++ second) ↔ Agree b b' first ∧ Agree b b' second := by
  simp only [Agree, List.mem_append, or_imp, forall_and]

theorem inStepUnaware {α : Type} {x : Running α} (unaware : Unaware α x) : Related (InStep b b') x x := by
  rintro ⟨host, bindings⟩ ⟨_, bindings'⟩ ⟨rfl, each⟩
  obtain ⟨result, after, ran⟩ := unaware host
  rw [Meets, ran, ran]
  exact ⟨rfl, rfl, each⟩

theorem inStepVariable {name : String} (agree : b.get? name = b'.get? name) :
    Related (InStep b b') (variableValue name) (variableValue name) := by
  refine relatedGet (fun s t related => ?_)
  have same : s.bindings.get? name = t.bindings.get? name := by
    rcases related.2 name with same | ⟨first, second⟩
    · exact same
    · rw [first, second, agree]
  rw [same]
  cases t.bindings.get? name with
  | none => exact ⟨rfl, related⟩
  | some v => exact ⟨rfl, related⟩

theorem inStepAssign (name : String) (v : Value) : Related (InStep b b') (assign name v) (assign name v) := by
  intro s t related
  refine ⟨rfl, related.1, fun other => ?_⟩
  change (s.bindings.put name v).get? other = (t.bindings.put name v).get? other ∨
    (s.bindings.put name v).get? other = b.get? other ∧ (t.bindings.put name v).get? other = b'.get? other
  rw [Dictionary.get?_put, Dictionary.get?_put]
  split
  · exact .inl rfl
  · exact related.2 other

variable {around : Surroundings} {scope : Scope}

theorem resolveUnaware (name : String) (statement : Bool) :
    Unaware Function (resolveCall around scope name statement) := by
  refine unawareBind (unawareHost _) (fun found => ?_)
  cases found with
  | none => exact unawareThrow _
  | some f =>
    dsimp only
    split
    · exact unawareThrow _
    · split
      · exact unawareThrow _
      · exact unawarePure f

theorem fallibleRan {α : Type} {result : Except Fault α} {a : α} {s t : Run}
    (ran : (fallible result).run s = (.ok a, t)) : result = .ok a ∧ t = s := by
  cases result with
  | error f => cases ran
  | ok a =>
    cases ran
    exact ⟨rfl, rfl⟩

theorem checkRan {f : Function} {n : Nat} {s t : Run} (ran : (call.liftExcept (f.check n)).run s = (.ok (), t)) :
    f.check n = .ok () ∧ t = s := by
  cases checked : f.check n with
  | error failure =>
    rw [checked] at ran
    cases ran
  | ok =>
    rw [checked] at ran
    cases ran
    exact ⟨rfl, rfl⟩

theorem callInStep (tuple : Bool) (values : List Value) {f : Function} {s t : Run} (related : InStep b b' s t)
    (blind : ∀ g, Invokes around scope f values s g → g.Blind around scope) :
    Meets (InStep b b') (call around (some scope) tuple values f) (call around (some scope) tuple values f) s t := by
  induction values generalizing f s t with
  | nil =>
    refine inStepUnaware ?_ s t related
    rw [call]
    refine unawareBind (checkLasts unawareQuiet f 0) (fun _ => ?_)
    split
    · exact unawareBind (fallibleLasts unawareQuiet _) (fun _ => fallibleLasts unawareQuiet _)
    · exact blind f .itself _
  | cons v rest ih =>
    rw [call]
    have checks := inStepUnaware (checkLasts unawareQuiet f (rest.length + 1)) s t related
    refine meetsChain checks (fun _ s₁ t₁ ran step => ?_)
    obtain ⟨checked, rfl⟩ := checkRan ran
    split
    · rename_i delegates
      have within := inStepUnaware (fallibleLasts unawareQuiet (needScope (some scope) "registry")) s₁ t₁ step
      refine meetsChain within (fun _ s₂ t₂ ran step₂ => ?_)
      obtain ⟨⟨⟩, rfl⟩ := fallibleRan ran
      have names := inStepUnaware (fallibleLasts unawareQuiet v.plain) _ t₂ step₂
      refine meetsChain names (fun name s₃ t₃ ran step₃ => ?_)
      obtain ⟨named, rfl⟩ := fallibleRan ran
      have looks := inStepUnaware (unawareHost (lookup around.tree name scope.environment)) _ t₃ step₃
      refine meetsChain looks (fun found s₄ t₄ ran step₄ => ?_)
      cases found with
      | none => exact relatedThrow _ s₄ t₄ step₄
      | some g => exact ih step₄ (fun h invoked => blind h (.handed checked delegates named ran invoked))
    · exact inStepUnaware (blind f .itself _) _ t₁ step

theorem attemptUnaware {α : Type} (result : Except Failure α) : Unaware α (attempt result) := by
  cases result with
  | ok a => exact unawarePure a
  | error failure => exact unawareThrow failure

mutual

theorem evaluationInStep : ∀ (node : Node) {s t : Run}, Agree b b' node.reads → InStep b b' s t →
    (∀ f, Calls around scope node s f → f.Blind around scope) →
      Meets (InStep b b') (evaluate around scope node) (evaluate around scope node) s t
  | .program statements, s, t, agree, related, blind => by
    rw [evaluate]
    exact sequenceInStep .null statements agree related (fun f inside => blind f (.program inside))
  | .assignment name value, s, t, agree, related, blind => by
    rw [evaluate]
    have inner := evaluationInStep value agree related (fun f inside => blind f (.assignment inside))
    exact meetsBind inner (fun v => relatedBind (inStepAssign name v) (fun _ => relatedPure v))
  | .literal leaf, s, t, _, related, _ => by
    rw [evaluate]
    exact relatedPure _ s t related
  | .variable name, s, t, agree, related, _ => by
    rw [evaluate]
    exact inStepVariable (agree name (by simp [Tree.reads, Tree.subtrees, Tree.variableName?])) s t related
  | .list items, s, t, agree, related, blind => by
    rw [evaluate]
    have inner := evaluationsInStep items agree related (fun f inside => blind f (.list inside))
    exact meetsBind inner (fun values => relatedPure _)
  | .unary op operand, s, t, agree, related, blind => by
    rw [evaluate]
    have inner := evaluationInStep operand agree related (fun f inside => blind f (.unary inside))
    exact meetsBind inner (fun v => inStepUnaware (attemptUnaware _))
  | .binary op left right, s, t, agree, related, blind => by
    have reads : (Tree.binary op left right).reads = left.reads ++ right.reads := List.filterMap_append
    rw [reads] at agree
    obtain ⟨agreeLeft, agreeRight⟩ := agreeAppend.mp agree
    have first := evaluationInStep left agreeLeft related (fun f inside => blind f (.first inside))
    rw [evaluate]
    refine meetsChain first (fun a s₁ t₁ ran related => ?_)
    have second {β : Type} {f : Value → Running β} (onward : op.goesOn a = true)
        (rest : ∀ v, Related (InStep b b') (f v) (f v)) :
        Meets (InStep b b') (evaluate around scope right >>= f) (evaluate around scope right >>= f) s₁ t₁ :=
      meetsBind (evaluationInStep right agreeRight related (fun f inside => blind f (.second ran onward inside))) rest
    split
    · split
      · rename_i holds
        exact second holds (fun _ => relatedPure _)
      · exact relatedPure _ _ _ related
    · split
      · exact relatedPure _ _ _ related
      · rename_i fails
        exact second (by simpa [Operator.goesOn] using fails) (fun _ => relatedPure _)
    · rename_i other both either
      have onward : op.goesOn a = true := by
        cases op with
        | both => exact absurd rfl both
        | either => exact absurd rfl either
        | _ => rfl
      exact second onward (fun _ => inStepUnaware (attemptUnaware _))
  | .call name args statement, s, t, agree, related, blind => by
    rw [evaluate]
    refine meetsChain (inStepUnaware (resolveUnaware name statement) s t related) (fun f s₁ t₁ resolved related => ?_)
    have inner := evaluationsInStep args agree related (fun g inside => blind g (.argument resolved inside))
    refine meetsChain inner (fun values s₂ t₂ ran related => ?_)
    exact callInStep false values related (fun g invoked => blind g (.callee resolved ran invoked))
  | .foreign v, s, t, _, related, _ => by
    rw [evaluate]
    exact relatedThrow _ s t related

theorem evaluationsInStep : ∀ (nodes : List Node) {s t : Run},
    Agree b b' ((allSubtrees nodes).filterMap Tree.variableName?) → InStep b b' s t →
    (∀ f, CallsAmong around scope nodes s f → f.Blind around scope) →
      Meets (InStep b b') (evaluateAll around scope nodes) (evaluateAll around scope nodes) s t
  | [], s, t, _, related, _ => by
    rw [evaluateAll]
    exact relatedPure _ s t related
  | node :: rest, s, t, agree, related, blind => by
    obtain ⟨agreeHead, agreeTail⟩ := agreeAppend.mp (List.filterMap_append ▸ agree)
    rw [evaluateAll]
    have first := evaluationInStep node agreeHead related (fun f inside => blind f (.head inside))
    refine meetsChain first (fun v s₁ t₁ ran related => ?_)
    exact meetsBind (evaluationsInStep rest agreeTail related (fun f inside => blind f (.tail ran inside)))
      (fun values => relatedPure _)

theorem sequenceInStep (last : Value) : ∀ (nodes : List Node) {s t : Run},
    Agree b b' ((allSubtrees nodes).filterMap Tree.variableName?) → InStep b b' s t →
    (∀ f, CallsAmong around scope nodes s f → f.Blind around scope) →
      Meets (InStep b b') (evaluateInOrder around scope last nodes) (evaluateInOrder around scope last nodes) s t
  | [], s, t, _, related, _ => by
    rw [evaluateInOrder]
    exact relatedPure _ s t related
  | node :: rest, s, t, agree, related, blind => by
    obtain ⟨agreeHead, agreeTail⟩ := agreeAppend.mp (List.filterMap_append ▸ agree)
    rw [evaluateInOrder]
    have first := evaluationInStep node agreeHead related (fun f inside => blind f (.head inside))
    exact meetsChain first (fun v s₁ t₁ ran related =>
      sequenceInStep v rest agreeTail related (fun f inside => blind f (.tail ran inside)))

end

end InStep

theorem memSortedNames {name : String} {names : List String} : name ∈ sortedNames names ↔ name ∈ names := by
  simp [sortedNames]

/- A script depends on no variables but those that the analysis says it reads. -/
theorem mentionedDecide {around : Surroundings} {scope : Scope} {host : Host} {b b' : Dictionary Value}
    {node : Node}
    (agree : ∀ name ∈ (analyze host.registry scope.environment node).reads, b.get? name = b'.get? name)
    (blind : ∀ f, Calls around scope node ⟨host, b⟩ f → f.Blind around scope) :
    let first := runOn around scope host b node
    let second := runOn around scope host b' node
    first.result = second.result ∧ first.host = second.host ∧
      ∀ name, first.bindings.get? name = second.bindings.get? name ∨
        first.bindings.get? name = b.get? name ∧ second.bindings.get? name = b'.get? name := by
  have reads : Agree b b' node.reads := fun name mem => agree name (memSortedNames.mpr mem)
  have beginning : InStep b b' ⟨host, b⟩ ⟨host, b'⟩ := ⟨rfl, fun name => .inr ⟨rfl, rfl⟩⟩
  obtain ⟨result, after, each⟩ := evaluationInStep node reads beginning blind
  exact ⟨result, after, each⟩

def relaying : Node :=
  .program [.assignment "y" (.variable "x"), .call "info" [.variable "y"] true]

section Relaying

variable {around : Surroundings} {scope : Scope}

theorem relayingCalls {host : Host} {b : Dictionary Value} {v : Value} {f g : Function} (known : b.get? "x" = some v)
    (here : host.registry.get? "info" scope.environment = some g) (plain : g.body ≠ .delegate)
    (kind : g.kind = .statement) (calls : Calls around scope relaying ⟨host, b⟩ f) : f = g := by
  have value : (variableValue "x").run ⟨host, b⟩ = (.ok v, ⟨host, b⟩) := by
    rw [variableValue, runGet, known]
    rfl
  have assigned : (evaluate around scope (.assignment "y" (.variable "x"))).run ⟨host, b⟩ =
      (.ok v, ⟨host, b.put "y" v⟩) := by
    rw [evaluate, evaluate, runBind, value]
    rfl
  have resolved : ∀ b, (resolveCall around scope "info" true).run ⟨host, b⟩ = (.ok g, ⟨host, b⟩) := by
    intro b
    have found : (lookup around.tree "info" scope.environment).run host = (.ok (some g), host) := by
      rw [lookup, runGet, here]
      rfl
    rw [resolveCall, runBind, onHostRuns found]
    dsimp only
    rw [kind]
    rfl
  cases calls with
  | program inside =>
    cases inside with
    | head inside => cases inside with | assignment inside => cases inside
    | tail ran inside =>
      rw [assigned] at ran
      cases ran
      cases inside with
      | head inside =>
        cases inside with
        | argument resolution inside =>
          cases inside with
          | head inside => cases inside
          | tail _ inside => cases inside
        | callee resolution ran invoked =>
          rw [resolved] at resolution
          cases resolution
          cases invoked with
          | itself => rfl
          | handed _ delegates => exact absurd delegates plain
      | tail _ inside => cases inside

end Relaying

theorem relayedAlike :
    let around : Surroundings := ⟨FileTree.installed, Environment.root⟩
    let scope : Scope := ⟨⟨"web"⟩, true⟩
    let host : Host := ⟨Registry.withGateway (.files {}), []⟩
    let b : Dictionary Value := ⟨[("x", .int 1), ("z", .int 5)]⟩
    let b' : Dictionary Value := ⟨[("x", .int 1)]⟩
    (∀ name ∈ (analyze host.registry scope.environment relaying).reads, b.get? name = b'.get? name) ∧
      let first := runOn around scope host b relaying
      let second := runOn around scope host b' relaying
      first.result = second.result ∧ first.host = second.host ∧
        ∀ name, first.bindings.get? name = second.bindings.get? name ∨
          first.bindings.get? name = b.get? name ∧ second.bindings.get? name = b'.get? name := by
  intro around scope host b b'
  have reads : relaying.reads = ["x", "y"] := by decide
  have mentioned : ∀ name ∈ relaying.reads, b.get? name = b'.get? name := by
    rw [reads]
    simp only [List.forall_mem_cons]
    exact ⟨rfl, rfl, by simp⟩
  have agree : ∀ name ∈ (analyze host.registry scope.environment relaying).reads, b.get? name = b'.get? name :=
    fun name mem => mentioned name (memSortedNames.mp mem)
  refine ⟨agree, mentionedDecide agree (fun f calls => ?_)⟩
  have same : f = logFunction .info := relayingCalls rfl rfl (by rintro ⟨⟩) rfl calls
  rw [same]
  exact otherBlind around scope (by rintro ⟨⟩) (by rintro ⟨⟩)

end CallScript
