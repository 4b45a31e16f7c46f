import CallScript.Analysis
import CallScript.Proofs.Supply

/-! The analysis of a script against its evaluation. Both meet the calls of a script in the same order and
test them alike, so an evaluation that fails at a misplaced call fails at a problem the analysis names,
and at the first of them unless an operand is left out before it. -/
namespace CallScript

open Syntax (Node Tree Operator allSubtrees)

def Body.Plain (body : Body) : Prop :=
  body ≠ .defineConstant ∧ body ≠ .defined ∧ body ≠ .delegate

def Syntax.Tree.isConditional {α : Type} : Tree α → Bool
  | .binary .both _ _ | .binary .either _ _ => true
  | _ => false

def problemsOf (r : Registry) (env : Environment) (calls : List (String × Bool)) : List Failure :=
  calls.filterMap (fun (name, statement) => problemOf r env name statement)

def Known (r : Registry) (env : Environment) (calls : List (String × Bool)) : Prop :=
  ∀ name statement, (name, statement) ∈ calls → ∃ f, r.get? name env = some f ∧ f.body.Plain

/- An action that leaves the registry as it is and fails at a misplaced call only for one of the problems;
a strict one only for the first of them, and it ends only if there are none. -/
def Accords (r : Registry) (strict : Prop) (problems : List Failure) (α : Type) (x : Running α) : Prop :=
  ∀ s, s.host.registry = r → (x.run s).2.host.registry = r ∧
    match (x.run s).1 with
    | .ok _ => strict → problems = []
    | .error failure => failure.isMisplaced = true →
        failure ∈ problems ∧ (strict → problems.head? = some failure)

section Accordance

variable {r : Registry} {strict : Prop}

theorem accordsBind {first second : List Failure} {α β : Type} {x : Running α} {f : α → Running β}
    (before : Accords r strict first α x) (after : ∀ a, Accords r strict second β (f a)) :
    Accords r strict (first ++ second) β (x >>= f) := by
  intro s same
  have ran := before s same
  rw [runBind]
  generalize x.run s = outcome at ran
  obtain ⟨failure | a, t⟩ := outcome
  · refine ⟨ran.1, fun misplaced => ?_⟩
    obtain ⟨mem, head⟩ := ran.2 misplaced
    exact ⟨List.mem_append_left _ mem, fun holds => by rw [List.head?_append, head holds]; rfl⟩
  · have rest := after a t ran.1
    dsimp only
    generalize (f a).run t = outcome at rest
    obtain ⟨failure | b, u⟩ := outcome
    · refine ⟨rest.1, fun misplaced => ?_⟩
      obtain ⟨mem, head⟩ := rest.2 misplaced
      refine ⟨List.mem_append_right _ mem, fun holds => ?_⟩
      rw [ran.2 holds]
      exact head holds
    · refine ⟨rest.1, fun holds => ?_⟩
      rw [ran.2 holds, rest.2 holds]
      rfl

theorem accordsPure {problems : List Failure} {α : Type} (a : α) (none : strict → problems = []) :
    Accords r strict problems α (pure a) :=
  fun _ same => ⟨same, none⟩

theorem accordsPlaced {problems : List Failure} {α : Type} {failure : Failure}
    (placed : failure.isMisplaced = false) : Accords r strict problems α (throw failure) := by
  refine fun _ same => ⟨same, fun misplaced => ?_⟩
  rw [placed] at misplaced
  cases misplaced

theorem accordsLasting : Lasting (Accords r strict []) where
  gives a := accordsPure a (fun _ => rfl)
  fails _ free := accordsPlaced (freePlaced free)
  chains before after := accordsBind before after
  reads name := by
    intro s same
    rw [variableValue, runGet]
    cases s.bindings.get? name with
    | none => exact accordsPlaced rfl s same
    | some v => exact accordsPure v (fun _ => rfl) s same
  writes _ _ := fun _ same => ⟨same, fun _ => rfl⟩
  logs _ _ := fun _ same => ⟨same, fun _ => rfl⟩

theorem callAccords {around : Surroundings} {scope : Option Scope} {tuple : Bool} (values : List Value)
    {f : Function} (plain : f.body.Plain) : Accords r strict [] Value (call around scope tuple values f) :=
  callLasts around scope accordsLasting rfl (fun other => absurd rfl other.1)
    (fun looks => looks.elim (fun other => absurd rfl other.2.1) (fun other => absurd rfl other.2.2)) values plain

variable {around : Surroundings} {scope : Scope}

theorem calleeAccords {name : String} {statement : Bool} {f : Function} {problems : List Failure} {α : Type}
    {k : Function → Running α} (here : r.get? name scope.environment = some f)
    (rest : Accords r strict problems α (k f)) :
    Accords r strict ((problemOf r scope.environment name statement).toList ++ problems) α
      (resolveCall around scope name statement >>= k) := by
  intro s same
  have found : (lookup around.tree name scope.environment).run s.host = (.ok (some f), s.host) := by
    rw [lookup, runGet, same, here]
    rfl
  have resolved : (resolveCall around scope name statement >>= k).run s =
      ((problemOf r scope.environment name statement).elim (k f) throw).run s := by
    rw [resolveCall, bind_assoc, runBind, onHostRuns found, problemOf, here]
    dsimp only
    cases statement <;> cases f.kind <;> rfl
  rw [resolved]
  cases problem : problemOf r scope.environment name statement with
  | none => exact rest s same
  | some failure =>
    exact ⟨same, fun _ => ⟨by simp, fun _ => rfl⟩⟩

theorem knownAppend {env : Environment} {first second : List (String × Bool)} :
    Known r env (first ++ second) ↔ Known r env first ∧ Known r env second := by
  simp only [Known, List.mem_append, or_imp, forall_and]

theorem callsCons (node : Node) (rest : List Node) : (allSubtrees (node :: rest)).filterMap Tree.call? =
    node.calls ++ (allSubtrees rest).filterMap Tree.call? :=
  List.filterMap_append

theorem problemsAppend (env : Environment) (first second : List (String × Bool)) :
    problemsOf r env (first ++ second) = problemsOf r env first ++ problemsOf r env second :=
  List.filterMap_append

theorem attemptAccords {α : Type} {result : Except Failure α}
    (free : ∀ failure, result = .error failure → failure.isReserved = false) :
    Accords r strict [] α (attempt result) :=
  attemptLasts accordsLasting free

theorem accordsThen {problems : List Failure} {α β : Type} {x : Running α} {f : α → Running β}
    (before : Accords r strict problems α x) (after : ∀ a, Accords r strict [] β (f a)) :
    Accords r strict problems β (x >>= f) := by
  have whole := accordsBind before after
  rwa [List.append_nil] at whole

mutual

theorem evaluationAccords : ∀ node : Node, Known r scope.environment node.calls →
    (strict → ∀ t ∈ node.subtrees, t.isConditional = false) →
      Accords r strict (problemsOf r scope.environment node.calls) Value (evaluate around scope node)
  | .program statements, known, plain => by
    rw [evaluate]
    exact sequenceAccords .null statements known (fun holds t mem => plain holds t (List.mem_cons_of_mem _ mem))
  | .assignment name value, known, plain => by
    rw [evaluate]
    have inner := evaluationAccords value known (fun holds t mem => plain holds t (List.mem_cons_of_mem _ mem))
    exact accordsThen inner (fun v =>
      accordsThen (accordsLasting.writes name v) (fun _ => accordsLasting.gives v))
  | .literal leaf, _, _ => by
    rw [evaluate]
    exact accordsLasting.gives _
  | .variable name, _, _ => by
    rw [evaluate]
    exact accordsLasting.reads name
  | .list items, known, plain => by
    rw [evaluate]
    have inner := evaluationsAccord items known (fun holds t mem => plain holds t (List.mem_cons_of_mem _ mem))
    exact accordsThen inner (fun _ => accordsLasting.gives _)
  | .unary op operand, known, plain => by
    rw [evaluate]
    have inner := evaluationAccords operand known (fun holds t mem => plain holds t (List.mem_cons_of_mem _ mem))
    exact accordsThen inner (fun _ => attemptAccords (fun _ => applyUnaryFree))
  | .binary op left right, known, plain => by
    have calls : (Tree.binary op left right).calls = left.calls ++ right.calls := List.filterMap_append
    rw [calls] at known ⊢
    rw [problemsAppend]
    obtain ⟨knownLeft, knownRight⟩ := knownAppend.mp known
    have first := evaluationAccords left knownLeft (fun holds t mem =>
      plain holds t (List.mem_cons_of_mem _ (List.mem_append_left _ mem)))
    have second := evaluationAccords right knownRight (fun holds t mem =>
      plain holds t (List.mem_cons_of_mem _ (List.mem_append_right _ mem)))
    rw [evaluate]
    have taken := accordsThen second (fun v => accordsLasting.gives (Value.bool v.truthy))
    -- an operand is left out only where the evaluation is not strict
    have omitted (b : Bool) (conditional : (Tree.binary op left right).isConditional = true) :
        Accords r strict (problemsOf r scope.environment right.calls) Value (pure (.bool b)) := by
      refine accordsPure _ (fun holds => ?_)
      have other := plain holds (.binary op left right) List.mem_cons_self
      rw [conditional] at other
      cases other
    refine accordsBind first (fun a => ?_)
    split
    · split
      · exact taken
      · exact omitted false rfl
    · split
      · exact omitted true rfl
      · exact taken
    · exact accordsThen second (fun _ => attemptAccords (fun _ => applyOperatorFree))
  | .call name args statement, known, plain => by
    have calls : (Tree.call name args statement).calls =
        [(name, statement)] ++ (allSubtrees args).filterMap Tree.call? := rfl
    rw [calls] at known ⊢
    rw [problemsAppend]
    obtain ⟨f, here, plainBody⟩ := known name statement (by simp)
    have inner := evaluationsAccord args (knownAppend.mp known).2 (fun holds t mem =>
      plain holds t (List.mem_cons_of_mem _ mem))
    rw [evaluate]
    have one : problemsOf r scope.environment [(name, statement)] =
        (problemOf r scope.environment name statement).toList := by
      rw [problemsOf, List.filterMap_cons, List.filterMap_nil]
      dsimp only
      cases problemOf r scope.environment name statement <;> rfl
    rw [one]
    exact calleeAccords here (accordsThen inner (fun values => callAccords values plainBody))
  | .foreign v, _, _ => by
    rw [evaluate]
    exact accordsPlaced rfl

theorem evaluationsAccord : ∀ nodes : List Node,
    Known r scope.environment ((allSubtrees nodes).filterMap Tree.call?) →
    (strict → ∀ t ∈ allSubtrees nodes, t.isConditional = false) →
      Accords r strict (problemsOf r scope.environment ((allSubtrees nodes).filterMap Tree.call?)) (List Value)
        (evaluateAll around scope nodes)
  | [], _, _ => by
    rw [evaluateAll]
    exact accordsLasting.gives _
  | node :: rest, known, plain => by
    rw [callsCons] at known ⊢
    rw [problemsAppend, evaluateAll]
    have first := evaluationAccords node (knownAppend.mp known).1 (fun holds t mem =>
      plain holds t (List.mem_append_left _ mem))
    have others := evaluationsAccord rest (knownAppend.mp known).2 (fun holds t mem =>
      plain holds t (List.mem_append_right _ mem))
    exact accordsBind first (fun _ => accordsThen others (fun _ => accordsLasting.gives _))

theorem sequenceAccords (last : Value) : ∀ nodes : List Node,
    Known r scope.environment ((allSubtrees nodes).filterMap Tree.call?) →
    (strict → ∀ t ∈ allSubtrees nodes, t.isConditional = false) →
      Accords r strict (problemsOf r scope.environment ((allSubtrees nodes).filterMap Tree.call?)) Value
        (evaluateInOrder around scope last nodes)
  | [], _, _ => by
    rw [evaluateInOrder]
    exact accordsLasting.gives _
  | node :: rest, known, plain => by
    rw [callsCons] at known ⊢
    rw [problemsAppend, evaluateInOrder]
    have first := evaluationAccords node (knownAppend.mp known).1 (fun holds t mem =>
      plain holds t (List.mem_append_left _ mem))
    exact accordsBind first (fun v => sequenceAccords v rest (knownAppend.mp known).2 (fun holds t mem =>
      plain holds t (List.mem_append_right _ mem)))

end

end Accordance

section Forecast

variable {around : Surroundings} {scope : Scope} {host : Host} {bindings : Dictionary Value} {node : Node}

end Forecast

end CallScript
