import CallScript.Evaluation
import CallScript.Proofs.Runs

/-! Properties of everything that a running script does. What holds of the single steps of function bodies
and of chains of actions holds of every call; what also holds of failed placements and of lookups holds of
every evaluation. -/
namespace CallScript

open Syntax (Node Tree Operator UnaryOperator)

theorem onHostRuns {α : Type} {action : Hosted α} {s : Run} {result after}
    (run : action.run s.host = (result, after)) : (onHost action).run s = (result, ⟨after, s.bindings⟩) := by
  have whole : (onHost action).run s = ((action.run s.host).1, ⟨(action.run s.host).2, s.bindings⟩) := rfl
  rw [whole, run]

def Failure.isMisplaced : Failure → Bool
  | .mustBeValue _ | .noValue _ => true
  | _ => false

def Failure.isReserved : Failure → Bool
  | .mustBeValue _ | .noValue _ | .unknownVariable _ => true
  | _ => false

theorem freePlaced {failure : Failure} (free : failure.isReserved = false) : failure.isMisplaced = false := by
  cases failure with
  | mustBeValue | noValue => cases free
  | _ => rfl

/- A property of actions that the steps of function bodies have, apart from those on variables, and that
chains of actions keep. -/
structure Quiet (P : (α : Type) → Running α → Prop) : Prop where
  gives : ∀ {α : Type} (a : α), P α (pure a)
  fails : ∀ {α : Type} (failure : Failure), failure.isReserved = false → P α (throw failure)
  chains : ∀ {α β : Type} {x : Running α} {f : α → Running β}, P α x → (∀ a, P β (f a)) → P β (x >>= f)
  logs : ∀ level message, P Unit (onHost (record .script level message))

structure Lasting (P : (α : Type) → Running α → Prop) : Prop extends Quiet P where
  reads : ∀ name, P Value (variableValue name)
  writes : ∀ name v, P Unit (assign name v)

def Looks (tree : FileTree) (env : Environment) (admitted : Body → Prop) (P : (α : Type) → Running α → Prop) :
    Prop :=
  ∀ {α : Type} (name : String) (f : Option Function → Running α),
    (∀ found, (∀ g, found = some g → admitted g.body) → P α (f found)) →
      P α (onHost (lookup tree name env) >>= f)

def Defines (ambient env : Environment) (P : (α : Type) → Running α → Prop) : Prop :=
  ∀ d : Definition, d.environment = .environment env.name → P Function (onHost (define ambient d))

structure Enduring (around : Surroundings) (env : Environment) (admitted : Body → Prop)
    (P : (α : Type) → Running α → Prop) : Prop extends Lasting P where
  throws : ∀ {α : Type} (failure : Failure), P α (throw failure)
  defines : admitted .defineConstant → Defines around.ambient env P
  looks : Looks around.tree env admitted P

def Surroundings.environment (around : Surroundings) (scope : Option Scope) : Environment :=
  scope.elim around.ambient Scope.environment

variable {P : (α : Type) → Running α → Prop} {admitted : Body → Prop} {around : Surroundings}
  {scope : Option Scope} {args : Arguments}

theorem fallibleLasts {α : Type} (quiet : Quiet P) (result : Except Fault α) : P α (fallible result) := by
  cases result with
  | ok a => exact quiet.gives a
  | error f => exact quiet.fails _ rfl

theorem reportingLasts {α : Type} (quiet : Quiet P) (function : String) (result : Except Fault α) :
    P α (reporting function result) := by
  cases result with
  | ok a => exact quiet.gives a
  | error f =>
    refine quiet.fails _ ?_
    unfold reportedBy
    split <;> rfl

theorem needScopeLasts {α : Type} (quiet : Quiet P) {field : String} {f : Scope → Running α}
    (rest : ∀ s, scope = some s → P α (f s)) : P α (fallible (needScope scope field) >>= f) := by
  cases scope with
  | none => exact quiet.fails _ rfl
  | some s => exact rest s rfl

/- One case for each body; those that touch variables, look names up or define functions have to be allowed
to. -/
theorem bodyLasts (admitted : Body → Prop) (quiet : Quiet P) {body : Body}
    (reads : body = .readVariable → ∀ name, P Value (variableValue name))
    (writes : body = .writeVariable → ∀ name v, P Unit (assign name v))
    (defines : body = .defineConstant → Defines around.ambient (around.environment scope) P)
    (looks : body = .defined → Looks around.tree (around.environment scope) admitted P) :
    P Value (body.act around scope args) := by
  cases body with
  | arguments | sequence | count | delegate | constant | ambientName => exact quiet.gives _
  | environmentName => cases scope <;> exact quiet.gives _
  | first | multiple | mean => exact fallibleLasts quiet _
  | joined | digest => exact quiet.chains (fallibleLasts quiet _) (fun _ => quiet.gives _)
  | sameRegistry => exact quiet.chains (fallibleLasts quiet _) (fun _ => quiet.gives _)
  | readVariable =>
    exact quiet.chains (fallibleLasts quiet _) (fun _ =>
      quiet.chains (fallibleLasts quiet _) (fun _ => reads rfl _))
  | writeVariable =>
    refine quiet.chains (fallibleLasts quiet _) (fun _ => quiet.chains (fallibleLasts quiet _) ?_)
    refine fun _ => quiet.chains (fallibleLasts quiet _) (fun _ => ?_)
    refine quiet.chains (fallibleLasts quiet _) ?_
    exact fun _ => quiet.chains (writes rfl _ _) (fun _ => quiet.gives _)
  | defineConstant =>
    refine needScopeLasts quiet (fun s same => quiet.chains (fallibleLasts quiet _) (fun name => ?_))
    refine quiet.chains (fallibleLasts quiet _) (fun v => quiet.chains (fallibleLasts quiet _) (fun kind => ?_))
    rw [same] at defines
    exact quiet.chains (defines rfl _ rfl) (fun _ => quiet.gives _)
  | raiseReport | crash => exact quiet.fails _ rfl
  | log =>
    refine quiet.chains (fallibleLasts quiet _) (fun _ => quiet.chains (quiet.logs _ _) ?_)
    exact fun _ => quiet.gives _
  | defined =>
    refine quiet.chains (fallibleLasts quiet _) (fun name => ?_)
    cases scope <;> exact looks rfl name _ (fun _ _ => quiet.gives _)
  | fail => exact quiet.chains (fallibleLasts quiet _) (fun _ => quiet.fails _ rfl)
  | safeDivide => exact quiet.chains (reportingLasts quiet _ _) (fun _ => quiet.gives _)
  | split =>
    refine quiet.chains (fallibleLasts quiet _) (fun _ => quiet.chains (fallibleLasts quiet _) ?_)
    exact fun _ => quiet.chains (fallibleLasts quiet _) (fun _ => quiet.gives _)
  | format =>
    refine quiet.chains (fallibleLasts quiet _) (fun _ => quiet.chains (reportingLasts quiet _ _) ?_)
    exact fun _ => quiet.gives _

theorem checkLasts (quiet : Quiet P) (f : Function) (given : Nat) :
    P Unit (call.liftExcept (f.check given)) := by
  unfold Function.check
  split
  · exact quiet.gives _
  · split <;> exact quiet.fails _ rfl

theorem callLasts (around : Surroundings) (scope : Option Scope) (lasting : Lasting P) {env : Environment}
    (here : around.environment scope = env)
    (defines : admitted .defineConstant → Defines around.ambient env P)
    (looks : admitted .defined ∨ admitted .delegate → Looks around.tree env admitted P) {tuple : Bool}
    (values : List Value) {f : Function} (allowed : admitted f.body) :
    P Value (call around scope tuple values f) := by
  subst here
  have acts : ∀ {body args}, admitted body → P Value (body.act around scope args) := by
    intro body args allowed
    refine bodyLasts admitted lasting.toQuiet (fun _ => lasting.reads) (fun _ => lasting.writes) ?_ ?_
    · rintro rfl
      exact defines allowed
    · rintro rfl
      exact looks (.inl allowed)
  induction values generalizing f with
  | nil =>
    rw [call]
    refine lasting.chains (checkLasts lasting.toQuiet f 0) (fun _ => ?_)
    split
    · exact lasting.chains (fallibleLasts lasting.toQuiet _) (fun _ => fallibleLasts lasting.toQuiet _)
    · exact acts allowed
  | cons v rest ih =>
    rw [call]
    refine lasting.chains (checkLasts lasting.toQuiet f (rest.length + 1)) (fun _ => ?_)
    split
    · rename_i delegates
      rw [delegates] at allowed
      refine needScopeLasts lasting.toQuiet (fun s same => ?_)
      refine lasting.chains (fallibleLasts lasting.toQuiet _) (fun name => ?_)
      rw [same] at looks
      refine looks (.inr allowed) name _ (fun found admits => ?_)
      cases found with
      | none => exact lasting.fails _ rfl
      | some g => exact ih (admits g rfl)
    · exact acts allowed

theorem throwBind {α β : Type} (failure : Failure) (f : α → Running β) :
    (throw failure : Running α) >>= f = throw failure := rfl

theorem applyOperatorFree {op : Operator} {a b : Value} {failure : Failure}
    (fails : applyOperator op a b = .error failure) : failure.isReserved = false := by
  unfold applyOperator at fails
  split at fails
  · cases fails
  · split at fails
    · split at fails <;> cases fails <;> rfl
    · cases fails
      rfl

theorem applyUnaryFree {op : UnaryOperator} {v : Value} {failure : Failure}
    (fails : applyUnary op v = .error failure) : failure.isReserved = false := by
  unfold applyUnary at fails
  split at fails
  · split at fails
    · cases fails
    · split at fails <;> cases fails <;> rfl
  · cases fails
  · cases fails
    rfl

theorem attemptLasts {α : Type} (lasting : Lasting P) {result : Except Failure α}
    (free : ∀ failure, result = .error failure → failure.isReserved = false) : P α (attempt result) := by
  cases result with
  | ok a => exact lasting.gives a
  | error failure => exact lasting.fails failure (free failure rfl)

section Evaluation

variable {within : Scope}

theorem calleeLasts {α : Type} (around : Surroundings) (within : Scope)
    (looks : Looks around.tree within.environment admitted P) (throws : ∀ failure, P α (throw failure))
    {name : String} {statement : Bool} {f : Function → Running α} (rest : ∀ g, admitted g.body → P α (f g)) :
    P α (resolveCall around within name statement >>= f) := by
  unfold resolveCall
  rw [bind_assoc]
  refine looks name _ (fun found admits => ?_)
  cases found with
  | none =>
    rw [throwBind]
    exact throws _
  | some g =>
    dsimp only
    split
    · rw [throwBind]
      exact throws _
    · split
      · rw [throwBind]
        exact throws _
      · rw [pure_bind]
        exact rest g (admits g rfl)

variable (enduring : Enduring around within.environment admitted P)

include enduring

mutual

theorem evaluationLasts : ∀ node : Node, P Value (evaluate around within node)
  | .program statements => by
    rw [evaluate]
    exact sequenceLasts .null statements
  | .assignment name value => by
    rw [evaluate]
    exact enduring.chains (evaluationLasts value) (fun v =>
      enduring.chains (enduring.writes name v) (fun _ => enduring.gives v))
  | .literal leaf => by
    rw [evaluate]
    exact enduring.gives _
  | .variable name => by
    rw [evaluate]
    exact enduring.reads name
  | .list items => by
    rw [evaluate]
    exact enduring.chains (evaluationsLast items) (fun _ => enduring.gives _)
  | .unary op operand => by
    rw [evaluate]
    exact enduring.chains (evaluationLasts operand) (fun _ =>
      attemptLasts enduring.toLasting (fun _ => applyUnaryFree))
  | .binary op left right => by
    rw [evaluate]
    refine enduring.chains (evaluationLasts left) (fun a => ?_)
    have second {β : Type} {f : Value → Running β} (rest : ∀ b, P β (f b)) :
        P β (evaluate around within right >>= f) := enduring.chains (evaluationLasts right) rest
    split
    · split
      · exact second (fun _ => enduring.gives _)
      · exact enduring.gives _
    · split
      · exact enduring.gives _
      · exact second (fun _ => enduring.gives _)
    · exact second (fun _ => attemptLasts enduring.toLasting (fun _ => applyOperatorFree))
  | .call name args statement => by
    rw [evaluate]
    refine calleeLasts around within enduring.looks enduring.throws (fun f allowed => ?_)
    exact enduring.chains (evaluationsLast args) (fun values =>
      callLasts around (some within) enduring.toLasting rfl enduring.defines (fun _ => enduring.looks) values allowed)
  | .foreign v => by
    rw [evaluate]
    exact enduring.throws _

theorem evaluationsLast : ∀ nodes : List Node, P (List Value) (evaluateAll around within nodes)
  | [] => by
    rw [evaluateAll]
    exact enduring.gives _
  | node :: rest => by
    rw [evaluateAll]
    exact enduring.chains (evaluationLasts node) (fun _ =>
      enduring.chains (evaluationsLast rest) (fun _ => enduring.gives _))

theorem sequenceLasts (last : Value) : ∀ nodes : List Node, P Value (evaluateInOrder around within last nodes)
  | [] => by
    rw [evaluateInOrder]
    exact enduring.gives _
  | node :: rest => by
    rw [evaluateInOrder]
    exact enduring.chains (evaluationLasts node) (fun v => sequenceLasts v rest)

end

end Evaluation

end CallScript
