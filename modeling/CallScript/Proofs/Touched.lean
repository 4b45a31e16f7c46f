import CallScript.Proofs.Definitions
import CallScript.Proofs.Loads
import CallScript.Proofs.Mentions
import CallScript.Proofs.Outside

/-! What an evaluation touches, against the analysis of its script: the variables that it changes are among those
the script assigns, the names that it asks the registry for among those the script calls, and a variable that it
misses among those the script reads. This holds at every point where an evaluation can end, as long as the
functions that are called keep to their arguments. -/
namespace CallScript

open Syntax (Node Tree Operator allSubtrees)

variable {α β : Type}

def Free {σ : Type} (x : ExceptT Failure (StateM σ) α) : Prop :=
  ∀ s failure, (x.run s).1 = .error failure → failure.isReserved = false

section Freedom

variable {σ : Type}

theorem freePure (a : α) : Free (pure a : ExceptT Failure (StateM σ) α) := by
  rintro _ _ ⟨⟩

theorem freeThrow {failure : Failure} (free : failure.isReserved = false) :
    Free (throw failure : ExceptT Failure (StateM σ) α) := by
  rintro _ _ ⟨⟩
  exact free

theorem freeBind {x : ExceptT Failure (StateM σ) α} {f : α → ExceptT Failure (StateM σ) β} (first : Free x)
    (rest : ∀ a, Free (f a)) : Free (x >>= f) := by
  intro s failure fails
  rw [runBind] at fails
  generalize ran : x.run s = outcome at fails
  obtain ⟨result | a, t⟩ := outcome
  · cases fails
    exact first s failure (by rw [ran])
  · exact rest a t failure fails

theorem freeTry {x : ExceptT Failure (StateM σ) α} {f : Failure → ExceptT Failure (StateM σ) α}
    (handled : ∀ failure, Free (f failure)) : Free (tryCatch x f) := by
  intro s failure fails
  rw [runTry] at fails
  generalize x.run s = outcome at fails
  obtain ⟨result | a, t⟩ := outcome
  · exact handled result t failure fails
  · cases fails

theorem freeState (f : σ → σ) : Free (modify f : ExceptT Failure (StateM σ) Unit) := by
  rintro _ _ ⟨⟩

end Freedom

theorem freeQuiet : Quiet (fun _ x => Free x) where
  gives := freePure
  fails _ := freeThrow
  chains := freeBind
  logs _ _ := by rintro _ _ ⟨⟩

theorem requestedFree {d : Definition} {ambient : Environment} {failure : Failure}
    (refused : d.requested ambient = .error failure) : failure.isReserved = false := by
  revert refused
  unfold Definition.requested
  cases d.name.plain with
  | error => rintro ⟨⟩; rfl
  | ok name =>
    cases FunctionKind.ofValue? d.kind with
    | none => cases d.kind.shown <;> rintro ⟨⟩ <;> rfl
    | some kind =>
      cases arityOfValue d.arity with
      | error => rintro ⟨⟩; rfl
      | ok arity => cases Environment.ofValue ambient d.environment <;> rintro ⟨⟩; rfl

theorem defineFree (ambient : Environment) (d : Definition) : Free (define ambient d) := by
  intro h failure fails
  rw [defineRun] at fails
  generalize requested : d.requested ambient = wanted at fails
  cases wanted with
  | error => cases fails; exact requestedFree requested
  | ok => cases fails

theorem executeFree (tree : FileTree) (env : Environment) (depth : Nat) (name : String) (path : Path) :
    Free (executeFound tree env depth name path) := by
  refine freeBind (freeState _) (fun _ => freeBind (freeTry (fun cause => freeThrow rfl)) (fun _ => ?_))
  refine freeBind (freeState _) (fun _ h failure => ?_)
  rw [runGet]
  split
  · exact freeBind (freeState _) (fun _ => freePure _) h failure
  · exact freePure _ h failure

theorem loadFree (tree : FileTree) (name : String) (env : Environment) : Free (load tree name env) := by
  intro h failure
  rw [load, runGet]
  cases h.registry.gateway with
  | files loader =>
    dsimp only
    rw [loadFileErrand]
    cases loader.errand tree env name with
    | nothing => exact freePure _ h failure
    | fail f => exact freeThrow rfl h failure
    | missing => exact freeBind (freeState _) (fun _ => freePure _) h failure
    | execute path => exact executeFree tree env _ name path h failure
  | recording recorder =>
    refine freeBind (freeState _) (fun _ => ?_) h failure
    split
    · exact freePure _
    · exact freeThrow rfl
    · exact freeBind (defineFree _ _) (fun _ => freePure _)

theorem lookupFree (tree : FileTree) (name : String) (env : Environment) : Free (lookup tree name env) := by
  intro h failure
  rw [lookup, runGet]
  cases h.registry.get? name env with
  | some f => exact freePure _ h failure
  | none => exact freeBind (loadFree tree name env) (fun _ => by rintro _ _ ⟨⟩) h failure

theorem onHostFree {action : Hosted α} (free : Free action) : Free (onHost action) :=
  fun s failure fails => free s.host failure fails

section Apart

variable (around : Surroundings) (scope : Scope)

structure Function.Apart (f : Function) : Prop where
  blind : f.Blind around scope
  asksNothing : f.body ≠ .defined
  handsNothing : f.body ≠ .delegate

theorem blindReads {f : Function} (blind : f.Blind around scope) : f.body ≠ .readVariable := by
  intro reads
  obtain ⟨result, after, ran⟩ := blind ⟨[.text "x"], false⟩
    ⟨Registry.withGateway (.files {}), []⟩
  rw [reads] at ran
  have unbound := congrArg Prod.fst (ran ⟨[]⟩)
  have bound := congrArg Prod.fst (ran ⟨[("x", .null)]⟩)
  cases unbound.trans bound.symm

variable {around scope}

theorem apartFree {f : Function} (apart : f.Apart around scope) (args : Arguments) :
    Free (f.body.act around (some scope) args) :=
  bodyLasts (fun _ => True) freeQuiet (fun same => absurd same (blindReads around scope apart.blind))
    (fun _ _ _ => by rintro _ _ ⟨⟩) (fun _ d _ => onHostFree (defineFree _ d))
    (fun same => absurd same apart.asksNothing)

end Apart

structure Watch where
  asked : List String
  assigned : List String

def watching (tree : FileTree) : Outside Watch where
  look name env := ExceptT.mk fun s =>
    let (result, host) := (lookup tree name env).run s.1
    (result, host, { s.2 with asked := s.2.asked ++ [name] })
  note name watch := { watch with assigned := watch.assigned ++ [name] }
  stray failure := throw failure

/- An evaluation of parts of a script has changed no variables but those that the script assigns, has asked for
names that it calls, and leaves nothing unbound that was bound at first or has been assigned since. -/
structure Bounded (whole : Node) (b : Dictionary Value) (s : Run × Watch) : Prop where
  kept : ∀ name, name ∉ whole.assigned → s.1.bindings.get? name = b.get? name
  asked : ∀ name ∈ s.2.asked, name ∈ whole.calls.map Prod.fst
  unbound : ∀ name, s.1.bindings.get? name = none → b.get? name = none ∧ name ∉ s.2.assigned

def Bounds (whole : Node) (b : Dictionary Value) (x : Beside Watch α) (s : Run × Watch) : Prop :=
  Bounded whole b (x.run s).2 ∧ ∀ name, (x.run s).1 = .error (.unknownVariable name) →
    name ∈ whole.reads ∧ (x.run s).2.1.bindings.get? name = none

section Bounding

variable {whole : Node} {b : Dictionary Value} {around : Surroundings} {scope : Scope} {s : Run × Watch}

theorem boundsPure (a : α) (bounded : Bounded whole b s) : Bounds whole b (pure a) s :=
  ⟨bounded, by rintro _ ⟨⟩⟩

theorem boundsThrow {failure : Failure} (free : failure.isReserved = false) (bounded : Bounded whole b s) :
    Bounds whole b (throw failure : Beside Watch α) s :=
  ⟨bounded, by rintro _ ⟨⟩; cases free⟩

theorem boundsChain {x : Beside Watch α} {f : α → Beside Watch β} (first : Bounds whole b x s)
    (rest : ∀ a t, x.run s = (.ok a, t) → Bounded whole b t → Bounds whole b (f a) t) :
    Bounds whole b (x >>= f) s := by
  rw [Bounds, runBind]
  generalize ran : x.run s = outcome
  rw [Bounds, ran] at first
  obtain ⟨failure | a, t⟩ := outcome
  · exact ⟨first.1, fun name missed => first.2 name (by cases missed; rfl)⟩
  · exact rest a t ran first.1

theorem boundsBind {x : Beside Watch α} {f : α → Beside Watch β} (first : Bounds whole b x s)
    (rest : ∀ a t, Bounded whole b t → Bounds whole b (f a) t) : Bounds whole b (x >>= f) s :=
  boundsChain first (fun a t _ bounded => rest a t bounded)

theorem boundsBeside {x : Running α} (unaware : Unaware α x) (free : Free x) (bounded : Bounded whole b s) :
    Bounds whole b (beside x) s := by
  obtain ⟨⟨host, bindings⟩, watch⟩ := s
  obtain ⟨result, after, ran⟩ := unaware host
  rw [Bounds, besideRun, ran]
  refine ⟨⟨bounded.kept, bounded.asked, bounded.unbound⟩, fun name missed => ?_⟩
  cases free ⟨host, bindings⟩ _ ((congrArg Prod.fst (ran bindings)).trans missed)

theorem boundsVariable {name : String} (mem : name ∈ whole.reads) (bounded : Bounded whole b s) :
    Bounds whole b (beside (variableValue name)) s := by
  rw [Bounds, besideRun, variableValue, runGet]
  cases value : s.1.bindings.get? name with
  | some v => exact ⟨bounded, by rintro _ ⟨⟩⟩
  | none => exact ⟨bounded, by rintro _ ⟨⟩; exact ⟨mem, value⟩⟩

theorem boundsAssign {name : String} (mem : name ∈ whole.assigned) (v : Value) (bounded : Bounded whole b s) :
    Bounds whole b (assignWith (watching around.tree) name v) s := by
  have put (other : String) : (s.1.bindings.put name v).get? other =
      if name = other then some v else s.1.bindings.get? other := Dictionary.get?_put _ _ _ _
  refine ⟨⟨fun other unassigned => ?_, bounded.asked, fun other unbound => ?_⟩, by rintro _ ⟨⟩⟩
  · refine (put other).trans ?_
    rw [if_neg (by rintro rfl; exact unassigned mem)]
    exact bounded.kept other unassigned
  · have unbound := (put other).symm.trans unbound
    split at unbound
    · cases unbound
    · rename_i different
      obtain ⟨before, fresh⟩ := bounded.unbound other unbound
      refine ⟨before, fun mem => ?_⟩
      rcases List.mem_append.mp mem with earlier | here
      · exact fresh earlier
      · exact different (List.mem_singleton.mp here).symm

theorem boundsLook {name : String} (env : Environment) (mem : name ∈ whole.calls.map Prod.fst)
    (bounded : Bounded whole b s) : Bounds whole b (onHostBeside ((watching around.tree).look name env)) s := by
  refine ⟨⟨bounded.kept, fun other asked => ?_, bounded.unbound⟩, fun other missed => ?_⟩
  · rcases List.mem_append.mp asked with earlier | here
    · exact bounded.asked other earlier
    · rw [List.mem_singleton.mp here]
      exact mem
  · cases lookupFree around.tree name env s.1.host _ missed

theorem boundsResolve {name : String} {statement : Bool} (mem : name ∈ whole.calls.map Prod.fst)
    (bounded : Bounded whole b s) :
    Bounds whole b (resolveWith (watching around.tree) scope name statement) s := by
  refine boundsBind (boundsLook scope.environment mem bounded) (fun found t bounded => ?_)
  cases found with
  | none => exact boundsThrow rfl bounded
  | some f =>
    dsimp only
    split
    · exact ⟨bounded, by rintro _ ⟨⟩⟩
    · split
      · exact ⟨bounded, by rintro _ ⟨⟩⟩
      · exact boundsPure f bounded

theorem boundsCall {f : Function} (apart : f.Apart around scope) (tuple : Bool) (values : List Value)
    (bounded : Bounded whole b s) :
    Bounds whole b (callWith (watching around.tree) around (some scope) tuple values f) s := by
  have checks (n : Nat) : Bounds whole b (beside (call.liftExcept (f.check n))) s :=
    boundsBeside (checkLasts unawareQuiet f n) (checkLasts freeQuiet f n) bounded
  have acts (args : Arguments) : Body.actWith (watching around.tree) around (some scope) args f.body =
      beside (f.body.act around (some scope) args) := by
    unfold Body.actWith
    split
    · rename_i asks
      exact absurd asks apart.asksNothing
    · rfl
  cases values with
  | nil =>
    rw [callWith]
    refine boundsBind (checks 0) (fun _ t bounded => ?_)
    split
    · rename_i hands
      exact absurd hands apart.handsNothing
    · rw [acts]
      exact boundsBeside (apart.blind _) (apartFree apart _) bounded
  | cons v rest =>
    rw [callWith]
    refine boundsBind (checks _) (fun _ t bounded => ?_)
    split
    · rename_i hands
      exact absurd hands apart.handsNothing
    · rw [acts]
      exact boundsBeside (apart.blind _) (apartFree apart _) bounded

end Bounding

section Evaluation

variable {whole : Node} {b : Dictionary Value} {around : Surroundings} {scope : Scope}

theorem watchingTracks (around : Surroundings) : Tracks (watching around.tree) around.tree Follows :=
  followsTracks (fun _ _ _ _ => ⟨_, rfl⟩)

theorem watchingStrays (nodes : List Node) : (watching around.tree).Strays Follows nodes :=
  fun _ _ _ _ _ aside => ⟨aside, rfl⟩

theorem watchingFollows (node : Node) :
    Follows Value (evaluateWith (watching around.tree) around scope node) (evaluate around scope node) :=
  evaluationTracks (watchingTracks around) scope node (watchingStrays _)

theorem followsRan {x : Beside Watch α} {y : Running α} (follows : Follows α x y) {s t : Run × Watch}
    {result : Except Failure α} (ran : x.run s = (result, t)) : y.run s.1 = (result, t.1) := by
  obtain ⟨run, aside⟩ := s
  obtain ⟨after, same⟩ := follows run aside
  rw [ran] at same
  cases same
  rfl

theorem attemptBounds {result : Except Failure α} {s : Run × Watch}
    (free : ∀ failure, result = .error failure → failure.isReserved = false) (bounded : Bounded whole b s) :
    Bounds whole b (beside (attempt result)) s := by
  refine boundsBeside (attemptUnaware result) ?_ bounded
  cases result with
  | ok a => exact freePure a
  | error failure => exact freeThrow (free failure rfl)

mutual

theorem evaluationBounds : ∀ (node : Node) {s : Run × Watch}, node.subtrees ⊆ whole.subtrees →
    Bounded whole b s → (∀ f, Calls around scope node s.1 f → f.Apart around scope) →
      Bounds whole b (evaluateWith (watching around.tree) around scope node) s
  | .program statements, s, part, bounded, apart => by
    rw [evaluateWith]
    exact sequenceBounds .null statements (List.cons_subset.mp part).2 bounded
      (fun f inside => apart f (.program inside))
  | .assignment name value, s, part, bounded, apart => by
    obtain ⟨here, inside⟩ := List.cons_subset.mp part
    rw [evaluateWith]
    have inner := evaluationBounds value inside bounded (fun f inside => apart f (.assignment inside))
    refine boundsBind inner (fun v t bounded => ?_)
    have mem : name ∈ whole.assigned := List.mem_filterMap.mpr ⟨_, here, rfl⟩
    exact boundsBind (boundsAssign mem v bounded) (fun _ t bounded => boundsPure v bounded)
  | .literal leaf, s, _, bounded, _ => by
    rw [evaluateWith]
    exact boundsPure _ bounded
  | .variable name, s, part, bounded, _ => by
    rw [evaluateWith]
    exact boundsVariable (List.mem_filterMap.mpr ⟨_, part List.mem_cons_self, rfl⟩) bounded
  | .list items, s, part, bounded, apart => by
    rw [evaluateWith]
    have inner := evaluationsBound items (List.cons_subset.mp part).2 bounded (fun f inside => apart f (.list inside))
    exact boundsBind inner (fun _ t bounded => boundsPure _ bounded)
  | .unary op operand, s, part, bounded, apart => by
    rw [evaluateWith]
    have inner := evaluationBounds operand (List.cons_subset.mp part).2 bounded
      (fun f inside => apart f (.unary inside))
    refine boundsBind inner (fun v t bounded => ?_)
    cases op with
    | unknown symbol => exact boundsThrow rfl bounded
    | _ => exact attemptBounds (fun _ => applyUnaryFree) bounded
  | .binary op left right, s, part, bounded, apart => by
    obtain ⟨partLeft, partRight⟩ := List.append_subset.mp (List.cons_subset.mp part).2
    rw [evaluateWith]
    have first := evaluationBounds left partLeft bounded (fun f inside => apart f (.first inside))
    refine boundsChain first (fun a s₁ ran bounded => ?_)
    have second {f : Value → Beside Watch Value} (onward : op.goesOn a = true)
        (rest : ∀ v t, Bounded whole b t → Bounds whole b (f v) t) :
        Bounds whole b (evaluateWith (watching around.tree) around scope right >>= f) s₁ := by
      have ran := followsRan (watchingFollows left) ran
      exact boundsBind (evaluationBounds right partRight bounded
        (fun f inside => apart f (.second ran onward inside))) rest
    cases op with
    | both =>
      dsimp only
      split
      · rename_i holds
        exact second holds (fun _ t bounded => boundsPure _ bounded)
      · exact boundsPure _ bounded
    | either =>
      dsimp only
      split
      · exact boundsPure _ bounded
      · rename_i fails
        exact second (by simpa [Operator.goesOn] using fails) (fun _ t bounded => boundsPure _ bounded)
    | unknown symbol => exact second rfl (fun _ t bounded => boundsThrow rfl bounded)
    | _ => exact second rfl (fun _ t bounded => attemptBounds (fun _ => applyOperatorFree) bounded)
  | .call name args statement, s, part, bounded, apart => by
    obtain ⟨here, inside⟩ := List.cons_subset.mp part
    rw [evaluateWith]
    have mem : name ∈ whole.calls.map Prod.fst :=
      List.mem_map.mpr ⟨(name, statement), List.mem_filterMap.mpr ⟨_, here, rfl⟩, rfl⟩
    refine boundsChain (boundsResolve mem bounded) (fun f s₁ ran bounded => ?_)
    have resolved := followsRan (resolveTracks (watchingTracks around) scope name statement) ran
    have inner := evaluationsBound args inside bounded (fun g inside => apart g (.argument resolved inside))
    refine boundsChain inner (fun values s₂ ran bounded => ?_)
    have ran := followsRan (evaluationsTrack (watchingTracks around) scope args (watchingStrays _)) ran
    exact boundsCall (apart f (.callee resolved ran .itself)) false values bounded
  | .foreign v, s, _, bounded, _ => by
    rw [evaluateWith]
    exact boundsThrow rfl bounded

theorem evaluationsBound : ∀ (nodes : List Node) {s : Run × Watch}, allSubtrees nodes ⊆ whole.subtrees →
    Bounded whole b s → (∀ f, CallsAmong around scope nodes s.1 f → f.Apart around scope) →
      Bounds whole b (evaluateAllWith (watching around.tree) around scope nodes) s
  | [], s, _, bounded, _ => by
    rw [evaluateAllWith]
    exact boundsPure _ bounded
  | node :: rest, s, part, bounded, apart => by
    obtain ⟨partHead, partTail⟩ := List.append_subset.mp part
    rw [evaluateAllWith]
    have first := evaluationBounds node partHead bounded (fun f inside => apart f (.head inside))
    refine boundsChain first (fun v s₁ ran bounded => ?_)
    have ran := followsRan (watchingFollows node) ran
    exact boundsBind (evaluationsBound rest partTail bounded (fun f inside => apart f (.tail ran inside)))
      (fun _ t bounded => boundsPure _ bounded)

theorem sequenceBounds (last : Value) : ∀ (nodes : List Node) {s : Run × Watch},
    allSubtrees nodes ⊆ whole.subtrees → Bounded whole b s →
    (∀ f, CallsAmong around scope nodes s.1 f → f.Apart around scope) →
      Bounds whole b (evaluateInOrderWith (watching around.tree) around scope last nodes) s
  | [], s, _, bounded, _ => by
    rw [evaluateInOrderWith]
    exact boundsPure _ bounded
  | node :: rest, s, part, bounded, apart => by
    obtain ⟨partHead, partTail⟩ := List.append_subset.mp part
    rw [evaluateInOrderWith]
    have first := evaluationBounds node partHead bounded (fun f inside => apart f (.head inside))
    refine boundsChain first (fun v s₁ ran bounded => ?_)
    have ran := followsRan (watchingFollows node) ran
    exact sequenceBounds v rest partTail bounded (fun f inside => apart f (.tail ran inside))

end

/- What an evaluation touches is within what the analysis of its script mentions. -/
theorem touchedMentioned {host : Host} {b : Dictionary Value} {node : Node}
    (apart : ∀ f, Calls around scope node ⟨host, b⟩ f → f.Apart around scope) :
    let analysis := analyze host.registry scope.environment node
    let completion := runOn around scope host b node
    ∃ watch, (evaluateWith (watching around.tree) around scope node).run (⟨host, b⟩, ⟨[], []⟩) =
        (completion.result, ⟨completion.host, completion.bindings⟩, watch) ∧
      (∀ name, name ∉ analysis.assigned → completion.bindings.get? name = b.get? name) ∧
      (∀ name ∈ watch.asked, name ∈ analysis.functions) ∧
      ∀ name, completion.result = .error (.unknownVariable name) →
        name ∈ analysis.reads ∧ b.get? name = none ∧ name ∉ watch.assigned := by
  intro analysis completion
  have beginning : Bounded node b (⟨host, b⟩, ⟨[], []⟩) :=
    ⟨fun _ _ => rfl, fun _ none => absurd none List.not_mem_nil, fun _ unbound => ⟨unbound, List.not_mem_nil⟩⟩
  have bounds := evaluationBounds node (List.Subset.refl _) beginning apart
  have follows : Follows Value (evaluateWith (watching around.tree) around scope node) (evaluate around scope node) :=
    watchingFollows node
  obtain ⟨watch, ran⟩ := follows ⟨host, b⟩ ⟨[], []⟩
  rw [Bounds, ran] at bounds
  obtain ⟨bounded, misses⟩ := bounds
  refine ⟨watch, ran, fun name unassigned => ?_, fun name asked => ?_, fun name missed => ?_⟩
  · exact bounded.kept name (fun mem => unassigned (memSortedNames.mpr mem))
  · exact memSortedNames.mpr (bounded.asked name asked)
  · obtain ⟨mem, unbound⟩ := misses name missed
    exact ⟨memSortedNames.mpr mem, bounded.unbound name unbound⟩

end Evaluation

theorem relayedTouches :
    let around : Surroundings := ⟨FileTree.installed, Environment.root⟩
    let scope : Scope := ⟨⟨"web"⟩, true⟩
    let host : Host := ⟨Registry.withGateway (.files {}), []⟩
    let b : Dictionary Value := ⟨[("x", .int 1), ("z", .int 5)]⟩
    (∀ f, Calls around scope relaying ⟨host, b⟩ f → f.Apart around scope) ∧
      let analysis := analyze host.registry scope.environment relaying
      let completion := runOn around scope host b relaying
      ∃ watch, (evaluateWith (watching around.tree) around scope relaying).run (⟨host, b⟩, ⟨[], []⟩) =
          (completion.result, ⟨completion.host, completion.bindings⟩, watch) ∧
        (∀ name, name ∉ analysis.assigned → completion.bindings.get? name = b.get? name) ∧
        (∀ name ∈ watch.asked, name ∈ analysis.functions) ∧
        ∀ name, completion.result = .error (.unknownVariable name) →
          name ∈ analysis.reads ∧ b.get? name = none ∧ name ∉ watch.assigned := by
  intro around scope host b
  have apart : ∀ f, Calls around scope relaying ⟨host, b⟩ f → f.Apart around scope := by
    intro f calls
    have same : f = logFunction .info := relayingCalls rfl rfl (by rintro ⟨⟩) rfl calls
    rw [same]
    exact ⟨otherBlind around scope (by rintro ⟨⟩) (by rintro ⟨⟩), by rintro ⟨⟩, by rintro ⟨⟩⟩
  exact ⟨apart, touchedMentioned apart⟩

end CallScript
