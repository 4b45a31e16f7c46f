import CallScript.Proofs.Accepted
import CallScript.Proofs.Mentions

/-! Where things occur in a tree, and what the analysis of a script finds. An occurrence is given by its place, the
number of the part that one goes down into at each step from the root. Places are ordered as their numbers read from
the left, which puts a node before its parts and one part before the next. In the tree of a script this is the order
of the source. -/
namespace CallScript.Syntax

section Places

variable {α β γ : Type}

def Tree.parts : Tree α → List (Tree α)
  | .program statements => statements
  | .assignment _ value => [value]
  | .literal _ | .variable _ | .foreign _ => []
  | .list items => items
  | .unary _ operand => [operand]
  | .binary _ left right => [left, right]
  | .call _ args _ => args

inductive Tree.Occurs : Tree α → List Nat → Tree α → Prop where
  | here {tree} : Occurs tree [] tree
  | inside {tree part found i place} (nth : tree.parts[i]? = some part) (inner : part.Occurs place found) :
      Occurs tree (i :: place) found

/- The list of what a relation puts at places: an entry for each place that has one, in the order of the places. -/
def Placed (R : List Nat → β → Prop) (found : List β) : Prop :=
  ∃ entries : List (List Nat × β), (entries.map Prod.fst).Pairwise (· < ·) ∧ entries.map Prod.snd = found ∧
    ∀ place x, (place, x) ∈ entries ↔ R place x

theorem placedMem {R : List Nat → β → Prop} {found : List β} (placed : Placed R found) {x : β} :
    x ∈ found ↔ ∃ place, R place x := by
  obtain ⟨entries, -, rfl, holds⟩ := placed
  rw [List.mem_map]
  constructor
  · rintro ⟨⟨place, y⟩, mem, rfl⟩
    exact ⟨place, (holds place y).mp mem⟩
  · rintro ⟨place, related⟩
    exact ⟨(place, x), (holds place x).mpr related, rfl⟩

theorem placedSame {R S : List Nat → β → Prop} {found : List β} (placed : Placed R found)
    (same : ∀ place x, R place x ↔ S place x) : Placed S found := by
  obtain ⟨entries, sorted, whole, holds⟩ := placed
  exact ⟨entries, sorted, whole, fun place x => (holds place x).trans (same place x)⟩

theorem placedNone {R : List Nat → β → Prop} (none : ∀ place x, ¬ R place x) : Placed R [] :=
  ⟨[], .nil, rfl, fun place x => ⟨fun mem => (List.not_mem_nil mem).elim, fun related => (none place x related).elim⟩⟩

theorem placedAppend {R S : List Nat → β → Prop} {first second : List β} (former : Placed R first)
    (latter : Placed S second) (before : ∀ p x q y, R p x → S q y → p < q) :
    Placed (fun place x => R place x ∨ S place x) (first ++ second) := by
  obtain ⟨entries, sorted, rfl, holds⟩ := former
  obtain ⟨entries', sorted', rfl, holds'⟩ := latter
  refine ⟨entries ++ entries', ?_, List.map_append, fun place x => ?_⟩
  · rw [List.map_append, List.pairwise_append]
    refine ⟨sorted, sorted', fun p mem q mem' => ?_⟩
    obtain ⟨entry, listed, rfl⟩ := List.mem_map.mp mem
    obtain ⟨entry', listed', rfl⟩ := List.mem_map.mp mem'
    exact before _ _ _ _ ((holds entry.1 entry.2).mp listed) ((holds' entry'.1 entry'.2).mp listed')
  · rw [List.mem_append, holds, holds']

theorem placedUnder {R : List Nat → β → Prop} {found : List β} (placed : Placed R found) (n : Nat) :
    Placed (fun place x => ∃ rest, place = n :: rest ∧ R rest x) found := by
  obtain ⟨entries, sorted, rfl, holds⟩ := placed
  refine ⟨entries.map (fun entry => (n :: entry.1, entry.2)), ?_, ?_, fun place x => ?_⟩
  · rw [List.map_map]
    rw [List.pairwise_map] at sorted ⊢
    exact sorted.imp (fun less => List.cons_lt_cons_iff.mpr (.inr ⟨rfl, less⟩))
  · rw [List.map_map]
    rfl
  · rw [List.mem_map]
    constructor
    · rintro ⟨⟨rest, y⟩, mem, same⟩
      cases same
      exact ⟨rest, rfl, (holds rest y).mp mem⟩
    · rintro ⟨rest, rfl, related⟩
      exact ⟨(rest, x), (holds rest x).mpr related, rfl⟩

theorem placedFilter {R : List Nat → β → Prop} {found : List β} (placed : Placed R found) (view : β → Option γ) :
    Placed (fun place y => ∃ x, R place x ∧ view x = some y) (found.filterMap view) := by
  obtain ⟨entries, sorted, rfl, holds⟩ := placed
  refine ⟨entries.filterMap (fun entry => (view entry.2).map (fun y => (entry.1, y))), ?_, ?_, fun place y => ?_⟩
  · rw [List.pairwise_map] at sorted ⊢
    rw [List.pairwise_filterMap]
    refine sorted.imp (fun {entry entry'} less kept seen kept' seen' => ?_)
    obtain ⟨y, -, rfl⟩ := Option.map_eq_some_iff.mp seen
    obtain ⟨y', -, rfl⟩ := Option.map_eq_some_iff.mp seen'
    exact less
  · rw [List.map_filterMap, List.filterMap_map]
    refine List.filterMap_congr (fun entry _ => ?_)
    rw [Function.comp_apply, Option.map_map]
    exact Option.map_id'
  · rw [List.mem_filterMap]
    constructor
    · rintro ⟨⟨p, x⟩, mem, seen⟩
      obtain ⟨z, viewed, same⟩ := Option.map_eq_some_iff.mp seen
      cases same
      exact ⟨x, (holds p x).mp mem, viewed⟩
    · rintro ⟨x, related, viewed⟩
      exact ⟨(place, x), (holds place x).mpr related, by rw [viewed]; rfl⟩

theorem subtreesParts (tree : Tree α) : tree.subtrees = tree :: allSubtrees tree.parts := by
  cases tree with
  | assignment | unary | binary => simp only [Tree.subtrees, Tree.parts, allSubtrees, List.append_nil]
  | _ => rfl

theorem partSmaller {tree part : Tree α} (mem : part ∈ tree.parts) : sizeOf part < sizeOf tree := by
  cases tree with
  | program trees | list trees | call _ trees _ =>
    have smaller : sizeOf part < sizeOf trees := List.sizeOf_lt_of_mem mem
    simp only [Tree.program.sizeOf_spec, Tree.list.sizeOf_spec, Tree.call.sizeOf_spec]
    omega
  | assignment | unary | binary =>
    simp only [Tree.parts, List.mem_cons, List.not_mem_nil, or_false] at mem
    rcases mem with rfl | rfl <;> decreasing_tactic
  | literal | «variable» | foreign => cases mem

theorem partsInduction {P : Tree α → Prop} (step : ∀ tree, (∀ part ∈ tree.parts, P part) → P tree) (tree : Tree α) :
    P tree :=
  step tree (fun part mem =>
    have : sizeOf part < sizeOf tree := partSmaller mem
    partsInduction step part)
termination_by sizeOf tree

def OccursAmong (n : Nat) (trees : List (Tree α)) (place : List Nat) (found : Tree α) : Prop :=
  ∃ i part rest, trees[i]? = some part ∧ place = (n + i) :: rest ∧ part.Occurs rest found

theorem amongCons {n : Nat} {tree : Tree α} {trees : List (Tree α)} {place : List Nat} {found : Tree α} :
    OccursAmong n (tree :: trees) place found ↔
      (∃ rest, place = n :: rest ∧ tree.Occurs rest found) ∨ OccursAmong (n + 1) trees place found := by
  constructor
  · rintro ⟨_ | i, part, rest, nth, rfl, inner⟩
    · cases nth
      exact .inl ⟨rest, rfl, inner⟩
    · exact .inr ⟨i, part, rest, nth, by rw [Nat.add_right_comm, Nat.add_assoc], inner⟩
  · rintro (⟨rest, rfl, inner⟩ | ⟨i, part, rest, nth, rfl, inner⟩)
    · exact ⟨0, tree, rest, rfl, rfl, inner⟩
    · exact ⟨i + 1, part, rest, nth, by rw [Nat.add_right_comm, Nat.add_assoc], inner⟩

theorem occursHere {tree : Tree α} {place : List Nat} {found : Tree α} :
    tree.Occurs place found ↔ (place = [] ∧ found = tree) ∨ OccursAmong 0 tree.parts place found := by
  constructor
  · rintro (_ | ⟨nth, inner⟩)
    · exact .inl ⟨rfl, rfl⟩
    · exact .inr ⟨_, _, _, nth, by rw [Nat.zero_add], inner⟩
  · rintro (⟨rfl, rfl⟩ | ⟨i, part, rest, nth, rfl, inner⟩)
    · exact .here
    · rw [Nat.zero_add]
      exact .inside nth inner

theorem allSubtreesPlaced {trees : List (Tree α)} (each : ∀ tree ∈ trees, Placed tree.Occurs tree.subtrees) (n : Nat) :
    Placed (OccursAmong n trees) (allSubtrees trees) := by
  induction trees generalizing n with
  | nil => exact placedNone (fun place found ⟨_, _, _, nth, _⟩ => nomatch nth)
  | cons tree trees ih =>
    obtain ⟨first, rest⟩ := List.forall_mem_cons.mp each
    refine placedSame (placedAppend (placedUnder first n) (ih rest (n + 1)) ?_) (fun _ _ => amongCons.symm)
    rintro _ _ _ _ ⟨_, rfl, -⟩ ⟨i, _, _, -, rfl, -⟩
    exact List.cons_lt_cons_iff.mpr (.inl (by omega))

theorem subtreesPlaced (tree : Tree α) : Placed tree.Occurs tree.subtrees := by
  induction tree using partsInduction with
  | step tree ih =>
    have root : Placed (fun place found => place = [] ∧ found = tree) [tree] :=
      ⟨[([], tree)], List.pairwise_singleton _ _, rfl, by simp⟩
    rw [subtreesParts]
    refine placedSame (placedAppend root (allSubtreesPlaced ih 0) ?_) (fun _ _ => occursHere.symm)
    rintro _ _ _ _ ⟨rfl, -⟩ ⟨_, _, _, -, rfl, -⟩
    exact List.nil_lt_cons _ _

end Places

section Scripts

variable {α : Type} {leaf : α → Prop}

theorem expressionOccurs {tree found : Tree α} {place : List Nat} (occurs : tree.Occurs place found)
    (expression : tree.IsExpression leaf) : found.IsExpression leaf := by
  induction occurs with
  | here => exact expression
  | inside nth _ ih =>
    have mem := List.mem_of_getElem? nth
    refine ih ?_
    cases expression with
    | literal | mention => cases mem
    | list each | call _ _ each => exact each _ mem
    | unary _ inner =>
      cases List.mem_singleton.mp mem
      exact inner
    | binary _ first second =>
      rcases List.mem_pair.mp mem with rfl | rfl
      · exact first
      · exact second

theorem callStands {tree : Tree α} (script : tree.IsScript leaf) {place : List Nat} {name : String}
    {args : List (Tree α)} {statement : Bool} (occurs : tree.Occurs place (.call name args statement)) :
    statement = true ↔ place.length = 1 := by
  have within {value : Tree α} (expression : value.IsExpression leaf) {rest : List Nat}
      (inner : value.Occurs rest (.call name args statement)) : statement = false := by
    cases expressionOccurs inner expression
    rfl
  cases script with
  | program each =>
    cases occurs with
    | inside nth inner =>
      have stated := each _ (List.mem_of_getElem? nth)
      cases stated with
      | assignment _ expression =>
        cases inner with
        | inside nth' inner' =>
          cases List.mem_singleton.mp (List.mem_of_getElem? nth')
          simp [within expression inner']
      | call _ each' =>
        cases inner with
        | here => simp
        | inside nth' inner' => simp [within (each' _ (List.mem_of_getElem? nth')) inner']

end Scripts

def Tree.calledName? {α : Type} (tree : Tree α) : Option String := tree.call?.map Prod.fst

def Token.calledName? (t : Token) : Option String := if t.kind = .name then some t.text else none

theorem allSubtreesAppend {α : Type} (trees trees' : List (Tree α)) :
    allSubtrees (trees ++ trees') = allSubtrees trees ++ allSubtrees trees' := by
  induction trees with
  | nil => rfl
  | cons tree trees ih => rw [List.cons_append, allSubtrees, allSubtrees, ih, List.append_assoc]

def namesCalled {α : Type} (trees : List (Tree α)) : List String := (allSubtrees trees).filterMap Tree.calledName?

theorem namesCalledAppend {α : Type} (trees trees' : List (Tree α)) :
    namesCalled (trees ++ trees') = namesCalled trees ++ namesCalled trees' := by
  rw [namesCalled, allSubtreesAppend, List.filterMap_append]
  rfl

theorem namesCalledOne {α : Type} (tree : Tree α) :
    namesCalled [tree] = tree.calledName?.toList ++ namesCalled tree.parts := by
  rw [namesCalled, allSubtrees, allSubtrees, List.append_nil, subtreesParts, List.filterMap_cons]
  cases tree.calledName? <;> rfl

theorem derivedCalls {s ts trees} (derived : Derives s ts trees) :
    ts.filterMap Token.calledName? = namesCalled trees := by
  induction derived with
  | program body ih => exact ih.trans (namesCalledOne (.program _)).symm
  | noStatement => rfl
  | oneMore before last ih ih' => rw [List.filterMap_append, namesCalledAppend, ih, ih']
  | oneMoreEnded before last ih ih' =>
    rw [List.filterMap_append, List.filterMap_append, namesCalledAppend, ih, ih']
    exact List.append_nil _
  | assignment name value ih => exact ih.trans (namesCalledOne (.assignment _ _)).symm
  | callStatement body ih => exact ih
  | tighter next body ih => exact ih
  | @leftward _ _ op _ _ a b _ _ _ _ ih ih' =>
    rw [List.filterMap_append, ih, namesCalledOne (.binary op a b)]
    exact (congrArg (namesCalled [a] ++ ·) ih').trans (namesCalledAppend [a] [b]).symm
  | @power _ _ a b _ _ ih ih' =>
    rw [List.filterMap_append, ih, namesCalledOne (.binary _ a b)]
    exact (congrArg (namesCalled [a] ++ ·) ih').trans (namesCalledAppend [a] [b]).symm
  | minus operand ih | negation operand ih => exact ih.trans (namesCalledOne (.unary _ _)).symm
  | number | text | yes | no | mention | emptyList | emptyCall => rfl
  | callValue body ih => exact ih
  | list body ih =>
    rw [List.filterMap_append]
    exact (List.append_nil _).trans (ih.trans (namesCalledOne (.list _)).symm)
  | group body ih =>
    rw [List.filterMap_append]
    exact (List.append_nil _).trans ih
  | @call n _ _ name body ih =>
    rw [List.filterMap_append]
    exact (List.append_nil _).trans ((congrArg (n :: ·) ih).trans (namesCalledOne (.call n _ false)).symm)
  | argument body ih => exact ih
  | argumentAfter before last ih ih' =>
    rw [List.filterMap_append, namesCalledAppend, ih]
    exact congrArg _ ih'

theorem decodedParts {tree : Tree Lexeme} {node : Node} (decoded : tree.decode Lexeme.literal = .ok node) :
    decodeAll Lexeme.literal tree.parts = .ok node.parts ∧ node.calledName? = tree.calledName? := by
  cases tree with
  | program | list | call =>
    obtain ⟨nodes, within, same⟩ := exceptBind.mp (by rwa [Tree.decode] at decoded)
    cases same
    exact ⟨within, rfl⟩
  | assignment | unary =>
    obtain ⟨value, within, same⟩ := exceptBind.mp (by rwa [Tree.decode] at decoded)
    cases same
    exact ⟨decodeAllCons.mpr ⟨value, [], within, rfl, rfl⟩, rfl⟩
  | binary op left right =>
    obtain ⟨a, first, rest⟩ := exceptBind.mp (by rwa [Tree.decode] at decoded)
    obtain ⟨b, second, same⟩ := exceptBind.mp rest
    cases same
    exact ⟨decodeAllCons.mpr ⟨a, [b], first, decodeAllCons.mpr ⟨b, [], second, rfl, rfl⟩, rfl⟩, rfl⟩
  | literal =>
    obtain ⟨value, -, same⟩ := exceptBind.mp (by rwa [Tree.decode] at decoded)
    cases same
    exact ⟨rfl, rfl⟩
  | «variable» | foreign =>
    cases decoded
    exact ⟨rfl, rfl⟩

theorem decodedAllCalls {trees : List (Tree Lexeme)} {nodes : List Node}
    (decoded : decodeAll Lexeme.literal trees = .ok nodes)
    (each : ∀ tree ∈ trees, ∀ node, tree.decode Lexeme.literal = .ok node → namesCalled [node] = namesCalled [tree]) :
    namesCalled nodes = namesCalled trees := by
  induction trees generalizing nodes with
  | nil =>
    cases decoded
    rfl
  | cons tree trees ih =>
    obtain ⟨node, rest, head, tail, rfl⟩ := decodeAllCons.mp decoded
    obtain ⟨first, others⟩ := List.forall_mem_cons.mp each
    have split := namesCalledAppend [node] rest
    rw [first node head, ih tail others, ← namesCalledAppend] at split
    exact split

theorem decodedCalls (tree : Tree Lexeme) : ∀ node, tree.decode Lexeme.literal = .ok node →
    namesCalled [node] = namesCalled [tree] := by
  induction tree using partsInduction with
  | step tree ih =>
    intro node decoded
    obtain ⟨parts, called⟩ := decodedParts decoded
    rw [namesCalledOne, namesCalledOne, called, decodedAllCalls parts ih]

end CallScript.Syntax

namespace CallScript

open Syntax (Node Consumed Placed)

inductive Faulty (r : Registry) (env : Environment) (node : Node) : List Nat → String → Prop where
  | mustBeValue {place name args statement f} (call : node.Occurs place (.call name args statement))
      (known : r.get? name env = some f) (kind : f.kind = .rvalue) (alone : place.length = 1) :
      Faulty r env node place ("Function '" ++ name ++ "' must be the value of a statement")
  | noValue {place name args statement f} (call : node.Occurs place (.call name args statement))
      (known : r.get? name env = some f) (kind : f.kind = .statement) (inner : place.length ≠ 1) :
      Faulty r env node place ("Function '" ++ name ++ "' does not return a value")

def Syntax.Tree.problem? (r : Registry) (env : Environment) (node : Node) : Option String :=
  node.call?.bind (fun call => (problemOf r env call.1 call.2).map Failure.message)

section Analyses

variable {r : Registry} {env : Environment} {node found : Node} {place : List Nat} {text : String}

theorem problemsFound : (analyze r env node).problems = node.subtrees.filterMap (Syntax.Tree.problem? r env) := by
  show List.map Failure.message ((node.subtrees.filterMap Syntax.Tree.call?).filterMap _) = _
  rw [List.filterMap_filterMap, List.map_filterMap]
  refine List.filterMap_congr (fun tree _ => ?_)
  rw [Option.map_bind]
  rfl

theorem problemMeans {name : String} {statement : Bool} {failure : Failure} :
    problemOf r env name statement = some failure ↔ ∃ f, r.get? name env = some f ∧
      ((statement = true ∧ f.kind = .rvalue ∧ failure = .mustBeValue name) ∨
        (statement = false ∧ f.kind = .statement ∧ failure = .noValue name)) := by
  unfold problemOf
  cases r.get? name env with
  | none => simp
  | some f =>
    obtain ⟨label, arity, kind, doc, body⟩ := f
    cases statement <;> cases kind <;> simp [@eq_comm _ failure]

theorem problemCalls {found : Node} : found.problem? r env = some text ↔ ∃ name args statement failure,
    found = .call name args statement ∧ problemOf r env name statement = some failure ∧ failure.message = text := by
  constructor
  · intro told
    cases found with
    | call name args statement =>
      obtain ⟨failure, wrong, told⟩ := Option.map_eq_some_iff.mp told
      exact ⟨name, args, statement, failure, rfl, wrong, told⟩
    | _ => cases told
  · rintro ⟨name, args, statement, failure, rfl, wrong, told⟩
    exact Option.map_eq_some_iff.mpr ⟨failure, wrong, told⟩

theorem problemFaulty {leaf : Syntax.Literal → Prop} (script : node.IsScript leaf) :
    (∃ found, node.Occurs place found ∧ found.problem? r env = some text) ↔ Faulty r env node place text := by
  simp only [problemCalls, problemMeans]
  constructor
  · rintro ⟨_, occurs, name, args, statement, failure, rfl, ⟨f, known, kinds⟩, rfl⟩
    have stands := Syntax.callStands script occurs
    rcases kinds with ⟨alone, kind, rfl⟩ | ⟨inner, kind, rfl⟩
    · exact .mustBeValue occurs known kind (stands.mp alone)
    · exact .noValue occurs known kind (fun one => Bool.eq_false_iff.mp inner (stands.mpr one))
  · intro faulty
    cases faulty with
    | @mustBeValue name args statement f call known kind alone =>
      exact ⟨_, call, name, args, statement, _, rfl,
        ⟨f, known, .inl ⟨(Syntax.callStands script call).mpr alone, kind, rfl⟩⟩, rfl⟩
    | @noValue name args statement f call known kind inner =>
      have value : statement = false :=
        Bool.eq_false_iff.mpr (fun yes => inner ((Syntax.callStands script call).mp yes))
      exact ⟨_, call, name, args, statement, _, rfl, ⟨f, known, .inr ⟨value, kind, rfl⟩⟩, rfl⟩

theorem assignedOccurs {name : String} : (∃ place found, node.Occurs place found ∧ found.assignedName? = some name) ↔
    ∃ place value, node.Occurs place (.assignment name value) := by
  constructor
  · rintro ⟨place, found, occurs, assigned⟩
    cases found with
    | assignment _ value =>
      cases assigned
      exact ⟨place, value, occurs⟩
    | _ => cases assigned
  · rintro ⟨place, value, occurs⟩
    exact ⟨place, _, occurs, rfl⟩

theorem readOccurs {name : String} : (∃ place found, node.Occurs place found ∧ found.variableName? = some name) ↔
    ∃ place, node.Occurs place (.variable name) := by
  constructor
  · rintro ⟨place, found, occurs, read⟩
    cases found with
    | «variable» _ =>
      cases read
      exact ⟨place, occurs⟩
    | _ => cases read
  · rintro ⟨place, occurs⟩
    exact ⟨place, _, occurs, rfl⟩

theorem calledOccurs {name : String} : (∃ found, node.Occurs place found ∧ found.calledName? = some name) ↔
    ∃ args statement, node.Occurs place (.call name args statement) := by
  constructor
  · rintro ⟨found, occurs, called⟩
    cases found with
    | call _ args statement =>
      cases called
      exact ⟨args, statement, occurs⟩
    | _ => cases called
  · rintro ⟨args, statement, occurs⟩
    exact ⟨_, occurs, rfl⟩

end Analyses

/- The analysis of a script is exact. The names that it says are assigned, read and called are those of the assignments,
the variables and the calls that occur in the tree. Its problems are, in the order of the places, one for each call of
a known function at a place where its kind does not allow it. The places of calls are in the order in which the source
names the functions. -/
theorem analysisExact {source : String} {node : Node} (parsed : parse source = .ok node) (r : Registry)
    (env : Environment) :
    (∀ name, name ∈ (analyze r env node).assigned ↔ ∃ place value, node.Occurs place (.assignment name value)) ∧
      (∀ name, name ∈ (analyze r env node).reads ↔ ∃ place, node.Occurs place (.variable name)) ∧
      (∀ name, name ∈ (analyze r env node).functions ↔
        ∃ place args statement, node.Occurs place (.call name args statement)) ∧
      Placed (Faulty r env node) (analyze r env node).problems ∧
      ∃ tokens, Consumed source tokens ∧
        Placed (fun place name => ∃ args statement, node.Occurs place (.call name args statement))
          (tokens.filterMap Syntax.Token.calledName?) := by
  have subtrees := Syntax.subtreesPlaced node
  have mentions (view : Node → Option String) (name : String) :
      name ∈ sortedNames (node.subtrees.filterMap view) ↔
        ∃ place found, node.Occurs place found ∧ view found = some name :=
    memSortedNames.trans (Syntax.placedMem (Syntax.placedFilter subtrees view))
  have calls : node.calls.map Prod.fst = node.subtrees.filterMap Syntax.Tree.calledName? := List.map_filterMap
  refine ⟨fun name => (mentions _ name).trans assignedOccurs, fun name => (mentions _ name).trans readOccurs,
    fun name => ?_, ?_, ?_⟩
  · rw [analyze, calls]
    exact (mentions _ name).trans (exists_congr (fun place => calledOccurs))
  · rw [problemsFound]
    exact Syntax.placedSame (Syntax.placedFilter subtrees _) (fun _ _ => problemFaulty (Syntax.parsedScript parsed))
  · obtain ⟨tree, read, decoded⟩ := Syntax.parseDecodes.mp parsed
    obtain ⟨tokens, consumed, derived⟩ := Syntax.readTreeDerives read
    refine ⟨tokens, consumed, ?_⟩
    rw [Syntax.derivedCalls derived, ← Syntax.decodedCalls tree node decoded, Syntax.namesCalled, Syntax.allSubtrees,
      Syntax.allSubtrees, List.append_nil]
    exact Syntax.placedSame (Syntax.placedFilter subtrees _) (fun _ _ => calledOccurs)

def misplacing : Node :=
  .program [.call "f" [.variable "y"] true,
    .assignment "x" (.list [.call "f" [] false, .unary .negation (.call "info" [.call "g" [] false] false)])]

def misplacingRegistry : Registry :=
  (Registry.withGateway (.files { bundled := false })).insert Environment.root ⟨"f", -1, .rvalue, .null, .arguments⟩

theorem misplacingFound : parse "f($y) $x = [f(), !info(g())]" = .ok misplacing ∧
    (∀ name, name ∈ (analyze misplacingRegistry Environment.root misplacing).functions ↔
      ∃ place args statement, misplacing.Occurs place (.call name args statement)) ∧
    Placed (Faulty misplacingRegistry Environment.root misplacing)
      ["Function 'f' must be the value of a statement", "Function 'info' does not return a value"] := by
  have parsed : parse "f($y) $x = [f(), !info(g())]" = .ok misplacing := by with_unfolding_all rfl
  have problems : (analyze misplacingRegistry Environment.root misplacing).problems =
      ["Function 'f' must be the value of a statement", "Function 'info' does not return a value"] := by decide
  obtain ⟨-, -, called, faulty, -⟩ := analysisExact parsed misplacingRegistry Environment.root
  rw [problems] at faulty
  exact ⟨parsed, called, faulty⟩

end CallScript
