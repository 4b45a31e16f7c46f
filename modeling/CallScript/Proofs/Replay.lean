import CallScript.Analysis
import CallScript.Proofs.Pending

/-! A reading takes every token sequence that the grammar derives, and ends with the tree of the
derivation; so no sequence derives two trees. Names in the place of operands may be barred, for there a
word of the language is not read as a name. -/
namespace CallScript.Syntax

inductive Takes (barred : String → Prop) : Reading → List Token → Reading → Prop where
  | nothing {r} : Takes barred r [] r
  | token {r next r' t ts}
      (free : t.kind = .name → (∃ opened, r.phase = .operand opened) → ¬ barred t.text)
      (step : r.step t = some next) (rest : Takes barred next ts r') : Takes barred r (t :: ts) r'

variable {barred : String → Prop}

theorem takesAppend {r r' r'' ts us} (first : Takes barred r ts r') (second : Takes barred r' us r'') :
    Takes barred r (ts ++ us) r'' := by
  induction first with
  | nothing => exact second
  | token free step rest ih => exact .token free step (ih second)

theorem takesOne {r r' t} (other : t.kind ≠ .name) (step : r.step t = some r') : Takes barred r [t] r' :=
  .token (fun same => absurd same other) step .nothing

theorem takesUnique {r r' r'' ts} (first : Takes barred r ts r') (second : Takes barred r ts r'') :
    r' = r'' := by
  induction first with
  | nothing => cases second; rfl
  | token free step rest ih =>
    cases second with
    | token free' step' rest' =>
      rw [step] at step'
      cases Option.some.inj step'
      exact ih rest'

theorem takesFree {r r' ts} (takes : Takes barred r ts r') :
    Takes (fun _ => False) r ts r' := by
  induction takes with
  | nothing => exact .nothing
  | token free step rest ih => exact .token (fun _ _ => not_false) step ih

def Tree.Unbarred (barred : String → Prop) (tree : Tree Lexeme) : Prop :=
  ∀ name, (name, false) ∈ tree.calls → ¬ barred name

theorem memAllSubtrees {α : Type} {tree : Tree α} {trees : List (Tree α)} :
    tree ∈ allSubtrees trees ↔ ∃ t ∈ trees, tree ∈ t.subtrees := by
  induction trees with
  | nil => simp [allSubtrees]
  | cons head tail ih => simp [allSubtrees, ih]

theorem unbarredParts {tree part : Tree Lexeme} (unbarred : tree.Unbarred barred)
    (inside : ∀ t ∈ part.subtrees, t ∈ tree.subtrees) : part.Unbarred barred := by
  intro name mem
  obtain ⟨t, found, same⟩ := List.mem_filterMap.mp mem
  exact unbarred name (List.mem_filterMap.mpr ⟨t, inside t found, same⟩)

theorem unbarredItems {trees : List (Tree Lexeme)} {tree : Tree Lexeme} (unbarred : tree.Unbarred barred)
    (inside : ∀ t ∈ allSubtrees trees, t ∈ tree.subtrees) : ∀ t ∈ trees, t.Unbarred barred :=
  fun t mem => unbarredParts unbarred (fun u found => inside u (memAllSubtrees.mpr ⟨t, mem, found⟩))

theorem unbarredCall {name args statement} (unbarred : (Tree.call name args statement).Unbarred barred) :
    (statement = false → ¬ barred name) ∧ ∀ arg ∈ args, arg.Unbarred barred := by
  refine ⟨?_, unbarredItems unbarred (fun t inside => List.mem_cons_of_mem _ inside)⟩
  rintro rfl
  exact unbarred name (List.mem_filterMap.mpr ⟨_, List.mem_cons_self, rfl⟩)

def Closing (n : Nat) (frames : List Frame) (tree closed : Tree Lexeme) : Prop :=
  (∀ f ∈ frames, f.isOperator = true ∧ n ≤ f.depth) ∧ frames.foldl Frame.close tree = closed

theorem closingNothing (n : Nat) (tree : Tree Lexeme) : Closing n [] tree tree :=
  ⟨by simp, rfl⟩

theorem closingWeaker {m n frames tree closed} (le : m ≤ n) (closing : Closing n frames tree closed) :
    Closing m frames tree closed :=
  ⟨fun f mem => ⟨(closing.1 f mem).1, Nat.le_trans le (closing.1 f mem).2⟩, closing.2⟩

theorem closingLast {m n frames tree closed} {f : Frame} (closing : Closing n frames tree closed)
    (le : m ≤ n) (pending : f.isOperator = true) (deep : m ≤ f.depth) :
    Closing m (frames ++ [f]) tree (f.close closed) := by
  refine ⟨fun g mem => ?_, by simp [closing.2]⟩
  rcases List.mem_append.mp mem with mem | mem
  · exact (closingWeaker le closing).1 g mem
  · rw [List.mem_singleton.mp mem]
    exact ⟨pending, deep⟩

theorem closeWhileAppend {test : Frame → Bool} {frames tree closed} {f : Frame} {fs : List Frame}
    (closes : ∀ g ∈ frames, test g = true) (stays : test f = false)
    (same : frames.foldl Frame.close tree = closed) :
    closeWhile test tree (frames ++ f :: fs) = (closed, f :: fs) := by
  induction frames generalizing tree with
  | nil => simp [closeWhile, stays, ← same]
  | cons g gs ih =>
    have head : test g = true := closes g (by simp)
    simp only [List.cons_append, closeWhile, head, if_true]
    exact ih (fun h mem => closes h (by simp [mem])) same

theorem closeAllAppend {n frames tree closed} (f : Frame) (fs : List Frame)
    (closing : Closing n frames tree closed) (stays : f.isOperator = false) :
    closeAll tree (frames ++ f :: fs) = (closed, f :: fs) := by
  rw [closeAllWhile]
  exact closeWhileAppend (fun g mem => (closing.1 g mem).1) stays closing.2

theorem closeBeforeAppend {op frames tree closed} (f : Frame) (fs : List Frame)
    (known : op ∈ Operator.known) (closing : Closing op.leftDepth frames tree closed)
    (fits : f.hole ≤ op.level) : closeBefore op tree (frames ++ f :: fs) = (closed, f :: fs) := by
  rw [closeBeforeWhile]
  exact closeWhileAppend (fun g mem => (closesBeforeDepth op g).mpr (closing.1 g mem))
    ((closesBeforeHole known f).mpr fits) closing.2

def Reading.Amounts (r : Reading) (done : List (Tree Lexeme)) : Prop :=
  r = ⟨done, [], .statement⟩ ∨
    ∃ tree, r.phase = .ended tree ∧ r.endStatement tree = some ⟨done, [], .statement⟩

theorem amountsPhase {r : Reading} {done} (amounts : r.Amounts done) :
    ¬ ∃ opened, r.phase = .operand opened := by
  rintro ⟨opened, operand⟩
  rcases amounts with rfl | ⟨tree, phase, -⟩
  · cases operand
  · rw [operand] at phase
    cases phase

theorem amountsStep {r : Reading} {done t} (amounts : r.Amounts done)
    (kind : t.kind = .variable ∨ t.kind = .name) :
    r.step t = Reading.beginStatement ⟨done, [], .statement⟩ t := by
  rcases amounts with rfl | ⟨tree, phase, ended⟩
  · rfl
  · rcases kind with kind | kind <;>
      simp only [Reading.step, phase, Reading.endedStep, kind, ended, Option.bind_eq_bind, Option.bind_some]

theorem amountsFinish {r : Reading} {done} (amounts : r.Amounts done) :
    r.finish = some (.program done.reverse) := by
  rcases amounts with rfl | ⟨tree, phase, ended⟩
  · rfl
  · simp only [Reading.finish, phase, ended, Option.map_some]

def Gathers (gather : List (Tree Lexeme) → Frame) : Prop :=
  gather = Frame.list ∨ ∃ name, gather = Frame.call name

theorem gathersStay {gather} (gathers : Gathers gather) (items : List (Tree Lexeme)) :
    (gather items).isOperator = false ∧ (gather items).hole = 1 := by
  rcases gathers with rfl | ⟨name, rfl⟩ <;> exact ⟨rfl, rfl⟩

/- Where a construct is closed or goes on to its next item, the operators that are pending in it are closed first. -/
theorem closedStep {n fs last item} {f : Frame} {t : Token} (done : List (Tree Lexeme)) (frames : List Frame)
    (closing : Closing n fs last item) (stays : f.isOperator = false)
    (closes : t.kind = .comma ∨ t.kind = .rightParenthesis ∨ t.kind = .rightBracket) :
    Reading.step ⟨done, fs ++ f :: frames, .ended last⟩ t = Reading.step ⟨done, f :: frames, .ended item⟩ t := by
  have closed := closeAllAppend f frames closing stays
  have alone : closeAll item (f :: frames) = (item, f :: frames) :=
    closeAllAppend f frames (closingNothing n item) stays
  rcases closes with kind | kind | kind <;> simp only [Reading.step, Reading.endedStep, kind, closed, alone]

theorem gathersComma {gather n fs tree item} (items frames done) (gathers : Gathers gather)
    (closing : Closing n fs tree item) :
    Reading.step ⟨done, fs ++ gather items :: frames, .ended tree⟩ Terminal.comma.token =
      some ⟨done, gather (item :: items) :: frames, .operand false⟩ := by
  rw [closedStep done frames closing (gathersStay gathers items).1 (.inl rfl)]
  rcases gathers with rfl | ⟨name, rfl⟩ <;> rfl

theorem enclosedTakes {r r' r'' : Reading} {opening ending : Token} {n fs last item ts} {f : Frame} {done frames}
    (other : opening.kind ≠ .name) (opens : r.step opening = some r')
    (takes : Takes barred r' ts ⟨done, fs ++ f :: frames, .ended last⟩) (closing : Closing n fs last item)
    (stays : f.isOperator = false) (closes : ending.kind = .rightParenthesis ∨ ending.kind = .rightBracket)
    (ends : Reading.step ⟨done, f :: frames, .ended item⟩ ending = some r'') :
    Takes barred r (opening :: ts ++ [ending]) r'' := by
  have unnamed : ending.kind ≠ .name := by rcases closes with kind | kind <;> rw [kind] <;> decide
  refine .token (fun same => absurd same other) opens (takesAppend takes (takesOne unnamed ?_))
  rw [closedStep done frames closing stays (.inr closes), ends]

def Symbol.Replays (barred : String → Prop) : Symbol → List Token → List (Tree Lexeme) → Prop
  | .program, ts, trees => (∀ t ∈ trees, t.Unbarred barred) →
      ∃ r tree, Takes barred Reading.start ts r ∧ r.finish = some tree ∧ trees = [tree]
  | .statements, ts, trees => (∀ t ∈ trees, t.Unbarred barred) →
      ∃ r, Takes barred Reading.start ts r ∧ r.Amounts trees.reverse
  | .statement, ts, trees => ∀ tree, trees = [tree] → tree.Unbarred barred →
      ∀ r done, r.Amounts done → ∃ frames last, Takes barred r ts ⟨done, frames, .ended last⟩ ∧
        Reading.endStatement ⟨done, frames, .ended last⟩ last = some ⟨tree :: done, [], .statement⟩
  | .expression rank, ts, trees => ∀ tree, trees = [tree] → tree.Unbarred barred →
      ∀ done frames opened, holeDepth frames ≤ rank.depth →
        ∃ fs last, Takes barred ⟨done, frames, .operand opened⟩ ts ⟨done, fs ++ frames, .ended last⟩ ∧
          Closing rank.depth fs last tree
  | .call, ts, trees => ∃ name args us, trees = [.call name args false] ∧ ts = ⟨.name, name⟩ :: us ∧
      ((∀ t ∈ args, t.Unbarred barred) → ∀ done frames, Takes barred ⟨done, frames, .callee name⟩ us
        ⟨done, frames, .ended (.call name args frames.isEmpty)⟩)
  | .arguments, ts, trees => (∀ t ∈ trees, t.Unbarred barred) → ∀ done frames gather, Gathers gather →
      ∃ fs last item items, trees = (item :: items).reverse ∧ Closing 1 fs last item ∧
        Takes barred ⟨done, gather [] :: frames, .operand true⟩ ts
          ⟨done, fs ++ gather items :: frames, .ended last⟩

theorem binaryReplays {op ls rs a b} (known : op ∈ Operator.known)
    (left : Symbol.Replays barred (.expression op.leftRank) ls [a])
    (right : Symbol.Replays barred (.expression op.rightRank) rs [b]) :
    Symbol.Replays barred (.expression op.rank) (ls ++ (Terminal.operator op).token :: rs) [.binary op a b] := by
  rintro _ ⟨⟩ unbarred done frames opened fits
  have unbarredLeft : a.Unbarred barred :=
    unbarredParts unbarred (fun u inside => by simp [Tree.subtrees, inside])
  have unbarredRight : b.Unbarred barred :=
    unbarredParts unbarred (fun u inside => by simp [Tree.subtrees, inside])
  have rank := rankDepth op known
  have leftRank := leftRankDepth known
  have rightRank := rightRankDepth op known
  have leftDeep : op.level ≤ op.leftDepth := by
    have bound := levelBound op
    unfold Operator.leftDepth
    split <;> omega
  obtain ⟨fs, last, takes, closing⟩ := left a rfl unbarredLeft done frames opened (by omega)
  cases frames with
  | nil =>
    have bound := depthBound op.rank
    simp only [holeDepth] at fits
    omega
  | cons f frames =>
    have closed := closeBeforeAppend f frames known (leftRank ▸ closing) (by rwa [rank] at fits)
    have step : Reading.step ⟨done, fs ++ f :: frames, .ended last⟩ (Terminal.operator op).token =
        some ⟨done, .binary op a :: f :: frames, .operand false⟩ := by
      simp only [Reading.step, Reading.endedStep, Terminal.token, closed]
    have within : holeDepth (.binary op a :: f :: frames) ≤ op.rightRank.depth := Nat.le_of_eq rightRank.symm
    obtain ⟨fs', last', more, closing'⟩ := right b rfl unbarredRight done _ false within
    have wider : op.rank.depth ≤ op.rightRank.depth := by
      have bound := levelBound op
      split at rightRank <;> omega
    have deep : op.rank.depth ≤ (Frame.binary op a).depth := Nat.le_of_eq rank
    refine ⟨fs' ++ [.binary op a], last', ?_, closingLast closing' wider rfl deep⟩
    simpa using takesAppend takes (.token (by simp [Terminal.token]) step more)

theorem unaryReplays {op t ts operand} (other : t.kind ≠ .name)
    (push : ∀ done frames opened, Reading.step ⟨done, frames, .operand opened⟩ t =
      some ⟨done, .unary op :: frames, .operand false⟩)
    (replays : Symbol.Replays barred (.expression .unary) ts [operand]) :
    Symbol.Replays barred (.expression .unary) (t :: ts) [.unary op operand] := by
  rintro _ ⟨⟩ unbarred done frames opened fits
  have inner : operand.Unbarred barred :=
    unbarredParts unbarred (fun u inside => List.mem_cons_of_mem _ inside)
  obtain ⟨fs, last, takes, closing⟩ := replays operand rfl inner done (.unary op :: frames) false (Nat.le_refl 7)
  refine ⟨fs ++ [.unary op], last, ?_, closingLast closing (Nat.le_refl _) rfl (Nat.le_refl _)⟩
  exact .token (fun same => absurd same other) (push done frames opened) (by simpa using takes)

section Statements

variable {ts us : List Token} {t : Tree Lexeme} {trees : List (Tree Lexeme)}

theorem laterTakes (before : Symbol.Replays barred .statements ts trees)
    (last : Symbol.Replays barred .statement us [t]) (unbarred : ∀ u ∈ trees ++ [t], u.Unbarred barred) :
    ∃ done frames tree, Takes barred Reading.start (ts ++ us) ⟨done, frames, .ended tree⟩ ∧
      Reading.endStatement ⟨done, frames, .ended tree⟩ tree = some ⟨(trees ++ [t]).reverse, [], .statement⟩ := by
  obtain ⟨r, takes, amounts⟩ := before (fun u mem => unbarred u (by simp [mem]))
  obtain ⟨frames, tree, more, ended⟩ := last _ rfl (unbarred _ (by simp)) r _ amounts
  exact ⟨_, frames, tree, takesAppend takes more, by simpa using ended⟩

theorem assignmentReplays {v : String} (value : Symbol.Replays barred (.expression .disjunction) ts [t]) :
    Symbol.Replays barred .statement (⟨.variable, v⟩ :: Terminal.equal.token :: ts)
      [.assignment (variableName v) t] := by
  rintro _ ⟨⟩ unbarred r done amounts
  have inner : t.Unbarred barred := unbarredParts unbarred (fun u inside => List.mem_cons_of_mem _ inside)
  obtain ⟨fs, last, takes, closing⟩ := value t rfl inner done [.assignment (variableName v)] false (Nat.le_refl 1)
  refine ⟨_, last, .token (by simp) (amountsStep amounts (.inl rfl)) (.token (by simp) rfl takes), ?_⟩
  have closed := closeAllAppend (.assignment (variableName v)) [] closing rfl
  simp only [Reading.endStatement, closed]

theorem callReplays {name : String} {args : List (Tree Lexeme)}
    (body : Symbol.Replays barred .call ts [.call name args false]) :
    Symbol.Replays barred .statement ts [.call name args true] := by
  rintro _ ⟨⟩ unbarred r done amounts
  obtain ⟨name', args', us, same, rfl, takes⟩ := body
  cases same
  exact ⟨[], _, .token (fun _ operand => absurd operand (amountsPhase amounts))
    (amountsStep amounts (.inr rfl)) (takes (unbarredCall unbarred).2 done []), rfl⟩

end Statements

section Arguments

variable {ts us : List Token} {t : Tree Lexeme} {items : List (Tree Lexeme)}

theorem argumentReplays (body : Symbol.Replays barred (.expression .disjunction) ts [t]) :
    Symbol.Replays barred .arguments ts [t] := by
  intro unbarred done frames gather gathers
  have fits : holeDepth (gather [] :: frames) ≤ Rank.disjunction.depth := Nat.le_of_eq (gathersStay gathers []).2
  obtain ⟨fs, last, takes, closing⟩ := body t rfl (unbarred t (by simp)) done _ true fits
  exact ⟨fs, last, t, [], rfl, closing, takes⟩

theorem laterArgumentReplays (before : Symbol.Replays barred .arguments ts items)
    (last : Symbol.Replays barred (.expression .disjunction) us [t]) :
    Symbol.Replays barred .arguments (ts ++ Terminal.comma.token :: us) (items ++ [t]) := by
  intro unbarred done frames gather gathers
  obtain ⟨fs, tree, item, earlier, same, closing, takes⟩ :=
    before (fun t mem => unbarred t (by simp [mem])) done frames gather gathers
  have fits : holeDepth (gather (item :: earlier) :: frames) ≤ Rank.disjunction.depth :=
    Nat.le_of_eq (gathersStay gathers _).2
  obtain ⟨fs', last', more, closing'⟩ := last t rfl (unbarred t (by simp)) done _ false fits
  have comma := gathersComma earlier frames done gathers closing
  exact ⟨fs', last', t, item :: earlier, by simp [same], closing',
    takesAppend takes (.token (by simp [Terminal.token]) comma more)⟩

theorem listReplays (body : Symbol.Replays barred .arguments ts items) :
    Symbol.Replays barred (.expression .atom) (Terminal.leftBracket.token :: ts ++ [Terminal.rightBracket.token])
      [.list items] := by
  rintro _ ⟨⟩ unbarred done frames opened fits
  have inner : ∀ t ∈ items, t.Unbarred barred :=
    unbarredItems unbarred (fun t inside => List.mem_cons_of_mem _ inside)
  obtain ⟨fs, last, item, before, rfl, closing, takes⟩ := body inner done frames Frame.list (.inl rfl)
  exact ⟨[], _, enclosedTakes (by simp [Terminal.token]) rfl takes closing rfl (.inr rfl) rfl, closingNothing _ _⟩

theorem argumentsReplay {name : String} (body : Symbol.Replays barred .arguments ts items) :
    Symbol.Replays barred .call
      (⟨.name, name⟩ :: Terminal.leftParenthesis.token :: ts ++ [Terminal.rightParenthesis.token])
      [.call name items false] := by
  refine ⟨name, items, _, rfl, rfl, fun unbarred done frames => ?_⟩
  obtain ⟨fs, last, item, before, rfl, closing, takes⟩ := body unbarred done frames (Frame.call name) (.inr ⟨name, rfl⟩)
  exact enclosedTakes (by simp [Terminal.token]) rfl takes closing rfl (.inl rfl) rfl

end Arguments

section Atoms

variable {ts : List Token} {t : Tree Lexeme}

theorem atomReplays {token : Token} (other : token.kind ≠ .name)
    (ends : ∀ done frames opened, Reading.step ⟨done, frames, .operand opened⟩ token =
      some ⟨done, frames, .ended t⟩) : Symbol.Replays barred (.expression .atom) [token] [t] := by
  rintro _ ⟨⟩ unbarred done frames opened fits
  exact ⟨[], _, takesOne other (ends done frames opened), closingNothing _ _⟩

theorem groupReplays (body : Symbol.Replays barred (.expression .disjunction) ts [t]) :
    Symbol.Replays barred (.expression .atom)
      (Terminal.leftParenthesis.token :: ts ++ [Terminal.rightParenthesis.token]) [t] := by
  rintro _ ⟨⟩ unbarred done frames opened fits
  obtain ⟨fs, last, takes, closing⟩ := body t rfl unbarred done (.group :: frames) false (Nat.le_refl 1)
  exact ⟨[], _, enclosedTakes (by simp [Terminal.token]) rfl takes closing rfl (.inl rfl) rfl, closingNothing _ _⟩

theorem valueReplays (body : Symbol.Replays barred .call ts [t]) :
    Symbol.Replays barred (.expression .atom) ts [t] := by
  rintro _ ⟨⟩ unbarred done frames opened fits
  obtain ⟨name, args, us, same, rfl, takes⟩ := body
  cases same
  obtain ⟨free, inner⟩ := unbarredCall unbarred
  have inside : frames.isEmpty = false := by
    cases frames with
    | nil => exact absurd fits (by decide)
    | cons f fs => rfl
  have rest := takes inner done frames
  rw [inside] at rest
  exact ⟨[], _, .token (fun _ _ => free rfl) rfl rest, closingNothing _ _⟩

end Atoms

theorem derivedReplays {s ts trees} (derived : Derives s ts trees) : s.Replays barred ts trees := by
  -- operands are taken in any surroundings that allow their rank, and may leave operators pending that bind at
  -- least as tightly
  induction derived with
  | @program ts trees body ih =>
    intro unbarred
    have inner : ∀ t ∈ trees, t.Unbarred barred :=
      unbarredItems (unbarred (.program trees) (by simp)) (fun t inside => List.mem_cons_of_mem _ inside)
    obtain ⟨r, takes, amounts⟩ := ih inner
    exact ⟨r, _, takes, amountsFinish amounts, by simp⟩
  | noStatement => exact fun _ => ⟨_, .nothing, .inl rfl⟩
  | oneMore before last ihBefore ihLast =>
    intro unbarred
    obtain ⟨done, frames, tree, takes, ended⟩ := laterTakes ihBefore ihLast unbarred
    exact ⟨_, takes, .inr ⟨tree, rfl, ended⟩⟩
  | oneMoreEnded before last ihBefore ihLast =>
    intro unbarred
    obtain ⟨done, frames, tree, takes, ended⟩ := laterTakes ihBefore ihLast unbarred
    exact ⟨_, takesAppend takes (takesOne (by decide) ended), .inl rfl⟩
  | assignment name value ih => exact assignmentReplays ih
  | callStatement body ih => exact callReplays ih
  | tighter next body ih =>
    intro tree same unbarred done frames opened fits
    have deeper := depthNext next
    obtain ⟨fs, last, takes, closing⟩ := ih tree same unbarred done frames opened (by omega)
    exact ⟨fs, last, takes, closingWeaker (by omega) closing⟩
  | @leftward r s op ls rs a b mem next left right ihLeft ihRight =>
    obtain ⟨rank, leftRank, rightRank⟩ := rankOfMember r op mem
    have same : op.rightRank = s := Option.some.inj (rightRank.trans next)
    have all : Symbol.Replays barred _ _ _ :=
      binaryReplays (memberKnown r op mem) (leftRank ▸ ihLeft) (same ▸ ihRight)
    rwa [rank] at all
  | power left right ihLeft ihRight =>
    have known : Operator.arithmetic .power ∈ Operator.known := by decide
    exact binaryReplays known ihLeft ihRight
  | minus operand ih | negation operand ih => exact unaryReplays (by simp [Terminal.token]) (fun _ _ _ => rfl) ih
  | number | text | yes | no | mention => exact atomReplays (by simp [Terminal.token]) (fun _ _ _ => rfl)
  | callValue body ih => exact valueReplays ih
  | emptyList =>
    rintro _ ⟨⟩ unbarred done frames opened fits
    exact ⟨[], _, .token (by simp [Terminal.token]) rfl (takesOne (by simp [Terminal.token]) rfl),
      closingNothing _ _⟩
  | list body ih => exact listReplays ih
  | group body ih => exact groupReplays ih
  | @emptyCall n name =>
    exact ⟨n, [], _, rfl, rfl, fun _ done frames =>
      .token (by simp [Terminal.token]) rfl (takesOne (by simp [Terminal.token]) rfl)⟩
  | call name body ih => exact argumentsReplay ih
  | argument body ih => exact argumentReplays ih
  | argumentAfter before last ihBefore ihLast => exact laterArgumentReplays ihBefore ihLast

theorem programTakes {ts tree} (barred : String → Prop) (derived : Derives .program ts [tree])
    (unbarred : tree.Unbarred barred) : ∃ r, Takes barred Reading.start ts r ∧ r.finish = some tree := by
  obtain ⟨r, tree', takes, finish, same⟩ := derivedReplays derived (fun t mem => by
    rwa [List.mem_singleton.mp mem])
  cases same
  exact ⟨r, takes, finish⟩

/- Which tree a derivation gives does not depend on the names in it, so here none is barred. -/
theorem programUnique {ts tree other} (first : Derives .program ts [tree])
    (second : Derives .program ts [other]) : tree = other := by
  obtain ⟨r, takes, finish⟩ := programTakes (fun _ => False) first (fun _ _ => not_false)
  obtain ⟨r', takes', finish'⟩ := programTakes (fun _ => False) second (fun _ _ => not_false)
  cases takesUnique takes takes'
  exact Option.some.inj (finish.symm.trans finish')

end CallScript.Syntax
