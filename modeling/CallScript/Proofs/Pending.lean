import CallScript.Proofs.Grammar

/-! Pending operators against the ranks of the grammar. A frame has the depth of the expression that it
closes to and the depth that its missing operand needs; comparing the two says which frames an operator
closes and which it is put on. -/
namespace CallScript.Syntax

def Rank.depth : Rank → Nat
  | .disjunction => 1
  | .conjunction => 2
  | .comparison => 3
  | .sum => 4
  | .product => 5
  | .power => 6
  | .unary => 7
  | .atom => 8

theorem depthInjective {r s : Rank} (same : r.depth = s.depth) : r = s := by
  cases r <;> cases s <;> first | rfl | cases same

theorem depthBound (r : Rank) : 1 ≤ r.depth ∧ r.depth ≤ 8 := by
  cases r <;> decide

theorem depthNext {r s : Rank} (next : r.next? = some s) : s.depth = r.depth + 1 := by
  cases r <;> cases next <;> rfl

theorem nextOfShallow {r : Rank} (shallow : r.depth < 8) : ∃ s, r.next? = some s := by
  cases r <;> first | exact ⟨_, rfl⟩ | exact absurd shallow (by decide)

theorem loosened {r s : Rank} {ts t} (deep : r.depth ≤ s.depth)
    (body : Derives (.expression s) ts [t]) : Derives (.expression r) ts [t] := by
  obtain ⟨n, gap⟩ : ∃ n, s.depth = r.depth + n := ⟨s.depth - r.depth, by omega⟩
  induction n generalizing r with
  | zero =>
    have same : s = r := depthInjective gap
    exact same ▸ body
  | succ n ih =>
    have bound := depthBound s
    obtain ⟨q, next⟩ := nextOfShallow (r := r) (by omega)
    have step := depthNext next
    exact .tighter next (ih (by omega) (by omega))

def Operator.rank : Operator → Rank
  | .either => .disjunction
  | .both => .conjunction
  | .equal | .unequal | .relation _ => .comparison
  | .arithmetic .add | .arithmetic .subtract => .sum
  | .arithmetic .multiply | .arithmetic .divide | .arithmetic .modulo => .product
  | .arithmetic .power => .power
  | .unknown _ => .disjunction

def Operator.leftRank (op : Operator) : Rank :=
  if op.rightward then .unary else op.rank

def Operator.rightRank (op : Operator) : Rank :=
  if op.rightward then .power else op.rank.next?.getD .atom

theorem rankDepth : ∀ op ∈ Operator.known, op.rank.depth = op.level := by
  decide

theorem levelBound (op : Operator) : op.level ≤ 6 ∧ (op.rightward = false → op.level ≤ 5) := by
  cases op with
  | arithmetic op => cases op <;> decide
  | relation r => cases r <;> decide
  | _ => simp [Operator.level]

theorem levelRightward {op : Operator} (right : op.rightward = true) : op.level = 6 := by
  have same : op = .arithmetic .power := by simpa [Operator.rightward] using right
  rw [same]
  rfl

theorem levelKnown {op : Operator} (known : op ∈ Operator.known) : 1 ≤ op.level := by
  rw [← rankDepth op known]
  exact (depthBound _).1

theorem rankOfMember (r : Rank) : ∀ op ∈ r.operators,
    op.rank = r ∧ op.leftRank = r ∧ some op.rightRank = r.next? := by
  cases r <;> decide

theorem knownMember : ∀ op ∈ Operator.known, op = .arithmetic .power ∨
    op ∈ op.rank.operators ∧ op.rank.next? = some op.rightRank ∧ op.leftRank = op.rank := by
  decide

theorem derivesBinary {op : Operator} {ls rs a b} (known : op ∈ Operator.known)
    (left : Derives (.expression op.leftRank) ls [a]) (right : Derives (.expression op.rightRank) rs [b]) :
    Derives (.expression op.rank) (ls ++ (Terminal.operator op).token :: rs) [.binary op a b] := by
  rcases knownMember op known with power | ⟨mem, next, same⟩
  · subst power
    exact .power left right
  · exact .leftward mem next (same ▸ left) right

def Operator.leftDepth (op : Operator) : Nat :=
  if op.rightward then 7 else op.level

theorem leftRankDepth {op : Operator} (known : op ∈ Operator.known) : op.leftRank.depth = op.leftDepth := by
  unfold Operator.leftRank Operator.leftDepth
  split
  · rfl
  · exact rankDepth op known

def Frame.depth : Frame → Nat
  | .unary _ => 7
  | .binary op _ => op.level
  | _ => 8

def Frame.hole : Frame → Nat
  | .unary _ => 7
  | .binary op _ => if op.rightward then 6 else op.level + 1
  | _ => 1

def holeDepth : List Frame → Nat
  | [] => 9
  | frame :: _ => frame.hole

theorem rightRankDepth : ∀ op ∈ Operator.known,
    op.rightRank.depth = if op.rightward then 6 else op.level + 1 := by
  decide

theorem holeWithin (f : Frame) (frames : List Frame) : holeDepth (f :: frames) ≤ 7 := by
  cases f with
  | binary op left =>
    have bound := levelBound op
    simp only [holeDepth, Frame.hole]
    split <;> omega
  | _ => simp [holeDepth, Frame.hole]

theorem closesBeforeDepth (op : Operator) (f : Frame) :
    f.closesBefore op = true ↔ f.isOperator = true ∧ op.leftDepth ≤ f.depth := by
  have bound := levelBound op
  cases f with
  | unary u =>
    simp only [Frame.closesBefore, Frame.isOperator, Operator.leftDepth, Frame.depth, true_and, true_iff]
    split <;> omega
  | binary pending left =>
    simp only [Frame.closesBefore, Frame.isOperator, Operator.leftDepth, Frame.depth, true_and]
    by_cases right : op.rightward = true
    · have six := levelRightward right
      simp only [right, if_true, decide_eq_true_eq]
      omega
    · simp only [right, if_false, decide_eq_true_eq, Bool.false_eq_true]
  | _ => simp [Frame.closesBefore, Frame.isOperator]

theorem closesBeforeHole {op : Operator} (known : op ∈ Operator.known) (f : Frame) :
    f.closesBefore op = false ↔ f.hole ≤ op.level := by
  have bound := levelBound op
  have least := levelKnown known
  cases f with
  | unary u =>
    simp only [Frame.closesBefore, Frame.hole, Bool.true_eq_false, false_iff]
    omega
  | binary pending left =>
    have other := levelBound pending
    simp only [Frame.closesBefore, Frame.hole]
    by_cases right : op.rightward = true
    · have six := levelRightward right
      by_cases twice : pending.rightward = true
      · have sixth := levelRightward twice
        simp only [right, twice, if_true, decide_eq_false_iff_not]
        omega
      · have five := other.2 (by simpa using twice)
        simp only [right, twice, if_true, if_false, decide_eq_false_iff_not, Bool.false_eq_true]
        omega
    · have five := bound.2 (by simpa using right)
      by_cases twice : pending.rightward = true
      · have sixth := levelRightward twice
        simp only [right, twice, if_true, if_false, decide_eq_false_iff_not, Bool.false_eq_true]
        omega
      · simp only [right, twice, if_false, decide_eq_false_iff_not, Bool.false_eq_true]
        omega
  | _ => simpa [Frame.closesBefore, Frame.hole] using least

/- Closing pending operators while a test allows it; `closeBefore` and `closeAll` differ in the test. -/
def closeWhile (test : Frame → Bool) : Tree Lexeme → List Frame → Tree Lexeme × List Frame
  | tree, [] => (tree, [])
  | tree, frame :: frames =>
      if test frame then closeWhile test (frame.close tree) frames else (tree, frame :: frames)

theorem closeBeforeWhile (op : Operator) (tree : Tree Lexeme) (frames : List Frame) :
    closeBefore op tree frames = closeWhile (Frame.closesBefore op) tree frames := by
  induction frames generalizing tree with
  | nil => rfl
  | cons frame frames ih => simp only [closeBefore, closeWhile, ih]

theorem closeAllWhile (tree : Tree Lexeme) (frames : List Frame) :
    closeAll tree frames = closeWhile Frame.isOperator tree frames := by
  induction frames generalizing tree with
  | nil => rfl
  | cons frame frames ih => simp only [closeAll, closeWhile, ih]

end CallScript.Syntax
