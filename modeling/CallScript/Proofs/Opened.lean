import CallScript.Proofs.Pending

/-! What a reading has taken derives what it holds. The tokens taken so far are those of the complete
statements, of the open constructs, and of the operand that has just ended; every step keeps this, and
a script that may end here derives from the tokens. -/
namespace CallScript.Syntax

inductive ItemsRead : List Token → List (Tree Lexeme) → Prop where
  | none : ItemsRead [] []
  | some {ts item items} (body : Derives .arguments ts (item :: items).reverse) :
      ItemsRead (ts ++ [Terminal.comma.token]) (item :: items)

/- The tokens since the current statement began that have led to the open constructs. -/
inductive Opened : List Frame → List Token → Prop where
  | nothing : Opened [] []
  | assignment {v} (name : Token.Spelled ⟨.variable, v⟩) :
      Opened [.assignment (variableName v)] [⟨.variable, v⟩, Terminal.equal.token]
  | minus {frames ts} (outer : Opened frames ts) (fits : holeDepth frames ≤ 7) :
      Opened (.unary .minus :: frames) (ts ++ [(Terminal.operator (.arithmetic .subtract)).token])
  | negation {frames ts} (outer : Opened frames ts) (fits : holeDepth frames ≤ 7) :
      Opened (.unary .negation :: frames) (ts ++ [Terminal.bang.token])
  | binary {frames ts us op left} (known : op ∈ Operator.known) (outer : Opened frames ts)
      (fits : holeDepth frames ≤ op.level) (operand : Derives (.expression op.leftRank) us [left]) :
      Opened (.binary op left :: frames) (ts ++ us ++ [(Terminal.operator op).token])
  | group {frames ts} (outer : Opened frames ts) (fits : holeDepth frames ≤ 8) :
      Opened (.group :: frames) (ts ++ [Terminal.leftParenthesis.token])
  | list {frames ts us items} (outer : Opened frames ts) (fits : holeDepth frames ≤ 8)
      (before : ItemsRead us items) :
      Opened (.list items :: frames) (ts ++ Terminal.leftBracket.token :: us)
  | call {frames ts us n args} (name : Token.Spelled ⟨.name, n⟩) (outer : Opened frames ts)
      (before : ItemsRead us args) :
      Opened (.call n args :: frames) (ts ++ ⟨.name, n⟩ :: Terminal.leftParenthesis.token :: us)

def EndedAs (frames : List Frame) (ts : List Token) (tree : Tree Lexeme) : Prop :=
  match frames with
  | [] => ∃ name args, tree = .call name args true ∧ Derives .call ts [.call name args false]
  | _ :: _ => holeDepth frames ≤ 8 ∧ Derives (.expression .atom) ts [tree]

def Phase.Holds (frames : List Frame) : Phase → List Token → Prop
  | .statement, ts => frames = [] ∧ ts = []
  | .target name, ts =>
      frames = [] ∧ ∃ v, Token.Spelled ⟨.variable, v⟩ ∧ name = variableName v ∧ ts = [⟨.variable, v⟩]
  | .callee name, ts => ∃ us, Token.Spelled ⟨.name, name⟩ ∧ Opened frames us ∧ ts = us ++ [⟨.name, name⟩]
  | .operand _, ts => holeDepth frames ≤ 7 ∧ Opened frames ts
  | .ended tree, ts => ∃ us vs, Opened frames us ∧ EndedAs frames vs tree ∧ ts = us ++ vs

def Reading.Holds (r : Reading) (ts : List Token) : Prop :=
  ∃ us vs, Derives .statements us r.statements.reverse ∧ r.phase.Holds r.frames vs ∧ ts = us ++ vs

theorem ofSpelling {t : Token} (kind : Terminal) (same : t.kind = kind) (spelled : t.Spelled)
    (fixed : kind.Spells = fun cs => cs = kind.spelling.toList) : t = kind.token := by
  obtain ⟨k, text⟩ := t
  cases same
  have chars : text.toList = k.spelling.toList := by
    have h : k.Spells text.toList := spelled
    rwa [fixed] at h
  rw [Terminal.token, String.toList_inj.mp chars]

theorem ofOperator {t : Token} {op} (same : t.kind = .operator op) (spelled : t.Spelled) :
    op ∈ Operator.known ∧ t = (Terminal.operator op).token := by
  obtain ⟨k, text⟩ := t
  cases same
  obtain ⟨known, chars⟩ : op ∈ Operator.known ∧ text.toList = op.symbol.toList := spelled
  exact ⟨known, by rw [Terminal.token, String.toList_inj.mp chars]; rfl⟩

theorem closedOne {f frames ts s ws tree} (opened : Opened (f :: frames) ts) (pending : f.isOperator = true)
    (fits : f.hole ≤ s.depth) (body : Derives (.expression s) ws [tree]) :
    ∃ us vs r, ts = us ++ vs ∧ Opened frames us ∧ holeDepth frames ≤ f.depth ∧ r.depth = f.depth ∧
      Derives (.expression r) (vs ++ ws) [f.close tree] := by
  cases opened with
  | minus outer deep => exact ⟨_, _, .unary, rfl, outer, deep, rfl, .minus (loosened fits body)⟩
  | negation outer deep => exact ⟨_, _, .unary, rfl, outer, deep, rfl, .negation (loosened fits body)⟩
  | @binary _ ts us op left known outer deep operand =>
    have right : op.rightRank.depth ≤ s.depth := by rw [rightRankDepth op known]; exact fits
    refine ⟨ts, us ++ [(Terminal.operator op).token], op.rank, by simp, outer, deep, rankDepth op known, ?_⟩
    simpa [Frame.close] using derivesBinary known operand (loosened right body)
  | _ => cases pending

theorem closedWhile {test : Frame → Bool} {n frames frames' ts s ws tree tree'}
    (sound : ∀ f, test f = true → f.isOperator = true ∧ n ≤ f.depth) (opened : Opened frames ts)
    (body : Derives (.expression s) ws [tree]) (fits : holeDepth frames ≤ s.depth) (deep : n ≤ s.depth)
    (closed : closeWhile test tree frames = (tree', frames')) :
    ∃ us vs r, ts ++ ws = us ++ vs ∧ Opened frames' us ∧ Derives (.expression r) vs [tree'] ∧
      n ≤ r.depth ∧ ∃ f fs, frames' = f :: fs ∧ test f = false := by
  induction frames generalizing ts s ws tree with
  | nil =>
    have bound := depthBound s
    simp only [holeDepth] at fits
    omega
  | cons f frames ih =>
    simp only [closeWhile] at closed
    split at closed
    · rename_i closes
      have pending := sound f closes
      obtain ⟨us, vs, r, split, outer, outside, depth, derived⟩ := closedOne opened pending.1 fits body
      obtain ⟨us', vs', q, joined, rest⟩ :=
        ih outer derived (by rw [depth]; exact outside) (by rw [depth]; exact pending.2) closed
      exact ⟨us', vs', q, by rw [← joined, split, List.append_assoc], rest⟩
    · rename_i stays
      cases closed
      exact ⟨ts, ws, s, rfl, opened, body, deep, f, frames, rfl, by simpa using stays⟩

theorem closedAll {frames frames' ts ws tree tree'} (opened : Opened frames ts)
    (body : Derives (.expression .atom) ws [tree]) (fits : holeDepth frames ≤ 8)
    (closed : closeAll tree frames = (tree', frames')) :
    ∃ us vs, ts ++ ws = us ++ vs ∧ Opened frames' us ∧ Derives (.expression .disjunction) vs [tree'] ∧
      ∃ f fs, frames' = f :: fs ∧ f.isOperator = false := by
  rw [closeAllWhile] at closed
  obtain ⟨us, vs, r, joined, outer, derived, -, stays⟩ :=
    closedWhile (n := 0) (fun f pending => ⟨pending, Nat.zero_le _⟩) opened body fits (Nat.zero_le _) closed
  exact ⟨us, vs, joined, outer, loosened (depthBound r).1 derived, stays⟩

theorem closedBefore {op frames frames' ts ws tree tree'} (known : op ∈ Operator.known)
    (opened : Opened frames ts) (body : Derives (.expression .atom) ws [tree])
    (fits : holeDepth frames ≤ 8) (closed : closeBefore op tree frames = (tree', frames')) :
    ∃ us vs, ts ++ ws = us ++ vs ∧ Opened frames' us ∧ Derives (.expression op.leftRank) vs [tree'] ∧
      holeDepth frames' ≤ op.level := by
  rw [closeBeforeWhile] at closed
  have bound := levelBound op
  have shallow : op.leftDepth ≤ Rank.atom.depth := by
    unfold Operator.leftDepth
    split
    · decide
    · exact Nat.le_trans bound.1 (by decide)
  obtain ⟨us, vs, r, joined, outer, derived, deep, f, fs, same, stays⟩ :=
    closedWhile (fun f closes => (closesBeforeDepth op f).mp closes) opened body fits shallow closed
  refine ⟨us, vs, joined, outer, loosened (by rw [leftRankDepth known]; exact deep) derived, ?_⟩
  rw [same]
  exact (closesBeforeHole known f).mp stays

theorem endedStatement {r r' : Reading} {frames us vs tree} (frame : r.frames = frames)
    (opened : Opened frames us) (ended : EndedAs frames vs tree) (result : r.endStatement tree = some r') :
    ∃ statement, r' = ⟨statement :: r.statements, [], .statement⟩ ∧
      Derives .statement (us ++ vs) [statement] := by
  simp only [Reading.endStatement, frame] at result
  cases frames with
  | nil =>
    obtain ⟨name, args, rfl, body⟩ := ended
    cases opened
    cases result
    exact ⟨_, rfl, .callStatement body⟩
  | cons f fs =>
    obtain ⟨fits, body⟩ := ended
    split at result
    · rename_i closed
      obtain ⟨xs, ys, joined, outer, derived, -⟩ := closedAll opened body fits closed
      cases outer with
      | assignment name =>
        cases result
        rw [joined]
        exact ⟨_, rfl, .assignment name derived⟩
    · rename_i closed
      obtain ⟨-, -, -, -, -, g, gs, same, -⟩ := closedAll opened body fits closed
      cases same
    · cases result

theorem beginStatementHolds {r r' : Reading} {t ts} (statements : Derives .statements ts r.statements.reverse)
    (frames : r.frames = []) (spelled : t.Spelled) (result : r.beginStatement t = some r') :
    r'.Holds (ts ++ [t]) := by
  obtain ⟨kind, text⟩ := t
  cases kind with
  | «variable» =>
    cases result
    exact ⟨ts, _, statements, ⟨frames, text, spelled, rfl, rfl⟩, rfl⟩
  | name =>
    cases result
    exact ⟨ts, _, statements, ⟨[], spelled, frames ▸ .nothing, rfl⟩, rfl⟩
  | _ => cases result

theorem endedAtom {frames vs} {tree : Tree Lexeme} (fits : holeDepth frames ≤ 8)
    (body : Derives (.expression .atom) vs [tree]) : EndedAs frames vs tree := by
  cases frames with
  | nil => exact absurd fits (by decide)
  | cons f fs => exact ⟨fits, body⟩

theorem endedCall {vs name args} (frames : List Frame) (body : Derives .call vs [.call name args false]) :
    EndedAs frames vs (.call name args frames.isEmpty) := by
  cases frames with
  | nil => exact ⟨name, args, rfl, body⟩
  | cons f fs => exact ⟨Nat.le_succ_of_le (holeWithin f fs), .callValue body⟩

theorem endedAll {f frames frames' us vs tree tree'} (opened : Opened frames us)
    (ended : EndedAs frames vs tree) (closed : closeAll tree frames = (tree', f :: frames')) :
    ∃ xs ys, us ++ vs = xs ++ ys ∧ Opened (f :: frames') xs ∧
      Derives (.expression .disjunction) ys [tree'] := by
  cases frames with
  | nil => cases closed
  | cons g gs =>
    obtain ⟨xs, ys, joined, outer, derived, -⟩ := closedAll opened ended.2 ended.1 closed
    exact ⟨xs, ys, joined, outer, derived⟩

theorem endedBefore {op f frames frames' us vs tree tree'} (known : op ∈ Operator.known)
    (opened : Opened frames us) (ended : EndedAs frames vs tree)
    (closed : closeBefore op tree frames = (tree', f :: frames')) :
    Opened (.binary op tree' :: f :: frames') (us ++ vs ++ [(Terminal.operator op).token]) := by
  cases frames with
  | nil => cases closed
  | cons g gs =>
    obtain ⟨xs, ys, joined, outer, left, deep⟩ := closedBefore known opened ended.2 ended.1 closed
    exact joined ▸ .binary known outer deep left

theorem itemsWith {us vs items item} (before : ItemsRead us items)
    (last : Derives (.expression .disjunction) vs [item]) :
    Derives .arguments (us ++ vs) (item :: items).reverse := by
  cases before with
  | none => exact .argument last
  | some body => simpa using Derives.argumentAfter body last

theorem operandStepHolds {r r' : Reading} {opened t us vs}
    (statements : Derives .statements us r.statements.reverse) (outer : Opened r.frames vs)
    (fits : holeDepth r.frames ≤ 7) (spelled : t.Spelled) (result : r.operandStep opened t = some r') :
    r'.Holds (us ++ vs ++ [t]) := by
  have within : holeDepth r.frames ≤ 8 := Nat.le_succ_of_le fits
  have atom {tree} (body : Derives (.expression .atom) [t] [tree]) :
      Reading.Holds { r with phase := .ended tree } (us ++ vs ++ [t]) :=
    ⟨us, vs ++ [t], statements, ⟨vs, [t], outer, endedAtom within body, rfl⟩, by simp⟩
  have push {frame opened} (inner : Opened (frame :: r.frames) (vs ++ [t])) :
      Reading.Holds { r with frames := frame :: r.frames, phase := .operand opened } (us ++ vs ++ [t]) :=
    ⟨us, vs ++ [t], statements, ⟨holeWithin _ _, inner⟩, by simp⟩
  unfold Reading.operandStep at result
  split at result
  case h_1 kind => cases result; obtain ⟨_, text⟩ := t; cases kind; exact atom (.number spelled)
  case h_2 kind => cases result; obtain ⟨_, text⟩ := t; cases kind; exact atom (.text spelled)
  case h_3 kind => cases result; rw [ofSpelling _ kind spelled rfl] at atom ⊢; exact atom .yes
  case h_4 kind => cases result; rw [ofSpelling _ kind spelled rfl] at atom ⊢; exact atom .no
  case h_5 kind => cases result; obtain ⟨_, text⟩ := t; cases kind; exact atom (.mention spelled)
  case h_6 kind =>
    cases result
    obtain ⟨_, text⟩ := t
    cases kind
    exact ⟨us, vs ++ [_], statements, ⟨vs, spelled, outer, rfl⟩, by simp⟩
  case h_7 kind => cases result; rw [(ofOperator kind spelled).2] at push ⊢; exact push (.minus outer fits)
  case h_8 kind => cases result; rw [ofSpelling _ kind spelled rfl] at push ⊢; exact push (.negation outer fits)
  case h_9 kind => cases result; rw [ofSpelling _ kind spelled rfl] at push ⊢; exact push (.group outer within)
  case h_10 kind =>
    cases result
    rw [ofSpelling _ kind spelled rfl] at push ⊢
    exact push (.list outer within .none)
  case h_11 kind =>
    rw [ofSpelling _ kind spelled rfl]
    split at result
    · rename_i frames same
      cases result
      rw [same] at outer
      cases outer with
      | call name outer before =>
        cases before
        exact ⟨us, _, statements, ⟨_, _, outer, endedCall frames (.emptyCall name), rfl⟩, by simp⟩
    · cases result
  case h_12 kind =>
    rw [ofSpelling _ kind spelled rfl]
    split at result
    · rename_i frames same
      cases result
      rw [same] at outer
      cases outer with
      | list outer inside before =>
        cases before
        exact ⟨us, _, statements, ⟨_, _, outer, endedAtom inside .emptyList, rfl⟩, by simp⟩
    · cases result
  case h_13 => cases result

theorem endedStepHolds {r r' : Reading} {tree t us vs ws}
    (statements : Derives .statements us r.statements.reverse) (outer : Opened r.frames vs)
    (ended : EndedAs r.frames ws tree) (spelled : t.Spelled) (result : r.endedStep tree t = some r') :
    r'.Holds (us ++ vs ++ ws ++ [t]) := by
  unfold Reading.endedStep at result
  split at result
  case h_1 op kind =>
    obtain ⟨known, same⟩ := ofOperator kind spelled
    rw [same]
    split at result
    · cases result
    · rename_i tree' frames' some closed
      cases result
      cases frames' with
      | nil => exact absurd rfl some
      | cons f fs =>
        have inner := endedBefore known outer ended closed
        exact ⟨us, _, statements, ⟨holeWithin _ _, inner⟩, by simp⟩
  case h_2 kind =>
    rw [ofSpelling _ kind spelled rfl]
    split at result
    · rename_i closed
      cases result
      obtain ⟨xs, ys, joined, opened, derived⟩ := endedAll outer ended closed
      cases opened with
      | list opened inside before =>
        have inner := Opened.list opened inside (.some (itemsWith before derived))
        exact ⟨us, _, statements, ⟨holeWithin _ _, inner⟩, by simp [joined]⟩
    · rename_i closed
      cases result
      obtain ⟨xs, ys, joined, opened, derived⟩ := endedAll outer ended closed
      cases opened with
      | call name opened before =>
        have inner := Opened.call name opened (.some (itemsWith before derived))
        exact ⟨us, _, statements, ⟨holeWithin _ _, inner⟩, by simp [joined]⟩
    · cases result
  case h_3 kind =>
    rw [ofSpelling _ kind spelled rfl]
    split at result
    · rename_i closed
      cases result
      obtain ⟨xs, ys, joined, opened, derived⟩ := endedAll outer ended closed
      cases opened with
      | group opened inside =>
        exact ⟨us, _, statements, ⟨_, _, opened, endedAtom inside (.group derived), rfl⟩, by
          simp [joined]⟩
    · rename_i closed
      cases result
      obtain ⟨xs, ys, joined, opened, derived⟩ := endedAll outer ended closed
      cases opened with
      | call name opened before =>
        have inner := Derives.call name (itemsWith before derived)
        exact ⟨us, _, statements, ⟨_, _, opened, endedCall _ inner, rfl⟩, by simp [joined]⟩
    · cases result
  case h_4 kind =>
    rw [ofSpelling _ kind spelled rfl]
    split at result
    · rename_i closed
      cases result
      obtain ⟨xs, ys, joined, opened, derived⟩ := endedAll outer ended closed
      cases opened with
      | list opened inside before =>
        have inner := Derives.list (itemsWith before derived)
        exact ⟨us, _, statements, ⟨_, _, opened, endedAtom inside inner, rfl⟩, by simp [joined]⟩
    · cases result
  case h_5 kind =>
    rw [ofSpelling _ kind spelled rfl]
    obtain ⟨statement, rfl, derived⟩ := endedStatement rfl outer ended result
    have more := Derives.oneMoreEnded statements derived
    rw [← List.reverse_cons] at more
    exact ⟨_, [], more, ⟨rfl, rfl⟩, by simp⟩
  case h_6 =>
    obtain ⟨r₁, stop, begin⟩ := Option.bind_eq_some_iff.mp result
    obtain ⟨statement, rfl, derived⟩ := endedStatement rfl outer ended stop
    have more := Derives.oneMore statements derived
    rw [← List.reverse_cons] at more
    simpa using beginStatementHolds more rfl spelled begin

theorem stepHolds {r r' : Reading} {t ts} (holds : r.Holds ts) (spelled : t.Spelled)
    (result : r.step t = some r') : r'.Holds (ts ++ [t]) := by
  obtain ⟨us, vs, statements, phase, rfl⟩ := holds
  obtain ⟨done, frames, current⟩ := r
  cases current with
  | statement =>
    obtain ⟨rfl, rfl⟩ := phase
    simpa using beginStatementHolds statements rfl spelled result
  | target name =>
    obtain ⟨rfl, v, written, rfl, rfl⟩ := phase
    simp only [Reading.step] at result
    split at result
    · rename_i kind
      cases result
      rw [ofSpelling .equal (by simpa using kind) spelled rfl]
      exact ⟨us, _, statements, ⟨by simp [holeDepth, Frame.hole], .assignment written⟩, by simp⟩
    · cases result
  | callee name =>
    obtain ⟨ws, written, outer, rfl⟩ := phase
    simp only [Reading.step] at result
    split at result
    · rename_i kind
      cases result
      rw [ofSpelling .leftParenthesis (by simpa using kind) spelled rfl]
      exact ⟨us, _, statements, ⟨holeWithin _ _, .call written outer .none⟩, by simp⟩
    · cases result
  | operand opened => exact operandStepHolds statements phase.2 phase.1 spelled result
  | ended tree =>
    obtain ⟨xs, ys, outer, ended, rfl⟩ := phase
    simpa using endedStepHolds statements outer ended spelled result

theorem finishDerives {r : Reading} {ts tree} (holds : r.Holds ts) (result : r.finish = some tree) :
    Derives .program ts [tree] := by
  obtain ⟨us, vs, statements, phase, rfl⟩ := holds
  obtain ⟨done, frames, current⟩ := r
  cases current with
  | statement =>
    obtain ⟨rfl, rfl⟩ := phase
    cases result
    simpa using Derives.program statements
  | ended tree =>
    obtain ⟨xs, ys, outer, ended, rfl⟩ := phase
    obtain ⟨r', stop, rfl⟩ := Option.map_eq_some_iff.mp result
    obtain ⟨statement, rfl, derived⟩ := endedStatement rfl outer ended stop
    simpa using Derives.program (Derives.oneMore statements derived)
  | _ => cases result

end CallScript.Syntax
