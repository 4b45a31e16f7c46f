import CallScript.Proofs.Language
import CallScript.Proofs.Literals

/-! Scripts written out. An operand stands in parentheses only where its operator binds more weakly than
its place asks; all tokens are set apart by single blanks. What is written is read back unchanged. -/
namespace CallScript.Syntax

def Literal.token : Literal → Token
  | ⟨.number, .int n⟩ => ⟨.number, toString n⟩
  | ⟨.text, .text s⟩ => ⟨.text, quotation s⟩
  | ⟨.truth, .bool b⟩ => if b then Terminal.trueWord.token else Terminal.falseWord.token
  | _ => Terminal.ending.token

def UnaryOperator.token : UnaryOperator → Token
  | .minus => (Terminal.operator (.arithmetic .subtract)).token
  | .negation => Terminal.bang.token
  | .unknown _ => Terminal.ending.token

def variableToken (name : String) : Token :=
  ⟨.variable, String.ofList ('$' :: name.toList)⟩

def Tree.rank {α : Type} : Tree α → Rank
  | .unary _ _ => .unary
  | .binary op _ _ => op.rank
  | _ => .atom

def enclosed (place own : Rank) (ts : List Token) : List Token :=
  if place.depth ≤ own.depth then ts
  else Terminal.leftParenthesis.token :: ts ++ [Terminal.rightParenthesis.token]

def separated : List (List Token) → List Token
  | [] => []
  | first :: rest => first ++ rest.flatMap (fun ts => Terminal.comma.token :: ts)

mutual

def Tree.written : Node → List Token
  | .program statements => (writtenEach statements).flatten
  | .assignment name value => variableToken name :: Terminal.equal.token :: value.written
  | .literal leaf => [leaf.token]
  | .variable name => [variableToken name]
  | .list items =>
      Terminal.leftBracket.token :: separated (writtenEach items) ++ [Terminal.rightBracket.token]
  | .unary op operand => op.token :: enclosed .unary operand.rank operand.written
  | .binary op left right =>
      enclosed op.leftRank left.rank left.written ++
        (Terminal.operator op).token :: enclosed op.rightRank right.rank right.written
  | .call name args _ =>
      ⟨.name, name⟩ :: Terminal.leftParenthesis.token :: separated (writtenEach args) ++
        [Terminal.rightParenthesis.token]
  | .foreign _ => []

def writtenEach : List Node → List (List Token)
  | [] => []
  | node :: rest => node.written :: writtenEach rest

end

theorem writtenEachMap (nodes : List Node) : writtenEach nodes = nodes.map Tree.written := by
  induction nodes with
  | nil => rfl
  | cons node nodes ih => rw [writtenEach, ih, List.map_cons]

inductive Phrase : Node → Prop where
  | number {n : Nat} (short : (toString n).length ≤ Number.integerDigitLimit) :
      Phrase (.literal ⟨.number, .int n⟩)
  | text {s} : Phrase (.literal ⟨.text, .text s⟩)
  | truth {b} : Phrase (.literal ⟨.truth, .bool b⟩)
  | mention {name : String} (spelled : Identifier name.toList) : Phrase (.variable name)
  | list {items} (each : ∀ item ∈ items, Phrase item) : Phrase (.list items)
  | unary {op operand} (known : op = .minus ∨ op = .negation) (inner : Phrase operand) :
      Phrase (.unary op operand)
  | binary {op left right} (known : op ∈ Operator.known) (first : Phrase left) (second : Phrase right) :
      Phrase (.binary op left right)
  | call {name : String} {args} (spelled : Identifier name.toList) (free : ¬ Word name)
      (each : ∀ arg ∈ args, Phrase arg) : Phrase (.call name args false)

inductive Sentence : Node → Prop where
  | assignment {name : String} {value} (spelled : Identifier name.toList) (inner : Phrase value) :
      Sentence (.assignment name value)
  | call {name : String} {args} (spelled : Identifier name.toList) (each : ∀ arg ∈ args, Phrase arg) :
      Sentence (.call name args true)

inductive WellFormed : Node → Prop where
  | program {statements} (each : ∀ s ∈ statements, Sentence s) : WellFormed (.program statements)

def Stands (s : Symbol) (ts : List Token) (nodes : List Node) : Prop :=
  ∃ trees, Derives s ts trees ∧ decodeAll Lexeme.literal trees = .ok nodes ∧ ∀ t ∈ trees, t.Unbarred Word

theorem decodeAllAppend {front back : List (Tree Lexeme)} {nodes more}
    (first : decodeAll Lexeme.literal front = .ok nodes) (second : decodeAll Lexeme.literal back = .ok more) :
    decodeAll Lexeme.literal (front ++ back) = .ok (nodes ++ more) := by
  induction front generalizing nodes with
  | nil =>
    cases first
    exact second
  | cons t front ih =>
    obtain ⟨node, rest, head, tail, rfl⟩ := decodeAllCons.mp first
    exact decodeAllCons.mpr ⟨node, rest ++ more, head, ih tail, rfl⟩

theorem standsOne {s ts node} : Stands s ts [node] ↔
    ∃ tree, Derives s ts [tree] ∧ tree.decode Lexeme.literal = .ok node ∧ tree.Unbarred Word := by
  constructor
  · rintro ⟨trees, derived, decoded, unbarred⟩
    cases trees with
    | nil => cases decoded
    | cons tree trees =>
      obtain ⟨_, _, head, tail, ⟨⟩⟩ := decodeAllCons.mp decoded
      cases trees with
      | nil => exact ⟨tree, derived, head, unbarred tree (by simp)⟩
      | cons other trees =>
        obtain ⟨_, _, -, -, ⟨⟩⟩ := decodeAllCons.mp tail
  · rintro ⟨tree, derived, decoded, unbarred⟩
    exact ⟨[tree], derived, decodeAllCons.mpr ⟨node, [], decoded, rfl, rfl⟩, by simpa using unbarred⟩

theorem unbarredWhole {tree : Tree Lexeme} (parts : List (Tree Lexeme)) {barred : String → Prop}
    (inside : ∀ t ∈ tree.subtrees, t = tree ∨ t ∈ allSubtrees parts)
    (own : ∀ name, tree.call? = some (name, false) → ¬ barred name)
    (each : ∀ t ∈ parts, t.Unbarred barred) : tree.Unbarred barred := by
  intro name mem
  obtain ⟨t, found, same⟩ := List.mem_filterMap.mp mem
  rcases inside t found with rfl | deeper
  · exact own name same
  · obtain ⟨part, mem, within⟩ := memAllSubtrees.mp deeper
    exact each part mem name (List.mem_filterMap.mpr ⟨t, within, same⟩)

theorem unbarredLeaf {tree : Tree Lexeme} {barred : String → Prop} (alone : tree.subtrees = [tree])
    (silent : tree.call? = none) : tree.Unbarred barred := by
  refine unbarredWhole [] (fun t mem => .inl ?_) (fun name same => ?_) (by simp)
  · rw [alone] at mem
    exact List.mem_singleton.mp mem
  · rw [silent] at same
    cases same

theorem standsEnclosed {place own ts node} (stands : Stands (.expression own) ts [node]) :
    Stands (.expression place) (enclosed place own ts) [node] := by
  obtain ⟨tree, derived, decoded, unbarred⟩ := standsOne.mp stands
  refine standsOne.mpr ⟨tree, ?_, decoded, unbarred⟩
  unfold enclosed
  split
  · exact loosened (by assumption) derived
  · have inner : Derives (.expression .disjunction) ts [tree] := loosened (depthBound own).1 derived
    exact loosened (s := .atom) (depthBound place).2 (.group inner)

theorem standsUnary {op ts operand} (known : op = .minus ∨ op = .negation)
    (inner : Stands (.expression .unary) ts [operand]) :
    Stands (.expression .unary) (op.token :: ts) [.unary op operand] := by
  obtain ⟨tree, derived, decoded, unbarred⟩ := standsOne.mp inner
  refine standsOne.mpr ⟨.unary op tree, ?_, unaryDecodes decoded, ?_⟩
  · rcases known with rfl | rfl
    · exact .minus derived
    · exact .negation derived
  · refine unbarredWhole [tree] (fun t mem => ?_) (by rintro _ ⟨⟩) (by simpa using unbarred)
    simpa [Tree.subtrees, allSubtrees] using mem

theorem standsBinary {op ls rs left right} (known : op ∈ Operator.known)
    (first : Stands (.expression op.leftRank) ls [left]) (second : Stands (.expression op.rightRank) rs [right]) :
    Stands (.expression op.rank) (ls ++ (Terminal.operator op).token :: rs) [.binary op left right] := by
  obtain ⟨a, derived, decoded, unbarred⟩ := standsOne.mp first
  obtain ⟨b, derived', decoded', unbarred'⟩ := standsOne.mp second
  refine standsOne.mpr ⟨.binary op a b, derivesBinary known derived derived', binaryDecodes decoded decoded', ?_⟩
  refine unbarredWhole [a, b] (fun t mem => ?_) (by rintro _ ⟨⟩) (by simpa using ⟨unbarred, unbarred'⟩)
  simpa [Tree.subtrees, allSubtrees] using mem

theorem standsAfter {ts before} (items : List Node) (earlier : Stands .arguments ts before)
    (each : ∀ item ∈ items, Stands (.expression .disjunction) item.written [item]) :
    Stands .arguments (ts ++ (items.map Tree.written).flatMap (fun us => Terminal.comma.token :: us))
      (before ++ items) := by
  induction items generalizing ts before with
  | nil => simpa using earlier
  | cons item items ih =>
    obtain ⟨trees, derived, decoded, unbarred⟩ := earlier
    obtain ⟨tree, more, denotes, free⟩ := standsOne.mp (each item (by simp))
    have next : Stands .arguments (ts ++ Terminal.comma.token :: item.written) (before ++ [item]) := by
      refine ⟨trees ++ [tree], .argumentAfter derived more, ?_, ?_⟩
      · exact decodeAllAppend decoded (decodeAllCons.mpr ⟨item, [], denotes, rfl, rfl⟩)
      · simpa [or_imp, forall_and] using ⟨unbarred, free⟩
    simpa using ih next (fun i mem => each i (by simp [mem]))

theorem standsItems {item : Node} {items : List Node}
    (each : ∀ i ∈ item :: items, Stands (.expression .disjunction) i.written [i]) :
    Stands .arguments (separated (writtenEach (item :: items))) (item :: items) := by
  rw [writtenEach, writtenEachMap, separated]
  obtain ⟨tree, derived, decoded, unbarred⟩ := standsOne.mp (each item (by simp))
  have first : Stands .arguments item.written [item] :=
    standsOne.mpr ⟨tree, .argument derived, decoded, unbarred⟩
  exact standsAfter items first (fun i mem => each i (by simp [mem]))

theorem standsList {items : List Node}
    (each : ∀ i ∈ items, Stands (.expression .disjunction) i.written [i]) :
    Stands (.expression .atom) (Tree.list items).written [.list items] := by
  rw [Tree.written]
  cases items with
  | nil => exact standsOne.mpr ⟨.list [], .emptyList, rfl, unbarredLeaf rfl rfl⟩
  | cons item items =>
    obtain ⟨trees, derived, decoded, unbarred⟩ := standsItems each
    refine standsOne.mpr ⟨.list trees, .list derived, listDecodes decoded, ?_⟩
    exact unbarredWhole trees (fun t mem => by simpa [Tree.subtrees] using mem) (by rintro _ ⟨⟩) unbarred

theorem callDerived {name : String} {args : List Node} (spelled : Identifier name.toList)
    (each : ∀ i ∈ args, Stands (.expression .disjunction) i.written [i]) (statement : Bool) :
    ∃ trees, Derives .call (Tree.call name args statement).written [.call name trees false] ∧
      decodeAll Lexeme.literal trees = .ok args ∧ ∀ t ∈ trees, t.Unbarred Word := by
  rw [Tree.written]
  cases args with
  | nil => exact ⟨[], .emptyCall spelled, rfl, by simp⟩
  | cons arg args =>
    obtain ⟨trees, derived, decoded, unbarred⟩ := standsItems each
    exact ⟨trees, .call spelled derived, decoded, unbarred⟩

theorem variableSpelled {name : String} (spelled : Identifier name.toList) : (variableToken name).Spelled :=
  ⟨name.toList, by simp [variableToken], spelled⟩

theorem variableNamed (name : String) : variableName (String.ofList ('$' :: name.toList)) = name := by
  simp [variableName]

theorem leafStands {ts : List Token} (leaf : Lexeme) {denoted}
    (derived : Derives (.expression .atom) ts [.literal leaf]) (denotes : leaf.literal = .ok denoted) :
    Stands (.expression .atom) ts [.literal denoted] := by
  exact standsOne.mpr ⟨.literal leaf, derived, literalDecodes denotes, unbarredLeaf rfl rfl⟩

theorem standsWeakest {r ts node} (stands : Stands (.expression r) ts [node]) :
    Stands (.expression .disjunction) ts [node] := by
  obtain ⟨tree, derived, rest⟩ := standsOne.mp stands
  exact standsOne.mpr ⟨tree, loosened (depthBound r).1 derived, rest⟩

theorem phraseStands {node} (phrase : Phrase node) :
    Stands (.expression node.rank) node.written [node] := by
  -- the induction is on the phrase: what is written for it derives it at its own rank
  induction phrase with
  | @number n short =>
    refine leafStands (.number (toString n)) (.number (naturalSpelled n)) ?_
    rw [Lexeme.literal, naturalDenotes short]
    rfl
  | @text s =>
    refine leafStands (.text (quotation s)) (.text (quotationSpelled s)) ?_
    rw [Lexeme.literal, quotationDenotes]
    rfl
  | @truth b =>
    cases b with
    | true => exact leafStands (.truth true) .yes rfl
    | false => exact leafStands (.truth false) .no rfl
  | @mention name spelled =>
    have derived := Derives.mention (variableSpelled spelled)
    rw [variableNamed] at derived
    exact standsOne.mpr ⟨.variable name, derived, rfl, unbarredLeaf rfl rfl⟩
  | list each ih => exact standsList (fun i mem => standsWeakest (ih i mem))
  | unary known inner ih =>
    rw [Tree.written]
    exact standsUnary known (standsEnclosed ih)
  | binary known first second ih ih' =>
    rw [Tree.written]
    exact standsBinary known (standsEnclosed ih) (standsEnclosed ih')
  | @call name args spelled free each ih =>
    obtain ⟨trees, derived, decoded, unbarred⟩ :=
      callDerived spelled (fun i mem => standsWeakest (ih i mem)) false
    refine standsOne.mpr ⟨.call name trees false, .callValue derived, callDecodes decoded, ?_⟩
    refine unbarredWhole trees (fun t mem => by simpa [Tree.subtrees] using mem) ?_ unbarred
    rintro _ ⟨⟩
    exact free

theorem sentenceStands {node} (sentence : Sentence node) : Stands .statement node.written [node] := by
  cases sentence with
  | @assignment name value spelled inner =>
    obtain ⟨tree, derived, decoded, unbarred⟩ := standsOne.mp (standsWeakest (phraseStands inner))
    have assigned := Derives.assignment (variableSpelled spelled) derived
    rw [variableNamed] at assigned
    refine standsOne.mpr ⟨.assignment name tree, assigned, assignmentDecodes decoded, ?_⟩
    refine unbarredWhole [tree] (fun t mem => ?_) (by rintro _ ⟨⟩) (by simpa using unbarred)
    simpa [Tree.subtrees, allSubtrees] using mem
  | @call name args spelled each =>
    obtain ⟨trees, derived, decoded, unbarred⟩ :=
      callDerived spelled (fun i mem => standsWeakest (phraseStands (each i mem))) true
    refine standsOne.mpr ⟨.call name trees true, .callStatement derived, callDecodes decoded, ?_⟩
    exact unbarredWhole trees (fun t mem => by simpa [Tree.subtrees] using mem) (by rintro _ ⟨⟩) unbarred

theorem sentencesStand {before ts} (statements : List Node) (earlier : Stands .statements ts before)
    (each : ∀ s ∈ statements, Sentence s) :
    Stands .statements (ts ++ (writtenEach statements).flatten) (before ++ statements) := by
  induction statements generalizing ts before with
  | nil => simpa [writtenEach] using earlier
  | cons statement statements ih =>
    obtain ⟨trees, derived, decoded, unbarred⟩ := earlier
    obtain ⟨tree, more, denotes, free⟩ := standsOne.mp (sentenceStands (each statement (by simp)))
    have next : Stands .statements (ts ++ statement.written) (before ++ [statement]) := by
      refine ⟨trees ++ [tree], .oneMore derived more, ?_, ?_⟩
      · exact decodeAllAppend decoded (decodeAllCons.mpr ⟨statement, [], denotes, rfl, rfl⟩)
      · simpa [or_imp, forall_and] using ⟨unbarred, free⟩
    simpa [writtenEach] using ih next (fun s mem => each s (by simp [mem]))

/- A well-formed script is read back from its text. -/
theorem parsesWritten {script : Node} (wellFormed : WellFormed script) :
    parse (spaced script.written) = .ok script := by
  obtain ⟨each⟩ := wellFormed
  rename_i statements
  have empty : Stands .statements [] [] := ⟨[], .noStatement, rfl, by simp⟩
  obtain ⟨trees, derived, decoded, unbarred⟩ := sentencesStand statements empty each
  have whole : (Tree.program trees).Unbarred Word :=
    unbarredWhole trees (fun t mem => by simpa [Tree.subtrees] using mem) (by rintro _ ⟨⟩) unbarred
  have read : readTree (spaced (Tree.program statements).written) = .ok (.program trees) :=
    readTreeSpaced (.program derived) whole
  exact parseDecodes.mpr ⟨.program trees, read, programDecodes decoded⟩

def differences : Node :=
  .program [.assignment "x" (.binary (.arithmetic .subtract) (.literal ⟨.number, .int 1⟩)
      (.binary (.arithmetic .subtract) (.variable "y") (.literal ⟨.text, .text "\"#\n"⟩))),
    .call "true" [.unary .minus (.variable "x")] true]

theorem differencesParsed : spaced differences.written = "$x = 1 - ( $y - \"\\\"#\\n\" ) true ( - $x )" ∧
    parse (spaced differences.written) = .ok differences := by
  have letter : ∀ c, isNameStart c = true → Identifier [c] := fun c start => ⟨c, [], rfl, start, by simp⟩
  refine ⟨rfl, parsesWritten (.program (List.forall_mem_cons.mpr ⟨?_, List.forall_mem_singleton.mpr ?_⟩))⟩
  · have inner : Phrase (.binary (.arithmetic .subtract) (.variable "y") (.literal ⟨.text, .text "\"#\n"⟩)) :=
      .binary (by decide) (.mention (letter 'y' rfl)) .text
    exact .assignment (letter 'x' rfl) (.binary (by decide) (.number (by decide)) inner)
  · refine .call trueIdentifier (List.forall_mem_singleton.mpr ?_)
    exact .unary (.inl rfl) (.mention (letter 'x' rfl))

end CallScript.Syntax
