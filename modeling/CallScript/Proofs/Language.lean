import CallScript.Evaluation
import CallScript.Proofs.Tokens

/-! The language of scripts is the one of the grammar. An accepted text consists of tokens that derive a
tree, and the script is that tree with its literals decoded; tokens that derive a tree are accepted when
they are written with single blanks between them. -/
namespace CallScript.Syntax

def spaced (tokens : List Token) : String :=
  String.ofList (Text.joined ' ' (tokens.map (fun t => t.text.toList)))

def Token.Denotes (t : Token) : Prop :=
  (t.kind = .number → ∃ v, numberLiteral t.text = .ok v) ∧
    (t.kind = .text → ∃ v, textLiteral t.text = .ok v)

theorem oneBlank {t : Token} (ts : List Token) (spelled : t.Spelled) :
    skippedWidth (' ' :: Text.joined ' ' ((t :: ts).map (fun t => t.text.toList))) = 1 := by
  obtain ⟨c, more, chars, solid, -⟩ := spelledSolid spelled
  obtain ⟨rest, same⟩ : ∃ rest, Text.joined ' ' ((t :: ts).map (fun t => t.text.toList)) = c :: rest := by
    rw [List.map_cons, chars, Text.joined_cons_cons]
    exact ⟨_, rfl⟩
  rw [same, skippedWidth, List.takeWhile_cons, List.takeWhile_cons, solid]
  · rfl
  · rintro _ ⟨⟩

theorem takesReads {r r' ts} (takes : Takes Word r ts r') (spelled : AllSpelled ts) :
    Reads r (Text.joined ' ' (ts.map (fun t => t.text.toList))) ts r' [] := by
  induction takes with
  | nothing => exact .here
  | @token r next r' t ts free step rest ih =>
    obtain ⟨head, tail⟩ := allSpelledCons.mp spelled
    have reads := ih tail
    cases ts with
    | nil => simpa [Text.joined] using readsToken head free step (.inl rfl) reads
    | cons u us =>
      have one := oneBlank us (allSpelledCons.mp tail).1
      have after : Reads next (' ' :: Text.joined ' ' ((u :: us).map (fun t => t.text.toList))) (u :: us) r' [] :=
        .skip (one ▸ Nat.one_pos) (by rw [one]; exact reads)
      exact readsToken head free step (.inr ⟨' ', by simp, _, rfl⟩) after

def Tree.Decodes (tree : Tree Lexeme) : Prop :=
  ∃ node, tree.decode Lexeme.literal = .ok node

theorem exceptBind {ε α β : Type} {x : Except ε α} {f : α → Except ε β} {b : β} :
    (x >>= f) = .ok b ↔ ∃ a, x = .ok a ∧ f a = .ok b := by
  cases x with
  | error e => exact ⟨by rintro ⟨⟩, by rintro ⟨_, ⟨⟩, -⟩⟩
  | ok a =>
    constructor
    · exact fun same => ⟨a, rfl, same⟩
    · rintro ⟨_, ⟨⟩, same⟩
      exact same

theorem decodeAllCons {tree : Tree Lexeme} {trees nodes} :
    decodeAll Lexeme.literal (tree :: trees) = .ok nodes ↔ ∃ node rest,
      tree.decode Lexeme.literal = .ok node ∧ decodeAll Lexeme.literal trees = .ok rest ∧
        nodes = node :: rest := by
  rw [decodeAll]
  cases tree.decode Lexeme.literal with
  | error f => exact ⟨by rintro ⟨⟩, by rintro ⟨_, _, ⟨⟩, -⟩⟩
  | ok node =>
    cases decodeAll Lexeme.literal trees with
    | error f => exact ⟨by rintro ⟨⟩, by rintro ⟨_, _, -, ⟨⟩, -⟩⟩
    | ok rest =>
      constructor
      · rintro ⟨⟩
        exact ⟨node, rest, rfl, rfl, rfl⟩
      · rintro ⟨_, _, ⟨⟩, ⟨⟩, rfl⟩
        rfl

theorem decodeAllOk {trees : List (Tree Lexeme)} (each : ∀ t ∈ trees, t.Decodes) :
    ∃ nodes, decodeAll Lexeme.literal trees = .ok nodes := by
  induction trees with
  | nil => exact ⟨[], rfl⟩
  | cons t trees ih =>
    obtain ⟨⟨node, head⟩, others⟩ := List.forall_mem_cons.mp each
    obtain ⟨rest, tail⟩ := ih others
    exact ⟨node :: rest, decodeAllCons.mpr ⟨node, rest, head, tail, rfl⟩⟩

section Decoding

variable {trees : List (Tree Lexeme)} {nodes : List Node}

theorem programDecodes (decoded : decodeAll Lexeme.literal trees = .ok nodes) :
    (Tree.program trees).decode Lexeme.literal = .ok (.program nodes) := by
  rw [Tree.decode, decoded]
  rfl

theorem listDecodes (decoded : decodeAll Lexeme.literal trees = .ok nodes) :
    (Tree.list trees).decode Lexeme.literal = .ok (.list nodes) := by
  rw [Tree.decode, decoded]
  rfl

theorem callDecodes {name statement} (decoded : decodeAll Lexeme.literal trees = .ok nodes) :
    (Tree.call name trees statement).decode Lexeme.literal = .ok (.call name nodes statement) := by
  rw [Tree.decode, decoded]
  rfl

theorem callArgumentsDecode {name statement} (decodes : (Tree.call name trees statement).Decodes) :
    ∃ nodes, decodeAll Lexeme.literal trees = .ok nodes := by
  obtain ⟨node, decoded⟩ := decodes
  obtain ⟨nodes, each, -⟩ := exceptBind.mp (by rwa [Tree.decode] at decoded)
  exact ⟨nodes, each⟩

theorem literalDecodes {leaf : Lexeme} {value} (denotes : leaf.literal = .ok value) :
    (Tree.literal leaf).decode Lexeme.literal = .ok (.literal value) := by
  rw [Tree.decode, denotes]
  rfl

theorem assignmentDecodes {name} {value : Tree Lexeme} {node}
    (decoded : value.decode Lexeme.literal = .ok node) :
    (Tree.assignment name value).decode Lexeme.literal = .ok (.assignment name node) := by
  rw [Tree.decode, decoded]
  rfl

theorem unaryDecodes {op} {operand : Tree Lexeme} {node} (decoded : operand.decode Lexeme.literal = .ok node) :
    (Tree.unary op operand).decode Lexeme.literal = .ok (.unary op node) := by
  rw [Tree.decode, decoded]
  rfl

theorem binaryDecodes {op} {left right : Tree Lexeme} {a b} (first : left.decode Lexeme.literal = .ok a)
    (second : right.decode Lexeme.literal = .ok b) :
    (Tree.binary op left right).decode Lexeme.literal = .ok (.binary op a b) := by
  rw [Tree.decode, first, second]
  rfl

end Decoding

theorem derivedDecodes {s ts trees} (derived : Derives s ts trees) (denotes : ∀ t ∈ ts, t.Denotes) :
    ∀ tree ∈ trees, tree.Decodes := by
  induction derived with
  | program body ih =>
    obtain ⟨nodes, decoded⟩ := decodeAllOk (ih denotes)
    exact List.forall_mem_singleton.mpr ⟨.program nodes, programDecodes decoded⟩
  | noStatement => simp
  | oneMore before last ih ih' =>
    rw [List.forall_mem_append] at denotes ⊢
    exact ⟨ih denotes.1, ih' denotes.2⟩
  | oneMoreEnded before last ih ih' =>
    simp only [List.forall_mem_append] at denotes
    exact List.forall_mem_append.mpr ⟨ih denotes.1.1, ih' denotes.1.2⟩
  | assignment name value ih =>
    simp only [List.forall_mem_cons] at denotes
    obtain ⟨node, decoded⟩ := List.forall_mem_singleton.mp (ih denotes.2.2)
    exact List.forall_mem_singleton.mpr ⟨_, assignmentDecodes decoded⟩
  | callStatement body ih =>
    obtain ⟨nodes, decoded⟩ := callArgumentsDecode (List.forall_mem_singleton.mp (ih denotes))
    exact List.forall_mem_singleton.mpr ⟨_, callDecodes decoded⟩
  | tighter next body ih => exact ih denotes
  | leftward mem next left right ih ih' | power left right ih ih' =>
    simp only [List.forall_mem_append, List.forall_mem_cons] at denotes
    obtain ⟨a, first⟩ := List.forall_mem_singleton.mp (ih denotes.1)
    obtain ⟨b, second⟩ := List.forall_mem_singleton.mp (ih' denotes.2.2)
    exact List.forall_mem_singleton.mpr ⟨_, binaryDecodes first second⟩
  | minus operand ih | negation operand ih =>
    simp only [List.forall_mem_cons] at denotes
    obtain ⟨node, decoded⟩ := List.forall_mem_singleton.mp (ih denotes.2)
    exact List.forall_mem_singleton.mpr ⟨_, unaryDecodes decoded⟩
  | @number s spelled =>
    obtain ⟨v, value⟩ := (denotes ⟨.number, s⟩ (by simp)).1 rfl
    have leaf : (Lexeme.number s).literal = .ok ⟨.number, v⟩ := by
      rw [Lexeme.literal, show numberLiteral s = .ok v from value]
      rfl
    exact List.forall_mem_singleton.mpr ⟨_, literalDecodes leaf⟩
  | @text s spelled =>
    obtain ⟨v, value⟩ := (denotes ⟨.text, s⟩ (by simp)).2 rfl
    have leaf : (Lexeme.text s).literal = .ok ⟨.text, v⟩ := by
      rw [Lexeme.literal, show textLiteral s = .ok v from value]
      rfl
    exact List.forall_mem_singleton.mpr ⟨_, literalDecodes leaf⟩
  | yes | no | mention | emptyList => exact List.forall_mem_singleton.mpr ⟨_, rfl⟩
  | callValue body ih => exact ih denotes
  | list body ih =>
    simp only [List.forall_mem_append, List.forall_mem_cons] at denotes
    obtain ⟨nodes, decoded⟩ := decodeAllOk (ih denotes.1.2)
    exact List.forall_mem_singleton.mpr ⟨_, listDecodes decoded⟩
  | group body ih =>
    simp only [List.forall_mem_append, List.forall_mem_cons] at denotes
    exact ih denotes.1.2
  | emptyCall name => exact List.forall_mem_singleton.mpr ⟨_, rfl⟩
  | call name body ih =>
    simp only [List.forall_mem_append, List.forall_mem_cons] at denotes
    obtain ⟨nodes, decoded⟩ := decodeAllOk (ih denotes.1.2.2)
    exact List.forall_mem_singleton.mpr ⟨_, callDecodes decoded⟩
  | argument body ih => exact ih denotes
  | argumentAfter before last ih ih' =>
    rw [List.forall_mem_append] at denotes
    exact List.forall_mem_append.mpr ⟨ih denotes.1, ih' (List.forall_mem_cons.mp denotes.2).2⟩

theorem parseDecodes {source node} : parse source = .ok node ↔
    ∃ tree, readTree source = .ok tree ∧ tree.decode Lexeme.literal = .ok node := by
  unfold parse
  cases readTree source with
  | error misfit => simp
  | ok tree =>
    cases decoded : tree.decode Lexeme.literal with
    | error f => simp [decoded]
    | ok other => simp [decoded]

theorem startHolds : Reading.start.Holds [] :=
  ⟨[], [], .noStatement, ⟨rfl, rfl⟩, rfl⟩

theorem readTreeDerives {source tree} (read : readTree source = .ok tree) :
    ∃ tokens, Consumed source tokens ∧ Derives .program tokens [tree] := by
  obtain ⟨tokens, r, reads, finish⟩ := runReads read
  exact ⟨tokens, ⟨r, reads⟩, finishDerives (readsHolds reads startHolds) finish⟩

theorem readTreeSpaced {tokens tree} (derived : Derives .program tokens [tree])
    (unbarred : tree.Unbarred Word) : readTree (spaced tokens) = .ok tree := by
  obtain ⟨r, takes, finish⟩ := programTakes Word derived unbarred
  have reads := takesReads takes (derivedSpelled derived)
  rw [readTree, spaced, String.toList_ofList]
  exact readsRun reads finish _ _

/- Exactly the language of the grammar is accepted, each script as the one tree that it derives. -/
theorem parsesLanguage :
    (∀ source node, parse source = .ok node → ∃ tokens tree,
      Consumed source tokens ∧ Derives .program tokens [tree] ∧ tree.decode Lexeme.literal = .ok node) ∧
    (∀ tokens tree, Derives .program tokens [tree] → tree.Unbarred Word → (∀ t ∈ tokens, t.Denotes) →
      ∃ node, tree.decode Lexeme.literal = .ok node ∧ parse (spaced tokens) = .ok node) ∧
    (∀ tokens tree other, Derives .program tokens [tree] → Derives .program tokens [other] →
      tree = other) := by
  refine ⟨fun source node parsed => ?_, fun tokens tree derived unbarred denotes => ?_,
    fun _ _ _ => programUnique⟩
  · obtain ⟨tree, read, decoded⟩ := parseDecodes.mp parsed
    obtain ⟨tokens, consumed, derived⟩ := readTreeDerives read
    exact ⟨tokens, tree, consumed, derived, decoded⟩
  · obtain ⟨node, decoded⟩ := derivedDecodes derived denotes tree (by simp)
    exact ⟨node, decoded, parseDecodes.mpr ⟨tree, readTreeSpaced derived unbarred, decoded⟩⟩

def powers : List Token :=
  [⟨.name, "f"⟩, Terminal.leftParenthesis.token, ⟨.number, "2"⟩,
    (Terminal.operator (.arithmetic .power)).token, ⟨.number, "3"⟩,
    (Terminal.operator (.arithmetic .power)).token, ⟨.number, "2"⟩, Terminal.rightParenthesis.token]

def powersTree : Tree Lexeme :=
  .program [.call "f" [.binary (.arithmetic .power) (.literal (.number "2"))
    (.binary (.arithmetic .power) (.literal (.number "3")) (.literal (.number "2")))] true]

theorem powersDerived : Derives .program powers [powersTree] := by
  have number : ∀ {d : Char} (r : Rank), Text.isDigit d = true →
      Derives (.expression r) [⟨.number, d.toString⟩] [.literal (.number d.toString)] := by
    intro d r digit
    refine loosened (s := .atom) (by cases r <;> decide) (.number ⟨[d], [], .whole ⟨by simp, ?_⟩, .absent, ?_⟩)
    · simpa using digit
    · simp [Char.toString]
  have right := Derives.power (number (d := '3') .unary rfl) (number (d := '2') .power rfl)
  have chain := Derives.power (number (d := '2') .unary rfl) right
  have whole := Derives.call (n := "f") ⟨'f', [], rfl, rfl, by simp⟩
    (.argument (loosened (r := .disjunction) (by decide) chain))
  exact .program (.oneMore .noStatement (.callStatement whole))

theorem powersParsed : spaced powers = "f ( 2 ^ 3 ^ 2 )" ∧ ∃ node,
    powersTree.decode Lexeme.literal = .ok node ∧ parse (spaced powers) = .ok node := by
  refine ⟨rfl, parsesLanguage.2.1 powers powersTree powersDerived ?_ ?_⟩
  · intro name mem
    cases mem with
    | tail _ mem => cases mem
  · have number {d n} (denotes : numberLiteral d = .ok n) : Token.Denotes ⟨.number, d⟩ :=
      ⟨fun _ => ⟨n, denotes⟩, by rintro ⟨⟩⟩
    have other {t : Token} (noNumber : t.kind ≠ .number) (noText : t.kind ≠ .text) : t.Denotes :=
      ⟨fun kind => absurd kind noNumber, fun kind => absurd kind noText⟩
    simp only [powers, List.forall_mem_cons]
    exact ⟨other (by decide) (by decide), other (by decide) (by decide), number rfl, other (by decide) (by decide),
      number rfl, other (by decide) (by decide), number rfl, other (by decide) (by decide), by simp⟩

end CallScript.Syntax
