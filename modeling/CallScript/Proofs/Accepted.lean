import CallScript.Proofs.Beginnings
import CallScript.Proofs.Unsigned

/-! What accepted scripts look like. A script is a list of statements, each of them assigns or calls, and below
them stand expressions only. Every place of a reading holds such trees, whatever tokens led there. -/
namespace CallScript.Syntax

inductive Tree.IsExpression {α : Type} (leaf : α → Prop) : Tree α → Prop where
  | literal {l} (sound : leaf l) : IsExpression leaf (.literal l)
  | mention {name : String} (spelled : Identifier name.toList) : IsExpression leaf (.variable name)
  | list {items} (each : ∀ item ∈ items, IsExpression leaf item) : IsExpression leaf (.list items)
  | unary {op operand} (known : op = .minus ∨ op = .negation) (inner : IsExpression leaf operand) :
      IsExpression leaf (.unary op operand)
  | binary {op left right} (known : op ∈ Operator.known) (first : IsExpression leaf left)
      (second : IsExpression leaf right) : IsExpression leaf (.binary op left right)
  | call {name : String} {args} (spelled : Identifier name.toList) (free : ¬ Word name)
      (each : ∀ arg ∈ args, IsExpression leaf arg) : IsExpression leaf (.call name args false)

inductive Tree.IsStatement {α : Type} (leaf : α → Prop) : Tree α → Prop where
  | assignment {name : String} {value} (spelled : Identifier name.toList) (inner : value.IsExpression leaf) :
      IsStatement leaf (.assignment name value)
  | call {name : String} {args} (spelled : Identifier name.toList) (each : ∀ arg ∈ args, arg.IsExpression leaf) :
      IsStatement leaf (.call name args true)

inductive Tree.IsScript {α : Type} (leaf : α → Prop) : Tree α → Prop where
  | program {statements} (each : ∀ s ∈ statements, s.IsStatement leaf) : IsScript leaf (.program statements)

def Lexeme.Spelled : Lexeme → Prop
  | .number spelling => Token.Spelled ⟨.number, spelling⟩
  | .text spelling => Token.Spelled ⟨.text, spelling⟩
  | .truth _ => True

abbrev Tree.Expressed (tree : Tree Lexeme) : Prop := tree.IsExpression Lexeme.Spelled

abbrev Tree.Stated (tree : Tree Lexeme) : Prop := tree.IsStatement Lexeme.Spelled

def Frame.Inner : Frame → Prop
  | .assignment _ => False
  | .unary op => op = .minus ∨ op = .negation
  | .binary op left => op ∈ Operator.known ∧ left.Expressed
  | .group => True
  | .list items => ∀ item ∈ items, item.Expressed
  | .call name args => Identifier name.toList ∧ ¬ Word name ∧ ∀ arg ∈ args, arg.Expressed

/- The constructs around an operand: the outermost one begins the statement. -/
inductive Within : List Frame → Prop where
  | assignment {name : String} (spelled : Identifier name.toList) : Within [.assignment name]
  | call {name : String} {args} (spelled : Identifier name.toList) (each : ∀ arg ∈ args, arg.Expressed) :
      Within [.call name args]
  | inner {f frames} (holds : f.Inner) (outer : Within frames) : Within (f :: frames)

def Phase.Sound (frames : List Frame) : Phase → Prop
  | .statement => frames = []
  | .target name => frames = [] ∧ Identifier name.toList
  | .callee name => Identifier name.toList ∧ (frames = [] ∨ Within frames ∧ ¬ Word name)
  | .operand _ => Within frames
  | .ended tree => frames = [] ∧ tree.Stated ∨ Within frames ∧ tree.Expressed

structure Reading.Sound (r : Reading) : Prop where
  statements : ∀ s ∈ r.statements, s.Stated
  phase : r.phase.Sound r.frames

theorem startSound : Reading.start.Sound :=
  ⟨by simp [Reading.start], rfl⟩

theorem variableIdentified {v : String} (spelled : Token.Spelled ⟨.variable, v⟩) :
    Identifier (variableName v).toList := by
  obtain ⟨rest, chars, name⟩ : ∃ rest, v.toList = '$' :: rest ∧ Identifier rest := spelled
  rw [variableName, chars, String.toList_ofList]
  exact name

theorem withinSome {frames : List Frame} (within : Within frames) : frames.isEmpty = false := by
  cases within <;> rfl

theorem closedExpressed {f : Frame} {frames : List Frame} {tree : Tree Lexeme} (within : Within (f :: frames))
    (pending : f.isOperator = true) (expressed : tree.Expressed) : Within frames ∧ (f.close tree).Expressed := by
  cases within with
  | assignment | call => cases pending
  | inner holds outer =>
    cases f with
    | unary op => exact ⟨outer, .unary holds expressed⟩
    | binary op left => exact ⟨outer, .binary holds.1 holds.2 expressed⟩
    | _ => cases pending

theorem closedWhileExpressed {test : Frame → Bool} {frames frames' : List Frame} {tree tree' : Tree Lexeme}
    (pending : ∀ f, test f = true → f.isOperator = true) (within : Within frames) (expressed : tree.Expressed)
    (closed : closeWhile test tree frames = (tree', frames')) : Within frames' ∧ tree'.Expressed := by
  induction frames generalizing tree with
  | nil => cases within
  | cons f frames ih =>
    rw [closeWhile] at closed
    split at closed
    · rename_i closes
      obtain ⟨outer, larger⟩ := closedExpressed within (pending f closes) expressed
      exact ih outer larger closed
    · cases closed
      exact ⟨within, expressed⟩

section Closing

variable {frames frames' : List Frame} {tree tree' : Tree Lexeme}

theorem closedAllExpressed (within : Within frames) (expressed : tree.Expressed)
    (closed : closeAll tree frames = (tree', frames')) : Within frames' ∧ tree'.Expressed :=
  closedWhileExpressed (fun _ => id) within expressed ((closeAllWhile tree frames).symm.trans closed)

theorem closedBeforeExpressed {op : Operator} (within : Within frames) (expressed : tree.Expressed)
    (closed : closeBefore op tree frames = (tree', frames')) : Within frames' ∧ tree'.Expressed :=
  closedWhileExpressed (fun f closes => ((closesBeforeDepth op f).mp closes).1) within expressed
    ((closeBeforeWhile op tree frames).symm.trans closed)

theorem endedWithin {f : Frame} (ended : (Phase.ended tree).Sound frames)
    (closed : closeAll tree frames = (tree', f :: frames')) : Within (f :: frames') ∧ tree'.Expressed := by
  rcases ended with ⟨rfl, -⟩ | ⟨within, expressed⟩
  · cases closed
  · exact closedAllExpressed within expressed closed

/- A call that is closed stands alone exactly where nothing is open around it. -/
theorem endedCallSound {name : String} {args all : List (Tree Lexeme)} (within : Within (.call name args :: frames))
    (each : (∀ arg ∈ args, arg.Expressed) → ∀ arg ∈ all, arg.Expressed) :
    (Phase.ended (.call name all frames.isEmpty)).Sound frames := by
  cases within with
  | call spelled before => exact .inl ⟨rfl, .call spelled (each before)⟩
  | inner holds outer =>
    obtain ⟨spelled, free, before⟩ := holds
    rw [withinSome outer]
    exact .inr ⟨outer, .call spelled free (each before)⟩

end Closing

theorem expressedItems {item : Tree Lexeme} {items : List (Tree Lexeme)} (last : item.Expressed)
    (before : ∀ i ∈ items, i.Expressed) : ∀ i ∈ (item :: items).reverse, i.Expressed := by
  simp only [List.mem_reverse, List.forall_mem_cons]
  exact ⟨last, before⟩

theorem endedStatementSound {r r' : Reading} {tree} (statements : ∀ s ∈ r.statements, s.Stated)
    (ended : (Phase.ended tree).Sound r.frames) (result : r.endStatement tree = some r') :
    r'.Sound ∧ r'.phase = .statement := by
  rw [Reading.endStatement] at result
  split at result
  · rename_i value name closed
    cases result
    obtain ⟨within, expressed⟩ := endedWithin ended closed
    cases within with
    | assignment spelled =>
      exact ⟨⟨List.forall_mem_cons.mpr ⟨.assignment spelled expressed, statements⟩, rfl⟩, rfl⟩
    | inner holds => cases holds
  · rename_i statement closed
    cases result
    rcases ended with ⟨none, stated⟩ | ⟨within, expressed⟩
    · rw [none] at closed
      cases closed
      exact ⟨⟨List.forall_mem_cons.mpr ⟨stated, statements⟩, rfl⟩, rfl⟩
    · cases (closedAllExpressed within expressed closed).1
  · cases result

theorem beginStatementSound {r r' : Reading} {t} (statements : ∀ s ∈ r.statements, s.Stated)
    (none : r.frames = []) (spelled : t.Spelled) (result : r.beginStatement t = some r') : r'.Sound := by
  obtain ⟨kind, text⟩ := t
  cases kind with
  | «variable» =>
    cases result
    exact ⟨statements, none, variableIdentified spelled⟩
  | name =>
    cases result
    exact ⟨statements, spelled, .inl none⟩
  | _ => cases result

theorem operandStepSound {r r' : Reading} {opened t} (statements : ∀ s ∈ r.statements, s.Stated)
    (within : Within r.frames) (spelled : t.Spelled) (free : t.kind = .name → ¬ Word t.text)
    (result : r.operandStep opened t = some r') : r'.Sound := by
  have ended {tree : Tree Lexeme} (expressed : tree.Expressed) :
      Reading.Sound { r with phase := .ended tree } := ⟨statements, .inr ⟨within, expressed⟩⟩
  have push {frame opened} (holds : Frame.Inner frame) :
      Reading.Sound { r with frames := frame :: r.frames, phase := .operand opened } :=
    ⟨statements, .inner holds within⟩
  obtain ⟨kind, text⟩ := t
  unfold Reading.operandStep at result
  split at result
  case h_1 same => cases same; cases result; exact ended (.literal spelled)
  case h_2 same => cases same; cases result; exact ended (.literal spelled)
  case h_3 => cases result; exact ended (.literal trivial)
  case h_4 => cases result; exact ended (.literal trivial)
  case h_5 same => cases same; cases result; exact ended (.mention (variableIdentified spelled))
  case h_6 same => cases same; cases result; exact ⟨statements, spelled, .inr ⟨within, free rfl⟩⟩
  case h_7 => cases result; exact push (.inl rfl)
  case h_8 => cases result; exact push (.inr rfl)
  case h_9 => cases result; exact push trivial
  case h_10 => cases result; exact push (by simp [Frame.Inner])
  case h_11 =>
    split at result
    · rename_i frames same
      cases result
      rw [same] at within
      exact ⟨statements, endedCallSound within id⟩
    · cases result
  case h_12 =>
    split at result
    · rename_i frames same
      cases result
      rw [same] at within
      cases within with
      | inner holds outer => exact ⟨statements, .inr ⟨outer, .list (by simp)⟩⟩
    · cases result
  case h_13 => cases result

theorem endedStepSound {r r' : Reading} {tree t} (statements : ∀ s ∈ r.statements, s.Stated)
    (ended : (Phase.ended tree).Sound r.frames) (spelled : t.Spelled)
    (result : r.endedStep tree t = some r') : r'.Sound := by
  unfold Reading.endedStep at result
  split at result
  case h_1 op kind =>
    split at result
    · cases result
    · rename_i operand frames some closed
      cases result
      rcases ended with ⟨none, -⟩ | ⟨within, expressed⟩
      · rw [none] at closed
        cases closed
        exact absurd rfl some
      · obtain ⟨outer, left⟩ := closedBeforeExpressed within expressed closed
        exact ⟨statements, .inner ⟨(ofOperator kind spelled).1, left⟩ outer⟩
  case h_2 =>
    split at result
    · rename_i closed
      cases result
      obtain ⟨within, expressed⟩ := endedWithin ended closed
      cases within with
      | inner holds outer => exact ⟨statements, .inner (List.forall_mem_cons.mpr ⟨expressed, holds⟩) outer⟩
    · rename_i closed
      cases result
      obtain ⟨within, expressed⟩ := endedWithin ended closed
      cases within with
      | call spelled before => exact ⟨statements, .call spelled (List.forall_mem_cons.mpr ⟨expressed, before⟩)⟩
      | inner holds outer =>
        exact ⟨statements, .inner ⟨holds.1, holds.2.1, List.forall_mem_cons.mpr ⟨expressed, holds.2.2⟩⟩ outer⟩
    · cases result
  case h_3 =>
    split at result
    · rename_i closed
      cases result
      obtain ⟨within, expressed⟩ := endedWithin ended closed
      cases within with
      | inner holds outer => exact ⟨statements, .inr ⟨outer, expressed⟩⟩
    · rename_i closed
      cases result
      obtain ⟨within, expressed⟩ := endedWithin ended closed
      exact ⟨statements, endedCallSound within (expressedItems expressed)⟩
    · cases result
  case h_4 =>
    split at result
    · rename_i closed
      cases result
      obtain ⟨within, expressed⟩ := endedWithin ended closed
      cases within with
      | inner holds outer => exact ⟨statements, .inr ⟨outer, .list (expressedItems expressed holds)⟩⟩
    · cases result
  case h_5 => exact (endedStatementSound statements ended result).1
  case h_6 =>
    obtain ⟨r₁, stop, begin⟩ := Option.bind_eq_some_iff.mp result
    obtain ⟨sound, phase⟩ := endedStatementSound statements ended stop
    have none : r₁.frames = [] := by simpa [phase, Phase.Sound] using sound.phase
    exact beginStatementSound sound.statements none spelled begin

theorem stepSound {r r' : Reading} {t} (sound : r.Sound) (spelled : t.Spelled)
    (free : t.kind = .name → (∃ opened, r.phase = .operand opened) → ¬ Word t.text)
    (result : r.step t = some r') : r'.Sound := by
  obtain ⟨done, frames, current⟩ := r
  obtain ⟨statements, phase⟩ := sound
  cases current with
  | statement => exact beginStatementSound statements phase spelled result
  | target name =>
    obtain ⟨none, identified⟩ : frames = [] ∧ Identifier name.toList := phase
    cases none
    simp only [Reading.step] at result
    split at result
    · cases result
      exact ⟨statements, .assignment identified⟩
    · cases result
  | callee name =>
    obtain ⟨identified, place⟩ := phase
    simp only [Reading.step] at result
    split at result
    · cases result
      rcases place with none | ⟨within, barred⟩
      · cases (none : frames = [])
        exact ⟨statements, .call identified (by simp)⟩
      · exact ⟨statements, .inner ⟨identified, barred, by simp⟩ within⟩
    · cases result
  | operand opened =>
    exact operandStepSound statements phase spelled (fun name => free name ⟨opened, rfl⟩) result
  | ended tree => exact endedStepSound statements phase spelled result

theorem takesSound {r r' : Reading} {ts} (takes : Takes Word r ts r') (spelled : AllSpelled ts)
    (sound : r.Sound) : r'.Sound := by
  induction takes with
  | nothing => exact sound
  | token free step rest ih =>
    obtain ⟨head, tail⟩ := allSpelledCons.mp spelled
    exact ih tail (stepSound sound head free step)

theorem finishSound {r : Reading} {tree} (sound : r.Sound) (result : r.finish = some tree) :
    tree.IsScript Lexeme.Spelled := by
  have reversed {r : Reading} (sound : r.Sound) : ∀ s ∈ r.statements.reverse, s.Stated :=
    fun s mem => sound.statements s (List.mem_reverse.mp mem)
  rw [Reading.finish] at result
  split at result
  · cases result
    exact .program (reversed sound)
  · rename_i ended same
    obtain ⟨r', stop, rfl⟩ := Option.map_eq_some_iff.mp result
    have phase : (Phase.ended ended).Sound r.frames := same ▸ sound.phase
    exact .program (reversed (endedStatementSound sound.statements phase stop).1)
  · cases result

theorem readTreeScript {source tree} (read : readTree source = .ok tree) : tree.IsScript Lexeme.Spelled := by
  obtain ⟨tokens, r, reads, finish⟩ := runReads read
  obtain ⟨takes, spelled⟩ := readsTakes reads
  exact finishSound (takesSound takes spelled startSound) finish

/- What a literal of an accepted script denotes; no number among them is negative. -/
inductive Literal.Sound : Literal → Prop where
  | integer {n : Int} (unsigned : 0 ≤ n) : Sound ⟨.number, .int n⟩
  | float {x : Float} (unsigned : Number.Unsigned x) : Sound ⟨.number, .float x⟩
  | text {s : String} : Sound ⟨.text, .text s⟩
  | truth {b : Bool} : Sound ⟨.truth, .bool b⟩

theorem numberPlain {s : String} (spelled : Token.Spelled ⟨.number, s⟩) :
    ∃ c rest, s.toList = c :: rest ∧ Number.Plain c := by
  obtain ⟨m, e, mantissa, -, chars⟩ :
    ∃ m e, Mantissa m ∧ Exponent e ∧ s.toList = m ++ e := spelled
  have digitsFirst {ds : List Char} (digits : Digits ds) : ∃ d more, ds = d :: more ∧ Number.Plain d := by
    obtain ⟨d, more, rfl⟩ := List.exists_cons_of_ne_nil digits.1
    exact ⟨d, more, rfl, Number.digitPlain (digits.2 d List.mem_cons_self)⟩
  cases mantissa with
  | whole digits =>
    obtain ⟨d, more, rfl, plain⟩ := digitsFirst digits
    exact ⟨d, _, chars, plain⟩
  | pointed digits fraction =>
    obtain ⟨d, more, rfl, plain⟩ := digitsFirst digits
    exact ⟨d, _, chars, plain⟩
  | fraction digits => exact ⟨'.', _, chars, Number.pointPlain⟩

theorem literalSound {leaf : Lexeme} {literal : Literal} (spelled : leaf.Spelled)
    (denotes : leaf.literal = .ok literal) : literal.Sound := by
  cases leaf with
  | number s =>
    obtain ⟨c, rest, chars, plain⟩ := numberPlain spelled
    obtain ⟨v, value, same⟩ := exceptBind.mp denotes
    cases same
    rw [numberLiteral] at value
    split at value
    · obtain ⟨n, read, same⟩ := exceptBind.mp value
      cases same
      exact .integer (Number.readIntegerUnsigned chars plain read)
    · obtain ⟨x, read, same⟩ := exceptBind.mp value
      cases same
      exact .float (Number.readFloatUnsigned chars plain read)
  | text s =>
    obtain ⟨v, value, same⟩ := exceptBind.mp denotes
    cases same
    rw [textLiteral] at value
    dsimp only at value
    split at value
    · cases value
    · obtain ⟨_, -, value⟩ := exceptBind.mp value
      obtain ⟨_, -, same⟩ := exceptBind.mp value
      cases same
      exact .text
  | truth b =>
    cases denotes
    exact .truth

theorem decodedEach {holds : Node → Prop} {trees : List (Tree Lexeme)} {nodes}
    (decoded : decodeAll Lexeme.literal trees = .ok nodes)
    (each : ∀ tree ∈ trees, ∀ node, tree.decode Lexeme.literal = .ok node → holds node) :
    ∀ node ∈ nodes, holds node := by
  induction trees generalizing nodes with
  | nil =>
    cases decoded
    simp
  | cons tree trees ih =>
    obtain ⟨node, rest, head, tail, rfl⟩ := decodeAllCons.mp decoded
    obtain ⟨first, others⟩ := List.forall_mem_cons.mp each
    exact List.forall_mem_cons.mpr ⟨first node head, ih tail others⟩

section Decoding

variable {leaf : Literal → Prop}
  (denoted : ∀ (lexeme : Lexeme) (literal : Literal), lexeme.Spelled → lexeme.literal = .ok literal → leaf literal)

include denoted

theorem expressionDecoded {tree : Tree Lexeme} (expressed : tree.Expressed) :
    ∀ node, tree.decode Lexeme.literal = .ok node → node.IsExpression leaf := by
  induction expressed with
  | literal spelled =>
    intro node decoded
    obtain ⟨literal, denotes, same⟩ := exceptBind.mp (by rwa [Tree.decode] at decoded)
    cases same
    exact .literal (denoted _ _ spelled denotes)
  | mention spelled =>
    intro node decoded
    cases decoded
    exact .mention spelled
  | list each ih =>
    intro node decoded
    obtain ⟨nodes, inner, same⟩ := exceptBind.mp (by rwa [Tree.decode] at decoded)
    cases same
    exact .list (decodedEach inner ih)
  | unary known inner ih =>
    intro node decoded
    obtain ⟨operand, within, same⟩ := exceptBind.mp (by rwa [Tree.decode] at decoded)
    cases same
    exact .unary known (ih operand within)
  | binary known first second ih ih' =>
    intro node decoded
    obtain ⟨left, ahead, rest⟩ := exceptBind.mp (by rwa [Tree.decode] at decoded)
    obtain ⟨right, behind, same⟩ := exceptBind.mp rest
    cases same
    exact .binary known (ih left ahead) (ih' right behind)
  | call spelled free each ih =>
    intro node decoded
    obtain ⟨nodes, inner, same⟩ := exceptBind.mp (by rwa [Tree.decode] at decoded)
    cases same
    exact .call spelled free (decodedEach inner ih)

theorem statementDecoded {tree : Tree Lexeme} (stated : tree.Stated) (node : Node)
    (decoded : tree.decode Lexeme.literal = .ok node) : node.IsStatement leaf := by
  cases stated with
  | assignment spelled inner =>
    obtain ⟨value, within, same⟩ := exceptBind.mp (by rwa [Tree.decode] at decoded)
    cases same
    exact .assignment spelled (expressionDecoded denoted inner value within)
  | call spelled each =>
    obtain ⟨nodes, inner, same⟩ := exceptBind.mp (by rwa [Tree.decode] at decoded)
    cases same
    exact .call spelled (decodedEach inner (fun arg mem => expressionDecoded denoted (each arg mem)))

theorem parsedLeaves {source node} (parsed : parse source = .ok node) : node.IsScript leaf := by
  obtain ⟨tree, read, decoded⟩ := parseDecodes.mp parsed
  cases readTreeScript read with
  | program each =>
    obtain ⟨nodes, inner, same⟩ := exceptBind.mp (by rwa [Tree.decode] at decoded)
    cases same
    exact .program (decodedEach inner (fun s mem => statementDecoded denoted (each s mem)))

end Decoding

theorem parsedScript {source node} (parsed : parse source = .ok node) : node.IsScript Literal.Sound :=
  parsedLeaves (fun _ _ => literalSound) parsed

end CallScript.Syntax
