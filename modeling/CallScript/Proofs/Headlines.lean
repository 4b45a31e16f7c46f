import CallScript.Proofs.Decimals
import CallScript.Proofs.Occurrences
import CallScript.Proofs.Quotes
import CallScript.Syntax.Outline

/-! What a node of an accepted script says of itself. Its headline stays on one line; it begins with the name of the
node's form, and what follows tells the rest of it. So the headline and the parts determine the node. -/
namespace CallScript.Syntax

section Integers

theorem digitBelow {c : Char} {d : Nat} (value : Text.digitValue? c = some d) : d < 10 := by
  simp only [Text.digitValue?] at value
  split at value
  · rename_i ascii
    simp only [Bool.and_eq_true, decide_eq_true_eq] at ascii
    cases value
    omega
  · split at value
    · cases value
    · obtain ⟨first, found, rfl⟩ := Option.map_eq_some_iff.mp value
      have run := List.find?_some found
      simp only [Bool.and_eq_true, decide_eq_true_eq] at run
      omega

theorem digitsBelow (cs : List Char) : Number.digitsValue cs < 10 ^ cs.length := by
  induction cs using List.reverseRecOn with
  | nil => decide
  | append_singleton cs c ih =>
    have last : (Text.digitValue? c).getD 0 < 10 := by
      cases value : Text.digitValue? c with
      | none => decide
      | some d => exact digitBelow value
    rw [digitsValueLast, List.length_append, List.length_singleton, Nat.pow_succ]
    omega

theorem digitsFit {cs : List Char} {limit : Nat} (fits : cs.length ≤ limit) :
    Number.digitsValue cs < Nat.pow 10 limit :=
  (digitsBelow cs).trans_le (Nat.pow_le_pow_right (by decide) fits)

theorem readIntegerShort {s : String} {n : Int} (read : Number.readInteger s = .ok n) :
    n.natAbs < Nat.pow 10 digitLimit := by
  rw [Number.readInteger] at read
  dsimp only at read
  split at read
  · cases read
  · rename_i digits _
    split at read
    · cases read
    · split at read
      · cases read
      · rename_i short
        have bound : Number.digitsValue digits < Nat.pow 10 digitLimit := digitsFit (Nat.not_lt.mp short)
        split at read <;>
        · cases read
          rw [Int.ofNat_eq_natCast]
          omega

end Integers

inductive Literal.Told : Literal → String → Prop where
  | integer {n : Nat} (short : n < Nat.pow 10 digitLimit) : Told ⟨.number, .int n⟩ (toString n)
  | float {x : Float} (unsigned : Number.Unsigned x) : Told ⟨.number, .float x⟩ (Number.floatText .alone x)
  | text {s : String} : Told ⟨.text, .text s⟩ (Text.quoted s)
  | truth {b : Bool} : Told ⟨.truth, .bool b⟩ (if b then "True" else "False")

theorem integerRead {leaf : Lexeme} {kind : LiteralKind} {n : Int} (denotes : leaf.literal = .ok ⟨kind, .int n⟩) :
    ∃ s, Number.readInteger s = .ok n := by
  cases leaf with
  | number s =>
    obtain ⟨v, value, same⟩ := exceptBind.mp denotes
    cases same
    rw [numberLiteral] at value
    split at value
    · obtain ⟨m, read, same⟩ := exceptBind.mp value
      cases same
      exact ⟨s, read⟩
    · obtain ⟨x, -, same⟩ := exceptBind.mp value
      cases same
  | text s =>
    obtain ⟨v, value, same⟩ := exceptBind.mp denotes
    cases same
    rw [textLiteral] at value
    dsimp only at value
    split at value
    · cases value
    · obtain ⟨_, -, value⟩ := exceptBind.mp value
      obtain ⟨_, -, same⟩ := exceptBind.mp value
      cases same
  | truth b => cases denotes

theorem literalTold {leaf : Lexeme} {literal : Literal} (spelled : leaf.Spelled)
    (denotes : leaf.literal = .ok literal) : ∃ s, literal.Told s := by
  cases literalSound spelled denotes with
  | integer unsigned =>
    obtain ⟨s, read⟩ := integerRead denotes
    obtain ⟨n, rfl⟩ := Int.eq_ofNat_of_zero_le unsigned
    exact ⟨_, .integer (readIntegerShort read)⟩
  | float unsigned => exact ⟨_, .float unsigned⟩
  | text => exact ⟨_, .text⟩
  | truth => exact ⟨_, .truth⟩

section Told

variable {l l' : Literal} {s : String}

theorem toldShown (told : l.Told s) : l.value.shown = .ok s := by
  cases told with
  | @integer n short =>
    rw [Value.shown, integerText, Int.natAbs_natCast, if_neg (Nat.not_le.mpr short)]
    rfl
  | float | text | truth => rw [Value.shown]

theorem numericOneLine {cs : List Char} (numeric : ∀ c ∈ cs, Number.Numeric c) : '\n' ∉ cs := by
  intro mem
  rcases numeric _ mem with digit | sign
  · cases digit
  · revert sign
    decide

theorem toldOneLine (told : l.Told s) : '\n' ∉ s.toList := by
  cases told with
  | integer => exact numericOneLine (Number.naturalNumeric _)
  | float unsigned => exact numericOneLine (Number.floatTextNumeric (Number.unsignedDefined unsigned)).1
  | text => exact quotedOneLine _
  | @truth b => cases b <;> decide

theorem toldInjective (told : l.Told s) (told' : l'.Told s) (kinds : l.kind = l'.kind) : l = l' := by
  have wholeDigits (n : Nat) {x : Float} (unsigned : Number.Unsigned x) :
      toString n ≠ Number.floatText .alone x := by
    intro same
    obtain ⟨c, mem, mark⟩ := (Number.floatTextNumeric (Number.unsignedDefined unsigned)).2
    rw [← same] at mem
    have digit := (naturalDigits n).1 c (by rwa [← naturalChars])
    rw [mark] at digit
    cases digit
  generalize same : s = s' at told'
  cases told with
  | integer =>
    cases told' with
    | integer =>
      have digits := congrArg (Number.digitsValue ∘ String.toList) same
      simp only [Function.comp_apply, naturalChars, digitsValueNatural] at digits
      rw [digits]
    | float unsigned => exact absurd same (wholeDigits _ unsigned)
    | text | truth => cases kinds
  | float unsigned =>
    cases told' with
    | integer => exact absurd same.symm (wholeDigits _ unsigned)
    | float unsigned' =>
      rw [Number.floatTextInjective (Number.unsignedDefined unsigned) (Number.unsignedDefined unsigned') same]
    | text | truth => cases kinds
  | text =>
    cases told' with
    | integer | float | truth => cases kinds
    | text => rw [quotedInjective same]
  | @truth b =>
    cases told' with
    | integer | float | text => cases kinds
    | @truth b' => cases b <;> cases b' <;> first | rfl | exact absurd same (by decide)

end Told

inductive Form where
  | program
  | assignment
  | literal (kind : LiteralKind)
  | variable
  | list
  | unary
  | binary
  | call
  deriving DecidableEq

def Form.name : Form → String
  | .program => "Program"
  | .assignment => "Assignment"
  | .literal kind => kind.name
  | .variable => "Variable"
  | .list => "List"
  | .unary => "UnaryOp"
  | .binary => "BinOp"
  | .call => "Call"

def forms : List Form := [
  .program, .assignment, .literal .number, .literal .text, .literal .truth, .variable, .list, .unary, .binary, .call]

theorem formListed (form : Form) : form ∈ forms := by
  rcases form with _ | _ | ⟨_ | _ | _⟩ | _ | _ | _ | _ | _ <;> decide

theorem formNamed {form form' : Form} (same : form.name = form'.name) : form = form' := by
  have apart : ∀ form ∈ forms, ∀ form' ∈ forms, form.name = form'.name → form = form' := by decide
  exact apart form (formListed form) form' (formListed form') same

theorem formLetters (form : Form) : (∀ c ∈ form.name.toList, c.isAlpha = true) ∧ form.name.toList ≠ [] := by
  have letters : ∀ form ∈ forms, form.name.toList.all Char.isAlpha = true ∧ form.name.toList ≠ [] := by decide
  exact (letters form (formListed form)).imp_left List.all_eq_true.mp

/- The form of a node, and what its headline says besides. -/
inductive Tree.Headed : Node → Form → String → Prop where
  | program {statements} : Headed (.program statements) .program ""
  | assignment {name value} (spelled : Identifier name.toList) :
      Headed (.assignment name value) .assignment ("($" ++ name ++ ")")
  | literal {kind value s} (told : Literal.Told ⟨kind, value⟩ s) :
      Headed (.literal ⟨kind, value⟩) (.literal kind) ("(" ++ s ++ ")")
  | mention {name} (spelled : Identifier name.toList) : Headed (.variable name) .variable ("($" ++ name ++ ")")
  | list {items} : Headed (.list items) .list ""
  | unary {op operand} (known : op = .minus ∨ op = .negation) :
      Headed (.unary op operand) .unary ("(" ++ op.symbol ++ ")")
  | binary {op left right} (known : op ∈ Operator.known) :
      Headed (.binary op left right) .binary ("(" ++ op.symbol ++ ")")
  | call {name args statement} (spelled : Identifier name.toList) :
      Headed (.call name args statement) .call ("(" ++ name ++ ", " ++ callStyle statement ++ ")")

inductive Tree.Whole : Node → Prop where
  | node {t form details} (headed : Headed t form details) (parts : ∀ part ∈ t.parts, Whole part) : Whole t

section Heads

variable {t u : Node} {form form' : Form} {details : String}

theorem headedHeadline (headed : t.Headed form details) : t.headline = .ok (form.name ++ details) := by
  cases headed with
  | literal told =>
    rw [Tree.headline, toldShown told]
    simp [Form.name, bind, Except.bind, pure, Except.pure, String.append_assoc]
  | _ => simp [Tree.headline, Form.name, ← String.append_assoc]

theorem identifierOneLine {cs : List Char} (spelled : Identifier cs) : '\n' ∉ cs :=
  identifierWithout spelled (by decide) (by decide)

theorem headedOneLine (headed : t.Headed form details) : '\n' ∉ (form.name ++ details).toList := by
  rw [String.toList_append, List.mem_append, not_or]
  refine ⟨fun mem => absurd ((formLetters form).1 _ mem) (by decide), ?_⟩
  cases headed with
  | program | list => simp
  | assignment spelled | mention spelled => simp [identifierOneLine spelled]
  | literal told => simp [toldOneLine told]
  | @unary op _ known => rcases known with rfl | rfl <;> decide
  | @binary op _ _ known =>
    revert op
    decide
  | @call _ _ statement spelled => cases statement <;> simp [callStyle, identifierOneLine spelled]

theorem headedDetails (headed : t.Headed form details) : ∀ c ∈ details.toList.head?, c.isAlpha = false := by
  cases headed <;> simp

theorem signsApart {op op' : UnaryOperator} (known : op = .minus ∨ op = .negation)
    (known' : op' = .minus ∨ op' = .negation) (same : op.symbol = op'.symbol) : op = op' := by
  rcases known with rfl | rfl <;> rcases known' with rfl | rfl <;> first | rfl | exact absurd same (by decide)

theorem symbolsApart : ∀ op ∈ Operator.known, ∀ op' ∈ Operator.known, op.symbol = op'.symbol → op = op' := by
  decide

theorem callSame {name name' : String} {statement statement' : Bool}
    (same : "(" ++ name ++ ", " ++ callStyle statement ++ ")" = "(" ++ name' ++ ", " ++ callStyle statement' ++ ")") :
    name = name' ∧ statement = statement' := by
  have styles : statement = statement' := by
    have ends := congrArg (fun s => s.toList.reverse) same
    revert ends
    cases statement <;> cases statement' <;> simp [callStyle]
  subst styles
  simpa using same

/- The headline and the parts determine the node. -/
theorem headedSame (headed : t.Headed form details) (headed' : u.Headed form details) (parts : t.parts = u.parts) :
    t = u := by
  generalize same : details = details' at headed'
  cases headed with
  | program | list =>
    cases headed'
    simp only [Tree.parts] at parts
    rw [parts]
  | assignment =>
    cases headed'
    simp only [Tree.parts, List.cons.injEq, and_true] at parts
    simp only [String.append_left_inj, String.append_right_inj] at same
    rw [same, parts]
  | literal told =>
    cases headed' with
    | literal told' =>
      simp only [String.append_left_inj, String.append_right_inj] at same
      subst same
      rw [toldInjective told told' rfl]
  | mention =>
    cases headed'
    simp only [String.append_left_inj, String.append_right_inj] at same
    rw [same]
  | unary known =>
    cases headed' with
    | unary known' =>
      simp only [Tree.parts, List.cons.injEq, and_true] at parts
      simp only [String.append_left_inj, String.append_right_inj] at same
      rw [signsApart known known' same, parts]
  | binary known =>
    cases headed' with
    | binary known' =>
      simp only [Tree.parts, List.cons.injEq, and_true] at parts
      simp only [String.append_left_inj, String.append_right_inj] at same
      rw [symbolsApart _ known _ known' same, parts.1, parts.2]
  | call =>
    cases headed'
    obtain ⟨names, styles⟩ := callSame same
    simp only [Tree.parts] at parts
    rw [names, styles, parts]

theorem headlineForms {details' : String} (headed : t.Headed form details) (headed' : u.Headed form' details')
    (same : form.name ++ details = form'.name ++ details') : form = form' ∧ details = details' := by
  have name {v : Node} {form : Form} {details : String} (headed : v.Headed form details) :
      (form.name ++ details).toList.takeWhile Char.isAlpha = form.name.toList := by
    rw [String.toList_append, List.takeWhile_append_of_pos (formLetters form).1]
    have apart := headedDetails headed
    cases chars : details.toList with
    | nil => simp
    | cons c rest =>
      rw [chars] at apart
      simp [apart c rfl]
  have forms : form = form' := by
    refine formNamed (String.toList_inj.mp ?_)
    rw [← name headed, ← name headed', same]
  subst forms
  exact ⟨rfl, (String.append_right_inj _).mp same⟩

end Heads

section Scripts

variable {t : Node}

theorem expressionWhole (expression : t.IsExpression fun l => ∃ s, l.Told s) : t.Whole := by
  induction expression with
  | literal sound =>
    obtain ⟨s, told⟩ := sound
    exact .node (.literal told) (by simp [Tree.parts])
  | mention spelled => exact .node (.mention spelled) (by simp [Tree.parts])
  | list each ih => exact .node .list ih
  | unary known inner ih => exact .node (.unary known) (by simpa [Tree.parts] using ih)
  | binary known first second ih ih' => exact .node (.binary known) (by simpa [Tree.parts] using ⟨ih, ih'⟩)
  | call spelled free each ih => exact .node (.call spelled) ih

theorem statementWhole (statement : t.IsStatement fun l => ∃ s, l.Told s) : t.Whole := by
  cases statement with
  | assignment spelled inner =>
    exact .node (.assignment spelled) (by simpa [Tree.parts] using expressionWhole inner)
  | call spelled each => exact .node (.call spelled) (fun part mem => expressionWhole (each part mem))

theorem parsedWhole {source : String} (parsed : parse source = .ok t) : t.Whole := by
  have script : t.IsScript (fun l => ∃ s, l.Told s) := parsedLeaves (fun _ _ => literalTold) parsed
  cases script with
  | program each => exact .node .program (fun part mem => statementWhole (each part mem))

end Scripts

end CallScript.Syntax
