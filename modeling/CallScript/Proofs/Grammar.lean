import CallScript.Syntax.Reading

/-! The grammar of scripts, apart from how they are read. Terminals are given by the shape of their
spelling, symbols by their rules. A derivation hands up trees: one for most symbols, one for each item
for arguments and statements. Literals stay as they are spelled. -/
namespace CallScript.Syntax

def Digits (cs : List Char) : Prop := cs ≠ [] ∧ ∀ c ∈ cs, Text.isDigit c = true

inductive Mantissa : List Char → Prop where
  | whole {ds} (digits : Digits ds) : Mantissa ds
  | pointed {ds fs} (digits : Digits ds) (fraction : ∀ c ∈ fs, Text.isDigit c = true) :
      Mantissa (ds ++ '.' :: fs)
  | fraction {fs} (digits : Digits fs) : Mantissa ('.' :: fs)

inductive Exponent : List Char → Prop where
  | absent : Exponent []
  | plain {e ds} (letter : e = 'e' ∨ e = 'E') (digits : Digits ds) : Exponent (e :: ds)
  | signed {e s ds} (letter : e = 'e' ∨ e = 'E') (sign : s = '+' ∨ s = '-') (digits : Digits ds) :
      Exponent (e :: s :: ds)

inductive DoubleQuoted : List Char → Prop where
  | close : DoubleQuoted ['"']
  | escape {c rest} (line : c ≠ '\n') (tail : DoubleQuoted rest) : DoubleQuoted ('\\' :: c :: rest)
  | plain {c rest} (quote : c ≠ '"') (backslash : c ≠ '\\') (tail : DoubleQuoted rest) :
      DoubleQuoted (c :: rest)

inductive SingleQuoted : List Char → Prop where
  | close : SingleQuoted ['\x27']
  | plain {c rest} (quote : c ≠ '\x27') (line : c ≠ '\n') (tail : SingleQuoted rest) :
      SingleQuoted (c :: rest)

inductive Quotation : List Char → Prop where
  | double {rest} (tail : DoubleQuoted rest) : Quotation ('"' :: rest)
  | single {rest} (tail : SingleQuoted rest) : Quotation ('\x27' :: rest)

def Identifier (cs : List Char) : Prop :=
  ∃ c rest, cs = c :: rest ∧ isNameStart c = true ∧ ∀ d ∈ rest, isNamePart d = true

theorem identifierWithout {cs : List Char} (identifier : Identifier cs) {c : Char}
    (outside : isNamePart c = false) (start : isNameStart c = false) : c ∉ cs := by
  obtain ⟨d, rest, rfl, head, tail⟩ := identifier
  intro mem
  rcases List.mem_cons.mp mem with rfl | mem
  · rw [head] at start
    cases start
  · rw [tail c mem] at outside
    cases outside

def Terminal.spelling : Terminal → String
  | .falseWord => "false"
  | .trueWord => "true"
  | .operator op => op.symbol
  | .bang => "!"
  | .comma => ","
  | .equal => "="
  | .leftParenthesis => "("
  | .leftBracket => "["
  | .rightParenthesis => ")"
  | .rightBracket => "]"
  | .semicolon => ";"
  | .number | .text | .variable | .name | .ending => ""

def Terminal.token (kind : Terminal) : Token := ⟨kind, kind.spelling⟩

def Terminal.Spells : Terminal → List Char → Prop
  | .number, cs => ∃ m e, Mantissa m ∧ Exponent e ∧ cs = m ++ e
  | .text, cs => Quotation cs
  | .variable, cs => ∃ rest, cs = '$' :: rest ∧ Identifier rest
  | .name, cs => Identifier cs
  | .operator op, cs => op ∈ Operator.known ∧ cs = op.symbol.toList
  | .ending, _ => False
  | kind, cs => cs = kind.spelling.toList

def Token.Spelled (t : Token) : Prop := t.kind.Spells t.text.toList

inductive Rank where
  | disjunction
  | conjunction
  | comparison
  | sum
  | product
  | power
  | unary
  | atom
  deriving DecidableEq, Repr

def Rank.next? : Rank → Option Rank
  | .disjunction => some .conjunction
  | .conjunction => some .comparison
  | .comparison => some .sum
  | .sum => some .product
  | .product => some .power
  | .power => some .unary
  | .unary => some .atom
  | .atom => none

def Rank.operators : Rank → List Operator
  | .disjunction => [.either]
  | .conjunction => [.both]
  | .comparison => [.equal, .unequal, .relation .greater, .relation .greaterEqual, .relation .less,
      .relation .lessEqual]
  | .sum => [.arithmetic .add, .arithmetic .subtract]
  | .product => [.arithmetic .multiply, .arithmetic .divide, .arithmetic .modulo]
  | .power | .unary | .atom => []

inductive Symbol where
  | program
  | statements
  | statement
  | expression (rank : Rank)
  | call
  | arguments
  deriving DecidableEq, Repr

inductive Derives : Symbol → List Token → List (Tree Lexeme) → Prop where
  | program {ts trees} (body : Derives .statements ts trees) : Derives .program ts [.program trees]
  | noStatement : Derives .statements [] []
  | oneMore {ts us trees t} (before : Derives .statements ts trees) (last : Derives .statement us [t]) :
      Derives .statements (ts ++ us) (trees ++ [t])
  | oneMoreEnded {ts us trees t} (before : Derives .statements ts trees)
      (last : Derives .statement us [t]) :
      Derives .statements (ts ++ us ++ [Terminal.semicolon.token]) (trees ++ [t])
  | assignment {v ts t} (name : Token.Spelled ⟨.variable, v⟩)
      (value : Derives (.expression .disjunction) ts [t]) :
      Derives .statement (⟨.variable, v⟩ :: Terminal.equal.token :: ts) [.assignment (variableName v) t]
  | callStatement {ts name args} (body : Derives .call ts [.call name args false]) :
      Derives .statement ts [.call name args true]
  | tighter {r s ts t} (next : r.next? = some s) (body : Derives (.expression s) ts [t]) :
      Derives (.expression r) ts [t]
  | leftward {r s op ls rs a b} (mem : op ∈ r.operators) (next : r.next? = some s)
      (left : Derives (.expression r) ls [a]) (right : Derives (.expression s) rs [b]) :
      Derives (.expression r) (ls ++ (Terminal.operator op).token :: rs) [.binary op a b]
  | power {ls rs a b} (left : Derives (.expression .unary) ls [a])
      (right : Derives (.expression .power) rs [b]) :
      Derives (.expression .power) (ls ++ (Terminal.operator (.arithmetic .power)).token :: rs)
        [.binary (.arithmetic .power) a b]
  | minus {ts t} (operand : Derives (.expression .unary) ts [t]) :
      Derives (.expression .unary) ((Terminal.operator (.arithmetic .subtract)).token :: ts)
        [.unary .minus t]
  | negation {ts t} (operand : Derives (.expression .unary) ts [t]) :
      Derives (.expression .unary) (Terminal.bang.token :: ts) [.unary .negation t]
  | number {s} (spelled : Token.Spelled ⟨.number, s⟩) :
      Derives (.expression .atom) [⟨.number, s⟩] [.literal (.number s)]
  | text {s} (spelled : Token.Spelled ⟨.text, s⟩) :
      Derives (.expression .atom) [⟨.text, s⟩] [.literal (.text s)]
  | yes : Derives (.expression .atom) [Terminal.trueWord.token] [.literal (.truth true)]
  | no : Derives (.expression .atom) [Terminal.falseWord.token] [.literal (.truth false)]
  | mention {v} (name : Token.Spelled ⟨.variable, v⟩) :
      Derives (.expression .atom) [⟨.variable, v⟩] [.variable (variableName v)]
  | callValue {ts t} (body : Derives .call ts [t]) : Derives (.expression .atom) ts [t]
  | emptyList :
      Derives (.expression .atom) [Terminal.leftBracket.token, Terminal.rightBracket.token] [.list []]
  | list {ts items} (body : Derives .arguments ts items) :
      Derives (.expression .atom) (Terminal.leftBracket.token :: ts ++ [Terminal.rightBracket.token])
        [.list items]
  | group {ts t} (body : Derives (.expression .disjunction) ts [t]) :
      Derives (.expression .atom)
        (Terminal.leftParenthesis.token :: ts ++ [Terminal.rightParenthesis.token]) [t]
  | emptyCall {n} (name : Token.Spelled ⟨.name, n⟩) :
      Derives .call [⟨.name, n⟩, Terminal.leftParenthesis.token, Terminal.rightParenthesis.token]
        [.call n [] false]
  | call {n ts args} (name : Token.Spelled ⟨.name, n⟩) (body : Derives .arguments ts args) :
      Derives .call
        (⟨.name, n⟩ :: Terminal.leftParenthesis.token :: ts ++ [Terminal.rightParenthesis.token])
        [.call n args false]
  | argument {ts t} (body : Derives (.expression .disjunction) ts [t]) : Derives .arguments ts [t]
  | argumentAfter {ts us items t} (before : Derives .arguments ts items)
      (last : Derives (.expression .disjunction) us [t]) :
      Derives .arguments (ts ++ Terminal.comma.token :: us) (items ++ [t])

def AllSpelled (ts : List Token) : Prop := ∀ t ∈ ts, t.Spelled

theorem allSpelledCons {t ts} : AllSpelled (t :: ts) ↔ t.Spelled ∧ AllSpelled ts := by
  simp [AllSpelled]

theorem allSpelledAppend {ts us} : AllSpelled (ts ++ us) ↔ AllSpelled ts ∧ AllSpelled us := by
  simp only [AllSpelled, List.mem_append, or_imp, forall_and]

theorem allSpelledOne {t : Token} (spelled : t.Spelled) : AllSpelled [t] := by
  simpa [AllSpelled] using spelled

theorem memberKnown (r : Rank) : ∀ op ∈ r.operators, op ∈ Operator.known := by
  cases r <;> decide

/- Every token of a derivation is spelled as its terminal asks. -/
theorem derivedSpelled {s ts trees} (derived : Derives s ts trees) : AllSpelled ts := by
  induction derived with
  | program body ih => exact ih
  | noStatement => simp [AllSpelled]
  | oneMore before last ih ih' => exact allSpelledAppend.mpr ⟨ih, ih'⟩
  | oneMoreEnded before last ih ih' =>
    exact allSpelledAppend.mpr ⟨allSpelledAppend.mpr ⟨ih, ih'⟩, allSpelledOne rfl⟩
  | assignment name value ih => exact allSpelledCons.mpr ⟨name, allSpelledCons.mpr ⟨rfl, ih⟩⟩
  | callStatement body ih => exact ih
  | tighter next body ih => exact ih
  | leftward mem next left right ih ih' =>
    exact allSpelledAppend.mpr ⟨ih, allSpelledCons.mpr ⟨⟨memberKnown _ _ mem, rfl⟩, ih'⟩⟩
  | power left right ih ih' =>
    exact allSpelledAppend.mpr ⟨ih, allSpelledCons.mpr ⟨⟨by decide, rfl⟩, ih'⟩⟩
  | minus operand ih => exact allSpelledCons.mpr ⟨⟨by decide, rfl⟩, ih⟩
  | negation operand ih => exact allSpelledCons.mpr ⟨rfl, ih⟩
  | number spelled => exact allSpelledOne spelled
  | text spelled => exact allSpelledOne spelled
  | yes => exact allSpelledOne rfl
  | no => exact allSpelledOne rfl
  | mention name => exact allSpelledOne name
  | callValue body ih => exact ih
  | emptyList => exact allSpelledCons.mpr ⟨rfl, allSpelledOne rfl⟩
  | list body ih => exact allSpelledAppend.mpr ⟨allSpelledCons.mpr ⟨rfl, ih⟩, allSpelledOne rfl⟩
  | group body ih => exact allSpelledAppend.mpr ⟨allSpelledCons.mpr ⟨rfl, ih⟩, allSpelledOne rfl⟩
  | emptyCall name => exact allSpelledCons.mpr ⟨name, allSpelledCons.mpr ⟨rfl, allSpelledOne rfl⟩⟩
  | call name body ih =>
    exact allSpelledAppend.mpr
      ⟨allSpelledCons.mpr ⟨name, allSpelledCons.mpr ⟨rfl, ih⟩⟩, allSpelledOne rfl⟩
  | argument body ih => exact ih
  | argumentAfter before last ih ih' => exact allSpelledAppend.mpr ⟨ih, allSpelledCons.mpr ⟨rfl, ih'⟩⟩

end CallScript.Syntax
