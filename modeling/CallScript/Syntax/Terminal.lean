import CallScript.Syntax.Tree
import CallScript.Text.Blank
import CallScript.Text.Digit

/-! The terminals of scripts: what each looks like and what it is called in messages. `width` is the
number of characters a terminal takes at the start of a text, zero where it does not stand there. -/
namespace CallScript.Syntax

inductive Terminal where
  | number
  | text
  | variable
  | name
  | falseWord
  | trueWord
  | operator (op : Operator)
  | bang
  | comma
  | equal
  | leftParenthesis
  | leftBracket
  | rightParenthesis
  | rightBracket
  | semicolon
  | ending
  deriving DecidableEq, Repr

def Terminal.label : Terminal → String
  | .number => "NUMBER"
  | .text => "STRING"
  | .variable => "VARIABLE"
  | .name => "NAME"
  | .falseWord => "FALSE"
  | .trueWord => "TRUE"
  | .operator .either => "__ANON_0"
  | .operator .both => "__ANON_1"
  | .operator .equal => "__ANON_2"
  | .operator .unequal => "__ANON_3"
  | .operator (.relation .greaterEqual) => "__ANON_4"
  | .operator (.relation .lessEqual) => "__ANON_5"
  | .operator (.relation .less) => "LESSTHAN"
  | .operator (.relation .greater) => "MORETHAN"
  | .operator (.arithmetic .power) => "CIRCUMFLEX"
  | .operator (.arithmetic .subtract) => "MINUS"
  | .operator (.arithmetic .modulo) => "PERCENT"
  | .operator (.arithmetic .add) => "PLUS"
  | .operator (.arithmetic .divide) => "SLASH"
  | .operator (.arithmetic .multiply) => "STAR"
  | .operator (.unknown symbol) => symbol
  | .bang => "BANG"
  | .comma => "COMMA"
  | .equal => "EQUAL"
  | .leftParenthesis => "LPAR"
  | .leftBracket => "LSQB"
  | .rightParenthesis => "RPAR"
  | .rightBracket => "RSQB"
  | .semicolon => "SEMICOLON"
  | .ending => "$END"

def isNameStart (c : Char) : Bool :=
  c.isAlpha || c == '_'

def isNamePart (c : Char) : Bool :=
  c.isAlphanum || c == '_'

def nameWidth : List Char → Nat
  | c :: rest => if isNameStart c then 1 + (rest.takeWhile isNamePart).length else 0
  | [] => 0

def variableWidth : List Char → Nat
  | '$' :: rest => if nameWidth rest = 0 then 0 else 1 + nameWidth rest
  | _ => 0

def digitsWidth (cs : List Char) : Nat :=
  (cs.takeWhile Text.isDigit).length

def exponentWidth : List Char → Nat
  | c :: rest =>
      if c == 'e' || c == 'E' then
        match rest with
        | s :: more =>
            if s == '+' || s == '-' then (if digitsWidth more = 0 then 0 else 2 + digitsWidth more)
            else if digitsWidth rest = 0 then 0 else 1 + digitsWidth rest
        | [] => 0
      else 0
  | [] => 0

def mantissaWidth (cs : List Char) : Nat :=
  let whole := digitsWidth cs
  match cs.drop whole with
  | '.' :: rest =>
      if whole = 0 then (if digitsWidth rest = 0 then 0 else 1 + digitsWidth rest)
      else whole + 1 + digitsWidth rest
  | _ => whole

def numberWidth (cs : List Char) : Nat :=
  let mantissa := mantissaWidth cs
  if mantissa = 0 then 0 else mantissa + exponentWidth (cs.drop mantissa)

/-- The characters of a text in double quotes after the opening quote, up to the closing one: a
backslash takes the next character with it, which may not be a line feed. -/
def doubleQuotedWidth : List Char → Option Nat
  | '"' :: _ => some 1
  | '\\' :: c :: rest => if c == '\n' then none else (doubleQuotedWidth rest).map (· + 2)
  | '\\' :: [] => none
  | _ :: rest => (doubleQuotedWidth rest).map (· + 1)
  | [] => none

def singleQuotedWidth : List Char → Option Nat
  | '\x27' :: _ => some 1
  | '\n' :: _ => none
  | _ :: rest => (singleQuotedWidth rest).map (· + 1)
  | [] => none

def textWidth : List Char → Nat
  | '"' :: rest => ((doubleQuotedWidth rest).map (· + 1)).getD 0
  | '\x27' :: rest => ((singleQuotedWidth rest).map (· + 1)).getD 0
  | _ => 0

def spelledWidth (spelling : List Char) (cs : List Char) : Nat :=
  if spelling.isPrefixOf cs then spelling.length else 0

def wordWidth (word : List Char) (cs : List Char) : Nat :=
  if cs.take (nameWidth cs) = word then nameWidth cs else 0

def Terminal.width : Terminal → List Char → Nat
  | .number => numberWidth
  | .text => textWidth
  | .variable => variableWidth
  | .name => nameWidth
  | .falseWord => wordWidth ['f', 'a', 'l', 's', 'e']
  | .trueWord => wordWidth ['t', 'r', 'u', 'e']
  | .operator op => spelledWidth op.symbol.toList
  | .bang => spelledWidth ['!']
  | .comma => spelledWidth [',']
  | .equal => spelledWidth ['=']
  | .leftParenthesis => spelledWidth ['(']
  | .leftBracket => spelledWidth ['[']
  | .rightParenthesis => spelledWidth [')']
  | .rightBracket => spelledWidth [']']
  | .semicolon => spelledWidth [';']
  | .ending => fun _ => 0

def skippedWidth : List Char → Nat
  | '#' :: rest => 1 + (rest.takeWhile (· != '\n')).length
  | cs => (cs.takeWhile Text.isGap).length

/-- All terminals, in the order in which they are tried: the words before names, longer spellings
before their beginnings. -/
def Terminal.all : List Terminal := [
  .number, .text, .variable, .falseWord, .trueWord, .name,
  .operator .either, .operator .both, .operator .equal, .operator .unequal,
  .operator (.relation .greaterEqual), .operator (.relation .lessEqual),
  .bang, .operator (.arithmetic .power), .comma, .equal, .operator (.relation .less),
  .leftParenthesis, .leftBracket, .operator (.arithmetic .subtract), .operator (.relation .greater),
  .operator (.arithmetic .modulo), .operator (.arithmetic .add), .rightParenthesis, .rightBracket,
  .semicolon, .operator (.arithmetic .divide), .operator (.arithmetic .multiply)]

def Terminal.at? (wanted : Terminal → Bool) (cs : List Char) : Option Terminal :=
  Terminal.all.find? (fun t => wanted t && 0 < t.width cs)

end CallScript.Syntax
