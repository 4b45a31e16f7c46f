import CallScript.Fault
import CallScript.Number.Shortest

/-! The text of a value. `Value.shown` is the form that error messages and lists use, with quotes around
texts; `Value.plain` is the form that log messages and joins use. An integer of more than 4300 digits
has no text, which is the only way either can fail. -/
namespace CallScript

def digitLimit : Nat := 4300

/-- The decimal digits of an integer, if there are at most 4300 of them. -/
def integerText (n : Int) : Except Fault String :=
  if Nat.pow 10 digitLimit ≤ n.natAbs then .error .digitLimit else .ok (toString n)

def complexText (re im : Float) : String :=
  let imaginary := Number.floatText .inner im
  if re == 0.0 && !Number.isNegative re then imaginary ++ "j"
  else
    let sign := if Number.isNegative im then "" else "+"
    "(" ++ Number.floatText .inner re ++ sign ++ imaginary ++ "j)"

def openBrace : String := "\x7b"

def closeBrace : String := "\x7d"

mutual

def Value.shown : Value → Except Fault String
  | .null => .ok "None"
  | .bool b => .ok (if b then "True" else "False")
  | .int n => integerText n
  | .float x => .ok (Number.floatText .alone x)
  | .complex re im => .ok (complexText re im)
  | .text s => .ok (Text.quoted s)
  | .list items => return "[" ++ ", ".intercalate (← shownItems items) ++ "]"
  | .tuple items => do
      match ← shownItems items with
      | [item] => return "(" ++ item ++ ",)"
      | shown => return "(" ++ ", ".intercalate shown ++ ")"
  | .dict entries => return openBrace ++ ", ".intercalate (← shownEntries entries) ++ closeBrace
  | .environment name => .ok ("Environment(name=" ++ Text.quoted name ++ ")")

def shownItems : List Value → Except Fault (List String)
  | [] => .ok []
  | item :: rest => return (← item.shown) :: (← shownItems rest)

def shownEntries : List (Value × Value) → Except Fault (List String)
  | [] => .ok []
  | (key, value) :: rest => return ((← key.shown) ++ ": " ++ (← value.shown)) :: (← shownEntries rest)

end

def Value.plain : Value → Except Fault String
  | .text s => .ok s
  | .environment name => .ok name
  | value => value.shown

def joinPlain (separator : String) (values : List Value) : Except Fault String :=
  return separator.intercalate (← values.mapM Value.plain)

end CallScript
