import CallScript.Text.Blank
import CallScript.Text.Pieces

/-! Documentation texts without their indentation. The margin is the longest run of spaces and tabs that
begins every line with something on it; it is removed, blank lines at both ends go, and no line keeps
white space at its end. The margin is taken over lines that end in line feeds, the rest over lines of
all kinds. -/
namespace CallScript.Text

def isIndent (c : Char) : Bool :=
  c == ' ' || c == '\t'

def clearIndent (line : List Char) : List Char :=
  if line.all isIndent then [] else line

def commonPrefix : List Char → List Char → List Char
  | a :: as, b :: bs => if a == b then a :: commonPrefix as bs else []
  | _, _ => []

def margin (lines : List (List Char)) : List Char :=
  match (lines.filter (fun line => !line.isEmpty)).map (fun line => line.takeWhile isIndent) with
  | [] => []
  | first :: rest => rest.foldl commonPrefix first

def dropMargin (edge line : List Char) : List Char :=
  if edge.isPrefixOf line then line.drop edge.length else line

def dedent (cs : List Char) : List Char :=
  let cleared := (pieces '\n' cs).map clearIndent
  joined '\n' (cleared.map (dropMargin (margin cleared)))

def isBlankLine (line : List Char) : Bool :=
  line.all isBlank

def trimLines (lines : List (List Char)) : List (List Char) :=
  ((lines.dropWhile isBlankLine).reverse.dropWhile isBlankLine).reverse

def scrubChars (cs : List Char) : List Char :=
  joined '\n' ((trimLines (lines (dedent cs))).map trimEnd)

def scrub (s : String) : String :=
  String.ofList (scrubChars s.toList)

end CallScript.Text
