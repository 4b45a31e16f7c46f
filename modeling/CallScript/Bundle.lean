import CallScript.FileTree

/-! The functions that come with the language, each in a definition file of its own. -/
namespace CallScript

def bundledFunction (name : String) (arity : Int) (kind : FunctionKind) (doc : String) (body : Body) :
    Definition :=
  { name := .text name, body, arity := .int arity, kind := .text kind.name, doc := .text doc }

def bundledFunctions : List Definition := [
  bundledFunction "defined" 1 .rvalue
    "\n    Whether a function of the given name is available in the current\n    environment. Loads the function if it has not been used yet.\n"
    .defined,
  { name := .text "fail", body := .fail,
    doc := .text "Fail with a script error, joining the arguments with spaces." },
  bundledFunction "mean" (-2) .rvalue
    "\n    Arithmetic mean of its arguments. Lists are flattened, so `mean([1, 2], 3)`\n    is the mean of 1, 2 and 3.\n"
    .mean,
  bundledFunction "sdiv" 2 .rvalue
    "\n    Safe divide: `sdiv(a, b)` returns `a / b`, or 0 where `b` is 0 or NaN.\n"
    .safeDivide,
  bundledFunction "sha1" 1 .rvalue "Return the hex SHA1 digest of a string." .digest,
  bundledFunction "split" 2 .rvalue
    "\n    Split a string on a regular expression: `split(\"a,b;c\", \"[,;]\")` returns\n    `[\"a\", \"b\", \"c\"]`.\n"
    .split,
  bundledFunction "sprintf" (-2) .rvalue
    "\n    Format a string with printf-style conversions: the first argument is the\n    format, the remaining arguments fill it in, e.g. `sprintf(\"%s-%03d\", \"web\", 7)`.\n"
    .format]

def definitionName (d : Definition) : String :=
  match d.name with
  | .text s => s
  | _ => ""

def FileTree.installed : FileTree :=
  ⟨[(["/work"], .directory), (["/package"], .directory), (["/package", "functions"], .directory)] ++
    bundledFunctions.map (fun d =>
      (["/package", "functions", definitionName d ++ definitionSuffix],
        .definitions { definitions := [d] }))⟩

end CallScript
