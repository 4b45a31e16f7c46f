import CallScript.Dictionary
import CallScript.Failure
import CallScript.Function

/-! Programs of definition files. A file acts on the registry that executes it, in the environment it is executed for:
it looks names up there, registers functions in any environment, looks at what is known there, and may fail. Each step
hands on what it came to, and the file goes on from that. A file does nothing else to the registry. -/
namespace CallScript

abbrev Table := Dictionary Function

/-- What a file does may depend on the environment, on the functions that this environment sees, on what a lookup gives
and on whether a step failed; a file that does not go on from a failure fails with it. -/
inductive Program where
  | finish
  | fail (cause : Failure)
  | environment (next : Environment → Program)
  | functions (next : Table → Program)
  | lookup (name : Value) (next : Except Failure (Option Function) → Program)
  | define (d : Definition) (next : Except Failure Function → Program)

def Program.requiring {α : Type} (rest : Program) : Except Failure α → Program
  | .ok _ => rest
  | .error cause => .fail cause

structure DefinitionFile where
  lookups : List Value := []
  definitions : List Definition := []
  failure : Option String := none

def DefinitionFile.ending (file : DefinitionFile) : Program :=
  match file.failure with
  | some message => .fail (.fault (.crash message))
  | none => .finish

def DefinitionFile.program (file : DefinitionFile) : Program :=
  file.lookups.foldr (fun name rest => .lookup name rest.requiring)
    (file.definitions.foldr (fun d rest => .define d rest.requiring) file.ending)

end CallScript
