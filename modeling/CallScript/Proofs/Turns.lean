import CallScript.Proofs.Events
import CallScript.Proofs.History

/-! Runs of whatever is asked of a registry, turn after turn. A run comes down to events: those of a definition
and of a reset are themselves, reading brings about none, and loads and evaluations bring about what is
possible in their environment. -/
namespace CallScript

inductive Turn where
  | define (ambient : Environment) (d : Definition)
  | reset
  | read (name : String) (env : Environment)
  | operation (o : Operation)

def Turn.perform (tree : FileTree) (h : Host) : Turn → Host
  | .define ambient d => ((CallScript.define ambient d).run h).2
  | .reset => { h with registry := h.registry.reset }
  | .read _ _ => h
  | .operation o => o.perform tree h

def Operation.environment : Operation → Environment
  | .lookup _ env | .load _ env | .loadAll env | .documentation env | .isRvalue _ env | .analyze env _ => env
  | .evaluate _ scope _ _ => scope.environment

theorem operationReaches (tree : FileTree) (h : Host) (o : Operation) :
    Reaches tree o.environment h (o.perform tree h) := by
  cases o with
  | lookup name env => exact lookupReaches name h
  | load name env => exact loadReaches name h
  | loadAll env => exact loadAllReaches h
  | documentation env => exact documentationReaches h
  | isRvalue | analyze => exact reachesSelf h
  | evaluate ambient scope bindings node => exact evaluationReaches ambient scope h bindings node

inductive Happens (tree : FileTree) : Host → List Turn → List Event → Host → Prop where
  | nil (h : Host) : Happens tree h [] [] h
  | define {h ambient d turns events last} (rest : Happens tree (h.after (.define ambient d)) turns events last) :
      Happens tree h (.define ambient d :: turns) (.define ambient d :: events) last
  | reset {h turns events last} (rest : Happens tree (h.after .reset) turns events last) :
      Happens tree h (.reset :: turns) (.reset :: events) last
  | read {h name env turns events last} (rest : Happens tree h turns events last) :
      Happens tree h (.read name env :: turns) events last
  | operation {h o turns first events last} (balanced : Balanced first)
      (unfolds : Unfolds (Event.Possible tree o.environment) h first (o.perform tree h))
      (rest : Happens tree (o.perform tree h) turns events last) :
      Happens tree h (.operation o :: turns) (first ++ events) last

theorem turnsHappen (tree : FileTree) (turns : List Turn) (h : Host) :
    ∃ events, Happens tree h turns events (turns.foldl (Turn.perform tree) h) := by
  induction turns generalizing h with
  | nil => exact ⟨[], .nil h⟩
  | cons turn turns ih =>
    obtain ⟨events, rest⟩ := ih (turn.perform tree h)
    cases turn with
    | define ambient d => exact ⟨_, .define rest⟩
    | reset => exact ⟨_, .reset rest⟩
    | read name env => exact ⟨_, .read rest⟩
    | operation o =>
      obtain ⟨first, balanced, unfolds⟩ := operationReaches tree h o
      exact ⟨_, .operation balanced unfolds rest⟩

def Event.Anywhere (tree : FileTree) (h : Host) (event : Event) : Prop :=
  (∃ ambient d, event = .define ambient d) ∨ event = .reset ∨ ∃ env, event.Possible tree env h

section Happening

variable {tree : FileTree} {h last : Host} {turns : List Turn} {events : List Event}

theorem happensUnfolds (happens : Happens tree h turns events last) :
    Unfolds (Event.Anywhere tree) h events last := by
  induction happens with
  | nil h => exact .nil h
  | define _ ih => exact .cons (.inl ⟨_, _, rfl⟩) ih
  | reset _ ih => exact .cons (.inr (.inl rfl)) ih
  | read _ ih => exact ih
  | operation _ unfolds _ ih =>
    exact unfoldsAppend (unfoldsWeaken (fun _ _ able => .inr (.inr ⟨_, able⟩)) unfolds) ih

theorem happensBalanced (happens : Happens tree h turns events last) : Balanced events := by
  induction happens with
  | nil => exact fun _ _ => Nat.le_refl _
  | define _ ih => exact balancedAppend (balancedOne (by rintro _ _ ⟨⟩)) ih
  | reset _ ih => exact balancedAppend (balancedOne (by rintro _ _ ⟨⟩)) ih
  | read _ ih => exact ih
  | operation balanced _ _ ih => exact balancedAppend balanced ih

end Happening

end CallScript
