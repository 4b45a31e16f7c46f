import CallScript.Analysis
import CallScript.Proofs.Confinement

/-! Evaluation does not depend on what was loaded before, if a definition file registers the same function wherever it
is executed. Each operation keeps a registry in order, and two runs of a script on registries in order stay alike,
action by action, whatever each of them has loaded already and for whichever environments. -/
namespace CallScript

open Syntax (Node Tree)

section Operations

variable {tree : FileTree} {loader : Loader}

def Host.Ordered (tree : FileTree) (loader : Loader) (h : Host) : Prop :=
  h.registry.Ordered tree loader

structure Alike (tree : FileTree) (loader : Loader) (earlier : List Record) (s t : Run) : Prop where
  first : s.host.Ordered tree loader
  second : t.host.Ordered tree loader
  bindings : s.bindings = t.bindings
  spoken : s.host.spoken = earlier ++ t.host.spoken

def Matched (tree : FileTree) (loader : Loader) (earlier : List Record) (α : Type) (x : Running α) : Prop :=
  Related (Alike tree loader earlier) x x

inductive Operation where
  | lookup (name : String) (env : Environment)
  | load (name : String) (env : Environment)
  | loadAll (env : Environment)
  | documentation (env : Environment)
  | isRvalue (name : String) (env : Environment)
  | analyze (env : Environment) (node : Node)
  | evaluate (ambient : Environment) (scope : Scope) (bindings : Dictionary Value) (node : Node)

def Operation.perform (tree : FileTree) (h : Host) : Operation → Host
  | .lookup name env => ((CallScript.lookup tree name env).run h).2
  | .load name env => ((CallScript.load tree name env).run h).2
  | .loadAll env => ((CallScript.loadAll tree env).run h).2
  | .documentation env => ((CallScript.documentation tree env).run h).2
  | .isRvalue _ _ | .analyze _ _ => h
  | .evaluate ambient scope bindings node => (runOn ⟨tree, ambient⟩ scope h bindings node).host

theorem levelEntries {levels : List Level} {r : Registry} {env name f}
    (entry : ((levels.foldl (fun r level => r.insert Environment.root (logFunction level)) r).table env).get?
      name = some f) :
    (env = Environment.root ∧ ∃ level, name = level.name ∧ f = logFunction level) ∨
      (r.table env).get? name = some f := by
  induction levels generalizing r with
  | nil => exact .inr entry
  | cons level levels ih =>
    rcases ih entry with found | found
    · exact .inl found
    · rw [tableInsert] at found
      split at found
      · rename_i here
        cases found
        exact .inl ⟨here.1, level, here.2, rfl⟩
      · exact .inr found

theorem levelsEntered {levels : List Level} {r : Registry} {level : Level}
    (entered : level ∈ levels ∨ (r.table Environment.root).get? level.name = some (logFunction level)) :
    ((levels.foldl (fun r level => r.insert Environment.root (logFunction level)) r).table
      Environment.root).get? level.name = some (logFunction level) := by
  induction levels generalizing r with
  | nil => simpa using entered
  | cons other levels ih =>
    refine ih ?_
    rw [tableInsert]
    by_cases same : level.name = (logFunction other).name
    · have named : some level = some other := by
        rw [← levelNamed level, ← levelNamed other]
        exact congrArg _ same
      cases named
      exact .inr (if_pos ⟨rfl, rfl⟩)
    · rw [if_neg (fun here => same here.2)]
      refine entered.imp (fun mem => ?_) id
      rcases List.mem_cons.mp mem with rfl | mem
      · exact absurd rfl same
      · exact mem

end Operations

end CallScript
