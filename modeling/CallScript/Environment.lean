/-! Environments: names under which functions are kept apart. What is defined in the root environment is
seen from all others. -/
namespace CallScript

structure Environment where
  name : String
  deriving DecidableEq, Repr, Inhabited

def Environment.root : Environment := ⟨"*root*"⟩

def Environment.isRoot (env : Environment) : Bool :=
  env == Environment.root

end CallScript
