import CallScript.Proofs.Definitions
import CallScript.Proofs.Loads

/-! What names mean where each definition file registers the function it is named for, and nothing else.
A name then has one meaning, whether its function was loaded already or is loaded now, and for whichever
environment; a lookup gives this meaning and keeps the registry in order. -/
namespace CallScript

/- The program enters one function and does nothing else but log, whatever its lookups would come to. -/
def Program.Enters (p : Program) (env : Environment) (r : Registry) (f : Function) : Prop :=
  ∀ seek journal, ∃ told : Journal, (∀ entry ∈ told, entry.source ≠ .script) ∧
    (p.execute seek env).run ⟨r, journal⟩ = (.ok (), ⟨r.insert env f, journal ++ told⟩)

structure Definition.Registers (d : Definition) (name : String) : Prop where
  named : d.name.plain = .ok name
  kind : ∃ kind, FunctionKind.ofValue? d.kind = some kind
  arity : ∃ n, arityOfValue d.arity = .ok n
  environment : d.environment = .null

def Definition.function (d : Definition) (name : String) : Function :=
  { name
    arity := (arityOfValue d.arity).toOption.getD (-1)
    kind := (FunctionKind.ofValue? d.kind).getD .statement
    doc := d.doc
    body := d.body }

def Program.entry? (p : Program) (name : String) : Option Function :=
  ((p.execute (fun _ => return none) Environment.root).run ⟨⟨Dictionary.empty, .files {}⟩, []⟩).2.registry.get?
    name Environment.root

def Loader.meaning (loader : Loader) (tree : FileTree) (name : String) : Except Failure (Option Function) :=
  match Level.ofName? name with
  | some level => .ok (some (logFunction level))
  | none =>
      if isLoadable name then
        match loader.find tree name Environment.root with
        | .error f => .error (.fault f)
        | .ok none => .ok none
        | .ok (some path) => .ok <| Program.entry? (tree.program path) name
      else .ok none

structure Registry.Ordered (r : Registry) (tree : FileTree) (loader : Loader) : Prop where
  gateway : ∃ loaded, r.gateway = .files { loader with loaded } ∧
    ∀ env name, (env, name) ∈ loaded → ((r.table env).get? name).isSome = true
  entries : ∀ env name f, (r.table env).get? name = some f → loader.meaning tree name = .ok (some f)
  levels : ∀ level : Level, (r.table Environment.root).get? level.name = some (logFunction level)

def Host.spoken (h : Host) : List Record :=
  h.journal.filter (fun entry => entry.source == .script)

theorem levelNamed (level : Level) : Level.ofName? level.name = some level := by
  cases level <;> decide

theorem namedLevel {name : String} {level : Level} (named : Level.ofName? name = some level) :
    name = level.name := by
  have same := List.find?_some named
  exact (eq_of_beq same).symm

section Supplied

variable {tree : FileTree} {loader : Loader}

theorem registersRequested {d : Definition} {name} (registers : d.Registers name) (env : Environment) :
    d.requested env = .ok (env, d.function name) := by
  obtain ⟨named, ⟨kind, kindSame⟩, ⟨arity, aritySame⟩, environment⟩ := registers
  simp only [Definition.requested, Definition.function, named, kindSame, aritySame, environment]
  rfl

theorem definitionEnters {d : Definition} {name} (registers : d.Registers name) (env : Environment) (r : Registry) :
    (Program.define d Program.finish.requiring).Enters env r (d.function name) := by
  intro seek journal
  let warnings := if (r.get? name env).isSome then [overwriting name] else []
  refine ⟨warnings, fun entry mem => ?_, ?_⟩
  · simp only [warnings, List.mem_ite_nil_right, List.mem_singleton] at mem
    rw [mem.2]
    rintro ⟨⟩
  · rw [Program.execute, runBind, runObserved, defineRun, registersRequested registers]
    rfl

theorem getEntered (r : Registry) (env : Environment) (f : Function) : (r.insert env f).get? f.name env = some f := by
  rw [Registry.get?, tableInsert, if_pos ⟨rfl, rfl⟩]

def Registry.extended (r : Registry) (loader : Loader) (env : Environment) (name : String)
    (loaded : List (Environment × String)) (f : Function) : Registry :=
  { r.insert env f with gateway := .files { loader with loaded := (env, name) :: loaded } }

theorem extendedTable (loader : Loader) (loaded : List (Environment × String)) (f : Function)
    (r : Registry) (env other : Environment) (name n : String) :
    ((r.extended loader env name loaded f).table other).get? n =
      if other = env ∧ n = f.name then some f else (r.table other).get? n :=
  tableInsert r env other f n

theorem modifyLoaderRuns {h : Host} {l : Loader} {change : Loader → Loader}
    (gateway : h.registry.gateway = .files l) : (modifyLoader change).run h =
      (.ok (), ⟨{ h.registry with gateway := .files (change l) }, h.journal⟩) := by
  obtain ⟨⟨tables, _⟩, journal⟩ := h
  cases gateway
  rfl

theorem ownEntry {r : Registry} {env name} (entry : ((r.table env).get? name).isSome = true) :
    (r.get? name env).isSome = true := by
  obtain ⟨f, here⟩ := Option.isSome_iff_exists.mp entry
  rw [Registry.get?, here]
  rfl

theorem executeFoundRuns {path : Path} {env : Environment} {f : Function} {h : Host} {current : Loader}
    (enters : (tree.program path).Enters env h.registry f) (depth : Nat)
    (gateway : h.registry.gateway = .files current) :
    ∃ told, (∀ entry ∈ told, entry.source ≠ .script) ∧ (executeFound tree env depth f.name path).run h =
      (.ok true, ⟨h.registry.extended current env f.name current.loaded f, h.journal ++ told⟩) := by
  let telling : Record :=
    ⟨.loader, .debug, "Loading function " ++ f.name ++ " for " ++ env.name ++ " from " ++ path.text⟩
  obtain ⟨told, other, runs⟩ := enters (seekNested tree env depth) (h.journal ++ [telling])
  let extended := h.registry.extended current env f.name current.loaded f
  have known : extended.get? f.name env = some f := getEntered h.registry env f
  refine ⟨telling :: told, List.forall_mem_cons.mpr ⟨by rintro ⟨⟩, other⟩, ?_⟩
  rw [executeFound, runBind]
  change (_ : Hosted Bool).run ⟨h.registry, h.journal ++ [telling]⟩ = _
  rw [runBind, runTry, runs]
  dsimp only
  rw [runBind, modifyLoaderRuns (h := ⟨h.registry.insert env f, _⟩) gateway]
  change ((get : Hosted Host) >>= _).run ⟨extended, h.journal ++ [telling] ++ told⟩ = _
  rw [runGet, known, List.append_assoc]
  rfl

end Supplied

end CallScript
