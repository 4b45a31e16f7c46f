import CallScript.Proofs.Definitions
import CallScript.Proofs.Files
import CallScript.Proofs.Loads

/-! What documentation does to the names that have a meaning. For its environment it loads whatever is found
there and was not loaded there before, also under names that mean something already. No name loses its
meaning, and it gets another one only from a file that is loaded so. -/
namespace CallScript

def Loader.Offers (loader : Loader) (tree : FileTree) (env : Environment) (f : Function) : Prop :=
  ∃ name path, loader.Due tree env name path ∧
    ∃ d, (tree.program path).Defines env d ∧ d.requested env = .ok (env, f)

/- Names keep their meanings, except for those that the root or the environment itself gives them anew. -/
structure Host.Extends (tree : FileTree) (env : Environment) (loader : Loader) (before after : Host) : Prop where
  gateway : ∃ more, after.registry.gateway = .files { loader with loaded := more ++ loader.loaded }
  meanings : ∀ name other f, before.registry.get? name other = some f →
    ∃ g, after.registry.get? name other = some g ∧
      (g = f ∨ g.name = name ∧ (other = env ∨ env = Environment.root) ∧ loader.Offers tree env g)

section Extending

variable {tree : FileTree} {env : Environment} {loader : Loader} {before : Host}

theorem extendsSelf (gateway : before.registry.gateway = .files loader) :
    before.Extends tree env loader before :=
  ⟨⟨[], gateway⟩, fun _ _ f means => ⟨f, means, .inl rfl⟩⟩

theorem dueBefore {more : List (Environment × String)} {name : String} {path : Path}
    (due : ({ loader with loaded := more ++ loader.loaded } : Loader).Due tree env name path) :
    loader.Due tree env name path :=
  ⟨due.loadable, fun mem => due.fresh (List.mem_append_right more mem), due.found⟩

theorem defineExtends {d : Definition} (ambient : d.environment = .null)
    (offered : ∀ f, d.requested env = .ok (env, f) → loader.Offers tree env f) :
    Keeps (before.Extends tree env loader) (define env d) := by
  intro h extended
  rw [defineRun]
  cases requested : d.requested env with
  | error failure => exact extended
  | ok entry =>
    obtain ⟨target, g⟩ := entry
    have here := requestedEnvironment requested
    rw [ambient] at here
    cases here
    refine ⟨extended.gateway, fun name other f means => ?_⟩
    rcases getInserted h.registry env other g name with same | ⟨entered, named, reached⟩
    · obtain ⟨g', means', kept⟩ := extended.meanings name other f means
      exact ⟨g', same.trans means', kept⟩
    · exact ⟨g, entered, .inr ⟨named, reached, offered g requested⟩⟩

theorem markExtends (name : String) :
    Keeps (before.Extends tree env loader) (modifyLoader (markLoaded env name)) := by
  rintro ⟨⟨tables, gateway⟩, journal⟩ ⟨⟨more, files⟩, meanings⟩
  cases files
  exact ⟨⟨(env, name) :: more, rfl⟩, meanings⟩

theorem loadExtends (files : tree.Ambient) (name : String) :
    Keeps (before.Extends tree env loader) (load tree name env) := by
  intro h extended
  obtain ⟨more, gateway⟩ := extended.gateway
  rw [load, runGet, gateway]
  refine loadFileKept (fun _ _ _ kept => ⟨kept.gateway, kept.meanings⟩) markExtends ?_ _ name gateway extended
  intro h' current name path kept here due d asked
  obtain ⟨more, there⟩ := kept.gateway
  cases here.symm.trans there
  exact defineExtends (ambientFile files path env d asked)
    (fun f requested => ⟨name, path, dueBefore due, d, asked, requested⟩)

end Extending

/- After documentation every name that had a meaning has one. Where it is another one, it comes from a file that
was found for the environment under a name not loaded there before, and is seen from the environment alone, or
from everywhere if this is the root. -/
theorem documentationExtends (tree : FileTree) (files : tree.Ambient) (h : Host) (loader : Loader)
    (gateway : h.registry.gateway = .files loader) (env : Environment) :
    let after := ((documentation tree env).run h).2
    ∀ name other f, h.registry.get? name other = some f →
      ∃ g, after.registry.get? name other = some g ∧
        (g = f ∨ g.name = name ∧ (other = env ∨ env = Environment.root) ∧ loader.Offers tree env g) := by
  have all : Keeps (h.Extends tree env loader) (loadAll tree env) := by
    intro k extended
    obtain ⟨more, files'⟩ := extended.gateway
    rw [loadAll, runGet, files']
    exact directoriesKept (loadExtends files) (fun _ _ kept => ⟨kept.gateway, kept.meanings⟩) [] _ k extended
  exact (documentationKept all h (extendsSelf gateway)).meanings

def tripling : FileTree :=
  FileTree.installed.write (Path.ofText "envs/production/functions/triple.py")
    (.definitions
      { definitions := [{ name := .text "triple", body := .constant (.int 7), kind := .text "rvalue" }] })

def triplingLoader : Loader := { environmentPath := some (Path.ofText "envs"), bundled := false }

def tripled : Host :=
  ((define Environment.root
      { name := .text "triple", body := .multiple 3, arity := .int 1, kind := .text "rvalue" }).run
    ⟨Registry.withGateway (.files triplingLoader), []⟩).2

def documented : Host :=
  ((documentation tripling ⟨"production"⟩).run tripled).2

theorem triplingAmbient : tripling.Ambient :=
  writeEach finishAmbient installedAmbient _ (listAmbient (List.forall_mem_singleton.mpr rfl))

theorem documentedArity : documented.registry.arity "triple" ⟨"production"⟩ = -1 := by
  have directories : triplingLoader.searchDirectories ⟨"production"⟩ =
      [⟨.workingDirectory, ["envs", "production", "functions"]⟩] := by decide +kernel
  have resolved : tripling.resolve ⟨.workingDirectory, ["envs", "production", "functions"]⟩ =
      .found ["/work", "envs", "production", "functions"] .directory := rfl
  have children : tripling.children ["/work", "envs", "production", "functions"] = ["triple.py"] :=
    List.mergeSort_singleton "triple.py"
  have gateway : tripled.registry.gateway = .files triplingLoader := rfl
  rw [documented, documentationHost, loadAll, runGet, gateway]
  dsimp only
  rw [directories, loadDirectory resolved children]
  decide +kernel

theorem documentedAnew {f : Function} (means : tripled.registry.get? "triple" ⟨"production"⟩ = some f) :
    documented.registry.get? "triple" ⟨"production"⟩ ≠ some f := by
  intro same
  have before : tripled.registry.arity "triple" ⟨"production"⟩ = 1 := rfl
  have after := documentedArity
  rw [Registry.arity, means] at before
  rw [Registry.arity, same] at after
  exact absurd (before.symm.trans after) (by decide)

theorem productionTriples : tripling.Ambient ∧ tripled.registry.gateway = .files triplingLoader ∧
    ∃ g, documented.registry.get? "triple" ⟨"production"⟩ = some g ∧
      triplingLoader.Offers tripling ⟨"production"⟩ g := by
  obtain ⟨g, means, same | ⟨-, -, offers⟩⟩ := documentationExtends tripling triplingAmbient tripled
    triplingLoader rfl ⟨"production"⟩ "triple" ⟨"production"⟩ _ rfl
  · exact absurd (same ▸ means) (documentedAnew rfl)
  · exact ⟨triplingAmbient, rfl, g, means, offers⟩

theorem documentationRedefines : ∃ f, tripled.registry.get? "triple" ⟨"production"⟩ = some f ∧
    documented.registry.get? "triple" ⟨"production"⟩ ≠ some f :=
  ⟨_, rfl, documentedAnew rfl⟩

end CallScript
