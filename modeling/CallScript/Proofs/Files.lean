import CallScript.Function.Reading
import CallScript.Proofs.Installed

/-! What holds of each file of a tree, and of what it does when it is executed. Definition files register their functions
without naming an environment, and so do the files of every tree that is made by reading, writing and removing files. -/
namespace CallScript

def Program.Ambient (p : Program) : Prop :=
  ∀ env d, p.Defines env d → d.environment = .null

def FileTree.Each (tree : FileTree) (P : Program → Prop) : Prop :=
  ∀ entry ∈ tree.entries, P entry.2.executed

def FileTree.Ambient (tree : FileTree) : Prop :=
  tree.Each Program.Ambient

theorem finishAmbient : Program.finish.Ambient := by
  rintro _ _ ⟨⟩

theorem requiringDefines {α : Type} {rest : Program} {told : Except Failure α} {env : Environment} {d : Definition}
    (asked : (rest.requiring told).Defines env d) : rest.Defines env d := by
  cases told with
  | ok _ => exact asked
  | error _ => cases asked

theorem lookupAmbient {rest : Program} (ambient : rest.Ambient) (name : Value) :
    (Program.lookup name rest.requiring).Ambient := by
  rintro env d ⟨⟩
  exact ambient env d (requiringDefines ‹_›)

theorem defineAmbient {rest : Program} (ambient : rest.Ambient) {d : Definition} (null : d.environment = .null) :
    (Program.define d rest.requiring).Ambient := by
  intro env other asked
  cases asked with
  | here => exact null
  | define later => exact ambient env other (requiringDefines later)

theorem listAmbient {file : DefinitionFile} (each : ∀ d ∈ file.definitions, d.environment = .null) :
    file.program.Ambient := by
  have ending : file.ending.Ambient := by
    rw [DefinitionFile.ending]
    split <;> rintro _ _ ⟨⟩
  have registering : (file.definitions.foldr (fun d rest => .define d rest.requiring) file.ending).Ambient := by
    generalize file.definitions = definitions at each
    induction definitions with
    | nil => exact ending
    | cons d definitions ih =>
      rw [List.forall_mem_cons] at each
      exact defineAmbient (ih each.2) each.1
  rw [DefinitionFile.program]
  induction file.lookups with
  | nil => exact registering
  | cons name lookups ih => exact lookupAmbient ih name

theorem performAmbient (env : Environment) (steps : List Source.Statement) : (Source.perform env steps).Ambient := by
  induction steps with
  | nil => exact finishAmbient
  | cons step rest ih =>
    cases step with
    | lookup name => exact lookupAmbient ih _
    | raising message => rintro _ _ ⟨⟩
    | register r returned => exact defineAmbient ih rfl

theorem sourceAmbient (bytes : List UInt8) : (Program.ofSource bytes).Ambient := by
  rw [Program.ofSource]
  cases read : Source.program? bytes with
  | none => rintro _ _ ⟨⟩
  | some p =>
    simp only [Source.program?, Option.bind_eq_bind, Option.bind_eq_some_iff] at read
    obtain ⟨text, -, lines, -, steps, -, same⟩ := read
    cases same
    intro env d asked
    cases asked with
    | environment later => exact performAmbient env steps env d later

theorem definitionAmbient {v : Value} {d : Definition} (read : Definition.ofValue? v = some d) :
    d.environment = .null := by
  simp only [Definition.ofValue?, Option.bind_eq_bind, Option.bind_eq_some_iff] at read
  obtain ⟨_, -, _, -, same⟩ := read
  cases same
  rfl

theorem definitionsAmbient {vs : List Value} {ds : List Definition} (read : vs.mapM Definition.ofValue? = some ds) :
    ∀ d ∈ ds, d.environment = .null := by
  induction vs generalizing ds with
  | nil =>
    cases read
    exact fun _ mem => absurd mem List.not_mem_nil
  | cons v vs ih =>
    simp only [List.mapM_cons, Option.bind_eq_bind, Option.bind_eq_some_iff] at read
    obtain ⟨d, one, rest, more, same⟩ := read
    cases same
    exact List.forall_mem_cons.mpr ⟨definitionAmbient one, ih more⟩

theorem readAmbient {bytes : List UInt8} {file : DefinitionFile} (read : DefinitionFile.ofBytes? bytes = some file) :
    file.program.Ambient := by
  simp only [DefinitionFile.ofBytes?, DefinitionFile.ofValue?, Option.bind_eq_bind, Option.bind_eq_some_iff] at read
  obtain ⟨_, -, _, -, definitions, items, same⟩ := read
  cases same
  exact listAmbient (definitionsAmbient items)

section Changes

variable {tree : FileTree} {P : Program → Prop}

theorem installedEach (nothing : P .finish) (bundled : ∀ d ∈ bundledFunctions, P (Program.define d Program.finish.requiring)) :
    FileTree.installed.Each P := by
  intro entry mem
  rcases List.mem_append.mp mem with directory | file
  · simp only [List.mem_cons, List.not_mem_nil, or_false] at directory
    obtain rfl | rfl | rfl := directory <;> exact nothing
  · obtain ⟨d, listed, rfl⟩ := List.mem_map.mp file
    exact bundled d listed

theorem setEach (each : tree.Each P) (place : Place) {entry : Entry} (holds : P entry.executed) :
    (tree.set place entry).Each P := by
  intro e mem
  rcases List.mem_append.mp mem with before | here
  · exact each e (List.mem_filter.mp before).1
  · cases List.mem_singleton.mp here
    exact holds

theorem removeEach (each : tree.Each P) (p : Path) : (tree.remove p).Each P :=
  fun e mem => each e (List.mem_filter.mp mem).1

theorem writeEach (nothing : P .finish) (each : tree.Each P) (p : Path) {entry : Entry} (holds : P entry.executed) :
    (tree.write p entry).Each P := by
  have parents (place : Place) (lengths : List Nat) (tree : FileTree) (each : tree.Each P) :
      (lengths.foldl (fun tree n =>
        let above := place.take n
        if (tree.entry? above).isSome then tree else tree.set above .directory) tree).Each P := by
    induction lengths generalizing tree with
    | nil => exact each
    | cons n lengths ih =>
      refine ih _ ?_
      dsimp only
      split
      · exact each
      · exact setEach each _ nothing
  exact setEach (parents _ _ tree each) _ holds

theorem writeTextEach (each : tree.Each P) (sources : ∀ bytes, P (Program.ofSource bytes)) {p : Path} {text : String}
    {after : FileTree} (wrote : tree.writeText p text = .ok after) : after.Each P := by
  rw [FileTree.writeText] at wrote
  cases target : tree.target p with
  | error f =>
    rw [target] at wrote
    cases wrote
  | ok place =>
    rw [target] at wrote
    cases wrote
    exact setEach each place (sources _)

end Changes

theorem installedAmbient : FileTree.installed.Ambient := by
  have bundled : ∀ d ∈ bundledFunctions, d.environment = .null := by
    simp [bundledFunctions, bundledFunction]
  exact installedEach finishAmbient (fun d listed => defineAmbient finishAmbient (bundled d listed))

inductive FileTree.Made : FileTree → Prop where
  | installed : Made FileTree.installed
  | directory {tree p} (made : Made tree) : Made (tree.write p .directory)
  | contents {tree p bytes} (made : Made tree) : Made (tree.write p (.contents bytes))
  | definitions {tree p bytes file} (made : Made tree) (read : DefinitionFile.ofBytes? bytes = some file) :
      Made (tree.write p (.definitions file))
  | text {tree p s after} (made : Made tree) (wrote : tree.writeText p s = .ok after) : Made after
  | remove {tree p} (made : Made tree) : Made (tree.remove p)

theorem madeAmbient {tree : FileTree} (made : tree.Made) : tree.Ambient := by
  induction made with
  | installed => exact installedAmbient
  | directory _ ih => exact writeEach finishAmbient ih _ finishAmbient
  | contents _ ih => exact writeEach finishAmbient ih _ (sourceAmbient _)
  | definitions _ read ih => exact writeEach finishAmbient ih _ (readAmbient read)
  | text _ wrote ih => exact writeTextEach ih sourceAmbient wrote
  | remove _ ih => exact removeEach ih _

theorem walkFound {tree : FileTree} {place found : Place} {parts : List String} {entry : Entry}
    (walked : tree.walk place parts = .found found entry) : tree.entry? found = some entry := by
  induction parts generalizing place with
  | nil =>
    rw [FileTree.walk] at walked
    split at walked
    · cases walked
      assumption
    · cases walked
  | cons part parts ih =>
    rw [FileTree.walk] at walked
    split at walked
    · cases walked
    · split at walked
      · exact ih walked
      · split at walked
        · cases walked
        · exact ih walked
    · cases walked

theorem programEach {tree : FileTree} {P : Program → Prop} (nothing : P .finish) (each : tree.Each P) (path : Path) :
    P (tree.program path) := by
  rw [FileTree.program]
  split
  · rename_i place entry resolved
    rw [FileTree.resolve] at resolved
    split at resolved
    · cases resolved
    · have here := walkFound resolved
      by_cases top : place = []
      · subst top
        cases here
        exact nothing
      · exact each _ (entryListed here top)
  · exact nothing

theorem ambientFile {tree : FileTree} (files : tree.Ambient) (path : Path) : (tree.program path).Ambient :=
  programEach finishAmbient files path

end CallScript
