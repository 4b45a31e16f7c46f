import CallScript.Analysis
import CallScript.Proofs.Definitions
import CallScript.Proofs.Loads

/-! Empty tables are of no account. Two registries whose tables differ in nothing but tables without entries
answer every question alike, and stay so through definitions, loads and evaluations, also where these fail. -/
namespace CallScript

/- Two registries with the same functions in every environment; one of them may have a table where the other has
none, as long as it is empty. -/
structure Registry.Alike (r s : Registry) : Prop where
  table : ∀ env, r.table env = s.table env
  gateway : r.gateway = s.gateway

def Registry.opened (env : Environment) (r : Registry) : Registry :=
  if r.tables.contains env.name then r else { r with tables := r.tables.put env.name Dictionary.empty }

theorem openedAlike (env : Environment) (r : Registry) : (r.opened env).Alike r := by
  rw [Registry.opened]
  split
  · exact ⟨fun _ => rfl, rfl⟩
  · rename_i fresh
    refine ⟨fun other => ?_, rfl⟩
    rw [Registry.table, Dictionary.get?_put]
    split
    · rename_i same
      have none : r.tables.get? other.name = none := by simpa [Dictionary.contains, same] using fresh
      rw [Registry.table, none]
      rfl
    · rfl

theorem alikeSelf (r : Registry) : r.Alike r := ⟨fun _ => rfl, rfl⟩

section Reading

variable {r s : Registry} (alike : r.Alike s)

include alike

theorem alikeOnward {t : Registry} (next : s.Alike t) : r.Alike t :=
  ⟨fun env => (alike.table env).trans (next.table env), alike.gateway.trans next.gateway⟩

theorem alikeGet (name : String) (env : Environment) : r.get? name env = s.get? name env := by
  rw [Registry.get?, alike.table, alike.table, Registry.get?]

theorem alikeRvalue (name : String) (env : Environment) : r.isRvalue name env = s.isRvalue name env := by
  rw [Registry.isRvalue, alikeGet alike, Registry.isRvalue]

theorem alikeArity (name : String) (env : Environment) : r.arity name env = s.arity name env := by
  rw [Registry.arity, alikeGet alike, Registry.arity]

theorem alikeFunctions (env : Environment) : r.functions env = s.functions env := by
  rw [Registry.functions, alike.table, alike.table, Registry.functions]

theorem alikeListing (env : Environment) : r.listing env = s.listing env := by
  rw [Registry.listing, alikeFunctions alike, Registry.listing]

theorem alikeAnalyze (env : Environment) (node : Syntax.Node) : analyze r env node = analyze s env node := by
  have problems : problemOf r env = problemOf s env := by
    funext name statement
    rw [problemOf, alikeGet alike, problemOf]
  rw [analyze, problems, analyze]

theorem alikeInsert (env : Environment) (f : Function) : (r.insert env f).Alike (s.insert env f) := by
  refine ⟨fun other => ?_, alike.gateway⟩
  rw [insertTable, insertTable, alike.table, alike.table]

theorem alikeReset : r.reset = s.reset := by
  rw [Registry.reset, alike.gateway, Registry.reset]

end Reading

structure Host.Alike (h k : Host) : Prop where
  registry : h.registry.Alike k.registry
  journal : h.journal = k.journal

section Hosts

theorem alikeRecord (source : Source) (level : Level) (message : String) :
    Related Host.Alike (record source level message) (record source level message) :=
  fun _ _ alike => ⟨rfl, alike.registry, congrArg (· ++ [_]) alike.journal⟩

theorem alikeDefine (ambient : Environment) (d : Definition) :
    Related Host.Alike (define ambient d) (define ambient d) := by
  intro h k alike
  rw [Meets, defineRun, defineRun]
  cases d.requested ambient with
  | error failure => exact ⟨rfl, alike⟩
  | ok entry =>
    refine ⟨rfl, alikeInsert alike.registry entry.1 entry.2, ?_⟩
    simp only [Host.enter, alikeGet alike.registry, alike.journal]

theorem alikeLoader (change : Loader → Loader) :
    Related Host.Alike (modifyLoader change) (modifyLoader change) := by
  rintro ⟨⟨tables, gateway⟩, journal⟩ ⟨⟨tables', gateway'⟩, journal'⟩ ⟨⟨same, rfl⟩, written⟩
  cases gateway <;> exact ⟨rfl, ⟨same, rfl⟩, written⟩

theorem alikeRecorder (change : Recorder → Recorder) :
    Related Host.Alike (modifyRecorder change) (modifyRecorder change) := by
  rintro ⟨⟨tables, gateway⟩, journal⟩ ⟨⟨tables', gateway'⟩, journal'⟩ ⟨⟨same, rfl⟩, written⟩
  cases gateway <;> exact ⟨rfl, ⟨same, rfl⟩, written⟩

theorem alikeRestart : Related Host.Alike (modifyRegistry Registry.reset) (modifyRegistry Registry.reset) := by
  rintro ⟨r, journal⟩ ⟨s, journal'⟩ ⟨alike, written⟩
  refine ⟨rfl, ?_, written⟩
  change (r.reset).Alike (s.reset)
  rw [alikeReset alike]
  exact alikeSelf _

variable (tree : FileTree) (env : Environment)

theorem alikeAttuned : Attuned tree env Host.Alike where
  sees _ _ alike name := alikeGet alike.registry name env
  views _ _ alike := alikeFunctions alike.registry env
  attends h k alike := by
    rw [alike.registry.gateway]
    cases k.registry.gateway with
    | files loader => exact .inl ⟨loader, loader, rfl, rfl, rfl, fun _ => rfl⟩
    | recording recorder => exact .inr ⟨recorder, recorder, rfl, rfl⟩
  tells level message := alikeRecord .loader level message
  marks name := alikeLoader (markLoaded env name)
  defines _ _ _ _ _ _ _ _ d _ := alikeDefine env d

theorem alikeRequest (recorder : Recorder) (name : String) :
    Related Host.Alike (requestFrom recorder name env) (requestFrom recorder name env) := by
  refine relatedBind (alikeRecorder _) (fun _ => ?_)
  split
  · exact relatedPure _
  · exact relatedThrow _
  · exact relatedBind (alikeDefine env _) (fun _ => relatedPure _)

theorem alikeLoad (name : String) : Related Host.Alike (load tree name env) (load tree name env) := by
  refine attunedLoad (alikeAttuned tree env) (fun h k recorder recorder' alike here there name => ?_) name
  have same := alike.registry.gateway
  rw [here, there] at same
  cases same
  exact alikeRequest env recorder name h k alike

theorem alikeLookup (name : String) : Related Host.Alike (lookup tree name env) (lookup tree name env) :=
  seenLookup (alikeLoad tree env) (fun _ _ alike name => alikeGet alike.registry name env) name

theorem alikeLoadAll : Related Host.Alike (loadAll tree env) (loadAll tree env) := by
  refine relatedGet (fun h k alike => ?_)
  rw [alike.registry.gateway]
  split
  · exact directoriesRelated (alikeLoad tree env) (alikeRecord .loader .warning) [] _ h k alike
  · exact alikeRecorder _ h k alike

theorem alikeDocumentation : Related Host.Alike (documentation tree env) (documentation tree env) := by
  refine relatedBind (alikeLoadAll tree env) (fun _ => relatedGet (fun h k alike => ?_))
  rw [alikeListing alike.registry]
  exact relatedBind (faultRelated _) (fun _ => relatedPure _) h k alike

end Hosts

structure Run.Alike (s t : Run) : Prop where
  host : s.host.Alike t.host
  bindings : s.bindings = t.bindings

def Indifferent (α : Type) (x : Running α) : Prop :=
  Related Run.Alike x x

theorem indifferentHost {α : Type} {action : Hosted α} (related : Related Host.Alike action action) :
    Indifferent α (onHost action) := by
  intro s t alike
  obtain ⟨same, after⟩ := related s.host t.host alike.host
  exact ⟨same, after, alike.bindings⟩

theorem indifferentEnduring (around : Surroundings) (env : Environment) :
    Enduring around env (fun _ => True) Indifferent where
  gives := relatedPure
  fails failure _ := relatedThrow failure
  throws := relatedThrow
  chains := relatedBind
  reads name := by
    refine relatedGet (fun s t alike => ?_)
    rw [alike.bindings]
    split
    · exact relatedPure _ s t alike
    · exact relatedThrow _ s t alike
  writes name v s t alike := ⟨rfl, alike.host, congrArg (fun b => b.put name v) alike.bindings⟩
  logs level message := indifferentHost (alikeRecord .script level message)
  defines _ d _ := indifferentHost (alikeDefine around.ambient d)
  looks name f rest := relatedBind (indifferentHost (alikeLookup around.tree env name))
    (fun found => rest found (fun _ _ => trivial))

theorem indifferentEvaluation (around : Surroundings) (scope : Scope) (node : Syntax.Node) :
    Indifferent Value (evaluate around scope node) :=
  evaluationLasts (indifferentEnduring around scope.environment) node

theorem indifferentCall (around : Surroundings) (scope : Option Scope) (tuple : Bool) (values : List Value)
    (f : Function) : Indifferent Value (call around scope tuple values f) := by
  have enduring := indifferentEnduring around (around.environment scope)
  exact @callLasts _ (fun _ => True) around scope enduring.toLasting _ rfl enduring.defines (fun _ => enduring.looks)
    tuple values f trivial

end CallScript
