import CallScript.Proofs.Completion
import CallScript.Proofs.Entered
import CallScript.Proofs.Files
import CallScript.Proofs.Settled

/-! Loads that fail. What was defined before the failure stays defined, for nothing is taken back; but a file that
fails is not marked as loaded, and as long as no function came to be known whose load failed, and the files of these
functions go on in one way each, the next lookup fails as this one did. -/
namespace CallScript

variable {tree : FileTree} {env : Environment} {depth : Nat}

def Failure.failedLoads : Failure → List String
  | .loading name _ _ cause => name :: cause.failedLoads
  | _ => []

structure Registry.Hopeless (r : Registry) (tree : FileTree) (env : Environment) (names : List String) : Prop where
  lacks : ∀ name ∈ names, r.get? name env = none
  steady : ∀ name ∈ names, ∀ loader path, r.gateway = .files loader →
    loader.find tree name env = .ok (some path) → (tree.program path).Steadfast env

structure Registry.Abides (r : Registry) (env : Environment) (s : Registry) : Prop where
  gateway : r.gateway = s.gateway
  knows : ∀ name, (r.get? name env).isSome = (s.get? name env).isSome

section Abiding

variable {r s : Registry}

theorem hopelessNested {name path : String} {other : Environment} {cause : Failure}
    (hopeless : r.Hopeless tree env (Failure.loading name path other cause).failedLoads) :
    r.Hopeless tree env cause.failedLoads :=
  ⟨fun n mem => hopeless.lacks n (List.mem_cons_of_mem _ mem),
    fun n mem => hopeless.steady n (List.mem_cons_of_mem _ mem)⟩

theorem settledAbides {name : String} (abides : r.Abides env s) (settled : s.Settled tree env depth name) :
    r.Settled tree env depth name := by
  rw [Registry.Settled, abides.gateway, abides.knows]
  exact settled

theorem enteredSeen {target : Environment} (f : Function) (seen : env = target ∨ target = Environment.root) :
    ((r.insert target f).get? f.name env).isSome = true := by
  rcases seen with rfl | rfl
  · exact ownEntry (by rw [tableInsert, if_pos ⟨rfl, rfl⟩]; rfl)
  · rw [Registry.get?]
    split
    · rfl
    · rw [tableInsert, if_pos ⟨rfl, rfl⟩]
      rfl

theorem insertAbides {target : Environment} {f : Function} (abides : r.Abides env s)
    (known : env = target ∨ target = Environment.root → (s.get? f.name env).isSome = true) :
    (r.insert target f).Abides env s := by
  refine ⟨abides.gateway, fun name => ?_⟩
  rcases getInserted r target env f name with same | ⟨entered, rfl, seen⟩
  · rw [same]
    exact abides.knows name
  · rw [entered, known seen]
    rfl

end Abiding

section Failing

theorem seekFailed {wanted : String} {cause : Failure} {h t : Host}
    (files : h.registry.Files)
    (fails : (seekNested tree env depth wanted).run h = (.error cause, t)) :
    h.registry.get? wanted env = none ∧ ∃ loader, h.registry.gateway = .files loader ∧
      (loadFile tree env depth loader wanted).run h = (.error cause, t) := by
  obtain ⟨loader, gateway⟩ := files
  cases found : h.registry.get? wanted env with
  | some f =>
    rw [seekKnown found] at fails
    cases fails
  | none =>
    refine ⟨rfl, loader, gateway, ?_⟩
    rw [seekLoads found gateway] at fails
    rcases failedBind fails with loading | ⟨_, u, _, rest⟩
    · exact loading
    · cases rest

theorem fulfilledStuck (seeking : Seeking tree env depth) {p : Program} (steady : p.Steadfast env) {cause : Failure}
    {h t : Host} (files : h.registry.Files)
    (fails : (p.execute (seekNested tree env depth) env).run h = (.error cause, t))
    (unsettles : ∀ wanted u, u.registry.Files →
      (seekNested tree env depth wanted).run u = (.error cause, t) → ¬ t.registry.Settled tree env 1 wanted) :
    ¬ p.Fulfilled tree env t.registry := by
  intro fulfilled
  induction steady generalizing h with
  | finish => cases fails
  | fail => exact fulfilled.elim
  | environment _ ih => exact ih files fails fulfilled
  | @lookup name rest _ ih =>
    obtain ⟨⟨wanted, plain, settled⟩, later⟩ := fulfilled
    rw [lookupSteps] at fails
    rcases failedBind fails with looking | ⟨_, u, looked, rest⟩
    · rw [lookUp, plain] at looking
      exact unsettles wanted h files looking settled
    · exact ih (growsFiles (completingRan (lookUpCompleting seeking name) files looked).toGrows) rest later
  | @define d rest _ ih =>
    obtain ⟨entry, accepted, later⟩ := fulfilled
    rw [defineSteps] at fails
    rcases failedBind fails with refused | ⟨_, u, defined, rest⟩
    · rw [defineRun, accepted] at refused
      cases refused
    · exact ih (growsFiles (completingRan (defineCompleting tree env d) files defined).toGrows) rest later

theorem shallowLoaded (tree : FileTree) (env : Environment) (p : Program) (h : Host) :
    ((p.execute (seekNested tree env 0) env).run h).2.registry.loaded = h.registry.loaded := by
  let I (k : Host) : Prop := k.registry.loaded = h.registry.loaded
  have seeks (wanted : String) : Keeps I (seekNested tree env 0 wanted) := by
    refine keepsBind keepsGet (fun k => ?_)
    dsimp only
    split
    · exact keepsBind (keepsThrow _) (fun _ => keepsBind keepsGet (fun _ => keepsPure _))
    · exact keepsPure _
  have defines (d : Definition) : Keeps I (define env d) := by
    intro k kept
    rw [defineRun]
    cases d.requested env <;> exact kept
  exact executionKept seeks (fun d _ => defines d) h rfl

theorem errandFresh {loader : Loader} {name : String} {more : List (Environment × String)} {path : Path}
    (errand : loader.errand tree env name = .execute path)
    (fresh : (env, name) ∉ ({ loader with loaded := more ++ loader.loaded } : Loader).loaded) :
    ({ loader with loaded := more ++ loader.loaded } : Loader).errand tree env name = .execute path := by
  have due := errandDue errand
  have same : ({ loader with loaded := more ++ loader.loaded } : Loader).find tree name env =
      loader.find tree name env := rfl
  rw [Loader.errand, if_neg, same, due.found]
  rw [due.loadable]
  simpa using fresh

theorem failedLoad {loader : Loader} {name : String} {failure : Failure} {h t : Host}
    (gateway : h.registry.gateway = .files loader)
    (fails : (loadFile tree env (depth + 1) loader name).run h = (.error failure, t)) :
    (∃ f, loader.errand tree env name = .fail f ∧ failure = .fault f ∧ t = h) ∨
      ∃ path cause, loader.errand tree env name = .execute path ∧ failure = .loading name path.text env cause ∧
        ((tree.program path).execute (seekNested tree env depth) env).run
          (h.tell (loadingRecord env name path)) = (.error cause, t) ∧
        h.registry.Completes tree env t.registry := by
  rw [loadFileErrand] at fails
  cases errand : loader.errand tree env name with
  | nothing | missing =>
    rw [errand] at fails
    cases fails
  | fail f =>
    rw [errand] at fails
    cases fails
    exact .inl ⟨f, rfl, rfl, rfl⟩
  | execute path =>
    rw [errand] at fails
    dsimp only at fails
    rcases executionDecides (seekingOf (loadingAll tree env depth)) gateway (errandDue errand) with
      ⟨cause, u, executed, whole, completes⟩ | ⟨_, _, whole, _⟩
    · cases fails.symm.trans whole
      exact .inr ⟨path, cause, rfl, rfl, executed, completes⟩
    · cases fails.symm.trans whole

theorem loadedFiles {r : Registry} {loader : Loader} (gateway : r.gateway = .files loader) :
    r.loaded = loader.loaded := by
  rw [Registry.loaded, gateway]

theorem failedUnknown {loader : Loader} {name : String} {failure : Failure} {h t : Host}
    (unknown : h.registry.get? name env = none) (gateway : h.registry.gateway = .files loader)
    (fails : (loadFile tree env depth loader name).run h = (.error failure, t))
    (hopeless : t.registry.Hopeless tree env failure.failedLoads) : t.registry.get? name env = none := by
  cases depth with
  | zero =>
    cases fails
    exact unknown
  | succ depth =>
    obtain ⟨f, -, -, rfl⟩ | ⟨_, _, -, rfl, -, -⟩ := failedLoad gateway fails
    · exact unknown
    · exact hopeless.lacks name List.mem_cons_self

theorem failedUnsettled {loader : Loader} {name : String} {failure : Failure} {h t : Host}
    (unknown : h.registry.get? name env = none) (gateway : h.registry.gateway = .files loader)
    (fails : (loadFile tree env (depth + 1) loader name).run h = (.error failure, t))
    (hopeless : t.registry.Hopeless tree env failure.failedLoads)
    (kept : ∃ later, t.registry.gateway = .files later ∧
      later.errand tree env name = loader.errand tree env name) :
    ¬ t.registry.Settled tree env 1 name := by
  obtain ⟨later, there, same⟩ := kept
  have busy : (loader.errand tree env name).idle = false := by
    obtain ⟨f, errand, -, -⟩ | ⟨_, _, errand, -, -, -⟩ := failedLoad gateway fails <;> rw [errand] <;> rfl
  intro settled
  obtain known | ⟨-, other, files, idle⟩ := settled
  · rw [failedUnknown unknown gateway fails hopeless] at known
    cases known
  · cases there.symm.trans files
    rw [same, busy] at idle
    cases idle

theorem failedErrand {loader : Loader} {name : String} {failure : Failure} {h t : Host}
    (gateway : h.registry.gateway = .files loader)
    (fails : (loadFile tree env (depth + 1) loader name).run h = (.error failure, t))
    (hopeless : t.registry.Hopeless tree env failure.failedLoads) :
    ∃ later, t.registry.gateway = .files later ∧
      later.errand tree env name = loader.errand tree env name := by
  induction depth generalizing loader name failure h t with
  | zero =>
    obtain ⟨f, errand, -, rfl⟩ | ⟨path, cause, errand, -, executed, completes⟩ := failedLoad gateway fails
    · exact ⟨loader, gateway, rfl⟩
    · obtain ⟨_, more, before, after⟩ := completes.searches
      cases gateway.symm.trans before
      have kept := shallowLoaded tree env (tree.program path) (h.tell (loadingRecord env name path))
      rw [executed] at kept
      have same : more ++ loader.loaded = loader.loaded :=
        (loadedFiles after).symm.trans (kept.trans (loadedFiles gateway))
      refine ⟨_, after, ?_⟩
      rw [errand]
      refine errandFresh errand (fun loaded => (errandDue errand).fresh ?_)
      rw [← same]
      exact loaded
  | succ depth ih =>
    obtain ⟨f, errand, -, rfl⟩ | ⟨path, cause, errand, rfl, executed, completes⟩ := failedLoad gateway fails
    · exact ⟨loader, gateway, rfl⟩
    · obtain ⟨_, more, before, after⟩ := completes.searches
      cases gateway.symm.trans before
      have due := errandDue errand
      have begun : (h.tell (loadingRecord env name path)).registry.Files := ⟨loader, gateway⟩
      have unsettles : ∀ wanted u, u.registry.Files →
          (seekNested tree env (depth + 1) wanted).run u = (.error cause, t) →
            ¬ t.registry.Settled tree env 1 wanted := by
        intro wanted u files seeks
        obtain ⟨unknown, inner, here, nested⟩ := seekFailed files seeks
        have nested' := hopelessNested hopeless
        exact failedUnsettled unknown here nested nested' (ih here nested nested')
      have steady := hopeless.steady name List.mem_cons_self _ path after due.found
      have stuck := fulfilledStuck (seekingOf (loadingAll tree env (depth + 1))) steady begun executed unsettles
      refine ⟨_, after, ?_⟩
      rw [errand]
      refine errandFresh errand (fun loaded => ?_)
      rw [← loadedFiles after] at loaded
      rcases completes.executed name loaded with earlier | ⟨_, other, files, found, fulfilled⟩
      · rw [loadedFiles gateway] at earlier
        exact due.fresh earlier
      · cases after.symm.trans files
        cases due.found.symm.trans found
        exact stuck (fulfilled steady)

theorem executionFailsAgain (seeking : Seeking tree env depth) {p : Program} (steady : p.Steadfast env)
    {cause : Failure} {h t : Host} (files : h.registry.Files)
    (fails : (p.execute (seekNested tree env depth) env).run h = (.error cause, t))
    (again : ∀ wanted u v, u.registry.Files →
      (seekNested tree env depth wanted).run u = (.error cause, t) → v.registry.Abides env t.registry →
        ∃ last, (seekNested tree env depth wanted).run v = (.error cause, last))
    {k : Host} (abides : k.registry.Abides env t.registry) :
    ∃ last, (p.execute (seekNested tree env depth) env).run k = (.error cause, last) := by
  induction steady generalizing h k with
  | finish => cases fails
  | fail =>
    cases fails
    exact ⟨k, rfl⟩
  | environment _ ih => exact ih files fails abides
  | @lookup name rest _ ih =>
    rw [lookupSteps] at fails ⊢
    rcases failedBind fails with looking | ⟨_, u, looked, later⟩
    · have repeated : ∃ last, (lookUp tree env depth name).run k = (.error cause, last) := by
        rw [lookUp] at looking ⊢
        cases plain : name.plain with
        | error f =>
          rw [plain] at looking
          cases looking
          exact ⟨k, rfl⟩
        | ok wanted =>
          rw [plain] at looking
          exact again wanted h k files looking abides
      obtain ⟨last, ran⟩ := repeated
      exact ⟨last, failsFirst ran⟩
    · have files' := growsFiles (completingRan (lookUpCompleting seeking name) files looked).toGrows
      have grows := (completingRan (executionCompleting seeking rest) files' later).toGrows
      obtain ⟨wanted, plain, settled⟩ := lookUpSettles seeking files looked
      obtain ⟨found, between, ran, same⟩ := lookUpSettled plain (settledAbides abides (settledGrows settled grows))
      obtain ⟨last, fails'⟩ := ih files' later (same ▸ abides)
      exact ⟨last, failsNext ran fails'⟩
  | @define d rest _ ih =>
    rw [defineSteps] at fails ⊢
    rcases failedBind fails with refused | ⟨f, u, defined, later⟩
    · rw [defineRun] at refused
      cases requested : d.requested env with
      | error failure =>
        rw [requested] at refused
        cases refused
        exact ⟨k, failsFirst (by rw [defineRun, requested])⟩
      | ok entry =>
        rw [requested] at refused
        cases refused
    · have files' := growsFiles (completingRan (defineCompleting tree env d) files defined).toGrows
      have grows := (completingRan (executionCompleting seeking rest) files' later).toGrows
      obtain ⟨target, accepted, rfl⟩ := defineAccepted defined
      -- what is entered again was known by the time of the failure
      have known (seen : env = target ∨ target = Environment.root) := grows.knows f.name (enteredSeen f seen)
      have ran : (CallScript.define env d).run k = (.ok f, k.enter target f) := by rw [defineRun, accepted]
      obtain ⟨last, fails'⟩ := ih files' later
        (show (k.enter target f).registry.Abides env t.registry from insertAbides abides known)
      exact ⟨last, failsNext ran fails'⟩

theorem loadFailsAgain {loader : Loader} {name : String} {failure : Failure} {h t : Host}
    (gateway : h.registry.gateway = .files loader)
    (fails : (loadFile tree env depth loader name).run h = (.error failure, t))
    (hopeless : t.registry.Hopeless tree env failure.failedLoads) {later : Loader}
    (gateway' : t.registry.gateway = .files later) {k : Host} (abides : k.registry.Abides env t.registry) :
    ∃ last, (loadFile tree env depth later name).run k = (.error failure, last) := by
  -- the induction is on the depth of nested loads
  induction depth generalizing loader name failure h k with
  | zero =>
    cases fails
    exact ⟨k, rfl⟩
  | succ depth ih =>
    obtain ⟨_, there, kept⟩ := failedErrand gateway fails hopeless
    cases gateway'.symm.trans there
    rw [loadFileErrand, kept]
    obtain ⟨f, errand, rfl, rfl⟩ | ⟨path, cause, errand, rfl, executed, completes⟩ := failedLoad gateway fails
    · rw [errand]
      exact ⟨k, rfl⟩
    · have begun : (h.tell (loadingRecord env name path)).registry.Files := ⟨loader, gateway⟩
      have again : ∀ wanted u v, u.registry.Files →
          (seekNested tree env depth wanted).run u = (.error cause, t) → v.registry.Abides env t.registry →
            ∃ last, (seekNested tree env depth wanted).run v = (.error cause, last) := by
        intro wanted u v files seeks abides
        obtain ⟨unknown, inner, here, nested⟩ := seekFailed files seeks
        have nested' := hopelessNested hopeless
        have still := abides.knows wanted
        rw [failedUnknown unknown here nested nested', Option.isSome_none, Option.isSome_eq_false_iff,
          Option.isNone_iff_eq_none] at still
        obtain ⟨last, ran⟩ := ih here nested nested' abides
        exact ⟨last, by rw [seekLoads still (abides.gateway.trans gateway')]; exact failsFirst ran⟩
      obtain ⟨_, more, before, after⟩ := completes.searches
      cases gateway.symm.trans before
      have steady := hopeless.steady name List.mem_cons_self _ path after (errandDue errand).found
      obtain ⟨last, ran⟩ := executionFailsAgain (seekingOf (loadingAll tree env depth)) steady begun executed again
        (show (k.tell (loadingRecord env name path)).registry.Abides env t.registry from abides)
      have decided := foundRun tree env depth name path k
      rw [ran] at decided
      rw [errand]
      exact ⟨last, decided⟩

theorem failedLookup {loader : Loader} {name : String} {failure : Failure} {h t : Host}
    (gateway : h.registry.gateway = .files loader) (unknown : h.registry.get? name env = none)
    (fails : (lookup tree name env).run h = (.error failure, t)) :
    (loadFile tree env (loader.nesting + 1) loader name).run h = (.error failure, t) := by
  rw [lookup, runGet, unknown] at fails
  dsimp only at fails
  rcases failedBind fails with loading | ⟨_, u, _, rest⟩
  · rw [load, runGet, gateway] at loading
    exact loading
  · cases rest

theorem failsLookup {loader : Loader} {name : String} {failure : Failure} {h t : Host}
    (gateway : h.registry.gateway = .files loader) (unknown : h.registry.get? name env = none)
    (fails : (loadFile tree env (loader.nesting + 1) loader name).run h = (.error failure, t)) :
    (lookup tree name env).run h = (.error failure, t) := by
  rw [lookup, runGet, unknown]
  refine failsFirst ?_
  rw [load, runGet, gateway]
  exact fails

end Failing

theorem failedUnmarked {path : Path} {cause : Failure} {loader : Loader} {name : String} {h t : Host}
    (gateway : h.registry.gateway = .files loader) (due : loader.Due tree env name path)
    (executed : ((tree.program path).execute (seekNested tree env depth) env).run
      (h.tell (loadingRecord env name path)) = (.error cause, t)) :
    ∃ events, Unfolds (Event.Possible tree env) h (.start env name path :: events) t ∧
      ((∀ other, .start env name other ∉ events) → (env, name) ∉ t.registry.loaded) := by
  let begun := h.after (.start env name path)
  have executes : Reaches tree env begun
      (((tree.program path).execute (seekNested tree env depth) env).run begun).2 :=
    executionReaches (nestedReaches (loadFileReaches depth)) begun
  change ((tree.program path).execute (seekNested tree env depth) env).run begun = _ at executed
  rw [executed] at executes
  obtain ⟨events, balanced, unfolds⟩ := executes
  refine ⟨events, .cons (.start gateway due) unfolds, fun once loaded => ?_⟩
  have anywhere : Unfolds (Event.Anywhere tree) begun events t :=
    unfoldsWeaken (fun _ _ able => .inr (.inr ⟨env, able⟩)) unfolds
  have count := loadedCount anywhere (operationBetween unfolds) env name
  have unbegun : events.countP (Event.starts env name) = 0 := by
    refine List.countP_eq_zero.mpr (fun event mem starts => ?_)
    cases event with
    | start e n other =>
      simp only [Event.starts, Bool.and_eq_true, beq_iff_eq] at starts
      obtain ⟨rfl, rfl⟩ := starts
      exact once other mem
    | _ => cases starts
  have unfinished := Nat.le_zero.mp (unbegun ▸ balanced env name)
  have fresh : begun.registry.loaded.count (env, name) = 0 := by
    refine List.count_eq_zero.mpr ?_
    change (env, name) ∉ h.registry.loaded
    rw [loadedFiles gateway]
    exact due.fresh
  rw [fresh, unfinished, Nat.zero_add] at count
  exact List.count_eq_zero.mp count loaded

/- A lookup that fails to load a function fails over the file that is due for it. Whatever was defined by then stays;
the function itself is known afterwards only if it was defined then, and its file is marked as loaded only if it was
begun again within its own execution. Where none of the functions is known that could not be loaded, and their files go
on in one way each, the file is not marked, and the next lookup fails in the same way. -/
theorem failuresRepeat {h after : Host} {loader : Loader} {name : String} {failure : Failure}
    (gateway : h.registry.gateway = .files loader) (unknown : h.registry.get? name env = none)
    (fails : (lookup tree name env).run h = (.error failure, after)) (loading : failure.isLoading = true) :
    (∃ path cause events, loader.Due tree env name path ∧ failure = .loading name path.text env cause ∧
      Unfolds (Event.Possible tree env) h (.start env name path :: events) after ∧
      (∀ event ∈ events, ∀ target f, event.entry? = some (target, f) →
        (after.registry.get? f.name target).isSome = true) ∧
      (∀ f, after.registry.get? name env = some f → ∃ event ∈ events, ∃ target,
        event.entry? = some (target, f) ∧ f.name = name ∧ (target = env ∨ target = Environment.root)) ∧
      ((∀ other, .start env name other ∉ events) → (env, name) ∉ after.registry.loaded)) ∧
      (after.registry.Hopeless tree env failure.failedLoads →
        (env, name) ∉ after.registry.loaded ∧ ∃ last, (lookup tree name env).run after = (.error failure, last)) := by
  have loads := failedLookup gateway unknown fails
  refine ⟨?_, fun hopeless => ?_⟩
  · obtain ⟨f, -, rfl, -⟩ | ⟨path, cause, errand, same, executed, -⟩ := failedLoad gateway loads
    · cases loading
    · obtain ⟨events, unfolds, unmarked⟩ := failedUnmarked gateway (errandDue errand) executed
      refine ⟨path, cause, events, errandDue errand, same, unfolds, ?_, ?_, unmarked⟩
      · exact fun event mem target f entry => enteredStays unfolds (List.mem_cons_of_mem _ mem) entry
      · intro f means
        obtain ⟨event, mem, target, entry, reached⟩ := meaningEntered unfolds unknown means
        rcases List.mem_cons.mp mem with rfl | later
        · cases entry
        · exact ⟨event, later, target, entry, reached⟩
  · have completes := (loadingAll tree env (loader.nesting + 1)).completes loader name h gateway
    rw [loads] at completes
    obtain ⟨_, more, before, files⟩ := completes.searches
    cases gateway.symm.trans before
    have kept := failedErrand gateway loads hopeless
    have still := failedUnknown unknown gateway loads hopeless
    obtain ⟨last, again⟩ := loadFailsAgain gateway loads hopeless files ⟨rfl, fun _ => rfl⟩
    refine ⟨fun loaded => ?_, last, failsLookup files still again⟩
    rw [loadedFiles files] at loaded
    exact failedUnsettled unknown gateway loads hopeless kept (.inr ⟨Nat.one_pos, _, files, loadedIdle loaded⟩)

def libraryOf (files : List (String × DefinitionFile)) : FileTree :=
  files.foldl (fun tree entry =>
    tree.write (Path.ofText ("lib/" ++ entry.1 ++ definitionSuffix)) (.definitions entry.2)) FileTree.installed

theorem listSteadfast (env : Environment) (file : DefinitionFile) : file.program.Steadfast env := by
  have ending : file.ending.Steadfast env := by
    rw [DefinitionFile.ending]
    split
    · exact .fail
    · exact .finish
  have registering : (file.definitions.foldr (fun d rest => .define d rest.requiring) file.ending).Steadfast env := by
    induction file.definitions with
    | nil => exact ending
    | cons d definitions ih => exact .define ih
  rw [DefinitionFile.program]
  induction file.lookups with
  | nil => exact registering
  | cons name lookups ih => exact .lookup ih

theorem librarySteadfast (files : List (String × DefinitionFile)) (env : Environment) (path : Path) :
    ((libraryOf files).program path).Steadfast env := by
  have each (tree : FileTree) (steady : tree.Each (Program.Steadfast env)) :
      (files.foldl (fun tree entry =>
        tree.write (Path.ofText ("lib/" ++ entry.1 ++ definitionSuffix)) (.definitions entry.2)) tree).Each
          (Program.Steadfast env) := by
    induction files generalizing tree with
    | nil => exact steady
    | cons entry files ih => exact ih _ (writeEach .finish steady _ (listSteadfast env entry.2))
  exact programEach .finish (each _ (installedEach .finish (fun _ _ => .define .finish))) path

def unloaded : Host := ⟨Registry.withGateway (.files { searchPath := [Path.ofText "lib"], bundled := false }), []⟩

def faltering : FileTree :=
  libraryOf [
    ("outer", { lookups := [.text "inner"], definitions := [{ name := .text "outer", body := .arguments }] }),
    ("inner", { lookups := [.text "helper"], failure := some "boom" }),
    ("helper", { definitions := [{ name := .text "helper", body := .arguments }] })]

def falteringFailure : Failure :=
  .loading "outer" "lib/outer.py" Environment.root
    (.loading "inner" "lib/inner.py" Environment.root (.fault (.crash "boom")))

def faltered : Host := ((lookup faltering "outer" Environment.root).run unloaded).2

theorem falters : (lookup faltering "outer" Environment.root).run unloaded = (.error falteringFailure, faltered) := by
  refine Prod.ext ?_ rfl
  rfl

theorem falteringHopeless : faltered.registry.Hopeless faltering Environment.root falteringFailure.failedLoads := by
  refine ⟨fun name mem => ?_, fun _ _ _ path _ _ => librarySteadfast _ _ path⟩
  have names : falteringFailure.failedLoads = ["outer", "inner"] := rfl
  rw [names, List.mem_cons, List.mem_singleton] at mem
  rcases mem with rfl | rfl <;> rfl

theorem falteringRepeats :
    unloaded.registry.get? "outer" Environment.root = none ∧ falteringFailure.isLoading = true ∧
      (lookup faltering "outer" Environment.root).run unloaded = (.error falteringFailure, faltered) ∧
      faltered.registry.Hopeless faltering Environment.root falteringFailure.failedLoads ∧
      (Environment.root, "outer") ∉ faltered.registry.loaded ∧
      ∃ last, (lookup faltering "outer" Environment.root).run faltered = (.error falteringFailure, last) := by
  obtain ⟨-, repeats⟩ := failuresRepeat (h := unloaded) rfl rfl falters rfl
  exact ⟨rfl, rfl, falters, falteringHopeless, repeats falteringHopeless⟩

def wavering : FileTree :=
  FileTree.installed.write (Path.ofText "lib/n.py") (.program (.functions fun known =>
    if (known.get? "flag").isSome then .define { name := .text "n", body := .arguments } Program.finish.requiring
    else .define { name := .text "flag", body := .arguments } (Program.fail (.fault (.crash "boom"))).requiring))

/- A file that acts on what is known may fail once and then no more. -/
example : let first := (lookup wavering "n" Environment.root).run unloaded
    (∃ cause, first.1 = .error (.loading "n" "lib/n.py" Environment.root cause)) ∧
      first.2.registry.get? "n" Environment.root = none ∧
      ∃ f, ((lookup wavering "n" Environment.root).run first.2).1 = .ok (some f) :=
  ⟨⟨_, rfl⟩, rfl, _, rfl⟩

def breaking : FileTree :=
  libraryOf [
    ("broken", { definitions := [{ name := .text "broken", body := .arguments }], failure := some "boom" })]

def breakingFailure : Failure :=
  .loading "broken" "lib/broken.py" Environment.root (.fault (.crash "boom"))

def broken : Host := ((lookup breaking "broken" Environment.root).run unloaded).2

theorem brokenKnown : unloaded.registry.get? "broken" Environment.root = none ∧
    (lookup breaking "broken" Environment.root).run unloaded = (.error breakingFailure, broken) ∧
    breakingFailure.isLoading = true ∧
    ∃ f, broken.registry.get? "broken" Environment.root = some f ∧
      (lookup breaking "broken" Environment.root).run broken = (.ok (some f), broken) := by
  refine ⟨rfl, Prod.ext rfl rfl, rfl, ⟨"broken", -1, .statement, .null, .arguments⟩, rfl, ?_⟩
  rw [lookup, runGet]
  rfl

end CallScript
