import CallScript.Proofs.Events

/-! Names that loads have settled. A name that means something, that has no file, or whose file has been executed to
its end leaves loads nothing to do. While names are loaded for an environment it stays settled; and a file comes to
its end only once every name that it looks up is settled and every definition of it is accepted. -/
namespace CallScript

def lookUp (tree : FileTree) (env : Environment) (depth : Nat) (v : Value) : Hosted (Option Function) := do
  seekNested tree env depth (← liftFault v.plain)

inductive Program.Steadfast (env : Environment) : Program → Prop where
  | finish : Steadfast env .finish
  | fail {cause} : Steadfast env (.fail cause)
  | environment {next} (later : Steadfast env (next env)) : Steadfast env (.environment next)
  | lookup {name rest} (later : Steadfast env rest) : Steadfast env (.lookup name rest.requiring)
  | define {d rest} (later : Steadfast env rest) : Steadfast env (.define d rest.requiring)

theorem requiringRun {α : Type} (action : Hosted α) (rest : Program) (seek : String → Hosted (Option Function))
    (env : Environment) (h : Host) :
    (observed action >>= fun told => (rest.requiring told).execute seek env).run h =
      (action >>= fun _ => rest.execute seek env).run h := by
  rw [runBind, runObserved, runBind]
  rcases action.run h with ⟨cause | a, t⟩ <;> rfl

theorem lookupSteps (tree : FileTree) (env : Environment) (depth : Nat) (name : Value) (rest : Program) (h : Host) :
    ((Program.lookup name rest.requiring).execute (seekNested tree env depth) env).run h =
      (lookUp tree env depth name >>= fun _ => rest.execute (seekNested tree env depth) env).run h :=
  requiringRun (lookUp tree env depth name) rest _ env h

theorem defineSteps (seek : String → Hosted (Option Function)) (env : Environment) (d : Definition) (rest : Program)
    (h : Host) : ((Program.define d rest.requiring).execute seek env).run h =
      (CallScript.define env d >>= fun _ => rest.execute seek env).run h :=
  requiringRun (CallScript.define env d) rest seek env h

abbrev Registry.Files (r : Registry) : Prop := ∃ loader, r.gateway = .files loader

def Errand.idle : Errand → Bool
  | .nothing | .missing => true
  | _ => false

/- A name that a lookup finds, or one that a load, if there may be another one, has nothing to do about. -/
def Registry.Settled (r : Registry) (tree : FileTree) (env : Environment) (depth : Nat) (name : String) : Prop :=
  (r.get? name env).isSome = true ∨
    0 < depth ∧ ∃ loader, r.gateway = .files loader ∧ (loader.errand tree env name).idle = true

/- A program that comes to its end if it goes on in one way: its lookups are settled and its definitions are
accepted. -/
def Program.Fulfilled (tree : FileTree) (env : Environment) (r : Registry) : Program → Prop
  | .finish => True
  | .environment next => (next env).Fulfilled tree env r
  | .lookup name next =>
      (∃ wanted, name.plain = .ok wanted ∧ r.Settled tree env 1 wanted) ∧ (next (.ok none)).Fulfilled tree env r
  | .define d next => ∃ entry, d.requested env = .ok entry ∧ (next (.ok entry.2)).Fulfilled tree env r
  | .fail _ | .functions _ => False

def Registry.Executed (r : Registry) (tree : FileTree) (env : Environment) (name : String) : Prop :=
  ∃ loader path, r.gateway = .files loader ∧ loader.find tree name env = .ok (some path) ∧
    ((tree.program path).Steadfast env → (tree.program path).Fulfilled tree env r)

structure Registry.Grows (before : Registry) (env : Environment) (after : Registry) : Prop where
  searches : ∃ loader more, before.gateway = .files loader ∧
    after.gateway = .files { loader with loaded := more ++ loader.loaded }
  knows : ∀ name, (before.get? name env).isSome = true → (after.get? name env).isSome = true

structure Registry.Completes (before : Registry) (tree : FileTree) (env : Environment) (after : Registry) : Prop
    extends before.Grows env after where
  executed : ∀ name, (env, name) ∈ after.loaded → (env, name) ∈ before.loaded ∨ after.Executed tree env name

section Growing

variable {tree : FileTree} {env : Environment} {r s t : Registry} {depth : Nat} {name : String}

theorem growsTrans (first : r.Grows env s) (second : s.Grows env t) : r.Grows env t := by
  obtain ⟨loader, more, before, between⟩ := first.searches
  obtain ⟨other, later, same, after⟩ := second.searches
  cases between.symm.trans same
  refine ⟨⟨loader, later ++ more, before, ?_⟩, fun name known => second.knows name (first.knows name known)⟩
  rw [after, List.append_assoc]

theorem idleGrows {loader : Loader} {more : List (Environment × String)}
    (idle : (loader.errand tree env name).idle = true) :
    (({ loader with loaded := more ++ loader.loaded } : Loader).errand tree env name).idle = true := by
  unfold Loader.errand at idle ⊢
  have same : ({ loader with loaded := more ++ loader.loaded } : Loader).find tree name env =
      loader.find tree name env := rfl
  rw [same]
  by_cases loaded : (!isLoadable name || (more ++ loader.loaded).contains (env, name)) = true
  · rw [if_pos loaded]
    rfl
  · have fresh : (!isLoadable name || loader.loaded.contains (env, name)) ≠ true := by
      simp only [List.contains_append, Bool.or_eq_true, ne_eq, not_or] at loaded ⊢
      exact ⟨loaded.1, loaded.2.2⟩
    rw [if_neg fresh] at idle
    rw [if_neg loaded]
    exact idle

theorem settledGrows (settled : r.Settled tree env depth name) (grows : r.Grows env s) :
    s.Settled tree env depth name := by
  obtain known | ⟨deep, loader, gateway, idle⟩ := settled
  · exact .inl (grows.knows name known)
  · obtain ⟨_, more, before, after⟩ := grows.searches
    cases gateway.symm.trans before
    exact .inr ⟨deep, _, after, idleGrows idle⟩

theorem fulfilledGrows {p : Program} (fulfilled : p.Fulfilled tree env r) (grows : r.Grows env s) :
    p.Fulfilled tree env s := by
  induction p with
  | finish => trivial
  | environment next ih => exact ih env fulfilled
  | lookup name next ih =>
    obtain ⟨⟨wanted, plain, settled⟩, later⟩ := fulfilled
    exact ⟨⟨wanted, plain, settledGrows settled grows⟩, ih _ later⟩
  | define d next ih =>
    obtain ⟨entry, accepted, later⟩ := fulfilled
    exact ⟨entry, accepted, ih _ later⟩
  | fail | functions => exact fulfilled.elim

theorem executedGrows (executed : r.Executed tree env name) (grows : r.Grows env s) : s.Executed tree env name := by
  obtain ⟨loader, path, gateway, found, fulfilled⟩ := executed
  obtain ⟨_, more, before, after⟩ := grows.searches
  cases gateway.symm.trans before
  exact ⟨_, path, after, found, fun steady => fulfilledGrows (fulfilled steady) grows⟩

theorem completesSelf (files : r.Files) : r.Completes tree env r := by
  obtain ⟨loader, gateway⟩ := files
  exact ⟨⟨⟨loader, [], gateway, gateway⟩, fun _ known => known⟩, fun _ loaded => .inl loaded⟩

theorem completesTrans (first : r.Completes tree env s) (second : s.Completes tree env t) :
    r.Completes tree env t := by
  refine ⟨growsTrans first.toGrows second.toGrows, fun name loaded => ?_⟩
  rcases second.executed name loaded with earlier | executed
  · rcases first.executed name earlier with before | executed
    · exact .inl before
    · exact .inr (executedGrows executed second.toGrows)
  · exact .inr executed

theorem growsFiles (grows : r.Grows env s) : s.Files := by
  obtain ⟨loader, more, -, after⟩ := grows.searches
  exact ⟨_, after⟩

theorem insertCompletes (files : r.Files) (target : Environment) (f : Function) :
    r.Completes tree env (r.insert target f) := by
  obtain ⟨loader, gateway⟩ := files
  refine ⟨⟨⟨loader, [], gateway, gateway⟩, fun name known => ?_⟩, fun name loaded => .inl loaded⟩
  rcases getInserted r target env f name with same | ⟨entered, -⟩
  · rw [same]
    exact known
  · rw [entered]
    rfl

theorem markCompletes {loader : Loader} (gateway : r.gateway = .files loader) {path : Path}
    (found : loader.find tree name env = .ok (some path))
    (fulfilled : (tree.program path).Steadfast env → (tree.program path).Fulfilled tree env r) :
    r.Completes tree env { r with gateway := .files (markLoaded env name loader) } := by
  have grows : r.Grows env { r with gateway := .files (markLoaded env name loader) } :=
    ⟨⟨loader, [(env, name)], gateway, rfl⟩, fun _ known => known⟩
  refine ⟨grows, fun other loaded => ?_⟩
  rcases List.mem_cons.mp loaded with here | earlier
  · cases here
    exact .inr (executedGrows ⟨loader, path, gateway, found, fulfilled⟩ grows)
  · refine .inl ?_
    rw [Registry.loaded, gateway]
    exact earlier

end Growing

section Loading

variable {tree : FileTree} {env : Environment} {depth : Nat} {name : String} {path : Path} {h t : Host}

theorem seekKnown {f : Function} (known : h.registry.get? name env = some f) :
    (seekNested tree env depth name).run h = (.ok (some f), h) := by
  rw [seekNested, runGet]
  dsimp only
  rw [known]
  rfl

theorem seekLoads {loader : Loader} (unknown : h.registry.get? name env = none)
    (gateway : h.registry.gateway = .files loader) :
    (seekNested tree env depth name).run h = (do
      let _ ← loadFile tree env depth loader name
      return (← get).registry.get? name env : Hosted (Option Function)).run h := by
  rw [seekNested, runGet]
  dsimp only
  rw [unknown, gateway]

theorem idleRuns (depth : Nat) (h : Host) {loader : Loader} (idle : (loader.errand tree env name).idle = true) :
    ∃ after, (loadFile tree env (depth + 1) loader name).run h = (.ok false, after) ∧
      after.registry = h.registry := by
  rw [loadFileErrand]
  cases errand : loader.errand tree env name with
  | nothing => exact ⟨h, rfl, rfl⟩
  | missing => exact ⟨_, rfl, rfl⟩
  | fail | execute =>
    rw [errand] at idle
    cases idle

theorem foundRun (tree : FileTree) (env : Environment) (depth : Nat) (name : String) (path : Path) (h : Host) :
    match ((tree.program path).execute (seekNested tree env depth) env).run
      (h.tell (loadingRecord env name path)) with
    | (.error cause, t) =>
        (executeFound tree env depth name path).run h = (.error (.loading name path.text env cause), t)
    | (.ok _, t) => ∃ b after, (executeFound tree env depth name path).run h = (.ok b, after) ∧
        after.registry = (t.after (.finish env name)).registry := by
  let execution : Hosted Unit :=
    tryCatch ((tree.program path).execute (seekNested tree env depth) env)
      (fun cause => throw (.loading name path.text env cause))
  have begun : (executeFound tree env depth name path).run h =
      (execution >>= fun _ => do
        modifyLoader (markLoaded env name)
        if ((← get).registry.get? name env).isNone then
          record .loader .warning (path.text ++ " did not define function " ++ name)
          return false
        return true : Hosted Bool).run (h.tell (loadingRecord env name path)) := rfl
  rw [begun, runBind, runTry]
  rcases ((tree.program path).execute (seekNested tree env depth) env).run
    (h.tell (loadingRecord env name path)) with ⟨cause | _, t⟩
  · rfl
  · dsimp only
    rw [runBind]
    change ∃ b after, ((_ : Hosted Bool).run (t.after (.finish env name))) = (.ok b, after) ∧ _
    rw [runGet]
    split
    · exact ⟨false, _, rfl, rfl⟩
    · exact ⟨true, _, rfl, rfl⟩

theorem seekSettled (settled : h.registry.Settled tree env depth name) :
    ∃ found after, (seekNested tree env depth name).run h = (.ok found, after) ∧ after.registry = h.registry := by
  cases found : h.registry.get? name env with
  | some f => exact ⟨some f, h, seekKnown found, rfl⟩
  | none =>
    obtain known | ⟨deep, loader, gateway, idle⟩ := settled
    · rw [found] at known
      cases known
    · obtain ⟨depth, rfl⟩ := Nat.exists_eq_add_one.mpr deep
      obtain ⟨after, ran, same⟩ := idleRuns depth h idle
      refine ⟨after.registry.get? name env, after, ?_, same⟩
      rw [seekLoads found gateway, runBind, ran]
      rfl

end Loading

section Completing

variable (tree : FileTree) (env : Environment)

def Completing {α : Type} (x : Hosted α) : Prop :=
  ∀ h : Host, h.registry.Files → h.registry.Completes tree env (x.run h).2.registry

structure Loading (depth : Nat) : Prop where
  completes : ∀ loader name (h : Host), h.registry.gateway = .files loader →
    h.registry.Completes tree env ((loadFile tree env depth loader name).run h).2.registry
  settles : ∀ loader name (h t : Host) b, h.registry.gateway = .files loader →
    (loadFile tree env depth loader name).run h = (.ok b, t) →
      0 < depth ∧ ∃ later, t.registry.gateway = .files later ∧ (later.errand tree env name).idle = true

structure Seeking (depth : Nat) : Prop where
  completes : ∀ wanted, Completing tree env (seekNested tree env depth wanted)
  settles : ∀ wanted (h t : Host) found, h.registry.Files →
    (seekNested tree env depth wanted).run h = (.ok found, t) → t.registry.Settled tree env depth wanted

variable {tree env} {depth : Nat}

theorem completingRan {α : Type} {x : Hosted α} (completing : Completing tree env x) {h t : Host}
    {result : Except Failure α} (files : h.registry.Files)
    (ran : x.run h = (result, t)) : h.registry.Completes tree env t.registry := by
  have whole := completing h files
  rw [ran] at whole
  exact whole

theorem completingPure {α : Type} (a : α) : Completing tree env (pure a) := fun _ files => completesSelf files

theorem completingThrow {α : Type} (failure : Failure) : Completing tree env (throw failure : Hosted α) :=
  fun _ files => completesSelf files

theorem completingBind {α β : Type} {x : Hosted α} {f : α → Hosted β} (first : Completing tree env x)
    (rest : ∀ a, Completing tree env (f a)) : Completing tree env (x >>= f) := by
  intro h files
  have before := first h files
  rw [runBind]
  generalize x.run h = outcome at before
  obtain ⟨failure | a, t⟩ := outcome
  · exact before
  · exact completesTrans before (rest a t (growsFiles before.toGrows))

theorem observedCompleting {α : Type} {x : Hosted α} (completing : Completing tree env x) :
    Completing tree env (observed x) := by
  intro h files
  rw [runObserved]
  exact completing h files

theorem defineCompleting (tree : FileTree) (env : Environment) (d : Definition) :
    Completing tree env (CallScript.define env d) := by
  intro h files
  rw [defineRun]
  cases d.requested env with
  | error failure => exact completesSelf files
  | ok entry => exact insertCompletes files entry.1 entry.2

theorem lookUpCompleting (seeking : Seeking tree env depth) (v : Value) :
    Completing tree env (lookUp tree env depth v) := by
  refine completingBind ?_ seeking.completes
  cases v.plain with
  | error f => exact completingThrow _
  | ok wanted => exact completingPure wanted

theorem executionCompleting (seeking : Seeking tree env depth) (p : Program) :
    Completing tree env (p.execute (seekNested tree env depth) env) := by
  induction p with
  | finish => exact completingPure ()
  | fail cause => exact completingThrow cause
  | environment next ih => exact ih env
  | functions next ih => exact fun h files => ih (h.registry.functions env) h files
  | lookup name next ih => exact completingBind (observedCompleting (lookUpCompleting seeking name)) ih
  | define d next ih => exact completingBind (observedCompleting (defineCompleting tree env d)) ih

theorem lookUpSettles (seeking : Seeking tree env depth) {v : Value} {found : Option Function} {h t : Host}
    (files : h.registry.Files) (ran : (lookUp tree env depth v).run h = (.ok found, t)) :
    ∃ name, v.plain = .ok name ∧ t.registry.Settled tree env depth name := by
  rw [lookUp] at ran
  cases plain : v.plain with
  | error f =>
    rw [plain] at ran
    cases ran
  | ok name =>
    rw [plain] at ran
    exact ⟨name, rfl, seeking.settles name h t found files ran⟩

theorem lookUpSettled {v : Value} {name : String} {h : Host} (plain : v.plain = .ok name)
    (settled : h.registry.Settled tree env depth name) :
    ∃ found after, (lookUp tree env depth v).run h = (.ok found, after) ∧ after.registry = h.registry := by
  rw [lookUp, plain]
  exact seekSettled settled

theorem defineAccepted {d : Definition} {f : Function} {h t : Host}
    (ran : (CallScript.define env d).run h = (.ok f, t)) :
    ∃ target, d.requested env = .ok (target, f) ∧ t = h.enter target f := by
  rw [defineRun] at ran
  cases requested : d.requested env with
  | error failure =>
    rw [requested] at ran
    cases ran
  | ok entry =>
    rw [requested] at ran
    cases ran
    exact ⟨entry.1, rfl, rfl⟩

theorem executionFulfills (seeking : Seeking tree env depth) {p : Program} (steady : p.Steadfast env) {h t : Host}
    (files : h.registry.Files) (ran : (p.execute (seekNested tree env depth) env).run h = (.ok (), t)) :
    p.Fulfilled tree env t.registry := by
  induction steady generalizing h with
  | finish => trivial
  | fail => cases ran
  | environment _ ih => exact ih files ran
  | @lookup name rest _ ih =>
    rw [lookupSteps] at ran
    obtain ⟨found, u, looked, ran⟩ := endedBind ran
    have files' := growsFiles (completingRan (lookUpCompleting seeking name) files looked).toGrows
    have later := completingRan (executionCompleting seeking rest) files' ran
    obtain ⟨wanted, plain, settled⟩ := lookUpSettles seeking files looked
    have settled' := settledGrows (settled.imp_right (fun idle => ⟨Nat.one_pos, idle.2⟩)) later.toGrows
    exact ⟨⟨wanted, plain, settled'⟩, ih files' ran⟩
  | @define d rest _ ih =>
    rw [defineSteps] at ran
    obtain ⟨f, u, defined, ran⟩ := endedBind ran
    have files' := growsFiles (completingRan (defineCompleting tree env d) files defined).toGrows
    obtain ⟨target, accepted, -⟩ := defineAccepted defined
    exact ⟨(target, f), accepted, ih files' ran⟩

theorem seekingOf (loading : Loading tree env depth) : Seeking tree env depth := by
  refine ⟨fun wanted h files => ?_, fun wanted h t found files ran => ?_⟩
  · obtain ⟨loader, gateway⟩ := files
    cases known : h.registry.get? wanted env with
    | some f =>
      rw [seekKnown known]
      exact completesSelf ⟨loader, gateway⟩
    | none =>
      rw [seekLoads known gateway, runBind]
      have completes := loading.completes loader wanted h gateway
      generalize (loadFile tree env depth loader wanted).run h = outcome at completes ⊢
      obtain ⟨failure | b, u⟩ := outcome <;> exact completes
  · obtain ⟨loader, gateway⟩ := files
    cases known : h.registry.get? wanted env with
    | some f =>
      rw [seekKnown known] at ran
      cases ran
      exact .inl (by rw [known]; rfl)
    | none =>
      rw [seekLoads known gateway] at ran
      obtain ⟨b, u, loaded, ran⟩ := endedBind ran
      cases ran
      exact .inr (loading.settles loader wanted h _ b gateway loaded)

theorem executionDecides (seeking : Seeking tree env depth) {loader : Loader} {name : String} {path : Path} {h : Host}
    (gateway : h.registry.gateway = .files loader) (due : loader.Due tree env name path) :
    (∃ cause t, ((tree.program path).execute (seekNested tree env depth) env).run
        (h.tell (loadingRecord env name path)) = (.error cause, t) ∧
      (executeFound tree env depth name path).run h = (.error (.loading name path.text env cause), t) ∧
      h.registry.Completes tree env t.registry) ∨
    ∃ b t, (executeFound tree env depth name path).run h = (.ok b, t) ∧ h.registry.Completes tree env t.registry ∧
      (env, name) ∈ t.registry.loaded := by
  have decided := foundRun tree env depth name path h
  have begun : (h.tell (loadingRecord env name path)).registry.Files := ⟨loader, gateway⟩
  generalize ran : ((tree.program path).execute (seekNested tree env depth) env).run
    (h.tell (loadingRecord env name path)) = outcome at decided
  obtain ⟨cause | _, t⟩ := outcome
  · have executes := completingRan (executionCompleting seeking (tree.program path)) begun ran
    exact .inl ⟨cause, t, rfl, decided, executes⟩
  · obtain ⟨b, after, whole, same⟩ := decided
    have executes := completingRan (executionCompleting seeking (tree.program path)) begun ran
    have completes : h.registry.Completes tree env t.registry := executes
    obtain ⟨first, more, before, later⟩ := completes.searches
    cases gateway.symm.trans before
    have marked : after.registry =
        { t.registry with
          gateway := .files (markLoaded env name { loader with loaded := more ++ loader.loaded }) } := by
      rw [same, afterRegistry, Registry.after, later]
    refine .inr ⟨b, after, whole, ?_, ?_⟩
    · rw [marked]
      exact completesTrans completes
        (markCompletes later due.found (fun steady => executionFulfills seeking steady begun ran))
    · rw [marked]
      exact List.mem_cons_self

theorem loadedIdle {loader : Loader} {name : String} (loaded : (env, name) ∈ loader.loaded) :
    (loader.errand tree env name).idle = true := by
  rw [Loader.errand, if_pos]
  · rfl
  · rw [List.contains_iff_mem.mpr loaded, Bool.or_true]

theorem loadingNext (seeking : Seeking tree env depth) : Loading tree env (depth + 1) := by
  refine ⟨fun loader name h gateway => ?_, fun loader name h t b gateway ran => ⟨Nat.succ_pos depth, ?_⟩⟩
  · cases errand : loader.errand tree env name with
    | nothing | missing =>
      have idle : (loader.errand tree env name).idle = true := by
        rw [errand]
        rfl
      obtain ⟨after, ran, same⟩ := idleRuns depth h idle
      rw [ran, same]
      exact completesSelf ⟨loader, gateway⟩
    | fail f =>
      rw [loadFileErrand, errand]
      exact completesSelf ⟨loader, gateway⟩
    | execute path =>
      rw [loadFileErrand, errand]
      dsimp only
      rcases executionDecides seeking gateway (errandDue errand) with
        ⟨_, t, _, ran, completes⟩ | ⟨_, t, ran, completes, _⟩
      · rw [ran]
        exact completes
      · rw [ran]
        exact completes
  · cases errand : loader.errand tree env name with
    | nothing | missing =>
      have idle : (loader.errand tree env name).idle = true := by
        rw [errand]
        rfl
      obtain ⟨after, idled, same⟩ := idleRuns depth h idle
      cases ran.symm.trans idled
      exact ⟨loader, by rw [same]; exact gateway, idle⟩
    | fail f =>
      rw [loadFileErrand, errand] at ran
      cases ran
    | execute path =>
      rw [loadFileErrand, errand] at ran
      rcases executionDecides seeking gateway (errandDue errand) with
        ⟨_, _, _, other, _⟩ | ⟨_, u, other, completes, loaded⟩
      · cases ran.symm.trans other
      · cases ran.symm.trans other
        obtain ⟨later, files⟩ := growsFiles completes.toGrows
        rw [Registry.loaded, files] at loaded
        exact ⟨later, files, loadedIdle loaded⟩

theorem loadingAll (tree : FileTree) (env : Environment) (depth : Nat) : Loading tree env depth := by
  -- the induction is on the depth of nested loads
  induction depth with
  | zero =>
    refine ⟨fun loader name h gateway => completesSelf ⟨loader, gateway⟩, fun loader name h t b gateway ran => ?_⟩
    cases ran
  | succ depth ih => exact loadingNext (seekingOf ih)

end Completing

end CallScript
