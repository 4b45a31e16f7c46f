import CallScript.Proofs.Interfaces

/-! What a gateway is asked for. A lookup asks once for a name without a meaning and otherwise not at all, and nothing
else asks for a name; a gateway that keeps a record has recorded what has been taken down beside it. -/
namespace CallScript

variable {σ α : Type}

section Accounting

variable {gateway : Interface σ} {tree : FileTree}

def Account.Extends (account start : Account σ) (requests : List GatewayRequest) (sought : List Sought) : Prop :=
  (∀ t ∈ sought, t.Sound) ∧ account.requests = start.requests ++ requests ∧ account.lookups = start.lookups ++ sought

def Account.Attempts (account start : Account σ) : Prop :=
  ∃ sought, account.Extends start (attemptsOf sought) sought

theorem attemptsSelf (start : Account σ) : start.Attempts start :=
  ⟨[], by simp [Account.Extends, attemptsOf]⟩

theorem attemptsTrans {first second last : Account σ} (before : second.Attempts first) (rest : last.Attempts second) :
    last.Attempts first := by
  obtain ⟨sought, sound, requests, lookups⟩ := before
  obtain ⟨sought', sound', requests', lookups'⟩ := rest
  refine ⟨sought ++ sought', ?_, ?_, ?_⟩
  · simp only [List.mem_append, or_imp, forall_and]
    exact ⟨sound, sound'⟩
  · simp [requests', requests, attemptsOf]
  · simp [lookups', lookups]

theorem soughtSound (gateway : Interface σ) (name : String) (env : Environment) (s : Host × Account σ) :
    (gateway.sought name env s).Sound := by
  cases found : s.1.registry.get? name env with
  | some f =>
    rw [Interface.sought, lookupHits found]
    refine ⟨fun _ ended => ?_, fun _ => ⟨⟨f, rfl⟩, rfl⟩⟩
    cases ended
    exact found.symm
  | none =>
    have missed : (gateway.sought name env s).missed = true := by
      change (s.1.registry.get? name env).isNone = true
      rw [found]
      rfl
    refine ⟨?_, fun hit => by rw [missed] at hit; cases hit⟩
    rw [Interface.sought, lookupMisses found]
    intro other ended
    generalize (asking (.load name env) (gateway.load name env)).run s = outcome at ended ⊢
    obtain ⟨failure | _, t⟩ := outcome
    · cases ended
    · cases ended
      rfl

theorem lookupAsks (gateway : Interface σ) (name : String) (env : Environment) (s : Host × Account σ) :
    let account := ((gateway.lookup name env).run s).2.2
    account.requests = s.2.requests ++ attemptsOf [gateway.sought name env s] ∧ account.lookups = s.2.lookups := by
  have missed : (gateway.sought name env s).missed = (s.1.registry.get? name env).isNone := rfl
  cases found : s.1.registry.get? name env with
  | some f =>
    rw [lookupHits found]
    rw [found] at missed
    simp [attemptsOf, missed]
  | none =>
    rw [found] at missed
    have asked : attemptsOf [gateway.sought name env s] = [.load name env] := by
      simp only [attemptsOf, List.filter_cons, missed]
      rfl
    rw [asked, lookupMisses found]
    have noted : ((asking (.load name env) (gateway.load name env)).run s).2.2.requests =
        s.2.requests ++ [.load name env] := rfl
    have kept : ((asking (.load name env) (gateway.load name env)).run s).2.2.lookups = s.2.lookups := rfl
    generalize (asking (.load name env) (gateway.load name env)).run s = outcome at noted kept ⊢
    obtain ⟨failure | _, t⟩ := outcome <;> exact ⟨noted, kept⟩

theorem seekExtends (gateway : Interface σ) (name : String) (env : Environment) (s : Host × Account σ) :
    ((gateway.seek name env).run s).2.2.Extends s.2 (attemptsOf [gateway.sought name env s])
      [gateway.sought name env s] := by
  obtain ⟨requests, lookups⟩ := lookupAsks gateway name env s
  refine ⟨fun t mem => ?_, requests, ?_⟩
  · rw [List.mem_singleton.mp mem]
    exact soughtSound gateway name env s
  · exact congrArg (fun before => before ++ [gateway.sought name env s]) lookups

theorem seekAttempts (gateway : Interface σ) (name : String) (env : Environment) (s : Host × Account σ) :
    ((gateway.seek name env).run s).2.2.Attempts s.2 :=
  ⟨_, seekExtends gateway name env s⟩

theorem outsideTracks (gateway : Interface σ) (tree : FileTree) (start : Account σ) :
    Tracks gateway.outside tree (fun _ x _ => Keeps (fun s => s.2.Attempts start) x) where
  besides _ _ attempts := attempts
  gives := keepsPure
  throws := keepsThrow
  chains first rest := keepsBind first rest
  looks name env s attempts := attemptsTrans attempts (seekAttempts gateway name env (s.1.host, s.2))
  notes _ _ _ attempts := attempts

def Deed.Makes : Deed → List Sought → Prop
  | .lookup name env, sought => ∃ t, sought = [t] ∧ t.name = name ∧ t.env = env
  | .evaluate .., _ | .call .., _ => True
  | _, sought => sought = []

def Deed.requests : Deed → List Sought → List GatewayRequest
  | .documentation env, _ => [.loadAll env]
  | _, sought => attemptsOf sought

theorem documentationAsks (gateway : Interface σ) (env : Environment) (s : Host × Account σ) :
    ((gateway.documentation env).run s).2.2.Extends s.2 [.loadAll env] [] := by
  have asked : ((asking (.loadAll env) (gateway.loadAll env)).run s).2.2.Extends s.2 [.loadAll env] [] :=
    ⟨by simp, rfl, (List.append_nil _).symm⟩
  rw [Interface.documentation, runBind]
  generalize (asking (.loadAll env) (gateway.loadAll env)).run s = outcome at asked ⊢
  obtain ⟨failure | _, t⟩ := outcome
  · exact asked
  · have lists : Keeps (fun u => u.2.Extends s.2 [.loadAll env] [])
        (beside (liftFault ((t.1.registry.listing env).mapM Function.section?)) :
          HostBeside (Account σ) (List String)) := fun _ holds => holds
    exact keepsBind lists (fun _ => keepsPure _) t asked

theorem deedExtends (gateway : Interface σ) (tree : FileTree) (deed : Deed) (s : Host × Account σ) :
    ∃ sought, deed.Makes sought ∧
      ((gateway.perform tree deed).run s).2.2.Extends s.2 (deed.requests sought) sought := by
  cases deed with
  | lookup name env =>
    refine ⟨[gateway.sought name env s], ⟨_, rfl, rfl, rfl⟩, ?_⟩
    rw [Interface.perform, afterReturn]
    exact seekExtends gateway name env s
  | documentation env =>
    refine ⟨[], rfl, ?_⟩
    rw [Interface.perform, afterReturn]
    exact documentationAsks gateway env s
  | evaluate ambient scope bindings node =>
    have kept := @evaluationTracks _ _ ⟨tree, ambient⟩ _ (outsideTracks gateway tree s.2) scope node
      (fun _ _ _ _ => keepsThrow _)
    obtain ⟨sought, extended⟩ := kept (⟨s.1, bindings⟩, s.2) (attemptsSelf s.2)
    refine ⟨sought, trivial, ?_⟩
    rw [Interface.perform, afterReturn]
    exact extended
  | call ambient scope bindings tuple values f =>
    have kept := @callTracks _ _ ⟨tree, ambient⟩ _ (outsideTracks gateway tree s.2) scope tuple values f
    obtain ⟨sought, extended⟩ := kept (⟨s.1, bindings⟩, s.2) (attemptsSelf s.2)
    refine ⟨sought, trivial, ?_⟩
    rw [Interface.perform, afterReturn]
    exact extended
  | _ => exact ⟨[], rfl, by simp, (List.append_nil _).symm, (List.append_nil _).symm⟩

theorem deedsExtend (gateway : Interface σ) (tree : FileTree) (deeds : List Deed) (s : Host × Account σ) :
    ∃ parts : List (Deed × List Sought), parts.map Prod.fst = deeds ∧ (∀ part ∈ parts, part.1.Makes part.2) ∧
      (gateway.carryOut tree s deeds).2.Extends s.2 (parts.flatMap (fun part => part.1.requests part.2))
        (parts.flatMap Prod.snd) := by
  induction deeds generalizing s with
  | nil => exact ⟨[], rfl, by simp, by simp [Account.Extends, Interface.carryOut]⟩
  | cons deed deeds ih =>
    obtain ⟨sought, makes, sound, requests, lookups⟩ := deedExtends gateway tree deed s
    obtain ⟨parts, same, each, sounds, rest, others⟩ := ih ((gateway.perform tree deed).run s).2
    refine ⟨(deed, sought) :: parts, by simp [same], List.forall_mem_cons.mpr ⟨makes, each⟩, ?_, ?_, ?_⟩
    · simp only [List.flatMap_cons, List.mem_append, or_imp, forall_and]
      exact ⟨sound, sounds⟩
    · rw [Interface.carryOut, rest, requests]
      simp
    · rw [Interface.carryOut, others, lookups]
      simp

theorem loadsAttempted (sought : List Sought) :
    (attemptsOf sought).filter GatewayRequest.isLoad = attemptsOf sought := by
  rw [List.filter_eq_self]
  intro request mem
  obtain ⟨t, -, rfl⟩ := List.mem_map.mp mem
  rfl

theorem deedLoads {deed : Deed} {sought : List Sought} (makes : deed.Makes sought) :
    (deed.requests sought).filter GatewayRequest.isLoad = attemptsOf sought := by
  cases deed with
  | documentation env =>
    cases makes
    rfl
  | _ => exact loadsAttempted sought

end Accounting

section Recording

variable {tree : FileTree} {start : Recorder}

def GatewayRequest.load? : GatewayRequest → Option (String × Environment)
  | .load name env => some (name, env)
  | .loadAll _ => none

def GatewayRequest.loadAll? : GatewayRequest → Option Environment
  | .load .. => none
  | .loadAll env => some env

structure Recorder.Asked (recorder start : Recorder) (requests : List GatewayRequest) : Prop where
  answers : recorder.answers = start.answers
  loads : recorder.loads = start.loads ++ requests.filterMap GatewayRequest.load?
  loadAlls : recorder.loadAlls = start.loadAlls ++ requests.filterMap GatewayRequest.loadAll?

theorem askedTrans {first second last : Recorder} {requests more : List GatewayRequest}
    (before : second.Asked first requests) (rest : last.Asked second more) : last.Asked first (requests ++ more) where
  answers := rest.answers.trans before.answers
  loads := by rw [rest.loads, before.loads, List.filterMap_append, List.append_assoc]
  loadAlls := by rw [rest.loadAlls, before.loadAlls, List.filterMap_append, List.append_assoc]

/- What the gateway of a host has recorded is what has been taken down beside it. -/
def Booked (start : Recorder) (s : Host × Account Unit) : Prop :=
  ∃ recorder, s.1.registry.gateway = .recording recorder ∧ recorder.Asked start s.2.requests

theorem recorderChanged {h : Host} {recorder : Recorder} (recording : h.registry.gateway = .recording recorder)
    (change : Recorder → Recorder) :
    ((modifyRecorder change).run h).2.registry.gateway = .recording (change recorder) := by
  obtain ⟨⟨tables, gateway⟩, journal⟩ := h
  cases recording
  rfl

theorem loadNoted {h : Host} {recorder : Recorder} (recording : h.registry.gateway = .recording recorder)
    (name : String) (env : Environment) :
    ∃ last, ((load tree name env).run h).2.registry.gateway = .recording last ∧
      last.Asked recorder [.load name env] := by
  refine ⟨{ recorder with loads := recorder.loads ++ [(name, env)] }, ?_, rfl, rfl, (List.append_nil _).symm⟩
  have noted := recorderChanged recording (fun r => { r with loads := r.loads ++ [(name, env)] })
  rw [load, runGet, recording]
  dsimp only [requestFrom]
  rw [runBind]
  generalize (modifyRecorder (fun r => { r with loads := r.loads ++ [(name, env)] })).run h = outcome at noted ⊢
  obtain ⟨failure | _, next⟩ := outcome
  · exact noted
  · dsimp only
    split
    · exact noted
    · exact noted
    · exact keepsBind (defineUnasking env _ _) (fun _ => keepsPure true) next noted

theorem loadAllNoted {h : Host} {recorder : Recorder} (recording : h.registry.gateway = .recording recorder)
    (env : Environment) :
    ∃ last, ((loadAll tree env).run h).2.registry.gateway = .recording last ∧
      last.Asked recorder [.loadAll env] := by
  refine ⟨{ recorder with loadAlls := recorder.loadAlls ++ [env] }, ?_, rfl, (List.append_nil _).symm, rfl⟩
  rw [loadAll, runGet, recording]
  exact recorderChanged recording (fun r => { r with loadAlls := r.loadAlls ++ [env] })

theorem askingBooked {request : GatewayRequest} {x : Hosted α}
    (notes : ∀ {h : Host} {recorder : Recorder}, h.registry.gateway = .recording recorder →
      ∃ last, (x.run h).2.registry.gateway = .recording last ∧ last.Asked recorder [request]) :
    Keeps (Booked start) (asking request (beside x)) := by
  rintro ⟨h, account⟩ ⟨recorder, recording, asked⟩
  obtain ⟨last, recorded, once⟩ := notes recording
  exact ⟨last, recorded, askedTrans asked once⟩

theorem besideBooked {x : Hosted α} (unasking : ∀ gateway, Keeps (fun h => h.registry.gateway = gateway) x) :
    Keeps (Booked start) (beside x) := by
  rintro s ⟨recorder, recording, asked⟩
  exact ⟨recorder, unasking _ s.1 recording, asked⟩

theorem seekBooked (name : String) (env : Environment) :
    Keeps (Booked start) ((Interface.own tree).seek name env) := by
  intro s booked
  change Booked start ((Interface.own tree).lookup name env |>.run s).2
  cases found : s.1.registry.get? name env with
  | some f =>
    rw [lookupHits found]
    exact booked
  | none =>
    have asked : Booked start ((asking (.load name env) ((Interface.own tree).load name env)).run s).2 :=
      askingBooked (fun recording => loadNoted recording name env) s booked
    rw [lookupMisses found]
    generalize (asking (.load name env) ((Interface.own tree).load name env)).run s = outcome at asked ⊢
    obtain ⟨failure | _, t⟩ := outcome <;> exact asked

theorem documentationBooked (env : Environment) :
    Keeps (Booked start) ((Interface.own tree).documentation env) := by
  refine keepsBind (askingBooked (fun recording => loadAllNoted recording env)) (fun _ s => ?_)
  rw [runGet]
  refine keepsBind (besideBooked (fun gateway => ?_)) (fun _ => keepsPure _) s
  cases (s.1.registry.listing env).mapM Function.section? <;> exact fun _ same => same

theorem bookedTracks (tree : FileTree) (start : Recorder) :
    Tracks (Interface.own tree).outside tree (fun _ x _ => Keeps (fun s => Booked start (s.1.host, s.2)) x) where
  besides unasking := by
    rintro s ⟨recorder, recording, asked⟩
    exact ⟨recorder, unasking _ s.1 recording, asked⟩
  gives := keepsPure
  throws := keepsThrow
  chains first rest := keepsBind first rest
  looks name env s booked := seekBooked name env (s.1.host, s.2) booked
  notes _ _ _ booked := booked

theorem deedBooked (tree : FileTree) (deed : Deed) :
    Keeps (Booked start) ((Interface.own tree).perform tree deed) := by
  intro s booked
  cases deed with
  | define ambient d =>
    exact besideBooked (fun gateway => keepsBind (defineUnasking ambient d gateway) (fun _ => keepsPure _)) s booked
  | reset =>
    obtain ⟨recorder, recording, asked⟩ := booked
    refine ⟨_, (gatewayLevels Level.all _).trans (congrArg Gateway.reset recording), ?_⟩
    exact ⟨asked.answers, asked.loads, asked.loadAlls⟩
  | lookup name env =>
    rw [Interface.perform, afterReturn]
    exact seekBooked name env s booked
  | documentation env =>
    rw [Interface.perform, afterReturn]
    exact documentationBooked env s booked
  | evaluate ambient scope bindings node =>
    rw [Interface.perform, afterReturn]
    exact @evaluationTracks _ _ ⟨tree, ambient⟩ _ (bookedTracks tree start) scope node
      (fun _ _ _ _ => keepsThrow _) (⟨s.1, bindings⟩, s.2) booked
  | call ambient scope bindings tuple values f =>
    rw [Interface.perform, afterReturn]
    exact @callTracks _ _ ⟨tree, ambient⟩ _ (bookedTracks tree start) scope tuple values f (⟨s.1, bindings⟩, s.2) booked
  | _ => exact booked

theorem deedsBooked (tree : FileTree) (deeds : List Deed) (s : Host × Account Unit) (booked : Booked start s) :
    Booked start ((Interface.own tree).carryOut tree s deeds) := by
  induction deeds generalizing s with
  | nil => exact booked
  | cons deed deeds ih => exact ih _ (deedBooked tree deed s booked)

end Recording

theorem partsLoads {parts : List (Deed × List Sought)} (makes : ∀ part ∈ parts, part.1.Makes part.2) :
    (parts.flatMap (fun part => part.1.requests part.2)).filter GatewayRequest.isLoad =
      attemptsOf (parts.flatMap Prod.snd) := by
  induction parts with
  | nil => rfl
  | cons part parts ih =>
    obtain ⟨here, rest⟩ := List.forall_mem_cons.mp makes
    rw [List.flatMap_cons, List.filter_append, deedLoads here, ih rest]
    simp [attemptsOf]

/- A gateway is asked for a name once for every lookup that misses, in their order, and for nothing else. Over the
gateway that a registry has, a run is that of the registry, and where that one keeps account itself, the run adds
exactly these requests to it. -/
theorem missesAttempted (gateway : Interface σ) (tree : FileTree) (host : Host) (inner : σ) (deeds : List Deed) :
    let account := (gateway.carryOut tree (host, ⟨inner, [], []⟩) deeds).2
    account.requests.filter GatewayRequest.isLoad = (account.lookups.filter Sought.missed).map Sought.request ∧
      (∀ t ∈ account.lookups, t.Sound) ∧
      (∃ parts : List (Deed × List Sought), parts.map Prod.fst = deeds ∧ (∀ part ∈ parts, part.1.Makes part.2) ∧
        account.requests = parts.flatMap (fun part => part.1.requests part.2) ∧
        account.lookups = parts.flatMap Prod.snd) ∧
      (∀ kept : Account Unit, ((Interface.own tree).carryOut tree (host, kept) deeds).1 =
        deeds.foldl (fun h deed => ((deed.act tree).run h).2) host) ∧
      ∀ start, host.registry.gateway = .recording start →
        ∃ last, (deeds.foldl (fun h deed => ((deed.act tree).run h).2) host).registry.gateway = .recording last ∧
          last.Asked start ((Interface.own tree).carryOut tree (host, ⟨(), [], []⟩) deeds).2.requests := by
  intro account
  obtain ⟨parts, same, makes, sound, requests, lookups⟩ := deedsExtend gateway tree deeds (host, ⟨inner, [], []⟩)
  rw [List.nil_append] at requests lookups
  have loads : account.requests.filter GatewayRequest.isLoad = attemptsOf account.lookups := by
    rw [requests, lookups]
    exact partsLoads makes
  refine ⟨loads, by rw [lookups]; exact sound, ⟨parts, same, makes, requests, lookups⟩,
    ownCarriesOut tree deeds host, fun start recording => ?_⟩
  have fresh : Booked start (host, ⟨(), [], []⟩) :=
    ⟨start, recording, rfl, (List.append_nil _).symm, (List.append_nil _).symm⟩
  have booked := deedsBooked tree deeds _ fresh
  rw [Booked, ownCarriesOut] at booked
  exact booked

end CallScript
