import CallScript.Proofs.Completion
import CallScript.Proofs.Listings
import CallScript.Proofs.Repeated

/-! Documentation that is produced again. It loads the names of all files that it comes to, each once. If none of the
loads failed, all these names are idle afterwards, however the files led to one another; so producing it again
executes nothing and gives the same text. -/
namespace CallScript

def freshNames : List String → List String → List String
  | _, [] => []
  | seen, fileName :: rest =>
      let name := stem fileName
      if name.startsWith "_" || seen.contains name then freshNames seen rest
      else name :: freshNames (name :: seen) rest

def FileTree.names (tree : FileTree) (directories : List Path) : List String :=
  freshNames [] (directories.flatMap tree.filesIn)

inductive Loads (tree : FileTree) (env : Environment) : Host → List String → Host → Prop where
  | nil {h} : Loads tree env h [] h
  | cons {h t u b name rest} (first : (load tree name env).run h = (.ok b, t)) (others : Loads tree env t rest u) :
      Loads tree env h (name :: rest) u

/- Names that are loaded one after the other, until a file fails. It does not matter which: a file fails with those that
its own lookups led to. -/
inductive Interrupted (tree : FileTree) (env : Environment) : Host → List String → Prop where
  | here {h t failure name rest} (fails : (load tree name env).run h = (.error failure, t))
      (raised : failure.isLoading = true) : Interrupted tree env h (name :: rest)
  | later {h t b name rest} (first : (load tree name env).run h = (.ok b, t)) (others : Interrupted tree env t rest) :
      Interrupted tree env h (name :: rest)

section Outline

theorem outlineChildren (tree : FileTree) (place : Place) : tree.outline.children place = tree.children place := by
  rw [FileTree.children, FileTree.children, FileTree.outline, List.filterMap_map]
  rfl

theorem outlineFiles (tree : FileTree) (directory : Path) : tree.outline.filesIn directory = tree.filesIn directory := by
  rw [FileTree.filesIn, FileTree.filesIn, outlineResolves]
  rcases tree.resolve directory with ⟨place, _ | _ | _⟩ | _ | _ | _
  · exact congrArg (List.filter hasSuffix) (outlineChildren tree place)
  all_goals rfl

theorem outlineDirectory (tree : FileTree) (directory : Path) :
    tree.outline.isDirectory directory = tree.isDirectory directory := by
  rw [FileTree.isDirectory, FileTree.isDirectory, outlineResolves]
  rcases tree.resolve directory with ⟨_, _ | _ | _⟩ | _ | _ | _ <;> rfl

theorem outlineNames {tree other : FileTree} (same : other.outline = tree.outline) (directories : List Path) :
    other.names directories = tree.names directories := by
  have files : other.filesIn = tree.filesIn := by
    funext directory
    rw [← outlineFiles, same, outlineFiles]
  rw [FileTree.names, FileTree.names, files]

end Outline

section Loading

variable {tree other : FileTree} {env : Environment} {h t u : Host} {names : List String}

theorem loadsAppend {before after : List String} :
    Loads tree env h (before ++ after) u ↔ ∃ t, Loads tree env h before t ∧ Loads tree env t after u := by
  induction before generalizing h with
  | nil =>
    refine ⟨fun loads => ⟨h, .nil, loads⟩, fun ⟨t, idle, loads⟩ => ?_⟩
    cases idle
    exact loads
  | cons name rest ih =>
    refine ⟨fun loads => ?_, fun ⟨t, former, latter⟩ => ?_⟩
    · cases loads with
      | cons first others =>
        obtain ⟨t, former, latter⟩ := ih.mp others
        exact ⟨t, .cons first former, latter⟩
    · cases former with
      | cons first others => exact .cons first (ih.mpr ⟨t, others, latter⟩)

theorem interruptedBefore {before : List String} (after : List String) (raised : Interrupted tree env h before) :
    Interrupted tree env h (before ++ after) := by
  induction raised with
  | here fails raised => exact .here fails raised
  | later first _ ih => exact .later first ih

theorem interruptedAfter {before after : List String} (loads : Loads tree env h before t)
    (raised : Interrupted tree env t after) : Interrupted tree env h (before ++ after) := by
  induction loads with
  | nil => exact raised
  | cons first _ ih => exact .later first (ih raised)

theorem freshAppend (seen before after : List String) : freshNames seen (before ++ after) =
    freshNames seen before ++ freshNames ((freshNames seen before).reverse ++ seen) after := by
  induction before generalizing seen with
  | nil => rfl
  | cons fileName rest ih =>
    rw [List.cons_append, freshNames, freshNames]
    split
    · exact ih seen
    · rw [ih, List.reverse_cons, List.append_assoc]
      rfl

theorem namesLoad (directory : Path) (seen files : List String) (loads : Loads tree env h (freshNames seen files) t) :
    (loadNames tree env directory seen files).run h = (.ok ((freshNames seen files).reverse ++ seen), t) := by
  induction files generalizing seen h with
  | nil =>
    cases loads
    rfl
  | cons fileName rest ih =>
    rw [freshNames] at loads ⊢
    rw [loadNames]
    by_cases passed : ((stem fileName).startsWith "_" || seen.contains (stem fileName)) = true
    · rw [if_pos passed] at loads ⊢
      rw [if_pos passed]
      exact ih seen loads
    · rw [if_neg passed] at loads ⊢
      rw [if_neg passed]
      cases loads with
      | cons first others =>
        rw [List.reverse_cons, List.append_assoc]
        rw [runBind, runTry, runBind, first]
        exact ih _ others

theorem namesLoaded {directory : Path} {seen files met : List String}
    (ran : (loadNames tree env directory seen files).run h = (.ok met, t))
    (unraised : ¬ Interrupted tree env h (freshNames seen files)) :
    Loads tree env h (freshNames seen files) t := by
  induction files generalizing seen h with
  | nil =>
    cases ran
    exact .nil
  | cons fileName rest ih =>
    rw [freshNames] at unraised ⊢
    rw [loadNames] at ran
    by_cases passed : ((stem fileName).startsWith "_" || seen.contains (stem fileName)) = true
    · rw [if_pos passed] at unraised ran ⊢
      exact ih ran unraised
    · rw [if_neg passed] at unraised ran ⊢
      rw [runBind, runTry, runBind] at ran
      rcases loaded : (load tree (stem fileName) env).run h with ⟨failure | b, u⟩
      · rw [loaded] at ran
        dsimp only at ran
        cases raised : failure.isLoading with
        | true => exact absurd (.here loaded raised) unraised
        | false =>
          rw [raised] at ran
          cases ran
      · rw [loaded] at ran
        exact .cons loaded (ih ran (fun raises => unraised (.later loaded raises)))

theorem directoriesLoad (directories : List Path) (seen : List String)
    (short : ∀ directory ∈ directories, ∃ b, tree.isDirectory directory = .ok b)
    (loads : Loads tree env h (freshNames seen (directories.flatMap tree.filesIn)) t) :
    (loadDirectories tree env seen directories).run h = (.ok (), t) := by
  induction directories generalizing seen h with
  | nil =>
    cases loads
    rfl
  | cons directory rest ih =>
    obtain ⟨⟨b, here⟩, others⟩ := List.forall_mem_cons.mp short
    rw [List.flatMap_cons, freshAppend] at loads
    obtain ⟨u, former, latter⟩ := loadsAppend.mp loads
    rw [directoriesStep here, runBind, namesLoad directory seen _ former]
    exact ih _ others latter

theorem directoriesLoaded {directories : List Path} {seen : List String}
    (ran : (loadDirectories tree env seen directories).run h = (.ok (), t))
    (unraised : ¬ Interrupted tree env h (freshNames seen (directories.flatMap tree.filesIn))) :
    (∀ directory ∈ directories, ∃ b, tree.isDirectory directory = .ok b) ∧
      Loads tree env h (freshNames seen (directories.flatMap tree.filesIn)) t := by
  induction directories generalizing seen h with
  | nil =>
    cases ran
    exact ⟨List.forall_mem_nil _, .nil⟩
  | cons directory rest ih =>
    cases short : tree.isDirectory directory with
    | error f =>
      rw [loadDirectories, short] at ran
      cases ran
    | ok b =>
      rw [directoriesStep short] at ran
      rw [List.flatMap_cons, freshAppend] at unraised ⊢
      obtain ⟨met, u, first, ran⟩ := endedBind ran
      have former := namesLoaded first (fun raises => unraised (interruptedBefore _ raises))
      cases first.symm.trans (namesLoad directory seen _ former)
      obtain ⟨others, latter⟩ := ih ran (fun raises => unraised (interruptedAfter former raises))
      exact ⟨List.forall_mem_cons.mpr ⟨⟨b, short⟩, others⟩, loadsAppend.mpr ⟨u, former, latter⟩⟩

theorem loadsUnraised (loads : Loads tree env h names t) : ¬ Interrupted tree env h names := by
  intro raises
  induction loads with
  | nil => cases raises
  | cons first _ ih =>
    cases raises with
    | here fails _ => cases first.symm.trans fails
    | later before others =>
      cases first.symm.trans before
      exact ih others

theorem idleStays {r s : Registry} {name : String} (idle : r.Idle tree env name) (grows : r.Grows env s) :
    s.Idle tree env name := by
  obtain ⟨loader, gateway, idle⟩ := idle
  obtain ⟨_, more, before, after⟩ := grows.searches
  cases gateway.symm.trans before
  exact ⟨_, after, idleGrows idle⟩

theorem loadsComplete (files : h.registry.Files) (loads : Loads tree env h names t) :
    h.registry.Completes tree env t.registry := by
  induction loads with
  | nil => exact completesSelf files
  | @cons h t u b name rest first others ih =>
    have completes := completingRan (loadCompleting tree env name) files first
    exact completesTrans completes (ih (growsFiles completes.toGrows))

theorem loadsSettle (files : h.registry.Files) (loads : Loads tree env h names t) :
    ∀ name ∈ names, t.registry.Idle tree env name := by
  induction loads with
  | nil => exact fun _ mem => nomatch mem
  | @cons h t u b name rest first others ih =>
    have files' := growsFiles (completingRan (loadCompleting tree env name) files first).toGrows
    have idle := loadSettles files first
    exact List.forall_mem_cons.mpr ⟨idleStays idle (loadsComplete files' others).toGrows, ih files'⟩

theorem idleLoads (same : other.outline = tree.outline) (idle : ∀ name ∈ names, h.registry.Idle tree env name) :
    ∃ told, Loads other env h names ⟨h.registry, h.journal ++ told⟩ ∧
      ∀ entry ∈ told, ∃ name, entry = missingRecord env name := by
  induction names generalizing h with
  | nil => exact ⟨[], by rw [List.append_nil]; exact .nil, fun _ mem => nomatch mem⟩
  | cons name rest ih =>
    obtain ⟨here, others⟩ := List.forall_mem_cons.mp idle
    obtain ⟨told, ran, missing⟩ := idleLoad here same
    obtain ⟨more, loads, missing'⟩ := @ih ⟨h.registry, h.journal ++ told⟩ others
    refine ⟨told ++ more, .cons ran (by rw [← List.append_assoc]; exact loads), fun entry mem => ?_⟩
    rcases List.mem_append.mp mem with mem | mem
    · exact ⟨name, missing entry mem⟩
    · exact missing' entry mem

theorem documentationRan (loader : Loader) {text : String} (gateway : h.registry.gateway = .files loader) :
    (documentation tree env).run h = (.ok text, t) ↔
      (loadDirectories tree env [] (loader.searchDirectories env)).run h = (.ok (), t) ∧
        ∃ sections, (t.registry.listing env).mapM Function.section? = .ok sections ∧ String.join sections = text := by
  have all : (loadAll tree env).run h = (loadDirectories tree env [] (loader.searchDirectories env)).run h := by
    rw [loadAll, runGet, gateway]
  rw [documentationReports, all]
  rcases (loadDirectories tree env [] (loader.searchDirectories env)).run h with ⟨failure | _, u⟩
  · constructor
    · intro ran
      cases ran
    · rintro ⟨ran, -⟩
      cases ran
  · constructor
    · intro ran
      obtain ⟨reported, rfl⟩ := Prod.mk.inj ran
      exact ⟨rfl, reportTells.mp reported⟩
    · rintro ⟨ran, described⟩
      cases ran
      exact Prod.ext (reportTells.mpr described) rfl

theorem listingDescribed {r : Registry}
    (each : ∀ entry ∈ (r.functions env).entries, entry.2.section?.isOk = true) :
    ∃ sections, (r.listing env).mapM Function.section? = .ok sections := by
  have all : ∀ f ∈ r.listing env, f.section?.isOk = true := by
    intro f mem
    obtain ⟨entry, inside, rfl⟩ := List.mem_map.mp mem
    exact each entry (List.mem_mergeSort.mp inside)
  generalize r.listing env = fs at all
  induction fs with
  | nil => exact ⟨[], rfl⟩
  | cons f fs ih =>
    obtain ⟨first, others⟩ := List.forall_mem_cons.mp all
    obtain ⟨sections, rest⟩ := ih others
    cases here : f.section? with
    | error failure =>
      rw [here] at first
      cases first
    | ok s =>
      refine ⟨s :: sections, ?_⟩
      rw [List.mapM_cons, here, rest]
      rfl

end Loading

/- Documentation is produced once and for all. If it was produced and no file failed meanwhile, it is produced again with
the same text; this executes no file, changes neither tables nor what counts as loaded, and at most tells of names
that have no file. What the files hold by then does not matter. -/
theorem documentationStands (tree : FileTree) (env : Environment) (h after : Host) (loader : Loader) (text : String)
    (gateway : h.registry.gateway = .files loader) (ran : (documentation tree env).run h = (.ok text, after))
    (unraised : ¬ Interrupted tree env h (tree.names (loader.searchDirectories env))) :
    ∀ other : FileTree, other.outline = tree.outline →
      ∃ told, (documentation other env).run after = (.ok text, ⟨after.registry, after.journal ++ told⟩) ∧
        ∀ entry ∈ told, ∃ name, entry = missingRecord env name := by
  intro other same
  obtain ⟨all, described⟩ := (documentationRan loader gateway).mp ran
  obtain ⟨short, loads⟩ := directoriesLoaded all unraised
  have files : h.registry.Files := ⟨loader, gateway⟩
  obtain ⟨_, more, before, gateway'⟩ := (loadsComplete files loads).searches
  cases gateway.symm.trans before
  obtain ⟨told, again, missing⟩ := idleLoads same (loadsSettle files loads)
  refine ⟨told, (documentationRan _ gateway').mpr ⟨?_, described⟩, missing⟩
  refine directoriesLoad _ [] (fun directory mem => ?_) ?_
  · rw [← outlineDirectory, same, outlineDirectory]
    exact short directory mem
  · have names := outlineNames same (loader.searchDirectories env)
    rw [FileTree.names, FileTree.names] at names
    change Loads other env after (freshNames [] ((loader.searchDirectories env).flatMap other.filesIn)) _
    rw [names]
    exact again

def circleLoader : Loader := { searchPath := [Path.ofText "lib"], bundled := false }

def circled : Host := ((load circling "a" Environment.root).run uncircled).2

theorem circleDirectories :
    circleLoader.searchDirectories Environment.root = [⟨.workingDirectory, ["lib"]⟩] := by
  decide +kernel

theorem circleNames : circling.names (circleLoader.searchDirectories Environment.root) = ["a", "b", "c"] := by
  have resolved : circling.resolve ⟨.workingDirectory, ["lib"]⟩ = .found ["/work", "lib"] .directory := rfl
  have children : circling.children ["/work", "lib"] = ["a.py", "b.py", "c.py"] :=
    List.mergeSort_of_pairwise (l := ["a.py", "b.py", "c.py"]) (by decide)
  have files : circling.filesIn ⟨.workingDirectory, ["lib"]⟩ = ["a.py", "b.py", "c.py"] := by
    rw [FileTree.filesIn, resolved]
    dsimp only
    rw [children]
    decide
  rw [circleDirectories, FileTree.names, List.flatMap_singleton, files]
  decide +kernel

theorem circleLoaded : Loads circling Environment.root uncircled ["a", "b", "c"] circled := by
  have first : (load circling "a" Environment.root).run uncircled = (.ok true, circled) := Prod.ext rfl rfl
  have second : (load circling "b" Environment.root).run circled = (.ok false, circled) := Prod.ext rfl rfl
  have third : (load circling "c" Environment.root).run circled = (.ok false, circled) := Prod.ext rfl rfl
  exact .cons first (.cons second (.cons third .nil))

theorem circleDocumented : ∃ text, (documentation circling Environment.root).run uncircled = (.ok text, circled) := by
  have each : ∀ entry ∈ (circled.registry.functions Environment.root).entries, entry.2.section?.isOk = true := by
    decide +kernel
  obtain ⟨sections, described⟩ := listingDescribed each
  refine ⟨_, (documentationRan circleLoader rfl).mpr ⟨?_, sections, described, rfl⟩⟩
  refine directoriesLoad _ [] (fun directory mem => ?_) ?_
  · rw [circleDirectories, List.mem_singleton] at mem
    exact ⟨true, mem ▸ rfl⟩
  · have names := circleNames
    rw [FileTree.names] at names
    rw [names]
    exact circleLoaded

theorem circleStands :
    uncircled.registry.gateway = .files circleLoader ∧
      ¬ Interrupted circling Environment.root uncircled
        (circling.names (circleLoader.searchDirectories Environment.root)) ∧
      ∃ text, (documentation circling Environment.root).run uncircled = (.ok text, circled) ∧
        ∃ told, (documentation circling Environment.root).run circled =
            (.ok text, ⟨circled.registry, circled.journal ++ told⟩) ∧
          ∀ entry ∈ told, ∃ name, entry = missingRecord Environment.root name := by
  obtain ⟨text, ran⟩ := circleDocumented
  have unraised : ¬ Interrupted circling Environment.root uncircled
      (circling.names (circleLoader.searchDirectories Environment.root)) := by
    rw [circleNames]
    exact loadsUnraised circleLoaded
  exact ⟨rfl, unraised, text, ran,
    documentationStands circling Environment.root uncircled circled circleLoader text rfl ran unraised circling rfl⟩

end CallScript
