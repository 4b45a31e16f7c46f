import CallScript.Proofs.Ledger
import Mathlib.Data.List.Forall2
import Mathlib.Data.List.Sort

/-! Listings and reports of functions. An environment shows each name that has a meaning there once, in the order
of the names by code points; what a row or a section says of a function is its name, its arity, its kind and its
documentation. So two registries whose tables agree about these show the same, in whatever order their functions
were defined. -/
namespace CallScript

structure Row where
  name : String
  arity : Int
  kind : FunctionKind
  doc : Value

def Function.row (f : Function) : Row :=
  ⟨f.name, f.arity, f.kind, f.doc⟩

theorem rowSection {f g : Function} (same : f.row = g.row) : f.section? = g.section? := by
  obtain ⟨name, arity, kind, doc, body⟩ := f
  obtain ⟨name', arity', kind', doc', body'⟩ := g
  cases same
  rfl

theorem rowsSections {fs gs : List Function} (same : fs.map Function.row = gs.map Function.row) :
    fs.mapM Function.section? = gs.mapM Function.section? := by
  induction fs generalizing gs with
  | nil => cases gs with
    | nil => rfl
    | cons => cases same
  | cons f fs ih =>
    cases gs with
    | nil => cases same
    | cons g gs =>
      obtain ⟨first, others⟩ := List.cons.inj same
      rw [List.mapM_cons, List.mapM_cons, rowSection first, ih others]

def Increasing (fs : List Function) : Prop := fs.Pairwise (fun f g => f.name < g.name)

theorem sortedIncreasing {t : Table} (keyed : Table.Keyed t) : Increasing (t.sorted.map Prod.snd) := by
  have ordered : t.sorted.Pairwise (fun a b => a.1 ≤ b.1) := by
    have sorted : t.sorted.Pairwise (fun a b => decide (a.1 ≤ b.1) = true) := List.pairwise_mergeSort
      (fun a b c first second => by simpa using String.le_trans (by simpa using first) (by simpa using second))
      (fun a b => by simpa using String.le_total a.1 b.1) t.entries
    exact sorted.imp (fun le => of_decide_eq_true le)
  have apart : t.sorted.Pairwise (fun a b => a.1 ≠ b.1) :=
    List.pairwise_map.mp ((List.mergeSort_perm t.entries _).map Prod.fst |>.nodup_iff.mpr keyed.distinct)
  refine List.pairwise_map.mpr ((ordered.and apart).imp_of_mem (fun {a b} mem mem' both => ?_))
  rw [keyed.named a (List.mem_mergeSort.mp mem), keyed.named b (List.mem_mergeSort.mp mem')]
  exact String.not_le.mp (fun ge => both.2 (String.le_antisymm both.1 ge))

structure Registry.Lists (r : Registry) (env : Environment) (fs : List Function) : Prop where
  increasing : Increasing fs
  means : ∀ f, f ∈ fs ↔ r.get? f.name env = some f
  named : ∀ name f, r.get? name env = some f → f.name = name

theorem listingLists {r : Registry} {ledger : Ledger} (holds : r.Holds ledger) (env : Environment) :
    r.Lists env (r.listing env) where
  increasing := sortedIncreasing (overlayKeyed (holds.keyed Environment.root) (holds.keyed env))
  means f := by
    have listed := listingHeld holds f.name env
    constructor
    · intro mem
      have found : f ∈ (r.listing env).filter (fun g => g.name == f.name) :=
        List.mem_filter.mpr ⟨mem, beq_self_eq_true _⟩
      rwa [listed, Option.mem_toList] at found
    · intro means
      have found : f ∈ (r.listing env).filter (fun g => g.name == f.name) := by
        rw [listed, means]
        simp
      exact (List.mem_filter.mp found).1
  named name f means := meaningNamed (getHeld holds name env ▸ means)

theorem listsAgree {r s : Registry} {env : Environment} {fs gs : List Function} (first : r.Lists env fs)
    (second : s.Lists env gs)
    (agree : ∀ name, (r.get? name env).map Function.row = (s.get? name env).map Function.row) :
    fs.map Function.row = gs.map Function.row := by
  have shown {t : Registry} {hs : List Function} (lists : t.Lists env hs) (x : Row) :
      x ∈ hs.map Function.row ↔ (t.get? x.name env).map Function.row = some x := by
    rw [List.mem_map, Option.map_eq_some_iff]
    constructor
    · rintro ⟨f, mem, rfl⟩
      exact ⟨f, (lists.means f).mp mem, rfl⟩
    · rintro ⟨f, means, same⟩
      refine ⟨f, (lists.means f).mpr ?_, same⟩
      rw [lists.named _ f means, means]
  have ordered {t : Registry} {hs : List Function} (lists : t.Lists env hs) :
      (hs.map Function.row).Pairwise (fun x y => x.name < y.name) := List.pairwise_map.mpr lists.increasing
  have : Std.Irrefl (fun x y : Row => x.name < y.name) := ⟨fun x => String.lt_irrefl x.name⟩
  have : Std.Antisymm (fun x y : Row => x.name < y.name) :=
    ⟨fun _ _ less more => absurd more (String.lt_asymm less)⟩
  exact (ordered first).eq_of_mem_iff (ordered second) (fun x => by rw [shown first, shown second, agree])

theorem tablesAgree {r s : Registry} {env : Environment}
    (agree : ∀ own, own = Environment.root ∨ own = env → ∀ name,
      ((r.table own).get? name).map Function.row = ((s.table own).get? name).map Function.row) (name : String) :
    (r.get? name env).map Function.row = (s.get? name env).map Function.row := by
  have upper := agree env (.inr rfl) name
  have lower := agree Environment.root (.inl rfl) name
  rw [Registry.get?, Registry.get?]
  cases here : (r.table env).get? name with
  | none =>
    rw [here] at upper
    rw [Option.map_eq_none_iff.mp upper.symm]
    exact lower
  | some f =>
    rw [here] at upper
    obtain ⟨g, there, same⟩ := Option.map_eq_some_iff.mp upper.symm
    rw [there]
    exact congrArg some same.symm

theorem turnsHold (tree : FileTree) (gateway : Gateway) (turns : List Turn) :
    ∃ ledger, (turns.foldl (Turn.perform tree) ⟨Registry.withGateway gateway, []⟩).registry.Holds ledger := by
  obtain ⟨events, happens⟩ := turnsHappen tree turns ⟨Registry.withGateway gateway, []⟩
  rw [unfoldsFold (happensUnfolds happens)]
  exact ⟨Ledger.of events, freshHolds gateway events⟩

def Registry.report (r : Registry) (env : Environment) : Except Failure String :=
  match (r.listing env).mapM Function.section? with
  | .ok sections => .ok (String.join sections)
  | .error f => .error (.fault f)

theorem reportTells {r : Registry} {env : Environment} {text : String} : r.report env = .ok text ↔
    ∃ sections, (r.listing env).mapM Function.section? = .ok sections ∧ String.join sections = text := by
  rw [Registry.report]
  cases (r.listing env).mapM Function.section? <;> simp

theorem documentationReports (tree : FileTree) (env : Environment) (h : Host) :
    (documentation tree env).run h =
      match (loadAll tree env).run h with
      | (.error failure, u) => (.error failure, u)
      | (.ok (), u) => (u.registry.report env, u) := by
  rw [documentation, runBind]
  rcases (loadAll tree env).run h with ⟨failure | _, u⟩
  · rfl
  · dsimp only
    rw [runGet, Registry.report]
    cases (u.registry.listing env).mapM Function.section? <;> rfl

theorem sectionsInOrder {fs : List Function} {sections : List String}
    (described : fs.mapM Function.section? = .ok sections) :
    List.Forall₂ (fun f s => f.section? = .ok s) fs sections := by
  induction fs generalizing sections with
  | nil =>
    cases described
    exact .nil
  | cons f fs ih =>
    rw [List.mapM_cons] at described
    cases first : f.section? with
    | error fault =>
      rw [first] at described
      cases described
    | ok s =>
      cases rest : fs.mapM Function.section? with
      | error fault =>
        rw [first, rest] at described
        cases described
      | ok others =>
        rw [first, rest] at described
        cases described
        exact .cons first (ih rest)

def Host.Exhausted (tree : FileTree) (env : Environment) (h : Host) : Prop :=
  ∃ u, (loadAll tree env).run h = (.ok (), u) ∧ ∀ name, u.registry.get? name env = h.registry.get? name env

/- A listing is in the strict order of the names and has each name of the environment once, and a report has its
sections so; what both say is determined by what the tables of the root and of the environment show of their
functions, whatever the order was that these were defined in, and whatever they were defined as before. -/
theorem listingsAgree (tree tree' : FileTree) (gateway gateway' : Gateway) (turns turns' : List Turn)
    (env : Environment) :
    let h := turns.foldl (Turn.perform tree) ⟨Registry.withGateway gateway, []⟩
    let h' := turns'.foldl (Turn.perform tree') ⟨Registry.withGateway gateway', []⟩
    h.registry.Lists env (h.registry.listing env) ∧
      (∀ text u, (documentation tree env).run h = (.ok text, u) →
        u.registry.Lists env (u.registry.listing env) ∧
          ∃ sections, List.Forall₂ (fun f s => f.section? = .ok s) (u.registry.listing env) sections ∧
            String.join sections = text) ∧
      ((∀ own, own = Environment.root ∨ own = env → ∀ name,
          ((h.registry.table own).get? name).map Function.row = ((h'.registry.table own).get? name).map Function.row) →
        (h.registry.listing env).map Function.row = (h'.registry.listing env).map Function.row ∧
          (h.Exhausted tree env → h'.Exhausted tree' env →
            ((documentation tree env).run h).1 = ((documentation tree' env).run h').1)) := by
  intro h h'
  have loaded (tree : FileTree) (gateway : Gateway) (turns : List Turn) {u : Host} {result : Except Failure Unit}
      (all : (loadAll tree env).run (turns.foldl (Turn.perform tree) ⟨Registry.withGateway gateway, []⟩) = (result, u)) :
      u.registry.Lists env (u.registry.listing env) := by
    obtain ⟨ledger, holds⟩ := turnsHold tree gateway (turns ++ [.operation (.loadAll env)])
    rw [List.foldl_append, List.foldl_cons, List.foldl_nil, Turn.perform, Operation.perform, all] at holds
    exact listingLists holds env
  obtain ⟨ledger, holds⟩ := turnsHold tree gateway turns
  obtain ⟨ledger', holds'⟩ := turnsHold tree' gateway' turns'
  refine ⟨listingLists holds env, fun text u ran => ?_, fun agree => ⟨?_, ?_⟩⟩
  · rw [documentationReports] at ran
    split at ran
    · cases ran
    · rename_i all
      obtain ⟨reported, rfl⟩ := Prod.mk.inj ran
      refine ⟨loaded tree gateway turns all, ?_⟩
      obtain ⟨sections, described, same⟩ := reportTells.mp reported
      exact ⟨sections, sectionsInOrder described, same⟩
  · exact listsAgree (listingLists holds env) (listingLists holds' env) (tablesAgree agree)
  · rintro ⟨u, all, same⟩ ⟨u', all', same'⟩
    have agreed : (u.registry.listing env).map Function.row = (u'.registry.listing env).map Function.row :=
      listsAgree (loaded tree gateway turns all) (loaded tree' gateway' turns' all')
        (fun name => by rw [same, same', tablesAgree agree])
    rw [documentationReports, documentationReports, all, all']
    simp only [Registry.report, rowsSections agreed]

def halving (body : Body) (doc : String) : Definition :=
  { name := .text "halve", body, kind := .text "rvalue", doc := .text doc }

def tallying : Definition := { name := .text "tally", body := .count }

def halvingFirst : List Turn :=
  [.define Environment.root (halving .first "Halves."), .define Environment.root tallying]

def tallyingFirst : List Turn :=
  [.define Environment.root tallying, .define Environment.root (halving .first "Halves it."),
    .define Environment.root (halving .count "Halves.")]

def unrecorded : Gateway := .recording ⟨Dictionary.empty, [], [], none⟩

def halved (body : Body) (doc : String) : Function := ⟨"halve", -1, .rvalue, .text doc, body⟩

def tallied : Function := ⟨"tally", -1, .statement, .null, .count⟩

def halvedFirst : Registry :=
  ((Registry.withGateway unrecorded).insert Environment.root (halved .first "Halves.")).insert Environment.root tallied

def talliedFirst : Registry :=
  (((Registry.withGateway unrecorded).insert Environment.root tallied).insert Environment.root
    (halved .first "Halves it.")).insert Environment.root (halved .count "Halves.")

theorem halvesAgree (own : Environment) (name : String) :
    ((halvedFirst.table own).get? name).map Function.row = ((talliedFirst.table own).get? name).map Function.row := by
  have tallies : tallied.name = "tally" := rfl
  have halves (body : Body) (doc : String) : (halved body doc).name = "halve" := rfl
  rw [halvedFirst, talliedFirst]
  simp only [tableInsert, tallies, halves]
  by_cases root : own = Environment.root
  · subst root
    by_cases tally : name = "tally"
    · subst tally
      rfl
    · by_cases halve : name = "halve"
      · subst halve
        rfl
      · simp only [true_and]
        rw [if_neg tally, if_neg halve, if_neg halve, if_neg halve, if_neg tally]
  · simp only [root, false_and, if_false]

theorem orderImmaterial :
    let h := halvingFirst.foldl (Turn.perform ⟨[]⟩) ⟨Registry.withGateway unrecorded, []⟩
    let h' := tallyingFirst.foldl (Turn.perform ⟨[]⟩) ⟨Registry.withGateway unrecorded, []⟩
    (∀ own, own = Environment.root ∨ own = ⟨"production"⟩ → ∀ name,
        ((h.registry.table own).get? name).map Function.row = ((h'.registry.table own).get? name).map Function.row) ∧
      (h.registry.listing ⟨"production"⟩).map Function.row = (h'.registry.listing ⟨"production"⟩).map Function.row ∧
      h.Exhausted ⟨[]⟩ ⟨"production"⟩ ∧ h'.Exhausted ⟨[]⟩ ⟨"production"⟩ ∧
      ((documentation ⟨[]⟩ ⟨"production"⟩).run h).1 = ((documentation ⟨[]⟩ ⟨"production"⟩).run h').1 := by
  intro h h'
  have first : h.registry = halvedFirst := rfl
  have second : h'.registry = talliedFirst := rfl
  have agree : ∀ own, own = Environment.root ∨ own = ⟨"production"⟩ → ∀ name,
      ((h.registry.table own).get? name).map Function.row = ((h'.registry.table own).get? name).map Function.row := by
    rw [first, second]
    exact fun own _ => halvesAgree own
  obtain ⟨listed, reported⟩ :=
    (listingsAgree ⟨[]⟩ ⟨[]⟩ unrecorded unrecorded halvingFirst tallyingFirst ⟨"production"⟩).2.2 agree
  have exhausted : h.Exhausted ⟨[]⟩ ⟨"production"⟩ := ⟨_, rfl, fun _ => rfl⟩
  have exhausted' : h'.Exhausted ⟨[]⟩ ⟨"production"⟩ := ⟨_, rfl, fun _ => rfl⟩
  exact ⟨agree, listed, exhausted, exhausted', reported exhausted exhausted'⟩

end CallScript
