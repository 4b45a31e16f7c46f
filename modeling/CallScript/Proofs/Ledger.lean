import CallScript.Proofs.Tables
import CallScript.Proofs.Turns

/-! The registry as a ledger of definitions. Whatever is asked about a name in an environment is answered from
the last definition of the name there, or else from the last one in the root; a reset begins the ledger anew,
with the log functions. -/
namespace CallScript

abbrev Ledger := List (Environment × Function)

def Ledger.last? (ledger : Ledger) (name : String) (env : Environment) : Option Function :=
  ledger.findSome? (fun entry => if entry.1 = env ∧ entry.2.name = name then some entry.2 else none)

def Ledger.meaning? (ledger : Ledger) (name : String) (env : Environment) : Option Function :=
  (ledger.last? name env).or (ledger.last? name Environment.root)

def Ledger.fresh : Ledger :=
  Level.all.foldl (fun ledger level => (Environment.root, logFunction level) :: ledger) []

/- Only a definition that is not refused is entered. -/
def Ledger.after (ledger : Ledger) : Event → Ledger
  | .define ambient d =>
      match d.requested ambient with
      | .ok entry => entry :: ledger
      | .error _ => ledger
  | .reset => Ledger.fresh
  | .start .. | .finish .. | .tell _ | .request .. | .requestAll _ => ledger

def Ledger.of (events : List Event) : Ledger :=
  events.foldl Ledger.after Ledger.fresh

structure Host.Answers (h : Host) (tree : FileTree) (name : String) (env : Environment)
    (means : Option Function) : Prop where
  get : h.registry.get? name env = means
  named : ∀ f, means = some f → f.name = name
  lookup : ∀ f, means = some f → (lookup tree name env).run h = (.ok (some f), h)
  rvalue : h.registry.isRvalue name env = means.any (fun f => f.kind == .rvalue)
  arity : h.registry.arity name env = (means.map Function.arity).getD (-1)
  functions : (h.registry.functions env).get? name = means
  listing : (h.registry.listing env).filter (fun f => f.name == name) = means.toList

structure Registry.Holds (r : Registry) (ledger : Ledger) : Prop where
  keyed : ∀ env, Table.Keyed (r.table env)
  entries : ∀ env name, (r.table env).get? name = ledger.last? name env

section Holding

variable {r : Registry} {ledger : Ledger}

theorem insertHolds (holds : r.Holds ledger) (env : Environment) (f : Function) :
    (r.insert env f).Holds ((env, f) :: ledger) := by
  refine ⟨fun other => ?_, fun other name => ?_⟩
  · rw [insertTable]
    split
    · exact putKeyed (holds.keyed env) f
    · exact holds.keyed other
  · rw [tableInsert, Ledger.last?, List.findSome?_cons, holds.entries]
    by_cases here : other = env ∧ name = f.name
    · obtain ⟨rfl, rfl⟩ := here
      simp
    · have there : ¬(env = other ∧ f.name = name) := fun same => here ⟨same.1.symm, same.2.symm⟩
      simp only [if_neg here, if_neg there]
      rfl

theorem levelsHold (levels : List Level) (holds : r.Holds ledger) :
    (levels.foldl (fun r level => r.insert Environment.root (logFunction level)) r).Holds
      (levels.foldl (fun ledger level => (Environment.root, logFunction level) :: ledger) ledger) := by
  induction levels generalizing r ledger with
  | nil => exact holds
  | cons level levels ih => exact ih (insertHolds holds Environment.root (logFunction level))

theorem resetHolds (r : Registry) : r.reset.Holds Ledger.fresh :=
  levelsHold Level.all ⟨fun _ => emptyKeyed, fun _ _ => rfl⟩

theorem afterHolds {h : Host} (holds : h.registry.Holds ledger) (event : Event) :
    (h.after event).registry.Holds (ledger.after event) := by
  rw [afterRegistry]
  cases event with
  | define ambient d =>
    rw [Registry.after, Ledger.after]
    cases d.requested ambient with
    | error failure => exact holds
    | ok entry => exact insertHolds holds entry.1 entry.2
  | reset => exact resetHolds h.registry
  | start | tell => exact holds
  | finish | request | requestAll =>
    rw [Registry.after]
    split <;> exact ⟨holds.keyed, holds.entries⟩

theorem eventsHold {h : Host} (holds : h.registry.Holds ledger) (events : List Event) :
    (events.foldl Host.after h).registry.Holds (events.foldl Ledger.after ledger) := by
  induction events generalizing h ledger with
  | nil => exact holds
  | cons event events ih => exact ih (afterHolds holds event)

theorem freshHolds (gateway : Gateway) (events : List Event) :
    (events.foldl Host.after ⟨Registry.withGateway gateway, []⟩).registry.Holds (Ledger.of events) :=
  eventsHold (resetHolds _) events

theorem getHeld (holds : r.Holds ledger) (name : String) (env : Environment) :
    r.get? name env = ledger.meaning? name env := by
  rw [Registry.get?, Ledger.meaning?, ← holds.entries, ← holds.entries]
  cases (r.table env).get? name <;> rfl

theorem functionsHeld (holds : r.Holds ledger) (name : String) (env : Environment) :
    (r.functions env).get? name = r.get? name env := by
  rw [Registry.functions, Dictionary.get?_overlay _ (holds.keyed env).distinct, Registry.get?]
  cases (r.table env).get? name <;> rfl

theorem listingHeld (holds : r.Holds ledger) (name : String) (env : Environment) :
    (r.listing env).filter (fun f => f.name == name) = (r.get? name env).toList := by
  rw [← functionsHeld holds]
  exact listedOnce (overlayKeyed (holds.keyed Environment.root) (holds.keyed env)) name

theorem lastNamed {name env f} (last : ledger.last? name env = some f) : f.name = name := by
  obtain ⟨⟨e, g⟩, -, same⟩ := List.exists_of_findSome?_eq_some last
  by_cases here : e = env ∧ g.name = name
  · rw [if_pos here] at same
    exact Option.some.inj same ▸ here.2
  · rw [if_neg here] at same
    cases same

theorem meaningNamed {name env f} (means : ledger.meaning? name env = some f) : f.name = name := by
  rcases Option.or_eq_some_iff.mp means with here | ⟨-, root⟩
  · exact lastNamed here
  · exact lastNamed root

theorem ledgerAnswers {h : Host} (holds : h.registry.Holds ledger) (tree : FileTree) (name : String)
    (env : Environment) : h.Answers tree name env (ledger.meaning? name env) := by
  have get := getHeld holds name env
  refine ⟨get, fun f => meaningNamed, fun f means => ?_, ?_, ?_, ?_, ?_⟩
  · rw [CallScript.lookup, runGet, get, means]
    rfl
  · rw [Registry.isRvalue, get]
    cases ledger.meaning? name env <;> rfl
  · rw [Registry.arity, get]
    cases ledger.meaning? name env <;> rfl
  · rw [functionsHeld holds, get]
  · rw [listingHeld holds, get]

end Holding

/- After any run, every question is answered from the ledger of its events; each definition among them, made by
a file or asked for by itself, is entered with a warning where the ledger had a meaning for its name, or is
refused and changes nothing. -/
theorem answersFromLedger (tree : FileTree) (gateway : Gateway) (turns : List Turn) :
    let fresh : Host := ⟨Registry.withGateway gateway, []⟩
    let last := turns.foldl (Turn.perform tree) fresh
    ∃ events, Happens tree fresh turns events last ∧
      (∀ name env, last.Answers tree name env ((Ledger.of events).meaning? name env)) ∧
      ∀ earlier ambient d later, events = earlier ++ .define ambient d :: later →
        let before := earlier.foldl Host.after fresh
        (define ambient d).run before =
          match d.requested ambient with
          | .error failure => (.error failure, before)
          | .ok (env, f) =>
              (.ok f, ⟨before.registry.insert env f, before.journal ++
                if ((Ledger.of earlier).meaning? f.name env).isSome then [overwriting f.name] else []⟩) := by
  intro fresh last
  obtain ⟨events, happens⟩ := turnsHappen tree turns fresh
  refine ⟨events, happens, fun name env => ?_, fun earlier ambient d later _ => ?_⟩
  · have whole : last = events.foldl Host.after fresh := unfoldsFold (happensUnfolds happens)
    rw [whole]
    exact ledgerAnswers (freshHolds gateway events) tree name env
  · intro before
    rw [defineRun]
    cases d.requested ambient with
    | error failure => rfl
    | ok entry =>
      dsimp only [Host.enter]
      rw [getHeld (freshHolds gateway earlier)]

end CallScript
