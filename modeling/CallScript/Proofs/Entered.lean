import CallScript.Proofs.Events

/-! Functions that events enter. Nothing that an event can come to takes a meaning back: a name keeps the one that it
has or is given another one, and a name that comes to mean something was entered. -/
namespace CallScript

variable {tree : FileTree} {env : Environment}

def Event.entry? : Event → Option (Environment × Function)
  | .define ambient d => (d.requested ambient).toOption
  | _ => none

section Entering

variable {name : String} {other : Environment} {h last : Host} {events : List Event}

theorem afterMeans {event : Event} (able : event.Possible tree env h) (name : String) (other : Environment) :
    (h.after event).registry.get? name other = h.registry.get? name other ∨
      ∃ target f, event.entry? = some (target, f) ∧ (h.after event).registry.get? name other = some f ∧
        f.name = name ∧ (target = other ∨ target = Environment.root) := by
  rw [afterRegistry]
  cases event with
  | define ambient d =>
    rw [Registry.after, Event.entry?]
    cases d.requested ambient with
    | error failure => exact .inl rfl
    | ok entry =>
      rcases getInserted h.registry entry.1 other entry.2 name with same | ⟨entered, named, reached⟩
      · exact .inl same
      · exact .inr ⟨entry.1, entry.2, rfl, entered, named, reached.imp_left Eq.symm⟩
  | reset => cases able
  | start | tell => exact .inl rfl
  | finish | request | requestAll =>
    rw [Registry.after]
    cases h.registry.gateway <;> exact .inl rfl

theorem knownStays (unfolds : Unfolds (Event.Possible tree env) h events last)
    (known : (h.registry.get? name other).isSome = true) : (last.registry.get? name other).isSome = true := by
  induction unfolds with
  | nil => exact known
  | cons able _ ih =>
    refine ih ?_
    rcases afterMeans able name other with same | ⟨_, f, -, entered, -⟩
    · rw [same]
      exact known
    · rw [entered]
      rfl

theorem enteredStays (unfolds : Unfolds (Event.Possible tree env) h events last) {event : Event}
    (mem : event ∈ events) {target : Environment} {f : Function} (entry : event.entry? = some (target, f)) :
    (last.registry.get? f.name target).isSome = true := by
  induction unfolds with
  | nil => cases mem
  | @cons h first _ _ able rest ih =>
    rcases List.mem_cons.mp mem with rfl | later
    · refine knownStays rest ?_
      cases event with
      | define ambient d =>
        rw [afterRegistry, Registry.after]
        rw [Event.entry?] at entry
        cases requested : d.requested ambient with
        | error failure =>
          rw [requested] at entry
          cases entry
        | ok wanted =>
          rw [requested] at entry
          cases entry
          dsimp only
          rw [Registry.get?, tableInsert, if_pos ⟨rfl, rfl⟩]
          rfl
      | _ => cases entry
    · exact ih later

theorem meaningEntered (unfolds : Unfolds (Event.Possible tree env) h events last)
    (unknown : h.registry.get? name other = none) {f : Function} (means : last.registry.get? name other = some f) :
    ∃ event ∈ events, ∃ target, event.entry? = some (target, f) ∧ f.name = name ∧
      (target = other ∨ target = Environment.root) := by
  have earlier : h.registry.get? name other = some f ∨ ∃ event ∈ events, ∃ target,
      event.entry? = some (target, f) ∧ f.name = name ∧ (target = other ∨ target = Environment.root) := by
    clear unknown
    induction unfolds with
    | nil => exact .inl means
    | cons able _ ih =>
      rcases ih means with before | ⟨event, mem, entered⟩
      · rcases afterMeans able name other with same | ⟨target, g, entry, entered, reached⟩
        · exact .inl (same.symm.trans before)
        · cases before.symm.trans entered
          exact .inr ⟨_, List.mem_cons_self, target, entry, reached⟩
      · exact .inr ⟨event, List.mem_cons_of_mem _ mem, entered⟩
  rcases earlier with before | entered
  · rw [unknown] at before
    cases before
  · exact entered

end Entering

end CallScript
