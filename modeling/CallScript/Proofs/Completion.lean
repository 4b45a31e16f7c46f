import CallScript.Proofs.Turns

/-! How often the file of a name is executed to its end. A file is not begun once it has come to its end, until
the next reset; but while it is executed it may lead to itself, for it counts as loaded only afterwards. So a
file takes effect no more often than it was begun before it came to its end for the first time. -/
namespace CallScript

section Completion

variable {tree : FileTree} {h last : Host} {events : List Event}

theorem operationBetween {env : Environment} (unfolds : Unfolds (Event.Possible tree env) h events last) :
    ∀ event ∈ events, event ≠ .reset := by
  induction unfolds with
  | nil => exact fun _ mem => absurd mem List.not_mem_nil
  | cons able _ ih =>
    refine List.forall_mem_cons.mpr ⟨?_, ih⟩
    rintro rfl
    cases able

theorem happensBetween {turns : List Turn} (happens : Happens tree h turns events last)
    (between : ∀ turn ∈ turns, turn ≠ .reset) : ∀ event ∈ events, event ≠ .reset := by
  induction happens with
  | nil => exact fun _ mem => absurd mem List.not_mem_nil
  | define _ ih => exact List.forall_mem_cons.mpr ⟨by rintro ⟨⟩, ih (List.forall_mem_cons.mp between).2⟩
  | reset => exact absurd rfl (List.forall_mem_cons.mp between).1
  | read _ ih => exact ih (List.forall_mem_cons.mp between).2
  | operation _ unfolds _ ih =>
    exact List.forall_mem_append.mpr ⟨operationBetween unfolds, ih (List.forall_mem_cons.mp between).2⟩

theorem loadedAfter {event : Event} (able : event.Anywhere tree h) (other : event ≠ .reset) (env : Environment)
    (name : String) : (h.after event).registry.loaded.count (env, name) =
      h.registry.loaded.count (env, name) + if event.finishes env name then 1 else 0 := by
  rw [afterRegistry]
  cases event with
  | define ambient d =>
    rw [Registry.after]
    cases d.requested ambient <;> rfl
  | reset => exact absurd rfl other
  | start | tell => rfl
  | finish e n =>
    obtain ⟨_, _, ⟨⟩⟩ | ⟨⟨⟩⟩ | ⟨_, able⟩ := able
    cases able with
    | finish gateway =>
      simp only [Registry.after, gateway, Registry.loaded, markLoaded, List.count_cons]
      rfl
  | request | requestAll =>
    rw [Registry.after]
    split
    · rfl
    · rename_i gateway
      simp only [Registry.loaded, gateway]
      rfl

theorem loadedCount (unfolds : Unfolds (Event.Anywhere tree) h events last)
    (between : ∀ event ∈ events, event ≠ .reset) (env : Environment) (name : String) :
    last.registry.loaded.count (env, name) =
      h.registry.loaded.count (env, name) + events.countP (Event.finishes env name) := by
  induction unfolds with
  | nil => rfl
  | cons able _ ih =>
    obtain ⟨other, between⟩ := List.forall_mem_cons.mp between
    rw [ih between, loadedAfter able other, List.countP_cons, Nat.add_assoc, Nat.add_comm (ite _ _ _)]

theorem loadedNotBegun (unfolds : Unfolds (Event.Anywhere tree) h events last)
    (between : ∀ event ∈ events, event ≠ .reset) {env : Environment} {name : String}
    (loaded : (env, name) ∈ h.registry.loaded) : events.countP (Event.starts env name) = 0 := by
  induction unfolds with
  | nil => rfl
  | @cons k event _ _ able _ ih =>
    obtain ⟨other, between⟩ := List.forall_mem_cons.mp between
    have remains : (env, name) ∈ (k.after event).registry.loaded := by
      rw [← List.count_pos_iff] at loaded ⊢
      rw [loadedAfter able other]
      exact Nat.add_pos_left loaded _
    have unbegun : event.starts env name = false := by
      cases event with
      | start e n path =>
        obtain ⟨_, _, ⟨⟩⟩ | ⟨⟨⟩⟩ | ⟨_, able⟩ := able
        cases able with
        | start gateway due =>
          rw [Registry.loaded, gateway] at loaded
          refine Bool.eq_false_iff.mpr (fun same => due.fresh ?_)
          simp only [Event.starts, Bool.and_eq_true, beq_iff_eq] at same
          obtain ⟨rfl, rfl⟩ := same
          exact loaded
      | _ => rfl
    rw [List.countP_cons, ih between remains, unbegun]
    rfl

end Completion

/- Between two resets, the file of a name is executed to its end no more often than it was begun before it first
came to its end: a file that does not lead to itself takes effect at most once. -/
theorem completedAsBegun (tree : FileTree) (h : Host) (turns : List Turn)
    (between : ∀ turn ∈ turns, turn ≠ .reset) :
    let last := turns.foldl (Turn.perform tree) h
    ∃ events, Happens tree h turns events last ∧ ∀ env name,
      last.registry.loaded.count (env, name) =
        h.registry.loaded.count (env, name) + events.countP (Event.finishes env name) ∧
      ∀ earlier later, events = earlier ++ .finish env name :: later →
        events.countP (Event.finishes env name) ≤ earlier.countP (Event.starts env name) := by
  intro last
  obtain ⟨events, happens⟩ := turnsHappen tree turns h
  have unfolds := happensUnfolds happens
  have unreset := happensBetween happens between
  refine ⟨events, happens, fun env name => ⟨loadedCount unfolds unreset env name, ?_⟩⟩
  rintro earlier later rfl
  have balanced := happensBalanced happens env name
  obtain ⟨mid, _, rest⟩ := unfoldsSplit unfolds
  cases rest with
  | cons able rest =>
    obtain ⟨-, unreset⟩ := List.forall_mem_cons.mp (List.forall_mem_append.mp unreset).2
    have ended : (env, name) ∈ (mid.after (.finish env name)).registry.loaded := by
      rw [← List.count_pos_iff, loadedAfter able (by rintro ⟨⟩)]
      simp [Event.finishes]
    have unbegun := loadedNotBegun rest unreset ended
    rw [List.countP_append (p := Event.starts env name), List.countP_cons, unbegun] at balanced
    simpa [Event.starts] using balanced

/- The file of `a` leads to that of `b`, and this one back to it once it has learnt what `b` means from that of
`c`: the second execution of the first file does not lead on. -/
def circling : FileTree :=
  let file (lookups defined : List String) : Entry :=
    .definitions
      { lookups := lookups.map .text
        definitions := defined.map (fun name => { name := .text name, body := .arguments }) }
  [("lib/a.py", file ["b"] ["a"]), ("lib/b.py", file ["c", "a"] []), ("lib/c.py", file [] ["b", "c"])].foldl
    (fun tree entry => tree.write (Path.ofText entry.1) entry.2) FileTree.installed

def uncircled : Host := ⟨Registry.withGateway (.files { searchPath := [Path.ofText "lib"], bundled := false }), []⟩

def circle : List Turn := [.operation (.lookup "a" Environment.root)]

theorem circleLoads : (circle.foldl (Turn.perform circling) uncircled).registry.loaded.count (Environment.root, "a") =
    uncircled.registry.loaded.count (Environment.root, "a") + 2 := by
  decide +kernel

theorem circleBegun : (∀ turn ∈ circle, turn ≠ .reset) ∧
    ∃ events, Happens circling uncircled circle events (circle.foldl (Turn.perform circling) uncircled) ∧
      ∀ earlier later, events = earlier ++ .finish Environment.root "a" :: later →
        2 ≤ earlier.countP (Event.starts Environment.root "a") := by
  have between : ∀ turn ∈ circle, turn ≠ .reset := List.forall_mem_singleton.mpr (by rintro ⟨⟩)
  obtain ⟨events, happens, all⟩ := completedAsBegun circling uncircled circle between
  obtain ⟨count, begun⟩ := all Environment.root "a"
  have twice := Nat.add_left_cancel (circleLoads.symm.trans count)
  exact ⟨between, events, happens, fun earlier later split => twice ▸ begun earlier later split⟩

theorem completedTwice :
    ∃ events, Happens circling uncircled circle events (circle.foldl (Turn.perform circling) uncircled) ∧
      events.countP (Event.finishes Environment.root "a") = 2 := by
  obtain ⟨events, happens⟩ := turnsHappen circling circle uncircled
  have unreset := happensBetween happens (List.forall_mem_singleton.mpr (by rintro ⟨⟩))
  have count := loadedCount (happensUnfolds happens) unreset Environment.root "a"
  exact ⟨events, happens, Nat.add_left_cancel (count.symm.trans circleLoads)⟩

end CallScript
