import CallScript.Proofs.Lines
import CallScript.Proofs.Spelling
import CallScript.Proofs.Supply

/-! The functions that come with the language are supplied as lookups need them: the file that is found for
a name registers the function of this name. -/
namespace CallScript

open Syntax (Identifier isNameStart isNamePart nameTaken identifierWithout)

theorem loadableShape {name : String} (loadable : isLoadable name = true) :
    ∃ cs rest, name.toList = cs ++ rest ∧ Identifier cs ∧ (rest = [] ∨ rest = ['\n']) := by
  simp only [isLoadable, Bool.and_eq_true, Bool.or_eq_true, decide_eq_true_eq, List.isEmpty_iff,
    beq_iff_eq] at loadable
  obtain ⟨some, ends⟩ := loadable
  obtain ⟨cs, rest, split, width, identifier⟩ := nameTaken some
  rw [width, split, List.drop_left] at ends
  exact ⟨cs, rest, split, identifier, ends⟩

theorem plainPath {s : String} (without : '/' ∉ s.toList) (kept : (s != "" && s != ".") = true) :
    Path.ofText s = ⟨.workingDirectory, [s]⟩ := by
  unfold Path.ofText
  rw [Text.piecesSingle without, List.map_singleton, String.ofList_toList, List.filter_cons, if_pos kept, List.filter_nil]
  dsimp only
  split
  · rename_i same
    simp [same] at without
  · rename_i same
    simp [same] at without
  · rename_i same
    simp [same] at without
  · rfl

theorem fileNameLong (name : String) : 3 ≤ (name ++ definitionSuffix).toList.length := by
  rw [String.toList_append, List.length_append]
  exact Nat.le_add_left 3 _

theorem fileNameUp (name : String) : name ++ definitionSuffix ≠ ".." := by
  have long := fileNameLong name
  intro same
  rw [same] at long
  revert long
  decide

theorem definitionPath {name : String} (loadable : isLoadable name = true) (directory : Path) :
    directory.definitionOf name = ⟨directory.anchor, directory.parts ++ [name ++ definitionSuffix]⟩ := by
  obtain ⟨cs, rest, whole, identifier, ends⟩ := loadableShape loadable
  have chars : (name ++ definitionSuffix).toList = cs ++ rest ++ ['.', 'p', 'y'] := by
    rw [String.toList_append, whole]
    rfl
  have without : '/' ∉ (name ++ definitionSuffix).toList := by
    rw [chars]
    have inside := identifierWithout identifier (c := '/') rfl rfl
    rcases ends with rfl | rfl <;> simp [inside]
  have long := fileNameLong name
  have kept : (name ++ definitionSuffix != "" && name ++ definitionSuffix != ".") = true := by
    rw [Bool.and_eq_true, bne_iff_ne, bne_iff_ne]
    constructor <;>
    · intro same
      rw [same] at long
      revert long
      decide
  rw [Path.definitionOf, Path.child, plainPath without kept]
  rfl

theorem walkOne {tree : FileTree} {place found : Place} {part : String} {entry : Entry} (other : part ≠ "..")
    (walked : tree.walk place [part] = .found found entry) :
    found = place ++ [part] ∧ tree.entry? found = some entry := by
  rw [FileTree.walk] at walked
  split at walked
  · cases walked
  · rw [if_neg (by simpa using other)] at walked
    split at walked
    · cases walked
    · rw [FileTree.walk] at walked
      split at walked
      · cases walked
        exact ⟨rfl, by assumption⟩
      · cases walked
  · cases walked

theorem entryListed {tree : FileTree} {place : Place} {entry : Entry} (some : tree.entry? place = some entry)
    (below : place ≠ []) : (place, entry) ∈ tree.entries := by
  rw [FileTree.entry?, if_neg (by simpa using below)] at some
  obtain ⟨⟨there, same⟩, found, rfl⟩ := Option.map_eq_some_iff.mp some
  have here : there = place := by simpa using List.find?_some found
  rw [← here]
  exact List.mem_of_find?_eq_some found

theorem bundledRegisters : ∀ d ∈ bundledFunctions, d.Registers (definitionName d) ∧
    d.body ≠ .defineConstant ∧ Level.ofName? (definitionName d) = none := by
  have rvalue : ∀ name arity doc body, (bundledFunction name arity .rvalue doc body).Registers name :=
    fun _ arity _ _ => ⟨rfl, ⟨.rvalue, rfl⟩, ⟨arity, rfl⟩, rfl⟩
  have others : ∀ d ∈ bundledFunctions, d.body ≠ .defineConstant ∧ Level.ofName? (definitionName d) = none := by
    simp only [bundledFunctions, List.forall_mem_cons]
    refine ⟨⟨?_, rfl⟩, ⟨?_, rfl⟩, ⟨?_, rfl⟩, ⟨?_, rfl⟩, ⟨?_, rfl⟩, ⟨?_, rfl⟩, ⟨?_, rfl⟩, by simp⟩ <;> rintro ⟨⟩
  refine fun d mem => ⟨?_, others d mem⟩
  revert d
  simp only [bundledFunctions, List.forall_mem_cons]
  exact ⟨rvalue _ _ _ _, ⟨rfl, ⟨.statement, rfl⟩, ⟨-1, rfl⟩, rfl⟩, rvalue _ _ _ _, rvalue _ _ _ _, rvalue _ _ _ _,
    rvalue _ _ _ _, rvalue _ _ _ _, by simp⟩

def bundledLoader : Loader := {}

theorem fileNamed {front place : Place} {name other : String}
    (same : front ++ [name ++ definitionSuffix] = place ++ [other ++ definitionSuffix]) : name = other := by
  have last := congrArg List.getLast? same
  rw [List.getLast?_concat, List.getLast?_concat] at last
  exact String.append_left_inj _ |>.mp (Option.some.inj last)

theorem installedListed {place : Place} {name : String} {entry : Entry}
    (mem : (place ++ [name ++ definitionSuffix], entry) ∈ FileTree.installed.entries) :
    entry = .directory ∨ ∃ d ∈ bundledFunctions, definitionName d = name ∧
      entry.executed = .define d Program.finish.requiring := by
  rcases List.mem_append.mp mem with directory | bundled
  · simp only [List.mem_cons, Prod.mk.injEq, List.not_mem_nil, or_false] at directory
    rcases directory with ⟨-, same⟩ | ⟨-, same⟩ | ⟨-, same⟩ <;> exact .inl same
  · obtain ⟨d, listed, same⟩ := List.mem_map.mp bundled
    obtain ⟨there, rfl⟩ := Prod.mk.inj same
    exact .inr ⟨d, listed, @fileNamed ["/package", "functions"] _ _ _ there, rfl⟩

end CallScript
