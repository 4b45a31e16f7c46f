import CallScript.Pattern.Matching
import CallScript.Pattern.Reading

/-! Texts split where a pattern matches. Matches are sought from left to right; one that takes no
characters counts too, but not twice at one place, and not right after another match ended there
without having moved on. What the groups of the pattern matched stands between the pieces. -/
namespace CallScript.Pattern

structure Match where
  first : Nat
  last : Nat
  groups : Array (Option (Nat × Nat))

def Compiled.matchAt (c : Compiled) (text : Array Char) (moving : Bool) (place : Nat) : Option Match :=
  let start : State := ⟨place, Array.replicate (c.groups + 1) none⟩
  match c.node.take text c.options start (fun s => if moving && s.place == place then none else some s) with
  | some s => some ⟨place, s.place, s.groups⟩
  | none => none

/-- The first match from a place on; only a match right there has to be `moving`. -/
def Compiled.search (c : Compiled) (text : Array Char) : Nat → Bool → Nat → Option Match
  | 0, _, _ => none
  | steps + 1, moving, place =>
      match c.matchAt text moving place with
      | some m => some m
      | none => c.search text steps false (place + 1)

def slice (text : Array Char) (first last : Nat) : String :=
  String.ofList (text.extract first last).toList

def groupTexts (text : Array Char) (m : Match) : List (Option String) :=
  (m.groups.toList.drop 1).map (fun group => group.map (fun (first, last) => slice text first last))

def Compiled.pieces (c : Compiled) (text : Array Char) : Nat → Bool → Nat → List (Option String)
  | 0, _, place => [some (slice text place text.size)]
  | steps + 1, moving, place =>
      match c.search text (text.size + 1 - place) moving place with
      | none => [some (slice text place text.size)]
      | some m =>
          some (slice text place m.first) :: groupTexts text m ++
            c.pieces text steps (m.first == m.last) m.last

def split (pattern text : String) : Except Fault (List (Option String)) := do
  let c ← compile pattern
  let chars := text.toList.toArray
  return c.pieces chars (2 * chars.size + 2) false 0

end CallScript.Pattern
